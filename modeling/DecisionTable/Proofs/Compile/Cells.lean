import DecisionTable.Proofs.Table.Layout
import DecisionTable.Proofs.Tree.NodeIds
import DecisionTable.Proofs.Tree.Path
import DecisionTable.Tree.Analysis
import Mathlib.Data.Finset.Dedup
import Mathlib.Data.Finset.Prod

/-!
# Outcome cells and the nodes that follow branches

The nodes that follow the branches of a compiled tree stand for the outcome cells of the rows that
the first row leads to: a branch for a reference, and a leaf for an outcome. So cells are counted by
counting nodes, and each leaf that a walk meets stands for one cell.
-/

namespace DecisionTable

open Relation

open Classical in
/-- The outcome cells of the reachable rows, where a property holds of what they refer to. -/
noncomputable def Table.outcomeCells (t : Table) (p : Option String → Prop) : Finset (Nat × Side) :=
  {c ∈ Finset.range t.rows.length ×ˢ {.onTrue, .onFalse} |
    t.Reachable c.1 ∧ p (Reference.target? (t.cell c.1 c.2.heading))}

theorem Table.Indexed.idxOf_eq {t : Table} {i : Nat} {id : String} (ht : t.Indexed)
    (hid : t.nodeIds[i]? = some id) : t.nodeIds.idxOf id = i :=
  ht.row_unique (List.getElem?_idxOf (List.mem_of_getElem? hid)) hid

namespace Tree

/-- The outcome cells for which the nodes after the branches of a tree stand, in their order. -/
def cells (tree : Tree) (t : Table) : List (Nat × Side) :=
  tree.branches.flatMap fun b => [.onTrue, .onFalse].map fun side => (t.nodeIds.idxOf b.id, side)

variable {tree : Tree} {t : Table} {store : Store} {b : Branch} {i : Nat} {side : Side}
  {p : Option String → Prop}

theorem allChildren_eq (tree : Tree) :
    tree.allChildren = tree.branches.flatMap fun b => [.onTrue, .onFalse].map b.child := rfl

theorem mem_allChildren {n : Node} :
    n ∈ tree.allChildren ↔ ∃ b ∈ tree.branches, ∃ side, b.child side = n := by
  rw [allChildren_eq, List.mem_flatMap]
  constructor
  · rintro ⟨b, hb, hn⟩
    obtain ⟨side, _, hside⟩ := List.mem_map.mp hn
    exact ⟨b, hb, side, hside⟩
  · rintro ⟨b, hb, side, rfl⟩
    refine ⟨b, hb, List.mem_map_of_mem ?_⟩
    cases side <;> decide

theorem length_allChildren (tree : Tree) : tree.allChildren.length = 2 * tree.branches.length := by
  unfold allChildren
  induction tree.branches with
  | nil => rfl
  | cons b rest ih =>
    rw [List.flatMap_cons, List.length_append, List.length_cons, ih]
    simp only [Branch.children, List.length_cons, List.length_nil]
    omega

/-! ### Rows of branches -/

theorem Renders.exists_row (h : tree.Renders t store) (hb : b ∈ tree.branches) :
    ∃ i, t.Reachable i ∧ t.nodeIds[i]? = some b.id ∧ tree.RendersRow t store i b := by
  obtain ⟨i, hi, hid⟩ := (h.ids b.id).mp (List.mem_map_of_mem hb)
  obtain ⟨d, hd, hrow⟩ := h.rows i hi
  have hdid : d.id = b.id := hrow.id.trans (Table.nodeIds_getElem?_eq_some.mp hid).2
  have hsame : d = b :=
    List.inj_on_of_nodup_map h.distinct (List.mem_of_find?_eq_some hd) hb hdid
  exact ⟨i, hi, hid, hsame ▸ hrow⟩

/-- The node after a branch is the branch that its cell refers to, or else a leaf. -/
theorem RendersRow.branchId?_child (h : tree.RendersRow t store i b) (side : Side) :
    (b.child side).branchId? = Reference.target? (t.cell i side.heading) := by
  cases htarget : Reference.target? (t.cell i side.heading) with
  | none =>
    rw [h.outcome side htarget]
    rfl
  | some id =>
    obtain ⟨d, hd, hchild⟩ := h.reference side id htarget
    have hfound := List.find?_some hd
    have hid : d.id = id := eq_of_beq hfound
    rw [hchild, ← hid]
    rfl

theorem mem_cells (h : tree.Renders t store) (ht : t.Indexed) :
    (i, side) ∈ tree.cells t ↔ t.Reachable i := by
  unfold cells
  rw [List.mem_flatMap]
  constructor
  · rintro ⟨b, hb, hcell⟩
    obtain ⟨side', _, heq⟩ := List.mem_map.mp hcell
    obtain ⟨j, hj, hid, _⟩ := h.exists_row hb
    rw [ht.idxOf_eq hid] at heq
    rw [← (Prod.mk.inj heq).1]
    exact hj
  · intro hi
    obtain ⟨id, hid⟩ := ht.exists_id hi
    obtain ⟨b, hb, rfl⟩ := List.mem_map.mp ((h.ids id).mpr ⟨i, hi, hid⟩)
    refine ⟨b, hb, ?_⟩
    rw [ht.idxOf_eq hid]
    refine List.mem_map_of_mem ?_
    cases side <;> decide

theorem nodup_cells (h : tree.Renders t store) (ht : t.Indexed) : (tree.cells t).Nodup := by
  have hrows : tree.branches.Pairwise
      fun b d => t.nodeIds.idxOf b.id ≠ t.nodeIds.idxOf d.id := by
    refine (List.pairwise_map.mp h.distinct).imp_of_mem ?_
    intro b d hb hd hne heq
    obtain ⟨i, _, hi, _⟩ := h.exists_row hb
    obtain ⟨j, _, hj, _⟩ := h.exists_row hd
    rw [ht.idxOf_eq hi, ht.idxOf_eq hj] at heq
    rw [heq] at hi
    exact hne (Option.some.inj (hi.symm.trans hj))
  unfold cells
  rw [List.nodup_flatMap]
  refine ⟨?_, ?_⟩
  · intro b _
    simp
  · refine hrows.imp ?_
    intro b d hne c hc hc'
    obtain ⟨_, _, rfl⟩ := List.mem_map.mp hc
    obtain ⟨_, _, heq⟩ := List.mem_map.mp hc'
    exact hne (Prod.mk.inj heq).1.symm

theorem map_target?_cells (h : tree.Renders t store) (ht : t.Indexed) :
    (tree.cells t).map (fun c => Reference.target? (t.cell c.1 c.2.heading))
      = tree.allChildren.map Node.branchId? := by
  rw [allChildren_eq, cells, List.map_flatMap, List.map_flatMap]
  refine List.flatMap_congr ?_
  intro b hb
  obtain ⟨i, _, hid, hrow⟩ := h.exists_row hb
  simp only [List.map_map, ht.idxOf_eq hid]
  refine List.map_congr_left ?_
  intro side _
  exact (hrow.branchId?_child side).symm

theorem card_outcomeCells (h : tree.Renders t store) (ht : t.Indexed) [DecidablePred p] :
    (t.outcomeCells p).card = (tree.allChildren.map Node.branchId?).countP (fun o => p o) := by
  have hcells : t.outcomeCells p
      = ((tree.cells t).filter
        fun c => p (Reference.target? (t.cell c.1 c.2.heading))).toFinset := by
    ext ⟨i, side⟩
    have hlt : t.Reachable i → i < t.rows.length := fun hi => hi.lt_length ht.nonempty
    have hside : side ∈ ({.onTrue, .onFalse} : Finset Side) := by cases side <;> decide
    simp only [Table.outcomeCells, Finset.mem_filter, Finset.mem_product, Finset.mem_range,
      List.mem_toFinset, List.mem_filter, mem_cells h ht, decide_eq_true_eq, hside, and_true]
    constructor
    · exact And.right
    · exact fun hc => ⟨hlt hc.1, hc⟩
  rw [hcells, List.toFinset_card_of_nodup ((nodup_cells h ht).filter _),
    ← map_target?_cells h ht, List.countP_map, List.countP_eq_length_filter]
  rfl

theorem card_outcomeCells_add (h : tree.Renders t store) (ht : t.Indexed) :
    (t.outcomeCells (· = none)).card + (t.outcomeCells (· ≠ none)).card
      = 2 * tree.branches.length := by
  have hall := List.length_eq_countP_add_countP (fun o => decide (o = none))
    (l := tree.allChildren.map Node.branchId?)
  rw [List.length_map, length_allChildren] at hall
  rw [card_outcomeCells h ht, card_outcomeCells h ht, hall]
  simp

end Tree

/-! ### Leaves -/

namespace Node

theorem length_leafIds (l : List Node) :
    (leafIds l).length = (l.map branchId?).countP (· = none) := by
  induction l with
  | nil => rfl
  | cons n rest ih =>
    cases n with
    | leaf id l =>
      rw [leafIds_leaf, List.length_cons, ih]
      simp [branchId?]
    | branch id d t f =>
      have hskip : leafIds (branch id d t f :: rest) = leafIds rest := rfl
      rw [hskip, ih]
      simp [branchId?]

theorem mem_leafIds {l : List Node} {id : String} :
    id ∈ leafIds l ↔ ∃ literal, leaf id literal ∈ l := by
  unfold leafIds
  rw [List.mem_map]
  constructor
  · rintro ⟨n, hn, rfl⟩
    obtain ⟨hmem, hleaf⟩ := List.mem_filter.mp hn
    cases n with
    | leaf id literal => exact ⟨literal, hmem⟩
    | branch id d t f => cases hleaf
  · rintro ⟨literal, hmem⟩
    exact ⟨leaf id literal, List.mem_filter.mpr ⟨hmem, rfl⟩, rfl⟩

/-- Branches with different ids lead to leaves with different ids. -/
theorem waiting_children {l : List Branch} (hnames : ∀ b ∈ l, b.NamesLeaves)
    (hids : (l.map (·.id)).Nodup) :
    Waiting (l.map (·.id)) (leafIds (l.flatMap Branch.children)) := by
  induction l with
  | nil => exact ⟨List.nodup_nil, nofun⟩
  | cons b rest ih =>
    obtain ⟨hfresh, hrest⟩ := List.nodup_cons.mp hids
    have hlater := ih (fun d hd => hnames d (List.mem_cons_of_mem _ hd)) hrest
    exact Waiting.push (hnames b (List.mem_cons_self ..)) hfresh hlater

end Node

namespace Tree

variable {tree : Tree} {t : Table} {store : Store} {baseUri : String}

/-- What a walk meets after the root are the nodes that follow the branches. -/
theorem mem_nodes_iff_child (h : (compile t store baseUri).tree = .ok tree) {n : Node} :
    n ∈ tree.nodes ↔ n = tree.root ∨ n ∈ tree.allChildren := by
  rw [mem_nodes_iff_leads h, mem_allChildren]
  constructor
  · intro hn
    rcases hn.cases_tail with heq | ⟨m, hm, hleads⟩
    · exact Or.inl heq
    · obtain ⟨b, side⟩ := hleads
      have hb : b ∈ tree.branches := (mem_branches_iff h).mpr ((mem_nodes_iff_leads h).mpr hm)
      exact Or.inr ⟨b, hb, side, rfl⟩
  · intro hn
    rcases hn with rfl | ⟨b, hb, side, rfl⟩
    · exact .refl
    · exact .tail ((mem_nodes_iff_leads h).mp ((mem_branches_iff h).mp hb)) (.mk b side)

/-- A walk meets the leaves that follow the branches, each of them once. -/
theorem leafIds_perm (h : (compile t store baseUri).tree = .ok tree) :
    (Node.leafIds tree.nodes).Perm (Node.leafIds tree.allChildren) := by
  obtain ⟨_, compiled, root, type, hcomplete, htree, _⟩ := compile_eq_ok h
  have hroot : tree.root = root.node := by rw [htree]
  have hnames : ∀ b ∈ tree.branches, b.NamesLeaves := by
    intro b hb
    rw [htree, List.mem_reverse] at hb
    exact hcomplete.namesLeaves hb
  have hwalked : (Node.leafIds tree.nodes).Nodup := by
    rw [leafIds_nodes]
    exact (hcomplete.leaves hroot).1
  have hlisted : (Node.leafIds tree.allChildren).Nodup :=
    (Node.waiting_children hnames (renders_of_compile h).1.distinct).nodup
  refine (List.perm_ext_iff_of_nodup hwalked hlisted).mpr ?_
  intro id
  rw [Node.mem_leafIds, Node.mem_leafIds]
  refine exists_congr fun literal => ?_
  rw [mem_nodes_iff_child h, hroot]
  constructor
  · intro hleaf
    exact hleaf.resolve_left nofun
  · exact Or.inr

theorem length_leaves (h : (compile t store baseUri).tree = .ok tree) :
    tree.leaves.length = (t.outcomeCells (· = none)).card := by
  have hids := (leafIds_perm h).length_eq
  rw [leafIds_nodes, List.length_map] at hids
  rw [hids, Node.length_leafIds, card_outcomeCells (renders_of_compile h).1 (compile_eq_ok h).1]

end Tree

end DecisionTable
