import DecisionTable.Example
import DecisionTable.Proofs.Compile.Outcome

/-!
# The shape of compiled trees

A compiled tree has one branch for each row that the first row leads to. Each branch says what its
row says, a reference leads to the one branch of the row that it names, and a branch is listed
behind those that it leads to. All leaves have the datatype of the tree, and there is a leaf.
-/

namespace DecisionTable

open Relation

namespace Tree

/-- A branch of a tree says what a row of a table says. -/
structure RendersRow (tree : Tree) (t : Table) (store : Store) (row : Nat) (b : Branch) : Prop where
  id : b.id = t.cell row nodeHeading
  tested : store.attribute? (t.cell row attributeHeading) = some b.decision.tested
  op : Operator.parse? (t.cell row operatorHeading) = some b.decision.op
  operand : b.decision.operand = t.cell row operandHeading
  /-- A reference leads to the branch that the tree has for its id. -/
  reference : ∀ (side : Side) (id : String),
    Reference.target? (t.cell row side.heading) = some id →
    ∃ d, tree.branch? id = some d ∧ b.child side = d.node
  /-- Any other cell is an outcome. -/
  outcome : ∀ side : Side, Reference.target? (t.cell row side.heading) = none →
    b.child side
      = .leaf (leafId b.id side) (Literal.parse (t.cell row side.heading) tree.baseUri)

/-- A tree says what a table says of the rows that the first row leads to. -/
structure Renders (tree : Tree) (t : Table) (store : Store) : Prop where
  /-- The branches have the ids of the reachable rows. -/
  ids : ∀ id, id ∈ tree.branches.map (·.id) ↔ ∃ i, t.Reachable i ∧ t.nodeIds[i]? = some id
  /-- No two branches have one id. -/
  distinct : (tree.branches.map (·.id)).Nodup
  /-- Each reachable row has its branch. -/
  rows : ∀ i, t.Reachable i →
    ∃ b, tree.branch? (t.cell i nodeHeading) = some b ∧ tree.RendersRow t store i b
  /-- The root is the branch of the first row, and it is the last one. -/
  root : ∃ b, tree.branch? (t.cell 0 nodeHeading) = some b ∧ tree.root = b.node ∧
    tree.branches.getLast? = some b
  /-- A branch stands behind those that it leads to. -/
  order : ∀ before b after, tree.branches = before ++ b :: after →
    ∀ (side : Side) (d : Branch), b.child side = d.node → d ∈ before
  /-- The leaves of the branches have the datatype of the tree. -/
  types : ∀ b ∈ tree.branches, ∀ (side : Side) (id : String) (l : TypedLiteral),
    b.child side = .leaf id l → l.type = tree.inferredType
  /-- So have the leaves that a walk meets. -/
  leaves : ∀ id l, (id, l) ∈ tree.leaves → l.type = tree.inferredType
  /-- A walk meets a leaf. -/
  nonempty : tree.leaves ≠ []

end Tree

namespace Source

variable {src : Source} {store : Store} {type : LiteralType} {settled : Option LiteralType}
  {compiled : List Branch} {root b : Branch} {tree : Tree}

/-! ### Branches by themselves -/

theorem Stands.within {known : List Branch} {row : Nat} {side : Side} {n : Node}
    (h : src.Stands known settled row side n) : n.Within known := by
  cases h with
  | leaf l _ _ => exact .leaf _ l
  | branch d _ hd => exact .branch d hd

/-- Each branch leads to branches before it only. -/
theorem BuiltUp.before {before after : List Branch}
    (h : src.BuiltUp store settled (after ++ b :: before)) :
    ∃ row, src.Built store before settled row b := by
  induction after with
  | nil =>
    cases h with
    | cons hb _ => exact ⟨_, hb⟩
  | cons d after ih =>
    cases h with
    | cons _ hrest => exact ih hrest

theorem BuiltUp.exists_leaf (h : src.BuiltUp store settled compiled) (hne : compiled ≠ []) :
    ∃ b ∈ compiled, ∃ id l, b.child .onTrue = .leaf id l := by
  obtain ⟨after, b, rfl⟩ : ∃ after b, compiled = after ++ [b] :=
    ⟨_, _, (List.dropLast_append_getLast hne).symm⟩
  obtain ⟨row, hrow⟩ := h.before
  refine ⟨b, by simp, ?_⟩
  have hchild := (hrow.child .onTrue).within
  generalize b.child .onTrue = n at hchild
  cases hchild with
  | leaf id l => exact ⟨id, l, rfl⟩
  | branch d hd => exact (List.not_mem_nil hd).elim

namespace Complete

theorem family (h : src.Complete store type compiled root) : Branch.Family compiled := by
  refine ⟨fun b hb d hd hid => h.unique hb hd hid, ?_⟩
  intro b hb side
  obtain ⟨row, hrow⟩ := h.builtUp.built hb
  exact (hrow.child side).within

theorem type_of_leaf (h : src.Complete store type compiled root) (hb : b ∈ compiled)
    {side : Side} {id : String} {l : TypedLiteral} (hleaf : b.child side = .leaf id l) :
    l.type = type := by
  obtain ⟨row, hrow⟩ := h.builtUp.built hb
  have hchild := hrow.child side
  rw [hleaf] at hchild
  cases hchild with
  | leaf _ _ hsettled => exact (Option.some.inj hsettled).symm

/-! ### The tree of a complete compilation -/

theorem branch?_eq_some (h : src.Complete store type compiled root)
    (htree : tree.branches = compiled.reverse) {id : String} :
    tree.branch? id = some b ↔ b ∈ compiled ∧ b.id = id := by
  unfold Tree.branch?
  rw [htree]
  constructor
  · intro hfound
    have hid := List.find?_some hfound
    exact ⟨List.mem_reverse.mp (List.mem_of_find?_eq_some hfound), eq_of_beq hid⟩
  · rintro ⟨hb, rfl⟩
    cases hfound : compiled.reverse.find? (·.id == b.id) with
    | none =>
      have hnot := List.find?_eq_none.mp hfound b (List.mem_reverse.mpr hb)
      exact absurd (beq_self_eq_true b.id) hnot
    | some d =>
      have hid := List.find?_some hfound
      have hd := List.mem_reverse.mp (List.mem_of_find?_eq_some hfound)
      exact congrArg some (h.unique hd hb (eq_of_beq hid))

theorem root_within (h : src.Complete store type compiled root) (hroot : tree.root = root.node) :
    tree.root.Within compiled := by
  rw [hroot]
  exact .branch root h.root_mem

theorem mem_nodes (h : src.Complete store type compiled root) (ht : src.table.Indexed)
    (hroot : tree.root = root.node) (hb : b ∈ compiled) : b.node ∈ tree.nodes := by
  have hwithin := h.root_within hroot
  obtain ⟨i, hi, hid⟩ := h.reachable hb
  -- along the references that lead from the first row to the row of the branch
  induction hi generalizing b with
  | refl =>
    have hsame : b = root := h.unique hb h.root_mem (Option.some.inj (hid.symm.trans h.first))
    rw [hsame, ← hroot]
    exact (Tree.nodes_meet h.family hwithin).1
  | tail hj hrefers ih =>
    obtain ⟨d, hd, hdid⟩ := h.exists_branch ht hj
    obtain ⟨side, id, htarget, hid'⟩ := hrefers
    obtain ⟨e, he, heid, hchild⟩ := h.exists_target ht hd hdid (sequel_eq_node.mpr htarget)
    have hsame : b = e :=
      h.unique hb he ((Option.some.inj (hid.symm.trans hid')).trans heid.symm)
    rw [hsame, ← hchild]
    exact (Tree.nodes_meet h.family hwithin).2 d (ih hd hdid) side

/-- A walk meets the branches that were compiled and no others. -/
theorem mem_visitedBranches (h : src.Complete store type compiled root) (ht : src.table.Indexed)
    (hroot : tree.root = root.node) : b ∈ tree.visitedBranches ↔ b ∈ compiled := by
  rw [Tree.mem_visitedBranches]
  constructor
  · intro hb
    exact Node.mem_of_within (Tree.nodes_within h.family (h.root_within hroot) _ hb)
  · exact h.mem_nodes ht hroot

theorem type_of_met (h : src.Complete store type compiled root) (hroot : tree.root = root.node)
    {id : String} {l : TypedLiteral} (hleaf : Node.leaf id l ∈ tree.nodes) : l.type = type := by
  have hall : ∀ n ∈ tree.nodes, n.Within compiled ∧ ∀ id l, n = .leaf id l → l.type = type := by
    refine Tree.nodes_forall ?_ ?_
    · intro b hb side
      have hmem := Node.mem_of_within hb.1
      exact ⟨h.family.child b hmem side, fun id l heq => h.type_of_leaf hmem heq⟩
    · refine ⟨h.root_within hroot, ?_⟩
      intro id l heq
      rw [hroot] at heq
      cases heq
  exact (hall _ hleaf).2 id l rfl

/-- A walk meets a leaf. -/
theorem leaves_ne_nil (h : src.Complete store type compiled root) (ht : src.table.Indexed)
    (hroot : tree.root = root.node) : tree.leaves ≠ [] := by
  obtain ⟨b, hb, id, l, hleaf⟩ := h.builtUp.exists_leaf (List.ne_nil_of_mem h.root_mem)
  have hb' := h.mem_nodes ht hroot hb
  have hmet := (Tree.nodes_meet h.family (h.root_within hroot)).2 b hb' .onTrue
  rw [hleaf] at hmet
  exact List.ne_nil_of_mem (Tree.mem_leaves.mpr hmet)

theorem rendersRow (h : src.Complete store type compiled root) (ht : src.table.Indexed)
    (htree : tree.branches = compiled.reverse) (hbase : tree.baseUri = src.baseUri)
    (hb : b ∈ compiled) {i : Nat} (hi : src.table.nodeIds[i]? = some b.id) :
    tree.RendersRow src.table store i b := by
  have hbuilt := h.built ht hb hi
  refine ⟨(Table.nodeIds_getElem?_eq_some.mp hi).2.symm, hbuilt.tested, hbuilt.op, hbuilt.operand,
    ?_, ?_⟩
  · intro side id htarget
    obtain ⟨d, hd, hid, hchild⟩ := h.exists_target ht hb hi (sequel_eq_node.mpr htarget)
    exact ⟨d, (h.branch?_eq_some htree).mpr ⟨hd, hid⟩, hchild⟩
  · intro side htarget
    rw [hbase]
    exact (h.child_eq_leaf ht hb hi (sequel_eq_outcome.mpr ⟨htarget, rfl⟩)).1

/-- A branch stands behind those that it leads to. -/
theorem mem_before (h : src.Complete store type compiled root) {before after : List Branch}
    (horder : compiled.reverse = before ++ b :: after) {side : Side} {d : Branch}
    (hchild : b.child side = d.node) : d ∈ before := by
  have hsplit : compiled = after.reverse ++ b :: before.reverse := by
    rw [← List.reverse_reverse compiled, horder]
    simp
  have hbuilt := h.builtUp
  rw [hsplit] at hbuilt
  obtain ⟨row, hrow⟩ := hbuilt.before
  have hwithin := (hrow.child side).within
  rw [hchild] at hwithin
  exact List.mem_reverse.mp (Node.mem_of_within hwithin)

theorem renders (h : src.Complete store type compiled root) (ht : src.table.Indexed) :
    Tree.Renders ⟨root.node, compiled.reverse, type, src.baseUri⟩ src.table store := by
  have hbranch : ∀ i b, b ∈ compiled → src.table.nodeIds[i]? = some b.id →
      Tree.branch? ⟨root.node, compiled.reverse, type, src.baseUri⟩ (src.table.cell i nodeHeading)
        = some b := by
    intro i b hb hid
    exact (h.branch?_eq_some rfl).mpr ⟨hb, (Table.nodeIds_getElem?_eq_some.mp hid).2.symm⟩
  refine ⟨?_, ?_, ?_, ?_, ?_, ?_, ?_, ?_⟩
  · intro id
    rw [List.map_reverse, List.mem_reverse, List.mem_map]
    constructor
    · rintro ⟨b, hb, rfl⟩
      exact h.reachable hb
    · rintro ⟨i, hi, hid⟩
      obtain ⟨b, hb, hbid⟩ := h.exists_branch ht hi
      exact ⟨b, hb, Option.some.inj (hbid.symm.trans hid)⟩
  · rw [List.map_reverse, List.nodup_reverse]
    exact h.distinct
  · intro i hi
    obtain ⟨b, hb, hid⟩ := h.exists_branch ht hi
    exact ⟨b, hbranch i b hb hid, h.rendersRow ht rfl rfl hb hid⟩
  · refine ⟨root, hbranch 0 root h.root_mem h.first, rfl, ?_⟩
    rw [List.getLast?_reverse]
    exact h.last
  · intro before b after horder side d hchild
    exact h.mem_before horder hchild
  · intro b hb side id l hleaf
    exact h.type_of_leaf (List.mem_reverse.mp hb) hleaf
  · intro id l hleaf
    exact h.type_of_met rfl (Tree.mem_leaves.mp hleaf)
  · exact h.leaves_ne_nil ht rfl

end Complete

end Source

variable {t : Table} {store : Store} {baseUri : String} {tree : Tree}

theorem renders_of_compile (h : (compile t store baseUri).tree = .ok tree) :
    tree.Renders t store ∧ tree.baseUri = baseUri := by
  obtain ⟨ht, _, _, _, hcomplete, rfl, _⟩ := compile_eq_ok h
  exact ⟨hcomplete.renders ht, rfl⟩

/-- The branches of a compiled tree are a family, and the root is one of them. -/
theorem exists_family (h : (compile t store baseUri).tree = .ok tree) :
    ∃ (known : List Branch) (root : Branch), Branch.Family known ∧ tree.root = root.node ∧
      root.node.Within known := by
  obtain ⟨_, compiled, root, type, hcomplete, rfl, _⟩ := compile_eq_ok h
  exact ⟨compiled, root, hcomplete.family, rfl, .branch root hcomplete.root_mem⟩

theorem Tree.mem_branches_iff (h : (compile t store baseUri).tree = .ok tree) {b : Branch} :
    b ∈ tree.branches ↔ b.node ∈ tree.nodes := by
  obtain ⟨ht, compiled, root, type, hcomplete, rfl, _⟩ := compile_eq_ok h
  rw [List.mem_reverse, ← Tree.mem_visitedBranches]
  exact (hcomplete.mem_visitedBranches ht rfl).symm

/-- A compiled tree says what its table says of the rows that the first row leads to, and its
datatype is the one that the compilation settled. -/
theorem compile_renders (h : (compile t store baseUri).tree = .ok tree) :
    tree.Renders t store ∧ tree.baseUri = baseUri ∧
    (compile t store baseUri).branches = tree.branches ∧
    ∃ rows, t.indexRows = .ok rows ∧
      (Source.run ⟨t, baseUri⟩ (.start rows store)).final.agreement.type?
        = some tree.inferredType := by
  obtain ⟨ht, compiled, root, type, hcomplete, rfl, hsettled⟩ := compile_eq_ok h
  exact ⟨hcomplete.renders ht, rfl, compile_branches h, t.nodeIds.zipIdx, ht.indexRows, hsettled⟩

/-- The table in which two rows share a third one has three branches, the shared one first. -/
theorem compile_renders_sharing :
    ∃ tree, (compile Example.sharing Example.emptyStore "urn:grade").tree = .ok tree ∧
      tree.Renders Example.sharing Example.emptyStore ∧
      tree.branches.map (·.id) = ["rest", "high", "root"] ∧ tree.inferredType = .uri := by
  have hvalue : (compile Example.sharing Example.emptyStore "urn:grade").tree.map
      (fun tree => (tree.branches.map (·.id), tree.inferredType))
        = .ok (["rest", "high", "root"], .uri) := by decide +kernel
  obtain ⟨tree, htree, hfields⟩ := exists_tree hvalue
  obtain ⟨hids, htype⟩ := Prod.mk.inj hfields
  exact ⟨tree, htree, (compile_renders htree).1, hids, htype⟩

end DecisionTable
