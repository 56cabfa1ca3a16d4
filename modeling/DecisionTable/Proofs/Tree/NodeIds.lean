import DecisionTable.Proofs.Compile.Blame
import DecisionTable.Proofs.Compile.Shape

/-!
# The ids of the nodes of a tree

The ids of branches are those of rows, and the ids of leaves are made from them. So the branches of a
compiled tree have different ids, and so have its leaves; what can happen is that a row has the id of
a leaf.
-/

namespace DecisionTable

/-- The leaves that a branch leads to have their ids from it. -/
def Branch.NamesLeaves (b : Branch) : Prop :=
  ∀ (side : Side) (id : String) (l : TypedLiteral), b.child side = .leaf id l → id = leafId b.id side

namespace Node

variable {known : List Branch} {seen : List String} {stack : List Node} {n : Node} {id : String}

/-- The ids of the leaves among some nodes. -/
def leafIds (l : List Node) : List String :=
  (l.filter isLeaf).map Node.id

theorem leafIds_leaf (id : String) (l : TypedLiteral) (rest : List Node) :
    leafIds (.leaf id l :: rest) = id :: leafIds rest := rfl

/-- The ids of leaves that wait on a stack: they are different and made from branches that have been
seen. -/
structure Waiting (seen : List String) (ids : List String) : Prop where
  nodup : ids.Nodup
  parent : ∀ id ∈ ids, ∃ p ∈ seen, ∃ side, id = leafId p side

theorem Waiting.weaken {ids : List String} (h : Waiting seen ids) (p : String) :
    Waiting (p :: seen) ids := by
  refine ⟨h.nodup, ?_⟩
  intro id hid
  obtain ⟨q, hq, side, hname⟩ := h.parent id hid
  exact ⟨q, List.mem_cons_of_mem _ hq, side, hname⟩

theorem Waiting.child {b : Branch} (hb : b.NamesLeaves) (side : Side)
    (hnew : leafId b.id side ∉ leafIds stack) (h : Waiting (b.id :: seen) (leafIds stack)) :
    Waiting (b.id :: seen) (leafIds (b.child side :: stack)) := by
  cases hchild : b.child side with
  | branch id d t f => exact h
  | leaf id l =>
    obtain rfl := hb side id l hchild
    rw [leafIds_leaf]
    refine ⟨List.nodup_cons.mpr ⟨hnew, h.nodup⟩, ?_⟩
    intro id hid
    rcases List.mem_cons.mp hid with rfl | hid
    · exact ⟨b.id, List.mem_cons_self .., side, rfl⟩
    · exact h.parent id hid

theorem mem_leafIds_child {b : Branch} (hb : b.NamesLeaves) (side : Side)
    (h : id ∈ leafIds (b.child side :: stack)) : id = leafId b.id side ∨ id ∈ leafIds stack := by
  cases hchild : b.child side with
  | branch name d t f =>
    rw [hchild] at h
    exact Or.inr h
  | leaf name l =>
    rw [hchild, leafIds_leaf] at h
    refine (List.mem_cons.mp h).imp_left ?_
    rintro rfl
    exact hb side id l hchild

theorem mem_leafIds_children {b : Branch} (hb : b.NamesLeaves)
    (h : id ∈ leafIds (b.onTrue :: b.onFalse :: stack)) :
    (∃ side, id = leafId b.id side) ∨ id ∈ leafIds stack := by
  rcases mem_leafIds_child hb .onTrue h with hname | hlater
  · exact Or.inl ⟨.onTrue, hname⟩
  · exact (mem_leafIds_child hb .onFalse hlater).imp_left fun hname => ⟨.onFalse, hname⟩

/-- A branch that is seen for the first time adds its leaves to those that wait. -/
theorem Waiting.push {b : Branch} (hb : b.NamesLeaves) (hfresh : b.id ∉ seen)
    (h : Waiting seen (leafIds stack)) :
    Waiting (b.id :: seen) (leafIds (b.onTrue :: b.onFalse :: stack)) := by
  have hother : ∀ side, leafId b.id side ∉ leafIds stack := by
    intro side hmem
    obtain ⟨p, hp, side', hname⟩ := h.parent _ hmem
    rw [(leafId_inj hname).1] at hfresh
    exact hfresh hp
  have hfalse : Waiting (b.id :: seen) (leafIds (b.child .onFalse :: stack)) :=
    (h.weaken b.id).child hb .onFalse (hother .onFalse)
  refine hfalse.child hb .onTrue ?_
  intro hmem
  rcases mem_leafIds_child hb .onFalse hmem with hname | hmem
  · cases (leafId_inj hname).2
  · exact hother .onTrue hmem

/-- A walk meets leaves with different ids: those that wait, and those of branches that it sees for
the first time. -/
theorem visit_leafIds (hf : Branch.Family known) (hnames : ∀ b ∈ known, b.NamesLeaves)
    (hstack : ∀ n ∈ stack, n.Within known) (hwaiting : Waiting seen (leafIds stack)) :
    (leafIds (visit seen stack)).Nodup ∧
    ∀ id ∈ leafIds (visit seen stack),
      id ∈ leafIds stack ∨ ∃ p, p ∉ seen ∧ ∃ side, id = leafId p side := by
  fun_induction visit seen stack with
  | case1 seen => exact ⟨List.nodup_nil, fun id hid => (List.not_mem_nil hid).elim⟩
  | case2 seen id l rest ih =>
    rw [leafIds_leaf] at hwaiting
    obtain ⟨hnew, hnodup⟩ := List.nodup_cons.mp hwaiting.nodup
    have hrest : Waiting seen (leafIds rest) :=
      ⟨hnodup, fun other hother => hwaiting.parent other (List.mem_cons_of_mem _ hother)⟩
    obtain ⟨hdistinct, hfrom⟩ := ih (fun m hm => hstack m (List.mem_cons_of_mem _ hm)) hrest
    rw [leafIds_leaf]
    refine ⟨List.nodup_cons.mpr ⟨?_, hdistinct⟩, ?_⟩
    · intro hagain
      rcases hfrom id hagain with hwaits | ⟨p, hp, side, hname⟩
      · exact hnew hwaits
      · obtain ⟨q, hq, side', hname'⟩ := hwaiting.parent id (List.mem_cons_self ..)
        rw [(leafId_inj (hname.symm.trans hname')).1] at hp
        exact hp hq
    · intro other hother
      rcases List.mem_cons.mp hother with rfl | hother
      · exact Or.inl (List.mem_cons_self ..)
      · exact (hfrom other hother).imp_left (List.mem_cons_of_mem _)
  | case3 seen id d t f rest hseen ih =>
    exact ih (fun m hm => hstack m (List.mem_cons_of_mem _ hm)) hwaiting
  | case4 seen id d t f rest hseen ih =>
    let b : Branch := ⟨id, d, t, f⟩
    have hfresh : b.id ∉ seen := fun h => hseen (List.contains_iff_mem.mpr h)
    have hfirst : b.node.Within known := hstack _ (List.mem_cons_self ..)
    have hb : b.NamesLeaves := hnames b (mem_of_within hfirst)
    have hnext := forall_next (b := b) (within_child hf) hfirst
      fun m hm => hstack m (List.mem_cons_of_mem _ hm)
    obtain ⟨hdistinct, hfrom⟩ := ih hnext (Waiting.push hb hfresh hwaiting)
    refine ⟨hdistinct, ?_⟩
    intro other hother
    rcases hfrom other hother with hwaits | ⟨p, hp, side, hname⟩
    · rcases mem_leafIds_children hb hwaits with ⟨side, hname⟩ | hwaits
      · exact Or.inr ⟨id, hfresh, side, hname⟩
      · exact Or.inl hwaits
    · exact Or.inr ⟨p, fun h => hp (List.mem_cons_of_mem _ h), side, hname⟩

end Node

namespace Tree

theorem leafIds_nodes (tree : Tree) : Node.leafIds tree.nodes = tree.leaves.map (·.1) := by
  unfold Node.leafIds leaves
  induction tree.nodes with
  | nil => rfl
  | cons n rest ih =>
    cases n with
    | leaf id l => exact congrArg (id :: ·) ih
    | branch id d t f => exact ih

/-- The ids of the nodes, up to their order: those of branches and those of leaves. -/
theorem ids_perm (tree : Tree) : (tree.nodes.map Node.id).Perm
    (tree.visitedBranches.map (·.id) ++ tree.leaves.map (·.1)) := by
  rw [← leafIds_nodes]
  unfold visitedBranches
  induction tree.nodes with
  | nil => exact .nil
  | cons n rest ih =>
    cases n with
    | branch id d t f => exact ih.cons id
    | leaf id l =>
      rw [Node.leafIds_leaf]
      exact (ih.cons id).trans List.perm_middle.symm

end Tree

/-! ### Compiled trees -/

namespace Source.Complete

variable {src : Source} {store : Store} {type : LiteralType} {compiled : List Branch}
  {root b : Branch} {tree : Tree}

theorem namesLeaves (h : src.Complete store type compiled root) (hb : b ∈ compiled) :
    b.NamesLeaves := by
  intro side id l hleaf
  obtain ⟨row, hrow⟩ := h.builtUp.built hb
  have hchild := hrow.child side
  rw [hleaf] at hchild
  cases hchild with
  | leaf l _ _ => rw [(Table.nodeIds_getElem?_eq_some.mp hrow.id).2]

theorem leaves (h : src.Complete store type compiled root) (hroot : tree.root = root.node) :
    (tree.leaves.map (·.1)).Nodup ∧
    ∀ id ∈ tree.leaves.map (·.1), ∃ p side, id = leafId p side := by
  have hstack : ∀ n ∈ [tree.root], n.Within compiled := by
    intro n hn
    rw [List.mem_singleton.mp hn]
    exact h.root_within hroot
  have hempty : Node.leafIds [tree.root] = [] := by
    rw [hroot]
    rfl
  have hwaiting : Node.Waiting [] (Node.leafIds [tree.root]) := by
    rw [hempty]
    exact ⟨List.nodup_nil, nofun⟩
  obtain ⟨hnodup, hfrom⟩ :=
    Node.visit_leafIds h.family (fun b hb => h.namesLeaves hb) hstack hwaiting
  rw [hempty] at hfrom
  rw [← Tree.leafIds_nodes]
  refine ⟨hnodup, ?_⟩
  intro id hid
  rcases hfrom id hid with hnone | ⟨p, _, side, hname⟩
  · cases hnone
  · exact ⟨p, side, hname⟩

end Source.Complete

namespace Tree

variable {tree : Tree} {t : Table} {store : Store} {baseUri : String}

theorem exists_leafId (h : (compile t store baseUri).tree = .ok tree) {id : String}
    {l : TypedLiteral} (hleaf : Node.leaf id l ∈ tree.nodes) : ∃ p side, id = leafId p side := by
  obtain ⟨_, compiled, root, type, hcomplete, htree, _⟩ := compile_eq_ok h
  have hroot : tree.root = root.node := by rw [htree]
  exact (hcomplete.leaves hroot).2 id (List.mem_map_of_mem (mem_leaves.mpr hleaf))

/-- Nodes have different keys just when the branches have, and no branch has the key of a leaf, if
leaves have their ids as their keys. -/
theorem nodup_keys_iff (h : (compile t store baseUri).tree = .ok tree) {key : String → String}
    (hkey : ∀ id side, key (leafId id side) = leafId id side) :
    (tree.nodes.map fun n => key n.id).Nodup ↔
      (tree.visitedBranches.map fun b => key b.id).Nodup ∧
      ∀ b ∈ tree.visitedBranches, ∀ leaf ∈ tree.leaves, key b.id ≠ leaf.1 := by
  obtain ⟨_, compiled, root, type, hcomplete, htree, _⟩ := compile_eq_ok h
  have hroot : tree.root = root.node := by rw [htree]
  obtain ⟨hleaves, hparents⟩ := hcomplete.leaves hroot
  have hsame : (tree.leaves.map (·.1)).map key = tree.leaves.map (·.1) := by
    refine (List.map_congr_left ?_).trans (List.map_id _)
    intro id hid
    obtain ⟨p, side, rfl⟩ := hparents id hid
    exact hkey p side
  have hperm := tree.ids_perm.map key
  rw [List.map_append, List.map_map, List.map_map, hsame] at hperm
  have hsplit := hperm.nodup_iff.trans List.nodup_append
  refine hsplit.trans ?_
  constructor
  · rintro ⟨hbranches, _, hapart⟩
    refine ⟨hbranches, ?_⟩
    intro b hb leaf hleaf
    exact hapart _ (List.mem_map_of_mem hb) _ (List.mem_map_of_mem hleaf)
  · rintro ⟨hbranches, hapart⟩
    refine ⟨hbranches, hleaves, ?_⟩
    intro x hx y hy
    obtain ⟨b, hb, rfl⟩ := List.mem_map.mp hx
    obtain ⟨leaf, hleaf, rfl⟩ := List.mem_map.mp hy
    exact hapart b hb leaf hleaf

end Tree

end DecisionTable
