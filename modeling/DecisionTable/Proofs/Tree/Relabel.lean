import DecisionTable.Proofs.Tree.Arrival

/-!
# Other outcomes in the same tree

The outcomes at the leaves of a tree can be replaced by other ones, where the new outcome may depend
on the name of the leaf. Nothing else depends on the outcomes: a walk meets the same nodes in the
same order, branches lead to the same branches, and an evaluation goes the same way.
-/

namespace DecisionTable

open Relation

/-- How outcomes are replaced: by the name of the leaf and the outcome that is there. -/
abbrev Relabelling := String → TypedLiteral → TypedLiteral

variable {g : Relabelling} {known : List Branch} {b d : Branch}

/-! ### Nodes and branches -/

def Node.relabel (g : Relabelling) : Node → Node
  | leaf id l => leaf id (g id l)
  | branch id d t f => branch id d (t.relabel g) (f.relabel g)

def Branch.relabel (g : Relabelling) (b : Branch) : Branch :=
  ⟨b.id, b.decision, b.onTrue.relabel g, b.onFalse.relabel g⟩

theorem Branch.node_relabel (g : Relabelling) (b : Branch) :
    (b.relabel g).node = b.node.relabel g := rfl

theorem Branch.child_relabel (g : Relabelling) (b : Branch) (side : Side) :
    (b.relabel g).child side = (b.child side).relabel g := by
  cases side <;> rfl

theorem Node.id_relabel (g : Relabelling) (n : Node) : (n.relabel g).id = n.id := by
  cases n <;> rfl

/-- In a family of branches, what leads to a branch is told by its id, which stays. -/
theorem Node.relabel_eq_node {n : Node} (hf : Branch.Family known) (hn : n.Within known)
    (hb : b ∈ known) : n.relabel g = (b.relabel g).node ↔ n = b.node := by
  constructor
  · intro h
    cases hn with
    | leaf id l => cases h
    | branch d hd =>
      have hid : d.id = b.id := congrArg Node.id h
      rw [hf.unique d hd b hb hid]
  · rintro rfl
    rfl

theorem Branch.Family.eq_relabel (hf : Branch.Family known) (hb : b ∈ known)
    (hd : d ∈ known.map (Branch.relabel g)) (hid : d.id = b.id) : d = b.relabel g := by
  obtain ⟨d, hmem, rfl⟩ := List.mem_map.mp hd
  rw [hf.unique d hmem b hb hid]

/-! ### Walks -/

theorem Node.visit_relabel (g : Relabelling) (seen : List String) (stack : List Node) :
    visit seen (stack.map (relabel g)) = (visit seen stack).map (relabel g) := by
  fun_induction visit seen stack with
  | case1 seen => simp [visit]
  | case2 seen id l rest ih => simp [visit, relabel, ih]
  | case3 seen id d t f rest hseen ih =>
    rw [List.map_cons, relabel, visit, if_pos hseen, ih]
  | case4 seen id d t f rest hseen ih =>
    rw [List.map_cons, relabel, visit, if_neg hseen, List.map_cons, relabel, ← ih]
    rfl

namespace Tree

/-- The tree with other outcomes, which are relative to another base URI. -/
def relabel (g : Relabelling) (baseUri : String) (tree : Tree) : Tree :=
  ⟨tree.root.relabel g, tree.branches.map (Branch.relabel g), tree.inferredType, baseUri⟩

theorem nodes_relabel (g : Relabelling) (baseUri : String) (tree : Tree) :
    (tree.relabel g baseUri).nodes = tree.nodes.map (Node.relabel g) :=
  Node.visit_relabel g [] [tree.root]

theorem leaves_relabel (g : Relabelling) (baseUri : String) (tree : Tree) :
    (tree.relabel g baseUri).leaves = tree.leaves.map fun p => (p.1, g p.1 p.2) := by
  unfold leaves
  rw [nodes_relabel, List.filterMap_map, List.map_filterMap]
  refine List.filterMap_congr ?_
  intro n _
  cases n <;> rfl

end Tree

/-! ### Evaluations -/

namespace Node

variable {now : Store} {subject : Subject} {n m : Node}

theorem goes_relabel (g : Relabelling) (h : Goes now subject n m) :
    Goes now subject (n.relabel g) (m.relabel g) := by
  obtain ⟨b, side, hheld⟩ := h
  rw [← Branch.node_relabel, ← Branch.child_relabel]
  exact .mk (b.relabel g) side hheld

/-- An evaluation fails alike, or comes to the same leaf. -/
theorem evaluate_relabel (g : Relabelling) (now : Store) (subject : Subject) (n : Node) :
    (∃ e, n.evaluate now subject = .error e ∧ (n.relabel g).evaluate now subject = .error e) ∨
      ∃ id l, ReflTransGen (Goes now subject) n (.leaf id l) ∧
        ReflTransGen (Goes now subject) (n.relabel g) (.leaf id (g id l)) := by
  obtain ⟨m, hgoes, hend⟩ := goes_to_end now subject n
  have hgoes' : ReflTransGen (Goes now subject) (n.relabel g) (m.relabel g) :=
    hgoes.lift (relabel g) fun _ _ => goes_relabel g
  rcases hend with ⟨id, l, rfl⟩ | ⟨b, e, rfl, hfails⟩
  · exact Or.inr ⟨id, l, hgoes, hgoes'⟩
  · refine Or.inl ⟨e, ?_, ?_⟩
    · rw [evaluate_of_goes hgoes, evaluate_of_fails hfails]
    · rw [evaluate_of_goes hgoes', ← Branch.node_relabel]
      exact evaluate_of_fails (b := b.relabel g) hfails

end Node

end DecisionTable
