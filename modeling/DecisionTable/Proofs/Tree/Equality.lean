import DecisionTable.Tree.Equality

/-!
# Equality of trees

Trees are compared in pairs of nodes, with a memory of the pairs of branches that have been compared
before. Every tree is found equal to itself.
-/

namespace DecisionTable

namespace Node

theorem allSame_diagonal (seen : List (String × String)) (pairs : List (Node × Node))
    (h : ∀ p ∈ pairs, p.1 = p.2) : allSame seen pairs = true := by
  fun_induction allSame seen pairs with
  | case1 seen => rfl
  | case2 seen i l j m rest ih =>
    have hrest := ih fun p hp => h p (List.mem_cons_of_mem _ hp)
    have heq : leaf i l = leaf j m := h _ (List.mem_cons_self ..)
    obtain ⟨rfl, rfl⟩ := Node.leaf.inj heq
    simp only [beq_self_eq_true, hrest, Bool.and_self]
  | case3 seen i d t f j e u g rest hseen ih =>
    exact ih fun p hp => h p (List.mem_cons_of_mem _ hp)
  | case4 seen i d t f j e u g rest hseen ih =>
    have heq : branch i d t f = branch j e u g := h _ (List.mem_cons_self ..)
    obtain ⟨rfl, rfl, rfl, rfl⟩ := Node.branch.inj heq
    have hnext : ∀ p ∈ (t, t) :: (f, f) :: rest, p.1 = p.2 := by
      intro p hp
      rcases List.mem_cons.mp hp with rfl | hp
      · rfl
      · rcases List.mem_cons.mp hp with rfl | hp
        · rfl
        · exact h p (List.mem_cons_of_mem _ hp)
    simp only [beq_self_eq_true, ih hnext, Bool.and_self]
  | case5 seen p rest hleaf hbranch =>
    obtain ⟨n, m⟩ := p
    have heq : n = m := h _ (List.mem_cons_self ..)
    subst heq
    cases n with
    | leaf i l => exact (hleaf i l i l rfl).elim
    | branch i d t f => exact (hbranch i d t f i d t f rfl).elim

theorem same_self (n : Node) : n.same n = true := by
  refine allSame_diagonal [] [(n, n)] ?_
  intro p hp
  rw [List.mem_singleton.mp hp]

end Node

/-- Every tree is equal to itself. -/
theorem Tree.same_self (t : Tree) : t.same t = true := by
  simp only [Tree.same, Node.same_self, beq_self_eq_true, Bool.and_self]

end DecisionTable
