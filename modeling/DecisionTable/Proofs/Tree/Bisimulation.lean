import DecisionTable.Proofs.Tree.Equality
import DecisionTable.Proofs.Tree.Walk

/-!
# Branches that agree

Branches are the same tree when they agree in their ids and decisions, and the nodes that follow
them agree again. The comparison of nodes in pairs finds such an agreement: the pairs of branches
that it has compared are enough, since ids tell the branches of a tree apart.
-/

namespace DecisionTable

/-- Nodes that are one leaf, or branches that are related. -/
inductive Node.Agree (R : Branch → Branch → Prop) : Node → Node → Prop where
  | leaf (id : String) (l : TypedLiteral) : Agree R (.leaf id l) (.leaf id l)
  | branch (b d : Branch) (h : R b d) : Agree R b.node d.node

/-- Branches that are related agree, and so do the nodes that follow them. -/
structure Branch.Agree (R : Branch → Branch → Prop) (b d : Branch) : Prop where
  id : b.id = d.id
  decision : b.decision = d.decision
  child : ∀ side, Node.Agree R (b.child side) (d.child side)

variable {R : Branch → Branch → Prop} {b d : Branch} {n m : Node}

theorem Branch.eq_of_agree (hR : ∀ b d, R b d → Branch.Agree R b d) (h : R b d) : b = d := by
  -- the nodes that follow a branch are smaller trees
  generalize hsize : b.node.size = size
  induction size using Nat.strongRecOn generalizing b d with
  | ind size ih =>
    have hagree := hR b d h
    have hchild : ∀ side, b.child side = d.child side := by
      intro side
      have hlt := b.size_child side
      have hnodes := hagree.child side
      generalize b.child side = n at hlt hnodes
      generalize d.child side = m at hnodes
      cases hnodes with
      | leaf id l => rfl
      | branch c e hce => rw [ih c.node.size (hsize ▸ hlt) hce rfl]
    have htrue : b.onTrue = d.onTrue := hchild .onTrue
    have hfalse : b.onFalse = d.onFalse := hchild .onFalse
    have hid := hagree.id
    have hdecision := hagree.decision
    cases b
    cases d
    dsimp only at hid hdecision htrue hfalse
    rw [hid, hdecision, htrue, hfalse]

theorem Node.eq_of_agree (hR : ∀ b d, R b d → Branch.Agree R b d) (h : Node.Agree R n m) :
    n = m := by
  cases h with
  | leaf id l => rfl
  | branch b d h => rw [Branch.eq_of_agree hR h]

/-! ### Comparing in pairs -/

namespace Node

variable {known known' : List Branch} {seen later : List (String × String)}
  {pairs : List (Node × Node)}

/-- Branches of two families whose ids are among the given pairs. -/
def Paired (known known' : List Branch) (seen : List (String × String)) (b d : Branch) : Prop :=
  b ∈ known ∧ d ∈ known' ∧ (b.id, d.id) ∈ seen

/-- A comparison that finds no difference extends the pairs that were compared before, so that all
nodes of its pairs agree, and with each pair of branches that is new the nodes that follow them. -/
theorem agree_of_allSame (hf : Branch.Family known) (hf' : Branch.Family known')
    (hpairs : ∀ p ∈ pairs, p.1.Within known ∧ p.2.Within known')
    (h : allSame seen pairs = true) : ∃ later, seen ⊆ later ∧
      (∀ p ∈ pairs, Agree (Paired known known' later) p.1 p.2) ∧
      ∀ b d, Paired known known' later b d →
        (b.id, d.id) ∈ seen ∨ Branch.Agree (Paired known known' later) b d := by
  fun_induction allSame seen pairs with
  | case1 seen =>
    exact ⟨seen, List.Subset.refl _, List.forall_mem_nil _, fun b d hbd => Or.inl hbd.2.2⟩
  | case2 seen i l j m rest ih =>
    rw [Bool.and_eq_true, Bool.and_eq_true, beq_iff_eq, beq_iff_eq] at h
    obtain ⟨⟨rfl, rfl⟩, hrest⟩ := h
    obtain ⟨later, hsub, hagree, hnew⟩ := ih (List.forall_mem_cons.mp hpairs).2 hrest
    exact ⟨later, hsub, List.forall_mem_cons.mpr ⟨.leaf i l, hagree⟩, hnew⟩
  | case3 seen i d t f j e u g rest hseen ih =>
    rw [List.forall_mem_cons] at hpairs
    obtain ⟨⟨hfirst, hfirst'⟩, hothers⟩ := hpairs
    obtain ⟨later, hsub, hagree, hnew⟩ := ih hothers h
    refine ⟨later, hsub, List.forall_mem_cons.mpr ⟨?_, hagree⟩, hnew⟩
    refine .branch ⟨i, d, t, f⟩ ⟨j, e, u, g⟩ ⟨?_, ?_, hsub (List.contains_iff_mem.mp hseen)⟩
    · exact mem_of_within (b := ⟨i, d, t, f⟩) hfirst
    · exact mem_of_within (b := ⟨j, e, u, g⟩) hfirst'
  | case4 seen i d t f j e u g rest hseen ih =>
    rw [Bool.and_eq_true, Bool.and_eq_true, beq_iff_eq, beq_iff_eq] at h
    obtain ⟨⟨hid, hdecision⟩, hrest⟩ := h
    rw [List.forall_mem_cons] at hpairs
    obtain ⟨⟨hfirst, hfirst'⟩, hothers⟩ := hpairs
    have hb : (⟨i, d, t, f⟩ : Branch) ∈ known := mem_of_within (b := ⟨i, d, t, f⟩) hfirst
    have hb' : (⟨j, e, u, g⟩ : Branch) ∈ known' := mem_of_within (b := ⟨j, e, u, g⟩) hfirst'
    have hnext : ∀ p ∈ (t, u) :: (f, g) :: rest, p.1.Within known ∧ p.2.Within known' := by
      rw [List.forall_mem_cons, List.forall_mem_cons]
      exact ⟨⟨hf.child _ hb .onTrue, hf'.child _ hb' .onTrue⟩,
        ⟨hf.child _ hb .onFalse, hf'.child _ hb' .onFalse⟩, hothers⟩
    obtain ⟨later, hsub, hagree, hnew⟩ := ih hnext hrest
    rw [List.forall_mem_cons, List.forall_mem_cons] at hagree
    obtain ⟨htrue, hfalse, hothers'⟩ := hagree
    have hmem : (i, j) ∈ later := hsub (List.mem_cons_self ..)
    refine ⟨later, fun p hp => hsub (List.mem_cons_of_mem _ hp), ?_, ?_⟩
    · exact List.forall_mem_cons.mpr ⟨.branch ⟨i, d, t, f⟩ ⟨j, e, u, g⟩ ⟨hb, hb', hmem⟩, hothers'⟩
    · intro c c' hcc
      rcases hnew c c' hcc with hold | hagree
      · rcases List.mem_cons.mp hold with hsame | hbefore
        · -- the pair that has just been compared, as ids are unique
          obtain ⟨hci, hcj⟩ := Prod.mk.inj hsame
          obtain rfl := hf.unique c hcc.1 _ hb hci
          obtain rfl := hf'.unique c' hcc.2.1 _ hb' hcj
          refine Or.inr ⟨hid, hdecision, ?_⟩
          intro side
          cases side with
          | onTrue => exact htrue
          | onFalse => exact hfalse
        · exact Or.inl hbefore
      · exact Or.inr hagree
  | case5 => cases h

/-- Nodes of two trees are found equal only if they are. -/
theorem eq_of_same (hf : Branch.Family known) (hf' : Branch.Family known')
    (hn : n.Within known) (hm : m.Within known') (h : n.same m = true) : n = m := by
  have hpairs : ∀ p ∈ [(n, m)], p.1.Within known ∧ p.2.Within known' := by
    intro p hp
    rw [List.mem_singleton.mp hp]
    exact ⟨hn, hm⟩
  obtain ⟨later, _, hagree, hnew⟩ := agree_of_allSame hf hf' hpairs h
  have hR : ∀ b d, Paired known known' later b d →
      Branch.Agree (Paired known known' later) b d := by
    intro b d hbd
    rcases hnew b d hbd with hseen | hagree
    · cases hseen
    · exact hagree
  exact eq_of_agree hR (hagree (n, m) (List.mem_singleton_self _))

end Node

end DecisionTable
