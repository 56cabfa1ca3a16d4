import DecisionTable.Proofs.Compile.Invariant

/-!
# The invariant of compilations is kept

The state in which the first row is opened is consistent, and every move keeps a state consistent.
The moves that find a node come down to one fact: a row that is handed the node it waits for is in
order if the node is what its cell stands for.
-/

namespace DecisionTable

open Relation

namespace Source

variable {src : Source} {store : Store} {c c' : Compilation}

/-! ### The start -/

theorem start_eq (ht : src.table.Indexed) :
    Compilation.start src.table.nodeIds.zipIdx store
      = { focus := .seek ⟨src.table.cell 0 nodeHeading, 0, none⟩,
          unopened := src.table.nodeIds.tail.zipIdx 1, store := store } := by
  have hfirst := ht.first
  cases hids : src.table.nodeIds with
  | nil =>
    rw [hids] at hfirst
    cases hfirst
  | cons first ids =>
    rw [hids] at hfirst
    obtain rfl := Option.some.inj hfirst
    rfl

theorem consistent_start (src : Source) (store : Store) (ht : src.table.Indexed) :
    src.Consistent store (.start src.table.nodeIds.zipIdx store) := by
  have hids : src.table.nodeIds = src.table.cell 0 nodeHeading :: src.table.nodeIds.tail := by
    have hfirst := ht.first
    rw [← List.head?_eq_getElem?] at hfirst
    exact (List.cons_head?_tail hfirst).symm
  rw [start_eq ht]
  refine ⟨?_, ?_, ?_, ?_, ?_, ?_, rfl, .nil, ?_, rfl⟩
  · simp only [Compilation.openRows, Focus.row, List.map_cons, List.map_nil, List.nil_append,
      List.singleton_append, List.zipIdx_map_fst]
    rw [← hids]
  · intro p hp
    have hmem : p ∈ src.table.nodeIds.zipIdx := by
      rw [hids, List.zipIdx_cons]
      exact List.mem_cons_of_mem _ hp
    exact List.mem_zipIdx_iff_getElem?.mp hmem
  · intro o ho
    obtain rfl := List.mem_singleton.mp ho
    exact ht.first
  · intro o ho n hn
    obtain rfl := List.mem_singleton.mp ho
    cases hn
  · intro r t f hfocus
    cases hfocus
  · exact List.isChain_singleton _
  · intro ty leaf hsettled
    cases hsettled

/-! ### Moves -/

/-- Handing a row the node that it waits for. -/
theorem Consistent.supply {r : OpenRow} {n : Node} (h : src.Consistent store c)
    (hfocus : c.focus = .seek r)
    (hn : src.Stands c.compiled c.agreement.type? r.row r.side n) :
    src.Consistent store { c with focus := r.supply n } := by
  have hid := r.id_supply n
  have hrow := r.row_supply n
  have hopen := Compilation.openRows_eq (congrArg Focus.row hfocus)
  have hmem : ∀ o, o ∈ r :: c.below → o ∈ c.openRows := fun o ho => hopen ▸ ho
  have hr : r ∈ c.openRows := hmem r (List.mem_cons_self ..)
  refine ⟨?_, h.unopened, ?_, ?_, ?_, ?_, ?_, h.compiled, h.settled, h.store⟩
  · have hrows := h.rows
    rw [hopen] at hrows
    simp only [Compilation.openRows, List.map_cons]
    rw [hid]
    exact hrows
  · intro o ho
    rcases List.mem_cons.mp ho with rfl | hbelow
    · dsimp only
      rw [hid, hrow]
      exact h.opened r hr
    · exact h.opened o (hmem o (List.mem_cons_of_mem _ hbelow))
  · intro o ho m hm
    rcases List.mem_cons.mp ho with rfl | hbelow
    · cases htrue : r.onTrue with
      | none =>
        rw [OpenRow.side_of_none htrue] at hn
        dsimp only at hm ⊢
        rw [OpenRow.supply_of_none htrue] at hm ⊢
        obtain rfl := Option.some.inj hm
        exact hn
      | some t =>
        dsimp only at hm ⊢
        rw [OpenRow.supply_of_some htrue] at hm ⊢
        exact h.onTrue r hr m hm
    · exact h.onTrue o (hmem o (List.mem_cons_of_mem _ hbelow)) m hm
  · intro o t f hclose
    dsimp only at hclose
    cases htrue : r.onTrue with
    | none =>
      rw [OpenRow.supply_of_none htrue] at hclose
      cases hclose
    | some t' =>
      rw [OpenRow.supply_of_some htrue] at hclose
      cases hclose
      rw [OpenRow.side_of_some htrue] at hn
      exact ⟨htrue, hn⟩
  · have hlinked := h.linked
    rw [hopen] at hlinked
    refine hlinked.imp_head ?_
    intro lower hlower
    simp only [Awaits, hid]
    exact hlower
  · have hlowest := h.lowest
    rw [hopen] at hlowest
    simp only [Compilation.openRows, List.map_cons]
    rw [hrow]
    exact hlowest

theorem Consistent.agree {r : OpenRow} {l : TypedLiteral} {agreement : Agreement}
    (h : src.Consistent store c) (hfocus : c.focus = .seek r)
    (hmeans : src.sequel r.row r.side = .outcome l)
    (hagree : c.agreement.check l.type (leafId r.id r.side) = .ok agreement) :
    src.Consistent store { c with agreement := agreement } := by
  have hkept : ∀ ty, c.agreement.type? = some ty → agreement.type? = some ty :=
    fun ty hty => Agreement.type?_kept hagree hty
  have hsame : ∀ b ∈ c.compiled, b ∈ c.compiled := fun _ hb => hb
  refine ⟨h.rows, h.unopened, h.opened, ?_, ?_, h.linked, h.lowest, h.compiled.mono hkept, ?_,
    h.store⟩
  · intro o ho n hn
    exact (h.onTrue o ho n hn).mono hsame hkept
  · intro o t f hclose
    obtain ⟨htrue, hfalse⟩ := h.onFalse o t f hclose
    exact ⟨htrue, hfalse.mono hsame hkept⟩
  · intro ty leaf hsettled
    rcases Agreement.check_eq_ok hagree with ⟨_, hnew⟩ | ⟨first, _, rfl⟩
    · obtain ⟨rfl, rfl⟩ := Prod.mk.inj (Option.some.inj (hnew.symm.trans hsettled))
      have hid := h.cell_focus
      have hreach := h.reachable (Consistent.focus_mem c)
      rw [hfocus] at hid hreach
      refine ⟨l, ⟨r.row, r.side, hreach, hmeans, ?_⟩, rfl⟩
      rw [show src.table.cell r.row nodeHeading = r.id from hid]
    · exact h.settled ty leaf hsettled

theorem Consistent.descend {r : OpenRow} {id : String} {row : Nat} {left : List (String × Nat)}
    (h : src.Consistent store c) (hfocus : c.focus = .seek r)
    (hmeans : src.sequel r.row r.side = .node id)
    (hrow : Compilation.takeRow id c.unopened = some (row, left)) :
    src.Consistent store
      { c with focus := .seek ⟨id, row, none⟩, below := r :: c.below, unopened := left } := by
  have hperm := Compilation.perm_of_takeRow hrow
  have hopen := Compilation.openRows_eq (congrArg Focus.row hfocus)
  have hmem : ∀ o, o ∈ r :: c.below → o ∈ c.openRows := fun o ho => hopen ▸ ho
  refine ⟨?_, ?_, ?_, ?_, ?_, ?_, ?_, h.compiled, h.settled, h.store⟩
  · have hrows := h.rows
    have hids : (c.unopened.map (·.1)).Perm (id :: left.map (·.1)) := hperm.map (·.1)
    rw [hopen] at hrows
    refine List.Perm.trans ?_ hrows
    -- the id moves from the unopened rows to the open ones, so every id is counted as before
    rw [List.perm_iff_count]
    intro a
    have hcount := hids.count_eq a
    simp only [Compilation.openRows, Focus.row, List.map_cons, List.count_append, List.count_cons]
      at hcount ⊢
    omega
  · exact fun p hp => h.unopened p (hperm.mem_iff.mpr (List.mem_cons_of_mem _ hp))
  · intro o ho
    rcases List.mem_cons.mp ho with rfl | hbelow
    · exact h.unopened (id, row) (hperm.mem_iff.mpr (List.mem_cons_self ..))
    · exact h.opened o (hmem o hbelow)
  · intro o ho n hn
    rcases List.mem_cons.mp ho with rfl | hbelow
    · cases hn
    · exact h.onTrue o (hmem o hbelow) n hn
  · intro o t f hclose
    cases hclose
  · refine List.IsChain.cons_cons hmeans ?_
    exact hopen ▸ h.linked
  · have hlowest := h.lowest
    rw [hopen] at hlowest
    simp only [Compilation.openRows, List.map_cons] at hlowest ⊢
    rw [List.getLast?_cons_cons]
    exact hlowest

theorem Consistent.finish {r parent : OpenRow} {t f : Node} {a : Attribute} {resolved : Store}
    {op : Operator} {rest : List OpenRow} (h : src.Consistent store c)
    (hfocus : c.focus = .close r t f)
    (hattr : c.store.resolve (src.table.cell r.row attributeHeading) = .ok (a, resolved))
    (hop : Operator.parse? (src.table.cell r.row operatorHeading) = some op)
    (hbelow : c.below = parent :: rest) :
    src.Consistent store
      { c with
        focus := .seek parent, below := rest, compiled := src.branch r a op t f :: c.compiled,
        store := resolved } := by
  have hopen : c.openRows = r :: parent :: rest := by
    rw [Compilation.openRows_eq (congrArg Focus.row hfocus), hbelow]
    rfl
  have hmem : ∀ o, o ∈ parent :: rest → o ∈ c.openRows := by
    intro o ho
    rw [hopen]
    exact List.mem_cons_of_mem r ho
  have hmore : ∀ b ∈ c.compiled, b ∈ src.branch r a op t f :: c.compiled :=
    fun _ hb => List.mem_cons_of_mem _ hb
  refine ⟨?_, h.unopened, ?_, ?_, ?_, ?_, ?_, ?_, h.settled, ?_⟩
  · have hrows := h.rows
    rw [hopen] at hrows
    refine List.Perm.trans ?_ hrows
    -- the id moves from the open rows to the compiled ones
    rw [List.perm_iff_count]
    intro x
    simp only [Compilation.openRows, Focus.row, branch, List.map_cons, List.count_append,
      List.count_cons]
    omega
  · exact fun o ho => h.opened o (hmem o ho)
  · intro o ho n hn
    exact (h.onTrue o (hmem o ho) n hn).mono hmore fun _ hty => hty
  · intro o t' f' hclose
    cases hclose
  · have hlinked := h.linked
    rw [hopen] at hlinked
    exact hlinked.tail
  · have hlowest := h.lowest
    rw [hopen] at hlowest
    simp only [List.map_cons] at hlowest
    rw [List.getLast?_cons_cons] at hlowest
    exact hlowest
  · exact .cons (h.built_branch hfocus hattr hop) h.compiled
  · rw [(Store.resolve_eq_ok hattr).2, h.store]

/-- Every move keeps a state consistent. -/
theorem consistent_of_move (h : src.Consistent store c) (hmove : src.Move c c') :
    src.Consistent store c' := by
  cases hmove with
  | leaf r l agreement hfocus hmeans hagree =>
    have hnext := h.agree hfocus hmeans hagree
    have hid : src.table.cell r.row nodeHeading = r.id := by
      have hcell := h.cell_focus
      rw [hfocus] at hcell
      exact hcell
    rw [← hid]
    exact hnext.supply hfocus (.leaf l hmeans (Agreement.type?_of_check hagree))
  | share r id b hfocus hmeans hbranch =>
    obtain ⟨hmem, rfl⟩ := Compilation.branch?_eq_some hbranch
    exact h.supply hfocus (.branch b hmeans hmem)
  | descend r id row left hfocus hmeans hbranch hopen hrow =>
    exact h.descend hfocus hmeans hrow
  | finish r t f a resolved op parent rest hfocus hattr hop hbelow =>
    have hnext := h.finish hfocus hattr hop hbelow
    have hawaits : src.Awaits r parent := by
      have hlinked := h.linked
      rw [Compilation.openRows_eq (congrArg Focus.row hfocus), hbelow] at hlinked
      exact hlinked.rel
    exact hnext.supply rfl (.branch (src.branch r a op t f) hawaits (List.mem_cons_self ..))

theorem Consistent.of_moves (h : src.Consistent store c) (hmoves : ReflTransGen src.Move c c') :
    src.Consistent store c' :=
  invariant_of_moves (fun _ _ hc hmove => consistent_of_move hc hmove) h hmoves

theorem consistent_of_moves (ht : src.table.Indexed)
    (h : ReflTransGen src.Move (.start src.table.nodeIds.zipIdx store) c) :
    src.Consistent store c :=
  (consistent_start src store ht).of_moves h

end Source

end DecisionTable
