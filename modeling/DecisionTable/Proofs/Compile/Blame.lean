import DecisionTable.Example
import DecisionTable.Proofs.Compile.Acceptance
import DecisionTable.Proofs.Literal.Cell
import DecisionTable.Proofs.Table.Path
import DecisionTable.Proofs.Value.Fault
import Mathlib.Data.String.Basic

/-!
# What the faults of compilations are blamed on

Whatever a compilation blames is there: the headings that are missing, the id that is the first one
to occur again, the cell that refers to no row, the attribute or the operator that is unknown, and
two leaf cells whose outcomes differ in their datatypes. Of these leaves the one that is said to
have settled the datatype is the first leaf that is met depth first.
-/

namespace DecisionTable

open Relation

/-- A fault of a table, with the place in the table that it is blamed on. -/
inductive Table.AtFault (t : Table) (store : Store) : CompileError → Prop where
  | missingHeadings (missing : List String) (hsome : missing ≠ [])
      (hsorted : missing.Pairwise (· < ·))
      (hmissing : ∀ h, h ∈ missing ↔ h ∈ requiredHeadings ∧ h ∉ t.headings) :
      AtFault t store (.missingHeadings missing)
  | noRows (hheadings : ∀ h ∈ requiredHeadings, h ∈ t.headings) (hrows : t.rows = []) :
      AtFault t store .noRows
  /-- Up to the row at which the id occurs again, no id does. -/
  | duplicateNode (i j : Nat) (id : String) (hij : i < j) (hi : t.nodeIds[i]? = some id)
      (hj : t.nodeIds[j]? = some id) (hfirst : (t.nodeIds.take j).Nodup) :
      AtFault t store (.duplicateNode id)
  | cyclicReference (row : Nat) (id : String) (path : List String) (hrow : t.Reachable row)
      (hid : t.nodeIds[row]? = some id) (hcycle : TransGen t.Refers row row) :
      AtFault t store (.cyclicReference id path)
  | undefinedNode (row : Nat) (side : Side) (missing referrer : String)
      (hrow : t.Reachable row) (hid : t.nodeIds[row]? = some referrer)
      (hcell : t.cell row side.heading = Reference.cell missing)
      (hmissing : missing ∉ t.nodeIds) :
      AtFault t store (.undefinedNode missing referrer side)
  | unknownOperator (row : Nat) (id : String) (hrow : t.Reachable row)
      (hid : t.nodeIds[row]? = some id)
      (hop : ∀ op : Operator, op.spelling ≠ Text.strip (t.cell row operatorHeading)) :
      AtFault t store (.unknownOperator (t.cell row operatorHeading) (some id))
  | unknownAttribute (row : Nat) (id : String) (hrow : t.Reachable row)
      (hid : t.nodeIds[row]? = some id)
      (hattr : ∀ a ∈ store.attributes, a.identifier ≠ t.cell row attributeHeading) :
      AtFault t store
        (.unknownAttribute (t.cell row attributeHeading) (some (store.blames.getD id)))
  | inconsistentType (row first : Nat) (side firstSide : Side) (id firstId : String)
      (hrow : t.Reachable row) (hid : t.nodeIds[row]? = some id) (hleaf : t.IsLeaf row side)
      (hfirstRow : t.Reachable first) (hfirstId : t.nodeIds[first]? = some firstId)
      (hfirst : t.FirstLeaf first firstSide)
      (hname : leafId id side ≠ leafId firstId firstSide)
      (htype : Literal.inferType (t.cell row side.heading)
        ≠ Literal.inferType (t.cell first firstSide.heading)) :
      AtFault t store
        (.inconsistentType (Literal.inferType (t.cell row side.heading))
          (Literal.inferType (t.cell first firstSide.heading)) (leafId id side)
          (leafId firstId firstSide))

/-! ### Names of leaves -/

theorem toList_leafId (id : String) (side : Side) :
    (leafId id side).toList
      = "Leaf_".toList ++ (id.toList ++ ['_', match side with | .onTrue => 'T' | .onFalse => 'F'])
    := by
  cases side with
  | onTrue =>
    have hname : leafId id .onTrue = "Leaf_" ++ id ++ "_T" := rfl
    rw [hname]
    simp [String.toList_append]
  | onFalse =>
    have hname : leafId id .onFalse = "Leaf_" ++ id ++ "_F" := rfl
    rw [hname]
    simp [String.toList_append]

/-- The name of a leaf tells its row and its side. -/
theorem leafId_inj {id id' : String} {side side' : Side} (h : leafId id side = leafId id' side') :
    id = id' ∧ side = side' := by
  have hchars := congrArg String.toList h
  rw [toList_leafId, toList_leafId] at hchars
  obtain ⟨hid, hside⟩ := List.append_inj' (List.append_cancel_left hchars) rfl
  refine ⟨String.toList_inj.mp hid, ?_⟩
  cases side with
  | onTrue =>
    cases side' with
    | onTrue => rfl
    | onFalse => simp at hside
  | onFalse =>
    cases side' with
    | onTrue => simp at hside
    | onFalse => rfl

/-! ### Faults of the index -/

namespace Table

variable {t : Table}

theorem sortTexts_sorted {l : List String} (h : l.Nodup) : (sortTexts l).Pairwise (· < ·) := by
  have hle : (sortTexts l).Pairwise (fun a b => decide (a ≤ b) = true) := by
    refine List.pairwise_mergeSort ?_ ?_ l
    · intro a b c hab hbc
      simp only [decide_eq_true_eq] at *
      exact le_trans hab hbc
    · intro a b
      simp only [Bool.or_eq_true, decide_eq_true_eq]
      exact le_total a b
  have hnodup : (sortTexts l).Nodup := (List.mergeSort_perm l _).nodup_iff.mpr h
  refine (hle.and hnodup).imp ?_
  rintro a b ⟨hab, hne⟩
  exact lt_of_le_of_ne (of_decide_eq_true hab) hne

theorem mem_missingHeadings {h : String} :
    h ∈ t.missingHeadings ↔ h ∈ requiredHeadings ∧ h ∉ t.headings := by
  have hperm := List.mergeSort_perm (requiredHeadings.filter fun h => !t.headings.contains h)
    fun a b => decide (a ≤ b)
  unfold missingHeadings sortTexts
  rw [hperm.mem_iff, List.mem_filter]
  simp

theorem indexRows_eq_error {e : CompileError} (store : Store) (h : t.indexRows = .error e) :
    t.AtFault store e := by
  unfold indexRows at h
  split at h
  · rename_i hmissing
    obtain rfl := Except.error.inj h
    refine .missingHeadings _ (by simpa using hmissing) (sortTexts_sorted ?_) ?_
    · exact requiredHeadings_nodup.filter _
    · exact fun h => mem_missingHeadings
  · rename_i hmissing
    have hheadings : t.missingHeadings = [] := by simpa using hmissing
    split at h
    · rename_i hrows
      obtain rfl := Except.error.inj h
      exact .noRows (missingHeadings_eq_nil.mp hheadings) (List.isEmpty_iff.mp hrows)
    · rcases numberIds_cases [] t.nodeIds List.nodup_nil with
        ⟨_, hok⟩ | ⟨before, id, after, hids, hnodup, hid, herror⟩
      · cases hok.symm.trans h
      · obtain rfl := Except.error.inj (herror.symm.trans h)
        have hsplit : t.nodeIds = before ++ id :: after := hids
        obtain ⟨i, hi, hget⟩ := List.mem_iff_getElem.mp hid
        refine .duplicateNode i before.length id hi ?_ ?_ ?_
        · rw [hsplit, List.getElem?_append_left hi, List.getElem?_eq_getElem hi, hget]
        · rw [hsplit, List.getElem?_append_right (Nat.le_refl _), Nat.sub_self]
          rfl
        · rw [hsplit, List.take_left]
          exact hnodup

end Table

/-! ### The leaf that settles the datatype -/

namespace Source

/-- Until a datatype is settled every open row waits for the node of its true side, and then it is
that of the first leaf. -/
structure Settling (src : Source) (c : Compilation) : Prop where
  waiting : c.agreement.settled = none → ∀ o ∈ c.openRows, o.onTrue = none
  first : ∀ ty leaf, c.agreement.settled = some (ty, leaf) →
    ∃ i side, src.table.FirstLeaf i side ∧ src.table.Reachable i ∧
      leaf = leafId (src.table.cell i nodeHeading) side ∧
      ty = Literal.inferType (src.table.cell i side.heading)

variable {src : Source} {store : Store} {c c' : Compilation}

theorem type_of_sequel {i : Nat} {side : Side} {l : TypedLiteral}
    (h : src.sequel i side = .outcome l) :
    src.table.IsLeaf i side ∧ l.type = Literal.inferType (src.table.cell i side.heading) := by
  obtain ⟨htarget, rfl⟩ := sequel_eq_outcome.mp h
  exact ⟨htarget, rfl⟩

/-- Through rows that all wait for their true nodes only true sides lead. -/
theorem path_of_chain {o : OpenRow} {below : List OpenRow} {t : Table} {baseUri : String}
    (hlinked : (o :: below).IsChain (Awaits ⟨t, baseUri⟩))
    (hopened : ∀ r ∈ o :: below, t.nodeIds[r.row]? = some r.id)
    (hwaiting : ∀ r ∈ o :: below, r.onTrue = none)
    (hlowest : ((o :: below).map (·.row)).getLast? = some 0) :
    t.Path 0 (List.replicate (below.length + 1) .onTrue) o.row .onTrue := by
  induction below generalizing o with
  | nil =>
    have hrow : o.row = 0 := by simpa using hlowest
    rw [hrow]
    exact .here 0 .onTrue
  | cons lower rest ih =>
    have hawaits : Awaits ⟨t, baseUri⟩ o lower := hlinked.rel
    have hlower : lower.side = .onTrue :=
      OpenRow.side_of_none (hwaiting lower (List.mem_cons_of_mem _ (List.mem_cons_self ..)))
    have hpath : t.Path 0 (List.replicate (rest.length + 1) .onTrue) lower.row .onTrue := by
      refine ih hlinked.tail ?_ ?_ ?_
      · exact fun r hr => hopened r (List.mem_cons_of_mem _ hr)
      · exact fun r hr => hwaiting r (List.mem_cons_of_mem _ hr)
      · simpa using hlowest
    have htarget := sequel_eq_node.mp hawaits
    rw [hlower] at htarget
    have hnext := hpath.concat htarget (hopened o (List.mem_cons_self ..)) .onTrue
    rw [← List.replicate_succ'] at hnext
    exact hnext

theorem Consistent.firstLeaf {r : OpenRow} (h : src.Consistent store c)
    (ht : src.table.Indexed) (hfocus : c.focus = .seek r)
    (hwaiting : ∀ o ∈ c.openRows, o.onTrue = none) (hleaf : src.table.IsLeaf r.row r.side) :
    src.table.FirstLeaf r.row r.side := by
  have hopen : c.openRows = r :: c.below := Compilation.openRows_eq (congrArg Focus.row hfocus)
  have hlinked := h.linked
  have hopened := h.opened
  have hlowest := h.lowest
  rw [hopen] at hlinked hopened hlowest hwaiting
  have hside : r.side = .onTrue := OpenRow.side_of_none (hwaiting r (List.mem_cons_self ..))
  rw [hside] at hleaf ⊢
  exact ht.firstLeaf (path_of_chain hlinked hopened hwaiting hlowest) hleaf

theorem Consistent.compiled_eq_nil (h : src.Consistent store c)
    (hnone : c.agreement.settled = none) : c.compiled = [] := by
  cases hcompiled : c.compiled with
  | nil => rfl
  | cons b rest =>
    obtain ⟨ty, hsome⟩ := BuiltUp.exists_settled (hcompiled ▸ h.compiled)
    rw [Agreement.type?, hnone] at hsome
    cases hsome

theorem settling_of_move (h : src.Consistent store c) (ht : src.table.Indexed)
    (hs : src.Settling c) (hmove : src.Move c c') : src.Settling c' := by
  cases hmove with
  | leaf r l agreement hfocus hmeans hagree =>
    refine ⟨?_, ?_⟩
    · intro hnone
      have htype := Agreement.type?_of_check hagree
      rw [Agreement.type?, hnone] at htype
      cases htype
    · intro ty leaf hsettled
      rcases Agreement.check_eq_ok hagree with ⟨hnone, hnew⟩ | ⟨first, _, rfl⟩
      · obtain ⟨rfl, rfl⟩ := Prod.mk.inj (Option.some.inj (hnew.symm.trans hsettled))
        obtain ⟨hleaf, htype⟩ := type_of_sequel hmeans
        have hrow : c.focus.row = r := congrArg Focus.row hfocus
        obtain ⟨hreach, hid⟩ := h.row_in_focus hrow
        have hcell := (Table.nodeIds_getElem?_eq_some.mp hid).2
        have hfirst := h.firstLeaf ht hfocus (hs.waiting hnone) hleaf
        exact ⟨r.row, r.side, hfirst, hreach, by rw [hcell], htype⟩
      · exact hs.first ty leaf hsettled
  | share r id b hfocus hmeans hbranch =>
    refine ⟨?_, hs.first⟩
    intro hnone
    have hmem := (Compilation.branch?_eq_some hbranch).1
    rw [h.compiled_eq_nil hnone] at hmem
    cases hmem
  | descend r id row left hfocus hmeans hbranch hopen hrow =>
    refine ⟨?_, hs.first⟩
    intro hnone o ho
    have hbelow : c.openRows = r :: c.below := Compilation.openRows_eq (congrArg Focus.row hfocus)
    rcases List.mem_cons.mp ho with rfl | ho
    · rfl
    · exact hs.waiting hnone o (hbelow ▸ ho)
  | finish r t f a resolved op parent rest hfocus hattr hop hbelow =>
    refine ⟨?_, hs.first⟩
    intro hnone
    have hrow : c.focus.row = r := congrArg Focus.row hfocus
    have htrue := (h.onFalse r t f hfocus).1
    have hwaits := hs.waiting hnone r (hrow ▸ Consistent.focus_mem c)
    cases htrue.symm.trans hwaits

theorem settling_start (ht : src.table.Indexed) :
    src.Settling (.start src.table.nodeIds.zipIdx store) := by
  rw [start_eq ht]
  refine ⟨?_, ?_⟩
  · intro _ o ho
    obtain rfl := List.mem_singleton.mp ho
    rfl
  · intro ty leaf hsettled
    cases hsettled

theorem settling_of_moves (ht : src.table.Indexed)
    (h : ReflTransGen src.Move (.start src.table.nodeIds.zipIdx store) c) : src.Settling c := by
  induction h with
  | refl => exact settling_start ht
  | tail hmoves hmove ih => exact settling_of_move (consistent_of_moves ht hmoves) ht ih hmove

/-! ### Faults of compilations -/

theorem Consistent.inconsistent_atFault {r : OpenRow} {l : TypedLiteral} {e : CompileError}
    (h : src.Consistent store c) (ht : src.table.Indexed) (hs : src.Settling c)
    (hfocus : c.focus = .seek r) (hmeans : src.sequel r.row r.side = .outcome l)
    (hagree : c.agreement.check l.type (leafId r.id r.side) = .error e) :
    src.table.AtFault store e := by
  obtain ⟨expected, leaf, hsettled, hne, rfl⟩ := Agreement.check_eq_error hagree
  obtain ⟨first, firstSide, hfirst, hreachFirst, rfl, rfl⟩ := hs.first expected leaf hsettled
  have hrow : c.focus.row = r := congrArg Focus.row hfocus
  obtain ⟨hreach, hid⟩ := h.row_in_focus hrow
  obtain ⟨hleaf, htype⟩ := type_of_sequel hmeans
  obtain ⟨firstId, hfirstId⟩ := ht.exists_id hreachFirst
  have hfirstCell := (Table.nodeIds_getElem?_eq_some.mp hfirstId).2
  rw [htype] at hne ⊢
  rw [hfirstCell]
  refine .inconsistentType r.row first r.side firstSide r.id firstId hreach hid hleaf hreachFirst
    hfirstId hfirst ?_ hne
  -- leaves of one name are one cell, which has one datatype
  intro hname
  obtain ⟨hsame, hside⟩ := leafId_inj hname
  have hcell : r.row = first := ht.row_unique hid (hsame ▸ hfirstId)
  rw [hcell, hside] at hne
  exact hne rfl

theorem Fault.atFault {e : CompileError} (h : src.Fault store e)
    (hinconsistent : ∀ found expected leaf first,
      e ≠ .inconsistentType found expected leaf first) : src.table.AtFault store e := by
  cases h with
  | cyclic row id path hrow hid hcycle => exact .cyclicReference row id path hrow hid hcycle
  | undefined row side missing referrer hrow hid hmeans hmissing =>
    have hcell := (Reference.target?_eq_some.mp (sequel_eq_node.mp hmeans)).1
    exact .undefinedNode row side missing referrer hrow hid hcell hmissing
  | unknownOperator row id hrow hid hop =>
    refine .unknownOperator row id hrow hid ?_
    intro op hspelling
    cases hop.symm.trans (Operator.parse?_eq_some.mpr hspelling)
  | unknownAttribute row id hrow hid hattr =>
    exact .unknownAttribute row id hrow hid (Store.attribute?_eq_none.mp hattr)
  | inconsistent leaf first l m => exact absurd rfl (hinconsistent _ _ _ _)

end Source

/-- What a compilation that fails blames is at fault. -/
theorem compile_error_founded {t : Table} {store : Store} {baseUri : String} {e : CompileError}
    (h : (compile t store baseUri).tree = .error e) : t.AtFault store e := by
  cases hindex : t.indexRows with
  | error e' =>
    simp only [compile, hindex] at h
    obtain rfl := Except.error.inj h
    exact Table.indexRows_eq_error store hindex
  | ok rows =>
    obtain ⟨ht, rfl⟩ := Table.indexRows_eq_ok.mp hindex
    simp only [compile, hindex] at h
    obtain ⟨c, hmoves, hhalt⟩ := Source.run_halts ⟨t, baseUri⟩ (.start t.nodeIds.zipIdx store)
    generalize Source.run ⟨t, baseUri⟩ (.start t.nodeIds.zipIdx store) = r at h hhalt
    obtain ⟨result, final⟩ := r
    cases result with
    | ok root => cases h
    | error e' =>
      obtain rfl := Except.error.inj h
      have hc := Source.consistent_of_moves ht hmoves
      -- of a fault of datatypes more is known than which two leaves differ
      cases hhalt with
      | inconsistent r l _ hfocus hmeans hagree =>
        exact hc.inconsistent_atFault ht (Source.settling_of_moves ht hmoves) hfocus hmeans hagree
      | cyclic r id hfocus hmeans hbranch hopen =>
        exact (hc.fault (.cyclic r id hfocus hmeans hbranch hopen)).atFault (by simp)
      | undefined r id hfocus hmeans hbranch hopen hrow =>
        exact (hc.fault (.undefined r id hfocus hmeans hbranch hopen hrow)).atFault (by simp)
      | unknownAttribute r t f e hfocus hattr =>
        refine (hc.fault (.unknownAttribute r t f e hfocus hattr)).atFault ?_
        obtain ⟨_, rfl⟩ := Store.resolve_eq_error hattr
        rw [Source.blame_unknownAttribute]
        simp
      | unknownOperator r t f a resolved hfocus hattr hop =>
        exact (hc.fault (.unknownOperator r t f a resolved hfocus hattr hop)).atFault (by simp)

/-- The leaf that settles the datatype lies below the leaf that does not agree with it, and in a row
that is described before. -/
theorem compile_error_founded_mixed :
    (compile Example.mixed Example.emptyStore "").tree.map (·.inferredType)
      = .error (.inconsistentType .string .int "Leaf_high_F" "Leaf_rest_T") ∧
    Example.mixed.AtFault Example.emptyStore
      (.inconsistentType .string .int "Leaf_high_F" "Leaf_rest_T") := by
  have hvalue : (compile Example.mixed Example.emptyStore "").tree.map (·.inferredType)
      = .error (.inconsistentType .string .int "Leaf_high_F" "Leaf_rest_T") := by
    decide +kernel
  exact ⟨hvalue, compile_error_founded (map_eq_error.mp hvalue)⟩

end DecisionTable
