import DecisionTable.Compile.Rows
import Mathlib.Data.List.Nodup

/-!
# Tables whose rows are told apart by their nodes

Rows can be indexed if the required headings are there, there is a row, and no two rows describe one
node. The index then numbers the node ids in the order of the rows. Otherwise the fault is blamed on
the headings, on the lack of rows, or on the first id that occurs for the second time.
-/

namespace DecisionTable

/-- Whether every row of a table can be found by the id of its node. -/
structure Table.Indexed (t : Table) : Prop where
  headings : ∀ h ∈ requiredHeadings, h ∈ t.headings
  nonempty : t.rows ≠ []
  distinct : t.nodeIds.Nodup

namespace Table

variable {t : Table}

/-! ### Node ids -/

theorem length_nodeIds (t : Table) : t.nodeIds.length = t.rows.length := by
  simp only [nodeIds, List.length_map]

theorem nodeIds_getElem?_eq_some {i : Nat} {id : String} :
    t.nodeIds[i]? = some id ↔ i < t.rows.length ∧ t.cell i nodeHeading = id := by
  by_cases hi : i < t.rows.length
  · simp [nodeIds, cell, List.getD, hi]
  · simp [nodeIds, hi]

theorem Indexed.row_unique (ht : t.Indexed) {i j : Nat} {id : String}
    (hi : t.nodeIds[i]? = some id) (hj : t.nodeIds[j]? = some id) : i = j := by
  have hlt : i < t.nodeIds.length := (List.getElem?_eq_some_iff.mp hi).1
  exact (List.getElem?_inj hlt ht.distinct).mp (hi.trans hj.symm)

theorem Indexed.length_pos (ht : t.Indexed) : 0 < t.rows.length :=
  List.length_pos_of_ne_nil ht.nonempty

theorem Indexed.first (ht : t.Indexed) : t.nodeIds[0]? = some (t.cell 0 nodeHeading) :=
  nodeIds_getElem?_eq_some.mpr ⟨ht.length_pos, rfl⟩

theorem Indexed.lookup_cell (ht : t.Indexed) {i : Nat} {h : String} (hi : i < t.rows.length)
    (hh : h ∈ requiredHeadings) : t.lookup i h = .ok (t.cell i h) := by
  have hhead : t.headings.contains h = true := List.contains_iff_mem.mpr (ht.headings h hh)
  have hpos : position? (i : Int) t.rows.length = some i := by
    have hnonneg : ¬ (i : Int) < 0 := by omega
    simp only [position?, if_neg hnonneg]
    simp [hi]
  simp only [lookup, hhead, hpos, Bool.not_true, Bool.false_eq_true, if_false]

theorem missingHeadings_eq_nil :
    t.missingHeadings = [] ↔ ∀ h ∈ requiredHeadings, h ∈ t.headings := by
  have hsort : t.missingHeadings = []
      ↔ (requiredHeadings.filter fun h => !t.headings.contains h) = [] := by
    rw [← List.length_eq_zero_iff, ← List.length_eq_zero_iff]
    simp only [missingHeadings, sortTexts, List.length_mergeSort]
  rw [hsort, List.filter_eq_nil_iff]
  simp

end Table

/-! ### Numbering -/

theorem lookup_zipIdx_reverse_isSome {ids : List String} {id : String} :
    (ids.zipIdx.reverse.lookup id).isSome ↔ id ∈ ids := by
  rw [List.lookup_isSome_iff]
  constructor
  · rintro ⟨p, hp, heq⟩
    have hmem : (p.1, p.2) ∈ ids.zipIdx := List.mem_reverse.mp hp
    have hget : ids[p.2]? = some p.1 := List.mem_zipIdx_iff_getElem?.mp hmem
    rw [eq_of_beq heq]
    exact List.mem_of_getElem? hget
  · intro hid
    obtain ⟨i, hi⟩ := List.mem_iff_getElem?.mp hid
    have hmem : (id, i) ∈ ids.zipIdx := List.mem_zipIdx_iff_getElem?.mpr hi
    exact ⟨(id, i), List.mem_reverse.mpr hmem, beq_self_eq_true id⟩

theorem zipIdx_concat_reverse (ids : List String) (id : String) :
    (ids ++ [id]).zipIdx.reverse = (id, ids.zipIdx.reverse.length) :: ids.zipIdx.reverse := by
  simp [List.zipIdx_append]

/-- Numbering goes on from distinct ids to the end, or to the first id that occurs again. -/
theorem numberIds_cases (known ids : List String) (hknown : known.Nodup) :
    ((known ++ ids).Nodup ∧ numberIds known.zipIdx.reverse ids = .ok (known ++ ids).zipIdx) ∨
    ∃ before id after, known ++ ids = before ++ id :: after ∧ before.Nodup ∧ id ∈ before ∧
      numberIds known.zipIdx.reverse ids = .error (.duplicateNode id) := by
  -- what is known grows by one id at a time, and the numbers are those of its reversed index
  induction ids generalizing known with
  | nil =>
    left
    rw [List.append_nil]
    exact ⟨hknown, by simp only [numberIds, List.reverse_reverse]⟩
  | cons id rest ih =>
    by_cases hid : id ∈ known
    · right
      refine ⟨known, id, rest, rfl, hknown, hid, ?_⟩
      simp only [numberIds, lookup_zipIdx_reverse_isSome.mpr hid, if_true]
    · have hnot : ¬ (known.zipIdx.reverse.lookup id).isSome = true :=
        fun h => hid (lookup_zipIdx_reverse_isSome.mp h)
      have hnext : (known ++ [id]).Nodup := by
        rw [List.nodup_append_comm, List.singleton_append, List.nodup_cons]
        exact ⟨hid, hknown⟩
      have hstep : numberIds known.zipIdx.reverse (id :: rest)
          = numberIds (known ++ [id]).zipIdx.reverse rest := by
        rw [zipIdx_concat_reverse]
        simp only [numberIds, if_neg hnot]
      have happ : known ++ id :: rest = (known ++ [id]) ++ rest := by simp
      rw [hstep, happ]
      exact ih (known ++ [id]) hnext

theorem numberIds_eq_ok {ids : List String} {rows : List (String × Nat)} :
    numberIds [] ids = .ok rows ↔ ids.Nodup ∧ rows = ids.zipIdx := by
  rcases numberIds_cases [] ids List.nodup_nil with ⟨hnodup, hok⟩ | ⟨before, id, after, heq, hrest⟩
  · constructor
    · intro h
      exact ⟨hnodup, Except.ok.inj (h.symm.trans hok)⟩
    · rintro ⟨_, rfl⟩
      exact hok
  · obtain ⟨_, hid, herror⟩ := hrest
    constructor
    · intro h
      cases h.symm.trans herror
    · rintro ⟨hnodup, _⟩
      have hagain : (before ++ id :: after).Nodup := heq ▸ hnodup
      exact absurd rfl ((List.nodup_append.mp hagain).2.2 id hid id (List.mem_cons_self ..))

namespace Table

variable {t : Table}

/-- The index of a table: every row that can be told apart is numbered, in the order of the rows. -/
theorem indexRows_eq_ok {rows : List (String × Nat)} :
    t.indexRows = .ok rows ↔ t.Indexed ∧ rows = t.nodeIds.zipIdx := by
  constructor
  · intro h
    simp only [indexRows] at h
    split at h
    · cases h
    · rename_i hmissing
      split at h
      · cases h
      · rename_i hrows
        have hheadings : t.missingHeadings = [] := by simpa using hmissing
        have hnonempty : t.rows ≠ [] := by simpa using hrows
        obtain ⟨hnodup, heq⟩ := numberIds_eq_ok.mp h
        exact ⟨⟨missingHeadings_eq_nil.mp hheadings, hnonempty, hnodup⟩, heq⟩
  · rintro ⟨ht, rfl⟩
    have hheadings := missingHeadings_eq_nil.mpr ht.headings
    have hnonempty : t.rows.isEmpty = false := by simpa using ht.nonempty
    simp only [indexRows, hheadings, hnonempty, List.isEmpty_nil, Bool.not_true, Bool.false_eq_true,
      if_false]
    exact numberIds_eq_ok.mpr ⟨ht.distinct, rfl⟩

theorem Indexed.indexRows (ht : t.Indexed) : t.indexRows = .ok t.nodeIds.zipIdx :=
  indexRows_eq_ok.mpr ⟨ht, rfl⟩

end Table

end DecisionTable
