import DecisionTable.Proofs.Json.Document
import DecisionTable.Proofs.Table.Records

/-!
# Tables that are written and read again

A table with rows that is written in JSON and read again has the required headings first and a cell
for every heading. Its cells are those of the table without the blanks at their ends.
-/

namespace DecisionTable

namespace Table

def reloadedHeadings (t : Table) : List String :=
  requiredHeadings ++ t.headings.filter (· ∉ requiredHeadings)

theorem mem_reloadedHeadings {t : Table} {h : String} :
    h ∈ t.reloadedHeadings ↔ h ∈ t.headings ∨ h ∈ requiredHeadings := by
  unfold reloadedHeadings
  rw [List.mem_append, List.mem_filter, decide_eq_true_eq]
  by_cases hrequired : h ∈ requiredHeadings
  · simp only [hrequired, true_or, or_true]
  · simp only [hrequired, not_false_eq_true, and_true, false_or, or_false]

theorem nodup_reloadedHeadings (t : Table) : t.reloadedHeadings.Nodup := by
  refine List.nodup_append.mpr ⟨requiredHeadings_nodup, t.nodup.filter _, ?_⟩
  rintro h hrequired other hother rfl
  exact of_decide_eq_true (List.mem_filter.mp hother).2 hrequired

/-- A table as it is read again. -/
def reloaded (t : Table) : Table :=
  ⟨t.reloadedHeadings,
    t.rows.map fun row => t.reloadedHeadings.map fun h => Text.strip (t.cellOf row h),
    t.nodup_reloadedHeadings⟩

variable {t : Table} {row : List String} {h : String}

/-! ### Documents of tables -/

def jsonRecord (t : Table) (row : List String) : Record Json :=
  t.headings.map fun h => (h, .string (t.cellOf row h))

theorem names_jsonRecord (t : Table) (row : List String) :
    (t.jsonRecord row).map (·.1) = t.headings := by
  rw [jsonRecord, List.map_map]
  exact List.map_id _

theorem toDocument_eq (t : Table) :
    t.toDocument = .array (t.rows.map fun row => .object (t.jsonRecord row)) := by
  simp only [toDocument, records, List.map_map]
  congr 2
  funext row
  simp [recordOf, jsonRecord]

theorem plain_toDocument (t : Table) : t.toDocument.Plain := by
  rw [toDocument_eq]
  refine .array _ ?_
  intro j hj
  obtain ⟨row, _, rfl⟩ := List.mem_map.mp hj
  refine .object _ ?_ ?_
  · rw [names_jsonRecord]
    exact t.nodup
  · intro m hm
    obtain ⟨h, _, rfl⟩ := List.mem_map.mp hm
    exact .string _

theorem documentRecords?_toDocument (t : Table) :
    documentRecords? t.toDocument = some (t.rows.map t.jsonRecord) := by
  rw [toDocument_eq]
  unfold documentRecords?
  generalize t.rows = rows
  induction rows with
  | nil => rfl
  | cons row rows ih =>
    dsimp only at ih ⊢
    rw [List.map_cons, List.mapM_cons, ih]
    rfl

theorem lookup_jsonRecord (t : Table) (row : List String) (h : String) :
    (t.jsonRecord row).lookup h
      = if h ∈ t.headings then some (.string (t.cellOf row h)) else none := by
  unfold jsonRecord
  induction t.headings with
  | nil => rfl
  | cons other names ih =>
    rw [List.map_cons, List.lookup_cons]
    by_cases hsame : h = other
    · subst hsame
      simp
    · rw [beq_false_of_ne hsame]
      simp only [ih, List.mem_cons, hsame, false_or]

theorem recordCell_jsonRecord (t : Table) (row : List String) (h : String) :
    recordCell documentCell (t.jsonRecord row) h = .ok (Text.strip (t.cellOf row h)) := by
  unfold recordCell
  rw [lookup_jsonRecord]
  by_cases hmem : h ∈ t.headings
  · rw [if_pos hmem]
    rfl
  · rw [if_neg hmem, cellOf_of_notMem hmem]
    rfl

/-! ### Reading again -/

theorem ofJson_toJson (hrows : t.rows ≠ []) : ofJson t.toJson = .ok t.reloaded := by
  have hheadings : headingsOf (t.rows.map t.jsonRecord) = t.reloadedHeadings := by
    refine headingsOf_eq t.nodup (by simpa using hrows) ?_
    intro record hrecord
    obtain ⟨row, _, rfl⟩ := List.mem_map.mp hrecord
    exact t.names_jsonRecord row
  have hcells : recordRows documentCell t.reloadedHeadings (t.rows.map t.jsonRecord)
      = .ok t.reloaded.rows := by
    unfold recordRows
    rw [mapM_eq_ok, List.forall₂_map_left_iff, reloaded, List.forall₂_map_right_iff,
      List.forall₂_same]
    intro row _
    exact mapM_eq_map fun h _ => t.recordCell_jsonRecord row h
  have htable : ofRows t.reloadedHeadings t.reloaded.rows = .ok t.reloaded := by
    rw [ofRows, dif_pos t.nodup_reloadedHeadings]
    rfl
  rw [ofJson, toJson, Json.parse_print t.plain_toDocument]
  simp only [Except.mapError, bind, Except.bind, ofDocument, documentRecords?_toDocument,
    ofRecords, Option.getD_none, hheadings, hcells, htable]

/-- Reading a table again does not change its cells, and those that are added are empty. -/
theorem cell_reloaded (ht : t.Stripped) (i : Nat) (h : String) :
    t.reloaded.cell i h = t.cell i h := by
  unfold cell
  by_cases hi : i < t.rows.length
  · have hrow : t.rows.getD i [] = t.rows[i] := by simp [hi]
    have hrow' : t.reloaded.rows.getD i []
        = t.reloaded.headings.map fun h => Text.strip (t.cellOf t.rows[i] h) := by
      simp [reloaded, hi]
    rw [hrow, hrow']
    by_cases hmem : h ∈ t.reloaded.headings
    · rw [cellOf_map hmem]
      exact ht.cellOf (List.getElem_mem hi) h
    · have hmem' : h ∉ t.headings := fun hm => hmem (mem_reloadedHeadings.mpr (Or.inl hm))
      rw [cellOf_of_notMem hmem, cellOf_of_notMem hmem']
  · have hrow : t.rows.getD i [] = [] := by simp [hi]
    have hrow' : t.reloaded.rows.getD i [] = [] := by simp [reloaded, hi]
    rw [hrow, hrow', cellOf_nil, cellOf_nil]

theorem length_reloaded (t : Table) : t.reloaded.rows.length = t.rows.length := by
  rw [reloaded, List.length_map]

theorem lookup_reloaded (ht : t.Stripped) (index : Int) (hmem : h ∈ t.headings) :
    t.reloaded.lookup index h = t.lookup index h := by
  have hmem' : h ∈ t.reloaded.headings := mem_reloadedHeadings.mpr (Or.inl hmem)
  simp only [lookup, List.contains_iff_mem.mpr hmem, List.contains_iff_mem.mpr hmem',
    length_reloaded, cell_reloaded ht]

/-- A table with all cells that has the required headings first is read as it was. -/
theorem reloaded_eq (ht : t.Stripped) (hfull : t.Full) (hlead : requiredHeadings <+: t.headings) :
    t.reloaded = t := by
  have hheadings : t.reloadedHeadings = t.headings := by
    obtain ⟨others, hothers⟩ := hlead
    have hnodup := t.nodup
    rw [← hothers, List.nodup_append] at hnodup
    have hfirst : requiredHeadings.filter (· ∉ requiredHeadings) = [] := by simp
    have hrest : others.filter (· ∉ requiredHeadings) = others := by
      rw [List.filter_eq_self]
      intro h hmem
      exact decide_eq_true fun hrequired => hnodup.2.2 h hrequired h hmem rfl
    rw [reloadedHeadings, ← hothers, List.filter_append, hfirst, hrest, List.nil_append]
  have hrows : (t.rows.map fun row => t.headings.map fun h => Text.strip (t.cellOf row h))
      = t.rows := by
    conv_rhs => rw [← List.map_id t.rows]
    refine List.map_congr_left ?_
    intro row hrow
    have hcells : (t.headings.map fun h => Text.strip (t.cellOf row h))
        = t.headings.map (t.cellOf row) :=
      List.map_congr_left fun h _ => ht.cellOf hrow h
    rw [hcells, map_cellOf t (hfull row hrow), id]
  cases t with
  | mk headings rows nodup =>
    simp only [reloaded, hheadings, hrows]

end Table

end DecisionTable
