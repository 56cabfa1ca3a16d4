import DecisionTable.Proofs.Compile.Layout
import DecisionTable.Proofs.Table.Reload

/-!
# Compiling tables that were read again

A table with the required headings compiles as before when it was written in JSON and read again.
So tables can be kept in JSON, however they were obtained.
-/

namespace DecisionTable

namespace Table

variable {t t' : Table}

theorem nodeIds_eq (hlength : t'.rows.length = t.rows.length)
    (hcells : ∀ i h, t'.cell i h = t.cell i h) : t'.nodeIds = t.nodeIds := by
  refine List.ext_getElem? ?_
  intro i
  refine Option.ext ?_
  intro id
  rw [nodeIds_getElem?_eq_some, nodeIds_getElem?_eq_some, hlength, hcells]

theorem indexRows_eq (hheadings : ∀ h ∈ requiredHeadings, h ∈ t.headings)
    (hheadings' : ∀ h ∈ requiredHeadings, h ∈ t'.headings)
    (hlength : t'.rows.length = t.rows.length) (hcells : ∀ i h, t'.cell i h = t.cell i h) :
    t'.indexRows = t.indexRows := by
  have hmissing := missingHeadings_eq_nil.mpr hheadings
  have hmissing' := missingHeadings_eq_nil.mpr hheadings'
  have hempty : t'.rows.isEmpty = t.rows.isEmpty := by
    rw [Bool.eq_iff_iff, List.isEmpty_iff, List.isEmpty_iff, ← List.length_eq_zero_iff,
      ← List.length_eq_zero_iff, hlength]
  unfold indexRows
  rw [hmissing, hmissing', hempty, nodeIds_eq hlength hcells]

end Table

/-- Tables with the same cells below the required headings compile alike. -/
theorem compile_eq_of_cells {t t' : Table} (hheadings : ∀ h ∈ requiredHeadings, h ∈ t.headings)
    (hheadings' : ∀ h ∈ requiredHeadings, h ∈ t'.headings)
    (hlength : t'.rows.length = t.rows.length) (hcells : ∀ i h, t'.cell i h = t.cell i h)
    (store : Store) (baseUri : String) : compile t' store baseUri = compile t store baseUri := by
  have hindex := Table.indexRows_eq hheadings hheadings' hlength hcells
  cases hrows : t.indexRows with
  | error e => simp only [compile, hindex, hrows]
  | ok rows =>
    have ht : t.Indexed := (Table.indexRows_eq_ok.mp hrows).1
    have ht' : t'.Indexed := (Table.indexRows_eq_ok.mp (hindex.trans hrows)).1
    have hrequired : ∀ h ∈ requiredHeadings, h ∈ t.headings ↔ h ∈ t'.headings :=
      fun h hh => ⟨fun _ => hheadings' h hh, fun _ => hheadings h hh⟩
    have hcovers : t.Covers t' :=
      Table.covers_of_columns hrequired hlength fun i h _ _ => hcells i h
    have hcovers' : t'.Covers t :=
      Table.covers_of_columns (fun h hh => (hrequired h hh).symm) hlength.symm
        fun i h _ _ => (hcells i h).symm
    exact compile_eq_of_covers hcovers hcovers' ht ht' store baseUri

/-- Tables survive being written in JSON and read again. -/
theorem ofJson_toJson_obtained {t : Table} (ht : t.Obtained) (hrows : t.rows ≠ []) :
    ∃ back, Table.ofJson t.toJson = .ok back ∧ back.rows.length = t.rows.length ∧
      (∀ h, h ∈ back.headings ↔ h ∈ t.headings ∨ h ∈ requiredHeadings) ∧
      (∀ index h, h ∈ t.headings → back.lookup index h = t.lookup index h) ∧
      (∀ i h, h ∉ t.headings → back.cell i h = "") ∧
      (t.OfRecords → back = t) ∧
      ((∀ h ∈ requiredHeadings, h ∈ t.headings) → ∀ store baseUri,
        compile back store baseUri = compile t store baseUri) := by
  have hstripped := ht.stripped
  refine ⟨t.reloaded, Table.ofJson_toJson hrows, t.length_reloaded,
    fun h => Table.mem_reloadedHeadings, ?_, ?_, ?_, ?_⟩
  · exact fun index h hmem => Table.lookup_reloaded hstripped index hmem
  · intro i h hmem
    rw [Table.cell_reloaded hstripped]
    exact Table.cellOf_of_notMem hmem _
  · exact fun hrecords => Table.reloaded_eq hstripped hrecords.full hrecords.prefix_headings
  · intro hheadings store baseUri
    exact compile_eq_of_cells hheadings
      (fun h hh => Table.mem_reloadedHeadings.mpr (Or.inr hh)) t.length_reloaded
      (Table.cell_reloaded hstripped) store baseUri

/-- A row that is short, and a heading with characters that are written by their codes. -/
theorem ofJson_toJson_obtained_short :
    ∃ t back, (Csv.load ';' "Node ID; Größe 😀\nroot\n\nleaf ;\"x\"\n").result = .ok t ∧
      t.toJson = "[\x7b\"Node ID\": \"root\", \"Gr\\u00f6\\u00dfe \\ud83d\\ude00\": \"\"\x7d, "
        ++ "\x7b\"Node ID\": \"leaf\", \"Gr\\u00f6\\u00dfe \\ud83d\\ude00\": \"\\\"x\\\"\"\x7d]" ∧
      Table.ofJson t.toJson = .ok back ∧ back.rows.length = 2 ∧
      back.lookup 0 "Größe 😀" = .ok "" ∧ back.lookup (-1) "Größe 😀" = .ok "\"x\"" ∧
      back.cell 0 "Operator" = "" := by
  let t : Table := ⟨["Node ID", "Größe 😀"], [["root"], ["leaf", "\"x\""]], by decide⟩
  have hload : (Csv.load ';' "Node ID; Größe 😀\nroot\n\nleaf ;\"x\"\n").result = .ok t := by
    rfl
  obtain ⟨back, hback, hlength, _, hlookup, hadded, _, _⟩ :=
    ofJson_toJson_obtained (.lines ';' _ hload) (List.cons_ne_nil _ _)
  refine ⟨t, back, hload, by decide +kernel, hback, hlength, ?_, ?_, ?_⟩
  · rw [hlookup 0 _ (by decide)]
    rfl
  · rw [hlookup (-1) _ (by decide)]
    rfl
  · exact hadded 0 _ (by decide)

end DecisionTable
