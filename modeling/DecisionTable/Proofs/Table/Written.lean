import DecisionTable.Proofs.Table.Delimited
import DecisionTable.Proofs.Text.Digit
import DecisionTable.Text.Utf8

/-!
# Tables that are written in delimited lines

A table whose cells hold neither delimiters nor ends of lines, and have no blanks at their ends, can
be written in delimited lines, one for the headings and one for each row. Loading gives it back.
-/

namespace DecisionTable

/-! ### Bytes -/

namespace Text

/-- A byte below 0x80 is a character by itself. -/
theorem utf8Chars_ascii {bytes : List UInt8} (h : ∀ b ∈ bytes, b.toNat < 0x80)
    (size position : Nat) (done : List Char) :
    utf8Chars size position done 0 bytes
      = .ok (done.reverse ++ bytes.map fun b => Char.ofNat b.toNat) := by
  induction bytes generalizing position done with
  | nil => simp [utf8Chars]
  | cons b bytes ih =>
    rw [List.forall_mem_cons] at h
    have hlead : utf8Lead b.toNat = some (b.toNat, 0, 0x80, 0xBF) := if_pos h.1
    simp [utf8Chars, hlead, utf8Follow, ih h.2]

theorem ofUtf8_ascii {cs : List Char} (h : ∀ c ∈ cs, c.toNat < 0x80) :
    ofUtf8 (cs.map fun c => UInt8.ofNat c.toNat) = .ok (String.ofList cs) := by
  have hsmall : ∀ c ∈ cs, (UInt8.ofNat c.toNat).toNat = c.toNat := by
    intro c hc
    have hless := h c hc
    simp only [UInt8.toNat_ofNat']
    omega
  have hbytes : ∀ b ∈ cs.map fun c => UInt8.ofNat c.toNat, b.toNat < 0x80 := by
    rw [List.forall_mem_map]
    intro c hc
    rw [hsmall c hc]
    exact h c hc
  have hchars : (cs.map fun c => UInt8.ofNat c.toNat).map (fun b => Char.ofNat b.toNat) = cs := by
    rw [List.map_map]
    refine (List.map_congr_left ?_).trans (List.map_id cs)
    intro c hc
    simp only [Function.comp_apply, hsmall c hc, Char.ofNat_toNat, id]
  rw [ofUtf8, utf8Chars_ascii hbytes, hchars]
  rfl

end Text

namespace Csv

def lineOf (delimiter : Char) (cells : List (List Char)) : List Char :=
  [delimiter].intercalate cells

/-- Lines that each end with a newline. -/
def written (delimiter : Char) (rows : List (List (List Char))) : String :=
  String.ofList (['\n'].intercalate (rows.map (lineOf delimiter) ++ [[]]))

/-- A cell that can stand in a line as it is. -/
structure Clean (delimiter : Char) (cell : List Char) : Prop where
  noDelimiter : delimiter ∉ cell
  noNewline : '\n' ∉ cell
  noReturn : '\r' ∉ cell
  stripped : Text.trimBoth Text.isBlank cell = cell

instance (delimiter : Char) (cell : List Char) : Decidable (Clean delimiter cell) :=
  decidable_of_iff (delimiter ∉ cell ∧ '\n' ∉ cell ∧ '\r' ∉ cell ∧
      Text.trimBoth Text.isBlank cell = cell)
    ⟨fun h => ⟨h.1, h.2.1, h.2.2.1, h.2.2.2⟩,
      fun h => ⟨h.noDelimiter, h.noNewline, h.noReturn, h.stripped⟩⟩

theorem clean_of_digits {delimiter : Char} {ds : List Char} (hds : Text.Digits ds)
    (hdelimiter : Text.isDigit delimiter = false) : Clean delimiter ds := by
  have habsent : ∀ c, Text.isDigit c = false → c ∉ ds :=
    fun c hc hmem => Text.ne_of_isDigit (hds.digits c hmem) hc rfl
  refine ⟨habsent _ hdelimiter, habsent _ (by decide), habsent _ (by decide), ?_⟩
  have htrim : Text.trimBoth Text.isBlank (ds ++ []) = ds :=
    Text.trimBoth_append (fun c hc => Text.isBlank_of_isDigit (hds.digits c hc)) nofun
  rwa [List.append_nil] at htrim

/-- A row of clean cells that is not blank and fits in one line. -/
structure CleanRow (delimiter : Char) (cells : List (List Char)) : Prop where
  clean : ∀ cell ∈ cells, Clean delimiter cell
  entry : ∃ cell ∈ cells, cell ≠ []
  fits : (lineOf delimiter cells).length ≤ maxCellLength

variable {delimiter c : Char} {cells headings : List (List Char)} {rows : List (List (List Char))}

/-! ### One line -/

theorem forall_mem_intercalate {p : Char → Prop} {pieces : List (List Char)} (hc : p c)
    (h : ∀ piece ∈ pieces, ∀ d ∈ piece, p d) : ∀ d ∈ [c].intercalate pieces, p d := by
  induction pieces with
  | nil => simp
  | cons piece rest ih =>
    rw [List.forall_mem_cons] at h
    cases rest with
    | nil => simpa using h.1
    | cons next rest =>
      rw [List.intercalate_cons_cons, List.forall_mem_append, List.forall_mem_append,
        List.forall_mem_singleton]
      exact ⟨⟨h.1, hc⟩, ih h.2⟩

theorem forall_mem_written {p : Char → Prop} (hnewline : p '\n') (hdelimiter : p delimiter)
    (h : ∀ cells ∈ rows, ∀ cell ∈ cells, ∀ c ∈ cell, p c) :
    ∀ c ∈ (written delimiter rows).toList, p c := by
  rw [written, String.toList_ofList]
  refine forall_mem_intercalate hnewline ?_
  rw [List.forall_mem_append, List.forall_mem_map, List.forall_mem_singleton]
  exact ⟨fun cells hcells => forall_mem_intercalate hdelimiter (h cells hcells), nofun⟩

theorem notMem_lineOf (hc : c ≠ delimiter) (hcells : ∀ cell ∈ cells, c ∉ cell) :
    c ∉ lineOf delimiter cells := by
  have hall : ∀ d ∈ lineOf delimiter cells, d ≠ c :=
    forall_mem_intercalate hc.symm fun cell hcell d hd heq => hcells cell hcell (heq ▸ hd)
  exact fun hmem => hall c hmem rfl

theorem CleanRow.noReturn (h : CleanRow delimiter cells) (hreturn : delimiter ≠ '\r') :
    '\r' ∉ lineOf delimiter cells :=
  notMem_lineOf hreturn.symm fun cell hcell => (h.clean cell hcell).noReturn

theorem splitOn_lineOf (h : CleanRow delimiter cells) :
    (lineOf delimiter cells).splitOn delimiter = cells := by
  obtain ⟨cell, hcell, _⟩ := h.entry
  exact List.splitOn_intercalate delimiter (fun cell hcell => (h.clean cell hcell).noDelimiter)
    (List.ne_nil_of_mem hcell)

theorem cellsOf_lineOf (hreturn : delimiter ≠ '\r') (h : CleanRow delimiter cells) :
    cellsOf delimiter (lineOf delimiter cells) = cells.map String.ofList := by
  have hend : (lineOf delimiter cells).rdropWhile (· == '\r') = lineOf delimiter cells := by
    rw [List.rdropWhile_eq_self_iff]
    intro hne hlast
    exact h.noReturn hreturn (eq_of_beq hlast ▸ List.getLast_mem hne)
  unfold cellsOf
  rw [hend, splitOn_lineOf h]
  refine List.map_congr_left ?_
  intro cell hcell
  rw [Text.strip, String.toList_ofList, (h.clean cell hcell).stripped]

theorem not_isBlankRow (h : CleanRow delimiter cells) :
    isBlankRow (cells.map String.ofList) = false := by
  obtain ⟨cell, hcell, hne⟩ := h.entry
  unfold isBlankRow
  rw [List.all_eq_false]
  refine ⟨String.ofList cell, List.mem_map_of_mem hcell, ?_⟩
  simpa using hne

/-! ### All lines -/

theorem linesOf_written (hnewline : delimiter ≠ '\n')
    (h : ∀ cells ∈ rows, CleanRow delimiter cells) :
    linesOf (written delimiter rows) = rows.map (lineOf delimiter) := by
  have hlines : ∀ line ∈ rows.map (lineOf delimiter) ++ [[]], '\n' ∉ line := by
    rw [List.forall_mem_append, List.forall_mem_map]
    refine ⟨?_, by simp⟩
    intro cells hcells
    exact notMem_lineOf hnewline.symm fun cell hcell => ((h cells hcells).clean cell hcell).noNewline
  unfold linesOf written
  rw [String.toList_ofList, List.splitOn_intercalate '\n' hlines (by simp)]
  simp

theorem forall_mem_numberFrom {p : List String → Prop} {first : Nat} {lines : List (List Char)}
    (h : ∀ line ∈ lines, p (cellsOf delimiter line)) :
    ∀ l ∈ numberFrom delimiter first lines, p l.cells := by
  unfold numberFrom
  rw [List.forall_mem_map]
  intro entry hentry
  exact h _ (List.fst_mem_of_mem_zipIdx hentry)

theorem map_cells_numberFrom (delimiter : Char) (first : Nat) (lines : List (List Char)) :
    (numberFrom delimiter first lines).map (·.cells) = lines.map (cellsOf delimiter) := by
  unfold numberFrom
  rw [List.map_map]
  conv_rhs => rw [← List.zipIdx_map_fst first lines, List.map_map]
  rfl

theorem tabulate_full {head : Line} {body : List Line}
    (hhead : head.isBlank = false) (hbody : ∀ l ∈ body, l.isBlank = false)
    (hfits : ∀ l ∈ body, l.cells.length ≤ head.cells.length) (hnodup : head.cells.Nodup) :
    (tabulate (head :: body)).result = .ok ⟨head.cells, body.map (·.cells), hnodup⟩ := by
  have hfit : ∀ l ∈ body, Line.fits head.cells l = true := by
    intro l hl
    simp [Line.fits, hfits l hl]
  have hnone : body.find? (!Line.fits head.cells ·) = none := by
    rw [List.find?_eq_none]
    intro l hl
    simp [hfit l hl]
  have htaken : body.takeWhile (Line.fits head.cells) = body :=
    List.takeWhile_eq_self_iff.mpr hfit
  have hentries : body.filter (!Line.isBlank ·) = body :=
    List.filter_eq_self.mpr fun l hl => by rw [hbody l hl]; rfl
  unfold tabulate
  rw [List.dropWhile_cons_of_neg (by simp [hhead])]
  simp only [hnone, hnodup, dif_pos, htaken, hentries]

theorem load_written_eq (hnewline : delimiter ≠ '\n') (hreturn : delimiter ≠ '\r')
    (h : ∀ cells ∈ rows, CleanRow delimiter cells) :
    load delimiter (written delimiter rows)
      = tabulate (numberFrom delimiter 1 (rows.map (lineOf delimiter))) := by
  rw [load_eq_tabulate, linesOf_written hnewline h]
  rw [linesOf_written hnewline h, List.forall_mem_map]
  intro cells hcells
  have hnone := (h cells hcells).noReturn hreturn
  refine ⟨(List.takeWhile_sublist _).length_le.trans (h cells hcells).fits, ?_⟩
  rintro ⟨before, c, after, hsplit, _⟩
  rw [hsplit] at hnone
  simp at hnone

/-- A table that is written in delimited lines is loaded from them. -/
theorem load_written (hnewline : delimiter ≠ '\n') (hreturn : delimiter ≠ '\r')
    (hheadings : CleanRow delimiter headings) (hrows : ∀ cells ∈ rows, CleanRow delimiter cells)
    (hwidth : ∀ cells ∈ rows, cells.length ≤ headings.length)
    (hnodup : (headings.map String.ofList).Nodup) :
    (load delimiter (written delimiter (headings :: rows))).result
      = .ok ⟨headings.map String.ofList, rows.map (·.map String.ofList), hnodup⟩ := by
  let body := numberFrom delimiter 2 (rows.map (lineOf delimiter))
  have hlines : numberFrom delimiter 1 ((headings :: rows).map (lineOf delimiter))
      = ⟨1, headings.map String.ofList⟩ :: body := by
    rw [← cellsOf_lineOf hreturn hheadings]
    simp only [numberFrom, List.map_cons, List.zipIdx_cons, body]
  have hbody : ∀ l ∈ body, l.isBlank = false ∧ l.cells.length ≤ headings.length := by
    refine forall_mem_numberFrom
      (p := fun cells => isBlankRow cells = false ∧ cells.length ≤ headings.length) ?_
    rw [List.forall_mem_map]
    intro cells hcells
    rw [cellsOf_lineOf hreturn (hrows cells hcells), List.length_map]
    exact ⟨not_isBlankRow (hrows cells hcells), hwidth cells hcells⟩
  have hcells : body.map (·.cells) = rows.map (·.map String.ofList) := by
    rw [map_cells_numberFrom, List.map_map]
    exact List.map_congr_left fun cells hcells => cellsOf_lineOf hreturn (hrows cells hcells)
  have hhead : Line.isBlank ⟨1, headings.map String.ofList⟩ = false := not_isBlankRow hheadings
  have hall := List.forall_mem_cons.mpr ⟨hheadings, hrows⟩
  rw [load_written_eq hnewline hreturn hall, hlines]
  simp only [← hcells]
  refine tabulate_full hhead (fun l hl => (hbody l hl).1) ?_ hnodup
  intro l hl
  rw [List.length_map]
  exact (hbody l hl).2

end Csv

end DecisionTable
