import DecisionTable.Proofs.Text.Split
import DecisionTable.Proofs.Value.Fault
import DecisionTable.Session.Basic
import Mathlib.Data.List.DropRight

/-!
# Tables in delimited lines, read simply

Delimited lines can be read without a state: all lines are split into cells first, and then the line
of headings, the blank lines, the first line that is too long and the rows are picked out. Loading
takes in one line after the other and comes to the same, as long as carriage returns stand at the
ends of lines only.
-/

namespace DecisionTable

namespace Csv

/-! ### The simple reading -/

/-- A line of a text: its number, counted from one, and its cells. -/
structure Line where
  number : Nat
  cells : List String

def Line.isBlank (l : Line) : Bool :=
  isBlankRow l.cells

def Line.fits (headings : List String) (l : Line) : Bool :=
  l.isBlank || l.cells.length ≤ headings.length

/-- The lines of a text, each without its newline. No line follows a final newline. -/
def linesOf (text : String) : List (List Char) :=
  let pieces := text.toList.splitOn '\n'
  if pieces.getLast? = some [] then pieces.dropLast else pieces

/-- The stripped cells of a line, without the carriage returns at its end. -/
def cellsOf (delimiter : Char) (line : List Char) : List String :=
  ((line.rdropWhile (· == '\r')).splitOn delimiter).map fun cell => Text.strip (String.ofList cell)

/-- Lines with their numbers, split into cells. -/
def numberFrom (delimiter : Char) (first : Nat) (lines : List (List Char)) : List Line :=
  (lines.zipIdx first).map fun (line, number) => ⟨number, cellsOf delimiter line⟩

/-- What comes of a table in the given lines. The first line that is not blank has the headings; the
first line behind it that has more cells than there are headings is refused; if there is none, the
lines that are not blank are the rows. Blank lines behind the headings are reported up to there. -/
def tabulate (lines : List Line) : Loaded :=
  match lines.dropWhile Line.isBlank with
  | [] => ⟨[], .error (.rejected .empty)⟩
  | head :: body =>
    let taken := body.takeWhile (Line.fits head.cells)
    ⟨(taken.filter Line.isBlank).map (·.number),
      match body.find? (!Line.fits head.cells ·) with
      | some long =>
        .error (.rejected (.tooManyCells long.number long.cells.length head.cells.length))
      | none =>
        if h : head.cells.Nodup then
          .ok ⟨head.cells, (taken.filter (!Line.isBlank ·)).map (·.cells), h⟩
        else .error (.rejected (.duplicateHeadings (Table.duplicates head.cells)))⟩

/-- A carriage return that neither ends a line nor has another one behind it. -/
def HasStrayReturn (line : List Char) : Prop :=
  ∃ before c after, line = before ++ '\r' :: c :: after ∧ c ≠ '\r'

/-- No line of a text, up to its first carriage return, is longer than a cell may be. -/
def LinesFit (text : String) : Prop :=
  ∀ line ∈ linesOf text, (line.takeWhile (· != '\r')).length ≤ maxCellLength

variable {delimiter : Char} {line : List Char} {p q : Progress} {number : Nat} {text : String}

/-! ### Carriage returns -/

theorem hasStrayReturn_cons (h : HasStrayReturn line) (c : Char) : HasStrayReturn (c :: line) := by
  obtain ⟨before, d, after, rfl, hd⟩ := h
  exact ⟨c :: before, d, after, rfl, hd⟩

theorem hasStrayReturn_of_any {rest : List Char} (h : rest.any (· != '\r') = true) :
    HasStrayReturn ('\r' :: rest) := by
  induction rest with
  | nil => cases h
  | cons c rest ih =>
    by_cases hc : c = '\r'
    · subst hc
      exact hasStrayReturn_cons (ih (by simpa using h)) '\r'
    · exact ⟨[], c, rest, rfl, hc⟩

theorem any_dropWhile_iff :
    (line.dropWhile (· != '\r')).any (· != '\r') = true ↔ HasStrayReturn line := by
  induction line with
  | nil =>
    refine iff_of_false (by simp) ?_
    rintro ⟨before, c, after, hsplit, _⟩
    simp at hsplit
  | cons c line ih =>
    by_cases hc : c = '\r'
    · subst hc
      have hstops : ('\r' :: line).dropWhile (· != '\r') = '\r' :: line := by simp
      rw [hstops]
      constructor
      · intro h
        exact hasStrayReturn_of_any (by simpa using h)
      · rintro ⟨before, d, after, hsplit, hd⟩
        rw [hsplit]
        simp [hd]
    · have hgoes : (c :: line).dropWhile (· != '\r') = line.dropWhile (· != '\r') := by simp [hc]
      rw [hgoes, ih]
      constructor
      · exact fun h => hasStrayReturn_cons h c
      · rintro ⟨before, d, after, hsplit, hd⟩
        cases before with
        | nil => exact absurd (List.cons.inj hsplit).1 hc
        | cons b before => exact ⟨before, d, after, (List.cons.inj hsplit).2, hd⟩

theorem takeWhile_eq_rdropWhile (h : ¬ HasStrayReturn line) :
    line.takeWhile (· != '\r') = line.rdropWhile (· == '\r') := by
  -- behind the first carriage return there are only carriage returns, and before it there is none
  have hreturns : ∀ c ∈ line.dropWhile (· != '\r'), (c == '\r') = true := by
    intro c hc
    by_contra hother
    exact h (any_dropWhile_iff.mp (List.any_eq_true.mpr ⟨c, hc, by simpa using hother⟩))
  have hcontent : (line.takeWhile (· != '\r')).rdropWhile (· == '\r')
      = line.takeWhile (· != '\r') := by
    rw [List.rdropWhile_eq_self_iff]
    intro hne hlast
    have hin := List.mem_takeWhile_imp (List.getLast_mem hne)
    simp [beq_iff_eq.mp hlast] at hin
  conv_rhs => rw [← List.takeWhile_append_dropWhile (p := (· != '\r')) (l := line)]
  rw [List.rdropWhile, List.reverse_append,
    List.dropWhile_append_of_pos fun c hc => hreturns c (List.mem_reverse.mp hc)]
  exact hcontent.symm

theorem not_hasStrayReturn
    (h : ∀ i : Nat, text.toList[i]? = some '\r' → text.toList[i + 1]? = some '\n')
    (hline : line ∈ text.toList.splitOn '\n') : ¬ HasStrayReturn line := by
  rintro ⟨before, c, after, hsplit, hc⟩
  have hnewline : '\n' ∉ line := Text.notMem_of_mem_splitOn hline
  obtain ⟨front, back, htext, _⟩ := Text.exists_of_mem_splitOn hline
  have hwhole : text.toList = (front ++ before) ++ '\r' :: c :: (after ++ back) := by
    rw [htext, hsplit]
    simp
  have hreturn : text.toList[(front ++ before).length]? = some '\r' := by
    rw [hwhole, List.getElem?_append_right le_rfl, Nat.sub_self]
    rfl
  have hnext : text.toList[(front ++ before).length + 1]? = some c := by
    rw [hwhole, List.getElem?_append_right (Nat.le_succ _)]
    simp
  obtain rfl : c = '\n' := Option.some.inj (hnext.symm.trans (h _ hreturn))
  rw [hsplit] at hnewline
  simp at hnewline

theorem lines_eq_linesOf (text : String) : lines text.toList = linesOf text := by
  unfold lines linesOf
  rw [Text.splitChars_eq_splitOn]
  simp only [beq_iff_eq]

theorem mem_splitOn_of_mem_linesOf (h : line ∈ linesOf text) : line ∈ text.toList.splitOn '\n' := by
  unfold linesOf at h
  dsimp only at h
  split at h
  · exact (List.dropLast_sublist _).mem h
  · exact h

/-! ### One line -/

theorem length_le_of_mem_splitOn {content cell : List Char}
    (h : cell ∈ content.splitOn delimiter) : cell.length ≤ content.length := by
  obtain ⟨before, after, rfl, _⟩ := Text.exists_of_mem_splitOn h
  simp only [List.length_append]
  omega

theorem not_any_tooLong (hfit : (line.takeWhile (· != '\r')).length ≤ maxCellLength) :
    ¬ (if (line.takeWhile (· != '\r')).isEmpty then []
      else Text.splitChars delimiter (line.takeWhile (· != '\r'))).any
        (fun cell => decide (maxCellLength < cell.length)) = true := by
  rw [List.any_eq_true]
  rintro ⟨cell, hcell, hlong⟩
  split at hcell
  · exact List.not_mem_nil hcell
  · rw [Text.splitChars_eq_splitOn] at hcell
    have hlength := length_le_of_mem_splitOn hcell
    have hexceeds := of_decide_eq_true hlong
    omega

theorem readLine_of_stray (hfit : (line.takeWhile (· != '\r')).length ≤ maxCellLength)
    (h : HasStrayReturn line) : readLine delimiter line = .error .strayReturn := by
  unfold readLine splitLine
  dsimp only
  rw [if_neg (not_any_tooLong hfit), if_pos (any_dropWhile_iff.mpr h)]
  rfl

theorem addLine_of_blank {cells cells' : List String} (h : isBlankRow cells = true)
    (h' : isBlankRow cells' = true) : addLine p number cells = addLine p number cells' := by
  unfold addLine
  simp only [h, h', if_true]

/-- Taking in a line is taking in its cells; an empty line has one empty cell, or none. -/
theorem readLine_bind_addLine (hfit : (line.takeWhile (· != '\r')).length ≤ maxCellLength)
    (h : ¬ HasStrayReturn line) :
    readLine delimiter line >>= addLine p number = addLine p number (cellsOf delimiter line) := by
  have hcells : cellsOf delimiter line
      = ((line.takeWhile (· != '\r')).splitOn delimiter).map
          fun cell => String.ofList (Text.trimBoth Text.isBlank cell) := by
    unfold cellsOf Text.strip
    rw [takeWhile_eq_rdropWhile h]
    simp only [String.toList_ofList]
  have hnot : ¬ (line.dropWhile (· != '\r')).any (· != '\r') = true :=
    fun hany => h (any_dropWhile_iff.mp hany)
  unfold readLine splitLine
  dsimp only
  rw [if_neg (not_any_tooLong hfit), if_neg hnot, hcells]
  cases hcontent : line.takeWhile (· != '\r') with
  | nil => exact addLine_of_blank rfl rfl
  | cons c content =>
    rw [Text.splitChars_eq_splitOn]
    rfl

/-! ### Line after line -/

/-- Takes lines in that have been split, up to the first fault. -/
def takeIn : Progress → List Line → Progress × Option LoadFailure
  | p, [] => (p, none)
  | p, l :: rest =>
    match addLine p l.number l.cells with
    | .ok q => takeIn q rest
    | .error f => (p, some f)

def Progress.loaded (p : Progress) (fault : Option LoadFailure) : Loaded :=
  ⟨p.skipped.reverse, match fault with
    | some f => .error f
    | none => finish p⟩

theorem load_eq_loaded {fault : Option LoadFailure}
    (h : addLines delimiter {} 1 (linesOf text) = (p, fault)) :
    load delimiter text = p.loaded fault := by
  unfold load
  rw [lines_eq_linesOf, h]
  rfl

theorem addLines_eq_takeIn {lines : List (List Char)}
    (h : ∀ line ∈ lines, (line.takeWhile (· != '\r')).length ≤ maxCellLength ∧
      ¬ HasStrayReturn line) :
    addLines delimiter p number lines = takeIn p (numberFrom delimiter number lines) := by
  induction lines generalizing p number with
  | nil => rfl
  | cons line lines ih =>
    obtain ⟨⟨hfit, hstray⟩, hrest⟩ := List.forall_mem_cons.mp h
    have hnumbers : numberFrom delimiter number (line :: lines)
        = ⟨number, cellsOf delimiter line⟩ :: numberFrom delimiter (number + 1) lines := by
      simp only [numberFrom, List.zipIdx_cons, List.map_cons]
    rw [hnumbers, addLines, takeIn, readLine_bind_addLine hfit hstray]
    cases addLine p number (cellsOf delimiter line) with
    | ok q => exact ih hrest
    | error f => rfl

theorem takeIn_dropWhile_isBlank (hp : p.headings = none) (lines : List Line) :
    takeIn p lines = takeIn p (lines.dropWhile Line.isBlank) := by
  induction lines with
  | nil => rfl
  | cons l lines ih =>
    cases hblank : l.isBlank with
    | true =>
      have hpassed : addLine p l.number l.cells = .ok p := by
        unfold addLine
        rw [hp]
        exact congrArg _ (if_pos hblank)
      rw [List.dropWhile_cons_of_pos hblank, takeIn, hpassed]
      exact ih
    | false =>
      rw [List.dropWhile_cons_of_neg (by rw [hblank]; exact Bool.false_ne_true)]

/-- Below the headings, lines are taken in up to the first one that does not fit. -/
theorem takeIn_body (headings : List String) (rows : List (List String)) (skipped : List Nat)
    (lines : List Line) :
    let taken := lines.takeWhile (Line.fits headings)
    takeIn ⟨some headings, rows, skipped⟩ lines =
      (⟨some headings, ((taken.filter (!Line.isBlank ·)).map (·.cells)).reverse ++ rows,
          ((taken.filter Line.isBlank).map (·.number)).reverse ++ skipped⟩,
        (lines.find? (!Line.fits headings ·)).map fun long =>
          .rejected (.tooManyCells long.number long.cells.length headings.length)) := by
  -- the rows and the numbers of blank lines are kept last first, so both are reversed
  induction lines generalizing rows skipped with
  | nil => rfl
  | cons l lines ih =>
    dsimp only at ih ⊢
    cases hblank : l.isBlank with
    | true =>
      have hfits : l.fits headings = true := by simp [Line.fits, hblank]
      have hadd : addLine ⟨some headings, rows, skipped⟩ l.number l.cells
          = .ok ⟨some headings, rows, l.number :: skipped⟩ := if_pos hblank
      rw [takeIn, hadd]
      dsimp only
      rw [ih]
      simp [hfits, hblank]
    | false =>
      have hentry : ¬ isBlankRow l.cells = true := by
        intro h
        cases h.symm.trans hblank
      by_cases hlong : headings.length < l.cells.length
      · have hfits : l.fits headings = false := by simp [Line.fits, hblank, hlong]
        have hadd : addLine ⟨some headings, rows, skipped⟩ l.number l.cells
            = .error (.rejected (.tooManyCells l.number l.cells.length headings.length)) :=
          (if_neg hentry).trans (if_pos hlong)
        rw [takeIn, hadd]
        simp [hfits]
      · have hfits : l.fits headings = true := by simp [Line.fits, hblank]; omega
        have hadd : addLine ⟨some headings, rows, skipped⟩ l.number l.cells
            = .ok ⟨some headings, l.cells :: rows, skipped⟩ :=
          (if_neg hentry).trans (if_neg hlong)
        rw [takeIn, hadd]
        dsimp only
        rw [ih]
        simp [hfits, hblank]

/-- Taking in lines one after the other comes to what they say all together. -/
theorem loaded_takeIn {lines : List Line} {fault : Option LoadFailure}
    (h : takeIn {} lines = (p, fault)) : p.loaded fault = tabulate lines := by
  rw [takeIn_dropWhile_isBlank rfl] at h
  unfold tabulate
  cases hrest : lines.dropWhile Line.isBlank with
  | nil =>
    rw [hrest] at h
    obtain ⟨rfl, rfl⟩ := Prod.mk.inj h
    rfl
  | cons head body =>
    have hentry : ¬ isBlankRow head.cells = true := by
      have hhead := List.head_dropWhile_not Line.isBlank (hrest ▸ List.cons_ne_nil head body)
      simp only [hrest, List.head_cons] at hhead
      exact fun hblank => Bool.false_ne_true (hhead.symm.trans hblank)
    have hadd : addLine {} head.number head.cells = .ok ⟨some head.cells, [], []⟩ :=
      congrArg _ (if_neg hentry)
    rw [hrest, takeIn, hadd] at h
    dsimp only at h
    rw [takeIn_body] at h
    obtain ⟨rfl, rfl⟩ := Prod.mk.inj h
    dsimp only
    cases hlong : body.find? (!Line.fits head.cells ·) with
    | some long => simp [Progress.loaded]
    | none =>
      simp only [Progress.loaded, finish, Table.ofRows, Option.map_none, List.append_nil,
        List.reverse_reverse]
      split <;> rfl

theorem load_eq_tabulate
    (h : ∀ line ∈ linesOf text, (line.takeWhile (· != '\r')).length ≤ maxCellLength ∧
      ¬ HasStrayReturn line) :
    load delimiter text = tabulate (numberFrom delimiter 1 (linesOf text)) := by
  cases htaken : takeIn {} (numberFrom delimiter 1 (linesOf text)) with
  | mk p fault =>
    have hadded := (addLines_eq_takeIn h).trans htaken
    exact (load_eq_loaded hadded).trans (loaded_takeIn htaken)

end Csv

/-! ### Loading -/

def Workspace.warned (w : Workspace) (skipped : List Nat) : Workspace :=
  { w with warnings := w.warnings ++ skipped.map fun n => s!"Skipping blank line {n}" }

namespace Job

theorem run_loadTable (w : Workspace) (delimiter : Char) (text : String) :
    (loadTable text (some (String.singleton delimiter))).run.run w
      = ((Csv.load delimiter text).result.mapError .load,
        w.warned (Csv.load delimiter text).skipped) := by
  have hdelimiter : w.environment.delimiterFor (some (String.singleton delimiter))
      = .ok delimiter := by
    simp [Environment.delimiterFor]
  unfold loadTable
  show (Job.lift _ (w.environment.delimiterFor _) >>= _ : Job Table).run.run w = _
  rw [hdelimiter]
  show (Job.lift .load (Csv.load delimiter text).result).run.run
    (w.warned (Csv.load delimiter text).skipped) = _
  cases (Csv.load delimiter text).result <;> rfl

/-- If carriage returns stand before newlines only, so that a line has at most one and ends with it,
and no line is too long, then a table is loaded as the simple reading of its lines says, with one
warning for each blank line below the headings. -/
theorem loadTable_eq_tabulate (w : Workspace) (delimiter : Char) (text : String)
    (hreturns : ∀ i : Nat, text.toList[i]? = some '\r' → text.toList[i + 1]? = some '\n')
    (hfit : Csv.LinesFit text) :
    let read := Csv.tabulate (Csv.numberFrom delimiter 1 (Csv.linesOf text))
    (loadTable text (some (String.singleton delimiter))).run.run w
      = (read.result.mapError .load, w.warned read.skipped) := by
  intro read
  have hload : Csv.load delimiter text = read := by
    refine Csv.load_eq_tabulate ?_
    intro line hline
    exact ⟨hfit line hline,
      Csv.not_hasStrayReturn hreturns (Csv.mem_splitOn_of_mem_linesOf hline)⟩
  rw [run_loadTable, hload]

/-- A table with blank lines before and behind its headings, with quotes and with a backslash. -/
theorem loadTable_eq_tabulate_quoted :
    let text := " ;\r\nNode ID;True\r\n;\r\n\"a\\d\"; \"x\" \r\n"
    (∀ i : Nat, text.toList[i]? = some '\r' → text.toList[i + 1]? = some '\n') ∧
      Csv.LinesFit text ∧
      ∃ t, (loadTable text (some ";")).run.run {}
          = (.ok t, { warnings := ["Skipping blank line 3"] }) ∧
        t.headings = ["Node ID", "True"] ∧ t.rows = [["\"a\\d\"", "\"x\""]] := by
  intro text
  have hreturns : ∀ i < text.toList.length,
      text.toList[i]? = some '\r' → text.toList[i + 1]? = some '\n' := by
    decide +kernel
  have hall : ∀ i : Nat, text.toList[i]? = some '\r' → text.toList[i + 1]? = some '\n' :=
    fun i hi => hreturns i (List.getElem?_eq_some_iff.mp hi).1 hi
  have hfit : Csv.LinesFit text := by
    unfold Csv.LinesFit
    decide +kernel
  let read := Csv.tabulate (Csv.numberFrom ';' 1 (Csv.linesOf text))
  have hskipped : read.skipped = [3] := by decide +kernel
  have hvalue : read.result.map (fun t => (t.headings, t.rows))
      = .ok (["Node ID", "True"], [["\"a\\d\"", "\"x\""]]) := by decide +kernel
  obtain ⟨t, ht, hfields⟩ := map_eq_ok.mp hvalue
  obtain ⟨hheadings, hrows⟩ := Prod.mk.inj hfields
  refine ⟨hall, hfit, t, ?_, hheadings, hrows⟩
  have hrun : (loadTable text (some ";")).run.run {}
      = (read.result.mapError .load, Workspace.warned {} read.skipped) :=
    loadTable_eq_tabulate {} ';' text hall hfit
  rw [ht, hskipped] at hrun
  exact hrun

end Job

end DecisionTable
