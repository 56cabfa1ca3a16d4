import DecisionTable.Table.Csv
import DecisionTable.Table.Documents
import Mathlib.Data.List.DropRight
import Mathlib.Data.List.Forall2
import Mathlib.Data.List.Nodup

/-!
# Tables that were obtained

However a table was obtained, its cells have no blanks at their ends. A table of records has a cell
for every heading, and if no headings were given, then the required ones come first.
-/

namespace DecisionTable

/-! ### Stripping -/

namespace Text

theorem trimBoth_eq (p : Char → Bool) (cs : List Char) :
    trimBoth p cs = (cs.dropWhile p).rdropWhile p := rfl

theorem dropWhile_trimBoth (p : Char → Bool) (cs : List Char) :
    (trimBoth p cs).dropWhile p = trimBoth p cs := by
  rw [trimBoth_eq, List.dropWhile_eq_self_iff]
  intro hpos
  have hlead := List.rdropWhile_prefix p (cs.dropWhile p)
  have hfirst := List.dropWhile_eq_self_iff.mp (List.dropWhile_idempotent p cs)
    (hpos.trans_le hlead.length_le)
  rw [hlead.getElem hpos]
  exact hfirst

theorem trimBoth_trimBoth (p : Char → Bool) (cs : List Char) :
    trimBoth p (trimBoth p cs) = trimBoth p cs := by
  rw [trimBoth_eq p (trimBoth p cs), dropWhile_trimBoth, trimBoth_eq]
  exact List.rdropWhile_idempotent p _

theorem strip_ofList (cs : List Char) :
    strip (String.ofList (trimBoth isBlank cs)) = String.ofList (trimBoth isBlank cs) := by
  rw [strip, String.toList_ofList, trimBoth_trimBoth]

theorem strip_strip (s : String) : strip (strip s) = strip s :=
  strip_ofList s.toList

end Text

/-! ### Lists of results -/

section Results

variable {α β ε : Type} {f : α → Except ε β} {xs : List α}

theorem mapM_eq_ok {ys : List β} :
    xs.mapM f = .ok ys ↔ List.Forall₂ (fun x y => f x = .ok y) xs ys := by
  induction xs generalizing ys with
  | nil => cases ys <;> simp [pure, Except.pure]
  | cons x xs ih =>
    rw [List.mapM_cons]
    cases hx : f x with
    | error e => cases ys <;> simp [bind, Except.bind, hx]
    | ok y =>
      cases hxs : xs.mapM f with
      | error e => cases ys <;> simp [bind, Except.bind, ← ih, hxs, hx]
      | ok rest => cases ys <;> simp [bind, Except.bind, pure, Except.pure, ← ih, hxs, hx]

theorem mapM_eq_map {g : α → β} (h : ∀ x ∈ xs, f x = .ok (g x)) :
    xs.mapM f = .ok (xs.map g) := by
  rw [mapM_eq_ok, List.forall₂_map_right_iff, List.forall₂_same]
  exact h

end Results

namespace Table

/-- The cells have no blanks at their ends. -/
def Stripped (t : Table) : Prop :=
  ∀ row ∈ t.rows, ∀ text ∈ row, Text.strip text = text

def Full (t : Table) : Prop :=
  ∀ row ∈ t.rows, row.length = t.headings.length

variable {t : Table} {row : List String} {h : String}

/-! ### Cells -/

theorem cellOf_of_notMem (hh : h ∉ t.headings) (row : List String) : t.cellOf row h = "" := by
  rw [cellOf, List.idxOf?_eq_none_iff.mpr hh]

theorem Stripped.cellOf (ht : t.Stripped) (hrow : row ∈ t.rows) (h : String) :
    Text.strip (t.cellOf row h) = t.cellOf row h := by
  unfold Table.cellOf
  split
  · rename_i i _
    by_cases hi : i < row.length
    · have hget : row.getD i "" = row[i] := by simp [hi]
      rw [hget]
      exact ht row hrow _ (List.getElem_mem hi)
    · have hget : row.getD i "" = "" := by simp [hi]
      rw [hget]
      rfl
  · rfl

theorem idxOf?_heading (t : Table) {i : Nat} (hi : i < t.headings.length) :
    t.headings.idxOf? t.headings[i] = some i := by
  rw [List.idxOf?_eq_some_iff]
  refine ⟨hi, rfl, ?_⟩
  intro j hj hsame
  have hij : j = i := (List.Nodup.getElem_inj_iff t.nodup).mp hsame
  omega

theorem map_cellOf (t : Table) (hlength : row.length = t.headings.length) :
    t.headings.map (t.cellOf row) = row := by
  refine List.ext_getElem (by simp [hlength]) ?_
  intro i hi hi'
  rw [List.getElem_map, cellOf, t.idxOf?_heading (by omega)]
  simp [hi']

theorem cellOf_map {f : String → String} (hmem : h ∈ t.headings) :
    t.cellOf (t.headings.map f) h = f h := by
  obtain ⟨i, hi, rfl⟩ := List.mem_iff_getElem.mp hmem
  rw [cellOf, t.idxOf?_heading hi]
  simp [hi]

theorem cellOf_nil (t : Table) (h : String) : t.cellOf [] h = "" := by
  unfold cellOf
  split
  · rfl
  · rfl

/-! ### Headings of records -/

section Headings

variable {α : Type} {known names : List String} {records : List (Record α)}

def addName (known : List String) (name : String) : List String :=
  if known.contains name then known else known ++ [name]

theorem headingsOf_eq_foldl (records : List (Record α)) :
    headingsOf records
      = records.foldl (fun known record => (record.map (·.1)).foldl addName known)
          requiredHeadings := by
  unfold headingsOf
  congr 1
  funext known record
  rw [List.foldl_map]
  rfl

theorem addName_of_mem {name : String} (h : name ∈ known) : addName known name = known := by
  rw [addName, List.contains_iff_mem.mpr h, if_pos rfl]

theorem addName_of_notMem {name : String} (h : name ∉ known) :
    addName known name = known ++ [name] := by
  have hnot : ¬ known.contains name = true := fun hmem => h (List.contains_iff_mem.mp hmem)
  rw [addName, if_neg hnot]

/-- Names that are added follow those that are known. -/
theorem foldl_addName (hnames : names.Nodup) :
    names.foldl addName known = known ++ names.filter (· ∉ known) := by
  induction names generalizing known with
  | nil => simp
  | cons name names ih =>
    rw [List.nodup_cons] at hnames
    rw [List.foldl_cons]
    by_cases hname : name ∈ known
    · rw [addName_of_mem hname, ih hnames.2, List.filter_cons_of_neg (by simpa using hname)]
    · have hlater : names.filter (· ∉ known ++ [name]) = names.filter (· ∉ known) := by
        refine List.filter_congr ?_
        intro other hother
        have hne : other ≠ name := fun hsame => hnames.1 (hsame ▸ hother)
        simp [hne]
      rw [addName_of_notMem hname, ih hnames.2, hlater,
        List.filter_cons_of_pos (by simpa using hname)]
      simp

theorem prefix_addName (known : List String) (name : String) : known <+: addName known name := by
  unfold addName
  split
  · exact List.prefix_rfl
  · exact List.prefix_append _ _

theorem prefix_foldl_addName (names known : List String) : known <+: names.foldl addName known := by
  induction names generalizing known with
  | nil => exact List.prefix_rfl
  | cons name names ih =>
    rw [List.foldl_cons]
    exact (prefix_addName known name).trans (ih _)

theorem prefix_headingsOf (records : List (Record α)) :
    requiredHeadings <+: headingsOf records := by
  rw [headingsOf_eq_foldl]
  generalize requiredHeadings = known
  induction records generalizing known with
  | nil => exact List.prefix_rfl
  | cons record records ih =>
    rw [List.foldl_cons]
    exact (prefix_foldl_addName _ known).trans (ih _)

theorem foldl_known (hknown : ∀ name ∈ names, name ∈ known) :
    names.foldl addName known = known := by
  induction names with
  | nil => rfl
  | cons name names ih =>
    rw [List.forall_mem_cons] at hknown
    rw [List.foldl_cons, addName_of_mem hknown.1, ih hknown.2]

/-- Records of the same names need those names behind the required headings. -/
theorem headingsOf_eq (hnames : names.Nodup) (hne : records ≠ [])
    (hrecords : ∀ record ∈ records, record.map (·.1) = names) :
    headingsOf records = requiredHeadings ++ names.filter (· ∉ requiredHeadings) := by
  have hall : ∀ name ∈ names, name ∈ requiredHeadings ++ names.filter (· ∉ requiredHeadings) := by
    intro name hname
    by_cases hrequired : name ∈ requiredHeadings
    · exact List.mem_append_left _ hrequired
    · exact List.mem_append_right _ (List.mem_filter.mpr ⟨hname, by simpa using hrequired⟩)
  obtain ⟨record, records, rfl⟩ := List.exists_cons_of_ne_nil hne
  rw [List.forall_mem_cons] at hrecords
  rw [headingsOf_eq_foldl, List.foldl_cons, hrecords.1, foldl_addName hnames]
  -- the first record brings all names in, and the others bring no more
  generalize requiredHeadings ++ names.filter (· ∉ requiredHeadings) = known at hall
  clear hne
  induction records with
  | nil => rfl
  | cons next records ih =>
    rw [List.forall_mem_cons] at hrecords
    rw [List.foldl_cons, hrecords.2.1, foldl_known hall]
    exact ih ⟨hrecords.1, hrecords.2.2⟩

end Headings

/-! ### Records -/

section Records

variable {α ε : Type} {text : α → Except ε (Option String)} {reject : TableError → ε}
  {headings : Option (List String)} {records : List (Record α)}

theorem ofRows_eq_ok {names : List String} {rows : List (List String)}
    (h : ofRows names rows = .ok t) : t.headings = names ∧ t.rows = rows := by
  unfold ofRows at h
  split at h
  · obtain rfl := Except.ok.inj h
    exact ⟨rfl, rfl⟩
  · cases h

theorem ofRecords_eq_ok (h : ofRecords text reject headings records = .ok t) :
    t.headings = headings.getD (headingsOf records) ∧
      recordRows text t.headings records = .ok t.rows := by
  unfold ofRecords at h
  generalize hnames : headings.getD (headingsOf records) = names at h
  cases hrows : recordRows text names records with
  | error e =>
    simp only [hrows, bind, Except.bind] at h
    cases h
  | ok rows =>
    simp only [hrows, bind, Except.bind] at h
    cases htable : ofRows names rows with
    | error e =>
      rw [htable] at h
      cases h
    | ok t' =>
      rw [htable] at h
      obtain rfl := Except.ok.inj h
      obtain ⟨hheadings, hrows'⟩ := ofRows_eq_ok htable
      rw [hheadings, hrows']
      exact ⟨rfl, hrows⟩

theorem strip_recordCell {record : Record α} {cell : String}
    (hcell : recordCell text record h = .ok cell) : Text.strip cell = cell := by
  unfold recordCell at hcell
  split at hcell
  · obtain rfl := Except.ok.inj hcell
    rfl
  · rename_i value _
    cases hvalue : text value with
    | error e =>
      rw [hvalue] at hcell
      cases hcell
    | ok s =>
      rw [hvalue] at hcell
      obtain rfl := Except.ok.inj hcell
      exact Text.strip_strip _

/-- A row of a table of records has a stripped cell for every heading. -/
theorem row_of_record (h : recordRows text t.headings records = .ok t.rows) (hrow : row ∈ t.rows) :
    row.length = t.headings.length ∧ ∀ cell ∈ row, Text.strip cell = cell := by
  obtain ⟨i, hi, rfl⟩ := List.mem_iff_getElem.mp hrow
  have hrows := mapM_eq_ok.mp h
  have hcells := mapM_eq_ok.mp (hrows.get (hrows.length_eq ▸ hi) hi)
  refine ⟨hcells.length_eq.symm, ?_⟩
  intro cell hcell
  obtain ⟨j, hj, rfl⟩ := List.mem_iff_getElem.mp hcell
  exact strip_recordCell (hcells.get (hcells.length_eq ▸ hj) hj)

end Records

/-! ### Delimited lines -/

theorem strip_readLine {delimiter : Char} {line : List Char} {cells : List String}
    (h : Csv.readLine delimiter line = .ok cells) : ∀ cell ∈ cells, Text.strip cell = cell := by
  unfold Csv.readLine at h
  cases hsplit : Csv.splitLine delimiter line with
  | error e =>
    rw [hsplit] at h
    cases h
  | ok parts =>
    rw [hsplit] at h
    obtain rfl := Except.ok.inj h
    intro cell hcell
    obtain ⟨cs, _, rfl⟩ := List.mem_map.mp hcell
    exact Text.strip_ofList cs

def StrippedRows (p : Csv.Progress) : Prop :=
  ∀ row ∈ p.rows, ∀ cell ∈ row, Text.strip cell = cell

theorem strippedRows_addLine {p q : Csv.Progress} {number : Nat} {cells : List String}
    (hp : StrippedRows p) (hcells : ∀ cell ∈ cells, Text.strip cell = cell)
    (h : Csv.addLine p number cells = .ok q) : StrippedRows q := by
  unfold Csv.addLine at h
  split at h
  · obtain rfl := Except.ok.inj h
    split
    · exact hp
    · exact hp
  · split at h
    · obtain rfl := Except.ok.inj h
      exact hp
    · split at h
      · cases h
      · obtain rfl := Except.ok.inj h
        exact List.forall_mem_cons.mpr ⟨hcells, hp⟩

theorem strippedRows_addLines {delimiter : Char} {p : Csv.Progress} {number : Nat}
    {lines : List (List Char)} (hp : StrippedRows p) :
    StrippedRows (Csv.addLines delimiter p number lines).1 := by
  induction lines generalizing p number with
  | nil => exact hp
  | cons line lines ih =>
    unfold Csv.addLines
    split
    · rename_i q hq
      cases hread : Csv.readLine delimiter line with
      | error f =>
        rw [hread] at hq
        cases hq
      | ok cells =>
        rw [hread] at hq
        exact ih (strippedRows_addLine hp (strip_readLine hread) hq)
    · exact hp

theorem stripped_load {delimiter : Char} {text : String}
    (h : (Csv.load delimiter text).result = .ok t) : t.Stripped := by
  unfold Csv.load at h
  have hrows : StrippedRows (Csv.addLines delimiter {} 1 (Csv.lines text.toList)).1 :=
    strippedRows_addLines nofun
  generalize Csv.addLines delimiter {} 1 (Csv.lines text.toList) = loaded at h hrows
  obtain ⟨p, fault⟩ := loaded
  dsimp only at h hrows
  split at h
  · cases h
  · unfold Csv.finish at h
    split at h
    · cases h
    · rename_i names _
      cases htable : Table.ofRows names p.rows.reverse with
      | error e =>
        rw [htable] at h
        cases h
      | ok t' =>
        rw [htable] at h
        obtain rfl := Except.ok.inj h
        intro row hrow
        rw [(ofRows_eq_ok htable).2] at hrow
        exact hrows row (List.mem_reverse.mp hrow)

/-! ### Where tables come from -/

/-- A table that has come from records, with the headings that these need. -/
inductive OfRecords (t : Table) : Prop where
  | records {α ε : Type} (text : α → Except ε (Option String)) (reject : TableError → ε)
      (records : List (Record α)) (h : ofRecords text reject none records = .ok t) : OfRecords t
  | json (s : String) (h : ofJson s = .ok t) : OfRecords t

/-- A table that was loaded or made from records. -/
inductive Obtained (t : Table) : Prop where
  | lines (delimiter : Char) (text : String) (h : (Csv.load delimiter text).result = .ok t) :
      Obtained t
  | records {α ε : Type} (text : α → Except ε (Option String)) (reject : TableError → ε)
      (headings : Option (List String)) (records : List (Record α))
      (h : ofRecords text reject headings records = .ok t) : Obtained t
  | json (s : String) (h : ofJson s = .ok t) : Obtained t

theorem ofDocument_eq_ok {document : Json} (h : ofDocument document = .ok t) :
    ∃ records, ofRecords documentCell id none records = .ok t := by
  unfold ofDocument at h
  split at h
  · cases h
  · exact ⟨_, h⟩

theorem ofJson_eq_ok {s : String} (h : ofJson s = .ok t) :
    ∃ records, ofRecords documentCell id none records = .ok t := by
  unfold ofJson at h
  cases hparse : Json.parse s with
  | error f =>
    rw [hparse] at h
    cases h
  | ok document =>
    rw [hparse] at h
    exact ofDocument_eq_ok h

theorem OfRecords.exists_records (ht : t.OfRecords) : ∃ (α ε : Type)
    (text : α → Except ε (Option String)) (reject : TableError → ε) (records : List (Record α)),
    ofRecords text reject none records = .ok t := by
  cases ht with
  | records text reject records h => exact ⟨_, _, text, reject, records, h⟩
  | json s h =>
    obtain ⟨records, hrecords⟩ := ofJson_eq_ok h
    exact ⟨_, _, documentCell, id, records, hrecords⟩

theorem OfRecords.prefix_headings (ht : t.OfRecords) : requiredHeadings <+: t.headings := by
  obtain ⟨α, ε, text, reject, records, h⟩ := ht.exists_records
  rw [(ofRecords_eq_ok h).1]
  exact prefix_headingsOf records

theorem OfRecords.full (ht : t.OfRecords) : t.Full := by
  obtain ⟨α, ε, text, reject, records, h⟩ := ht.exists_records
  exact fun row hrow => (row_of_record (ofRecords_eq_ok h).2 hrow).1

theorem Obtained.stripped (ht : t.Obtained) : t.Stripped := by
  cases ht with
  | lines delimiter text h => exact stripped_load h
  | records text reject headings records h =>
    exact fun row hrow => (row_of_record (ofRecords_eq_ok h).2 hrow).2
  | json s h =>
    obtain ⟨records, hrecords⟩ := ofJson_eq_ok h
    exact fun row hrow => (row_of_record (ofRecords_eq_ok hrecords).2 hrow).2

end Table

end DecisionTable
