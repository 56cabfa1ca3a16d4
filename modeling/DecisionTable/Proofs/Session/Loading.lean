import DecisionTable.Proofs.Action.LifeCycle
import DecisionTable.Proofs.Table.Delimited

/-!
# Faults of table files

Whatever a file holds, reading it as a table ends with a table, with a fault of the table, or at a
carriage return that stands inside a line. Faults of the table are noted in the log when an action
is initialised; a stray carriage return is not.
-/

namespace DecisionTable

namespace Csv

variable {delimiter : Char} {text : String} {p q : Progress} {number : Nat} {fault : LoadFailure}

/-- The reading of a text meets a line with a stray carriage return: the lines before it have none,
and none of them has more cells than there are headings. -/
def MeetsStrayReturn (delimiter : Char) (text : String) : Prop :=
  ∃ before line after, linesOf text = before ++ line :: after ∧ HasStrayReturn line ∧
    (∀ other ∈ before, ¬ HasStrayReturn other) ∧
    ∀ number cells headings, (tabulate (numberFrom delimiter 1 before)).result
      ≠ .error (.rejected (.tooManyCells number cells headings))

theorem addLine_eq_error {cells : List String} (h : addLine p number cells = .error fault) :
    ∃ headings, fault = .rejected (.tooManyCells number cells.length headings) := by
  unfold addLine at h
  split at h
  · cases h
  · split at h
    · cases h
    · split at h
      · exact ⟨_, (Except.error.inj h).symm⟩
      · cases h

theorem takeIn_fault {lines : List Line} (h : takeIn p lines = (q, some fault)) :
    ∃ number cells headings, fault = .rejected (.tooManyCells number cells headings) := by
  induction lines generalizing p with
  | nil => cases h
  | cons l lines ih =>
    unfold takeIn at h
    split at h
    · exact ih h
    · rename_i f hadd
      obtain ⟨headings, hf⟩ := addLine_eq_error hadd
      obtain rfl : f = fault := Option.some.inj (Prod.mk.inj h).2
      exact ⟨_, _, headings, hf⟩

theorem addLines_append (before after : List (List Char)) :
    addLines delimiter p number (before ++ after) = match addLines delimiter p number before with
      | (q, none) => addLines delimiter q (number + before.length) after
      | (q, some f) => (q, some f) := by
  induction before generalizing p number with
  | nil => rfl
  | cons line before ih =>
    rw [List.cons_append, addLines, addLines]
    cases readLine delimiter line >>= addLine p number with
    | error f => rfl
    | ok q =>
      dsimp only
      rw [ih, List.length_cons, Nat.add_right_comm, Nat.add_assoc]

theorem tabulate_ne_tooManyCells {lines : List Line} (h : takeIn {} lines = (p, none))
    (number cells headings : Nat) :
    (tabulate lines).result ≠ .error (.rejected (.tooManyCells number cells headings)) := by
  rw [← loaded_takeIn h]
  intro hrejected
  have hfinish : finish p = .error (.rejected (.tooManyCells number cells headings)) := hrejected
  unfold finish Table.ofRows at hfinish
  split at hfinish
  · cases hfinish
  · split at hfinish
    · cases hfinish
    · cases hfinish

theorem tabulate_cases (lines : List Line) : (∃ t, (tabulate lines).result = .ok t) ∨
    ∃ e, (tabulate lines).result = .error (.rejected e) := by
  unfold tabulate
  split
  · exact Or.inr ⟨_, rfl⟩
  · dsimp only
    split
    · exact Or.inr ⟨_, rfl⟩
    · split
      · exact Or.inl ⟨_, rfl⟩
      · exact Or.inr ⟨_, rfl⟩

/-! ### The first stray carriage return -/

theorem exists_first_stray {lines : List (List Char)}
    (h : ¬ ∀ line ∈ lines, ¬ HasStrayReturn line) :
    ∃ before line after, lines = before ++ line :: after ∧ HasStrayReturn line ∧
      ∀ other ∈ before, ¬ HasStrayReturn other := by
  induction lines with
  | nil => exact absurd (by simp) h
  | cons line lines ih =>
    by_cases hstray : HasStrayReturn line
    · exact ⟨[], line, lines, rfl, hstray, nofun⟩
    · have hrest : ¬ ∀ line ∈ lines, ¬ HasStrayReturn line :=
        fun hall => h (List.forall_mem_cons.mpr ⟨hstray, hall⟩)
      obtain ⟨before, first, after, rfl, hfirst, hbefore⟩ := ih hrest
      exact ⟨line :: before, first, after, rfl, hfirst,
        List.forall_mem_cons.mpr ⟨hstray, hbefore⟩⟩

theorem before_unique {before before' after after' : List (List Char)} {line line' : List Char}
    (h : before ++ line :: after = before' ++ line' :: after')
    (hline : HasStrayReturn line) (hline' : HasStrayReturn line')
    (hbefore : ∀ other ∈ before, ¬ HasStrayReturn other)
    (hbefore' : ∀ other ∈ before', ¬ HasStrayReturn other) : before = before' := by
  induction before generalizing before' with
  | nil =>
    cases before' with
    | nil => rfl
    | cons other rest =>
      obtain rfl := (List.cons.inj h).1
      exact absurd hline (hbefore' _ (List.mem_cons_self ..))
  | cons other rest ih =>
    cases before' with
    | nil =>
      obtain rfl := (List.cons.inj h).1
      exact absurd hline' (hbefore _ (List.mem_cons_self ..))
    | cons other' rest' =>
      obtain ⟨rfl, hrest⟩ := List.cons.inj h
      rw [ih hrest (fun o ho => hbefore o (List.mem_cons_of_mem _ ho))
        fun o ho => hbefore' o (List.mem_cons_of_mem _ ho)]

/-- If no line is too long, a text is a table or has a fault of the table, unless its reading meets
a stray carriage return, which is then what is wrong. -/
theorem load_result_cases (delimiter : Char) (hfit : LinesFit text) :
    (MeetsStrayReturn delimiter text ∧ (load delimiter text).result = .error .strayReturn) ∨
      ¬ MeetsStrayReturn delimiter text ∧ ((∃ t, (load delimiter text).result = .ok t) ∨
        ∃ e, (load delimiter text).result = .error (.rejected e)) := by
  by_cases hnone : ∀ line ∈ linesOf text, ¬ HasStrayReturn line
  · refine Or.inr ⟨?_, ?_⟩
    · rintro ⟨before, line, after, hlines, hstray, _⟩
      exact hnone line (by rw [hlines]; simp) hstray
    · rw [load_eq_tabulate fun line hline => ⟨hfit line hline, hnone line hline⟩]
      exact tabulate_cases _
  · obtain ⟨before, line, after, hlines, hstray, hbefore⟩ := exists_first_stray hnone
    have hgood : ∀ other ∈ before, (other.takeWhile (· != '\r')).length ≤ maxCellLength ∧
        ¬ HasStrayReturn other := by
      intro other hother
      exact ⟨hfit other (hlines ▸ List.mem_append_left _ hother), hbefore other hother⟩
    cases htaken : takeIn {} (numberFrom delimiter 1 before) with
    | mk p fault =>
      have hadded := (addLines_eq_takeIn hgood).trans htaken
      cases fault with
      | some f =>
        -- a line before the stray return has too many cells, and the reading ends there
        obtain ⟨number, cells, headings, rfl⟩ := takeIn_fault htaken
        have hends : addLines delimiter {} 1 (linesOf text)
            = (p, some (.rejected (.tooManyCells number cells headings))) := by
          rw [hlines, addLines_append, hadded]
        -- the first stray return stands behind that line, so the reading does not meet it
        refine Or.inr ⟨?_, Or.inr ⟨.tooManyCells number cells headings, ?_⟩⟩
        · rintro ⟨before', line', after', hlines', hstray', hbefore', hfits⟩
          have hsame : before = before' :=
            before_unique (hlines.symm.trans hlines') hstray hstray' hbefore hbefore'
          refine hfits number cells headings ?_
          rw [← hsame, ← loaded_takeIn htaken]
          rfl
        · rw [load_eq_loaded hends]
          rfl
      | none =>
        have hline : line ∈ linesOf text := by
          rw [hlines]
          simp
        have hread : readLine delimiter line = .error .strayReturn :=
          readLine_of_stray (hfit line hline) hstray
        have hends : addLines delimiter {} 1 (linesOf text) = (p, some .strayReturn) := by
          rw [hlines, addLines_append, hadded]
          dsimp only
          rw [addLines, hread]
          rfl
        refine Or.inl ⟨⟨before, line, after, hlines, hstray, hbefore, ?_⟩, ?_⟩
        · exact tabulate_ne_tooManyCells htaken
        · rw [load_eq_loaded hends]
          rfl

end Csv

/-! ### Actions and their files -/

/-- What the log says of a table file that cannot be used. -/
def KeptAction.complaint (k : KeptAction) (failure : Failure) : LogLine :=
  ⟨.error, "tdtree.action", s!"Reading decision tree CSV file {k.action.file}: {failure.message}"⟩

variable {w : Workspace} {name file : String} {bytes : List UInt8} {text : String}
  {k : KeptAction} {choice : Attribute} {resolved : Store}

namespace Job

theorem run_loadTableFile (hfile : w.files.lookup file = some bytes)
    (htext : Text.ofUtf8 bytes = .ok text) (delimiter : Char) :
    (loadTableFile file (some (String.singleton delimiter))).run.run w
      = ((Csv.load delimiter text).result.mapError .load,
        w.warned (Csv.load delimiter text).skipped) := by
  have hthere : ¬ (w.files.lookup file).isNone = true := by simp [hfile]
  have hread : (readText file).run.run w = (.ok text, w) :=
    gives_readText.mpr ⟨bytes, hfile, htext, rfl⟩
  unfold loadTableFile
  show (if (w.files.lookup file).isNone = true then _ else _ : Job Table).run.run w = _
  rw [if_neg hthere, run_bind, hread]
  exact run_loadTable w delimiter text

theorem run_initialise_of_load {w' : Workspace} {failure : Failure}
    (hname : w.actions.lookup name = some k)
    (hchoice : (w.stores.getD k.store {}).resolve k.action.choiceAttribute
      = .ok (choice, resolved))
    (hsingle : choice.cardinality = .single)
    (hload : (loadTableFile k.action.file k.action.delimiter).run.run
      { w with stores := w.stores.set k.store resolved } = (.error failure, w')) :
    (initialise name).run.run w
      = (.error failure, ((PlaceJob.noteFailure k failure).run.run w').2) := by
  have hresolve : (resolve k.store k.action.choiceAttribute).run.run w
      = (.ok choice, { w with stores := w.stores.set k.store resolved }) :=
    gives_resolve_iff.mpr ⟨resolved, hchoice, rfl⟩
  have hnot : ¬ choice.cardinality = .multi := by simp [hsingle]
  obtain ⟨w'', hnote⟩ := PlaceJob.run_noteFailure k failure w'
  have htree : (loadActionTree k).run.run { w with stores := w.stores.set k.store resolved }
      = (.error failure, w'') := by
    rw [loadActionTree_eq, run_tryCatch, run_bind, hload]
    dsimp only
    rw [run_bind, hnote]
    rfl
  have hprepare : (prepare k).run.run w = (.error failure, w'') := by
    unfold prepare
    rw [run_bind, hresolve]
    dsimp only
    rw [if_neg hnot, run_bind, htree]
  rw [run_initialise hname, hprepare, hnote]

/-- A file that holds a text without lines that are too long is read as a table, or it has a fault of
the table, unless the reading meets a stray carriage return. An action that is initialised with the
file notes a fault of the table in the log and passes it on; a stray carriage return is passed on
without a note. -/
theorem loadTableFile_outcome (hfile : w.files.lookup file = some bytes)
    (htext : Text.ofUtf8 bytes = .ok text) (hfit : Csv.LinesFit text) (delimiter : Char) :
    let read := Csv.load delimiter text
    let given := some (String.singleton delimiter)
    (loadTableFile file given).run.run w
        = (read.result.mapError .load, w.warned read.skipped) ∧
    (read.result = .error .strayReturn ↔ Csv.MeetsStrayReturn delimiter text) ∧
    (¬ Csv.MeetsStrayReturn delimiter text →
      (∃ t, read.result = .ok t) ∨ ∃ e, read.result = .error (.rejected e)) ∧
    ∀ name k choice resolved, w.actions.lookup name = some k → k.action.file = file →
      k.action.delimiter = given →
      (w.stores.getD k.store {}).resolve k.action.choiceAttribute = .ok (choice, resolved) →
      choice.cardinality = .single →
      let after := { w with stores := w.stores.set k.store resolved }.warned read.skipped
      (∀ e, read.result = .error (.rejected e) →
        ∃ w', (log [k.complaint (.load (.rejected e))]).Gives after () w' ∧
          (initialise name).run.run w = (.error (.load (.rejected e)), w')) ∧
      (Csv.MeetsStrayReturn delimiter text →
        (initialise name).run.run w = (.error (.load .strayReturn), after)) := by
  intro read given
  have hstray : read.result = .error .strayReturn ↔ Csv.MeetsStrayReturn delimiter text := by
    rcases Csv.load_result_cases delimiter hfit with ⟨hmeets, hload⟩ | ⟨hnot, hload⟩
    · exact iff_of_true hload hmeets
    · refine iff_of_false ?_ hnot
      intro hresult
      rcases hload with ⟨t, ht⟩ | ⟨e, he⟩
      · cases ht.symm.trans hresult
      · cases he.symm.trans hresult
  refine ⟨run_loadTableFile hfile htext delimiter, hstray, ?_, ?_⟩
  · intro hnot
    exact ((Csv.load_result_cases delimiter hfit).resolve_left fun h => hnot h.1).2
  · rintro name k choice resolved hname rfl hgiven hchoice hsingle after
    let session : Workspace := { w with stores := w.stores.set k.store resolved }
    have hfile' : session.files.lookup k.action.file = some bytes := hfile
    have hload : (loadTableFile k.action.file k.action.delimiter).run.run session
        = (read.result.mapError .load, after) := by
      rw [hgiven]
      exact run_loadTableFile hfile' htext delimiter
    refine ⟨?_, ?_⟩
    · intro e he
      rw [he] at hload
      obtain ⟨w', hnote⟩ := PlaceJob.run_noteFailure k (.load (.rejected e)) after
      refine ⟨w', hnote, ?_⟩
      rw [run_initialise_of_load hname hchoice hsingle hload, hnote]
    · intro hmeets
      rw [hstray.mpr hmeets] at hload
      rw [run_initialise_of_load hname hchoice hsingle hload]
      rfl

end Job

namespace Example

def commaAction : KeptAction :=
  { fileAction with action := { fileAction.action with delimiter := some "," } }

def loading (content : String) : Workspace :=
  { filed [("tree.csv", Text.toUtf8 content)] with
    actions := [("a", commaAction)]
    logging := some ⟨LogLevel.info.weight, true, none⟩ }

end Example

namespace Job

/-- A heading that is given twice is a fault of the table, and is noted in the log. -/
theorem loadTableFile_outcome_repeated :
    let w := Example.loading "Node ID,Node ID\n"
    ∃ bytes, w.files.lookup "tree.csv" = some bytes ∧
      Text.ofUtf8 bytes = .ok "Node ID,Node ID\n" ∧ Csv.LinesFit "Node ID,Node ID\n" ∧
      ∃ after w', (log [Example.commaAction.complaint
          (.load (.rejected (.duplicateHeadings ["Node ID"])))]).Gives after () w' ∧
        (initialise "a").run.run w
          = (.error (.load (.rejected (.duplicateHeadings ["Node ID"]))), w') := by
  intro w
  have htext : Text.ofUtf8 (Text.toUtf8 "Node ID,Node ID\n") = .ok "Node ID,Node ID\n" := by
    decide +kernel
  have hfit : Csv.LinesFit "Node ID,Node ID\n" := by
    unfold Csv.LinesFit
    decide +kernel
  have hvalue : (Csv.load ',' "Node ID,Node ID\n").result.map (·.headings)
      = .error (.rejected (.duplicateHeadings ["Node ID"])) := by decide +kernel
  have houtcome := @loadTableFile_outcome w "tree.csv" _ _ rfl htext hfit ','
  have hnoted := (houtcome.2.2.2 "a" Example.commaAction ⟨"#choice", .single, .scalar⟩ _ rfl rfl rfl
    rfl rfl).1 _ (map_eq_error.mp hvalue)
  exact ⟨_, rfl, htext, hfit, _, hnoted⟩

/-- A carriage return inside a line is neither read as a table nor reported as a fault of one, and
the log says nothing of the file. -/
theorem loadTableFile_stray :
    let w := Example.loading "Node ID\rTrue\n"
    ¬ ((∃ t w', (loadTableFile "tree.csv" (some ",")).run.run w = (.ok t, w')) ∨
      ∃ e w', (loadTableFile "tree.csv" (some ",")).run.run w
        = (.error (.load (.rejected e)), w')) ∧
    ((initialise "a").run.run w).2.output = "" := by
  intro w
  have hfails : ((loadTableFile "tree.csv" (some ",")).run.run w).1.map (·.headings)
      = .error (.load .strayReturn) := by
    decide +kernel
  have houtput : ((initialise "a").run.run w).2.output = "" := by decide +kernel
  refine ⟨?_, houtput⟩
  rintro (⟨t, w', hrun⟩ | ⟨e, w', hrun⟩)
  · rw [hrun] at hfails
    cases hfails
  · rw [hrun] at hfails
    cases hfails

end Job

end DecisionTable
