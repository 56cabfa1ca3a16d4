import DecisionTable.Proofs.Action.Step
import DecisionTable.Proofs.Tree.Batch

/-!
# Runs of actions

A run steps its subjects one after the other and notes those that fail. What comes of a subject
depends on the subject alone, and on how often it is listed: steps of different subjects can change
places. So the order of the subjects does not show, neither in the store nor in the failures.
-/

namespace DecisionTable

/-- A store with the failures that have been noted. -/
abbrev Stage := Store × List (Subject × EvaluationError)

namespace Stage

variable {p q r : Stage} {subject other : Subject}

/-- Two stages have the same values and the same failure of a subject. -/
structure AgreeFor (subject : Subject) (p q : Stage) : Prop where
  store : p.1.AgreeFor subject q.1
  noted : ∀ e, (subject, e) ∈ p.2 ↔ (subject, e) ∈ q.2

/-- Two stages have the same values and the same failures of all subjects. -/
def Agree (p q : Stage) : Prop :=
  ∀ subject, AgreeFor subject p q

theorem AgreeFor.symm (h : AgreeFor subject p q) : AgreeFor subject q p :=
  ⟨h.store.symm, fun e => (h.noted e).symm⟩

theorem AgreeFor.trans (h : AgreeFor subject p q) (h' : AgreeFor subject q r) :
    AgreeFor subject p r :=
  ⟨h.store.trans h'.store, fun e => (h.noted e).trans (h'.noted e)⟩

theorem Agree.refl (p : Stage) : p.Agree p :=
  fun subject => ⟨.refl subject p.1, fun _ => Iff.rfl⟩

theorem Agree.trans (h : p.Agree q) (h' : q.Agree r) : p.Agree r :=
  fun subject => (h subject).trans (h' subject)

end Stage

namespace Action

variable {a : Action} {p q r q' : Stage} {subject other : Subject} {subjects subjects' : List Subject}

/-- One step of a run. -/
def advance (a : Action) (p : Stage) (subject : Subject) : Except StepFault Stage :=
  match a.step p.1 subject with
  | .ok (_, s) => .ok (s, p.2)
  | .error (.decision (.rejected e)) => .ok (p.1, noteSubject p.2 subject e)
  | .error f => .error f

/-- A run that ends well is one step after the other. -/
theorem run_eq_ok {s after : Store} {before found : List (Subject × EvaluationError)} :
    a.run s before subjects = (after, .ok found) ↔
      subjects.foldlM a.advance (s, before) = .ok (after, found) := by
  induction subjects generalizing s before with
  | nil => simp [run, pure, Except.pure]
  | cons subject rest ih =>
    rw [List.foldlM_cons]
    unfold run
    cases hstep : a.step s subject with
    | ok outcome =>
      obtain ⟨l, s'⟩ := outcome
      have hadvance : a.advance (s, before) subject = .ok (s', before) := by
        simp only [advance, hstep]
      rw [hadvance]
      exact ih
    | error f =>
      cases f with
      | decision f =>
        cases f with
        | rejected e =>
          have hadvance : a.advance (s, before) subject = .ok (s, noteSubject before subject e) := by
            simp only [advance, hstep]
          rw [hadvance]
          exact ih
        | broken f => simp [advance, hstep, bind, Except.bind]
      | _ => simp [advance, hstep, bind, Except.bind]

/-- What an advance does: the step succeeds, or it fails for a reason that is noted. -/
theorem advance_cases (h : a.advance p subject = .ok q) :
    (∃ l, a.step p.1 subject = .ok (l, q.1) ∧ q.2 = p.2) ∨
      ∃ e, a.step p.1 subject = .error (.decision (.rejected e)) ∧
        q = (p.1, noteSubject p.2 subject e) := by
  unfold advance at h
  split at h
  · rename_i l s hstep
    obtain rfl := Except.ok.inj h
    exact Or.inl ⟨l, hstep, rfl⟩
  · rename_i e hstep
    exact Or.inr ⟨e, hstep, (Except.ok.inj h).symm⟩
  · cases h

/-- An advance changes nothing of other subjects. -/
theorem advance_frame (h : a.advance p subject = .ok q) (hother : other ≠ subject) :
    p.AgreeFor other q := by
  rcases advance_cases h with ⟨l, hstep, hnoted⟩ | ⟨e, _, rfl⟩
  · refine ⟨agreeFor_step hstep hother, ?_⟩
    rw [hnoted]
    exact fun _ => Iff.rfl
  · refine ⟨.refl other p.1, ?_⟩
    intro e'
    rw [Tree.mem_noteSubject, if_neg hother]

/-- An advance depends on nothing but its subject. -/
theorem advance_congr (h : p.AgreeFor subject q) (hp : a.advance p subject = .ok r) :
    ∃ r', a.advance q subject = .ok r' ∧ r.AgreeFor subject r' := by
  rcases advance_cases hp with ⟨l, hstep, hnoted⟩ | ⟨e, hstep, rfl⟩
  · rcases a.step_congr h.store with ⟨f, hf, _⟩ | ⟨l', s, s', hs, hs', hagree⟩
    · cases hstep.symm.trans hf
    · obtain ⟨rfl, rfl⟩ := Prod.mk.inj (Except.ok.inj (hstep.symm.trans hs))
      refine ⟨(s', q.2), ?_, hagree, ?_⟩
      · simp only [advance, hs']
      · rw [hnoted]
        exact h.noted
  · rcases a.step_congr h.store with ⟨f, hf, hf'⟩ | ⟨l', s, s', hs, _, _⟩
    · obtain rfl := Except.error.inj (hstep.symm.trans hf)
      refine ⟨(q.1, noteSubject q.2 subject e), ?_, h.store, ?_⟩
      · simp only [advance, hf']
      · intro e'
        rw [Tree.mem_noteSubject, Tree.mem_noteSubject, if_pos rfl, if_pos rfl]
    · cases hstep.symm.trans hs

/-- Advances of different subjects can change places. -/
theorem advance_comm (hne : other ≠ subject) (h : a.advance p subject = .ok q)
    (h' : a.advance q other = .ok r) :
    ∃ q' r', a.advance p other = .ok q' ∧ a.advance q' subject = .ok r' ∧ r.Agree r' := by
  obtain ⟨q', hq', hother⟩ := advance_congr (advance_frame h hne).symm h'
  obtain ⟨r', hr', hsubject⟩ := advance_congr (advance_frame hq' hne.symm) h
  refine ⟨q', r', hq', hr', ?_⟩
  intro third
  by_cases hthird : third = subject
  · subst hthird
    exact (advance_frame h' hne.symm).symm.trans hsubject
  · by_cases hthird' : third = other
    · subst hthird'
      exact hother.trans (advance_frame hr' hne)
    · have hleft := (advance_frame h hthird).trans (advance_frame h' hthird')
      have hright := (advance_frame hq' hthird').trans (advance_frame hr' hthird)
      exact hleft.symm.trans hright

/-- An advance keeps the agreement of two stages. -/
theorem advance_agree (h : p.Agree q) (hp : a.advance p subject = .ok r) :
    ∃ r', a.advance q subject = .ok r' ∧ r.Agree r' := by
  obtain ⟨r', hr', hsubject⟩ := advance_congr (h subject) hp
  refine ⟨r', hr', ?_⟩
  intro other
  by_cases hother : other = subject
  · subst hother
    exact hsubject
  · exact ((advance_frame hp hother).symm.trans (h other)).trans (advance_frame hr' hother)

theorem advances_agree (h : p.Agree q) (hp : subjects.foldlM a.advance p = .ok r) :
    ∃ r', subjects.foldlM a.advance q = .ok r' ∧ r.Agree r' := by
  induction subjects generalizing p q with
  | nil =>
    obtain rfl := Except.ok.inj hp
    exact ⟨q, rfl, h⟩
  | cons subject rest ih =>
    rw [List.foldlM_cons] at hp
    obtain ⟨p₁, hstep, hrest⟩ := bind_eq_ok.mp hp
    obtain ⟨q₁, hstep', hagree⟩ := advance_agree h hstep
    obtain ⟨r', hr', hr⟩ := ih hagree hrest
    refine ⟨r', ?_, hr⟩
    rw [List.foldlM_cons]
    exact bind_eq_ok.mpr ⟨q₁, hstep', hr'⟩

/-- Subjects can be taken in any order. -/
theorem advances_perm (hperm : subjects.Perm subjects') (hp : subjects.foldlM a.advance p = .ok r) :
    ∃ r', subjects'.foldlM a.advance p = .ok r' ∧ r.Agree r' := by
  induction hperm generalizing p r with
  | nil => exact ⟨r, hp, .refl r⟩
  | cons subject _ ih =>
    rw [List.foldlM_cons] at hp
    obtain ⟨p₁, hstep, hrest⟩ := bind_eq_ok.mp hp
    obtain ⟨r', hr', hr⟩ := ih hrest
    refine ⟨r', ?_, hr⟩
    rw [List.foldlM_cons]
    exact bind_eq_ok.mpr ⟨p₁, hstep, hr'⟩
  | swap subject other rest =>
    -- the list begins with `other`, and with `subject` when the two have changed places
    by_cases hne : subject = other
    · subst hne
      exact ⟨r, hp, .refl r⟩
    · rw [List.foldlM_cons] at hp
      obtain ⟨p₁, hother, hp₁⟩ := bind_eq_ok.mp hp
      rw [List.foldlM_cons] at hp₁
      obtain ⟨p₂, hsubject, hrest⟩ := bind_eq_ok.mp hp₁
      obtain ⟨q₁, q₂, hq₁, hq₂, hagree⟩ := advance_comm hne hother hsubject
      obtain ⟨r', hr', hr⟩ := advances_agree hagree hrest
      refine ⟨r', ?_, hr⟩
      rw [List.foldlM_cons]
      refine bind_eq_ok.mpr ⟨q₁, hq₁, ?_⟩
      rw [List.foldlM_cons]
      exact bind_eq_ok.mpr ⟨q₂, hq₂, hr'⟩
  | trans _ _ ih₁ ih₂ =>
    obtain ⟨r₁, hr₁, hagree₁⟩ := ih₁ hp
    obtain ⟨r₂, hr₂, hagree₂⟩ := ih₂ hr₁
    exact ⟨r₂, hr₂, hagree₁.trans hagree₂⟩

/-- A subject is noted once. -/
theorem advances_nodup (h : (p.2.map (·.1)).Nodup) (hp : subjects.foldlM a.advance p = .ok r) :
    (r.2.map (·.1)).Nodup := by
  induction subjects generalizing p with
  | nil =>
    obtain rfl := Except.ok.inj hp
    exact h
  | cons subject rest ih =>
    rw [List.foldlM_cons] at hp
    obtain ⟨q, hstep, hrest⟩ := bind_eq_ok.mp hp
    refine ih ?_ hrest
    rcases advance_cases hstep with ⟨l, _, hnoted⟩ | ⟨e, _, rfl⟩
    · rw [hnoted]
      exact h
    · exact Tree.nodup_noteSubject h subject e

end Action

/-- If a run over subjects ends well, it ends well over the subjects in any order, with the same
failures and the same values in the store. -/
theorem run_perm (a : Action) (s : Store) {subjects subjects' : List Subject} {after : Store}
    {found : List (Subject × EvaluationError)} (hperm : subjects.Perm subjects')
    (hrun : a.run s [] subjects = (after, .ok found)) :
    ∃ after' found', a.run s [] subjects' = (after', .ok found') ∧
      (found.map (·.1)).Nodup ∧ found'.Perm found ∧ after'.attributes = after.attributes ∧
      ∀ subject identifier, after'.get? subject identifier = after.get? subject identifier := by
  have hadvances := Action.run_eq_ok.mp hrun
  obtain ⟨⟨after', found'⟩, hadvances', hagree⟩ := Action.advances_perm hperm hadvances
  have hkeys : (found.map (·.1)).Nodup :=
    Action.advances_nodup (p := (s, [])) List.nodup_nil hadvances
  have hkeys' : (found'.map (·.1)).Nodup :=
    Action.advances_nodup (p := (s, [])) List.nodup_nil hadvances'
  have hsame : ∀ p, p ∈ found' ↔ p ∈ found := fun p => ((hagree p.1).noted p.2).symm
  have hfound : found'.Perm found :=
    (List.perm_ext_iff_of_nodup hkeys'.of_map hkeys.of_map).mpr hsame
  refine ⟨after', found', Action.run_eq_ok.mpr hadvances', hkeys, hfound, ?_, ?_⟩
  · exact (hagree (.named "")).store.attributes.symm
  · intro subject identifier
    exact ((hagree subject).store.values identifier).symm

namespace Example

/-- A table that tests the attribute of its own outcomes. -/
def choosing : Table :=
  singleRow "#choice" "gt" "m" "5" "6" "root"

/-- A store in which one subject has chosen before. -/
def chosen : Store :=
  { emptyStore with entries := [⟨.named "bob", "#choice", .text "z"⟩], resolved := ["#choice"] }

/-- An action that decides with a tree. -/
def actionOf (tree : Tree) : Action :=
  { file := "tree.csv", ready := some (tree, ⟨defaultChoice, .single, .scalar⟩) }

end Example

/-- A subject that is listed twice first gets an outcome, a number, which then cannot be compared
with the operand; another one has nothing to be decided on. -/
theorem run_perm_choosing :
    ∃ tree after found, (compile Example.choosing Example.emptyStore "").tree = .ok tree ∧
      (Example.actionOf tree).run Example.chosen [] [.named "bob", .named "ann", .named "bob"]
        = (after, .ok found) ∧
      found = [(.named "ann", .missingValue (.named "ann") "#choice"),
        (.named "bob", .badOperand (.order .gt) "m" (.value (.notInteger "m")))] ∧
      ∃ after' found',
        (Example.actionOf tree).run Example.chosen [] [.named "ann", .named "bob", .named "bob"]
          = (after', .ok found') ∧
        found'.Perm found ∧
        after'.get? (.named "bob") "#choice" = after.get? (.named "bob") "#choice" := by
  have hvalues : (compile Example.choosing Example.emptyStore "").tree.map
      (fun tree => ((Example.actionOf tree).run Example.chosen []
        [.named "bob", .named "ann", .named "bob"]).2)
      = .ok (.ok [(.named "ann", .missingValue (.named "ann") "#choice"),
        (.named "bob", .badOperand (.order .gt) "m" (.value (.notInteger "m")))]) := by
    decide +kernel
  obtain ⟨tree, htree, hfound⟩ := exists_tree hvalues
  cases hrun : (Example.actionOf tree).run Example.chosen []
      [.named "bob", .named "ann", .named "bob"] with
  | mk after result =>
    rw [hrun] at hfound
    obtain rfl : result = _ := hfound
    have hperm : [Subject.named "bob", .named "ann", .named "bob"].Perm
        [.named "ann", .named "bob", .named "bob"] := .swap _ _ _
    obtain ⟨after', found', hrun', _, hsame, _, hget⟩ := run_perm _ _ hperm hrun
    exact ⟨tree, after, _, htree, hrun, rfl, after', found', hrun', hsame, hget _ _⟩

end DecisionTable
