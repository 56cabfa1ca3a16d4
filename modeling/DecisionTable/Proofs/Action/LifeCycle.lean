import DecisionTable.Example
import DecisionTable.Proofs.Action.Calls
import DecisionTable.Proofs.Action.Step

/-!
# The life of an action

What makes an action ready is always what the last call that initialised it has set: a call that
fails changes nothing of it. Steps decide with that, on the values that are there at the time. As
long as nothing has been set, a step says that the action is not initialised.
-/

namespace DecisionTable

/-- Whether a failure is of the kind that tells of an action that is not initialised. A pattern that
looks back too far fails in that kind as well. So would one that is nested too deeply for the stack
of a machine, but that limit is not modelled, and no failure stands for it. -/
def Failure.isRuntime : Failure → Bool
  | notInitialised => true
  | rule (.pattern .tooFarBack) => true
  | _ => false

variable {name : String} {w : Workspace} {k : KeptAction}

/-! ### What a step answers -/

namespace Job

theorem stepWith_result (k : KeptAction) (subject : Subject) (w : Workspace) :
    ((stepWith k subject).run.run w).1
      = ((k.action.step (w.stores.getD k.store {}) subject).map (·.1)).mapError .ofStep := by
  obtain ⟨files, output, hrun⟩ := run_stepWith k subject w
  rw [hrun]
  cases k.action.step (w.stores.getD k.store {}) subject with
  | error f => rfl
  | ok outcome => rfl

theorem runWith_result (k : KeptAction) (subjects : List Subject) (w : Workspace) :
    ((runWith k subjects).run.run w).1
      = (k.action.run (w.stores.getD k.store {}) [] subjects).2.mapError .ofStep := by
  have hstore : (store k.store).run.run w = (.ok (w.stores.getD k.store {}), w) := rfl
  obtain ⟨u, w', hlog⟩ := sure_log (runLog k.action (w.stores.getD k.store {}) subjects) w
  unfold runWith
  rw [run_bind, hstore]
  dsimp only
  rw [run_bind, hlog]
  dsimp only
  cases k.action.run (w.stores.getD k.store {}) [] subjects with
  | mk s r => cases r <;> rfl

end Job

namespace Failure

theorem ofStep_eq_notInitialised {f : StepFault} :
    ofStep f = .notInitialised ↔ f = .notInitialised := by
  cases f with
  | notInitialised => simp [ofStep]
  | decision f => cases f <;> simp [ofStep, ofDecision]
  | outcome f => simp [ofStep]
  | store f => cases f <;> simp [ofStep, ofStore]

theorem isRuntime_ofStep {f : StepFault} : (ofStep f).isRuntime = true ↔
    f = .notInitialised ∨ f = .decision (.broken (.pattern .tooFarBack)) := by
  cases f with
  | notInitialised => simp [ofStep, isRuntime]
  | decision f =>
    cases f with
    | rejected e => simp [ofStep, ofDecision, isRuntime]
    | broken f =>
      cases f with
      | pattern g => cases g <;> simp [ofStep, ofDecision, isRuntime]
      | _ => simp [ofStep, ofDecision, isRuntime]
  | outcome f => simp [ofStep, isRuntime]
  | store f => cases f <;> simp [ofStep, ofStore, isRuntime]

end Failure

namespace Action

variable {a : Action} {s : Store} {subject : Subject}

theorem run_eq_notInitialised {found : List (Subject × EvaluationError)} {subjects : List Subject} :
    (a.run s found subjects).2 = .error .notInitialised ↔ a.ready = none ∧ subjects ≠ [] := by
  induction subjects generalizing s found with
  | nil => simp [run]
  | cons subject rest ih =>
    by_cases hready : a.ready = none
    · have hstep : a.step s subject = .error .notInitialised := step_eq_notInitialised.mpr hready
      simp [run, hstep, hready]
    · simp only [hready, false_and, iff_false] at ih ⊢
      unfold run
      split
      · exact ih
      · exact ih
      · rename_i f _ hstep
        intro h
        obtain rfl := Except.error.inj h
        exact hready (step_eq_notInitialised.mp hstep)

end Action

/-! ### What the next call is answered -/

/-- Whether a step fails in that way. -/
def Answer.isRuntime : Answer → Bool
  | stepped (.error f) => f.isRuntime
  | _ => false

namespace Call

variable {now : Workspace} {last : Option (Tree × Attribute)} {tree : Tree} {choice : Attribute}
  {subject : Subject} {subjects : List Subject}

/-- What the action of a name is answered, where `last` is what makes it ready. -/
structure Answered (name : String) (k : KeptAction) (now : Workspace)
    (last : Option (Tree × Attribute)) : Prop where
  /-- It is made ready just when all is there that makes it so. -/
  sets : ∀ set, (Call.initialise.perform name now).1 = .initialised (.ok set) ↔
    ∃ tree choice, k.Prepares now tree choice ∧ set = some (tree, choice)
  /-- A step decides with the tree that was last set, on the present values. -/
  decides : ∀ tree choice, last = some (tree, choice) → ∀ subject l,
    ((step subject).perform name now).1 = .stepped (.ok l) ↔
      tree.evaluate (now.stores.getD k.store {}) subject = .ok l ∧
      ∃ v s, l.toValue = .ok v ∧
        (now.stores.getD k.store {}).set subject choice.identifier v = .ok s
  /-- It is not initialised just when nothing has been set. -/
  unready : ∀ subject, ((step subject).perform name now).1 = .stepped (.error .notInitialised) ↔
    last = none
  unreadyRun : ∀ subjects, ((run subjects).perform name now).1 = .ran (.error .notInitialised) ↔
    last = none ∧ subjects ≠ []
  /-- No other fault is of that kind but a pattern that looks back too far. -/
  runtime : ∀ subject, ((step subject).perform name now).1.isRuntime = true ↔
    last = none ∨ ∃ tree choice, last = some (tree, choice) ∧
      tree.evaluate (now.stores.getD k.store {}) subject
        = .error (.broken (.pattern .tooFarBack))

theorem step_answer (hname : now.actions.lookup name = some (k.withReady last))
    (subject : Subject) : ((step subject).perform name now).1
      = .stepped ((((k.withReady last).action.step (now.stores.getD k.store {}) subject).map
          (·.1)).mapError .ofStep) := by
  show Answer.stepped ((Job.stepAction name subject).run.run now).1 = _
  rw [Job.run_stepAction hname, Job.stepWith_result]
  rfl

theorem run_answer (hname : now.actions.lookup name = some (k.withReady last))
    (subjects : List Subject) : ((run subjects).perform name now).1
      = .ran (((k.withReady last).action.run (now.stores.getD k.store {}) [] subjects).2.mapError
          .ofStep) := by
  show Answer.ran ((Job.runAction name subjects).run.run now).1 = _
  rw [Job.run_runAction hname, Job.runWith_result]
  rfl

theorem initialise_answer (hname : now.actions.lookup name = some (k.withReady last))
    (set : Option (Tree × Attribute)) :
    (initialise.perform name now).1 = .initialised (.ok set) ↔
      ∃ k' now', (Job.prepare k).Gives now k' now' ∧ k'.action.ready = set := by
  show Answer.initialised (((Job.initialise name).run.run now).1.map (·.action.ready)) = _ ↔ _
  rw [Answer.initialised.injEq, map_eq_ok, Job.run_initialise hname, Job.prepare_withReady]
  cases hprepare : (Job.prepare k).run.run now with
  | mk r now' =>
    cases r with
    | error f =>
      constructor
      · rintro ⟨k', hk, _⟩
        cases hk
      · rintro ⟨k', now'', hgives, _⟩
        cases hprepare.symm.trans hgives
    | ok k' =>
      constructor
      · rintro ⟨k'', hk, hset⟩
        obtain rfl := Except.ok.inj hk
        exact ⟨k', now', hprepare, hset⟩
      · rintro ⟨k'', now'', hgives, hset⟩
        cases hprepare.symm.trans hgives
        exact ⟨k', rfl, hset⟩

theorem answered (hname : now.actions.lookup name = some (k.withReady last)) :
    Answered name k now last := by
  refine ⟨?_, ?_, ?_, ?_, ?_⟩
  · intro set
    rw [initialise_answer hname]
    constructor
    · rintro ⟨k', now', hgives, rfl⟩
      obtain ⟨tree, choice, hprepares, rfl⟩ := Job.exists_gives_prepare.mp ⟨now', hgives⟩
      exact ⟨tree, choice, hprepares, rfl⟩
    · rintro ⟨tree, choice, hprepares, rfl⟩
      obtain ⟨now', hgives⟩ := Job.exists_gives_prepare.mpr ⟨tree, choice, hprepares, rfl⟩
      exact ⟨_, now', hgives, rfl⟩
  · intro tree choice hlast subject l
    rw [step_answer hname, Answer.stepped.injEq, mapError_eq_ok, map_eq_ok]
    constructor
    · rintro ⟨⟨l', s⟩, hstep, rfl⟩
      obtain ⟨tree', choice', v, hready, heval, hvalue, hset⟩ := Action.step_eq_ok.mp hstep
      obtain ⟨rfl, rfl⟩ := Prod.mk.inj (Option.some.inj (hlast.symm.trans hready))
      exact ⟨heval, v, s, hvalue, hset⟩
    · rintro ⟨heval, v, s, hvalue, hset⟩
      exact ⟨(l, s), Action.step_eq_ok.mpr ⟨tree, choice, v, hlast, heval, hvalue, hset⟩, rfl⟩
  · intro subject
    rw [step_answer hname, Answer.stepped.injEq, mapError_eq_error]
    simp only [map_eq_error, Failure.ofStep_eq_notInitialised, exists_eq_right]
    exact Action.step_eq_notInitialised
  · intro subjects
    rw [run_answer hname, Answer.ran.injEq, mapError_eq_error]
    simp only [Failure.ofStep_eq_notInitialised, exists_eq_right]
    exact Action.run_eq_notInitialised
  · intro subject
    rw [step_answer hname]
    have hunready : (k.withReady last).action.step (now.stores.getD k.store {}) subject
        = .error .notInitialised ↔ last = none := Action.step_eq_notInitialised
    have hbroken : (k.withReady last).action.step (now.stores.getD k.store {}) subject
        = .error (.decision (.broken (.pattern .tooFarBack))) ↔
          ∃ tree choice, last = some (tree, choice) ∧
            tree.evaluate (now.stores.getD k.store {}) subject
              = .error (.broken (.pattern .tooFarBack)) := Action.step_eq_decision
    rw [← hunready, ← hbroken]
    cases (k.withReady last).action.step (now.stores.getD k.store {}) subject with
    | ok outcome => exact iff_of_false nofun (by simp)
    | error f =>
      show (Failure.ofStep f).isRuntime = true ↔ _
      rw [Failure.isRuntime_ofStep, Except.error.injEq, Except.error.injEq]

/-- Whatever an action is asked, and whatever happens to the session in between, it is made ready by
what the last successful initialisation has set, and decides with that. An action with two places
for what makes it ready has both full or both empty, and answers the same. -/
theorem performAll_lastSet (hname : w.actions.lookup name = some k) (hnew : k.action.ready = none)
    (calls : List Call) :
    let answers := (performAll name calls w).1
    let now := (performAll name calls w).2
    let last := Answer.lastSet answers
    now.actions.lookup name = some (k.withReady last) ∧ Answered name k now last ∧
      performAllInPlaces k calls {} w
        = (answers, ⟨last.map (·.1), last.map (·.2)⟩, now.withActions w.actions) := by
  intro answers now last
  have hfresh : w.actions.lookup name = some (k.withReady none) := by
    rw [hname, ← hnew]
    rfl
  obtain ⟨hkept, hplaces⟩ := performAll_spec hfresh calls
  exact ⟨hkept, answered hkept, hplaces w.actions⟩

end Call

namespace Example

/-- An action whose file is `tree.csv`. -/
def fileAction : KeptAction :=
  { action := { file := "tree.csv", baseUri := some "" }, store := 0 }

/-- A session with that action, and with a subject that has a score and a word. -/
def filed (files : List (String × List UInt8)) : Workspace :=
  { stores := [{
      attributes := [⟨"#score", .single, .scalar⟩, ⟨"#word", .single, .scalar⟩,
        ⟨"#choice", .single, .scalar⟩]
      entries := [⟨.named "ann", "#score", .int 95⟩, ⟨.named "ann", "#word", .text "a"⟩] }]
    actions := [("a", fileAction)]
    files := files }

/-- The text of a file with a single row. -/
def rowText (row : String) : String :=
  "Node ID,Attribute,Operator,Operand,True,False\n" ++ row ++ "\n"

/-- A file that grades, and one whose pattern looks back too far. -/
def gradingFile : String × List UInt8 :=
  ("tree.csv", Text.toUtf8 (rowText "root,#score,gt,50,1,0"))

def lookbackFile : String × List UInt8 :=
  ("tree.csv", Text.toUtf8 (rowText "root,#word,match,(?<=a\x7b2147483648\x7d)a,1,0"))

end Example

namespace Call

/-- The file is there at first, and is gone when the action is initialised again: the action keeps
its tree, and is not among those that are not initialised. -/
theorem performAll_lastSet_missing :
    let calls := [initialise, .change (Example.filed []), initialise]
    let done := performAll "a" calls
      (Example.filed [Example.gradingFile])
    (Answer.lastSet done.1).isSome = true ∧
    done.2.actions.lookup "a" = some (Example.fileAction.withReady (Answer.lastSet done.1)) ∧
    ((step (.named "ann")).perform "a" done.2).1 ≠ .stepped (.error .notInitialised) := by
  intro calls done
  have hset : (Answer.lastSet done.1).isSome = true := by decide +kernel
  obtain ⟨hkept, hanswered, _⟩ := @performAll_lastSet "a"
    (Example.filed [Example.gradingFile]) Example.fileAction rfl rfl calls
  refine ⟨hset, hkept, ?_⟩
  intro hunready
  have hnone : Answer.lastSet done.1 = none := (hanswered.unready (.named "ann")).mp hunready
  rw [hnone] at hset
  cases hset

/-- The action has been initialised, and yet a step fails in the way of one that is not. -/
theorem performAll_lookback :
    let done := performAll "a" [initialise]
      (Example.filed [Example.lookbackFile])
    ¬ (((step (.named "ann")).perform "a" done.2).1.isRuntime = true ↔
      Answer.lastSet done.1 = none) := by
  intro done hclaim
  have hboth : (((step (.named "ann")).perform "a" done.2).1.isRuntime
      && (Answer.lastSet done.1).isSome) = true := by
    decide +kernel
  obtain ⟨hfails, hset⟩ := Bool.and_eq_true_iff.mp hboth
  rw [hclaim.mp hfails] at hset
  cases hset

end Call

end DecisionTable
