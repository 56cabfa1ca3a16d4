import DecisionTable.Proofs.Session.Preparation

/-!
# Calls of an action

An action is initialised, perhaps more than once, and steps subjects, while all else in the session
can change in between. Each call leaves what makes the action ready as it was, or sets it.

The tree and the attribute of outcomes can be put in two places, one after the other, instead of
being set together. Nothing can fail in between, so the two places are filled together.
-/

namespace DecisionTable

/-- What can be asked of an action, and what else can happen to a session. -/
inductive Call where
  | initialise
  | step (subject : Subject)
  | run (subjects : List Subject)
  /-- The session becomes another one, with the same actions. -/
  | change (other : Workspace)

inductive Answer where
  /-- What makes the action ready, or why it is not initialised. -/
  | initialised (r : Except Failure (Option (Tree × Attribute)))
  | stepped (r : Except Failure TypedLiteral)
  | ran (r : Except Failure (List (Subject × EvaluationError)))
  | changed

namespace Answer

/-- What makes an action ready after an answer. -/
def leaves (ready : Option (Tree × Attribute)) : Answer → Option (Tree × Attribute)
  | initialised (.ok set) => set
  | _ => ready

/-- What the last successful initialisation has set. -/
def lastSet (answers : List Answer) : Option (Tree × Attribute) :=
  answers.foldl leaves none

end Answer

/-! ### Calls in a session -/

namespace Call

/-- Asks the action of a name. -/
def perform (name : String) (w : Workspace) : Call → Answer × Workspace
  | initialise =>
    let (r, w) := (Job.initialise name).run.run w
    (.initialised (r.map (·.action.ready)), w)
  | step subject =>
    let (r, w) := (Job.stepAction name subject).run.run w
    (.stepped r, w)
  | run subjects =>
    let (r, w) := (Job.runAction name subjects).run.run w
    (.ran r, w)
  | change other => (.changed, other.withActions w.actions)

def performAll (name : String) : List Call → Workspace → List Answer × Workspace
  | [], w => ([], w)
  | call :: rest, w =>
    let (answer, w) := call.perform name w
    let (answers, w) := performAll name rest w
    (answer :: answers, w)

end Call

/-! ### Two places -/

/-- The places of an action for its tree and for the attribute of its outcomes. -/
structure Places where
  tree : Option Tree := none
  choice : Option Attribute := none

namespace Places

/-- What makes an action ready, if both places are full. -/
def ready (p : Places) : Option (Tree × Attribute) :=
  match p.tree, p.choice with
  | some tree, some choice => some (tree, choice)
  | _, _ => none

def of (ready : Option (Tree × Attribute)) : Places :=
  ⟨ready.map (·.1), ready.map (·.2)⟩

theorem ready_of (ready : Option (Tree × Attribute)) : (of ready).ready = ready := by
  cases ready <;> rfl

end Places

/-- A job of an action that has two places beside the session. -/
abbrev PlaceJob (α : Type) := ExceptT Failure (StateM (Places × Workspace)) α

namespace PlaceJob

/-- A job of the session, which leaves the places alone. -/
def session {α : Type} (j : Job α) : PlaceJob α :=
  ExceptT.mk fun (p, w) =>
    let (r, w) := j.run.run w
    (r, p, w)

/-- Notes in the log that the tree of an action cannot be loaded or compiled. -/
def noteFailure (k : KeptAction) (failure : Failure) : Job Unit :=
  match failure with
  | .load (.rejected _) | .compile _ =>
    Job.log [⟨.error, "tdtree.action",
      s!"Reading decision tree CSV file {k.action.file}: {failure.message}"⟩]
  | _ => pure ()

theorem run_noteFailure (k : KeptAction) (failure : Failure) (w : Workspace) :
    ∃ w', (noteFailure k failure).run.run w = (.ok (), w') := by
  have hsure : (noteFailure k failure).Sure := by
    unfold noteFailure
    split
    · exact Job.sure_log _
    · exact Job.sure_log _
    · exact Job.sure_pure ()
  obtain ⟨u, w', hgives⟩ := hsure w
  exact ⟨w', hgives⟩

/-- Fills the place of the tree as soon as there is one, and that of the attribute at the end. -/
def initialise (k : KeptAction) : PlaceJob (Option (Tree × Attribute)) := do
  let choice ← session (Job.resolve k.store k.action.choiceAttribute)
  if choice.cardinality = .multi then
    throw (.compile (.choiceNotSingle k.action.choiceAttribute))
  let tree ← tryCatch
    (do
      let t ← session (Job.loadTableFile k.action.file k.action.delimiter)
      let tree ← session (Job.compileTable t k.store k.action.baseUri)
      modify fun (p, w) => ({ p with tree := some tree }, w)
      return tree)
    fun failure => do
      session (noteFailure k failure)
      throw failure
  modify fun (p, w) => ({ p with choice := some choice }, w)
  return some (tree, choice)

end PlaceJob

/-- Asks an action with two places. -/
def Call.performInPlaces (k : KeptAction) (p : Places) (w : Workspace) :
    Call → Answer × Places × Workspace
  | initialise =>
    let (r, p, w) := (PlaceJob.initialise k).run.run (p, w)
    (.initialised r, p, w)
  | step subject =>
    let (r, w) := (Job.stepWith (k.withReady p.ready) subject).run.run w
    (.stepped r, p, w)
  | run subjects =>
    let (r, w) := (Job.runWith (k.withReady p.ready) subjects).run.run w
    (.ran r, p, w)
  | change other => (.changed, p, other.withActions w.actions)

def Call.performAllInPlaces (k : KeptAction) :
    List Call → Places → Workspace → List Answer × Places × Workspace
  | [], p, w => ([], p, w)
  | call :: rest, p, w =>
    let (answer, p, w) := call.performInPlaces k p w
    let (answers, p, w) := performAllInPlaces k rest p w
    (answer :: answers, p, w)

variable {α β : Type} {name : String} {w w' : Workspace} {k k' : KeptAction}
  {ready : Option (Tree × Attribute)}

namespace Job

theorem run_action (hname : w.actions.lookup name = some k) :
    (action name).run.run w = (.ok k, w) := by
  show (find name (w.actions.lookup name)).run.run w = _
  rw [hname]
  rfl

theorem run_initialise (hname : w.actions.lookup name = some k) :
    (initialise name).run.run w = match (prepare k).run.run w with
      | (.ok k', w') => (.ok k', w'.withActions (keep name k' w'.actions))
      | (.error f, w') => (.error f, w') := by
  unfold initialise
  rw [run_bind, run_action hname]
  show (prepare k >>= fun a => keepAction name a >>= fun _ => pure a).run.run w = _
  rw [run_bind]
  cases (prepare k).run.run w with
  | mk r w' => cases r <;> rfl

theorem run_stepAction (hname : w.actions.lookup name = some k) (subject : Subject) :
    (stepAction name subject).run.run w = (stepWith k subject).run.run w := by
  unfold stepAction
  rw [run_bind, run_action hname]

/-- The decisions are noted in the log before anything is written. -/
theorem run_stepWith (k : KeptAction) (subject : Subject) (w : Workspace) :
    ∃ files output, (stepWith k subject).run.run w =
      match k.action.step (w.stores.getD k.store {}) subject with
      | .ok (l, s') =>
        (.ok l, { w with stores := w.stores.set k.store s', files := files, output := output })
      | .error f => (.error (.ofStep f), { w with files := files, output := output }) := by
  have hstore : (store k.store).run.run w = (.ok (w.stores.getD k.store {}), w) := rfl
  have hlast : ∀ w' : Workspace,
      (lift .ofStep (k.action.step (w.stores.getD k.store {}) subject) >>= fun outcome =>
        setStore k.store outcome.2 >>= fun _ => pure outcome.1 : Job TypedLiteral).run.run w'
        = match k.action.step (w.stores.getD k.store {}) subject with
          | .ok (l, s') => (.ok l, { w' with stores := w'.stores.set k.store s' })
          | .error f => (.error (.ofStep f), w') := by
    intro w'
    cases k.action.step (w.stores.getD k.store {}) subject with
    | error f => rfl
    | ok outcome => rfl
  unfold stepWith
  rw [run_bind, hstore]
  dsimp only
  split
  · rename_i t _ _
    obtain ⟨files, output, hlog⟩ := prints_log (decisionLog t (w.stores.getD k.store {}) subject) w
    refine ⟨files, output, ?_⟩
    rw [run_bind, hlog]
    exact hlast { w with files := files, output := output }
  · exact ⟨w.files, w.output, hlast w⟩

theorem run_runAction (hname : w.actions.lookup name = some k) (subjects : List Subject) :
    (runAction name subjects).run.run w = (runWith k subjects).run.run w := by
  unfold runAction
  rw [run_bind, run_action hname]

/-- What made an action ready before does not matter when it is made ready again. -/
theorem prepare_withReady (k : KeptAction) (ready : Option (Tree × Attribute)) :
    prepare (k.withReady ready) = prepare k :=
  rfl

theorem loadActionTree_eq (k : KeptAction) :
    loadActionTree k = tryCatch
      (loadTableFile k.action.file k.action.delimiter >>= fun t =>
        compileTable t k.store k.action.baseUri)
      fun failure => PlaceJob.noteFailure k failure >>= fun _ => throw failure := by
  unfold loadActionTree
  congr 1
  funext failure
  cases failure with
  | load g => cases g <;> rfl
  | _ => rfl

end Job

namespace PlaceJob

theorem run_session (j : Job α) (p : Places) (w : Workspace) :
    (session j).run.run (p, w) = ((j.run.run w).1, p, (j.run.run w).2) :=
  rfl

theorem run_session_bind (j : Job α) (f : α → PlaceJob β) (p : Places) (w : Workspace) :
    (session j >>= f).run.run (p, w) = match j.run.run w with
      | (.ok a, w') => (f a).run.run (p, w')
      | (.error e, w') => (.error e, p, w') := by
  rw [run_bind, run_session]
  cases j.run.run w with
  | mk r w' => cases r <;> rfl

/-- Places that are filled one after the other are filled together, or stay as they are. -/
theorem run_initialise (k : KeptAction) (p : Places) (w : Workspace) :
    (initialise k).run.run (p, w) = match (Job.prepare k).run.run w with
      | (.ok k', w') => (.ok k'.action.ready, Places.of k'.action.ready, w')
      | (.error f, w') => (.error f, p, w') := by
  unfold initialise Job.prepare
  rw [run_session_bind, run_bind]
  cases (Job.resolve k.store k.action.choiceAttribute).run.run w with
  | mk r w₁ =>
    cases r with
    | error e => rfl
    | ok choice =>
      by_cases hmulti : choice.cardinality = .multi
      · simp only [hmulti, if_true]
        rfl
      · simp only [hmulti, if_false]
        rw [run_bind, run_bind, run_tryCatch, Job.loadActionTree_eq, run_tryCatch, run_session_bind,
          run_bind]
        cases (Job.loadTableFile k.action.file k.action.delimiter).run.run w₁ with
        | mk r w₂ =>
          cases r with
          | error e =>
            obtain ⟨w₃, hnote⟩ := run_noteFailure k e w₂
            dsimp only
            rw [run_session_bind, run_bind, hnote]
            rfl
          | ok t =>
            dsimp only
            rw [run_session_bind]
            cases (Job.compileTable t k.store k.action.baseUri).run.run w₂ with
            | mk r w₃ =>
              cases r with
              | error e =>
                obtain ⟨w₄, hnote⟩ := run_noteFailure k e w₃
                dsimp only
                rw [run_session_bind, run_bind, hnote]
                rfl
              | ok tree => rfl

end PlaceJob

/-! ### One call -/

theorem lookup_keep (name : String) (k : KeptAction) (l : List (String × KeptAction)) :
    (keep name k l).lookup name = some k := by
  simp [keep]

namespace Call

/-- A call leaves the action as it was, or sets what makes it ready. An action with two places does
the same, whatever other actions there are. -/
theorem perform_spec (hname : w.actions.lookup name = some (k.withReady ready)) (call : Call) :
    ∃ answer now, call.perform name w = (answer, now) ∧
      now.actions.lookup name = some (k.withReady (answer.leaves ready)) ∧
      ∀ l, call.performInPlaces k (.of ready) (w.withActions l)
        = (answer, .of (answer.leaves ready), now.withActions l) := by
  cases call with
  | initialise =>
    obtain ⟨r, w', hrun, hactions, hother⟩ := (Job.apart_prepare k).outcome w
    have hperform := Job.run_initialise hname
    rw [Job.prepare_withReady, hrun] at hperform
    have hplaces := fun l => PlaceJob.run_initialise k (.of ready) (w.withActions l)
    simp only [hother] at hplaces
    simp only [perform, performInPlaces, hperform, hplaces]
    cases r with
    | error f =>
      refine ⟨_, _, rfl, ?_, fun l => rfl⟩
      show w'.actions.lookup name = _
      rw [hactions]
      exact hname
    | ok k' =>
      obtain ⟨tree, choice, _, rfl⟩ := Job.exists_gives_prepare.mp ⟨w', hrun⟩
      exact ⟨_, _, rfl, lookup_keep .., fun l => rfl⟩
  | step subject =>
    obtain ⟨r, w', hrun, hactions, hother⟩ :=
      (Job.apart_stepWith (k.withReady ready) subject).outcome w
    simp only [perform, performInPlaces, Job.run_stepAction hname, Places.ready_of, hrun, hother]
    refine ⟨.stepped r, w', rfl, ?_, fun l => rfl⟩
    rw [hactions]
    exact hname
  | run subjects =>
    obtain ⟨r, w', hrun, hactions, hother⟩ :=
      (Job.apart_runWith (k.withReady ready) subjects).outcome w
    simp only [perform, performInPlaces, Job.run_runAction hname, Places.ready_of, hrun, hother]
    refine ⟨.ran r, w', rfl, ?_, fun l => rfl⟩
    rw [hactions]
    exact hname
  | change other => exact ⟨_, _, rfl, hname, fun l => rfl⟩

theorem performAll_spec (hname : w.actions.lookup name = some (k.withReady ready))
    (calls : List Call) :
    (performAll name calls w).2.actions.lookup name
        = some (k.withReady ((performAll name calls w).1.foldl Answer.leaves ready)) ∧
      ∀ l, performAllInPlaces k calls (.of ready) (w.withActions l)
        = ((performAll name calls w).1,
          .of ((performAll name calls w).1.foldl Answer.leaves ready),
          (performAll name calls w).2.withActions l) := by
  induction calls generalizing w ready with
  | nil => exact ⟨hname, fun l => rfl⟩
  | cons call rest ih =>
    obtain ⟨answer, now, hcall, hnow, hplaces⟩ := perform_spec hname call
    obtain ⟨hlast, hrest⟩ := ih hnow
    refine ⟨?_, ?_⟩
    · simp only [performAll, hcall, List.foldl_cons]
      exact hlast
    · intro l
      simp only [performAll, performAllInPlaces, hcall, hplaces, hrest, List.foldl_cons]

end Call

end DecisionTable
