import DecisionTable.Proofs.Session.Jobs

/-!
# Jobs that leave the actions alone

Most jobs do not look at the actions that a session keeps, and do not change them, whether they go
well or fail: they do the same with other actions in the session. Only initialising an action keeps
anything under its name.
-/

namespace DecisionTable

/-! ### The state after a job -/

section Run

variable {ε σ : Type}

theorem run_bind {α β : Type} (j : ExceptT ε (StateM σ) α)
    (f : α → ExceptT ε (StateM σ) β) (s : σ) :
    (j >>= f).run.run s = match j.run.run s with
      | (.ok a, s') => (f a).run.run s'
      | (.error e, s') => (.error e, s') := by
  rw [ExceptT.run_bind, StateT.run_bind]
  cases j.run.run s with
  | mk r s' => cases r <;> rfl

theorem run_tryCatch {α : Type} (j : ExceptT ε (StateM σ) α)
    (handler : ε → ExceptT ε (StateM σ) α) (s : σ) :
    (tryCatch j handler : ExceptT ε (StateM σ) α).run.run s = match j.run.run s with
      | (.ok a, s') => (.ok a, s')
      | (.error e, s') => (handler e).run.run s' := by
  rw [ExceptT.run_tryCatch, StateT.run_bind]
  cases j.run.run s with
  | mk r s' => cases r <;> rfl

end Run

/-! ### Other actions in a session -/

/-- The session with other actions. -/
def Workspace.withActions (w : Workspace) (l : List (String × KeptAction)) : Workspace :=
  { w with actions := l }

namespace Job

variable {α β ε : Type} {j : Job α} {w w' : Workspace} {l : List (String × KeptAction)}

/-- A job neither looks at the actions nor changes them. -/
def Apart (j : Job α) : Prop :=
  ∀ w l, j.run.run (w.withActions l) = ((j.run.run w).1, (j.run.run w).2.withActions l)

theorem Apart.actions (h : j.Apart) (w : Workspace) : (j.run.run w).2.actions = w.actions := by
  have hself := congrArg (fun p => p.2.actions) (h w w.actions)
  exact hself

theorem Apart.outcome (h : j.Apart) (w : Workspace) : ∃ r w', j.run.run w = (r, w') ∧
    w'.actions = w.actions ∧ ∀ l, j.run.run (w.withActions l) = (r, w'.withActions l) :=
  ⟨_, _, rfl, h.actions w, h w⟩

/-! ### How jobs are put together -/

theorem apart_pure (a : α) : (pure a : Job α).Apart :=
  fun _ _ => rfl

theorem apart_throw (f : Failure) : (throw f : Job α).Apart :=
  fun _ _ => rfl

theorem apart_modify {f : Workspace → Workspace}
    (h : ∀ w l, f (w.withActions l) = (f w).withActions l) : (modify f : Job Unit).Apart := by
  intro w l
  show (Except.ok (), f (w.withActions l)) = _
  rw [h]
  rfl

theorem apart_lift (failure : ε → Failure) (r : Except ε α) : (lift failure r).Apart := by
  cases r with
  | ok a => exact apart_pure a
  | error e => exact apart_throw (failure e)

theorem Apart.bind {f : α → Job β} (hj : j.Apart) (hf : ∀ a, (f a).Apart) : (j >>= f).Apart := by
  intro w l
  rw [run_bind, run_bind, hj w l]
  cases j.run.run w with
  | mk r w₁ =>
    cases r with
    | error e => rfl
    | ok a => exact hf a w₁ l

/-- The state of the session can be looked at, save for the actions in it. -/
theorem apart_get {f : Workspace → Job α} (hf : ∀ w, (f w).Apart)
    (hsame : ∀ w l, f (w.withActions l) = f w) : (get >>= f : Job α).Apart := by
  intro w l
  show (f (w.withActions l)).run.run (w.withActions l) = _
  rw [hsame]
  exact hf w w l

theorem Apart.tryCatch {handler : Failure → Job α} (hj : j.Apart)
    (hhandler : ∀ e, (handler e).Apart) : (tryCatch j handler : Job α).Apart := by
  intro w l
  rw [run_tryCatch, run_tryCatch, hj w l]
  cases j.run.run w with
  | mk r w₁ =>
    cases r with
    | error e => exact hhandler e w₁ l
    | ok a => rfl

/-! ### Files and the log -/

theorem apart_appendText (name content : String) : (appendText name content).Apart := by
  unfold appendText writeFile
  exact apart_get (fun _ => apart_modify fun _ _ => rfl) fun _ _ => rfl

theorem apart_printLines (lines : List String) : (printLines lines).Apart := by
  unfold printLines
  induction lines with
  | nil => exact apart_pure ()
  | cons line rest ih =>
    show (printLine line >>= fun _ => rest.forM printLine).Apart
    exact Apart.bind (apart_modify fun _ _ => rfl) fun _ => ih

theorem apart_log (lines : List LogLine) : (log lines).Apart := by
  unfold log
  refine apart_get ?_ fun _ _ => rfl
  intro w
  dsimp only
  split
  · split
    · refine (apart_appendText _ _).bind fun _ => ?_
      split
      · exact apart_printLines _
      · exact apart_pure ()
    · split
      · exact apart_printLines _
      · exact apart_pure ()
  · exact apart_pure ()

theorem apart_readText (name : String) : (readText name).Apart := by
  unfold readText
  refine apart_get ?_ fun _ _ => rfl
  intro w
  split
  · exact apart_throw _
  · exact apart_lift _ _

/-! ### Stores, tables and trees -/

theorem apart_store (h : StoreHandle) : (store h).Apart := by
  unfold store
  exact apart_get (fun _ => apart_pure _) fun _ _ => rfl

theorem apart_setStore (h : StoreHandle) (s : Store) : (setStore h s).Apart :=
  apart_modify fun _ _ => rfl

theorem apart_resolve (h : StoreHandle) (identifier : String) : (resolve h identifier).Apart := by
  unfold resolve
  refine (apart_store h).bind fun s => ?_
  refine (apart_lift _ _).bind fun found => ?_
  exact (apart_setStore h _).bind fun _ => apart_pure _

theorem apart_loadTable (text : String) (delimiter : Option String) :
    (loadTable text delimiter).Apart := by
  unfold loadTable
  refine apart_get ?_ fun _ _ => rfl
  intro w
  refine (apart_lift _ _).bind fun c => ?_
  refine Apart.bind (apart_modify fun _ _ => rfl) fun _ => ?_
  exact apart_lift _ _

theorem apart_loadTableFile (name : String) (delimiter : Option String) :
    (loadTableFile name delimiter).Apart := by
  unfold loadTableFile
  refine apart_get ?_ fun _ _ => rfl
  intro w
  split
  · exact (apart_throw _).bind fun _ => (apart_readText name).bind fun text =>
      apart_loadTable text delimiter
  · exact (apart_readText name).bind fun text => apart_loadTable text delimiter

theorem apart_compileTable (t : Table) (h : StoreHandle) (baseUri : Option String) :
    (compileTable t h baseUri).Apart := by
  unfold compileTable
  refine apart_get ?_ fun _ _ => rfl
  intro w
  refine (apart_lift _ _).bind fun base => ?_
  refine (apart_store h).bind fun s => ?_
  refine (apart_setStore h _).bind fun _ => ?_
  exact (apart_log _).bind fun _ => apart_lift _ _

/-! ### What an action does -/

theorem apart_loadActionTree (k : KeptAction) : (loadActionTree k).Apart := by
  unfold loadActionTree
  refine Apart.tryCatch ?_ ?_
  · exact (apart_loadTableFile _ _).bind fun t => apart_compileTable t _ _
  · intro failure
    dsimp only
    split
    · exact (apart_log _).bind fun _ => apart_throw _
    · exact (apart_log _).bind fun _ => apart_throw _
    · exact apart_throw _

theorem apart_prepare (k : KeptAction) : (prepare k).Apart := by
  unfold prepare
  refine (apart_resolve _ _).bind fun choice => ?_
  split
  · exact (apart_throw _).bind fun _ => (apart_loadActionTree k).bind fun _ => apart_pure _
  · exact (apart_loadActionTree k).bind fun _ => apart_pure _

theorem apart_stepWith (k : KeptAction) (subject : Subject) : (stepWith k subject).Apart := by
  unfold stepWith
  refine (apart_store _).bind fun s => ?_
  split
  · refine (apart_log _).bind fun _ => (apart_lift _ _).bind fun outcome => ?_
    exact (apart_setStore _ _).bind fun _ => apart_pure _
  · refine (apart_lift _ _).bind fun outcome => ?_
    exact (apart_setStore _ _).bind fun _ => apart_pure _

theorem apart_runWith (k : KeptAction) (subjects : List Subject) :
    (runWith k subjects).Apart := by
  unfold runWith
  refine (apart_store _).bind fun s => ?_
  refine (apart_log _).bind fun _ => ?_
  exact (apart_setStore _ _).bind fun _ => apart_lift _ _

end Job

end DecisionTable
