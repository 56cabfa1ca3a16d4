import DecisionTable.Proofs.Action.Calls
import DecisionTable.Proofs.Action.Independent

/-!
# What a step leaves behind

A step writes one entry of the store, or nothing at all. This is not only so because a failure keeps
the store that was there before: if the step works on the store in place, and what it has done stays
done when it fails, it still leaves the same store behind, as nothing that can fail comes after the
entry is written. In a session a step that fails leaves all stores as they are, and one that goes
well changes an entry of one of them; beside that, both can write to the log.
-/

namespace DecisionTable

/-! ### One entry -/

namespace Store

variable {s s' : Store} {a : Attribute} {subject : Subject} {identifier : String} {v : Value}

/-- The second store is the first one with a value of a subject for an attribute. -/
structure Wrote (subject : Subject) (identifier : String) (v : Value) (s s' : Store) : Prop where
  value : s'.get? subject identifier = some v
  others : ∀ other name, (other, name) ≠ (subject, identifier) →
    s'.get? other name = s.get? other name
  attributes : s'.attributes = s.attributes
  resolved : s'.resolved = s.resolved
  blames : s'.blames = s.blames

theorem wrote_put (s : Store) (subject : Subject) (identifier : String) (v : Value) :
    s.Wrote subject identifier v (s.put subject identifier v) :=
  ⟨get?_put s subject identifier v, fun _ _ => get?_put_of_ne, rfl, rfl, rfl⟩

/-- An outcome is one value. An attribute of several values does not take it. -/
theorem stored_toValue {l : TypedLiteral} {kept : Value} (hvalue : l.toValue = .ok v)
    (h : stored a v = .ok kept) : kept = v := by
  unfold stored at h
  split at h
  · exact (Except.ok.inj h).symm
  · rcases TypedLiteral.toValue_cases hvalue with ⟨s, rfl⟩ | ⟨n, rfl⟩ | ⟨x, rfl⟩
    · cases h
    · cases h
    · cases h

theorem wrote_set {l : TypedLiteral} (hvalue : l.toValue = .ok v)
    (h : s.set subject identifier v = .ok s') : s.Wrote subject identifier v s' := by
  unfold set at h
  split at h
  · cases h
  · rename_i a _
    split at h
    · exact absurd rfl (TypedLiteral.toValue_ne_null hvalue)
    · obtain ⟨kept, hkept, rfl⟩ := map_eq_ok.mp h
      rw [stored_toValue hvalue (mapError_eq_ok.mp hkept)]
      exact wrote_put s subject identifier v

end Store

/-! ### A step in place -/

/-- A computation that reads a store and changes it in place. What has been changed when it fails
remains so. -/
abbrev InPlace (α : Type) := ExceptT StepFault (StateM Store) α

namespace InPlace

variable {α ε : Type}

def lift (failure : ε → StepFault) (r : Except ε α) : InPlace α :=
  match r with
  | .ok a => pure a
  | .error e => throw (failure e)

/-- Decides from a node on. Every decision looks at the store as it is by then. -/
def evaluate (subject : Subject) : Node → InPlace TypedLiteral
  | .leaf _ l => pure l
  | .branch _ d t f => do
    let s ← get
    if ← lift .decision (d.holds s subject) then evaluate subject t else evaluate subject f

/-- Sets a value: the attribute is looked up, and the value gets the form in which it is kept. -/
def set (subject : Subject) (identifier : String) (value : Value) : InPlace Unit := do
  match (← get).attribute? identifier with
  | none => throw (.store (.unknown identifier))
  | some a =>
    match value with
    | .null => modify (·.erase subject identifier)
    | _ =>
      let kept ← lift (.store ∘ .value) (Store.stored a value)
      modify (·.put subject identifier kept)

/-- Decides for a subject, converts the outcome and sets it as the choice, one after the other. -/
def step (a : Action) (subject : Subject) : InPlace TypedLiteral :=
  match a.ready with
  | none => throw .notInitialised
  | some (t, choice) => do
    let l ← evaluate subject t.root
    let value ← lift .outcome l.toValue
    set subject choice.identifier value
    return l

theorem run_lift (failure : ε → StepFault) (r : Except ε α) (s : Store) :
    (lift failure r).run.run s = (r.mapError failure, s) := by
  cases r <;> rfl

theorem run_evaluate (subject : Subject) (n : Node) (s : Store) :
    (evaluate subject n).run.run s = ((n.evaluate s subject).mapError .decision, s) := by
  induction n with
  | leaf id l => rfl
  | branch id d t f iht ihf =>
    show (lift .decision (d.holds s subject) >>= fun held =>
      if held then evaluate subject t else evaluate subject f : InPlace TypedLiteral).run.run s = _
    rw [run_bind, run_lift, Node.evaluate]
    cases d.holds s subject with
    | error e => rfl
    | ok held =>
      cases held with
      | true => exact iht
      | false => exact ihf

theorem run_set (subject : Subject) (identifier : String) (value : Value) (s : Store) :
    (set subject identifier value).run.run s = match s.set subject identifier value with
      | .ok s' => (.ok (), s')
      | .error f => (.error (.store f), s) := by
  have hget : (get : InPlace Store).run.run s = (.ok s, s) := rfl
  unfold set Store.set
  rw [run_bind, hget]
  dsimp only
  cases s.attribute? identifier with
  | none => rfl
  | some a =>
    cases value with
    | null => rfl
    | _ =>
      dsimp only
      rw [run_bind, run_lift]
      cases Store.stored a _ with
      | error f => rfl
      | ok kept => rfl

/-- What a step in place leaves behind when it fails is the store that was there before. -/
theorem run_step (a : Action) (subject : Subject) (s : Store) :
    (step a subject).run.run s = match a.step s subject with
      | .ok (l, s') => (.ok l, s')
      | .error f => (.error f, s) := by
  unfold step Action.step
  cases a.ready with
  | none => rfl
  | some ready =>
    obtain ⟨t, choice⟩ := ready
    dsimp only
    rw [run_bind, run_evaluate, Tree.evaluate]
    cases t.root.evaluate s subject with
    | error e => rfl
    | ok l =>
      dsimp only [Except.mapError]
      rw [run_bind, run_lift]
      cases hvalue : l.toValue with
      | error f => simp only [hvalue, Except.mapError, bind, Except.bind]
      | ok v =>
        show (set subject choice.identifier v >>= fun _ => pure l).run.run s = _
        rw [run_bind, run_set]
        cases hset : s.set subject choice.identifier v with
        | error f => simp only [hvalue, hset, bind, Except.bind]
        | ok s' =>
          simp only [hvalue, hset, bind, Except.bind]
          rfl

end InPlace

/-! ### What a step leaves behind -/

/-- What comes of a step, and the store that it leaves behind. -/
inductive Action.Leaves (a : Action) (subject : Subject) (s : Store) :
    Except StepFault TypedLiteral → Store → Prop where
  | decided {tree : Tree} {choice : Attribute} {l : TypedLiteral} {v : Value} {s' : Store}
      (hready : a.ready = some (tree, choice)) (hdecides : tree.evaluate s subject = .ok l)
      (hvalue : l.toValue = .ok v) (hwrote : s.Wrote subject choice.identifier v s') :
      a.Leaves subject s (.ok l) s'
  | failed {f : StepFault} (h : a.step s subject = .error f) : a.Leaves subject s (.error f) s

theorem Action.leaves_of_step {a : Action} {subject : Subject} {s s' : Store} {l : TypedLiteral}
    (h : a.step s subject = .ok (l, s')) : a.Leaves subject s (.ok l) s' := by
  obtain ⟨tree, choice, v, hready, hdecides, hvalue, hset⟩ := step_eq_ok.mp h
  exact .decided hready hdecides hvalue (Store.wrote_set hvalue hset)

theorem InPlace.leaves (a : Action) (subject : Subject) (s : Store) :
    a.Leaves subject s ((step a subject).run.run s).1 ((step a subject).run.run s).2 := by
  rw [run_step]
  cases hstep : a.step s subject with
  | error f => exact .failed hstep
  | ok outcome => exact Action.leaves_of_step hstep

namespace Job

variable {name : String} {w : Workspace} {k : KeptAction}

/-- What comes of a step in a session, and the session that it leaves behind. Nothing but the log
goes to the files and the output. -/
inductive StepLeaves (name : String) (subject : Subject) (w : Workspace) :
    Except Failure TypedLiteral → Workspace → Prop where
  | decided {k : KeptAction} {s s' : Store} {l : TypedLiteral}
      {files : List (String × List UInt8)} {output : String}
      (hname : w.actions.lookup name = some k) (hstore : w.stores[k.store]? = some s)
      (hstep : k.action.Leaves subject s (.ok l) s') :
      StepLeaves name subject w (.ok l)
        { w with stores := w.stores.set k.store s', files := files, output := output }
  | failed {k : KeptAction} {f : StepFault} {files : List (String × List UInt8)} {output : String}
      (hname : w.actions.lookup name = some k)
      (hstep : k.action.step (w.stores.getD k.store {}) subject = .error f) :
      StepLeaves name subject w (.error (.ofStep f)) { w with files := files, output := output }
  | unknown (hname : w.actions.lookup name = none) :
      StepLeaves name subject w (.error (.noSuchName name)) w

/-- A step that goes well has a store to write to: where there is none, no attribute is known. -/
theorem getElem?_of_step {s' : Store} {subject : Subject} {l : TypedLiteral}
    (h : k.action.step (w.stores.getD k.store {}) subject = .ok (l, s')) :
    w.stores[k.store]? = some (w.stores.getD k.store {}) := by
  rw [List.getD_eq_getElem?_getD] at h ⊢
  cases hstore : w.stores[k.store]? with
  | some s => rfl
  | none =>
    rw [hstore] at h
    obtain ⟨_, choice, v, _, _, _, hset⟩ := Action.step_eq_ok.mp h
    obtain ⟨a, ha, _⟩ := Store.set_eq_ok hset
    cases ha

/-- A step that goes well changes one entry of one store, and one that fails changes no store. This
is so for steps that work on a store in place as well. -/
theorem stepAction_leaves (name : String) (subject : Subject) (w : Workspace) :
    StepLeaves name subject w ((stepAction name subject).run.run w).1
        ((stepAction name subject).run.run w).2 ∧
      ∀ (a : Action) (s : Store), a.Leaves subject s ((InPlace.step a subject).run.run s).1
        ((InPlace.step a subject).run.run s).2 := by
  refine ⟨?_, fun a s => InPlace.leaves a subject s⟩
  cases hname : w.actions.lookup name with
  | none =>
    have hrun : (stepAction name subject).run.run w = (.error (.noSuchName name), w) := by
      show (find name (w.actions.lookup name) >>= fun k => stepWith k subject : Job _).run.run w = _
      rw [hname]
      rfl
    rw [hrun]
    exact .unknown hname
  | some k =>
    obtain ⟨files, output, hrun⟩ := run_stepWith k subject w
    rw [run_stepAction hname, hrun]
    cases hstep : k.action.step (w.stores.getD k.store {}) subject with
    | error f => exact .failed hname hstep
    | ok outcome =>
      exact .decided hname (getElem?_of_step hstep) (Action.leaves_of_step hstep)

end Job

end DecisionTable
