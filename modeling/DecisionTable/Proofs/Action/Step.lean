import DecisionTable.Action.Basic
import DecisionTable.Proofs.Store.Calls
import DecisionTable.Proofs.Value.Fault

/-!
# Steps of actions

A step reads the values of its own subject and writes the choice of that subject. So it comes out
the same in stores that agree on the subject, and other subjects keep what they have.
-/

namespace DecisionTable

open Relation

namespace Store

variable {s s' r r' : Store} {subject other : Subject} {identifier : String} {given v : Value}

/-- Two stores know the same attributes and hold the same values of a subject. -/
structure AgreeFor (subject : Subject) (s s' : Store) : Prop where
  attributes : s.attributes = s'.attributes
  values : ∀ identifier, s.get? subject identifier = s'.get? subject identifier

namespace AgreeFor

theorem refl (subject : Subject) (s : Store) : AgreeFor subject s s :=
  ⟨rfl, fun _ => rfl⟩

theorem symm (h : AgreeFor subject s s') : AgreeFor subject s' s :=
  ⟨h.attributes.symm, fun identifier => (h.values identifier).symm⟩

theorem trans (h : AgreeFor subject s s') (h' : AgreeFor subject s' r) : AgreeFor subject s r :=
  ⟨h.attributes.trans h'.attributes,
    fun identifier => (h.values identifier).trans (h'.values identifier)⟩

theorem attribute? (h : AgreeFor subject s s') (identifier : String) :
    s.attribute? identifier = s'.attribute? identifier := by
  unfold Store.attribute?
  rw [h.attributes]

theorem erase (h : AgreeFor subject s s') (identifier : String) :
    AgreeFor subject (s.erase subject identifier) (s'.erase subject identifier) := by
  refine ⟨h.attributes, ?_⟩
  intro name
  by_cases hname : name = identifier
  · subst hname
    rw [get?_erase, get?_erase]
  · have hkey : (subject, name) ≠ (subject, identifier) := by simp [hname]
    rw [get?_erase_of_ne hkey, get?_erase_of_ne hkey]
    exact h.values name

theorem put (h : AgreeFor subject s s') (identifier : String) (v : Value) :
    AgreeFor subject (s.put subject identifier v) (s'.put subject identifier v) := by
  refine ⟨h.attributes, ?_⟩
  intro name
  by_cases hname : name = identifier
  · subst hname
    rw [get?_put, get?_put]
  · have hkey : (subject, name) ≠ (subject, identifier) := by simp [hname]
    rw [get?_put_of_ne hkey, get?_put_of_ne hkey]
    exact h.values name

end AgreeFor

theorem set_congr (h : AgreeFor subject s s') (identifier : String) (given : Value) :
    (∃ f, s.set subject identifier given = .error f ∧ s'.set subject identifier given = .error f) ∨
      ∃ r r', s.set subject identifier given = .ok r ∧ s'.set subject identifier given = .ok r' ∧
        AgreeFor subject r r' := by
  unfold set
  rw [← h.attribute? identifier]
  cases s.attribute? identifier with
  | none => exact Or.inl ⟨_, rfl, rfl⟩
  | some a =>
    dsimp only
    split
    · exact Or.inr ⟨_, _, rfl, rfl, h.erase identifier⟩
    · cases stored a given with
      | error f => exact Or.inl ⟨_, rfl, rfl⟩
      | ok kept => exact Or.inr ⟨_, _, rfl, rfl, h.put identifier kept⟩

theorem agreeFor_set (h : s.set subject identifier given = .ok s') (hother : other ≠ subject) :
    AgreeFor other s s' := by
  refine ⟨(attributes_set h).symm, ?_⟩
  intro name
  have hkey : (other, name) ≠ (subject, identifier) := by simp [hother]
  exact (get?_set_of_ne h hkey).symm

end Store

/-! ### Evaluating in another store -/

section Evaluate

variable {s s' : Store} {subject : Subject}

theorem Decision.holds_congr {d : Decision}
    (h : s.get? subject d.tested.identifier = s'.get? subject d.tested.identifier) :
    d.holds s subject = d.holds s' subject := by
  unfold holds Store.current
  rw [h]

/-- An evaluation comes out the same if the values of the branches at which it arrives do. -/
theorem Node.evaluate_congr {n : Node}
    (h : ∀ b : Branch, ReflTransGen (Goes s subject) n b.node →
      s.get? subject b.decision.tested.identifier = s'.get? subject b.decision.tested.identifier) :
    n.evaluate s subject = n.evaluate s' subject := by
  induction n with
  | leaf id l => rfl
  | branch id d t f iht ihf =>
    let b : Branch := ⟨id, d, t, f⟩
    have hhere : d.holds s subject = d.holds s' subject := Decision.holds_congr (h b .refl)
    simp only [evaluate, ← hhere]
    cases hholds : d.holds s subject with
    | error e => rfl
    | ok held =>
      cases held with
      | true => exact iht fun c hc => h c (.head (.mk b .onTrue hholds) hc)
      | false => exact ihf fun c hc => h c (.head (.mk b .onFalse hholds) hc)

theorem Tree.evaluate_congr (tree : Tree) (h : s.AgreeFor subject s') :
    tree.evaluate s subject = tree.evaluate s' subject :=
  Node.evaluate_congr fun b _ => h.values b.decision.tested.identifier

end Evaluate

/-! ### Steps -/

namespace Action

variable {a : Action} {s s' : Store} {subject other : Subject} {l : TypedLiteral}

theorem step_eq_ok : a.step s subject = .ok (l, s') ↔
    ∃ tree choice v, a.ready = some (tree, choice) ∧ tree.evaluate s subject = .ok l ∧
      l.toValue = .ok v ∧ s.set subject choice.identifier v = .ok s' := by
  unfold step
  cases hready : a.ready with
  | none => simp
  | some ready =>
    obtain ⟨tree, choice⟩ := ready
    simp only [bind_eq_ok, mapError_eq_ok]
    constructor
    · rintro ⟨l', heval, v, hvalue, r, hset, hlast⟩
      obtain ⟨rfl, rfl⟩ := Prod.mk.inj (Except.ok.inj hlast)
      exact ⟨tree, choice, v, rfl, heval, hvalue, hset⟩
    · rintro ⟨_, _, v, hsome, heval, hvalue, hset⟩
      obtain ⟨rfl, rfl⟩ := Prod.mk.inj (Option.some.inj hsome)
      exact ⟨l, heval, v, hvalue, s', hset, rfl⟩

/-- A step of an action that is ready fails to decide, to convert the outcome or to store it. -/
theorem step_error {tree : Tree} {choice : Attribute} {f : StepFault}
    (hready : a.ready = some (tree, choice)) (h : a.step s subject = .error f) :
    (∃ g, tree.evaluate s subject = .error g ∧ f = .decision g) ∨ (∃ g, f = .outcome g) ∨
      ∃ g, f = .store g := by
  unfold step at h
  rw [hready] at h
  rcases bind_eq_error h with hdecide | ⟨l, _, h⟩
  · obtain ⟨g, hg, rfl⟩ := mapError_eq_error.mp hdecide
    exact Or.inl ⟨g, hg, rfl⟩
  · rcases bind_eq_error h with hvalue | ⟨v, _, h⟩
    · obtain ⟨g, _, rfl⟩ := mapError_eq_error.mp hvalue
      exact Or.inr (Or.inl ⟨g, rfl⟩)
    · rcases bind_eq_error h with hset | ⟨s', _, h⟩
      · obtain ⟨g, _, rfl⟩ := mapError_eq_error.mp hset
        exact Or.inr (Or.inr ⟨g, rfl⟩)
      · cases h

theorem step_eq_notInitialised : a.step s subject = .error .notInitialised ↔ a.ready = none := by
  constructor
  · intro h
    cases hready : a.ready with
    | none => rfl
    | some ready =>
      rcases step_error hready h with ⟨g, _, hf⟩ | ⟨g, hf⟩ | ⟨g, hf⟩
      · cases hf
      · cases hf
      · cases hf
  · intro hready
    simp only [step, hready]

theorem step_eq_decision {f : DecisionFailure} : a.step s subject = .error (.decision f) ↔
    ∃ tree choice, a.ready = some (tree, choice) ∧ tree.evaluate s subject = .error f := by
  constructor
  · intro h
    cases hready : a.ready with
    | none =>
      cases h.symm.trans (step_eq_notInitialised.mpr hready)
    | some ready =>
      rcases step_error hready h with ⟨g, hg, hf⟩ | ⟨g, hf⟩ | ⟨g, hf⟩
      · obtain rfl := StepFault.decision.inj hf
        exact ⟨ready.1, ready.2, rfl, hg⟩
      · cases hf
      · cases hf
  · rintro ⟨tree, choice, hready, heval⟩
    simp only [step, hready, heval, Except.mapError, bind, Except.bind]

/-- In stores that agree on its subject a step comes out the same. -/
theorem step_congr (a : Action) (h : s.AgreeFor subject s') :
    (∃ f, a.step s subject = .error f ∧ a.step s' subject = .error f) ∨
      ∃ l r r', a.step s subject = .ok (l, r) ∧ a.step s' subject = .ok (l, r') ∧
        r.AgreeFor subject r' := by
  unfold step
  cases a.ready with
  | none => exact Or.inl ⟨_, rfl, rfl⟩
  | some ready =>
    obtain ⟨tree, choice⟩ := ready
    dsimp only
    rw [← tree.evaluate_congr h]
    cases tree.evaluate s subject with
    | error e => exact Or.inl ⟨_, rfl, rfl⟩
    | ok l =>
      cases hvalue : l.toValue with
      | error f =>
        simp only [hvalue, Except.mapError, bind, Except.bind]
        exact Or.inl ⟨_, rfl, rfl⟩
      | ok v =>
        simp only [hvalue, Except.mapError, bind, Except.bind]
        rcases Store.set_congr h choice.identifier v with ⟨f, hset, hset'⟩ | ⟨r, r', hset, hset', hr⟩
        · rw [hset, hset']
          exact Or.inl ⟨_, rfl, rfl⟩
        · rw [hset, hset']
          exact Or.inr ⟨l, r, r', rfl, rfl, hr⟩

theorem agreeFor_step (h : a.step s subject = .ok (l, s')) (hother : other ≠ subject) :
    s.AgreeFor other s' := by
  obtain ⟨_, choice, v, _, _, _, hset⟩ := step_eq_ok.mp h
  exact Store.agreeFor_set hset hother

end Action

end DecisionTable
