import DecisionTable.Proofs.Action.Initialised
import DecisionTable.Proofs.Action.Run

/-!
# Runs as independent evaluations

If a tree does not test the attribute to which outcomes are written, then what a run writes has no
influence on its evaluations. So the run does what evaluations in the first store say, all at once,
and the same run again changes nothing.
-/

namespace DecisionTable

open Relation

namespace Tree

/-- An evaluation ends with an outcome that has a value, or with a failure that is noted. -/
inductive Settles (tree : Tree) (now : Store) (subject : Subject) : Prop where
  | decided (l : TypedLiteral) (v : Value) (h : tree.evaluate now subject = .ok l)
      (hvalue : l.toValue = .ok v)
  | failed (e : EvaluationError) (h : tree.evaluate now subject = .error (.rejected e))

/-- The value of the outcome that a subject has. -/
def outcome? (tree : Tree) (now : Store) (subject : Subject) : Option Value :=
  match tree.evaluate now subject with
  | .ok l => l.toValue.toOption
  | .error _ => none

def noteFailure (tree : Tree) (now : Store) (found : List (Subject × EvaluationError))
    (subject : Subject) : List (Subject × EvaluationError) :=
  match tree.evaluate now subject with
  | .error (.rejected e) => noteSubject found subject e
  | _ => found

/-- The failures of subjects in the order in which these are first listed. -/
def failures (tree : Tree) (now : Store) (subjects : List Subject) :
    List (Subject × EvaluationError) :=
  subjects.foldl (tree.noteFailure now) []

variable {tree : Tree} {now : Store} {subject : Subject} {e : EvaluationError}

theorem failures_concat (tree : Tree) (now : Store) (subjects : List Subject) (last : Subject) :
    tree.failures now (subjects ++ [last])
      = tree.noteFailure now (tree.failures now subjects) last := by
  unfold failures
  rw [List.foldl_append]
  rfl

theorem mem_failures (tree : Tree) (now : Store) (subjects : List Subject) :
    (subject, e) ∈ tree.failures now subjects ↔
      subject ∈ subjects ∧ tree.evaluate now subject = .error (.rejected e) := by
  induction subjects using List.reverseRecOn with
  | nil => simp [failures]
  | append_singleton subjects last ih =>
    rw [failures_concat, List.mem_append, List.mem_singleton]
    by_cases hlast : subject = last
    · subst hlast
      unfold noteFailure
      split
      · rename_i e' hfails
        rw [mem_noteSubject, if_pos rfl, hfails]
        simp [eq_comm]
      · rename_i hother
        rw [ih]
        exact ⟨fun h => (hother _ h.2).elim, fun h => (hother _ h.2).elim⟩
    · simp only [hlast, or_false]
      rw [← ih]
      unfold noteFailure
      split
      · rw [mem_noteSubject, if_neg hlast]
      · rfl

theorem nodup_failures (tree : Tree) (now : Store) (subjects : List Subject) :
    ((tree.failures now subjects).map (·.1)).Nodup := by
  induction subjects using List.reverseRecOn with
  | nil => exact List.nodup_nil
  | append_singleton subjects last ih =>
    rw [failures_concat]
    unfold noteFailure
    split
    · exact nodup_noteSubject ih last _
    · exact ih

end Tree

/-- An outcome stands for a text or a number. -/
theorem TypedLiteral.toValue_cases {l : TypedLiteral} {v : Value} (h : l.toValue = .ok v) :
    (∃ s, v = .text s) ∨ (∃ n, v = .int n) ∨ ∃ x, v = .float x := by
  unfold toValue at h
  split at h
  · obtain ⟨n, _, rfl⟩ := map_eq_ok.mp h
    exact .inr (.inl ⟨n, rfl⟩)
  · obtain ⟨n, _, rfl⟩ := map_eq_ok.mp h
    exact .inr (.inl ⟨n, rfl⟩)
  · obtain ⟨x, _, rfl⟩ := map_eq_ok.mp h
    exact .inr (.inr ⟨x, rfl⟩)
  · obtain ⟨x, _, rfl⟩ := map_eq_ok.mp h
    exact .inr (.inr ⟨x, rfl⟩)
  · exact .inl ⟨l.value, (Except.ok.inj h).symm⟩

theorem TypedLiteral.toValue_ne_null {l : TypedLiteral} {v : Value} (h : l.toValue = .ok v) :
    v ≠ .null := by
  rcases toValue_cases h with ⟨s, rfl⟩ | ⟨n, rfl⟩ | ⟨x, rfl⟩
  · exact Value.noConfusion
  · exact Value.noConfusion
  · exact Value.noConfusion

/-! ### Stores that differ in a choice -/

namespace Store

variable {s s' s'' now : Store} {tree : Tree} {choice : Attribute} {front back : List Subject}

/-- Two stores know the same attributes and hold the same values for all attributes but one. -/
structure AgreeOff (choice : Attribute) (s s' : Store) : Prop where
  attributes : s.attributes = s'.attributes
  values : ∀ subject identifier, identifier ≠ choice.identifier →
    s.get? subject identifier = s'.get? subject identifier

/-- The second store has the outcomes of subjects as their choices, and what the first one has
otherwise. -/
structure Decides (tree : Tree) (choice : Attribute) (now : Store) (subjects : List Subject)
    (s s' : Store) : Prop where
  attributes : s'.attributes = s.attributes
  values : ∀ subject identifier, s'.get? subject identifier =
    if identifier = choice.identifier ∧ subject ∈ subjects
    then (tree.outcome? now subject).or (s.get? subject identifier)
    else s.get? subject identifier

theorem AgreeOff.refl (choice : Attribute) (s : Store) : AgreeOff choice s s :=
  ⟨rfl, fun _ _ _ => rfl⟩

theorem Decides.nil (tree : Tree) (choice : Attribute) (now s : Store) :
    Decides tree choice now [] s s :=
  ⟨rfl, by simp⟩

theorem Decides.append (h : Decides tree choice now front s s')
    (h' : Decides tree choice now back s' s'') : Decides tree choice now (front ++ back) s s'' := by
  refine ⟨h'.attributes.trans h.attributes, ?_⟩
  intro subject identifier
  rw [h'.values, h.values]
  by_cases hchoice : identifier = choice.identifier
  · by_cases hfront : subject ∈ front
    · cases tree.outcome? now subject <;> simp [hchoice, hfront]
    · simp [hchoice, hfront]
  · simp [hchoice]

theorem Decides.agreeOff (h : Decides tree choice now front s s') (hs : AgreeOff choice s now) :
    AgreeOff choice s' now := by
  refine ⟨h.attributes.trans hs.attributes, ?_⟩
  intro subject identifier hother
  rw [h.values, if_neg fun hchoice => hother hchoice.1]
  exact hs.values subject identifier hother

theorem decides_put {subject : Subject} {v : Value} (h : tree.outcome? now subject = some v) :
    Decides tree choice now [subject] s (s.put subject choice.identifier v) := by
  refine ⟨rfl, ?_⟩
  intro other identifier
  by_cases hkey : (other, identifier) = (subject, choice.identifier)
  · obtain ⟨rfl, rfl⟩ := Prod.mk.inj hkey
    simp [get?_put, h]
  · have hother : ¬ (identifier = choice.identifier ∧ other ∈ [subject]) := by
      rw [List.mem_singleton]
      rintro ⟨rfl, rfl⟩
      exact hkey rfl
    rw [get?_put_of_ne hkey, if_neg hother]

/-- Outcomes that are the choices already change nothing. -/
theorem Decides.again (h : Decides tree choice now front s s')
    (h' : Decides tree choice now front s' s'') (subject : Subject) (identifier : String) :
    s''.get? subject identifier = s'.get? subject identifier := by
  rw [h'.values, h.values]
  split
  · cases tree.outcome? now subject <;> simp
  · rfl

end Store

/-! ### Runs -/

namespace Action

variable {a : Action} {tree : Tree} {choice : Attribute} {now s : Store} {subject : Subject}
  {subjects : List Subject}

theorem ReadyOn.evaluate_congr (h : a.ReadyOn tree choice now)
    (huntested : ∀ b ∈ tree.branches, b.decision.tested.identifier ≠ choice.identifier)
    (hs : s.AgreeOff choice now) (subject : Subject) :
    tree.evaluate s subject = tree.evaluate now subject := by
  refine Node.evaluate_congr ?_
  intro b harrives
  exact hs.values subject _ (huntested b (h.mem_of_arrives harrives))

theorem ReadyOn.set_choice (h : a.ReadyOn tree choice now) (hs : s.AgreeOff choice now)
    {v : Value} (hv : v ≠ .null) :
    s.set subject choice.identifier v = .ok (s.put subject choice.identifier v) := by
  have hknown : s.attribute? choice.identifier = some choice := by
    unfold Store.attribute?
    rw [hs.attributes]
    exact h.attribute?
  simp only [Store.set, hknown, Store.stored, h.single]
  rfl

/-- One step of a run in a store that differs from the first one in choices only. -/
theorem ReadyOn.advance (h : a.ReadyOn tree choice now)
    (huntested : ∀ b ∈ tree.branches, b.decision.tested.identifier ≠ choice.identifier)
    (hs : s.AgreeOff choice now) (hsettles : tree.Settles now subject)
    (found : List (Subject × EvaluationError)) :
    ∃ s', a.advance (s, found) subject = .ok (s', tree.noteFailure now found subject) ∧
      Store.Decides tree choice now [subject] s s' := by
  have heval := h.evaluate_congr huntested hs subject
  cases hsettles with
  | decided l v hdecided hvalue =>
    have hstep : a.step s subject = .ok (l, s.put subject choice.identifier v) :=
      step_eq_ok.mpr ⟨tree, choice, v, h.ready, heval.trans hdecided, hvalue,
        h.set_choice hs (TypedLiteral.toValue_ne_null hvalue)⟩
    refine ⟨s.put subject choice.identifier v, ?_, ?_⟩
    · simp only [Action.advance, hstep, Tree.noteFailure, hdecided]
    · refine Store.decides_put ?_
      simp only [Tree.outcome?, hdecided, hvalue, Except.toOption]
  | failed e hfailed =>
    have hstep : a.step s subject = .error (.decision (.rejected e)) := by
      simp only [step, h.ready, heval, hfailed]
      rfl
    refine ⟨s, ?_, rfl, ?_⟩
    · simp only [Action.advance, hstep, Tree.noteFailure, hfailed]
    · intro other identifier
      split
      · rename_i hkey
        obtain rfl := List.mem_singleton.mp hkey.2
        simp [Tree.outcome?, hfailed]
      · rfl

theorem ReadyOn.advances (h : a.ReadyOn tree choice now)
    (huntested : ∀ b ∈ tree.branches, b.decision.tested.identifier ≠ choice.identifier)
    (hs : s.AgreeOff choice now) (hsettles : ∀ subject ∈ subjects, tree.Settles now subject)
    (found : List (Subject × EvaluationError)) :
    ∃ s', subjects.foldlM a.advance (s, found)
        = .ok (s', subjects.foldl (tree.noteFailure now) found) ∧
      Store.Decides tree choice now subjects s s' := by
  induction subjects generalizing s found with
  | nil => exact ⟨s, rfl, .nil tree choice now s⟩
  | cons subject rest ih =>
    obtain ⟨s₁, hfirst, hdecides⟩ :=
      h.advance huntested hs (hsettles subject (List.mem_cons_self ..)) found
    obtain ⟨s₂, hrest, hdecides'⟩ := ih (hdecides.agreeOff hs)
      (fun other hother => hsettles other (List.mem_cons_of_mem _ hother))
      (tree.noteFailure now found subject)
    refine ⟨s₂, ?_, hdecides.append hdecides'⟩
    rw [List.foldlM_cons]
    exact bind_eq_ok.mpr ⟨_, hfirst, hrest⟩

end Action

/-- A run did what evaluations in the first store say. -/
structure Independent (tree : Tree) (choice : Attribute) (now : Store) (subjects : List Subject)
    (after : Store) (found : List (Subject × EvaluationError)) : Prop where
  once : (found.map (·.1)).Nodup
  failures : ∀ subject e, (subject, e) ∈ found ↔
    subject ∈ subjects ∧ tree.evaluate now subject = .error (.rejected e)
  /-- A subject with an outcome has its value as its choice. -/
  chosen : ∀ subject ∈ subjects, ∀ l v, tree.evaluate now subject = .ok l → l.toValue = .ok v →
    after.get? subject choice.identifier = some v
  /-- Other values are what they were. -/
  kept : ∀ subject identifier,
    identifier ≠ choice.identifier ∨ subject ∉ subjects ∨
      (∃ e, tree.evaluate now subject = .error e) →
    after.get? subject identifier = now.get? subject identifier
  attributes : after.attributes = now.attributes

theorem independent_of_decides {tree : Tree} {choice : Attribute} {now after : Store}
    {subjects : List Subject} (h : Store.Decides tree choice now subjects now after) :
    Independent tree choice now subjects after (tree.failures now subjects) where
  once := tree.nodup_failures now subjects
  failures _ _ := tree.mem_failures now subjects
  chosen subject hmem l v heval hvalue := by
    rw [h.values, if_pos ⟨rfl, hmem⟩]
    simp [Tree.outcome?, heval, hvalue, Except.toOption]
  kept subject identifier hcase := by
    rw [h.values]
    split
    · rename_i hkey
      rcases hcase with hother | hunlisted | ⟨e, hfails⟩
      · exact (hother hkey.1).elim
      · exact (hunlisted hkey.2).elim
      · simp [Tree.outcome?, hfails]
    · rfl
  attributes := h.attributes

/-- A run of an action whose tree does not test the choice does what evaluations in the first store
say, and the same run again finds the same failures and changes no value. -/
theorem run_independent {a : Action} {tree : Tree} {choice : Attribute} {now : Store}
    {subjects : List Subject} (h : a.ReadyOn tree choice now)
    (huntested : ∀ b ∈ tree.branches, b.decision.tested.identifier ≠ choice.identifier)
    (hsettles : ∀ subject ∈ subjects, tree.Settles now subject) :
    ∃ after found, a.run now [] subjects = (after, .ok found) ∧
      Independent tree choice now subjects after found ∧
      ∃ again, a.run after [] subjects = (again, .ok found) ∧
        again.attributes = after.attributes ∧
        ∀ subject identifier, again.get? subject identifier = after.get? subject identifier := by
  obtain ⟨after, hrun, hdecides⟩ := h.advances huntested (.refl choice now) hsettles []
  have hafter : after.AgreeOff choice now := hdecides.agreeOff (.refl choice now)
  obtain ⟨again, hrun', hdecides'⟩ := h.advances huntested hafter hsettles []
  exact ⟨after, tree.failures now subjects, Action.run_eq_ok.mpr hrun,
    independent_of_decides hdecides, again, Action.run_eq_ok.mpr hrun', hdecides'.attributes,
    hdecides.again hdecides'⟩

namespace Example

/-- A store in which one subject has a score and another one has chosen before. -/
def scored : Store :=
  { emptyStore with
    entries := [⟨.named "bob", "#score", .int 2⟩, ⟨.named "zed", "#choice", .text "z"⟩]
    resolved := ["#choice", "#score"] }

theorem readyOn_scored {tree : Tree}
    (htree : (compile threshold { emptyStore with resolved := ["#choice"] } "").tree = .ok tree) :
    (actionOf tree).ReadyOn tree ⟨defaultChoice, .single, .scalar⟩ scored := by
  let resolved : Store := { emptyStore with resolved := ["#choice"] }
  let store : Store := { emptyStore with resolved := ["#choice", "#score"] }
  let chosen : Store := { store with entries := [⟨.named "zed", "#choice", .text "z"⟩] }
  have hstore : (compile threshold resolved "").store = store :=
    compile_store_eq (by decide +kernel)
  have hzed : Store.Change store chosen := .set (.named "zed") "#choice" (.text "z") rfl
  have hbob : Store.Change chosen scored := .set (.named "bob") "#score" (.int 2) rfl
  refine ⟨rfl, rfl, emptyStore, resolved, threshold, "", rfl, htree, ?_⟩
  rw [hstore]
  exact (ReflTransGen.single hzed).tail hbob

end Example

/-- One subject gets an outcome, and another one, which cannot be decided on, keeps the choice that
it has. -/
theorem run_independent_scored :
    ∃ tree after found,
      (compile Example.threshold { Example.emptyStore with resolved := ["#choice"] } "").tree
        = .ok tree ∧
      (Example.actionOf tree).run Example.scored [] [.named "zed", .named "bob", .named "zed"]
        = (after, .ok found) ∧
      (.named "zed", .missingValue (.named "zed") "#score") ∈ found ∧
      after.get? (.named "bob") "#choice" = some (.text "x") ∧
      after.get? (.named "zed") "#choice" = some (.text "z") ∧
      ∃ again, (Example.actionOf tree).run after [] [.named "zed", .named "bob", .named "zed"]
          = (again, .ok found) ∧
        again.get? (.named "bob") "#choice" = some (.text "x") := by
  have hvalues :
      (compile Example.threshold { Example.emptyStore with resolved := ["#choice"] } "").tree.map
        (fun tree => (tree.branches.map (·.decision.tested.identifier),
          tree.evaluate Example.scored (.named "bob"), tree.evaluate Example.scored (.named "zed")))
      = .ok (["#score"], .ok ⟨.string, "x"⟩,
          .error (.rejected (.missingValue (.named "zed") "#score"))) := by
    decide +kernel
  obtain ⟨tree, htree, hfields⟩ := exists_tree hvalues
  obtain ⟨htested, hbob, hzed⟩ : _ ∧ _ ∧ _ := by simpa only [Prod.mk.injEq] using hfields
  have huntested : ∀ b ∈ tree.branches, b.decision.tested.identifier ≠ defaultChoice := by
    intro b hb
    have hmem := List.mem_map_of_mem (f := fun b : Branch => b.decision.tested.identifier) hb
    rw [htested, List.mem_singleton] at hmem
    rw [hmem]
    decide
  have hsettles : ∀ subject ∈ [Subject.named "zed", .named "bob", .named "zed"],
      tree.Settles Example.scored subject := by
    intro subject hsubject
    simp only [List.mem_cons, List.not_mem_nil, or_false] at hsubject
    rcases hsubject with rfl | rfl | rfl
    · exact .failed _ hzed
    · exact .decided _ (.text "x") hbob rfl
    · exact .failed _ hzed
  obtain ⟨after, found, hrun, hindependent, again, hrun', _, hsame⟩ :=
    run_independent (Example.readyOn_scored htree) huntested hsettles
  have hchoice : after.get? (.named "bob") "#choice" = some (.text "x") :=
    hindependent.chosen (.named "bob") (by decide) _ _ hbob rfl
  have hkept : after.get? (.named "zed") "#choice" = some (.text "z") :=
    hindependent.kept (.named "zed") "#choice" (Or.inr (Or.inr ⟨_, hzed⟩))
  have hfailed := (hindependent.failures (.named "zed") _).mpr ⟨by decide, hzed⟩
  exact ⟨tree, after, found, htree, hrun, hfailed, hchoice, hkept, again, hrun',
    (hsame _ _).trans hchoice⟩

end DecisionTable
