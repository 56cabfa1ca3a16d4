import DecisionTable.Proofs.Tree.Arrival
import DecisionTable.Proofs.Value.Distinct

/-!
# Calls of stores

A store begins empty and takes calls, some of which fail. Whatever the calls were, each value that
it holds is one that was given for its subject and its attribute, in the form that the attribute
asks for, and an attribute that a tree tests lacks a current value only where no value is stored.
-/

namespace DecisionTable

open Relation

/-- What an attribute stores of a value that is given. -/
inductive Attribute.Stores (a : Attribute) : Value → Value → Prop where
  | single (given : Value) (hcard : a.cardinality = .single) (hgiven : given ≠ .null) :
      Stores a given given
  | multi (given : Value) (items kept : List Value) (hcard : a.cardinality = .multi)
      (hitems : given.items = .ok items) (hfirst : Value.FirstOccurrences [] items kept)
      (hdistinct : Value.Distinct kept) : Stores a given (.group kept)

namespace Store

inductive Call where
  | define (a : Attribute)
  | set (subject : Subject) (identifier : String) (given : Value)
  | resolve (identifier : String)
  | compile (t : Table) (baseUri : String)

/-- The store as a call leaves it. -/
def perform (s : Store) : Call → Store
  | .define a =>
    match s.define a with
    | .ok s' => s'
    | .error _ => s
  | .set subject identifier given =>
    match s.set subject identifier given with
    | .ok s' => s'
    | .error _ => s
  | .resolve identifier =>
    match s.resolve identifier with
    | .ok (_, s') => s'
    | .error _ => s
  | .compile t baseUri => (DecisionTable.compile t s baseUri).store

/-- The store after calls, which was empty before. -/
def after (calls : List Call) : Store :=
  calls.foldl perform {}

def Call.Fails (s : Store) : Call → Prop
  | .define a => ∃ f, s.define a = .error f
  | .set subject identifier given => ∃ f, s.set subject identifier given = .error f
  | .resolve identifier => ∃ e, s.resolve identifier = .error e
  | .compile t baseUri => ∃ e, (DecisionTable.compile t s baseUri).tree = .error e

/-- What holds of the store after some calls. -/
structure Accounted (calls : List Call) : Prop where
  /-- What is stored was given, for an attribute that is defined. -/
  entries : ∀ e ∈ (after calls).entries, ∃ a given,
    (after calls).attribute? e.identifier = some a ∧
      .set e.subject e.identifier given ∈ calls ∧ a.Stores given e.value
  keys : ((after calls).entries.map fun e => (e.subject, e.identifier)).Nodup
  /-- An attribute keeps its shape whatever calls follow. -/
  shapes : ∀ more identifier a, (after calls).attribute? identifier = some a →
    (after (calls ++ more)).attribute? identifier = some a
  failed : ∀ call : Call, call.Fails (after calls) →
    (after (calls ++ [call])).attributes = (after calls).attributes ∧
      (after (calls ++ [call])).entries = (after calls).entries
  /-- A value that is set changes no other one. -/
  set : ∀ subject identifier given s', (after calls).set subject identifier given = .ok s' →
    after (calls ++ [.set subject identifier given]) = s' ∧
    s'.attributes = (after calls).attributes ∧
    (∀ other name, (other, name) ≠ (subject, identifier) →
      s'.get? other name = (after calls).get? other name) ∧
    (given = .null ∧ s'.get? subject identifier = none ∨
      ∃ a kept, (after calls).attribute? identifier = some a ∧ a.Stores given kept ∧
        s'.get? subject identifier = some kept)
  /-- The attributes of a tree that one of the calls has compiled have current values where values
  are stored. -/
  current : ∀ before rest t baseUri tree, calls = before ++ .compile t baseUri :: rest →
    (DecisionTable.compile t (after before) baseUri).tree = .ok tree →
    ∀ b ∈ tree.branches, ∀ subject failure,
      (after calls).current b.decision.tested subject = .error failure ↔
        failure = .rejected (.missingValue subject b.decision.tested.identifier) ∧
          (after calls).get? subject b.decision.tested.identifier = none

variable {s s' : Store} {a : Attribute} {subject other : Subject} {identifier name : String}
  {given v : Value} {calls : List Call} {call : Call}

/-! ### Single calls -/

theorem after_append (calls more : List Call) :
    after (calls ++ more) = more.foldl perform (after calls) :=
  List.foldl_append

theorem after_concat (calls : List Call) (call : Call) :
    after (calls ++ [call]) = (after calls).perform call :=
  after_append calls [call]

theorem later_perform (s : Store) (call : Call) : s.Later (s.perform call) := by
  cases call with
  | define a =>
    cases h : s.define a with
    | error f => simp only [perform, h, Later, ReflTransGen.refl]
    | ok s' =>
      simp only [perform, h]
      exact .single (.define a h)
  | set subject identifier given =>
    cases h : s.set subject identifier given with
    | error f => simp only [perform, h, Later, ReflTransGen.refl]
    | ok s' =>
      simp only [perform, h]
      exact .single (.set subject identifier given h)
  | resolve identifier =>
    cases h : s.resolve identifier with
    | error e => simp only [perform, h, Later, ReflTransGen.refl]
    | ok p =>
      simp only [perform, h]
      exact .single (.resolve identifier p.1 h)
  | compile t baseUri => exact .single (.compile s t baseUri)

theorem later_after (calls more : List Call) : (after calls).Later (after (calls ++ more)) := by
  rw [after_append]
  induction more generalizing calls with
  | nil => exact .refl
  | cons call more ih =>
    have hrest := ih (calls ++ [call])
    rw [after_concat] at hrest
    exact (later_perform _ call).trans hrest

theorem reached_after (calls : List Call) : (after calls).Reached :=
  ⟨none, later_after [] calls⟩

/-- A call that fails changes at most what has been resolved. -/
theorem perform_of_fails (h : call.Fails s) :
    (s.perform call).attributes = s.attributes ∧ (s.perform call).entries = s.entries := by
  cases call with
  | define a =>
    obtain ⟨f, hf⟩ := h
    simp only [perform, hf, and_self]
  | set subject identifier given =>
    obtain ⟨f, hf⟩ := h
    simp only [perform, hf, and_self]
  | resolve identifier =>
    obtain ⟨e, he⟩ := h
    simp only [perform, he, and_self]
  | compile t baseUri =>
    simp only [perform]
    rw [compile_store]
    exact ⟨rfl, rfl⟩

/-! ### Setting a value -/

theorem stores_of_stored (h : stored a given = .ok v) (hgiven : given ≠ .null) :
    a.Stores given v := by
  cases hcard : a.cardinality with
  | single =>
    simp only [stored, hcard] at h
    obtain rfl := Except.ok.inj h
    exact .single given hcard hgiven
  | multi =>
    simp only [stored, hcard] at h
    split at h
    · cases h
    · cases h
    · cases hitems : given.items with
      | error f =>
        rw [hitems] at h
        cases h
      | ok items =>
        cases hdistinct : Value.distinct items with
        | error f =>
          simp only [hitems, hdistinct, bind, Except.bind] at h
          cases h
        | ok kept =>
          simp only [hitems, hdistinct, bind, Except.bind] at h
          obtain rfl := Except.ok.inj h
          obtain ⟨hkept, hfirst⟩ := Value.distinct_eq_ok hdistinct
          exact .multi given items kept hcard hitems hfirst hkept

theorem set_eq_ok (h : s.set subject identifier given = .ok s') :
    ∃ a, s.attribute? identifier = some a ∧
      (given = .null ∧ s' = s.erase subject identifier ∨
        ∃ kept, a.Stores given kept ∧ s' = s.put subject identifier kept) := by
  unfold set at h
  split at h
  · cases h
  · rename_i a ha
    split at h
    · exact ⟨a, ha, Or.inl ⟨rfl, (Except.ok.inj h).symm⟩⟩
    · rename_i hgiven
      cases hstored : stored a given with
      | error f =>
        rw [hstored] at h
        cases h
      | ok kept =>
        rw [hstored] at h
        exact ⟨a, ha, Or.inr ⟨kept, stores_of_stored hstored hgiven, (Except.ok.inj h).symm⟩⟩

theorem isFor_iff {e : Entry} : (e.subject == subject && e.identifier == identifier) = true ↔
    (e.subject, e.identifier) = (subject, identifier) := by
  rw [Bool.and_eq_true, beq_iff_eq, beq_iff_eq, Prod.mk.injEq]

theorem mem_erase {e : Entry} : e ∈ (s.erase subject identifier).entries ↔
    e ∈ s.entries ∧ (e.subject, e.identifier) ≠ (subject, identifier) := by
  unfold erase
  rw [List.mem_filter, Bool.not_eq_true', ← Bool.not_eq_true, isFor_iff]

theorem get?_erase (s : Store) (subject : Subject) (identifier : String) :
    (s.erase subject identifier).get? subject identifier = none := by
  have hnone : ∀ e ∈ (s.erase subject identifier).entries,
      ¬ (e.subject == subject && e.identifier == identifier) = true :=
    fun e he hkey => (mem_erase.mp he).2 (isFor_iff.mp hkey)
  rw [get?, List.find?_eq_none.mpr hnone, Option.map_none]

theorem get?_erase_of_ne (h : (other, name) ≠ (subject, identifier)) :
    (s.erase subject identifier).get? other name = s.get? other name := by
  unfold get? erase
  rw [List.find?_filter]
  congr 2
  funext e
  rw [Bool.eq_iff_iff, decide_eq_true_eq, Bool.not_eq_true', ← Bool.not_eq_true, isFor_iff,
    isFor_iff]
  constructor
  · exact fun hkeys => hkeys.2
  · intro hkey
    exact ⟨hkey ▸ h, hkey⟩

theorem get?_put (s : Store) (subject : Subject) (identifier : String) (v : Value) :
    (s.put subject identifier v).get? subject identifier = some v := by
  have hkey := (isFor_iff (e := ⟨subject, identifier, v⟩)).mpr rfl
  have hfound : (s.put subject identifier v).entries.find?
      (fun e => e.subject == subject && e.identifier == identifier)
        = some ⟨subject, identifier, v⟩ := List.find?_cons_of_pos hkey
  rw [get?, hfound, Option.map_some]

theorem get?_put_of_ne (h : (other, name) ≠ (subject, identifier)) :
    (s.put subject identifier v).get? other name = s.get? other name := by
  have hkey : ¬ (subject == other && identifier == name) = true :=
    fun hkey => h (isFor_iff (e := ⟨subject, identifier, v⟩).mp hkey).symm
  have hpassed : (s.put subject identifier v).entries.find?
      (fun e => e.subject == other && e.identifier == name)
        = (s.erase subject identifier).entries.find?
            (fun e => e.subject == other && e.identifier == name) :=
    List.find?_cons_of_neg hkey
  rw [get?, hpassed]
  exact get?_erase_of_ne h

theorem get?_set_of_ne (h : s.set subject identifier given = .ok s')
    (hother : (other, name) ≠ (subject, identifier)) : s'.get? other name = s.get? other name := by
  obtain ⟨a, _, ⟨_, rfl⟩ | ⟨kept, _, rfl⟩⟩ := set_eq_ok h
  · exact get?_erase_of_ne hother
  · exact get?_put_of_ne hother

/-! ### What entries account for -/

/-- Each entry is one that was given, for an attribute that is defined. -/
def Given (calls : List Call) (s : Store) : Prop :=
  ∀ e ∈ s.entries, ∃ a given, s.attribute? e.identifier = some a ∧
    .set e.subject e.identifier given ∈ calls ∧ a.Stores given e.value

def keys (s : Store) : List (Subject × String) :=
  s.entries.map fun e => (e.subject, e.identifier)

theorem entries_perform (s : Store) (call : Call) :
    (s.perform call).entries = s.entries ∨
      ∃ subject identifier given, call = .set subject identifier given ∧
        s.set subject identifier given = .ok (s.perform call) := by
  cases call with
  | define a =>
    left
    simp only [perform]
    split
    · exact entries_define ‹_›
    · rfl
  | set subject identifier given =>
    cases h : s.set subject identifier given with
    | error f =>
      have hfails : (Call.set subject identifier given).Fails s := ⟨f, h⟩
      exact Or.inl (perform_of_fails hfails).2
    | ok s' =>
      refine Or.inr ⟨subject, identifier, given, rfl, ?_⟩
      simp only [perform, h]
  | resolve identifier =>
    left
    simp only [perform]
    split
    · rename_i s' h
      rw [(resolve_eq_ok h).2]
    · rfl
  | compile t baseUri =>
    left
    simp only [perform]
    rw [compile_store]

theorem Given.weaken (h : s.Given calls) (call : Call) (hkeeps : s.Keeps s')
    {e : Entry} (he : e ∈ s.entries) : ∃ a given, s'.attribute? e.identifier = some a ∧
      .set e.subject e.identifier given ∈ calls ++ [call] ∧ a.Stores given e.value := by
  obtain ⟨a, given, ha, hcall, hstores⟩ := h e he
  exact ⟨a, given, hkeeps _ a ha, List.mem_append_left _ hcall, hstores⟩

theorem given_perform (h : s.Given calls) (call : Call) :
    (s.perform call).Given (calls ++ [call]) := by
  have hkeeps := keeps_later (later_perform s call)
  rcases entries_perform s call with hsame | ⟨subject, identifier, given, rfl, hset⟩
  · intro e he
    exact h.weaken call hkeeps (hsame ▸ he)
  · intro e he
    obtain ⟨a, ha, ⟨_, herase⟩ | ⟨kept, hstores, hput⟩⟩ := set_eq_ok hset
    · rw [herase] at he
      exact h.weaken _ hkeeps (mem_erase.mp he).1
    · rw [hput] at he
      rcases List.mem_cons.mp he with rfl | hrest
      · have hcall : .set subject identifier given ∈ calls ++ [.set subject identifier given] :=
          List.mem_append_right _ (List.mem_singleton_self _)
        exact ⟨a, given, hkeeps _ a ha, hcall, hstores⟩
      · exact h.weaken _ hkeeps (mem_erase.mp hrest).1

theorem keys_erase (h : s.keys.Nodup) (subject : Subject) (identifier : String) :
    (s.erase subject identifier).keys.Nodup :=
  h.sublist (List.filter_sublist.map _)

theorem keys_perform (h : s.keys.Nodup) (call : Call) : (s.perform call).keys.Nodup := by
  rcases entries_perform s call with hsame | ⟨subject, identifier, given, rfl, hset⟩
  · unfold keys
    rw [hsame]
    exact h
  · obtain ⟨a, _, ⟨_, herase⟩ | ⟨kept, _, hput⟩⟩ := set_eq_ok hset
    · rw [herase]
      exact keys_erase h subject identifier
    · rw [hput]
      refine List.nodup_cons.mpr ⟨?_, keys_erase h subject identifier⟩
      intro hmem
      obtain ⟨e, he, hkey⟩ := List.mem_map.mp hmem
      exact (mem_erase.mp he).2 hkey

theorem given_after (calls : List Call) : (after calls).Given calls ∧ (after calls).keys.Nodup := by
  induction calls using List.reverseRecOn with
  | nil => exact ⟨nofun, List.nodup_nil⟩
  | append_singleton calls call ih =>
    rw [after_concat]
    exact ⟨given_perform ih.1 call, keys_perform ih.2 call⟩

/-! ### Current values -/

theorem Reached.current_eq_error (h : s.Reached) {failure : DecisionFailure}
    (ha : s.attribute? a.identifier = some a) : s.current a subject = .error failure ↔
      failure = .rejected (.missingValue subject a.identifier) ∧
        s.get? subject a.identifier = none := by
  cases hget : s.get? subject a.identifier with
  | none =>
    rw [current_eq_missing hget, Except.error.injEq]
    exact ⟨fun hsame => ⟨hsame.symm, rfl⟩, fun hsame => hsame.1.symm⟩
  | some v =>
    obtain ⟨c, hcurrent⟩ := h.exists_current ha hget
    rw [hcurrent]
    simp

theorem after_accounted (calls : List Call) : Accounted calls where
  entries := (given_after calls).1
  keys := (given_after calls).2
  shapes more := keeps_later (later_after calls more)
  failed call hfails := by
    rw [after_concat]
    exact perform_of_fails hfails
  set subject identifier given s' hset := by
    have hperform : after (calls ++ [.set subject identifier given]) = s' := by
      rw [after_concat]
      simp only [perform, hset]
    refine ⟨hperform, attributes_set hset, fun other name => get?_set_of_ne hset, ?_⟩
    obtain ⟨a, ha, ⟨hgiven, rfl⟩ | ⟨kept, hstores, rfl⟩⟩ := set_eq_ok hset
    · exact Or.inl ⟨hgiven, get?_erase _ subject identifier⟩
    · exact Or.inr ⟨a, kept, ha, hstores, get?_put _ subject identifier kept⟩
  current before rest t baseUri tree hcalls htree b hb subject failure := by
    have hkeeps := keeps_later (later_after before (.compile t baseUri :: rest))
    rw [← hcalls] at hkeeps
    exact (reached_after calls).current_eq_error (hkeeps _ _ (attribute?_tested htree hb))

/-- A number and a truth value can be equal, and calls that fail leave what was stored. -/
example : (after
    [.define ⟨"#marks", .multi, .scalar⟩,
      .set (.named "ann") "#marks" (.list [.int 1, .text "x", .bool true, .text "x", .int 2]),
      .set (.named "ann") "#marks" (.text "x"),
      .set (.named "ann") "#size" (.int 3),
      .define ⟨"#marks", .single, .scalar⟩]).get? (.named "ann") "#marks"
      = some (.group [.int 1, .text "x", .int 2]) := by
  rfl

end Store

end DecisionTable
