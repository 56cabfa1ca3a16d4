import DecisionTable.Example
import DecisionTable.Proofs.Store.History

/-!
# Stores that are reached from nothing

A store begins without attributes and values. Whatever it holds later was put in for an attribute
that it knows, in the form that the cardinality of the attribute asks for. So a value that is there
can be read as a current value.
-/

namespace DecisionTable

open Relation

def Attribute.Fits (a : Attribute) (v : Value) : Prop :=
  a.cardinality = .multi → ∃ items, v = .group items

def CurrentValue.Fits : CurrentValue → Prop
  | single a _ => a.cardinality = .single
  | several a _ => a.cardinality = .multi

theorem CurrentValue.ofStored_eq_ok {a : Attribute} {v : Value} {c : CurrentValue}
    (h : ofStored a v = .ok c) : c.attr = a ∧ c.Fits := by
  unfold ofStored at h
  cases hcard : a.cardinality with
  | single =>
    simp only [hcard] at h
    obtain rfl := Except.ok.inj h
    exact ⟨rfl, hcard⟩
  | multi =>
    simp only [hcard] at h
    cases hitems : v.items with
    | error e =>
      rw [hitems] at h
      cases h
    | ok items =>
      rw [hitems] at h
      obtain rfl := Except.ok.inj h
      exact ⟨rfl, hcard⟩

namespace Store

/-- A store that has come about from one with neither attributes nor values. -/
def Reached (s : Store) : Prop :=
  ∃ blames, Later { blames := blames } s

/-- Each value is stored for an attribute that is known, and fits it. -/
def Coherent (s : Store) : Prop :=
  ∀ e ∈ s.entries, ∃ a, s.attribute? e.identifier = some a ∧ a.Fits e.value

variable {s s' : Store} {a : Attribute} {subject : Subject} {identifier : String} {v w : Value}

theorem Reached.later (h : s.Reached) (h' : Later s s') : s'.Reached := by
  obtain ⟨blames, hfrom⟩ := h
  exact ⟨blames, hfrom.trans h'⟩

theorem fits_stored (h : stored a v = .ok w) : a.Fits w := by
  intro hmulti
  simp only [stored, hmulti] at h
  split at h
  · cases h
  · cases h
  · cases hitems : v.items with
    | error e =>
      rw [hitems] at h
      cases h
    | ok items =>
      cases hdistinct : Value.distinct items with
      | error e =>
        simp only [hitems, hdistinct, bind, Except.bind] at h
        cases h
      | ok kept =>
        simp only [hitems, hdistinct, bind, Except.bind] at h
        exact ⟨kept, (Except.ok.inj h).symm⟩

/-- A value that is set is either removed or stored in the form that its attribute asks for. -/
theorem entries_set (h : s.set subject identifier v = .ok s') {e : Entry} (he : e ∈ s'.entries) :
    e ∈ s.entries ∨ ∃ a, s.attribute? identifier = some a ∧ e.identifier = identifier ∧
      a.Fits e.value := by
  unfold set at h
  split at h
  · cases h
  · rename_i a ha
    split at h
    · obtain rfl := Except.ok.inj h
      exact Or.inl (List.mem_of_mem_filter he)
    · cases hstored : stored a v with
      | error f =>
        rw [hstored] at h
        cases h
      | ok w =>
        rw [hstored] at h
        obtain rfl := Except.ok.inj h
        rcases List.mem_cons.mp he with rfl | hrest
        · exact Or.inr ⟨a, ha, rfl, fits_stored hstored⟩
        · exact Or.inl (List.mem_of_mem_filter hrest)

theorem entries_define (h : s.define a = .ok s') : s'.entries = s.entries := by
  unfold define at h
  split at h
  · obtain rfl := Except.ok.inj h
    rfl
  · split at h
    · obtain rfl := Except.ok.inj h
      rfl
    · cases h

/-- An entry that was there before fits an attribute that is still known. -/
theorem Coherent.kept (h : s.Coherent) (hkeeps : s.Keeps s') {e : Entry} (he : e ∈ s.entries) :
    ∃ a, s'.attribute? e.identifier = some a ∧ a.Fits e.value := by
  obtain ⟨a, ha, hfits⟩ := h e he
  exact ⟨a, hkeeps _ a ha, hfits⟩

theorem coherent_change (h : s.Coherent) (hchange : Change s s') : s'.Coherent := by
  have hkeeps := keeps_change hchange
  intro e he
  cases hchange with
  | define a hdefine => exact h.kept hkeeps (entries_define hdefine ▸ he)
  | set subject identifier value hset =>
    rcases entries_set hset he with hold | ⟨a, ha, rfl, hfits⟩
    · exact h.kept hkeeps hold
    · exact ⟨a, hkeeps _ a ha, hfits⟩
  | resolve identifier a hresolve =>
    rw [(resolve_eq_ok hresolve).2] at he
    exact h.kept hkeeps he
  | compile t baseUri =>
    rw [compile_store] at he
    exact h.kept hkeeps he

theorem Reached.coherent (h : s.Reached) : s.Coherent := by
  obtain ⟨blames, hlater⟩ := h
  induction hlater with
  | refl =>
    intro e he
    cases he
  | tail _ hchange ih => exact coherent_change ih hchange

theorem exists_entry (h : s.get? subject identifier = some v) :
    ∃ e ∈ s.entries, e.identifier = identifier ∧ e.value = v := by
  obtain ⟨e, hfound, rfl⟩ := Option.map_eq_some_iff.mp h
  have hkey := List.find?_some hfound
  simp only [Bool.and_eq_true, beq_iff_eq] at hkey
  exact ⟨e, List.mem_of_find?_eq_some hfound, hkey.2, rfl⟩

theorem current_eq_missing (h : s.get? subject a.identifier = none) :
    s.current a subject = .error (.rejected (.missingValue subject a.identifier)) := by
  simp only [current, h]

theorem current_eq_ok {c : CurrentValue} (h : s.current a subject = .ok c) :
    c.attr = a ∧ c.Fits ∧ ∃ v, s.get? subject a.identifier = some v := by
  unfold current at h
  split at h
  · cases h
  · rename_i v hv
    cases hread : CurrentValue.ofStored a v with
    | error e =>
      rw [hread] at h
      cases h
    | ok c' =>
      rw [hread] at h
      obtain rfl := Except.ok.inj h
      obtain ⟨hattr, hfits⟩ := CurrentValue.ofStored_eq_ok hread
      exact ⟨hattr, hfits, v, hv⟩

/-- A value that is there can be read as the current value of its attribute. -/
theorem Reached.exists_current (h : s.Reached) (ha : s.attribute? a.identifier = some a)
    (hv : s.get? subject a.identifier = some v) : ∃ c, s.current a subject = .ok c := by
  obtain ⟨e, he, hid, rfl⟩ := exists_entry hv
  obtain ⟨b, hb, hfits⟩ := h.coherent e he
  obtain rfl : b = a := Option.some.inj ((hid ▸ hb).symm.trans ha)
  have hread : ∃ c, CurrentValue.ofStored b e.value = .ok c := by
    unfold CurrentValue.ofStored
    cases hcard : b.cardinality with
    | single => exact ⟨_, rfl⟩
    | multi =>
      obtain ⟨items, hitems⟩ := hfits hcard
      rw [hitems]
      exact ⟨_, rfl⟩
  obtain ⟨c, hc⟩ := hread
  refine ⟨c, ?_⟩
  simp only [current, hv, hc, Except.mapError]

end Store

theorem Example.reached_emptyStore : Example.emptyStore.Reached := by
  have hscore : Store.Change {} { attributes := [⟨"#score", .single, .scalar⟩] } :=
    .define ⟨"#score", .single, .scalar⟩ rfl
  have hchoice : Store.Change { attributes := [⟨"#score", .single, .scalar⟩] }
      { attributes := [⟨"#score", .single, .scalar⟩, ⟨"#choice", .single, .scalar⟩] } :=
    .define ⟨"#choice", .single, .scalar⟩ rfl
  have hfriends : Store.Change
      { attributes := [⟨"#score", .single, .scalar⟩, ⟨"#choice", .single, .scalar⟩] }
      Example.emptyStore :=
    .define ⟨"#friends", .multi, .reference⟩ rfl
  exact ⟨none, ((ReflTransGen.single hscore).tail hchoice).tail hfriends⟩

end DecisionTable
