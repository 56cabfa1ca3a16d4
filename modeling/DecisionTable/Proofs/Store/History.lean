import DecisionTable.Proofs.Compile.Outcome

/-!
# Stores over time

A store changes when attributes are defined or resolved, values are set, and tables are compiled
against it. Whatever happens to it, an attribute that it knows keeps its shape.
-/

namespace DecisionTable

open Relation

namespace Store

/-- The changes of a store. A call that fails changes nothing, save that a table that does not
compile may have had attributes resolved. -/
inductive Change : Store → Store → Prop where
  | define {s s' : Store} (a : Attribute) (h : s.define a = .ok s') : Change s s'
  | set {s s' : Store} (subject : Subject) (identifier : String) (value : Value)
      (h : s.set subject identifier value = .ok s') : Change s s'
  | resolve {s s' : Store} (identifier : String) (a : Attribute)
      (h : s.resolve identifier = .ok (a, s')) : Change s s'
  | compile (s : Store) (t : Table) (baseUri : String) : Change s (compile t s baseUri).store

def Later : Store → Store → Prop := ReflTransGen Change

/-- The attributes of the first store are known to the second one, with the same shapes. -/
def Keeps (s s' : Store) : Prop :=
  ∀ identifier a, s.attribute? identifier = some a → s'.attribute? identifier = some a

variable {s s' s'' : Store} {a : Attribute} {identifier : String}

theorem Keeps.refl (s : Store) : s.Keeps s := fun _ _ ha => ha

theorem Keeps.trans (h : s.Keeps s') (h' : s'.Keeps s'') : s.Keeps s'' :=
  fun identifier a ha => h' identifier a (h identifier a ha)

theorem attribute?_define {b : Attribute} (h : s.define b = .ok s')
    (ha : s.attribute? identifier = some a) : s'.attribute? identifier = some a := by
  unfold define at h
  split at h
  · obtain rfl := Except.ok.inj h
    unfold attribute? at ha ⊢
    rw [List.find?_append, ha]
    rfl
  · split at h
    · obtain rfl := Except.ok.inj h
      exact ha
    · cases h

theorem attributes_set {subject : Subject} {value : Value}
    (h : s.set subject identifier value = .ok s') : s'.attributes = s.attributes := by
  unfold set at h
  split at h
  · cases h
  · rename_i found _
    split at h
    · obtain rfl := Except.ok.inj h
      rfl
    · cases hstored : stored found value with
      | error e =>
        rw [hstored] at h
        cases h
      | ok v =>
        rw [hstored] at h
        obtain rfl := Except.ok.inj h
        rfl

theorem keeps_compile (s : Store) (t : Table) (baseUri : String) :
    s.Keeps (compile t s baseUri).store := by
  intro identifier a ha
  rw [compile_store]
  exact ha

/-- An attribute that is known keeps its shape when the store changes. -/
theorem keeps_change (h : Change s s') : s.Keeps s' := by
  intro identifier a ha
  cases h with
  | define b h => exact attribute?_define h ha
  | set subject name value h =>
    unfold attribute? at ha ⊢
    rw [attributes_set h]
    exact ha
  | resolve name b h =>
    rw [(resolve_eq_ok h).2]
    exact ha
  | compile t baseUri => exact keeps_compile s t baseUri identifier a ha

theorem keeps_later (h : Later s s') : s.Keeps s' := by
  induction h with
  | refl => exact Keeps.refl s
  | tail _ hchange ih => exact ih.trans (keeps_change hchange)

end Store

end DecisionTable
