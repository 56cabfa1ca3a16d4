import DecisionTable.Compile.Basic
import Mathlib.Data.List.Perm.Basic

/-!
# The state of a compilation

What the look-ups say that a compilation makes in its state: of a row that has not been opened, of a
branch that has been compiled, of the datatype that outcomes have agreed on, and of an attribute.
-/

namespace DecisionTable

/-! ### Open rows -/

namespace OpenRow

theorem supply_of_none {r : OpenRow} (h : r.onTrue = none) (n : Node) :
    r.supply n = .seek { r with onTrue := some n } := by
  simp only [supply, h]

theorem supply_of_some {r : OpenRow} {t : Node} (h : r.onTrue = some t) (n : Node) :
    r.supply n = .close r t n := by
  simp only [supply, h]

theorem id_supply (r : OpenRow) (n : Node) : (r.supply n).row.id = r.id := by
  unfold supply
  cases r.onTrue <;> rfl

theorem row_supply (r : OpenRow) (n : Node) : (r.supply n).row.row = r.row := by
  unfold supply
  cases r.onTrue <;> rfl

theorem side_of_none {r : OpenRow} (h : r.onTrue = none) : r.side = .onTrue := by
  simp only [side, h, Option.isNone_none, if_true]

theorem side_of_some {r : OpenRow} {n : Node} (h : r.onTrue = some n) : r.side = .onFalse := by
  simp only [side, h, Option.isNone_some, Bool.false_eq_true, if_false]

end OpenRow

/-! ### Rows and branches -/

namespace Compilation

theorem perm_of_takeRow {id : String} {rows left : List (String × Nat)} {row : Nat}
    (h : takeRow id rows = some (row, left)) : rows.Perm ((id, row) :: left) := by
  induction rows generalizing row left with
  | nil => cases h
  | cons p rest ih =>
    obtain ⟨name, i⟩ := p
    by_cases hname : (name == id) = true
    · simp only [takeRow, if_pos hname, Option.some.injEq, Prod.mk.injEq] at h
      obtain ⟨rfl, rfl⟩ := h
      rw [eq_of_beq hname]
    · simp only [takeRow, if_neg hname, Option.map_eq_some_iff] at h
      obtain ⟨⟨found, more⟩, hrest, heq⟩ := h
      obtain ⟨rfl, rfl⟩ := Prod.mk.inj heq
      exact ((ih hrest).cons (name, i)).trans (List.Perm.swap ..)

theorem takeRow_eq_none {id : String} {rows : List (String × Nat)} :
    takeRow id rows = none ↔ id ∉ rows.map (·.1) := by
  induction rows with
  | nil => simp [takeRow]
  | cons p rest ih =>
    obtain ⟨name, i⟩ := p
    by_cases hname : (name == id) = true
    · simp [takeRow, eq_of_beq hname]
    · have hne : id ≠ name := fun h => hname (beq_iff_eq.mpr h.symm)
      simp only [takeRow, if_neg hname, Option.map_eq_none_iff, ih, List.map_cons, List.mem_cons,
        not_or]
      exact ⟨fun h => ⟨hne, h⟩, fun h => h.2⟩

theorem openRows_eq {c : Compilation} {r : OpenRow} (h : c.focus.row = r) :
    c.openRows = r :: c.below := by
  rw [openRows, h]

theorem branch?_eq_some {c : Compilation} {id : String} {b : Branch} (h : c.branch? id = some b) :
    b ∈ c.compiled ∧ b.id = id := by
  unfold branch? at h
  have hid := List.find?_some h
  exact ⟨List.mem_of_find?_eq_some h, eq_of_beq hid⟩

theorem branch?_eq_none {c : Compilation} {id : String} :
    c.branch? id = none ↔ id ∉ c.compiled.map (·.id) := by
  simp [branch?]

end Compilation

/-! ### Agreement -/

namespace Agreement

variable {a a' : Agreement} {type : LiteralType} {leaf : String}

/-- A leaf is taken in if it is the first one, which it settles, or if it agrees. -/
theorem check_eq_ok (h : a.check type leaf = .ok a') :
    (a.settled = none ∧ a'.settled = some (type, leaf)) ∨
      ∃ first, a.settled = some (type, first) ∧ a' = a := by
  unfold check at h
  split at h
  · rename_i hnone
    obtain rfl := Except.ok.inj h
    exact Or.inl ⟨hnone, rfl⟩
  · rename_i expected first hsome
    split at h
    · rename_i heq
      obtain rfl := Except.ok.inj h
      exact Or.inr ⟨first, by rw [hsome, heq], rfl⟩
    · cases h

theorem check_eq_error {e : CompileError} (h : a.check type leaf = .error e) :
    ∃ expected first, a.settled = some (expected, first) ∧ type ≠ expected ∧
      e = .inconsistentType type expected leaf first := by
  unfold check at h
  split at h
  · cases h
  · rename_i expected first hsome
    split at h
    · cases h
    · rename_i hne
      exact ⟨expected, first, hsome, hne, (Except.error.inj h).symm⟩

theorem type?_of_check (h : a.check type leaf = .ok a') : a'.type? = some type := by
  rcases check_eq_ok h with ⟨_, hsettled⟩ | ⟨first, hsettled, rfl⟩
  · simp only [type?, hsettled, Option.map_some]
  · simp only [type?, hsettled, Option.map_some]

theorem type?_kept (h : a.check type leaf = .ok a') {ty : LiteralType} (hty : a.type? = some ty) :
    a'.type? = some ty := by
  rcases check_eq_ok h with ⟨hnone, _⟩ | ⟨first, _, rfl⟩
  · simp only [type?, hnone, Option.map_none] at hty
    cases hty
  · exact hty

end Agreement

/-! ### Attributes -/

namespace Store

variable {s s' : Store} {identifier : String}

theorem identifier_of_attribute? {a : Attribute} (h : s.attribute? identifier = some a) :
    a.identifier = identifier := by
  unfold attribute? at h
  have hid := List.find?_some h
  exact eq_of_beq hid

/-- Resolving an attribute changes nothing but the record of what has been resolved. -/
theorem resolve_eq_ok {a : Attribute} (h : s.resolve identifier = .ok (a, s')) :
    s.attribute? identifier = some a ∧ s' = { s with resolved := s'.resolved } := by
  unfold resolve at h
  split at h
  · cases h
  · rename_i found hfound
    obtain ⟨rfl, rfl⟩ := Prod.mk.inj (Except.ok.inj h)
    refine ⟨hfound, ?_⟩
    split <;> rfl

theorem resolve_eq_error {e : CompileError} (h : s.resolve identifier = .error e) :
    s.attribute? identifier = none ∧ e = .unknownAttribute identifier s.blames := by
  unfold resolve at h
  split at h
  · rename_i hnone
    exact ⟨hnone, (Except.error.inj h).symm⟩
  · cases h

end Store

end DecisionTable
