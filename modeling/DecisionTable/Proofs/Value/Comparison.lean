import DecisionTable.Proofs.Value.Equality

/-!
# One comparison behind equality and order

For texts, truth values, integers and floating-point numbers the questions whether two values are
equal, and which of the two is above the other, come down to one comparison of the two. Only a
floating-point value that is no number has no such comparison with another one: it is not equal to
it, and neither of the two is above the other. Two values of which none is above the other count as
equal where they are ordered, so there the two notions of equality part.
-/

namespace DecisionTable

namespace Decimal

variable {c₁ c₂ : Nat} {e₁ e₂ : Int}

theorem compareMagnitude_swap :
    compareMagnitude c₂ e₂ c₁ e₁ = (compareMagnitude c₁ e₁ c₂ e₂).swap := by
  unfold compareMagnitude
  rw [← Int.compare_swap (e₁ + digitCount c₁)]
  cases compare (e₁ + digitCount c₁) (e₂ + digitCount c₂) with
  | lt => rfl
  | gt => rfl
  | eq => exact (Nat.compare_swap _ _).symm

theorem compare?_swap (d e : Decimal) : e.compare? d = (d.compare? e).map Ordering.swap := by
  cases d with
  | nan => cases e <;> rfl
  | infinite n =>
    cases e with
    | nan => rfl
    | infinite m => cases n <;> cases m <;> rfl
    | finite m c k => cases n <;> rfl
  | finite n c k =>
    cases e with
    | nan => rfl
    | infinite m => cases m <;> rfl
    | finite m c' k' =>
      unfold compare?
      by_cases hc : c = 0
      · by_cases hc' : c' = 0
        · simp [hc, hc']
        · cases m <;> simp [hc, hc']
      · by_cases hc' : c' = 0
        · cases n <;> simp [hc, hc']
        · -- two numbers that are not zero: their signs, and then their magnitudes
          cases n <;> cases m <;> simp [hc, hc', @compareMagnitude_swap c c']

end Decimal

namespace Value

variable {v w : Value} {order : Option Ordering}

theorem compareNumbers?_swap (v w : Value) :
    compareNumbers? w v = (compareNumbers? v w).map Ordering.swap := by
  have hdecimals : ∀ x y : Option Decimal,
      (do (← y).compare? (← x)) = (do (← x).compare? (← y)).map Ordering.swap := by
    intro x y
    cases x with
    | none => cases y <;> rfl
    | some d =>
      cases y with
      | none => rfl
      | some e => exact Decimal.compare?_swap d e
  cases v with
  | int m =>
    cases w with
    | int n => exact congrArg some (Int.compare_swap m n).symm
    | _ => exact hdecimals (number? _) (number? _)
  | _ => cases w <;> exact hdecimals (number? _) (number? _)

/-- All that is said of two values comes down to one comparison, if there is one. -/
structure Compares (v w : Value) (order : Option Ordering) : Prop where
  equal : v.equal w = .ok (order == some .eq)
  above : v.exceeds w = .ok (order == some .gt)
  below : w.exceeds v = .ok (order == some .lt)

/-- Values without a comparison count as equal where they are ordered. -/
theorem Compares.compareTo (h : Compares v w order) : v.compareTo w = .ok (order.getD .eq) := by
  unfold Value.compareTo
  rw [h.above, h.below]
  cases order with
  | none => rfl
  | some o => cases o <;> rfl

theorem compares_texts (s t : String) : Compares (text s) (text t) (some (compare s t)) := by
  refine ⟨?_, rfl, ?_⟩
  · show Except.ok (s == t) = _
    congr 1
    rw [Bool.eq_iff_iff, beq_iff_eq, beq_iff_eq, Option.some.injEq]
    exact Std.LawfulEqCmp.compare_eq_iff_eq.symm
  · show Except.ok (compare t s == .gt) = _
    have hswap : compare t s = (compare s t).swap := Std.OrientedCmp.eq_swap
    rw [hswap]
    cases compare s t <;> rfl

theorem compares_numbers (hnum : areNumbers v w = true) (hv : v.kind ≠ .decimal)
    (hw : w.kind ≠ .decimal) : Compares v w (compareNumbers? v w) := by
  have hordered : ∀ {v w : Value}, areNumbers v w = true → v.kind ≠ .decimal →
      w.kind ≠ .decimal → v.exceeds w = .ok (compareNumbers? v w == some .gt) := by
    intro v w hnum hv hw
    rw [exceeds_of_numbers hnum, isUndefined_eq_false hv, isUndefined_eq_false hw,
      beq_false_of_ne hv, beq_false_of_ne hw]
    cases compareNumbers? v w with
    | none => rfl
    | some o => cases o <;> rfl
  have hsignalling : ∀ {v : Value}, v.kind ≠ .decimal → v.isSignalling = false := by
    intro v hv
    cases v with
    | decimal d => exact absurd rfl hv
    | _ => rfl
  refine ⟨?_, hordered hnum hv hw, ?_⟩
  · rw [equal_of_numbers hnum, hsignalling hv, hsignalling hw]
    rfl
  · rw [areNumbers_comm] at hnum
    rw [hordered hnum hw hv, compareNumbers?_swap v w]
    cases compareNumbers? v w with
    | none => rfl
    | some o => cases o <;> rfl

/-! ### Elementary values -/

/-- A text, a truth value, an integer or a floating-point number. -/
inductive Elementary : Value → Prop where
  | text (s : String) : Elementary (.text s)
  | bool (b : Bool) : Elementary (.bool b)
  | int (n : Int) : Elementary (.int n)
  | float (x : Binary64) : Elementary (.float x)

/-- An operand is read as a value of the same kind, and equals the value. -/
def EqualsRead (v : Value) (operand : String) : Prop :=
  ∃ w, v.readLike operand = .ok w ∧ v.equal w = .ok true

/-- An operand is read as a floating-point value, as the value is, and one of them is no number. -/
def Incomparable (v : Value) (operand : String) : Prop :=
  ∃ x y, v = .float x ∧ readFloatValue operand = .ok y ∧ (x = .nan ∨ y = .nan)

theorem compareNumbers?_floats {x y : Binary64} :
    compareNumbers? (.float x) (.float y) = none ↔ x = .nan ∨ y = .nan := by
  constructor
  · intro h
    rcases compare?_eq_none (d := x.toDecimal) (e := y.toDecimal) h with hx | hy
    · left
      cases x with
      | nan => rfl
      | infinite n => cases hx
      | finite n m e => cases hx
    · right
      cases y with
      | nan => rfl
      | infinite n => cases hy
      | finite n m e => cases hy
  · rintro (rfl | rfl)
    · rfl
    · cases x <;> rfl

theorem compareNumbers?_bools (a b : Bool) : compareNumbers? (.bool a) (.bool b) ≠ none := by
  cases a <;> cases b <;> decide

/-- An elementary value has a comparison with what an operand is read as for it, unless one of the
two is no number. -/
theorem Elementary.compares {operand : String} (hv : v.Elementary)
    (hread : v.readLike operand = .ok w) :
    ∃ order, Compares v w order ∧ (order = none ↔ v.Incomparable operand) := by
  cases hv with
  | text s =>
    obtain rfl := Except.ok.inj hread
    refine ⟨_, compares_texts s operand, ?_⟩
    simp [Incomparable]
  | bool b =>
    simp only [readLike] at hread
    split at hread
    · rename_i b' _
      obtain rfl := Except.ok.inj hread
      refine ⟨_, compares_numbers rfl nofun nofun, ?_⟩
      simp [Incomparable, compareNumbers?_bools]
    · cases hread
  | int n =>
    obtain ⟨m, _, rfl⟩ := map_eq_ok.mp hread
    refine ⟨_, compares_numbers rfl nofun nofun, ?_⟩
    simp [Incomparable, compareNumbers?]
  | float x =>
    obtain ⟨y, hy, rfl⟩ := map_eq_ok.mp hread
    refine ⟨_, compares_numbers rfl nofun nofun, ?_⟩
    rw [compareNumbers?_floats]
    constructor
    · exact fun h => ⟨x, y, rfl, hy, h⟩
    · rintro ⟨x', y', hx, hy', h⟩
      obtain rfl := float.inj hx
      obtain rfl := Except.ok.inj (hy.symm.trans hy')
      exact h

end Value

end DecisionTable
