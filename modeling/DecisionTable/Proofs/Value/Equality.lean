import DecisionTable.Proofs.Value.Fault
import Mathlib.Algebra.Order.Field.Power
import Mathlib.Data.Nat.Digits.Defs
import Mathlib.Data.Rat.Cast.Order
import Mathlib.Tactic.Linarith
import Mathlib.Tactic.Positivity

/-!
# Equality of values

Numbers are equal when they stand for the same exact number, whatever their kinds. So equality does
not depend on the order of its arguments, and equal values can be put for one another in any
question of equality, including whether the question is refused.
-/

namespace DecisionTable

/-! ### Exact numbers -/

/-- What a decimal number stands for. -/
inductive Amount where
  | finite (q : ℚ)
  | infinite (negative : Bool)

namespace Decimal

def magnitude (coefficient : Nat) (exponent : Int) : ℚ :=
  coefficient * 10 ^ exponent

def amount? : Decimal → Option Amount
  | finite negative coefficient exponent =>
    let q := magnitude coefficient exponent
    some (.finite (if negative then -q else q))
  | infinite negative => some (.infinite negative)
  | nan .. => none

variable {c c₁ c₂ : Nat} {e e₁ e₂ : Int}

theorem magnitude_zero (e : Int) : magnitude 0 e = 0 := by
  simp only [magnitude, Nat.cast_zero, zero_mul]

theorem magnitude_pos (hc : c ≠ 0) (e : Int) : 0 < magnitude c e := by
  have hcast : (0 : ℚ) < c := Nat.cast_pos.mpr (Nat.pos_of_ne_zero hc)
  unfold magnitude
  positivity

theorem magnitude_mul_pow (c : Nat) (e : Int) (k : Nat) :
    magnitude (c * 10 ^ k) e = magnitude c (e + k) := by
  unfold magnitude
  rw [zpow_add₀ (by norm_num), zpow_natCast, Nat.cast_mul, Nat.cast_pow, Nat.cast_ofNat]
  ring

theorem magnitude_inj : magnitude c₁ e = magnitude c₂ e ↔ c₁ = c₂ := by
  have hpow : (10 : ℚ) ^ e ≠ 0 := zpow_ne_zero e (by norm_num)
  unfold magnitude
  rw [mul_left_inj' hpow, Nat.cast_inj]

/-- Coefficients that are brought to the smaller power of ten are equal when the numbers are. -/
theorem scaled_eq_iff : c₁ * 10 ^ (e₁ - e₂).toNat = c₂ * 10 ^ (e₂ - e₁).toNat ↔
    magnitude c₁ e₁ = magnitude c₂ e₂ := by
  have hmin : e₁ - (e₁ - e₂).toNat = e₂ - (e₂ - e₁).toNat := by omega
  have hleft := magnitude_mul_pow c₁ (e₁ - (e₁ - e₂).toNat) (e₁ - e₂).toNat
  have hright := magnitude_mul_pow c₂ (e₂ - (e₂ - e₁).toNat) (e₂ - e₁).toNat
  rw [Int.sub_add_cancel] at hleft hright
  rw [← hleft, ← hright, hmin]
  exact magnitude_inj.symm

/-! ### Digits -/

theorem digitCount_eq (n : Nat) : digitCount n = (Nat.toDigits 10 n).length := by
  unfold digitCount
  rw [Nat.toString_eq_repr, Nat.repr_eq_ofList_toDigits, String.length_ofList]

theorem digitCount_pos (n : Nat) : 0 < digitCount n := by
  rw [digitCount_eq]
  exact Nat.length_toDigits_pos

theorem digitCount_le_iff {n k : Nat} (hk : 0 < k) : digitCount n ≤ k ↔ n < 10 ^ k := by
  rw [digitCount_eq]
  exact Nat.length_toDigits_le_iff (by norm_num) hk

theorem digitCount_mul_pow (hc : c ≠ 0) (k : Nat) :
    digitCount (c * 10 ^ k) = digitCount c + k := by
  have hten : 0 < 10 ^ k := Nat.pow_pos (by norm_num)
  have hpos := digitCount_pos c
  apply le_antisymm
  · have hlt : c < 10 ^ digitCount c := (digitCount_le_iff hpos).mp le_rfl
    rw [digitCount_le_iff (by omega), pow_add]
    exact Nat.mul_lt_mul_of_pos_right hlt hten
  · generalize hm : digitCount (c * 10 ^ k) = m
    have hmpos : 0 < m := hm ▸ digitCount_pos _
    have hlt : c * 10 ^ k < 10 ^ m := (digitCount_le_iff hmpos).mp hm.le
    have hle : 10 ^ k ≤ c * 10 ^ k := Nat.le_mul_of_pos_left _ (Nat.pos_of_ne_zero hc)
    have hkm : k < m := (Nat.pow_lt_pow_iff_right (by norm_num)).mp (hle.trans_lt hlt)
    have hsplit : 10 ^ m = 10 ^ (m - k) * 10 ^ k := by
      rw [← pow_add]
      congr 1
      omega
    rw [hsplit] at hlt
    have hc' : c < 10 ^ (m - k) := Nat.lt_of_mul_lt_mul_right hlt
    have hle' : digitCount c ≤ m - k := (digitCount_le_iff (by omega)).mpr hc'
    omega

/-- Numbers that are equal have their leading digits at the same place. -/
theorem leading_place_eq (hc : c₁ ≠ 0) (hc' : c₂ ≠ 0)
    (h : magnitude c₁ e₁ = magnitude c₂ e₂) :
    e₁ + digitCount c₁ = e₂ + digitCount c₂ := by
  have hscaled := congrArg digitCount (scaled_eq_iff.mpr h)
  rw [digitCount_mul_pow hc, digitCount_mul_pow hc'] at hscaled
  omega

theorem compareMagnitude_eq_eq (hc : c₁ ≠ 0) (hc' : c₂ ≠ 0) :
    compareMagnitude c₁ e₁ c₂ e₂ = .eq ↔ magnitude c₁ e₁ = magnitude c₂ e₂ := by
  unfold compareMagnitude
  constructor
  · intro h
    split at h
    · exact scaled_eq_iff.mp (Nat.compare_eq_eq.mp h)
    · rename_i hplace
      exact absurd h hplace
  · intro h
    have hplace : compare (e₁ + digitCount c₁) (e₂ + digitCount c₂) = .eq :=
      compare_eq_iff_eq.mpr (leading_place_eq hc hc' h)
    rw [hplace]
    exact Nat.compare_eq_eq.mpr (scaled_eq_iff.mpr h)

/-! ### Comparing decimals -/

theorem signed_eq_iff {n₁ n₂ : Bool} {q₁ q₂ : ℚ} (h₁ : 0 < q₁) (h₂ : 0 < q₂) :
    (if n₁ then -q₁ else q₁) = (if n₂ then -q₂ else q₂) ↔ n₁ = n₂ ∧ q₁ = q₂ := by
  cases n₁ with
  | true =>
    cases n₂ with
    | true => simp
    | false =>
      simp only [if_true, Bool.false_eq_true, if_false]
      constructor
      · intro h
        linarith
      · rintro ⟨h, _⟩
        cases h
  | false =>
    cases n₂ with
    | true =>
      simp only [if_true, Bool.false_eq_true, if_false]
      constructor
      · intro h
        linarith
      · rintro ⟨h, _⟩
        cases h
    | false => simp

theorem signed_eq_zero {n : Bool} {q : ℚ} : (if n then -q else q) = 0 ↔ q = 0 := by
  cases n with
  | true => exact neg_eq_zero
  | false => exact Iff.rfl

theorem compare?_finite {n₁ n₂ : Bool} :
    (finite n₁ c₁ e₁).compare? (finite n₂ c₂ e₂) = some .eq ↔
      (finite n₁ c₁ e₁).amount? = (finite n₂ c₂ e₂).amount? := by
  simp only [amount?, Option.some.injEq, Amount.finite.injEq]
  unfold compare?
  by_cases h₁ : c₁ = 0
  · subst h₁
    by_cases h₂ : c₂ = 0
    · subst h₂
      simp [magnitude_zero]
    · have hpos := magnitude_pos h₂ e₂
      simp only [magnitude_zero, neg_zero, ite_self, eq_comm (a := (0 : ℚ)), signed_eq_zero,
        hpos.ne', iff_false]
      cases n₂ <;> simp [h₂]
  · have hpos := magnitude_pos h₁ e₁
    by_cases h₂ : c₂ = 0
    · subst h₂
      simp only [magnitude_zero, neg_zero, ite_self, signed_eq_zero, hpos.ne', iff_false]
      cases n₁ <;> simp [h₁]
    · rw [signed_eq_iff hpos (magnitude_pos h₂ e₂)]
      cases n₁ with
      | true =>
        cases n₂ with
        | true =>
          have hsame : compareMagnitude c₂ e₂ c₁ e₁ = .eq ↔ magnitude c₂ e₂ = magnitude c₁ e₁ :=
            compareMagnitude_eq_eq h₂ h₁
          simp [h₁, h₂, hsame, eq_comm (a := magnitude c₂ e₂)]
        | false => simp [h₁, h₂]
      | false =>
        cases n₂ with
        | true => simp [h₁, h₂]
        | false => simp [h₁, h₂, compareMagnitude_eq_eq]

/-- Decimals compare as equal when they stand for the same number. -/
theorem compare?_eq_eq {d e : Decimal} :
    d.compare? e = some .eq ↔ ∃ x, d.amount? = some x ∧ e.amount? = some x := by
  cases d with
  | nan => simp [compare?, amount?]
  | infinite n =>
    cases e with
    | nan => simp [compare?, amount?]
    | infinite m =>
      cases n <;> cases m <;> simp [compare?, amount?]
    | finite m c k => cases n <;> simp [compare?, amount?]
  | finite n c k =>
    cases e with
    | nan => simp [compare?, amount?]
    | infinite m => cases m <;> simp [compare?, amount?]
    | finite m c' k' =>
      rw [compare?_finite]
      constructor
      · exact fun h => ⟨_, rfl, h.symm⟩
      · rintro ⟨x, hx, hx'⟩
        exact hx.trans hx'.symm

theorem amount?_ofInt (n : Int) : (ofInt n).amount? = some (.finite n) := by
  simp only [ofInt, amount?, magnitude, zpow_zero, mul_one]
  by_cases hn : n < 0
  · have habs : ((n.natAbs : ℤ) : ℚ) = -n := by
      rw [Int.ofNat_natAbs_of_nonpos hn.le, Int.cast_neg]
    rw [Int.cast_natCast] at habs
    simp [hn, habs]
  · have habs : ((n.natAbs : ℤ) : ℚ) = n := by
      rw [Int.natAbs_of_nonneg (by omega)]
    rw [Int.cast_natCast] at habs
    simp [hn, habs]

end Decimal

/-! ### Comparing numbers -/

namespace Value

variable {u v w : Value}

def amount? (v : Value) : Option Amount :=
  v.number?.bind Decimal.amount?

/-- Numbers of any two kinds compare as equal when they stand for the same number. -/
theorem compareNumbers?_eq_eq :
    compareNumbers? v w = some .eq ↔ ∃ x, v.amount? = some x ∧ w.amount? = some x := by
  unfold compareNumbers?
  split
  · rename_i m n
    simp only [amount?, number?, Option.bind_some, Decimal.amount?_ofInt, Option.some.injEq,
      compare_eq_iff_eq]
    constructor
    · rintro rfl
      exact ⟨_, rfl, rfl⟩
    · rintro ⟨x, rfl, hx⟩
      exact (Int.cast_inj.mp (Amount.finite.inj hx)).symm
  · unfold amount?
    cases v.number? with
    | none => simp
    | some d =>
      cases w.number? with
      | none => simp
      | some e => exact Decimal.compare?_eq_eq

theorem compareNumbers?_comm :
    compareNumbers? v w = some .eq ↔ compareNumbers? w v = some .eq := by
  rw [compareNumbers?_eq_eq, compareNumbers?_eq_eq]
  constructor
  · exact fun ⟨x, hv, hw⟩ => ⟨x, hw, hv⟩
  · exact fun ⟨x, hw, hv⟩ => ⟨x, hv, hw⟩

/-! ### Equality -/

def IsNumber (v : Value) : Prop :=
  v.number?.isSome = true

theorem equal_of_number (hv : v.IsNumber) : v.equal w =
    if areNumbers v w then
      if v.isSignalling || w.isSignalling then .error .undefinedComparison
      else .ok (compareNumbers? v w == some .eq)
    else .ok false := by
  unfold equal
  split
  · cases hv
  · cases hv
  · cases hv
  · cases hv
  · cases hv
  · cases hv
  · rfl

theorem areNumbers_comm (v w : Value) : areNumbers v w = areNumbers w v :=
  Bool.and_comm _ _

theorem isNumber_of_amount? {x : Amount} (h : v.amount? = some x) : v.IsNumber := by
  obtain ⟨d, hd, _⟩ := Option.bind_eq_some_iff.mp h
  exact Option.isSome_of_eq_some hd

theorem isSignalling_of_amount? {x : Amount} (h : v.amount? = some x) : v.isSignalling = false := by
  obtain ⟨d, hd, hx⟩ := Option.bind_eq_some_iff.mp h
  cases v with
  | decimal d' =>
    obtain rfl := Option.some.inj hd
    cases d' with
    | nan => cases hx
    | finite => rfl
    | infinite => rfl
  | _ => rfl

theorem equal_number_comm (hv : v.IsNumber) : v.equal w = w.equal v := by
  by_cases hw : w.IsNumber
  · have hcompare : (compareNumbers? v w == some .eq) = (compareNumbers? w v == some .eq) := by
      rw [Bool.eq_iff_iff, beq_iff_eq, beq_iff_eq]
      exact compareNumbers?_comm
    rw [equal_of_number hv, equal_of_number hw, areNumbers_comm, hcompare, Bool.or_comm]
  · have hnot : areNumbers v w = false := by
      unfold areNumbers
      rw [Bool.eq_false_of_not_eq_true hw, Bool.and_false]
    rw [equal_of_number hv, hnot, if_neg Bool.false_ne_true]
    unfold equal
    split
    · cases hv
    · cases hv
    · cases hv
    · cases hv
    · cases hv
    · cases hv
    · rw [areNumbers_comm, hnot, if_neg Bool.false_ne_true]

mutual

/-- Equality does not depend on the order of its arguments. -/
theorem equal_comm : ∀ v w : Value, v.equal w = w.equal v
  | .bool _, _ => equal_number_comm rfl
  | .int _, _ => equal_number_comm rfl
  | .float _, _ => equal_number_comm rfl
  | .decimal _, _ => equal_number_comm rfl
  | .null, w => by cases w <;> rfl
  | .text s, w => by cases w <;> simp [equal, areNumbers, number?, Bool.beq_comm]
  | .date d, w => by cases w <;> simp [equal, areNumbers, number?, Bool.beq_comm]
  | .bytes b, w => by cases w <;> simp [equal, areNumbers, number?, Bool.beq_comm]
  | .list items, w => by
    cases w with
    | list others =>
      simp only [equal, Bool.beq_comm (a := items.length), equalEach_comm items others]
    | _ => rfl
  | .group items, w => by
    cases w with
    | group others =>
      simp only [equal, Bool.beq_comm (a := items.length), equalEach_comm items others]
    | _ => rfl

theorem equalEach_comm :
    ∀ items others : List Value, equalEach items others = equalEach others items
  | [], others => by cases others <;> rfl
  | _ :: _, [] => rfl
  | v :: items, w :: others => by
    simp only [equalEach, equal_comm v w, equalEach_comm items others]

end

/-- A number is equal to a value only if both stand for one exact number. -/
theorem amount?_of_equal (hv : v.IsNumber) (h : v.equal w = .ok true) :
    ∃ x, v.amount? = some x ∧ w.amount? = some x := by
  rw [equal_of_number hv] at h
  split at h
  · split at h
    · cases h
    · exact compareNumbers?_eq_eq.mp (beq_iff_eq.mp (Except.ok.inj h))
  · cases h

theorem equal_number_congr (hv : v.IsNumber) (h : v.equal w = .ok true) (u : Value) :
    v.equal u = w.equal u := by
  obtain ⟨x, hxv, hxw⟩ := amount?_of_equal hv h
  have hw := isNumber_of_amount? hxw
  have hnumbers : areNumbers v u = areNumbers w u := by
    unfold areNumbers
    rw [hv, hw]
  have hcompare : (compareNumbers? v u == some .eq) = (compareNumbers? w u == some .eq) := by
    rw [Bool.eq_iff_iff, beq_iff_eq, beq_iff_eq, compareNumbers?_eq_eq, compareNumbers?_eq_eq,
      hxv, hxw]
  rw [equal_of_number hv, equal_of_number hw, hnumbers, hcompare, isSignalling_of_amount? hxv,
    isSignalling_of_amount? hxw]

theorem sameItems_congr {items others : List Value}
    (h : (if items.length == others.length then equalEach items others else .ok false) = .ok true)
    (heach : items.length = others.length → equalEach items others = .ok true →
      ∀ more, equalEach items more = equalEach others more) (more : List Value) :
    (if items.length == more.length then equalEach items more else .ok false)
      = if others.length == more.length then equalEach others more else .ok false := by
  split at h
  · rename_i hsame
    have hlength := beq_iff_eq.mp hsame
    rw [hlength, heach hlength h more]
  · cases h

mutual

/-- Equal values can be put for one another. -/
theorem equal_congr : ∀ {v w : Value}, v.equal w = .ok true → ∀ u, v.equal u = w.equal u
  | .bool b, _, h, u => equal_number_congr (v := .bool b) rfl h u
  | .int n, _, h, u => equal_number_congr (v := .int n) rfl h u
  | .float x, _, h, u => equal_number_congr (v := .float x) rfl h u
  | .decimal d, _, h, u => equal_number_congr (v := .decimal d) rfl h u
  | .null, w, h, _ => by
    cases w with
    | null => rfl
    | _ => cases h
  | .text _, w, h, _ => by
    cases w with
    | text t =>
      obtain rfl := beq_iff_eq.mp (Except.ok.inj h)
      rfl
    | _ => cases h
  | .date _, w, h, _ => by
    cases w with
    | date e =>
      obtain rfl := beq_iff_eq.mp (Except.ok.inj h)
      rfl
    | _ => cases h
  | .bytes _, w, h, _ => by
    cases w with
    | bytes c =>
      obtain rfl := beq_iff_eq.mp (Except.ok.inj h)
      rfl
    | _ => cases h
  | .list items, w, h, u => by
    cases w with
    | list others =>
      cases u with
      | list more => exact sameItems_congr h (fun hlength => equalEach_congr hlength) more
      | _ => rfl
    | _ => cases h
  | .group items, w, h, u => by
    cases w with
    | group others =>
      cases u with
      | group more => exact sameItems_congr h (fun hlength => equalEach_congr hlength) more
      | _ => rfl
    | _ => cases h

theorem equalEach_congr : ∀ {items others : List Value}, items.length = others.length →
    equalEach items others = .ok true → ∀ more, equalEach items more = equalEach others more
  | [], [], _, _, _ => rfl
  | v :: items, w :: others, hlength, h, more => by
    cases more with
    | nil => rfl
    | cons u more =>
      simp only [equalEach] at h ⊢
      cases hequal : v.equal w with
      | error e =>
        rw [hequal] at h
        cases h
      | ok same =>
        rw [hequal] at h
        cases same with
        | false => cases h
        | true =>
          rw [equal_congr hequal u, equalEach_congr (Nat.succ.inj hlength) h more]

end

end Value

end DecisionTable
