import DecisionTable.Proofs.Literal.Conversion
import DecisionTable.Proofs.Operator.Membership

/-!
# Integers as operands

The decimal text of an integer consists of digits with at most a minus in front, and reads as that
integer, unless it is too long to be converted. So an integer is compared with it as with the
integer itself.
-/

namespace DecisionTable

/-! ### Decimal texts -/

namespace Text

theorem digitValue?_of_ascii {c : Char} (h : c.isDigit = true) :
    digitValue? c = some (c.toNat - '0'.toNat) := by
  simp only [Char.isDigit, Bool.and_eq_true, decide_eq_true_eq] at h
  have hlow : '0'.toNat ≤ c.toNat := h.1
  have hhigh : c.toNat ≤ '9'.toNat := h.2
  have hten : '9'.toNat < '0'.toNat + 10 := by decide
  have hzeros : digitZeros = '0'.toNat :: digitZeros.tail := rfl
  have hfirst : digitZeros.find? (fun z => z ≤ c.toNat && c.toNat < z + 10) = some '0'.toNat := by
    rw [hzeros, List.find?_cons_of_pos]
    simp only [hlow, decide_true, Bool.true_and, decide_eq_true_eq]
    omega
  rw [digitValue?, hfirst]
  rfl

theorem digits_toDigits (n : Nat) : Digits (Nat.toDigits 10 n) where
  nonempty := Nat.toDigits_ne_nil
  digits := by
    intro c hc
    have hdigit : c.isDigit = true := Nat.isDigit_of_mem_toDigits (by decide) le_rfl hc
    rw [isDigit, digitValue?_of_ascii hdigit]
    rfl

theorem numberOf_toDigits (n : Nat) : numberOf (Nat.toDigits 10 n) = n := by
  have hvalue : digitsValue (Nat.toDigits 10 n) = Nat.ofDigitChars 10 (Nat.toDigits 10 n) 0 := by
    rw [digitsValue, Nat.ofDigitChars_eq_foldl]
    refine List.foldl_ext _ _ _ ?_
    intro m c hc
    rw [digitValue?_of_ascii (Nat.isDigit_of_mem_toDigits (by decide) le_rfl hc)]
    rfl
  rw [← digitsValue_eq_numberOf, hvalue, Nat.ofDigitChars_ten_toDigits]

end Text

namespace Literal

open Numeral

theorem exists_signed_digits (k : Int) : ∃ sign negative, Sign sign negative ∧
    toString k = String.ofList (sign ++ Nat.toDigits 10 k.natAbs) ∧
    signed negative k.natAbs = k := by
  rw [Int.toString_eq_repr, Int.repr_eq_if]
  by_cases hk : 0 ≤ k
  · have habs : k.toNat = k.natAbs := by omega
    refine ⟨[], false, .none, ?_, ?_⟩
    · rw [if_pos hk, habs, Nat.repr_eq_ofList_toDigits]
      rfl
    · simp only [signed, Bool.false_eq_true, if_false]
      omega
  · have habs : (-k).toNat = k.natAbs := by omega
    refine ⟨['-'], true, .minus, ?_, ?_⟩
    · rw [if_neg hk, habs, Nat.repr_eq_ofList_toDigits, String.ofList_append]
    · rw [signed, if_pos rfl]
      omega

theorem readIntegerValue_toString {k : Int}
    (hk : Decimal.digitCount k.natAbs ≤ maxIntegerDigits) :
    readIntegerValue (toString k) = .ok k := by
  obtain ⟨sign, negative, hsign, htext, hvalue⟩ := exists_signed_digits k
  have hnone : ∀ c ∈ [], isNumeralBlank c = true := List.forall_mem_nil _
  have hread := readIntegerValue_integer hsign (Text.digits_toDigits k.natAbs) hnone
  rw [Decimal.digitCount_eq] at hk
  rw [List.append_nil, ← htext, if_neg (Nat.not_lt.mpr hk), Text.numberOf_toDigits, hvalue] at hread
  exact hread

end Literal

/-! ### Comparisons -/

theorem Operator.decide_order_int {k : Int} {a : Attribute} (c : Comparison) (s : Int)
    (ha : a.shape = ⟨.single, .scalar⟩)
    (hk : Decimal.digitCount k.natAbs ≤ maxIntegerDigits) :
    decide (.order c) (.single a (.int s)) (toString k) = .ok (c.holds (compare s k)) := by
  have hread : Value.readLike (.int s) (toString k) = .ok (.int k) := by
    rw [Value.readLike, Literal.readIntegerValue_toString hk]
    rfl
  have hkind : ∀ n : Int, (Value.int n).kind ≠ .decimal := by simp [Value.kind]
  have hcompares : Value.Compares (.int s) (.int k) (some (compare s k)) :=
    Value.compares_numbers rfl (hkind s) (hkind k)
  exact decide_order_of_compares ha hread hcompares

end DecisionTable
