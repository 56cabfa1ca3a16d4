import DecisionTable.Proofs.Table.Records
import DecisionTable.Text.DecimalDigit
import Mathlib.Data.Nat.Digits.Defs

/-!
# Digits of all scripts

A decimal digit lies in one row of ten, apart from all blanks, and the digit `0` to `9` in its place
has the same value. The number that a run of digits denotes is given by the digits of the run in base
ten, the last one first.
-/

namespace DecisionTable.Text

variable {c d : Char} {ds es : List Char}

/-! ### One digit -/

theorem exists_zero (h : isDigit c = true) :
    ∃ z ∈ digitZeros, z ≤ c.toNat ∧ c.toNat < z + 10 ∧ digitValue? c = some (c.toNat - z) := by
  unfold isDigit at h
  obtain ⟨n, hn⟩ := Option.isSome_iff_exists.mp h
  obtain ⟨z, hz, rfl⟩ := Option.map_eq_some_iff.mp hn
  have hrow := List.find?_some hz
  simp only [Bool.and_eq_true, decide_eq_true_eq] at hrow
  exact ⟨z, List.mem_of_find?_eq_some hz, hrow.1, hrow.2, hn⟩

theorem isBlank_of_isDigit (h : isDigit c = true) : isBlank c = false := by
  have hapart : ∀ z ∈ digitZeros, ∀ r ∈ blankRanges, z + 10 ≤ r.1 ∨ r.2 < z := by decide
  obtain ⟨z, hz, hlow, hhigh, _⟩ := exists_zero h
  unfold isBlank inRanges
  rw [List.any_eq_false]
  intro r hr
  simp only [Bool.and_eq_true, decide_eq_true_eq, not_and, not_le]
  intro hle
  rcases hapart z hz r hr with habove | hbelow
  · omega
  · omega

theorem toLower_of_isDigit (h : isDigit c = true) : c.toLower = c := by
  have hapart : ∀ z ∈ digitZeros, z + 10 ≤ 'A'.toNat ∨ 'Z'.toNat < z := by decide
  obtain ⟨z, hz, hlow, hhigh, _⟩ := exists_zero h
  unfold Char.toLower
  rw [dif_neg]
  rintro ⟨hA, hZ⟩
  have hA' : 'A'.toNat ≤ c.toNat := hA
  have hZ' : c.toNat ≤ 'Z'.toNat := hZ
  rcases hapart z hz with habove | hbelow
  · omega
  · omega

theorem ne_of_isDigit (h : isDigit c = true) (hd : isDigit d = false) : c ≠ d := by
  rintro rfl
  rw [h] at hd
  cases hd

/-- The ten digits `0` to `9` stand for the digits of every script. -/
theorem exists_asciiDigit (h : isDigit c = true) :
    ∃ n < 10, digitValue? c = some n ∧ toAsciiDigit c = asciiDigit n := by
  obtain ⟨z, _, hlow, hhigh, hvalue⟩ := exists_zero h
  refine ⟨c.toNat - z, by omega, hvalue, ?_⟩
  rw [toAsciiDigit, hvalue]

theorem digitValue?_toAsciiDigit (h : isDigit c = true) :
    digitValue? (toAsciiDigit c) = digitValue? c := by
  have hten : ∀ n < 10, digitValue? (asciiDigit n) = some n := by decide
  obtain ⟨n, hn, hvalue, hascii⟩ := exists_asciiDigit h
  rw [hascii, hvalue, hten n hn]

/-! ### Runs of digits -/

/-- One digit or more, and nothing else. -/
structure Digits (ds : List Char) : Prop where
  nonempty : ds ≠ []
  digits : ∀ c ∈ ds, isDigit c = true

/-- The number with the given digits in base ten. -/
def numberOf (ds : List Char) : Nat :=
  Nat.ofDigits 10 (ds.reverse.map fun c => (digitValue? c).getD 0)

theorem digitsValue_eq_numberOf (ds : List Char) : digitsValue ds = numberOf ds := by
  rw [numberOf, Nat.ofDigits_eq_foldr, List.foldr_map, List.foldr_reverse, digitsValue]
  congr 1
  funext n c
  simp only [Nat.cast_id]
  omega

namespace Digits

theorem append (hds : Digits ds) (hes : Digits es) : Digits (ds ++ es) where
  nonempty := List.append_ne_nil_of_left_ne_nil hds.nonempty es
  digits := List.forall_mem_append.mpr ⟨hds.digits, hes.digits⟩

/-- The digits `0` to `9` in place of those of another script denote the same number. -/
theorem toAscii (hds : Digits ds) :
    Digits (ds.map toAsciiDigit) ∧ numberOf (ds.map toAsciiDigit) = numberOf ds := by
  have hvalue : ∀ c ∈ ds, digitValue? (toAsciiDigit c) = digitValue? c :=
    fun c hc => digitValue?_toAsciiDigit (hds.digits c hc)
  refine ⟨⟨by simpa using hds.nonempty, ?_⟩, ?_⟩
  · rw [List.forall_mem_map]
    intro c hc
    rw [isDigit, hvalue c hc]
    exact hds.digits c hc
  · unfold numberOf
    congr 1
    rw [← List.map_reverse, List.map_map]
    refine List.map_congr_left ?_
    intro c hc
    simp only [Function.comp_apply, hvalue c (List.mem_reverse.mp hc)]

end Digits

/-! ### Where a run ends -/

variable {p : Char → Bool} {cs rest tail : List Char}

theorem takeWhile_run (hcs : ∀ c ∈ cs, p c = true) (hrest : ∀ c ∈ rest.head?, p c = false) :
    (cs ++ rest).takeWhile p = cs := by
  rw [List.takeWhile_append_of_pos hcs]
  cases rest with
  | nil => simp
  | cons c rest => simp [hrest c rfl]

theorem dropWhile_run (hcs : ∀ c ∈ cs, p c = true) (hrest : ∀ c ∈ rest.head?, p c = false) :
    (cs ++ rest).dropWhile p = rest := by
  rw [List.dropWhile_append_of_pos hcs]
  cases rest with
  | nil => rfl
  | cons c rest => simp [hrest c rfl]

theorem trimBoth_append (hcs : ∀ c ∈ cs, p c = false)
    (htail : ∀ c ∈ tail, p c = true) : trimBoth p (cs ++ tail) = cs := by
  have hlast : (cs ++ tail).rdropWhile p = cs.rdropWhile p := by
    simp only [List.rdropWhile, List.reverse_append]
    rw [List.dropWhile_append_of_pos (by simpa using htail)]
  cases cs with
  | nil =>
    rw [trimBoth_eq, List.nil_append, List.dropWhile_eq_nil_iff.mpr htail]
    rfl
  | cons c cs =>
    have hfirst : (c :: cs ++ tail).dropWhile p = c :: cs ++ tail := by
      simp [hcs c List.mem_cons_self]
    rw [trimBoth_eq, hfirst, hlast, List.rdropWhile_eq_self_iff]
    intro hne
    simp [hcs _ (List.getLast_mem hne)]

end DecisionTable.Text
