import DecisionTable.Json.Parse
import DecisionTable.Json.Print
import Mathlib.Tactic.IntervalCases

/-!
# Texts in JSON

A text is read back from its JSON form character by character: what is written for a character is
read as that character, whatever follows. A character beyond U+FFFF is written as two code units and
read as one character again.
-/

namespace DecisionTable

namespace Text

/-- The last hexadecimal digits of a number. -/
def lastDigits : Nat → Nat → List Char
  | 0, _ => []
  | width + 1, n => lastDigits width (n / 16) ++ [Nat.digitChar (n % 16)]

theorem lastDigits_zero (width : Nat) : lastDigits width 0 = List.replicate width '0' := by
  induction width with
  | zero => rfl
  | succ width ih =>
    rw [lastDigits, Nat.zero_div, ih, List.replicate_succ']
    rfl

theorem toDigits_of_le {n : Nat} (h : 16 ≤ n) :
    Nat.toDigits 16 n = Nat.toDigits 16 (n / 16) ++ [Nat.digitChar (n % 16)] := by
  have hlast : Nat.toDigits 16 (n % 16) = [Nat.digitChar (n % 16)] :=
    Nat.toDigits_of_lt_base (Nat.mod_lt _ (by omega))
  have happend := Nat.toDigits_append_toDigits (b := 16) (n := n / 16) (d := n % 16)
    (by omega) (by omega) (Nat.mod_lt _ (by omega))
  rw [hlast, Nat.div_add_mod] at happend
  exact happend.symm

/-- Digits that fill their width are the last digits. -/
theorem padded_eq_lastDigits {width n : Nat} (hwidth : 0 < width) (hn : n < 16 ^ width) :
    List.replicate (width - (Nat.toDigits 16 n).length) '0' ++ Nat.toDigits 16 n
      = lastDigits width n := by
  induction width generalizing n with
  | zero => omega
  | succ width ih =>
    rw [lastDigits]
    by_cases hsmall : n < 16
    · rw [Nat.toDigits_of_lt_base hsmall, Nat.div_eq_of_lt hsmall, Nat.mod_eq_of_lt hsmall,
        lastDigits_zero]
      rfl
    · have hpos : 0 < width := by
        by_contra hzero
        have : width = 0 := by omega
        subst this
        omega
      have hdiv : n / 16 < 16 ^ width := by
        rw [Nat.div_lt_iff_lt_mul (by omega), ← Nat.pow_succ]
        exact hn
      rw [toDigits_of_le (by omega), List.length_append, List.length_singleton,
        Nat.add_sub_add_right, ← List.append_assoc, ih hpos hdiv]

end Text

namespace Json

open Text

/-! ### Code escapes -/

theorem hexValue?_digitChar {d : Nat} (h : d < 16) : hexValue? (Nat.digitChar d) = some d := by
  interval_cases d <;> decide

theorem codeEscape_eq {unit : Nat} (h : unit < 0x10000) :
    codeEscape unit = '\\' :: 'u' :: lastDigits 4 unit := by
  have hhex : (hex 4 unit).toList = lastDigits 4 unit := by
    rw [hex, String.toList_ofList]
    exact padded_eq_lastDigits (by omega) h
  rw [codeEscape, hhex]

theorem codeUnit?_lastDigits {unit : Nat} (h : unit < 0x10000) (next : Char) (rest : List Char) :
    codeUnit? (lastDigits 4 unit ++ next :: rest) = some (unit, next :: rest) := by
  simp only [lastDigits, List.nil_append, List.cons_append, codeUnit?]
  have hmod : ∀ n, n % 16 < 16 := fun n => Nat.mod_lt _ (by omega)
  rw [hexValue?_digitChar (hmod _), hexValue?_digitChar (hmod _), hexValue?_digitChar (hmod _),
    hexValue?_digitChar (hmod _)]
  simp only [bind, Option.bind, Option.some.injEq, Prod.mk.injEq, and_true]
  omega

theorem length_lastDigits (width n : Nat) : (lastDigits width n).length = width := by
  induction width generalizing n with
  | zero => rfl
  | succ width ih => rw [lastDigits, List.length_append, ih, List.length_singleton]

theorem toNat_valid (c : Char) : c.toNat < 0xD800 ∨ 0xDFFF < c.toNat ∧ c.toNat < 0x110000 := by
  have hvalid : Nat.isValidChar c.toNat := c.valid
  unfold Nat.isValidChar at hvalid
  exact hvalid

theorem readCode_unit (c : Char) (hc : c.toNat < 0x10000) (next : Char) (rest : List Char) :
    readCode (lastDigits 4 c.toNat ++ next :: rest) = .ok (c, next :: rest) := by
  have hvalid := toNat_valid c
  have hnot : ¬ ((decide (0xD800 ≤ c.toNat) && decide (c.toNat < 0xE000)) = true) := by
    simp only [Bool.and_eq_true, decide_eq_true_eq]
    omega
  have hunit : ofUnit c.toNat = c := by
    rw [ofUnit, if_neg hnot, Char.ofNat_toNat]
  have hhigh : ¬ ((decide (0xD800 ≤ c.toNat) && decide (c.toNat < 0xDC00)) = true) := by
    simp only [Bool.and_eq_true, decide_eq_true_eq]
    omega
  simp only [readCode, codeUnit?_lastDigits hc]
  rw [if_neg hhigh, hunit]

theorem ofSurrogates_eq {c : Char} (hc : 0x10000 ≤ c.toNat) :
    ofSurrogates (0xD800 + (c.toNat - 0x10000) / 0x400) (0xDC00 + (c.toNat - 0x10000) % 0x400)
      = c := by
  have hdiv := Nat.div_add_mod (c.toNat - 0x10000) 0x400
  have hsum : 0x10000 + (0xD800 + (c.toNat - 0x10000) / 0x400 - 0xD800) * 0x400
      + (0xDC00 + (c.toNat - 0x10000) % 0x400 - 0xDC00) = c.toNat := by
    rw [Nat.add_sub_cancel_left, Nat.add_sub_cancel_left]
    omega
  rw [ofSurrogates, hsum, Char.ofNat_toNat]

theorem readCode_pair {high low : Nat} (hhigh : 0xD800 ≤ high ∧ high < 0xDC00)
    (hlow : 0xDC00 ≤ low ∧ low < 0xE000) (next : Char) (rest : List Char) :
    readCode (lastDigits 4 high ++ '\\' :: 'u' :: (lastDigits 4 low ++ next :: rest))
      = .ok (ofSurrogates high low, next :: rest) := by
  have hlength : ¬ (lastDigits 4 low ++ next :: rest).length ≤ 4 := by
    rw [List.length_append, length_lastDigits, List.length_cons]
    omega
  have hfirst : (decide (0xD800 ≤ high) && decide (high < 0xDC00)) = true := by
    rw [Bool.and_eq_true, decide_eq_true_eq, decide_eq_true_eq]
    exact hhigh
  have hsecond : (decide (0xDC00 ≤ low) && decide (low < 0xE000)) = true := by
    rw [Bool.and_eq_true, decide_eq_true_eq, decide_eq_true_eq]
    exact hlow
  have hhighUnit : high < 0x10000 := by omega
  have hlowUnit : low < 0x10000 := by omega
  simp only [readCode, codeUnit?_lastDigits hhighUnit, codeUnit?_lastDigits hlowUnit]
  rw [if_pos hfirst, if_neg hlength, if_pos hsecond]

/-! ### Characters -/

variable {start done rest : List Char} {fuel : Nat}

theorem readText_escape {letter c : Char} (hletter : letter ≠ 'u')
    (h : escaped? letter = some c) :
    readText start (fuel + 1) done ('\\' :: letter :: rest)
      = readText start fuel (c :: done) rest := by
  rw [readText]
  · simp [h]
  · exact hletter

theorem readText_code {c : Char} {digits : List Char} (h : readCode digits = .ok (c, rest)) :
    readText start (fuel + 1) done ('\\' :: 'u' :: digits)
      = readText start fuel (c :: done) rest := by
  rw [readText]
  simp [h]

theorem readText_plain {c : Char} (hquote : c ≠ '"') (hslash : c ≠ '\\') (hcontrol : ' ' ≤ c) :
    readText start (fuel + 1) done (c :: rest) = readText start fuel (c :: done) rest := by
  have hnat : ¬ c.toNat < 0x20 := Nat.not_lt.mpr hcontrol
  conv_lhs => unfold readText
  simp [hquote, hslash, hnat]

/-- The ways in which a character is written. -/
inductive Escape (c : Char) : List Char → Prop where
  | letter (letter : Char) (hletter : letter ≠ 'u') (hc : escaped? letter = some c) :
      Escape c ['\\', letter]
  | plain (hquote : c ≠ '"') (hslash : c ≠ '\\') (hcontrol : ' ' ≤ c) : Escape c [c]
  | unit (hc : c.toNat < 0x10000) : Escape c (codeEscape c.toNat)
  | pair (high low : Nat) (hhigh : 0xD800 ≤ high ∧ high < 0xDC00)
      (hlow : 0xDC00 ≤ low ∧ low < 0xE000) (hc : ofSurrogates high low = c) :
      Escape c (codeEscape high ++ codeEscape low)

theorem escape_letter {c d letter : Char} (h : (c == d) = true) (hletter : letter ≠ 'u')
    (hd : escaped? letter = some d) : Escape c ['\\', letter] := by
  rw [beq_iff_eq] at h
  exact .letter letter hletter (h ▸ hd)

theorem escape_escapeChar (c : Char) : Escape c (escapeChar c) := by
  unfold escapeChar
  split
  · rename_i h
    rw [Bool.or_eq_true, beq_iff_eq, beq_iff_eq] at h
    rcases h with rfl | rfl
    · exact .letter _ (by decide) rfl
    · exact .letter _ (by decide) rfl
  rename_i hspecial
  simp only [Bool.or_eq_true, beq_iff_eq, not_or] at hspecial
  split
  · exact escape_letter ‹_› (by decide) rfl
  split
  · exact escape_letter ‹_› (by decide) rfl
  split
  · exact escape_letter ‹_› (by decide) rfl
  split
  · exact escape_letter ‹_› (by decide) rfl
  split
  · exact escape_letter ‹_› (by decide) rfl
  split
  · rename_i hprint
    rw [Bool.and_eq_true, decide_eq_true_eq] at hprint
    exact .plain hspecial.1 hspecial.2 hprint.1
  split
  · exact .unit ‹_›
  · have hvalid := toNat_valid c
    exact .pair _ _ (by omega) (by omega) (ofSurrogates_eq (by omega))

theorem escapeChar_ne_nil (c : Char) : escapeChar c ≠ [] := by
  have h := escape_escapeChar c
  generalize escapeChar c = cs at h
  cases h with
  | letter => exact List.cons_ne_nil _ _
  | plain => exact List.cons_ne_nil _ _
  | unit => exact List.cons_ne_nil _ _
  | pair => exact List.cons_ne_nil _ _

/-- What is written for a character is read as that character. -/
theorem readText_escapeChar (c : Char) (hrest : rest ≠ []) :
    readText start (fuel + 1) done (escapeChar c ++ rest)
      = readText start fuel (c :: done) rest := by
  obtain ⟨next, rest, rfl⟩ := List.exists_cons_of_ne_nil hrest
  have h := escape_escapeChar c
  generalize escapeChar c = cs at h
  cases h with
  | letter letter hletter hc => exact readText_escape hletter hc
  | plain hquote hslash hcontrol => exact readText_plain hquote hslash hcontrol
  | unit hc =>
    rw [codeEscape_eq hc]
    exact readText_code (readCode_unit c hc next rest)
  | pair high low hhigh hlow hc =>
    have hread := readCode_pair hhigh hlow next rest
    rw [hc] at hread
    rw [codeEscape_eq (by omega), codeEscape_eq (by omega), List.append_assoc]
    exact readText_code hread

/-! ### Texts -/

theorem length_le_flatMap (cs : List Char) : cs.length ≤ (cs.flatMap escapeChar).length := by
  induction cs with
  | nil => exact le_rfl
  | cons c cs ih =>
    have hpos := List.length_pos_iff.mpr (escapeChar_ne_nil c)
    rw [List.flatMap_cons, List.length_append, List.length_cons]
    omega

theorem readText_chars (cs : List Char) (hfuel : cs.length < fuel) :
    readText start fuel done (cs.flatMap escapeChar ++ '"' :: rest)
      = .ok (String.ofList (done.reverse ++ cs), rest) := by
  induction cs generalizing fuel done with
  | nil =>
    obtain ⟨fuel, rfl⟩ := Nat.exists_eq_add_of_lt hfuel
    simp [readText]
  | cons c cs ih =>
    rw [List.length_cons] at hfuel
    obtain ⟨fuel, rfl⟩ : ∃ n, fuel = n + 1 := ⟨fuel - 1, by omega⟩
    rw [List.flatMap_cons, List.append_assoc, readText_escapeChar c (by simp), ih (by omega)]
    simp

theorem toList_printText (s : String) :
    (printText s).toList = '"' :: (s.toList.flatMap escapeChar ++ ['"']) := by
  rw [printText, String.toList_ofList]

/-- A text is read back from its JSON form. -/
theorem readText_printText (s : String) (rest : List Char) :
    ∃ body, (printText s).toList ++ rest = '"' :: body ∧
      readText ('"' :: body) (body.length + 1) [] body = .ok (s, rest) := by
  refine ⟨s.toList.flatMap escapeChar ++ '"' :: rest, ?_, ?_⟩
  · rw [toList_printText]
    simp
  · have hlength := length_le_flatMap s.toList
    rw [readText_chars s.toList (by rw [List.length_append]; omega)]
    simp

end Json

end DecisionTable
