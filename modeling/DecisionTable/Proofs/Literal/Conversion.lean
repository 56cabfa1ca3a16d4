import DecisionTable.Proofs.Literal.Cell
import DecisionTable.Proofs.Literal.Numeral

/-!
# Conversion of outcomes

An outcome that is written as a numeral has the number as its value. The form of a numeral admits one
line break behind it, but the value of a long integer or a float is read from the text without its
last character. Behind a line break the mark of the datatype is still there, and there is no value.
-/

namespace DecisionTable

namespace Literal

open Text (Digits)
open Numeral

variable {cs : List Char} {text : String}

/-! ### Numerals of each datatype -/

theorem digits_of_isDigits (h : isDigits cs = true) : Digits cs := by
  simp only [isDigits, Bool.and_eq_true, Bool.not_eq_true', List.isEmpty_eq_false_iff,
    List.all_eq_true] at h
  exact ⟨h.1, h.2⟩

theorem exists_integer (h : isInteger cs = true) : ∃ n, Integer cs n := by
  obtain ⟨sign, hsign, hcs⟩ := exists_sign cs
  have hinteger := Integer.digits hsign (digits_of_isDigits h)
  rw [← hcs] at hinteger
  exact ⟨_, hinteger⟩

theorem exists_exponent (h : isExponent cs = true) : ∃ n, Exponent cs n := by
  cases cs with
  | nil => exact ⟨_, .none⟩
  | cons mark rest =>
    simp only [isExponent, Bool.and_eq_true, Bool.or_eq_true, beq_iff_eq] at h
    obtain ⟨n, hn⟩ := exists_integer h.2
    exact ⟨n, .marked h.1 hn⟩

theorem exists_fractional (h : isFractional cs = true) :
    ∃ negative coefficient n, Fractional cs negative coefficient n := by
  obtain ⟨sign, hsign, hcs⟩ := exists_sign cs
  simp only [isFractional] at h
  generalize (splitSign cs).2 = body at h hcs
  split at h
  · rename_i rest hrest
    simp only [Bool.and_eq_true] at h
    obtain ⟨⟨hwhole, hfraction⟩, hexponent⟩ := h
    obtain ⟨n, hn⟩ := exists_exponent hexponent
    have hfractional := Fractional.pointed hsign (digits_of_isDigits hwhole)
      (digits_of_isDigits hfraction) hn
    rw [List.takeWhile_append_dropWhile, ← hrest, List.takeWhile_append_dropWhile, ← hcs]
      at hfractional
    exact ⟨_, _, _, hfractional⟩
  · cases h

theorem exists_of_isMarked {mark : Char} {form : List Char → Bool}
    (h : isMarked mark form cs = true) : ∃ core, cs = core ++ [mark] ∧ form core = true := by
  simp only [isMarked, Bool.and_eq_true, beq_iff_eq] at h
  exact ⟨cs.dropLast, (List.dropLast_append_getLast? mark h.1).symm, h.2⟩

/-- How the numerals of the datatypes are written. -/
inductive Typed : List Char → LiteralType → Prop where
  | int {cs : List Char} {n : Int} (h : Integer cs n) : Typed cs .int
  | long {cs : List Char} {n : Int} (h : Integer cs n) : Typed (cs ++ ['L']) .long
  | double {cs : List Char} {negative : Bool} {coefficient : Nat} {n : Int}
      (h : Fractional cs negative coefficient n) : Typed cs .double
  | float {cs : List Char} {negative : Bool} {coefficient : Nat} {n : Int}
      (h : Fractional cs negative coefficient n) : Typed (cs ++ ['F']) .float
  | anySimple {cs : List Char} : Typed cs .anySimple

theorem typed_numeralType (cs : List Char) : Typed cs (numeralType cs) := by
  unfold numeralType
  split
  · rename_i h
    obtain ⟨n, hn⟩ := exists_integer h
    exact .int hn
  · split
    · rename_i h
      obtain ⟨core, rfl, hcore⟩ := exists_of_isMarked h
      obtain ⟨n, hn⟩ := exists_integer hcore
      exact .long hn
    · split
      · rename_i h
        obtain ⟨negative, coefficient, n, hn⟩ := exists_fractional h
        exact .double hn
      · split
        · rename_i h
          obtain ⟨core, rfl, hcore⟩ := exists_of_isMarked h
          obtain ⟨negative, coefficient, n, hn⟩ := exists_fractional hcore
          exact .float hn
        · exact .anySimple

theorem inferType_numeral (hstring : inferType text ≠ .string) (huri : inferType text ≠ .uri) :
    inferType text = numeralType (dropLineBreak text.toList) := by
  unfold inferType typeOfChars at *
  split_ifs at * with hquoted hfull hname
  · exact absurd rfl hstring
  · exact absurd rfl huri
  · exact absurd rfl huri
  · rfl

theorem inferType_integer {n : Int} (h : Integer cs n) :
    inferType (String.ofList cs) = .int := by
  have habsent : ∀ c ∈ ['"', '<', '#', '\n'], c ∉ cs := by
    have hnot : ∀ c ∈ ['"', '<', '#', '\n'], ¬ Plain c := by
      unfold Plain
      exact List.forall_iff_forall_mem.mp (by decide)
    exact fun c hc hmem => hnot c hc (h.plain c hmem)
  have hquoted : ¬ isWrapped '"' '"' cs = true := by
    rintro hwrapped
    obtain ⟨xs, rfl⟩ := isWrapped_iff.mp hwrapped
    exact habsent '"' (by simp) List.mem_cons_self
  have hfull : ¬ isWrapped '<' '>' cs = true := by
    rintro hwrapped
    obtain ⟨xs, rfl⟩ := isWrapped_iff.mp hwrapped
    exact habsent '<' (by simp) List.mem_cons_self
  have hname : ¬ (cs.head? == some '#') = true := fun hhead =>
    habsent '#' (by simp) (List.mem_of_mem_head? (eq_of_beq hhead))
  have hbreak : ¬ (cs.getLast? == some '\n') = true := fun hlast =>
    habsent '\n' (by simp) (List.mem_of_getLast? (eq_of_beq hlast))
  have hinteger : isInteger cs = true := by
    obtain ⟨hsign, hds⟩ := h
    have hsplit := splitSign_append hsign hds []
    rw [List.append_nil] at hsplit
    simp [isInteger, hsplit, isDigits, hds.nonempty, List.all_eq_true.mpr hds.digits]
  have hcore : dropLineBreak cs = cs := if_neg hbreak
  rw [inferType, String.toList_ofList, typeOfChars, if_neg hquoted, if_neg hfull, if_neg hname,
    hcore, numeralType, if_pos hinteger]

theorem parse_integer {n : Int} (h : Integer cs n) (b : String) :
    parse (String.ofList cs) b = ⟨.int, String.ofList cs⟩ := by
  have htype := inferType_integer h
  rw [parse_plain (by simp [htype]) (by simp [htype]), htype]

/-! ### Numerals that are too long -/

/-- The digits before a point, or all digits if there is no point. -/
def integerPart (cs : List Char) : List Char :=
  (splitSign cs).2.takeWhile Text.isDigit

/-- The outcome is an integer of more digits than are converted. -/
def Overlong (l : TypedLiteral) : Prop :=
  (l.type = .int ∨ l.type = .long) ∧ maxIntegerDigits < (integerPart l.value.toList).length

section Reading

variable {sign ds rest tail : List Char} {negative : Bool}

theorem integerPart_append (hsign : Sign sign negative) (hds : Digits ds)
    (hrest : ∀ c ∈ rest.head?, Text.isDigit c = false) :
    integerPart (sign ++ ds ++ rest) = ds := by
  rw [integerPart, List.append_assoc, splitSign_append hsign hds, Text.takeWhile_run hds.digits hrest]

theorem readIntegerValue_digits (hsign : Sign sign negative) (hds : Digits ds)
    (hrest : ∀ c ∈ rest, Plain c) (hhead : ∀ c ∈ rest.head?, Text.isDigit c = false)
    (htail : ∀ c ∈ tail, isNumeralBlank c = true) :
    readIntegerValue (String.ofList (sign ++ (ds ++ rest) ++ tail))
      = if maxIntegerDigits < ds.length then .error (.integerTooLong ds.length)
        else if rest = [] then .ok (signed negative (Text.numberOf ds))
        else .error (.notInteger (String.ofList (sign ++ (ds ++ rest) ++ tail))) := by
  rw [readIntegerValue, readInteger_digits hsign hds hrest hhead htail]
  split_ifs
  · rfl
  · rfl
  · rfl

theorem readIntegerValue_integer (hsign : Sign sign negative) (hds : Digits ds)
    (htail : ∀ c ∈ tail, isNumeralBlank c = true) :
    readIntegerValue (String.ofList (sign ++ ds ++ tail))
      = if maxIntegerDigits < ds.length then .error (.integerTooLong ds.length)
        else .ok (signed negative (Text.numberOf ds)) := by
  have hread := readIntegerValue_digits hsign hds (List.forall_mem_nil _) nofun htail
  rwa [List.append_nil, if_pos rfl] at hread

theorem toValue_long_digits (hds : Digits ds) (hlong : maxIntegerDigits < ds.length) :
    TypedLiteral.toValue ⟨.int, String.ofList ds⟩ = .error (.integerTooLong ds.length) := by
  have hnone : ∀ c ∈ [], isNumeralBlank c = true := List.forall_mem_nil _
  have hread := readIntegerValue_integer .none hds hnone
  rw [List.nil_append, List.append_nil, if_pos hlong] at hread
  rw [TypedLiteral.toValue, hread]
  rfl

/-- A mark behind an integer is no part of it. -/
theorem readIntegerValue_marked (hsign : Sign sign negative) (hds : Digits ds) :
    readIntegerValue (String.ofList (sign ++ ds ++ ['L']))
      = if maxIntegerDigits < ds.length then .error (.integerTooLong ds.length)
        else .error (.notInteger (String.ofList (sign ++ ds ++ ['L']))) := by
  have hmark : ∀ c ∈ ['L'], Plain c := by simp [Plain]
  have hhead : ∀ c ∈ ['L'].head?, Text.isDigit c = false := by
    rintro c ⟨⟩
    decide
  have hread := readIntegerValue_digits hsign hds hmark hhead (List.forall_mem_nil _)
  rwa [List.append_nil, if_neg (List.cons_ne_nil _ _), ← List.append_assoc] at hread

end Reading

/-! ### Values -/

/-- What becomes of an outcome that was read from a text. -/
inductive Conversion (text : String) (l : TypedLiteral) : Except ValueFault Value → Prop where
  | int {cs : List Char} {n : Int} (htype : l.type = .int) (hcs : Integer cs n)
      (htext : text.toList = cs ∨ text.toList = cs ++ ['\n']) : Conversion text l (.ok (.int n))
  | long {cs : List Char} {n : Int} (htype : l.type = .long) (hcs : Integer cs n)
      (htext : text.toList = cs ++ ['L']) : Conversion text l (.ok (.int n))
  /-- The line break is cut off in place of the mark. -/
  | brokenLong {cs : List Char} {n : Int} (htype : l.type = .long) (hcs : Integer cs n)
      (htext : text.toList = cs ++ ['L', '\n']) :
      Conversion text l (.error (.notInteger (String.ofList (cs ++ ['L']))))
  | double {cs : List Char} {negative : Bool} {coefficient : Nat} {n : Int}
      (htype : l.type = .double) (hcs : Fractional cs negative coefficient n)
      (htext : text.toList = cs ∨ text.toList = cs ++ ['\n']) :
      Conversion text l (.ok (.float (.ofScientific negative coefficient n)))
  | float {cs : List Char} {negative : Bool} {coefficient : Nat} {n : Int}
      (htype : l.type = .float) (hcs : Fractional cs negative coefficient n)
      (htext : text.toList = cs ++ ['F']) :
      Conversion text l (.ok (.float (.ofScientific negative coefficient n)))
  /-- The line break is cut off in place of the mark. -/
  | brokenFloat {cs : List Char} {negative : Bool} {coefficient : Nat} {n : Int}
      (htype : l.type = .float) (hcs : Fractional cs negative coefficient n)
      (htext : text.toList = cs ++ ['F', '\n']) :
      Conversion text l (.error (.notFloat (String.ofList (cs ++ ['F']))))
  | other (htype : l.type ∉ [.int, .long, .double, .float]) :
      Conversion text l (.ok (.text l.value))

/-- What becomes of an outcome whatever the number of its digits. -/
def Outcome (text : String) (l : TypedLiteral) : Prop :=
  (Overlong l ∧ l.toValue = .error (.integerTooLong (integerPart l.value.toList).length))
    ∨ (¬ Overlong l ∧ Conversion text l l.toValue)

theorem dropMark_eq {mark : Char} (h : text.toList = cs ++ [mark]) :
    TypedLiteral.dropMark text = String.ofList cs := by
  rw [TypedLiteral.dropMark, h, List.dropLast_concat]

theorem break_blank {tail : List Char} (h : tail = [] ∨ tail = ['\n']) :
    ∀ c ∈ tail, isNumeralBlank c = true := by
  rcases h with rfl | rfl
  · exact nofun
  · exact List.forall_mem_singleton.mpr (by decide)

section Outcome

variable {l : TypedLiteral} {r : Except ValueFault Value} {cs ds tail : List Char} {negative : Bool}
  {coefficient : Nat} {n : Int}

theorem outcome_integer (htype : l.type = .int ∨ l.type = .long)
    (hpart : integerPart l.value.toList = ds)
    (hvalue : l.toValue = if maxIntegerDigits < ds.length then .error (.integerTooLong ds.length)
      else r) (hr : Conversion text l r) : Outcome text l := by
  by_cases hlong : maxIntegerDigits < ds.length
  · rw [if_pos hlong] at hvalue
    refine .inl ⟨⟨htype, by rwa [hpart]⟩, ?_⟩
    rw [hvalue, hpart]
  · rw [if_neg hlong] at hvalue
    refine .inr ⟨?_, by rwa [hvalue]⟩
    rintro ⟨_, hover⟩
    rw [hpart] at hover
    exact hlong hover

theorem outcome_of_type (hint : l.type ≠ .int) (hlong : l.type ≠ .long)
    (h : Conversion text l l.toValue) : Outcome text l :=
  .inr ⟨fun hover => hover.1.elim hint hlong, h⟩

theorem noDigit_break (h : tail = [] ∨ tail = ['\n']) :
    ∀ c ∈ tail.head?, Text.isDigit c = false := by
  rcases h with rfl | rfl
  · exact nofun
  · rintro c ⟨⟩
    decide

theorem outcome_int (hcs : Integer cs n)
    (htail : tail = [] ∨ tail = ['\n']) (htext : text.toList = cs ++ tail) :
    Outcome text ⟨.int, text⟩ := by
  obtain ⟨hsign, hds⟩ := hcs
  have hread := readIntegerValue_integer hsign hds (break_blank htail)
  rw [← htext, String.ofList_toList] at hread
  refine outcome_integer (.inl rfl) (htext ▸ integerPart_append hsign hds (noDigit_break htail))
    (l := ⟨.int, text⟩) (r := .ok (.int _)) ?_ (.int rfl (.digits hsign hds) ?_)
  · rw [TypedLiteral.toValue, hread]
    split_ifs
    · rfl
    · rfl
  · rcases htail with rfl | rfl
    · exact .inl (by rw [htext, List.append_nil])
    · exact .inr htext

theorem outcome_long (hcs : Integer cs n)
    (htail : tail = [] ∨ tail = ['\n']) (htext : text.toList = cs ++ ['L'] ++ tail) :
    Outcome text ⟨.long, text⟩ := by
  obtain ⟨hsign, hds⟩ := hcs
  have hhead : ∀ c ∈ ('L' :: tail).head?, Text.isDigit c = false := by
    rintro c ⟨⟩
    decide
  have hpart := integerPart_append hsign hds hhead
  rw [← List.singleton_append, ← List.append_assoc, ← htext] at hpart
  rcases htail with rfl | rfl
  · have hnone : ∀ c ∈ [], isNumeralBlank c = true := List.forall_mem_nil _
    have hread := readIntegerValue_integer hsign hds hnone
    rw [List.append_nil] at htext hread
    refine outcome_integer (.inr rfl) hpart (l := ⟨.long, text⟩) (r := .ok (.int _)) ?_
      (.long rfl (.digits hsign hds) htext)
    rw [TypedLiteral.toValue, dropMark_eq htext, hread]
    split_ifs
    · rfl
    · rfl
  -- the line break goes and the mark stays
  · have hread := readIntegerValue_marked hsign hds
    refine outcome_integer (.inr rfl) hpart (l := ⟨.long, text⟩) (r := .error _) ?_
      (.brokenLong rfl (.digits hsign hds) (by simpa using htext))
    rw [TypedLiteral.toValue, dropMark_eq htext, hread]
    split_ifs
    · rfl
    · rfl

theorem outcome_double (hcs : Fractional cs negative coefficient n) (htail : tail = [] ∨ tail = ['\n'])
    (htext : text.toList = cs ++ tail) : Outcome text ⟨.double, text⟩ := by
  have hread := read?_fractional hcs (break_blank htail)
  rw [← htext, String.ofList_toList] at hread
  have hvalue : TypedLiteral.toValue ⟨.double, text⟩
      = .ok (.float (.ofScientific negative coefficient n)) := by
    simp only [TypedLiteral.toValue, readFloatValue, hread, Except.map]
  refine outcome_of_type nofun nofun ?_
  rw [hvalue]
  refine .double rfl hcs ?_
  rcases htail with rfl | rfl
  · exact .inl (by rw [htext, List.append_nil])
  · exact .inr htext

theorem outcome_float (hcs : Fractional cs negative coefficient n) (htail : tail = [] ∨ tail = ['\n'])
    (htext : text.toList = cs ++ ['F'] ++ tail) : Outcome text ⟨.float, text⟩ := by
  refine outcome_of_type nofun nofun ?_
  rcases htail with rfl | rfl
  · have hnone : ∀ c ∈ [], isNumeralBlank c = true := List.forall_mem_nil _
    have hread := read?_fractional hcs hnone
    rw [List.append_nil] at htext hread
    have hvalue : TypedLiteral.toValue ⟨.float, text⟩
        = .ok (.float (.ofScientific negative coefficient n)) := by
      simp only [TypedLiteral.toValue, dropMark_eq htext, readFloatValue, hread, Except.map]
    rw [hvalue]
    exact .float rfl hcs htext
  · have hread := read?_marked hcs
    have hvalue : TypedLiteral.toValue ⟨.float, text⟩
        = .error (.notFloat (String.ofList (cs ++ ['F']))) := by
      simp only [TypedLiteral.toValue, dropMark_eq htext, readFloatValue, hread, Except.map]
    rw [hvalue]
    exact .brokenFloat rfl hcs (by simpa using htext)

end Outcome

theorem outcome_other {l : TypedLiteral} (htype : l.type ∉ [.int, .long, .double, .float]) :
    Outcome text l := by
  have hvalue : l.toValue = .ok (.text l.value) := by
    obtain ⟨type, value⟩ := l
    cases type with
    | int | long | double | float => exact absurd (by simp) htype
    | string | uri | anySimple => rfl
  have hint : l.type ≠ .int := fun hint => htype (by simp [hint])
  have hlong : l.type ≠ .long := fun hlong => htype (by simp [hlong])
  exact outcome_of_type hint hlong (hvalue ▸ .other htype)

theorem outcome_parse (text b : String) : Outcome text (parse text b) := by
  by_cases hstring : inferType text = .string
  · exact outcome_other (by simp [parse, hstring])
  · by_cases huri : inferType text = .uri
    · exact outcome_other (by simp [parse, huri])
    · obtain ⟨tail, htail, htext⟩ := exists_lineBreak text.toList
      have htyped := typed_numeralType (dropLineBreak text.toList)
      rw [← inferType_numeral hstring huri] at htyped
      rw [parse_plain hstring huri]
      generalize inferType text = type at htyped
      generalize dropLineBreak text.toList = core at htyped htext
      cases htyped with
      | int h => exact outcome_int h htail htext
      | long h => exact outcome_long h htail htext
      | double h => exact outcome_double h htail htext
      | float h => exact outcome_float h htail htext
      | anySimple => exact outcome_other (by simp)

/-- With no line break behind it, an outcome has a value unless it is too long. -/
theorem exists_value (hbreak : text.toList.getLast? ≠ some '\n') {b : String}
    (hshort : ¬ Overlong (parse text b)) : ∃ v, (parse text b).toValue = .ok v := by
  rcases outcome_parse text b with ⟨hlong, _⟩ | ⟨_, hconversion⟩
  · exact absurd hlong hshort
  · generalize (parse text b).toValue = r at hconversion
    cases hconversion with
    | brokenLong _ _ htext => exact absurd (by rw [htext]; simp) hbreak
    | brokenFloat _ _ htext => exact absurd (by rw [htext]; simp) hbreak
    | int | long | double | float | other => exact ⟨_, rfl⟩

theorem toValue_overlong {b : String} (hlong : Overlong (parse text b)) :
    (parse text b).toValue
      = .error (.integerTooLong (integerPart (parse text b).value.toList).length) := by
  rcases outcome_parse text b with ⟨_, hvalue⟩ | ⟨hshort, _⟩
  · exact hvalue
  · exact absurd hlong hshort

/-- An outcome of a short integer part is converted to the number that is written, unless a line
break stands behind the mark of its datatype. -/
theorem toValue_parse (h : (integerPart text.toList).length ≤ maxIntegerDigits) (b : String) :
    Conversion text (parse text b) (parse text b).toValue := by
  rcases outcome_parse text b with ⟨⟨htype, hlong⟩, _⟩ | ⟨_, hconversion⟩
  · have hplain : parse text b = ⟨inferType text, text⟩ := by
      have hinfer : (parse text b).type = inferType text := rfl
      rw [hinfer] at htype
      refine parse_plain ?_ ?_ b
      · rcases htype with htype | htype <;> simp [htype]
      · rcases htype with htype | htype <;> simp [htype]
    rw [hplain] at hlong
    exact absurd h (Nat.not_le.mpr hlong)
  · exact hconversion

/-- The digits of a long integer may be those of any script. -/
theorem toValue_parse_arabic :
    (integerPart "-٤٢L".toList).length ≤ maxIntegerDigits
      ∧ Conversion "-٤٢L" (parse "-٤٢L" "") (.ok (.int (-42))) := by
  have hshort : (integerPart "-٤٢L".toList).length ≤ maxIntegerDigits := by decide
  have hvalue : (parse "-٤٢L" "").toValue = .ok (.int (-42)) := by rfl
  exact ⟨hshort, hvalue ▸ toValue_parse hshort ""⟩

/-- A line break behind the mark leaves a long integer without a value. -/
theorem toValue_parse_break :
    (integerPart "1L\n".toList).length ≤ maxIntegerDigits
      ∧ (parse "1L\n" "").type = .long
      ∧ (parse "1L\n" "").toValue = .error (.notInteger "1L") :=
  ⟨by decide, by decide, by rfl⟩

end Literal

end DecisionTable
