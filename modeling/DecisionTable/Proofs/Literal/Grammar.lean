import DecisionTable.Proofs.Literal.Conversion

/-!
# The grammar of outcomes

An outcome has a datatype of its own if it is written in one of seven forms: a string and a full URI
between marks, a name behind `#`, and four kinds of numerals, each of which may have a line break
behind it. No text has the forms of two datatypes, as the marks in it point to one. So the datatype
that is inferred is the one whose form the text has, in whatever order the forms are looked for.
-/

namespace DecisionTable

/-! ### Characters of numerals -/

namespace Numeral

open Text (Digits)

variable {sign ds cs power : List Char} {negative : Bool} {coefficient : Nat} {n : Int} {c : Char}

theorem Sign.mem (h : Sign sign negative) : ∀ c ∈ sign, c ∈ ['+', '-'] := by
  cases h with
  | none => exact nofun
  | plus => simp
  | minus => simp

theorem Integer.mem (h : Integer cs n) : ∀ c ∈ cs, Text.isDigit c = true ∨ c ∈ ['+', '-'] := by
  obtain ⟨hsign, hds⟩ := h
  intro c hc
  rcases List.mem_append.mp hc with hc | hc
  · exact .inr (hsign.mem c hc)
  · exact .inl (hds.digits c hc)

theorem Exponent.mem (h : Exponent power n) :
    ∀ c ∈ power, Text.isDigit c = true ∨ c ∈ ['+', '-', '.', 'e', 'E'] := by
  cases h with
  | none => exact nofun
  | marked hmark hcs =>
    intro c hc
    rcases List.mem_cons.mp hc with rfl | hc
    · rcases hmark with rfl | rfl <;> simp
    · rcases hcs.mem c hc with hdigit | hsign
      · exact .inl hdigit
      · exact .inr (List.mem_append_left ['.', 'e', 'E'] hsign)

theorem Fractional.mem (h : Fractional cs negative coefficient n) :
    ∀ c ∈ cs, Text.isDigit c = true ∨ c ∈ ['+', '-', '.', 'e', 'E'] := by
  obtain ⟨hsign, hwhole, hfraction, hpower⟩ := h
  intro c hc
  simp only [List.mem_append, List.mem_cons] at hc
  rcases hc with hc | hc | rfl | hc | hc
  · exact .inr (List.mem_append_left ['.', 'e', 'E'] (hsign.mem c hc))
  · exact .inl (hwhole.digits c hc)
  · simp
  · exact .inl (hfraction.digits c hc)
  · exact hpower.mem c hc

theorem Fractional.point_mem (h : Fractional cs negative coefficient n) : '.' ∈ cs := by
  obtain ⟨hsign, hwhole, hfraction, hpower⟩ := h
  simp

/-- A character that is neither a digit nor among the marks of a form is not in it. -/
theorem notMem_of_marks {marks : List Char}
    (hcs : ∀ c ∈ cs, Text.isDigit c = true ∨ c ∈ marks)
    (hc : Text.isDigit c = false ∧ c ∉ marks) : c ∉ cs := by
  intro hmem
  rcases hcs c hmem with hdigit | hmark
  · rw [hc.1] at hdigit
    cases hdigit
  · exact hc.2 hmark

theorem Integer.absent (h : Integer cs n) : ∀ c ∈ ['"', '<', '#', '\n', 'L', 'F', '.'], c ∉ cs := by
  have hapart : ∀ c ∈ ['"', '<', '#', '\n', 'L', 'F', '.'],
      Text.isDigit c = false ∧ c ∉ ['+', '-'] := List.forall_iff_forall_mem.mp (by decide)
  exact fun c hc => notMem_of_marks h.mem (hapart c hc)

theorem Fractional.absent (h : Fractional cs negative coefficient n) :
    ∀ c ∈ ['"', '<', '#', '\n', 'L', 'F'], c ∉ cs := by
  have hapart : ∀ c ∈ ['"', '<', '#', '\n', 'L', 'F'],
      Text.isDigit c = false ∧ c ∉ ['+', '-', '.', 'e', 'E'] :=
    List.forall_iff_forall_mem.mp (by decide)
  exact fun c hc => notMem_of_marks h.mem (hapart c hc)

end Numeral

namespace Literal

open Text (Digits)
open Numeral

variable {cs : List Char} {type type' : LiteralType}

/-! ### Forms -/

/-- How the outcomes of a datatype are written. -/
inductive Grammar : LiteralType → List Char → Prop where
  | quoted (xs : List Char) : Grammar .string ('"' :: (xs ++ ['"']))
  | full (xs : List Char) : Grammar .uri ('<' :: (xs ++ ['>']))
  | name (xs : List Char) : Grammar .uri ('#' :: xs)
  | int {cs tail : List Char} {n : Int} (hcs : Integer cs n) (htail : tail = [] ∨ tail = ['\n']) :
      Grammar .int (cs ++ tail)
  | long {cs tail : List Char} {n : Int} (hcs : Integer cs n) (htail : tail = [] ∨ tail = ['\n']) :
      Grammar .long (cs ++ ['L'] ++ tail)
  | double {cs tail : List Char} {negative : Bool} {coefficient : Nat} {n : Int}
      (hcs : Fractional cs negative coefficient n) (htail : tail = [] ∨ tail = ['\n']) :
      Grammar .double (cs ++ tail)
  | float {cs tail : List Char} {negative : Bool} {coefficient : Nat} {n : Int}
      (hcs : Fractional cs negative coefficient n) (htail : tail = [] ∨ tail = ['\n']) :
      Grammar .float (cs ++ ['F'] ++ tail)

/-- The tests of the forms, each with its datatype, in the order in which they are made. -/
def tests : List (LiteralType × (List Char → Bool)) :=
  [(.string, isWrapped '"' '"'),
    (.uri, isWrapped '<' '>'),
    (.uri, fun cs => cs.head? == some '#'),
    (.int, fun cs => isInteger (dropLineBreak cs)),
    (.long, fun cs => isMarked 'L' isInteger (dropLineBreak cs)),
    (.double, fun cs => isFractional (dropLineBreak cs)),
    (.float, fun cs => isMarked 'F' isFractional (dropLineBreak cs))]

/-- The datatype of the first test that a text passes. -/
def firstType (tests : List (LiteralType × (List Char → Bool))) (cs : List Char) : LiteralType :=
  ((tests.find? fun test => test.2 cs).map (·.1)).getD .anySimple

theorem typeOfChars_eq_firstType (cs : List Char) : typeOfChars cs = firstType tests cs := by
  unfold typeOfChars numeralType firstType tests
  simp only [List.find?_cons]
  split_ifs with h₁ h₂ h₃ h₄ h₅ h₆ h₇ <;> simp [*]

/-! ### A text of a form passes its test -/

theorem isDigits_of_digits {ds : List Char} (h : Digits ds) : isDigits ds = true := by
  simp [isDigits, h.nonempty, List.all_eq_true.mpr h.digits]

theorem isInteger_of_integer {n : Int} (h : Integer cs n) : isInteger cs = true := by
  obtain ⟨hsign, hds⟩ := h
  have hsplit := splitSign_append hsign hds []
  rw [List.append_nil] at hsplit
  rw [isInteger, hsplit, isDigits_of_digits hds]

theorem isExponent_of_exponent {n : Int} (h : Exponent cs n) : isExponent cs = true := by
  cases h with
  | none => rfl
  | marked hmark hcs =>
    have hinteger := isInteger_of_integer hcs
    rcases hmark with rfl | rfl <;> simp [isExponent, hinteger]

theorem isFractional_of_fractional {negative : Bool} {coefficient : Nat} {n : Int}
    (h : Fractional cs negative coefficient n) : isFractional cs = true := by
  obtain ⟨hsign, hwhole, hfraction, hpower⟩ := h
  rename_i sign whole fraction power n
  have hpoint : ∀ c ∈ ('.' :: (fraction ++ power)).head?, Text.isDigit c = false := by
    rintro c ⟨⟩
    decide
  unfold isFractional
  simp only [splitSign_append hsign hwhole, Text.dropWhile_run hwhole.digits hpoint,
    Text.takeWhile_run hwhole.digits hpoint,
    Text.takeWhile_run hfraction.digits hpower.noDigit,
    Text.dropWhile_run hfraction.digits hpower.noDigit,
    isDigits_of_digits hwhole, isDigits_of_digits hfraction, isExponent_of_exponent hpower,
    Bool.and_self]

theorem isMarked_concat {mark : Char} {form : List Char → Bool} (h : form cs = true) :
    isMarked mark form (cs ++ [mark]) = true := by
  simp [isMarked, h]

theorem dropLineBreak_append {tail : List Char} (hcs : '\n' ∉ cs)
    (htail : tail = [] ∨ tail = ['\n']) : dropLineBreak (cs ++ tail) = cs := by
  rcases htail with rfl | rfl
  · rw [List.append_nil, dropLineBreak, if_neg]
    intro hlast
    exact hcs (List.mem_of_getLast? (eq_of_beq hlast))
  · simp [dropLineBreak]

theorem exists_test (h : Grammar type cs) : ∃ test ∈ tests, test.1 = type ∧ test.2 cs = true := by
  cases h with
  | quoted xs => exact ⟨tests[0], by simp [tests], rfl, isWrapped_iff.mpr ⟨xs, rfl⟩⟩
  | full xs => exact ⟨tests[1], by simp [tests], rfl, isWrapped_iff.mpr ⟨xs, rfl⟩⟩
  | name xs => exact ⟨tests[2], by simp [tests], rfl, by simp [tests]⟩
  | int hcs htail =>
    have hbreak := hcs.absent '\n' (by simp)
    refine ⟨tests[3], by simp [tests], rfl, ?_⟩
    show isInteger (dropLineBreak _) = true
    rw [dropLineBreak_append hbreak htail]
    exact isInteger_of_integer hcs
  | long hcs htail =>
    have hbreak := hcs.absent '\n' (by simp)
    refine ⟨tests[4], by simp [tests], rfl, ?_⟩
    show isMarked 'L' isInteger (dropLineBreak _) = true
    rw [dropLineBreak_append (by simp [hbreak]) htail]
    exact isMarked_concat (isInteger_of_integer hcs)
  | double hcs htail =>
    have hbreak := hcs.absent '\n' (by simp)
    refine ⟨tests[5], by simp [tests], rfl, ?_⟩
    show isFractional (dropLineBreak _) = true
    rw [dropLineBreak_append hbreak htail]
    exact isFractional_of_fractional hcs
  | float hcs htail =>
    have hbreak := hcs.absent '\n' (by simp)
    refine ⟨tests[6], by simp [tests], rfl, ?_⟩
    show isMarked 'F' isFractional (dropLineBreak _) = true
    rw [dropLineBreak_append (by simp [hbreak]) htail]
    exact isMarked_concat (isFractional_of_fractional hcs)

/-! ### A text that passes a test has its form -/

theorem grammar_of_test {test : LiteralType × (List Char → Bool)} (hmem : test ∈ tests)
    (h : test.2 cs = true) : Grammar test.1 cs := by
  obtain ⟨tail, htail, hcs⟩ := exists_lineBreak cs
  simp only [tests, List.mem_cons, List.not_mem_nil, or_false] at hmem
  rcases hmem with rfl | rfl | rfl | rfl | rfl | rfl | rfl
  · obtain ⟨xs, rfl⟩ := isWrapped_iff.mp h
    exact .quoted xs
  · obtain ⟨xs, rfl⟩ := isWrapped_iff.mp h
    exact .full xs
  · obtain ⟨xs, rfl⟩ := List.head?_eq_some_iff.mp (eq_of_beq h)
    exact .name xs
  · obtain ⟨n, hn⟩ := exists_integer h
    rw [hcs]
    exact .int hn htail
  · obtain ⟨core, hcore, hform⟩ := exists_of_isMarked h
    obtain ⟨n, hn⟩ := exists_integer hform
    rw [hcs, hcore]
    exact .long hn htail
  · obtain ⟨negative, coefficient, n, hn⟩ := exists_fractional h
    rw [hcs]
    exact .double hn htail
  · obtain ⟨core, hcore, hform⟩ := exists_of_isMarked h
    obtain ⟨negative, coefficient, n, hn⟩ := exists_fractional hform
    rw [hcs, hcore]
    exact .float hn htail

/-! ### The forms exclude one another -/

/-- The datatype that the marks in a text point to. -/
def markedType (cs : List Char) : LiteralType :=
  if cs.head? = some '"' then .string
  else if cs.head? = some '<' ∨ cs.head? = some '#' then .uri
  else if 'L' ∈ cs then .long
  else if 'F' ∈ cs then .float
  else if '.' ∈ cs then .double
  else .int

theorem mem_lineEnd {tail : List Char} {c : Char} (htail : tail = [] ∨ tail = ['\n'])
    (hc : c ≠ '\n') : c ∈ cs ++ tail ↔ c ∈ cs := by
  rcases htail with rfl | rfl <;> simp [hc]

/-- A numeral does not begin as the other forms do. -/
theorem markedType_numeral {tail : List Char} (htail : tail = [] ∨ tail = ['\n'])
    (h : ∀ c ∈ ['"', '<', '#'], c ∉ cs) :
    markedType (cs ++ tail) = if 'L' ∈ cs then .long else if 'F' ∈ cs then .float
      else if '.' ∈ cs then .double else .int := by
  have hhead : ∀ c ∈ ['"', '<', '#'], (cs ++ tail).head? ≠ some c := by
    intro c hc hfirst
    have hbreak : c ≠ '\n' := by
      rintro rfl
      exact absurd hc (by decide)
    exact h c hc ((mem_lineEnd htail hbreak).mp (List.mem_of_mem_head? hfirst))
  have huri : ¬ ((cs ++ tail).head? = some '<' ∨ (cs ++ tail).head? = some '#') :=
    not_or.mpr ⟨hhead '<' (by simp), hhead '#' (by simp)⟩
  rw [markedType, if_neg (hhead '"' (by simp)), if_neg huri]
  simp only [mem_lineEnd htail (by decide : 'L' ≠ '\n'), mem_lineEnd htail (by decide : 'F' ≠ '\n'),
    mem_lineEnd htail (by decide : '.' ≠ '\n')]

theorem Grammar.markedType_eq (h : Grammar type cs) : markedType cs = type := by
  cases h with
  | quoted xs => rfl
  | full xs => rfl
  | name xs => rfl
  | int hcs htail =>
    have habsent := hcs.absent
    simp only [List.forall_mem_cons] at habsent
    rw [markedType_numeral htail (by simp [habsent])]
    simp [habsent]
  | long hcs htail =>
    have habsent := hcs.absent
    simp only [List.forall_mem_cons] at habsent
    rw [markedType_numeral htail (by simp [habsent])]
    simp
  | double hcs htail =>
    have habsent := hcs.absent
    simp only [List.forall_mem_cons] at habsent
    rw [markedType_numeral htail (by simp [habsent])]
    simp [habsent, hcs.point_mem]
  | float hcs htail =>
    have habsent := hcs.absent
    simp only [List.forall_mem_cons] at habsent
    rw [markedType_numeral htail (by simp [habsent])]
    simp [habsent]

theorem Grammar.unique (h : Grammar type cs) (h' : Grammar type' cs) : type = type' :=
  h.markedType_eq.symm.trans h'.markedType_eq

/-! ### The datatype that is inferred -/

section FirstType

variable {list : List (LiteralType × (List Char → Bool))}

/-- Whatever order the tests are made in, the first one that a text passes is one of its form. -/
theorem firstType_of_grammar (hlist : list.Perm tests) (h : Grammar type cs) :
    firstType list cs = type := by
  obtain ⟨test, hmem, _, hpass⟩ := exists_test h
  have hsome : (list.find? fun test => test.2 cs).isSome := by
    rw [List.find?_isSome]
    exact ⟨test, hlist.mem_iff.mpr hmem, hpass⟩
  obtain ⟨first, hfirst⟩ := Option.isSome_iff_exists.mp hsome
  have hpasses := List.find?_some hfirst
  have hform := grammar_of_test (hlist.mem_iff.mp (List.mem_of_find?_eq_some hfirst)) hpasses
  rw [firstType, hfirst]
  exact hform.unique h

theorem firstType_of_not_grammar (hlist : list.Perm tests) (h : ∀ type, ¬ Grammar type cs) :
    firstType list cs = .anySimple := by
  have hnone : (list.find? fun test => test.2 cs) = none := by
    rw [List.find?_eq_none]
    intro test hmem hpass
    exact h test.1 (grammar_of_test (hlist.mem_iff.mp hmem) hpass)
  rw [firstType, hnone]
  rfl

theorem firstType_eq_iff (hlist : list.Perm tests) : firstType list cs = type ↔
    Grammar type cs ∨ type = .anySimple ∧ ∀ other, ¬ Grammar other cs := by
  by_cases hform : ∃ other, Grammar other cs
  · obtain ⟨other, hother⟩ := hform
    rw [firstType_of_grammar hlist hother]
    constructor
    · rintro rfl
      exact .inl hother
    · rintro (h | ⟨_, hnone⟩)
      · exact hother.unique h
      · exact absurd hother (hnone other)
  · have hnone := not_exists.mp hform
    rw [firstType_of_not_grammar hlist hnone]
    constructor
    · rintro rfl
      exact .inr ⟨rfl, hnone⟩
    · rintro (h | ⟨rfl, _⟩)
      · exact absurd h (hnone type)
      · rfl

end FirstType

/-- A text is of a datatype if and only if it is written in a form of the datatype, and of none if
it has no form. No text has forms of two datatypes, so the forms can be looked for in any order. -/
theorem inferType_eq_iff_grammar (text : String) :
    (∀ type ≠ .anySimple, inferType text = type ↔ Grammar type text.toList) ∧
      (inferType text = .anySimple ↔ ∀ type, ¬ Grammar type text.toList) ∧
      (∀ type type', Grammar type text.toList → Grammar type' text.toList → type = type') ∧
      ∀ list, list.Perm tests → firstType list text.toList = inferType text := by
  have hinfer : ∀ type, inferType text = type ↔
      Grammar type text.toList ∨ type = .anySimple ∧ ∀ other, ¬ Grammar other text.toList := by
    intro type
    rw [inferType, typeOfChars_eq_firstType]
    exact firstType_eq_iff (.refl _)
  refine ⟨?_, ?_, fun _ _ h h' => h.unique h', ?_⟩
  · intro type htype
    rw [hinfer]
    simp [htype]
  · rw [hinfer]
    constructor
    · rintro (h | ⟨_, hnone⟩)
      · cases h
      · exact hnone
    · intro hnone
      exact .inr ⟨rfl, hnone⟩
  · intro list hlist
    exact (firstType_eq_iff hlist).mpr ((hinfer _).mp rfl)

end Literal

end DecisionTable
