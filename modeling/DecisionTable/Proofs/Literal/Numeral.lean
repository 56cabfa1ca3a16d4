import DecisionTable.Number.Binary64
import DecisionTable.Proofs.Text.Digit
import DecisionTable.Value.Read

/-!
# Numerals

A grammar of the numerals among the outcomes, with the number that each one denotes, and what the
readers of integers and of floating-point numbers make of them. Both readers pass over the blanks
around a numeral, and neither passes over a mark behind it.
-/

namespace DecisionTable

namespace Numeral

open Text (Digits numberOf)

/-! ### Grammar -/

/-- A sign or none; `true` stands for minus. -/
inductive Sign : List Char → Bool → Prop where
  | none : Sign [] false
  | plus : Sign ['+'] false
  | minus : Sign ['-'] true

def signed (negative : Bool) (n : Nat) : Int :=
  if negative then -n else n

/-- Digits with an optional sign. -/
inductive Integer : List Char → Int → Prop where
  | digits {sign ds : List Char} {negative : Bool} (hsign : Sign sign negative)
      (hds : Digits ds) : Integer (sign ++ ds) (signed negative (numberOf ds))

inductive Exponent : List Char → Int → Prop where
  | none : Exponent [] 0
  | marked {mark : Char} {cs : List Char} {n : Int} (hmark : mark = 'e' ∨ mark = 'E')
      (hcs : Integer cs n) : Exponent (mark :: cs) n

/-- Digits, a point, digits and an optional exponent, with an optional sign in front. The number is
a coefficient times a power of ten. -/
inductive Fractional : List Char → Bool → Nat → Int → Prop where
  | pointed {sign whole fraction power : List Char} {negative : Bool} {n : Int}
      (hsign : Sign sign negative) (hwhole : Digits whole) (hfraction : Digits fraction)
      (hpower : Exponent power n) :
      Fractional (sign ++ (whole ++ '.' :: (fraction ++ power))) negative
        (numberOf (whole ++ fraction)) (n - fraction.length)

variable {sign ds cs tail rest power : List Char} {negative : Bool} {coefficient : Nat} {n : Int}

/-! ### Characters of numerals -/

/-- A digit, or one of the signs and marks. -/
def Plain (c : Char) : Prop :=
  Text.isDigit c = true ∨ c ∈ ['+', '-', '.', 'e', 'E', 'L', 'F']

theorem Plain.not_blank {c : Char} (h : Plain c) : isNumeralBlank c = false := by
  rcases h with hdigit | hmark
  · rw [isNumeralBlank, Text.isBlank_of_isDigit hdigit, Bool.false_and]
  · have hmarks : ∀ d ∈ ['+', '-', '.', 'e', 'E', 'L', 'F'], isNumeralBlank d = false :=
      List.forall_iff_forall_mem.mp (by decide)
    exact hmarks c hmark

theorem Plain.ne_underscore {c : Char} (h : Plain c) : c ≠ '_' := by
  rcases h with hdigit | hmark
  · exact Text.ne_of_isDigit hdigit (by decide)
  · rintro rfl
    exact absurd hmark (by decide)

theorem plain_of_digits (hds : Digits ds) : ∀ c ∈ ds, Plain c :=
  fun c hc => .inl (hds.digits c hc)

theorem Sign.plain (h : Sign sign negative) : ∀ c ∈ sign, Plain c := by
  cases h with
  | none => exact nofun
  | plus => simp [Plain]
  | minus => simp [Plain]

theorem plain_append (hsign : Sign sign negative) (hds : Digits ds) (hrest : ∀ c ∈ rest, Plain c) :
    ∀ c ∈ sign ++ (ds ++ rest), Plain c :=
  List.forall_mem_append.mpr
    ⟨hsign.plain, List.forall_mem_append.mpr ⟨plain_of_digits hds, hrest⟩⟩

theorem Integer.plain (h : Integer cs n) : ∀ c ∈ cs, Plain c := by
  obtain ⟨hsign, hds⟩ := h
  exact List.forall_mem_append.mpr ⟨hsign.plain, plain_of_digits hds⟩

theorem Exponent.plain (h : Exponent power n) : ∀ c ∈ power, Plain c := by
  cases h with
  | none => exact nofun
  | marked hmark hcs =>
    refine List.forall_mem_cons.mpr ⟨?_, hcs.plain⟩
    rcases hmark with rfl | rfl
    · simp [Plain]
    · simp [Plain]

theorem Exponent.noDigit (h : Exponent power n) : ∀ c ∈ power.head?, Text.isDigit c = false := by
  cases h with
  | none => exact nofun
  | marked hmark hcs =>
    rintro c ⟨⟩
    rcases hmark with rfl | rfl
    · decide
    · decide

/-! ### Signs -/

theorem splitSign_append (hsign : Sign sign negative) (hds : Digits ds) (rest : List Char) :
    splitSign (sign ++ (ds ++ rest)) = (negative, ds ++ rest) := by
  cases hsign with
  | plus => rfl
  | minus => rfl
  | none =>
    obtain ⟨c, ds, rfl⟩ := List.exists_cons_of_ne_nil hds.nonempty
    have hc := hds.digits c List.mem_cons_self
    have hminus : c ≠ '-' := Text.ne_of_isDigit hc (by decide)
    have hplus : c ≠ '+' := Text.ne_of_isDigit hc (by decide)
    simp only [List.nil_append, List.cons_append]
    unfold splitSign
    split
    · rename_i heq
      exact absurd (List.cons.inj heq).1 hminus
    · rename_i heq
      exact absurd (List.cons.inj heq).1 hplus
    · rfl

theorem exists_sign (cs : List Char) :
    ∃ sign, Sign sign (splitSign cs).1 ∧ cs = sign ++ (splitSign cs).2 := by
  unfold splitSign
  split
  · exact ⟨_, .minus, rfl⟩
  · exact ⟨_, .plus, rfl⟩
  · exact ⟨_, .none, rfl⟩

/-! ### Reading integers -/

theorem wellSeparated_digits (hds : Digits ds) : wellSeparated false ds = true := by
  have hrun : ∀ (ds : List Char), (∀ c ∈ ds, c ≠ '_') → wellSeparated true ds = true := by
    intro ds
    induction ds with
    | nil => intro _; rfl
    | cons c ds ih =>
      intro hne
      rw [List.forall_mem_cons] at hne
      rw [wellSeparated, if_neg (by simpa using hne.1)]
      exact ih hne.2
  have hne : ∀ c ∈ ds, c ≠ '_' := fun c hc => (plain_of_digits hds c hc).ne_underscore
  obtain ⟨c, ds, rfl⟩ := List.exists_cons_of_ne_nil hds.nonempty
  rw [List.forall_mem_cons] at hne
  rw [wellSeparated, if_neg (by simpa using hne.1)]
  exact hrun ds hne.2

/-- A numeral ends where a blank or the text ends. -/
theorem trimBoth_plain (hcs : ∀ c ∈ cs, Plain c) (htail : ∀ c ∈ tail, isNumeralBlank c = true) :
    Text.trimBoth isNumeralBlank (cs ++ tail) = cs :=
  Text.trimBoth_append (fun c hc => (hcs c hc).not_blank) htail

/-- The digits behind the sign are counted before the rest is looked at. -/
theorem readInteger_digits (hsign : Sign sign negative) (hds : Digits ds)
    (hrest : ∀ c ∈ rest, Plain c) (hhead : ∀ c ∈ rest.head?, Text.isDigit c = false)
    (htail : ∀ c ∈ tail, isNumeralBlank c = true) :
    readInteger (String.ofList (sign ++ (ds ++ rest) ++ tail))
      = if maxIntegerDigits < ds.length then .error (.tooLong ds.length)
        else if rest = [] then .ok (signed negative (numberOf ds)) else .error .malformed := by
  have hplain := plain_append hsign hds hrest
  have hrun : ∀ c ∈ ds, (Text.isDigit c || c == '_') = true :=
    fun c hc => by rw [hds.digits c hc, Bool.true_or]
  have hstop : ∀ c ∈ rest.head?, (Text.isDigit c || c == '_') = false := by
    intro c hc
    have hne := (hrest c (List.mem_of_mem_head? hc)).ne_underscore
    rw [hhead c hc, Bool.false_or, beq_eq_false_iff_ne.mpr hne]
  have hdigits : ds.filter Text.isDigit = ds := List.filter_eq_self.mpr hds.digits
  unfold readInteger
  simp only [String.toList_ofList, trimBoth_plain hplain htail, splitSign_append hsign hds,
    Text.takeWhile_run hrun hstop, Text.dropWhile_run hrun hstop, hdigits,
    wellSeparated_digits hds, Bool.not_true, Bool.false_eq_true, if_false, gt_iff_lt]
  congr 1
  cases rest with
  | nil => simp [Text.digitsValue_eq_numberOf, signed]
  | cons c rest => simp

/-! ### Reading floating-point numbers -/

theorem dropUnderscores?_eq {previous : Char} (hprevious : previous ≠ '_')
    (hcs : ∀ c ∈ cs, c ≠ '_') : Binary64.dropUnderscores? previous cs = some cs := by
  induction cs generalizing previous with
  | nil => simp [Binary64.dropUnderscores?, hprevious]
  | cons c cs ih =>
    rw [List.forall_mem_cons] at hcs
    simp [Binary64.dropUnderscores?, hcs.1, hprevious, ih hcs.1 hcs.2]

theorem Plain.toAscii {c : Char} (h : Plain c) : Plain (Text.toAsciiDigit c) := by
  rcases h with hdigit | hmark
  · refine .inl ?_
    rw [Text.isDigit, Text.digitValue?_toAsciiDigit hdigit]
    exact hdigit
  · have hmarks : ∀ d ∈ ['+', '-', '.', 'e', 'E', 'L', 'F'], Text.toAsciiDigit d = d :=
      List.forall_iff_forall_mem.mp (by decide)
    rw [hmarks c hmark]
    exact .inr hmark

theorem Sign.map_toAscii (h : Sign sign negative) : sign.map Text.toAsciiDigit = sign := by
  cases h with
  | none => rfl
  | plus => decide
  | minus => decide

theorem Integer.toAscii (h : Integer cs n) : Integer (cs.map Text.toAsciiDigit) n := by
  obtain ⟨hsign, hds⟩ := h
  obtain ⟨hascii, hnumber⟩ := hds.toAscii
  rw [List.map_append, hsign.map_toAscii, ← hnumber]
  exact .digits hsign hascii

theorem Exponent.toAscii (h : Exponent power n) : Exponent (power.map Text.toAsciiDigit) n := by
  cases h with
  | none => exact .none
  | marked hmark hcs =>
    have hsame : ∀ mark : Char, mark = 'e' ∨ mark = 'E' → Text.toAsciiDigit mark = mark := by
      rintro mark (rfl | rfl)
      · decide
      · decide
    rw [List.map_cons, hsame _ hmark]
    exact .marked hmark hcs.toAscii

theorem name_ne {c d : Char} {name : String} (hc : Text.isDigit c = true)
    (hname : name.toList.head? = some d) (hd : Text.isDigit d = false) :
    (String.ofList ((c :: rest).map Char.toLower) == name) = false := by
  rw [beq_eq_false_iff_ne]
  rintro rfl
  rw [String.toList_ofList, List.map_cons, Text.toLower_of_isDigit hc] at hname
  exact Text.ne_of_isDigit hc hd (Option.some.inj hname)

theorem read?_digits (hsign : Sign sign negative) (hds : Digits ds) (hrest : ∀ c ∈ rest, Plain c)
    (htail : ∀ c ∈ tail, isNumeralBlank c = true) :
    Binary64.read? (String.ofList (sign ++ (ds ++ rest) ++ tail))
      = (readScientific? (ds.map Text.toAsciiDigit ++ rest.map Text.toAsciiDigit)).map
          fun p => .ofScientific negative p.1 p.2 := by
  have hplain := plain_append hsign hds hrest
  have hascii : (sign ++ (ds ++ rest)).map Text.toAsciiDigit
      = sign ++ (ds.map Text.toAsciiDigit ++ rest.map Text.toAsciiDigit) := by
    rw [List.map_append, List.map_append, hsign.map_toAscii]
  have hunderscores : ∀ c ∈ (sign ++ (ds ++ rest)).map Text.toAsciiDigit, c ≠ '_' :=
    List.forall_mem_map.mpr fun c hc => (hplain c hc).toAscii.ne_underscore
  rw [hascii] at hunderscores
  have hread := dropUnderscores?_eq (by decide : ' ' ≠ '_') hunderscores
  have hdigits := hds.toAscii.1
  obtain ⟨c, ds', hcons⟩ := List.exists_cons_of_ne_nil hdigits.nonempty
  have hc : Text.isDigit c = true := hdigits.digits c (by rw [hcons]; exact List.mem_cons_self)
  unfold Binary64.read?
  simp only [String.toList_ofList, trimBoth_plain hplain htail, hascii, hread, Option.bind_eq_bind,
    Option.bind_some, splitSign_append hsign hdigits]
  -- `inf`, `infinity` and `nan` do not begin with a digit
  rw [hcons, List.cons_append, name_ne hc rfl (by decide), name_ne hc rfl (by decide),
    name_ne hc rfl (by decide)]
  cases readScientific? (c :: (ds' ++ rest.map Text.toAsciiDigit)) with
  | none => rfl
  | some p => rfl

/-- The exponent that stands behind the digits of a fraction, if nothing else does. -/
def powerOf? : List Char → Option Int
  | [] => some 0
  | mark :: rest =>
    let (negative, power) := splitSign rest
    if (mark == 'e' || mark == 'E') && !power.isEmpty && power.all Text.isDigit then
      some (signed negative (numberOf power))
    else none

variable {whole fraction : List Char}

theorem readScientific?_pointed (hwhole : Digits whole) (hfraction : Digits fraction)
    (hrest : ∀ c ∈ rest.head?, Text.isDigit c = false) :
    readScientific? (whole ++ '.' :: (fraction ++ rest))
      = (powerOf? rest).map fun (n : Int) => (numberOf (whole ++ fraction), n - fraction.length) := by
  have hpoint : ∀ c ∈ ('.' :: (fraction ++ rest)).head?, Text.isDigit c = false := by
    rintro c ⟨⟩
    decide
  have hne : (whole ++ fraction).isEmpty = false := by simp [hwhole.nonempty]
  unfold readScientific?
  simp only [Text.takeWhile_run hwhole.digits hpoint, Text.dropWhile_run hwhole.digits hpoint,
    Text.takeWhile_run hfraction.digits hrest, Text.dropWhile_run hfraction.digits hrest, hne,
    Text.digitsValue_eq_numberOf]
  cases rest with
  | nil => rfl
  | cons mark rest =>
    simp only [powerOf?, signed, Bool.false_eq_true, if_false]
    split
    · rfl
    · rfl

theorem powerOf?_exponent (h : Exponent power n) : powerOf? power = some n := by
  cases h with
  | none => rfl
  | marked hmark hcs =>
    obtain ⟨hsign, hds⟩ := hcs
    have hsplit := splitSign_append hsign hds []
    rw [List.append_nil] at hsplit
    have hall := List.all_eq_true.mpr hds.digits
    rcases hmark with rfl | rfl
    · simp [powerOf?, hsplit, hds.nonempty, hall]
    · simp [powerOf?, hsplit, hds.nonempty, hall]

/-- Nothing may stand behind an exponent, nor behind a fraction without one. -/
theorem powerOf?_marked (h : Exponent power n) : powerOf? (power ++ ['F']) = none := by
  cases h with
  | none => rfl
  | marked hmark hcs =>
    obtain ⟨hsign, hds⟩ := hcs
    have hsplit := splitSign_append hsign hds ['F']
    have hF : Text.isDigit 'F' = false := by decide
    simp [powerOf?, hsplit, hF]

theorem map_toAscii_pointed (cs es : List Char) :
    ('.' :: (cs ++ es)).map Text.toAsciiDigit
      = '.' :: (cs.map Text.toAsciiDigit ++ es.map Text.toAsciiDigit) := by
  have hpoint : Text.toAsciiDigit '.' = '.' := by decide
  rw [List.map_cons, List.map_append, hpoint]

theorem plain_pointed (hfraction : Digits fraction) (hrest : ∀ c ∈ rest, Plain c) :
    ∀ c ∈ '.' :: (fraction ++ rest), Plain c :=
  List.forall_mem_cons.mpr
    ⟨.inr (by simp), List.forall_mem_append.mpr ⟨plain_of_digits hfraction, hrest⟩⟩

theorem read?_fractional (h : Fractional cs negative coefficient n)
    (htail : ∀ c ∈ tail, isNumeralBlank c = true) :
    Binary64.read? (String.ofList (cs ++ tail))
      = some (.ofScientific negative coefficient n) := by
  obtain ⟨hsign, hwhole, hfraction, hpower⟩ := h
  obtain ⟨hwhole', hsame⟩ := (hwhole.append hfraction).toAscii
  rw [List.map_append] at hsame
  rw [read?_digits hsign hwhole (plain_pointed hfraction hpower.plain) htail, map_toAscii_pointed,
    readScientific?_pointed hwhole.toAscii.1 hfraction.toAscii.1 hpower.toAscii.noDigit,
    powerOf?_exponent hpower.toAscii, hsame]
  simp

theorem read?_marked (h : Fractional cs negative coefficient n) :
    Binary64.read? (String.ofList (cs ++ ['F'])) = none := by
  obtain ⟨hsign, hwhole, hfraction, hpower⟩ := h
  rename_i sign whole fraction power n
  have hrest : ∀ c ∈ power ++ ['F'], Plain c :=
    List.forall_mem_append.mpr ⟨hpower.plain, List.forall_mem_singleton.mpr (.inr (by simp))⟩
  have hascii : (power ++ ['F']).map Text.toAsciiDigit = power.map Text.toAsciiDigit ++ ['F'] := by
    have hF : Text.toAsciiDigit 'F' = 'F' := by decide
    rw [List.map_append, List.map_singleton, hF]
  have hhead : ∀ c ∈ (power.map Text.toAsciiDigit ++ ['F']).head?, Text.isDigit c = false := by
    cases hpower with
    | none =>
      rintro c ⟨⟩
      decide
    | marked hmark hcs => exact (Exponent.marked hmark hcs).toAscii.noDigit
  have hnone : ∀ c ∈ [], isNumeralBlank c = true := List.forall_mem_nil _
  have hread := read?_digits hsign hwhole (plain_pointed hfraction hrest) hnone
  have hassoc : sign ++ (whole ++ '.' :: (fraction ++ power)) ++ ['F']
      = sign ++ (whole ++ '.' :: (fraction ++ (power ++ ['F']))) ++ [] := by simp
  rw [hassoc, hread, map_toAscii_pointed, hascii,
    readScientific?_pointed hwhole.toAscii.1 hfraction.toAscii.1 hhead,
    powerOf?_marked hpower.toAscii]
  rfl

end Numeral

end DecisionTable
