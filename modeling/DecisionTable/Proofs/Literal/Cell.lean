import DecisionTable.Table.Reference
import Mathlib.Data.List.Basic

/-!
# Writing outcomes and references and reading them again

An outcome that was read from a cell and is written into a cell again reads as the same outcome,
whatever names are relative to by then. No such cell can be taken for a reference, and a reference
that is written is read as the same reference.
-/

namespace DecisionTable

/-! ### Marks around a text -/

namespace Literal

variable {opening closing : Char} {cs : List Char}

theorem isWrapped_iff :
    isWrapped opening closing cs = true ↔ ∃ xs, cs = opening :: (xs ++ [closing]) := by
  unfold isWrapped
  constructor
  · intro h
    simp only [Bool.and_eq_true, decide_eq_true_eq, beq_iff_eq] at h
    obtain ⟨⟨hlength, hhead⟩, hlast⟩ := h
    cases cs with
    | nil => cases hhead
    | cons c rest =>
      obtain rfl := Option.some.inj hhead
      have hne : rest ≠ [] := by
        rintro rfl
        simp at hlength
      rw [List.getLast?_cons, List.getLast?_eq_some_getLast hne] at hlast
      have hclosing : rest.getLast hne = closing := Option.some.inj hlast
      refine ⟨rest.dropLast, ?_⟩
      rw [← hclosing, List.dropLast_append_getLast hne]
  · rintro ⟨xs, rfl⟩
    have hlast : (opening :: (xs ++ [closing])).getLast? = some closing := by
      rw [← List.cons_append, List.getLast?_concat]
    rw [hlast]
    simp

theorem inner_wrapped (xs : List Char) : inner (opening :: (xs ++ [closing])) = xs := by
  simp [inner]

end Literal

/-! ### References -/

namespace Reference

theorem toList_cell (id : String) : (cell id).toList = '[' :: (id.toList ++ [']']) := by
  simp [cell]

/-- A cell refers to an id exactly if it is the id in brackets, and the id is not empty. -/
theorem target?_eq_some {text id : String} :
    target? text = some id ↔ text = cell id ∧ id ≠ "" := by
  unfold target?
  constructor
  · intro h
    simp only [Option.ite_none_right_eq_some, Bool.and_eq_true, decide_eq_true_eq] at h
    obtain ⟨⟨hwrapped, hlength⟩, hid⟩ := h
    obtain ⟨xs, hxs⟩ := Literal.isWrapped_iff.mp hwrapped
    rw [hxs, Literal.inner_wrapped] at hid
    obtain rfl := Option.some.inj hid
    refine ⟨?_, ?_⟩
    · rw [← String.toList_inj, toList_cell, String.toList_ofList, hxs]
    · intro hempty
      have hnil : xs = [] := by simpa using congrArg String.toList hempty
      rw [hxs, hnil] at hlength
      simp at hlength
  · rintro ⟨rfl, hid⟩
    have hne : id.toList ≠ [] := fun h => hid (String.toList_eq_nil_iff.mp h)
    have hpos := List.length_pos_of_ne_nil hne
    have hwrapped : Literal.isWrapped '[' ']' (cell id).toList = true :=
      Literal.isWrapped_iff.mpr ⟨id.toList, toList_cell id⟩
    have hlength : 2 < (cell id).toList.length := by
      rw [toList_cell]
      simp
      omega
    simp only [hwrapped, hlength, decide_true, Bool.and_self, if_true]
    rw [toList_cell, Literal.inner_wrapped, String.ofList_toList]

theorem target?_eq_none {text : String} {c : Char} (h : text.toList.head? = some c)
    (hc : c ≠ '[') : target? text = none := by
  cases htarget : target? text with
  | none => rfl
  | some id =>
    rw [(target?_eq_some.mp htarget).1, toList_cell] at h
    exact absurd (Option.some.inj h).symm hc

end Reference

/-! ### Outcomes -/

namespace Literal

variable {text : String} {xs : List Char}

/-- The forms in which an outcome is written. -/
inductive Form (text : String) : Prop where
  | quoted (xs : List Char) (h : text.toList = '"' :: (xs ++ ['"']))
  | full (xs : List Char) (h : text.toList = '<' :: (xs ++ ['>']))
  | name (h : text.toList.head? = some '#')
  | plain (hstring : inferType text ≠ .string) (huri : inferType text ≠ .uri)

theorem numeralType_ne (cs : List Char) : numeralType cs ≠ .string ∧ numeralType cs ≠ .uri := by
  unfold numeralType
  split
  · exact ⟨nofun, nofun⟩
  · split
    · exact ⟨nofun, nofun⟩
    · split
      · exact ⟨nofun, nofun⟩
      · split
        · exact ⟨nofun, nofun⟩
        · exact ⟨nofun, nofun⟩

theorem form (text : String) : Form text := by
  by_cases hquoted : isWrapped '"' '"' text.toList = true
  · obtain ⟨xs, hxs⟩ := isWrapped_iff.mp hquoted
    exact .quoted xs hxs
  · by_cases hfull : isWrapped '<' '>' text.toList = true
    · obtain ⟨xs, hxs⟩ := isWrapped_iff.mp hfull
      exact .full xs hxs
    · by_cases hname : (text.toList.head? == some '#') = true
      · exact .name (eq_of_beq hname)
      · have htype : inferType text = numeralType (dropLineBreak text.toList) := by
          simp only [inferType, typeOfChars, if_neg hquoted, if_neg hfull, if_neg hname]
        have hne := numeralType_ne (dropLineBreak text.toList)
        rw [← htype] at hne
        exact .plain hne.1 hne.2

theorem not_isWrapped {opening closing c : Char} {cs : List Char} (h : cs.head? = some c)
    (hc : c ≠ opening) : ¬ isWrapped opening closing cs = true := by
  intro hwrapped
  obtain ⟨ys, rfl⟩ := isWrapped_iff.mp hwrapped
  exact hc (Option.some.inj h).symm

theorem parse_quoted (h : text.toList = '"' :: (xs ++ ['"'])) (b : String) :
    parse text b = ⟨.string, String.ofList xs⟩ := by
  have htype : inferType text = .string := by
    simp only [inferType, typeOfChars, if_pos (isWrapped_iff.mpr ⟨xs, h⟩)]
  simp only [parse, htype, valueOf, h, inner_wrapped]

theorem parse_full (h : text.toList = '<' :: (xs ++ ['>'])) (b : String) :
    parse text b = ⟨.uri, String.ofList xs⟩ := by
  have hhead : text.toList.head? = some '<' := by rw [h]; rfl
  have htype : inferType text = .uri := by
    simp only [inferType, typeOfChars, if_neg (not_isWrapped hhead (by decide : '<' ≠ '"')),
      if_pos (isWrapped_iff.mpr ⟨xs, h⟩)]
  have hname : (text.toList.head? == some '#') = false := by
    rw [hhead]
    decide
  simp only [parse, htype, valueOf, hname, Bool.false_eq_true, if_false]
  rw [h, inner_wrapped]

theorem parse_name (h : text.toList.head? = some '#') (b : String) :
    parse text b = ⟨.uri, b ++ text⟩ := by
  have hname : (text.toList.head? == some '#') = true := beq_iff_eq.mpr h
  have htype : inferType text = .uri := by
    simp only [inferType, typeOfChars, if_neg (not_isWrapped h (by decide : '#' ≠ '"')),
      if_neg (not_isWrapped h (by decide : '#' ≠ '<')), if_pos hname]
  simp only [parse, htype, valueOf, hname, if_true]

theorem parse_plain (hstring : inferType text ≠ .string) (huri : inferType text ≠ .uri)
    (b : String) : parse text b = ⟨inferType text, text⟩ := by
  unfold parse
  cases htype : inferType text with
  | string => exact absurd htype hstring
  | uri => exact absurd htype huri
  | _ => rfl

theorem cell_plain {l : TypedLiteral} (hstring : l.type ≠ .string) (huri : l.type ≠ .uri) :
    l.cell = l.value := by
  obtain ⟨type, value⟩ := l
  cases type with
  | string => exact absurd rfl hstring
  | uri => exact absurd rfl huri
  | _ => rfl

/-- An outcome that was read and is written again is read as the same outcome, whatever names were
and are relative to. -/
theorem parse_cell (text baseUri b : String) :
    parse (parse text baseUri).cell b = parse text baseUri := by
  cases form text with
  | quoted xs h =>
    rw [parse_quoted h]
    exact parse_quoted (by simp [TypedLiteral.cell]) b
  | full xs h =>
    rw [parse_full h]
    exact parse_full (by simp [TypedLiteral.cell]) b
  | name h =>
    rw [parse_name h]
    have hcell : (TypedLiteral.cell ⟨.uri, baseUri ++ text⟩).toList
        = '<' :: ((baseUri ++ text).toList ++ ['>']) := by simp [TypedLiteral.cell]
    rw [parse_full hcell, String.ofList_toList]
  | plain hstring huri =>
    rw [parse_plain hstring huri, cell_plain hstring huri]
    exact parse_plain hstring huri b

/-- No outcome that was read from a cell is written as a reference. -/
theorem target?_cell_parse (h : Reference.target? text = none) (baseUri : String) :
    Reference.target? (parse text baseUri).cell = none := by
  cases form text with
  | quoted xs hquoted =>
    rw [parse_quoted hquoted]
    exact Reference.target?_eq_none (by simp [TypedLiteral.cell]) (by decide : '"' ≠ '[')
  | full xs hfull =>
    rw [parse_full hfull]
    exact Reference.target?_eq_none (by simp [TypedLiteral.cell]) (by decide : '<' ≠ '[')
  | name hname =>
    rw [parse_name hname]
    exact Reference.target?_eq_none (by simp [TypedLiteral.cell]) (by decide : '<' ≠ '[')
  | plain hstring huri =>
    rw [parse_plain hstring huri, cell_plain hstring huri]
    exact h

end Literal

end DecisionTable
