import DecisionTable.Proofs.Literal.Cell

/-!
# One cell for each outcome

An outcome that was read is written as the text that it was read from, save that a name is written
in full. So the cell that an outcome is written in tells the outcome, whatever names are relative
to, and it refers to a row just when the text did.
-/

namespace DecisionTable

namespace Literal

variable {text baseUri : String}

theorem head?_of_plain (huri : inferType text ≠ .uri) : text.toList.head? ≠ some '#' := by
  intro hname
  have htype : (parse text "").type = .uri := by rw [parse_name hname]
  exact huri htype

theorem cell_parse (text baseUri : String) :
    (parse text baseUri).cell
      = if text.toList.head? = some '#' then "<" ++ (baseUri ++ text) ++ ">" else text := by
  cases form text with
  | quoted xs h =>
    have hhead : text.toList.head? ≠ some '#' := by simp [h]
    rw [if_neg hhead, parse_quoted h, ← String.toList_inj, h]
    simp [TypedLiteral.cell]
  | full xs h =>
    have hhead : text.toList.head? ≠ some '#' := by simp [h]
    rw [if_neg hhead, parse_full h, ← String.toList_inj, h]
    simp [TypedLiteral.cell]
  | name h =>
    rw [if_pos h, parse_name h]
    rfl
  | plain hstring huri =>
    rw [if_neg (head?_of_plain huri), parse_plain hstring huri, cell_plain hstring huri]

theorem head?_full (s : String) : ("<" ++ s ++ ">").toList.head? = some '<' := by
  simp

theorem cell_parse_eq_self (text baseUri : String) :
    (parse text baseUri).cell = text ↔ text.toList.head? ≠ some '#' := by
  rw [cell_parse]
  split
  · rename_i hname
    refine iff_of_false ?_ (not_not.mpr hname)
    intro heq
    have hhead := head?_full (baseUri ++ text)
    rw [heq, hname] at hhead
    exact absurd (Option.some.inj hhead) (by decide)
  · rename_i hhead
    exact iff_of_true rfl hhead

theorem target?_cell (text baseUri : String) :
    Reference.target? (parse text baseUri).cell = Reference.target? text := by
  rw [cell_parse]
  split
  · rename_i hname
    rw [Reference.target?_eq_none hname (by decide : '#' ≠ '['),
      Reference.target?_eq_none (head?_full _) (by decide : '<' ≠ '[')]
  · rfl

/-- The cell of an outcome is read as the outcome, it refers to what the text that the outcome was
read from refers to, and no other outcome has the same cell. Texts that are no names are such cells
themselves. -/
theorem cell_parse_canonical (text text' baseUri baseUri' b : String) :
    parse (parse text baseUri).cell b = parse text baseUri ∧
    Reference.target? (parse text baseUri).cell = Reference.target? text ∧
    ((parse text baseUri).cell = text ↔ text.toList.head? ≠ some '#') ∧
    (parse text baseUri = parse text' baseUri' ↔
      (parse text baseUri).cell = (parse text' baseUri').cell) := by
  refine ⟨parse_cell text baseUri b, target?_cell text baseUri, cell_parse_eq_self text baseUri,
    congrArg TypedLiteral.cell, ?_⟩
  intro hcell
  calc parse text baseUri
      = parse (parse text baseUri).cell b := (parse_cell text baseUri b).symm
    _ = parse (parse text' baseUri').cell b := by rw [hcell]
    _ = parse text' baseUri' := parse_cell text' baseUri' b

end Literal

end DecisionTable
