import DecisionTable.Text.Alternatives
import Mathlib.Data.List.Basic

/-!
# Texts that are split

A text is split at every place where a separator stands. No piece holds a separator, and each piece
stands in the text in front of a separator or at the end.
-/

namespace DecisionTable.Text

variable {separator : Char} {cs piece : List Char}

theorem splitChars_eq_splitOn (separator : Char) (cs : List Char) :
    splitChars separator cs = cs.splitOn separator := by
  unfold splitChars
  induction cs with
  | nil => rfl
  | cons c cs ih =>
    rw [List.foldr_cons, ih, List.splitOn_cons_eq_if_modifyHead]
    cases hpieces : cs.splitOn separator with
    | nil => exact absurd hpieces (List.splitOn_ne_nil _ _)
    | cons piece rest => rfl

/-- A separator begins a new piece, and any other character belongs to the first piece. -/
theorem splitOn_cons_cases (separator c : Char) (cs : List Char) : ∃ first rest,
    cs.splitOn separator = first :: rest ∧
      ((c = separator ∧ (c :: cs).splitOn separator = [] :: first :: rest) ∨
        c ≠ separator ∧ (c :: cs).splitOn separator = (c :: first) :: rest) := by
  obtain ⟨first, rest, hpieces⟩ := List.exists_cons_of_ne_nil (List.splitOn_ne_nil separator cs)
  refine ⟨first, rest, hpieces, ?_⟩
  rw [List.splitOn_cons_eq_if_modifyHead, hpieces, List.modifyHead_cons]
  by_cases hc : c = separator
  · exact Or.inl ⟨hc, if_pos (beq_iff_eq.mpr hc)⟩
  · exact Or.inr ⟨hc, if_neg fun hsame => hc (beq_iff_eq.mp hsame)⟩

theorem notMem_of_mem_splitOn (h : piece ∈ cs.splitOn separator) : separator ∉ piece := by
  induction cs generalizing piece with
  | nil =>
    obtain rfl := List.mem_singleton.mp h
    exact List.not_mem_nil
  | cons c cs ih =>
    obtain ⟨first, rest, hpieces, ⟨_, hsplit⟩ | ⟨hc, hsplit⟩⟩ := splitOn_cons_cases separator c cs
    · rw [hsplit, ← hpieces] at h
      rcases List.mem_cons.mp h with rfl | hrest
      · exact List.not_mem_nil
      · exact ih hrest
    · rw [hsplit] at h
      rcases List.mem_cons.mp h with rfl | hrest
      · have hfirst : separator ∉ first := ih (hpieces ▸ List.mem_cons_self ..)
        exact List.not_mem_cons_of_ne_of_not_mem hc.symm hfirst
      · exact ih (hpieces ▸ List.mem_cons_of_mem _ hrest)

theorem exists_of_splitOn_eq_cons {rest : List (List Char)}
    (h : cs.splitOn separator = piece :: rest) :
    ∃ after, cs = piece ++ after ∧ (after = [] ∨ after.head? = some separator) := by
  induction cs generalizing piece rest with
  | nil =>
    obtain ⟨rfl, rfl⟩ := List.cons.inj h
    exact ⟨[], rfl, Or.inl rfl⟩
  | cons c cs ih =>
    obtain ⟨first, others, hpieces, ⟨rfl, hsplit⟩ | ⟨_, hsplit⟩⟩ :=
      splitOn_cons_cases separator c cs
    · obtain ⟨rfl, rfl⟩ := List.cons.inj (hsplit.symm.trans h)
      exact ⟨c :: cs, rfl, Or.inr rfl⟩
    · obtain ⟨rfl, rfl⟩ := List.cons.inj (hsplit.symm.trans h)
      obtain ⟨after, rfl, hafter⟩ := ih hpieces
      exact ⟨after, rfl, hafter⟩

theorem exists_of_mem_splitOn (h : piece ∈ cs.splitOn separator) :
    ∃ before after, cs = before ++ piece ++ after ∧
      (after = [] ∨ after.head? = some separator) := by
  induction cs generalizing piece with
  | nil =>
    obtain rfl := List.mem_singleton.mp h
    exact ⟨[], [], rfl, Or.inl rfl⟩
  | cons c cs ih =>
    obtain ⟨first, others, hpieces, hcases⟩ := splitOn_cons_cases separator c cs
    -- the first piece begins the text, and the others are pieces of what is behind the character
    have hlater : ∀ other, other ∈ cs.splitOn separator → ∃ before after,
        c :: cs = before ++ other ++ after ∧ (after = [] ∨ after.head? = some separator) := by
      intro other hother
      obtain ⟨before, after, hsplit, hafter⟩ := ih hother
      exact ⟨c :: before, after, congrArg (c :: ·) hsplit, hafter⟩
    rcases hcases with ⟨_, hsplit⟩ | ⟨_, hsplit⟩
    · rw [hsplit] at h
      rcases List.mem_cons.mp h with rfl | hrest
      · obtain ⟨after, hwhole, hafter⟩ := exists_of_splitOn_eq_cons hsplit
        exact ⟨[], after, hwhole, hafter⟩
      · exact hlater piece (hpieces ▸ hrest)
    · rw [hsplit] at h
      rcases List.mem_cons.mp h with rfl | hrest
      · obtain ⟨after, hwhole, hafter⟩ := exists_of_splitOn_eq_cons hsplit
        exact ⟨[], after, hwhole, hafter⟩
      · exact hlater piece (hpieces ▸ List.mem_cons_of_mem _ hrest)

end DecisionTable.Text
