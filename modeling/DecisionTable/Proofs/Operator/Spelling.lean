import DecisionTable.Operator.Basic

/-!
# Spellings of operators

A cell names an operator if, without the blanks around it, it is the spelling of that operator.
Different operators have different spellings, and none begins or ends with a blank.
-/

namespace DecisionTable

namespace Operator

theorem mem_all (op : Operator) : op ∈ all := by
  cases op with
  | order c => cases c <;> decide
  | pattern b => cases b <;> decide
  | within b => cases b <;> decide
  | contains b => cases b <;> decide
  | identity b => cases b <;> decide
  | oneOf b => cases b <;> decide
  | has b => cases b <;> decide
  | count c => cases c <;> decide

theorem spelling_injective {op op' : Operator} (h : op.spelling = op'.spelling) : op = op' := by
  have hall : ∀ a ∈ all, ∀ b ∈ all, a.spelling = b.spelling → a = b := by decide
  exact hall op op.mem_all op' op'.mem_all h

theorem strip_spelling (op : Operator) : Text.strip op.spelling = op.spelling := by
  have hall : ∀ a ∈ all, Text.strip a.spelling = a.spelling := by decide
  exact hall op op.mem_all

theorem parse?_eq_some {cell : String} {op : Operator} :
    parse? cell = some op ↔ op.spelling = Text.strip cell := by
  unfold parse?
  constructor
  · intro h
    have hspelling := List.find?_some h
    exact eq_of_beq hspelling
  · intro h
    cases hfound : all.find? (·.spelling == Text.strip cell) with
    | none =>
      have hnot := List.find?_eq_none.mp hfound op op.mem_all
      exact absurd (beq_iff_eq.mpr h) hnot
    | some found =>
      have hspelling := List.find?_some hfound
      exact congrArg some (spelling_injective ((eq_of_beq hspelling).trans h.symm))

theorem parse?_spelling (op : Operator) : parse? op.spelling = some op :=
  parse?_eq_some.mpr op.strip_spelling.symm

end Operator

end DecisionTable
