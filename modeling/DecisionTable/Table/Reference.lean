import DecisionTable.Literal.Basic

/-!
# References

The outcome cells of a row either hold an outcome or refer to another row by its id in square
brackets. Empty brackets refer to nothing and are an outcome.
-/

namespace DecisionTable.Reference

def target? (cell : String) : Option String :=
  let cs := cell.toList
  if Literal.isWrapped '[' ']' cs && 2 < cs.length then some (String.ofList (Literal.inner cs))
  else none

def cell (id : String) : String :=
  "[" ++ id ++ "]"

end DecisionTable.Reference
