import DecisionTable.Compile.Error
import DecisionTable.Table.Reference

/-!
# Rows by node

Before a table is compiled, its headings and node ids are checked, and every row is found by the id
of the node that it describes.
-/

namespace DecisionTable

/-- The required headings that a table does not have, ascending. -/
def Table.missingHeadings (t : Table) : List String :=
  sortTexts (requiredHeadings.filter fun h => !t.headings.contains h)

/-- The node ids of the rows, in their order. -/
def Table.nodeIds (t : Table) : List String :=
  t.rows.map (t.cellOf · nodeHeading)

/-- Numbers ids, where those in `known` have numbers already. An id that has one is a fault. -/
def numberIds (known : List (String × Nat)) :
    List String → Except CompileError (List (String × Nat))
  | [] => .ok known.reverse
  | id :: rest =>
    if (known.lookup id).isSome then .error (.duplicateNode id)
    else numberIds ((id, known.length) :: known) rest

/-- The index of the row of each node, in the order of the rows. -/
def Table.indexRows (t : Table) : Except CompileError (List (String × Nat)) :=
  if !t.missingHeadings.isEmpty then .error (.missingHeadings t.missingHeadings)
  else if t.rows.isEmpty then .error .noRows
  else numberIds [] t.nodeIds

end DecisionTable
