import DecisionTable.Literal.Basic
import DecisionTable.Table.Basic

/-!
# Faults of tree tables

Why a table is no tree. Every fault names the node, the column or the text that has to be mended.
-/

namespace DecisionTable

/-- The two outcomes of a decision. -/
inductive Side where
  | onTrue
  | onFalse
deriving DecidableEq, Repr

def Side.heading : Side → String
  | onTrue => trueHeading
  | onFalse => falseHeading

/-- Why a table cannot be compiled into a tree. -/
inductive CompileError where
  /-- Required headings are missing; they are given in ascending order. -/
  | missingHeadings (missing : List String)
  | noRows
  | duplicateNode (id : String)
  /-- A node leads back to itself along a path. -/
  | cyclicReference (id : String) (path : List String)
  /-- A node refers to a node that no row describes. -/
  | undefinedNode (missing referrer : String) (side : Side)
  | unknownOperator (text : String) (node : Option String)
  | inconsistentType (found expected : LiteralType) (leaf first : String)
  | unknownAttribute (identifier : String) (node : Option String)
  /-- The attribute of the outcome has room for several values. -/
  | choiceNotSingle (identifier : String)
deriving DecidableEq, Repr

def CompileError.message : CompileError → String
  | missingHeadings missing =>
    "The decision tree table does not contain all the required headings: missing "
      ++ Text.quotedList missing
  | noRows => "The decision tree table has no rows"
  | duplicateNode id => s!"Node {id} is defined twice"
  | cyclicReference id path =>
    let route := " -> ".intercalate path
    s!"Node {id} is defined recursively: {route}"
  | undefinedNode missing referrer side =>
    s!"Node {missing} referred to in node {referrer} ({side.heading}) is not defined"
  | unknownOperator text none => s!"Unknown operator '{text}'"
  | unknownOperator text (some node) => s!"Unknown operator '{text}' in node {node}"
  | inconsistentType found expected leaf first =>
    let origin := if first == "" then "" else s!" (set by {first})"
    s!"Inconsistent type: {found.name} in {leaf}. Previous types have been: {expected.name}{origin}"
  | unknownAttribute identifier none => s!"Unknown attribute '{identifier}'"
  | unknownAttribute identifier (some node) => s!"Unknown attribute '{identifier}' (node {node})"
  | choiceNotSingle identifier => s!"Choice attribute '{identifier}' must be single-valued"

end DecisionTable
