import DecisionTable.Json.Parse
import DecisionTable.Text.Quoted
import DecisionTable.Yaml.Fault

/-!
# Tables

A table has named columns and rows of cells; the names are distinct. A row may be shorter than the
headings, and its missing cells are empty. Each row of a tree table describes one node.
-/

namespace DecisionTable

def nodeHeading : String := "Node ID"

def attributeHeading : String := "Attribute"

def operatorHeading : String := "Operator"

def operandHeading : String := "Operand"

/-- The heading of the column that is followed when the decision holds. -/
def trueHeading : String := "True"

/-- The heading of the column that is followed when the decision does not hold. -/
def falseHeading : String := "False"

/-- The headings that every tree table has. -/
def requiredHeadings : List String :=
  [nodeHeading, attributeHeading, operatorHeading, operandHeading, trueHeading, falseHeading]

/-- Why there is no table. -/
inductive TableError where
  | duplicateHeadings (headings : List String)
  /-- A line has more cells than there are headings. -/
  | tooManyCells (line cells headings : Nat)
  /-- There is no line of headings. -/
  | empty
  /-- The text is no JSON document. -/
  | invalidJson (f : Json.Fault)
  /-- The text is no YAML document. -/
  | invalidYaml
  | notRows
deriving DecidableEq, Repr

def TableError.message : TableError → String
  | duplicateHeadings headings =>
    s!"Duplicate column headings: {Text.quotedList headings}"
  | tooManyCells line cells headings =>
    s!"Line {line} has {cells} cells but there are {headings} headings"
  | empty => "Tree table is empty"
  | invalidJson f => s!"Invalid JSON tree table: {f.message}"
  | invalidYaml => "Invalid YAML tree table"
  | notRows => "A serialized tree table must be a list of row mappings"

/-- The greatest length of a cell in delimited lines. -/
def maxCellLength : Nat := 131072

/-- Why a text cannot be loaded as a table. -/
inductive LoadFailure where
  | rejected (e : TableError)
  /-- A carriage return stands inside a line. -/
  | strayReturn
  | cellTooLong
  /-- A number in the text cannot be worked with. -/
  | number (f : Yaml.NumberFault)
deriving DecidableEq, Repr

def LoadFailure.message : LoadFailure → String
  | rejected e => e.message
  | strayReturn =>
    "new-line character seen in unquoted field - do you need to open the file in "
      ++ "universal-newline mode?"
  | cellTooLong => s!"field larger than field limit ({maxCellLength})"
  | number f => f.message

structure Table where
  headings : List String
  rows : List (List String)
  nodup : headings.Nodup

/-- Why a cell cannot be looked up. -/
inductive CellFault where
  | noColumn (name : String)
  | noRow
  | noCell
deriving DecidableEq, Repr

def CellFault.message : CellFault → String
  | noColumn name => Text.quoted name
  | noRow => "list index out of range"
  | noCell => "list assignment index out of range"

def sortTexts (l : List String) : List String :=
  l.mergeSort fun a b => decide (a ≤ b)

namespace Table

/-- The names that occur more than once, ascending. -/
def duplicates (headings : List String) : List String :=
  sortTexts (headings.filter fun h => 1 < headings.count h).eraseDups

def ofRows (headings : List String) (rows : List (List String)) : Except TableError Table :=
  if h : headings.Nodup then .ok ⟨headings, rows, h⟩
  else .error (.duplicateHeadings (duplicates headings))

theorem requiredHeadings_nodup : requiredHeadings.Nodup := by decide

/-- The table with the required headings and the given rows. -/
def ofRequired (rows : List (List String)) : Table :=
  ⟨requiredHeadings, rows, requiredHeadings_nodup⟩

def cellOf (t : Table) (row : List String) (heading : String) : String :=
  match t.headings.idxOf? heading with
  | some i => row.getD i ""
  | none => ""

/-- The cell of the row at an index below a heading; rows that do not exist have empty cells. -/
def cell (t : Table) (row : Nat) (heading : String) : String :=
  t.cellOf (t.rows.getD row []) heading

/-- The position that an index stands for in a list; a negative index counts from the end. -/
def position? (index : Int) (length : Nat) : Option Nat :=
  let i := if index < 0 then index + length else index
  if 0 ≤ i && i < length then some i.toNat else none

/-- Looks a cell up, the column before the row. -/
def lookup (t : Table) (index : Int) (heading : String) : Except CellFault String :=
  if !t.headings.contains heading then .error (.noColumn heading)
  else match position? index t.rows.length with
    | some row => .ok (t.cell row heading)
    | none => .error .noRow

def setCell (t : Table) (row index : Int) (text : String) : Except CellFault Table :=
  match position? row t.rows.length with
  | none => .error .noRow
  | some i =>
    match position? index (t.rows.getD i []).length with
    | none => .error .noCell
    | some j => .ok { t with rows := t.rows.modify i (·.set j text) }

def recordOf (t : Table) (row : List String) : List (String × String) :=
  t.headings.map fun h => (h, t.cellOf row h)

/-- The named cells of every row. -/
def records (t : Table) : List (List (String × String)) :=
  t.rows.map t.recordOf

/-- The rows as a document: a list of objects, one for each row. -/
def toDocument (t : Table) : Json :=
  .array (t.records.map fun record => .object (record.map fun (h, text) => (h, .string text)))

end Table

end DecisionTable
