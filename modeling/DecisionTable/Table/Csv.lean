import DecisionTable.Table.Basic
import DecisionTable.Text.Alternatives
import DecisionTable.Text.Blank

/-!
# Tables in delimited lines

The first line that is not blank holds the headings and every further one a row. Cells are separated
by a delimiter and stripped of blanks; quotes and backslashes are ordinary characters. Blank lines
are passed over, and those behind the headings are reported.

A line ends with a newline, a carriage return or both. A carriage return with anything else behind
it on the same line is refused, and so is a cell of excessive length.
-/

namespace DecisionTable

namespace Csv

/-- The lines of a text, each without its newline. No line follows a final newline. -/
def lines (cs : List Char) : List (List Char) :=
  let pieces := Text.splitChars '\n' cs
  if pieces.getLast? == some [] then pieces.dropLast else pieces

/-- The cells of a line, before stripping. An empty line has none. -/
def splitLine (delimiter : Char) (line : List Char) : Except LoadFailure (List (List Char)) :=
  let content := line.takeWhile (· != '\r')
  let cells := if content.isEmpty then [] else Text.splitChars delimiter content
  if cells.any fun cell => maxCellLength < cell.length then .error .cellTooLong
  else if (line.dropWhile (· != '\r')).any (· != '\r') then .error .strayReturn
  else .ok cells

def readLine (delimiter : Char) (line : List Char) : Except LoadFailure (List String) :=
  (splitLine delimiter line).map fun cells =>
    cells.map fun cell => String.ofList (Text.trimBoth Text.isBlank cell)

/-- Whether no cell holds anything. -/
def isBlankRow (cells : List String) : Bool :=
  cells.all (· == "")

/-- What has been loaded of a table. -/
structure Progress where
  /-- The headings, once their line has been met. -/
  headings : Option (List String) := none
  /-- The rows, from the last to the first. -/
  rows : List (List String) := []
  /-- The numbers of the blank lines behind the headings, from the last to the first. -/
  skipped : List Nat := []

def addLine (p : Progress) (number : Nat) (cells : List String) : Except LoadFailure Progress :=
  match p.headings with
  | none => .ok (if isBlankRow cells then p else { p with headings := some cells })
  | some headings =>
    if isBlankRow cells then .ok { p with skipped := number :: p.skipped }
    else if headings.length < cells.length then
      .error (.rejected (.tooManyCells number cells.length headings.length))
    else .ok { p with rows := cells :: p.rows }

/-- Takes lines in, from the given line number on, up to the first fault. -/
def addLines (delimiter : Char) :
    Progress → Nat → List (List Char) → Progress × Option LoadFailure
  | p, _, [] => (p, none)
  | p, number, line :: rest =>
    match readLine delimiter line >>= addLine p number with
    | .ok q => addLines delimiter q (number + 1) rest
    | .error f => (p, some f)

/-- The table of the lines that were taken in. -/
def finish (p : Progress) : Except LoadFailure Table :=
  match p.headings with
  | none => .error (.rejected .empty)
  | some headings => (Table.ofRows headings p.rows.reverse).mapError .rejected

end Csv

/-- What comes of loading a table: the table or the failure, and the numbers of the blank lines that
were passed over. -/
structure Loaded where
  skipped : List Nat
  result : Except LoadFailure Table

/-- Loads a table from delimited lines. -/
def Csv.load (delimiter : Char) (text : String) : Loaded :=
  let (p, fault) := addLines delimiter {} 1 (lines text.toList)
  ⟨p.skipped.reverse, match fault with
    | some f => .error f
    | none => finish p⟩

end DecisionTable
