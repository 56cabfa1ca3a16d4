import DecisionTable.Json.Print
import DecisionTable.Table.Basic
import DecisionTable.Text.Blank

/-!
# Tables in records

A record names the cells of a row. A table of records has the required headings first and then the
other names in the order in which they come up, unless headings are given. An absent cell is empty,
and cells are stripped of blanks.
-/

namespace DecisionTable

abbrev Record (α : Type) := List (String × α)

namespace Table

def headingsOf {α : Type} (records : List (Record α)) : List String :=
  records.foldl
    (fun known record => record.foldl
      (fun known (name, _) => if known.contains name then known else known ++ [name]) known)
    requiredHeadings

variable {α ε : Type}

/-- The cell of a record below a heading, where `text` gives the text of a value. -/
def recordCell (text : α → Except ε (Option String)) (record : Record α) (heading : String) :
    Except ε String :=
  match record.lookup heading with
  | none => .ok ""
  | some value => (text value).map fun s => Text.strip (s.getD "")

def recordRows (text : α → Except ε (Option String)) (headings : List String)
    (records : List (Record α)) : Except ε (List (List String)) :=
  records.mapM fun record => headings.mapM (recordCell text record)

/-- The table of records below the given headings, or below those that the records need. -/
def ofRecords (text : α → Except ε (Option String)) (reject : TableError → ε)
    (headings : Option (List String)) (records : List (Record α)) : Except ε Table := do
  let headings := headings.getD (headingsOf records)
  (ofRows headings (← recordRows text headings records)).mapError reject

/-- The rows of a document, which is a list of objects. -/
def documentRecords? : Json → Option (List (Record Json))
  | .array items => items.mapM fun
    | .object members => some members
    | _ => none
  | _ => none

def documentCell (j : Json) : Except TableError (Option String) :=
  .ok j.cellText?

def ofDocument (document : Json) : Except TableError Table :=
  match documentRecords? document with
  | none => .error .notRows
  | some records => ofRecords documentCell id none records

end Table

end DecisionTable
