import DecisionTable.Store
import DecisionTable.Table.Basic

/-!
# Example tables

A small tree of grades with a few scores, a table in which two rows lead to a third one and the same
table in another layout, a table with an operator that does not suit its attribute, a table with
several faults, a table with outcomes of two datatypes, and tables of regular form: a single row, and
a chain of any length in which each row leads to the next.
-/

namespace DecisionTable.Example

def gradingLines : List String :=
  ["Node ID,Attribute,Operator,Operand,True,False",
    "root,#score,gt,50,[pass],[fail]",
    "pass,#score,gt,90,\"A\",\"B\"",
    "fail,#score,lt,10,\"F\",\"C\"",
    ""]

def gradingText : String :=
  "\n".intercalate gradingLines

def scores : List (Subject × Value) :=
  [(.named "ann", .int 95), (.named "bob", .int 60), (.named "cat", .int 5),
    (.named "dan", .int 20)]

/-- The store of the attributes of the example, with no values. -/
def emptyStore : Store :=
  { attributes := [⟨"#score", .single, .scalar⟩, ⟨"#choice", .single, .scalar⟩,
      ⟨"#friends", .multi, .reference⟩] }

/-- The store with the given scores; without any, with those of the example. -/
def store (given : List (Subject × Value)) : Except StoreFault Store :=
  (if given.isEmpty then scores else given).foldlM
    (fun s (subject, value) => s.set subject "#score" value) emptyStore

/-- A table in which the rows `root` and `high` both lead to the row `rest`. -/
def sharing : Table :=
  .ofRequired
    [["root", "#score", "gt", "50", "[high]", "[rest]"],
      ["rest", "#choice", "eq", "extra", "<urn:grade:good>", "#plain"],
      ["high", "#score", "gt", "90", "#best", "[rest]"]]

def spreadHeadings : List String :=
  ["Note", "True", "False", "Node ID", "Operand", "Operator", "Attribute"]

/-- The table `sharing` in another layout, with notes and with a row that nothing refers to. -/
def spread : Table :=
  ⟨spreadHeadings,
    [["", "[high]", "[rest]", "root", "50", "gt", "#score"],
      ["two grades", "#best", "[rest]", "high", "90", "gt", "#score"],
      ["", "[spare]", "7", "spare", "x", "about", "#rank"],
      ["", "<urn:grade:good>", "#plain", "rest", "extra", "eq", "#choice"]],
    by decide⟩

/-- A table whose row `peer` compares an attribute that has no order. -/
def unsuited : Table :=
  .ofRequired
    [["root", "#score", "gt", "50", "[peer]", "\"no\""],
      ["peer", "#friends", "eq", "bob", "\"yes\"", "\"no\""]]

/-- A table with several faults: the row `high` has an unknown attribute and an unknown operator, and
`root` refers to a row that is missing. -/
def faulty : Table :=
  .ofRequired
    [["root", "#score", "gt", "50", "[high]", "[gone]"],
      ["high", "#rank", "about", "90", "[low]", "[low]"],
      ["low", "#score", "gt", "10", "2", "3"]]

/-- A table of numbers in which a text stands below the root, next to a reference to a row of
numbers that is described before it. -/
def mixed : Table :=
  .ofRequired
    [["root", "#score", "gt", "50", "[high]", "[rest]"],
      ["rest", "#choice", "eq", "extra", "1", "2"],
      ["high", "#score", "gt", "90", "[rest]", "\"none\""]]

def singleRow (identifier operator operand onTrue onFalse id : String) : Table :=
  .ofRequired [[id, identifier, operator, operand, onTrue, onFalse]]

def chainId (i : Int) : String :=
  s!"n{i}"

/-- A row of a chain that leads to the next row. -/
def linkRow (identifier operand : String) (i : Nat) : List String :=
  [chainId i, identifier, "gt", operand, s!"[{chainId (i + 1)}]", "0"]

/-- The last row of a chain, which leads to an outcome. -/
def lastRow (identifier operand : String) (i : Int) : List String :=
  [chainId i, identifier, "gt", operand, "1", "0"]

/-- A chain of rows. A subject above the operand goes through all of them and gets 1; any other one
gets 0 at the first row. A chain has a last row whatever its length. -/
def chain (length : Int) (identifier operand : String) : Table :=
  .ofRequired
    ((List.range (length - 1).toNat).map (linkRow identifier operand)
      ++ [lastRow identifier operand (length - 1)])

end DecisionTable.Example
