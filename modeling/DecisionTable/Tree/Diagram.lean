import DecisionTable.Tree.Walk

/-!
# Diagrams of trees

A tree is drawn as a directed graph in the DOT language. Branches are diamonds and leaves are boxes,
and the edges are labelled with the outcome of the decision that they follow. A detailed diagram
also shows the decisions and the datatypes.

In a quoted text a backslash and a quote stand behind a backslash, and a line break is written as a
backslash with an `n`.
-/

namespace DecisionTable

/-- How much a diagram shows. -/
inductive DiagramMode where
  | simple
  | detailed
deriving DecidableEq, Repr

namespace DiagramMode

def name : DiagramMode → String
  | simple => "simple"
  | detailed => "detailed"

def ofName? (s : String) : Option DiagramMode :=
  [simple, detailed].find? (·.name == s)

end DiagramMode

namespace Diagram

/-- How one character is written in a quoted text. -/
def escapeChar (c : Char) : List Char :=
  if c == '\\' then ['\\', '\\']
  else if c == '"' then ['\\', '"']
  else if c == '\n' then ['\\', 'n']
  else [c]

/-- The characters of a quoted text, quotes included. -/
def quotedChars (cs : List Char) : List Char :=
  '"' :: (cs.flatMap escapeChar ++ ['"'])

def quoted (s : String) : String :=
  String.ofList (quotedChars s.toList)

/-- Whether a character may begin a plain name. -/
def isNameStart (c : Char) : Bool :=
  c.isAlpha || c == '_'

/-- Whether the characters are a plain name; a line break may follow it. -/
def isPlainName (cs : List Char) : Bool :=
  match Literal.dropLineBreak cs with
  | [] => false
  | c :: rest => isNameStart c && rest.all fun d => isNameStart d || d.isDigit

/-- The identifier of a node: its id, quoted unless it is a plain name. -/
def identifier (id : String) : String :=
  if isPlainName id.toList then id else quoted id

def label (mode : DiagramMode) : Node → String
  | .leaf _ l =>
    match mode with
    | .simple => l.value
    | .detailed => s!"{l.value}\n({l.type.name})"
  | .branch id d .. =>
    match mode with
    | .simple => id
    | .detailed => s!"{id}\n{d.text}"

def nodeLine (mode : DiagramMode) (n : Node) : String :=
  let form := if n.isLeaf then "shape=box, " else ""
  s!"  {identifier n.id} [{form}label={quoted (label mode n)}];"

/-- The statements of the edges that leave a node. -/
def edgeLines : Node → List String
  | .leaf .. => []
  | .branch id _ t f =>
    [s!"  {identifier id} -> {identifier t.id} [label=\"true\"];",
      s!"  {identifier id} -> {identifier f.id} [label=\"false\"];"]

/-- The first lines of a diagram. -/
def header : List String :=
  ["digraph decision_tree \x7b",
    "  node [shape=diamond, fontname=\"Helvetica\"];",
    "  edge [fontname=\"Helvetica\"];"]

end Diagram

def Tree.diagram (t : Tree) (mode : DiagramMode) : String :=
  let nodes := t.nodes
  "\n".intercalate
    (Diagram.header ++ nodes.map (Diagram.nodeLine mode) ++ nodes.flatMap Diagram.edgeLines
      ++ ["\x7d"])

end DecisionTable
