import DecisionTable.Tree.Diagram

/-!
# Reading diagrams

A reader of the DOT language as far as diagrams of trees need it: one directed graph of statements
that end with semicolons. A node is there once it is named in a statement, however often that is.

In a quoted identifier a quote stands behind a backslash; any other character behind a backslash is
kept, and so is the backslash. The words of the language cannot be plain identifiers.
-/

namespace DecisionTable.Dot

inductive Token where
  /-- An identifier, plain or quoted. -/
  | name (s : String)
  | keyword (s : String)
  | arrow | openBrace | closeBrace | openBracket | closeBracket | equals | comma | semicolon
deriving DecidableEq, Repr

/-- The words of the language, which can be written in either case. -/
def keywords : List String :=
  ["node", "edge", "graph", "digraph", "subgraph", "strict"]

/-- What a run of letters, digits and underscores stands for. -/
def wordToken (cs : List Char) : Token :=
  let word := String.ofList (cs.map Char.toLower)
  if keywords.contains word then .keyword word else .name (String.ofList cs)

def symbol? : Char → Option Token
  | '{' => some .openBrace
  | '}' => some .closeBrace
  | '[' => some .openBracket
  | ']' => some .closeBracket
  | '=' => some .equals
  | ',' => some .comma
  | ';' => some .semicolon
  | _ => none

/-! ### Tokens -/

/-- Where a reader is. What it has read of an identifier is kept from the last character to the
first. -/
inductive Mode where
  | between
  | word (cs : List Char)
  | quoted (cs : List Char)
  /-- Behind a backslash. -/
  | escaped (cs : List Char)
  /-- Behind the first character of an arrow. -/
  | dash

def isWordStart (c : Char) : Bool :=
  Diagram.isNameStart c || 128 ≤ c.toNat

/-- Reads a character with which a token can begin. -/
def begin (found : List Token) (c : Char) : Option (Mode × List Token) :=
  if c.isWhitespace then some (.between, found)
  else if isWordStart c then some (.word [c], found)
  else if c == '"' then some (.quoted [], found)
  else if c == '-' then some (.dash, found)
  else (symbol? c).map fun t => (.between, t :: found)

/-- Reads a character. The tokens that have been found are kept from the last to the first. -/
def step : Mode × List Token → Char → Option (Mode × List Token)
  | (.between, found), c => begin found c
  | (.word cs, found), c =>
    if isWordStart c || c.isDigit then some (.word (c :: cs), found)
    else begin (wordToken cs.reverse :: found) c
  | (.quoted cs, found), c =>
    if c == '"' then some (.between, .name (String.ofList cs.reverse) :: found)
    else if c == '\\' then some (.escaped cs, found)
    else some (.quoted (c :: cs), found)
  | (.escaped cs, found), c =>
    if c == '"' then some (.quoted (c :: cs), found)
    else if c == '\n' then some (.quoted cs, found)
    else some (.quoted (c :: '\\' :: cs), found)
  | (.dash, found), c => if c == '>' then some (.between, .arrow :: found) else none

/-- The tokens of a text that does not end within one. -/
def tokens? (cs : List Char) : Option (List Token) :=
  match cs.foldlM step (.between, []) with
  | some (.between, found) => some found.reverse
  | _ => none

/-! ### Graphs -/

inductive Statement where
  | node (name : String) (attributes : List (String × String))
  | edge (source target : String) (attributes : List (String × String))
  /-- Attributes for all nodes, edges or graphs that follow. -/
  | defaults (attributes : List (String × String))

structure Edge where
  source : String
  target : String
  attributes : List (String × String)
deriving DecidableEq, Repr

structure Graph where
  /-- The nodes, in the order in which they are first named. -/
  nodes : List String
  edges : List Edge
deriving DecidableEq, Repr

/-- Reads attributes up to the closing bracket. -/
def attributes? : List Token → Option (List (String × String))
  | [.closeBracket] => some []
  | .name key :: .equals :: .name value :: .comma :: rest =>
    (attributes? rest).map ((key, value) :: ·)
  | .name key :: .equals :: .name value :: rest => (attributes? rest).map ((key, value) :: ·)
  | _ => none

/-- Reads a statement without its semicolon. -/
def statement? : List Token → Option Statement
  | .keyword word :: .openBracket :: rest =>
    if ["node", "edge", "graph"].contains word then (attributes? rest).map .defaults else none
  | .name source :: .arrow :: .name target :: .openBracket :: rest =>
    (attributes? rest).map (.edge source target)
  | .name name :: .openBracket :: rest => (attributes? rest).map (.node name)
  | _ => none

/-- Reads statements up to the closing brace; the tokens of one that has begun come from the last to
the first. -/
def statements? (begun : List Token) : List Token → Option (List Statement)
  | [.closeBrace] => if begun.isEmpty then some [] else none
  | .semicolon :: rest => do
    let s ← statement? begun.reverse
    let more ← statements? [] rest
    some (s :: more)
  | t :: rest => statements? (t :: begun) rest
  | [] => none

def Statement.names : Statement → List String
  | node name _ => [name]
  | edge source target _ => [source, target]
  | defaults _ => []

def Statement.edge? : Statement → Option Edge
  | edge source target attributes => some ⟨source, target, attributes⟩
  | _ => none

def Graph.ofStatements (statements : List Statement) : Graph :=
  ⟨(statements.flatMap Statement.names).eraseDups, statements.filterMap Statement.edge?⟩

/-- Reads a directed graph. -/
def read? (text : String) : Option Graph := do
  match ← tokens? text.toList with
  | .keyword "digraph" :: .name _ :: .openBrace :: rest =>
    (statements? [] rest).map Graph.ofStatements
  | _ => none

end DecisionTable.Dot
