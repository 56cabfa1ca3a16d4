import DecisionTable.Text.Quoted
import DecisionTable.Yaml.Style

/-!
# Writing YAML

A document is written in blocks: each item of a list behind a dash, each part behind its name. A
list that is a part is not indented further, and empty lists and objects are written in brackets. A
scalar goes on in a new line at a single space once the line has passed 80 characters.

The writer stands for a general one of YAML. No theorem rests on it.
-/

namespace DecisionTable.Yaml

/-- The column behind which a scalar goes on in a new line. -/
def width : Nat := 80

/-- The text that has been written. -/
structure Page where
  text : String := ""
  /-- The number of characters in its last line. -/
  column : Nat := 0
  /-- Whether the last line holds nothing but spaces and indicators. -/
  indented : Bool := true

namespace Page

/-- Adds characters to the line. -/
def put (cs : List Char) (p : Page) : Page :=
  ⟨p.text ++ String.ofList cs, p.column + cs.length, false⟩

/-- Adds an indicator, behind which a block may begin in the same line. -/
def putIndicator (cs : List Char) (p : Page) : Page :=
  { p.put cs with indented := p.indented }

/-- Adds spaces up to a column. -/
def pad (column : Nat) (p : Page) : Page :=
  p.putIndicator (List.replicate (column - p.column) ' ')

def endLine (p : Page) : Page :=
  ⟨p.text ++ "\n", 0, true⟩

def startLine (column : Nat) (p : Page) : Page :=
  p.endLine.pad column

/-- Goes to a column, in this line if it holds nothing but indicators. -/
def goTo (column : Nat) (p : Page) : Page :=
  if p.indented then p.pad column else p.startLine column

/-! ### Scalars -/

/-- Adds a run of spaces. A single space is a place where a long line can be broken. -/
def putSpaces (fold : Bool) (indent : Nat) (run : List Char) (p : Page) : Page :=
  if fold && run.length == 1 && p.column > width then p.startLine indent else p.put run

/-- The runs of spaces, of line breaks and of other characters. -/
def runs (cs : List Char) : List (List Char) :=
  cs.splitBy fun a b => (a == ' ') == (b == ' ') && (a == '\n') == (b == '\n')

def putPlain (fold : Bool) (indent : Nat) (cs : List Char) (p : Page) : Page :=
  (runs cs).foldl
    (fun p run => if run.contains ' ' then p.putSpaces fold indent run else p.put run) p

/-- Adds the runs of a scalar between single quotes. A quote is written twice, and line breaks are
preceded by one more. The line is not broken at the spaces that begin or end the scalar. -/
def putSingleRuns (fold : Bool) (indent : Nat) : Bool → List (List Char) → Page → Page
  | _, [], p => p
  | first, run :: rest, p =>
    let inside := !first && !rest.isEmpty
    let p :=
      if run.contains ' ' then p.putSpaces (fold && inside) indent run
      else if run.contains '\n' then (run.foldl (fun p _ => p.endLine) p.endLine).pad indent
      else p.put (run.flatMap fun c => if c == '\'' then ['\'', '\''] else [c])
    putSingleRuns fold indent false rest p

/-- The upper-case hexadecimal digits of a number. -/
def upperHex (width n : Nat) : List Char :=
  (Text.hex width n).toList.map Char.toUpper

/-- The letter behind a backslash that stands for a character. -/
def escapeLetter? (c : Char) : Option Char :=
  [('\x00', '0'), ('\x07', 'a'), ('\x08', 'b'), ('\t', 't'), ('\n', 'n'), ('\x0b', 'v'),
   ('\x0c', 'f'), ('\r', 'r'), ('\x1b', 'e'), ('"', '"'), ('\\', '\\'), ('\x85', 'N'),
   ('\xa0', '_'), ('\u2028', 'L'), ('\u2029', 'P')].lookup c

/-- How a character is escaped between double quotes; one that is shown as it is has no escape. -/
def escape? (c : Char) : Option (List Char) :=
  match escapeLetter? c with
  | some letter => some ['\\', letter]
  | none =>
    if isShown c then none
    else if c.toNat < 0x100 then some ('\\' :: 'x' :: upperHex 2 c.toNat)
    else if c.toNat < 0x10000 then some ('\\' :: 'u' :: upperHex 4 c.toNat)
    else some ('\\' :: 'U' :: upperHex 8 c.toNat)

/-- Breaks the line inside double quotes behind a backslash. A space that follows has one, too. -/
def breakDouble (indent : Nat) (next : Option Char) (p : Page) : Page :=
  let p := (p.put ['\\']).startLine indent
  if next == some ' ' then p.put ['\\'] else p

/-- Adds the characters of a scalar between double quotes, those of `pending` backwards before them.
The line can be broken at a space and beside an escape, but not before the second or last
character. -/
def putDoubleChars (fold : Bool) (indent : Nat) : Bool → List Char → List Char → Page → Page
  | _, pending, [], p => p.put pending.reverse
  | first, pending, c :: rest, p =>
    let inside := !first && !rest.isEmpty
    match escape? c with
    | some e =>
      let p := (p.put pending.reverse).put e
      let p := if fold && inside && p.column > width + 1 then p.breakDouble indent rest.head? else p
      putDoubleChars fold indent false [] rest p
    | none =>
      if fold && inside && (c == ' ' || pending.isEmpty) && p.column + pending.length > width then
        putDoubleChars fold indent false [c] rest
          ((p.put pending.reverse).breakDouble indent (some c))
      else putDoubleChars fold indent false (c :: pending) rest p

/-- Adds a scalar; its further lines begin at a column. -/
def putScalar (fold : Bool) (indent : Nat) (cs : List Char) (p : Page) : Page :=
  match styleOf cs with
  | .plain => p.putPlain fold indent cs
  | .single => (putSingleRuns fold indent true (runs cs) (p.put ['\''])).put ['\'']
  | .double => (putDoubleChars fold indent true [] cs (p.put ['"'])).put ['"']

end Page

/-! ### Documents -/

/-- The text of a document that is neither a list nor an object. -/
def scalarText : Json → String
  | .string s => s
  | .null => "null"
  | .bool b => if b then "true" else "false"
  | .number text => text
  | .nonNumber text => text
  | .array _ => ""
  | .object _ => ""

open Page

mutual

/-- Writes a document behind an indicator, in a block at the given column. -/
def writeNode (column : Nat) (isPart : Bool) (p : Page) : Json → Page
  | .string s => (p.put [' ']).putScalar true (column + 2) s.toList
  | .array [] => p.put " []".toList
  | .array items => writeItems (if isPart && !p.indented then column else column + 2) p items
  | .object [] => p.put " \x7b\x7d".toList
  | .object members => writeMembers (column + 2) p members
  | j => p.put (' ' :: (scalarText j).toList)

def writeItems (column : Nat) (p : Page) : List Json → Page
  | [] => p
  | item :: rest =>
    writeItems column (writeNode column false ((p.goTo column).putIndicator ['-']) item) rest

def writeMembers (column : Nat) (p : Page) : List (String × Json) → Page
  | [] => p
  | (name, j) :: rest =>
    let cs := name.toList
    let p := p.goTo column
    let p :=
      if isSimpleKey cs then (p.putScalar false column cs).put [':']
      else
        let p := ((p.putIndicator ['?']).put [' ']).putScalar true (column + 2) cs
        (p.goTo column).putIndicator [':']
    writeMembers column (writeNode column true p j) rest

end

def write (j : Json) : String :=
  let p : Page := match j with
    | .array [] => Page.put "[]".toList {}
    | .array items => writeItems 0 {} items
    | .object [] => Page.put "\x7b\x7d".toList {}
    | .object members => writeMembers 0 {} members
    | j => Page.putScalar true 2 (scalarText j).toList {}
  p.endLine.text

end DecisionTable.Yaml
