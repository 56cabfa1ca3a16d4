import DecisionTable.Json.Basic
import DecisionTable.Text.Quoted

/-!
# Writing JSON

Documents are written on one line, with a space after each comma and colon and with ASCII characters
only: every other character is written by its code, in two surrogates if it lies beyond U+FFFF.
-/

namespace DecisionTable.Json

/-- A code escape of four hexadecimal digits. -/
def codeEscape (unit : Nat) : List Char :=
  '\\' :: 'u' :: (Text.hex 4 unit).toList

/-- How one character of a text is written. -/
def escapeChar (c : Char) : List Char :=
  if c == '"' || c == '\\' then ['\\', c]
  else if c == '\n' then ['\\', 'n']
  else if c == '\r' then ['\\', 'r']
  else if c == '\t' then ['\\', 't']
  else if c == '\x0c' then ['\\', 'f']
  else if c == '\x08' then ['\\', 'b']
  else if ' ' ≤ c && c ≤ '~' then [c]
  else if c.toNat < 0x10000 then codeEscape c.toNat
  else
    let offset := c.toNat - 0x10000
    codeEscape (0xD800 + offset / 0x400) ++ codeEscape (0xDC00 + offset % 0x400)

def printText (s : String) : String :=
  String.ofList ('"' :: (s.toList.flatMap escapeChar ++ ['"']))

mutual

def print : Json → String
  | .null => "null"
  | .bool b => if b then "true" else "false"
  | .number text => text
  | .nonNumber text => text
  | .string s => printText s
  | .array items => "[" ++ ", ".intercalate (printItems items) ++ "]"
  | .object members => "\x7b" ++ ", ".intercalate (printMembers members) ++ "\x7d"

/-- Writes each of several documents. -/
def printItems : List Json → List String
  | [] => []
  | item :: rest => print item :: printItems rest

/-- Writes each of several members. -/
def printMembers : List (String × Json) → List String
  | [] => []
  | (name, value) :: rest => (printText name ++ ": " ++ print value) :: printMembers rest

end

mutual

/-- The document with the members of every object in the order of their names. -/
def sortMembers : Json → Json
  | .array items => .array (sortEach items)
  | .object members =>
    .object ((sortEachMember members).mergeSort fun a b => decide (a.1 ≤ b.1))
  | value => value

/-- Sorts the members within each of several documents. -/
def sortEach : List Json → List Json
  | [] => []
  | item :: rest => sortMembers item :: sortEach rest

/-- Sorts the members within the document of each of several members. -/
def sortEachMember : List (String × Json) → List (String × Json)
  | [] => []
  | (name, value) :: rest => (name, sortMembers value) :: sortEachMember rest

end

mutual

/-- The document as a cell of a table shows it when it stands inside another document. -/
def nestedText : Json → String
  | .null => "None"
  | .bool b => if b then "True" else "False"
  | .number text => Text.quoted text
  | .nonNumber text => text
  | .string s => Text.quoted s
  | .array items => "[" ++ Text.commaSeparated (nestedTexts items) ++ "]"
  | .object members => "\x7b" ++ Text.commaSeparated (nestedMembers members) ++ "\x7d"

/-- The texts of several documents inside another one. -/
def nestedTexts : List Json → List String
  | [] => []
  | item :: rest => nestedText item :: nestedTexts rest

/-- The texts of several members inside another document. -/
def nestedMembers : List (String × Json) → List String
  | [] => []
  | (name, value) :: rest => (Text.quoted name ++ ": " ++ nestedText value) :: nestedMembers rest

end

/-- The text of a document as a cell of a table; the absent value gives none. -/
def cellText? : Json → Option String
  | .null => none
  | .string s => some s
  | .number text => some text
  | value => some value.nestedText

end DecisionTable.Json
