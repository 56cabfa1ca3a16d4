import DecisionTable.Number.Binary64
import DecisionTable.Text.Quoted

/-!
# Values

The values that subjects have for attributes, and their texts. A value has two texts: the plain one,
which is what patterns and lists of alternatives see, and the quoted one, which shows the kind of
the value as well and is used inside lists.
-/

namespace DecisionTable

/-- A day of the calendar. -/
structure Date where
  year : Nat
  month : Nat
  /-- The day of the month, from one. -/
  day : Nat
deriving DecidableEq, Repr

/-- A value of an attribute. -/
inductive Value where
  | null
  | bool (b : Bool)
  | int (n : Int)
  | float (x : Binary64)
  | decimal (d : Decimal)
  | text (s : String)
  | date (d : Date)
  | bytes (l : List UInt8)
  | list (items : List Value)
  /-- The values of a multi-valued attribute, taken together. -/
  | group (items : List Value)
deriving Inhabited

inductive ValueKind where
  | null | bool | int | float | decimal | text | date | bytes | list | group
deriving DecidableEq, Repr

/-- Why an operation on values fails. -/
inductive ValueFault where
  | notInteger (text : String)
  /-- The text begins with more digits than are converted to an integer. -/
  | integerTooLong (digits : Nat)
  /-- The integer has more digits than are converted to text. -/
  | integerTextTooLong
  | notFloat (text : String)
  | notBoolean (text : String)
  | notOfKind (text : String) (kind : ValueKind)
  /-- Values of the two kinds have no order. -/
  | unordered (left right : ValueKind)
  /-- The values of a multi-valued attribute have no order. -/
  | manyUnordered (identifier : String)
  /-- A value that has no items was given for several values. -/
  | notIterable (kind : ValueKind)
  /-- A text or a byte string was given for the values of a multi-valued attribute. -/
  | severalNeeded (identifier : String)
  /-- A decimal that is no number was compared. -/
  | undefinedComparison
deriving DecidableEq, Repr

def Value.kind : Value → ValueKind
  | .null => .null
  | .bool _ => .bool
  | .int _ => .int
  | .float _ => .float
  | .decimal _ => .decimal
  | .text _ => .text
  | .date _ => .date
  | .bytes _ => .bytes
  | .list _ => .list
  | .group _ => .group

def ValueKind.name : ValueKind → String
  | .null => "NoneType"
  | .bool => "bool"
  | .int => "int"
  | .float => "float"
  | .decimal => "Decimal"
  | .text => "str"
  | .date => "date"
  | .bytes => "bytes"
  | .list => "list"
  | .group => "tuple"

/-- The name of a kind with the family that it belongs to. -/
def ValueKind.fullName : ValueKind → String
  | .decimal => "decimal.Decimal"
  | .date => "datetime.date"
  | kind => kind.name

def ValueFault.message : ValueFault → String
  | .notInteger text =>
    let shown := (Text.quoted text).take 200
    s!"invalid literal for int() with base 10: {shown}"
  | .integerTooLong digits => longNumeralMessage digits
  | .integerTextTooLong =>
    s!"Exceeds the limit ({maxIntegerDigits} digits) for integer string conversion; "
      ++ "use sys.set_int_max_str_digits() to increase the limit"
  | .notFloat text => s!"could not convert string to float: {Text.quoted text}"
  | .notBoolean text => s!"'{text}' is not a boolean"
  | .notOfKind text kind => s!"'{text}' is not a {kind.name}"
  | .unordered left right =>
    s!"'>' not supported between instances of '{left.fullName}' and '{right.fullName}'"
  | .manyUnordered identifier => s!"Multi-valued attribute '{identifier}' has no ordering"
  | .notIterable kind => s!"'{kind.fullName}' object is not iterable"
  | .severalNeeded identifier =>
    s!"Multi-valued attribute '{identifier}' needs an iterable of values"
  | .undefinedComparison => "[<class 'decimal.InvalidOperation'>]"

/-- The text of a day: four digits for the year, two for the month and two for the day. -/
def Date.text (d : Date) : String :=
  s!"{Text.zeroPadded 4 d.year}-{Text.zeroPadded 2 d.month}-{Text.zeroPadded 2 d.day}"

/-- The text of an integer, if it is short enough. -/
def integerText (n : Int) : Except ValueFault String :=
  match integerText? n with
  | some s => .ok s
  | none => .error .integerTextTooLong

namespace Value

mutual

def quoted : Value → Except ValueFault String
  | .null => .ok "None"
  | .bool b => .ok (if b then "True" else "False")
  | .int n => integerText n
  | .float x => .ok x.text
  | .decimal d => .ok s!"Decimal('{d.text}')"
  | .text s => .ok (Text.quoted s)
  | .date d => .ok s!"datetime.date({d.year}, {d.month}, {d.day})"
  | .bytes l => .ok (Text.quotedBytes l)
  | .list items => do
    let texts ← quotedEach items
    .ok ("[" ++ Text.commaSeparated texts ++ "]")
  | .group items => do
    let texts ← quotedEach items
    let comma := if texts.length == 1 then "," else ""
    .ok ("(" ++ Text.commaSeparated texts ++ comma ++ ")")

def quotedEach : List Value → Except ValueFault (List String)
  | [] => .ok []
  | v :: rest => do
    let s ← quoted v
    let texts ← quotedEach rest
    .ok (s :: texts)

end

/-- The text of a value outside a list. -/
def shown : Value → Except ValueFault String
  | .text s => .ok s
  | .decimal d => .ok d.text
  | .date d => .ok d.text
  | v => v.quoted

/-- The plain text of a value: truth values are written in lower case. -/
def plain : Value → Except ValueFault String
  | .bool b => .ok (if b then "true" else "false")
  | v => v.shown

/-- The text of a value as a cell of a table; the absent value gives none. -/
def cellText? : Value → Except ValueFault (Option String)
  | .null => .ok none
  | v => v.shown.map some

end Value

end DecisionTable
