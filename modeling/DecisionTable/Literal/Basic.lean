import DecisionTable.Value.Read

/-!
# Outcome literals

The datatype of an outcome is never declared: it shows in the way the outcome is written.

* `"text"` is a string and `<uri>` a URI; the marks at their ends do not belong to the value.
* `#name` is a URI as well, relative to the base URI.
* Digits with an optional sign are an integer, and with an `L` behind them a long one.
* Digits with a fraction and an optional exponent are a double, and with an `F` behind them a float.
* Any other text has no type of its own.

A numeral may be followed by one line break.
-/

namespace DecisionTable

inductive LiteralType where
  | string | uri | int | long | double | float | anySimple
deriving DecidableEq, Repr

namespace LiteralType

def all : List LiteralType :=
  [string, uri, int, long, double, float, anySimple]

/-- The name of a datatype in XML Schema. -/
def name : LiteralType → String
  | string => "xsd:string"
  | uri => "xsd:anyURI"
  | int => "xsd:int"
  | long => "xsd:long"
  | double => "xsd:double"
  | float => "xsd:float"
  | anySimple => "xsd:anySimpleType"

def ofName? (s : String) : Option LiteralType :=
  all.find? (·.name == s)

end LiteralType

/-- An outcome: its datatype and its text without the marks of the datatype. -/
structure TypedLiteral where
  type : LiteralType
  value : String
deriving DecidableEq, Repr

namespace Literal

/-! ### Forms of outcomes -/

/-- Whether a text of two characters or more begins and ends with the given marks. -/
def isWrapped (opening closing : Char) (cs : List Char) : Bool :=
  2 ≤ cs.length && cs.head? == some opening && cs.getLast? == some closing

/-- The characters without one line break at their end. -/
def dropLineBreak (cs : List Char) : List Char :=
  if cs.getLast? == some '\n' then cs.dropLast else cs

theorem dropLineBreak_cases (cs : List Char) :
    dropLineBreak cs = cs ∨ cs = dropLineBreak cs ++ ['\n'] := by
  unfold dropLineBreak
  split
  · rename_i hlast
    obtain ⟨core, rfl⟩ := List.getLast?_eq_some_iff.mp (eq_of_beq hlast)
    rw [List.dropLast_concat]
    exact Or.inr rfl
  · exact Or.inl rfl

/-- What is dropped is one line break or nothing. -/
theorem exists_lineBreak (cs : List Char) :
    ∃ tail, (tail = [] ∨ tail = ['\n']) ∧ cs = dropLineBreak cs ++ tail := by
  rcases dropLineBreak_cases cs with hsame | hbreak
  · exact ⟨[], Or.inl rfl, by rw [List.append_nil, hsame]⟩
  · exact ⟨['\n'], Or.inr rfl, hbreak⟩

def isDigits (cs : List Char) : Bool :=
  !cs.isEmpty && cs.all Text.isDigit

/-- Whether the characters are digits with an optional sign. -/
def isInteger (cs : List Char) : Bool :=
  isDigits (splitSign cs).2

/-- Whether the characters are an exponent, or none are left. -/
def isExponent : List Char → Bool
  | [] => true
  | mark :: rest => (mark == 'e' || mark == 'E') && isInteger rest

/-- Whether the characters are digits, a point, digits and an optional exponent, with an optional
sign in front. -/
def isFractional (cs : List Char) : Bool :=
  let body := (splitSign cs).2
  match body.dropWhile Text.isDigit with
  | '.' :: rest =>
    isDigits (body.takeWhile Text.isDigit) && isDigits (rest.takeWhile Text.isDigit)
      && isExponent (rest.dropWhile Text.isDigit)
  | _ => false

/-- Whether the characters end in a mark, and those before it have the given form. -/
def isMarked (mark : Char) (form : List Char → Bool) (cs : List Char) : Bool :=
  cs.getLast? == some mark && form cs.dropLast

/-- The datatype of a numeral; a text that is no numeral has no type of its own. -/
def numeralType (cs : List Char) : LiteralType :=
  if isInteger cs then .int
  else if isMarked 'L' isInteger cs then .long
  else if isFractional cs then .double
  else if isMarked 'F' isFractional cs then .float
  else .anySimple

/-- The datatype that shows in the characters of an outcome. -/
def typeOfChars (cs : List Char) : LiteralType :=
  if isWrapped '"' '"' cs then .string
  else if isWrapped '<' '>' cs then .uri
  else if cs.head? == some '#' then .uri
  else numeralType (dropLineBreak cs)

/-- The datatype that shows in the text of an outcome. -/
def inferType (text : String) : LiteralType :=
  typeOfChars text.toList

/-! ### Reading and writing -/

/-- The characters between the first and the last one. -/
def inner (cs : List Char) : List Char :=
  cs.tail.dropLast

/-- The value of an outcome of the given datatype. -/
def valueOf (type : LiteralType) (text baseUri : String) : String :=
  match type with
  | .string => String.ofList (inner text.toList)
  | .uri =>
    if text.toList.head? == some '#' then baseUri ++ text else String.ofList (inner text.toList)
  | _ => text

/-- Reads an outcome; names that begin with `#` are taken relative to the base URI. -/
def parse (text baseUri : String) : TypedLiteral :=
  let type := inferType text
  ⟨type, valueOf type text baseUri⟩

end Literal

namespace TypedLiteral

/-- Writes an outcome with the marks of its datatype. A URI is written in full, so that reading it
does not depend on a base URI. -/
def cell (l : TypedLiteral) : String :=
  match l.type with
  | .string => "\"" ++ l.value ++ "\""
  | .uri => "<" ++ l.value ++ ">"
  | _ => l.value

/-- The text without its last character. -/
def dropMark (s : String) : String :=
  String.ofList s.toList.dropLast

/-- The value of an outcome: a number for the numeric datatypes and a text for the others. -/
def toValue (l : TypedLiteral) : Except ValueFault Value :=
  match l.type with
  | .int => (readIntegerValue l.value).map .int
  | .long => (readIntegerValue (dropMark l.value)).map .int
  | .double => (readFloatValue l.value).map .float
  | .float => (readFloatValue (dropMark l.value)).map .float
  | _ => .ok (.text l.value)

end TypedLiteral

end DecisionTable
