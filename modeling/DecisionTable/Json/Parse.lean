import DecisionTable.Json.Basic

/-!
# Reading JSON

The reader accepts the JSON grammar and the names `NaN`, `Infinity` and `-Infinity`. It reports the
first place where the text cannot go on, with the character that was looked for there; a fault in a
text or an escape is reported at the place where that text or escape begins.
-/

namespace DecisionTable.Json

/-- What is wrong with a text that is no JSON document. -/
inductive Cause where
  | value
  /-- A comma or the closing bracket has to stand here. -/
  | comma
  | colon
  /-- A quoted member name has to stand here. -/
  | name
  /-- The text that begins here does not end. -/
  | unterminated
  /-- A control character stands in a text. -/
  | control
  /-- A backslash is followed by an unknown letter. -/
  | escape
  /-- A code escape does not have four hexadecimal digits. -/
  | code
  /-- The document has ended, and something follows. -/
  | extra
  /-- The text begins with a byte order mark. -/
  | mark
deriving DecidableEq, Repr

/-- A place in a text and what is wrong there. -/
structure Fault where
  cause : Cause
  line : Nat
  column : Nat
  /-- The number of characters before the place. -/
  position : Nat
deriving DecidableEq, Repr

/-- A fault as the reader meets it: the characters from the place on. -/
abbrev Stop := Cause × List Char

/-- The result of reading something: what was read and the characters that follow. -/
abbrev Reading (α : Type) := Except Stop (α × List Char)

/-- Whether a character may stand between two parts of a document. -/
def isSpace (c : Char) : Bool :=
  c == ' ' || c == '\t' || c == '\n' || c == '\r'

/-- The characters from the first one that is no space. -/
def skipSpace (cs : List Char) : List Char :=
  cs.dropWhile isSpace

/-! ### Texts -/

def hexValue? (c : Char) : Option Nat :=
  if '0' ≤ c && c ≤ '9' then some (c.toNat - 48)
  else if 'a' ≤ c && c ≤ 'f' then some (c.toNat - 87)
  else if 'A' ≤ c && c ≤ 'F' then some (c.toNat - 55)
  else none

/-- The number that four hexadecimal digits denote, if four stand at the front and something follows
them. -/
def codeUnit? : List Char → Option (Nat × List Char)
  | a :: b :: c :: d :: next :: rest => do
    let high := 16 * (← hexValue? a) + (← hexValue? b)
    let low := 16 * (← hexValue? c) + (← hexValue? d)
    some (256 * high + low, next :: rest)
  | _ => none

/-- The character that a letter behind a backslash stands for. -/
def escaped? : Char → Option Char
  | '"' => some '"'
  | '\\' => some '\\'
  | '/' => some '/'
  | 'b' => some '\x08'
  | 'f' => some '\x0c'
  | 'n' => some '\n'
  | 'r' => some '\r'
  | 't' => some '\t'
  | _ => none

/-- The character of two surrogate code units. -/
def ofSurrogates (high low : Nat) : Char :=
  Char.ofNat (0x10000 + (high - 0xD800) * 0x400 + (low - 0xDC00))

/-- The character of a code unit; a surrogate that stands alone has none and is replaced. -/
def ofUnit (unit : Nat) : Char :=
  if 0xD800 ≤ unit && unit < 0xE000 then Char.ofNat 0xFFFD else Char.ofNat unit

/-- A character given by its code behind `\u`, a pair of surrogates being one character. -/
def readCode (cs : List Char) : Reading Char :=
  match codeUnit? cs with
  | none => .error (.code, cs)
  | some (high, rest) =>
    if 0xD800 ≤ high && high < 0xDC00 then
      match rest with
      | '\\' :: 'u' :: second =>
        -- a pair is only looked for if something follows its second half
        if second.length ≤ 4 then .ok (ofUnit high, rest)
        else match codeUnit? second with
          | none => .error (.code, second)
          | some (low, after) =>
            if 0xDC00 ≤ low && low < 0xE000 then .ok (ofSurrogates high low, after)
            else .ok (ofUnit high, rest)
      | _ => .ok (ofUnit high, rest)
    else .ok (ofUnit high, rest)

/-- A text from behind its opening quote, which stands at the front of `start`. -/
def readText (start : List Char) : Nat → List Char → List Char → Reading String
  | 0, _, _ => .error (.unterminated, start)
  | _, _, [] => .error (.unterminated, start)
  | fuel + 1, done, c :: rest =>
    if c == '"' then .ok (String.ofList done.reverse, rest)
    else if c.toNat < 0x20 then .error (.control, c :: rest)
    else if c == '\\' then
      match rest with
      | [] => .error (.unterminated, start)
      | 'u' :: digits =>
        match readCode digits with
        | .ok (d, after) => readText start fuel (d :: done) after
        | .error e => .error e
      | letter :: after =>
        match escaped? letter with
        | some d => readText start fuel (d :: done) after
        | none => .error (.escape, c :: rest)
    else readText start fuel (c :: done) rest

/-! ### Numbers -/

/-- Splits the ASCII digits off the front. -/
def spanDigits (cs : List Char) : List Char × List Char :=
  (cs.takeWhile Char.isDigit, cs.dropWhile Char.isDigit)

/-- The point and the digits after it, if both are there. -/
def splitFraction (cs : List Char) : List Char × List Char :=
  match cs with
  | '.' :: rest =>
    let (digits, after) := spanDigits rest
    if digits.isEmpty then ([], cs) else ('.' :: digits, after)
  | _ => ([], cs)

/-- The exponent mark, its sign and its digits, if there is a digit. -/
def splitExponent (cs : List Char) : List Char × List Char :=
  match cs with
  | mark :: rest =>
    if mark == 'e' || mark == 'E' then
      let (sign, body) := match rest with
        | '+' :: r => (['+'], r)
        | '-' :: r => (['-'], r)
        | r => ([], r)
      let (digits, after) := spanDigits body
      if digits.isEmpty then ([], cs) else (mark :: sign ++ digits, after)
    else ([], cs)
  | [] => ([], cs)

/-- The text of a number at the front: no digit stands before a leading zero's point. -/
def splitNumber? (cs : List Char) : Option (List Char × List Char) :=
  let (sign, body) := match cs with
    | '-' :: r => (['-'], r)
    | r => ([], r)
  let whole? := match body with
    | '0' :: r => some (['0'], r)
    | c :: _ => if c.isDigit then some (spanDigits body) else none
    | [] => none
  whole?.map fun (whole, afterWhole) =>
    let (fraction, afterFraction) := splitFraction afterWhole
    let (exponent, rest) := splitExponent afterFraction
    (sign ++ whole ++ fraction ++ exponent, rest)

/-! ### Documents -/

/-- The names that stand for a document, with the document. -/
def constants : List (List Char × Json) :=
  [("null".toList, .null), ("true".toList, .bool true), ("false".toList, .bool false),
   ("NaN".toList, .nonNumber "nan"), ("Infinity".toList, .nonNumber "inf"),
   ("-Infinity".toList, .nonNumber "-inf")]

/-- A name or a number at the front. -/
def readAtom (cs : List Char) : Reading Json :=
  match constants.find? fun k => k.1.isPrefixOf cs with
  | some (name, value) => .ok (value, cs.drop name.length)
  | none =>
    match splitNumber? cs with
    | some (digits, rest) => .ok (.number (String.ofList digits), rest)
    | none => .error (.value, cs)

mutual

/-- A document at the front. -/
def readValue : Nat → List Char → Reading Json
  | 0, cs => .error (.value, cs)
  | fuel + 1, cs =>
    match cs with
    | '"' :: rest =>
      match readText cs (rest.length + 1) [] rest with
      | .ok (s, after) => .ok (.string s, after)
      | .error e => .error e
    | '[' :: rest =>
      match skipSpace rest with
      | ']' :: after => .ok (.array [], after)
      | first => readItems fuel [] first
    | '{' :: rest =>
      match skipSpace rest with
      | '}' :: after => .ok (.object [], after)
      | first => readMembers fuel [] first
    | _ => readAtom cs

/-- The documents of a list from the next one on. -/
def readItems : Nat → List Json → List Char → Reading Json
  | 0, _, cs => .error (.value, cs)
  | fuel + 1, done, cs =>
    match readValue fuel cs with
    | .error e => .error e
    | .ok (item, rest) =>
      match skipSpace rest with
      | ',' :: after => readItems fuel (item :: done) (skipSpace after)
      | ']' :: after => .ok (.array (item :: done).reverse, after)
      | here => .error (.comma, here)

/-- The members of an object from the next one on. -/
def readMembers : Nat → List (String × Json) → List Char → Reading Json
  | 0, _, cs => .error (.name, cs)
  | fuel + 1, done, cs =>
    match cs with
    | '"' :: rest =>
      match readText cs (rest.length + 1) [] rest with
      | .error e => .error e
      | .ok (name, afterName) =>
        match skipSpace afterName with
        | ':' :: afterColon =>
          match readValue fuel (skipSpace afterColon) with
          | .error e => .error e
          | .ok (value, afterValue) =>
            let members := insertMember done name value
            match skipSpace afterValue with
            | ',' :: after => readMembers fuel members (skipSpace after)
            | '}' :: after => .ok (.object members, after)
            | here => .error (.comma, here)
        | here => .error (.colon, here)
    | _ => .error (.name, cs)

end

def faultAt (text : List Char) (cause : Cause) (rest : List Char) : Fault :=
  let position := text.length - rest.length
  let before := text.take position
  let lineStart := (before.reverse.takeWhile (· != '\n')).length
  ⟨cause, before.count '\n' + 1, lineStart + 1, position⟩

/-- Reads the document that a text holds. -/
def parse (s : String) : Except Fault Json :=
  let text := s.toList
  match text with
  | '\uFEFF' :: _ => .error (faultAt text .mark text)
  | _ =>
    match readValue (2 * text.length + 1) (skipSpace text) with
    | .error (.code, digits) =>
      -- the place of a code escape is the letter before its digits
      .error (faultAt text .code ('u' :: digits))
    | .error (cause, rest) => .error (faultAt text cause rest)
    | .ok (value, after) =>
      match skipSpace after with
      | [] => .ok value
      | rest => .error (faultAt text .extra rest)

def Cause.message : Cause → String
  | .value => "Expecting value"
  | .comma => "Expecting ',' delimiter"
  | .colon => "Expecting ':' delimiter"
  | .name => "Expecting property name enclosed in double quotes"
  | .unterminated => "Unterminated string starting at"
  | .control => "Invalid control character at"
  | .escape => "Invalid \\escape"
  | .code => "Invalid \\uXXXX escape"
  | .extra => "Extra data"
  | .mark => "Unexpected UTF-8 BOM (decode using utf-8-sig)"

/-- What is wrong and where. -/
def Fault.message (f : Fault) : String :=
  s!"{f.cause.message}: line {f.line} column {f.column} (char {f.position})"

end DecisionTable.Json
