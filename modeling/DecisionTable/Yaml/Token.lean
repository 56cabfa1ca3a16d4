import DecisionTable.Text.Utf8
import DecisionTable.Yaml.Scalar

/-!
# Tokens of a YAML text

A text is cut into tokens, and its indentation is made explicit: a block that begins or ends has a
token of its own. A key that is not marked shows only by the colon behind it, so the place of every
token that may be such a key is kept until the line ends, and the token of the key is put there
later.

This is a part of the reader that stands for a general one of YAML. No theorem rests on it.
-/

namespace DecisionTable.Yaml

inductive Token where
  /-- A directive on the version, by its first number. -/
  | versionDirective (major : Nat)
  | handleDirective (name : String)
  | otherDirective
  | documentStart
  | documentEnd
  | sequenceStart
  /-- A block of keys and values begins. -/
  | mappingStart
  | blockEnd
  /-- The dash before an entry of a block. -/
  | entry
  | squareOpen
  | squareClose
  | braceOpen
  | braceClose
  | comma
  | key
  | value
  /-- A name is given to the node that follows. -/
  | anchor (name : String)
  /-- The node of a name stands here. -/
  | reference (name : String)
  /-- A tag, by its handle if it has one. -/
  | tag (handle : Option String)
  | scalar (text : String)
deriving DecidableEq, Repr

namespace Token

/-! ### Names, tags and directives -/

/-- The name of an anchor or alias, from behind its indicator. -/
def readName? (c : Cursor) : Option (String × Cursor) :=
  let (name, after) := c.span isNameChar
  if name.isEmpty then none
  else if endsWord after.rest || after.at? "?:,]\x7d%@\x60".toList.contains then
    some (String.ofList name, after)
  else none

/-- Whether a character may stand in a tag as it is. -/
def isTagChar (c : Char) : Bool :=
  c.isAlphanum || "-;/?:@&=+$,_.!~*'()[]".toList.contains c

/-- The bytes of the escapes at the front, each of two hexadecimal digits behind a percent sign, and
the number of escapes. -/
def escapedBytes? : List Char → Option (List UInt8 × Nat)
  | '%' :: a :: b :: rest => do
    let high ← Json.hexValue? a
    let low ← Json.hexValue? b
    let (bytes, n) ← escapedBytes? rest
    some (UInt8.ofNat (16 * high + low) :: bytes, n + 1)
  | '%' :: _ => none
  | _ => some ([], 0)

/-- The place after the characters of a tag, `begun` telling whether there have been any. Escapes
that stand together have to be the bytes of characters. -/
def skipTagChars? : Nat → Bool → Cursor → Option Cursor
  | 0, _, _ => none
  | fuel + 1, begun, c =>
    let (taken, c) := c.span isTagChar
    let begun := begun || !taken.isEmpty
    if c.isAt '%' then do
      let (bytes, n) ← escapedBytes? c.rest
      match Text.ofUtf8 bytes with
      | .ok _ => skipTagChars? fuel true (c.advance (3 * n))
      | .error _ => none
    else if begun then some c else none

/-- The place after the characters of a tag. -/
def skipTag? (c : Cursor) : Option Cursor :=
  skipTagChars? (c.rest.length + 1) false c

/-- A tag handle: a name between exclamation marks, or one mark alone. -/
def readHandle? (c : Cursor) : Option (String × Cursor) :=
  if !c.isAt '!' then none
  else if c.next.isAt ' ' then some ("!", c.next)
  else
    let (name, after) := c.next.span isNameChar
    if after.isAt '!' then some (String.ofList ('!' :: name ++ ['!']), after.next) else none

/-- Whether a tag or directive may end here. -/
def endsProperty (c : Cursor) : Bool :=
  c.rest.isEmpty || c.at? fun x => x == ' ' || isBreak x

/-- A tag, from its indicator on. -/
def readTag? (c : Cursor) : Option (Token × Cursor) := do
  let (handle, after) ←
    if c.next.isAt '<' then do
      let after ← skipTag? (c.advance 2)
      if after.isAt '>' then some (none, after.next) else none
    else if endsWord c.next.rest then some (none, c.next)
    else
      let word := c.next.rest.takeWhile fun x => !(x == ' ' || isBreak x)
      let (handle, body) ← if word.contains '!' then readHandle? c else some ("!", c.next)
      some (some handle, ← skipTag? body)
  if endsProperty after then some (.tag handle, after) else none

def readNumber (c : Cursor) : Except Fault (Nat × Cursor) :=
  let (digits, after) := c.span Char.isDigit
  if digits.isEmpty then .error .malformed
  else if maxIntegerDigits < digits.length then
    .error (.number (.numeralTooLong digits.length))
  else .ok (digits.foldl (fun n d => 10 * n + (d.toNat - '0'.toNat)) 0, after)

/-- The version in a directive, by its first number, from behind the spaces on. -/
def readVersion (c : Cursor) : Except Fault (Token × Cursor) := do
  let (major, c) ← readNumber c
  if !c.isAt '.' then throw .malformed
  let (_, c) ← readNumber c.next
  if endsProperty c then return (.versionDirective major, c) else throw .malformed

/-- The tag handle that a directive defines, from behind the spaces on. -/
def readDefinition? (c : Cursor) : Option (Token × Cursor) := do
  let (handle, c) ← readHandle? c
  if !c.isAt ' ' then none
  let c ← skipTag? (c.skip (· == ' '))
  if endsProperty c then some (.handleDirective handle, c) else none

/-- A directive, from its indicator on. -/
def readDirective (c : Cursor) : Except Fault (Token × Cursor) := do
  let (name, c) := c.next.span isNameChar
  if name.isEmpty || !endsProperty c then throw .malformed
  let (token, c) ←
    if name == "YAML".toList then readVersion (c.skip (· == ' '))
    else if name == "TAG".toList then readDefinition? (c.skip (· == ' '))
    else pure (.otherDirective, c.skip (!isBreak ·))
  return (token, ← c.skipLineEnd?)

end Token

/-! ### Layout -/

/-- A token that turns out to be a key if a colon follows it. -/
structure KeyCandidate where
  /-- The depth of brackets that it stands at. -/
  depth : Nat
  /-- The number of tokens before it. -/
  position : Nat
  /-- Whether nothing else can stand here. -/
  required : Bool
  /-- The place of its first character. -/
  start : Cursor

/-- Whether the token can still be a key at a place: its line has not ended, and no more than 1024
characters have been read since. -/
def KeyCandidate.isLive (k : KeyCandidate) (c : Cursor) : Bool :=
  k.start.line == c.line && c.index - k.start.index ≤ 1024

/-- The tokens so far, and what they mean for those to come. -/
structure Layout where
  tokens : Array Token := #[]
  depth : Nat := 0
  /-- The column of the innermost block, and minus one outside of all blocks. -/
  indent : Int := -1
  /-- The columns of the blocks around it. -/
  outer : List Int := []
  /-- Whether a key may begin here. -/
  keyAllowed : Bool := true
  /-- The candidates, at most one for each depth. -/
  candidates : List KeyCandidate := []

namespace Layout

def push (l : Layout) (t : Token) : Layout :=
  { l with tokens := l.tokens.push t }

/-- Says whether a key may begin next. -/
def allowKey (l : Layout) (allowed : Bool) : Layout :=
  { l with keyAllowed := allowed }

/-- The layout without the candidates that can no longer be keys at a place. A required key may not
be lost. -/
def expire? (l : Layout) (c : Cursor) : Option Layout :=
  if l.candidates.any fun k => k.required && !k.isLive c then none
  else some { l with candidates := l.candidates.filter (·.isLive c) }

/-- The number of tokens at the front that are settled at a place: no token of a key can still come
before them. -/
def settled (l : Layout) (c : Cursor) : Nat :=
  (l.candidates.filter (·.isLive c)).foldl (fun n k => min n k.position) l.tokens.size

/-- The layout without the candidate of this depth. A required key may not be lost. -/
def drop? (l : Layout) : Option Layout :=
  if l.candidates.any fun k => k.depth == l.depth && k.required then none
  else some { l with candidates := l.candidates.filter (·.depth != l.depth) }

/-- Notes that the next token may be a key. -/
def candidate? (l : Layout) (c : Cursor) : Option Layout :=
  if !l.keyAllowed then some l
  else do
    let l ← l.drop?
    let required := l.depth == 0 && l.indent == c.column
    some { l with candidates := ⟨l.depth, l.tokens.size, required, c⟩ :: l.candidates }

/-- Begins a block at a column, unless there is one; the token goes to the given position. -/
def enter (l : Layout) (column : Nat) (position : Nat) (t : Token) : Layout :=
  if l.indent < column then
    { l with
      indent := column
      outer := l.indent :: l.outer
      tokens := l.tokens.insertIdxIfInBounds position t }
  else l

/-- Ends the blocks that lie further to the right than a column, `blocks` being those around the
innermost one. -/
def closeTo (column : Int) (blocks : List Int) (l : Layout) : Layout :=
  if l.indent > column then
    match blocks with
    | [] => { l with indent := -1 }
    | around :: further =>
      closeTo column further { (l.push .blockEnd) with indent := around, outer := further }
  else l

/-- Ends the blocks that lie further to the right than a column; inside of brackets, columns do not
count. -/
def unwind (l : Layout) (column : Int) : Layout :=
  if l.depth == 0 then l.closeTo column l.outer else l

/-- Adds a marker of a document, which ends all blocks. -/
def pushMarker? (l : Layout) (t : Token) : Option Layout := do
  let l ← (l.unwind (-1)).drop?
  some ((l.allowKey false).push t)

/-- Adds a token that may be a key. -/
def pushNode? (l : Layout) (c : Cursor) (t : Token) : Option Layout := do
  some (((← l.candidate? c).allowKey false).push t)

def pushOpen? (l : Layout) (c : Cursor) (t : Token) : Option Layout := do
  let l ← l.candidate? c
  some ({ l with depth := l.depth + 1 }.allowKey true |>.push t)

def pushClose? (l : Layout) (t : Token) : Option Layout := do
  let l ← l.drop?
  if l.depth == 0 then none
  else some ({ l with depth := l.depth - 1 }.allowKey false |>.push t)

def pushComma? (l : Layout) : Option Layout := do
  some (((← l.drop?).allowKey true).push .comma)

/-- Begins a block before an indicator at a column. -/
def openHere? (l : Layout) (column : Nat) (t : Token) : Option Layout :=
  if l.depth != 0 then some l
  else if l.keyAllowed then some (l.enter column l.tokens.size t)
  else none

def pushEntry? (l : Layout) (column : Nat) : Option Layout := do
  let l ← (← l.openHere? column .sequenceStart).drop?
  some ((l.allowKey true).push .entry)

def pushKey? (l : Layout) (column : Nat) : Option Layout := do
  let l ← (← l.openHere? column .mappingStart).drop?
  some ((l.allowKey (l.depth == 0)).push .key)

/-- Adds the colon before a value. If there is a candidate, it is the key of the value. -/
def pushValue? (l : Layout) (column : Nat) : Option Layout :=
  match l.candidates.find? (·.depth == l.depth) with
  | some k =>
    let l := { l with
      candidates := l.candidates.filter (·.depth != l.depth)
      tokens := l.tokens.insertIdxIfInBounds k.position .key }
    let l := if l.depth == 0 then l.enter k.start.column k.position .mappingStart else l
    some ((l.allowKey false).push .value)
  | none => do
    let l ← l.openHere? column .mappingStart
    some ((l.allowKey (l.depth == 0)).push .value)

end Layout

/-! ### Cutting a text -/

namespace Token

/-- The place of the next token, past spaces, comments and line breaks, and the layout there:
outside of brackets, a key may begin after a line break. -/
def skipToNext : Nat → Layout → Cursor → Layout × Cursor
  | 0, l, c => (l, c)
  | fuel + 1, l, c =>
    let c := (c.skip (· == ' ')).skipComment
    match c.lineBreak? with
    | some (_, after) => skipToNext fuel (if l.depth == 0 then l.allowKey true else l) after
    | none => (l, c)

/-- Whether a plain scalar may begin here. -/
def startsPlain (flow : Bool) (c : Char) (rest : List Char) : Bool :=
  if "-?:".toList.contains c then !endsWord rest && (c == '-' || !flow)
  else !(isSeparator c || ",[]\x7b\x7d#&*!|>'\"%@\x60".toList.contains c)

/-- Reads the token that begins with the character `x`, which `rest` follows. -/
def read (x : Char) (rest : List Char) (l : Layout) (c : Cursor) :
    Except Fault (Layout × Cursor) := do
  let flow := l.depth != 0
  if x == '%' && c.column == 0 then
    let l ← (l.unwind (-1)).drop?
    let (t, after) ← readDirective c
    return ((l.allowKey false).push t, after)
  else if c.column == 0 && startsMarker '-' c.rest then
    return (← l.pushMarker? .documentStart, c.advance 3)
  else if c.column == 0 && startsMarker '.' c.rest then
    return (← l.pushMarker? .documentEnd, c.advance 3)
  else if x == '[' then return (← l.pushOpen? c .squareOpen, c.next)
  else if x == '\x7b' then return (← l.pushOpen? c .braceOpen, c.next)
  else if x == ']' then return (← l.pushClose? .squareClose, c.next)
  else if x == '\x7d' then return (← l.pushClose? .braceClose, c.next)
  else if x == ',' then return (← l.pushComma?, c.next)
  else if x == '-' && endsWord rest then return (← l.pushEntry? c.column, c.next)
  else if x == '?' && (flow || endsWord rest) then return (← l.pushKey? c.column, c.next)
  else if x == ':' && (flow || endsWord rest) then return (← l.pushValue? c.column, c.next)
  else if x == '*' then
    let (name, after) ← readName? c.next
    return (← l.pushNode? c (.reference name), after)
  else if x == '&' then
    let (name, after) ← readName? c.next
    return (← l.pushNode? c (.anchor name), after)
  else if x == '!' then
    let (t, after) ← readTag? c
    return (← l.pushNode? c t, after)
  else if (x == '|' || x == '>') && !flow then
    let (text, after) ← readBlock? (x == '>') l.indent c.next
    let l ← l.drop?
    return ((l.allowKey true).push (.scalar (String.ofList text)), after)
  else if x == '\'' || x == '"' then
    let l ← l.candidate? c
    let (text, after) ← readQuoted x (rest.length + 1) [] c.next
    return ((l.allowKey false).push (.scalar (String.ofList text)), after)
  else if startsPlain flow x rest then
    let t := readPlain flow (l.indent + 1) (rest.length + 1) [] ⟨[], false, c⟩
    let l ← l.pushNode? c (.scalar (String.ofList t.text))
    return (l.allowKey t.ended, t.after)
  else throw .malformed

/-- The layout with the next token, and the place after it unless the text has ended. -/
def next (l : Layout) (c : Cursor) : Except Fault (Layout × Option Cursor) := do
  let (l, c) := skipToNext (c.rest.length + 1) l c
  let l := (← l.expire? c).unwind c.column
  match c.rest with
  | [] => return (← (l.unwind (-1)).drop?, none)
  | x :: rest =>
    let (l, c) ← read x rest l c
    return (l, some c)

end Token

/-- What can be had of the tokens of a text: all of them, or those in front of a fault. -/
structure Tokens where
  front : List Token
  fault : Option Fault := none

namespace Tokens

/-- The tokens of the characters from a place on, behind those of the layout. In front of a fault
only those are left that are settled. -/
def behind : Nat → Layout → Cursor → Tokens
  | 0, l, _ => ⟨l.tokens.toList, some .malformed⟩
  | fuel + 1, l, c =>
    match Token.next l c with
    | .error f => ⟨l.tokens.toList.take (l.settled c), some f⟩
    | .ok (l, none) => ⟨l.tokens.toList, none⟩
    | .ok (l, some after) => behind fuel l after

/-- The tokens of a text. A byte order mark at its beginning does not count. -/
def ofText (s : String) : Tokens :=
  let cs := s.toList
  if cs.all isAllowed then
    let c : Cursor := ⟨cs, 0, 0, 0⟩
    behind (cs.length + 1) {} (if c.isAt '\ufeff' then c.next else c)
  else ⟨[], some .malformed⟩

end Tokens

end DecisionTable.Yaml
