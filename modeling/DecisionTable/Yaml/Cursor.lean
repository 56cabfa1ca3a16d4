/-!
# Places in a YAML text

A cursor is a place in a text: the characters that are left there, and its line and column, which
decide what belongs to which block. A line ends at a line feed, at a carriage return with or without
one, and at the Unicode breaks U+0085, U+2028 and U+2029.

The modules on YAML stand for a general reader and writer of that format, as tables use it. They are
definitions only: no theorem is about them, and none rests on them.
-/

namespace DecisionTable.Yaml

/-- Whether a character ends a line. -/
def isBreak (c : Char) : Bool :=
  c == '\n' || c == '\r' || c == '\x85' || c == '\u2028' || c == '\u2029'

/-- Whether a character is a space or a tab. -/
def isGap (c : Char) : Bool :=
  c == ' ' || c == '\t'

/-- Whether a character keeps the words of a text apart. -/
def isSeparator (c : Char) : Bool :=
  isGap c || isBreak c

/-- Whether a character may stand in a document at all. -/
def isAllowed (c : Char) : Bool :=
  c == '\t' || c == '\n' || c == '\r' || (' ' ≤ c && c ≤ '~') || c == '\x85'
    || ('\xa0' ≤ c && c ≤ '\ufffd') || 0x10000 ≤ c.toNat

/-- Whether a character may stand in the name of an anchor, a directive or a tag handle. -/
def isNameChar (c : Char) : Bool :=
  c.isAlphanum || c == '-' || c == '_'

/-- Whether the first of the characters, if there is one, satisfies `p`. -/
def startsWith (p : Char → Bool) (cs : List Char) : Bool :=
  match cs with
  | [] => false
  | c :: _ => p c

/-- Whether a word ends before these characters: there are none, or a separator is the first. -/
def endsWord (cs : List Char) : Bool :=
  cs.isEmpty || startsWith isSeparator cs

/-- Whether the characters begin with a marker of a document, `---` or `...`, as a word. -/
def startsMarker (mark : Char) : List Char → Bool
  | a :: b :: c :: rest => a == mark && b == mark && c == mark && endsWord rest
  | _ => false

/-- Whether the characters begin with either marker of a document. -/
def startsAnyMarker (cs : List Char) : Bool :=
  startsMarker '-' cs || startsMarker '.' cs

/-- A place in a text. -/
structure Cursor where
  rest : List Char
  index : Nat := 0
  /-- The number of lines that have ended before. -/
  line : Nat := 0
  /-- The number of characters before in the line, byte order marks apart. -/
  column : Nat := 0

namespace Cursor

/-- The place after the next character. A carriage return ends a line only if no line feed follows,
which then ends it. -/
def next (c : Cursor) : Cursor :=
  match c.rest with
  | [] => c
  | x :: rest =>
    if isBreak x && !(x == '\r' && startsWith (· == '\n') rest) then
      ⟨rest, c.index + 1, c.line + 1, 0⟩
    else ⟨rest, c.index + 1, c.line, if x == '\ufeff' then c.column else c.column + 1⟩

/-- The place after so many characters. -/
def advance : Nat → Cursor → Cursor
  | 0, c => c
  | n + 1, c => advance n c.next

/-- The characters at the front that satisfy `p`, and the place after them. -/
def span (p : Char → Bool) (c : Cursor) : List Char × Cursor :=
  let taken := c.rest.takeWhile p
  (taken, c.advance taken.length)

/-- The place after the characters that satisfy `p`. -/
def skip (p : Char → Bool) (c : Cursor) : Cursor :=
  (c.span p).2

/-- Whether the next character satisfies `p`. -/
def at? (p : Char → Bool) (c : Cursor) : Bool :=
  startsWith p c.rest

/-- Whether the next character is the given one. -/
def isAt (x : Char) (c : Cursor) : Bool :=
  c.at? (· == x)

/-- The line break at the front and the place after it. Every break counts as a line feed, but those
that Unicode has for lines and paragraphs stay as they are. -/
def lineBreak? (c : Cursor) : Option (Char × Cursor) :=
  match c.rest with
  | '\r' :: '\n' :: _ => some ('\n', c.advance 2)
  | x :: _ =>
    if x == '\u2028' || x == '\u2029' then some (x, c.next)
    else if isBreak x then some ('\n', c.next)
    else none
  | [] => none

/-- The place after the comment at the front, if there is one; the end of the line stays. -/
def skipComment (c : Cursor) : Cursor :=
  if c.isAt '#' then c.skip (!isBreak ·) else c

/-- The place after the rest of a line that may hold a comment only. -/
def skipLineEnd? (c : Cursor) : Option Cursor :=
  let c := (c.skip (· == ' ')).skipComment
  match c.lineBreak? with
  | some (_, after) => some after
  | none => if c.rest.isEmpty then some c else none

end Cursor

end DecisionTable.Yaml
