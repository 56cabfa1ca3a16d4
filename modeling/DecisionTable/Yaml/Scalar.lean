import DecisionTable.Json.Parse
import DecisionTable.Yaml.Cursor
import DecisionTable.Yaml.Fault

/-!
# Reading YAML scalars

A scalar is written plain, between quotes, or as an indented block. Where a plain or quoted scalar
goes over several lines, a single line break stands for a space and each further one for a line
feed.

This is a part of the reader that stands for a general one of YAML. No theorem rests on it.
-/

namespace DecisionTable.Yaml

open Cursor

/-- What a line break in a scalar stands for, given the breaks of the empty lines behind it. -/
def folded (first : Char) (more : List Char) : List Char :=
  (if first != '\n' then [first] else if more.isEmpty then [' '] else []) ++ more

/-! ### Plain scalars -/

/-- Whether a colon before these characters ends a plain scalar. -/
def endsKey (flow : Bool) (cs : List Char) : Bool :=
  endsWord cs || (flow && startsWith ",[]\x7b\x7d".toList.contains cs)

/-- The word of a plain scalar at the front. -/
def plainWord (flow : Bool) : List Char → List Char
  | [] => []
  | c :: rest =>
    if isSeparator c || (c == ':' && endsKey flow rest)
        || (flow && ",?[]\x7b\x7d".toList.contains c) then []
    else c :: plainWord flow rest

/-- The breaks of empty lines; there is no result before a marker of a document. -/
def emptyLines : Nat → List Char → Cursor → Option (List Char) × Cursor
  | 0, _, c => (none, c)
  | fuel + 1, breaks, c =>
    if startsAnyMarker c.rest then (none, c)
    else
      let c := c.skip (· == ' ')
      match c.lineBreak? with
      | some (b, after) => emptyLines fuel (b :: breaks) after
      | none => (some breaks.reverse, c)

/-- A plain scalar, or a part of one. -/
structure PlainText where
  text : List Char
  /-- Whether a line has ended behind them. -/
  ended : Bool
  after : Cursor

/-- What stands between two words of a plain scalar: nothing, if the scalar ends here. -/
def plainGap (c : Cursor) : PlainText :=
  let (spaces, c) := c.span (· == ' ')
  match c.lineBreak? with
  | none => ⟨spaces, false, c⟩
  | some (b, after) =>
    match emptyLines (after.rest.length + 1) [] after with
    | (some breaks, c) => ⟨folded b breaks, true, c⟩
    | (none, c) => ⟨[], true, c⟩

/-- A plain scalar that goes on behind `done` with what stands before its next word. It ends at a
comment, at a colon and, in a block, at a line that is less indented. -/
def readPlain (flow : Bool) (indent : Int) : Nat → List Char → PlainText → PlainText
  | 0, done, gap => { gap with text := done }
  | fuel + 1, done, gap =>
    let c := gap.after
    let word := plainWord flow c.rest
    if c.isAt '#' || word.isEmpty then { gap with text := done }
    else
      let done := done ++ gap.text ++ word
      let next := plainGap (c.advance word.length)
      if next.text.isEmpty || (!flow && next.after.column < indent) then { next with text := done }
      else readPlain flow indent fuel done next

/-! ### Quoted scalars -/

/-- The breaks of empty lines inside quotes, where no marker of a document may begin a line. -/
def quotedBreaks? : Nat → List Char → Cursor → Option (List Char × Cursor)
  | 0, _, _ => none
  | fuel + 1, breaks, c =>
    if startsAnyMarker c.rest then none
    else
      let c := c.skip isGap
      match c.lineBreak? with
      | some (b, after) => quotedBreaks? fuel (b :: breaks) after
      | none => some (breaks.reverse, c)

/-- The character that a letter behind a backslash stands for. -/
def escaped? : Char → Option Char
  | '0' => some '\x00'
  | 'a' => some '\x07'
  | 'b' => some '\x08'
  | 't' => some '\t'
  | '\t' => some '\t'
  | 'n' => some '\n'
  | 'v' => some '\x0b'
  | 'f' => some '\x0c'
  | 'r' => some '\r'
  | 'e' => some '\x1b'
  | ' ' => some ' '
  | '"' => some '"'
  | '\\' => some '\\'
  | '/' => some '/'
  | 'N' => some '\x85'
  | '_' => some '\xa0'
  | 'L' => some '\u2028'
  | 'P' => some '\u2029'
  | _ => none

/-- The number of hexadecimal digits that a letter behind a backslash asks for. -/
def codeLength? : Char → Option Nat
  | 'x' => some 2
  | 'u' => some 4
  | 'U' => some 8
  | _ => none

/-- The number that so many hexadecimal digits at the front denote. -/
def hexNumber? (length : Nat) (cs : List Char) : Option Nat := do
  let digits ← (cs.take length).mapM Json.hexValue?
  if digits.length < length then none
  else some (digits.foldl (fun n d => 16 * n + d) 0)

def ofCode (code : Nat) : Except Fault Char :=
  if code < 0x110000 then .ok (Json.ofUnit code)
  else .error (.number (if code < 0x80000000 then .codeTooLarge else .codeTooLong))

/-- What an escape stands for, from behind its backslash, and the place after it. -/
def readEscape (c : Cursor) : Except Fault (List Char × Cursor) :=
  match c.lineBreak? with
  | some (_, after) => do quotedBreaks? (after.rest.length + 1) [] after
  | none =>
    match c.rest with
    | [] => .error .malformed
    | letter :: digits =>
      match escaped? letter with
      | some x => .ok ([x], c.next)
      | none => do
        let length ← codeLength? letter
        let x ← ofCode (← hexNumber? length digits)
        return ([x], c.advance (length + 1))

/-- A quoted scalar from behind its quote, its characters so far being those of `done` backwards. -/
def readQuoted (quote : Char) : Nat → List Char → Cursor → Except Fault (List Char × Cursor)
  | 0, _, _ => .error .malformed
  | fuel + 1, done, c =>
    match c.rest with
    | [] => .error .malformed
    | x :: rest =>
      if x == quote then
        if quote == '\'' && startsWith (· == '\'') rest then
          readQuoted quote fuel ('\'' :: done) (c.advance 2)
        else .ok (done.reverse, c.next)
      else if x == '\\' && quote == '"' then do
        let (read, after) ← readEscape c.next
        readQuoted quote fuel (read.reverse ++ done) after
      else if isSeparator x then
        let (gap, after) := c.span isGap
        match after.lineBreak? with
        | none => readQuoted quote fuel (gap.reverse ++ done) after
        | some (b, next) => do
          let (breaks, after) ← quotedBreaks? (next.rest.length + 1) [] next
          readQuoted quote fuel ((folded b breaks).reverse ++ done) after
      else readQuoted quote fuel (x :: done) c.next

/-! ### Block scalars -/

/-- What becomes of the line breaks at the end of a block scalar. -/
inductive Chomping where
  | clip
  | strip
  | keep

def chomping? : Char → Option Chomping
  | '+' => some .keep
  | '-' => some .strip
  | _ => none

def indentation? (x : Char) : Option Nat :=
  if x.isDigit && x != '0' then some (x.toNat - '0'.toNat) else none

/-- The header of a block scalar: the chomping and the indentation, in either order. -/
def readHeader (cs : List Char) : Chomping × Option Nat × Nat :=
  match cs with
  | [] => (.clip, none, 0)
  | a :: rest =>
    let second := rest.head?
    match chomping? a, indentation? a with
    | some how, _ =>
      match second.bind indentation? with
      | some n => (how, some n, 2)
      | none => (how, none, 1)
    | none, some n =>
      match second.bind chomping? with
      | some how => (how, some n, 2)
      | none => (.clip, some n, 1)
    | none, none => (.clip, none, 0)

/-- The empty lines before a block scalar whose indentation is not given: their breaks, and the
greatest column that is reached. -/
def leadingLines : Nat → List Char → Nat → Cursor → List Char × Nat × Cursor
  | 0, breaks, deepest, c => (breaks.reverse, deepest, c)
  | fuel + 1, breaks, deepest, c =>
    let c := c.skip (· == ' ')
    let deepest := max deepest c.column
    match c.lineBreak? with
    | some (b, after) => leadingLines fuel (b :: breaks) deepest after
    | none => (breaks.reverse, deepest, c)

/-- The place after the spaces at the front, up to a column. -/
def skipIndent (indent : Nat) (c : Cursor) : Cursor :=
  c.advance (((c.rest.take (indent - c.column)).takeWhile (· == ' ')).length)

/-- The breaks of empty lines inside a block scalar. -/
def blockBreaks (indent : Nat) : Nat → List Char → Cursor → List Char × Cursor
  | 0, breaks, c => (breaks.reverse, c)
  | fuel + 1, breaks, c =>
    let c := skipIndent indent c
    match c.lineBreak? with
    | some (b, after) => blockBreaks indent fuel (b :: breaks) after
    | none => (breaks.reverse, c)

/-- The text of a block scalar. -/
structure BlockText where
  /-- The lines, up to the last one. -/
  body : List Char
  last : List Char
  /-- The breaks of the empty lines behind it. -/
  more : List Char

/-- The lines of a block scalar from the next one on, `done` holding the earlier ones and `breaks`
the empty lines between. Where lines are folded, the break between two lines that begin with text is
a space, or nothing if empty lines stand between them. -/
def blockLines (fold : Bool) (indent : Nat) : Nat → List Char → List Char → Cursor →
    BlockText × Cursor
  | 0, done, breaks, c => (⟨done, [], breaks⟩, c)
  | fuel + 1, done, breaks, c =>
    let (line, after) := c.span (!isBreak ·)
    let done := done ++ breaks ++ line
    let (last, c') := match after.lineBreak? with
      | some (b, next) => ([b], next)
      | none => ([], after)
    let (breaks, next) := blockBreaks indent (c'.rest.length + 1) [] c'
    if next.column == indent && !next.rest.isEmpty then
      let joins := fold && last == ['\n'] && !c.at? isGap && !next.at? isGap
      let between := if !joins then last else if breaks.isEmpty then [' '] else []
      blockLines fold indent fuel (done ++ between) breaks next
    else (⟨done, last, breaks⟩, next)

/-- The characters of a block scalar whose last line breaks are treated as asked for. -/
def BlockText.chomped (t : BlockText) : Chomping → List Char
  | .strip => t.body
  | .clip => t.body ++ t.last
  | .keep => t.body ++ t.last ++ t.more

/-- A block scalar inside a block of the given indentation, from behind its indicator. -/
def readBlock? (fold : Bool) (outer : Int) (c : Cursor) : Option (List Char × Cursor) := do
  let (how, given, length) := readHeader c.rest
  let c := c.advance length
  if !(c.rest.isEmpty || c.at? fun x => x == ' ' || isBreak x) then none
  let c ← c.skipLineEnd?
  let least := max (outer + 1) 1
  let (breaks, indent, c) := match given with
    | none =>
      let (breaks, deepest, c) := leadingLines (c.rest.length + 1) [] 0 c
      (breaks, max least.toNat deepest, c)
    | some n =>
      let indent := least.toNat + n - 1
      let (breaks, c) := blockBreaks indent (c.rest.length + 1) [] c
      (breaks, indent, c)
  if c.column == indent && !c.rest.isEmpty then
    let (t, c) := blockLines fold indent (c.rest.length + 1) [] breaks c
    return (t.chomped how, c)
  else return (BlockText.chomped ⟨[], [], breaks⟩ how, c)

end DecisionTable.Yaml
