import DecisionTable.Pattern.Escape
import DecisionTable.Pattern.Match

/-!
# Reading patterns

The reader takes the text of a pattern apart into tokens and reads alternatives, which are sequences
of items. It follows the common notation of regular expressions with possessive repetitions, atomic
groups, conditionals and settings within groups. Settings for the whole pattern stand at its very
beginning.

Some faults only show when the pattern has been read: a reference to a group that does not exist,
and a condition on the preceding text whose length is not fixed or too large. How deeply groups may
be nested is not limited.
-/

namespace DecisionTable

namespace Pattern

/-! ### Repetitions -/

/-- The least number that is too large for a number of repetitions. -/
def repetitionLimit : Nat := Width.unlimited

/-- The number of repetitions that digits denote. -/
def readCount (digits : List Char) : Except PatternFault Nat :=
  if digits.length > maxIntegerDigits then .error (.numeralTooLong digits.length)
  else
    let n := numberIn 10 digits
    if repetitionLimit ≤ n then .error .tooManyRepetitions else .ok n

/-- Reads the bounds of a repetition behind an opening brace; `none` if they are not well formed and
the brace is an ordinary character. -/
def readBounds (ts : List Token) :
    Except PatternFault (Option (Nat × Option Nat × List Token)) := do
  if ts.head? == some (.plain '\x7d') then return none
  let digits := fun (l : List Token) =>
    ((l.takeWhile Token.isDigit).filterMap Token.plain?, l.dropWhile Token.isDigit)
  let (low, rest) := digits ts
  let (high, rest) := match rest with
    | .plain ',' :: after => digits after
    | _ => (low, rest)
  match rest with
  | [.plain '\x7d', .broken] => .error .invalid
  | .plain '\x7d' :: after =>
    let min ← if low.isEmpty then .ok 0 else readCount low
    if high.isEmpty then return some (min, none, after)
    let max ← readCount high
    if max < min then .error .invalid
    return some (min, some max, after)
  | _ => return none

/-- Repeats the last item read; the sign behind the bounds tells the appetite. -/
def repeatLast (st : Progress) (items : List Item) (min : Nat) (max : Option Nat)
    (ts : List Token) : Except PatternFault (List Item × Rest) :=
  match items with
  | [] => .error .invalid
  | item :: before =>
    if item.isRepeatable then
      let (appetite, rest) := match ts with
        | .plain '?' :: after => (Appetite.lazy, after)
        | .plain '+' :: after => (.possessive, after)
        | _ => (.greedy, ts)
      .ok ({ parts := [repeatParts appetite min max item.parts] } :: before, rest,
        { st with repeats := true })
    else .error .invalid

/-! ### Groups -/

inductive Opening where
  /-- A group that is remembered, with or without a name. -/
  | capture (name : Option (List Char))
  /-- A group that is not remembered. -/
  | plain
  /-- A group of which only the first way to match counts. -/
  | atomic
  /-- A group with settings of its own. -/
  | settings (on off : List Char)
  | whole (on : List Char)
  /-- A condition on the following or the preceding text. -/
  | look (behind positive : Bool)
  /-- A reference to a group by its name. -/
  | reference (name : List Char)
  /-- A choice by whether a group has matched. -/
  | conditional (name : List Char)
  | comment

/-- Reads how a group begins, behind its opening bracket. -/
def readOpening : List Token → Except PatternFault (Opening × List Token)
  | .plain '?' :: .plain 'P' :: .plain '<' :: ts =>
    (takeIdentifier '>' ts).map fun (name, rest) => (.capture (some name), rest)
  | .plain '?' :: .plain 'P' :: .plain '=' :: ts =>
    (takeIdentifier ')' ts).map fun (name, rest) => (.reference name, rest)
  | .plain '?' :: .plain ':' :: ts => .ok (.plain, ts)
  | .plain '?' :: .plain '>' :: ts => .ok (.atomic, ts)
  | .plain '?' :: .plain '#' :: ts =>
    match ts.dropWhile (· != .plain ')') with
    | _ :: rest => .ok (.comment, rest)
    | [] => .error .invalid
  | .plain '?' :: .plain '=' :: ts => .ok (.look false true, ts)
  | .plain '?' :: .plain '!' :: ts => .ok (.look false false, ts)
  | .plain '?' :: .plain '<' :: .plain '=' :: ts => .ok (.look true true, ts)
  | .plain '?' :: .plain '<' :: .plain '!' :: ts => .ok (.look true false, ts)
  | .plain '?' :: .plain '(' :: ts =>
    (takeName ')' ts).map fun (name, rest) => (.conditional name, rest)
  | .plain '?' :: ts =>
    (readSettings [] ts).map fun (scope, rest) => (match scope with
      | .whole on => .whole on
      | .group on off => .settings on off, rest)
  | ts => .ok (.capture none, ts)

/-- Takes the closing bracket of a group. -/
def takeClosing : List Token → Except PatternFault (List Token)
  | .plain ')' :: rest => .ok rest
  | _ => .error .invalid

/-- Whether a token stands between items in a spaced pattern. -/
def isSpacing (t : Token) : Bool :=
  match t with
  | .plain c => c == ' ' || (9 ≤ c.toNat && c.toNat ≤ 13)
  | _ => false

/-- The tokens behind a comment that goes on to the end of the line. -/
def skipComment (ts : List Token) : List Token :=
  match ts.dropWhile fun t => t != .plain '\n' && t != .broken with
  | .plain _ :: rest => rest
  | rest => rest

mutual

/-- Reads alternatives up to a closing bracket or the end. `outermost` tells that they are those of
the whole pattern. The first argument bounds the depth of reading. -/
def readAlternatives (outermost : Bool) (settings : Settings) :
    Nat → List (List Part) → List Token → Progress → Except PatternFault (List Part × Rest)
  | 0, _, _, _ => .error .invalid
  | n + 1, found, ts, st => do
    let (parts, rest, st) ← readSequence (outermost && found.isEmpty) settings n [] ts st
    let settings := if outermost then st.settings else settings
    match rest with
    | .plain '|' :: after => readAlternatives outermost settings n (parts :: found) after st
    | _ => .ok (ofAlternatives settings.folding (parts :: found).reverse, rest, st)

/-- Reads a sequence of items, given those read before from the last to the first. `atStart` tells
that the sequence is the beginning of the whole pattern. -/
def readSequence (atStart : Bool) (settings : Settings) :
    Nat → List Item → List Token → Progress → Except PatternFault (List Part × Rest)
  | 0, _, _, _ => .error .invalid
  | _, items, [], st => .ok (items.reverse.flatMap Item.parts, [], st)
  | n + 1, items, t :: ts, st =>
    if t == .plain '|' || t == .plain ')' then
      .ok (items.reverse.flatMap Item.parts, t :: ts, st)
    else if settings.spaced && isSpacing t then readSequence atStart settings n items ts st
    else if settings.spaced && t == .plain '#' then
      readSequence atStart settings n items (skipComment ts) st
    else match t with
    | .broken => .error .invalid
    | .escaped c => do
      let (item, rest) ← readEscape settings st c ts
      readSequence atStart settings n (item :: items) rest st
    | .plain '[' => do
      let (item, rest) ← readClass settings ts
      readSequence atStart settings n (item :: items) rest st
    | .plain '.' =>
      readSequence atStart settings n (testItem (.any settings.pointAll) :: items) ts st
    | .plain '^' =>
      readSequence atStart settings n (anchorItem (.start settings.lines) :: items) ts st
    | .plain '$' =>
      readSequence atStart settings n (anchorItem (.finish settings.lines) :: items) ts st
    | .plain '?' => do
      let (items, rest, st) ← repeatLast st items 0 (some 1) ts
      readSequence atStart settings n items rest st
    | .plain '*' => do
      let (items, rest, st) ← repeatLast st items 0 none ts
      readSequence atStart settings n items rest st
    | .plain '+' => do
      let (items, rest, st) ← repeatLast st items 1 none ts
      readSequence atStart settings n items rest st
    | .plain '\x7b' => do
      match ← readBounds ts with
      | some (min, max, after) =>
        let (items, rest, st) ← repeatLast st items min max after
        readSequence atStart settings n items rest st
      | none => readSequence atStart settings n (codeItem settings 0x7B :: items) ts st
    | .plain '(' => do
      let (opening, rest) ← readOpening ts
      match opening with
      | .comment => readSequence atStart settings n items rest st
      | .whole on =>
        if !atStart || !items.isEmpty then .error .invalid
        else
          let whole := on.foldl Settings.turnOn st.settings
          readSequence atStart whole n items rest { st with settings := whole }
      | _ => do
        let (item, rest, st) ← readGroup settings n opening rest st
        readSequence atStart settings n (item :: items) rest st
    | .plain c => readSequence atStart settings n (codeItem settings c.toNat :: items) ts st

/-- Reads a group behind the mark with which it begins. -/
def readGroup (settings : Settings) :
    Nat → Opening → List Token → Progress → Except PatternFault (Item × Rest)
  | 0, _, _, _ => .error .invalid
  | n + 1, opening, ts, st =>
    match opening with
    | .capture name => do
      let (number, st) ← beginGroup st name
      let (parts, rest, st) ← readAlternatives false settings n [] ts st
      let rest ← takeClosing rest
      let w := widthOf parts
      .ok (.single (.group number (ofParts parts)) w, rest,
        { st with widths := (number, w) :: st.widths })
    | .reference name => do
      match st.names.lookup name with
      | none => .error .invalid
      | some number =>
        let item ← referenceItem settings st number
        .ok (item, ts, st)
    | .look behind positive => do
      let outer := st.groupsBefore
      let st := if behind && outer.isNone then { st with groupsBefore := some st.groups } else st
      let (parts, rest, st) ← readAlternatives false settings n [] ts st
      let rest ← takeClosing rest
      let (item, st) := lookItem { st with groupsBefore := outer } behind positive parts
      .ok (item, rest, st)
    | .conditional name => do
      let number ← readGroupName st name
      let st := if Text.isIdentifier name then st else { st with asked := max st.asked number }
      if st.groupsBefore.any fun before => (st.widths.lookup number).isNone || before < number then
        .error .invalid
      let (yes, rest, st) ← readSequence false settings n [] ts st
      let (no, rest, st) ← match rest with
        | .plain '|' :: after => readSequence false settings n [] after st
        | _ => .ok ([], rest, st)
      let rest ← takeClosing rest
      .ok (.single (.conditional number (ofParts yes) (ofParts no))
        ((widthOf yes).either (widthOf no)), rest, st)
    | .settings on off => do
      let (parts, rest, st) ← readAlternatives false (settings.changed on off) n [] ts st
      let rest ← takeClosing rest
      .ok (.single (ofParts parts) (widthOf parts), rest, st)
    | .atomic => do
      let (parts, rest, st) ← readAlternatives false settings n [] ts st
      let rest ← takeClosing rest
      .ok (.single (.atomic (ofParts parts)) (widthOf parts), rest, st)
    | _ => do
      let (parts, rest, st) ← readAlternatives false settings n [] ts st
      let rest ← takeClosing rest
      .ok ({ parts, bracketed := true }, rest, st)

end

def Whole.parse (s : String) : Except PatternFault Whole := do
  let ts := tokens s.toList
  let (parts, rest, st) ← readAlternatives true {} (3 * ts.length + 3) [] ts {}
  if st.settings.asciiOnly && st.settings.unicode then .error .incompatibleFamilies
  else if !rest.isEmpty || st.groups < st.asked || st.faulty
      || (st.settings.template && st.repeats) then .error .invalid
  else if st.tooFarBack then .error .tooFarBack
  else .ok { pattern := ofParts parts, least := (widthOf parts).low }

end Pattern

end DecisionTable
