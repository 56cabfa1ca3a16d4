import DecisionTable.Pattern.Basic

/-!
# Matching patterns

A pattern is matched from a place in a text onwards. Since a pattern can match in several ways, what
follows it is given as a continuation: the ways are tried in order until the continuation succeeds.

What has been tried leaves a trace. The trace has the marks of groups, that is, the places where
their texts begin and end. When a way fails, the marks set since are forgotten; but a mark that was
set before and has been moved returns to its old place only within a repetition. The trace also has
the place noted last. Choices and repetitions note the place they start from, and a possessive
repetition goes on from the place noted last, even if a round that failed has noted it.
-/

namespace DecisionTable.Pattern

/-- What a match so far has left. -/
structure Trace where
  /-- The place noted last, as the number of characters before it. -/
  noted : Nat := 0
  /-- The marks of groups: where the first one begins, where it ends, where the second one begins,
  and so on. -/
  marks : List (Option Nat) := []

namespace Trace

/-- Sets a mark. Marks before it that have not been set are empty. -/
def mark (i place : Nat) (t : Trace) : Trace :=
  { t with marks :=
      if i < t.marks.length then t.marks.set i (some place)
      else t.marks ++ List.replicate (i - t.marks.length) none ++ [some place] }

/-- The beginning and the end of a group, if both are marked. -/
def marked? (t : Trace) (number : Nat) : Option (Nat × Nat) := do
  let first ← (← t.marks[2 * number - 2]?)
  let last ← (← t.marks[2 * number - 1]?)
  return (first, last)

/-- The beginning and the end of the text of a group. There is none if the group has begun anew
since it ended. -/
def span? (t : Trace) (number : Nat) : Option (Nat × Nat) :=
  (t.marked? number).filter fun (first, last) => first ≤ last

/-- Whether some group ends before it begins. -/
def isCrossed (t : Trace) : Bool :=
  (List.range (t.marks.length / 2)).any fun i =>
    (t.marked? (i + 1)).any fun (first, last) => last < first

end Trace

/-- A trial, which succeeds or fails and changes the trace in both cases. -/
abbrev Trial := StateM Trace Bool

/-- What is tried after a pattern, from a place on. -/
abbrev Continuation := Nat → Trial

def note (place : Nat) : StateM Trace Unit :=
  modify fun t => { t with noted := place }

/-- Notes a place and fails. -/
def failAt (place : Nat) : Trial := do
  note place
  return false

/-- Notes a place and succeeds. -/
def stop : Continuation := fun place => do
  note place
  return true

/-- Tries something. If it fails, the marks set in it are forgotten, and if `restoring`, all marks
are as before. -/
def attempt (restoring : Bool) (trial : Trial) : Trial := do
  let before := (← get).marks
  if ← trial then return true
  modify fun t =>
    { t with marks := if restoring then before else t.marks.take before.length }
  return false

/-! ### Single characters and places -/

/-- Whether the character at an index is a word character. -/
def isWordAt (text : Array Char) (asciiOnly : Bool) (i : Nat) : Bool :=
  (text[i]?).any (CharFamily.word.contains asciiOnly)

/-- Whether a condition on a place holds. In an empty text no place has a word boundary, nor the
lack of one. -/
def holdsAt (text : Array Char) (place : Nat) : Anchor → Bool
  | .start ofLine => place == 0 || (ofLine && text[place - 1]? == some '\n')
  | .finish ofLine =>
    place == text.size || (text[place]? == some '\n' && (ofLine || place + 1 == text.size))
  | .textEnd => place == text.size
  | .wordBoundary asciiOnly positive =>
    let before := place != 0 && isWordAt text asciiOnly (place - 1)
    text.size != 0 && (before != isWordAt text asciiOnly place) == positive

/-- Whether `count` characters at two places are the same up to case. -/
def sameText (text : Array Char) (fold : Folding) (i j : Nat) : Nat → Bool
  | 0 => true
  | count + 1 =>
    match text[i]?, text[j]? with
    | some a, some b =>
      fold.lower a == fold.lower b && sameText text fold (i + 1) (j + 1) count
    | _, _ => false

/-- Whether there is a character at an index that passes a test. -/
def passesAt (text : Array Char) (test : CharTest) (i : Nat) : Bool :=
  (text[i]?).any test.accepts

/-- The end of the characters from an index on that pass a test, `most` of them if there are so
many. -/
def stretchEnd (text : Array Char) (test : CharTest) : (most i : Nat) → Nat
  | 0, i => i
  | most + 1, i => if passesAt text test i then stretchEnd text test most (i + 1) else i

/-! ### Stretches of characters -/

/-- Tries the places from `least + n` down to `least`. -/
def backOff (least : Nat) (next : Continuation) : Nat → Trial
  | 0 => next least
  | n + 1 => do
    if ← next (least + n + 1) then return true
    backOff least next n

/-- Tries a place and up to `n` places behind it, as long as the characters up to them pass a
test. -/
def advance (text : Array Char) (test : CharTest) (next : Continuation) : (n i : Nat) → Trial
  | n, i => do
    if ← next i then return true
    if passesAt text test i then
      note (if test.isFoldedClass then i + 1 else i)
      match n with
      | 0 => return false
      | m + 1 => advance text test next m (i + 1)
    else failAt i

/-- Takes a stretch of characters that pass a test. Where it ends is tried from the far end if the
appetite is greedy and from the near end if it is lazy. Places at which the literal that has to
follow is missing need not be tried. -/
def takeStretch (text : Array Char) (appetite : Appetite) (min : Nat) (max : Option Nat)
    (test : CharTest) (restoring : Bool) (follower : Option CharTest) (next : Continuation) :
    Continuation := fun i => do
  if text.size < i + min then return false
  note i
  let room := text.size - i
  let most := match max with
    | some n => Nat.min n room
    | none => room
  let most := match appetite with
    | .lazy => min
    | _ => most
  let last := stretchEnd text test most i
  if test.isFoldedClass then note last
  if last < i + min then return false
  let tryAt : Continuation := fun j => do
    note j
    attempt restoring (next j)
  match appetite with
  | .greedy =>
    let guarded : Continuation := fun j =>
      if follower.any fun t => t.isLiteral && !passesAt text t j then return false else tryAt j
    backOff (i + min) guarded (last - (i + min))
  | .lazy =>
    let more := match max with
      | some n => n - min
      | none => room
    advance text test tryAt more last
  | .possessive => next last

/-! ### Repetitions

A repetition is given by what is repeated, as a function of what follows it. -/

/-- Rounds that have to be there, followed by `rest`. -/
def requiredRounds (body : Continuation → Continuation) (rest : Continuation) :
    Nat → Continuation
  | 0, i => rest i
  | n + 1, i => do
    note i
    if ← body (requiredRounds body rest n) i then return true
    failAt i

/-- Up to the given number of further rounds, preferring more. A round does not start where the one
before it started. -/
def greedyRounds (body : Continuation → Continuation) (next : Continuation) :
    Nat → Option Nat → Continuation
  | 0, _, i => do
    note i
    if ← next i then return true
    failAt i
  | n + 1, start, i => do
    note i
    if start != some i then
      if ← attempt true (body (greedyRounds body next n (some i)) i) then return true
      note i
    if ← next i then return true
    failAt i

/-- Up to the given number of further rounds, preferring fewer. -/
def lazyRounds (restoring : Bool) (body : Continuation → Continuation) (next : Continuation) :
    Nat → Option Nat → Continuation
  | 0, _, i => do
    note i
    if ← attempt restoring (next i) then return true
    failAt i
  | n + 1, start, i => do
    note i
    if ← attempt restoring (next i) then return true
    note i
    if start == some i then return false
    if ← body (lazyRounds restoring body next n (some i)) i then return true
    failAt i

/-- The given number of rounds, each from the place noted last and in its first way. -/
def firstRounds (body : Continuation → Continuation) : Nat → Trial
  | 0 => return true
  | n + 1 => do
    if ← body stop (← get).noted then firstRounds body n else return false

/-- Up to the given number of further rounds, each from the place noted last and in its first way,
until a round fails or matches the empty text. -/
def holdRounds (body : Continuation → Continuation) : Nat → StateM Trace Unit
  | 0 => return ()
  | n + 1 => do
    let start := (← get).noted
    if ← attempt true (body stop start) then
      if (← get).noted != start then holdRounds body n

/-- Repeats something at least `min` times and as often as the appetite says within `more` further
times. -/
def takeRounds (appetite : Appetite) (min more : Nat) (restoring : Bool)
    (body : Continuation → Continuation) (next : Continuation) : Continuation := fun i => do
  note i
  match appetite with
  | .greedy => requiredRounds body (greedyRounds body next more none) min i
  | .lazy => requiredRounds body (lazyRounds restoring body next more none) min i
  | .possessive =>
    if ← firstRounds body min then
      holdRounds body more
      next (← get).noted
    else failAt i

/-! ### Patterns -/

/-- Tries one of several alternatives, unless its first character is missing. -/
def tryAlternative (text : Array Char) (restoring : Bool) (p : Pattern) (trial : Continuation) :
    Continuation := fun i =>
  if p.opening.any fun first => first.any fun t => t.isExact && !passesAt text t i then
    return false
  else do
    note i
    attempt restoring (trial i)

/-- Matches a pattern from a place on and goes on with the continuation. `restoring` tells that the
pattern is within a repetition, and `follower` is the test of the character behind it if one stands
there. -/
def run (text : Array Char) :
    Pattern → (restoring : Bool) → (follower : Option CharTest) → Continuation → Continuation
  | empty, _, _, next, i => next i
  | one test, _, _, next, i => if passesAt text test i then next (i + 1) else return false
  | anchor a, _, _, next, i => if holdsAt text i a then next i else return false
  | seq p q, restoring, follower, next, i =>
    run text p restoring (q.opening.getD follower) (run text q restoring follower next) i
  | alt p q, restoring, _, next, i => do
    if ← tryAlternative text restoring p (run text p restoring none next) i then return true
    if q.isAlternatives then run text q restoring none next i
    else tryAlternative text restoring q (run text q restoring none next) i
  | group number p, restoring, _, next, i => do
    modify (·.mark (2 * number - 2) i)
    run text p restoring none (fun j => do
      modify (·.mark (2 * number - 1) j)
      next j) i
  | reference fold number, _, _, next, i => do
    match (← get).span? number with
    | some (first, last) =>
      if sameText text fold first i (last - first) then next (i + (last - first))
      else return false
    | none => return false
  | conditional number yes no, restoring, follower, next, i => do
    if ((← get).span? number).isSome then
      run text yes restoring (if no.isEmpty then follower else none) next i
    else run text no restoring follower next i
  | lookAhead true p, restoring, _, next, i => do
    note i
    if ← run text p restoring none stop i then next i else return false
  | lookAhead false p, restoring, _, next, i => do
    note i
    if ← attempt restoring (run text p restoring none stop i) then return false
    next i
  | lookBehind width true p, restoring, _, next, i => do
    if i < width then return false
    note (i - width)
    if ← run text p restoring none stop (i - width) then next i else return false
  | lookBehind width false p, restoring, _, next, i => do
    if i < width then next i
    else
      note (i - width)
      if ← attempt restoring (run text p restoring none stop (i - width)) then return false
      next i
  | atomic p, restoring, _, next, i => do
    note i
    if ← run text p restoring none stop i then next (← get).noted else failAt i
  | stretch appetite min max test, restoring, follower, next, i =>
    takeStretch text appetite min max test restoring follower next i
  | repeated appetite min max p, restoring, _, next, i =>
    let more := match max with
      | some n => n - min
      | none => (text.size + 1) * (text.size + 1)
    let inside := match appetite with
      | .possessive => restoring
      | _ => true
    takeRounds appetite min more restoring (run text p inside none) next i

/-! ### Whole patterns -/

/-- A pattern as it is written for whole texts. -/
structure Whole where
  pattern : Pattern
  /-- A number of characters that every text has which the pattern matches. -/
  least : Nat

/-- How a pattern matches a text from its beginning to its end. -/
inductive Outcome where
  | matched
  | unmatched
  /-- It matches, but a group ends before it begins. -/
  | crossed
deriving DecidableEq, Repr

/-- Matches a pattern against a text from its beginning to its end. -/
def Whole.judge (p : Whole) (s : String) : Outcome :=
  let text := s.toList.toArray
  if text.size < p.least then .unmatched
  else
    let finish : Continuation := fun i => if i == text.size then stop i else return false
    let (found, trace) := (run text p.pattern false none finish 0).run {}
    if !found then .unmatched else if trace.isCrossed then .crossed else .matched

end DecisionTable.Pattern
