import DecisionTable.Pattern.Basic

/-!
# Parts of patterns

A sequence consists of parts, each of which has a width: the least and the greatest number of
characters that it matches. Alternatives are simplified when they have been read: parts with which
all of them begin are read once in front of them, and alternatives for single characters become a
class.
-/

namespace DecisionTable

namespace Pattern

/-- The least and the greatest number of characters that something matches. -/
structure Width where
  low : Nat
  high : Nat
deriving DecidableEq, Repr

/-- The width that stands for any number of characters. -/
def Width.unlimited : Nat := Nat.pow 2 32 - 1

/-- A width cut to numbers that are told apart; the least number is never unlimited. -/
def Width.cut (w : Width) : Width :=
  ⟨min w.low (unlimited - 1), min w.high unlimited⟩

/-- The width of two parts, one after the other. -/
def Width.plus (v w : Width) : Width :=
  ⟨v.low + w.low, v.high + w.high⟩

def Width.either (v w : Width) : Width :=
  ⟨min v.low w.low, max v.high w.high⟩

def Width.times (w : Width) (least : Nat) (most : Option Nat) : Width :=
  ⟨w.low * least, match most with
    | some n => w.high * n
    | none => w.high * unlimited⟩

/-- A part of a sequence. -/
structure Part where
  pattern : Pattern
  width : Width
  /-- Whether it is a repetition, which cannot be repeated as it stands. -/
  isRepetition : Bool := false

/-- An item of a sequence as it is written. -/
structure Item where
  /-- The parts, several ones only in brackets. -/
  parts : List Part
  /-- Whether it is written in brackets that only hold the parts together. -/
  bracketed : Bool := false

/-! ### Sequences and alternatives -/

def ofParts (parts : List Part) : Pattern :=
  parts.foldr (fun part p => .seq part.pattern p) .empty

def widthOf (parts : List Part) : Width :=
  (parts.foldl (fun (w : Width) part => w.plus part.width) ⟨0, 0⟩).cut

/-- Whether two parts are the same test, condition or reference. Parts with parts of their own are
not compared. -/
def Part.sameLeaf (a b : Part) : Bool :=
  match a.pattern, b.pattern with
  | .one s, .one t => s == t
  | .anchor s, .anchor t => s == t
  | .reference f m, .reference g n => f == g && m == n
  | _, _ => false

/-- The part with which all alternatives begin, and what follows it in each of them. -/
def commonFirst? : List (List Part) → Option (Part × List (List Part))
  | [] => none
  | [] :: _ => none
  | (first :: rest) :: others =>
    let follow := others.filterMap fun alternative => match alternative with
      | part :: parts => if first.sameLeaf part then some parts else none
      | [] => none
    if follow.length == others.length then some (first, rest :: follow) else none

/-- Takes the parts with which all alternatives begin. The first argument bounds their number. -/
def takeCommon : Nat → List (List Part) → List Part × List (List Part)
  | 0, alternatives => ([], alternatives)
  | n + 1, alternatives =>
    match commonFirst? alternatives with
    | some (first, rest) =>
      let (more, rest) := takeCommon n rest
      (first :: more, rest)
    | none => ([], alternatives)

/-- The members of the class that an alternative for single characters stands for. -/
def classMembers? : List Part → Option (List ClassItem)
  | [part] =>
    match part.pattern with
    | .one (.code _ true n) => some [.code n]
    | .one (.oneOf _ true items) => some items
    | _ => none
  | _ => none

def joinAlternatives (fold : Folding) (alternatives : List (List Part)) : Part :=
  match alternatives.mapM classMembers? with
  | some members => { pattern := .one (.ofClass fold true members.flatten), width := ⟨1, 1⟩ }
  | none =>
    let patterns := alternatives.map ofParts
    let widths := alternatives.map widthOf
    { pattern := match patterns.reverse with
        | last :: before => before.foldl (fun p q => .alt q p) last
        | [] => .empty
      width := match widths with
        | first :: others => others.foldl Width.either first
        | [] => ⟨0, 0⟩ }

def ofAlternatives (fold : Folding) : List (List Part) → List Part
  | [parts] => parts
  | alternatives =>
    let (common, rest) := takeCommon (alternatives.headD []).length alternatives
    common ++ [joinAlternatives fold rest]

/-! ### Items -/

def Item.single (pattern : Pattern) (width : Width) : Item :=
  { parts := [{ pattern, width }] }

def testItem (test : CharTest) : Item :=
  .single (.one test) ⟨1, 1⟩

def anchorItem (a : Anchor) : Item :=
  .single (.anchor a) ⟨0, 0⟩

/-- Whether an item can be repeated. Conditions on the place and repetitions cannot, unless they are
in brackets. -/
def Item.isRepeatable (item : Item) : Bool :=
  item.bracketed || item.parts.all fun part => match part.pattern with
    | .anchor _ => false
    | _ => !part.isRepetition

def repeatParts (appetite : Appetite) (min : Nat) (max : Option Nat) (parts : List Part) : Part :=
  let p := ofParts parts
  { pattern := match p.onlyTest? with
      | some test => .stretch appetite min max test
      | none => .repeated appetite min max p
    width := (widthOf parts).times min max
    isRepetition := true }

end Pattern

end DecisionTable
