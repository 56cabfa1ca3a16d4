import DecisionTable.Text.Case
import DecisionTable.Text.DecimalDigit
import DecisionTable.Text.WordCharacter

/-!
# Patterns

A pattern describes texts. It is built from tests of one character, anchors, groups, alternatives
and repetitions; groups can be referred to, and a part can be looked for without being consumed.
Whether letters are told apart by case and which characters count as digits or words is settled in
each part of a pattern, so a pattern has no settings from outside.

Characters are named by their code points, so that a pattern can also name codes that stand for no
character; these match nothing.
-/

namespace DecisionTable

/-- How letters of different case are compared. -/
inductive Folding where
  | exact
  /-- As the same character if they are letters `A` to `Z`. -/
  | ascii
  | unicode
deriving DecidableEq, Repr

/-- The families of characters that have names. -/
inductive CharFamily where
  | digit | space | word
deriving DecidableEq, Repr

/-- A member of a character class. -/
inductive ClassItem where
  | code (n : Nat)
  /-- The characters between two code points, both included. -/
  | range (low high : Nat)
  /-- The characters of a family, or those outside it. -/
  | family (f : CharFamily) (asciiOnly positive : Bool)
deriving DecidableEq, Repr

/-- A test of one character. -/
inductive CharTest where
  /-- Every character; line breaks only if so stated. -/
  | any (lineBreaks : Bool)
  /-- The character of a code point, or every other one. -/
  | code (fold : Folding) (positive : Bool) (n : Nat)
  /-- The members of a class, or all other characters. -/
  | oneOf (fold : Folding) (positive : Bool) (items : List ClassItem)
deriving DecidableEq, Repr

/-- A condition on a place in a text. -/
inductive Anchor where
  /-- The place is at the beginning of the text, or of a line if so stated. -/
  | start (ofLine : Bool)
  /-- The place is at the end, or before a final line break; before any line break if so stated. -/
  | finish (ofLine : Bool)
  /-- The place is at the end of the text. -/
  | textEnd
  /-- Exactly one of the characters beside the place is a word character, or not so. -/
  | wordBoundary (asciiOnly positive : Bool)
deriving DecidableEq, Repr

/-- How many repetitions are tried first. -/
inductive Appetite where
  | greedy
  | lazy
  /-- As many as possible, and no others. -/
  | possessive
deriving DecidableEq, Repr

/-- A pattern. A sequence is built with `seq` and ends in `empty`, and alternatives are built with
`alt`, the last one standing on the right. -/
inductive Pattern where
  /-- Matches nothing but the empty text. -/
  | empty
  | one (test : CharTest)
  | anchor (a : Anchor)
  | seq (p q : Pattern)
  | alt (p q : Pattern)
  /-- A pattern whose text is remembered under a number. -/
  | group (number : Nat) (p : Pattern)
  /-- The text that a group has matched. -/
  | reference (fold : Folding) (number : Nat)
  /-- One pattern if a group has matched, another one if not. -/
  | conditional (number : Nat) (yes no : Pattern)
  /-- A condition on the text that follows the place. -/
  | lookAhead (positive : Bool) (p : Pattern)
  /-- A condition on the text of the given length before the place. -/
  | lookBehind (width : Nat) (positive : Bool) (p : Pattern)
  /-- A pattern of which only the first way to match counts. -/
  | atomic (p : Pattern)
  /-- Several characters that pass one test, with their least and greatest number. -/
  | stretch (appetite : Appetite) (min : Nat) (max : Option Nat) (test : CharTest)
  /-- A repeated pattern, with the least and the greatest number of repetitions. -/
  | repeated (appetite : Appetite) (min : Nat) (max : Option Nat) (p : Pattern)
deriving Repr

/-! ### Tests of one character -/

namespace Folding

/-- Whether a code point stands for a character. -/
def isScalar (n : Nat) : Bool :=
  n < 0xD800 || (0xDFFF < n && n < 0x110000)

/-- The lower-case form of a character. -/
def lower (fold : Folding) (c : Char) : Char :=
  match fold with
  | exact => c
  | ascii => c.toLower
  | unicode => Text.lowerOf c

/-- Whether the character of a code point has another form in upper or lower case. -/
def isCased (fold : Folding) (n : Nat) : Bool :=
  match fold with
  | exact => false
  | ascii => n < 0x80 && (Char.ofNat n).isAlpha
  | unicode => isScalar n && Text.isCased (Char.ofNat n)

/-- The lower-case characters that count as equal to a lower-case one. -/
def siblings (fold : Folding) (c : Char) : List Char :=
  match fold with
  | unicode => c :: Text.upperSiblings c
  | _ => [c]

/-- The characters whose lower-case form is the given one. -/
def withLower (fold : Folding) (c : Char) : List Char :=
  match fold with
  | exact => [c]
  | ascii => if c.isUpper then [] else if c.isLower then [c, c.toUpper] else [c]
  | unicode => Text.withLower c

end Folding

namespace CharFamily

def contains (f : CharFamily) (asciiOnly : Bool) (c : Char) : Bool :=
  match f, asciiOnly with
  | digit, true => c.isDigit
  | digit, false => Text.isDigit c
  | space, true => c == ' ' || (9 ≤ c.toNat && c.toNat ≤ 13)
  | space, false => Text.isBlank c
  | word, true => Text.isAsciiWordCharacter c
  | word, false => Text.isWordCharacter c

end CharFamily

namespace ClassItem

/-- The first code point that does not fit into sixteen bits. Above it, single members of a class
are compared as they stand, and ranges with both cases of a character. -/
def wideStart : Nat := 0x10000

/-- Whether comparing by case can change what the member stands for. -/
def isCased (fold : Folding) : ClassItem → Bool
  | code n => fold.isCased n || wideStart ≤ n
  | range low high =>
    wideStart ≤ high || (List.range (high + 1 - low)).any fun i => fold.isCased (low + i)
  | family .. => false

/-- Whether the member contains a character as it stands. -/
def contains (c : Char) : ClassItem → Bool
  | code n => c.toNat == n
  | range low high => low ≤ c.toNat && c.toNat ≤ high
  | family f asciiOnly positive => f.contains asciiOnly c == positive

/-- Whether the member contains a character, given in lower case, up to case. -/
def containsFolded (fold : Folding) (c : Char) : ClassItem → Bool
  | code n =>
    if wideStart ≤ n then c.toNat == n
    else if Folding.isScalar n then (fold.siblings (fold.lower (Char.ofNat n))).contains c
    else false
  | range low high =>
    let within := fun (limit : Nat) (x : Char) => low ≤ x.toNat && x.toNat ≤ limit
    (fold.siblings c).any (fun k => (fold.withLower k).any (within (min high (wideStart - 1))))
      || (wideStart ≤ high && (within high c || within high (Text.upperOf c)))
  | family f asciiOnly positive => f.contains asciiOnly c == positive

end ClassItem

namespace CharTest

/-- The test for the members of a class. Case is left aside only where it matters. -/
def ofClass (fold : Folding) (positive : Bool) (items : List ClassItem) : CharTest :=
  oneOf (if items.any (·.isCased fold) then fold else .exact) positive items

def accepts (c : Char) : CharTest → Bool
  | any lineBreaks => lineBreaks || c != '\n'
  | code fold positive n =>
    (if fold.isCased n then (fold.siblings (fold.lower (Char.ofNat n))).contains (fold.lower c)
      else c.toNat == n) == positive
  | oneOf .exact positive items => items.any (·.contains c) == positive
  | oneOf fold positive items =>
    items.any (·.containsFolded fold (fold.lower c)) == positive

/-- Whether the test asks for one character as it stands. -/
def isLiteral : CharTest → Bool
  | code fold positive n => positive && !fold.isCased n
  | _ => false

/-- Whether the test asks for one character or the members of a class as they stand. -/
def isExact : CharTest → Bool
  | oneOf fold .. => fold == .exact
  | test => test.isLiteral

/-- Whether the test compares several characters up to case: those of a class, or those that are the
same letter in more than two forms. -/
def isFoldedClass : CharTest → Bool
  | any _ => false
  | code fold _ n => fold.isCased n && 1 < (fold.siblings (fold.lower (Char.ofNat n))).length
  | oneOf fold .. => fold != .exact

end CharTest

/-! ### How patterns begin -/

namespace Pattern

def isAlternatives : Pattern → Bool
  | alt .. => true
  | _ => false

def isEmpty : Pattern → Bool
  | empty => true
  | _ => false

/-- The test of a pattern that consists of the test of one character. -/
def onlyTest? : Pattern → Option CharTest
  | one test => some test
  | seq p empty => p.onlyTest?
  | _ => none

/-- What a pattern begins with: nothing at all, or something, which may be the test of one
character. -/
def opening : Pattern → Option (Option CharTest)
  | empty => none
  | one test => some (some test)
  | seq p q => p.opening.or q.opening
  | _ => some none

end Pattern

end DecisionTable
