import DecisionTable.Text.Identifier

/-!
# Tokens of patterns

A pattern is taken apart into tokens, a token being a character or a backslash with the character
behind it. Numerals and names are read from tokens.
-/

namespace DecisionTable

/-- Why a text is no pattern. -/
inductive PatternFault where
  | invalid
  /-- A number of repetitions is too large to be counted. -/
  | tooManyRepetitions
  /-- A number of repetitions has too many digits. -/
  | numeralTooLong (digits : Nat)
  /-- Both the small and the large character families are asked for. -/
  | incompatibleFamilies
  /-- A condition looks too far back. -/
  | tooFarBack
  /-- A group has ended before its beginning. This only shows with a text. -/
  | crossedGroup
deriving DecidableEq, Repr

namespace Pattern

/-- A token of a pattern. -/
inductive Token where
  /-- A character that stands for itself or for a construct. -/
  | plain (c : Char)
  | escaped (c : Char)
  /-- A backslash at the end, which is a fault as soon as it comes next. -/
  | broken
deriving DecidableEq, Repr

def tokens : List Char → List Token
  | [] => []
  | ['\\'] => [.broken]
  | '\\' :: c :: rest => .escaped c :: tokens rest
  | c :: rest => .plain c :: tokens rest

def Token.chars : Token → List Char
  | plain c => [c]
  | escaped c => ['\\', c]
  | broken => ['\\']

/-! ### Numerals and names -/

def Token.isDigit : Token → Bool
  | plain c => c.isDigit
  | _ => false

/-- The character of a token without a backslash. -/
def Token.plain? : Token → Option Char
  | plain c => some c
  | _ => none

/-- At most `count` characters from the front that satisfy the condition, and the tokens behind
them. -/
def takeChars (p : Char → Bool) : Nat → List Token → List Char × List Token
  | count + 1, .plain c :: rest =>
    if p c then
      let (cs, after) := takeChars p count rest
      (c :: cs, after)
    else ([], .plain c :: rest)
  | _, ts => ([], ts)

def isOctal (c : Char) : Bool :=
  '0' ≤ c && c ≤ '7'

def hexDigitValue (c : Char) : Nat :=
  if c.isDigit then c.toNat - 48 else c.toLower.toNat - 87

def isHexDigit (c : Char) : Bool :=
  c.isDigit || ('a' ≤ c && c ≤ 'f') || ('A' ≤ c && c ≤ 'F')

def numberIn (base : Nat) (digits : List Char) : Nat :=
  digits.foldl (fun n c => base * n + hexDigitValue c) 0

/-- The characters before a closing character, and the tokens behind it. At least one character
has to stand there. -/
def takeName (closing : Char) (ts : List Token) : Except PatternFault (List Char × List Token) :=
  let inside := ts.takeWhile (· != .plain closing)
  match ts.dropWhile (· != .plain closing) with
  | _ :: rest =>
    if inside.isEmpty then .error .invalid else .ok (inside.flatMap Token.chars, rest)
  | [] => .error .invalid

/-- Reads an identifier up to a closing character. -/
def takeIdentifier (closing : Char) (ts : List Token) :
    Except PatternFault (List Char × List Token) := do
  let (name, rest) ← takeName closing ts
  if Text.isIdentifier name then .ok (name, rest) else .error .invalid

end Pattern

end DecisionTable
