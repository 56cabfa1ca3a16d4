import DecisionTable.Pattern.Progress

/-!
# Escapes and classes

A backslash gives the character behind it a meaning, or takes its meaning away. Some escapes stand
for families of characters or for conditions on the place, and digits refer to groups. Within a
class the escapes have meanings of their own.

Characters cannot be given by their names. In the notation that is followed here, a capital `N`
behind a backslash does that, with the name in braces; it takes the list of the names of all
characters, which is not part of this library. So this escape counts as one without a meaning,
inside and outside classes, and a pattern that holds it is invalid even where the name is that of a
character.
-/

namespace DecisionTable

namespace Pattern

def codeItem (s : Settings) (n : Nat) : Item :=
  testItem (.code s.folding true n)

/-! ### Escapes -/

/-- The code points of the escapes that name a control character, and of the backslash. -/
def controlEscapes : List (Char × Nat) :=
  [('a', 7), ('f', 12), ('n', 10), ('r', 13), ('t', 9), ('v', 11), ('\\', 92)]

def familyEscape? (c : Char) (asciiOnly : Bool) : Option ClassItem :=
  match c with
  | 'd' => some (.family .digit asciiOnly true)
  | 'D' => some (.family .digit asciiOnly false)
  | 's' => some (.family .space asciiOnly true)
  | 'S' => some (.family .space asciiOnly false)
  | 'w' => some (.family .word asciiOnly true)
  | 'W' => some (.family .word asciiOnly false)
  | _ => none

/-- Reads the code point of an escape with exactly the given number of hexadecimal digits. -/
def readHex (count : Nat) (ts : List Token) : Except PatternFault (Nat × List Token) :=
  let (digits, rest) := takeChars isHexDigit count ts
  let n := numberIn 16 digits
  if digits.length == count && n < 0x110000 then .ok (n, rest) else .error .invalid

/-- Reads the code point of an escape that is written the same way inside and outside classes. The
escape `N`, which names a character, is none of those that are read. -/
def readCodeEscape (c : Char) (ts : List Token) : Except PatternFault (Nat × List Token) :=
  match controlEscapes.lookup c with
  | some n => .ok (n, ts)
  | none =>
    match c with
    | 'x' => readHex 2 ts
    | 'u' => readHex 4 ts
    | 'U' => readHex 8 ts
    | _ => if c.isAlpha || c.isDigit then .error .invalid else .ok (c.toNat, ts)

def readClassEscape (s : Settings) (c : Char) (ts : List Token) :
    Except PatternFault (ClassItem × List Token) :=
  match familyEscape? c s.asciiOnly with
  | some item => .ok (item, ts)
  | none =>
    if c == 'b' then .ok (.code 8, ts)
    else if isOctal c then
      let (digits, rest) := takeChars isOctal 2 ts
      let n := numberIn 8 (c :: digits)
      if n ≤ 0o377 then .ok (.code n, rest) else .error .invalid
    else (readCodeEscape c ts).map fun (n, rest) => (.code n, rest)

def anchorEscape? (s : Settings) : Char → Option Anchor
  | 'A' => some (.start false)
  | 'Z' => some .textEnd
  | 'b' => some (.wordBoundary s.asciiOnly true)
  | 'B' => some (.wordBoundary s.asciiOnly false)
  | _ => none

/-- Reads a reference to a group or an octal escape: three octal digits are an octal escape, and one
or two digits the number of a group. -/
def readNumberEscape (s : Settings) (st : Progress) (c : Char) (ts : List Token) :
    Except PatternFault (Item × List Token) :=
  match takeChars Char.isDigit 1 ts with
  | ([d], rest) =>
    match if isOctal c && isOctal d then takeChars isOctal 1 rest else ([], rest) with
    | ([e], after) =>
      let n := numberIn 8 [c, d, e]
      if n ≤ 0o377 then .ok (codeItem s n, after) else .error .invalid
    | _ => (referenceItem s st (numberIn 10 [c, d])).map fun item => (item, rest)
  | _ => (referenceItem s st (numberIn 10 [c])).map fun item => (item, ts)

/-- Reads an escape outside classes. -/
def readEscape (s : Settings) (st : Progress) (c : Char) (ts : List Token) :
    Except PatternFault (Item × List Token) :=
  match anchorEscape? s c, familyEscape? c s.asciiOnly with
  | some a, _ => .ok (anchorItem a, ts)
  | none, some family => .ok (testItem (.ofClass s.folding true [family]), ts)
  | none, none =>
    if c == '0' then
      let (digits, rest) := takeChars isOctal 2 ts
      .ok (codeItem s (numberIn 8 digits), rest)
    else if c.isDigit then readNumberEscape s st c ts
    else (readCodeEscape c ts).map fun (n, rest) => (codeItem s n, rest)

/-! ### Classes -/

/-- Reads a member of a class or an end of a range. -/
def readMember (s : Settings) (t : Token) (ts : List Token) :
    Except PatternFault (ClassItem × List Token) :=
  match t with
  | .plain c => .ok (.code c.toNat, ts)
  | .escaped c => readClassEscape s c ts
  | .broken => .error .invalid

/-- Reads the members of a class up to the closing bracket; a bracket that comes first is a member.
The first argument bounds the number of members. -/
def readMembers (s : Settings) :
    Nat → List ClassItem → List Token → Except PatternFault (List ClassItem × List Token)
  | 0, _, _ => .error .invalid
  | _, _, [] => .error .invalid
  | n + 1, found, t :: ts =>
    if t == .plain ']' && !found.isEmpty then .ok (found.reverse, ts)
    else do
      let (low, rest) ← readMember s t ts
      match rest with
      | .plain '-' :: .plain ']' :: after => .ok ((.code 45 :: low :: found).reverse, after)
      | .plain '-' :: u :: after =>
        let (high, rest) ← readMember s u after
        match low, high with
        | .code a, .code b =>
          if b < a then .error .invalid else readMembers s n (.range a b :: found) rest
        | _, _ => .error .invalid
      | [.plain '-'] => .error .invalid
      | _ => readMembers s n (low :: found) rest

/-- Reads a class behind its opening bracket. A class of one character is that character. -/
def readClass (s : Settings) (ts : List Token) : Except PatternFault (Item × List Token) := do
  let (positive, ts) := match ts with
    | .plain '^' :: rest => (false, rest)
    | _ => (true, ts)
  let (items, rest) ← readMembers s (ts.length + 1) [] ts
  let test := match items.eraseDups with
    | [.code n] => .code s.folding positive n
    | members => .ofClass s.folding positive members
  .ok (testItem test, rest)

end Pattern

end DecisionTable
