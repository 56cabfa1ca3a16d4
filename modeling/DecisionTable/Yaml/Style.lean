import DecisionTable.Json.Parse
import DecisionTable.Yaml.Cursor

/-!
# Styles of YAML scalars

A scalar is written plain if it can be and if a plain scalar of these characters is no number, date,
truth value or other special word. Otherwise it stands between single quotes, and between double
ones if it holds a character that only an escape can write, or spaces beside a line break.

This is a part of the writer that stands for a general one of YAML. No theorem rests on it.
-/

namespace DecisionTable.Yaml

/-! ### Plain scalars with another meaning -/

/-- The words that stand for a truth value, for nothing, for a merge and for a value. -/
def specialWords : List String :=
  ["yes", "Yes", "YES", "no", "No", "NO", "true", "True", "TRUE", "false", "False", "FALSE",
   "on", "On", "ON", "off", "Off", "OFF", "", "~", "null", "Null", "NULL", "<<", "="]

/-- Whether a character is a decimal digit or an underscore, which may stand among digits. -/
def isDigitOrGap (c : Char) : Bool :=
  c.isDigit || c == '_'

/-- The characters without the sign at the front. -/
def dropSign : List Char → List Char
  | '+' :: rest => rest
  | '-' :: rest => rest
  | cs => cs

/-- What follows a decimal number at the front: a digit, then digits and underscores. -/
def afterDigits? : List Char → Option (List Char)
  | c :: rest => if c.isDigit then some (rest.dropWhile isDigitOrGap) else none
  | [] => none

/-- What follows groups of sixty, each a colon and a number below sixty. There is at least one. -/
def afterSixties? : List Char → Option (List Char)
  | ':' :: a :: b :: rest =>
    if !a.isDigit then none
    else if b.isDigit then
      if a ≤ '5' then some ((afterSixties? rest).getD rest) else none
    else some ((afterSixties? (b :: rest)).getD (b :: rest))
  | [':', a] => if a.isDigit then some [] else none
  | _ => none

/-- Whether there is nothing, or an exponent with a sign. -/
def isExponent : List Char → Bool
  | [] => true
  | mark :: sign :: digits =>
    (mark == 'e' || mark == 'E') && (sign == '+' || sign == '-') && !digits.isEmpty
      && digits.all Char.isDigit
  | _ => false

/-- Whether there are characters, and all of them satisfy `p`. -/
def isRun (p : Char → Bool) (cs : List Char) : Bool :=
  !cs.isEmpty && cs.all p

/-- Whether characters are a whole number: in base two, eight, ten, sixteen or sixty. -/
def isWhole (cs : List Char) : Bool :=
  match dropSign cs with
  | ['0'] => true
  | '0' :: 'b' :: rest => isRun (fun c => c == '0' || c == '1' || c == '_') rest
  | '0' :: 'x' :: rest => isRun (fun c => (Json.hexValue? c).isSome || c == '_') rest
  | '0' :: rest => isRun (fun c => ('0' ≤ c && c ≤ '7') || c == '_') rest
  | digits =>
    match afterDigits? digits with
    | some [] => true
    | some rest => afterSixties? rest == some []
    | none => false

/-- Whether characters are a number with a point: decimal, or in base sixty, or no finite one. -/
def isReal (cs : List Char) : Bool :=
  let body := dropSign cs
  let fraction := match afterDigits? body with
    | some ('.' :: rest) => isExponent (rest.dropWhile isDigitOrGap)
    | some rest =>
      match afterSixties? rest with
      | some ('.' :: rest) => rest.all isDigitOrGap
      | _ => false
    | none => false
  let bare := match cs with
    | '.' :: rest => (afterDigits? rest).any isExponent
    | _ => false
  fraction || bare || [".inf", ".Inf", ".INF"].contains (String.ofList body)
    || [".nan", ".NaN", ".NAN"].contains (String.ofList cs)

/-- What follows between `least` and `most` digits. -/
def afterCount? (least most : Nat) (cs : List Char) : Option (List Char) :=
  let n := ((cs.take most).takeWhile Char.isDigit).length
  if least ≤ n then some (cs.drop n) else none

/-- What follows the given character. -/
def afterChar? (x : Char) : List Char → Option (List Char)
  | c :: rest => if c == x then some rest else none
  | [] => none

/-- Whether characters are a time zone, or nothing. -/
def isZone (cs : List Char) : Bool :=
  match cs.dropWhile isGap with
  | [] => cs.isEmpty
  | ['Z'] => true
  | sign :: rest =>
    (sign == '+' || sign == '-') && match afterCount? 1 2 rest with
      | some [] => true
      | some (':' :: rest) => afterCount? 2 2 rest == some []
      | _ => false

/-- Whether characters are a time of day behind a date. -/
def isTime (cs : List Char) : Bool :=
  let start := match cs with
    | 'T' :: rest => some rest
    | 't' :: rest => some rest
    | _ => if startsWith isGap cs then some (cs.dropWhile isGap) else none
  let seconds := do
    let minutes ← afterChar? ':' (← afterCount? 1 2 (← start))
    afterCount? 2 2 (← afterChar? ':' (← afterCount? 2 2 minutes))
  match seconds with
  | none => false
  | some ('.' :: rest) => isZone (rest.dropWhile Char.isDigit)
  | some rest => isZone rest

/-- Whether characters are a date, with or without a time. -/
def isDate (cs : List Char) : Bool :=
  let month := do afterChar? '-' (← afterCount? 4 4 cs)
  let exact := do afterCount? 2 2 (← afterChar? '-' (← afterCount? 2 2 (← month)))
  let loose := do afterCount? 1 2 (← afterChar? '-' (← afterCount? 1 2 (← month)))
  exact == some [] || loose.any isTime

/-- Whether a plain scalar of these characters means something else than their text. -/
def isSpecial (cs : List Char) : Bool :=
  specialWords.contains (String.ofList cs) || isWhole cs || isReal cs || isDate cs

/-! ### What a style can hold -/

def isShown (c : Char) : Bool :=
  ' ' ≤ c && c ≤ '~'

/-- Whether a scalar goes over several lines. -/
def isMultiline (cs : List Char) : Bool :=
  cs.any fun c => isBreak c && c != '\r'

/-- Whether the characters after the first one hold no colon at the end of a word and no number sign
at the beginning of one; `before` is the first one. -/
def hasPlainBody : Char → List Char → Bool
  | _, [] => true
  | before, c :: rest =>
    !(c == ':' && endsWord rest) && !(c == '#' && isSeparator before) && hasPlainBody c rest

/-- Whether a scalar can be written without quotes. -/
def allowsPlain (cs : List Char) : Bool :=
  match cs with
  | [] => false
  | c :: rest =>
    cs.all isShown && c != ' ' && cs.getLast? != some ' '
      && !("---".toList.isPrefixOf cs || "...".toList.isPrefixOf cs)
      && !"#,[]\x7b\x7d&*!|>'\"%@\x60".toList.contains c
      && !("?:-".toList.contains c && endsWord rest)
      && hasPlainBody c rest

/-- Whether a space and a line break stand side by side. -/
def hasSpaceAtBreak : List Char → Bool
  | a :: b :: rest =>
    (a == ' ' && b == '\n') || (a == '\n' && b == ' ') || hasSpaceAtBreak (b :: rest)
  | _ => false

/-- Whether a scalar can be written between single quotes. -/
def allowsSingle (cs : List Char) : Bool :=
  cs.all (fun c => c == '\n' || isShown c) && !hasSpaceAtBreak cs

/-- How a scalar is written. -/
inductive Style where
  | plain
  | single
  | double
deriving DecidableEq, Repr

def styleOf (cs : List Char) : Style :=
  if allowsPlain cs && !isSpecial cs then .plain
  else if allowsSingle cs then .single
  else .double

/-- Whether the name of a part is written before its colon without a mark of its own: it is not
empty, has one line, and is shorter than 123 characters. -/
def isSimpleKey (cs : List Char) : Bool :=
  !cs.isEmpty && !isMultiline cs && cs.length < 123

end DecisionTable.Yaml
