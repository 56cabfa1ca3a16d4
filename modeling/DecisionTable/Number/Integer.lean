import DecisionTable.Text.Blank
import DecisionTable.Text.DecimalDigit

/-!
# Integers in text

An integer is read from decimal digits of any script, with a sign in front and single underscores
between digits; blanks around it do not count. Long numerals are refused in both directions, since
converting them takes quadratic time.
-/

namespace DecisionTable

/-- Why a text is no integer. -/
inductive IntegerFault where
  /-- The text is not written as an integer. -/
  | malformed
  /-- The text begins with a run of more digits than are converted. -/
  | tooLong (digits : Nat)
deriving DecidableEq, Repr

/-- The largest number of digits that is converted between integers and text. -/
def maxIntegerDigits : Nat := 4300

/-- What is wrong with a numeral of too many digits, in words. -/
def longNumeralMessage (digits : Nat) : String :=
  s!"Exceeds the limit ({maxIntegerDigits} digits) for integer string conversion: "
    ++ s!"value has {digits} digits; use sys.set_int_max_str_digits() to increase the limit"

/-- The blanks around a numeral: all but the information separators U+001C to U+001F. -/
def isNumeralBlank (c : Char) : Bool :=
  Text.isBlank c && !(0x1C ≤ c.toNat && c.toNat ≤ 0x1F)

/-- Splits a sign off; `true` stands for minus. -/
def splitSign : List Char → Bool × List Char
  | '-' :: rest => (true, rest)
  | '+' :: rest => (false, rest)
  | cs => (false, cs)

/-- Whether every underscore of a run of digits and underscores stands between two digits, and the
run has a digit. The flag tells whether a digit stands right before the run. -/
def wellSeparated (afterDigit : Bool) : List Char → Bool
  | [] => afterDigit
  | c :: rest =>
    if c == '_' then afterDigit && wellSeparated false rest else wellSeparated true rest

/-- Reads an integer. The length of the leading run of digits is judged before what follows it. -/
def readInteger (s : String) : Except IntegerFault Int :=
  let (negative, body) := splitSign (Text.trimBoth isNumeralBlank s.toList)
  let isRun := fun c => Text.isDigit c || c == '_'
  let run := body.takeWhile isRun
  let digits := run.filter Text.isDigit
  if !wellSeparated false run then .error .malformed
  else if digits.length > maxIntegerDigits then .error (.tooLong digits.length)
  else if !(body.dropWhile isRun).isEmpty then .error .malformed
  else
    let n : Int := Text.digitsValue digits
    .ok (if negative then -n else n)

/-- The decimal text of an integer, unless it has too many digits. -/
def integerText? (n : Int) : Option String :=
  let digits := toString n.natAbs
  if digits.length > maxIntegerDigits then none
  else some (if n < 0 then "-" ++ digits else digits)

end DecisionTable
