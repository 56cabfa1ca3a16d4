import DecisionTable.Number.Decimal

/-!
# Binary floating-point numbers

A floating-point number of 64 bits is a mantissa of at most 53 bits times a power of two, an
infinity or no number. Numbers come from decimal text, rounded to the nearest one with ties to the
even mantissa, and go back to the decimal text with the fewest digits that rounds to the same
number. All of it is exact arithmetic on natural numbers.
-/

namespace DecisionTable

/-- A binary floating-point number of 64 bits. -/
inductive Binary64 where
  | nan
  | infinite (negative : Bool)
  /-- The mantissa times a power of two; zero has a sign as well. -/
  | finite (negative : Bool) (mantissa : Nat) (exponent : Int)
deriving DecidableEq, Repr

namespace Binary64

/-- The least power of two. -/
def minExponent : Int := -1074

/-- The greatest power of two. -/
def maxExponent : Int := 971

/-- The quotient rounded to the nearest natural number, to the even one if two are nearest. -/
def roundQuotient (num den : Nat) : Nat :=
  let q := num / den
  match compare (2 * (num % den)) den with
  | .lt => q
  | .gt => q + 1
  | .eq => q + q % 2

/-! ### Reading -/

/-- The floating-point number nearest to a positive quotient. -/
def ofQuotient (negative : Bool) (num den : Nat) : Binary64 :=
  -- the quotient divided by two to this power has 52 or 53 bits before the point
  let estimate : Int := (num.log2 : Int) - den.log2 - 52
  let scaled := fun (e : Int) => (num * Nat.pow 2 (-e).toNat, den * Nat.pow 2 e.toNat)
  let (n, d) := scaled estimate
  let exponent := max (if n < Nat.pow 2 52 * d then estimate - 1 else estimate) minExponent
  let (n, d) := scaled exponent
  let mantissa := roundQuotient n d
  let (mantissa, exponent) :=
    if mantissa == Nat.pow 2 53 then (Nat.pow 2 52, exponent + 1) else (mantissa, exponent)
  if maxExponent < exponent then .infinite negative else .finite negative mantissa exponent

/-- The floating-point number nearest to a coefficient times a power of ten. What is far beyond the
range is decided by the place of the leading digit alone. -/
def ofScientific (negative : Bool) (coefficient : Nat) (exponent : Int) : Binary64 :=
  let point := exponent + Decimal.digitCount coefficient
  if coefficient == 0 || point < -330 then .finite negative 0 minExponent
  else if 310 < point then .infinite negative
  else ofQuotient negative (coefficient * Nat.pow 10 exponent.toNat) (Nat.pow 10 (-exponent).toNat)

/-- Drops the underscores of a numeral, each of which has to stand between two digits. -/
def dropUnderscores? (previous : Char) : List Char → Option (List Char)
  | [] => if previous == '_' then none else some []
  | c :: rest =>
    if c == '_' then
      if Text.isDigit previous then dropUnderscores? c rest else none
    else if previous == '_' && !Text.isDigit c then none
    else (dropUnderscores? c rest).map (c :: ·)

/-- Reads a floating-point number: digits of any script with an optional point and exponent, or the
name of an infinity or of no number in either case, with a sign in front. -/
def read? (s : String) : Option Binary64 := do
  let numeral := (Text.trimBoth isNumeralBlank s.toList).map Text.toAsciiDigit
  let (negative, body) := splitSign (← dropUnderscores? ' ' numeral)
  let name := String.ofList (body.map Char.toLower)
  if name == "nan" then some .nan
  else if name == "inf" || name == "infinity" then some (.infinite negative)
  else do
    let (coefficient, exponent) ← readScientific? body
    some (ofScientific negative coefficient exponent)

/-! ### Exact value -/

/-- The decimal number of the same value. -/
def toDecimal : Binary64 → Decimal
  | nan => .nan false false 0
  | infinite negative => .infinite negative
  | finite negative m e =>
    .finite negative (m * Nat.pow 2 e.toNat * Nat.pow 5 (-e).toNat) (-((-e).toNat : Int))

/-! ### Writing -/

/-- Whether a coefficient times a power of ten rounds to the mantissa `m` times two to the `e`: it
lies between the middles to the two neighbours, which belong to the even mantissa. -/
def roundsTo (m : Nat) (e : Int) (coefficient : Nat) (exponent : Int) : Bool :=
  -- the number below a power of two is only half as far away
  let low := if m == Nat.pow 2 52 && minExponent < e then 4 * m - 1 else 4 * m - 2
  let high := 4 * m + 2
  let value := coefficient * Nat.pow 10 exponent.toNat * Nat.pow 2 (2 - e).toNat
  let scale := Nat.pow 2 (e - 2).toNat * Nat.pow 10 (-exponent).toNat
  if m % 2 == 0 then low * scale ≤ value && value ≤ high * scale
  else low * scale < value && value < high * scale

/-- Of the two neighbours of a number among the multiples of a power of ten, the nearest one that
rounds to the number; the even one if both are equally near. -/
def nearestMultiple? (m : Nat) (e : Int) (exponent : Int) : Option Nat :=
  let num := m * Nat.pow 2 e.toNat * Nat.pow 10 (-exponent).toNat
  let den := Nat.pow 2 (-e).toNat * Nat.pow 10 exponent.toNat
  let below := num / den
  let nearest := roundQuotient num den
  let other := if nearest == below then below + 1 else below
  [nearest, other].find? fun c => roundsTo m e c exponent

/-- The power of ten above the leading digit of a positive number. -/
def pointPlace (m : Nat) (e : Int) : Int :=
  let estimate := Int.fdiv (((m.log2 : Int) + e) * 30103) 100000
  let isAbove := fun (k : Int) =>
    decide (m * Nat.pow 2 e.toNat * Nat.pow 10 (-k).toNat
      < Nat.pow 2 (-e).toNat * Nat.pow 10 k.toNat)
  ([estimate, estimate + 1].find? isAbove).getD (estimate + 2)

/-- The fewest digits that round to a positive number, and the place of the point behind the first
of them. Should seventeen digits not suffice, all digits are given. -/
def shortestDigits (m : Nat) (e : Int) : List Char × Int :=
  let point := pointPlace m e
  let found := (List.range 17).findSome? fun (n : Nat) =>
    let exponent := point - (n + 1 : Nat)
    (nearestMultiple? m e exponent).map fun c => (c, exponent)
  let (coefficient, exponent) :=
    found.getD (m * Nat.pow 2 e.toNat * Nat.pow 5 (-e).toNat, -((-e).toNat : Int))
  let digits := (toString coefficient).toList
  let significant := (digits.reverse.dropWhile (· == '0')).reverse
  (significant, exponent + digits.length)

/-- Writes digits with the point at the given place: positionally if the leading digit has an
exponent from -4 to 15, with at least one digit after the point, and otherwise with an exponent that
has a sign and at least two digits. -/
def layout (digits : List Char) (point : Int) : String :=
  if -4 < point && point ≤ 16 then
    if point ≤ 0 then "0." ++ String.ofList (List.replicate (-point).toNat '0' ++ digits)
    else
      let whole := digits.take point.toNat
      let fraction := digits.drop point.toNat
      String.ofList (whole ++ List.replicate (point.toNat - whole.length) '0') ++ "."
        ++ (if fraction.isEmpty then "0" else String.ofList fraction)
  else
    let power := point - 1
    String.ofList (digits.take 1)
      ++ (if 1 < digits.length then "." ++ String.ofList (digits.drop 1) else "")
      ++ (if power < 0 then "e-" else "e+") ++ Text.zeroPadded 2 power.natAbs

/-- The text of a floating-point number. -/
def text : Binary64 → String
  | nan => "nan"
  | infinite negative => if negative then "-inf" else "inf"
  | finite negative m e =>
    let (digits, point) := if m == 0 then (['0'], 1) else shortestDigits m e
    (if negative then "-" else "") ++ layout digits point

end Binary64

end DecisionTable
