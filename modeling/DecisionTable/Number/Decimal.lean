import DecisionTable.Number.Integer

/-!
# Decimal numbers

A decimal number keeps the digits and the power of ten it was written with, so `2.50` and `2.5` are
two numbers of one value. Besides finite numbers there are the infinities and the values that are no
number; of these the signalling ones refuse every comparison, the quiet ones only ordering.

Decimals are also the common ground on which numbers of all kinds are compared: every integer and
every binary floating-point number is a decimal number, exactly.
-/

namespace DecisionTable

inductive Decimal where
  /-- The coefficient times a power of ten; zero has a sign as well. -/
  | finite (negative : Bool) (coefficient : Nat) (exponent : Int)
  | infinite (negative : Bool)
  /-- No number; a payload of zero is not written. -/
  | nan (negative signalling : Bool) (payload : Nat)
deriving DecidableEq, Repr

/-- Digits with an optional point and an optional exponent, as coefficient and power of ten. At
least one digit stands before or after the point, and an exponent has a digit. -/
def readScientific? (cs : List Char) : Option (Nat × Int) := do
  let whole := cs.takeWhile Text.isDigit
  let (fraction, rest) := match cs.dropWhile Text.isDigit with
    | '.' :: r => (r.takeWhile Text.isDigit, r.dropWhile Text.isDigit)
    | r => ([], r)
  let digits := whole ++ fraction
  if digits.isEmpty then none
  let exponent ← match rest with
    | [] => some (0 : Int)
    | mark :: r =>
      let (negative, power) := splitSign r
      if (mark == 'e' || mark == 'E') && !power.isEmpty && power.all Text.isDigit then
        let n : Int := Text.digitsValue power
        some (if negative then -n else n)
      else none
  some (Text.digitsValue digits, exponent - fraction.length)

namespace Decimal

def digitCount (n : Nat) : Nat :=
  (toString n).length

/-! ### Reading and writing -/

/-- The greatest power of ten of a leading digit. -/
def maxExponent : Int := 999999999999999999

/-- The least power of ten of a last digit. -/
def minExponent : Int := -1999999999999999997

/-- Whether a coefficient and a power of ten lie within the limits. -/
def inLimits (coefficient : Nat) (exponent : Int) : Bool :=
  minExponent ≤ exponent && exponent + digitCount coefficient - 1 ≤ maxExponent

/-- Reads a decimal number. Blanks at the ends and underscores anywhere do not count, digits of any
script do, and names of special values may be in either case. -/
def read? (s : String) : Option Decimal := do
  let (negative, body) :=
    splitSign (((Text.trimBoth Text.isBlank s.toList).filter (· != '_')).map Text.toAsciiDigit)
  let name := String.ofList (body.map Char.toLower)
  let payload? := fun (cs : List Char) =>
    if cs.all Text.isDigit then some (Text.digitsValue cs) else none
  if name == "inf" || name == "infinity" then some (.infinite negative)
  else if name.startsWith "nan" then
    (payload? (body.drop 3)).map (.nan negative false ·)
  else if name.startsWith "snan" then
    (payload? (body.drop 4)).map (.nan negative true ·)
  else do
    let (coefficient, exponent) ← readScientific? body
    if inLimits coefficient exponent then some (.finite negative coefficient exponent) else none

/-- Writes a finite number without its sign: positionally if the power of ten is not positive and
the leading digit stands at most six places after the point, otherwise with an exponent. -/
def finiteText (coefficient : Nat) (exponent : Int) : String :=
  let digits := (toString coefficient).toList
  let point := exponent + digits.length
  let withPoint := fun (n : Nat) =>
    String.ofList (digits.take n) ++
      (if n < digits.length then "." ++ String.ofList (digits.drop n) else "")
  if exponent ≤ 0 && -6 ≤ point - 1 then
    if 0 < point then withPoint point.toNat
    else "0." ++ String.ofList (List.replicate (-point).toNat '0' ++ digits)
  else
    withPoint 1 ++ "E" ++ (if point - 1 < 0 then "-" else "+") ++ toString (point - 1).natAbs

/-- The text of a decimal number, which reads back as that number. -/
def text : Decimal → String
  | finite negative coefficient exponent =>
    (if negative then "-" else "") ++ finiteText coefficient exponent
  | infinite negative => (if negative then "-" else "") ++ "Infinity"
  | nan negative signalling payload =>
    (if negative then "-" else "") ++ (if signalling then "sNaN" else "NaN")
      ++ (if payload == 0 then "" else toString payload)

/-! ### Order -/

def ofInt (n : Int) : Decimal :=
  .finite (n < 0) n.natAbs 0

/-- Compares two positive numbers exactly. Powers of ten are only multiplied out when the leading
digits stand at the same place, so the work is bounded by the digits written. -/
def compareMagnitude (c₁ : Nat) (e₁ : Int) (c₂ : Nat) (e₂ : Int) : Ordering :=
  match compare (e₁ + digitCount c₁) (e₂ + digitCount c₂) with
  | .eq => compare (c₁ * Nat.pow 10 (e₁ - e₂).toNat) (c₂ * Nat.pow 10 (e₂ - e₁).toNat)
  | different => different

/-- Compares two numbers, or gives `none` if one of them is no number. -/
def compare? : Decimal → Decimal → Option Ordering
  | nan .., _ | _, nan .. => none
  | infinite n₁, infinite n₂ => some (compare n₂ n₁)
  | infinite n, finite .. => some (if n then .lt else .gt)
  | finite .., infinite n => some (if n then .gt else .lt)
  | finite n₁ c₁ e₁, finite n₂ c₂ e₂ =>
    if c₁ == 0 && c₂ == 0 then some .eq
    else if c₁ == 0 then some (if n₂ then .gt else .lt)
    else if c₂ == 0 then some (if n₁ then .lt else .gt)
    else if n₁ != n₂ then some (if n₁ then .lt else .gt)
    else if n₁ then some (compareMagnitude c₂ e₂ c₁ e₁)
    else some (compareMagnitude c₁ e₁ c₂ e₂)

/-- Whether comparing with this value is refused even for equality. -/
def isSignalling : Decimal → Bool
  | nan _ signalling _ => signalling
  | _ => false

end Decimal

end DecisionTable
