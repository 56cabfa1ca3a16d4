import DecisionTable.Value.Basic

/-!
# Reading values from text

An operand is text. To compare it with a value it is read as a value of the same kind.
-/

namespace DecisionTable

/-- Reads a truth value: `true` or `1`, `false` or `0`, in either case. -/
def readBoolean? (s : String) : Option Bool :=
  let word := (Text.strip s).map Char.toLower
  if word == "true" || word == "1" then some true
  else if word == "false" || word == "0" then some false
  else none

def readIntegerValue (s : String) : Except ValueFault Int :=
  match readInteger s with
  | .ok n => .ok n
  | .error .malformed => .error (.notInteger s)
  | .error (.tooLong digits) => .error (.integerTooLong digits)

/-- Reads a floating-point number, with the fault of values. -/
def readFloatValue (s : String) : Except ValueFault Binary64 :=
  match Binary64.read? s with
  | some x => .ok x
  | none => .error (.notFloat s)

/-- Reads a packed day: four characters below U+0100, two for the year, one for the month and one
for the day. No other text is read as a day. -/
def readPackedDate? (s : String) : Option Date :=
  match s.toList.map Char.toNat with
  | [high, low, month, day] =>
    if high < 256 && low < 256 && 1 ≤ month && month ≤ 12 && day < 256 then
      some ⟨256 * high + low, month, day⟩
    else none
  | _ => none

/-- The characters of a text, each as a text of its own. -/
def charactersOf (s : String) : List Value :=
  s.toList.map fun c => .text (String.singleton c)

/-- Reads a text as a value of the same kind as a sample. -/
def Value.readLike (sample : Value) (s : String) : Except ValueFault Value :=
  match sample with
  | .bool _ =>
    match readBoolean? s with
    | some b => .ok (.bool b)
    | none => .error (.notBoolean s)
  | .int _ => (readIntegerValue s).map .int
  | .float _ => (readFloatValue s).map .float
  | .text _ => .ok (.text s)
  | .decimal _ =>
    match Decimal.read? s with
    | some d => .ok (.decimal d)
    | none => .error (.notOfKind s .decimal)
  | .date _ =>
    match readPackedDate? s with
    | some d => .ok (.date d)
    | none => .error (.notOfKind s .date)
  | .list _ => .ok (.list (charactersOf s))
  | .group _ => .ok (.group (charactersOf s))
  | .null => .error (.notOfKind s .null)
  | .bytes _ => .error (.notOfKind s .bytes)

end DecisionTable
