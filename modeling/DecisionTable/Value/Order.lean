import DecisionTable.Value.Basic

/-!
# Equality and order of values

Numbers of all kinds are compared by their exact values, a truth value counting as zero or one.
Texts are ordered by code points, days by the calendar, lists by their first differing items. All
other values have an equality and no order.

Values have no identity beside what they are. A value that does not equal itself is therefore never
found in a list, not even in one that it was put into itself.
-/

namespace DecisionTable.Value

/-- The exact number that a value is. -/
def number? : Value → Option Decimal
  | .bool b => some (.ofInt (if b then 1 else 0))
  | .int n => some (.ofInt n)
  | .float x => some x.toDecimal
  | .decimal d => some d
  | _ => none

/-- Whether the value is a decimal that is no number. -/
def isUndefined : Value → Bool
  | .decimal (.nan ..) => true
  | _ => false

/-- Whether the value is a decimal that refuses every comparison. -/
def isSignalling : Value → Bool
  | .decimal d => d.isSignalling
  | _ => false

/-- Compares two numbers; a value that is no number compares with none. -/
def compareNumbers? : Value → Value → Option Ordering
  | .int m, .int n => some (compare m n)
  | v, w => do (← v.number?).compare? (← w.number?)

/-- Whether both values are numbers, or named as such. -/
def areNumbers (v w : Value) : Bool :=
  v.number?.isSome && w.number?.isSome

/-- Orders byte strings by their first differing bytes. -/
def compareBytes (a b : List UInt8) : Ordering :=
  compareOfLessAndEq (a.map UInt8.toNat) (b.map UInt8.toNat)

def compareDates (a b : Date) : Ordering :=
  (compare a.year b.year).then ((compare a.month b.month).then (compare a.day b.day))

mutual

/-- Whether two values are equal. -/
def equal : Value → Value → Except ValueFault Bool
  | .null, .null => .ok true
  | .text s, .text t => .ok (s == t)
  | .date d, .date e => .ok (d == e)
  | .bytes a, .bytes b => .ok (a == b)
  | .list a, .list b => if a.length == b.length then equalEach a b else .ok false
  | .group a, .group b => if a.length == b.length then equalEach a b else .ok false
  | v, w =>
    if areNumbers v w then
      if v.isSignalling || w.isSignalling then .error .undefinedComparison
      else .ok (compareNumbers? v w == some .eq)
    else .ok false

/-- Whether two lists have equal items as far as both go. -/
def equalEach : List Value → List Value → Except ValueFault Bool
  | v :: a, w :: b => do if ← equal v w then equalEach a b else .ok false
  | _, _ => .ok true

end

mutual

/-- Whether one value is above another. -/
def exceeds : Value → Value → Except ValueFault Bool
  | .text s, .text t => .ok (compare s t == .gt)
  | .date d, .date e => .ok (compareDates d e == .gt)
  | .bytes a, .bytes b => .ok (compareBytes a b == .gt)
  | .list a, .list b => exceedsEach a b
  | .group a, .group b => exceedsEach a b
  | v, w =>
    if areNumbers v w then
      if v.isUndefined || w.isUndefined then .error .undefinedComparison
      else match compareNumbers? v w with
        | some .gt => .ok true
        | none =>
          -- no number is above or below a floating-point value that is no number, yet a decimal
          -- refuses the question
          if v.kind == .decimal || w.kind == .decimal then .error .undefinedComparison
          else .ok false
        | _ => .ok false
    else .error (.unordered v.kind w.kind)

/-- Whether the first differing item of one list is above that of another, or the list goes on where
the other ends. -/
def exceedsEach : List Value → List Value → Except ValueFault Bool
  | v :: a, w :: b => do if ← equal v w then exceedsEach a b else exceeds v w
  | _ :: _, [] => .ok true
  | [], _ => .ok false

end

/-- Compares two values. A floating-point value that is no number is neither above nor below any
number, and so compares as equal. -/
def compareTo (v w : Value) : Except ValueFault Ordering := do
  let above ← v.exceeds w
  let below ← w.exceeds v
  .ok (if above then .gt else if below then .lt else .eq)

/-- Whether some value of a list equals the given one. Items are compared by value only: it is not
asked first whether one of them is the very value that is sought. -/
def isIn (v : Value) : List Value → Except ValueFault Bool
  | [] => .ok false
  | w :: rest => do if ← equal w v then .ok true else isIn v rest

/-- The values without those that equal an earlier one. As they are compared by value only, a value
that does not equal itself is kept as often as it is given, and a decimal that refuses every
comparison is refused with any number before it, be it the same one. -/
def distinct (l : List Value) : Except ValueFault (List Value) :=
  l.foldlM (fun kept v => do if ← v.isIn kept then .ok kept else .ok (kept ++ [v])) []

end DecisionTable.Value
