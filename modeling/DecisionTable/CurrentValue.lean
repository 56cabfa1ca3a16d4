import DecisionTable.Attribute
import DecisionTable.Value.Order
import DecisionTable.Value.Read

/-!
# Current values

What a subject currently has for an attribute: one value or several. Operators see nothing else of a
subject. The values of a reference attribute are identifiers, so they are compared by their texts;
other values are compared with an operand that is read as a value of their own kind.
-/

namespace DecisionTable

/-- The current value or values of a subject for an attribute. -/
inductive CurrentValue where
  | single (attr : Attribute) (value : Value)
  | several (attr : Attribute) (values : List Value)

/-- The items of a value: those of a list, the characters of a text or the bytes of a byte string.
-/
def Value.items : Value → Except ValueFault (List Value)
  | .list items => .ok items
  | .group items => .ok items
  | .text s => .ok (charactersOf s)
  | .bytes l => .ok (l.map fun b => .int b.toNat)
  | v => .error (.notIterable v.kind)

namespace CurrentValue

/-- The current value that a stored value stands for, as the cardinality of the attribute says. -/
def ofStored (a : Attribute) (stored : Value) : Except ValueFault CurrentValue :=
  match a.cardinality with
  | .single => .ok (.single a stored)
  | .multi => stored.items.map (.several a)

def attr : CurrentValue → Attribute
  | single a _ => a
  | several a _ => a

def values : CurrentValue → List Value
  | single _ v => [v]
  | several _ vs => vs

def count (v : CurrentValue) : Nat :=
  v.values.length

/-- Compares the value with an operand. Several values have no order. -/
def compareTo (v : CurrentValue) (operand : String) : Except ValueFault Ordering :=
  match v with
  | single a value =>
    match a.kind with
    | .reference => value.plain.map fun s => compare s operand
    | .scalar => do value.compareTo (← value.readLike operand)
  | several a _ => .error (.manyUnordered a.identifier)

def plainTexts : List Value → Except ValueFault (List String)
  | [] => .ok []
  | v :: rest => do
    let s ← v.plain
    let texts ← plainTexts rest
    .ok (s :: texts)

/-- The plain text; the texts of several values are joined by bars. -/
def asText : CurrentValue → Except ValueFault String
  | single _ v => v.plain
  | several _ vs => (plainTexts vs).map ("|".intercalate ·)

/-- Whether an operand is among several values, each of which is compared with the operand as a
value of its own kind. A value for which the operand cannot be read so is passed over. -/
def includes (operand : String) : List Value → Except ValueFault Bool
  | [] => .ok false
  | v :: rest =>
    match v.readLike operand with
    | .error _ => includes operand rest
    | .ok sought => do if ← v.equal sought then .ok true else includes operand rest

def contains (v : CurrentValue) (operand : String) : Except ValueFault Bool :=
  match v with
  | single .. => (v.compareTo operand).map (· == .eq)
  | several a vs =>
    match a.kind with
    | .reference => (plainTexts vs).map (·.contains operand)
    | .scalar => includes operand vs

/-- The attribute and its values on one line. -/
def describe : CurrentValue → Except ValueFault String
  | single a v => v.quoted.map fun text => s!"SingleValue({a.identifier}={text})"
  | several a vs => (Value.list vs).quoted.map fun text => s!"MultiValue({a.identifier}={text})"

end CurrentValue

end DecisionTable
