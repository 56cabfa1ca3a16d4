import DecisionTable.Attribute
import DecisionTable.Text.Blank

/-!
# Operators

The operators come in families. Each family suits one shape of attributes, and in each family every
operator has a partner that holds exactly when it does not.

* One datum: comparison (`eq`, `ne`, `gt`, `ge`, `lt`, `le`), pattern (`match`, `mismatch`) and list
  of alternatives (`within`, `outwith`).
* Several data: membership (`in`, `out`).
* One reference: identity (`is`, `isnt`) and list of alternatives (`oneof`, `noneof`).
* Several references: membership (`has`, `hasnt`) and number of values (`#eq` to `#le`).
-/

namespace DecisionTable

inductive Comparison where
  | eq | ne | gt | ge | lt | le
deriving DecidableEq, Repr

namespace Comparison

def all : List Comparison :=
  [eq, ne, gt, ge, lt, le]

def spelling : Comparison → String
  | eq => "eq"
  | ne => "ne"
  | gt => "gt"
  | ge => "ge"
  | lt => "lt"
  | le => "le"

/-- Whether a comparison holds of two things in the given order. -/
def holds : Comparison → Ordering → Bool
  | eq, o => o == .eq
  | ne, o => o != .eq
  | gt, o => o == .gt
  | ge, o => o != .lt
  | lt, o => o == .lt
  | le, o => o != .gt

/-- The comparison that holds exactly when the given one does not. -/
def complement : Comparison → Comparison
  | eq => ne
  | ne => eq
  | gt => le
  | ge => lt
  | lt => ge
  | le => gt

end Comparison

/-- An operator. In the families of two, `true` stands for the operator that asserts and `false` for
its partner that denies. -/
inductive Operator where
  | order (c : Comparison)
  /-- Matches the text of the value against a pattern. -/
  | pattern (asserts : Bool)
  /-- Looks the text of the value up in a list of alternatives. -/
  | within (asserts : Bool)
  /-- Looks the operand up among the values. -/
  | contains (asserts : Bool)
  /-- Compares the reference with the operand. -/
  | identity (asserts : Bool)
  /-- Looks the reference up in a list of alternatives. -/
  | oneOf (asserts : Bool)
  /-- Looks the operand up among the references. -/
  | has (asserts : Bool)
  /-- Compares the number of references with the operand. -/
  | count (c : Comparison)
deriving DecidableEq, Repr

namespace Operator

def all : List Operator :=
  Comparison.all.map order
    ++ [pattern true, pattern false, within true, within false, contains true, contains false,
      identity true, identity false, oneOf true, oneOf false, has true, has false]
    ++ Comparison.all.map count

def spelling : Operator → String
  | order c => c.spelling
  | pattern true => "match"
  | pattern false => "mismatch"
  | within true => "within"
  | within false => "outwith"
  | contains true => "in"
  | contains false => "out"
  | identity true => "is"
  | identity false => "isnt"
  | oneOf true => "oneof"
  | oneOf false => "noneof"
  | has true => "has"
  | has false => "hasnt"
  | count c => "#" ++ c.spelling

/-- The operator that a cell names; blanks around the name do not count. -/
def parse? (cell : String) : Option Operator :=
  all.find? (·.spelling == Text.strip cell)

/-- The shape of the attributes that an operator can be applied to. -/
def requires : Operator → Shape
  | order _ | pattern _ | within _ => ⟨.single, .scalar⟩
  | contains _ => ⟨.multi, .scalar⟩
  | identity _ | oneOf _ => ⟨.single, .reference⟩
  | has _ | count _ => ⟨.multi, .reference⟩

def accepts (op : Operator) (a : Attribute) : Bool :=
  a.shape == op.requires

/-- The operator that holds exactly when the given one does not. -/
def complement : Operator → Operator
  | order c => order c.complement
  | pattern b => pattern !b
  | within b => within !b
  | contains b => contains !b
  | identity b => identity !b
  | oneOf b => oneOf !b
  | has b => has !b
  | count c => count c.complement

end Operator

end DecisionTable
