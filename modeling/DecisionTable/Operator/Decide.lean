import DecisionTable.CurrentValue
import DecisionTable.Operator.Basic
import DecisionTable.Pattern.Match
import DecisionTable.Pattern.Parse
import DecisionTable.Subject
import DecisionTable.Text.Alternatives

/-!
# Deciding

An operator is applied to the current value of a subject and the operand of a row. It first checks
the shape of the attribute, without looking at the value. Nearly everything that can go wrong after
that is put down to the operand; a few faults are not, and end more than one decision.
-/

namespace DecisionTable

/-- Why a rule cannot be applied. -/
inductive RuleFault where
  /-- The value and the operand do not go together. -/
  | value (f : ValueFault)
  | pattern (f : PatternFault)
  | notCount (operand : String)
deriving DecidableEq, Repr

/-- Why no outcome can be decided for a subject. -/
inductive EvaluationError where
  /-- The operator does not suit the attribute. -/
  | shapeViolation (op : Operator) (tested : Attribute)
  | missingValue (subject : Subject) (identifier : String)
  /-- The operand cannot be understood as the operator needs it. -/
  | badOperand (op : Operator) (operand : String) (fault : RuleFault)
deriving DecidableEq, Repr

inductive DecisionFailure where
  /-- The fault lies with the subject or the row, and other subjects may have outcomes. -/
  | rejected (e : EvaluationError)
  /-- A fault that is not put down to an operand. -/
  | broken (f : RuleFault)
deriving DecidableEq, Repr

def RuleFault.message : RuleFault → String
  | value f => f.message
  | pattern .invalid => "invalid regular expression"
  | pattern .tooManyRepetitions => "the repetition number is too large"
  | pattern (.numeralTooLong digits) => longNumeralMessage digits
  | pattern .incompatibleFamilies => "ASCII and UNICODE flags are incompatible"
  | pattern .tooFarBack => "invalid SRE code"
  | pattern .crossedGroup =>
    "The span of capturing group is wrong, please report a bug for the re module."
  | notCount operand => s!"'{operand}' is not an integer count"

def EvaluationError.message : EvaluationError → String
  | shapeViolation op tested =>
    s!"Operator '{op.spelling}' needs a {op.requires.text} attribute, but "
      ++ s!"'{tested.identifier}' is {tested.shape.text}"
  | missingValue subject identifier =>
    s!"Subject {subject.text} has no value for attribute '{identifier}'"
  | badOperand op operand fault =>
    s!"Bad operand '{operand}' for operator '{op.spelling}': {fault.message}"

/-- Whether a fault is put down to the operand. -/
def RuleFault.isReported : RuleFault → Bool
  | value .undefinedComparison => false
  | pattern .tooManyRepetitions | pattern .tooFarBack | pattern .crossedGroup => false
  | _ => true

namespace Operator

def liftValue {α : Type} (r : Except ValueFault α) : Except RuleFault α :=
  r.mapError .value

/-- Whether the text of the value matches the operand. -/
def matchesPattern (v : CurrentValue) (operand : String) : Except RuleFault Bool := do
  let text ← liftValue v.asText
  let p ← (Pattern.Whole.parse operand).mapError .pattern
  match p.judge text with
  | .matched => .ok true
  | .unmatched => .ok false
  | .crossed => .error (.pattern .crossedGroup)

/-- Whether the text of the value is among the alternatives. -/
def isAmong (v : CurrentValue) (operand : String) : Except RuleFault Bool :=
  (liftValue v.asText).map (Text.alternatives operand).contains

def countOf (operand : String) : Except RuleFault Int :=
  match readInteger (Text.strip operand) with
  | .ok n => .ok n
  | .error _ => .error (.notCount operand)

/-- What an operator says of a value and an operand, whatever the shape. -/
def rule (op : Operator) (v : CurrentValue) (operand : String) : Except RuleFault Bool :=
  match op with
  | order c => (liftValue (v.compareTo operand)).map c.holds
  | pattern asserts => (matchesPattern v operand).map (· == asserts)
  | within asserts => (isAmong v operand).map (· == asserts)
  | contains asserts => (liftValue (v.contains operand)).map (· == asserts)
  | identity asserts => (liftValue (v.compareTo operand)).map fun o => (o == .eq) == asserts
  | oneOf asserts => (isAmong v operand).map (· == asserts)
  | has asserts => (liftValue (v.contains operand)).map (· == asserts)
  | count c => (countOf operand).map fun n => c.holds (compare (v.count : Int) n)

def decide (op : Operator) (v : CurrentValue) (operand : String) :
    Except DecisionFailure Bool :=
  if op.accepts v.attr then
    match op.rule v operand with
    | .ok b => .ok b
    | .error f =>
      if f.isReported then .error (.rejected (.badOperand op operand f)) else .error (.broken f)
  else .error (.rejected (.shapeViolation op v.attr))

end Operator

end DecisionTable
