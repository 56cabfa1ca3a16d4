import DecisionTable.Compile.Basic
import DecisionTable.Tree.Evaluation

/-!
# Actions

An action decides with the tree of a table file and writes the outcome to an attribute of the
subject, its choice. It can decide once it has been initialised. A step either succeeds and changes
nothing but the choice of its subject, or fails and changes nothing.
-/

namespace DecisionTable

/-- The attribute of outcomes if none is given. -/
def defaultChoice : String := "#choice"

structure Action where
  file : String
  /-- The base URI, unless the settings are to say it. -/
  baseUri : Option String := none
  choiceAttribute : String := defaultChoice
  /-- The delimiter of the file, unless the settings are to say it. -/
  delimiter : Option String := none
  /-- The tree and the attribute of its outcomes, once they are there. -/
  ready : Option (Tree × Attribute) := none

inductive StepFault where
  | notInitialised
  | decision (f : DecisionFailure)
  | outcome (f : ValueFault)
  | store (f : StoreFault)
deriving DecidableEq, Repr

namespace Action

/-- Decides for a subject and writes the outcome to its choice. -/
def step (a : Action) (s : Store) (subject : Subject) : Except StepFault (TypedLiteral × Store) :=
  match a.ready with
  | none => .error .notInitialised
  | some (t, choice) => do
    let l ← (t.evaluate s subject).mapError .decision
    let value ← l.toValue.mapError .outcome
    let s ← (s.set subject choice.identifier value).mapError .store
    .ok (l, s)

/-- Decides for several subjects in turn. A subject without an outcome is passed over, with the
reason noted; any other fault ends the run, and what was written before remains. -/
def run (a : Action) (s : Store) (found : List (Subject × EvaluationError)) :
    List Subject → Store × Except StepFault (List (Subject × EvaluationError))
  | [] => (s, .ok found)
  | subject :: rest =>
    match a.step s subject with
    | .ok (_, s) => run a s found rest
    | .error (.decision (.rejected e)) => run a s (noteSubject found subject e) rest
    | .error f => (s, .error f)

end Action

end DecisionTable
