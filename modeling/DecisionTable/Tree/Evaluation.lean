import DecisionTable.Store
import DecisionTable.Tree.Basic

/-!
# Evaluating trees

An evaluation begins at the root. At a branch the decision is applied to the current value of the
subject, and the evaluation goes on at the node that the decision picks; the outcome of the leaf
that is reached is the result. The tree is only read, so a failure concerns one subject alone,
unless it is a fault that is not put down to the row or the subject.
-/

namespace DecisionTable

def Decision.holds (d : Decision) (store : Store) (subject : Subject) :
    Except DecisionFailure Bool := do
  d.op.decide (← store.current d.tested subject) d.operand

/-- The outcome of a subject from a node on. -/
def Node.evaluate (store : Store) (subject : Subject) : Node → Except DecisionFailure TypedLiteral
  | .leaf _ l => .ok l
  | .branch _ d t f =>
    match d.holds store subject with
    | .ok true => t.evaluate store subject
    | .ok false => f.evaluate store subject
    | .error e => .error e

/-- A decision that was made during an evaluation. -/
structure DecisionMade where
  node : String
  decision : Decision
  held : Bool
deriving Repr

/-- The decisions that an evaluation makes from a node on. -/
def Node.decisions (store : Store) (subject : Subject) : Node → List DecisionMade
  | .leaf .. => []
  | .branch id d t f =>
    match d.holds store subject with
    | .ok true => ⟨id, d, true⟩ :: t.decisions store subject
    | .ok false => ⟨id, d, false⟩ :: f.decisions store subject
    | .error _ => []

def Tree.evaluate (t : Tree) (store : Store) (subject : Subject) :
    Except DecisionFailure TypedLiteral :=
  t.root.evaluate store subject

/-! ### Several subjects -/

/-- What comes of a subject: an outcome, or why there is none. -/
abbrev Verdict := Except EvaluationError TypedLiteral

/-- Notes what belongs to a subject; a subject that is present keeps its place. -/
def noteSubject {α : Type} (l : List (Subject × α)) (subject : Subject) (a : α) :
    List (Subject × α) :=
  if l.any (·.1 == subject) then l.map fun p => if p.1 == subject then (subject, a) else p
  else l ++ [(subject, a)]

/-- The verdict on a subject, unless a fault is found that is not put down to it. -/
def Tree.verdict (t : Tree) (store : Store) (subject : Subject) : Except RuleFault Verdict :=
  match t.evaluate store subject with
  | .ok l => .ok (.ok l)
  | .error (.rejected e) => .ok (.error e)
  | .error (.broken f) => .error f

/-- The verdicts on several subjects, each subject once. -/
def Tree.evaluateMany (t : Tree) (store : Store) (subjects : List Subject) :
    Except RuleFault (List (Subject × Verdict)) :=
  subjects.foldlM (fun found s => (t.verdict store s).map (noteSubject found s)) []

end DecisionTable
