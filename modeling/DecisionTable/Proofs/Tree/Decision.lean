import DecisionTable.Proofs.Store.Reached
import DecisionTable.Tree.Evaluation

/-!
# What comes of a decision

A decision is made on the value that a subject has for an attribute. In a store that was reached
from nothing there are five ways for it to end, and the shape of the attribute is checked before
anything is done with the value.
-/

namespace DecisionTable

namespace Decision

/-- What comes of a decision on a subject, and when. -/
inductive Ends (d : Decision) (now : Store) (subject : Subject) :
    Except DecisionFailure Bool → Prop where
  | missing (h : now.get? subject d.tested.identifier = none) :
      Ends d now subject (.error (.rejected (.missingValue subject d.tested.identifier)))
  | mismatched (v : Value) (h : now.get? subject d.tested.identifier = some v)
      (hop : d.op.accepts d.tested = false) :
      Ends d now subject (.error (.rejected (.shapeViolation d.op d.tested)))
  | made (c : CurrentValue) (held : Bool) (hcurrent : now.current d.tested subject = .ok c)
      (hop : d.op.accepts d.tested = true) (hrule : d.op.rule c d.operand = .ok held) :
      Ends d now subject (.ok held)
  | misread (c : CurrentValue) (f : RuleFault) (hcurrent : now.current d.tested subject = .ok c)
      (hop : d.op.accepts d.tested = true) (hrule : d.op.rule c d.operand = .error f)
      (hreported : f.isReported = true) :
      Ends d now subject (.error (.rejected (.badOperand d.op d.operand f)))
  | broken (c : CurrentValue) (f : RuleFault) (hcurrent : now.current d.tested subject = .ok c)
      (hop : d.op.accepts d.tested = true) (hrule : d.op.rule c d.operand = .error f)
      (hreported : f.isReported = false) : Ends d now subject (.error (.broken f))

variable {d : Decision} {now : Store} {subject : Subject}

theorem holds_of_current {c : CurrentValue} (h : now.current d.tested subject = .ok c) :
    d.holds now subject = d.op.decide c d.operand := by
  simp only [holds, h, bind, Except.bind]

theorem ends_holds (hnow : now.Reached)
    (ha : now.attribute? d.tested.identifier = some d.tested) :
    d.Ends now subject (d.holds now subject) := by
  cases hv : now.get? subject d.tested.identifier with
  | none =>
    have hmissing := Store.current_eq_missing hv
    simp only [holds, hmissing, bind, Except.bind]
    exact .missing hv
  | some v =>
    obtain ⟨c, hcurrent⟩ := hnow.exists_current ha hv
    rw [holds_of_current hcurrent]
    unfold Operator.decide
    rw [(Store.current_eq_ok hcurrent).1]
    cases hop : d.op.accepts d.tested with
    | false => exact .mismatched v hv hop
    | true =>
      cases hrule : d.op.rule c d.operand with
      | ok held => exact .made c held hcurrent hop hrule
      | error f =>
        dsimp only
        cases hreported : f.isReported with
        | true => exact .misread c f hcurrent hop hrule hreported
        | false => exact .broken c f hcurrent hop hrule hreported

end Decision

end DecisionTable
