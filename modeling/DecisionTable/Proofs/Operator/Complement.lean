import DecisionTable.Operator.Decide
import DecisionTable.Proofs.Operator.Spelling
import DecisionTable.Proofs.Value.Fault
import Mathlib.Control.Monad.Basic

/-!
# Operators and their partners

Each operator has a partner that holds exactly when it does not. The two suit the same attributes,
and what keeps one of them from an answer keeps the other one from it too. Comparisons come down to
one order of the value and the operand, so exactly one of `lt`, `eq` and `gt` holds.
-/

namespace DecisionTable

namespace Comparison

theorem holds_complement (c : Comparison) (o : Ordering) : c.complement.holds o = !c.holds o := by
  cases c <;> cases o <;> rfl

end Comparison

namespace Operator

variable {op op' : Operator} {v : CurrentValue} {operand : String}

/-- The spellings of the operators in pairs of partners. -/
def partners : List (String × String) :=
  [("eq", "ne"), ("gt", "le"), ("ge", "lt"), ("match", "mismatch"), ("within", "outwith"),
    ("in", "out"), ("is", "isnt"), ("oneof", "noneof"), ("has", "hasnt"), ("#eq", "#ne"),
    ("#gt", "#le"), ("#ge", "#lt")]

/-- Two operators give opposite answers, or they fail alike: for the shape of the attribute, which
is looked at first, or for one fault of the value and the operand. -/
inductive Opposed (op op' : Operator) (v : CurrentValue) (operand : String) : Prop where
  | unsuited (hshape : v.attr.shape ≠ op.requires) (hshape' : v.attr.shape ≠ op'.requires)
      (h : op.decide v operand = .error (.rejected (.shapeViolation op v.attr)))
      (h' : op'.decide v operand = .error (.rejected (.shapeViolation op' v.attr)))
  | answered (hshape : v.attr.shape = op.requires) (hshape' : v.attr.shape = op'.requires)
      (b : Bool) (h : op.decide v operand = .ok b) (h' : op'.decide v operand = .ok !b)
  | misread (hshape : v.attr.shape = op.requires) (hshape' : v.attr.shape = op'.requires)
      (f : RuleFault) (h : op.decide v operand = .error (.rejected (.badOperand op operand f)))
      (h' : op'.decide v operand = .error (.rejected (.badOperand op' operand f)))
  | broken (hshape : v.attr.shape = op.requires) (hshape' : v.attr.shape = op'.requires)
      (f : RuleFault) (h : op.decide v operand = .error (.broken f))
      (h' : op'.decide v operand = .error (.broken f))

/-! ### Partners -/

theorem complement_of_partners (h : (op.spelling, op'.spelling) ∈ partners) :
    op' = op.complement := by
  have hall : ∀ a ∈ all, ∀ b ∈ all, (a.spelling, b.spelling) ∈ partners → b = a.complement := by
    decide
  exact hall op op.mem_all op' op'.mem_all h

theorem requires_complement (op : Operator) : op.complement.requires = op.requires := by
  cases op <;> rfl

theorem map_denied (x : Except RuleFault Bool) (asserts : Bool) :
    x.map (· == !asserts) = (x.map (· == asserts)).map (!·) := by
  cases x with
  | error f => rfl
  | ok b => cases b <;> cases asserts <;> rfl

theorem rule_complement (op : Operator) (v : CurrentValue) (operand : String) :
    op.complement.rule v operand = (op.rule v operand).map (!·) := by
  cases op with
  | order c =>
    simp only [complement, rule]
    cases liftValue (v.compareTo operand) with
    | error f => rfl
    | ok o => exact congrArg Except.ok (c.holds_complement o)
  | count c =>
    simp only [complement, rule]
    cases countOf operand with
    | error f => rfl
    | ok n => exact congrArg Except.ok (c.holds_complement _)
  | identity asserts =>
    simp only [complement, rule]
    cases liftValue (v.compareTo operand) with
    | error f => rfl
    | ok o => cases o <;> cases asserts <;> rfl
  | pattern asserts => exact map_denied (matchesPattern v operand) asserts
  | within asserts => exact map_denied (isAmong v operand) asserts
  | oneOf asserts => exact map_denied (isAmong v operand) asserts
  | contains asserts => exact map_denied (liftValue (v.contains operand)) asserts
  | has asserts => exact map_denied (liftValue (v.contains operand)) asserts

/-! ### Decisions -/

theorem decide_of_unsuited (h : v.attr.shape ≠ op.requires) :
    op.decide v operand = .error (.rejected (.shapeViolation op v.attr)) := by
  have hop : ¬ op.accepts v.attr = true := by
    simpa [accepts] using h
  simp only [decide, if_neg hop]

theorem decide_of_suited (h : v.attr.shape = op.requires) (operand : String) :
    op.decide v operand = match op.rule v operand with
      | .ok b => .ok b
      | .error f =>
        if f.isReported then .error (.rejected (.badOperand op operand f))
        else .error (.broken f) := by
  have hop : op.accepts v.attr = true := by
    simpa [accepts] using h
  unfold decide
  exact if_pos hop

theorem opposed_complement (op : Operator) (v : CurrentValue) (operand : String) :
    Opposed op op.complement v operand := by
  by_cases hshape : v.attr.shape = op.requires
  · have hshape' : v.attr.shape = op.complement.requires := by
      rw [requires_complement]
      exact hshape
    have hrule' := rule_complement op v operand
    have hdecide := decide_of_suited hshape operand
    have hdecide' := decide_of_suited hshape' operand
    cases hrule : op.rule v operand with
    | ok b =>
      rw [hrule] at hdecide hrule'
      rw [hrule'] at hdecide'
      exact .answered hshape hshape' b hdecide hdecide'
    | error f =>
      rw [hrule] at hdecide hrule'
      rw [hrule'] at hdecide'
      cases hf : f.isReported with
      | true =>
        simp only [hf, Except.map, if_true] at hdecide hdecide'
        exact .misread hshape hshape' f hdecide hdecide'
      | false =>
        simp only [hf, Except.map, Bool.false_eq_true, if_false] at hdecide hdecide'
        exact .broken hshape hshape' f hdecide hdecide'
  · have hshape' : v.attr.shape ≠ op.complement.requires := by
      rw [requires_complement]
      exact hshape
    exact .unsuited hshape hshape' (decide_of_unsuited hshape) (decide_of_unsuited hshape')

/-! ### Comparisons -/

/-- The answers of the comparisons of a family: the value is below the operand, the same or above
it, and the others say so too. -/
structure Ranks (family : Comparison → Operator) (v : CurrentValue) (operand : String)
    (below same above : Bool) : Prop where
  one : [below, same, above].count true = 1
  lt : (family .lt).decide v operand = .ok below
  eq : (family .eq).decide v operand = .ok same
  gt : (family .gt).decide v operand = .ok above
  ge : (family .ge).decide v operand = .ok (above || same)
  le : (family .le).decide v operand = .ok (below || same)
  ne : (family .ne).decide v operand = .ok !same

/-- Comparisons that look at one order of the value and the operand. -/
structure Weighs (family : Comparison → Operator) (v : CurrentValue) (operand : String)
    (order : Except RuleFault Ordering) : Prop where
  requires : ∀ c c', (family c).requires = (family c').requires
  rule : ∀ c, (family c).rule v operand = order.map c.holds

variable {family : Comparison → Operator} {order : Except RuleFault Ordering}

theorem Weighs.ranks (h : Weighs family v operand order) {c : Comparison} {b : Bool}
    (hdecide : (family c).decide v operand = .ok b) :
    ∃ below same above, Ranks family v operand below same above := by
  by_cases hshape : v.attr.shape = (family c).requires
  case neg =>
    rw [decide_of_unsuited hshape] at hdecide
    cases hdecide
  cases order with
  | error f =>
    -- a fault of the order would have kept the comparison from its answer
    rw [decide_of_suited hshape, h.rule] at hdecide
    simp only [Except.map] at hdecide
    split at hdecide <;> cases hdecide
  | ok o =>
    have hall : ∀ c', (family c').decide v operand = .ok (c'.holds o) := by
      intro c'
      rw [decide_of_suited (hshape.trans (h.requires c c')), h.rule]
      rfl
    refine ⟨Comparison.lt.holds o, Comparison.eq.holds o, Comparison.gt.holds o, ?_, hall .lt,
      hall .eq, hall .gt, ?_, ?_, ?_⟩
    · cases o <;> rfl
    · rw [hall .ge]
      cases o <;> rfl
    · rw [hall .le]
      cases o <;> rfl
    · rw [hall .ne]
      cases o <;> rfl

theorem weighs_order (v : CurrentValue) (operand : String) :
    Weighs .order v operand (liftValue (v.compareTo operand)) :=
  ⟨fun _ _ => rfl, fun _ => rfl⟩

theorem weighs_count (v : CurrentValue) (operand : String) :
    Weighs .count v operand ((countOf operand).map (compare (v.count : Int))) := by
  refine ⟨fun _ _ => rfl, ?_⟩
  intro c
  simp only [rule]
  cases countOf operand <;> rfl

/-- Partners give opposite answers or fail alike, comparisons that answer tell one order, and no
operator answers for an attribute that does not suit it. -/
theorem decide_partners (v : CurrentValue) (operand : String) :
    (∀ op op' : Operator, (op.spelling, op'.spelling) ∈ partners → Opposed op op' v operand) ∧
    (∀ family, family = Operator.order ∨ family = Operator.count →
      ∀ c b, (family c).decide v operand = .ok b →
        ∃ below same above, Ranks family v operand below same above) ∧
    ∀ op : Operator, v.attr.shape ≠ op.requires →
      op.decide v operand = .error (.rejected (.shapeViolation op v.attr)) := by
  refine ⟨?_, ?_, ?_⟩
  · intro op op' h
    rw [complement_of_partners h]
    exact opposed_complement op v operand
  · intro family hfamily c b h
    rcases hfamily with rfl | rfl
    · exact (weighs_order v operand).ranks h
    · exact (weighs_count v operand).ranks h
  · intro op h
    exact decide_of_unsuited h

/-- A floating-point value that is no number counts as the same as 1, and so is neither below nor
above it. -/
theorem decide_partners_nan :
    Opposed (.order .ge) (.order .lt) (.single ⟨"#score", .single, .scalar⟩ (.float .nan)) "1" ∧
    Ranks .order (.single ⟨"#score", .single, .scalar⟩ (.float .nan)) "1" false true false := by
  obtain ⟨hopposed, hranks, _⟩ :=
    decide_partners (.single ⟨"#score", .single, .scalar⟩ (.float .nan)) "1"
  have heq : (order .eq).decide (.single ⟨"#score", .single, .scalar⟩ (.float .nan)) "1"
      = .ok true := by decide +kernel
  refine ⟨hopposed _ _ (by decide), ?_⟩
  obtain ⟨below, same, above, h⟩ := hranks .order (Or.inl rfl) .eq true heq
  obtain rfl : same = true := Except.ok.inj (h.eq.symm.trans heq)
  have hone := h.one
  cases below with
  | true => cases above <;> cases hone
  | false =>
    cases above with
    | true => cases hone
    | false => exact h

end Operator

end DecisionTable
