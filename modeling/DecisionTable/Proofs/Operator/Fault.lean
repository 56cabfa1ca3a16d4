import DecisionTable.Operator.Decide
import DecisionTable.Proofs.Store.Reached
import DecisionTable.Proofs.Value.Fault

/-!
# Rules that break

A rule that cannot be applied is put down to the operand, save in two cases: a decimal refuses to be
compared, or the machinery of patterns gives up. These are all the cases in which a rule breaks, if
the operator suits the attribute.

Limits of the machine are left out. A pattern can be nested so deeply that the stack of a machine is
used up before the pattern has been read; here it is read like any other, and no rule breaks on it.
-/

namespace DecisionTable

namespace Operator

/-- A rule breaks on a value and an operand. -/
inductive Breaks (operand : String) : Operator → CurrentValue → RuleFault → Prop where
  /-- A decimal is ordered, and it or the operand is no number. -/
  | unordered (c : Comparison) (a : Attribute) (v w : Value) (hread : v.readLike operand = .ok w)
      (hundefined : v.isUndefined = true ∨ w.isUndefined = true) :
      Breaks operand (.order c) (.single a v) (.value .undefinedComparison)
  /-- Among several values a signalling decimal is sought or come to. -/
  | sought (asserts : Bool) (a : Attribute) (values : List Value)
      (hrefused : SearchRefused operand values) :
      Breaks operand (.contains asserts) (.several a values) (.value .undefinedComparison)
  /-- The operand is a pattern that is refused for its size. -/
  | refused (asserts : Bool) (c : CurrentValue) (text : String) (f : PatternFault)
      (htext : c.asText = .ok text) (hparse : Pattern.Whole.parse operand = .error f)
      (hsize : f = .tooManyRepetitions ∨ f = .tooFarBack ∨ f = .crossedGroup) :
      Breaks operand (.pattern asserts) c (.pattern f)
  /-- A group of the pattern ends before its beginning in the text. -/
  | crossed (asserts : Bool) (c : CurrentValue) (text : String) (p : Pattern.Whole)
      (htext : c.asText = .ok text) (hparse : Pattern.Whole.parse operand = .ok p)
      (hjudge : p.judge text = .crossed) :
      Breaks operand (.pattern asserts) c (.pattern .crossedGroup)

variable {op : Operator} {c : CurrentValue} {v w : Value} {operand : String} {f : RuleFault}

/-! ### Faults that are reported -/

theorem isReported_value {g : ValueFault} :
    (RuleFault.value g).isReported = false ↔ g = .undefinedComparison := by
  cases g <;> simp [RuleFault.isReported]

theorem isReported_pattern {g : PatternFault} : (RuleFault.pattern g).isReported = false ↔
    g = .tooManyRepetitions ∨ g = .tooFarBack ∨ g = .crossedGroup := by
  cases g <;> simp [RuleFault.isReported]

theorem reported_of_text (h : liftValue c.asText = .error f) : f.isReported = true := by
  obtain ⟨g, hg, rfl⟩ := mapError_eq_error.mp h
  rw [Value.asText_eq_error hg]
  rfl

theorem reported_of_isAmong (h : isAmong c operand = .error f) : f.isReported = true :=
  reported_of_text (map_eq_error.mp h)

theorem reported_of_countOf (h : countOf operand = .error f) : f.isReported = true := by
  unfold countOf at h
  split at h
  · cases h
  · obtain rfl := Except.error.inj h
    rfl

/-! ### Faults that are not -/

theorem compareTo_breaks {a : Attribute} (hkind : a.kind = .scalar)
    (h : liftValue ((CurrentValue.single a v).compareTo operand) = .error f)
    (hreported : f.isReported = false) :
    f = .value .undefinedComparison ∧
      ∃ w, v.readLike operand = .ok w ∧ (v.isUndefined = true ∨ w.isUndefined = true) := by
  obtain ⟨g, hg, rfl⟩ := mapError_eq_error.mp h
  obtain rfl := isReported_value.mp hreported
  refine ⟨rfl, ?_⟩
  simp only [CurrentValue.compareTo, hkind] at hg
  rcases bind_eq_error hg with hread | ⟨w, hread, hcompare⟩
  · exact absurd hread Value.readLike_ne_undefined
  · exact ⟨w, hread, Value.undefined_of_compareTo (Value.read_of_readLike hread) hcompare⟩

theorem compareTo_reference {a : Attribute} (hkind : a.kind = .reference)
    (h : liftValue ((CurrentValue.single a v).compareTo operand) = .error f) :
    f.isReported = true := by
  obtain ⟨g, hg, rfl⟩ := mapError_eq_error.mp h
  simp only [CurrentValue.compareTo, hkind] at hg
  rw [Value.plain_eq_error (map_eq_error.mp hg)]
  rfl

theorem pattern_breaks {asserts : Bool} (h : matchesPattern c operand = .error f)
    (hreported : f.isReported = false) : Breaks operand (.pattern asserts) c f := by
  unfold matchesPattern at h
  rcases bind_eq_error h with htext | ⟨text, htext, h⟩
  · cases hreported.symm.trans (reported_of_text htext)
  · have htext' := mapError_eq_ok.mp htext
    rcases bind_eq_error h with hparse | ⟨p, hparse, h⟩
    · obtain ⟨g, hg, rfl⟩ := mapError_eq_error.mp hparse
      exact .refused asserts c text g htext' hg (isReported_pattern.mp hreported)
    · have hparse' := mapError_eq_ok.mp hparse
      split at h
      · cases h
      · cases h
      · obtain rfl := Except.error.inj h
        exact .crossed asserts c text p htext' hparse' ‹_›

/-- A rule whose fault is not put down to the operand breaks, if the operator suits the attribute. -/
theorem breaks_of_rule (hop : op.accepts c.attr = true) (hfits : c.Fits)
    (h : op.rule c operand = .error f) (hreported : f.isReported = false) :
    op.Breaks operand c f := by
  have hshape : c.attr.shape = op.requires := eq_of_beq hop
  obtain ⟨hcardinality, hkind⟩ := Shape.mk.inj hshape
  cases op with
  | order cmp =>
    cases c with
    | single a v =>
      simp only [rule, map_eq_error] at h
      obtain ⟨rfl, w, hread, hundefined⟩ := compareTo_breaks hkind h hreported
      exact .unordered cmp a v w hread hundefined
    | several a values => cases hfits.symm.trans hcardinality
  | pattern asserts =>
    simp only [rule, map_eq_error] at h
    exact pattern_breaks h hreported
  | within asserts =>
    simp only [rule, map_eq_error] at h
    cases hreported.symm.trans (reported_of_isAmong h)
  | contains asserts =>
    cases c with
    | single a v => cases hfits.symm.trans hcardinality
    | several a values =>
      simp only [rule, map_eq_error] at h
      obtain ⟨g, hg, rfl⟩ := mapError_eq_error.mp h
      have hscalar : a.kind = .scalar := hkind
      simp only [CurrentValue.contains, hscalar] at hg
      obtain ⟨rfl, hrefused⟩ := searchRefused_of_includes hg
      exact .sought asserts a values hrefused
  | identity asserts =>
    cases c with
    | single a v =>
      simp only [rule, map_eq_error] at h
      cases hreported.symm.trans (compareTo_reference hkind h)
    | several a values => cases hfits.symm.trans hcardinality
  | oneOf asserts =>
    simp only [rule, map_eq_error] at h
    cases hreported.symm.trans (reported_of_isAmong h)
  | has asserts =>
    cases c with
    | single a v => cases hfits.symm.trans hcardinality
    | several a values =>
      simp only [rule, map_eq_error] at h
      obtain ⟨g, hg, rfl⟩ := mapError_eq_error.mp h
      have hreference : a.kind = .reference := hkind
      simp only [CurrentValue.contains, hreference] at hg
      rw [Value.plainTexts_eq_error (map_eq_error.mp hg)] at hreported
      cases hreported
  | count cmp =>
    simp only [rule, map_eq_error] at h
    cases hreported.symm.trans (reported_of_countOf h)

theorem rule_of_breaks (hop : op.accepts c.attr = true) (h : op.Breaks operand c f) :
    op.rule c operand = .error f ∧ f.isReported = false := by
  have hshape : c.attr.shape = op.requires := eq_of_beq hop
  obtain ⟨hcardinality, hkind⟩ := Shape.mk.inj hshape
  cases h with
  | unordered cmp a v w hread hundefined =>
    have hscalar : a.kind = .scalar := hkind
    have hcompare := Value.compareTo_of_undefined (Value.read_of_readLike hread) hundefined
    simp only [rule, CurrentValue.compareTo, hscalar, hread, bind, Except.bind, hcompare]
    exact ⟨rfl, rfl⟩
  | sought asserts a values hrefused =>
    have hscalar : a.kind = .scalar := hkind
    have hincludes := includes_of_searchRefused hrefused
    simp only [rule, CurrentValue.contains, hscalar, hincludes]
    exact ⟨rfl, rfl⟩
  | refused asserts c text g htext hparse hsize =>
    simp only [rule, matchesPattern, htext, liftValue, hparse, Except.mapError, bind, Except.bind]
    exact ⟨rfl, isReported_pattern.mpr hsize⟩
  | crossed asserts c text p htext hparse hjudge =>
    simp only [rule, matchesPattern, htext, liftValue, hparse, Except.mapError, bind, Except.bind,
      hjudge]
    exact ⟨rfl, rfl⟩

end Operator

end DecisionTable
