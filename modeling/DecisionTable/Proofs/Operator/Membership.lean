import DecisionTable.Proofs.Operator.Fault
import DecisionTable.Proofs.Value.Comparison

/-!
# Looking an operand up and comparing with it

An operand is looked up among several values with their equality, and compared with a single value
in their order. The two agree as long as numbers are numbers. No value equals a floating-point value
that is no number, so the look-up does not find one; but no value is above or below it either, so a
single value counts as equal to it.
-/

namespace DecisionTable

variable {a b : Attribute} {v w : Value} {items : List Value} {operand : String}

namespace Value

theorem Compares.equalsRead_iff {order : Option Ordering} (h : Compares v w order)
    (hread : v.readLike operand = .ok w) : v.EqualsRead operand ↔ order = some .eq := by
  constructor
  · rintro ⟨w', hread', hequal⟩
    obtain rfl := Except.ok.inj (hread.symm.trans hread')
    have hsame := Except.ok.inj (h.equal.symm.trans hequal)
    exact beq_iff_eq.mp hsame
  · rintro rfl
    exact ⟨w, hread, h.equal⟩

end Value

namespace CurrentValue

/-- A look-up among elementary values never fails, and finds what equals one of them. -/
theorem includes_elementary (hitems : ∀ v ∈ items, v.Elementary) (operand : String) :
    ∃ found, includes operand items = .ok found ∧
      (found = true ↔ ∃ v ∈ items, v.EqualsRead operand) := by
  induction items with
  | nil => exact ⟨false, rfl, by simp⟩
  | cons v rest ih =>
    obtain ⟨found, hfound, hiff⟩ := ih fun w hw => hitems w (List.mem_cons_of_mem _ hw)
    -- a value that is passed over leaves the answer to the others
    have hpassed : ¬ v.EqualsRead operand →
        (found = true ↔ ∃ w ∈ v :: rest, w.EqualsRead operand) := by
      intro hnot
      rw [List.exists_mem_cons_iff, hiff]
      exact ⟨Or.inr, fun h => h.resolve_left hnot⟩
    cases hread : v.readLike operand with
    | error f =>
      refine ⟨found, ?_, hpassed ?_⟩
      · simp only [includes, hread, hfound]
      · rintro ⟨w, hw, _⟩
        cases hread.symm.trans hw
    | ok w =>
      obtain ⟨order, hcompares, _⟩ := (hitems v (List.mem_cons_self ..)).compares hread
      have hequals := hcompares.equalsRead_iff hread
      by_cases horder : order = some .eq
      · refine ⟨true, ?_, ?_⟩
        · simp only [includes, hread, hcompares.equal, horder, bind, Except.bind]
          rfl
        · exact iff_of_true rfl ⟨v, List.mem_cons_self .., hequals.mpr horder⟩
      · refine ⟨found, ?_, hpassed fun h => horder (hequals.mp h)⟩
        simp only [includes, hread, hcompares.equal, beq_false_of_ne horder, bind, Except.bind]
        exact hfound

theorem single_compareTo (hb : b.kind = .scalar) :
    (single b v).compareTo operand = v.readLike operand >>= v.compareTo := by
  simp only [compareTo, hb]

end CurrentValue

namespace Operator

theorem decide_contains {found : Bool} (ha : a.shape = ⟨.multi, .scalar⟩)
    (h : CurrentValue.includes operand items = .ok found) :
    decide (.contains true) (.several a items) operand = .ok found := by
  have hkind : a.kind = .scalar := congrArg Shape.kind ha
  have haccepts : accepts (.contains true) a = true := beq_iff_eq.mpr ha
  unfold decide
  rw [CurrentValue.attr, if_pos haccepts]
  simp only [rule, CurrentValue.contains, hkind, h]
  cases found <;> rfl

theorem decide_order_of_error {c : Comparison} {f : ValueFault}
    (hb : b.shape = ⟨.single, .scalar⟩) (hread : v.readLike operand = .error f) :
    decide (.order c) (.single b v) operand
      = .error (.rejected (.badOperand (.order c) operand (.value f))) := by
  have hkind : b.kind = .scalar := congrArg Shape.kind hb
  have haccepts : accepts (.order c) b = true := beq_iff_eq.mpr hb
  have hreported : (RuleFault.value f).isReported = true := by
    rw [← Bool.not_eq_false, isReported_value]
    rintro rfl
    exact Value.readLike_ne_undefined hread
  have hrule : rule (.order c) (.single b v) operand = .error (.value f) := by
    simp only [rule, CurrentValue.single_compareTo hkind, hread]
    rfl
  simp only [decide, CurrentValue.attr, haccepts, hrule, hreported, if_true]

theorem decide_order_of_compares {c : Comparison} {order : Option Ordering}
    (hb : b.shape = ⟨.single, .scalar⟩) (hread : v.readLike operand = .ok w)
    (h : Value.Compares v w order) :
    decide (.order c) (.single b v) operand = .ok (c.holds (order.getD .eq)) := by
  have hkind : b.kind = .scalar := congrArg Shape.kind hb
  have haccepts : accepts (.order c) b = true := beq_iff_eq.mpr hb
  have hrule : rule (.order c) (.single b v) operand = .ok (c.holds (order.getD .eq)) := by
    simp only [rule, CurrentValue.single_compareTo hkind, hread]
    show (liftValue (v.compareTo w)).map c.holds = _
    rw [h.compareTo]
    rfl
  simp only [decide, CurrentValue.attr, haccepts, hrule, if_true]

/-- An elementary value counts as equal to an operand that it equals, and to one that it has no
comparison with. -/
theorem decide_eq_iff_equalsRead (hb : b.shape = ⟨.single, .scalar⟩) (hv : v.Elementary) :
    decide (.order .eq) (.single b v) operand = .ok true ↔
      v.EqualsRead operand ∨ v.Incomparable operand := by
  cases hread : v.readLike operand with
  | error f =>
    rw [decide_order_of_error hb hread]
    constructor
    · nofun
    · rintro (⟨w, hw, _⟩ | ⟨x, y, rfl, hy, _⟩)
      · cases hread.symm.trans hw
      · simp only [Value.readLike, hy] at hread
        cases hread
  | ok w =>
    obtain ⟨order, hcompares, hnone⟩ := hv.compares hread
    rw [decide_order_of_compares hb hread hcompares, hcompares.equalsRead_iff hread, ← hnone]
    cases order with
    | none => simp [Comparison.holds]
    | some o => cases o <;> simp [Comparison.holds]

/-- Looking an operand up among values of elementary kinds never fails, and finds the values that it
equals. Comparing it with a single one fails just when it cannot be read as a value of that kind. So
the look-up finds an operand just when some value counts as equal to it, unless nothing but values
without a comparison do. -/
theorem decide_contains_iff_decide_eq (ha : a.shape = ⟨.multi, .scalar⟩)
    (hb : b.shape = ⟨.single, .scalar⟩) (hitems : ∀ v ∈ items, v.Elementary) (operand : String) :
    let sought := decide (.contains true) (.several a items) operand
    let same := fun v => decide (.order .eq) (.single b v) operand
    (∃ found, sought = .ok found ∧ (found = true ↔ ∃ v ∈ items, v.EqualsRead operand)) ∧
    (∀ v ∈ items, same v = .ok true ↔ v.EqualsRead operand ∨ v.Incomparable operand) ∧
    (∀ v ∈ items, ∀ failure, same v = .error failure ↔ ∃ f, v.readLike operand = .error f ∧
      failure = .rejected (.badOperand (.order .eq) operand (.value f))) ∧
    ((sought = .ok true ↔ ∃ v ∈ items, same v = .ok true) ↔
      ((∃ v ∈ items, v.Incomparable operand) → ∃ v ∈ items, v.EqualsRead operand)) := by
  intro sought same
  obtain ⟨found, hfound, hequals⟩ := CurrentValue.includes_elementary hitems operand
  have hsought : sought = .ok found := decide_contains ha hfound
  have hsame : ∀ v ∈ items, same v = .ok true ↔ v.EqualsRead operand ∨ v.Incomparable operand :=
    fun v hv => decide_eq_iff_equalsRead hb (hitems v hv)
  refine ⟨⟨found, hsought, hequals⟩, hsame, ?_, ?_⟩
  · intro v hv failure
    cases hread : v.readLike operand with
    | error f =>
      show decide (.order .eq) (.single b v) operand = _ ↔ _
      rw [decide_order_of_error hb hread]
      constructor
      · intro h
        exact ⟨f, rfl, (Except.error.inj h).symm⟩
      · rintro ⟨g, hg, rfl⟩
        rw [Except.error.inj hg]
    | ok w =>
      obtain ⟨order, hcompares, _⟩ := (hitems v hv).compares hread
      show decide (.order .eq) (.single b v) operand = _ ↔ _
      rw [decide_order_of_compares hb hread hcompares]
      constructor
      · nofun
      · rintro ⟨f, hf, _⟩
        cases hf
  · have hexists : (∃ v ∈ items, same v = .ok true) ↔
        (∃ v ∈ items, v.EqualsRead operand) ∨ ∃ v ∈ items, v.Incomparable operand := by
      constructor
      · rintro ⟨v, hv, h⟩
        exact ((hsame v hv).mp h).imp (fun h => ⟨v, hv, h⟩) fun h => ⟨v, hv, h⟩
      · rintro (⟨v, hv, h⟩ | ⟨v, hv, h⟩)
        · exact ⟨v, hv, (hsame v hv).mpr (Or.inl h)⟩
        · exact ⟨v, hv, (hsame v hv).mpr (Or.inr h)⟩
    rw [hexists, hsought, Except.ok.injEq, hequals]
    constructor
    · exact fun h hincomparable => h.mpr (Or.inr hincomparable)
    · exact fun h => ⟨Or.inl, fun hcase => hcase.elim id h⟩

/-- The operand is found beside a value that it has no comparison with, as another value equals it. -/
theorem decide_contains_iff_decide_eq_mixed :
    decide (.contains true)
        (.several ⟨"#marks", .multi, .scalar⟩ [.float .nan, .text "one", .bool true]) "1"
      = .ok true ∧
    ∃ v ∈ [Value.float .nan, .text "one", .bool true],
      decide (.order .eq) (.single ⟨"#score", .single, .scalar⟩ v) "1" = .ok true := by
  have hitems : ∀ v ∈ [Value.float .nan, .text "one", .bool true], v.Elementary := by
    intro v hv
    simp only [List.mem_cons, List.not_mem_nil, or_false] at hv
    rcases hv with rfl | rfl | rfl
    · exact .float .nan
    · exact .text "one"
    · exact .bool true
  obtain ⟨_, _, _, hagree⟩ :=
    @decide_contains_iff_decide_eq ⟨"#marks", .multi, .scalar⟩ ⟨"#score", .single, .scalar⟩ _
      rfl rfl hitems "1"
  have hread : readBoolean? "1" = some true := by decide +kernel
  have hequals : ∃ v ∈ [Value.float .nan, .text "one", .bool true], v.EqualsRead "1" :=
    ⟨.bool true, by simp, .bool true, by simp only [Value.readLike, hread], by decide +kernel⟩
  have hfound : decide (.contains true)
      (.several ⟨"#marks", .multi, .scalar⟩ [.float .nan, .text "one", .bool true]) "1"
        = .ok true := by decide +kernel
  exact ⟨hfound, (hagree.mpr fun _ => hequals).mp hfound⟩

/-- A floating-point value that is no number counts as equal to 1, and 1 is not found when it is the
only value. -/
theorem decide_eq_nan :
    decide (.order .eq) (.single ⟨"#score", .single, .scalar⟩ (.float .nan)) "1" = .ok true ∧
    ¬ (decide (.contains true) (.several ⟨"#marks", .multi, .scalar⟩ [.float .nan]) "1" = .ok true ↔
      ∃ v ∈ [Value.float .nan],
        decide (.order .eq) (.single ⟨"#score", .single, .scalar⟩ v) "1" = .ok true) := by
  have hsame : decide (.order .eq) (.single ⟨"#score", .single, .scalar⟩ (.float .nan)) "1"
      = .ok true := by decide +kernel
  have hsought : decide (.contains true) (.several ⟨"#marks", .multi, .scalar⟩ [.float .nan]) "1"
      = .ok false := by decide +kernel
  refine ⟨hsame, fun hagree => ?_⟩
  have hfound := hagree.mpr ⟨_, List.mem_singleton_self _, hsame⟩
  cases hsought.symm.trans hfound

end Operator

end DecisionTable
