import DecisionTable.Proofs.Operator.Complement
import DecisionTable.Proofs.Text.Split
import Mathlib.Data.Finset.Dedup
import Mathlib.Data.Finset.Lattice.Lemmas

/-!
# Lists of alternatives

An operand that lists alternatives stands for the set of them. Two lists that are written one behind
the other, with a bar between them, stand for the union of both sets, so a value is within the whole
if it is within one of the two. Looking a reference up in a list is the same as comparing it with
each alternative by itself.
-/

namespace DecisionTable

namespace Text

variable {operand x : String}

theorem alternatives_append (operand operand' : String) :
    alternatives (operand ++ "|" ++ operand') = alternatives operand ++ alternatives operand' := by
  have hchars : (operand ++ "|" ++ operand').toList
      = operand.toList ++ alternativeMark :: operand'.toList := by
    simp [alternativeMark]
  simp only [alternatives, splitAt, splitChars_eq_splitOn, hchars, List.splitOn_append_cons_self,
    List.map_append]

theorem notMem_of_mem_alternatives (h : x ∈ alternatives operand) : '|' ∉ x.toList := by
  unfold alternatives splitAt at h
  rw [splitChars_eq_splitOn] at h
  obtain ⟨piece, hpiece, rfl⟩ := List.mem_map.mp h
  rw [String.toList_ofList]
  exact notMem_of_mem_splitOn hpiece

/-- A text without a bar lists itself, also if it is empty. -/
theorem alternatives_eq_singleton (h : '|' ∉ operand.toList) :
    alternatives operand = [operand] := by
  have hsplit : operand.toList.splitOn alternativeMark = [operand.toList] :=
    List.splitOn_eq_singleton h
  unfold alternatives splitAt
  rw [splitChars_eq_splitOn, hsplit, List.map_singleton, String.ofList_toList]

theorem alternatives_ne_nil (operand : String) : alternatives operand ≠ [] := by
  unfold alternatives splitAt
  rw [splitChars_eq_splitOn]
  exact mt List.map_eq_nil_iff.mp (List.splitOn_ne_nil _ _)

end Text

namespace Operator

open Text (alternatives)

variable {a : Attribute} {v : Value} {op : Operator} {operand operand' text : String}
  {asserts b : Bool}

/-! ### Operators that look at the text of a value -/

/-- What an operator says of a single value is a test of the text of the value. -/
def TestsText (op : Operator) (a : Attribute) (operand : String) (test : String → Bool) : Prop :=
  a.shape = op.requires ∧
    ∀ v : Value, op.rule (.single a v) operand = (liftValue v.plain).map test

/-- Looking a single value up among alternatives is a test of its text. -/
theorem map_isAmong (a : Attribute) (v : Value) (operand : String) (asserts : Bool) :
    (isAmong (.single a v) operand).map (· == asserts)
      = (liftValue v.plain).map fun text => (alternatives operand).contains text == asserts := by
  simp only [isAmong, CurrentValue.asText]
  cases v.plain <;> rfl

theorem testsText_within (ha : a.shape = ⟨.single, .scalar⟩) (operand : String) (asserts : Bool) :
    TestsText (.within asserts) a operand
      fun text => (alternatives operand).contains text == asserts :=
  ⟨ha, fun v => map_isAmong a v operand asserts⟩

theorem testsText_oneOf (ha : a.shape = ⟨.single, .reference⟩) (operand : String)
    (asserts : Bool) :
    TestsText (.oneOf asserts) a operand
      fun text => (alternatives operand).contains text == asserts :=
  ⟨ha, fun v => map_isAmong a v operand asserts⟩

theorem testsText_identity (ha : a.shape = ⟨.single, .reference⟩) (operand : String)
    (asserts : Bool) :
    TestsText (.identity asserts) a operand fun text => (text == operand) == asserts := by
  have hkind : a.kind = .reference := congrArg Shape.kind ha
  have hsame : ∀ text : String, (compare text operand == .eq) = (text == operand) := by
    intro text
    rw [Bool.eq_iff_iff, beq_iff_eq, beq_iff_eq]
    exact Std.LawfulEqCmp.compare_eq_iff_eq
  refine ⟨ha, fun v => ?_⟩
  simp only [rule, CurrentValue.compareTo, hkind]
  cases v.plain with
  | error f => rfl
  | ok text => exact congrArg (fun same => Except.ok (same == asserts)) (hsame text)

/-- The operator answers just when the value has a text, and then as the test does. -/
theorem TestsText.decide_eq_ok {test : String → Bool} (h : TestsText op a operand test) :
    op.decide (.single a v) operand = .ok b ↔ ∃ text, v.plain = .ok text ∧ test text = b := by
  obtain ⟨hshape, hrule⟩ := h
  have hsuited : (CurrentValue.single a v).attr.shape = op.requires := hshape
  rw [decide_of_suited hsuited, hrule]
  cases v.plain with
  | ok text => simp [liftValue, Except.mapError, Except.map]
  | error f =>
    simp only [liftValue, Except.mapError, Except.map]
    split <;> simp

/-! ### Lists behind one another -/

theorem decide_within_append (ha : a.shape = ⟨.single, .scalar⟩) (v : Value)
    (operand operand' : String) :
    (decide (.within true) (.single a v) (operand ++ "|" ++ operand') = .ok true ↔
      decide (.within true) (.single a v) operand = .ok true ∨
        decide (.within true) (.single a v) operand' = .ok true) ∧
    (decide (.within false) (.single a v) (operand ++ "|" ++ operand') = .ok true ↔
      decide (.within false) (.single a v) operand = .ok true ∧
        decide (.within false) (.single a v) operand' = .ok true) := by
  simp only [(testsText_within ha _ _).decide_eq_ok, Text.alternatives_append]
  cases v.plain with
  | error f => simp
  | ok text => simp

/-- A text that holds a bar is no alternative. -/
theorem decide_within_of_bar (ha : a.shape = ⟨.single, .scalar⟩) (hplain : v.plain = .ok text)
    (hbar : '|' ∈ text.toList) (operand : String) :
    decide (.within true) (.single a v) operand = .ok false := by
  have hnot : text ∉ alternatives operand := fun h => Text.notMem_of_mem_alternatives h hbar
  rw [(testsText_within ha _ _).decide_eq_ok]
  exact ⟨text, hplain, by simp [hnot]⟩

/-! ### Alternatives one by one -/

theorem decide_oneOf_iff (ha : a.shape = ⟨.single, .reference⟩) (v : Value) (operand : String) :
    (decide (.oneOf true) (.single a v) operand = .ok true ↔
      ∃ x ∈ alternatives operand, decide (.identity true) (.single a v) x = .ok true) ∧
    (decide (.oneOf false) (.single a v) operand = .ok true ↔
      ∀ x ∈ alternatives operand, decide (.identity false) (.single a v) x = .ok true) := by
  simp only [(testsText_oneOf ha _ _).decide_eq_ok, (testsText_identity ha _ _).decide_eq_ok]
  cases v.plain with
  | ok text =>
    refine ⟨by simp, ?_⟩
    simp only [Except.ok.injEq, exists_eq_left', beq_false, Bool.not_eq_true', List.contains_eq_mem,
      decide_eq_false_iff_not, beq_eq_false_iff_ne]
    exact ⟨fun h x hx heq => h (heq ▸ hx), fun h hmem => h text hmem rfl⟩
  | error f =>
    -- without a text nothing holds, and there is an alternative of which it would have to
    obtain ⟨x, hx⟩ := List.exists_mem_of_ne_nil _ (Text.alternatives_ne_nil operand)
    refine ⟨by simp, iff_of_false (by simp) fun h => ?_⟩
    obtain ⟨text, htext, _⟩ := h x hx
    cases htext

/-- An operand denotes the set of its alternatives, and two operands with a bar between them the
union of both sets. Single data are within the union if they are within one of the sets, and
references are among alternatives if they are one of them. -/
theorem decide_alternatives (operand operand' : String) :
    (alternatives (operand ++ "|" ++ operand')).toFinset
      = (alternatives operand).toFinset ∪ (alternatives operand').toFinset ∧
    (∀ x ∈ alternatives operand, '|' ∉ x.toList) ∧
    ('|' ∉ operand.toList → alternatives operand = [operand]) ∧
    (∀ (a : Attribute) (v : Value), a.shape = ⟨.single, .scalar⟩ →
      let holds := fun op operand => decide op (.single a v) operand = .ok true
      (holds (.within true) (operand ++ "|" ++ operand') ↔
        holds (.within true) operand ∨ holds (.within true) operand') ∧
      (holds (.within false) (operand ++ "|" ++ operand') ↔
        holds (.within false) operand ∧ holds (.within false) operand') ∧
      ∀ text, v.plain = .ok text → '|' ∈ text.toList →
        decide (.within true) (.single a v) operand = .ok false) ∧
    ∀ (a : Attribute) (v : Value), a.shape = ⟨.single, .reference⟩ →
      let holds := fun op operand => decide op (.single a v) operand = .ok true
      (holds (.oneOf true) operand ↔
        ∃ x ∈ alternatives operand, holds (.identity true) x) ∧
      (holds (.oneOf false) operand ↔
        ∀ x ∈ alternatives operand, holds (.identity false) x) := by
  refine ⟨?_, fun x hx => Text.notMem_of_mem_alternatives hx, Text.alternatives_eq_singleton, ?_,
    fun a v ha => decide_oneOf_iff ha v operand⟩
  · rw [Text.alternatives_append, List.toFinset_append]
  · intro a v ha
    obtain ⟨hwithin, houtwith⟩ := decide_within_append ha v operand operand'
    exact ⟨hwithin, houtwith, fun text hplain hbar => decide_within_of_bar ha hplain hbar operand⟩

/-- The empty text is an alternative of `good|`, and that text itself is none. -/
theorem decide_alternatives_good :
    decide (.within true) (.single ⟨"#choice", .single, .scalar⟩ (.text "fair")) "good||fair"
      = .ok true ∧
    decide (.within true) (.single ⟨"#choice", .single, .scalar⟩ (.text "good|")) "good|"
      = .ok false ∧
    decide (.oneOf true) (.single ⟨"#friend", .single, .reference⟩ (.text "")) "good|"
      = .ok true := by
  obtain ⟨_, _, _, hdatum, hreference⟩ := decide_alternatives "good|" "fair"
  have hfair : decide (.within true) (.single ⟨"#choice", .single, .scalar⟩ (.text "fair")) "fair"
      = .ok true := by decide
  have hempty : "" ∈ alternatives "good|" := by decide
  have hsame : decide (.identity true) (.single ⟨"#friend", .single, .reference⟩ (.text "")) ""
      = .ok true := by decide
  have hbar : '|' ∈ "good|".toList := by decide
  refine ⟨(hdatum _ _ rfl).1.mpr (Or.inr hfair), ?_, ?_⟩
  · exact (hdatum _ (.text "good|") rfl).2.2 "good|" rfl hbar
  · exact (hreference _ _ rfl).1.mpr ⟨"", hempty, hsame⟩

end Operator

end DecisionTable
