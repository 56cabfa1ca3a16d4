import DecisionTable.Proofs.Compile.Acceptance
import DecisionTable.Proofs.Tree.Arrival

/-!
# Tables whose first row leads to outcomes

If both outcome cells of the first row hold outcomes, then no other row matters. Such a table
compiles as soon as the first row is in order, and an evaluation ends after one decision.
-/

namespace DecisionTable

open Relation

variable {t : Table} {store now : Store} {baseUri : String} {tree : Tree} {subject : Subject}
  {side : Side}

namespace Table

theorem reachable_of_outcomes
    (h : ∀ side : Side, Reference.target? (t.cell 0 side.heading) = none) {i : Nat} :
    t.Reachable i ↔ i = 0 := by
  constructor
  · intro hi
    induction hi with
    | refl => rfl
    | tail _ hrefers ih =>
      obtain ⟨side, id, htarget, _⟩ := hrefers
      rw [ih, h side] at htarget
      cases htarget
  · rintro rfl
    exact t.reachable_first

theorem compilable_of_outcomes (ht : t.Indexed)
    (h : ∀ side : Side, Reference.target? (t.cell 0 side.heading) = none)
    (hattribute : ∃ a ∈ store.attributes, a.identifier = t.cell 0 attributeHeading)
    (hoperator : ∃ op : Operator, op.spelling = Text.strip (t.cell 0 operatorHeading))
    (htype : ∀ side : Side, Literal.inferType (t.cell 0 side.heading)
      = Literal.inferType (t.cell 0 trueHeading)) : t.Compilable store := by
  refine ⟨ht, ?_, ?_, ?_, ?_, ?_⟩
  · intro i hi side id htarget
    obtain rfl := (reachable_of_outcomes h).mp hi
    cases (h side).symm.trans htarget
  · intro i hi hcycle
    obtain rfl := (reachable_of_outcomes h).mp hi
    obtain ⟨j, ⟨side, id, htarget, _⟩, _⟩ := TransGen.head'_iff.mp hcycle
    cases (h side).symm.trans htarget
  · intro i hi
    obtain rfl := (reachable_of_outcomes h).mp hi
    exact hattribute
  · intro i hi
    obtain rfl := (reachable_of_outcomes h).mp hi
    exact hoperator
  · intro i j hi hj side side' _ _
    obtain rfl := (reachable_of_outcomes h).mp hi
    obtain rfl := (reachable_of_outcomes h).mp hj
    exact (htype side).trans (htype side').symm

theorem Compilable.exists_tree (h : t.Compilable store) (baseUri : String) :
    ∃ tree, (compile t store baseUri).tree = .ok tree := by
  cases hcompile : (compile t store baseUri).tree with
  | ok tree => exact ⟨tree, rfl⟩
  | error e =>
    rcases compile_eq_error hcompile with hindex | hfault
    · exact absurd h.toIndexed hindex
    · exact absurd h hfault.not_compilable

end Table

/-- An evaluation ends at an outcome of the first row if the decision of that row leads there. -/
theorem Tree.evaluate_of_outcome (hcompile : (compile t store baseUri).tree = .ok tree)
    (h : Reference.target? (t.cell 0 side.heading) = none)
    (hholds : ∀ d : Decision, store.attribute? (t.cell 0 attributeHeading) = some d.tested →
      Operator.parse? (t.cell 0 operatorHeading) = some d.op →
      d.operand = t.cell 0 operandHeading → d.holds now subject = .ok side.held) :
    tree.evaluate now subject = .ok (Literal.parse (t.cell 0 side.heading) baseUri) := by
  obtain ⟨hrenders, rfl⟩ := renders_of_compile hcompile
  obtain ⟨root, hfound, hroot, _⟩ := hrenders.root
  obtain ⟨b, hb, hrow⟩ := hrenders.rows 0 t.reachable_first
  obtain rfl := Option.some.inj (hfound.symm.trans hb)
  have hheld := hholds root.decision hrow.tested hrow.op hrow.operand
  rw [Tree.evaluate, hroot, Node.evaluate_goes (.mk root side hheld), hrow.outcome side h]
  rfl

end DecisionTable
