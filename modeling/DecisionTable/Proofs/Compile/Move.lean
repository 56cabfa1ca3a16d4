import DecisionTable.Proofs.Table.Graph

/-!
# The moves of a compilation

A step of a compilation either goes on in one of four ways (a leaf, a branch that is shared, a row
that is opened, a row that is closed) or ends it in one of six (five faults, and the root). All that
is shown of compilations rests on this list.
-/

namespace DecisionTable

open Relation

namespace Source

/-- The branch that a row becomes when both its nodes are known. -/
def branch (src : Source) (r : OpenRow) (a : Attribute) (op : Operator) (t f : Node) : Branch :=
  ⟨r.id, ⟨a, op, src.table.cell r.row operandHeading⟩, t, f⟩

/-- The ways in which a compilation goes on. -/
inductive Move (src : Source) : Compilation → Compilation → Prop where
  | leaf {c : Compilation} (r : OpenRow) (l : TypedLiteral) (agreement : Agreement)
      (hfocus : c.focus = .seek r) (hmeans : src.sequel r.row r.side = .outcome l)
      (hagree : c.agreement.check l.type (leafId r.id r.side) = .ok agreement) :
      Move src c
        { c with focus := r.supply (.leaf (leafId r.id r.side) l), agreement := agreement }
  | share {c : Compilation} (r : OpenRow) (id : String) (b : Branch)
      (hfocus : c.focus = .seek r) (hmeans : src.sequel r.row r.side = .node id)
      (hbranch : c.branch? id = some b) :
      Move src c { c with focus := r.supply b.node }
  | descend {c : Compilation} (r : OpenRow) (id : String) (row : Nat) (left : List (String × Nat))
      (hfocus : c.focus = .seek r) (hmeans : src.sequel r.row r.side = .node id)
      (hbranch : c.branch? id = none) (hopen : ∀ o ∈ c.openRows, o.id ≠ id)
      (hrow : Compilation.takeRow id c.unopened = some (row, left)) :
      Move src c
        { c with focus := .seek ⟨id, row, none⟩, below := r :: c.below, unopened := left }
  | finish {c : Compilation} (r : OpenRow) (t f : Node) (a : Attribute) (store : Store)
      (op : Operator) (parent : OpenRow) (rest : List OpenRow)
      (hfocus : c.focus = .close r t f)
      (hattr : c.store.resolve (src.table.cell r.row attributeHeading) = .ok (a, store))
      (hop : Operator.parse? (src.table.cell r.row operatorHeading) = some op)
      (hbelow : c.below = parent :: rest) :
      Move src c
        { c with
          focus := parent.supply (src.branch r a op t f).node, below := rest,
          compiled := src.branch r a op t f :: c.compiled, store := store }

/-- The ways in which a compilation ends. -/
inductive Halt (src : Source) : Compilation → Compiled → Prop where
  | inconsistent {c : Compilation} (r : OpenRow) (l : TypedLiteral) (e : CompileError)
      (hfocus : c.focus = .seek r) (hmeans : src.sequel r.row r.side = .outcome l)
      (hagree : c.agreement.check l.type (leafId r.id r.side) = .error e) :
      Halt src c ⟨.error e, c⟩
  | cyclic {c : Compilation} (r : OpenRow) (id : String)
      (hfocus : c.focus = .seek r) (hmeans : src.sequel r.row r.side = .node id)
      (hbranch : c.branch? id = none) (hopen : ∃ o ∈ c.openRows, o.id = id) :
      Halt src c ⟨.error (.cyclicReference id (c.cyclePath id)), c⟩
  | undefined {c : Compilation} (r : OpenRow) (id : String)
      (hfocus : c.focus = .seek r) (hmeans : src.sequel r.row r.side = .node id)
      (hbranch : c.branch? id = none) (hopen : ∀ o ∈ c.openRows, o.id ≠ id)
      (hrow : Compilation.takeRow id c.unopened = none) :
      Halt src c ⟨.error (.undefinedNode id r.id r.side), c⟩
  | unknownAttribute {c : Compilation} (r : OpenRow) (t f : Node) (e : CompileError)
      (hfocus : c.focus = .close r t f)
      (hattr : c.store.resolve (src.table.cell r.row attributeHeading) = .error e) :
      Halt src c ⟨.error (blame r.id e), c⟩
  | unknownOperator {c : Compilation} (r : OpenRow) (t f : Node) (a : Attribute) (store : Store)
      (hfocus : c.focus = .close r t f)
      (hattr : c.store.resolve (src.table.cell r.row attributeHeading) = .ok (a, store))
      (hop : Operator.parse? (src.table.cell r.row operatorHeading) = none) :
      Halt src c
        ⟨.error (.unknownOperator (src.table.cell r.row operatorHeading) (some r.id)),
          { c with store := store }⟩
  | root {c : Compilation} (r : OpenRow) (t f : Node) (a : Attribute) (store : Store)
      (op : Operator) (hfocus : c.focus = .close r t f)
      (hattr : c.store.resolve (src.table.cell r.row attributeHeading) = .ok (a, store))
      (hop : Operator.parse? (src.table.cell r.row operatorHeading) = some op)
      (hbelow : c.below = []) :
      Halt src c
        ⟨.ok (src.branch r a op t f),
          { c with compiled := src.branch r a op t f :: c.compiled, store := store }⟩

variable {src : Source} {c c' : Compilation} {r : Compiled}

/-! ### Steps are moves and halts -/

theorem any_openRows_eq_false {id : String} :
    c.openRows.any (·.id == id) = false ↔ ∀ o ∈ c.openRows, o.id ≠ id := by
  simp

theorem moves_or_halts (src : Source) (c : Compilation) :
    (∃ c', src.Move c c') ∨ ∃ r, src.Halt c r := by
  cases hfocus : c.focus with
  | seek o =>
    cases hmeans : src.sequel o.row o.side with
    | outcome l =>
      cases hagree : c.agreement.check l.type (leafId o.id o.side) with
      | error e => exact Or.inr ⟨_, .inconsistent o l e hfocus hmeans hagree⟩
      | ok agreement => exact Or.inl ⟨_, .leaf o l agreement hfocus hmeans hagree⟩
    | node id =>
      cases hbranch : c.branch? id with
      | some b => exact Or.inl ⟨_, .share o id b hfocus hmeans hbranch⟩
      | none =>
        by_cases hopen : ∃ r ∈ c.openRows, r.id = id
        · exact Or.inr ⟨_, .cyclic o id hfocus hmeans hbranch hopen⟩
        · have hnone : ∀ r ∈ c.openRows, r.id ≠ id := fun r hr hid => hopen ⟨r, hr, hid⟩
          cases hrow : Compilation.takeRow id c.unopened with
          | none => exact Or.inr ⟨_, .undefined o id hfocus hmeans hbranch hnone hrow⟩
          | some p =>
            exact Or.inl ⟨_, .descend o id p.1 p.2 hfocus hmeans hbranch hnone hrow⟩
  | close o t f =>
    cases hattr : c.store.resolve (src.table.cell o.row attributeHeading) with
    | error e => exact Or.inr ⟨_, .unknownAttribute o t f e hfocus hattr⟩
    | ok p =>
      obtain ⟨a, store⟩ := p
      cases hop : Operator.parse? (src.table.cell o.row operatorHeading) with
      | none => exact Or.inr ⟨_, .unknownOperator o t f a store hfocus hattr hop⟩
      | some op =>
        cases hbelow : c.below with
        | nil => exact Or.inr ⟨_, .root o t f a store op hfocus hattr hop hbelow⟩
        | cons parent rest =>
          exact Or.inl ⟨_, .finish o t f a store op parent rest hfocus hattr hop hbelow⟩

theorem step_of_move (h : src.Move c c') : src.step c = .next c' := by
  cases h with
  | leaf o l agreement hfocus hmeans hagree =>
    obtain ⟨htarget, rfl⟩ := sequel_eq_outcome.mp hmeans
    simp only [step, hfocus, seek, htarget, hagree]
  | share o id b hfocus hmeans hbranch =>
    simp only [step, hfocus, seek, sequel_eq_node.mp hmeans, hbranch]
  | descend o id row left hfocus hmeans hbranch hopen hrow =>
    simp only [step, hfocus, seek, sequel_eq_node.mp hmeans, hbranch,
      any_openRows_eq_false.mpr hopen, hrow, Bool.false_eq_true, if_false]
  | finish o t f a store op parent rest hfocus hattr hop hbelow =>
    simp only [step, hfocus, close, hattr, hop, hbelow, branch]

theorem step_of_halt (h : src.Halt c r) : src.step c = .stop r := by
  cases h with
  | inconsistent o l e hfocus hmeans hagree =>
    obtain ⟨htarget, rfl⟩ := sequel_eq_outcome.mp hmeans
    simp only [step, hfocus, seek, htarget, hagree, fail]
  | cyclic o id hfocus hmeans hbranch hopen =>
    have hany : c.openRows.any (·.id == id) = true := by simpa using hopen
    simp only [step, hfocus, seek, sequel_eq_node.mp hmeans, hbranch, hany, if_true, fail]
  | undefined o id hfocus hmeans hbranch hopen hrow =>
    simp only [step, hfocus, seek, sequel_eq_node.mp hmeans, hbranch,
      any_openRows_eq_false.mpr hopen, hrow, Bool.false_eq_true, if_false, fail]
  | unknownAttribute o t f e hfocus hattr =>
    simp only [step, hfocus, close, hattr, fail]
  | unknownOperator o t f a store hfocus hattr hop =>
    simp only [step, hfocus, close, hattr, hop, fail]
  | root o t f a store op hfocus hattr hop hbelow =>
    simp only [step, hfocus, close, hattr, hop, hbelow, branch]

/-! ### Runs -/

theorem run_of_move (h : src.Move c c') : src.run c = src.run c' := by
  rw [run]
  split
  · rename_i d hd
    have heq : c' = d := Step.next.inj ((step_of_move h).symm.trans hd)
    rw [heq]
  · rename_i d hd
    cases (step_of_move h).symm.trans hd

theorem run_of_halt (h : src.Halt c r) : src.run c = r := by
  rw [run]
  split
  · rename_i d hd
    cases (step_of_halt h).symm.trans hd
  · rename_i d hd
    exact (Step.stop.inj ((step_of_halt h).symm.trans hd)).symm

theorem run_of_moves (h : ReflTransGen src.Move c c') : src.run c = src.run c' := by
  induction h with
  | refl => rfl
  | tail _ hmove ih => exact ih.trans (run_of_move hmove)

/-- A run makes moves until it halts. -/
theorem run_halts (src : Source) (c : Compilation) :
    ∃ c', ReflTransGen src.Move c c' ∧ src.Halt c' (src.run c) := by
  induction hn : c.stepsLeft using Nat.strongRecOn generalizing c with
  | ind n ih =>
    rcases moves_or_halts src c with ⟨d, hmove⟩ | ⟨r, hhalt⟩
    · have hless : d.stepsLeft < n := by
        have hstep := stepsLeft_step (step_of_move hmove)
        omega
      obtain ⟨e, hmoves, hhalt⟩ := ih d.stepsLeft hless d rfl
      refine ⟨e, ReflTransGen.head hmove hmoves, ?_⟩
      rw [run_of_move hmove]
      exact hhalt
    · refine ⟨c, ReflTransGen.refl, ?_⟩
      rw [run_of_halt hhalt]
      exact hhalt

theorem invariant_of_moves {P : Compilation → Prop} (hkeep : ∀ c c', P c → src.Move c c' → P c')
    (hc : P c) (h : ReflTransGen src.Move c c') : P c' := by
  induction h with
  | refl => exact hc
  | tail _ hmove ih => exact hkeep _ _ ih hmove

end Source

end DecisionTable
