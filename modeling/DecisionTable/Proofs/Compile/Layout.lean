import DecisionTable.Proofs.Compile.Recursion
import DecisionTable.Proofs.Table.Layout

/-!
# Compiling tables of another layout

What comes of a table does not depend on its layout. The recursion goes from row to row by ids and
reads cells by their headings, so it does the same in both tables at every row that it comes to.
-/

namespace DecisionTable

open Relation

namespace Source

variable {t t' : Table} {baseUri : String} {i i' : Nat} {side : Side} {waiting : List String}
  {id : String} {registry : Registry}

theorem sequel_eq (h : t.SameRow t' i i') :
    Source.sequel ⟨t', baseUri⟩ i' side = Source.sequel ⟨t, baseUri⟩ i side := by
  simp only [sequel, h side.heading (Table.heading_mem_required side)]

theorem register_eq (h : t.SameRow t' i i') (id : String) (onTrue onFalse : Node) :
    Source.register ⟨t', baseUri⟩ id i' onTrue onFalse
      = Source.register ⟨t, baseUri⟩ id i onTrue onFalse := by
  simp only [register, h attributeHeading (by decide), h operatorHeading (by decide),
    h operandHeading (by decide)]

section Layout

variable (hcovers : t.Covers t') (hcovers' : t'.Covers t) (ht' : t'.Indexed)

include hcovers ht'

/-- A row that is referred to stands in the other table as well, and says the same there. -/
theorem sameRow_idxOf (hi : t.Reachable i)
    (hmeans : Source.sequel ⟨t, baseUri⟩ i side = .node id) (hid : id ∈ t.nodeIds) :
    id ∈ t'.nodeIds ∧ t.Reachable (t.nodeIds.idxOf id) ∧ t'.Reachable (t'.nodeIds.idxOf id) ∧
      t.SameRow t' (t.nodeIds.idxOf id) (t'.nodeIds.idxOf id) := by
  have hplace : t.nodeIds[t.nodeIds.idxOf id]? = some id := List.getElem?_idxOf hid
  have htarget := sequel_eq_node.mp hmeans
  have hj : t.Reachable (t.nodeIds.idxOf id) := hi.step ⟨side, id, htarget, hplace⟩
  obtain ⟨j', hj', hsame⟩ := hcovers.rows _ hj
  have hplace' : t'.nodeIds[j']? = some id := hsame.nodeId hplace (hj'.lt_length ht'.nonempty)
  have hid' : id ∈ t'.nodeIds := List.mem_of_getElem? hplace'
  have hfirst : t'.nodeIds[t'.nodeIds.idxOf id]? = some id := List.getElem?_idxOf hid'
  obtain rfl : j' = t'.nodeIds.idxOf id := ht'.row_unique hplace' hfirst
  exact ⟨hid', hj, hj', hsame⟩

include hcovers'

theorem compileCell_eq (ht : t.Indexed) (hi : t.Reachable i) (hi' : t'.Reachable i')
    (hsame : t.SameRow t' i i')
    (hrows : ∀ (target : String) (j j' : Nat) (registry : Registry), target ∈ t.nodeIds →
      target ∉ id :: waiting → t.Reachable j → t'.Reachable j' → t.SameRow t' j j' →
      Source.compileRow ⟨t', baseUri⟩ (id :: waiting) target j' registry
        = Source.compileRow ⟨t, baseUri⟩ (id :: waiting) target j registry) :
    Source.compileCell ⟨t', baseUri⟩ waiting id i' side registry
      = Source.compileCell ⟨t, baseUri⟩ waiting id i side registry := by
  have hsequel : Source.sequel ⟨t', baseUri⟩ i' side = Source.sequel ⟨t, baseUri⟩ i side :=
    sequel_eq hsame
  cases hmeans : Source.sequel ⟨t, baseUri⟩ i side with
  | outcome l =>
    rw [compileCell_outcome hmeans, compileCell_outcome (hsequel.trans hmeans)]
  | node target =>
    have hmeans' := hsequel.trans hmeans
    by_cases hid : target ∈ t.nodeIds
    · obtain ⟨hid', hj, hj', hplaces⟩ := sameRow_idxOf hcovers ht' hi hmeans hid
      cases hbranch : registry.branches.find? (·.id == target) with
      | some b =>
        rw [compileCell_shared hmeans hid hbranch, compileCell_shared hmeans' hid' hbranch]
      | none =>
        by_cases hopen : target ∈ id :: waiting
        · rw [compileCell_cyclic hmeans hid hbranch hopen,
            compileCell_cyclic hmeans' hid' hbranch hopen]
        · rw [compileCell_descend hmeans hid hbranch hopen,
            compileCell_descend hmeans' hid' hbranch hopen]
          have hrow := hrows target _ _ registry hid hopen hj hj' hplaces
          simp only [EStateM.map, hrow]
    · have hid' : target ∉ t'.nodeIds :=
        fun hmem => hid (sameRow_idxOf hcovers' ht hi' hmeans' hmem).1
      rw [compileCell_undefined hmeans hid, compileCell_undefined hmeans' hid']

theorem compileRow_eq (ht : t.Indexed) (hi : t.Reachable i) (hi' : t'.Reachable i')
    (hsame : t.SameRow t' i i') :
    Source.compileRow ⟨t', baseUri⟩ waiting id i' registry
      = Source.compileRow ⟨t, baseUri⟩ waiting id i registry := by
  -- on the number of rows that are not open
  induction hn : t.rowsOff (id :: waiting) using Nat.strongRecOn
    generalizing waiting id i i' registry with
  | ind n ih =>
    have hcell : ∀ (side : Side) (registry : Registry),
        Source.compileCell ⟨t', baseUri⟩ waiting id i' side registry
          = Source.compileCell ⟨t, baseUri⟩ waiting id i side registry := by
      intro side registry
      refine compileCell_eq hcovers hcovers' ht' ht hi hi' hsame ?_
      intro target j j' registry hid hopen hj hj' hplaces
      have hfewer : t.rowsOff (target :: id :: waiting) < n := by
        rw [← hn]
        exact Table.rowsOff_cons_lt hid hopen
      exact ih _ hfewer hj hj' hplaces rfl
    rw [compileRow, compileRow]
    simp only [bind, EStateM.bind, hcell, register_eq hsame]

theorem compileFirst_eq (ht : t.Indexed) (store : Store) :
    Source.compileFirst ⟨t', baseUri⟩ store = Source.compileFirst ⟨t, baseUri⟩ store := by
  simp only [compileFirst, hcovers.first nodeHeading (by decide)]
  exact compileRow_eq hcovers hcovers' ht' ht (Table.reachable_first t) (Table.reachable_first t')
    hcovers.first

end Layout

end Source

theorem compile_eq_of_covers {t t' : Table} (hcovers : t.Covers t') (hcovers' : t'.Covers t)
    (ht : t.Indexed) (ht' : t'.Indexed) (store : Store) (baseUri : String) :
    compile t' store baseUri = compile t store baseUri := by
  have hfirst : Source.compileFirst ⟨t', baseUri⟩ store = Source.compileFirst ⟨t, baseUri⟩ store :=
    Source.compileFirst_eq hcovers hcovers' ht' ht store
  rw [compile_eq_byRecursion, compile_eq_byRecursion]
  simp only [compileByRecursion, ht.indexRows, ht'.indexRows, hfirst]

/-- Tables that differ only in their layout compile to the same tree, or fail for the same reason,
with all that is known by then. -/
theorem compile_relaid {t t' : Table} (h : EqvGen Table.Relaid t t') (ht : t.Indexed)
    (ht' : t'.Indexed) (store : Store) (baseUri : String) :
    compile t' store baseUri = compile t store baseUri := by
  obtain ⟨hcovers, hcovers'⟩ := Table.covers_of_eqvGen h
  exact compile_eq_of_covers hcovers hcovers' ht ht' store baseUri

namespace Example

/-- Other columns, then another order of the rows, then one row more. -/
theorem relaid_spread : EqvGen Table.Relaid sharing spread := by
  let listed : Table := ⟨spreadHeadings, [spread.rows[0], spread.rows[3], spread.rows[1]], by decide⟩
  let sorted : Table := ⟨spreadHeadings, [spread.rows[0], spread.rows[1], spread.rows[3]], by decide⟩
  have hcolumns : sharing.Relaid listed := by
    refine .columns (by decide) rfl ?_
    intro i h hh _
    rcases Nat.lt_or_ge i 3 with hi | hi
    · have hcells : ∀ i < 3, ∀ h ∈ requiredHeadings, listed.cell i h = sharing.cell i h := by
        decide +kernel
      exact hcells i hi h hh
    · have hrow : sharing.rows[i]? = none := List.getElem?_eq_none hi
      have hrow' : listed.rows[i]? = none := List.getElem?_eq_none hi
      simp only [Table.cell, Table.cellOf, List.getD, hrow, hrow', Option.getD_none]
      split <;> split <;> rfl
  have hreordered : listed.Relaid sorted :=
    .reordered spread.rows[0] [spread.rows[3], spread.rows[1]] [spread.rows[1], spread.rows[3]]
      rfl rfl rfl (.swap _ _ _)
  have hdropped : spread.Relaid sorted := by
    refine .dropped [spread.rows[0], spread.rows[1]] [spread.rows[3]] spread.rows[2] rfl rfl rfl ?_
    refine Table.not_reachable_of_unreferred (by decide) (by decide) ?_
    intro i hi hne side
    revert i
    cases side <;> decide +kernel
  exact .trans _ _ _ (.rel _ _ hcolumns)
    (.trans _ _ _ (.rel _ _ hreordered) (.symm _ _ (.rel _ _ hdropped)))

theorem indexed_sharing : sharing.Indexed :=
  ⟨by decide, by decide, by decide +kernel⟩

theorem indexed_spread : spread.Indexed :=
  ⟨by decide, by decide, by decide +kernel⟩

end Example

theorem compile_relaid_spread :
    compile Example.spread Example.emptyStore "urn:t"
      = compile Example.sharing Example.emptyStore "urn:t" ∧
    (compile Example.spread Example.emptyStore "urn:t").branches.map (·.id)
      = ["rest", "high", "root"] := by
  have hsame := compile_relaid Example.relaid_spread Example.indexed_sharing Example.indexed_spread
    Example.emptyStore "urn:t"
  refine ⟨hsame, ?_⟩
  rw [hsame]
  decide +kernel

end DecisionTable
