import DecisionTable.Proofs.Compile.Outcome
import DecisionTable.Proofs.Operator.Spelling

/-!
# Which tables compile

A table compiles exactly if its rows can be told apart and the rows that the first row leads to are
in order: their references lead to rows and never back, their attributes are defined, their
operators are known, and their outcomes have one datatype. No other row matters.
-/

namespace DecisionTable

open Relation

/-- What a table needs so that it compiles against a store. -/
structure Table.Compilable (t : Table) (store : Store) : Prop extends Table.Indexed t where
  /-- Every reference leads to a row. -/
  references : ∀ i, t.Reachable i → ∀ (side : Side) (id : String),
    Reference.target? (t.cell i side.heading) = some id → id ∈ t.nodeIds
  /-- No row leads back to itself. -/
  acyclic : ∀ i, t.Reachable i → ¬ TransGen t.Refers i i
  /-- Every attribute is defined. -/
  attributes : ∀ i, t.Reachable i →
    ∃ a ∈ store.attributes, a.identifier = t.cell i attributeHeading
  /-- Every operator is known. -/
  operators : ∀ i, t.Reachable i →
    ∃ op : Operator, op.spelling = Text.strip (t.cell i operatorHeading)
  /-- All outcomes have one datatype. -/
  agreed : ∀ i j, t.Reachable i → t.Reachable j → ∀ side side' : Side,
    Reference.target? (t.cell i side.heading) = none →
    Reference.target? (t.cell j side'.heading) = none →
    Literal.inferType (t.cell i side.heading) = Literal.inferType (t.cell j side'.heading)

/-- Every cell that a compilation looks at is there: at each point the row in focus exists, and so
do the columns. -/
def Source.ReadsCells (src : Source) (store : Store) : Prop :=
  ∀ rows, src.table.indexRows = .ok rows →
    ∀ c, ReflTransGen src.Move (.start rows store) c → ∀ h ∈ requiredHeadings,
      src.table.lookup c.focus.row.row h = .ok (src.table.cell c.focus.row.row h)

theorem Store.attribute?_eq_none {store : Store} {identifier : String} :
    store.attribute? identifier = none ↔ ∀ a ∈ store.attributes, a.identifier ≠ identifier := by
  simp [attribute?]

namespace Source

variable {src : Source} {store : Store} {type : LiteralType} {compiled : List Branch}
  {root : Branch}

theorem Complete.size_lt (h : src.Complete store type compiled root) (ht : src.table.Indexed)
    {i j : Nat} {b : Branch} (hb : b ∈ compiled) (hi : src.table.nodeIds[i]? = some b.id)
    (hij : TransGen src.table.Refers i j) :
    ∃ d ∈ compiled, src.table.nodeIds[j]? = some d.id ∧ d.node.size < b.node.size := by
  have hstep : ∀ {i j : Nat} {b : Branch}, b ∈ compiled → src.table.nodeIds[i]? = some b.id →
      src.table.Refers i j →
      ∃ d ∈ compiled, src.table.nodeIds[j]? = some d.id ∧ d.node.size < b.node.size := by
    intro i j b hb hi hrefers
    obtain ⟨side, id, htarget, hj⟩ := hrefers
    obtain ⟨d, hd, rfl, hchild⟩ := h.exists_target ht hb hi (sequel_eq_node.mpr htarget)
    have hsize := b.size_child side
    rw [hchild] at hsize
    exact ⟨d, hd, hj, hsize⟩
  induction hij with
  | single hrefers => exact hstep hb hi hrefers
  | tail _ hrefers ih =>
    obtain ⟨d, hd, hk, hless⟩ := ih
    obtain ⟨e, he, hj, hnext⟩ := hstep hd hk hrefers
    exact ⟨e, he, hj, Nat.lt_trans hnext hless⟩

theorem Complete.compilable (h : src.Complete store type compiled root)
    (ht : src.table.Indexed) : src.table.Compilable store := by
  refine ⟨ht, ?_, ?_, ?_, ?_, ?_⟩
  · intro i hi side id htarget
    obtain ⟨b, hb, hid⟩ := h.exists_branch ht hi
    obtain ⟨d, hd, rfl, _⟩ := h.exists_target ht hb hid (sequel_eq_node.mpr htarget)
    obtain ⟨j, _, hj⟩ := h.reachable hd
    exact List.mem_of_getElem? hj
  · -- along a cycle the branches would become smaller and smaller
    intro i hi hcycle
    obtain ⟨b, hb, hid⟩ := h.exists_branch ht hi
    obtain ⟨d, hd, hid', hless⟩ := h.size_lt ht hb hid hcycle
    have hsame : d = b := h.unique hd hb (Option.some.inj (hid'.symm.trans hid))
    rw [hsame] at hless
    exact Nat.lt_irrefl _ hless
  · intro i hi
    obtain ⟨b, hb, hid⟩ := h.exists_branch ht hi
    have htested := (h.built ht hb hid).tested
    exact ⟨b.decision.tested, List.mem_of_find?_eq_some htested,
      Store.identifier_of_attribute? htested⟩
  · intro i hi
    obtain ⟨b, hb, hid⟩ := h.exists_branch ht hi
    exact ⟨b.decision.op, Operator.parse?_eq_some.mp (h.built ht hb hid).op⟩
  · have htype : ∀ i, src.table.Reachable i → ∀ side : Side,
        Reference.target? (src.table.cell i side.heading) = none →
        Literal.inferType (src.table.cell i side.heading) = type := by
      intro i hi side hleaf
      obtain ⟨b, hb, hid⟩ := h.exists_branch ht hi
      exact (h.child_eq_leaf ht hb hid (sequel_eq_outcome.mpr ⟨hleaf, rfl⟩)).2
    intro i j hi hj side side' hleaf hleaf'
    rw [htype i hi side hleaf, htype j hj side' hleaf']

theorem Fault.not_compilable {e : CompileError} (h : src.Fault store e) :
    ¬ src.table.Compilable store := by
  intro hc
  cases h with
  | cyclic row id path hrow hid hcycle => exact hc.acyclic row hrow hcycle
  | undefined row side missing referrer hrow hid hmeans hmissing =>
    exact hmissing (hc.references row hrow side missing (sequel_eq_node.mp hmeans))
  | unknownOperator row id hrow hid hop =>
    obtain ⟨op, hspelling⟩ := hc.operators row hrow
    cases hop.symm.trans (Operator.parse?_eq_some.mpr hspelling)
  | unknownAttribute row id hrow hid hattr =>
    obtain ⟨a, ha, hidentifier⟩ := hc.attributes row hrow
    exact Store.attribute?_eq_none.mp hattr a ha hidentifier
  | inconsistent leaf first l m hleaf hfirst htype =>
    obtain ⟨i, side, hi, hl, _⟩ := hleaf
    obtain ⟨j, side', hj, hm, _⟩ := hfirst
    obtain ⟨hnone, rfl⟩ := sequel_eq_outcome.mp hl
    obtain ⟨hnone', rfl⟩ := sequel_eq_outcome.mp hm
    exact htype (hc.agreed i j hi hj side side' hnone hnone')

theorem readsCells (src : Source) (store : Store) : src.ReadsCells store := by
  intro rows hrows c hmoves h hh
  obtain ⟨ht, rfl⟩ := Table.indexRows_eq_ok.mp hrows
  have hplace := ((consistent_of_moves ht hmoves).row_in_focus rfl).2
  exact ht.lookup_cell (Table.nodeIds_getElem?_eq_some.mp hplace).1 hh

end Source

/-- A table compiles exactly if it has all that it needs, and is refused with a fault otherwise. On
the way no cell is looked up that is not there, and a tree has the datatype that was settled. -/
theorem compile_accepts_iff (t : Table) (store : Store) (baseUri : String) :
    ((∃ tree, (compile t store baseUri).tree = .ok tree) ↔ t.Compilable store) ∧
    ((∃ e, (compile t store baseUri).tree = .error e) ↔ ¬ t.Compilable store) ∧
    Source.ReadsCells ⟨t, baseUri⟩ store ∧
    ∀ tree, (compile t store baseUri).tree = .ok tree →
      ∃ rows, t.indexRows = .ok rows ∧
        (Source.run ⟨t, baseUri⟩ (.start rows store)).final.agreement.type?
          = some tree.inferredType := by
  have hok : ∀ tree, (compile t store baseUri).tree = .ok tree → t.Compilable store := by
    intro tree h
    obtain ⟨ht, _, _, _, hcomplete, _⟩ := compile_eq_ok h
    exact hcomplete.compilable ht
  have herror : ∀ e, (compile t store baseUri).tree = .error e → ¬ t.Compilable store := by
    intro e h
    rcases compile_eq_error h with hindex | hfault
    · exact fun hc => hindex hc.toIndexed
    · exact hfault.not_compilable
  refine ⟨⟨fun ⟨tree, h⟩ => hok tree h, ?_⟩, ⟨fun ⟨e, h⟩ => herror e h, ?_⟩,
    Source.readsCells _ store, ?_⟩
  · intro hc
    cases h : (compile t store baseUri).tree with
    | error e => exact absurd hc (herror e h)
    | ok tree => exact ⟨tree, rfl⟩
  · intro hc
    cases h : (compile t store baseUri).tree with
    | error e => exact ⟨e, rfl⟩
    | ok tree => exact absurd (hok tree h) hc
  · intro tree h
    obtain ⟨ht, _, _, _, _, rfl, hsettled⟩ := compile_eq_ok h
    exact ⟨t.nodeIds.zipIdx, ht.indexRows, hsettled⟩

end DecisionTable
