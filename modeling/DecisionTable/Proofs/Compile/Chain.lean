import DecisionTable.Proofs.Compile.Cells
import DecisionTable.Proofs.Compile.Recursion

/-!
# Compiling a chain of rows

In a chain each row leads to the next one if its decision holds, and to an outcome otherwise. A
compilation goes down the chain, with all rows open at once, before it closes the first branch, that
of the last row. If the last row leads back to a row of the chain instead, then the cycle that is
reported goes from that row to the end of the chain.
-/

namespace DecisionTable

/-! ### The tree of a chain -/

/-- The branch of a row of a chain, with the number of rows below it. -/
def chainBranch (name : Nat → String) (d : Decision) (yes no : TypedLiteral) (i : Nat) :
    Nat → Branch
  | 0 => ⟨name i, d, .leaf (leafId (name i) .onTrue) yes, .leaf (leafId (name i) .onFalse) no⟩
  | below + 1 =>
    ⟨name i, d, (chainBranch name d yes no (i + 1) below).node, .leaf (leafId (name i) .onFalse) no⟩

/-- The branches of a chain from a row on, in the order of the rows. -/
def chainBranches (name : Nat → String) (d : Decision) (yes no : TypedLiteral) (i : Nat) :
    Nat → List Branch
  | 0 => [chainBranch name d yes no i 0]
  | below + 1 =>
    chainBranch name d yes no i (below + 1) :: chainBranches name d yes no (i + 1) below

/-- The tree of a chain of rows. -/
def chainTree (name : Nat → String) (d : Decision) (yes no : TypedLiteral) (m : Nat)
    (baseUri : String) : Tree where
  root := (chainBranch name d yes no 0 m).node
  branches := (chainBranches name d yes no 0 m).reverse
  inferredType := no.type
  baseUri := baseUri

/-! ### Chains of rows -/

namespace Source

/-- The rows of a table form a chain in which every row makes the same decision. What the last row
leads to if its decision holds is left open. -/
structure Chained (src : Source) (name : Nat → String) (d : Decision) (no : TypedLiteral)
    (m : Nat) : Prop where
  indexed : src.table.Indexed
  ids : src.table.nodeIds = (List.range (m + 1)).map name
  tested : ∀ i ≤ m, src.table.cell i attributeHeading = d.tested.identifier
  op : ∀ i ≤ m, Operator.parse? (src.table.cell i operatorHeading) = some d.op
  operand : ∀ i ≤ m, src.table.cell i operandHeading = d.operand
  link : ∀ i < m, src.sequel i .onTrue = .node (name (i + 1))
  otherwise : ∀ i ≤ m, src.sequel i .onFalse = .outcome no

/-- The ids of the rows above a row of a chain, from the last to the first. -/
def above (name : Nat → String) (i : Nat) : List String :=
  ((List.range i).map name).reverse

theorem above_succ (name : Nat → String) (i : Nat) :
    above name (i + 1) = name i :: above name i := by
  simp only [above, List.range_succ, List.map_append, List.map_cons, List.map_nil,
    List.reverse_append, List.reverse_singleton, List.singleton_append]

namespace Chained

variable {src : Source} {name : Nat → String} {d : Decision} {no : TypedLiteral} {m i j : Nat}

theorem nodeIds_getElem? (h : src.Chained name d no m) (hi : i ≤ m) :
    src.table.nodeIds[i]? = some (name i) := by
  rw [h.ids, List.getElem?_map, List.getElem?_range (by omega)]
  rfl

theorem name_mem (h : src.Chained name d no m) (hi : i ≤ m) : name i ∈ src.table.nodeIds :=
  List.mem_of_getElem? (h.nodeIds_getElem? hi)

theorem name_ne (h : src.Chained name d no m) (hi : i ≤ m) (hj : j < i) : name j ≠ name i := by
  intro heq
  have hfound := h.nodeIds_getElem? (i := j) (by omega)
  rw [heq] at hfound
  have hsame := h.indexed.row_unique hfound (h.nodeIds_getElem? hi)
  omega

theorem name_notMem_above (h : src.Chained name d no m) (hi : i ≤ m) : name i ∉ above name i := by
  intro hmem
  obtain ⟨j, hj, heq⟩ := List.mem_map.mp (List.mem_reverse.mp hmem)
  exact h.name_ne hi (List.mem_range.mp hj) heq

end Chained

/-! ### Single rows -/

variable {src : Source} {waiting : List String} {id : String} {row : Nat} {before after : Registry}

/-- A row is closed when its true node is known, if its false side holds an outcome of the datatype
that is settled. -/
theorem compileRow_of_ok {t : Node} {no : TypedLiteral} {a : Attribute} {op : Operator}
    {noted : Store} (htrue : src.compileCell waiting id row .onTrue before = .ok t after)
    (hfalse : src.sequel row .onFalse = .outcome no)
    (hagree : after.agreement.check no.type (leafId id .onFalse) = .ok after.agreement)
    (hattr : after.store.resolve (src.table.cell row attributeHeading) = .ok (a, noted))
    (hop : Operator.parse? (src.table.cell row operatorHeading) = some op) :
    src.compileRow waiting id row before =
      .ok (src.branch ⟨id, row, none⟩ a op t (.leaf (leafId id .onFalse) no))
        ⟨src.branch ⟨id, row, none⟩ a op t (.leaf (leafId id .onFalse) no) :: after.branches,
          after.agreement, noted⟩ := by
  have hleaf : recordLeaf id .onFalse no after = .ok (.leaf (leafId id .onFalse) no) after := by
    simp only [recordLeaf, get_bind, hagree]
    rfl
  rw [compileRow]
  simp only [bind, EStateM.bind, htrue, compileCell_outcome hfalse, hleaf]
  simp only [register, get_bind, hattr, hop]
  rfl

theorem compileRow_of_error {e : CompileError}
    (htrue : src.compileCell waiting id row .onTrue before = .error e after) :
    src.compileRow waiting id row before = .error e after := by
  rw [compileRow]
  simp only [bind, EStateM.bind, htrue]

/-! ### The whole chain -/

namespace Chained

variable {name : Nat → String} {d : Decision} {yes no : TypedLiteral} {m i j below : Nat}
  {store noted : Store}

theorem branch_eq (h : src.Chained name d no m) (hi : i ≤ m) (t f : Node) :
    src.branch ⟨name i, i, none⟩ d.tested d.op t f = ⟨name i, d, t, f⟩ := by
  rw [branch, h.operand i hi]

/-- From a row that is not the last one the compilation goes down to the next row. -/
theorem compileCell_link (h : src.Chained name d no m) (hi : i < m) (agreement : Agreement)
    (store : Store) :
    src.compileCell (above name i) (name i) i .onTrue ⟨[], agreement, store⟩
      = (src.compileRow (above name (i + 1)) (name (i + 1)) (i + 1)).map Branch.node
          ⟨[], agreement, store⟩ := by
  have hnext : i + 1 ≤ m := hi
  have hclosed : name (i + 1) ∉ name i :: above name i := by
    rw [← above_succ]
    exact h.name_notMem_above hnext
  rw [compileCell_descend (h.link i hi) (h.name_mem hnext) rfl hclosed, ← above_succ,
    h.indexed.idxOf_eq (h.nodeIds_getElem? hnext)]

/-- The row with so many rows below it is compiled to its branch, and all rows below it before. -/
theorem compileRow_eq_ok (h : src.Chained name d no m)
    (hlast : src.sequel m .onTrue = .outcome yes) (htype : yes.type = no.type)
    (hattr : store.resolve d.tested.identifier = .ok (d.tested, noted))
    (hagain : noted.resolve d.tested.identifier = .ok (d.tested, noted)) (hbelow : i + below = m) :
    src.compileRow (above name i) (name i) i ⟨[], {}, store⟩ =
      .ok (chainBranch name d yes no i below)
        ⟨chainBranches name d yes no i below, ⟨some (no.type, leafId (name m) .onTrue)⟩,
          noted⟩ := by
  have hagree : ∀ id, Agreement.check ⟨some (no.type, leafId (name m) .onTrue)⟩ no.type id
      = .ok ⟨some (no.type, leafId (name m) .onTrue)⟩ := by
    intro id
    simp only [Agreement.check, if_true]
  -- on the number of rows below: what is registered there is there when this row is closed
  induction below generalizing i with
  | zero =>
    obtain rfl : i = m := hbelow
    have htrue : src.compileCell (above name i) (name i) i .onTrue ⟨[], {}, store⟩
        = .ok (.leaf (leafId (name i) .onTrue) yes)
            ⟨[], ⟨some (no.type, leafId (name i) .onTrue)⟩, store⟩ := by
      rw [compileCell_outcome hlast, ← htype]
      rfl
    rw [compileRow_of_ok htrue (h.otherwise i le_rfl) (hagree _) ((h.tested i le_rfl).symm ▸ hattr)
      (h.op i le_rfl), h.branch_eq le_rfl]
    rfl
  | succ below ih =>
    have hi : i < m := by omega
    have htrue := h.compileCell_link hi {} store
    rw [EStateM.map, ih (by omega)] at htrue
    rw [compileRow_of_ok htrue (h.otherwise i hi.le) (hagree _) ((h.tested i hi.le).symm ▸ hagain)
      (h.op i hi.le), h.branch_eq hi.le]
    rfl

/-- Along a chain, what is left from a row on. -/
theorem dropWhile_name (h : src.Chained name d no m) (hj : j ≤ m) :
    ((List.range (m + 1)).map name).dropWhile (· != name j)
      = (List.range' j (m + 1 - j)).map name := by
  have hsplit : List.range (m + 1) = List.range j ++ List.range' j (m + 1 - j) := by
    have happend := List.range'_append_1 (s := 0) (m := j) (n := m + 1 - j)
    rw [Nat.zero_add, Nat.add_sub_cancel' (by omega)] at happend
    rw [List.range_eq_range', List.range_eq_range', happend]
  have hbefore : ∀ x ∈ (List.range j).map name, (x != name j) = true := by
    intro x hx
    obtain ⟨l, hl, rfl⟩ := List.mem_map.mp hx
    exact bne_iff_ne.mpr (h.name_ne hj (List.mem_range.mp hl))
  have hfirst : m + 1 - j = m - j + 1 := by omega
  rw [hsplit, List.map_append, List.dropWhile_append_of_pos hbefore, hfirst, List.range'_succ,
    List.map_cons, List.dropWhile_cons_of_neg (by simp)]

/-- If the last row leads back, then the compilation of every row comes to the cycle. -/
theorem compileRow_eq_error (h : src.Chained name d no m)
    (hlast : src.sequel m .onTrue = .node (name j)) (hj : j ≤ m) (hbelow : i + below = m)
    (store : Store) :
    src.compileRow (above name i) (name i) i ⟨[], {}, store⟩ =
      .error (.cyclicReference (name j) ((List.range' j (m + 1 - j)).map name ++ [name j]))
        ⟨[], {}, store⟩ := by
  -- on the number of rows below: nothing is registered on the way down
  induction below generalizing i with
  | zero =>
    obtain rfl : i = m := hbelow
    have hopen : name j ∈ name i :: above name i := by
      rw [← above_succ, above, List.mem_reverse]
      exact List.mem_map_of_mem (List.mem_range.mpr (by omega))
    rw [compileRow_of_error (compileCell_cyclic hlast (h.name_mem hj) rfl hopen), ← above_succ,
      above, List.reverse_reverse, h.dropWhile_name hj]
  | succ below ih =>
    have hi : i < m := by omega
    have htrue := h.compileCell_link hi {} store
    rw [EStateM.map, ih (by omega)] at htrue
    exact compileRow_of_error htrue

end Chained

end Source

/-! ### Compilations -/

variable {t : Table} {store : Store} {baseUri : String} {name : Nat → String} {d : Decision}
  {yes no : TypedLiteral} {m j : Nat}

/-- A store that knows an attribute resolves it, and after that again without a change. -/
theorem Store.exists_resolve {store : Store} {identifier : String} {a : Attribute}
    (h : store.attribute? identifier = some a) :
    ∃ noted, store.resolve identifier = .ok (a, noted) ∧
      noted.resolve identifier = .ok (a, noted) := by
  by_cases hknown : store.resolved.contains identifier = true
  · have hresolve : store.resolve identifier = .ok (a, store) := by
      simp only [resolve, h, hknown, if_true]
    exact ⟨store, hresolve, hresolve⟩
  · refine ⟨{ store with resolved := store.resolved ++ [identifier] }, ?_, ?_⟩
    · simp only [resolve, h, hknown, Bool.false_eq_true, if_false]
    · have hfound : ({ store with resolved := store.resolved ++ [identifier] } : Store).attribute?
          identifier = some a := h
      simp [resolve, hfound]

theorem Source.Chained.compileFirst_eq {src : Source} (h : src.Chained name d no m) :
    src.compileFirst store = src.compileRow (above name 0) (name 0) 0 ⟨[], {}, store⟩ := by
  have hfirst := (Table.nodeIds_getElem?_eq_some.mp (h.nodeIds_getElem? (Nat.zero_le m))).2
  rw [compileFirst, hfirst]
  rfl

theorem compile_of_chained (h : Source.Chained ⟨t, baseUri⟩ name d no m)
    (hlast : Source.sequel ⟨t, baseUri⟩ m .onTrue = .outcome yes) (htype : yes.type = no.type)
    (hattr : store.attribute? d.tested.identifier = some d.tested) :
    (compile t store baseUri).tree = .ok (chainTree name d yes no m baseUri) := by
  obtain ⟨noted, hresolve, hagain⟩ := Store.exists_resolve hattr
  have hrow := h.compileRow_eq_ok hlast htype hresolve hagain (Nat.zero_add m)
  rw [compile_eq_byRecursion]
  simp only [compileByRecursion, h.indexed.indexRows, h.compileFirst_eq, hrow]
  rfl

theorem compile_of_chained_back (h : Source.Chained ⟨t, baseUri⟩ name d no m)
    (hlast : Source.sequel ⟨t, baseUri⟩ m .onTrue = .node (name j)) (hj : j ≤ m) :
    (compile t store baseUri).tree = .error
      (.cyclicReference (name j) ((List.range' j (m + 1 - j)).map name ++ [name j])) := by
  have hrow := h.compileRow_eq_error hlast hj (Nat.zero_add m) store
  rw [compile_eq_byRecursion]
  simp only [compileByRecursion, h.indexed.indexRows, h.compileFirst_eq, hrow]

end DecisionTable
