import DecisionTable.Proofs.Compile.Preservation

/-!
# How compilations end

A compilation that finds its root has compiled exactly the rows that the first row leads to, and
each of them into what it stands for. A compilation that fails names a fault that a reachable row
has.
-/

namespace DecisionTable

open Relation

namespace Source

/-- The branches of a compilation that has come to its root, from the last to the first. -/
structure Complete (src : Source) (store : Store) (type : LiteralType) (compiled : List Branch)
    (root : Branch) : Prop where
  builtUp : src.BuiltUp store (some type) compiled
  distinct : (compiled.map (·.id)).Nodup
  last : compiled.head? = some root
  first : src.table.nodeIds[0]? = some root.id

/-- The faults of a source, each with what is wrong with a reachable row. -/
inductive Fault (src : Source) (store : Store) : CompileError → Prop where
  | cyclic (row : Nat) (id : String) (path : List String) (hrow : src.table.Reachable row)
      (hid : src.table.nodeIds[row]? = some id) (hcycle : TransGen src.table.Refers row row) :
      Fault src store (.cyclicReference id path)
  | undefined (row : Nat) (side : Side) (missing referrer : String)
      (hrow : src.table.Reachable row) (hid : src.table.nodeIds[row]? = some referrer)
      (hmeans : src.sequel row side = .node missing) (hmissing : missing ∉ src.table.nodeIds) :
      Fault src store (.undefinedNode missing referrer side)
  | unknownOperator (row : Nat) (id : String) (hrow : src.table.Reachable row)
      (hid : src.table.nodeIds[row]? = some id)
      (hop : Operator.parse? (src.table.cell row operatorHeading) = none) :
      Fault src store (.unknownOperator (src.table.cell row operatorHeading) (some id))
  | unknownAttribute (row : Nat) (id : String) (hrow : src.table.Reachable row)
      (hid : src.table.nodeIds[row]? = some id)
      (hattr : store.attribute? (src.table.cell row attributeHeading) = none) :
      Fault src store (.unknownAttribute (src.table.cell row attributeHeading)
        (some (store.blames.getD id)))
  | inconsistent (leaf first : String) (l m : TypedLiteral) (hleaf : src.HasLeaf leaf l)
      (hfirst : src.HasLeaf first m) (htype : l.type ≠ m.type) :
      Fault src store (.inconsistentType l.type m.type leaf first)

variable {src : Source} {store : Store} {c : Compilation} {type : LiteralType}
  {compiled : List Branch} {root : Branch}

/-! ### A settled datatype -/

/-- The branch that was compiled first leads to leaves, so the datatype is settled. -/
theorem BuiltUp.exists_settled {settled : Option LiteralType} {b : Branch} {rest : List Branch}
    (h : src.BuiltUp store settled (b :: rest)) : ∃ ty, settled = some ty := by
  -- the branch that was compiled first is the last of the list, and nothing was known before it
  induction rest generalizing b with
  | nil =>
    cases h with
    | cons hb _ =>
      have hchild := hb.child .onTrue
      generalize b.child .onTrue = n at hchild
      cases hchild with
      | leaf l _ hsettled => exact ⟨l.type, hsettled⟩
      | branch d _ hd => cases hd
  | cons d rest ih =>
    cases h with
    | cons _ hrest => exact ih hrest

/-! ### The end of a compilation -/

theorem blame_unknownAttribute (id identifier : String) (node : Option String) :
    blame id (.unknownAttribute identifier node)
      = .unknownAttribute identifier (some (node.getD id)) := by
  cases node <;> rfl

theorem Consistent.row_in_focus {r : OpenRow} (h : src.Consistent store c)
    (hrow : c.focus.row = r) :
    src.table.Reachable r.row ∧ src.table.nodeIds[r.row]? = some r.id := by
  have hmem : r ∈ c.openRows := hrow ▸ Consistent.focus_mem c
  exact ⟨h.reachable hmem, h.opened r hmem⟩

/-- Of the rows that are neither open nor compiled, those of the table can be taken. -/
theorem Consistent.takeRow_eq_none (h : src.Consistent store c) {id : String}
    (hbranch : c.branch? id = none) (hopen : ∀ o ∈ c.openRows, o.id ≠ id) :
    Compilation.takeRow id c.unopened = none ↔ id ∉ src.table.nodeIds := by
  rw [Compilation.takeRow_eq_none, ← h.rows.mem_iff]
  have hcompiled := Compilation.branch?_eq_none.mp hbranch
  have hopened : id ∉ c.openRows.map (·.id) := by
    intro hmem
    obtain ⟨o, ho, hid⟩ := List.mem_map.mp hmem
    exact hopen o ho hid
  simp only [List.mem_append, hcompiled, hopened, false_or]

/-- A compilation that fails names a fault. -/
theorem Consistent.fault {e : CompileError} {final : Compilation} (h : src.Consistent store c)
    (hhalt : src.Halt c ⟨.error e, final⟩) : src.Fault store e := by
  cases hhalt with
  | inconsistent r l e hfocus hmeans hagree =>
    obtain ⟨expected, first, hsettled, hne, rfl⟩ := Agreement.check_eq_error hagree
    obtain ⟨m, hfirst, rfl⟩ := h.settled expected first hsettled
    have hrow : c.focus.row = r := congrArg Focus.row hfocus
    obtain ⟨hreach, hid⟩ := h.row_in_focus hrow
    have hcell := (Table.nodeIds_getElem?_eq_some.mp hid).2
    exact .inconsistent _ first l m ⟨r.row, r.side, hreach, hmeans, by rw [hcell]⟩ hfirst hne
  | cyclic r id hfocus hmeans hbranch hopen =>
    obtain ⟨o, ho, rfl⟩ := hopen
    have hlead := h.leads_to_focus ho
    rw [hfocus] at hlead
    have hback : src.table.Refers r.row o.row := refers_of_sequel hmeans (h.opened o ho)
    exact .cyclic o.row o.id _ (h.reachable ho) (h.opened o ho) (TransGen.tail' hlead hback)
  | undefined r id hfocus hmeans hbranch hopen htake =>
    have hrow : c.focus.row = r := congrArg Focus.row hfocus
    obtain ⟨hreach, hid⟩ := h.row_in_focus hrow
    exact .undefined r.row r.side id r.id hreach hid hmeans
      ((h.takeRow_eq_none hbranch hopen).mp htake)
  | unknownAttribute r t f e hfocus hattr =>
    have hrow : c.focus.row = r := congrArg Focus.row hfocus
    obtain ⟨hreach, hid⟩ := h.row_in_focus hrow
    obtain ⟨hnone, rfl⟩ := Store.resolve_eq_error hattr
    rw [h.attribute?] at hnone
    rw [blame_unknownAttribute, h.blames]
    exact .unknownAttribute r.row r.id hreach hid hnone
  | unknownOperator r t f a resolved hfocus hattr hop =>
    have hrow : c.focus.row = r := congrArg Focus.row hfocus
    obtain ⟨hreach, hid⟩ := h.row_in_focus hrow
    exact .unknownOperator r.row r.id hreach hid hop

theorem Consistent.store_of_halt {r : Compiled} (h : src.Consistent store c)
    (hhalt : src.Halt c r) : r.final.store = { store with resolved := r.final.store.resolved } := by
  cases hhalt with
  | inconsistent => exact h.store
  | cyclic => exact h.store
  | undefined => exact h.store
  | unknownAttribute => exact h.store
  | unknownOperator r t f a resolved hfocus hattr hop =>
    dsimp only
    rw [(Store.resolve_eq_ok hattr).2, h.store]
  | root r t f a resolved op hfocus hattr hop hbelow =>
    dsimp only
    rw [(Store.resolve_eq_ok hattr).2, h.store]

/-- A compilation that finds its root is complete. -/
theorem Consistent.complete {final : Compilation} (h : src.Consistent store c)
    (ht : src.table.Indexed) (hhalt : src.Halt c ⟨.ok root, final⟩) :
    ∃ type, final.agreement.type? = some type ∧
      src.Complete store type final.compiled root := by
  cases hhalt with
  | root r t f a resolved op hfocus hattr hop hbelow =>
    have hopen : c.openRows = [r] := by
      rw [Compilation.openRows_eq (congrArg Focus.row hfocus), hbelow]
      rfl
    have hbuilt : src.BuiltUp store c.agreement.type? (src.branch r a op t f :: c.compiled) :=
      .cons (h.built_branch hfocus hattr hop) h.compiled
    obtain ⟨type, hsettled⟩ := hbuilt.exists_settled
    refine ⟨type, hsettled, hsettled ▸ hbuilt, ?_, rfl, ?_⟩
    · have hnodup := h.nodup ht
      rw [hopen, ← List.append_assoc] at hnodup
      exact hnodup.of_append_left
    · have hlowest := h.lowest
      rw [hopen] at hlowest
      have hzero : r.row = 0 := by simpa using hlowest
      have hrow : c.focus.row = r := congrArg Focus.row hfocus
      have hid := (h.row_in_focus hrow).2
      rw [hzero] at hid
      exact hid

/-! ### Complete compilations -/

namespace Complete

variable {b d : Branch} {i j : Nat}

theorem root_mem (h : src.Complete store type compiled root) : root ∈ compiled :=
  List.mem_of_head? h.last

theorem unique (h : src.Complete store type compiled root) (hb : b ∈ compiled)
    (hd : d ∈ compiled) (hid : b.id = d.id) : b = d :=
  List.inj_on_of_nodup_map h.distinct hb hd hid

/-- A branch with the id of a row is what the row stands for. -/
theorem built (h : src.Complete store type compiled root) (ht : src.table.Indexed)
    (hb : b ∈ compiled) (hid : src.table.nodeIds[i]? = some b.id) :
    src.Built store compiled (some type) i b := by
  obtain ⟨row, hrow⟩ := h.builtUp.built hb
  rw [ht.row_unique hid hrow.id]
  exact hrow

theorem exists_target (h : src.Complete store type compiled root) (ht : src.table.Indexed)
    (hb : b ∈ compiled) (hid : src.table.nodeIds[i]? = some b.id) {side : Side} {id : String}
    (hmeans : src.sequel i side = .node id) :
    ∃ d ∈ compiled, d.id = id ∧ b.child side = d.node := by
  have hchild := (h.built ht hb hid).child side
  generalize b.child side = n at hchild
  cases hchild with
  | leaf l hleaf _ => cases hmeans.symm.trans hleaf
  | branch d hnode hd => exact ⟨d, hd, Sequel.node.inj (hnode.symm.trans hmeans), rfl⟩

theorem child_eq_leaf (h : src.Complete store type compiled root) (ht : src.table.Indexed)
    (hb : b ∈ compiled) (hid : src.table.nodeIds[i]? = some b.id) {side : Side}
    {l : TypedLiteral} (hmeans : src.sequel i side = .outcome l) :
    b.child side = .leaf (leafId b.id side) l ∧ l.type = type := by
  have hcell := (Table.nodeIds_getElem?_eq_some.mp hid).2
  have hchild := (h.built ht hb hid).child side
  generalize b.child side = n at hchild
  cases hchild with
  | leaf m hleaf hsettled =>
    obtain rfl := Sequel.outcome.inj (hleaf.symm.trans hmeans)
    rw [hcell]
    exact ⟨rfl, (Option.some.inj hsettled).symm⟩
  | branch d hnode _ => cases hmeans.symm.trans hnode

theorem exists_branch (h : src.Complete store type compiled root) (ht : src.table.Indexed)
    (hi : src.table.Reachable i) : ∃ b ∈ compiled, src.table.nodeIds[i]? = some b.id := by
  induction hi with
  | refl => exact ⟨root, h.root_mem, h.first⟩
  | tail _ hrefers ih =>
    obtain ⟨b, hb, hid⟩ := ih
    obtain ⟨side, id, htarget, hj⟩ := hrefers
    obtain ⟨d, hd, hdid, _⟩ := h.exists_target ht hb hid (sequel_eq_node.mpr htarget)
    exact ⟨d, hd, hdid ▸ hj⟩

theorem reachable (h : src.Complete store type compiled root) (hb : b ∈ compiled) :
    ∃ i, src.table.Reachable i ∧ src.table.nodeIds[i]? = some b.id := by
  obtain ⟨row, hrow⟩ := h.builtUp.built hb
  exact ⟨row, hrow.reachable, hrow.id⟩

end Complete

end Source

/-! ### Compiling a table -/

variable {t : Table} {store : Store} {baseUri : String}

theorem exists_tree {α : Type} {f : Tree → α} {a : α}
    (h : (compile t store baseUri).tree.map f = .ok a) :
    ∃ tree, (compile t store baseUri).tree = .ok tree ∧ f tree = a := by
  cases htree : (compile t store baseUri).tree with
  | error e =>
    rw [htree] at h
    cases h
  | ok tree =>
    rw [htree] at h
    exact ⟨tree, rfl, Except.ok.inj h⟩

/-- A table that compiles has an index, and its compilation is complete. -/
theorem compile_eq_ok {tree : Tree} (h : (compile t store baseUri).tree = .ok tree) :
    t.Indexed ∧ ∃ compiled root type,
      Source.Complete ⟨t, baseUri⟩ store type compiled root ∧
      tree = ⟨root.node, compiled.reverse, type, baseUri⟩ ∧
      (Source.run ⟨t, baseUri⟩ (.start t.nodeIds.zipIdx store)).final.agreement.type?
        = some type := by
  cases hindex : t.indexRows with
  | error e =>
    simp only [compile, hindex] at h
    cases h
  | ok rows =>
    obtain ⟨ht, rfl⟩ := Table.indexRows_eq_ok.mp hindex
    simp only [compile, hindex] at h ⊢
    obtain ⟨c, hmoves, hhalt⟩ := Source.run_halts ⟨t, baseUri⟩ (.start t.nodeIds.zipIdx store)
    generalize Source.run ⟨t, baseUri⟩ (.start t.nodeIds.zipIdx store) = r at h hhalt ⊢
    obtain ⟨result, final⟩ := r
    cases result with
    | error e => cases h
    | ok root =>
      have hc := Source.consistent_of_moves ht hmoves
      obtain ⟨type, hsettled, hcomplete⟩ := hc.complete ht hhalt
      refine ⟨ht, final.compiled, root, type, hcomplete, ?_, hsettled⟩
      have htree := Except.ok.inj h
      dsimp only at htree
      rw [hsettled] at htree
      exact htree.symm

theorem compile_branches {tree : Tree} (h : (compile t store baseUri).tree = .ok tree) :
    (compile t store baseUri).branches = tree.branches := by
  cases hindex : t.indexRows with
  | error e =>
    simp only [compile, hindex] at h
    cases h
  | ok rows =>
    simp only [compile, hindex] at h ⊢
    cases hresult : (Source.run ⟨t, baseUri⟩ (.start rows store)).result with
    | error e =>
      simp only [Compiled.tree, hresult] at h
      cases h
    | ok root =>
      simp only [Compiled.tree, hresult] at h
      obtain rfl := Except.ok.inj h
      rfl

/-- A table that does not compile has no index or a fault. -/
theorem compile_eq_error {e : CompileError} (h : (compile t store baseUri).tree = .error e) :
    ¬ t.Indexed ∨ Source.Fault ⟨t, baseUri⟩ store e := by
  cases hindex : t.indexRows with
  | error e' =>
    left
    intro ht
    cases hindex.symm.trans ht.indexRows
  | ok rows =>
    right
    obtain ⟨ht, rfl⟩ := Table.indexRows_eq_ok.mp hindex
    simp only [compile, hindex] at h
    obtain ⟨c, hmoves, hhalt⟩ := Source.run_halts ⟨t, baseUri⟩ (.start t.nodeIds.zipIdx store)
    generalize Source.run ⟨t, baseUri⟩ (.start t.nodeIds.zipIdx store) = r at h hhalt
    obtain ⟨result, final⟩ := r
    cases result with
    | ok root => cases h
    | error e' =>
      obtain rfl := Except.error.inj h
      exact (Source.consistent_of_moves ht hmoves).fault hhalt

/-- Compiling changes nothing of a store but the record of resolved attributes. -/
theorem compile_store (t : Table) (store : Store) (baseUri : String) :
    (compile t store baseUri).store
      = { store with resolved := (compile t store baseUri).store.resolved } := by
  cases hindex : t.indexRows with
  | error e => simp only [compile, hindex]
  | ok rows =>
    obtain ⟨ht, rfl⟩ := Table.indexRows_eq_ok.mp hindex
    obtain ⟨c, hmoves, hhalt⟩ := Source.run_halts ⟨t, baseUri⟩ (.start t.nodeIds.zipIdx store)
    simp only [compile, hindex]
    exact (Source.consistent_of_moves ht hmoves).store_of_halt hhalt

theorem compile_store_eq {resolved : List String}
    (h : (compile t store baseUri).store.resolved = resolved) :
    (compile t store baseUri).store = { store with resolved := resolved } := by
  rw [compile_store, h]

end DecisionTable
