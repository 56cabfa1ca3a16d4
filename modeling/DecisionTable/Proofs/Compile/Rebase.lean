import DecisionTable.Proofs.Compile.Blame
import DecisionTable.Proofs.Tree.Relabel
import DecisionTable.Proofs.Tree.Report

/-!
# Compiling with another base URI

Two compilations of a table that differ in the base URI make the same moves. At every point the
second one is in the state of the first one, with other outcomes at leaves whose cells hold names
that are relative to the base URI. The datatype of such an outcome does not depend on the base URI,
so neither does anything that a compilation decides.
-/

namespace DecisionTable

open Relation

/-! ### Outcomes of another base URI -/

namespace Literal

variable {text : String}

/-- Only names depend on the base URI. -/
theorem parse_eq_of_ne (h : text.toList.head? ≠ some '#') (b b' : String) :
    parse text b = parse text b' := by
  have hname : (text.toList.head? == some '#') = false := beq_eq_false_iff_ne.mpr h
  unfold parse valueOf
  cases inferType text with
  | uri => simp only [hname, Bool.false_eq_true, if_false]
  | _ => rfl

end Literal

namespace Table

/-- The outcome cells of a table by the names of their leaves. -/
def leafCells (t : Table) : List (String × String) :=
  (List.range t.rows.length).flatMap fun i =>
    [Side.onTrue, .onFalse].map fun side =>
      (leafId (t.cell i nodeHeading) side, t.cell i side.heading)

/-- The outcomes of leaves with another base URI. -/
def rebase (t : Table) (b : String) : Relabelling := fun leaf l =>
  match t.leafCells.lookup leaf with
  | some text => Literal.parse text b
  | none => l

variable {t : Table} {b b' leaf text : String} {i : Nat} {side : Side} {l : TypedLiteral}

theorem mem_leafCells : (leaf, text) ∈ t.leafCells ↔
    ∃ i side, i < t.rows.length ∧ leaf = leafId (t.cell i nodeHeading) side ∧
      text = t.cell i side.heading := by
  simp only [leafCells, List.mem_flatMap, List.mem_range, List.mem_map, Prod.mk.injEq]
  constructor
  · rintro ⟨i, hi, side, _, hleaf, htext⟩
    exact ⟨i, side, hi, hleaf.symm, htext.symm⟩
  · rintro ⟨i, side, hi, hleaf, htext⟩
    refine ⟨i, hi, side, ?_, hleaf.symm, htext.symm⟩
    cases side <;> simp

theorem Indexed.lookup_leafCells (ht : t.Indexed) (hi : i < t.rows.length) (side : Side) :
    t.leafCells.lookup (leafId (t.cell i nodeHeading) side) = some (t.cell i side.heading) := by
  have hmem : (leafId (t.cell i nodeHeading) side, t.cell i side.heading) ∈ t.leafCells :=
    mem_leafCells.mpr ⟨i, side, hi, rfl, rfl⟩
  cases hlookup : t.leafCells.lookup (leafId (t.cell i nodeHeading) side) with
  | none =>
    have hnone := List.lookup_eq_none_iff.mp hlookup _ hmem
    simp at hnone
  | some text =>
    -- the name of a leaf tells its cell, as no two rows describe one node
    obtain ⟨before, after, hsplit, _⟩ := List.lookup_eq_some_iff.mp hlookup
    have htext : (leafId (t.cell i nodeHeading) side, text) ∈ t.leafCells := by
      rw [hsplit]
      simp
    obtain ⟨j, side', hj, hleaf, rfl⟩ := mem_leafCells.mp htext
    obtain ⟨hid, rfl⟩ := leafId_inj hleaf
    have hrow : i = j := ht.row_unique (nodeIds_getElem?_eq_some.mpr ⟨hi, rfl⟩)
      (nodeIds_getElem?_eq_some.mpr ⟨hj, hid.symm⟩)
    rw [hrow]

theorem Indexed.rebase_leafId (ht : t.Indexed) {id : String} (hid : t.nodeIds[i]? = some id)
    (b : String) (side : Side) (l : TypedLiteral) :
    t.rebase b (leafId id side) l = Literal.parse (t.cell i side.heading) b := by
  obtain ⟨hi, rfl⟩ := nodeIds_getElem?_eq_some.mp hid
  rw [rebase, ht.lookup_leafCells hi side]

end Table

/-! ### States of compilations -/

variable {g : Relabelling} {t : Table} {b b' : String} {store : Store} {c c' : Compilation}
  {r : Compiled}

def OpenRow.relabel (g : Relabelling) (r : OpenRow) : OpenRow :=
  { r with onTrue := r.onTrue.map (·.relabel g) }

def Focus.relabel (g : Relabelling) : Focus → Focus
  | seek r => seek (r.relabel g)
  | close r t f => close (r.relabel g) (t.relabel g) (f.relabel g)

def Compilation.relabel (g : Relabelling) (c : Compilation) : Compilation :=
  { c with
    focus := c.focus.relabel g
    below := c.below.map (OpenRow.relabel g)
    compiled := c.compiled.map (Branch.relabel g) }

def Compiled.relabel (g : Relabelling) (r : Compiled) : Compiled :=
  ⟨r.result.map (Branch.relabel g), r.final.relabel g⟩

theorem OpenRow.side_relabel (g : Relabelling) (r : OpenRow) : (r.relabel g).side = r.side := by
  simp only [side, relabel, Option.isNone_map]

theorem OpenRow.supply_relabel (g : Relabelling) (r : OpenRow) (n : Node) :
    (r.supply n).relabel g = (r.relabel g).supply (n.relabel g) := by
  cases htrue : r.onTrue with
  | none =>
    have htrue' : (r.relabel g).onTrue = none := by simp [relabel, htrue]
    rw [supply_of_none htrue, supply_of_none htrue']
    rfl
  | some t =>
    have htrue' : (r.relabel g).onTrue = some (t.relabel g) := by simp [relabel, htrue]
    rw [supply_of_some htrue, supply_of_some htrue']
    rfl

theorem Focus.row_relabel (g : Relabelling) (f : Focus) : (f.relabel g).row = f.row.relabel g := by
  cases f <;> rfl

namespace Compilation

theorem openRows_relabel (g : Relabelling) (c : Compilation) :
    (c.relabel g).openRows = c.openRows.map (OpenRow.relabel g) := by
  simp only [openRows, relabel, Focus.row_relabel, List.map_cons]

theorem ids_relabel (g : Relabelling) (c : Compilation) :
    (c.relabel g).openRows.map (·.id) = c.openRows.map (·.id) := by
  rw [openRows_relabel, List.map_map]
  rfl

theorem branch?_relabel (g : Relabelling) (c : Compilation) (id : String) :
    (c.relabel g).branch? id = (c.branch? id).map (Branch.relabel g) := by
  unfold branch?
  show (c.compiled.map (Branch.relabel g)).find? _ = _
  rw [List.find?_map]
  rfl

theorem cyclePath_relabel (g : Relabelling) (c : Compilation) (id : String) :
    (c.relabel g).cyclePath id = c.cyclePath id := by
  simp only [cyclePath, List.map_reverse, ids_relabel]

theorem exists_open_relabel {id : String} :
    (∃ o ∈ (c.relabel g).openRows, o.id = id) ↔ ∃ o ∈ c.openRows, o.id = id := by
  rw [← List.mem_map, ids_relabel, List.mem_map]

theorem branch?_relabel_none {id : String} (hbranch : c.branch? id = none) :
    (c.relabel g).branch? id = none := by
  rw [branch?_relabel, hbranch]
  rfl

theorem forall_ne_relabel {id : String} (hopen : ∀ o ∈ c.openRows, o.id ≠ id) :
    ∀ o ∈ (c.relabel g).openRows, o.id ≠ id := by
  intro o ho hid
  obtain ⟨o', ho', hid'⟩ := exists_open_relabel.mp ⟨o, ho, hid⟩
  exact hopen o' ho' hid'

theorem focus_seek (g : Relabelling) {o : OpenRow} (hfocus : c.focus = .seek o) :
    (c.relabel g).focus = .seek (o.relabel g) := by
  show c.focus.relabel g = _
  rw [hfocus]
  rfl

theorem focus_close (g : Relabelling) {o : OpenRow} {n m : Node}
    (hfocus : c.focus = .close o n m) :
    (c.relabel g).focus = .close (o.relabel g) (n.relabel g) (m.relabel g) := by
  show c.focus.relabel g = _
  rw [hfocus]
  rfl

end Compilation

/-! ### Moves -/

namespace Source

theorem sequel_node_rebase {o : OpenRow} {id : String} (g : Relabelling) (b' : String)
    (hmeans : sequel ⟨t, b⟩ o.row o.side = .node id) :
    sequel ⟨t, b'⟩ (o.relabel g).row (o.relabel g).side = .node id := by
  have htarget := sequel_eq_node.mp hmeans
  rw [← OpenRow.side_relabel g] at htarget
  exact sequel_eq_node.mpr htarget

variable (ht : t.Indexed) (h : Consistent ⟨t, b⟩ store c)

include ht h

theorem sequel_outcome_rebase {o : OpenRow} {l : TypedLiteral} (hfocus : c.focus = .seek o)
    (hmeans : sequel ⟨t, b⟩ o.row o.side = .outcome l) (g : Relabelling) (b' : String) :
    sequel ⟨t, b'⟩ (o.relabel g).row (o.relabel g).side
        = .outcome (t.rebase b' (leafId o.id o.side) l) ∧
      (t.rebase b' (leafId o.id o.side) l).type = l.type := by
  have hrow : c.focus.row = o := congrArg Focus.row hfocus
  obtain ⟨htarget, rfl⟩ := sequel_eq_outcome.mp hmeans
  rw [ht.rebase_leafId (h.row_in_focus hrow).2, OpenRow.side_relabel]
  exact ⟨sequel_eq_outcome.mpr ⟨htarget, rfl⟩, rfl⟩

/-- With another base URI a compilation makes the same move. -/
theorem move_rebase (b' : String) (hmove : Move ⟨t, b⟩ c c') :
    Move ⟨t, b'⟩ (c.relabel (t.rebase b')) (c'.relabel (t.rebase b')) := by
  cases hmove with
  | leaf o l agreement hfocus hmeans hagree =>
    obtain ⟨hmeans', htype⟩ := sequel_outcome_rebase ht h hfocus hmeans (t.rebase b') b'
    have hsupply := OpenRow.supply_relabel (t.rebase b') o (.leaf (leafId o.id o.side) l)
    have hid : (o.relabel (t.rebase b')).id = o.id := rfl
    rw [← htype] at hagree
    rw [← OpenRow.side_relabel (t.rebase b') o] at hmeans' hagree
    have hnext := Move.leaf (o.relabel (t.rebase b')) _ agreement
      (Compilation.focus_seek _ hfocus) hmeans' hagree
    rw [hid, OpenRow.side_relabel, ← Node.relabel, ← hsupply] at hnext
    exact hnext
  | share o id d hfocus hmeans hbranch =>
    have hsupply := OpenRow.supply_relabel (t.rebase b') o d.node
    have hbranch' : (c.relabel (t.rebase b')).branch? id = some (d.relabel (t.rebase b')) := by
      rw [Compilation.branch?_relabel, hbranch]
      rfl
    have hnext := Move.share (o.relabel (t.rebase b')) id _ (Compilation.focus_seek _ hfocus)
      (sequel_node_rebase _ b' hmeans) hbranch'
    rw [Branch.node_relabel, ← hsupply] at hnext
    exact hnext
  | descend o id row left hfocus hmeans hbranch hopen hrow =>
    exact .descend (o.relabel (t.rebase b')) id row left (Compilation.focus_seek _ hfocus)
      (sequel_node_rebase _ b' hmeans) (Compilation.branch?_relabel_none hbranch)
      (Compilation.forall_ne_relabel hopen) hrow
  | finish o n m a resolved op parent rest hfocus hattr hop hbelow =>
    have hbelow' : (c.relabel (t.rebase b')).below
        = parent.relabel (t.rebase b') :: rest.map (OpenRow.relabel (t.rebase b')) := by
      show c.below.map (OpenRow.relabel (t.rebase b')) = _
      rw [hbelow]
      rfl
    have hnext : Move ⟨t, b'⟩ (c.relabel (t.rebase b')) _ :=
      .finish (o.relabel (t.rebase b')) _ _ a resolved op _ _ (Compilation.focus_close _ hfocus)
        hattr hop hbelow'
    have hsupply := OpenRow.supply_relabel (t.rebase b') parent
      (Source.branch ⟨t, b⟩ o a op n m).node
    have hnode : (Source.branch ⟨t, b'⟩ (o.relabel (t.rebase b')) a op (n.relabel (t.rebase b'))
      (m.relabel (t.rebase b'))).node = (Source.branch ⟨t, b⟩ o a op n m).node.relabel (t.rebase b')
      := rfl
    rw [hnode, ← hsupply] at hnext
    exact hnext

/-- With another base URI a compilation ends alike. -/
theorem halt_rebase (b' : String) (hhalt : Halt ⟨t, b⟩ c r) :
    Halt ⟨t, b'⟩ (c.relabel (t.rebase b')) (r.relabel (t.rebase b')) := by
  cases hhalt with
  | inconsistent o l e hfocus hmeans hagree =>
    obtain ⟨hmeans', htype⟩ := sequel_outcome_rebase ht h hfocus hmeans (t.rebase b') b'
    rw [← htype] at hagree
    rw [← OpenRow.side_relabel (t.rebase b') o] at hmeans' hagree
    exact .inconsistent (o.relabel (t.rebase b')) _ e (Compilation.focus_seek _ hfocus) hmeans'
      hagree
  | cyclic o id hfocus hmeans hbranch hopen =>
    have hend := Halt.cyclic (o.relabel (t.rebase b')) id (Compilation.focus_seek _ hfocus)
      (sequel_node_rebase _ b' hmeans) (Compilation.branch?_relabel_none hbranch)
      (Compilation.exists_open_relabel.mpr hopen)
    rw [Compilation.cyclePath_relabel] at hend
    exact hend
  | undefined o id hfocus hmeans hbranch hopen hrow =>
    have hend := Halt.undefined (o.relabel (t.rebase b')) id (Compilation.focus_seek _ hfocus)
      (sequel_node_rebase _ b' hmeans) (Compilation.branch?_relabel_none hbranch)
      (Compilation.forall_ne_relabel hopen) hrow
    rw [OpenRow.side_relabel] at hend
    exact hend
  | unknownAttribute o n m e hfocus hattr =>
    exact .unknownAttribute (o.relabel (t.rebase b')) _ _ e (Compilation.focus_close _ hfocus) hattr
  | unknownOperator o n m a resolved hfocus hattr hop =>
    exact .unknownOperator (o.relabel (t.rebase b')) _ _ a resolved
      (Compilation.focus_close _ hfocus) hattr hop
  | root o n m a resolved op hfocus hattr hop hbelow =>
    have hbelow' : (c.relabel (t.rebase b')).below = [] := by
      show c.below.map (OpenRow.relabel (t.rebase b')) = _
      rw [hbelow]
      rfl
    exact .root (o.relabel (t.rebase b')) _ _ a resolved op (Compilation.focus_close _ hfocus) hattr
      hop hbelow'

theorem moves_rebase (b' : String) (hmoves : ReflTransGen (Move ⟨t, b⟩) c c') :
    ReflTransGen (Move ⟨t, b'⟩) (c.relabel (t.rebase b')) (c'.relabel (t.rebase b')) := by
  induction hmoves with
  | refl => exact .refl
  | tail hmoves hmove ih => exact ih.tail (move_rebase ht (h.of_moves hmoves) b' hmove)

omit h in
theorem run_rebase (store : Store) (b b' : String) :
    run ⟨t, b'⟩ (.start t.nodeIds.zipIdx store)
      = (run ⟨t, b⟩ (.start t.nodeIds.zipIdx store)).relabel (t.rebase b') := by
  have hstart := consistent_start ⟨t, b⟩ store ht
  obtain ⟨c, hmoves, hhalt⟩ := run_halts ⟨t, b⟩ (.start t.nodeIds.zipIdx store)
  have hmoves' := moves_rebase ht hstart b' hmoves
  have hhalt' := halt_rebase ht (hstart.of_moves hmoves) b' hhalt
  -- no outcome has been reached at the start
  have hsame : (Compilation.start t.nodeIds.zipIdx store).relabel (t.rebase b')
      = .start t.nodeIds.zipIdx store := by
    have hopen : Compilation.start t.nodeIds.zipIdx store = _ := @start_eq ⟨t, b⟩ store ht
    rw [hopen]
    rfl
  rw [hsame] at hmoves'
  rw [run_of_moves hmoves', run_of_halt hhalt']

end Source

theorem compile_rebase (t : Table) (store : Store) (b b' : String) :
    (compile t store b').tree = (compile t store b).tree.map (Tree.relabel (t.rebase b') b') ∧
      (compile t store b').store = (compile t store b).store := by
  cases hindex : t.indexRows with
  | error e =>
    have hrefused : ∀ base, compile t store base = ⟨.error e, [], store⟩ := by
      intro base
      simp only [compile, hindex]
    rw [hrefused, hrefused]
    exact ⟨rfl, rfl⟩
  | ok rows =>
    obtain ⟨ht, rfl⟩ := Table.indexRows_eq_ok.mp hindex
    simp only [compile, hindex, Source.run_rebase ht store b b']
    obtain ⟨result, final⟩ := Source.run ⟨t, b⟩ (.start t.nodeIds.zipIdx store)
    refine ⟨?_, rfl⟩
    cases result with
    | error e => rfl
    | ok root =>
      simp only [Compiled.tree, Compiled.relabel, Compilation.relabel, Except.map, Tree.relabel,
        Branch.node_relabel, List.map_reverse]

/-! ### The trees of two base URIs -/

/-- What becomes of the outcome of a leaf: that of a cell with a name in it is relative to the base
URI, and any other stays. -/
inductive Table.Recast (t : Table) (b b' leaf : String) : TypedLiteral → TypedLiteral → Prop where
  | name (i : Nat) (side : Side) (hreach : t.Reachable i) (hleaf : t.IsLeaf i side)
      (hid : leaf = leafId (t.cell i nodeHeading) side)
      (hname : (t.cell i side.heading).toList.head? = some '#') :
      Recast t b b' leaf ⟨.uri, b ++ t.cell i side.heading⟩ ⟨.uri, b' ++ t.cell i side.heading⟩
  | other (i : Nat) (side : Side) (l : TypedLiteral) (hreach : t.Reachable i)
      (hleaf : t.IsLeaf i side) (hid : leaf = leafId (t.cell i nodeHeading) side)
      (hother : (t.cell i side.heading).toList.head? ≠ some '#') :
      Recast t b b' leaf l l

/-- Two trees of a table that differ in the base URI only. -/
structure Tree.Rebased (t : Table) (b b' : String) (tree tree' : Tree) : Prop where
  bases : tree.baseUri = b ∧ tree'.baseUri = b'
  type : tree'.inferredType = tree.inferredType
  /-- A walk meets nodes of the same ids in the same order. -/
  nodes : tree'.nodes.map Node.id = tree.nodes.map Node.id
  /-- The branches are listed in the same order, with the same decisions. -/
  decisions : tree'.branches.map (fun d => (d.id, d.decision))
    = tree.branches.map fun d => (d.id, d.decision)
  /-- The root, and a side of a branch, leads to a branch in one tree as it does in the other. -/
  sharing : ∀ e ∈ tree.branches, ∀ e' ∈ tree'.branches, e'.id = e.id →
    (tree'.root = e'.node ↔ tree.root = e.node) ∧
    ∀ d ∈ tree.branches, ∀ d' ∈ tree'.branches, d'.id = d.id →
      ∀ side, d'.child side = e'.node ↔ d.child side = e.node
  /-- A side of a branch that leads to a leaf leads to a leaf of the same name. -/
  outcomes : ∀ d ∈ tree.branches, ∀ d' ∈ tree'.branches, d'.id = d.id →
    ∀ side leaf l, d.child side = .leaf leaf l →
      ∃ l', d'.child side = .leaf leaf l' ∧ t.Recast b b' leaf l l'
  /-- The leaves, in the order of a walk. -/
  leaves : List.Forall₂ (fun p p' => p'.1 = p.1 ∧ t.Recast b b' p.1 p.2 p'.2)
    tree.leaves tree'.leaves
  evaluations : ∀ now subject,
    (∃ e, tree.evaluate now subject = .error e ∧ tree'.evaluate now subject = .error e) ∨
      ∃ leaf l l', tree.evaluate now subject = .ok l ∧ tree'.evaluate now subject = .ok l' ∧
        ReflTransGen (Node.Goes now subject) tree.root (.leaf leaf l) ∧
        ReflTransGen (Node.Goes now subject) tree'.root (.leaf leaf l') ∧
        t.Recast b b' leaf l l'

theorem Table.recast_of_hasLeaf {leaf : String} {l : TypedLiteral} (ht : t.Indexed)
    (hleaf : Source.HasLeaf ⟨t, b⟩ leaf l) (b' : String) :
    t.Recast b b' leaf l (t.rebase b' leaf l) := by
  obtain ⟨i, side, hreach, hmeans, rfl⟩ := hleaf
  obtain ⟨htarget, rfl⟩ := Source.sequel_eq_outcome.mp hmeans
  obtain ⟨id, hid⟩ := ht.exists_id hreach
  have hcell : t.cell i nodeHeading = id := (Table.nodeIds_getElem?_eq_some.mp hid).2
  have hrebase := ht.rebase_leafId hid b' side (Literal.parse (t.cell i side.heading) b)
  rw [← hcell] at hrebase
  rw [hrebase]
  by_cases hname : (t.cell i side.heading).toList.head? = some '#'
  · rw [Literal.parse_name hname, Literal.parse_name hname]
    exact .name i side hreach htarget rfl hname
  · rw [Literal.parse_eq_of_ne hname b' b]
    exact .other i side _ hreach htarget rfl hname

namespace Tree

variable {tree : Tree} (h : (compile t store b).tree = .ok tree) (b' : String)

include h

theorem recast_of_mem_leaves {leaf : String} {l : TypedLiteral} (hleaf : (leaf, l) ∈ tree.leaves) :
    t.Recast b b' leaf l (t.rebase b' leaf l) := by
  obtain ⟨ht, _⟩ := compile_eq_ok h
  exact Table.recast_of_hasLeaf ht ((mem_leaves_iff_hasLeaf h).mp hleaf) b'

theorem evaluate_rebase (now : Store) (subject : Subject) :
    (∃ e, tree.evaluate now subject = .error e ∧
        (tree.relabel (t.rebase b') b').evaluate now subject = .error e) ∨
      ∃ leaf l l', tree.evaluate now subject = .ok l ∧
        (tree.relabel (t.rebase b') b').evaluate now subject = .ok l' ∧
        ReflTransGen (Node.Goes now subject) tree.root (.leaf leaf l) ∧
        ReflTransGen (Node.Goes now subject) (tree.relabel (t.rebase b') b').root (.leaf leaf l') ∧
        t.Recast b b' leaf l l' := by
  rcases Node.evaluate_relabel (t.rebase b') now subject tree.root with
    ⟨e, hfails, hfails'⟩ | ⟨leaf, l, hgoes, hgoes'⟩
  · exact Or.inl ⟨e, hfails, hfails'⟩
  · have hleads : ReflTransGen Node.Leads tree.root (.leaf leaf l) :=
      ReflTransGen.mono (fun _ _ => Node.leads_of_goes) _ _ hgoes
    have hleaf : (leaf, l) ∈ tree.leaves := mem_leaves.mpr ((mem_nodes_iff_leads h).mpr hleads)
    exact Or.inr ⟨leaf, l, t.rebase b' leaf l, Node.evaluate_of_goes hgoes,
      Node.evaluate_of_goes hgoes', hgoes, hgoes', recast_of_mem_leaves h b' hleaf⟩

/-- The listed branches of a compiled tree are a family, and the root is one of them. -/
theorem family_branches : Branch.Family tree.branches ∧ tree.root.Within tree.branches := by
  obtain ⟨_, compiled, root, type, hcomplete, rfl, _⟩ := compile_eq_ok h
  have hsub : compiled ⊆ compiled.reverse := fun _ => List.mem_reverse.mpr
  refine ⟨⟨?_, ?_⟩, (hcomplete.root_within rfl).mono hsub⟩
  · intro b hb d hd
    exact hcomplete.unique (List.mem_reverse.mp hb) (List.mem_reverse.mp hd)
  · intro b hb side
    exact (hcomplete.family.child b (List.mem_reverse.mp hb) side).mono hsub

theorem rebased_relabel : Tree.Rebased t b b' tree (tree.relabel (t.rebase b') b') := by
  obtain ⟨hf, hroot⟩ := family_branches h
  refine
    { bases := ⟨(renders_of_compile h).2, rfl⟩
      type := rfl
      nodes := ?_
      decisions := ?_
      sharing := ?_
      outcomes := ?_
      leaves := ?_
      evaluations := evaluate_rebase h b' }
  · rw [nodes_relabel, List.map_map]
    exact List.map_congr_left fun n _ => Node.id_relabel _ n
  · rw [relabel, List.map_map]
    rfl
  · intro e he e' he' hid
    rw [hf.eq_relabel he he' hid]
    refine ⟨Node.relabel_eq_node hf hroot he, ?_⟩
    intro d hd d' hd' hid' side
    rw [hf.eq_relabel hd hd' hid', Branch.child_relabel]
    exact Node.relabel_eq_node hf (hf.child d hd side) he
  · intro d hd d' hd' hid side leaf l hchild
    rw [hf.eq_relabel hd hd' hid, Branch.child_relabel, hchild]
    have hleaf : (leaf, l) ∈ tree.leaves :=
      (mem_leaves_iff_child h).mpr (mem_allChildren.mpr ⟨d, hd, side, hchild⟩)
    exact ⟨_, rfl, recast_of_mem_leaves h b' hleaf⟩
  · rw [leaves_relabel, List.forall₂_map_right_iff, List.forall₂_same]
    intro p hp
    exact ⟨rfl, recast_of_mem_leaves h b' hp⟩

end Tree

/-- The base URI influences nothing but the outcomes of cells with a name in them. -/
theorem compile_rebased (t : Table) (store : Store) (b b' : String) :
    ((∃ e, (compile t store b).tree = .error e ∧ (compile t store b').tree = .error e) ∨
      ∃ tree tree', (compile t store b).tree = .ok tree ∧ (compile t store b').tree = .ok tree' ∧
        Tree.Rebased t b b' tree tree') ∧
    (compile t store b').store = (compile t store b).store := by
  obtain ⟨htree, hstore⟩ := compile_rebase t store b b'
  refine ⟨?_, hstore⟩
  cases h : (compile t store b).tree with
  | error e =>
    rw [h] at htree
    exact Or.inl ⟨e, rfl, htree⟩
  | ok tree =>
    rw [h] at htree
    exact Or.inr ⟨tree, tree.relabel (t.rebase b') b', rfl, htree, Tree.rebased_relabel h b'⟩

end DecisionTable
