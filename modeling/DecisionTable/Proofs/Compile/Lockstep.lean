import DecisionTable.Proofs.Compile.Outcome

/-!
# Compilations side by side

Two tables may list their rows in another order and at other places and still say the same of the
rows that are compiled. The compilations of such tables make the same moves: at every point the same
rows are open and the same branches have been compiled, and they end alike. Only the places of the
rows differ.
-/

namespace DecisionTable

open Relation

/-! ### Compilations at the same point -/

/-- An open row without its place in the table. -/
def OpenRow.outline (r : OpenRow) : OpenRow :=
  { r with row := 0 }

/-- What is done next, without the place of the row in focus. -/
def Focus.outline : Focus → Focus
  | seek r => .seek r.outline
  | close r t f => .close r.outline t f

/-- Two compilations are abreast if they differ at most in the places of rows, in the rows that have
not been opened, and in their stores. -/
structure Compilation.Abreast (c c' : Compilation) : Prop where
  focus : c.focus.outline = c'.focus.outline
  below : c.below.map OpenRow.outline = c'.below.map OpenRow.outline
  compiled : c.compiled = c'.compiled
  agreement : c.agreement = c'.agreement

theorem OpenRow.outline_eq {r r' : OpenRow} :
    r.outline = r'.outline ↔ r.id = r'.id ∧ r.onTrue = r'.onTrue := by
  simp [outline]

theorem OpenRow.outline_supply {r r' : OpenRow} (h : r.outline = r'.outline) (n : Node) :
    (r.supply n).outline = (r'.supply n).outline := by
  obtain ⟨hid, htrue⟩ := outline_eq.mp h
  unfold supply
  rw [← htrue]
  cases r.onTrue with
  | none => simp only [Focus.outline, outline, hid]
  | some t => simp only [Focus.outline, h]

namespace Compilation.Abreast

variable {c c' : Compilation} {r : OpenRow}

theorem of_seek (h : c.Abreast c') (hfocus : c.focus = .seek r) :
    ∃ r', c'.focus = .seek r' ∧ r.outline = r'.outline := by
  have heq := h.focus
  rw [hfocus] at heq
  cases hfocus' : c'.focus with
  | seek r' =>
    rw [hfocus'] at heq
    exact ⟨r', rfl, Focus.seek.inj heq⟩
  | close r' t f =>
    rw [hfocus'] at heq
    cases heq

theorem of_close {t f : Node} (h : c.Abreast c') (hfocus : c.focus = .close r t f) :
    ∃ r', c'.focus = .close r' t f ∧ r.outline = r'.outline := by
  have heq := h.focus
  rw [hfocus] at heq
  cases hfocus' : c'.focus with
  | seek r' =>
    rw [hfocus'] at heq
    cases heq
  | close r' t' f' =>
    rw [hfocus'] at heq
    obtain ⟨hrow, rfl, rfl⟩ := Focus.close.inj heq
    exact ⟨r', rfl, hrow⟩

theorem id_focus (h : c.Abreast c') : c.focus.row.id = c'.focus.row.id := by
  cases hfocus : c.focus with
  | seek r =>
    obtain ⟨r', hfocus', hr⟩ := h.of_seek hfocus
    rw [hfocus']
    exact (OpenRow.outline_eq.mp hr).1
  | close r t f =>
    obtain ⟨r', hfocus', hr⟩ := h.of_close hfocus
    rw [hfocus']
    exact (OpenRow.outline_eq.mp hr).1

theorem ids (h : c.Abreast c') : c.openRows.map (·.id) = c'.openRows.map (·.id) := by
  have hbelow : c.below.map (·.id) = c'.below.map (·.id) := by
    have heq := congrArg (List.map OpenRow.id) h.below
    rw [List.map_map, List.map_map] at heq
    exact heq
  simp only [openRows, List.map_cons, h.id_focus, hbelow]

theorem branch? (h : c.Abreast c') (id : String) : c.branch? id = c'.branch? id := by
  simp only [Compilation.branch?, h.compiled]

theorem forall_ne (h : c.Abreast c') {id : String} (hopen : ∀ o ∈ c.openRows, o.id ≠ id) :
    ∀ o ∈ c'.openRows, o.id ≠ id := by
  intro o ho heq
  have hmem : id ∈ c.openRows.map (·.id) := by
    rw [h.ids]
    exact List.mem_map.mpr ⟨o, ho, heq⟩
  obtain ⟨d, hd, hid⟩ := List.mem_map.mp hmem
  exact hopen d hd hid

theorem exists_open (h : c.Abreast c') {id : String} (hopen : ∃ o ∈ c.openRows, o.id = id) :
    ∃ o ∈ c'.openRows, o.id = id := by
  have hmem := List.mem_map.mpr hopen
  rw [h.ids] at hmem
  exact List.mem_map.mp hmem

theorem cyclePath (h : c.Abreast c') (id : String) : c.cyclePath id = c'.cyclePath id := by
  simp only [Compilation.cyclePath, List.map_reverse, h.ids]

end Compilation.Abreast

/-! ### Sources that say the same -/

namespace Source

/-- Two rows, one of each source, say the same. -/
structure SaysSame (src src' : Source) (store store' : Store) (i i' : Nat) : Prop where
  sequel : ∀ side, src.sequel i side = src'.sequel i' side
  name : src.table.cell i attributeHeading = src'.table.cell i' attributeHeading
  attr : store.attribute? (src.table.cell i attributeHeading)
    = store'.attribute? (src.table.cell i attributeHeading)
  blames : store.attribute? (src.table.cell i attributeHeading) = none →
    store.blames = store'.blames
  op : Operator.parse? (src.table.cell i operatorHeading)
    = Operator.parse? (src'.table.cell i' operatorHeading)
  opText : Operator.parse? (src.table.cell i operatorHeading) = none →
    src.table.cell i operatorHeading = src'.table.cell i' operatorHeading
  operand : src.table.cell i operandHeading = src'.table.cell i' operandHeading

/-- Two sources say the same of the rows that are compiled. -/
structure Alike (src src' : Source) (store store' : Store) : Prop where
  first : src.table.cell 0 nodeHeading = src'.table.cell 0 nodeHeading
  rows : ∀ i i' id, src.table.Reachable i → src'.table.Reachable i' →
    src.table.nodeIds[i]? = some id → src'.table.nodeIds[i']? = some id →
    SaysSame src src' store store' i i'
  /-- A reference leads to a row in both sources or in none. -/
  targets : ∀ i side id, src.table.Reachable i → src.sequel i side = .node id →
    (id ∈ src.table.nodeIds ↔ id ∈ src'.table.nodeIds)

variable {src src' : Source} {store store' : Store} {c c' : Compilation}

theorem SaysSame.branch {r r' : OpenRow} (h : SaysSame src src' store store' r.row r'.row)
    (hid : r.id = r'.id) (a : Attribute) (op : Operator) (t f : Node) :
    src'.branch r' a op t f = src.branch r a op t f := by
  simp only [Source.branch, hid, h.operand]

theorem SaysSame.resolve {i i' : Nat} (hrows : SaysSame src src' store store' i i')
    (h : src.Consistent store c) (h' : src'.Consistent store' c') {a : Attribute} {resolved : Store}
    (hattr : c.store.resolve (src.table.cell i attributeHeading) = .ok (a, resolved)) :
    ∃ resolved', c'.store.resolve (src'.table.cell i' attributeHeading) = .ok (a, resolved') := by
  have hknown := (Store.resolve_eq_ok hattr).1
  rw [h.attribute?, hrows.attr, ← h'.attribute?, hrows.name] at hknown
  simp only [Store.resolve, hknown]
  exact ⟨_, rfl⟩

theorem SaysSame.resolve_error {i i' : Nat} (hrows : SaysSame src src' store store' i i')
    (h : src.Consistent store c) (h' : src'.Consistent store' c') {e : CompileError}
    (hattr : c.store.resolve (src.table.cell i attributeHeading) = .error e) :
    c'.store.resolve (src'.table.cell i' attributeHeading) = .error e := by
  obtain ⟨hnone, rfl⟩ := Store.resolve_eq_error hattr
  rw [h.attribute?] at hnone
  have hblames := hrows.blames hnone
  rw [hrows.attr, ← h'.attribute?, hrows.name] at hnone
  simp only [Store.resolve, hnone]
  rw [h.blames, hblames, ← h'.blames, hrows.name]

section Step

variable (hsame : Alike src src' store store') (h : src.Consistent store c)
  (h' : src'.Consistent store' c') (habreast : c.Abreast c')

include hsame h h' habreast

theorem saysSame_focus {r r' : OpenRow} (hr : c.focus.row = r) (hr' : c'.focus.row = r') :
    SaysSame src src' store store' r.row r'.row := by
  obtain ⟨hreach, hid⟩ := h.row_in_focus hr
  obtain ⟨hreach', hid'⟩ := h'.row_in_focus hr'
  have heq : r.id = r'.id := by
    rw [← hr, ← hr']
    exact habreast.id_focus
  exact hsame.rows r.row r'.row r.id hreach hreach' hid (heq ▸ hid')

theorem seek_abreast {r : OpenRow} (hfocus : c.focus = .seek r) :
    ∃ r', c'.focus = .seek r' ∧ r.outline = r'.outline ∧ r'.id = r.id ∧ r'.side = r.side ∧
      src'.sequel r'.row r'.side = src.sequel r.row r.side := by
  obtain ⟨r', hfocus', hr⟩ := habreast.of_seek hfocus
  obtain ⟨hid, htrue⟩ := OpenRow.outline_eq.mp hr
  have hside : r'.side = r.side := by simp only [OpenRow.side, htrue]
  have hrows : SaysSame src src' store store' r.row r'.row :=
    saysSame_focus hsame h h' habreast (congrArg Focus.row hfocus) (congrArg Focus.row hfocus')
  refine ⟨r', hfocus', hr, hid.symm, hside, ?_⟩
  rw [hside]
  exact (hrows.sequel r.side).symm

theorem close_abreast {r : OpenRow} {t f : Node} (hfocus : c.focus = .close r t f) :
    ∃ r', c'.focus = .close r' t f ∧ r'.id = r.id ∧
      SaysSame src src' store store' r.row r'.row := by
  obtain ⟨r', hfocus', hr⟩ := habreast.of_close hfocus
  exact ⟨r', hfocus', (OpenRow.outline_eq.mp hr).1.symm,
    saysSame_focus hsame h h' habreast (congrArg Focus.row hfocus) (congrArg Focus.row hfocus')⟩

theorem takeRow_abreast {r : OpenRow} {id : String} (hfocus : c.focus = .seek r)
    (hmeans : src.sequel r.row r.side = .node id) (hbranch : c.branch? id = none)
    (hopen : ∀ o ∈ c.openRows, o.id ≠ id) :
    Compilation.takeRow id c.unopened = none ↔ Compilation.takeRow id c'.unopened = none := by
  have hbranch' : c'.branch? id = none := (habreast.branch? id).symm.trans hbranch
  have hreach := (h.row_in_focus (congrArg Focus.row hfocus)).1
  rw [h.takeRow_eq_none hbranch hopen, h'.takeRow_eq_none hbranch' (habreast.forall_ne hopen),
    hsame.targets _ _ _ hreach hmeans]

/-- Compilations that are abreast make the same move. -/
theorem abreast_of_move {d : Compilation} (hmove : src.Move c d) :
    ∃ d', src'.Move c' d' ∧ d.Abreast d' := by
  cases hmove with
  | leaf r l agreement hfocus hmeans hagree =>
    obtain ⟨r', hfocus', hr, hid, hside, hsequel⟩ := seek_abreast hsame h h' habreast hfocus
    have hagree' : c'.agreement.check l.type (leafId r'.id r'.side) = .ok agreement := by
      rw [← habreast.agreement, hid, hside]
      exact hagree
    refine ⟨_, .leaf r' l agreement hfocus' (hsequel.trans hmeans) hagree', ?_⟩
    rw [hid, hside]
    exact ⟨OpenRow.outline_supply hr _, habreast.below, habreast.compiled, rfl⟩
  | share r id b hfocus hmeans hbranch =>
    obtain ⟨r', hfocus', hr, _, _, hsequel⟩ := seek_abreast hsame h h' habreast hfocus
    rw [habreast.branch?] at hbranch
    exact ⟨_, .share r' id b hfocus' (hsequel.trans hmeans) hbranch, OpenRow.outline_supply hr _,
      habreast.below, habreast.compiled, habreast.agreement⟩
  | descend r id row left hfocus hmeans hbranch hopen hrow =>
    obtain ⟨r', hfocus', hr, _, _, hsequel⟩ := seek_abreast hsame h h' habreast hfocus
    have htake := takeRow_abreast hsame h h' habreast hfocus hmeans hbranch hopen
    cases hrow' : Compilation.takeRow id c'.unopened with
    | none => cases hrow.symm.trans (htake.mpr hrow')
    | some p =>
      rw [habreast.branch?] at hbranch
      refine ⟨_, .descend r' id p.1 p.2 hfocus' (hsequel.trans hmeans) hbranch
        (habreast.forall_ne hopen) hrow', rfl, ?_, habreast.compiled, habreast.agreement⟩
      simp only [List.map_cons, hr, habreast.below]
  | finish r t f a resolved op parent rest hfocus hattr hop hbelow =>
    obtain ⟨r', hfocus', hid, hrows⟩ := close_abreast hsame h h' habreast hfocus
    obtain ⟨resolved', hattr'⟩ := hrows.resolve h h' hattr
    have hrest := habreast.below
    rw [hbelow, List.map_cons] at hrest
    obtain ⟨parent', rest', hbelow', hparent, hmap⟩ := List.map_eq_cons_iff.mp hrest.symm
    refine ⟨_, .finish r' t f a resolved' op parent' rest' hfocus' hattr'
      (hrows.op.symm.trans hop) hbelow', ?_⟩
    rw [hrows.branch hid.symm]
    refine ⟨OpenRow.outline_supply hparent.symm _, hmap.symm, ?_, habreast.agreement⟩
    simp only [habreast.compiled]

theorem abreast_of_halt {r : Compiled} (hhalt : src.Halt c r) :
    ∃ r', src'.Halt c' r' ∧ r'.result = r.result ∧ r.final.Abreast r'.final := by
  cases hhalt with
  | inconsistent r l e hfocus hmeans hagree =>
    obtain ⟨r', hfocus', _, hid, hside, hsequel⟩ := seek_abreast hsame h h' habreast hfocus
    have hagree' : c'.agreement.check l.type (leafId r'.id r'.side) = .error e := by
      rw [← habreast.agreement, hid, hside]
      exact hagree
    exact ⟨_, .inconsistent r' l e hfocus' (hsequel.trans hmeans) hagree', rfl, habreast⟩
  | cyclic r id hfocus hmeans hbranch hopen =>
    obtain ⟨r', hfocus', _, _, _, hsequel⟩ := seek_abreast hsame h h' habreast hfocus
    rw [habreast.branch?] at hbranch
    refine ⟨_, .cyclic r' id hfocus' (hsequel.trans hmeans) hbranch (habreast.exists_open hopen),
      ?_, habreast⟩
    rw [habreast.cyclePath]
  | undefined r id hfocus hmeans hbranch hopen hrow =>
    obtain ⟨r', hfocus', _, hid, hside, hsequel⟩ := seek_abreast hsame h h' habreast hfocus
    have hrow' := (takeRow_abreast hsame h h' habreast hfocus hmeans hbranch hopen).mp hrow
    rw [habreast.branch?] at hbranch
    refine ⟨_, .undefined r' id hfocus' (hsequel.trans hmeans) hbranch (habreast.forall_ne hopen)
      hrow', ?_, habreast⟩
    rw [hid, hside]
  | unknownAttribute r t f e hfocus hattr =>
    obtain ⟨r', hfocus', hid, hrows⟩ := close_abreast hsame h h' habreast hfocus
    have hattr' := hrows.resolve_error h h' hattr
    refine ⟨_, .unknownAttribute r' t f e hfocus' hattr', ?_, habreast⟩
    rw [hid]
  | unknownOperator r t f a resolved hfocus hattr hop =>
    obtain ⟨r', hfocus', hid, hrows⟩ := close_abreast hsame h h' habreast hfocus
    obtain ⟨resolved', hattr'⟩ := hrows.resolve h h' hattr
    refine ⟨_, .unknownOperator r' t f a resolved' hfocus' hattr' (hrows.op.symm.trans hop), ?_,
      habreast.focus, habreast.below, habreast.compiled, habreast.agreement⟩
    rw [hrows.opText hop, hid]
  | root r t f a resolved op hfocus hattr hop hbelow =>
    obtain ⟨r', hfocus', hid, hrows⟩ := close_abreast hsame h h' habreast hfocus
    obtain ⟨resolved', hattr'⟩ := hrows.resolve h h' hattr
    have hrest := habreast.below
    rw [hbelow, List.map_nil] at hrest
    have hbelow' : c'.below = [] := List.map_eq_nil_iff.mp hrest.symm
    refine ⟨_, .root r' t f a resolved' op hfocus' hattr' (hrows.op.symm.trans hop) hbelow', ?_, ?_⟩
    · rw [hrows.branch hid.symm]
    · rw [hrows.branch hid.symm]
      refine ⟨habreast.focus, habreast.below, ?_, habreast.agreement⟩
      simp only [habreast.compiled]

end Step

/-! ### Whole compilations -/

theorem abreast_of_moves (hsame : Alike src src' store store') {d : Compilation}
    (h : src.Consistent store c) (h' : src'.Consistent store' c') (habreast : c.Abreast c')
    (hmoves : ReflTransGen src.Move c d) :
    ∃ d', ReflTransGen src'.Move c' d' ∧ d.Abreast d' := by
  induction hmoves with
  | refl => exact ⟨c', ReflTransGen.refl, habreast⟩
  | @tail d e hmoves hmove ih =>
    obtain ⟨d', hmoves', hd⟩ := ih
    have hc := h.of_moves hmoves
    have hc' := h'.of_moves hmoves'
    obtain ⟨e', hmove', he⟩ := abreast_of_move hsame hc hc' hd hmove
    exact ⟨e', hmoves'.tail hmove', he⟩

theorem abreast_start (hsame : Alike src src' store store') (ht : src.table.Indexed)
    (ht' : src'.table.Indexed) :
    Compilation.Abreast (.start src.table.nodeIds.zipIdx store)
      (.start src'.table.nodeIds.zipIdx store') := by
  rw [start_eq ht, start_eq ht', hsame.first]
  exact ⟨rfl, rfl, rfl, rfl⟩

/-- The compilations of sources that say the same end alike. -/
theorem run_abreast (hsame : Alike src src' store store') (ht : src.table.Indexed)
    (ht' : src'.table.Indexed) :
    (src'.run (.start src'.table.nodeIds.zipIdx store')).result
      = (src.run (.start src.table.nodeIds.zipIdx store)).result ∧
    (src.run (.start src.table.nodeIds.zipIdx store)).final.Abreast
      (src'.run (.start src'.table.nodeIds.zipIdx store')).final := by
  obtain ⟨c, hmoves, hhalt⟩ := run_halts src (.start src.table.nodeIds.zipIdx store)
  have hstart := consistent_start src store ht
  have hstart' := consistent_start src' store' ht'
  obtain ⟨c', hmoves', habreast⟩ :=
    abreast_of_moves hsame hstart hstart' (abreast_start hsame ht ht') hmoves
  obtain ⟨r', hhalt', hresult, hfinal⟩ :=
    abreast_of_halt hsame (consistent_of_moves ht hmoves) (consistent_of_moves ht' hmoves') habreast
      hhalt
  rw [run_of_moves hmoves', run_of_halt hhalt']
  exact ⟨hresult, hfinal⟩

end Source

variable {t t' : Table} {store store' : Store} {baseUri baseUri' : String}

/-- Tables that say the same compile to the same tree, apart from what names are relative to, or are
refused with the same fault. -/
theorem compile_alike (hsame : Source.Alike ⟨t, baseUri⟩ ⟨t', baseUri'⟩ store store')
    (ht : t.Indexed) (ht' : t'.Indexed) :
    (compile t' store' baseUri').tree
      = (compile t store baseUri).tree.map ({ · with baseUri := baseUri' }) ∧
    (compile t' store' baseUri').branches = (compile t store baseUri).branches := by
  obtain ⟨hresult, hfinal⟩ := Source.run_abreast hsame ht ht'
  simp only [compile, ht.indexRows, ht'.indexRows, Compiled.tree]
  rw [hresult, ← hfinal.compiled, ← hfinal.agreement]
  refine ⟨?_, rfl⟩
  cases (Source.run ⟨t, baseUri⟩ (.start t.nodeIds.zipIdx store)).result with
  | error e => rfl
  | ok root => rfl

end DecisionTable
