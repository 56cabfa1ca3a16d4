import DecisionTable.Proofs.Compile.Outcome
import DecisionTable.Proofs.Json.Sorted
import DecisionTable.Proofs.Value.Fault
import Mathlib.Data.Finset.Basic

/-!
# Compiling with a stack and a set of ids in progress

A compilation can be written as a loop over a stack of pending rows, each with the nodes that are
known of it, and beside the stack a set of the ids in progress. A reference is looked up among all
rows, then among the branches, then in the set; if it is there, the path of the cycle is cut out of
the stack from the place of the id on. Two things that a turn of the loop takes could be missing:
the top of the stack, and the place on the stack of an id that is in progress. They never are: each
turn does what a step of a compilation does.
-/

namespace DecisionTable

open Relation

/-- A row on the stack, with the nodes that are known, that of the true side first. -/
structure PendingRow where
  id : String
  row : Nat
  children : List Node := []

namespace PendingRow

def side (p : PendingRow) : Side :=
  if p.children.isEmpty then .onTrue else .onFalse

def add (p : PendingRow) (n : Node) : PendingRow :=
  { p with children := p.children ++ [n] }

end PendingRow

/-- The state of the loop between two turns. -/
structure Stacked where
  /-- The pending rows, from the last to the first. -/
  stack : List PendingRow := []
  inProgress : Finset String := ∅
  nodes : List Branch := []
  agreement : Agreement := {}
  store : Store
  /-- The rows that have been opened, from the last to the first. -/
  opened : List Nat := []
  /-- The rows that have been closed, from the last to the first. -/
  closed : List Nat := []

/-- What comes of turns of the loop. -/
inductive Turn where
  | next (s : Stacked)
  | stop (result : Except CompileError Branch) (s : Stacked)
  /-- There is no row on the stack. -/
  | noTop
  /-- An id in progress has no place on the stack. -/
  | noPlace (id : String)

namespace Source

def openRow (src : Source) (s : Stacked) (row : Nat) : Stacked :=
  let id := src.table.cell row nodeHeading
  { s with
    stack := ⟨id, row, []⟩ :: s.stack, inProgress := insert id s.inProgress,
    opened := row :: s.opened }

/-- A turn that finds a node of the row on top, or opens the row of that node. -/
def seekTop (src : Source) (rows : List (String × Nat)) (s : Stacked) (top : PendingRow)
    (below : List PendingRow) : Turn :=
  let text := src.table.cell top.row top.side.heading
  match Reference.target? text with
  | none =>
    let literal := Literal.parse text src.baseUri
    let id := leafId top.id top.side
    match s.agreement.check literal.type id with
    | .error e => .stop (.error e) s
    | .ok agreement =>
      .next { s with stack := top.add (.leaf id literal) :: below, agreement := agreement }
  | some target =>
    match rows.lookup target with
    | none => .stop (.error (.undefinedNode target top.id top.side)) s
    | some row =>
      match s.nodes.find? (·.id == target) with
      | some b => .next { s with stack := top.add b.node :: below }
      | none =>
        if target ∈ s.inProgress then
          let ids := s.stack.reverse.map (·.id)
          match ids.idxOf? target with
          | none => .noPlace target
          | some i => .stop (.error (.cyclicReference target (ids.drop i ++ [target]))) s
        else .next (src.openRow s row)

/-- A turn that closes the row on top. -/
def closeTop (src : Source) (s : Stacked) (top : PendingRow) (below : List PendingRow)
    (onTrue onFalse : Node) : Turn :=
  let s := { s with
    stack := below, inProgress := s.inProgress.erase top.id, closed := top.row :: s.closed }
  match s.store.resolve (src.table.cell top.row attributeHeading) with
  | .error e => .stop (.error (blame top.id e)) s
  | .ok (a, store) =>
    let text := src.table.cell top.row operatorHeading
    match Operator.parse? text with
    | none => .stop (.error (.unknownOperator text (some top.id))) { s with store := store }
    | some op =>
      let decision := ⟨a, op, src.table.cell top.row operandHeading⟩
      let b : Branch := ⟨top.id, decision, onTrue, onFalse⟩
      let s := { s with nodes := b :: s.nodes, store := store }
      match below with
      | [] => .stop (.ok b) s
      | parent :: rest => .next { s with stack := parent.add b.node :: rest }

def turn (src : Source) (rows : List (String × Nat)) (s : Stacked) : Turn :=
  match s.stack with
  | [] => .noTop
  | top :: below =>
    match top.children with
    | [t, f] => src.closeTop s top below t f
    | _ => src.seekTop rows s top below

/-- A number of turns, unless the loop stops before. -/
def turns (src : Source) (rows : List (String × Nat)) : Nat → Stacked → Turn
  | 0, s => .next s
  | n + 1, s =>
    match src.turn rows s with
    | .next s => src.turns rows n s
    | outcome => outcome

/-- The state in which the first row is opened. -/
def firstStacked (src : Source) (store : Store) : Stacked :=
  src.openRow { store := store } 0

end Source

/-! ### What the stack shows of a compilation -/

def OpenRow.pending (r : OpenRow) : PendingRow :=
  ⟨r.id, r.row, r.onTrue.toList⟩

def Focus.pending : Focus → PendingRow
  | seek r => r.pending
  | close r t f => ⟨r.id, r.row, [t, f]⟩

def Compilation.openIds (c : Compilation) : List String :=
  c.openRows.map (·.id)

def Compilation.compiledIds (c : Compilation) : List String :=
  c.compiled.map (·.id)

namespace Source

def nodeId (src : Source) (row : Nat) : String :=
  src.table.cell row nodeHeading

/-- A state of the loop shows a compilation. -/
structure Shows (src : Source) (s : Stacked) (c : Compilation) : Prop where
  stack : s.stack = c.focus.pending :: c.below.map OpenRow.pending
  inProgress : s.inProgress = c.openIds.toFinset
  nodes : s.nodes = c.compiled
  agreement : s.agreement = c.agreement
  store : s.store = c.store
  opened : (s.opened.map src.nodeId).Perm (c.openIds ++ c.compiledIds)
  closed : s.closed.map src.nodeId = c.compiledIds

/-- What the loop has done when it stops. -/
structure Done (s : Stacked) (c : Compilation) : Prop where
  nodes : s.nodes = c.compiled
  store : s.store = c.store
  opened : s.opened.Nodup
  closed : s.closed.Nodup

end Source

theorem Focus.pending_supply (r : OpenRow) (n : Node) :
    (r.supply n).pending = r.pending.add n := by
  unfold OpenRow.supply OpenRow.pending
  cases r.onTrue <;> rfl

theorem OpenRow.side_pending (r : OpenRow) : r.pending.side = r.side := by
  unfold OpenRow.side OpenRow.pending PendingRow.side
  cases r.onTrue <;> rfl

theorem Focus.id_pending (f : Focus) : f.pending.id = f.row.id := by
  cases f <;> rfl

theorem Focus.row_pending (f : Focus) : f.pending.row = f.row.row := by
  cases f <;> rfl

theorem Compilation.openIds_eq {c : Compilation} {r : OpenRow} (h : c.focus.row = r) :
    c.openIds = r.id :: c.below.map (·.id) := by
  rw [openIds, openRows_eq h, List.map_cons]

theorem Compilation.openIds_supply {c : Compilation} {r : OpenRow} (h : c.focus = .seek r)
    (n : Node) (a : Agreement) :
    openIds { c with focus := r.supply n, agreement := a } = c.openIds := by
  rw [openIds_eq rfl, openIds_eq (congrArg Focus.row h), r.id_supply]
  rfl

namespace Source

variable {src : Source} {store : Store} {c c' : Compilation} {s : Stacked} {r : OpenRow}
  {id : String} {row : Nat}

/-! ### Look-ups of the loop -/

theorem lookup_index (ht : src.table.Indexed) :
    src.table.nodeIds.zipIdx.lookup id = some row ↔ src.table.nodeIds[row]? = some id := by
  have hnames : (src.table.nodeIds.zipIdx.map (·.1)).Nodup := by
    rw [List.zipIdx_map_fst]
    exact ht.distinct
  rw [Json.lookup_eq_some hnames, List.mk_mem_zipIdx_iff_getElem?]

theorem lookup_index_eq_none (ht : src.table.Indexed) :
    src.table.nodeIds.zipIdx.lookup id = none ↔ id ∉ src.table.nodeIds := by
  rw [Option.eq_none_iff_forall_ne_some, List.mem_iff_getElem?, not_exists]
  exact forall_congr' fun row => not_congr (lookup_index ht)

theorem exists_lookup_index (ht : src.table.Indexed) (hid : id ∈ src.table.nodeIds) :
    ∃ row, src.table.nodeIds.zipIdx.lookup id = some row := by
  obtain ⟨row, hrow⟩ := List.mem_iff_getElem?.mp hid
  exact ⟨row, (lookup_index ht).mpr hrow⟩

theorem Shows.branch? (h : src.Shows s c) (id : String) :
    s.nodes.find? (·.id == id) = c.branch? id := by
  rw [h.nodes, Compilation.branch?]

theorem Shows.mem_inProgress (h : src.Shows s c) : id ∈ s.inProgress ↔ id ∈ c.openIds := by
  rw [h.inProgress, List.mem_toFinset]

theorem Shows.ids (h : src.Shows s c) : s.stack.map (·.id) = c.openIds := by
  rw [h.stack, List.map_cons, List.map_map, Focus.id_pending]
  rfl

/-- From the place of an id on, a list is what is left without the ids before it. -/
theorem drop_idxOf {ids : List String} (hid : id ∈ ids) :
    ∃ i, ids.idxOf? id = some i ∧ ids.drop i = ids.dropWhile (· != id) := by
  induction ids with
  | nil => cases hid
  | cons a ids ih =>
    by_cases ha : a = id
    · refine ⟨0, ?_, ?_⟩
      · simp [List.idxOf?_cons, ha]
      · simp [ha]
    · have hrest : id ∈ ids := (List.mem_cons.mp hid).resolve_left (Ne.symm ha)
      obtain ⟨i, hplace, hdrop⟩ := ih hrest
      refine ⟨i + 1, ?_, ?_⟩
      · simp [List.idxOf?_cons, ha, hplace]
      · rw [List.drop_succ_cons, hdrop, List.dropWhile_cons_of_pos (by simp [ha])]

theorem nodup_ids (hc : src.Consistent store c) (ht : src.table.Indexed) :
    (c.openIds ++ c.compiledIds).Nodup := by
  have hall := hc.nodup ht
  rw [← List.append_assoc] at hall
  exact hall.of_append_left

/-- The ids of rows that have been opened, or closed, are distinct, and so are the rows. -/
theorem Shows.nodup (h : src.Shows s c) (hc : src.Consistent store c) (ht : src.table.Indexed) :
    s.opened.Nodup ∧ s.closed.Nodup := by
  have hids := nodup_ids hc ht
  constructor
  · apply List.Nodup.of_map src.nodeId
    exact h.opened.nodup_iff.mpr hids
  · apply List.Nodup.of_map src.nodeId
    rw [h.closed]
    exact hids.of_append_right

/-! ### A turn on top of the stack -/

theorem Shows.turn_seek (h : src.Shows s c) (hfocus : c.focus = .seek r)
    (rows : List (String × Nat)) :
    src.turn rows s = src.seekTop rows s r.pending (c.below.map OpenRow.pending) := by
  rw [turn, h.stack, hfocus]
  show (match r.onTrue.toList with
    | [t, f] => _
    | _ => src.seekTop rows s r.pending (c.below.map OpenRow.pending)) = _
  cases r.onTrue <;> rfl

theorem Shows.turn_close {t f : Node} (h : src.Shows s c) (hfocus : c.focus = .close r t f)
    (rows : List (String × Nat)) :
    src.turn rows s
      = src.closeTop s ⟨r.id, r.row, [t, f]⟩ (c.below.map OpenRow.pending) t f := by
  rw [turn, h.stack, hfocus]
  rfl

/-! ### Each turn does what a step does -/

/-- Handing the row on top the node that it waits for. -/
theorem Shows.supply (h : src.Shows s c) (hfocus : c.focus = .seek r) (n : Node) (a : Agreement) :
    src.Shows
      { s with stack := r.pending.add n :: c.below.map OpenRow.pending, agreement := a }
      { c with focus := r.supply n, agreement := a } := by
  have hids := Compilation.openIds_supply hfocus n a
  refine ⟨?_, ?_, h.nodes, rfl, h.store, ?_, h.closed⟩
  · rw [Focus.pending_supply]
  · rw [hids]
    exact h.inProgress
  · rw [hids]
    exact h.opened

/-- Opening a row whose id is neither in progress nor that of a branch. -/
theorem Shows.descend {left : List (String × Nat)} (h : src.Shows s c)
    (hfocus : c.focus = .seek r) (hid : src.table.cell row nodeHeading = id) :
    src.Shows (src.openRow s row)
      { c with focus := .seek ⟨id, row, none⟩, below := r :: c.below, unopened := left } := by
  subst hid
  have hids := Compilation.openIds_eq (congrArg Focus.row hfocus)
  refine ⟨?_, ?_, h.nodes, h.agreement, h.store, ?_, h.closed⟩
  · show (⟨_, row, []⟩ : PendingRow) :: s.stack = _
    rw [h.stack, hfocus]
    rfl
  · show insert (src.table.cell row nodeHeading) s.inProgress = _
    rw [h.inProgress, hids, Compilation.openIds_eq rfl, List.map_cons]
    exact (List.toFinset_cons ..).symm
  · show (src.nodeId row :: s.opened.map src.nodeId).Perm _
    have hopened := h.opened
    rw [hids] at hopened
    rw [Compilation.openIds_eq rfl, List.map_cons]
    exact hopened.cons _

/-- Closing the row on top. -/
theorem Shows.close {t f : Node} (h : src.Shows s c) (hc : src.Consistent store c)
    (ht : src.table.Indexed) (hfocus : c.focus = .close r t f) :
    s.inProgress.erase r.id = (c.below.map (·.id)).toFinset ∧
      (s.opened.map src.nodeId).Perm (c.below.map (·.id) ++ r.id :: c.compiledIds) ∧
      (r.row :: s.closed).map src.nodeId = r.id :: c.compiledIds := by
  have hrow : c.focus.row = r := congrArg Focus.row hfocus
  have hids := Compilation.openIds_eq hrow
  refine ⟨?_, ?_, ?_⟩
  · have hnodup := (nodup_ids hc ht).of_append_left
    rw [hids] at hnodup
    rw [h.inProgress, hids, List.toFinset_cons, Finset.erase_insert]
    intro hmem
    exact (List.nodup_cons.mp hnodup).1 (List.mem_toFinset.mp hmem)
  · have hopened := h.opened
    rw [hids] at hopened
    exact hopened.trans List.perm_middle.symm
  · have hcell := (Table.nodeIds_getElem?_eq_some.mp (hc.row_in_focus hrow).2).2
    show src.nodeId r.row :: s.closed.map src.nodeId = r.id :: c.compiledIds
    rw [h.closed, nodeId, hcell]

theorem turn_of_move (h : src.Shows s c) (hc : src.Consistent store c) (ht : src.table.Indexed)
    (hmove : src.Move c c') :
    ∃ s', src.turn src.table.nodeIds.zipIdx s = .next s' ∧ src.Shows s' c' := by
  cases hmove with
  | leaf r l agreement hfocus hmeans hagree =>
    refine ⟨_, ?_, h.supply hfocus (.leaf (leafId r.id r.side) l) agreement⟩
    obtain ⟨htarget, rfl⟩ := sequel_eq_outcome.mp hmeans
    rw [← h.agreement] at hagree
    rw [h.turn_seek hfocus]
    simp only [seekTop, r.side_pending]
    simp only [OpenRow.pending, htarget, hagree]
  | share r id b hfocus hmeans hbranch =>
    refine ⟨_, ?_, h.supply hfocus b.node c.agreement⟩
    obtain ⟨hmem, hid⟩ := Compilation.branch?_eq_some hbranch
    have hids : id ∈ src.table.nodeIds := by
      rw [← hc.rows.mem_iff, ← hid]
      have hcompiled := List.mem_map_of_mem (f := fun b : Branch => b.id) hmem
      exact List.mem_append_right _ (List.mem_append_left _ hcompiled)
    obtain ⟨row, hrow⟩ := exists_lookup_index ht hids
    rw [← h.branch?] at hbranch
    rw [h.turn_seek hfocus]
    simp only [seekTop, r.side_pending]
    simp only [OpenRow.pending, sequel_eq_node.mp hmeans, hrow, hbranch]
    rw [← h.agreement]
  | descend r id row left hfocus hmeans hbranch hopen htake =>
    have hmem := (Compilation.perm_of_takeRow htake).mem_iff.mpr (List.mem_cons_self ..)
    have hplace : src.table.nodeIds[row]? = some id := hc.unopened _ hmem
    have hrow := (lookup_index ht).mpr hplace
    refine ⟨_, ?_, h.descend hfocus (Table.nodeIds_getElem?_eq_some.mp hplace).2⟩
    have hnot : id ∉ s.inProgress := by
      rw [h.mem_inProgress]
      intro hid
      obtain ⟨o, ho, heq⟩ := List.mem_map.mp hid
      exact hopen o ho heq
    rw [← h.branch?] at hbranch
    rw [h.turn_seek hfocus]
    simp only [seekTop, r.side_pending]
    simp only [OpenRow.pending, sequel_eq_node.mp hmeans, hrow, hbranch, if_neg hnot]
  | finish r t f a resolved op parent rest hfocus hattr hop hbelow =>
    obtain ⟨hmarked, hopened, hclosed⟩ := h.close hc ht hfocus
    rw [h.turn_close hfocus]
    rw [← h.store] at hattr
    simp only [closeTop, hattr, hop, hbelow, List.map_cons]
    refine ⟨_, rfl, ?_, ?_, ?_, h.agreement, rfl, ?_, hclosed⟩
    · rw [Focus.pending_supply]
      rfl
    · rw [Compilation.openIds_eq rfl, parent.id_supply]
      rw [hbelow] at hmarked
      exact hmarked
    · rw [h.nodes]
      rfl
    · rw [Compilation.openIds_eq rfl, parent.id_supply]
      rw [hbelow] at hopened
      exact hopened

theorem turn_of_halt {stopped : Compiled} (h : src.Shows s c) (hc : src.Consistent store c)
    (ht : src.table.Indexed) (hhalt : src.Halt c stopped) :
    ∃ s', src.turn src.table.nodeIds.zipIdx s = .stop stopped.result s' ∧
      Done s' stopped.final := by
  obtain ⟨hopened, hclosed⟩ := h.nodup hc ht
  have hdone : Done s c := ⟨h.nodes, h.store, hopened, hclosed⟩
  -- a row that is being closed counts as closed, whatever the fault is
  have hclosing : ∀ {r : OpenRow} {t f : Node}, c.focus = .close r t f →
      (r.row :: s.closed).Nodup := by
    intro r t f hfocus
    have hids := nodup_ids hc ht
    rw [Compilation.openIds_eq (congrArg Focus.row hfocus)] at hids
    apply List.Nodup.of_map src.nodeId
    rw [(h.close hc ht hfocus).2.2]
    exact (List.perm_middle.nodup_iff.mpr hids).of_append_right
  cases hhalt with
  | inconsistent r l e hfocus hmeans hagree =>
    refine ⟨s, ?_, hdone⟩
    obtain ⟨htarget, rfl⟩ := sequel_eq_outcome.mp hmeans
    rw [← h.agreement] at hagree
    rw [h.turn_seek hfocus]
    simp only [seekTop, r.side_pending]
    simp only [OpenRow.pending, htarget, hagree]
  | cyclic r id hfocus hmeans hbranch hopen =>
    refine ⟨s, ?_, hdone⟩
    have hid : id ∈ c.openIds := List.mem_map.mpr hopen
    have hids : id ∈ src.table.nodeIds :=
      hc.rows.mem_iff.mp (List.mem_append_left _ hid)
    obtain ⟨row, hrow⟩ := exists_lookup_index ht hids
    obtain ⟨i, hplace, hdrop⟩ := drop_idxOf (List.mem_reverse.mpr hid)
    rw [← h.ids, ← List.map_reverse] at hplace hdrop
    rw [← h.branch?] at hbranch
    rw [h.turn_seek hfocus]
    simp only [seekTop, r.side_pending]
    simp only [OpenRow.pending, sequel_eq_node.mp hmeans, hrow, hbranch,
      if_pos (h.mem_inProgress.mpr hid), hplace, hdrop]
    rw [List.map_reverse, h.ids, Compilation.cyclePath, List.map_reverse, Compilation.openIds]
  | undefined r id hfocus hmeans hbranch hopen htake =>
    refine ⟨s, ?_, hdone⟩
    have hrow := (lookup_index_eq_none ht).mpr ((hc.takeRow_eq_none hbranch hopen).mp htake)
    rw [h.turn_seek hfocus]
    simp only [seekTop, r.side_pending]
    simp only [OpenRow.pending, sequel_eq_node.mp hmeans, hrow]
  | unknownAttribute r t f e hfocus hattr =>
    rw [h.turn_close hfocus]
    rw [← h.store] at hattr
    simp only [closeTop, hattr]
    exact ⟨_, rfl, h.nodes, h.store, hopened, hclosing hfocus⟩
  | unknownOperator r t f a resolved hfocus hattr hop =>
    rw [h.turn_close hfocus]
    rw [← h.store] at hattr
    simp only [closeTop, hattr, hop]
    exact ⟨_, rfl, h.nodes, rfl, hopened, hclosing hfocus⟩
  | root r t f a resolved op hfocus hattr hop hbelow =>
    rw [h.turn_close hfocus]
    rw [← h.store] at hattr
    simp only [closeTop, hattr, hop, hbelow, List.map_nil]
    refine ⟨_, rfl, ?_, rfl, hopened, hclosing hfocus⟩
    show src.branch r a op t f :: s.nodes = _
    rw [h.nodes]

/-! ### The whole loop -/

theorem shows_start (src : Source) (store : Store) (ht : src.table.Indexed) :
    src.Shows (src.firstStacked store) (.start src.table.nodeIds.zipIdx store) := by
  rw [start_eq ht]
  exact ⟨rfl, rfl, rfl, rfl, rfl, .refl _, rfl⟩

/-- After any number of turns the loop shows a compilation that has come as far, or it has stopped
with the result of the compilation. -/
theorem turns_cases (n : Nat) (h : src.Shows s c) (hc : src.Consistent store c)
    (ht : src.table.Indexed) :
    (∃ s' c', src.turns src.table.nodeIds.zipIdx n s = .next s' ∧ src.Shows s' c' ∧
      src.Consistent store c') ∨
    ∃ s', src.turns src.table.nodeIds.zipIdx n s = .stop (src.run c).result s' := by
  induction n generalizing s c with
  | zero => exact Or.inl ⟨s, c, rfl, h, hc⟩
  | succ n ih =>
    rcases moves_or_halts src c with ⟨c', hmove⟩ | ⟨stopped, hhalt⟩
    · obtain ⟨s', hturn, hs'⟩ := turn_of_move h hc ht hmove
      rw [turns, hturn, run_of_move hmove]
      exact ih hs' (consistent_of_move hc hmove)
    · obtain ⟨s', hturn, _⟩ := turn_of_halt h hc ht hhalt
      rw [turns, hturn, run_of_halt hhalt]
      exact Or.inr ⟨s', rfl⟩

/-- Between two turns the loop shows a compilation. -/
theorem shows_of_turns (ht : src.table.Indexed) {n : Nat}
    (hturns : src.turns src.table.nodeIds.zipIdx n (src.firstStacked store) = .next s) :
    ∃ c, src.Shows s c ∧ src.Consistent store c := by
  have hstart := consistent_start src store ht
  rcases turns_cases n (shows_start src store ht) hstart ht with
    ⟨s', c, hnext, hs', hc⟩ | ⟨s', hstop⟩
  · obtain rfl := Turn.next.inj (hnext.symm.trans hturns)
    exact ⟨c, hs', hc⟩
  · cases hstop.symm.trans hturns

/-- The loop stops. The number of its turns is bounded by the steps that are left, and a loop that
comes to the root makes all of them but those of rows that are not opened. -/
theorem exists_last_turn (h : src.Shows s c) (hc : src.Consistent store c)
    (ht : src.table.Indexed) :
    ∃ n last final, src.turns src.table.nodeIds.zipIdx n s = .next last ∧
      src.turn src.table.nodeIds.zipIdx last = .stop (src.run c).result final ∧
      Done final (src.run c).final ∧ n + 1 ≤ c.stepsLeft ∧
      ∀ root, (src.run c).result = .ok root →
        n + 1 + 3 * (src.run c).final.unopened.length = c.stepsLeft := by
  induction hsteps : c.stepsLeft using Nat.strongRecOn generalizing s c with
  | ind steps ih =>
    rcases moves_or_halts src c with ⟨c', hmove⟩ | ⟨stopped, hhalt⟩
    · have hless : c'.stepsLeft + 1 = steps := hsteps ▸ stepsLeft_step (step_of_move hmove)
      obtain ⟨s', hturn, hs'⟩ := turn_of_move h hc ht hmove
      obtain ⟨n, last, final, hturns, hlast, hdone, hbound, hexact⟩ :=
        ih c'.stepsLeft (by omega) hs' (consistent_of_move hc hmove) rfl
      rw [← run_of_move hmove] at hlast hdone hexact
      refine ⟨n + 1, last, final, ?_, hlast, hdone, by omega, ?_⟩
      · rw [turns, hturn]
        exact hturns
      · intro root hroot
        have hcount := hexact root hroot
        omega
    · obtain ⟨final, hturn, hdone⟩ := turn_of_halt h hc ht hhalt
      rw [run_of_halt hhalt]
      refine ⟨0, s, final, rfl, hturn, hdone, ?_, ?_⟩
      · rw [← hsteps, Compilation.stepsLeft]
        have hfocus : 1 ≤ c.focus.steps := by
          cases c.focus <;> simp [Focus.steps]
        omega
      · intro root hroot
        cases hhalt with
        | root r t f a resolved op hfocus hattr hop hbelow =>
          rw [← hsteps, Compilation.stepsLeft, hfocus, hbelow]
          simp only [Focus.steps, OpenRow.totalWaiting]
          omega
        | inconsistent => cases hroot
        | cyclic => cases hroot
        | undefined => cases hroot
        | unknownAttribute => cases hroot
        | unknownOperator => cases hroot

theorem turns_succ {rows : List (String × Nat)} {n : Nat} {last : Stacked}
    (h : src.turns rows n s = .next last) : src.turns rows (n + 1) s = src.turn rows last := by
  induction n generalizing s with
  | zero =>
    obtain rfl := Turn.next.inj h
    rw [turns]
    cases src.turn rows s <;> rfl
  | succ n ih =>
    rw [turns] at h ⊢
    cases hturn : src.turn rows s with
    | next s' =>
      rw [hturn] at h
      exact ih h
    | stop result s' =>
      rw [hturn] at h
      cases h
    | noTop =>
      rw [hturn] at h
      cases h
    | noPlace id =>
      rw [hturn] at h
      cases h

end Source

/-! ### Compiling a table -/

variable {t : Table} {rows : List (String × Nat)}

theorem compile_of_index (h : t.indexRows = .ok rows) (store : Store) (baseUri : String) :
    compile t store baseUri =
      let r := Source.run ⟨t, baseUri⟩ (.start rows store)
      ⟨r.tree baseUri, r.final.compiled.reverse, r.final.store⟩ := by
  simp only [compile, h]

theorem compile_tree_eq_error (h : t.indexRows = .ok rows) {store : Store} {baseUri : String}
    {e : CompileError} : (compile t store baseUri).tree = .error e ↔
      (Source.run ⟨t, baseUri⟩ (.start rows store)).result = .error e := by
  rw [compile_of_index h]
  exact map_eq_error

end DecisionTable
