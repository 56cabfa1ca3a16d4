import DecisionTable.Example
import DecisionTable.Proofs.Compile.Stack
import DecisionTable.Proofs.Literal.Cell

/-!
# The cycles of faulty tables

A compilation that blames a cycle shows one: a path of ids that begins and ends with the node that
is blamed, meets no other id twice, and goes from each row to one that an outcome cell of it refers
to. The path is there to be shown because, between any two turns of the loop, the ids in progress
are those on the stack, and each row on the stack waits for the one above it.
-/

namespace DecisionTable

open Relation

namespace Table

/-- The row of the one id has an outcome cell that refers to the other. -/
def Links (t : Table) (a b : String) : Prop :=
  ∃ (i : Nat) (side : Side), t.nodeIds[i]? = some a ∧ t.cell i side.heading = Reference.cell b

/-- A path leads from a reachable node back to it. -/
structure Cycle (t : Table) (id : String) (path : List String) : Prop where
  long : 2 ≤ path.length
  first : path.head? = some id
  last : path.getLast? = some id
  distinct : path.dropLast.Nodup
  linked : path.IsChain t.Links
  reachable : ∃ i, t.Reachable i ∧ t.nodeIds[i]? = some id

end Table

namespace Source

/-- What holds between two turns of the loop. -/
structure Coherent (src : Source) (s : Stacked) : Prop where
  marked : s.inProgress = (s.stack.map (·.id)).toFinset
  distinct : (s.stack.map (·.id)).Nodup
  placed : ∀ p ∈ s.stack, src.table.nodeIds[p.row]? = some p.id
  /-- The cell that a row waits for refers to the row above it. -/
  linked : s.stack.IsChain fun upper lower =>
    src.table.cell lower.row lower.side.heading = Reference.cell upper.id
  unfinished : ∀ b ∈ s.nodes, b.id ∉ s.inProgress

variable {src : Source} {store : Store} {c : Compilation} {s : Stacked} {r : OpenRow}
  {id : String}

/-! ### The path of a cycle -/

theorem cell_of_sequel {i : Nat} {side : Side} (h : src.sequel i side = .node id) :
    src.table.cell i side.heading = Reference.cell id :=
  (Reference.target?_eq_some.mp (sequel_eq_node.mp h)).1

theorem Consistent.linked_ids (h : src.Consistent store c) :
    c.openIds.IsChain fun upper lower => src.table.Links lower upper := by
  rw [Compilation.openIds, List.isChain_map]
  refine h.linked.imp_of_mem_imp ?_
  intro upper lower _ hlower hawaits
  exact ⟨lower.row, lower.side, h.opened lower hlower, cell_of_sequel hawaits⟩

theorem cyclePath_eq {o : OpenRow} {above below : List OpenRow}
    (hopen : c.openRows = above ++ o :: below) (hdistinct : c.openIds.Nodup) :
    c.cyclePath o.id = ((above ++ [o]).map (·.id)).reverse ++ [o.id] := by
  have hbelow : ∀ a ∈ (below.map (·.id)).reverse, (a != o.id) = true := by
    intro a ha
    rw [Compilation.openIds, hopen, List.map_append, List.map_cons] at hdistinct
    have hrest := hdistinct.of_append_right
    have hne : a ≠ o.id := by
      rintro rfl
      exact (List.nodup_cons.mp hrest).1 (List.mem_reverse.mp ha)
    simpa using hne
  rw [Compilation.cyclePath, List.map_reverse, hopen, List.map_append, List.map_cons,
    List.reverse_append, List.reverse_cons, List.append_assoc, List.dropWhile_append_of_pos hbelow,
    List.singleton_append, List.dropWhile_cons_of_neg (by simp), List.map_append,
    List.reverse_append]
  rfl

theorem Consistent.cycle (h : src.Consistent store c) (ht : src.table.Indexed)
    (hfocus : c.focus = .seek r) (hmeans : src.sequel r.row r.side = .node id)
    (hopen : ∃ o ∈ c.openRows, o.id = id) : src.table.Cycle id (c.cyclePath id) := by
  obtain ⟨o, ho, rfl⟩ := hopen
  obtain ⟨above, below, hsplit⟩ := List.append_of_mem ho
  have hdistinct : c.openIds.Nodup := (nodup_ids h ht).of_append_left
  have hids : c.openIds = (above ++ [o]).map (·.id) ++ below.map (·.id) := by
    rw [Compilation.openIds, hsplit]
    simp
  have hrow : c.focus.row = r := congrArg Focus.row hfocus
  -- the rows from the one on top down to the one that is referred to
  have hlead : ((above ++ [o]).map (·.id)).head? = some r.id := by
    have hhead : c.openIds.head? = some r.id := by
      rw [Compilation.openIds_eq hrow]
      rfl
    rw [hids, List.head?_append_of_ne_nil _ (by simp)] at hhead
    exact hhead
  have hback : src.table.Links r.id o.id :=
    ⟨r.row, r.side, (h.row_in_focus hrow).2, cell_of_sequel hmeans⟩
  rw [cyclePath_eq hsplit hdistinct]
  refine ⟨by simp, by simp, List.getLast?_concat, ?_, ?_, o.row, h.reachable ho, h.opened o ho⟩
  · rw [List.dropLast_concat, List.nodup_reverse]
    rw [hids] at hdistinct
    exact hdistinct.of_append_left
  · have hchain := h.linked_ids
    rw [hids] at hchain
    apply List.isChain_reverse.mp
    rw [List.reverse_append, List.reverse_reverse, List.reverse_singleton, List.singleton_append,
      List.isChain_cons]
    refine ⟨?_, hchain.left_of_append⟩
    intro a ha
    rw [hlead] at ha
    obtain rfl := Option.some.inj ha
    exact hback

theorem Consistent.cycle_of_halt {e : CompileError} {final : Compilation} {path : List String}
    (h : src.Consistent store c) (ht : src.table.Indexed) (hhalt : src.Halt c ⟨.error e, final⟩)
    (he : e = .cyclicReference id path) : src.table.Cycle id path := by
  cases hhalt with
  | cyclic r target hfocus hmeans hbranch hopen =>
    obtain ⟨rfl, rfl⟩ := CompileError.cyclicReference.inj he
    exact h.cycle ht hfocus hmeans hopen
  | inconsistent r l e hfocus hmeans hagree =>
    obtain ⟨expected, first, _, _, rfl⟩ := Agreement.check_eq_error hagree
    cases he
  | undefined => cases he
  | unknownAttribute r t f e hfocus hattr =>
    obtain ⟨_, rfl⟩ := Store.resolve_eq_error hattr
    rw [blame_unknownAttribute] at he
    cases he
  | unknownOperator => cases he

/-! ### Between two turns -/

theorem Shows.coherent (h : src.Shows s c) (hc : src.Consistent store c)
    (ht : src.table.Indexed) : src.Coherent s := by
  have hnodup := nodup_ids hc ht
  refine ⟨?_, ?_, ?_, ?_, ?_⟩
  · rw [h.ids]
    exact h.inProgress
  · rw [h.ids]
    exact hnodup.of_append_left
  · intro p hp
    rw [h.stack, List.mem_cons, List.mem_map] at hp
    rcases hp with rfl | ⟨o, ho, rfl⟩
    · rw [Focus.row_pending, Focus.id_pending]
      exact hc.opened _ (Consistent.focus_mem c)
    · exact hc.opened o (List.mem_cons_of_mem _ ho)
  · have hlinked := hc.linked
    have hcells : ∀ upper lower : OpenRow, src.Awaits upper lower →
        src.table.cell lower.pending.row lower.pending.side.heading
          = Reference.cell upper.pending.id := by
      intro upper lower hawaits
      rw [lower.side_pending]
      exact cell_of_sequel hawaits
    rw [h.stack]
    -- the row in focus may be complete, but of the row on top only the id counts
    refine List.IsChain.imp_head (x := c.focus.row.pending) ?_ ?_
    · intro p hp
      rw [Focus.id_pending]
      exact hp
    · rw [← List.map_cons, List.isChain_map]
      exact hlinked.imp fun {upper lower} => hcells upper lower
  · intro b hb hmem
    rw [h.nodes] at hb
    have hopen := h.mem_inProgress.mp hmem
    have hcompiled : b.id ∈ c.compiledIds := List.mem_map_of_mem hb
    exact (List.nodup_append.mp hnodup).2.2 _ hopen _ hcompiled rfl

end Source

variable {t : Table} {rows : List (String × Nat)}

/-- A compilation that blames a cycle shows one. The loop with a stack and a set of ids in progress
makes the same compilation: between any two turns its state is coherent, an id in progress that is
referred to has its place on the stack, and the loop stops with a fault just when the compilation
has it. -/
theorem compile_cyclicReference (h : t.indexRows = .ok rows) (store : Store) (baseUri : String) :
    let src : Source := ⟨t, baseUri⟩
    (∀ id path, (compile t store baseUri).tree = .error (.cyclicReference id path) →
      t.Cycle id path) ∧
    (∀ n s, src.turns rows n (src.firstStacked store) = .next s → src.Coherent s) ∧
    (∀ n id, src.turns rows n (src.firstStacked store) ≠ .noPlace id) ∧
    ∀ e, (compile t store baseUri).tree = .error e ↔
      ∃ n s, src.turns rows n (src.firstStacked store) = .stop (.error e) s := by
  intro src
  obtain ⟨ht, rfl⟩ := Table.indexRows_eq_ok.mp h
  have hshows := Source.shows_start src store ht
  have hstart := Source.consistent_start src store ht
  have hcases := fun n => Source.turns_cases n hshows hstart ht
  refine ⟨?_, ?_, ?_, ?_⟩
  · intro id path herror
    rw [compile_tree_eq_error h] at herror
    obtain ⟨c, hmoves, hhalt⟩ := Source.run_halts src (.start t.nodeIds.zipIdx store)
    have hc := Source.consistent_of_moves ht hmoves
    generalize Source.run src (.start t.nodeIds.zipIdx store) = stopped at herror hhalt
    obtain ⟨result, final⟩ := stopped
    obtain rfl : result = _ := herror
    exact hc.cycle_of_halt ht hhalt rfl
  · intro n s hturns
    obtain ⟨c, hs, hc⟩ := Source.shows_of_turns ht hturns
    exact hs.coherent hc ht
  · intro n id hturns
    rcases hcases n with ⟨s', c, hnext, _⟩ | ⟨s', hstop⟩
    · cases hnext.symm.trans hturns
    · cases hstop.symm.trans hturns
  · intro e
    rw [compile_tree_eq_error h]
    constructor
    · intro herror
      obtain ⟨n, last, final, hturns, hlast, _⟩ := Source.exists_last_turn hshows hstart ht
      refine ⟨n + 1, final, ?_⟩
      rw [Source.turns_succ hturns, hlast, herror]
    · rintro ⟨n, s, hturns⟩
      rcases hcases n with ⟨s', c, hnext, _⟩ | ⟨s', hstop⟩
      · cases hnext.symm.trans hturns
      · exact (Turn.stop.inj (hstop.symm.trans hturns)).1

/-- A table in which the rows `high` and `low` lead to each other, and both to `rest`. -/
def Example.circular : Table :=
  .ofRequired
    [["root", "#score", "gt", "50", "\"some\"", "[high]"],
      ["high", "#score", "gt", "90", "[rest]", "[low]"],
      ["rest", "#choice", "eq", "extra", "\"good\"", "\"plain\""],
      ["low", "#score", "gt", "10", "[rest]", "[high]"]]

/-- The root is on the stack when the cycle is found, and is not part of it. -/
theorem compile_cyclicReference_circular :
    Example.circular.indexRows = .ok [("root", 0), ("high", 1), ("rest", 2), ("low", 3)] ∧
    (compile Example.circular Example.emptyStore "").tree.map (·.inferredType)
      = .error (.cyclicReference "high" ["high", "low", "high"]) ∧
    Example.circular.Cycle "high" ["high", "low", "high"] := by
  have hindex : Example.circular.indexRows
      = .ok [("root", 0), ("high", 1), ("rest", 2), ("low", 3)] := by decide +kernel
  have hvalue : (compile Example.circular Example.emptyStore "").tree.map (·.inferredType)
      = .error (.cyclicReference "high" ["high", "low", "high"]) := by decide +kernel
  refine ⟨hindex, hvalue, ?_⟩
  exact (compile_cyclicReference hindex Example.emptyStore "").1 _ _ (map_eq_error.mp hvalue)

end DecisionTable
