import DecisionTable.Example
import DecisionTable.Proofs.Compile.Stack

/-!
# The number of turns

A row takes three turns: one for each side, and one to close it. So the loop that compiles a table
with a stack stops after at most three turns for each row of the table, whatever its cells refer to,
and a loop that comes to the root has made exactly three for each branch.
-/

namespace DecisionTable

namespace Source

variable {src : Source} {store : Store} {c : Compilation} {s : Stacked}

theorem stepsLeft_start (src : Source) (store : Store) (ht : src.table.Indexed) :
    (Compilation.start src.table.nodeIds.zipIdx store).stepsLeft = 3 * src.table.rows.length := by
  have hpos := ht.length_pos
  rw [start_eq ht]
  show 3 * (src.table.nodeIds.tail.zipIdx 1).length + 3 + 0 = _
  rw [List.length_zipIdx, List.length_tail, Table.length_nodeIds]
  omega

/-- A row is open, closed into a branch or not opened, and at the root none is open. -/
theorem Consistent.length_of_root {root : Branch} {final : Compilation}
    (h : src.Consistent store c) (hhalt : src.Halt c ⟨.ok root, final⟩) :
    final.compiled.length + final.unopened.length = src.table.rows.length := by
  have hrows := h.rows.length_eq
  cases hhalt with
  | root r t f a resolved op hfocus hattr hop hbelow =>
    rw [Compilation.openRows_eq (congrArg Focus.row hfocus), hbelow] at hrows
    simp only [List.length_append, List.length_map, List.length_cons, List.length_nil,
      Table.length_nodeIds] at hrows
    show c.compiled.length + 1 + c.unopened.length = src.table.rows.length
    omega

theorem length_of_run (src : Source) (ht : src.table.Indexed) {root : Branch}
    (h : (src.run (.start src.table.nodeIds.zipIdx store)).result = .ok root) :
    (src.run (.start src.table.nodeIds.zipIdx store)).final.compiled.length
      + (src.run (.start src.table.nodeIds.zipIdx store)).final.unopened.length
      = src.table.rows.length := by
  obtain ⟨c, hmoves, hhalt⟩ := run_halts src (.start src.table.nodeIds.zipIdx store)
  generalize src.run (.start src.table.nodeIds.zipIdx store) = stopped at h hhalt ⊢
  obtain ⟨result, final⟩ := stopped
  obtain rfl : result = _ := h
  exact (consistent_of_moves ht hmoves).length_of_root hhalt

theorem Shows.stack_ne_nil (h : src.Shows s c) : s.stack ≠ [] := by
  rw [h.stack]
  exact List.cons_ne_nil _ _

end Source

variable {t : Table} {rows : List (String × Nat)}

/-- The loop stops with what the compilation comes to. Until then there is a row on top of the
stack, and no row is opened or closed twice. -/
theorem compile_turns (h : t.indexRows = .ok rows) (store : Store) (baseUri : String) :
    let src : Source := ⟨t, baseUri⟩
    let compiled := compile t store baseUri
    (∃ n last result final,
      src.turns rows n (src.firstStacked store) = .next last ∧
      src.turn rows last = .stop result final ∧
      compiled.tree.map (·.root) = result.map (·.node) ∧
      compiled.branches = final.nodes.reverse ∧
      final.opened.Nodup ∧ final.closed.Nodup ∧
      n + 1 ≤ 3 * t.rows.length ∧
      ∀ tree, compiled.tree = .ok tree → n + 1 = 3 * tree.branches.length) ∧
    (∀ n s, src.turns rows n (src.firstStacked store) = .next s → s.stack ≠ []) ∧
    ∀ n, src.turns rows n (src.firstStacked store) ≠ .noTop := by
  intro src compiled
  obtain ⟨ht, rfl⟩ := Table.indexRows_eq_ok.mp h
  have hshows := Source.shows_start src store ht
  have hstart := Source.consistent_start src store ht
  have hcases := fun n => Source.turns_cases n hshows hstart ht
  have hsteps := Source.stepsLeft_start src store ht
  refine ⟨?_, ?_, ?_⟩
  · obtain ⟨n, last, final, hturns, hlast, hdone, hbound, hexact⟩ :=
      Source.exists_last_turn hshows hstart ht
    rw [hsteps] at hbound hexact
    have hcompiled := compile_of_index h store baseUri
    have hbranches : compiled.branches = final.nodes.reverse := by
      rw [hdone.nodes]
      exact congrArg CompileResult.branches hcompiled
    refine ⟨n, last, _, final, hturns, hlast, ?_, hbranches, hdone.opened, hdone.closed, hbound, ?_⟩
    · show (compile t store baseUri).tree.map (·.root) = _
      rw [hcompiled]
      show Except.map _ (Except.map _ (src.run (.start t.nodeIds.zipIdx store)).result) = _
      cases (src.run (.start t.nodeIds.zipIdx store)).result <;> rfl
    · intro tree htree
      have hlength : tree.branches.length
          = (src.run (.start src.table.nodeIds.zipIdx store)).final.compiled.length := by
        rw [← compile_branches htree, hbranches, List.length_reverse, hdone.nodes]
      have hresult := (congrArg CompileResult.tree hcompiled).symm.trans htree
      obtain ⟨root, hroot, _⟩ := map_eq_ok.mp hresult
      have hcount := Source.length_of_run src ht hroot
      have hturns := hexact root hroot
      omega
  · intro n s hturns
    obtain ⟨c, hs, _⟩ := Source.shows_of_turns ht hturns
    exact hs.stack_ne_nil
  · intro n hturns
    rcases hcases n with ⟨s', c, hnext, _⟩ | ⟨s', hstop⟩
    · cases hnext.symm.trans hturns
    · cases hstop.symm.trans hturns

/-- Three rows and nine turns, although one of the rows is referred to twice. -/
theorem compile_turns_sharing :
    Example.sharing.indexRows = .ok [("root", 0), ("rest", 1), ("high", 2)] ∧
    ∃ n last result final,
      Source.turns ⟨Example.sharing, "urn:grade"⟩ [("root", 0), ("rest", 1), ("high", 2)] n
        (Source.firstStacked ⟨Example.sharing, "urn:grade"⟩ Example.emptyStore) = .next last ∧
      Source.turn ⟨Example.sharing, "urn:grade"⟩ [("root", 0), ("rest", 1), ("high", 2)] last
        = .stop result final ∧
      n + 1 = 9 := by
  have hindex : Example.sharing.indexRows = .ok [("root", 0), ("rest", 1), ("high", 2)] := by
    decide +kernel
  refine ⟨hindex, ?_⟩
  obtain ⟨⟨n, last, result, final, hturns, hlast, _, _, _, _, _, hexact⟩, _⟩ :=
    compile_turns hindex Example.emptyStore "urn:grade"
  refine ⟨n, last, result, final, hturns, hlast, ?_⟩
  have hcount : (compile Example.sharing Example.emptyStore "urn:grade").tree.map
      (·.branches.length) = .ok 3 := by decide +kernel
  obtain ⟨tree, htree, hlength⟩ := map_eq_ok.mp hcount
  rw [hexact tree htree, hlength]

end DecisionTable
