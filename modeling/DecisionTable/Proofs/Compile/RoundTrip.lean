import DecisionTable.Proofs.Compile.Lockstep
import DecisionTable.Proofs.Compile.Shape
import DecisionTable.Proofs.Literal.Cell
import DecisionTable.Proofs.Operator.Spelling
import DecisionTable.Proofs.Store.History
import DecisionTable.Proofs.Tree.Equality
import DecisionTable.Tree.Export

/-!
# Compiled trees as tables

A tree that was compiled can be written as a table of its own. That table says of every branch what
the row of the branch said: references lead to the same ids, and outcomes are written so that they
are read as they were, whatever names are relative to. So it compiles to the same tree.
-/

namespace DecisionTable

/-! ### The table of a tree -/

namespace Tree

variable {tree : Tree} {i : Nat} {b : Branch}

theorem nodeIds_toTable (tree : Tree) :
    tree.toTable.nodeIds = tree.visitedBranches.map (·.id) := by
  unfold Table.nodeIds
  have hrows : tree.toTable.rows = tree.visitedBranches.map Branch.cells := rfl
  rw [hrows, List.map_map]
  rfl

theorem cell_toTable (hi : tree.visitedBranches[i]? = some b) (heading : String) :
    tree.toTable.cell i heading = tree.toTable.cellOf b.cells heading := by
  have hrow : tree.toTable.rows[i]? = some b.cells := by
    have hrows : tree.toTable.rows = tree.visitedBranches.map Branch.cells := rfl
    rw [hrows, List.getElem?_map, hi]
    rfl
  simp only [Table.cell, List.getD, hrow, Option.getD_some]

theorem cellOf_side (tree : Tree) (b : Branch) (side : Side) :
    tree.toTable.cellOf b.cells side.heading = (b.child side).cell := by
  cases side with
  | onTrue => rfl
  | onFalse => rfl

theorem indexed_toTable (hroot : tree.root = b.node) : tree.toTable.Indexed := by
  refine ⟨fun h hh => hh, ?_, ?_⟩
  · intro hempty
    have hnil : tree.visitedBranches = [] := List.map_eq_nil_iff.mp hempty
    have hhead := visitedBranches_head hroot
    rw [hnil] at hhead
    cases hhead
  · rw [nodeIds_toTable]
    exact tree.visitedBranches_nodup

theorem cell_toTable_first (hroot : tree.root = b.node) :
    tree.toTable.cell 0 nodeHeading = b.id := by
  have hhead := visitedBranches_head hroot
  rw [List.head?_eq_getElem?] at hhead
  exact cell_toTable hhead nodeHeading

end Tree

/-! ### The table says what the tree was compiled from -/

namespace Source

variable {src src' : Source} {store now : Store} {type : LiteralType} {compiled known : List Branch}
  {root b : Branch} {tree : Tree} {settled : Option LiteralType} {i i' : Nat}

/-- A cell that leads to a node says what the cell said from which the node was compiled. -/
theorem sequel_of_stands {side : Side} {n : Node}
    (h : src.Stands known settled i side n) (hcell : src'.table.cell i' side.heading = n.cell) :
    src.sequel i side = src'.sequel i' side := by
  cases h with
  | leaf l hmeans _ =>
    obtain ⟨htarget, hparse⟩ := sequel_eq_outcome.mp hmeans
    rw [hmeans]
    refine (sequel_eq_outcome.mpr ⟨?_, ?_⟩).symm
    · rw [hcell, Node.cell, hparse]
      exact Literal.target?_cell_parse htarget _
    · rw [hcell, Node.cell, hparse]
      exact (Literal.parse_cell _ _ _).symm
  | branch d hmeans _ =>
    have hid := (Reference.target?_eq_some.mp (sequel_eq_node.mp hmeans)).2
    rw [hmeans]
    refine (sequel_eq_node.mpr ?_).symm
    rw [hcell]
    exact Reference.target?_eq_some.mpr ⟨rfl, hid⟩

theorem saysSame_toTable {baseUri : String} (h : src.Built store known settled i b)
    (hi' : tree.visitedBranches[i']? = some b)
    (hnow : store.Keeps now) :
    SaysSame src ⟨tree.toTable, baseUri⟩ store now i i' := by
  have hname : b.decision.tested.identifier = src.table.cell i attributeHeading :=
    Store.identifier_of_attribute? h.tested
  have hcell : ∀ heading, tree.toTable.cell i' heading = tree.toTable.cellOf b.cells heading :=
    Tree.cell_toTable hi'
  refine ⟨?_, ?_, ?_, ?_, ?_, ?_, ?_⟩
  · intro side
    refine sequel_of_stands (h.child side) ?_
    dsimp only
    rw [hcell, Tree.cellOf_side]
  · rw [← hname]
    exact (hcell attributeHeading).symm
  · rw [h.tested, hnow _ _ h.tested]
  · intro hnone
    cases hnone.symm.trans h.tested
  · rw [h.op]
    have hop : tree.toTable.cell i' operatorHeading = b.decision.op.spelling :=
      hcell operatorHeading
    dsimp only
    rw [hop, Operator.parse?_spelling]
  · intro hnone
    cases hnone.symm.trans h.op
  · rw [← h.operand]
    exact (hcell operandHeading).symm

theorem Complete.alike_toTable {baseUri : String} (h : src.Complete store type compiled root)
    (ht : src.table.Indexed) (hroot : tree.root = root.node)
    (hnow : store.Keeps now) :
    Alike src ⟨tree.toTable, baseUri⟩ store now := by
  refine ⟨?_, ?_, ?_⟩
  · dsimp only
    rw [Tree.cell_toTable_first hroot]
    exact (Table.nodeIds_getElem?_eq_some.mp h.first).2
  · intro i i' id _ _ hid hid'
    dsimp only at hid'
    rw [Tree.nodeIds_toTable, List.getElem?_map, Option.map_eq_some_iff] at hid'
    obtain ⟨b, hi', rfl⟩ := hid'
    have hb := (h.mem_visitedBranches ht hroot).mp (List.mem_of_getElem? hi')
    exact saysSame_toTable (h.built ht hb hid) hi' hnow
  · -- what has been compiled refers to rows that are there, before as well as after
    intro i side id hi hmeans
    obtain ⟨b, hb, hid⟩ := h.exists_branch ht hi
    obtain ⟨d, hd, rfl, _⟩ := h.exists_target ht hb hid hmeans
    obtain ⟨j, _, hj⟩ := h.reachable hd
    have hmem : d.id ∈ src.table.nodeIds := List.mem_of_getElem? hj
    have hmem' : d.id ∈ tree.toTable.nodeIds := by
      rw [Tree.nodeIds_toTable]
      exact List.mem_map_of_mem ((h.mem_visitedBranches ht hroot).mpr hd)
    exact iff_of_true hmem hmem'

end Source

variable {t : Table} {store now : Store} {baseUri : String} {tree : Tree}

/-- The table of a compiled tree compiles to the same tree, then and later, and to the same one but
for its base URI if names are relative to something else. -/
theorem compile_toTable (h : (compile t store baseUri).tree = .ok tree) (hnow : store.Later now)
    (b : String) :
    ∃ again, (compile tree.toTable now b).tree = .ok again ∧
      again = { tree with baseUri := b } ∧ again.root.same tree.root = true ∧
      (compile tree.toTable now b).branches = tree.branches ∧
      (b = tree.baseUri → again.same tree = true) := by
  obtain ⟨ht, compiled, root, type, hcomplete, htree, _⟩ := compile_eq_ok h
  have hroot : tree.root = root.node := by rw [htree]
  have halike : Source.Alike ⟨t, baseUri⟩ ⟨tree.toTable, b⟩ store now :=
    hcomplete.alike_toTable ht hroot (Store.keeps_later hnow)
  obtain ⟨hresult, hbranches⟩ := compile_alike halike ht (Tree.indexed_toTable hroot)
  rw [h] at hresult
  refine ⟨{ tree with baseUri := b }, hresult, rfl, Node.same_self _, ?_, ?_⟩
  · exact hbranches.trans (compile_branches h)
  · rintro rfl
    exact Tree.same_self tree

/-- The tree of the table with a shared row is written with the shared row once and with all names
in full, and compiles to an equal tree against the store as it was left. -/
theorem compile_toTable_sharing :
    ∃ tree, (compile Example.sharing Example.emptyStore "urn:grade").tree = .ok tree ∧
      tree.toTable.rows =
        [["root", "#score", "gt", "50", "[high]", "[rest]"],
          ["high", "#score", "gt", "90", "<urn:grade#best>", "[rest]"],
          ["rest", "#choice", "eq", "extra", "<urn:grade:good>", "<urn:grade#plain>"]] ∧
      ∃ again, (compile tree.toTable
        (compile Example.sharing Example.emptyStore "urn:grade").store tree.baseUri).tree
          = .ok again ∧ again.same tree = true := by
  have hvalue : (compile Example.sharing Example.emptyStore "urn:grade").tree.map (·.toTable.rows)
      = .ok [["root", "#score", "gt", "50", "[high]", "[rest]"],
          ["high", "#score", "gt", "90", "<urn:grade#best>", "[rest]"],
          ["rest", "#choice", "eq", "extra", "<urn:grade:good>", "<urn:grade#plain>"]] := by
    decide +kernel
  obtain ⟨tree, htree, hrows⟩ := exists_tree hvalue
  have hlater : Example.emptyStore.Later
      (compile Example.sharing Example.emptyStore "urn:grade").store :=
    Relation.ReflTransGen.single (.compile _ Example.sharing "urn:grade")
  obtain ⟨again, hagain, _, _, _, hsame⟩ := compile_toTable htree hlater tree.baseUri
  exact ⟨tree, htree, hrows, again, hagain, hsame rfl⟩

end DecisionTable
