import DecisionTable.Proofs.Compile.Chain
import DecisionTable.Proofs.Operator.Integer
import DecisionTable.Proofs.Table.Chain
import DecisionTable.Proofs.Tree.Depth
import DecisionTable.Proofs.Tree.Report

/-!
# Chains of any length

A chain of rows compiles whatever its length is, to a tree that is as deep as the chain is long. A
subject for which the decision holds goes through the whole chain, and any other one leaves it at
the first row. A chain that leads back to one of its rows is refused, with the rows of the cycle.
-/

namespace DecisionTable

/-! ### Trees of chains -/

variable {name : Nat → String} {d : Decision} {yes no : TypedLiteral} {i : Nat} {now : Store}
  {subject : Subject}

theorem height_chainBranch (below : Nat) :
    (chainBranch name d yes no i below).node.height = below + 1 := by
  induction below generalizing i with
  | zero => rfl
  | succ below ih =>
    have hheight : (chainBranch name d yes no i (below + 1)).node.height
        = 1 + max (chainBranch name d yes no (i + 1) below).node.height 0 := rfl
    rw [hheight, ih]
    omega

theorem ids_chainBranches (below : Nat) :
    (chainBranches name d yes no i below).map (·.id) = (List.range' i (below + 1)).map name := by
  induction below generalizing i with
  | zero => rfl
  | succ below ih =>
    rw [chainBranches, List.map_cons, ih, List.range'_succ, List.map_cons]
    rfl

/-- Each branch has an outcome on its false side, and the last one has a further one. -/
theorem length_outcomes_chainBranches (below : Nat) :
    ((chainBranches name d yes no i below).map
      fun b => (b.children.filterMap Node.outcome?).length).sum = below + 2 := by
  induction below generalizing i with
  | zero => rfl
  | succ below ih =>
    have hone : ((chainBranch name d yes no i (below + 1)).children.filterMap
        Node.outcome?).length = 1 := by
      cases below <;> rfl
    rw [chainBranches, List.map_cons, List.sum_cons, ih, hone]
    omega

theorem chainBranch_of_holds (h : d.holds now subject = .ok true) (below : Nat) :
    (chainBranch name d yes no i below).node.evaluate now subject = .ok yes ∧
    (chainBranch name d yes no i below).node.decisions now subject
      = (List.range' i (below + 1)).map fun j => ⟨name j, d, true⟩ := by
  induction below generalizing i with
  | zero =>
    simp only [chainBranch, Branch.node, Node.evaluate, Node.decisions, h]
    exact ⟨trivial, rfl⟩
  | succ below ih =>
    obtain ⟨hevaluate, hdecisions⟩ := ih (i := i + 1)
    rw [List.range'_succ, List.map_cons, ← hdecisions, ← hevaluate]
    simp only [chainBranch, Branch.node, Node.evaluate, Node.decisions, h, and_self]

theorem chainBranch_of_not_holds (h : d.holds now subject = .ok false) (below : Nat) :
    (chainBranch name d yes no i below).node.evaluate now subject = .ok no ∧
    (chainBranch name d yes no i below).node.decisions now subject = [⟨name i, d, false⟩] := by
  cases below with
  | zero => simp only [chainBranch, Branch.node, Node.evaluate, Node.decisions, h, and_self]
  | succ below => simp only [chainBranch, Branch.node, Node.evaluate, Node.decisions, h, and_self]

theorem length_outcomes_chainTree (name : Nat → String) (d : Decision) (yes no : TypedLiteral)
    (m : Nat) (baseUri : String) :
    (chainTree name d yes no m baseUri).outcomes.length = m + 2 := by
  unfold Tree.outcomes Tree.allChildren
  rw [List.filterMap_flatMap, List.length_flatMap, chainTree, List.map_reverse, List.sum_reverse]
  exact length_outcomes_chainBranches m

namespace Example

/-! ### The chain of an attribute and a number -/

variable {identifier : String}

/-- The decision that every row of a chain makes. -/
def chainDecision (identifier operand : String) : Decision :=
  ⟨⟨identifier, .single, .scalar⟩, .order .gt, operand⟩

theorem target?_chainId (i : Nat) :
    Reference.target? (Reference.cell (chainId i)) = some (chainId i) := by
  refine Reference.target?_eq_some.mpr ⟨rfl, ?_⟩
  intro hempty
  have hlist := toList_chainId i
  rw [hempty] at hlist
  cases hlist

theorem chained_ending (m : Nat) (identifier operand last baseUri : String) :
    Source.Chained ⟨chainEnding m identifier operand last, baseUri⟩ (fun i => chainId i)
      (chainDecision identifier operand) ⟨.int, "0"⟩ m where
  indexed := indexed_chainEnding m identifier operand last
  ids := nodeIds_chainEnding m identifier operand last
  tested := by
    intro i hi
    rw [cell_chainEnding hi]
    rfl
  op := by
    intro i hi
    rw [cell_chainEnding hi]
    show Operator.parse? "gt" = some (.order .gt)
    decide
  operand := by
    intro i hi
    rw [cell_chainEnding hi]
    rfl
  link := by
    intro i hi
    refine Source.sequel_eq_node.mpr ?_
    rw [Side.heading, cell_link hi]
    exact target?_chainId (i + 1)
  otherwise := by
    intro i hi
    refine Source.sequel_eq_outcome.mpr ?_
    rw [Side.heading, cell_otherwise hi, Literal.parse_plain (by decide) (by decide)]
    decide

theorem holds_chainDecision {now : Store} {subject : Subject} {s k : Int}
    (hk : Decimal.digitCount k.natAbs ≤ maxIntegerDigits)
    (hs : now.get? subject identifier = some (.int s)) :
    (chainDecision identifier (toString k)).holds now subject = .ok (decide (k < s)) := by
  let a : Attribute := ⟨identifier, .single, .scalar⟩
  have hcurrent : now.current (chainDecision identifier (toString k)).tested subject
      = .ok (.single a (.int s)) := by
    have hidentifier : (chainDecision identifier (toString k)).tested.identifier = identifier := rfl
    rw [Store.current, hidentifier, hs]
    rfl
  have hcompare : Comparison.gt.holds (compare s k) = decide (k < s) := by
    rw [Comparison.holds, Bool.eq_iff_iff, beq_iff_eq, decide_eq_true_eq]
    exact compare_gt_iff_gt
  have hdecide := Operator.decide_order_int .gt s (a := a) rfl hk
  rw [hcompare] at hdecide
  rw [Decision.holds, hcurrent]
  exact hdecide

end Example

/-! ### Compiling, evaluating and analysing chains -/

/-- What is so of the tree of a chain of `n` rows that compare an attribute with the number `k`. -/
structure Tree.OfChain (tree : Tree) (identifier : String) (n : Nat) (k : Int) : Prop where
  /-- The nodes are those of the rows, the last row first to be compiled. -/
  ids : tree.branches.map (·.id) = ((List.range n).map fun i : Nat => Example.chainId i).reverse
  distinct : (tree.branches.map (·.id)).Nodup
  inferredType : tree.inferredType = .int
  leaves : tree.leaves.length = n + 1
  /-- There is a report, without a table and with any that has node ids. -/
  report : ∀ table : Option Table, (∀ t ∈ table, nodeHeading ∈ t.headings) →
    ∃ report, tree.analyze table = .ok report ∧ report.maxDepth = n ∧ report.totalLeaves = n + 1
  /-- A greater number goes through all rows, -/
  above : ∀ (now : Store) (subject : Subject) (s : Int),
    now.get? subject identifier = some (.int s) → k < s →
      tree.evaluate now subject = .ok ⟨.int, "1"⟩ ∧
      (tree.root.decisions now subject).map (·.node)
        = (List.range n).map fun i : Nat => Example.chainId i
  /-- and any other one through the first row only. -/
  otherwise : ∀ (now : Store) (subject : Subject) (s : Int),
    now.get? subject identifier = some (.int s) → s ≤ k →
      tree.evaluate now subject = .ok ⟨.int, "0"⟩ ∧
      (tree.root.decisions now subject).map (·.node) = [Example.chainId 0]

namespace Example

variable {m : Nat} {identifier baseUri : String} {store : Store} {k : Int}

theorem ofChain_of_compile {t : Table} {tree : Tree}
    (h : (compile t store baseUri).tree = .ok tree)
    (htree : tree = chainTree (fun i => chainId i) (chainDecision identifier (toString k))
      ⟨.int, "1"⟩ ⟨.int, "0"⟩ m baseUri)
    (hk : Decimal.digitCount k.natAbs ≤ maxIntegerDigits) :
    tree.OfChain identifier (m + 1) k := by
  have hrenders := (renders_of_compile h).1
  have houtcomes : tree.outcomes.length = m + 2 := by
    rw [htree]
    exact length_outcomes_chainTree _ _ _ _ m baseUri
  refine ⟨?_, hrenders.distinct, by rw [htree]; rfl, ?_, ?_, ?_, ?_⟩
  · rw [htree, chainTree, List.map_reverse, ids_chainBranches, List.range_eq_range']
  · rw [Tree.length_leaves h, ← Tree.length_outcomes hrenders (compile_eq_ok h).1, houtcomes]
  · intro table htable
    obtain ⟨report, hreport⟩ := Tree.exists_analysis htable
    refine ⟨report, hreport, ?_⟩
    obtain ⟨_, _, rfl⟩ := Tree.analyze_eq_ok hreport
    refine ⟨?_, houtcomes⟩
    rw [Tree.depth_eq_height h, htree]
    exact height_chainBranch m
  · intro now subject s hs hgreater
    have hholds := holds_chainDecision hk hs
    rw [decide_eq_true hgreater] at hholds
    obtain ⟨hevaluate, hdecisions⟩ := chainBranch_of_holds hholds m
    rw [htree]
    refine ⟨hevaluate, ?_⟩
    rw [chainTree, hdecisions, List.map_map, List.range_eq_range']
    rfl
  · intro now subject s hs hle
    have hholds := holds_chainDecision hk hs
    rw [decide_eq_false (not_lt.mpr hle)] at hholds
    obtain ⟨hevaluate, hdecisions⟩ := chainBranch_of_not_holds hholds m
    rw [htree]
    refine ⟨hevaluate, ?_⟩
    rw [chainTree, hdecisions]
    rfl

/-- A chain of any length compiles against every store that knows its attribute. If its last row
leads back to one of its rows, then it is refused, and the path of the cycle goes from that row to
the last one and back. -/
theorem compile_chain {n : Nat} (hn : 1 ≤ n) (hk : Decimal.digitCount k.natAbs ≤ maxIntegerDigits)
    (hstore : store.attribute? identifier = some ⟨identifier, .single, .scalar⟩)
    (baseUri : String) :
    (∃ tree, (compile (chain n identifier (toString k)) store baseUri).tree = .ok tree ∧
      tree.OfChain identifier n k) ∧
    ∀ j < n, ∃ t, (chain n identifier (toString k)).setCell (-1)
        (requiredHeadings.idxOf trueHeading) (Reference.cell (chainId j)) = .ok t ∧
      (compile t store baseUri).tree = .error (.cyclicReference (chainId j)
        ((List.range' j (n - j)).map (fun i : Nat => chainId i) ++ [chainId j])) := by
  obtain ⟨m, rfl⟩ := Nat.exists_eq_add_of_le' hn
  rw [chain_eq_ending]
  refine ⟨?_, ?_⟩
  · have hlast : Source.sequel ⟨chainEnding m identifier (toString k) "1", baseUri⟩ m .onTrue
        = .outcome ⟨.int, "1"⟩ := by
      refine Source.sequel_eq_outcome.mpr ?_
      rw [Side.heading, cell_last, Literal.parse_plain (by decide) (by decide)]
      decide
    have htree := compile_of_chained (chained_ending m identifier (toString k) "1" baseUri) hlast
      rfl hstore
    exact ⟨_, htree, ofChain_of_compile htree rfl hk⟩
  · intro j hj
    refine ⟨_, setCell_chainEnding m identifier (toString k) "1" _, ?_⟩
    have hlast : Source.sequel
        ⟨chainEnding m identifier (toString k) (Reference.cell (chainId j)), baseUri⟩ m .onTrue
        = .node (chainId j) := by
      refine Source.sequel_eq_node.mpr ?_
      rw [Side.heading, cell_last]
      exact target?_chainId j
    exact compile_of_chained_back (chained_ending m identifier (toString k) _ baseUri) hlast
      (Nat.le_of_lt_succ hj)

/-- A chain of three rows with a subject above its number, and what becomes of it when its last row
leads back to the second one. -/
theorem compile_chain_three :
    (∃ tree, (compile (chain 3 "#score" "10") emptyStore "").tree = .ok tree ∧
      tree.OfChain "#score" 3 10 ∧
      ∃ now : Store, now.get? (.named "ann") "#score" = some (.int 11) ∧
        tree.evaluate now (.named "ann") = .ok ⟨.int, "1"⟩) ∧
    ∃ t, (chain 3 "#score" "10").setCell (-1) 4 "[n1]" = .ok t ∧
      (compile t emptyStore "").tree = .error (.cyclicReference "n1" ["n1", "n2", "n1"]) := by
  have hdigits : Decimal.digitCount (10 : Int).natAbs ≤ maxIntegerDigits := by decide
  have hstore : emptyStore.attribute? "#score" = some ⟨"#score", .single, .scalar⟩ := by decide
  obtain ⟨⟨tree, htree, hchain⟩, hback⟩ :=
    compile_chain (by decide : 1 ≤ 3) hdigits hstore ""
  have hscore : ({ emptyStore with entries := [⟨.named "ann", "#score", .int 11⟩] } : Store).get?
      (.named "ann") "#score" = some (.int 11) := rfl
  exact ⟨⟨tree, htree, hchain, _, hscore, (hchain.above _ _ 11 hscore (by decide)).1⟩,
    hback 1 (by decide)⟩

end Example

end DecisionTable
