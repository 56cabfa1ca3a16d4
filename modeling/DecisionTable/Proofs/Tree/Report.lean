import DecisionTable.Proofs.Compile.Cells
import DecisionTable.Proofs.Compile.Layout
import DecisionTable.Proofs.Names
import DecisionTable.Proofs.Tree.Height
import DecisionTable.Proofs.Tree.ShapeCheck

/-!
# What a report says of a table

A report on a compiled tree and its table is exact for the table: the rows that the root does not
lead to, the rows that several cells refer to, the numbers of rows, branches and leaves, and the
outcomes. Every outcome of an evaluation is among those of the report.
-/

namespace DecisionTable

open Relation

namespace Tree

variable {tree : Tree} {t : Table} {store : Store} {id : String} {i : Nat}

/-! ### Rows -/

theorem isSome_branch? : (tree.branch? id).isSome ↔ id ∈ tree.branches.map (·.id) := by
  simp [branch?, List.find?_isSome]

theorem isSome_branch?_iff_reachable (h : tree.Renders t store) (ht : t.Indexed)
    (hid : t.nodeIds[i]? = some id) : (tree.branch? id).isSome ↔ t.Reachable i := by
  rw [isSome_branch?, h.ids]
  constructor
  · rintro ⟨j, hj, hid'⟩
    rw [ht.row_unique hid hid']
    exact hj
  · exact fun hi => ⟨i, hi, hid⟩

theorem unreachableRows_eq (ht : t.Indexed) :
    tree.unreachableRows t = .ok (t.nodeIds.filter fun id => (tree.branch? id).isNone) := by
  have hheading : t.headings.contains nodeHeading = true :=
    List.contains_iff_mem.mpr (ht.headings nodeHeading (by decide))
  unfold unreachableRows
  rw [hheading]
  rfl

/-- The rows of a table are those of the branches and those that are no branches. -/
theorem length_rows (h : tree.Renders t store) (ht : t.Indexed) :
    t.rows.length = tree.branches.length +
      (t.nodeIds.filter fun id => (tree.branch? id).isNone).length := by
  have hperm : (t.nodeIds.filter fun id => (tree.branch? id).isSome).Perm
      (tree.branches.map (·.id)) := by
    refine (List.perm_ext_iff_of_nodup (ht.distinct.filter _) h.distinct).mpr ?_
    intro id
    rw [List.mem_filter, isSome_branch?]
    constructor
    · exact And.right
    · intro hid
      obtain ⟨i, _, hi⟩ := (h.ids id).mp hid
      exact ⟨List.mem_of_getElem? hi, hid⟩
  have hsplit := List.length_eq_length_filter_add (l := t.nodeIds)
    fun id => (tree.branch? id).isSome
  simp only [Option.not_isSome] at hsplit
  rw [← Table.length_nodeIds, hsplit, hperm.length_eq, List.length_map]

theorem mem_unreachable (h : tree.Renders t store) (ht : t.Indexed) :
    id ∈ t.nodeIds.filter (fun id => (tree.branch? id).isNone) ↔
      ∃ i, t.nodeIds[i]? = some id ∧ ¬ t.Reachable i := by
  rw [List.mem_filter, Option.isNone_iff_eq_none, ← Option.not_isSome_iff_eq_none]
  constructor
  · rintro ⟨hmem, hnone⟩
    obtain ⟨i, hi⟩ := List.mem_iff_getElem?.mp hmem
    exact ⟨i, hi, fun hreach => hnone ((isSome_branch?_iff_reachable h ht hi).mpr hreach)⟩
  · rintro ⟨i, hi, hnot⟩
    exact ⟨List.mem_of_getElem? hi,
      fun hsome => hnot ((isSome_branch?_iff_reachable h ht hi).mp hsome)⟩

/-! ### Counts -/

theorem mem_sharedNodes (h : tree.Renders t store) (ht : t.Indexed) :
    id ∈ tree.sharedNodes ↔ 2 ≤ (t.outcomeCells (· = some id)).card := by
  have hcount : (tree.allChildren.filterMap Node.branchId?).count id
      = (t.outcomeCells (· = some id)).card := by
    rw [card_outcomeCells h ht, List.countP_map, List.count, List.countP_filterMap]
    refine List.countP_congr ?_
    intro n _
    cases n with
    | leaf => simp [Node.branchId?]
    | branch => simp [Node.branchId?]
  unfold sharedNodes
  rw [List.mem_filter, decide_eq_true_eq, hcount]
  constructor
  · exact And.right
  · intro hcard
    refine ⟨?_, hcard⟩
    rw [← List.count_pos_iff, hcount]
    omega

theorem length_outcomes (h : tree.Renders t store) (ht : t.Indexed) :
    tree.outcomes.length = (t.outcomeCells (· = none)).card := by
  rw [card_outcomeCells h ht, outcomes, List.length_filterMap_eq_countP, List.countP_map]
  refine List.countP_congr ?_
  intro n _
  cases n with
  | leaf => simp [Node.branchId?, Node.outcome?]
  | branch => simp [Node.branchId?, Node.outcome?]

theorem sum_attributeUsage (tree : Tree) :
    (tree.attributeUsage.map (·.2)).sum = tree.branches.length := by
  unfold attributeUsage
  rw [List.map_map]
  exact (sum_map_count _).trans (List.length_map _)

/-! ### Outcomes -/

variable {baseUri : String} {now : Store} {subject : Subject} {l : TypedLiteral} {value : String}

theorem mem_leaves_iff_child (h : (compile t store baseUri).tree = .ok tree) :
    (id, l) ∈ tree.leaves ↔ Node.leaf id l ∈ tree.allChildren := by
  obtain ⟨b, _, hroot, _⟩ := (renders_of_compile h).1.root
  rw [mem_leaves, mem_nodes_iff_child h, hroot]
  constructor
  · intro hleaf
    exact hleaf.resolve_left nofun
  · exact Or.inr

theorem mem_outcomes (h : (compile t store baseUri).tree = .ok tree) :
    value ∈ tree.outcomes ↔ ∃ id l, (id, l) ∈ tree.leaves ∧ l.value = value := by
  unfold outcomes
  rw [List.mem_filterMap]
  constructor
  · rintro ⟨n, hn, houtcome⟩
    cases n with
    | leaf id l => exact ⟨id, l, (mem_leaves_iff_child h).mpr hn, Option.some.inj houtcome⟩
    | branch => cases houtcome
  · rintro ⟨id, l, hleaf, hvalue⟩
    exact ⟨.leaf id l, (mem_leaves_iff_child h).mp hleaf, congrArg some hvalue⟩

/-- The leaves are those of the outcome cells of the reachable rows. -/
theorem mem_leaves_iff_hasLeaf (h : (compile t store baseUri).tree = .ok tree) :
    (id, l) ∈ tree.leaves ↔ Source.HasLeaf ⟨t, baseUri⟩ id l := by
  obtain ⟨hrenders, hbase⟩ := renders_of_compile h
  rw [mem_leaves_iff_child h, mem_allChildren]
  constructor
  · rintro ⟨b, hb, side, hchild⟩
    obtain ⟨i, hi, _, hrow⟩ := hrenders.exists_row hb
    have htarget := hrow.branchId?_child side
    rw [hchild] at htarget
    have houtcome := hrow.outcome side htarget.symm
    rw [hchild, hbase, hrow.id] at houtcome
    obtain ⟨hid, hl⟩ := Node.leaf.inj houtcome
    exact ⟨i, side, hi, Source.sequel_eq_outcome.mpr ⟨htarget.symm, hl⟩, hid⟩
  · rintro ⟨i, side, hi, hmeans, rfl⟩
    obtain ⟨htarget, rfl⟩ := Source.sequel_eq_outcome.mp hmeans
    obtain ⟨b, hb, hrow⟩ := hrenders.rows i hi
    refine ⟨b, List.mem_of_find?_eq_some hb, side, ?_⟩
    rw [hrow.outcome side htarget, hbase, hrow.id]

/-- An evaluation that succeeds comes to a leaf that a walk meets. -/
theorem exists_leaf_of_evaluate (h : (compile t store baseUri).tree = .ok tree)
    (hl : tree.evaluate now subject = .ok l) : ∃ id, (id, l) ∈ tree.leaves := by
  obtain ⟨n, hgoes, hend⟩ := Node.goes_to_end now subject tree.root
  have hn : n.evaluate now subject = .ok l := (Node.evaluate_of_goes hgoes).symm.trans hl
  rcases hend with ⟨id, l', rfl⟩ | ⟨b, e, rfl, hfails⟩
  · obtain rfl := Except.ok.inj hn
    have hleads : ReflTransGen Node.Leads tree.root (.leaf id l') :=
      ReflTransGen.mono (fun _ _ => Node.leads_of_goes) _ _ hgoes
    exact ⟨id, mem_leaves.mpr ((mem_nodes_iff_leads h).mpr hleads)⟩
  · cases (Node.evaluate_of_fails hfails).symm.trans hn

end Tree

namespace Report

variable {report : Report} {outcome : String}

/-- No other warning reads like the one that there is a single outcome. -/
theorem mem_warnings_single :
    s!"Every leaf gives the same outcome: {outcome}" ∈ report.warnings
      ↔ report.outcomes = [outcome] := by
  have hrows : ∀ names : String, s!"Every leaf gives the same outcome: {outcome}"
      ≠ s!"Rows not reachable from the root: {names}" := by
    intro names heq
    have hfirst := congrArg (fun s => s.toList.head?) heq
    simp [toString, String.toList_append] at hfirst
  have hmismatch : ∀ m : ShapeMismatch,
      s!"Every leaf gives the same outcome: {outcome}" ≠ m.message := by
    intro m heq
    have hfirst := congrArg (fun s => s.toList.head?) heq
    simp [toString, ShapeMismatch.message, String.toList_append] at hfirst
  unfold warnings
  rw [List.mem_eraseDups, List.mem_append, List.mem_append]
  constructor
  · rintro ((hmem | hmem) | hmem)
    · split at hmem
      · cases hmem
      · exact absurd (List.mem_singleton.mp hmem) (hrows _)
    · obtain ⟨m, _, hm⟩ := List.mem_map.mp hmem
      exact absurd hm.symm (hmismatch m)
    · split at hmem
      · rename_i other houtcomes
        have hsame : outcome = other := by simpa [toString] using hmem
        rw [houtcomes, hsame]
      · cases hmem
  · intro houtcomes
    rw [houtcomes]
    exact Or.inr (List.mem_singleton_self _)

/-- A report says what there is in a table, and what evaluations of its tree can come to. -/
structure Exact (report : Report) (tree : Tree) (t : Table) (baseUri : String) : Prop where
  /-- The ids of the rows that the first row does not lead to, in ascending order. -/
  unreachable : report.unreachableRows.Pairwise (· < ·) ∧
    ∀ id, id ∈ report.unreachableRows ↔ ∃ i, t.nodeIds[i]? = some id ∧ ¬ t.Reachable i
  rows : report.totalRows = t.rows.length ∧
    report.totalRows = report.totalBranches + report.unreachableRows.length
  /-- The ids to which two cells or more refer, in ascending order. -/
  shared : report.sharedNodes.Pairwise (· < ·) ∧
    ∀ id, id ∈ report.sharedNodes ↔ 2 ≤ (t.outcomeCells (· = some id)).card
  leaves : report.totalLeaves = (t.outcomeCells (· = none)).card
  cells : report.totalLeaves + (t.outcomeCells (· ≠ none)).card = 2 * report.totalBranches
  usage : (report.attributeUsage.map (·.2)).sum = report.totalBranches
  /-- The values of leaves, in ascending order. The leaves are those of the reachable rows. -/
  outcomes : report.outcomes.Pairwise (· < ·) ∧
    (∀ value, value ∈ report.outcomes ↔ ∃ id l, (id, l) ∈ tree.leaves ∧ l.value = value) ∧
    ∀ id l, (id, l) ∈ tree.leaves ↔ Source.HasLeaf ⟨t, baseUri⟩ id l
  evaluations : ∀ now subject l, tree.evaluate now subject = .ok l →
    l.type = report.inferredType ∧ l.value ∈ report.outcomes
  /-- The warning of a single outcome is right. -/
  single : ∀ outcome, s!"Every leaf gives the same outcome: {outcome}" ∈ report.warnings →
    ∀ now subject l, tree.evaluate now subject = .ok l → l.value = outcome

end Report

variable {t : Table} {store : Store} {baseUri : String} {tree : Tree}

theorem analyze_exact (h : (compile t store baseUri).tree = .ok tree) :
    ∃ report, tree.analyze (some t) = .ok report ∧ report.Exact tree t baseUri := by
  obtain ⟨ht, _⟩ := compile_eq_ok h
  have hrenders := (renders_of_compile h).1
  have hheading : ∀ table ∈ some t, nodeHeading ∈ table.headings := by
    intro table htable
    rw [← Option.some.inj htable]
    exact ht.headings nodeHeading (by decide)
  obtain ⟨report, hreport⟩ := tree.exists_analysis hheading
  refine ⟨report, hreport, ?_⟩
  obtain ⟨rows, hrows, rfl⟩ := Tree.analyze_eq_ok hreport
  obtain rfl := Except.ok.inj ((Tree.unreachableRows_eq ht).symm.trans hrows)
  have hevaluations : ∀ now subject l, tree.evaluate now subject = .ok l →
      l.type = tree.inferredType ∧ l.value ∈ sortedSet tree.outcomes := by
    intro now subject l hl
    obtain ⟨id, hleaf⟩ := Tree.exists_leaf_of_evaluate h hl
    exact ⟨hrenders.leaves id l hleaf,
      mem_sortedSet.mpr ((Tree.mem_outcomes h).mpr ⟨id, l, hleaf, rfl⟩)⟩
  refine ⟨⟨sortedSet_sorted _, ?_⟩, ⟨rfl, ?_⟩, ⟨sortedSet_sorted _, ?_⟩,
    Tree.length_outcomes hrenders ht, ?_, Tree.sum_attributeUsage tree,
    ⟨sortedSet_sorted _, ?_, fun id l => Tree.mem_leaves_iff_hasLeaf h⟩, hevaluations, ?_⟩
  · intro id
    rw [mem_sortedSet]
    exact Tree.mem_unreachable hrenders ht
  · dsimp only
    rw [length_sortedSet (ht.distinct.filter _)]
    exact Tree.length_rows hrenders ht
  · intro id
    rw [mem_sortedSet]
    exact Tree.mem_sharedNodes hrenders ht
  · dsimp only
    rw [Tree.length_outcomes hrenders ht]
    exact Tree.card_outcomeCells_add hrenders ht
  · intro value
    rw [mem_sortedSet]
    exact Tree.mem_outcomes h
  · intro outcome hwarning now subject l hl
    have houtcomes : sortedSet tree.outcomes = [outcome] := Report.mem_warnings_single.mp hwarning
    have hvalue := (hevaluations now subject l hl).2
    rw [houtcomes] at hvalue
    exact List.mem_singleton.mp hvalue

/-- The report on a table in which the row `spare` is not reachable, and `rest` is shared. -/
theorem analyze_exact_spread :
    ∃ tree report, (compile Example.spread Example.emptyStore "urn:grade").tree = .ok tree ∧
      tree.analyze (some Example.spread) = .ok report ∧
      report.Exact tree Example.spread "urn:grade" ∧
      report.unreachableRows = ["spare"] ∧ report.sharedNodes = ["rest"] := by
  have hvalue : (compile Example.spread Example.emptyStore "urn:grade").tree.map
      (fun tree => (tree.analyze (some Example.spread)).map
        fun report => (report.unreachableRows, report.sharedNodes))
        = .ok (.ok (["spare"], ["rest"])) := by decide +kernel
  obtain ⟨tree, htree, hnames⟩ := exists_tree hvalue
  obtain ⟨report, hreport, hexact⟩ := analyze_exact htree
  rw [hreport] at hnames
  obtain ⟨hunreachable, hshared⟩ := Prod.mk.inj (Except.ok.inj hnames)
  exact ⟨tree, report, htree, hreport, hexact, hunreachable, hshared⟩

end DecisionTable
