import DecisionTable.Proofs.Tree.Arrival
import DecisionTable.Tree.Analysis

/-!
# The static check of shapes

A report on a tree lists the decisions whose operator does not suit their attribute. No evaluation
gets past the branch of such a decision, whatever the values are, and evaluations fail for the shape
of an attribute at such branches only.
-/

namespace DecisionTable

namespace Tree

variable {tree : Tree} {report : Report} {b : Branch}

/-- A report consists of what is counted in the tree and of the rows that are no branches. -/
theorem analyze_eq_ok {table : Option Table} (h : tree.analyze table = .ok report) :
    ∃ rows, table.elim (.ok []) tree.unreachableRows = .ok rows ∧
      report =
        { inferredType := tree.inferredType
          totalRows := table.elim tree.branches.length (·.rows.length)
          totalBranches := tree.branches.length
          totalLeaves := tree.outcomes.length
          maxDepth := tree.root.depth
          attributeUsage := tree.attributeUsage
          unreachableRows := sortedSet rows
          sharedNodes := sortedSet tree.sharedNodes
          outcomes := sortedSet tree.outcomes
          mismatches := tree.mismatches } := by
  unfold analyze at h
  cases table with
  | none => exact ⟨[], rfl, (Except.ok.inj h).symm⟩
  | some table =>
    cases hrows : tree.unreachableRows table with
    | error e =>
      simp only [hrows, bind, Except.bind] at h
      cases h
    | ok rows =>
      simp only [hrows, bind, Except.bind] at h
      exact ⟨rows, hrows, (Except.ok.inj h).symm⟩

theorem mismatches_analyze {table : Option Table} (h : tree.analyze table = .ok report) :
    report.mismatches = tree.mismatches := by
  obtain ⟨_, _, rfl⟩ := analyze_eq_ok h
  rfl

theorem exists_analysis {table : Option Table} (h : ∀ t ∈ table, nodeHeading ∈ t.headings) :
    ∃ report, tree.analyze table = .ok report := by
  cases table with
  | none => exact ⟨_, rfl⟩
  | some t =>
    have hheading : t.headings.contains nodeHeading = true := List.contains_iff_mem.mpr (h t rfl)
    unfold analyze
    simp only [unreachableRows, hheading, Bool.true_or, if_true, bind, Except.bind]
    exact ⟨_, rfl⟩

theorem mem_mismatches {m : ShapeMismatch} : m ∈ tree.mismatches ↔
    ∃ b ∈ tree.branches, b.decision.op.accepts b.decision.tested = false ∧
      m = ⟨b.id, b.decision⟩ := by
  unfold mismatches
  rw [List.mem_filterMap]
  constructor
  · rintro ⟨b, hb, hm⟩
    split at hm
    · cases hm
    · rename_i hop
      exact ⟨b, hb, eq_false_of_ne_true hop, (Option.some.inj hm).symm⟩
  · rintro ⟨b, hb, hop, rfl⟩
    refine ⟨b, hb, ?_⟩
    rw [hop]
    rfl

/-- A report names the branches at which evaluations stop for the shape of an attribute. -/
structure ShapesChecked (tree : Tree) (report : Report) (now : Store) : Prop where
  /-- A violation occurs at a branch that the report names, and is that of its decision. -/
  named : ∀ subject op a, tree.evaluate now subject = .error (.rejected (.shapeViolation op a)) →
    ∃ b : Branch, tree.Arrives now subject b ∧
      b.decision.holds now subject = .error (.rejected (.shapeViolation op a)) ∧
      ⟨b.id, b.decision⟩ ∈ report.mismatches ∧ b.decision.op = op ∧ b.decision.tested = a
  /-- No evaluation gets past a branch that the report names. -/
  stopped : ∀ subject b, tree.Arrives now subject b → b.id ∈ report.mismatches.map (·.node) →
    tree.evaluate now subject = .error (.rejected
      (match now.get? subject b.decision.tested.identifier with
        | some _ => .shapeViolation b.decision.op b.decision.tested
        | none => .missingValue subject b.decision.tested.identifier))
  /-- If the report names no branch there are no violations. -/
  clean : report.mismatches = [] → ∀ subject op a,
    tree.evaluate now subject ≠ .error (.rejected (.shapeViolation op a))

end Tree

variable {t : Table} {store now : Store} {baseUri : String} {tree : Tree} {subject : Subject}
  {b : Branch}

/-- A branch with the id of a mismatch is the one that has the mismatch. -/
theorem accepts_eq_false_of_named (h : (compile t store baseUri).tree = .ok tree)
    (hb : b ∈ tree.branches) (hnamed : b.id ∈ tree.mismatches.map (·.node)) :
    b.decision.op.accepts b.decision.tested = false := by
  obtain ⟨m, hm, hid⟩ := List.mem_map.mp hnamed
  obtain ⟨d, hd, hop, rfl⟩ := Tree.mem_mismatches.mp hm
  have hdistinct := (renders_of_compile h).1.distinct
  obtain rfl : d = b := List.inj_on_of_nodup_map hdistinct hd hb hid
  exact hop

section Compiled

variable (hstore : store.Reached) (h : (compile t store baseUri).tree = .ok tree)
  (hlater : (compile t store baseUri).store.Later now)

include hstore h hlater

theorem mismatch_of_shapeViolation {op : Operator} {a : Attribute}
    (hfails : tree.evaluate now subject = .error (.rejected (.shapeViolation op a))) :
    ∃ b : Branch, tree.Arrives now subject b ∧
      b.decision.holds now subject = .error (.rejected (.shapeViolation op a)) ∧
      ⟨b.id, b.decision⟩ ∈ tree.mismatches ∧ b.decision.op = op ∧ b.decision.tested = a := by
  obtain ⟨b, harrives, hholds⟩ := Tree.evaluate_eq_error.mp hfails
  have hends := ends_of_arrives hstore h hlater harrives
  refine ⟨b, harrives, hholds, ?_⟩
  rw [hholds] at hends
  cases hends with
  | mismatched v hv hop =>
    exact ⟨Tree.mem_mismatches.mpr ⟨b, mem_of_arrives h harrives, hop, rfl⟩, rfl, rfl⟩

theorem evaluate_of_mismatch (harrives : tree.Arrives now subject b)
    (hop : b.decision.op.accepts b.decision.tested = false) :
    tree.evaluate now subject = .error (.rejected
      (match now.get? subject b.decision.tested.identifier with
        | some _ => .shapeViolation b.decision.op b.decision.tested
        | none => .missingValue subject b.decision.tested.identifier)) := by
  refine Tree.evaluate_of_fails harrives ?_
  have hends := ends_of_arrives hstore h hlater harrives
  generalize b.decision.holds now subject = r at hends
  cases hends with
  | missing hv => rw [hv]
  | mismatched v hv _ => rw [hv]
  | made c held _ haccepts _ => cases hop.symm.trans haccepts
  | misread c f _ haccepts _ _ => cases hop.symm.trans haccepts
  | broken c f _ haccepts _ _ => cases hop.symm.trans haccepts

end Compiled

/-- The mismatches that are found by looking at a compiled tree are those that evaluations run into,
however the store has changed since. -/
theorem analyze_checks_shapes (hstore : store.Reached)
    (h : (compile t store baseUri).tree = .ok tree) :
    (∀ table, table = none ∨ table = some t → ∃ report, tree.analyze table = .ok report) ∧
    ∀ table report now, tree.analyze table = .ok report →
      (compile t store baseUri).store.Later now → tree.ShapesChecked report now := by
  refine ⟨?_, ?_⟩
  · intro table htable
    refine Tree.exists_analysis ?_
    intro t' ht'
    rcases htable with rfl | rfl
    · cases ht'
    · obtain rfl := Option.some.inj ht'
      exact (compile_eq_ok h).1.headings nodeHeading (by decide)
  · intro table report now hreport hlater
    have hmismatches := Tree.mismatches_analyze hreport
    have hnamed : ∀ subject op a,
        tree.evaluate now subject = .error (.rejected (.shapeViolation op a)) →
        ∃ b : Branch, tree.Arrives now subject b ∧
          b.decision.holds now subject = .error (.rejected (.shapeViolation op a)) ∧
          ⟨b.id, b.decision⟩ ∈ report.mismatches ∧ b.decision.op = op ∧ b.decision.tested = a := by
      intro subject op a hfails
      rw [hmismatches]
      exact mismatch_of_shapeViolation hstore h hlater hfails
    refine ⟨hnamed, ?_, ?_⟩
    · intro subject b harrives hid
      rw [hmismatches] at hid
      have hop := accepts_eq_false_of_named h (mem_of_arrives h harrives) hid
      exact evaluate_of_mismatch hstore h hlater harrives hop
    · intro hclean subject op a hfails
      obtain ⟨b, _, _, hmem, _⟩ := hnamed subject op a hfails
      rw [hclean] at hmem
      cases hmem

/-- The report names the row `peer`. With a high score and friends an evaluation violates the shape
there, and without friends it lacks a value. -/
theorem analyze_checks_shapes_unsuited :
    ∃ tree report now, (compile Example.unsuited Example.emptyStore "").tree = .ok tree ∧
      tree.analyze (some Example.unsuited) = .ok report ∧
      report.mismatches.map (·.node) = ["peer"] ∧
      (compile Example.unsuited Example.emptyStore "").store.Later now ∧
      tree.ShapesChecked report now ∧
      tree.evaluate now (.named "ann")
        = .error (.rejected (.shapeViolation (.order .eq) ⟨"#friends", .multi, .reference⟩)) ∧
      tree.evaluate now (.named "bob")
        = .error (.rejected (.missingValue (.named "bob") "#friends")) := by
  let store : Store := { Example.emptyStore with resolved := ["#friends", "#score"] }
  let friends : Entry := ⟨.named "ann", "#friends", .group [.text "bob"]⟩
  let high : Entry := ⟨.named "ann", "#score", .int 95⟩
  let middle : Entry := ⟨.named "bob", "#score", .int 60⟩
  have hstore : (compile Example.unsuited Example.emptyStore "").store = store :=
    compile_store_eq (by decide +kernel)
  have hfriends : Store.Change store { store with entries := [friends] } :=
    .set (.named "ann") "#friends" (.list [.text "bob"]) rfl
  have hhigh : Store.Change { store with entries := [friends] }
      { store with entries := [high, friends] } :=
    .set (.named "ann") "#score" (.int 95) rfl
  have hmiddle : Store.Change { store with entries := [high, friends] }
      { store with entries := [middle, high, friends] } :=
    .set (.named "bob") "#score" (.int 60) rfl
  have hlater : (compile Example.unsuited Example.emptyStore "").store.Later
      { store with entries := [middle, high, friends] } := by
    rw [hstore]
    exact ((Relation.ReflTransGen.single hfriends).tail hhigh).tail hmiddle
  have hvalues : (compile Example.unsuited Example.emptyStore "").tree.map
      (fun tree => (tree.mismatches.map (·.node),
        tree.evaluate { store with entries := [middle, high, friends] } (.named "ann"),
        tree.evaluate { store with entries := [middle, high, friends] } (.named "bob")))
      = .ok (["peer"],
        .error (.rejected (.shapeViolation (.order .eq) ⟨"#friends", .multi, .reference⟩)),
        .error (.rejected (.missingValue (.named "bob") "#friends"))) := by decide +kernel
  obtain ⟨tree, htree, hfields⟩ := exists_tree hvalues
  obtain ⟨hmismatches, hann, hbob⟩ : _ ∧ _ ∧ _ := by simpa only [Prod.mk.injEq] using hfields
  obtain ⟨hreports, hchecked⟩ := analyze_checks_shapes Example.reached_emptyStore htree
  obtain ⟨report, hreport⟩ := hreports (some Example.unsuited) (Or.inr rfl)
  refine ⟨tree, report, _, htree, hreport, ?_, hlater, hchecked _ _ _ hreport hlater, hann, hbob⟩
  rw [Tree.mismatches_analyze hreport]
  exact hmismatches

end DecisionTable
