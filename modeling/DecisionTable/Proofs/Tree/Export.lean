import DecisionTable.Example
import DecisionTable.Proofs.Compile.Shape
import DecisionTable.Proofs.Json.Sorted
import DecisionTable.Proofs.Operator.Spelling
import DecisionTable.Proofs.Tree.Bisimulation
import DecisionTable.Tree.Export
import Mathlib.Tactic.TFAE

/-!
# Trees in JSON

The flat document of a tree loses nothing: trees with one document have the same branches in the
order of a walk, and branches that agree in their entries all along are the same tree. So trees are
equal when their texts are.
-/

namespace DecisionTable

theorem LiteralType.name_injective {a b : LiteralType} (h : a.name = b.name) : a = b := by
  cases a <;> cases b <;> first | rfl | exact absurd h (by decide)

theorem Cardinality.text_injective {a b : Cardinality} (h : a.text = b.text) : a = b := by
  cases a <;> cases b <;> first | rfl | exact absurd h (by decide)

theorem Kind.text_injective {a b : Kind} (h : a.text = b.text) : a = b := by
  cases a <;> cases b <;> first | rfl | exact absurd h (by decide)

/-! ### Documents -/

theorem leafNames_nodup : ["type", "id", "datatype", "value"].Nodup := by decide

theorem refNames_nodup : ["type", "id"].Nodup := by decide

theorem entryNames_nodup :
    ["id", "attribute", "cardinality", "kind", "operator", "operand", "true", "false"].Nodup := by
  decide

theorem treeNames_nodup : ["inferred_type", "base_uri", "root", "nodes"].Nodup := by decide

theorem Node.plain_toDocument (n : Node) : n.toDocument.Plain := by
  cases n with
  | leaf id l =>
    refine .object _ leafNames_nodup ?_
    simp only [List.forall_mem_cons, List.not_mem_nil, false_imp_iff, implies_true, and_true]
    exact ⟨.string _, .string _, .string _, .string _⟩
  | branch id d t f =>
    refine .object _ refNames_nodup ?_
    simp only [List.forall_mem_cons, List.not_mem_nil, false_imp_iff, implies_true, and_true]
    exact ⟨.string _, .string _⟩

theorem Branch.plain_toDocument (b : Branch) : b.toDocument.Plain := by
  refine .object _ entryNames_nodup ?_
  simp only [List.forall_mem_cons, List.not_mem_nil, false_imp_iff, implies_true, and_true]
  exact ⟨.string _, .string _, .string _, .string _, .string _, .string _,
    b.onTrue.plain_toDocument, b.onFalse.plain_toDocument⟩

theorem Tree.plain_toDocument (tree : Tree) : tree.toDocument.Plain := by
  have hnodes : (Json.array (tree.visitedBranches.map Branch.toDocument)).Plain := by
    refine .array _ ?_
    intro j hj
    obtain ⟨b, _, rfl⟩ := List.mem_map.mp hj
    exact b.plain_toDocument
  refine .object _ treeNames_nodup ?_
  simp only [List.forall_mem_cons, List.not_mem_nil, false_imp_iff, implies_true, and_true]
  exact ⟨.string _, .string _, .string _, hnodes⟩

/-! ### Entries -/

/-- Nodes that appear alike in entries are one leaf, or branches of one id. -/
theorem Node.agree_of_toDocument {n m : Node}
    (h : n.toDocument.sortMembers = m.toDocument.sortMembers) :
    Node.Agree (fun b d => b.id = d.id) n m := by
  have halike : Json.Alike n.toDocument m.toDocument :=
    ⟨n.plain_toDocument, m.plain_toDocument, h⟩
  cases n with
  | leaf i l =>
    cases m with
    | leaf j k =>
      have hid : i = j := halike.string "id" rfl rfl
      have htype : l.type = k.type := LiteralType.name_injective (halike.string "datatype" rfl rfl)
      have hvalue : l.value = k.value := halike.string "value" rfl rfl
      have hliteral : l = k := by
        cases l
        cases k
        rw [TypedLiteral.mk.injEq]
        exact ⟨htype, hvalue⟩
      rw [hid, hliteral]
      exact .leaf j k
    | branch j d t f =>
      have htype : "leaf" = "ref" := halike.string "type" rfl rfl
      exact absurd htype (by decide)
  | branch i d t f =>
    cases m with
    | leaf j k =>
      have htype : "ref" = "leaf" := halike.string "type" rfl rfl
      exact absurd htype (by decide)
    | branch j e u g =>
      have hid : i = j := halike.string "id" rfl rfl
      exact .branch ⟨i, d, t, f⟩ ⟨j, e, u, g⟩ hid

/-- Branches of one entry agree, if the nodes that follow them are told by their ids. -/
theorem Branch.agree_of_toDocument {b d : Branch}
    (h : b.toDocument.sortMembers = d.toDocument.sortMembers) :
    Branch.Agree (fun b d => b.id = d.id) b d := by
  have halike : Json.Alike b.toDocument d.toDocument :=
    ⟨b.plain_toDocument, d.plain_toDocument, h⟩
  have htested : b.decision.tested = d.decision.tested := by
    have hidentifier := halike.string "attribute" rfl rfl
    have hcardinality := Cardinality.text_injective (halike.string "cardinality" rfl rfl)
    have hkind := Kind.text_injective (halike.string "kind" rfl rfl)
    generalize b.decision.tested = a at hidentifier hcardinality hkind ⊢
    generalize d.decision.tested = a' at hidentifier hcardinality hkind ⊢
    cases a
    cases a'
    rw [Attribute.mk.injEq]
    exact ⟨hidentifier, hcardinality, hkind⟩
  have hop := Operator.spelling_injective (halike.string "operator" rfl rfl)
  have hoperand := halike.string "operand" rfl rfl
  refine ⟨halike.string "id" rfl rfl, ?_, ?_⟩
  · generalize b.decision = x at htested hop hoperand ⊢
    generalize d.decision = y at htested hop hoperand ⊢
    cases x
    cases y
    rw [Decision.mk.injEq]
    exact ⟨htested, hop, hoperand⟩
  · intro side
    cases side with
    | onTrue => exact Node.agree_of_toDocument (Option.some.inj (halike.member "true"))
    | onFalse => exact Node.agree_of_toDocument (Option.some.inj (halike.member "false"))

/-! ### Trees -/

namespace Tree

variable {tree tree' : Tree} {known known' : List Branch} {b d : Branch}

/-- Branches of two trees that have one id. -/
structure Namesakes (tree tree' : Tree) (b d : Branch) : Prop where
  left : b ∈ tree.visitedBranches
  right : d ∈ tree'.visitedBranches
  id : b.id = d.id

/-- In trees of one document each branch has its counterpart, with the same entry. -/
theorem exists_entry_of_nodes
    (h : (Json.array (tree.visitedBranches.map Branch.toDocument)).sortMembers
      = (Json.array (tree'.visitedBranches.map Branch.toDocument)).sortMembers)
    (hb : b ∈ tree.visitedBranches) :
    ∃ d ∈ tree'.visitedBranches, b.toDocument.sortMembers = d.toDocument.sortMembers := by
  rw [Json.sortMembers, Json.sortMembers, Json.sortEach_eq, Json.sortEach_eq, Json.array.injEq,
    List.map_map, List.map_map] at h
  have hmem := List.mem_map_of_mem (f := Json.sortMembers ∘ Branch.toDocument) hb
  rw [h] at hmem
  obtain ⟨d, hd, hsame⟩ := List.mem_map.mp hmem
  exact ⟨d, hd, hsame.symm⟩

/-- In trees of one document branches of one id agree. -/
theorem Namesakes.agree (hf : Branch.Family known) (hroot : tree.root.Within known)
    (hf' : Branch.Family known') (hroot' : tree'.root.Within known')
    (hentries : ∀ b ∈ tree.visitedBranches, ∃ d ∈ tree'.visitedBranches,
      b.toDocument.sortMembers = d.toDocument.sortMembers)
    (h : Namesakes tree tree' b d) : Branch.Agree (Namesakes tree tree') b d := by
  obtain ⟨e, he, hentry⟩ := hentries b h.left
  have hagree := Branch.agree_of_toDocument hentry
  have hsame : e = d :=
    List.inj_on_of_nodup_map tree'.visitedBranches_nodup he h.right (hagree.id.symm.trans h.id)
  rw [hsame] at hagree
  refine ⟨hagree.id, hagree.decision, ?_⟩
  intro side
  have hmet := (nodes_meet hf hroot).2 b (mem_visitedBranches.mp h.left) side
  have hmet' := (nodes_meet hf' hroot').2 d (mem_visitedBranches.mp h.right) side
  have hnodes := hagree.child side
  generalize b.child side = n at hmet hnodes
  generalize d.child side = m at hmet' hnodes
  cases hnodes with
  | leaf id l => exact .leaf id l
  | branch c c' hcc =>
    exact .branch c c' ⟨mem_visitedBranches.mpr hmet, mem_visitedBranches.mpr hmet', hcc⟩

theorem root_eq_of_entries (hf : Branch.Family known) (hroot : b.node.Within known)
    (hf' : Branch.Family known') (hroot' : d.node.Within known') (hb : tree.root = b.node)
    (hd : tree'.root = d.node) (hid : b.id = d.id)
    (hentries : ∀ b ∈ tree.visitedBranches, ∃ d ∈ tree'.visitedBranches,
      b.toDocument.sortMembers = d.toDocument.sortMembers) : tree.root = tree'.root := by
  have hmem : b ∈ tree.visitedBranches := List.mem_of_head? (visitedBranches_head hb)
  have hmem' : d ∈ tree'.visitedBranches := List.mem_of_head? (visitedBranches_head hd)
  have hagree : ∀ c e, Namesakes tree tree' c e → Branch.Agree (Namesakes tree tree') c e :=
    fun c e hce => hce.agree hf (hb ▸ hroot) hf' (hd ▸ hroot') hentries
  have hsame : b = d := Branch.eq_of_agree hagree ⟨hmem, hmem', hid⟩
  rw [hb, hd, hsame]

end Tree

variable {t t' : Table} {store store' : Store} {baseUri baseUri' : String} {tree tree' : Tree}

/-- Compiled trees are found equal when they are the same tree of ids, decisions and outcomes, and
when they are written alike. -/
theorem compile_same_tfae (h : (compile t store baseUri).tree = .ok tree)
    (h' : (compile t' store' baseUri').tree = .ok tree') :
    [tree.same tree' = true,
      tree.root = tree'.root ∧ tree.inferredType = tree'.inferredType ∧
        tree.baseUri = tree'.baseUri,
      tree.toJson = tree'.toJson].TFAE := by
  obtain ⟨known, root, hf, hroot, hwithin⟩ := exists_family h
  obtain ⟨known', root', hf', hroot', hwithin'⟩ := exists_family h'
  tfae_have 1 → 2 := by
    intro hsame
    rw [Tree.same, Bool.and_eq_true, Bool.and_eq_true, beq_iff_eq, beq_iff_eq] at hsame
    obtain ⟨⟨hnodes, htype⟩, hbase⟩ := hsame
    exact ⟨Node.eq_of_same hf hf' (hroot ▸ hwithin) (hroot' ▸ hwithin') hnodes, htype, hbase⟩
  tfae_have 2 → 3 := by
    rintro ⟨hnodes, htype, hbase⟩
    have hvisited : tree.visitedBranches = tree'.visitedBranches := by
      rw [Tree.visitedBranches, Tree.visitedBranches, Tree.nodes, Tree.nodes, hnodes]
    rw [Tree.toJson, Tree.toJson, Tree.toDocument, Tree.toDocument, hvisited, hnodes, htype, hbase]
  tfae_have 3 → 1 := by
    intro htext
    have halike : Json.Alike tree.toDocument tree'.toDocument :=
      ⟨tree.plain_toDocument, tree'.plain_toDocument,
        Json.print_injective tree.plain_toDocument.sortMembers
          tree'.plain_toDocument.sortMembers htext⟩
    have hnodes := halike.member "nodes"
    have hid : root.id = root'.id := by
      have hids : tree.root.id = tree'.root.id := halike.string "root" rfl rfl
      rw [hroot, hroot'] at hids
      exact hids
    have htype := LiteralType.name_injective (halike.string "inferred_type" rfl rfl)
    have hbase : tree.baseUri = tree'.baseUri := halike.string "base_uri" rfl rfl
    have hroots := Tree.root_eq_of_entries hf hwithin hf' hwithin' hroot hroot' hid
      fun b hb => Tree.exists_entry_of_nodes (Option.some.inj hnodes) hb
    rw [Tree.same, hroots, htype, hbase, Node.same_self, beq_self_eq_true, beq_self_eq_true]
    rfl
  tfae_finish

theorem compile_same_tfae_spread :
    ∃ tree tree', (compile Example.sharing Example.emptyStore "urn:grade").tree = .ok tree ∧
      (compile Example.spread Example.emptyStore "urn:grade").tree = .ok tree' ∧
      tree.same tree' = true ∧ tree.root = tree'.root ∧ tree.toJson = tree'.toJson := by
  have hvalue : (compile Example.sharing Example.emptyStore "urn:grade").tree.map
      (fun tree => (compile Example.spread Example.emptyStore "urn:grade").tree.map
        fun tree' => tree.same tree') = .ok (.ok true) := by decide +kernel
  obtain ⟨tree, htree, hvalue'⟩ := exists_tree hvalue
  obtain ⟨tree', htree', hsame⟩ := exists_tree hvalue'
  have hall := compile_same_tfae htree htree'
  have hroots := (hall.out 0 1).mp hsame
  exact ⟨tree, tree', htree, htree', hsame, hroots.1, (hall.out 0 2).mp hsame⟩

end DecisionTable
