import DecisionTable.Proofs.Compile.Cells
import DecisionTable.Proofs.Loop

/-!
# The order of a walk

A walk from the root is the depth-first preorder: a node is visited unless it has been visited
before, then what follows it on the true side, then what follows it on the false side. That a walk
tells branches by their ids, and does not look leaves up at all, makes no difference in a compiled
tree. A loop with a stack, on which a node may wait several times, comes to the same order.
-/

namespace DecisionTable

open Relation

deriving instance DecidableEq for Node

namespace Node

/-- What has been met when a node is visited after other nodes, in the order of the visits. -/
def preorder : Node → List Node → List Node
  | .leaf id l, met => if .leaf id l ∈ met then met else met ++ [.leaf id l]
  | .branch id d t f, met =>
    if .branch id d t f ∈ met then met
    else f.preorder (t.preorder (met ++ [.branch id d t f]))

/-- The nodes that follow a node, that of the true side first. -/
def following : Node → List Node
  | .leaf .. => []
  | .branch _ _ t f => [t, f]

variable {known : List Branch} {seen : List String} {met stack : List Node} {n : Node}

theorem preorder_of_met (h : n ∈ met) : n.preorder met = met := by
  cases n with
  | leaf id l => simp only [preorder, if_pos h]
  | branch id d t f => simp only [preorder, if_pos h]

theorem preorder_leaf {id : String} {l : TypedLiteral} (h : leaf id l ∉ met) :
    (leaf id l).preorder met = met ++ [leaf id l] := by
  simp only [preorder, if_neg h]

theorem preorder_branch {id : String} {d : Decision} {t f : Node} (h : branch id d t f ∉ met) :
    (branch id d t f).preorder met = f.preorder (t.preorder (met ++ [branch id d t f])) := by
  simp only [preorder, if_neg h]

theorem nodup_append_singleton (h : met.Nodup) (hn : n ∉ met) : (met ++ [n]).Nodup := by
  rw [← List.concat_eq_append]
  exact h.concat hn

theorem nodup_preorder (n : Node) (h : met.Nodup) : (n.preorder met).Nodup := by
  induction n generalizing met with
  | leaf id l =>
    by_cases hmet : leaf id l ∈ met
    · rw [preorder_of_met hmet]
      exact h
    · rw [preorder_leaf hmet]
      exact nodup_append_singleton h hmet
  | branch id d t f iht ihf =>
    by_cases hmet : branch id d t f ∈ met
    · rw [preorder_of_met hmet]
      exact h
    · rw [preorder_branch hmet]
      exact ihf (iht (nodup_append_singleton h hmet))

/-! ### Walks and the preorder -/

/-- What a walk of ids and a visit of nodes have come to when the same nodes wait for both. -/
structure Matched (known : List Branch) (seen : List String) (met stack : List Node) : Prop where
  within : ∀ n ∈ stack, n.Within known
  /-- A branch has been met if its id has been seen. -/
  branches : ∀ b ∈ known, b.node ∈ met ↔ b.id ∈ seen
  /-- The leaves that wait belong to branches that have been seen, each of them once. -/
  waiting : Waiting seen (leafIds stack)
  /-- So do the leaves that have been met, and they do not wait any more. -/
  leaves : ∀ id l, leaf id l ∈ met →
    id ∉ leafIds stack ∧ ∃ p ∈ seen, ∃ side, id = leafId p side

theorem Matched.leaf_notMem {id : String} {l : TypedLiteral}
    (h : Matched known seen met (leaf id l :: stack)) : leaf id l ∉ met := by
  intro hmem
  exact (h.leaves id l hmem).1 (List.mem_cons_self ..)

theorem Matched.leaf {id : String} {l : TypedLiteral}
    (h : Matched known seen met (leaf id l :: stack)) :
    Matched known seen (met ++ [.leaf id l]) stack := by
  have hwaiting := h.waiting
  rw [leafIds_leaf] at hwaiting
  obtain ⟨hnew, hnodup⟩ := List.nodup_cons.mp hwaiting.nodup
  refine ⟨fun n hn => h.within n (List.mem_cons_of_mem _ hn), ?_, ?_, ?_⟩
  · intro b hb
    rw [List.mem_append, h.branches b hb, List.mem_singleton]
    constructor
    · intro hmem
      exact hmem.resolve_right nofun
    · exact Or.inl
  · exact ⟨hnodup, fun other hother => hwaiting.parent other (List.mem_cons_of_mem _ hother)⟩
  · intro other m hmem
    rcases List.mem_append.mp hmem with hbefore | hnow
    · obtain ⟨hnot, hparent⟩ := h.leaves other m hbefore
      exact ⟨fun hlater => hnot (List.mem_cons_of_mem _ hlater), hparent⟩
    · obtain ⟨rfl, rfl⟩ := Node.leaf.inj (List.mem_singleton.mp hnow)
      exact ⟨hnew, hwaiting.parent _ (List.mem_cons_self ..)⟩

theorem Matched.skip {b : Branch} (h : Matched known seen met (b.node :: stack)) :
    Matched known seen met stack :=
  ⟨fun n hn => h.within n (List.mem_cons_of_mem _ hn), h.branches, h.waiting, h.leaves⟩

theorem Matched.branch {b : Branch} (hf : Branch.Family known)
    (hnames : ∀ b ∈ known, b.NamesLeaves) (hfresh : b.id ∉ seen)
    (h : Matched known seen met (b.node :: stack)) :
    Matched known (b.id :: seen) (met ++ [b.node]) (b.onTrue :: b.onFalse :: stack) := by
  have hfirst : b.node.Within known := h.within _ (List.mem_cons_self ..)
  have hb : b ∈ known := mem_of_within hfirst
  refine ⟨?_, ?_, ?_, ?_⟩
  · exact forall_next (within_child hf) hfirst fun m hm => h.within m (List.mem_cons_of_mem _ hm)
  · intro d hd
    rw [List.mem_append, h.branches d hd, List.mem_singleton, List.mem_cons]
    constructor
    · rintro (hbefore | hnow)
      · exact Or.inr hbefore
      · exact Or.inl (congrArg Branch.id (Branch.node_injective hnow))
    · rintro (hid | hbefore)
      · rw [hf.unique d hd b hb hid]
        exact Or.inr rfl
      · exact Or.inl hbefore
  · exact Waiting.push (hnames b hb) hfresh h.waiting
  · intro id l hmem
    rcases List.mem_append.mp hmem with hbefore | hnow
    · obtain ⟨hnot, p, hp, side, hname⟩ := h.leaves id l hbefore
      refine ⟨?_, p, List.mem_cons_of_mem _ hp, side, hname⟩
      intro hlater
      rcases mem_leafIds_children (hnames b hb) hlater with ⟨side', hname'⟩ | hlater
      · -- a leaf of this branch has not been met, as the branch itself has not been seen
        rw [(leafId_inj (hname.symm.trans hname')).1] at hp
        exact hfresh hp
      · exact hnot hlater
    · cases List.mem_singleton.mp hnow

/-- Visiting the nodes of a stack one after the other meets what a walk visits. -/
theorem foldl_preorder (hf : Branch.Family known) (hnames : ∀ b ∈ known, b.NamesLeaves)
    (h : Matched known seen met stack) :
    stack.foldl (fun met n => n.preorder met) met = met ++ visit seen stack := by
  fun_induction visit seen stack generalizing met with
  | case1 seen => simp
  | case2 seen id l rest ih =>
    rw [List.foldl_cons, preorder_leaf h.leaf_notMem, ih h.leaf, List.append_assoc]
    rfl
  | case3 seen id d t f rest hseen ih =>
    let b : Branch := ⟨id, d, t, f⟩
    have hb : b ∈ known := mem_of_within (h.within b.node (List.mem_cons_self ..))
    have hmet : branch id d t f ∈ met := (h.branches b hb).mpr (List.contains_iff_mem.mp hseen)
    rw [List.foldl_cons, preorder_of_met hmet]
    exact ih (Matched.skip (b := b) h)
  | case4 seen id d t f rest hseen ih =>
    let b : Branch := ⟨id, d, t, f⟩
    have hfresh : b.id ∉ seen := fun hmem => hseen (List.contains_iff_mem.mpr hmem)
    have hb : b ∈ known := mem_of_within (h.within b.node (List.mem_cons_self ..))
    have hnot : branch id d t f ∉ met := fun hmem => hfresh ((h.branches b hb).mp hmem)
    have hnext := ih (Matched.branch (b := b) hf hnames hfresh h)
    rw [List.foldl_cons, List.foldl_cons, List.append_assoc] at hnext
    rw [List.foldl_cons, preorder_branch hnot]
    exact hnext

end Node

/-! ### A loop with a stack -/

/-- What a loop has met so far, in the order in which it did, and what waits on its stack. -/
structure Walker where
  met : List Node := []
  /-- The node that is to be looked at next comes first. -/
  stack : List Node

namespace Walker

/-- A node is taken from the stack. Unless it has been met it is met now, and the nodes that follow
it are put on the stack, the true side on top. -/
def turn : Walker → Option Walker
  | ⟨_, []⟩ => none
  | ⟨met, n :: rest⟩ =>
    if n ∈ met then some ⟨met, rest⟩ else some ⟨met ++ [n], n.following ++ rest⟩

variable {met rest : List Node} {n : Node}

theorem turn_of_met (h : n ∈ met) : turn ⟨met, n :: rest⟩ = some ⟨met, rest⟩ := by
  simp only [turn, if_pos h]

theorem turn_of_fresh (h : n ∉ met) :
    turn ⟨met, n :: rest⟩ = some ⟨met ++ [n], n.following ++ rest⟩ := by
  simp only [turn, if_neg h]

/-- The loop visits the node on top of the stack before it looks at the others. Each branch that it
meets costs two further turns, one for each node that is put on the stack. -/
theorem turns_preorder (n : Node) (met rest : List Node) :
    ∃ k, Loop.turns turn k ⟨met, n :: rest⟩ = some ⟨n.preorder met, rest⟩ ∧
      k + 2 * (Node.branchesOn met).length
        = 1 + 2 * (Node.branchesOn (n.preorder met)).length := by
  induction n generalizing met rest with
  | leaf id l =>
    refine ⟨1, ?_⟩
    by_cases hmet : Node.leaf id l ∈ met
    · rw [Node.preorder_of_met hmet]
      exact ⟨Loop.turns_one (turn_of_met hmet), rfl⟩
    · rw [Node.preorder_leaf hmet]
      refine ⟨Loop.turns_one (turn_of_fresh hmet), ?_⟩
      have hnone : (Node.branchesOn (met ++ [Node.leaf id l])).length
          = (Node.branchesOn met).length := by
        simp [Node.branchesOn, Node.branch?, List.filterMap_append]
      omega
  | branch id d t f iht ihf =>
    by_cases hmet : Node.branch id d t f ∈ met
    · refine ⟨1, ?_⟩
      rw [Node.preorder_of_met hmet]
      exact ⟨Loop.turns_one (turn_of_met hmet), rfl⟩
    · obtain ⟨i, htrue, hi⟩ := iht (met ++ [Node.branch id d t f]) (f :: rest)
      obtain ⟨j, hfalse, hj⟩ := ihf (t.preorder (met ++ [Node.branch id d t f])) rest
      have hfirst : Loop.turns turn 1 ⟨met, Node.branch id d t f :: rest⟩
          = some ⟨met ++ [Node.branch id d t f], t :: f :: rest⟩ :=
        Loop.turns_one (turn_of_fresh hmet)
      have hone : (Node.branchesOn (met ++ [Node.branch id d t f])).length
          = (Node.branchesOn met).length + 1 := by
        simp [Node.branchesOn, Node.branch?]
      rw [Node.preorder_branch hmet]
      refine ⟨1 + i + j, Loop.turns_add (Loop.turns_add hfirst htrue) hfalse, ?_⟩
      omega

end Walker

/-! ### Compiled trees -/

namespace Tree

/-- A walk through a tree is the depth-first preorder of the nodes that the root leads to. -/
structure WalkedInPreorder (tree : Tree) (t : Table) : Prop where
  /-- It comes to what the recursion comes to. -/
  recursion : tree.nodes = tree.root.preorder []
  /-- So does the loop, and then nothing waits on its stack. -/
  loop : Loop.turns Walker.turn (2 * tree.branches.length + 1) ⟨[], [tree.root]⟩
    = some ⟨tree.nodes, []⟩
  first : tree.nodes.head? = some tree.root
  once : tree.nodes.Nodup
  reached : ∀ n, n ∈ tree.nodes ↔ ReflTransGen Node.Leads tree.root n
  /-- The branches are those of the tree, each once. -/
  branches : tree.visitedBranches.Perm tree.branches ∧ tree.visitedBranches.Nodup
  /-- Each branch is followed by two nodes, and those that are no leaves are referred to. -/
  leaves : tree.leaves.length + (t.outcomeCells (· ≠ none)).card = 2 * tree.branches.length

end Tree

variable {t : Table} {store : Store} {baseUri : String} {tree : Tree}

theorem Source.Complete.matched {src : Source} {type : LiteralType} {compiled : List Branch}
    {root : Branch} (h : src.Complete store type compiled root) :
    Node.Matched compiled [] [] [root.node] := by
  refine ⟨?_, ?_, ⟨List.nodup_nil, nofun⟩, nofun⟩
  · intro n hn
    rw [List.mem_singleton.mp hn]
    exact .branch root h.root_mem
  · intro b _
    simp

theorem compile_walk (h : (compile t store baseUri).tree = .ok tree) :
    tree.WalkedInPreorder t := by
  obtain ⟨ht, compiled, root, type, hcomplete, htree, _⟩ := compile_eq_ok h
  have hroot : tree.root = root.node := by rw [htree]
  have hnodes : tree.nodes = tree.root.preorder [] := by
    have hfold := Node.foldl_preorder hcomplete.family (fun b hb => hcomplete.namesLeaves hb)
      hcomplete.matched
    rw [← hroot] at hfold
    exact hfold.symm
  have honce : tree.nodes.Nodup := by
    rw [hnodes]
    exact Node.nodup_preorder tree.root List.nodup_nil
  have hvisited : tree.visitedBranches.Nodup := Node.nodup_branchesOn honce
  have hperm : tree.visitedBranches.Perm tree.branches := by
    refine (List.perm_ext_iff_of_nodup hvisited ?_).mpr ?_
    · exact (renders_of_compile h).1.distinct.of_map
    · intro b
      rw [Tree.mem_visitedBranches, Tree.mem_branches_iff h]
  refine ⟨hnodes, ?_, ?_, honce, ?_, ⟨hperm, hvisited⟩, ?_⟩
  · obtain ⟨k, hturns, hk⟩ := Walker.turns_preorder tree.root [] []
    rw [← hnodes] at hturns hk
    have hcount : k = 2 * tree.branches.length + 1 := by
      have hlength : (Node.branchesOn tree.nodes).length = tree.branches.length := hperm.length_eq
      have hnone : (Node.branchesOn []).length = 0 := rfl
      omega
    rw [← hcount]
    exact hturns
  · rw [Tree.nodes, hroot, Branch.node, Node.visit]
    rfl
  · intro n
    exact Tree.mem_nodes_iff_leads h
  · rw [Tree.length_leaves h]
    exact Tree.card_outcomeCells_add (renders_of_compile h).1 ht

/-- The row to which two other rows refer is met once, after the rows that refer to it. -/
theorem compile_walk_sharing :
    ∃ tree, (compile Example.sharing Example.emptyStore "urn:grade").tree = .ok tree ∧
      tree.WalkedInPreorder Example.sharing ∧
      tree.nodes.map Node.id
        = ["root", "high", "Leaf_high_T", "rest", "Leaf_rest_T", "Leaf_rest_F"] := by
  have hvalue : (compile Example.sharing Example.emptyStore "urn:grade").tree.map
      (fun tree => (tree.root.preorder []).map Node.id)
        = .ok ["root", "high", "Leaf_high_T", "rest", "Leaf_rest_T", "Leaf_rest_F"] := by
    decide +kernel
  obtain ⟨tree, htree, hids⟩ := exists_tree hvalue
  have hwalk := compile_walk htree
  refine ⟨tree, htree, hwalk, ?_⟩
  rw [hwalk.recursion]
  exact hids

end DecisionTable
