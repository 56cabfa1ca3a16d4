import DecisionTable.Proofs.Diagram.Graph
import DecisionTable.Proofs.Names
import Mathlib.Data.List.Perm.Subperm

/-!
# What a diagram depicts

The graph that is read from a diagram has the nodes of the tree and the two edges of each branch,
unless the names of nodes get in the way. A branch can have a word of the language for its id, the id
of a leaf, or the id of another branch save for a line break.
-/

namespace DecisionTable

open Dot

namespace Dot

variable {mode : DiagramMode} {n : Node} {nodes : List Node} {source target label : String}

/-! ### Statements of nodes and edges -/

def nodeStatement (mode : DiagramMode) (n : Node) : Statement :=
  .node (idName n.id)
    ((if n.isLeaf then [("shape", "box")] else []) ++ [("label", shown (Diagram.label mode n))])

/-- The edges that leave a node. -/
def edgesOf : Node → List Edge
  | .leaf .. => []
  | .branch id _ t f => [⟨idName id, idName t.id, [("label", "true")]⟩,
      ⟨idName id, idName f.id, [("label", "false")]⟩]

def edgeStatement (e : Edge) : Statement :=
  .edge e.source e.target e.attributes

theorem statement?_nodeBlock (h : ¬ IsReserved n.id) :
    statement? (nodeBlock mode n) = some (nodeStatement mode n) := by
  cases hleaf : n.isLeaf <;>
    simp [nodeBlock, nodeStatement, idToken_eq_name h, hleaf, statement?, attributes?]

theorem statement?_edgeBlock (h : ¬ IsReserved source) (h' : ¬ IsReserved target) :
    statement? (edgeBlock source target label)
      = some (.edge (idName source) (idName target) [("label", label)]) := by
  simp [edgeBlock, idToken_eq_name h, idToken_eq_name h', statement?, attributes?]

/-- No edge leaves a word of the language. -/
theorem statement?_reserved (h : IsReserved source) :
    statement? (edgeBlock source target label) = none := by
  obtain ⟨word, hword⟩ := idToken_eq_keyword h
  simp [edgeBlock, hword, statement?]

section Option

variable {α β γ : Type} {f : β → Option γ} {l : List β}

theorem mapM_flatMap_eq_some {l : List α} {g : α → List β} {k : α → List γ}
    (h : ∀ a ∈ l, (g a).mapM f = some (k a)) : (l.flatMap g).mapM f = some (l.flatMap k) := by
  induction l with
  | nil => rfl
  | cons a l ih =>
    rw [List.flatMap_cons, List.mapM_append, h a (List.mem_cons_self ..),
      ih fun b hb => h b (List.mem_cons_of_mem _ hb), List.flatMap_cons]
    rfl

theorem mapM_eq_none {b : β} (hb : b ∈ l) (h : f b = none) : l.mapM f = none := by
  induction l with
  | nil => cases hb
  | cons c l ih =>
    rw [List.mapM_cons]
    rcases List.mem_cons.mp hb with rfl | hb
    · rw [h]
      rfl
    · rw [ih hb]
      cases f c <;> rfl

end Option

/-- The statements of a diagram. -/
def statements (mode : DiagramMode) (nodes : List Node) : List Statement :=
  [.defaults [("shape", "diamond"), ("fontname", "Helvetica")],
      .defaults [("fontname", "Helvetica")]]
    ++ nodes.map (nodeStatement mode) ++ (nodes.flatMap edgesOf).map edgeStatement

theorem mapM_edgeBlocks (h : ∀ n ∈ nodes, ¬ IsReserved n.id)
    (hchild : ∀ b : Branch, b.node ∈ nodes → ∀ side, b.child side ∈ nodes) (hn : n ∈ nodes) :
    (edgeBlocks n).mapM statement? = some ((edgesOf n).map edgeStatement) := by
  cases n with
  | leaf id l => rfl
  | branch id d t f =>
    let b : Branch := ⟨id, d, t, f⟩
    have hsource : ¬ IsReserved id := h b.node hn
    have htrue : ¬ IsReserved t.id := h t (hchild b hn .onTrue)
    have hfalse : ¬ IsReserved f.id := h f (hchild b hn .onFalse)
    simp only [edgeBlocks, List.mapM_cons, List.mapM_nil, statement?_edgeBlock hsource htrue,
      statement?_edgeBlock hsource hfalse]
    rfl

theorem mapM_blocks (mode : DiagramMode) (h : ∀ n ∈ nodes, ¬ IsReserved n.id)
    (hchild : ∀ b : Branch, b.node ∈ nodes → ∀ side, b.child side ∈ nodes) :
    (blocks mode nodes).mapM statement? = some (statements mode nodes) := by
  have hheader : headerBlocks.mapM statement?
      = some [.defaults [("shape", "diamond"), ("fontname", "Helvetica")],
        .defaults [("fontname", "Helvetica")]] := rfl
  have hnodes : (nodes.map (nodeBlock mode)).mapM statement?
      = some (nodes.map (nodeStatement mode)) := by
    have hone : ∀ n ∈ nodes, [nodeBlock mode n].mapM statement? = some [nodeStatement mode n] := by
      intro n hn
      simp only [List.mapM_cons, List.mapM_nil, statement?_nodeBlock (h n hn)]
      rfl
    rw [List.map_eq_flatMap, List.map_eq_flatMap]
    exact mapM_flatMap_eq_some hone
  have hedges : (nodes.flatMap edgeBlocks).mapM statement?
      = some ((nodes.flatMap edgesOf).map edgeStatement) := by
    rw [List.map_flatMap]
    exact mapM_flatMap_eq_some fun n hn => mapM_edgeBlocks h hchild hn
  rw [blocks, List.mapM_append, List.mapM_append, hheader, hnodes, hedges]
  rfl

theorem mapM_blocks_reserved {b : Branch} (mode : DiagramMode) (hb : b.node ∈ nodes)
    (h : IsReserved b.id) : (blocks mode nodes).mapM statement? = none := by
  have hmem : edgeBlock b.id b.onTrue.id "true" ∈ blocks mode nodes := by
    have hfirst : edgeBlock b.id b.onTrue.id "true" ∈ edgeBlocks b.node := List.mem_cons_self ..
    exact List.mem_append_right _ (List.mem_flatMap.mpr ⟨b.node, hb, hfirst⟩)
  exact mapM_eq_none hmem (statement?_reserved h)

/-! ### Nodes and edges of the graph -/

theorem mem_eraseDups_append {names more : List String} (h : ∀ x ∈ more, x ∈ names) (x : String) :
    x ∈ (names ++ more).eraseDups ↔ x ∈ names := by
  rw [List.mem_eraseDups, List.mem_append]
  exact ⟨fun hx => hx.elim id (h x), Or.inl⟩

/-- The graph of a tree: its nodes by their names, and the edges of its branches. -/
def graphOf (mode : DiagramMode) (nodes : List Node) : Graph :=
  Graph.ofStatements (statements mode nodes)

theorem edges_graphOf (mode : DiagramMode) (nodes : List Node) :
    (graphOf mode nodes).edges = nodes.flatMap edgesOf := by
  have hedges : ∀ l : List Edge, (l.map edgeStatement).filterMap Statement.edge? = l := by
    intro l
    rw [List.filterMap_map]
    exact List.filterMap_some
  have hnodes : (nodes.map (nodeStatement mode)).filterMap Statement.edge? = [] := by
    rw [List.filterMap_map]
    exact List.filterMap_eq_nil_iff.mpr fun n _ => rfl
  unfold graphOf Graph.ofStatements statements
  simp only [List.filterMap_append, hnodes, hedges]
  rfl

/-- An edge leads from a branch to one of the nodes that follow it. -/
theorem exists_of_mem_edgesOf {e : Edge} (h : e ∈ edgesOf n) : ∃ (b : Branch) (side : Side),
    n = b.node ∧ e.source = idName b.id ∧ e.target = idName (b.child side).id := by
  cases n with
  | leaf id l => cases h
  | branch id d t f =>
    let b : Branch := ⟨id, d, t, f⟩
    simp only [edgesOf, List.mem_cons, List.not_mem_nil, or_false] at h
    rcases h with rfl | rfl
    · exact ⟨b, .onTrue, rfl, rfl, rfl⟩
    · exact ⟨b, .onFalse, rfl, rfl, rfl⟩

theorem mem_nodes_graphOf (mode : DiagramMode)
    (hchild : ∀ b : Branch, b.node ∈ nodes → ∀ side, b.child side ∈ nodes) (x : String) :
    x ∈ (graphOf mode nodes).nodes ↔ x ∈ nodes.map fun n => idName n.id := by
  have hnodes : (nodes.map (nodeStatement mode)).flatMap Statement.names
      = nodes.map fun n => idName n.id := by
    rw [List.flatMap_map, List.map_eq_flatMap]
    rfl
  have hedges : ∀ y ∈ ((nodes.flatMap edgesOf).map edgeStatement).flatMap Statement.names,
      y ∈ nodes.map fun n => idName n.id := by
    intro y hy
    simp only [List.mem_flatMap, List.mem_map] at hy
    obtain ⟨_, ⟨e, ⟨n, hn, he⟩, rfl⟩, hy⟩ := hy
    obtain ⟨b, side, rfl, hsource, htarget⟩ := exists_of_mem_edgesOf he
    simp only [edgeStatement, Statement.names, hsource, htarget, List.mem_cons, List.not_mem_nil,
      or_false] at hy
    have hid : b.node.id = b.id := rfl
    rcases hy with rfl | rfl
    · rw [← hid]
      exact List.mem_map_of_mem (f := fun n : Node => idName n.id) hn
    · exact List.mem_map_of_mem (f := fun n : Node => idName n.id) (hchild b hn side)
  unfold graphOf Graph.ofStatements statements
  rw [List.flatMap_append, List.flatMap_append, hnodes]
  exact mem_eraseDups_append hedges x

theorem nodup_nodes_graphOf (mode : DiagramMode) (nodes : List Node) :
    (graphOf mode nodes).nodes.Nodup :=
  nodup_eraseDups _

theorem read?_eq_some {tree : Tree} (mode : DiagramMode)
    (h : ∀ n ∈ tree.nodes, ¬ IsReserved n.id)
    (hchild : ∀ b : Branch, b.node ∈ tree.nodes → ∀ side, b.child side ∈ tree.nodes) :
    read? (tree.diagram mode) = some (graphOf mode tree.nodes) := by
  rw [read?_diagram, mapM_blocks mode h hchild]
  rfl

theorem read?_eq_none {tree : Tree} {b : Branch} (mode : DiagramMode) (hb : b.node ∈ tree.nodes)
    (h : IsReserved b.id) : read? (tree.diagram mode) = none := by
  rw [read?_diagram, mapM_blocks_reserved mode hb h]
  rfl

/-- The edges that leave a node, if no other node has its name. -/
theorem filter_edges {nodes : List Node} (hnames : (nodes.map fun n => idName n.id).Nodup)
    (hn : n ∈ nodes) :
    (nodes.flatMap edgesOf).filter (·.source == idName n.id) = edgesOf n := by
  have hown : ∀ m : Node, (edgesOf m).filter (·.source == idName m.id) = edgesOf m := by
    intro m
    refine List.filter_eq_self.mpr ?_
    intro e he
    obtain ⟨b, side, rfl, hsource, _⟩ := exists_of_mem_edgesOf he
    exact beq_iff_eq.mpr hsource
  have hother : ∀ m : Node, idName m.id ≠ idName n.id →
      (edgesOf m).filter (·.source == idName n.id) = [] := by
    intro m hne
    refine List.filter_eq_nil_iff.mpr ?_
    intro e he hsame
    obtain ⟨b, side, rfl, hsource, _⟩ := exists_of_mem_edgesOf he
    exact hne (hsource.symm.trans (eq_of_beq hsame))
  induction nodes with
  | nil => cases hn
  | cons m nodes ih =>
    rw [List.map_cons, List.nodup_cons] at hnames
    rw [List.flatMap_cons, List.filter_append]
    rcases List.mem_cons.mp hn with rfl | hrest
    · have hnone : (nodes.flatMap edgesOf).filter (·.source == idName n.id) = [] := by
        rw [List.filter_flatMap, List.flatMap_eq_nil_iff]
        intro k hk
        refine hother k fun hsame => hnames.1 ?_
        rw [← hsame]
        exact List.mem_map_of_mem (f := fun n : Node => idName n.id) hk
      rw [hown, hnone, List.append_nil]
    · have hne : idName m.id ≠ idName n.id := by
        intro hsame
        rw [hsame] at hnames
        exact hnames.1 (List.mem_map_of_mem (f := fun n : Node => idName n.id) hrest)
      rw [hother m hne, List.nil_append]
      exact ih hnames.2 hrest

/-! ### Names of leaves -/

theorem dropLineBreak_leafId (id : String) (side : Side) :
    Literal.dropLineBreak (leafId id side).toList = (leafId id side).toList := by
  have hlast : (leafId id side).toList.getLast? ≠ some '\n' := by
    rw [toList_leafId, List.getLast?_append, List.getLast?_append]
    cases side with
    | onTrue => exact nofun
    | onFalse => exact nofun
  unfold Literal.dropLineBreak
  rw [if_neg fun h => hlast (eq_of_beq h)]

theorem bareId_leafId (id : String) (side : Side) : bareId (leafId id side) = leafId id side := by
  unfold bareId
  rw [dropLineBreak_leafId, String.ofList_toList, ite_self]

theorem not_isReserved_leafId (id : String) (side : Side) : ¬ IsReserved (leafId id side) := by
  rintro ⟨_, hword⟩
  have hletter : ∀ w ∈ keywords, w.toList.head? ≠ some 'l' := by decide
  refine hletter _ hword ?_
  rw [dropLineBreak_leafId, toList_leafId, String.toList_ofList]
  rfl

end Dot

/-- A graph has the nodes of a tree, and two edges for each branch, which lead to the nodes that
follow it. -/
structure Depicts (g : Graph) (tree : Tree) (name : Node → String) : Prop where
  nodes : g.nodes.Perm (tree.nodes.map name)
  distinct : g.nodes.Nodup
  branch : ∀ b : Branch, b.node ∈ tree.nodes → g.edges.filter (·.source == name b.node) =
    [⟨name b.node, name b.onTrue, [("label", "true")]⟩,
      ⟨name b.node, name b.onFalse, [("label", "false")]⟩]
  leaf : ∀ id l, Node.leaf id l ∈ tree.nodes →
    g.edges.filter (·.source == name (.leaf id l)) = []
  source : ∀ e ∈ g.edges, e.source ∈ g.nodes

/-- The ids of branches can be told from each other, from the ids of leaves and from the words of the
language, a line break behind a plain name set aside. -/
structure Drawable (tree : Tree) : Prop where
  unreserved : ∀ b ∈ tree.branches, ¬ IsReserved b.id
  leaves : ∀ b ∈ tree.branches, ∀ leaf ∈ tree.leaves, bareId b.id ≠ leaf.1
  branches : ∀ b ∈ tree.branches, ∀ d ∈ tree.branches, bareId b.id = bareId d.id → b = d

variable {t : Table} {store : Store} {baseUri : String} {tree : Tree}

theorem child_mem_nodes (h : (compile t store baseUri).tree = .ok tree) :
    ∀ b : Branch, b.node ∈ tree.nodes → ∀ side, b.child side ∈ tree.nodes := by
  obtain ⟨_, compiled, root, type, hcomplete, rfl, _⟩ := compile_eq_ok h
  exact (Tree.nodes_meet hcomplete.family (hcomplete.root_within rfl)).2

theorem not_isReserved_of_mem (h : (compile t store baseUri).tree = .ok tree)
    (hbranches : ∀ b ∈ tree.branches, ¬ IsReserved b.id) : ∀ n ∈ tree.nodes, ¬ IsReserved n.id := by
  intro n hn
  cases n with
  | branch id d onTrue onFalse =>
    let b : Branch := ⟨id, d, onTrue, onFalse⟩
    exact hbranches b ((Tree.mem_branches_iff h).mpr hn)
  | leaf id l =>
    obtain ⟨p, side, rfl⟩ := Tree.exists_leafId h hn
    exact not_isReserved_leafId p side

/-- The names of nodes are different just when the ids of branches can be told apart. -/
theorem nodup_names_iff (h : (compile t store baseUri).tree = .ok tree) :
    (tree.nodes.map fun n => idName n.id).Nodup ↔
      (∀ b ∈ tree.branches, ∀ d ∈ tree.branches, bareId b.id = bareId d.id → b = d) ∧
      ∀ b ∈ tree.branches, ∀ leaf ∈ tree.leaves, bareId b.id ≠ leaf.1 := by
  have hbare : (tree.nodes.map fun n => idName n.id).Nodup ↔
      (tree.nodes.map fun n => bareId n.id).Nodup := by
    simp only [List.Nodup, List.pairwise_map, ne_eq, idName_inj]
  have hvisited : tree.visitedBranches.Nodup := tree.visitedBranches_nodup.of_map
  rw [hbare, Tree.nodup_keys_iff h bareId_leafId, List.nodup_map_iff_inj_on hvisited]
  simp only [Tree.mem_visitedBranches, Tree.mem_branches_iff h]

/-- A graph that has a node for each node of the tree has nodes with different names. -/
theorem nodup_names_of_depicts {mode : DiagramMode} {name : Node → String}
    (hchild : ∀ b : Branch, b.node ∈ tree.nodes → ∀ side, b.child side ∈ tree.nodes)
    (hdepicts : Depicts (graphOf mode tree.nodes) tree name) :
    (tree.nodes.map fun n => idName n.id).Nodup := by
  have hsub : (graphOf mode tree.nodes).nodes ⊆ tree.nodes.map fun n => idName n.id :=
    fun x hx => (mem_nodes_graphOf mode hchild x).mp hx
  have hlength : (tree.nodes.map fun n => idName n.id).length
      ≤ (graphOf mode tree.nodes).nodes.length := by
    rw [hdepicts.nodes.length_eq, List.length_map, List.length_map]
  have hsubperm := List.subperm_of_subset hdepicts.distinct hsub
  exact (hsubperm.perm_of_length_le hlength).nodup_iff.mp hdepicts.distinct

theorem depicts_graphOf (mode : DiagramMode)
    (hchild : ∀ b : Branch, b.node ∈ tree.nodes → ∀ side, b.child side ∈ tree.nodes)
    (hnames : (tree.nodes.map fun n => idName n.id).Nodup) :
    Depicts (graphOf mode tree.nodes) tree fun n => idName n.id := by
  have hmem := mem_nodes_graphOf mode hchild
  have hdistinct := nodup_nodes_graphOf mode tree.nodes
  refine ⟨(List.perm_ext_iff_of_nodup hdistinct hnames).mpr hmem, hdistinct, ?_, ?_, ?_⟩
  · intro b hb
    rw [edges_graphOf, filter_edges hnames hb]
    rfl
  · intro id l hleaf
    rw [edges_graphOf, filter_edges hnames hleaf]
    rfl
  · intro e he
    rw [edges_graphOf, List.mem_flatMap] at he
    obtain ⟨n, hn, he⟩ := he
    obtain ⟨b, side, rfl, hsource, _⟩ := exists_of_mem_edgesOf he
    rw [hmem, hsource]
    exact List.mem_map.mpr ⟨b.node, hn, rfl⟩

theorem drawable_of_depicts (h : (compile t store baseUri).tree = .ok tree) {mode : DiagramMode}
    {g : Graph} {name : Node → String} (hread : read? (tree.diagram mode) = some g)
    (hdepicts : Depicts g tree name) : Drawable tree := by
  have hchild := child_mem_nodes h
  have hbranches : ∀ b ∈ tree.branches, ¬ IsReserved b.id := by
    intro b hb hreserved
    cases (read?_eq_none mode ((Tree.mem_branches_iff h).mp hb) hreserved).symm.trans hread
  have hsome := read?_eq_some mode (not_isReserved_of_mem h hbranches) hchild
  obtain rfl := Option.some.inj (hsome.symm.trans hread)
  obtain ⟨hapart, hleaves⟩ := (nodup_names_iff h).mp (nodup_names_of_depicts hchild hdepicts)
  exact ⟨hbranches, hleaves, hapart⟩

/-- The identifiers in the diagram of a compiled tree are different unless a branch has the id of a
leaf. The diagram is read as a graph with the nodes of the tree and the edges of its branches just
when the ids of branches can be told apart as names. -/
theorem read?_diagram_iff (h : (compile t store baseUri).tree = .ok tree) (mode : DiagramMode) :
    ((tree.nodes.map fun n => Diagram.identifier n.id).Nodup ↔
      ∀ b ∈ tree.branches, ∀ leaf ∈ tree.leaves, b.id ≠ leaf.1) ∧
    ((∃ g name, read? (tree.diagram mode) = some g ∧ Depicts g tree name) ↔ Drawable tree) := by
  refine ⟨?_, ?_, ?_⟩
  · have hids : (tree.nodes.map fun n => Diagram.identifier n.id).Nodup ↔
        (tree.nodes.map fun n => id n.id).Nodup := by
      have hsame : ∀ x y : String, Diagram.identifier x = Diagram.identifier y ↔ x = y :=
        fun x y => ⟨identifier_inj, congrArg _⟩
      simp only [List.Nodup, List.pairwise_map, ne_eq, hsame, id]
    rw [hids, Tree.nodup_keys_iff h fun _ _ => rfl]
    simp only [id, Tree.mem_visitedBranches, Tree.mem_branches_iff h]
    exact and_iff_right tree.visitedBranches_nodup
  · rintro ⟨g, name, hread, hdepicts⟩
    exact drawable_of_depicts h hread hdepicts
  · intro hdrawable
    have hchild := child_mem_nodes h
    have hnames := (nodup_names_iff h).mpr ⟨hdrawable.branches, hdrawable.leaves⟩
    exact ⟨_, _, read?_eq_some mode (not_isReserved_of_mem h hdrawable.unreserved) hchild,
      depicts_graphOf mode hchild hnames⟩

/-- The diagram of the table in which two rows share a third one is read as the graph of its tree. -/
theorem read?_diagram_iff_sharing :
    ∃ tree, (compile Example.sharing Example.emptyStore "").tree = .ok tree ∧
      (tree.nodes.map fun n => Diagram.identifier n.id).Nodup ∧
      ∃ g name, read? (tree.diagram .detailed) = some g ∧ Depicts g tree name := by
  have hvalues : (compile Example.sharing Example.emptyStore "").tree.map
      (fun tree => (tree.branches.map (·.id), tree.leaves.map (·.1)))
      = .ok (["rest", "high", "root"], ["Leaf_high_T", "Leaf_rest_T", "Leaf_rest_F"]) := by
    decide +kernel
  obtain ⟨tree, htree, hfields⟩ := exists_tree hvalues
  obtain ⟨hbranches, hleaves⟩ := Prod.mk.inj hfields
  have hid : ∀ b ∈ tree.branches, b.id ∈ ["rest", "high", "root"] :=
    fun b hb => hbranches ▸ List.mem_map_of_mem hb
  have hleaf : ∀ leaf ∈ tree.leaves, leaf.1 ∈ ["Leaf_high_T", "Leaf_rest_T", "Leaf_rest_F"] :=
    fun leaf hleaf => hleaves ▸ List.mem_map_of_mem hleaf
  have hunreserved : ∀ id ∈ ["rest", "high", "root"], ¬ IsReserved id := by decide +kernel
  have hapart : ∀ id ∈ ["rest", "high", "root"],
      ∀ leaf ∈ ["Leaf_high_T", "Leaf_rest_T", "Leaf_rest_F"], id ≠ leaf ∧ bareId id ≠ leaf := by
    decide +kernel
  have hdistinct : (tree.branches.map fun b => bareId b.id).Nodup := by
    have hnodup : (["rest", "high", "root"].map bareId).Nodup := by decide +kernel
    rw [← hbranches, List.map_map] at hnodup
    exact hnodup
  have hdrawable : Drawable tree := by
    refine ⟨fun b hb => hunreserved _ (hid b hb), ?_, ?_⟩
    · exact fun b hb leaf hl => (hapart _ (hid b hb) _ (hleaf leaf hl)).2
    · exact fun b hb d hd hsame => List.inj_on_of_nodup_map hdistinct hb hd hsame
  obtain ⟨hidentifiers, hgraph⟩ := read?_diagram_iff htree .detailed
  refine ⟨tree, htree, hidentifiers.mpr ?_, hgraph.mpr hdrawable⟩
  exact fun b hb leaf hl => (hapart _ (hid b hb) _ (hleaf leaf hl)).1

namespace Example

/-- A table with a row that has the id of a leaf. -/
def colliding : Table :=
  .ofRequired
    [["root", "#score", "gt", "50", "\"x\"", "[Leaf_root_T]"],
      ["Leaf_root_T", "#score", "gt", "10", "\"y\"", "\"z\""]]

end Example

/-- A row with the id of a leaf gets the identifier of the leaf, and no graph that is read from the
diagram has a node for each of the two. -/
theorem read?_diagram_colliding :
    ∃ tree, (compile Example.colliding Example.emptyStore "").tree = .ok tree ∧
      (tree.nodes.map fun n => Diagram.identifier n.id)
        = ["root", "Leaf_root_T", "Leaf_root_T", "Leaf_Leaf_root_T_T", "Leaf_Leaf_root_T_F"] ∧
      ∀ mode g name, read? (tree.diagram mode) = some g → ¬ Depicts g tree name := by
  have hvalues : (compile Example.colliding Example.emptyStore "").tree.map
      (fun tree => (tree.nodes.map fun n => Diagram.identifier n.id,
        tree.branches.map (·.id), tree.leaves.map (·.1)))
      = .ok (["root", "Leaf_root_T", "Leaf_root_T", "Leaf_Leaf_root_T_T", "Leaf_Leaf_root_T_F"],
          ["Leaf_root_T", "root"],
          ["Leaf_root_T", "Leaf_Leaf_root_T_T", "Leaf_Leaf_root_T_F"]) := by
    decide +kernel
  obtain ⟨tree, htree, hfields⟩ := exists_tree hvalues
  obtain ⟨hidentifiers, hbranches, hleaves⟩ : _ ∧ _ ∧ _ := by
    simpa only [Prod.mk.injEq] using hfields
  refine ⟨tree, htree, hidentifiers, ?_⟩
  intro mode g name hread hdepicts
  have hb : "Leaf_root_T" ∈ tree.branches.map (·.id) := by simp [hbranches]
  have hleaf : "Leaf_root_T" ∈ tree.leaves.map (·.1) := by simp [hleaves]
  obtain ⟨b, hb, hid⟩ := List.mem_map.mp hb
  obtain ⟨leaf, hleaf, hname⟩ := List.mem_map.mp hleaf
  refine (drawable_of_depicts htree hread hdepicts).leaves b hb leaf hleaf ?_
  rw [hid, hname]
  decide +kernel

/-- A word of the language is no node, and a line break does not tell ids apart. -/
example : IsReserved "Node" ∧ bareId "a\n" = bareId "a" := by
  decide +kernel

end DecisionTable
