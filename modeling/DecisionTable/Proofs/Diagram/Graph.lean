import DecisionTable.Proofs.Diagram.Lines
import DecisionTable.Proofs.Tree.NodeIds

/-!
# The graph of a diagram

A diagram is read as statements, one for each node of the tree and one for each edge. The graph has
the nodes of the tree if no branch has a word of the language for its id, the name of a leaf or the
name of another branch.
-/

namespace DecisionTable

open Dot

namespace Dot

/-! ### Lines of diagrams -/

def shown (s : String) : String :=
  String.ofList (s.toList.flatMap shownChar)

/-- The tokens of the statement of a node. -/
def nodeBlock (mode : DiagramMode) (n : Node) : List Token :=
  [idToken n.id, .openBracket]
    ++ (if n.isLeaf then [.name "shape", .equals, .name "box", .comma] else [])
    ++ [.name "label", .equals, .name (shown (Diagram.label mode n)), .closeBracket]

def edgeBlock (source target label : String) : List Token :=
  [idToken source, .arrow, idToken target, .openBracket, .name "label", .equals, .name label,
    .closeBracket]

/-- The tokens of the statements of the edges that leave a node. -/
def edgeBlocks : Node → List (List Token)
  | .leaf .. => []
  | .branch id _ t f => [edgeBlock id t.id "true", edgeBlock id f.id "false"]

theorem lexes_quoted (s : String) :
    Lexes (Diagram.quoted s).toList [.name (shown s)] := by
  rw [Diagram.quoted, String.toList_ofList]
  exact lexes_quotedChars s.toList

theorem lexes_nodeLine (mode : DiagramMode) (n : Node) :
    Lexes ('\n' :: (Diagram.nodeLine mode n).toList) (nodeBlock mode n ++ [.semicolon]) := by
  have hline : Diagram.nodeLine mode n = "  " ++ Diagram.identifier n.id ++ " ["
      ++ (if n.isLeaf then "shape=box, " else "") ++ "label="
      ++ Diagram.quoted (Diagram.label mode n) ++ "];" := rfl
  have hbegin : Lexes "\n  ".toList [] := lexes_of_tokens? (by decide +kernel)
  have hend : Lexes "];".toList [.closeBracket, .semicolon] := lexes_of_tokens? (by decide +kernel)
  have hid := hbegin.append (lexes_identifier n.id)
  have hlabel := (lexes_quoted (Diagram.label mode n)).append hend
  cases hleaf : n.isLeaf with
  | false =>
    have hform : Lexes "[label=".toList [.openBracket, .name "label", .equals] :=
      lexes_of_tokens? (by decide +kernel)
    have hall := hid.append (hform.append hlabel)
    simpa [hline, nodeBlock, hleaf] using hall
  | true =>
    have hform : Lexes "[shape=box, label=".toList
        [.openBracket, .name "shape", .equals, .name "box", .comma, .name "label", .equals] :=
      lexes_of_tokens? (by decide +kernel)
    have hall := hid.append (hform.append hlabel)
    simpa [hline, nodeBlock, hleaf] using hall

theorem lexes_edgeLine (source target label ending : String) {cs : List Char}
    (hending : ending.toList = ' ' :: cs) (hlabel : tokens? cs
      = some [.openBracket, .name "label", .equals, .name label, .closeBracket, .semicolon]) :
    Lexes ('\n' :: ("  " ++ Diagram.identifier source ++ " -> " ++ Diagram.identifier target
      ++ ending).toList) (edgeBlock source target label ++ [.semicolon]) := by
  have hbegin : Lexes "\n  ".toList [] := lexes_of_tokens? (by decide +kernel)
  have harrow : Lexes "-> ".toList [.arrow] := lexes_of_tokens? (by decide +kernel)
  have hsource := hbegin.append (lexes_identifier source)
  have htarget := (harrow.append (lexes_identifier target)).append (lexes_of_tokens? hlabel)
  have hall := hsource.append htarget
  simpa [edgeBlock, hending] using hall

theorem lexes_edgeLines (n : Node) :
    Lexes ((Diagram.edgeLines n).flatMap fun l => '\n' :: l.toList)
      ((edgeBlocks n).flatMap fun ts => ts ++ [.semicolon]) := by
  cases n with
  | leaf id l => exact .nil
  | branch id d t f =>
    have hlines : Diagram.edgeLines (.branch id d t f) =
        ["  " ++ Diagram.identifier id ++ " -> " ++ Diagram.identifier t.id
            ++ " [label=\"true\"];",
          "  " ++ Diagram.identifier id ++ " -> " ++ Diagram.identifier f.id
            ++ " [label=\"false\"];"] := rfl
    have htrue := lexes_edgeLine id t.id "true" " [label=\"true\"];" rfl
      (by decide +kernel)
    have hfalse := lexes_edgeLine id f.id "false" " [label=\"false\"];" rfl
      (by decide +kernel)
    rw [hlines]
    exact htrue.append (hfalse.append .nil)

/-! ### Whole diagrams -/

/-- The tokens of the statements with which a diagram begins. -/
def headerBlocks : List (List Token) :=
  [[.keyword "node", .openBracket, .name "shape", .equals, .name "diamond", .comma,
      .name "fontname", .equals, .name "Helvetica", .closeBracket],
    [.keyword "edge", .openBracket, .name "fontname", .equals, .name "Helvetica", .closeBracket]]

/-- The tokens of the statements of a diagram. -/
def blocks (mode : DiagramMode) (nodes : List Node) : List (List Token) :=
  headerBlocks ++ nodes.map (nodeBlock mode) ++ nodes.flatMap edgeBlocks

theorem inner_idToken (id : String) : idToken id ≠ .semicolon ∧ idToken id ≠ .closeBrace := by
  unfold idToken wordToken
  split
  · dsimp only
    split
    · exact ⟨nofun, nofun⟩
    · exact ⟨nofun, nofun⟩
  · exact ⟨nofun, nofun⟩

theorem inner_nodeBlock (mode : DiagramMode) (n : Node) : Inner (nodeBlock mode n) := by
  cases hleaf : n.isLeaf <;> simp [Inner, nodeBlock, hleaf, inner_idToken]

theorem inner_edgeBlock (source target label : String) : Inner (edgeBlock source target label) := by
  simp [Inner, edgeBlock, inner_idToken]

theorem inner_blocks (mode : DiagramMode) (nodes : List Node) :
    ∀ ts ∈ blocks mode nodes, Inner ts := by
  intro ts hts
  simp only [blocks, List.mem_append, List.mem_map, List.mem_flatMap] at hts
  rcases hts with (hheader | ⟨n, _, rfl⟩) | ⟨n, _, hn⟩
  · revert ts
    decide
  · exact inner_nodeBlock mode n
  · cases n with
    | leaf id l => cases hn
    | branch id d t f =>
      simp only [edgeBlocks, List.mem_cons, List.not_mem_nil, or_false] at hn
      rcases hn with rfl | rfl
      · exact inner_edgeBlock id t.id "true"
      · exact inner_edgeBlock id f.id "false"

theorem lexes_diagram (tree : Tree) (mode : DiagramMode) :
    Lexes (tree.diagram mode).toList
      ([.keyword "digraph", .name "decision_tree", .openBrace]
        ++ ((blocks mode tree.nodes).flatMap (fun ts => ts ++ [.semicolon]) ++ [.closeBrace])) := by
  let line := fun l : String => '\n' :: l.toList
  let ended := fun ts : List Token => ts ++ [.semicolon]
  have hfirst : Lexes "digraph decision_tree \x7b".toList
      [.keyword "digraph", .name "decision_tree", .openBrace] :=
    lexes_of_tokens? (by decide +kernel)
  have hheader : Lexes (["  node [shape=diamond, fontname=\"Helvetica\"];",
      "  edge [fontname=\"Helvetica\"];"].flatMap line) (headerBlocks.flatMap ended) :=
    lexes_of_tokens? (by decide +kernel)
  have hnodes : Lexes ((tree.nodes.map (Diagram.nodeLine mode)).flatMap line)
      ((tree.nodes.map (nodeBlock mode)).flatMap ended) := by
    rw [List.flatMap_map, List.flatMap_map]
    exact lexes_flatMap fun n _ => lexes_nodeLine mode n
  have hedges : Lexes ((tree.nodes.flatMap Diagram.edgeLines).flatMap line)
      ((tree.nodes.flatMap edgeBlocks).flatMap ended) := by
    rw [List.flatMap_assoc, List.flatMap_assoc]
    exact lexes_flatMap fun n _ => lexes_edgeLines n
  have hlast : Lexes (["\x7d"].flatMap line) [.closeBrace] := lexes_of_tokens? (by decide +kernel)
  have hall := hfirst.append (((hheader.append hnodes).append hedges).append hlast)
  have hlines : tree.diagram mode = "\n".intercalate ("digraph decision_tree \x7b" ::
      (["  node [shape=diamond, fontname=\"Helvetica\"];", "  edge [fontname=\"Helvetica\"];"]
        ++ tree.nodes.map (Diagram.nodeLine mode) ++ tree.nodes.flatMap Diagram.edgeLines
        ++ ["\x7d"])) := rfl
  rw [hlines, toList_lines, List.flatMap_append, List.flatMap_append, List.flatMap_append, blocks,
    List.flatMap_append, List.flatMap_append]
  exact hall

/-- A diagram is read as its statements. -/
theorem read?_diagram (tree : Tree) (mode : DiagramMode) : read? (tree.diagram mode)
    = ((blocks mode tree.nodes).mapM statement?).map Graph.ofStatements := by
  unfold read?
  rw [tokens?_of_lexes (lexes_diagram tree mode), ← statements?_blocks (inner_blocks mode tree.nodes)]
  rfl

end Dot

end DecisionTable
