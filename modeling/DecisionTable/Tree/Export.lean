import DecisionTable.Json.Print
import DecisionTable.Table.Reference
import DecisionTable.Table.Basic
import DecisionTable.Tree.Walk

/-!
# Exporting trees

A tree is written as a flat document: one entry for each branch, from the root on, in which a branch
that follows is only named. So the document stays shallow however deep the tree is, and a shared
branch is written once. A tree also goes back into a table of its own, which compiles to the same
tree.
-/

namespace DecisionTable

/-- A node as it appears in the entry of the branch before it. -/
def Node.toDocument : Node → Json
  | .leaf id l =>
    .object [("type", .string "leaf"), ("id", .string id), ("datatype", .string l.type.name),
      ("value", .string l.value)]
  | .branch id .. => .object [("type", .string "ref"), ("id", .string id)]

def Branch.toDocument (b : Branch) : Json :=
  let d := b.decision
  .object [("id", .string b.id), ("attribute", .string d.tested.identifier),
    ("cardinality", .string d.tested.cardinality.text), ("kind", .string d.tested.kind.text),
    ("operator", .string d.op.spelling), ("operand", .string d.operand),
    ("true", b.onTrue.toDocument), ("false", b.onFalse.toDocument)]

namespace Tree

def toDocument (t : Tree) : Json :=
  .object [("inferred_type", .string t.inferredType.name), ("base_uri", .string t.baseUri),
    ("root", .string t.root.id), ("nodes", .array (t.visitedBranches.map Branch.toDocument))]

/-- The document of a tree as JSON, with the members in ascending order. -/
def toJson (t : Tree) : String :=
  t.toDocument.sortMembers.print

end Tree

def Node.cell : Node → String
  | .leaf _ l => l.cell
  | .branch id .. => Reference.cell id

/-- The row of a branch below the required headings. -/
def Branch.cells (b : Branch) : List String :=
  [b.id, b.decision.tested.identifier, b.decision.op.spelling, b.decision.operand, b.onTrue.cell,
    b.onFalse.cell]

/-- The table of a tree, with the row of the root first. -/
def Tree.toTable (t : Tree) : Table :=
  .ofRequired (t.visitedBranches.map Branch.cells)

end DecisionTable
