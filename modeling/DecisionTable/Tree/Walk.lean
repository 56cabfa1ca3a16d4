import DecisionTable.Tree.Basic

/-!
# Walking through a tree

The nodes of a tree are visited depth first, the true side of a branch before its false side, and
each branch once, however many paths lead to it. A leaf belongs to one branch only, so a walk meets
it once. The nodes still to be visited wait on a stack, and their sizes bound the walk.
-/

namespace DecisionTable

/-- The number of nodes of the tree below a node, itself included. -/
def Node.size : Node → Nat
  | .leaf .. => 1
  | .branch _ _ t f => 1 + t.size + f.size

/-- The number of nodes below the nodes of a list. -/
def Node.totalSize : List Node → Nat
  | [] => 0
  | n :: rest => n.size + totalSize rest

/-- The nodes that are visited from a stack of nodes, where the branches in `seen` have been visited
before. -/
def Node.visit (seen : List String) : List Node → List Node
  | [] => []
  | .leaf id l :: rest => .leaf id l :: visit seen rest
  | .branch id d t f :: rest =>
    if seen.contains id then visit seen rest
    else .branch id d t f :: visit (id :: seen) (t :: f :: rest)
termination_by stack => Node.totalSize stack
decreasing_by all_goals simp [Node.totalSize, Node.size]; try omega

def Tree.nodes (t : Tree) : List Node :=
  Node.visit [] [t.root]

/-- The leaves of a tree: their ids and outcomes. -/
def Tree.leaves (t : Tree) : List (String × TypedLiteral) :=
  t.nodes.filterMap fun
    | .leaf id l => some (id, l)
    | .branch .. => none

/-- The branches of a tree in the order of a walk. -/
def Tree.visitedBranches (t : Tree) : List Branch :=
  t.nodes.filterMap Node.branch?

end DecisionTable
