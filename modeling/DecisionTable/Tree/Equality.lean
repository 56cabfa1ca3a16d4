import DecisionTable.Tree.Walk

/-!
# Equality of trees

Two trees are equal if they have the same datatype and base URI and if their roots stand for the
same tree of ids, decisions and outcomes. Nodes are compared in pairs, and a pair of branches is
compared once, however many paths lead to it.
-/

namespace DecisionTable

/-- The number of nodes below the left nodes of pairs. -/
def Node.leftSize (pairs : List (Node × Node)) : Nat :=
  Node.totalSize (pairs.map (·.1))

/-- Whether the nodes of all pairs are the same, where the pairs of branches in `seen` have been
compared before. -/
def Node.allSame (seen : List (String × String)) : List (Node × Node) → Bool
  | [] => true
  | (.leaf i l, .leaf j m) :: rest => i == j && l == m && allSame seen rest
  | (.branch i d t f, .branch j e u g) :: rest =>
    if seen.contains (i, j) then allSame seen rest
    else i == j && d == e && allSame ((i, j) :: seen) ((t, u) :: (f, g) :: rest)
  | _ :: _ => false
termination_by pairs => Node.leftSize pairs
decreasing_by all_goals simp [Node.leftSize, Node.totalSize, Node.size]; try omega

/-- Whether two nodes stand for the same tree. -/
def Node.same (n m : Node) : Bool :=
  Node.allSame [] [(n, m)]

/-- Whether two trees are equal. -/
def Tree.same (t u : Tree) : Bool :=
  t.root.same u.root && t.inferredType == u.inferredType && t.baseUri == u.baseUri

/-- Whether the roots of two trees agree by themselves: in id and decision, or as leaves. -/
def Node.sameHead : Node → Node → Bool
  | .leaf i l, .leaf j m => i == j && l == m
  | .branch i d _ _, .branch j e _ _ => i == j && d == e
  | _, _ => false

end DecisionTable
