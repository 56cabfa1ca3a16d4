import DecisionTable.Tree.Walk

/-!
# Depth of trees

The depth of a tree is the number of decisions on its longest path. The depth of each branch is
found once and remembered by its id: a branch is entered, the nodes that follow it are dealt with,
and then the branch is left.
-/

namespace DecisionTable

/-- What is still to be done to find a depth. -/
inductive DepthTask where
  | enter (n : Node)
  /-- Note the depth of a branch of which the nodes that follow have been dealt with. -/
  | leave (id : String) (onTrue onFalse : Node)

/-- A bound for the work of a task. -/
def DepthTask.work : DepthTask → Nat
  | enter n => 2 * n.size
  | leave .. => 1

/-- A bound for the work of several tasks. -/
def DepthTask.totalWork : List DepthTask → Nat
  | [] => 0
  | task :: rest => task.work + totalWork rest

/-- The depth of a node by what is known of branches. -/
def Node.knownDepth (known : List (String × Nat)) : Node → Nat
  | .leaf .. => 0
  | .branch id .. => (known.lookup id).getD 0

/-- What is known of the depths of branches when all tasks have been done. -/
def DepthTask.run (known : List (String × Nat)) : List DepthTask → List (String × Nat)
  | [] => known
  | .enter (.leaf ..) :: rest => run known rest
  | .enter (.branch id _ t f) :: rest =>
    if (known.lookup id).isSome then run known rest
    else run known (.enter t :: .enter f :: .leave id t f :: rest)
  | .leave id t f :: rest =>
    run ((id, 1 + max (t.knownDepth known) (f.knownDepth known)) :: known) rest
termination_by tasks => DepthTask.totalWork tasks
decreasing_by all_goals simp [DepthTask.totalWork, DepthTask.work, Node.size]; try omega

/-- The number of decisions on the longest path from a node to a leaf. -/
def Node.depth (n : Node) : Nat :=
  n.knownDepth (DepthTask.run [] [.enter n])

end DecisionTable
