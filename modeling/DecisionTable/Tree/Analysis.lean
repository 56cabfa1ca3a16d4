import DecisionTable.Table.Basic
import DecisionTable.Tree.Depth

/-!
# Analysis of trees

A report counts what a tree consists of and points at what is likely to be a mistake: rows that the
root does not lead to, decisions whose operator does not suit their attribute, and trees with a
single outcome. Such a tree still compiles and evaluates.
-/

namespace DecisionTable

/-- A decision whose operator does not suit its attribute. -/
structure ShapeMismatch where
  node : String
  decision : Decision
deriving DecidableEq, Repr

def ShapeMismatch.message (m : ShapeMismatch) : String :=
  let d := m.decision
  s!"Node {m.node}: '{d.op.spelling}' needs a {d.op.requires.text} attribute but "
    ++ s!"{d.tested.identifier} is {d.tested.shape.text}"

/-- What is known of a tree. Names are listed in ascending order and once each, unless another order
is stated. -/
structure Report where
  inferredType : LiteralType
  /-- The number of rows of the table, or else of branches. -/
  totalRows : Nat
  totalBranches : Nat
  totalLeaves : Nat
  /-- The number of decisions on the longest path. -/
  maxDepth : Nat
  /-- How many decisions test each attribute, in the order of first use. -/
  attributeUsage : List (String × Nat)
  /-- The nodes that the root does not lead to. -/
  unreachableRows : List String
  /-- The branches that several outcomes lead to. -/
  sharedNodes : List String
  outcomes : List String
  /-- The decisions whose operator does not suit their attribute, in the order of compilation. -/
  mismatches : List ShapeMismatch
deriving Repr

namespace Branch

/-- The two nodes that follow a branch. -/
def children (b : Branch) : List Node :=
  [b.onTrue, b.onFalse]

end Branch

namespace Node

def outcome? : Node → Option String
  | leaf _ l => some l.value
  | branch .. => none

def branchId? : Node → Option String
  | leaf .. => none
  | branch id .. => some id

end Node

/-- Texts in ascending order, each of them once. -/
def sortedSet (l : List String) : List String :=
  sortTexts l.eraseDups

namespace Tree

/-- The nodes that follow the branches of a tree, in the order of the branches. -/
def allChildren (t : Tree) : List Node :=
  t.branches.flatMap Branch.children

/-- How many decisions test each attribute, in the order of first use. -/
def attributeUsage (t : Tree) : List (String × Nat) :=
  let used := t.branches.map (·.decision.tested.identifier)
  used.eraseDups.map fun identifier => (identifier, used.count identifier)

/-- The texts of the outcomes of all leaves. -/
def outcomes (t : Tree) : List String :=
  t.allChildren.filterMap Node.outcome?

/-- The ids of the branches that several outcomes lead to. -/
def sharedNodes (t : Tree) : List String :=
  let targets := t.allChildren.filterMap Node.branchId?
  targets.filter fun id => 1 < targets.count id

/-- The decisions whose operator does not suit their attribute. -/
def mismatches (t : Tree) : List ShapeMismatch :=
  t.branches.filterMap fun b =>
    if b.decision.op.accepts b.decision.tested then none else some ⟨b.id, b.decision⟩

/-- The nodes of a table that are no branches of the tree. -/
def unreachableRows (t : Tree) (table : Table) : Except CellFault (List String) :=
  if table.headings.contains nodeHeading || table.rows.isEmpty then
    .ok ((table.rows.map (table.cellOf · nodeHeading)).filter fun id => (t.branch? id).isNone)
  else .error (.noColumn nodeHeading)

/-- Analyses a tree, together with its table if that is given. -/
def analyze (t : Tree) (table : Option Table) : Except CellFault Report := do
  let unreachable ← match table with
    | some table => t.unreachableRows table
    | none => .ok []
  .ok
    { inferredType := t.inferredType
      totalRows := match table with
        | some table => table.rows.length
        | none => t.branches.length
      totalBranches := t.branches.length
      totalLeaves := t.outcomes.length
      maxDepth := t.root.depth
      attributeUsage := t.attributeUsage
      unreachableRows := sortedSet unreachable
      sharedNodes := sortedSet t.sharedNodes
      outcomes := sortedSet t.outcomes
      mismatches := t.mismatches }

end Tree

namespace Report

/-- The warnings of a report, each of them once. -/
def warnings (r : Report) : List String :=
  let unreachable :=
    if r.unreachableRows.isEmpty then []
    else [s!"Rows not reachable from the root: {Text.commaSeparated r.unreachableRows}"]
  let single := match r.outcomes with
    | [outcome] => [s!"Every leaf gives the same outcome: {outcome}"]
    | _ => []
  (unreachable ++ r.mismatches.map ShapeMismatch.message ++ single).eraseDups

/-- A list of names as a report shows it. -/
def shownNames (l : List String) : String :=
  if l.isEmpty then "None" else Text.quotedList l

/-- The lines between which the title of a report stands. -/
def rule : String :=
  String.ofList (List.replicate 70 '=')

def lines (r : Report) : List String :=
  let usage := (r.attributeUsage.mergeSort fun a b => decide (a.1 ≤ b.1)).map fun (name, n) =>
    s!"    {name}: {n} decision(s)"
  let warnings := match r.warnings with
    | [] => ["✨ NO WARNINGS - Tree looks clean!"]
    | l => "⚠️  WARNINGS" :: (l.zipIdx 1).map fun (warning, i) => s!"  {i}. {warning}"
  ["", rule, s!"DECISION TREE ANALYSIS REPORT ({r.inferredType.name})", rule, "",
    "📊 BASIC METRICS",
    s!"  Table Rows:            {r.totalRows}",
    s!"  Branches:              {r.totalBranches}",
    s!"  Leaves:                {r.totalLeaves}",
    s!"  Max Depth:             {r.maxDepth}",
    "", "📈 ATTRIBUTE USAGE"]
  ++ usage
  ++ ["", "🔗 STRUCTURE",
    s!"  Outcomes:              {Text.quotedList r.outcomes}",
    s!"  Shared Nodes:          {shownNames r.sharedNodes}",
    s!"  Unreachable Rows:      {shownNames r.unreachableRows}",
    s!"  Shape Mismatches:      {r.mismatches.length}",
    ""]
  ++ warnings ++ [""]

end Report

end DecisionTable
