import DecisionTable.Literal.Basic
import DecisionTable.Operator.Basic
import DecisionTable.Text.Quoted

/-!
# Decision trees

A node is either a leaf with an outcome or a branch with a decision and two further nodes. In a
compiled tree a branch can be reached along several paths; it is then the same branch everywhere,
and its id tells it apart from all others. A tree also lists its branches in the order in which they
were compiled, each of them behind those that it leads to.
-/

namespace DecisionTable

/-- A decision: an operator is applied to the value of an attribute and to an operand, which is kept
as it was written. -/
structure Decision where
  tested : Attribute
  op : Operator
  operand : String
deriving DecidableEq, Repr

/-- The decision on one line. -/
def Decision.text (d : Decision) : String :=
  s!"{d.tested.identifier} {d.op.spelling} {d.operand}"

/-- A node of a decision tree. -/
inductive Node where
  | leaf (id : String) (literal : TypedLiteral)
  /-- A decision and the nodes that follow it. -/
  | branch (id : String) (decision : Decision) (onTrue onFalse : Node)
deriving Repr

structure Branch where
  id : String
  decision : Decision
  /-- The node that follows if the decision holds. -/
  onTrue : Node
  /-- The node that follows if it does not hold. -/
  onFalse : Node
deriving Repr

structure Tree where
  /-- The node at which every evaluation begins. -/
  root : Node
  /-- The branches, in the order in which they were compiled. -/
  branches : List Branch
  inferredType : LiteralType
  /-- What names that begin with `#` are relative to. -/
  baseUri : String

namespace Node

def id : Node → String
  | leaf id _ => id
  | branch id .. => id

def branch? : Node → Option Branch
  | leaf .. => none
  | branch id d t f => some ⟨id, d, t, f⟩

def isLeaf : Node → Bool
  | leaf .. => true
  | branch .. => false

end Node

namespace Branch

def node (b : Branch) : Node :=
  .branch b.id b.decision b.onTrue b.onFalse

/-- The branch on one line; the nodes that follow it are only named. -/
def describe (b : Branch) : String :=
  let id := Text.quoted b.id
  let decision := Text.quoted b.decision.text
  let onTrue := Text.quoted b.onTrue.id
  let onFalse := Text.quoted b.onFalse.id
  s!"Branch(id={id}, decision={decision}, on_true={onTrue}, on_false={onFalse})"

end Branch

namespace Tree

def branch? (t : Tree) (id : String) : Option Branch :=
  t.branches.find? (·.id == id)

/-- The attributes that the tree tests, in the order of their first use. -/
def attributes (t : Tree) : List Attribute :=
  t.branches.foldl
    (fun known b =>
      let a := b.decision.tested
      if known.any (·.identifier == a.identifier) then
        known.map fun k => if k.identifier == a.identifier then a else k
      else known ++ [a])
    []

end Tree

end DecisionTable
