import DecisionTable.Compile.Error

/-!
# Agreement of datatypes

All outcomes of a tree have one datatype. The first outcome settles it, and every further one has to
agree.
-/

namespace DecisionTable

/-- The datatype that outcomes have agreed on so far, with the leaf that settled it. -/
structure Agreement where
  /-- The datatype and the leaf, once there is an outcome. -/
  settled : Option (LiteralType × String) := none
deriving Repr

namespace Agreement

def type? (a : Agreement) : Option LiteralType :=
  a.settled.map (·.1)

def check (a : Agreement) (type : LiteralType) (leaf : String) : Except CompileError Agreement :=
  match a.settled with
  | none => .ok ⟨some (type, leaf)⟩
  | some (expected, first) =>
    if type = expected then .ok a
    else .error (.inconsistentType type expected leaf first)

end Agreement

end DecisionTable
