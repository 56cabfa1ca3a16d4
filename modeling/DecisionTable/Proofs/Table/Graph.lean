import DecisionTable.Compile.Basic
import DecisionTable.Proofs.Table.Index
import Mathlib.Logic.Relation

/-!
# The graph of a table

Rows refer to rows by the ids in their outcome cells. What is compiled of a table is the part that
the first row leads to.
-/

namespace DecisionTable

open Relation

/-- What an outcome cell says: which node follows, or what the outcome is. -/
inductive Sequel where
  | node (id : String)
  | outcome (l : TypedLiteral)

namespace Table

/-- A row refers to another one if one of its outcome cells holds the id of that row. -/
def Refers (t : Table) (i j : Nat) : Prop :=
  ∃ side : Side, ∃ id, Reference.target? (t.cell i side.heading) = some id ∧
    t.nodeIds[j]? = some id

/-- A row is reachable if the first row leads to it. -/
def Reachable (t : Table) (i : Nat) : Prop := ReflTransGen t.Refers 0 i

variable {t : Table}

theorem reachable_first (t : Table) : t.Reachable 0 := ReflTransGen.refl

theorem Reachable.step {i j : Nat} (hi : t.Reachable i) (h : t.Refers i j) : t.Reachable j :=
  ReflTransGen.tail hi h

end Table

/-! ### What the outcome cells of a source say -/

namespace Source

def sequel (src : Source) (row : Nat) (side : Side) : Sequel :=
  match Reference.target? (src.table.cell row side.heading) with
  | some id => .node id
  | none => .outcome (Literal.parse (src.table.cell row side.heading) src.baseUri)

variable {src : Source} {i j : Nat} {side : Side}

theorem sequel_eq_node {id : String} :
    src.sequel i side = .node id ↔ Reference.target? (src.table.cell i side.heading) = some id := by
  unfold sequel
  cases h : Reference.target? (src.table.cell i side.heading) with
  | none => simp
  | some x => simp

theorem sequel_eq_outcome {l : TypedLiteral} :
    src.sequel i side = .outcome l ↔ Reference.target? (src.table.cell i side.heading) = none ∧
      l = Literal.parse (src.table.cell i side.heading) src.baseUri := by
  unfold sequel
  cases h : Reference.target? (src.table.cell i side.heading) with
  | none => simp [eq_comm]
  | some x => simp

theorem refers_of_sequel {id : String} (hi : src.sequel i side = .node id)
    (hj : src.table.nodeIds[j]? = some id) : src.table.Refers i j :=
  ⟨side, id, sequel_eq_node.mp hi, hj⟩

end Source

end DecisionTable
