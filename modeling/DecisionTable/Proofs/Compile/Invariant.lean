import DecisionTable.Proofs.Compile.Move
import DecisionTable.Proofs.Compile.State
import DecisionTable.Proofs.Tree.Walk
import Mathlib.Data.List.Chain
import Mathlib.Data.List.Induction

/-!
# What holds throughout a compilation

At every point each row of the table is open, compiled or not yet opened. The open rows are linked:
each waits for the one above it, and the lowest is the first row of the table. Every branch that has
been compiled is what its row stands for, with the branches that it leads to compiled before it, and
every outcome so far has the datatype that is settled.
-/

namespace DecisionTable

open Relation

namespace Source

/-- What the outcome cell at one side of a row stands for, where `known` are the branches that it
may lead to and `settled` is the datatype of its outcome. -/
inductive Stands (src : Source) (known : List Branch) (settled : Option LiteralType)
    (row : Nat) (side : Side) : Node → Prop where
  | leaf (l : TypedLiteral) (hmeans : src.sequel row side = .outcome l)
      (hsettled : settled = some l.type) :
      Stands src known settled row side (.leaf (leafId (src.table.cell row nodeHeading) side) l)
  | branch (b : Branch) (hmeans : src.sequel row side = .node b.id) (hknown : b ∈ known) :
      Stands src known settled row side b.node

/-- A branch is what a row stands for. -/
structure Built (src : Source) (store : Store) (known : List Branch)
    (settled : Option LiteralType) (row : Nat) (b : Branch) : Prop where
  reachable : src.table.Reachable row
  id : src.table.nodeIds[row]? = some b.id
  tested : store.attribute? (src.table.cell row attributeHeading) = some b.decision.tested
  op : Operator.parse? (src.table.cell row operatorHeading) = some b.decision.op
  operand : b.decision.operand = src.table.cell row operandHeading
  child : ∀ side, src.Stands known settled row side (b.child side)

/-- Branches, from the last to the first, each of which is what a row stands for and leads to
branches before it only. -/
inductive BuiltUp (src : Source) (store : Store) (settled : Option LiteralType) :
    List Branch → Prop where
  | nil : BuiltUp src store settled []
  | cons {row : Nat} {b : Branch} {rest : List Branch}
      (hb : src.Built store rest settled row b) (hrest : BuiltUp src store settled rest) :
      BuiltUp src store settled (b :: rest)

/-- An open row waits for the one above it. -/
def Awaits (src : Source) (upper lower : OpenRow) : Prop :=
  src.sequel lower.row lower.side = .node upper.id

/-- A leaf cell of a reachable row, with its outcome. -/
def HasLeaf (src : Source) (leaf : String) (l : TypedLiteral) : Prop :=
  ∃ row side, src.table.Reachable row ∧ src.sequel row side = .outcome l ∧
    leaf = leafId (src.table.cell row nodeHeading) side

/-- What holds at every point of a compilation against a store. -/
structure Consistent (src : Source) (store : Store) (c : Compilation) : Prop where
  /-- Each row is open, compiled or not yet opened. -/
  rows : (c.openRows.map (·.id) ++ (c.compiled.map (·.id) ++ c.unopened.map (·.1))).Perm
    src.table.nodeIds
  /-- Rows that have not been opened stand at their places. -/
  unopened : ∀ p ∈ c.unopened, src.table.nodeIds[p.2]? = some p.1
  /-- So do open rows. -/
  opened : ∀ o ∈ c.openRows, src.table.nodeIds[o.row]? = some o.id
  /-- The true node of an open row is that of its true cell. -/
  onTrue : ∀ o ∈ c.openRows, ∀ n, o.onTrue = some n →
    src.Stands c.compiled c.agreement.type? o.row .onTrue n
  /-- The nodes of a row that is to be closed are those of its cells. -/
  onFalse : ∀ r t f, c.focus = .close r t f →
    r.onTrue = some t ∧ src.Stands c.compiled c.agreement.type? r.row .onFalse f
  /-- Each open row waits for the one above it. -/
  linked : c.openRows.IsChain src.Awaits
  /-- The lowest open row is the first row of the table. -/
  lowest : (c.openRows.map (·.row)).getLast? = some 0
  /-- The branches that have been compiled are what rows stand for. -/
  compiled : src.BuiltUp store c.agreement.type? c.compiled
  /-- The datatype that is settled is that of a leaf. -/
  settled : ∀ ty leaf, c.agreement.settled = some (ty, leaf) →
    ∃ l, src.HasLeaf leaf l ∧ l.type = ty
  /-- Of the store nothing but the record of resolved attributes has changed. -/
  store : c.store = { store with resolved := c.store.resolved }

variable {src : Source} {store : Store} {known known' : List Branch}
  {settled settled' : Option LiteralType} {row : Nat} {side : Side}

/-! ### More branches and a settled datatype -/

theorem Stands.mono {n : Node} (h : src.Stands known settled row side n)
    (hknown : ∀ b ∈ known, b ∈ known')
    (hsettled : ∀ ty, settled = some ty → settled' = some ty) :
    src.Stands known' settled' row side n := by
  cases h with
  | leaf l hmeans htype => exact .leaf l hmeans (hsettled _ htype)
  | branch b hmeans hb => exact .branch b hmeans (hknown b hb)

theorem Built.mono {b : Branch} (h : src.Built store known settled row b)
    (hknown : ∀ b ∈ known, b ∈ known')
    (hsettled : ∀ ty, settled = some ty → settled' = some ty) :
    src.Built store known' settled' row b :=
  ⟨h.reachable, h.id, h.tested, h.op, h.operand, fun side => (h.child side).mono hknown hsettled⟩

theorem BuiltUp.mono {l : List Branch} (h : src.BuiltUp store settled l)
    (hsettled : ∀ ty, settled = some ty → settled' = some ty) :
    src.BuiltUp store settled' l := by
  induction h with
  | nil => exact .nil
  | cons hb _ ih => exact .cons (hb.mono (fun _ hc => hc) hsettled) ih

theorem BuiltUp.built {l : List Branch} (h : src.BuiltUp store settled l) {b : Branch}
    (hb : b ∈ l) : ∃ row, src.Built store l settled row b := by
  induction h with
  | nil => cases hb
  | @cons row d rest hd hrest ih =>
    have hweaken : ∀ b ∈ rest, b ∈ d :: rest := fun _ hc => List.mem_cons_of_mem d hc
    rcases List.mem_cons.mp hb with rfl | hmem
    · exact ⟨row, hd.mono hweaken fun _ hty => hty⟩
    · obtain ⟨i, hi⟩ := ih hmem
      exact ⟨i, hi.mono hweaken fun _ hty => hty⟩

/-! ### Open rows are reachable -/

namespace Consistent

variable {c c' : Compilation}

theorem attribute? (h : src.Consistent store c) (identifier : String) :
    c.store.attribute? identifier = store.attribute? identifier := by
  rw [h.store]
  rfl

theorem blames (h : src.Consistent store c) : c.store.blames = store.blames := by
  rw [h.store]

/-- Along linked rows every row that waits leads to the rows above it. -/
theorem refers_of_linked (h : src.Consistent store c) :
    ∀ {upper lower : OpenRow} {rest above : List OpenRow},
      c.openRows = above ++ upper :: lower :: rest → src.table.Refers lower.row upper.row := by
  intro upper lower rest above heq
  have hlinked : (upper :: lower :: rest).IsChain src.Awaits :=
    (heq ▸ h.linked).right_of_append
  have hawaits : src.Awaits upper lower := hlinked.rel
  have hupper : src.table.nodeIds[upper.row]? = some upper.id :=
    h.opened upper (by rw [heq]; simp)
  exact refers_of_sequel hawaits hupper

theorem reachable_suffix (h : src.Consistent store c) {o : OpenRow} {above below : List OpenRow}
    (heq : c.openRows = above ++ o :: below) : src.table.Reachable o.row := by
  -- from the lowest row upwards
  induction below generalizing o above with
  | nil =>
    have hlast := h.lowest
    rw [heq] at hlast
    have hrow : o.row = 0 := by simpa using hlast
    rw [hrow]
    exact Table.reachable_first _
  | cons lower rest ih =>
    have hsplit : c.openRows = (above ++ [o]) ++ lower :: rest := by simp [heq]
    have hlower : src.table.Reachable lower.row := ih hsplit
    exact hlower.step (h.refers_of_linked heq)

theorem reachable (h : src.Consistent store c) {o : OpenRow} (ho : o ∈ c.openRows) :
    src.table.Reachable o.row := by
  obtain ⟨above, below, heq⟩ := List.append_of_mem ho
  exact h.reachable_suffix heq

theorem leads_to_focus (h : src.Consistent store c) {o : OpenRow} (ho : o ∈ c.openRows) :
    ReflTransGen src.table.Refers o.row c.focus.row.row := by
  obtain ⟨above, below, heq⟩ := List.append_of_mem ho
  clear ho
  -- from the row in focus downwards: each row that is passed refers to the one above it
  induction above using List.reverseRecOn generalizing o below with
  | nil =>
    have hfocus : c.focus.row = o := (List.cons.inj heq).1
    rw [hfocus]
  | append_singleton above upper ih =>
    have hsplit : c.openRows = above ++ upper :: o :: below := by simp [heq]
    exact ReflTransGen.head (h.refers_of_linked hsplit) (ih (o :: below) hsplit)

theorem focus_mem (c : Compilation) : c.focus.row ∈ c.openRows :=
  List.mem_cons_self ..

theorem nodup (h : src.Consistent store c) (ht : src.table.Indexed) :
    (c.openRows.map (·.id) ++ (c.compiled.map (·.id) ++ c.unopened.map (·.1))).Nodup :=
  h.rows.nodup_iff.mpr ht.distinct

theorem cell_focus (h : src.Consistent store c) :
    src.table.cell c.focus.row.row nodeHeading = c.focus.row.id :=
  (Table.nodeIds_getElem?_eq_some.mp (h.opened _ (focus_mem c))).2

theorem built_branch {r : OpenRow} {t f : Node} {a : Attribute} {resolved : Store} {op : Operator}
    (h : src.Consistent store c) (hfocus : c.focus = .close r t f)
    (hattr : c.store.resolve (src.table.cell r.row attributeHeading) = .ok (a, resolved))
    (hop : Operator.parse? (src.table.cell r.row operatorHeading) = some op) :
    src.Built store c.compiled c.agreement.type? r.row (src.branch r a op t f) := by
  have hmem : r ∈ c.openRows := by
    have hfirst := focus_mem c
    rw [hfocus] at hfirst
    exact hfirst
  have htested := (Store.resolve_eq_ok hattr).1
  rw [h.attribute?] at htested
  obtain ⟨htrue, hfalse⟩ := h.onFalse r t f hfocus
  refine ⟨h.reachable hmem, h.opened r hmem, htested, hop, rfl, ?_⟩
  intro side
  cases side with
  | onTrue => exact h.onTrue r hmem t htrue
  | onFalse => exact hfalse

end Consistent

end Source

end DecisionTable
