import DecisionTable.Proofs.Compile.Shape
import Mathlib.Data.List.Chain
import Mathlib.Logic.Relation

/-!
# Ways through a tree

A branch leads to the two nodes that follow it. What a walk meets is what the root leads to, and as
sizes decrease, no way down a tree comes to a node twice.
-/

namespace DecisionTable

open Relation

namespace Node

/-- A node follows another one, which is a branch, on one of its sides. -/
inductive Leads : Node → Node → Prop where
  | mk (b : Branch) (side : Side) : Leads b.node (b.child side)

variable {n m : Node} {way : List Node} {known : List Branch}

/-- Induction in which the two nodes after a branch are one case. -/
@[elab_as_elim]
theorem child_induction {P : Node → Prop} (n : Node) (leaf : ∀ id l, P (.leaf id l))
    (branch : ∀ b : Branch, (∀ side, P (b.child side)) → P b.node) : P n := by
  induction n with
  | leaf id l => exact leaf id l
  | branch id d t f iht ihf =>
    refine branch ⟨id, d, t, f⟩ ?_
    intro side
    cases side with
    | onTrue => exact iht
    | onFalse => exact ihf

theorem size_of_leads (h : Leads n m) : m.size < n.size := by
  obtain ⟨b, side⟩ := h
  exact b.size_child side

/-- The branches on a way. -/
def branchesOn (way : List Node) : List Branch :=
  way.filterMap branch?

theorem branchesOn_branch (b : Branch) (way : List Node) :
    branchesOn (b.node :: way) = b :: branchesOn way := rfl

theorem mem_branchesOn {b : Branch} : b ∈ branchesOn way ↔ b.node ∈ way := by
  simp [branchesOn, List.mem_filterMap, branch?_eq_some]

theorem nodup_branchesOn (h : way.Nodup) : (branchesOn way).Nodup := by
  refine h.filterMap ?_
  intro n m b hn hm
  rw [branch?_eq_some.mp hn, branch?_eq_some.mp hm]

/-- A way that begins in a family of branches stays in it. -/
theorem within_of_leads (hf : Branch.Family known) (h : ReflTransGen Leads n m)
    (hn : n.Within known) : m.Within known := by
  induction h with
  | refl => exact hn
  | tail _ hleads ih =>
    obtain ⟨b, side⟩ := hleads
    exact within_child hf b ih side

theorem nodup_of_chain (h : way.IsChain Leads) : way.Nodup := by
  have hsizes : way.IsChain (fun n m => m.size < n.size) :=
    h.imp fun _ _ hleads => size_of_leads hleads
  have htrans : IsTrans Node (fun n m => m.size < n.size) :=
    ⟨fun _ _ _ hnm hmk => Nat.lt_trans hmk hnm⟩
  refine hsizes.pairwise.imp ?_
  intro n m hlt heq
  rw [heq] at hlt
  exact Nat.lt_irrefl _ hlt

theorem leads_of_mem (h : (n :: way).IsChain Leads) (hm : m ∈ n :: way) :
    ReflTransGen Leads n m := by
  induction way generalizing n with
  | nil =>
    rw [List.mem_singleton.mp hm]
  | cons next way ih =>
    rcases List.mem_cons.mp hm with rfl | hmem
    · exact .refl
    · have hfirst : Leads n next := h.rel
      exact .head hfirst (ih h.tail hmem)

end Node

namespace Tree

variable {tree : Tree} {known : List Branch} {n : Node}

/-- A walk meets the nodes that the root leads to. -/
theorem mem_nodes_iff (hf : Branch.Family known) (hroot : tree.root.Within known) :
    n ∈ tree.nodes ↔ ReflTransGen Node.Leads tree.root n := by
  constructor
  · intro hn
    have hdown : ∀ b : Branch, ReflTransGen Node.Leads tree.root b.node →
        ∀ side, ReflTransGen Node.Leads tree.root (b.child side) :=
      fun b hb side => hb.tail (.mk b side)
    exact nodes_forall hdown .refl n hn
  · intro h
    obtain ⟨hfirst, hfollow⟩ := nodes_meet hf hroot
    induction h with
    | refl => exact hfirst
    | tail _ hleads ih =>
      obtain ⟨b, side⟩ := hleads
      exact hfollow b ih side

theorem mem_nodes_iff_leads {t : Table} {store : Store} {baseUri : String}
    (h : (compile t store baseUri).tree = .ok tree) :
    n ∈ tree.nodes ↔ ReflTransGen Node.Leads tree.root n := by
  obtain ⟨known, root, hf, hroot, hwithin⟩ := exists_family h
  rw [← hroot] at hwithin
  exact mem_nodes_iff hf hwithin

end Tree

end DecisionTable
