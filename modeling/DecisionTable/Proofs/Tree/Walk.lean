import DecisionTable.Compile.Error
import DecisionTable.Tree.Walk
import Mathlib.Data.List.Nodup

/-!
# What a walk through a tree meets

A walk that begins at the root meets the root first, each branch once, and with every branch the
nodes that follow it. That a branch is passed over if its id has been seen does no harm, as long as
ids tell the branches of the tree apart.
-/

namespace DecisionTable

namespace Branch

def child (b : Branch) : Side → Node
  | .onTrue => b.onTrue
  | .onFalse => b.onFalse

theorem node_injective {b d : Branch} (h : b.node = d.node) : b = d := by
  cases b
  cases d
  simp only [node, Node.branch.injEq] at h
  obtain ⟨rfl, rfl, rfl, rfl⟩ := h
  rfl

theorem size_child (b : Branch) (side : Side) : (b.child side).size < b.node.size := by
  cases side with
  | onTrue => simp only [child, node, Node.size]; omega
  | onFalse => simp only [child, node, Node.size]; omega

end Branch

/-- A leaf, or one of the given branches. -/
inductive Node.Within (known : List Branch) : Node → Prop where
  | leaf (id : String) (l : TypedLiteral) : Within known (.leaf id l)
  | branch (b : Branch) (hb : b ∈ known) : Within known b.node

theorem Node.Within.mono {known known' : List Branch} {n : Node} (h : n.Within known)
    (hsub : known ⊆ known') : n.Within known' := by
  cases h with
  | leaf id l => exact .leaf id l
  | branch b hb => exact .branch b (hsub hb)

/-- Branches that lead to one another and to leaves only, and that their ids tell apart. -/
structure Branch.Family (known : List Branch) : Prop where
  unique : ∀ b ∈ known, ∀ d ∈ known, b.id = d.id → b = d
  child : ∀ b ∈ known, ∀ side : Side, (b.child side).Within known

namespace Node

variable {known : List Branch} {seen : List String} {stack visited : List Node} {n : Node}
  {b : Branch}

theorem mem_of_within (h : b.node.Within known) : b ∈ known := by
  generalize hn : b.node = n at h
  cases h with
  | leaf id l => cases hn
  | branch d hd => exact Branch.node_injective hn ▸ hd

theorem within_child (hf : Branch.Family known) (b : Branch) (hb : b.node.Within known)
    (side : Side) : (b.child side).Within known :=
  hf.child b (mem_of_within hb) side

theorem branch?_eq_some : n.branch? = some b ↔ n = b.node := by
  cases n with
  | leaf id l =>
    constructor
    · intro h
      cases h
    · intro h
      cases h
  | branch id d t f =>
    constructor
    · intro h
      obtain rfl := Option.some.inj h
      rfl
    · intro h
      exact congrArg some (Branch.node_injective (b := ⟨id, d, t, f⟩) h)

/-! ### Walks from a stack -/

/-- A node has been met by a walk if it was visited, or if it is a branch that had been seen
before. -/
def Met (seen : List String) (visited : List Node) (n : Node) : Prop :=
  n ∈ visited ∨ ∃ b : Branch, n = b.node ∧ b.id ∈ seen

theorem Met.cons {m : Node} (h : Met seen visited n) : Met seen (m :: visited) n :=
  h.imp_left (List.mem_cons_of_mem m)

theorem Met.mem (h : Met [] visited n) : n ∈ visited := by
  rcases h with hvisited | ⟨b, _, hseen⟩
  · exact hvisited
  · cases hseen

theorem Met.of_visited (hf : Branch.Family known) (hb : b ∈ known) (hn : n.Within known)
    (h : Met (b.id :: seen) visited n) : Met seen (b.node :: visited) n := by
  rcases h with hvisited | ⟨d, rfl, hseen⟩
  · exact Or.inl (List.mem_cons_of_mem _ hvisited)
  · rcases List.mem_cons.mp hseen with hid | hbefore
    · rw [hf.unique d (mem_of_within hn) b hb hid]
      exact Or.inl (List.mem_cons_self ..)
    · exact Or.inr ⟨d, rfl, hbefore⟩

theorem forall_next {P : Node → Prop} (hdown : ∀ b : Branch, P b.node → ∀ side, P (b.child side))
    (hb : P b.node) (hrest : ∀ m ∈ stack, P m) : ∀ m ∈ b.onTrue :: b.onFalse :: stack, P m := by
  intro m hm
  rcases List.mem_cons.mp hm with rfl | hm
  · exact hdown b hb .onTrue
  · rcases List.mem_cons.mp hm with rfl | hm
    · exact hdown b hb .onFalse
    · exact hrest m hm

/-- What every branch hands down to the nodes that follow it holds of all that is visited. -/
theorem visit_forall {P : Node → Prop} (hdown : ∀ b : Branch, P b.node → ∀ side, P (b.child side))
    (hstack : ∀ n ∈ stack, P n) : ∀ n ∈ visit seen stack, P n := by
  fun_induction visit seen stack with
  | case1 seen => exact hstack
  | case2 seen id l rest ih =>
    intro n hn
    rcases List.mem_cons.mp hn with rfl | hrest
    · exact hstack _ (List.mem_cons_self ..)
    · exact ih (fun m hm => hstack m (List.mem_cons_of_mem _ hm)) n hrest
  | case3 seen id d t f rest hseen ih =>
    exact ih fun m hm => hstack m (List.mem_cons_of_mem _ hm)
  | case4 seen id d t f rest hseen ih =>
    have hfirst : P (branch id d t f) := hstack _ (List.mem_cons_self ..)
    have hnext := forall_next (b := ⟨id, d, t, f⟩) hdown hfirst
      fun m hm => hstack m (List.mem_cons_of_mem _ hm)
    intro n hn
    rcases List.mem_cons.mp hn with rfl | hlater
    · exact hfirst
    · exact ih hnext n hlater

/-- A walk meets the nodes of its stack, and with each branch the nodes that follow it. -/
theorem visit_meets (seen : List String) (hf : Branch.Family known)
    (hstack : ∀ n ∈ stack, n.Within known) :
    (∀ n ∈ stack, Met seen (visit seen stack) n) ∧
    ∀ b : Branch, b.node ∈ visit seen stack →
      ∀ side, Met seen (visit seen stack) (b.child side) := by
  fun_induction visit seen stack with
  | case1 seen => exact ⟨fun n hn => (List.not_mem_nil hn).elim, fun b hb =>
    (List.not_mem_nil hb).elim⟩
  | case2 seen id l rest ih =>
    obtain ⟨hmet, hfollow⟩ := ih fun m hm => hstack m (List.mem_cons_of_mem _ hm)
    refine ⟨?_, ?_⟩
    · intro n hn
      rcases List.mem_cons.mp hn with rfl | hrest
      · exact Or.inl (List.mem_cons_self ..)
      · exact (hmet n hrest).cons
    · intro b hb side
      rcases List.mem_cons.mp hb with heq | hrest
      · cases heq
      · exact (hfollow b hrest side).cons
  | case3 seen id d t f rest hseen ih =>
    obtain ⟨hmet, hfollow⟩ := ih fun m hm => hstack m (List.mem_cons_of_mem _ hm)
    refine ⟨?_, hfollow⟩
    intro n hn
    rcases List.mem_cons.mp hn with rfl | hrest
    · exact Or.inr ⟨⟨id, d, t, f⟩, rfl, List.contains_iff_mem.mp hseen⟩
    · exact hmet n hrest
  | case4 seen id d t f rest hseen ih =>
    have hfirst : (branch id d t f).Within known := hstack _ (List.mem_cons_self ..)
    have hb : (⟨id, d, t, f⟩ : Branch) ∈ known := mem_of_within (b := ⟨id, d, t, f⟩) hfirst
    have hnext := forall_next (b := ⟨id, d, t, f⟩) (within_child hf) hfirst
      fun m hm => hstack m (List.mem_cons_of_mem _ hm)
    obtain ⟨hmet, hfollow⟩ := ih hnext
    -- only the branch itself is seen from here on, and it has just been visited
    have hnow : ∀ m ∈ t :: f :: rest,
        Met seen (branch id d t f :: visit (id :: seen) (t :: f :: rest)) m :=
      fun m hm => Met.of_visited hf hb (hnext m hm) (hmet m hm)
    refine ⟨?_, ?_⟩
    · intro n hn
      rcases List.mem_cons.mp hn with rfl | hrest
      · exact Or.inl (List.mem_cons_self ..)
      · exact hnow n (List.mem_cons_of_mem _ (List.mem_cons_of_mem _ hrest))
    · intro c hc side
      rcases List.mem_cons.mp hc with heq | hlater
      · obtain rfl : c = ⟨id, d, t, f⟩ := Branch.node_injective heq
        cases side with
        | onTrue => exact hnow t (List.mem_cons_self ..)
        | onFalse => exact hnow f (List.mem_cons_of_mem _ (List.mem_cons_self ..))
      · have hc' : c ∈ known := mem_of_within (visit_forall (within_child hf) hnext _ hlater)
        exact Met.of_visited hf hb (hf.child c hc' side) (hfollow c hlater side)

/-- A walk visits no branch that has been seen, and none twice. -/
theorem visit_nodup (seen : List String) (stack : List Node) :
    (∀ b ∈ (visit seen stack).filterMap branch?, b.id ∉ seen) ∧
    (((visit seen stack).filterMap branch?).map (·.id)).Nodup := by
  fun_induction visit seen stack with
  | case1 seen => exact ⟨fun b hb => (List.not_mem_nil hb).elim, List.nodup_nil⟩
  | case2 seen id l rest ih => exact ih
  | case3 seen id d t f rest hseen ih => exact ih
  | case4 seen id d t f rest hseen ih =>
    obtain ⟨hfresh, hnodup⟩ := ih
    have hid : id ∉ seen := fun h => hseen (List.contains_iff_mem.mpr h)
    have hcons : (branch id d t f :: visit (id :: seen) (t :: f :: rest)).filterMap branch?
        = ⟨id, d, t, f⟩ :: (visit (id :: seen) (t :: f :: rest)).filterMap branch? := rfl
    rw [hcons]
    refine ⟨?_, ?_⟩
    · intro b hb
      rcases List.mem_cons.mp hb with rfl | hlater
      · exact hid
      · exact fun h => hfresh b hlater (List.mem_cons_of_mem _ h)
    · rw [List.map_cons, List.nodup_cons]
      refine ⟨?_, hnodup⟩
      intro hagain
      obtain ⟨b, hb, heq⟩ := List.mem_map.mp hagain
      exact hfresh b hb (heq ▸ List.mem_cons_self ..)

end Node

/-! ### Walks from the root -/

namespace Tree

variable {tree : Tree} {known : List Branch} {b : Branch} {n : Node}

theorem mem_visitedBranches : b ∈ tree.visitedBranches ↔ b.node ∈ tree.nodes := by
  unfold visitedBranches
  rw [List.mem_filterMap]
  constructor
  · rintro ⟨n, hn, hbranch⟩
    rw [← Node.branch?_eq_some.mp hbranch]
    exact hn
  · exact fun h => ⟨b.node, h, rfl⟩

theorem mem_leaves {id : String} {l : TypedLiteral} :
    (id, l) ∈ tree.leaves ↔ Node.leaf id l ∈ tree.nodes := by
  unfold leaves
  rw [List.mem_filterMap]
  constructor
  · rintro ⟨n, hn, hleaf⟩
    cases n with
    | leaf id' l' =>
      obtain ⟨rfl, rfl⟩ := Prod.mk.inj (Option.some.inj hleaf)
      exact hn
    | branch => cases hleaf
  · exact fun h => ⟨_, h, rfl⟩

theorem visitedBranches_nodup (tree : Tree) : (tree.visitedBranches.map (·.id)).Nodup :=
  (Node.visit_nodup [] [tree.root]).2

theorem visitedBranches_head (h : tree.root = b.node) : tree.visitedBranches.head? = some b := by
  unfold visitedBranches nodes
  rw [h, Branch.node, Node.visit]
  rfl

theorem nodes_forall {P : Node → Prop} (hdown : ∀ b : Branch, P b.node → ∀ side, P (b.child side))
    (hroot : P tree.root) : ∀ n ∈ tree.nodes, P n := by
  refine Node.visit_forall hdown ?_
  intro n hn
  rw [List.mem_singleton.mp hn]
  exact hroot

variable (hf : Branch.Family known) (hroot : tree.root.Within known)

include hf hroot

theorem nodes_within : ∀ n ∈ tree.nodes, n.Within known :=
  nodes_forall (Node.within_child hf) hroot

/-- The root is met, and with every branch the nodes that follow it. -/
theorem nodes_meet : tree.root ∈ tree.nodes ∧
    ∀ b : Branch, b.node ∈ tree.nodes → ∀ side, b.child side ∈ tree.nodes := by
  have hstack : ∀ n ∈ [tree.root], n.Within known := by
    intro n hn
    rw [List.mem_singleton.mp hn]
    exact hroot
  obtain ⟨hmet, hfollow⟩ := Node.visit_meets [] hf hstack
  exact ⟨(hmet _ (List.mem_singleton_self _)).mem, fun b hb side => (hfollow b hb side).mem⟩

end Tree

end DecisionTable
