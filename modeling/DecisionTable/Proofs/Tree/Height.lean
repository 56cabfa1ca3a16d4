import DecisionTable.Proofs.Tree.Arrival
import DecisionTable.Proofs.Tree.Path

/-!
# The longest way down

The height of a node is the number of decisions on the longest way from it to a leaf. An evaluation
takes one of the ways, so it makes no more decisions than that, and it comes to no node twice.
-/

namespace DecisionTable

open Relation

theorem Decision.side_or_failure (d : Decision) (now : Store) (subject : Subject) :
    (∃ side : Side, d.holds now subject = .ok side.held) ∨
      ∃ e, d.holds now subject = .error e := by
  cases d.holds now subject with
  | error e => exact Or.inr ⟨e, rfl⟩
  | ok held =>
    cases held with
    | true => exact Or.inl ⟨.onTrue, rfl⟩
    | false => exact Or.inl ⟨.onFalse, rfl⟩

namespace Node

/-- The number of decisions on the longest way from a node to a leaf. -/
def height : Node → Nat
  | leaf .. => 0
  | branch _ _ t f => 1 + max t.height f.height

/-- The nodes that an evaluation comes to, from a node on. -/
def route (now : Store) (subject : Subject) : Node → List Node
  | leaf id l => [leaf id l]
  | branch id d t f =>
    branch id d t f ::
      match d.holds now subject with
      | .ok true => t.route now subject
      | .ok false => f.route now subject
      | .error _ => []

variable {now : Store} {subject : Subject} {n m : Node} {way : List Node} {known : List Branch}

theorem height_branch (b : Branch) :
    b.node.height = 1 + max (b.child .onTrue).height (b.child .onFalse).height := rfl

theorem height_child (b : Branch) (side : Side) : (b.child side).height < b.node.height := by
  rw [height_branch]
  cases side with
  | onTrue => omega
  | onFalse => omega

theorem exists_higher_child (b : Branch) : ∃ side, b.node.height = 1 + (b.child side).height := by
  rw [height_branch]
  rcases Nat.le_total (b.child .onTrue).height (b.child .onFalse).height with hle | hle
  · exact ⟨.onFalse, by omega⟩
  · exact ⟨.onTrue, by omega⟩

/-! ### Ways -/

theorem length_branchesOn_le (h : (n :: way).IsChain Leads) :
    (branchesOn (n :: way)).length ≤ n.height := by
  induction way generalizing n with
  | nil =>
    cases n with
    | leaf id l => exact Nat.zero_le _
    | branch id d t f =>
      have hone : (branchesOn [branch id d t f]).length = 1 := rfl
      rw [hone, height]
      omega
  | cons next way ih =>
    have hfirst : Leads n next := h.rel
    have hrest := ih h.tail
    obtain ⟨b, side⟩ := hfirst
    have hlower := height_child b side
    rw [branchesOn_branch, List.length_cons]
    omega

theorem exists_longest (n : Node) :
    ∃ way, (n :: way).IsChain Leads ∧ (∃ id l, (n :: way).getLast? = some (leaf id l)) ∧
      (branchesOn (n :: way)).length = n.height := by
  induction n using child_induction with
  | leaf id l => exact ⟨[], .singleton _, ⟨id, l, rfl⟩, rfl⟩
  | branch b ih =>
    obtain ⟨side, hheight⟩ := exists_higher_child b
    obtain ⟨way, hchain, ⟨id, l, hlast⟩, hlength⟩ := ih side
    refine ⟨b.child side :: way, .cons_cons (.mk b side) hchain, ⟨id, l, ?_⟩, ?_⟩
    · rw [List.getLast?_cons_cons]
      exact hlast
    · rw [branchesOn_branch, List.length_cons, hlength, hheight]
      omega

/-- A way has no branch twice, so there are no more decisions on it than branches. -/
theorem height_le_length (hf : Branch.Family known) (hn : n.Within known) :
    n.height ≤ known.length := by
  obtain ⟨way, hchain, _, hlength⟩ := exists_longest n
  have hnodup : (branchesOn (n :: way)).Nodup := nodup_branchesOn (nodup_of_chain hchain)
  have hknown : branchesOn (n :: way) ⊆ known := by
    intro b hb
    exact mem_of_within (within_of_leads hf (leads_of_mem hchain (mem_branchesOn.mp hb)) hn)
  rw [← hlength]
  exact List.Nodup.length_le_of_subset hnodup hknown

/-! ### Evaluations -/

theorem leads_of_goes (h : Goes now subject n m) : Leads n m := by
  obtain ⟨b, side, _⟩ := h
  exact .mk b side

theorem route_of_holds {b : Branch} {side : Side}
    (h : b.decision.holds now subject = .ok side.held) :
    b.node.route now subject = b.node :: (b.child side).route now subject := by
  simp only [Branch.node, route, h]
  cases side with
  | onTrue => rfl
  | onFalse => rfl

theorem route_of_fails {b : Branch} {e : DecisionFailure}
    (h : b.decision.holds now subject = .error e) : b.node.route now subject = [b.node] := by
  simp only [Branch.node, route, h]

theorem exists_route_eq (now : Store) (subject : Subject) (n : Node) :
    ∃ way, n.route now subject = n :: way := by
  cases n with
  | leaf id l => exact ⟨[], rfl⟩
  | branch id d t f => exact ⟨_, rfl⟩

/-- An evaluation goes along a way, from its first node to the node that gives the result. -/
structure Takes (now : Store) (subject : Subject) (n : Node) (way : List Node) : Prop where
  first : way.head? = some n
  steps : way.IsChain (Goes now subject)
  /-- At the end there is a leaf or a branch whose decision fails. -/
  last : ∃ m, way.getLast? = some m ∧ n.evaluate now subject = m.evaluate now subject ∧
    ((∃ id l, m = leaf id l) ∨ ∃ (b : Branch) (e : DecisionFailure),
      m = b.node ∧ b.decision.holds now subject = .error e)

theorem takes_route (now : Store) (subject : Subject) (n : Node) :
    Takes now subject n (n.route now subject) := by
  induction n using child_induction with
  | leaf id l => exact ⟨rfl, .singleton _, leaf id l, rfl, rfl, Or.inl ⟨id, l, rfl⟩⟩
  | branch b ih =>
    rcases b.decision.side_or_failure now subject with ⟨side, hheld⟩ | ⟨e, hfails⟩
    · obtain ⟨_, hsteps, m, hlast, hresult, hend⟩ := ih side
      have hgoes : Goes now subject b.node (b.child side) := .mk b side hheld
      obtain ⟨way, hway⟩ := exists_route_eq now subject (b.child side)
      rw [route_of_holds hheld]
      rw [hway] at hsteps hlast ⊢
      refine ⟨rfl, .cons_cons hgoes hsteps, m, ?_, (evaluate_goes hgoes).trans hresult, hend⟩
      rw [List.getLast?_cons_cons]
      exact hlast
    · rw [route_of_fails hfails]
      exact ⟨rfl, .singleton _, b.node, rfl, rfl, Or.inr ⟨b, e, rfl, hfails⟩⟩

theorem chain_route (now : Store) (subject : Subject) (n : Node) :
    (n.route now subject).IsChain Leads :=
  (takes_route now subject n).steps.imp fun _ _ => leads_of_goes

/-- The decisions that are made are those of branches on the route. -/
theorem decisions_sublist (now : Store) (subject : Subject) (n : Node) :
    ((n.decisions now subject).map (·.node)).Sublist
      ((branchesOn (n.route now subject)).map (·.id)) := by
  induction n using child_induction with
  | leaf id l => exact .slnil
  | branch b ih =>
    rcases b.decision.side_or_failure now subject with ⟨side, hheld⟩ | ⟨e, hfails⟩
    · have hdecisions : b.node.decisions now subject
          = ⟨b.id, b.decision, side.held⟩ :: (b.child side).decisions now subject := by
        simp only [Branch.node, decisions, hheld]
        cases side with
        | onTrue => rfl
        | onFalse => rfl
      rw [hdecisions, route_of_holds hheld, branchesOn_branch]
      exact (ih side).cons_cons b.id
    · have hnone : b.node.decisions now subject = [] := by
        simp only [Branch.node, decisions, hfails]
      rw [hnone]
      exact List.nil_sublist _

/-- No evaluation makes more decisions than the height of the node at which it begins. -/
theorem length_route_le (now : Store) (subject : Subject) (n : Node) :
    (branchesOn (n.route now subject)).length ≤ n.height := by
  have hchain := chain_route now subject n
  obtain ⟨way, hway⟩ := exists_route_eq now subject n
  rw [hway] at hchain ⊢
  exact length_branchesOn_le hchain

theorem nodup_route (now : Store) (subject : Subject) (n : Node) :
    (n.route now subject).Nodup :=
  nodup_of_chain (chain_route now subject n)

end Node

end DecisionTable
