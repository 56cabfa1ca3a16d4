import DecisionTable.Proofs.Compile.Shape
import DecisionTable.Proofs.Tree.Decision

/-!
# Where an evaluation arrives

An evaluation goes from a branch to the node on the side that the decision picks. It comes to an end
at a leaf, which gives the outcome, or at a branch whose decision cannot be made, which gives the
failure. In a compiled tree it arrives at branches of the tree only.
-/

namespace DecisionTable

open Relation

/-- The outcome of a decision that leads to a side. -/
def Side.held : Side → Bool
  | .onTrue => true
  | .onFalse => false

namespace Node

/-- One step of the evaluation of a subject. -/
inductive Goes (now : Store) (subject : Subject) : Node → Node → Prop where
  | mk (b : Branch) (side : Side) (h : b.decision.holds now subject = .ok side.held) :
      Goes now subject b.node (b.child side)

variable {now : Store} {subject : Subject} {n m : Node} {b : Branch} {e : DecisionFailure}

theorem evaluate_goes (h : Goes now subject n m) :
    n.evaluate now subject = m.evaluate now subject := by
  obtain ⟨b, side, hheld⟩ := h
  simp only [Branch.node, evaluate, hheld]
  cases side with
  | onTrue => rfl
  | onFalse => rfl

theorem evaluate_of_goes (h : ReflTransGen (Goes now subject) n m) :
    n.evaluate now subject = m.evaluate now subject := by
  induction h with
  | refl => rfl
  | tail _ hgoes ih => exact ih.trans (evaluate_goes hgoes)

theorem evaluate_of_fails (h : b.decision.holds now subject = .error e) :
    b.node.evaluate now subject = .error e := by
  simp only [Branch.node, evaluate, h]

/-- An evaluation ends at a leaf or at a branch whose decision fails. -/
theorem goes_to_end (now : Store) (subject : Subject) (n : Node) :
    ∃ m, ReflTransGen (Goes now subject) n m ∧
      ((∃ id l, m = leaf id l) ∨
        ∃ (b : Branch) (e : DecisionFailure), m = b.node ∧ b.decision.holds now subject = .error e)
      := by
  induction n with
  | leaf id l => exact ⟨leaf id l, .refl, Or.inl ⟨id, l, rfl⟩⟩
  | branch id d t f iht ihf =>
    cases hholds : d.holds now subject with
    | error e => exact ⟨branch id d t f, .refl, Or.inr ⟨⟨id, d, t, f⟩, e, rfl, hholds⟩⟩
    | ok held =>
      cases held with
      | true =>
        obtain ⟨m, hgoes, hend⟩ := iht
        exact ⟨m, .head (.mk ⟨id, d, t, f⟩ .onTrue hholds) hgoes, hend⟩
      | false =>
        obtain ⟨m, hgoes, hend⟩ := ihf
        exact ⟨m, .head (.mk ⟨id, d, t, f⟩ .onFalse hholds) hgoes, hend⟩

/-- An evaluation that begins in a family of branches stays in it. -/
theorem within_of_goes {known : List Branch} (hf : Branch.Family known)
    (h : ReflTransGen (Goes now subject) n m) (hn : n.Within known) : m.Within known := by
  induction h with
  | refl => exact hn
  | tail _ hgoes ih =>
    obtain ⟨b, side, _⟩ := hgoes
    exact within_child hf b ih side

end Node

namespace Tree

/-- The evaluation of a subject arrives at a branch. -/
def Arrives (tree : Tree) (now : Store) (subject : Subject) (b : Branch) : Prop :=
  ReflTransGen (Node.Goes now subject) tree.root b.node

variable {tree : Tree} {now : Store} {subject : Subject} {b : Branch} {e : DecisionFailure}

theorem evaluate_of_fails (h : tree.Arrives now subject b)
    (hfails : b.decision.holds now subject = .error e) : tree.evaluate now subject = .error e :=
  (Node.evaluate_of_goes h).trans (Node.evaluate_of_fails hfails)

/-- A failure is that of a branch at which the evaluation arrives. -/
theorem evaluate_eq_error : tree.evaluate now subject = .error e ↔
    ∃ b : Branch, tree.Arrives now subject b ∧ b.decision.holds now subject = .error e := by
  constructor
  · intro h
    obtain ⟨m, hgoes, hend⟩ := Node.goes_to_end now subject tree.root
    have hm : m.evaluate now subject = .error e := (Node.evaluate_of_goes hgoes).symm.trans h
    rcases hend with ⟨id, l, rfl⟩ | ⟨b, e', rfl, hfails⟩
    · cases hm
    · obtain rfl := Except.error.inj ((Node.evaluate_of_fails hfails).symm.trans hm)
      exact ⟨b, hgoes, hfails⟩
  · rintro ⟨b, harrives, hfails⟩
    exact evaluate_of_fails harrives hfails

end Tree

/-! ### Compiled trees -/

variable {t : Table} {store now : Store} {baseUri : String} {tree : Tree} {subject : Subject}
  {b : Branch}

theorem mem_of_arrives (h : (compile t store baseUri).tree = .ok tree)
    (harrives : tree.Arrives now subject b) : b ∈ tree.branches := by
  obtain ⟨_, compiled, root, type, hcomplete, rfl, _⟩ := compile_eq_ok h
  have hroot : root.node.Within compiled := .branch root hcomplete.root_mem
  have hwithin := Node.within_of_goes hcomplete.family harrives hroot
  exact List.mem_reverse.mpr (Node.mem_of_within hwithin)

/-- The attributes of a compiled tree are known to the store that it was compiled against. -/
theorem attribute?_tested (h : (compile t store baseUri).tree = .ok tree)
    (hb : b ∈ tree.branches) :
    store.attribute? b.decision.tested.identifier = some b.decision.tested := by
  obtain ⟨_, compiled, root, type, hcomplete, rfl, _⟩ := compile_eq_ok h
  obtain ⟨row, hrow⟩ := hcomplete.builtUp.built (List.mem_reverse.mp hb)
  have htested := hrow.tested
  rw [Store.identifier_of_attribute? htested]
  exact htested

theorem reached_of_later (hstore : store.Reached)
    (hlater : (compile t store baseUri).store.Later now) : now.Reached :=
  hstore.later (.head (.compile store t baseUri) hlater)

/-- What comes of the decisions of a compiled tree, however the store has changed since. -/
theorem ends_of_arrives (hstore : store.Reached) (h : (compile t store baseUri).tree = .ok tree)
    (hlater : (compile t store baseUri).store.Later now) (harrives : tree.Arrives now subject b) :
    b.decision.Ends now subject (b.decision.holds now subject) := by
  have hb := mem_of_arrives h harrives
  have hkeeps := (Store.keeps_compile store t baseUri).trans (Store.keeps_later hlater)
  have htested := hkeeps _ _ (attribute?_tested h hb)
  exact Decision.ends_holds (reached_of_later hstore hlater) htested

end DecisionTable
