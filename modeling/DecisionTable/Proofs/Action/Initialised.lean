import DecisionTable.Proofs.Session.Jobs
import DecisionTable.Proofs.Tree.Arrival

/-!
# Actions that are ready

An action is made ready once: the attribute of its outcomes is resolved and a table is compiled, both
against the store of the action. Whatever happens to the store later, it knows the attributes that
the action reads and the one that it writes.
-/

namespace DecisionTable

open Relation

namespace Action

variable {a : Action} {tree : Tree} {choice : Attribute} {now now' : Store} {b : Branch}
  {subject : Subject}

/-- An action has been made ready on a store, which may have changed since. -/
structure ReadyOn (a : Action) (tree : Tree) (choice : Attribute) (now : Store) : Prop where
  ready : a.ready = some (tree, choice)
  single : choice.cardinality = .single
  history : ∃ (before resolved : Store) (t : Table) (baseUri : String),
    before.resolve a.choiceAttribute = .ok (choice, resolved) ∧
      (compile t resolved baseUri).tree = .ok tree ∧
      (compile t resolved baseUri).store.Later now

theorem ReadyOn.later (h : a.ReadyOn tree choice now) (hlater : now.Later now') :
    a.ReadyOn tree choice now' := by
  obtain ⟨before, resolved, t, baseUri, hresolve, htree, hnow⟩ := h.history
  exact ⟨h.ready, h.single, before, resolved, t, baseUri, hresolve, htree, hnow.trans hlater⟩

theorem ReadyOn.attribute? (h : a.ReadyOn tree choice now) :
    now.attribute? choice.identifier = some choice := by
  obtain ⟨before, resolved, t, baseUri, hresolve, htree, hnow⟩ := h.history
  obtain ⟨hfound, hresolved⟩ := Store.resolve_eq_ok hresolve
  have hbefore : before.attribute? choice.identifier = some choice := by
    rw [Store.identifier_of_attribute? hfound]
    exact hfound
  have hknown : resolved.attribute? choice.identifier = some choice := by
    rw [hresolved]
    exact hbefore
  exact Store.keeps_later hnow _ _ (Store.keeps_compile resolved t baseUri _ _ hknown)

theorem ReadyOn.mem_of_arrives (h : a.ReadyOn tree choice now)
    (harrives : tree.Arrives now' subject b) : b ∈ tree.branches := by
  obtain ⟨before, resolved, t, baseUri, hresolve, htree, hnow⟩ := h.history
  exact DecisionTable.mem_of_arrives htree harrives

end Action

/-- The job that makes actions ready does so. -/
theorem Job.readyOn_of_prepare {k k' : KeptAction} {w w' : Workspace}
    (h : (prepare k).Gives w k' w') : ∃ tree choice, k'.store = k.store ∧
      k'.action = { k.action with ready := some (tree, choice) } ∧
      k'.action.ReadyOn tree choice (w'.stores.getD k'.store {}) := by
  unfold prepare at h
  obtain ⟨choice, w₁, hresolve, hrest⟩ := gives_bind h
  obtain ⟨s, hfound, hstores⟩ := gives_resolve hresolve
  -- the store is there, since nothing can be resolved against a store that is not
  have hplace : k.store < w.stores.length := by
    by_contra hmissing
    rw [List.getD_eq_getElem?_getD, List.getElem?_eq_none (Nat.le_of_not_lt hmissing)] at hfound
    cases hfound
  have hset : ∀ s', (w.stores.set k.store s').getD k.store {} = s' := by
    intro s'
    simp [List.getD_eq_getElem?_getD, hplace]
  dsimp only at hrest
  split at hrest
  · obtain ⟨u, w₂, hthrow, _⟩ := gives_bind hrest
    exact (not_gives_throw hthrow).elim
  · rename_i hmulti
    have hsingle : choice.cardinality = .single := by
      cases hcard : choice.cardinality with
      | single => rfl
      | multi => exact (hmulti hcard).elim
    obtain ⟨tree, w₂, hload, hlast⟩ := gives_bind hrest
    obtain ⟨rfl, rfl⟩ := gives_pure hlast
    obtain ⟨t, base, htree, hafter⟩ := gives_loadActionTree hload
    rw [hstores, hset] at htree hafter
    rw [List.set_set] at hafter
    refine ⟨tree, choice, rfl, rfl, rfl, hsingle, _, s, t, base, hfound, htree, ?_⟩
    dsimp only
    rw [hafter, hset]
    exact .refl

end DecisionTable
