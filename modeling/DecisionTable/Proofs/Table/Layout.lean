import DecisionTable.Proofs.Table.Graph
import DecisionTable.Proofs.Table.Index

/-!
# The layout of tables

A table can list its rows after the first one in another order, its columns in another order, and
further columns that are not required; and it can have rows that the first row does not lead to.
All this is layout. Tables that differ only in their layout say the same in the rows that the first
row leads to, although these rows stand at other places.
-/

namespace DecisionTable

open Relation

namespace Table

/-- A change of the layout of a table. -/
inductive Relaid : Table → Table → Prop where
  /-- The rows after the first one are listed in another order. -/
  | reordered {t t' : Table} (first : List String) (rest rest' : List (List String))
      (hheadings : t'.headings = t.headings) (hrows : t.rows = first :: rest)
      (hrows' : t'.rows = first :: rest') (hperm : rest'.Perm rest) : Relaid t t'
  /-- The columns are listed in another order, and columns that are not required are added or
  removed. -/
  | columns {t t' : Table} (hrequired : ∀ h ∈ requiredHeadings, h ∈ t.headings ↔ h ∈ t'.headings)
      (hlength : t'.rows.length = t.rows.length)
      (hcells : ∀ i h, h ∈ t.headings → h ∈ t'.headings → t'.cell i h = t.cell i h) : Relaid t t'
  /-- A row that the first row does not lead to is removed. -/
  | dropped {t t' : Table} (before after : List (List String)) (row : List String)
      (hheadings : t'.headings = t.headings) (hrows : t.rows = before ++ row :: after)
      (hrows' : t'.rows = before ++ after) (hfree : ¬ t.Reachable before.length) : Relaid t t'

/-- A row of one table and a row of another say the same. -/
def SameRow (t t' : Table) (i i' : Nat) : Prop :=
  ∀ h ∈ requiredHeadings, t'.cell i' h = t.cell i h

/-- What one table says from its first row on, another says too. -/
structure Covers (t t' : Table) : Prop where
  first : t.SameRow t' 0 0
  rows : ∀ i, t.Reachable i → ∃ i', t'.Reachable i' ∧ t.SameRow t' i i'

variable {t t' t'' : Table} {i i' j : Nat} {id : String}

/-! ### Reachable rows -/

theorem heading_mem_required (side : Side) : side.heading ∈ requiredHeadings := by
  cases side with
  | onTrue => decide
  | onFalse => decide

theorem Reachable.lt_length (h : t.Reachable i) (hrows : t.rows ≠ []) : i < t.rows.length := by
  cases h with
  | refl => exact List.length_pos_of_ne_nil hrows
  | tail _ hrefers =>
    obtain ⟨_, _, _, hid⟩ := hrefers
    exact (nodeIds_getElem?_eq_some.mp hid).1

theorem SameRow.nodeId (h : t.SameRow t' i i') (hid : t.nodeIds[i]? = some id)
    (hlt : i' < t'.rows.length) : t'.nodeIds[i']? = some id := by
  have hcell := h nodeHeading (by decide)
  rw [(nodeIds_getElem?_eq_some.mp hid).2] at hcell
  exact nodeIds_getElem?_eq_some.mpr ⟨hlt, hcell⟩

theorem SameRow.target? (h : t.SameRow t' i i') (side : Side) :
    Reference.target? (t'.cell i' side.heading) = Reference.target? (t.cell i side.heading) := by
  rw [h side.heading (heading_mem_required side)]

/-- The first row does not lead to a row to which no other row refers. -/
theorem not_reachable_of_unreferred (hrows : t.rows ≠ []) (hj : j ≠ 0)
    (hother : ∀ i < t.rows.length, i ≠ j → ∀ side : Side,
      Reference.target? (t.cell i side.heading) ≠ t.nodeIds[j]?) : ¬ t.Reachable j := by
  have hall : ∀ i, t.Reachable i → i ≠ j := by
    intro i hi
    induction hi with
    | refl => exact hj.symm
    | @tail i k hi hrefers hne =>
      rintro rfl
      obtain ⟨side, id, htarget, hid⟩ := hrefers
      have hlt : i < t.rows.length := Reachable.lt_length hi hrows
      exact hother i hlt hne side (htarget.trans hid.symm)
  exact fun h => hall j h rfl

/-- One table covers another one if every row that its first row leads to is in the other. -/
theorem covers_of_rows (hfirst : t.SameRow t' 0 0)
    (hrows : ∀ j, t.Reachable j → j < t.rows.length →
      ∃ j' < t'.rows.length, t.SameRow t' j j') : t.Covers t' := by
  refine ⟨hfirst, ?_⟩
  intro i hi
  -- along the references that lead to the row
  induction hi with
  | refl => exact ⟨0, reachable_first t', hfirst⟩
  | @tail i j hi hrefers ih =>
    obtain ⟨i', hi', hsame⟩ := ih
    have hj : t.Reachable j := ReflTransGen.tail hi hrefers
    obtain ⟨side, id, htarget, hid⟩ := hrefers
    have hlt : j < t.rows.length := (nodeIds_getElem?_eq_some.mp hid).1
    obtain ⟨j', hlt', hsame'⟩ := hrows j hj hlt
    have hrefers' : t'.Refers i' j' :=
      ⟨side, id, (hsame.target? side).trans htarget, hsame'.nodeId hid hlt'⟩
    exact ⟨j', hi'.step hrefers', hsame'⟩

theorem Covers.refl (t : Table) : t.Covers t :=
  ⟨fun _ _ => rfl, fun i hi => ⟨i, hi, fun _ _ => rfl⟩⟩

theorem Covers.trans (h : t.Covers t') (h' : t'.Covers t'') : t.Covers t'' := by
  refine ⟨fun heading hh => (h'.first heading hh).trans (h.first heading hh), ?_⟩
  intro i hi
  obtain ⟨i', hi', hsame⟩ := h.rows i hi
  obtain ⟨i'', hi'', hsame'⟩ := h'.rows i' hi'
  exact ⟨i'', hi'', fun heading hh => (hsame' heading hh).trans (hsame heading hh)⟩

/-! ### Changes of the layout -/

/-- Rows with the same cells under the same headings say the same. -/
theorem sameRow_of_rows (hheadings : t'.headings = t.headings)
    (hrow : t'.rows.getD i' [] = t.rows.getD i []) : t.SameRow t' i i' := by
  intro h _
  unfold cell cellOf
  rw [hrow, hheadings]

theorem covers_of_mem (hheadings : t'.headings = t.headings)
    (hfirst : t'.rows.head? = t.rows.head?)
    (hrows : ∀ j (hlt : j < t.rows.length), t.Reachable j → t.rows[j] ∈ t'.rows) :
    t.Covers t' := by
  refine covers_of_rows (sameRow_of_rows hheadings ?_) ?_
  · simp only [List.getD, ← List.head?_eq_getElem?, hfirst]
  · intro j hj hlt
    obtain ⟨j', hlt', hrow⟩ := List.mem_iff_getElem.mp (hrows j hlt hj)
    refine ⟨j', hlt', sameRow_of_rows hheadings ?_⟩
    simp only [List.getD, List.getElem?_eq_getElem hlt, List.getElem?_eq_getElem hlt', hrow]

theorem covers_of_columns (hrequired : ∀ h ∈ requiredHeadings, h ∈ t.headings ↔ h ∈ t'.headings)
    (hlength : t'.rows.length = t.rows.length)
    (hcells : ∀ i h, h ∈ t.headings → h ∈ t'.headings → t'.cell i h = t.cell i h) :
    t.Covers t' := by
  have hsame : ∀ i, t.SameRow t' i i := by
    intro i h hh
    by_cases hmem : h ∈ t.headings
    · exact hcells i h hmem ((hrequired h hh).mp hmem)
    · have hmem' : h ∉ t'.headings := fun hm => hmem ((hrequired h hh).mpr hm)
      simp only [cell, cellOf, List.idxOf?_eq_none_iff.mpr hmem,
        List.idxOf?_eq_none_iff.mpr hmem']
  refine covers_of_rows (hsame 0) ?_
  intro j _ hlt
  exact ⟨j, by omega, hsame j⟩

theorem covers_of_relaid (h : t.Relaid t') : t.Covers t' ∧ t'.Covers t := by
  cases h with
  | reordered first rest rest' hheadings hrows hrows' hperm =>
    have hmem : ∀ row, row ∈ t.rows ↔ row ∈ t'.rows := by
      intro row
      rw [hrows, hrows', List.mem_cons, List.mem_cons, hperm.mem_iff]
    have hfirst : t'.rows.head? = t.rows.head? := by rw [hrows, hrows']; rfl
    exact ⟨covers_of_mem hheadings hfirst
        fun j hlt _ => (hmem _).mp (List.getElem_mem hlt),
      covers_of_mem hheadings.symm hfirst.symm
        fun j hlt _ => (hmem _).mpr (List.getElem_mem hlt)⟩
  | columns hrequired hlength hcells =>
    refine ⟨covers_of_columns hrequired hlength hcells, ?_⟩
    exact covers_of_columns (fun h hh => (hrequired h hh).symm) hlength.symm
      fun i h hmem' hmem => (hcells i h hmem hmem').symm
  | dropped before after row hheadings hrows hrows' hfree =>
    have hne : before ≠ [] := by
      rintro rfl
      exact hfree (reachable_first t)
    have hfirst : t'.rows.head? = t.rows.head? := by
      rw [hrows, hrows', List.head?_append_of_ne_nil _ hne, List.head?_append_of_ne_nil _ hne]
    refine ⟨covers_of_mem hheadings hfirst ?_, covers_of_mem hheadings.symm hfirst.symm ?_⟩
    · intro j hlt hj
      -- the row is not the one that is removed, so it stands before that one or after it
      have hother : j ≠ before.length := fun heq => hfree (heq ▸ hj)
      simp only [hrows, hrows']
      rcases Nat.lt_or_gt_of_ne hother with hbefore | hafter
      · rw [List.getElem_append_left hbefore]
        exact List.mem_append_left _ (List.getElem_mem hbefore)
      · rw [List.getElem_append_right (by omega), List.getElem_cons]
        rw [dif_neg (by omega)]
        exact List.mem_append_right _ (List.getElem_mem _)
    · intro j hlt _
      have hmem : t'.rows[j] ∈ before ++ after := hrows' ▸ List.getElem_mem hlt
      rw [hrows]
      rcases List.mem_append.mp hmem with hbefore | hafter
      · exact List.mem_append_left _ hbefore
      · exact List.mem_append_right _ (List.mem_cons_of_mem _ hafter)

/-- Tables that differ only in their layout cover each other. -/
theorem covers_of_eqvGen (h : EqvGen Relaid t t') : t.Covers t' ∧ t'.Covers t := by
  induction h with
  | rel _ _ hrelaid => exact covers_of_relaid hrelaid
  | refl t => exact ⟨.refl t, .refl t⟩
  | symm _ _ _ ih => exact ih.symm
  | trans _ _ _ _ _ ih ih' => exact ⟨ih.1.trans ih'.1, ih'.2.trans ih.2⟩

end Table

end DecisionTable
