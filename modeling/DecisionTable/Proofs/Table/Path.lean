import DecisionTable.Proofs.Table.Graph

/-!
# The depth-first order of outcome cells

A path goes from outcome cell to outcome cell: from a row it takes one side, and if the cell there
refers to a row, it may go on from that row. Going depth first, and on the true side first, meets
the cells in the lexicographic order of their paths.
-/

namespace DecisionTable

open Relation

def Side.Before (a b : Side) : Prop :=
  a = .onTrue ∧ b = .onFalse

namespace Table

/-- The sides that are taken from a row, the first one first, lead to an outcome cell. -/
inductive Path (t : Table) : Nat → List Side → Nat → Side → Prop where
  | here (i : Nat) (side : Side) : Path t i [side] i side
  | through (i j k : Nat) (side last : Side) (id : String) (sides : List Side)
      (htarget : Reference.target? (t.cell i side.heading) = some id)
      (hid : t.nodeIds[j]? = some id) (hrest : Path t j sides k last) :
      Path t i (side :: sides) k last

/-- A cell that holds an outcome. -/
def IsLeaf (t : Table) (i : Nat) (side : Side) : Prop :=
  Reference.target? (t.cell i side.heading) = none

/-- The leaf cell that is met first from the first row on, depth first and the true side before the
false side: the path to it precedes every other path to a leaf cell. -/
def FirstLeaf (t : Table) (i : Nat) (side : Side) : Prop :=
  t.IsLeaf i side ∧ ∃ sides, t.Path 0 sides i side ∧
    ∀ sides' j side', t.Path 0 sides' j side' → t.IsLeaf j side' →
      sides' = sides ∨ List.Lex Side.Before sides sides'

variable {t : Table} {i j k : Nat} {side last : Side} {sides : List Side} {id : String}

theorem Path.concat (h : t.Path i sides k last)
    (htarget : Reference.target? (t.cell k last.heading) = some id)
    (hid : t.nodeIds[j]? = some id) (side : Side) : t.Path i (sides ++ [side]) j side := by
  induction h with
  | here i last => exact .through i j j last side id [side] htarget hid (.here j side)
  | through i l k first last name sides hfirst hname _ ih =>
    exact .through i l j first side name (sides ++ [side]) hfirst hname (ih htarget)

theorem Indexed.exists_id (ht : t.Indexed) (hi : t.Reachable i) :
    ∃ id, t.nodeIds[i]? = some id := by
  cases hi with
  | refl => exact ⟨_, ht.first⟩
  | tail _ hrefers =>
    obtain ⟨_, id, _, hid⟩ := hrefers
    exact ⟨id, hid⟩

/-- A leaf to which only true sides lead precedes all other leaves. -/
theorem Indexed.true_path_first (ht : t.Indexed) {n : Nat}
    (h : t.Path i (List.replicate n .onTrue) k last) (hleaf : t.IsLeaf k last)
    (hother : t.Path i sides j side) (hleaf' : t.IsLeaf j side) :
    sides = List.replicate n .onTrue ∨ List.Lex Side.Before (List.replicate n .onTrue) sides := by
  -- along the true sides: as long as the other path takes them too, both come to the same rows
  induction n generalizing i sides with
  | zero => cases h
  | succ n ih =>
    rw [List.replicate_succ] at h ⊢
    cases hother with
    | here =>
      cases side with
      | onFalse => exact Or.inr (.rel ⟨rfl, rfl⟩)
      | onTrue =>
        generalize htail : List.replicate n Side.onTrue = tail at h ⊢
        cases h with
        | here => exact Or.inl rfl
        | through _ _ _ _ _ _ _ htarget => cases hleaf'.symm.trans htarget
    | through _ l _ first _ name rest htarget hid hrest =>
      cases first with
      | onFalse => exact Or.inr (.rel ⟨rfl, rfl⟩)
      | onTrue =>
        generalize htail : List.replicate n Side.onTrue = tail at h ⊢
        cases h with
        | here => cases hleaf.symm.trans htarget
        | through _ l' _ _ _ name' _ htarget' hid' hrest' =>
          obtain rfl := Option.some.inj (htarget.symm.trans htarget')
          obtain rfl := ht.row_unique hid hid'
          subst htail
          rcases ih hrest' hrest with hsame | hlex
          · exact Or.inl (congrArg _ hsame)
          · exact Or.inr (.cons hlex)

theorem Indexed.firstLeaf (ht : t.Indexed) {n : Nat}
    (h : t.Path 0 (List.replicate n .onTrue) i side) (hleaf : t.IsLeaf i side) :
    t.FirstLeaf i side :=
  ⟨hleaf, _, h, fun _ _ _ hother hleaf' => ht.true_path_first h hleaf hother hleaf'⟩

end Table

end DecisionTable
