/-!
# Loops

A turn of a loop leads to the next state, or there is no further turn. What a loop does is said by
the number of turns after which it comes to a state.
-/

namespace DecisionTable.Loop

variable {σ : Type} {turn : σ → Option σ} {s s' s'' : σ} {m n : Nat}

/-- The state after a number of turns, unless the loop ends before. -/
def turns (turn : σ → Option σ) : Nat → σ → Option σ
  | 0, s => some s
  | n + 1, s => (turn s).bind (turns turn n)

theorem turns_one (h : turn s = some s') : turns turn 1 s = some s' := by
  simp [turns, h]

theorem turns_add (h : turns turn m s = some s') (h' : turns turn n s' = some s'') :
    turns turn (m + n) s = some s'' := by
  induction m generalizing s with
  | zero =>
    obtain rfl := Option.some.inj h
    rw [Nat.zero_add]
    exact h'
  | succ m ih =>
    obtain ⟨next, hnext, hlater⟩ := Option.bind_eq_some_iff.mp h
    rw [Nat.succ_add]
    simp only [turns, hnext, Option.bind_some]
    exact ih hlater

end DecisionTable.Loop
