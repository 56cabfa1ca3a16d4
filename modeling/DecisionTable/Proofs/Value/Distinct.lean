import DecisionTable.Proofs.Value.Equality

/-!
# Distinct values

Of several values those are kept that equal none of the values given before them. So no two values
that are kept are equal, and each value that is dropped equals one that is kept.
-/

namespace DecisionTable

namespace Value

/-- What is kept of some items, in their order, when others are given before them: the items that
equal none of those given before. -/
inductive FirstOccurrences : List Value → List Value → List Value → Prop where
  | nil (before : List Value) : FirstOccurrences before [] []
  | keep (before : List Value) (v : Value) (items kept : List Value)
      (hnew : ∀ w ∈ before, w.equal v = .ok false)
      (hrest : FirstOccurrences (before ++ [v]) items kept) :
      FirstOccurrences before (v :: items) (v :: kept)
  | skip (before : List Value) (v w : Value) (items kept : List Value) (hw : w ∈ before)
      (hsame : w.equal v = .ok true) (hrest : FirstOccurrences (before ++ [v]) items kept) :
      FirstOccurrences before (v :: items) kept

def Distinct (items : List Value) : Prop :=
  items.Pairwise fun v w => v.equal w = .ok false ∧ w.equal v = .ok false

variable {v w : Value} {items kept before : List Value}

/-- The values that were kept are among those that were given, and stand for all of them. -/
structure Represents (kept before : List Value) : Prop where
  mem : ∀ v ∈ kept, v ∈ before
  covers : ∀ w ∈ before, w ∈ kept ∨ ∃ v ∈ kept, v.equal w = .ok true

theorem isIn_eq_true (h : v.isIn items = .ok true) : ∃ w ∈ items, w.equal v = .ok true := by
  induction items with
  | nil => cases h
  | cons w rest ih =>
    unfold isIn at h
    cases hequal : w.equal v with
    | error e =>
      rw [hequal] at h
      cases h
    | ok same =>
      rw [hequal] at h
      cases same with
      | true => exact ⟨w, List.mem_cons_self .., hequal⟩
      | false =>
        obtain ⟨u, hu, hsame⟩ := ih h
        exact ⟨u, List.mem_cons_of_mem _ hu, hsame⟩

theorem isIn_eq_false : v.isIn items = .ok false ↔ ∀ w ∈ items, w.equal v = .ok false := by
  induction items with
  | nil => simp [isIn]
  | cons w rest ih =>
    unfold isIn
    cases hequal : w.equal v with
    | error e =>
      constructor
      · intro h
        cases h
      · intro h
        cases hequal.symm.trans (h w (List.mem_cons_self ..))
    | ok same =>
      cases same with
      | true =>
        constructor
        · intro h
          cases h
        · intro h
          cases hequal.symm.trans (h w (List.mem_cons_self ..))
      | false =>
        rw [List.forall_mem_cons]
        exact ih.trans (iff_and_self.mpr fun _ => hequal)

/-- A value that equals none of those that were kept equals none of those that were given. -/
theorem Represents.new (h : Represents kept before) (hnew : ∀ w ∈ kept, w.equal v = .ok false) :
    ∀ w ∈ before, w.equal v = .ok false := by
  intro w hw
  rcases h.covers w hw with hkept | ⟨u, hu, hsame⟩
  · exact hnew w hkept
  · rw [← equal_congr hsame v]
    exact hnew u hu

theorem Represents.keep (h : Represents kept before) (v : Value) :
    Represents (kept ++ [v]) (before ++ [v]) := by
  refine ⟨?_, ?_⟩
  · intro u hu
    rcases List.mem_append.mp hu with hold | hlast
    · exact List.mem_append_left _ (h.mem u hold)
    · exact List.mem_append_right _ hlast
  · intro u hu
    rcases List.mem_append.mp hu with hold | hlast
    · rcases h.covers u hold with hkept | ⟨w, hw, hsame⟩
      · exact Or.inl (List.mem_append_left _ hkept)
      · exact Or.inr ⟨w, List.mem_append_left _ hw, hsame⟩
    · exact Or.inl (List.mem_append_right _ hlast)

theorem Represents.skip (h : Represents kept before) (hw : w ∈ kept)
    (hsame : w.equal v = .ok true) : Represents kept (before ++ [v]) := by
  refine ⟨fun u hu => List.mem_append_left _ (h.mem u hu), ?_⟩
  intro u hu
  rcases List.mem_append.mp hu with hold | hlast
  · exact h.covers u hold
  · obtain rfl := List.mem_singleton.mp hlast
    exact Or.inr ⟨w, hw, hsame⟩

theorem Distinct.concat (h : Distinct kept) (hnew : ∀ w ∈ kept, w.equal v = .ok false) :
    Distinct (kept ++ [v]) := by
  refine List.pairwise_append.mpr ⟨h, List.pairwise_singleton _ _, ?_⟩
  intro w hw u hu
  obtain rfl := List.mem_singleton.mp hu
  have hequal := hnew w hw
  exact ⟨hequal, (equal_comm u w).trans hequal⟩

theorem distinct_from (hrepresents : Represents kept before) (hdistinct : Distinct kept)
    {result : List Value}
    (h : items.foldlM (fun kept v => do if ← v.isIn kept then .ok kept else .ok (kept ++ [v])) kept
      = .ok result) :
    Distinct result ∧ ∃ more, result = kept ++ more ∧ FirstOccurrences before items more := by
  -- the values that were kept so far represent all that were given so far
  induction items generalizing kept before with
  | nil =>
    obtain rfl := Except.ok.inj h
    exact ⟨hdistinct, [], (List.append_nil _).symm, .nil before⟩
  | cons v items ih =>
    rw [List.foldlM_cons] at h
    cases hin : v.isIn kept with
    | error e =>
      rw [hin] at h
      cases h
    | ok isIn =>
      rw [hin] at h
      cases isIn with
      | true =>
        obtain ⟨w, hw, hsame⟩ := isIn_eq_true hin
        obtain ⟨hresult, more, rfl, hfirst⟩ := ih (hrepresents.skip hw hsame) hdistinct h
        exact ⟨hresult, more, rfl, .skip before v w items more (hrepresents.mem w hw) hsame hfirst⟩
      | false =>
        have hnew := isIn_eq_false.mp hin
        obtain ⟨hresult, more, rfl, hfirst⟩ := ih (hrepresents.keep v) (hdistinct.concat hnew) h
        refine ⟨hresult, v :: more, by simp, ?_⟩
        exact .keep before v items more (hrepresents.new hnew) hfirst

/-- The distinct values are the first occurrences of the given ones. -/
theorem distinct_eq_ok {result : List Value} (h : distinct items = .ok result) :
    Distinct result ∧ FirstOccurrences [] items result := by
  have hempty : Represents [] [] := ⟨nofun, nofun⟩
  obtain ⟨hresult, more, rfl, hfirst⟩ := distinct_from hempty List.Pairwise.nil h
  exact ⟨hresult, hfirst⟩

end Value

end DecisionTable
