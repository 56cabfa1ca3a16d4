import DecisionTable.Proofs.Value.Distinct

/-!
# Distinct values in another order

Whatever the order in which values are given, equally many of them are kept, and each that is dropped
equals one that is kept. Which of several equal values is kept depends on the order: it is the one
that is given first.
-/

namespace DecisionTable

namespace Value

variable {u v w : Value} {items items' kept kept' before before' front back : List Value}

/-! ### Values whose equality can be asked -/

/-- A text, a truth value or a number of any kind, save the decimals that are no numbers. -/
inductive Ordinary : Value → Prop where
  | text (s : String) : Ordinary (.text s)
  | bool (b : Bool) : Ordinary (.bool b)
  | int (n : Int) : Ordinary (.int n)
  | float (x : Binary64) : Ordinary (.float x)
  | decimal (d : Decimal) (h : (Value.decimal d).isUndefined = false) : Ordinary (.decimal d)

theorem Ordinary.isSignalling (h : v.Ordinary) : v.isSignalling = false := by
  cases h with
  | decimal d h =>
    cases d with
    | nan => cases h
    | finite => rfl
    | infinite => rfl
  | _ => rfl

theorem Ordinary.exists_equal (hv : v.Ordinary) (hw : w.Ordinary) : ∃ b, v.equal w = .ok b := by
  have hnumber : v.IsNumber → ∃ b, v.equal w = .ok b := by
    intro hnumber
    rw [equal_of_number hnumber, hv.isSignalling, hw.isSignalling]
    split
    · exact ⟨_, rfl⟩
    · exact ⟨_, rfl⟩
  cases hv with
  | text s => exact exists_text_equal w s
  | bool b => exact hnumber rfl
  | int n => exact hnumber rfl
  | float x => exact hnumber rfl
  | decimal d h => exact hnumber rfl

theorem Ordinary.exists_isIn (hv : v.Ordinary) (hitems : ∀ w ∈ items, w.Ordinary) :
    ∃ b, v.isIn items = .ok b := by
  induction items with
  | nil => exact ⟨false, rfl⟩
  | cons w rest ih =>
    obtain ⟨same, hsame⟩ := (hitems w (List.mem_cons_self ..)).exists_equal hv
    simp only [isIn, hsame, bind, Except.bind]
    cases same with
    | true => exact ⟨true, rfl⟩
    | false => exact ih fun u hu => hitems u (List.mem_cons_of_mem _ hu)

theorem exists_distinct (hitems : ∀ v ∈ items, v.Ordinary) : ∃ kept, distinct items = .ok kept := by
  have hfrom : ∀ kept : List Value, (∀ v ∈ kept, v.Ordinary) → ∃ result,
      items.foldlM (fun kept v => do if ← v.isIn kept then .ok kept else .ok (kept ++ [v])) kept
        = .ok result := by
    induction items with
    | nil => exact fun kept _ => ⟨kept, rfl⟩
    | cons v rest ih =>
      intro kept hkept
      have hv := hitems v (List.mem_cons_self ..)
      have hrest := ih fun u hu => hitems u (List.mem_cons_of_mem _ hu)
      obtain ⟨isIn, hin⟩ := hv.exists_isIn hkept
      rw [List.foldlM_cons, hin]
      cases isIn with
      | true => exact hrest kept hkept
      | false =>
        refine hrest (kept ++ [v]) ?_
        intro u hu
        rcases List.mem_append.mp hu with hold | hlast
        · exact hkept u hold
        · exact List.mem_singleton.mp hlast ▸ hv
  exact hfrom [] nofun

theorem equal_symm (h : v.equal w = .ok true) : w.equal v = .ok true :=
  (equal_comm w v).trans h

/-! ### What is kept -/

namespace FirstOccurrences

theorem unique (h : FirstOccurrences before items kept) (h' : FirstOccurrences before items kept') :
    kept = kept' := by
  induction h generalizing kept' with
  | nil before =>
    cases h'
    rfl
  | keep before v items kept hnew _ ih =>
    cases h' with
    | keep _ _ _ _ _ hrest' => rw [ih hrest']
    | skip _ _ w _ _ hw hsame _ => cases hsame.symm.trans (hnew w hw)
  | skip before v w items kept hw hsame _ ih =>
    cases h' with
    | keep _ _ _ _ hnew' _ => cases hsame.symm.trans (hnew' w hw)
    | skip _ _ _ _ _ _ _ hrest' => exact ih hrest'

/-- A value is kept at its first place if it equals none of those given before. -/
theorem mem_iff (h : FirstOccurrences before items kept) : u ∈ kept ↔
    ∃ front back, items = front ++ u :: back ∧ ∀ w ∈ before ++ front, w.equal u = .ok false := by
  induction h with
  | nil before => simp
  | keep before v items kept hnew _ ih =>
    rw [List.mem_cons, ih]
    constructor
    · rintro (rfl | ⟨front, back, rfl, hfresh⟩)
      · exact ⟨[], items, rfl, by simpa using hnew⟩
      · exact ⟨v :: front, back, rfl, by simpa using hfresh⟩
    · rintro ⟨front, back, hsplit, hfresh⟩
      cases front with
      | nil => exact Or.inl (List.cons.inj hsplit).1.symm
      | cons x front =>
        obtain ⟨rfl, rfl⟩ := List.cons.inj hsplit
        exact Or.inr ⟨front, back, rfl, by simpa using hfresh⟩
  | skip before v w items kept hw hsame _ ih =>
    rw [ih]
    constructor
    · rintro ⟨front, back, rfl, hfresh⟩
      exact ⟨v :: front, back, rfl, by simpa using hfresh⟩
    · rintro ⟨front, back, hsplit, hfresh⟩
      cases front with
      | nil =>
        obtain ⟨rfl, rfl⟩ := List.cons.inj hsplit
        cases hsame.symm.trans (hfresh w (List.mem_append_left _ hw))
      | cons x front =>
        obtain ⟨rfl, rfl⟩ := List.cons.inj hsplit
        exact ⟨front, back, rfl, by simpa using hfresh⟩

theorem mem_of_mem (h : FirstOccurrences before items kept) (hu : u ∈ kept) : u ∈ items := by
  obtain ⟨front, back, rfl, _⟩ := h.mem_iff.mp hu
  simp

theorem head (h : FirstOccurrences [] (v :: items) kept) : ∃ rest, kept = v :: rest := by
  cases h with
  | keep _ _ _ rest _ _ => exact ⟨rest, rfl⟩
  | skip _ _ w _ _ hw _ _ => cases hw

theorem covers (h : FirstOccurrences before items kept) :
    ∀ u ∈ items, u ∈ kept ∨ ∃ w ∈ before ++ kept, w.equal u = .ok true := by
  induction h with
  | nil before => exact nofun
  | keep before v items kept _ _ ih =>
    intro u hu
    rcases List.mem_cons.mp hu with rfl | hu
    · exact Or.inl (List.mem_cons_self ..)
    · rcases ih u hu with hkept | ⟨w, hw, hsame⟩
      · exact Or.inl (List.mem_cons_of_mem _ hkept)
      · exact Or.inr ⟨w, by simpa using hw, hsame⟩
  | skip before v x items kept hx hsame _ ih =>
    intro u hu
    rcases List.mem_cons.mp hu with rfl | hu
    · exact Or.inr ⟨x, List.mem_append_left _ hx, hsame⟩
    · rcases ih u hu with hkept | ⟨w, hw, hequal⟩
      · exact Or.inl hkept
      · simp only [List.append_assoc, List.singleton_append, List.mem_append, List.mem_cons] at hw
        rcases hw with hw | rfl | hw
        · exact Or.inr ⟨w, List.mem_append_left _ hw, hequal⟩
        · -- what equals the dropped value equals the one it was dropped for
          exact Or.inr ⟨x, List.mem_append_left _ hx, (equal_congr hsame u).trans hequal⟩
        · exact Or.inr ⟨w, List.mem_append_right _ hw, hequal⟩

/-- Of values that come last and all equal one that comes before, none is kept. -/
theorem mem_front (h : FirstOccurrences [] (front ++ back) kept)
    (hback : ∀ v ∈ back, ∃ w ∈ front, w.equal v = .ok true) (hu : u ∈ kept) : u ∈ front := by
  obtain ⟨left, right, hsplit, hfresh⟩ := h.mem_iff.mp hu
  rcases List.append_eq_append_iff.mp hsplit with ⟨more, rfl, hmore⟩ | ⟨more, rfl, hmore⟩
  · -- the place is behind the front
    have hlast : u ∈ back := by simp [hmore]
    obtain ⟨w, hw, hsame⟩ := hback u hlast
    have hnew := hfresh w (by simp [hw])
    cases hsame.symm.trans hnew
  · cases more with
    | nil =>
      obtain rfl : u :: right = back := hmore
      have hlast : u ∈ u :: right := List.mem_cons_self ..
      obtain ⟨w, hw, hsame⟩ := hback u hlast
      have hnew := hfresh w (by simpa using hw)
      cases hsame.symm.trans hnew
    | cons x more =>
      obtain ⟨rfl, _⟩ := List.cons.inj hmore
      simp

/-! ### Another order -/

theorem congr_before (hsame : ∀ w, w ∈ before ↔ w ∈ before')
    (h : FirstOccurrences before items kept) : FirstOccurrences before' items kept := by
  induction h generalizing before' with
  | nil before => exact .nil before'
  | keep before v items kept hnew _ ih =>
    exact .keep before' v items kept (fun w hw => hnew w ((hsame w).mpr hw))
      (ih fun w => by rw [List.mem_append, List.mem_append, hsame])
  | skip before v w items kept hw hequal _ ih =>
    exact .skip before' v w items kept ((hsame w).mp hw) hequal
      (ih fun w => by rw [List.mem_append, List.mem_append, hsame])

theorem swap (h : FirstOccurrences before (v :: w :: items) kept) :
    ∃ kept', FirstOccurrences before (w :: v :: items) kept' ∧ kept'.length = kept.length := by
  have hbefore : ∀ u, u ∈ before ++ [v] ++ [w] ↔ u ∈ before ++ [w] ++ [v] := by
    intro u
    simp only [List.mem_append]
    tauto
  cases h with
  | keep _ _ _ kept hv hrest =>
    cases hrest with
    | keep _ _ _ kept hw hrest =>
      refine ⟨w :: v :: kept, ?_, rfl⟩
      refine .keep _ _ _ _ (fun u hu => hw u (List.mem_append_left _ hu)) ?_
      refine .keep _ _ _ _ ?_ (hrest.congr_before hbefore)
      intro u hu
      rcases List.mem_append.mp hu with hold | hlast
      · exact hv u hold
      · rw [List.mem_singleton.mp hlast, equal_comm]
        exact hw v (by simp)
    | skip _ _ x _ _ hx hsame hrest =>
      rcases List.mem_append.mp hx with hold | hlast
      · refine ⟨v :: kept, ?_, rfl⟩
        refine .skip _ _ x _ _ hold hsame (.keep _ _ _ _ ?_ (hrest.congr_before hbefore))
        intro u hu
        rcases List.mem_append.mp hu with hu | hu
        · exact hv u hu
        · rw [List.mem_singleton.mp hu, ← equal_congr hsame v]
          exact hv x hold
      · -- the two are equal, and the one that comes first is kept
        obtain rfl := List.mem_singleton.mp hlast
        refine ⟨w :: kept, ?_, rfl⟩
        refine .keep _ _ _ _ ?_
          (.skip _ _ w _ _ (by simp) (equal_symm hsame) (hrest.congr_before hbefore))
        intro u hu
        rw [equal_comm, ← equal_congr hsame u, equal_comm]
        exact hv u hu
  | skip _ _ x _ _ hx hsame hrest =>
    cases hrest with
    | keep _ _ _ kept hw hrest =>
      refine ⟨w :: kept, ?_, rfl⟩
      exact .keep _ _ _ _ (fun u hu => hw u (List.mem_append_left _ hu))
        (.skip _ _ x _ _ (List.mem_append_left _ hx) hsame (hrest.congr_before hbefore))
    | skip _ _ y _ _ hy hsame' hrest =>
      refine ⟨kept, ?_, rfl⟩
      have hfound : ∃ z ∈ before, z.equal w = .ok true := by
        rcases List.mem_append.mp hy with hold | hlast
        · exact ⟨y, hold, hsame'⟩
        · obtain rfl := List.mem_singleton.mp hlast
          exact ⟨x, hx, (equal_congr hsame w).trans hsame'⟩
      obtain ⟨z, hz, hequal⟩ := hfound
      exact .skip _ _ z _ _ hz hequal
        (.skip _ _ x _ _ (List.mem_append_left _ hx) hsame (hrest.congr_before hbefore))

/-- In any order equally many values are kept. -/
theorem perm (hperm : items.Perm items') (h : FirstOccurrences before items kept) :
    ∃ kept', FirstOccurrences before items' kept' ∧ kept'.length = kept.length := by
  induction hperm generalizing before kept with
  | nil => exact ⟨kept, h, rfl⟩
  | cons v _ ih =>
    cases h with
    | keep _ _ _ kept hnew hrest =>
      obtain ⟨kept', hkept, hlength⟩ := ih hrest
      exact ⟨v :: kept', .keep _ _ _ _ hnew hkept, congrArg (· + 1) hlength⟩
    | skip _ _ w _ _ hw hsame hrest =>
      obtain ⟨kept', hkept, hlength⟩ := ih hrest
      exact ⟨kept', .skip _ _ w _ _ hw hsame hkept, hlength⟩
  | swap w v items => exact h.swap
  | trans _ _ ih₁ ih₂ =>
    obtain ⟨kept₁, hkept₁, hlength₁⟩ := ih₁ h
    obtain ⟨kept₂, hkept₂, hlength₂⟩ := ih₂ hkept₁
    exact ⟨kept₂, hkept₂, hlength₂.trans hlength₁⟩

end FirstOccurrences

theorem length_distinct_perm (hperm : items.Perm items') (h : distinct items = .ok kept)
    (h' : distinct items' = .ok kept') : kept'.length = kept.length := by
  obtain ⟨found, hfound, hlength⟩ := (distinct_eq_ok h).2.perm hperm
  rw [(distinct_eq_ok h').2.unique hfound]
  exact hlength

end Value

end DecisionTable
