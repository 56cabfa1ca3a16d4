import DecisionTable.Proofs.Value.Reorder
import DecisionTable.Proofs.Store.Calls
import DecisionTable.Tree.Evaluation

/-!
# Several values in another order

Whether an operand is among several values is asked of the values that are kept, and of equal values
the first one is kept. Equal values can differ in kind and in text, so the order in which values are
given can show in the answer. It does not show if the values that have an answer of their own agree,
and one of them gives it for all that equal it.
-/

namespace DecisionTable

namespace CurrentValue

/-- The answer of a value by itself. -/
def alone (a : Attribute) (operand : String) (v : Value) : Except ValueFault Bool :=
  (several a [v]).contains operand

/-- Some values give one answer in whatever order they come: those that say anything say the same,
and it is said by one of them and by all that equal it. References that cannot be written outweigh
all others. -/
structure Agreed (a : Attribute) (operand : String) (items : List Value)
    (r : Except ValueFault Bool) : Prop where
  others : (∀ v ∈ items, alone a operand v = .ok false ∨ alone a operand v = r) ∨
    a.kind = .reference ∧ ∃ f, r = .error f
  found : r = .ok false ∨ ∃ v ∈ items, alone a operand v = r ∧
    ∀ w ∈ items, v.equal w = .ok true → alone a operand w = r

variable {a : Attribute} {operand : String} {items items' kept rest : List Value} {v : Value}
  {r : Except ValueFault Bool} {f : ValueFault}

/-! ### Searches among values that are kept -/

theorem includes_cons (operand : String) (v : Value) (rest : List Value) :
    includes operand (v :: rest)
      = includes operand [v] >>= fun b => if b then .ok true else includes operand rest := by
  simp only [includes]
  cases v.readLike operand with
  | error e => rfl
  | ok sought =>
    simp only [bind, Except.bind]
    cases v.equal sought with
    | error e => rfl
    | ok same => cases same <;> rfl

theorem contains_scalar (hkind : a.kind = .scalar) (vs : List Value) :
    (several a vs).contains operand = includes operand vs := by
  simp only [contains, hkind]

theorem contains_reference (hkind : a.kind = .reference) (vs : List Value) :
    (several a vs).contains operand = (plainTexts vs).map (·.contains operand) := by
  simp only [contains, hkind]

theorem contains_nil (a : Attribute) (operand : String) :
    (several a []).contains operand = .ok false := by
  cases hkind : a.kind with
  | scalar => rw [contains_scalar hkind]; rfl
  | reference => rw [contains_reference hkind]; rfl

/-- Of several values the first one is passed over, or it gives the answer, or a reference that comes
later cannot be written. -/
theorem contains_cons (a : Attribute) (operand : String) (v : Value) (rest : List Value) :
    (alone a operand v = .ok false ∧
      (several a (v :: rest)).contains operand = (several a rest).contains operand) ∨
    (alone a operand v ≠ .ok false ∧
      (several a (v :: rest)).contains operand = alone a operand v) ∨
    (a.kind = .reference ∧ ∃ f, (several a rest).contains operand = .error f ∧
      (several a (v :: rest)).contains operand = .error f) := by
  unfold alone
  cases hkind : a.kind with
  | scalar =>
    simp only [contains_scalar hkind]
    rw [includes_cons operand v rest]
    cases includes operand [v] with
    | error f => exact Or.inr (Or.inl ⟨nofun, rfl⟩)
    | ok b =>
      cases b with
      | false => exact Or.inl ⟨rfl, rfl⟩
      | true => exact Or.inr (Or.inl ⟨nofun, rfl⟩)
  | reference =>
    simp only [contains_reference hkind, plainTexts]
    cases v.plain with
    | error f => exact Or.inr (Or.inl ⟨nofun, rfl⟩)
    | ok s =>
      cases plainTexts rest with
      | error f => exact Or.inr (Or.inr ⟨trivial, f, rfl, rfl⟩)
      | ok texts =>
        by_cases hs : operand = s
        · subst hs
          right
          left
          simp [Except.map, bind, Except.bind]
        · left
          simp [Except.map, bind, Except.bind, hs]

/-- An answer is that of one of the values, or it is that the operand is not there. -/
theorem contains_of_kept (a : Attribute) (operand : String) (kept : List Value) :
    (several a kept).contains operand = .ok false ∨
      ∃ v ∈ kept, (several a kept).contains operand = alone a operand v := by
  induction kept with
  | nil => exact Or.inl (contains_nil a operand)
  | cons v rest ih =>
    have hlater : (several a (v :: rest)).contains operand = (several a rest).contains operand →
        (several a (v :: rest)).contains operand = .ok false ∨
          ∃ w ∈ v :: rest, (several a (v :: rest)).contains operand = alone a operand w := by
      intro hsame
      rw [hsame]
      refine ih.imp_right ?_
      rintro ⟨w, hw, hanswer⟩
      exact ⟨w, List.mem_cons_of_mem _ hw, hanswer⟩
    rcases contains_cons a operand v rest with ⟨_, hrest⟩ | ⟨_, hfirst⟩ | ⟨_, f, hrest, hsame⟩
    · exact hlater hrest
    · exact Or.inr ⟨v, List.mem_cons_self .., hfirst⟩
    · exact hlater (hsame.trans hrest.symm)

/-- What the first value says is heard, unless a reference that comes later cannot be written. -/
theorem alone_of_contains (h : (several a (v :: rest)).contains operand = r) :
    (alone a operand v = .ok false ∨ alone a operand v = r) ∨
      a.kind = .reference ∧ ∃ f, r = .error f := by
  rcases contains_cons a operand v rest with ⟨hpassed, _⟩ | ⟨_, hfirst⟩ | ⟨hkind, f, _, hsame⟩
  · exact Or.inl (Or.inl hpassed)
  · exact Or.inl (Or.inr (hfirst.symm.trans h))
  · exact Or.inr ⟨hkind, f, h.symm.trans hsame⟩

theorem contains_of_others
    (hothers : ∀ v ∈ kept, alone a operand v = .ok false ∨ alone a operand v = r)
    (hfound : r = .ok false ∨ ∃ v ∈ kept, alone a operand v = r) :
    (several a kept).contains operand = r := by
  induction kept with
  | nil =>
    rcases hfound with rfl | ⟨v, hv, _⟩
    · exact contains_nil a operand
    · cases hv
  | cons v rest ih =>
    have hrest' : ∀ w ∈ rest, alone a operand w = .ok false ∨ alone a operand w = r :=
      fun w hw => hothers w (List.mem_cons_of_mem _ hw)
    rcases contains_cons a operand v rest with ⟨hpassed, hrest⟩ | ⟨hheard, hfirst⟩ |
      ⟨_, f, hrest, hsame⟩
    · rw [hrest]
      refine ih hrest' ?_
      rcases hfound with hnone | ⟨w, hw, hanswer⟩
      · exact Or.inl hnone
      · rcases List.mem_cons.mp hw with rfl | hw
        · exact Or.inl (hanswer.symm.trans hpassed)
        · exact Or.inr ⟨w, hw, hanswer⟩
    · rw [hfirst]
      exact (hothers v (List.mem_cons_self ..)).resolve_left hheard
    · rcases contains_of_kept a operand rest with hnone | ⟨w, hw, hanswer⟩
      · cases hrest.symm.trans hnone
      · have hw' : alone a operand w = .error f := hanswer.symm.trans hrest
        rcases hrest' w hw with hpassed | hfound
        · cases hw'.symm.trans hpassed
        · exact hsame.trans (hw'.symm.trans hfound)

theorem plainTexts_of_mem (hv : v ∈ kept) (h : v.plain = .error f) :
    plainTexts kept = .error .integerTextTooLong := by
  induction kept with
  | nil => cases hv
  | cons w rest ih =>
    cases hw : w.plain with
    | error g =>
      rw [Value.plain_eq_error hw] at hw
      simp only [plainTexts, hw, bind, Except.bind]
    | ok s =>
      rcases List.mem_cons.mp hv with rfl | hrest
      · cases hw.symm.trans h
      · simp only [plainTexts, hw, ih hrest, bind, Except.bind]

/-- A reference that cannot be written outweighs all others. -/
theorem contains_of_unwritten (hkind : a.kind = .reference) (hv : v ∈ kept)
    (h : alone a operand v = .error f) : (several a kept).contains operand = .error f := by
  unfold alone at h
  rw [contains_reference hkind, map_eq_error] at h ⊢
  rw [Value.plainTexts_eq_error h]
  cases hplain : v.plain with
  | error g => exact plainTexts_of_mem hv hplain
  | ok s =>
    simp only [plainTexts, hplain, bind, Except.bind] at h
    cases h

/-! ### Searches in any order -/

theorem exists_perm_cons (hv : v ∈ items) : ∃ rest, (v :: rest).Perm items := by
  obtain ⟨front, back, rfl⟩ := List.append_of_mem hv
  exact ⟨front ++ back, List.perm_middle.symm⟩

theorem agreed_of_contains (hitems : ∀ v ∈ items, v.Ordinary)
    (h : ∀ items' kept, items'.Perm items → Value.distinct items' = .ok kept →
      (several a kept).contains operand = r) : Agreed a operand items r := by
  refine ⟨?_, ?_⟩
  · by_cases hrefused : a.kind = .reference ∧ ∃ f, r = .error f
    · exact Or.inr hrefused
    · left
      intro v hv
      -- each value can be given first, and is kept then
      obtain ⟨rest, hperm⟩ := exists_perm_cons hv
      obtain ⟨kept, hkept⟩ := Value.exists_distinct fun w hw => hitems w (hperm.mem_iff.mp hw)
      obtain ⟨others, rfl⟩ := (Value.distinct_eq_ok hkept).2.head
      exact (alone_of_contains (h _ _ hperm hkept)).resolve_right hrefused
  · by_contra hnone
    simp only [not_or, not_exists, not_and, not_forall, exists_prop] at hnone
    obtain ⟨hsaid, hfound⟩ := hnone
    -- with the values first that do not say it, none that does is kept
    let front := items.filter (alone a operand · ≠ r)
    let back := items.filter (alone a operand · = r)
    have hperm : (front ++ back).Perm items := by
      have hsplit := List.filter_append_perm (fun v => decide (alone a operand v ≠ r)) items
      simpa [front, back] using hsplit
    obtain ⟨kept, hkept⟩ := Value.exists_distinct fun w hw => hitems w (hperm.mem_iff.mp hw)
    have hback : ∀ v ∈ back, ∃ w ∈ front, w.equal v = .ok true := by
      intro v hv
      obtain ⟨hmem, hanswer⟩ := List.mem_filter.mp hv
      obtain ⟨w, hw, hsame, hother⟩ := hfound v hmem (of_decide_eq_true hanswer)
      exact ⟨w, List.mem_filter.mpr ⟨hw, decide_eq_true hother⟩, Value.equal_symm hsame⟩
    have hr := h _ _ hperm hkept
    rcases contains_of_kept a operand kept with hfalse | ⟨v, hv, hanswer⟩
    · exact hsaid (hr.symm.trans hfalse)
    · have hfront := (Value.distinct_eq_ok hkept).2.mem_front hback hv
      have hother := of_decide_eq_true (List.mem_filter.mp hfront).2
      exact hother (hanswer.symm.trans hr)

theorem contains_of_agreed (h : Agreed a operand items r) (hperm : items'.Perm items)
    (hkept : Value.distinct items' = .ok kept) : (several a kept).contains operand = r := by
  have hfirst := (Value.distinct_eq_ok hkept).2
  have hmem : ∀ v ∈ kept, v ∈ items := fun v hv => hperm.mem_iff.mp (hfirst.mem_of_mem hv)
  have hfound : r = .ok false ∨ ∃ v ∈ kept, alone a operand v = r := by
    refine h.found.imp_right ?_
    rintro ⟨v, hv, hanswer, hsame⟩
    rcases hfirst.covers v (hperm.mem_iff.mpr hv) with hv | ⟨w, hw, hequal⟩
    · exact ⟨v, hv, hanswer⟩
    · rw [List.nil_append] at hw
      exact ⟨w, hw, hsame w (hmem w hw) (Value.equal_symm hequal)⟩
  rcases h.others with hothers | ⟨hkind, f, rfl⟩
  · exact contains_of_others (fun v hv => hothers v (hmem v hv)) hfound
  · obtain ⟨v, hv, hanswer⟩ := hfound.resolve_left nofun
    exact contains_of_unwritten hkind hv hanswer

/-- The values that are kept give the same answer in any order just when the given ones are agreed
on it. -/
theorem contains_perm_iff (hitems : ∀ v ∈ items, v.Ordinary) :
    (∀ items' kept, items'.Perm items → Value.distinct items' = .ok kept →
      (several a kept).contains operand = r) ↔ Agreed a operand items r :=
  ⟨agreed_of_contains hitems, fun h _ _ => contains_of_agreed h⟩

end CurrentValue

/-! ### Decisions in any order -/

namespace Operator

variable {op : Operator} {c c' : CurrentValue} {operand : String}

theorem decide_eq_iff (hattr : c'.attr = c.attr) (hop : op.accepts c.attr = true) :
    op.decide c operand = op.decide c' operand ↔ op.rule c operand = op.rule c' operand := by
  unfold decide
  rw [hattr, if_pos hop, if_pos hop]
  constructor
  · intro h
    cases hrule : op.rule c operand with
    | ok b =>
      cases hrule' : op.rule c' operand with
      | ok b' =>
        rw [hrule, hrule'] at h
        exact congrArg _ (Except.ok.inj h)
      | error f' =>
        simp only [hrule, hrule'] at h
        split at h <;> cases h
    | error f =>
      cases hrule' : op.rule c' operand with
      | ok b' =>
        simp only [hrule, hrule'] at h
        split at h <;> cases h
      | error f' =>
        simp only [hrule, hrule'] at h
        split at h
        · split at h
          · cases h
            rfl
          · cases h
        · split at h
          · cases h
          · cases h
            rfl
  · intro h
    rw [h]

theorem asserted_eq_iff {x y : Except ValueFault Bool} (asserts : Bool) :
    (liftValue x).map (· == asserts) = (liftValue y).map (· == asserts) ↔ x = y := by
  constructor
  · intro h
    cases x with
    | error f =>
      cases y with
      | error g =>
        cases h
        rfl
      | ok c => cases h
    | ok b =>
      cases y with
      | error g => cases h
      | ok c =>
        have hsame : (b == asserts) = (c == asserts) := Except.ok.inj h
        revert hsame
        cases asserts <;> cases b <;> cases c <;> decide
  · intro h
    rw [h]

end Operator

namespace Decision

variable {d : Decision} {s : Store} {subject : Subject} {items items' kept kept' : List Value}

theorem set_several (hknown : s.attribute? d.tested.identifier = some d.tested)
    (hmulti : d.tested.cardinality = .multi) (hkept : Value.distinct items = .ok kept) :
    s.set subject d.tested.identifier (.list items)
      = .ok (s.put subject d.tested.identifier (.group kept)) := by
  have hitems : (Value.list items).items = .ok items := rfl
  simp only [Store.set, hknown, Store.stored, hmulti, hitems, bind, Except.bind, hkept]
  rfl

theorem holds_several (s : Store) (subject : Subject) (hmulti : d.tested.cardinality = .multi)
    (kept : List Value) :
    d.holds (s.put subject d.tested.identifier (.group kept)) subject
      = d.op.decide (.several d.tested kept) d.operand := by
  refine holds_of_current ?_
  simp only [Store.current, Store.get?_put, CurrentValue.ofStored, hmulti]
  rfl

/-- Of the operators for several values some count them, and the others look the operand up. -/
theorem decide_several (hmulti : d.tested.cardinality = .multi)
    (hop : d.op.accepts d.tested = true) :
    (∃ cmp, d.op = .count cmp) ∨ ∀ kept kept',
      d.op.decide (.several d.tested kept) d.operand
          = d.op.decide (.several d.tested kept') d.operand ↔
        (CurrentValue.several d.tested kept).contains d.operand
          = (CurrentValue.several d.tested kept').contains d.operand := by
  have hshape : d.tested.shape = d.op.requires := eq_of_beq hop
  have hcardinality : d.op.requires.cardinality = .multi :=
    (congrArg Shape.cardinality hshape).symm.trans hmulti
  have hlookup : ∀ asserts : Bool,
      (∀ vs, d.op.rule (.several d.tested vs) d.operand
        = (Operator.liftValue ((CurrentValue.several d.tested vs).contains d.operand)).map
            (· == asserts)) → ∀ kept kept',
      d.op.decide (.several d.tested kept) d.operand
          = d.op.decide (.several d.tested kept') d.operand ↔
        (CurrentValue.several d.tested kept).contains d.operand
          = (CurrentValue.several d.tested kept').contains d.operand := by
    intro asserts hrule kept kept'
    have hdecide : d.op.decide (.several d.tested kept) d.operand
          = d.op.decide (.several d.tested kept') d.operand ↔
        d.op.rule (.several d.tested kept) d.operand
          = d.op.rule (.several d.tested kept') d.operand :=
      Operator.decide_eq_iff rfl hop
    rw [hdecide, hrule, hrule, Operator.asserted_eq_iff]
  cases hd : d.op with
  | count cmp => exact Or.inl ⟨cmp, rfl⟩
  | contains asserts =>
    rw [hd] at hlookup
    exact Or.inr (hlookup asserts fun _ => rfl)
  | has asserts =>
    rw [hd] at hlookup
    exact Or.inr (hlookup asserts fun _ => rfl)
  | _ =>
    rw [hd] at hcardinality
    cases hcardinality

theorem decide_count {cmp : Comparison} (hd : d.op = .count cmp)
    (hlength : kept'.length = kept.length) :
    d.op.decide (.several d.tested kept) d.operand
      = d.op.decide (.several d.tested kept') d.operand := by
  simp only [hd, Operator.decide, Operator.rule, CurrentValue.attr, CurrentValue.count,
    CurrentValue.values, hlength]

/-- Values can be stored in any order. The number of them is the same then, and what is said of an
operand is the same just when the values are agreed on it. -/
theorem holds_perm_iff (hknown : s.attribute? d.tested.identifier = some d.tested)
    (hmulti : d.tested.cardinality = .multi) (hop : d.op.accepts d.tested = true)
    (hitems : ∀ v ∈ items, v.Ordinary) :
    (∀ items' : List Value, items'.Perm items →
      ∃ s', s.set subject d.tested.identifier (.list items') = .ok s') ∧
    ((∀ items' s₁ s₂, items'.Perm items →
        s.set subject d.tested.identifier (.list items) = .ok s₁ →
        s.set subject d.tested.identifier (.list items') = .ok s₂ →
        d.holds s₁ subject = d.holds s₂ subject) ↔
      (∃ cmp, d.op = .count cmp) ∨ ∃ r, CurrentValue.Agreed d.tested d.operand items r) := by
  have hordinary : ∀ {items' : List Value}, items'.Perm items → ∀ v ∈ items', v.Ordinary :=
    fun hperm v hv => hitems v (hperm.mem_iff.mp hv)
  refine ⟨?_, ?_⟩
  · intro items' hperm
    obtain ⟨kept, hkept⟩ := Value.exists_distinct (hordinary hperm)
    exact ⟨_, set_several hknown hmulti hkept⟩
  · obtain ⟨kept, hkept⟩ := Value.exists_distinct hitems
    have hset : s.set subject d.tested.identifier (.list items)
        = .ok (s.put subject d.tested.identifier (.group kept)) :=
      set_several hknown hmulti hkept
    by_cases hcount : ∃ cmp, d.op = .count cmp
    · refine ⟨fun _ => Or.inl hcount, fun _ => ?_⟩
      obtain ⟨cmp, hd⟩ := hcount
      intro items' s₁ s₂ hperm h₁ h₂
      obtain ⟨kept', hkept'⟩ := Value.exists_distinct (hordinary hperm)
      obtain rfl := Except.ok.inj (hset.symm.trans h₁)
      obtain rfl := Except.ok.inj ((set_several hknown hmulti hkept').symm.trans h₂)
      rw [holds_several s subject hmulti, holds_several s subject hmulti]
      exact decide_count hd (Value.length_distinct_perm hperm.symm hkept hkept')
    · have hlookup := (decide_several hmulti hop).resolve_left hcount
      constructor
      · intro hsame
        refine Or.inr ⟨(CurrentValue.several d.tested kept).contains d.operand, ?_⟩
        refine (CurrentValue.contains_perm_iff hitems).mp ?_
        intro items' kept' hperm hkept'
        have hanswer := hsame items' _ _ hperm hset (set_several hknown hmulti hkept')
        rw [holds_several s subject hmulti, holds_several s subject hmulti] at hanswer
        exact ((hlookup kept kept').mp hanswer).symm
      · intro hcase items' s₁ s₂ hperm h₁ h₂
        obtain ⟨r, hagreed⟩ := hcase.resolve_left hcount
        obtain ⟨kept', hkept'⟩ := Value.exists_distinct (hordinary hperm)
        obtain rfl := Except.ok.inj (hset.symm.trans h₁)
        obtain rfl := Except.ok.inj ((set_several hknown hmulti hkept').symm.trans h₂)
        rw [holds_several s subject hmulti, holds_several s subject hmulti, hlookup,
          CurrentValue.contains_of_agreed hagreed (.refl items) hkept,
          CurrentValue.contains_of_agreed hagreed hperm hkept']

end Decision

namespace Example

/-- Asks whether a subject has the friend `1`. -/
def befriends : Decision :=
  ⟨⟨"#friends", .multi, .reference⟩, .has true, "1"⟩

end Example

/-- Friends of different kinds that are all different can be given in any order. -/
theorem holds_perm_iff_befriends :
    ∃ s₁ s₂,
      Example.emptyStore.set (.named "ann") "#friends" (.list [.int 1, .text "true"]) = .ok s₁ ∧
      Example.emptyStore.set (.named "ann") "#friends" (.list [.text "true", .int 1]) = .ok s₂ ∧
      Example.befriends.holds s₁ (.named "ann") = .ok true ∧
      Example.befriends.holds s₂ (.named "ann") = .ok true := by
  have hordinary : ∀ v ∈ [Value.int 1, .text "true"], v.Ordinary := by
    intro v hv
    simp only [List.mem_cons, List.not_mem_nil, or_false] at hv
    rcases hv with rfl | rfl
    · exact .int 1
    · exact .text "true"
  have hagreed :
      CurrentValue.Agreed Example.befriends.tested "1" [.int 1, .text "true"] (.ok true) := by
    refine ⟨Or.inl ?_, Or.inr ⟨.int 1, by simp, by decide +kernel, ?_⟩⟩
    · intro v hv
      simp only [List.mem_cons, List.not_mem_nil, or_false] at hv
      rcases hv with rfl | rfl
      · exact Or.inr (by decide +kernel)
      · exact Or.inl (by decide +kernel)
    · intro w hw hsame
      simp only [List.mem_cons, List.not_mem_nil, or_false] at hw
      rcases hw with rfl | rfl
      · decide +kernel
      · cases hsame
  obtain ⟨hset, hsame⟩ :=
    @Decision.holds_perm_iff Example.befriends Example.emptyStore (.named "ann")
      [.int 1, .text "true"] rfl rfl rfl hordinary
  obtain ⟨s₁, h₁⟩ := hset _ (.refl _)
  obtain ⟨s₂, h₂⟩ := hset [.text "true", .int 1] (.swap _ _ _)
  have hequal := hsame.mpr (Or.inr ⟨_, hagreed⟩) _ _ _ (.swap _ _ _) h₁ h₂
  have hfirst : Example.befriends.holds s₁ (.named "ann") = .ok true := by
    have hset₁ : Example.emptyStore.set (.named "ann") "#friends" (.list [.int 1, .text "true"])
        = .ok (Example.emptyStore.put (.named "ann") "#friends" (.group [.int 1, .text "true"])) :=
      rfl
    obtain rfl := Except.ok.inj (hset₁.symm.trans h₁)
    decide +kernel
  exact ⟨s₁, s₂, h₁, h₂, hfirst, hequal.symm.trans hfirst⟩

/-- A number and a truth value that are equal have different texts, and the order in which they are
given decides which of the two is a friend. -/
theorem holds_reordered :
    ∃ s₁ s₂,
      Example.emptyStore.set (.named "ann") "#friends" (.list [.int 1, .bool true]) = .ok s₁ ∧
      Example.emptyStore.set (.named "ann") "#friends" (.list [.bool true, .int 1]) = .ok s₂ ∧
      Example.befriends.holds s₁ (.named "ann") = .ok true ∧
      Example.befriends.holds s₂ (.named "ann") = .ok false :=
  ⟨_, _, rfl, rfl, by decide +kernel, by decide +kernel⟩

end DecisionTable
