import DecisionTable.CurrentValue

/-!
# The faults of values

Writing a value fails only for an integer with too many digits, and reading an operand as a value
never fails for a comparison. What an operand is read as can be compared with the value, or the two
have no order; only decimals that are no numbers refuse the comparison, and the signalling ones
refuse even equality.
-/

namespace DecisionTable

section Steps

variable {ε α β : Type} {x : Except ε α} {e : ε}

theorem bind_eq_error {g : α → Except ε β} (h : x >>= g = .error e) :
    x = .error e ∨ ∃ a, x = .ok a ∧ g a = .error e := by
  cases x with
  | error e' => exact Or.inl (congrArg _ (Except.error.inj h))
  | ok a => exact Or.inr ⟨a, rfl, h⟩

theorem bind_eq_ok {g : α → Except ε β} {b : β} :
    x >>= g = .ok b ↔ ∃ a, x = .ok a ∧ g a = .ok b := by
  cases x <;> simp [bind, Except.bind]

theorem map_eq_error {g : α → β} : x.map g = .error e ↔ x = .error e := by
  cases x <;> simp [Except.map]

theorem map_eq_ok {g : α → β} {b : β} : x.map g = .ok b ↔ ∃ a, x = .ok a ∧ g a = b := by
  cases x <;> simp [Except.map]

theorem mapError_eq_error {δ : Type} {g : ε → δ} {d : δ} :
    x.mapError g = .error d ↔ ∃ e, x = .error e ∧ g e = d := by
  cases x with
  | error e' =>
    constructor
    · exact fun h => ⟨e', rfl, Except.error.inj h⟩
    · rintro ⟨e, h, rfl⟩
      exact congrArg _ (congrArg g (Except.error.inj h))
  | ok a =>
    constructor
    · intro h
      cases h
    · rintro ⟨e, h, _⟩
      cases h

theorem mapError_eq_ok {δ : Type} {g : ε → δ} {a : α} : x.mapError g = .ok a ↔ x = .ok a := by
  cases x with
  | error e' =>
    constructor
    · intro h
      cases h
    · intro h
      cases h
  | ok a' =>
    constructor
    · exact fun h => congrArg _ (Except.ok.inj h)
    · exact fun h => congrArg _ (Except.ok.inj h)

end Steps

namespace Value

variable {v w : Value} {operand : String} {f : ValueFault}

/-! ### Texts -/

theorem integerText_eq_error {n : Int} (h : integerText n = .error f) :
    f = .integerTextTooLong := by
  unfold integerText at h
  split at h
  · cases h
  · exact (Except.error.inj h).symm

mutual

theorem quoted_eq_error : ∀ {v : Value} {f : ValueFault}, v.quoted = .error f →
    f = .integerTextTooLong
  | .null, _, h => by cases h
  | .bool _, _, h => by cases h
  | .int _, _, h => integerText_eq_error h
  | .float _, _, h => by cases h
  | .decimal _, _, h => by cases h
  | .text _, _, h => by cases h
  | .date _, _, h => by cases h
  | .bytes _, _, h => by cases h
  | .list items, _, h => by
    unfold quoted at h
    rcases bind_eq_error h with htexts | ⟨texts, _, h⟩
    · exact quotedEach_eq_error htexts
    · cases h
  | .group items, _, h => by
    unfold quoted at h
    rcases bind_eq_error h with htexts | ⟨texts, _, h⟩
    · exact quotedEach_eq_error htexts
    · cases h

theorem quotedEach_eq_error : ∀ {items : List Value} {f : ValueFault},
    quotedEach items = .error f → f = .integerTextTooLong
  | [], _, h => by cases h
  | v :: rest, _, h => by
    unfold quotedEach at h
    rcases bind_eq_error h with hv | ⟨text, _, h⟩
    · exact quoted_eq_error hv
    · rcases bind_eq_error h with hrest | ⟨texts, _, h⟩
      · exact quotedEach_eq_error hrest
      · cases h

end

theorem plain_eq_error (h : v.plain = .error f) : f = .integerTextTooLong := by
  unfold plain shown at h
  split at h
  · cases h
  · split at h
    · cases h
    · cases h
    · cases h
    · exact quoted_eq_error h

theorem plainTexts_eq_error {items : List Value} (h : CurrentValue.plainTexts items = .error f) :
    f = .integerTextTooLong := by
  induction items with
  | nil => cases h
  | cons v rest ih =>
    unfold CurrentValue.plainTexts at h
    rcases bind_eq_error h with hv | ⟨text, _, h⟩
    · exact plain_eq_error hv
    · rcases bind_eq_error h with hrest | ⟨texts, _, h⟩
      · exact ih hrest
      · cases h

theorem asText_eq_error {c : CurrentValue} (h : c.asText = .error f) : f = .integerTextTooLong := by
  cases c with
  | single a v => exact plain_eq_error h
  | several a items => exact plainTexts_eq_error (map_eq_error.mp h)

/-! ### Reading -/

theorem readLike_ne_undefined : v.readLike operand ≠ .error .undefinedComparison := by
  intro h
  unfold readLike at h
  split at h
  · split at h <;> cases h
  · have hint := map_eq_error.mp h
    unfold readIntegerValue at hint
    split at hint <;> cases hint
  · have hfloat := map_eq_error.mp h
    unfold readFloatValue at hfloat
    split at hfloat <;> cases hfloat
  · cases h
  · split at h <;> cases h
  · split at h <;> cases h
  · cases h
  · cases h
  · cases h
  · cases h

/-! ### Comparing numbers -/

theorem exceeds_of_numbers (h : areNumbers v w = true) :
    v.exceeds w =
      if v.isUndefined || w.isUndefined then .error .undefinedComparison
      else match compareNumbers? v w with
        | some .gt => .ok true
        | none =>
          if v.kind == .decimal || w.kind == .decimal then .error .undefinedComparison
          else .ok false
        | _ => .ok false := by
  unfold exceeds
  split
  · cases h
  · cases h
  · cases h
  · cases h
  · cases h
  · exact if_pos h

/-- Numbers of which none is a decimal can be ordered. -/
theorem exceeds_eq_ok (h : areNumbers v w = true) (hv : v.kind ≠ .decimal)
    (hw : w.kind ≠ .decimal) : ∃ b, v.exceeds w = .ok b := by
  have hundefined : ∀ u : Value, u.kind ≠ .decimal → u.isUndefined = false := by
    intro u hu
    cases u with
    | decimal d => exact absurd rfl hu
    | _ => rfl
  rw [exceeds_of_numbers h, hundefined v hv, hundefined w hw]
  have hkinds : (v.kind == .decimal || w.kind == .decimal) = false := by
    rw [Bool.or_eq_false_iff]
    exact ⟨beq_false_of_ne hv, beq_false_of_ne hw⟩
  rw [hkinds]
  simp only [Bool.or_self, Bool.false_eq_true, if_false]
  split
  · exact ⟨_, rfl⟩
  · exact ⟨_, rfl⟩
  · exact ⟨_, rfl⟩

theorem compare?_eq_none {d e : Decimal} (h : d.compare? e = none) :
    (decimal d).isUndefined = true ∨ (decimal e).isUndefined = true := by
  unfold Decimal.compare? at h
  split at h
  · exact Or.inl rfl
  · exact Or.inr rfl
  · cases h
  · cases h
  · cases h
  · split at h
    · cases h
    · split at h
      · cases h
      · split at h
        · cases h
        · split at h
          · cases h
          · split at h
            · cases h
            · cases h

theorem exceeds_of_undefined (h : areNumbers v w = true)
    (hundefined : v.isUndefined = true ∨ w.isUndefined = true) :
    v.exceeds w = .error .undefinedComparison := by
  rw [exceeds_of_numbers h, if_pos ((Bool.or_eq_true _ _).mpr hundefined)]

theorem undefined_of_exceeds {d e : Decimal} (h : (decimal d).exceeds (decimal e) = .error f) :
    (decimal d).isUndefined = true ∨ (decimal e).isUndefined = true := by
  rw [exceeds_of_numbers rfl] at h
  split at h
  · exact (Bool.or_eq_true _ _).mp ‹_›
  · split at h
    · cases h
    · exact compare?_eq_none ‹_›
    · cases h

/-! ### Comparing with texts -/

theorem exists_equal_text (v : Value) (s : String) : ∃ b, v.equal (text s) = .ok b := by
  cases v <;> exact ⟨_, rfl⟩

theorem exists_text_equal (v : Value) (s : String) : ∃ b, (text s).equal v = .ok b := by
  cases v <;> exact ⟨_, rfl⟩

theorem exceeds_text_ne (v : Value) (s : String) :
    v.exceeds (text s) ≠ .error .undefinedComparison := by
  cases v <;> (intro h; cases h)

theorem text_exceeds_ne (v : Value) (s : String) :
    (text s).exceeds v ≠ .error .undefinedComparison := by
  cases v <;> (intro h; cases h)

theorem exists_equalEach {items others : List Value}
    (h : ∀ v ∈ items, ∀ w ∈ others, ∃ b, v.equal w = .ok b) :
    ∃ b, equalEach items others = .ok b := by
  induction items generalizing others with
  | nil => exact ⟨true, by simp only [equalEach]⟩
  | cons v rest ih =>
    cases others with
    | nil => exact ⟨true, by simp only [equalEach]⟩
    | cons w others =>
      obtain ⟨same, hsame⟩ := h v (List.mem_cons_self ..) w (List.mem_cons_self ..)
      simp only [equalEach, hsame, bind, Except.bind]
      cases same with
      | true =>
        exact ih fun u hu x hx => h u (List.mem_cons_of_mem _ hu) x (List.mem_cons_of_mem _ hx)
      | false => exact ⟨false, rfl⟩

/-- Lists can be ordered if their items can be. -/
theorem exceedsEach_ne {items others : List Value}
    (hequal : ∀ v ∈ items, ∀ w ∈ others, ∃ b, v.equal w = .ok b)
    (hexceeds : ∀ v ∈ items, ∀ w ∈ others, v.exceeds w ≠ .error .undefinedComparison) :
    exceedsEach items others ≠ .error .undefinedComparison := by
  induction items generalizing others with
  | nil =>
    intro h
    cases others <;> cases h
  | cons v rest ih =>
    cases others with
    | nil =>
      intro h
      cases h
    | cons w others =>
      obtain ⟨same, hsame⟩ := hequal v (List.mem_cons_self ..) w (List.mem_cons_self ..)
      simp only [exceedsEach, hsame, bind, Except.bind]
      cases same with
      | true =>
        exact ih
          (fun u hu x hx => hequal u (List.mem_cons_of_mem _ hu) x (List.mem_cons_of_mem _ hx))
          (fun u hu x hx => hexceeds u (List.mem_cons_of_mem _ hu) x (List.mem_cons_of_mem _ hx))
      | false => exact hexceeds v (List.mem_cons_self ..) w (List.mem_cons_self ..)

theorem mem_charactersOf {s : String} (h : v ∈ charactersOf s) : ∃ c, v = text c := by
  obtain ⟨c, _, rfl⟩ := List.mem_map.mp h
  exact ⟨_, rfl⟩

theorem exists_equalEach_characters (items : List Value) (s : String) :
    ∃ b, equalEach items (charactersOf s) = .ok b := by
  refine exists_equalEach ?_
  intro v _ w hw
  obtain ⟨c, rfl⟩ := mem_charactersOf hw
  exact exists_equal_text v c

theorem exceedsEach_characters (items : List Value) (s : String) :
    exceedsEach items (charactersOf s) ≠ .error .undefinedComparison := by
  refine exceedsEach_ne ?_ ?_
  · intro v _ w hw
    obtain ⟨c, rfl⟩ := mem_charactersOf hw
    exact exists_equal_text v c
  · intro v _ w hw
    obtain ⟨c, rfl⟩ := mem_charactersOf hw
    exact exceeds_text_ne v c

theorem characters_exceedsEach (items : List Value) (s : String) :
    exceedsEach (charactersOf s) items ≠ .error .undefinedComparison := by
  refine exceedsEach_ne ?_ ?_
  · intro v hv w _
    obtain ⟨c, rfl⟩ := mem_charactersOf hv
    exact exists_text_equal w c
  · intro v hv w _
    obtain ⟨c, rfl⟩ := mem_charactersOf hv
    exact text_exceeds_ne w c

/-! ### Comparing with what was read -/

theorem compareTo_eq_error (h : v.compareTo w = .error f) :
    v.exceeds w = .error f ∨ w.exceeds v = .error f := by
  unfold compareTo at h
  rcases bind_eq_error h with habove | ⟨above, _, h⟩
  · exact Or.inl habove
  · rcases bind_eq_error h with hbelow | ⟨below, _, h⟩
    · exact Or.inr hbelow
    · cases h

/-- A value and what an operand is read as for it. -/
inductive Read (operand : String) : Value → Value → Prop where
  | number {v w : Value} (h : areNumbers v w = true) (hv : v.kind ≠ .decimal)
      (hw : w.kind ≠ .decimal) : Read operand v w
  | decimal (d e : Decimal) : Read operand (.decimal d) (.decimal e)
  | text (s : String) : Read operand (.text s) (.text operand)
  | date (d e : Date) : Read operand (.date d) (.date e)
  | list (items : List Value) : Read operand (.list items) (.list (charactersOf operand))
  | group (items : List Value) : Read operand (.group items) (.group (charactersOf operand))

theorem read_of_readLike (h : v.readLike operand = .ok w) : Read operand v w := by
  unfold readLike at h
  split at h
  · split at h
    · obtain rfl := Except.ok.inj h
      exact .number rfl nofun nofun
    · cases h
  · obtain ⟨n, _, rfl⟩ := map_eq_ok.mp h
    exact .number rfl nofun nofun
  · obtain ⟨x, _, rfl⟩ := map_eq_ok.mp h
    exact .number rfl nofun nofun
  · obtain rfl := Except.ok.inj h
    exact .text _
  · split at h
    · obtain rfl := Except.ok.inj h
      exact .decimal _ _
    · cases h
  · split at h
    · obtain rfl := Except.ok.inj h
      exact .date _ _
    · cases h
  · obtain rfl := Except.ok.inj h
    exact .list _
  · obtain rfl := Except.ok.inj h
    exact .group _
  · cases h
  · cases h

theorem isUndefined_eq_false (h : v.kind ≠ .decimal) : v.isUndefined = false := by
  cases v with
  | decimal d => exact absurd rfl h
  | _ => rfl

theorem undefined_of_compareTo (hread : Read operand v w)
    (h : v.compareTo w = .error .undefinedComparison) :
    v.isUndefined = true ∨ w.isUndefined = true := by
  have hside := compareTo_eq_error h
  cases hread with
  | number hnum hv hw =>
    have hnum' : areNumbers w v = true := by
      unfold areNumbers at hnum ⊢
      rw [Bool.and_comm]
      exact hnum
    obtain ⟨above, habove⟩ := exceeds_eq_ok hnum hv hw
    obtain ⟨below, hbelow⟩ := exceeds_eq_ok hnum' hw hv
    rcases hside with hside | hside
    · cases habove.symm.trans hside
    · cases hbelow.symm.trans hside
  | decimal d e =>
    rcases hside with hside | hside
    · exact undefined_of_exceeds hside
    · exact (undefined_of_exceeds hside).symm
  | text s =>
    rcases hside with hside | hside
    · exact absurd hside (exceeds_text_ne _ _)
    · exact absurd hside (exceeds_text_ne _ _)
  | date d e =>
    rcases hside with hside | hside
    · cases hside
    · cases hside
  | list items =>
    simp only [exceeds] at hside
    rcases hside with hside | hside
    · exact absurd hside (exceedsEach_characters _ _)
    · exact absurd hside (characters_exceedsEach _ _)
  | group items =>
    simp only [exceeds] at hside
    rcases hside with hside | hside
    · exact absurd hside (exceedsEach_characters _ _)
    · exact absurd hside (characters_exceedsEach _ _)

theorem compareTo_of_undefined (hread : Read operand v w)
    (h : v.isUndefined = true ∨ w.isUndefined = true) :
    v.compareTo w = .error .undefinedComparison := by
  cases hread with
  | number hnum hv hw =>
    rw [isUndefined_eq_false hv, isUndefined_eq_false hw] at h
    simp at h
  | decimal d e =>
    have habove := exceeds_of_undefined (v := decimal d) (w := decimal e) rfl h
    simp only [compareTo, habove, bind, Except.bind]
  | text s => simp [isUndefined] at h
  | date d e => simp [isUndefined] at h
  | list items => simp [isUndefined] at h
  | group items => simp [isUndefined] at h

theorem equal_of_numbers (h : areNumbers v w = true) :
    v.equal w =
      if v.isSignalling || w.isSignalling then .error .undefinedComparison
      else .ok (compareNumbers? v w == some .eq) := by
  unfold equal
  split
  · cases h
  · cases h
  · cases h
  · cases h
  · cases h
  · cases h
  · exact if_pos h

theorem exists_equal_characters (items : List Value) (s : String) :
    ∃ b, (list items).equal (list (charactersOf s)) = .ok b := by
  unfold equal
  split
  · exact exists_equalEach_characters _ _
  · exact ⟨false, rfl⟩

theorem areNumbers_of_read (hread : Read operand v w)
    (h : v.isSignalling = true ∨ w.isSignalling = true) : areNumbers v w = true := by
  cases hread with
  | number hnum _ _ => exact hnum
  | decimal d e => rfl
  | text s => simp [isSignalling] at h
  | date d e => simp [isSignalling] at h
  | list items => simp [isSignalling] at h
  | group items => simp [isSignalling] at h

/-- What is read for a value is equal to it or not, unless decimals refuse. -/
theorem equal_read (hread : Read operand v w) : v.equal w = .error f ↔
    f = .undefinedComparison ∧ (v.isSignalling = true ∨ w.isSignalling = true) := by
  constructor
  · intro h
    have hnum : areNumbers v w = true := by
      cases hread with
      | number hnum _ _ => exact hnum
      | decimal d e => rfl
      | text s => cases h
      | date d e => cases h
      | list items =>
        obtain ⟨b, hb⟩ := exists_equal_characters items operand
        cases hb.symm.trans h
      | group items =>
        obtain ⟨b, hb⟩ := exists_equal_characters items operand
        cases hb.symm.trans h
    rw [equal_of_numbers hnum] at h
    split at h
    · exact ⟨(Except.error.inj h).symm, (Bool.or_eq_true _ _).mp ‹_›⟩
    · cases h
  · rintro ⟨rfl, h⟩
    rw [equal_of_numbers (areNumbers_of_read hread h), if_pos ((Bool.or_eq_true _ _).mpr h)]

end Value

/-! ### Searching -/

/-- A search among several values comes to one that refuses to be compared with what the operand is
read as. -/
inductive SearchRefused (operand : String) : List Value → Prop where
  | here (v w : Value) (rest : List Value) (hread : v.readLike operand = .ok w)
      (hrefuses : v.isSignalling = true ∨ w.isSignalling = true) : SearchRefused operand (v :: rest)
  | later (v : Value) (rest : List Value)
      (hpassed : ∀ w, v.readLike operand = .ok w → v.equal w = .ok false)
      (h : SearchRefused operand rest) : SearchRefused operand (v :: rest)

theorem searchRefused_of_includes {operand : String} {values : List Value} {f : ValueFault}
    (h : CurrentValue.includes operand values = .error f) :
    f = .undefinedComparison ∧ SearchRefused operand values := by
  induction values with
  | nil => cases h
  | cons v rest ih =>
    unfold CurrentValue.includes at h
    split at h
    · rename_i e hread
      obtain ⟨hf, hrest⟩ := ih h
      refine ⟨hf, .later v rest ?_ hrest⟩
      intro w hw
      cases hread.symm.trans hw
    · rename_i w hread
      rcases bind_eq_error h with hequal | ⟨same, hequal, h⟩
      · obtain ⟨hf, hrefuses⟩ := (Value.equal_read (Value.read_of_readLike hread)).mp hequal
        exact ⟨hf, .here v w rest hread hrefuses⟩
      · cases same with
        | true => cases h
        | false =>
          obtain ⟨hf, hrest⟩ := ih h
          refine ⟨hf, .later v rest ?_ hrest⟩
          intro w' hw'
          obtain rfl := Except.ok.inj (hread.symm.trans hw')
          exact hequal

theorem includes_of_searchRefused {operand : String} {values : List Value}
    (h : SearchRefused operand values) :
    CurrentValue.includes operand values = .error .undefinedComparison := by
  induction h with
  | here v w rest hread hrefuses =>
    have hequal := (Value.equal_read (Value.read_of_readLike hread)).mpr ⟨rfl, hrefuses⟩
    simp only [CurrentValue.includes, hread, hequal, bind, Except.bind]
  | later v rest hpassed _ ih =>
    unfold CurrentValue.includes
    split
    · exact ih
    · rename_i w hread
      simp only [hpassed w hread, bind, Except.bind]
      exact ih

end DecisionTable
