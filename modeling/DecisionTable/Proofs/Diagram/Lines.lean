import DecisionTable.Proofs.Diagram.Identifier

/-!
# Lines and statements of diagrams

A text is read line by line, and its tokens statement by statement.
-/

namespace DecisionTable.Dot

variable {cs : List Char} {ts rest : List Token} {blocks : List (List Token)}

/-! ### Texts of several lines -/

theorem step_append (m : Mode) (found before : List Token) (c : Char) :
    step (m, found ++ before) c = (step (m, found) c).map fun p => (p.1, p.2 ++ before) := by
  have hbegin : ∀ found, begin (found ++ before) c
      = (begin found c).map fun p => (p.1, p.2 ++ before) := by
    intro found
    unfold begin
    split
    · rfl
    · split
      · rfl
      · split
        · rfl
        · split
          · rfl
          · cases symbol? c <;> rfl
  cases m with
  | between => exact hbegin found
  | word cs =>
    simp only [step]
    split
    · rfl
    · exact hbegin (wordToken cs.reverse :: found)
  | quoted cs =>
    simp only [step]
    split
    · rfl
    · split <;> rfl
  | escaped cs =>
    simp only [step]
    split
    · rfl
    · split <;> rfl
  | dash =>
    simp only [step]
    split <;> rfl

theorem foldlM_step_append (cs : List Char) (m : Mode) (found before : List Token) :
    cs.foldlM step (m, found ++ before)
      = (cs.foldlM step (m, found)).map fun p => (p.1, p.2 ++ before) := by
  induction cs generalizing m found with
  | nil => rfl
  | cons c cs ih =>
    rw [List.foldlM_cons, List.foldlM_cons, step_append]
    cases step (m, found) c with
    | none => rfl
    | some p => exact ih p.1 p.2

/-- A text that is read by itself is read so wherever it stands. -/
theorem lexes_of_tokens? (h : tokens? cs = some ts) : Lexes cs ts := by
  intro found
  have happend := foldlM_step_append cs .between [] found
  rw [List.nil_append] at happend
  rw [happend]
  unfold tokens? at h
  split at h
  · rename_i before hbefore
    obtain rfl := Option.some.inj h
    rw [hbefore, List.reverse_reverse]
    rfl
  · cases h

theorem lexes_flatMap {α : Type} {l : List α} {f : α → List Char} {g : α → List Token}
    (h : ∀ a ∈ l, Lexes (f a) (g a)) : Lexes (l.flatMap f) (l.flatMap g) := by
  induction l with
  | nil => exact .nil
  | cons a l ih =>
    rw [List.flatMap_cons, List.flatMap_cons]
    exact (h a (List.mem_cons_self ..)).append (ih fun b hb => h b (List.mem_cons_of_mem _ hb))

theorem toList_lines (line : String) (lines : List String) :
    ("\n".intercalate (line :: lines)).toList
      = line.toList ++ lines.flatMap fun l => '\n' :: l.toList := by
  rw [String.toList_intercalate, List.map_cons]
  induction lines generalizing line with
  | nil => simp
  | cons next lines ih =>
    rw [List.map_cons, List.intercalate_cons_cons, ih]
    simp

/-! ### Statements -/

/-- Tokens that neither end a statement nor the graph. -/
def Inner (ts : List Token) : Prop :=
  ∀ t ∈ ts, t ≠ .semicolon ∧ t ≠ .closeBrace

instance (ts : List Token) : Decidable (Inner ts) :=
  inferInstanceAs (Decidable (∀ t ∈ ts, t ≠ .semicolon ∧ t ≠ .closeBrace))

theorem statements?_inner (h : Inner ts) (begun rest : List Token) :
    statements? begun (ts ++ rest) = statements? (ts.reverse ++ begun) rest := by
  induction ts generalizing begun with
  | nil => rfl
  | cons t ts ih =>
    obtain ⟨hsemicolon, hbrace⟩ := h t (List.mem_cons_self ..)
    have hnext : statements? begun (t :: (ts ++ rest)) = statements? (t :: begun) (ts ++ rest) := by
      rw [statements?]
      · intro hlast
        exact (hbrace hlast).elim
      · exact hsemicolon
    rw [List.cons_append, hnext, ih fun u hu => h u (List.mem_cons_of_mem _ hu)]
    simp

theorem statements?_cons (h : Inner ts) (rest : List Token) :
    statements? [] (ts ++ .semicolon :: rest)
      = (statement? ts).bind fun s => (statements? [] rest).map (s :: ·) := by
  rw [statements?_inner h, statements?]
  simp only [List.append_nil, List.reverse_reverse]
  cases statement? ts with
  | none => rfl
  | some s => cases statements? [] rest <;> rfl

theorem statements?_blocks (h : ∀ ts ∈ blocks, Inner ts) :
    statements? [] (blocks.flatMap (fun ts => ts ++ [.semicolon]) ++ [.closeBrace])
      = blocks.mapM statement? := by
  induction blocks with
  | nil => rfl
  | cons ts blocks ih =>
    rw [List.flatMap_cons, List.append_assoc, List.append_assoc, List.singleton_append,
      statements?_cons (h ts (List.mem_cons_self ..)),
      ih fun us hus => h us (List.mem_cons_of_mem _ hus), List.mapM_cons]
    cases statement? ts with
    | none => rfl
    | some s => cases blocks.mapM statement? <;> rfl

end DecisionTable.Dot
