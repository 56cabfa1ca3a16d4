import DecisionTable.Proofs.Operator.Fault
import DecisionTable.Proofs.Tree.Arrival

/-!
# Verdicts on several subjects

Several subjects are evaluated one after the other. Each of them gets what its own evaluation gives,
an outcome or an error, unless an evaluation arrives at a branch whose rule breaks. The first such
evaluation ends the batch, and there are no verdicts at all.
-/

namespace DecisionTable

namespace Tree

/-- The evaluation of a subject arrives at a branch whose rule breaks. -/
def Breaks (tree : Tree) (now : Store) (subject : Subject) (f : RuleFault) : Prop :=
  ∃ (b : Branch) (c : CurrentValue), tree.Arrives now subject b ∧
    now.current b.decision.tested subject = .ok c ∧
    b.decision.op.accepts b.decision.tested = true ∧ b.decision.op.Breaks b.decision.operand c f

/-- The verdicts on the given subjects. -/
structure Judged (tree : Tree) (now : Store) (subjects : List Subject)
    (found : List (Subject × Verdict)) : Prop where
  /-- Each subject has one verdict, in the order in which the subjects are first listed. -/
  subjects : found.map (·.1) = subjects.eraseDups
  /-- A verdict is what the evaluation of the subject gives. -/
  verdicts : ∀ p ∈ found, tree.evaluate now p.1 = p.2.mapError .rejected

variable {tree : Tree} {now : Store} {subject : Subject} {subjects before : List Subject}
  {found found' : List (Subject × Verdict)} {r : Verdict} {f : RuleFault}

/-! ### Single verdicts -/

theorem verdict_eq_ok :
    tree.verdict now subject = .ok r ↔ tree.evaluate now subject = r.mapError .rejected := by
  unfold verdict
  cases tree.evaluate now subject with
  | ok l => cases r <;> simp [Except.mapError]
  | error e =>
    cases e with
    | rejected e => cases r <;> simp [Except.mapError]
    | broken g => cases r <;> simp [Except.mapError]

theorem verdict_eq_error :
    tree.verdict now subject = .error f ↔ tree.evaluate now subject = .error (.broken f) := by
  unfold verdict
  cases tree.evaluate now subject with
  | ok l => simp
  | error e => cases e <;> simp

/-! ### Notes on subjects -/

theorem map_noteSubject {α : Type} (l : List (Subject × α)) (subject : Subject) (a : α) :
    (noteSubject l subject a).map (·.1)
      = if subject ∈ l.map (·.1) then l.map (·.1) else l.map (·.1) ++ [subject] := by
  have hany : l.any (·.1 == subject) = true ↔ subject ∈ l.map (·.1) := by
    simp only [List.any_eq_true, List.mem_map, beq_iff_eq]
  unfold noteSubject
  by_cases hmem : subject ∈ l.map (·.1)
  · rw [if_pos (hany.mpr hmem), if_pos hmem, List.map_map]
    refine List.map_congr_left ?_
    intro p _
    simp only [Function.comp_apply]
    split
    · exact (eq_of_beq ‹_›).symm
    · rfl
  · rw [if_neg fun h => hmem (hany.mp h), if_neg hmem, List.map_append]
    rfl

theorem nodup_noteSubject {α : Type} {l : List (Subject × α)} (h : (l.map (·.1)).Nodup)
    (subject : Subject) (a : α) : ((noteSubject l subject a).map (·.1)).Nodup := by
  rw [map_noteSubject]
  split
  · exact h
  · rename_i hnew
    refine List.nodup_append.mpr ⟨h, List.nodup_singleton subject, ?_⟩
    intro known hknown other hother hsame
    rw [hsame, List.mem_singleton.mp hother] at hknown
    exact hnew hknown

theorem mem_noteSubject {α : Type} {l : List (Subject × α)} {other : Subject} {a a' : α} :
    (other, a') ∈ noteSubject l subject a ↔
      if other = subject then a' = a else (other, a') ∈ l := by
  unfold noteSubject
  by_cases hany : l.any (·.1 == subject) = true
  · rw [if_pos hany, List.mem_map]
    constructor
    · rintro ⟨q, hq, hlast⟩
      by_cases hkey : q.1 = subject
      · rw [if_pos (beq_iff_eq.mpr hkey)] at hlast
        obtain ⟨rfl, rfl⟩ := Prod.mk.inj hlast
        rw [if_pos rfl]
      · rw [if_neg (mt beq_iff_eq.mp hkey)] at hlast
        subst hlast
        rw [if_neg hkey]
        exact hq
    · intro h
      by_cases hother : other = subject
      · rw [if_pos hother] at h
        subst hother h
        obtain ⟨q, hq, hkey⟩ := List.any_eq_true.mp hany
        exact ⟨q, hq, if_pos hkey⟩
      · rw [if_neg hother] at h
        exact ⟨(other, a'), h, if_neg (mt beq_iff_eq.mp hother)⟩
  · have hnew : ∀ b, (subject, b) ∉ l := by
      intro b hb
      exact hany (List.any_eq_true.mpr ⟨(subject, b), hb, beq_self_eq_true subject⟩)
    rw [if_neg hany, List.mem_append, List.mem_singleton, Prod.mk.injEq]
    by_cases hother : other = subject
    · subst hother
      simp [hnew]
    · simp [hother]

theorem judged_nil (tree : Tree) (now : Store) : tree.Judged now [] [] :=
  ⟨rfl, fun _ hp => (List.not_mem_nil hp).elim⟩

theorem Judged.note (h : tree.Judged now before found)
    (hverdict : tree.verdict now subject = .ok r) :
    tree.Judged now (before ++ [subject]) (noteSubject found subject r) := by
  refine ⟨?_, ?_⟩
  · rw [map_noteSubject, h.subjects, List.eraseDups_append]
    by_cases hmem : subject ∈ before
    · simp [List.removeAll, hmem]
    · simp [List.removeAll, hmem, List.eraseDups_cons]
  · rintro ⟨other, r'⟩ hp
    rw [mem_noteSubject] at hp
    by_cases hother : other = subject
    · rw [if_pos hother] at hp
      subst hother hp
      exact verdict_eq_ok.mp hverdict
    · rw [if_neg hother] at hp
      exact h.verdicts (other, r') hp

/-! ### Batches -/

/-- Adds the verdicts on further subjects. -/
def judge (tree : Tree) (now : Store) (found : List (Subject × Verdict))
    (subjects : List Subject) : Except RuleFault (List (Subject × Verdict)) :=
  subjects.foldlM (fun found s => (tree.verdict now s).map (noteSubject found s)) found

theorem evaluateMany_eq_judge (tree : Tree) (now : Store) (subjects : List Subject) :
    tree.evaluateMany now subjects = tree.judge now [] subjects := rfl

theorem judge_of_ok {rest : List Subject} (h : tree.verdict now subject = .ok r) :
    tree.judge now found (subject :: rest) = tree.judge now (noteSubject found subject r) rest := by
  simp only [judge, List.foldlM_cons, h, Except.map, bind, Except.bind]

theorem judge_of_error {rest : List Subject} (h : tree.verdict now subject = .error f) :
    tree.judge now found (subject :: rest) = .error f := by
  simp only [judge, List.foldlM_cons, h, Except.map, bind, Except.bind]

theorem judged_of_judge (h : tree.Judged now before found)
    (hok : tree.judge now found subjects = .ok found') :
    tree.Judged now (before ++ subjects) found' := by
  induction subjects generalizing before found with
  | nil =>
    obtain rfl := Except.ok.inj hok
    rw [List.append_nil]
    exact h
  | cons subject rest ih =>
    cases hverdict : tree.verdict now subject with
    | error f => cases (judge_of_error hverdict).symm.trans hok
    | ok r =>
      have hrest := ih (h.note hverdict) ((judge_of_ok hverdict).symm.trans hok)
      rw [List.append_assoc, List.singleton_append] at hrest
      exact hrest

/-- A batch ends at the first subject on which there is no verdict. -/
theorem judge_eq_error : tree.judge now found subjects = .error f ↔
    ∃ front subject back, subjects = front ++ subject :: back ∧
      (∀ s ∈ front, ∀ g, tree.verdict now s ≠ .error g) ∧ tree.verdict now subject = .error f := by
  induction subjects generalizing found with
  | nil =>
    constructor
    · intro h
      cases h
    · rintro ⟨front, subject, back, hsplit, _⟩
      cases front <;> cases hsplit
  | cons subject rest ih =>
    cases hverdict : tree.verdict now subject with
    | error g =>
      rw [judge_of_error hverdict]
      constructor
      · intro h
        obtain rfl := Except.error.inj h
        exact ⟨[], subject, rest, rfl, fun _ hs => (List.not_mem_nil hs).elim, hverdict⟩
      · rintro ⟨front, s, back, hsplit, hfront, hs⟩
        cases front with
        | nil =>
          obtain ⟨rfl, _⟩ := List.cons.inj hsplit
          exact congrArg _ (Except.error.inj (hverdict.symm.trans hs))
        | cons s' front =>
          obtain ⟨rfl, _⟩ := List.cons.inj hsplit
          exact absurd hverdict (hfront _ (List.mem_cons_self ..) g)
    | ok r =>
      rw [judge_of_ok hverdict, ih]
      constructor
      · rintro ⟨front, s, back, rfl, hfront, hs⟩
        refine ⟨subject :: front, s, back, rfl, ?_, hs⟩
        intro s' hs' g hg
        rcases List.mem_cons.mp hs' with rfl | hs'
        · cases hverdict.symm.trans hg
        · exact hfront s' hs' g hg
      · rintro ⟨front, s, back, hsplit, hfront, hs⟩
        cases front with
        | nil =>
          obtain ⟨rfl, _⟩ := List.cons.inj hsplit
          cases hverdict.symm.trans hs
        | cons s' front =>
          obtain ⟨_, rfl⟩ := List.cons.inj hsplit
          exact ⟨front, s, back, rfl, fun s hs => hfront s (List.mem_cons_of_mem _ hs), hs⟩

end Tree

/-! ### Batches on compiled trees -/

variable {t : Table} {store now : Store} {baseUri : String} {tree : Tree} {subject : Subject}
  {e : EvaluationError} {f : RuleFault}

theorem evaluate_of_breaks (h : tree.Breaks now subject f) :
    tree.evaluate now subject = .error (.broken f) := by
  obtain ⟨b, c, harrives, hcurrent, hop, hbreaks⟩ := h
  have hattr := (Store.current_eq_ok hcurrent).1
  obtain ⟨hrule, hreported⟩ := Operator.rule_of_breaks (hattr ▸ hop) hbreaks
  refine Tree.evaluate_of_fails harrives ?_
  rw [Decision.holds_of_current hcurrent]
  simp only [Operator.decide, hattr, hop, hrule, hreported, if_true, Bool.false_eq_true, if_false]

section Compiled

variable (hstore : store.Reached) (h : (compile t store baseUri).tree = .ok tree)
  (hlater : (compile t store baseUri).store.Later now)

include hstore h hlater

theorem breaks_of_evaluate (hfails : tree.evaluate now subject = .error (.broken f)) :
    tree.Breaks now subject f := by
  obtain ⟨b, harrives, hholds⟩ := Tree.evaluate_eq_error.mp hfails
  have hends := ends_of_arrives hstore h hlater harrives
  rw [hholds] at hends
  cases hends with
  | broken c f hcurrent hop hrule hreported =>
    obtain ⟨hattr, hfits, _⟩ := Store.current_eq_ok hcurrent
    exact ⟨b, c, harrives, hcurrent, hop,
      Operator.breaks_of_rule (hattr ▸ hop) hfits hrule hreported⟩

theorem verdict_eq_error_iff : tree.verdict now subject = .error f ↔ tree.Breaks now subject f := by
  rw [Tree.verdict_eq_error]
  exact ⟨breaks_of_evaluate hstore h hlater, evaluate_of_breaks⟩

/-- An error is that of a branch at which the evaluation arrives: the value is missing, or the
operator does not suit the attribute, or the operand is at fault. -/
theorem error_of_rejected (hfails : tree.evaluate now subject = .error (.rejected e)) :
    ∃ b : Branch, tree.Arrives now subject b ∧
      match now.get? subject b.decision.tested.identifier with
      | none => e = .missingValue subject b.decision.tested.identifier
      | some _ => e = .shapeViolation b.decision.op b.decision.tested ∨
        ∃ f, e = .badOperand b.decision.op b.decision.operand f := by
  obtain ⟨b, harrives, hholds⟩ := Tree.evaluate_eq_error.mp hfails
  have hends := ends_of_arrives hstore h hlater harrives
  refine ⟨b, harrives, ?_⟩
  rw [hholds] at hends
  cases hends with
  | missing hv => rw [hv]
  | mismatched v hv _ =>
    rw [hv]
    exact Or.inl rfl
  | misread c f hcurrent _ _ _ =>
    obtain ⟨_, _, v, hv⟩ := Store.current_eq_ok hcurrent
    rw [hv]
    exact Or.inr ⟨f, rfl⟩

end Compiled

/-- A batch gives every listed subject what its own evaluation gives, unless an evaluation arrives at
a branch whose rule breaks; the first such fault is then all that is given. -/
theorem evaluateMany_outcome (hstore : store.Reached)
    (h : (compile t store baseUri).tree = .ok tree)
    (hlater : (compile t store baseUri).store.Later now) (subjects : List Subject) :
    ((∀ s ∈ subjects, ∀ g, ¬ tree.Breaks now s g) →
      ∃ found, tree.evaluateMany now subjects = .ok found ∧ tree.Judged now subjects found) ∧
    (∀ f, tree.evaluateMany now subjects = .error f ↔
      ∃ front subject back, subjects = front ++ subject :: back ∧
        (∀ s ∈ front, ∀ g, ¬ tree.Breaks now s g) ∧ tree.Breaks now subject f) ∧
    ∀ subject e, tree.evaluate now subject = .error (.rejected e) →
      ∃ b : Branch, tree.Arrives now subject b ∧
        match now.get? subject b.decision.tested.identifier with
        | none => e = .missingValue subject b.decision.tested.identifier
        | some _ => e = .shapeViolation b.decision.op b.decision.tested ∨
          ∃ f, e = .badOperand b.decision.op b.decision.operand f := by
  have hverdict : ∀ subject g, tree.verdict now subject = .error g ↔ tree.Breaks now subject g :=
    fun _ _ => verdict_eq_error_iff hstore h hlater
  have hfault : ∀ f, tree.evaluateMany now subjects = .error f ↔
      ∃ front subject back, subjects = front ++ subject :: back ∧
        (∀ s ∈ front, ∀ g, ¬ tree.Breaks now s g) ∧ tree.Breaks now subject f := by
    intro f
    rw [Tree.evaluateMany_eq_judge, Tree.judge_eq_error]
    simp only [ne_eq, hverdict]
  refine ⟨?_, hfault, ?_⟩
  · intro hnone
    cases hmany : tree.evaluateMany now subjects with
    | ok found => exact ⟨found, rfl, Tree.judged_of_judge (Tree.judged_nil tree now) hmany⟩
    | error f =>
      obtain ⟨front, subject, back, rfl, _, hbreaks⟩ := (hfault f).mp hmany
      exact absurd hbreaks (hnone subject (List.mem_append_right _ (List.mem_cons_self ..)) f)
  · intro subject e hfails
    exact error_of_rejected hstore h hlater hfails

namespace Example

/-- A table that orders a score. -/
def threshold : Table :=
  singleRow "#score" "gt" "1" "\"x\"" "\"y\"" "root"

/-- A store in which one score is a decimal that is no number. -/
def unordered : Store :=
  { emptyStore with
    entries := [⟨.named "bob", "#score", .int 2⟩,
      ⟨.named "ann", "#score", .decimal (.nan false false 0)⟩]
    resolved := ["#score"] }

theorem later_unordered : (compile threshold emptyStore "").store.Later unordered := by
  let store : Store := { emptyStore with resolved := ["#score"] }
  have hstore : (compile threshold emptyStore "").store = store :=
    compile_store_eq (by decide +kernel)
  have hann : Store.Change store
      { store with entries := [⟨.named "ann", "#score", .decimal (.nan false false 0)⟩] } :=
    .set (.named "ann") "#score" (.decimal (.nan false false 0)) rfl
  have hbob : Store.Change
      { store with entries := [⟨.named "ann", "#score", .decimal (.nan false false 0)⟩] }
      unordered :=
    .set (.named "bob") "#score" (.int 2) rfl
  rw [hstore]
  exact (Relation.ReflTransGen.single hann).tail hbob

end Example

/-- A subject with a score and one without get their verdicts, and the evaluation of the subject
whose score is no number breaks. -/
theorem evaluateMany_outcome_unordered :
    ∃ tree found, (compile Example.threshold Example.emptyStore "").tree = .ok tree ∧
      tree.evaluateMany Example.unordered [.named "bob", .named "zed", .named "bob"] = .ok found ∧
      tree.Judged Example.unordered [.named "bob", .named "zed", .named "bob"] found ∧
      tree.Breaks Example.unordered (.named "ann") (.value .undefinedComparison) := by
  have hvalues : (compile Example.threshold Example.emptyStore "").tree.map
      (fun tree => (tree.evaluate Example.unordered (.named "bob"),
        tree.evaluate Example.unordered (.named "zed"),
        tree.evaluate Example.unordered (.named "ann")))
      = .ok (.ok ⟨.string, "x"⟩, .error (.rejected (.missingValue (.named "zed") "#score")),
        .error (.broken (.value .undefinedComparison))) := by decide +kernel
  obtain ⟨tree, htree, hfields⟩ := exists_tree hvalues
  obtain ⟨hbob, hzed, hann⟩ : _ ∧ _ ∧ _ := by simpa only [Prod.mk.injEq] using hfields
  have hnone : ∀ s ∈ [Subject.named "bob", .named "zed", .named "bob"], ∀ g,
      ¬ tree.Breaks Example.unordered s g := by
    intro s hs g hbreaks
    have hbroken := evaluate_of_breaks hbreaks
    simp only [List.mem_cons, List.not_mem_nil, or_false] at hs
    rcases hs with rfl | rfl | rfl
    · cases hbob.symm.trans hbroken
    · cases hzed.symm.trans hbroken
    · cases hbob.symm.trans hbroken
  have houtcome := evaluateMany_outcome Example.reached_emptyStore htree Example.later_unordered
  obtain ⟨found, hfound, hjudged⟩ := (houtcome _).1 hnone
  exact ⟨tree, found, htree, hfound, hjudged,
    breaks_of_evaluate Example.reached_emptyStore htree Example.later_unordered hann⟩

/-- A score that is no number leaves the other subjects of a batch without the outcomes that they
have by themselves. -/
theorem evaluateMany_lost :
    ∃ tree, (compile Example.threshold Example.emptyStore "").tree = .ok tree ∧
      Example.emptyStore.Reached ∧
      (compile Example.threshold Example.emptyStore "").store.Later Example.unordered ∧
      tree.evaluate Example.unordered (.named "bob") = .ok ⟨.string, "x"⟩ ∧
      ∀ found, tree.evaluateMany Example.unordered [.named "ann", .named "bob"] ≠ .ok found := by
  have hvalues : (compile Example.threshold Example.emptyStore "").tree.map
      (fun tree => (tree.evaluate Example.unordered (.named "bob"),
        tree.evaluateMany Example.unordered [.named "ann", .named "bob"]))
      = .ok (.ok ⟨.string, "x"⟩, .error (.value .undefinedComparison)) := by decide +kernel
  obtain ⟨tree, htree, hfields⟩ := exists_tree hvalues
  obtain ⟨hbob, hmany⟩ := Prod.mk.inj hfields
  refine ⟨tree, htree, Example.reached_emptyStore, Example.later_unordered, hbob, ?_⟩
  intro found hfound
  cases hmany.symm.trans hfound

end DecisionTable
