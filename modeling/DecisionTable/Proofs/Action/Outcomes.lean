import DecisionTable.Proofs.Action.Independent
import DecisionTable.Proofs.Action.LeafFile
import DecisionTable.Proofs.Literal.Conversion
import DecisionTable.Proofs.Tree.Report

/-!
# Outcomes that are stored

The outcomes of an action come from the cells of a file, and the cells have no blanks at their ends.
So an outcome is converted and stored unless it is an integer of too many digits, and a run ends early
at such an outcome or at a decision that breaks, and at nothing else.
-/

namespace DecisionTable

/-! ### Where an outcome comes from -/

namespace Tree

variable {tree : Tree} {t : Table} {store now : Store} {baseUri : String} {subject : Subject}
  {l : TypedLiteral}

theorem exists_cell_of_evaluate (hcompile : (compile t store baseUri).tree = .ok tree)
    (h : tree.evaluate now subject = .ok l) :
    ∃ (i : Nat) (side : Side), l = Literal.parse (t.cell i side.heading) baseUri := by
  obtain ⟨id, hleaf⟩ := exists_leaf_of_evaluate hcompile h
  obtain ⟨i, side, _, hmeans, _⟩ := (mem_leaves_iff_hasLeaf hcompile).mp hleaf
  exact ⟨i, side, (Source.sequel_eq_outcome.mp hmeans).2⟩

end Tree

/-- A line break is a blank, so no stripped text ends with one. -/
theorem Text.getLast?_of_strip {s : String} (h : strip s = s) : s.toList.getLast? ≠ some '\n' := by
  have hlist : (s.toList.dropWhile isBlank).rdropWhile isBlank = s.toList := by
    conv_rhs => rw [← h, strip, String.toList_ofList, trimBoth_eq]
  intro hlast
  have hne : (s.toList.dropWhile isBlank).rdropWhile isBlank ≠ [] := by
    rw [hlist]
    exact fun hnil => by simp [hnil] at hlast
  have hnot := List.rdropWhile_last_not isBlank _ hne
  rw [← hlist, List.getLast?_eq_some_getLast hne] at hlast
  rw [Option.some.inj hlast] at hnot
  exact hnot (by decide)

theorem Table.Stripped.cell {t : Table} (ht : t.Stripped) (i : Nat) (h : String) :
    Text.strip (t.cell i h) = t.cell i h := by
  unfold Table.cell
  rw [List.getD_eq_getElem?_getD]
  cases hrow : t.rows[i]? with
  | some row => exact ht.cellOf (List.mem_of_getElem? hrow) h
  | none =>
    rw [Option.getD_none, cellOf_nil]
    rfl

/-! ### Values of outcomes -/

def ValueFault.ofOverlong (l : TypedLiteral) : ValueFault :=
  .integerTooLong (Literal.integerPart l.value.toList).length

/-- What a tree decides for a subject has a value, unless it is too long. -/
structure Tree.Valued (tree : Tree) : Prop where
  short : ∀ {now : Store} {subject : Subject} {l : TypedLiteral},
    tree.evaluate now subject = .ok l → ¬ Literal.Overlong l → ∃ v, l.toValue = .ok v
  long : ∀ {now : Store} {subject : Subject} {l : TypedLiteral},
    tree.evaluate now subject = .ok l → Literal.Overlong l → l.toValue = .error (.ofOverlong l)

theorem Tree.valued_of_compile {t : Table} {store : Store} {baseUri : String} {tree : Tree}
    (ht : t.Stripped) (hcompile : (compile t store baseUri).tree = .ok tree) : tree.Valued where
  short := by
    intro now subject l heval hshort
    obtain ⟨i, side, rfl⟩ := exists_cell_of_evaluate hcompile heval
    exact Literal.exists_value (Text.getLast?_of_strip (ht.cell i side.heading)) hshort
  long := by
    intro now subject l heval hlong
    obtain ⟨i, side, rfl⟩ := exists_cell_of_evaluate hcompile heval
    exact Literal.toValue_overlong hlong

/-! ### Steps and runs -/

namespace Action

variable {a : Action} {tree : Tree} {choice : Attribute} {now s s' : Store} {subject : Subject}
  {subjects : List Subject} {l : TypedLiteral} {v : Value} {f : StepFault}
  {found : List (Subject × EvaluationError)}

theorem ReadyOn.step_of_value (h : a.ReadyOn tree choice now)
    (heval : tree.evaluate now subject = .ok l) (hvalue : l.toValue = .ok v) :
    a.step now subject = .ok (l, now.put subject choice.identifier v) :=
  step_eq_ok.mpr ⟨tree, choice, v, h.ready, heval, hvalue,
    h.set_choice (.refl choice now) (TypedLiteral.toValue_ne_null hvalue)⟩

theorem step_of_fault {g : ValueFault} (hready : a.ready = some (tree, choice))
    (heval : tree.evaluate now subject = .ok l) (hvalue : l.toValue = .error g) :
    a.step now subject = .error (.outcome g) := by
  simp only [step, hready, heval, hvalue, Except.mapError, bind, Except.bind]

theorem later_of_step (h : a.step s subject = .ok (l, s')) : s.Later s' := by
  obtain ⟨_, choice, v, _, _, _, hset⟩ := step_eq_ok.mp h
  exact .single (.set subject choice.identifier v hset)

/-- A run that ends early ends at a step that fails, in the store that the run leaves. -/
theorem run_eq_error (h : a.run now found subjects = (s, .error f)) :
    ∃ subject ∈ subjects, now.Later s ∧ a.step s subject = .error f ∧
      ∀ e, f ≠ .decision (.rejected e) := by
  -- a subject that is decided on or skipped leaves the rest of the run in a later store
  induction subjects generalizing now found with
  | nil => cases h
  | cons subject rest ih =>
    unfold run at h
    split at h
    · rename_i l next hstep
      obtain ⟨other, hother, hlater, hfails⟩ := ih h
      exact ⟨other, List.mem_cons_of_mem _ hother, (later_of_step hstep).trans hlater, hfails⟩
    · obtain ⟨other, hother, hlater, hfails⟩ := ih h
      exact ⟨other, List.mem_cons_of_mem _ hother, hlater, hfails⟩
    · rename_i g hnot hstep
      obtain ⟨rfl, hf⟩ := Prod.mk.inj h
      obtain rfl := Except.error.inj hf
      refine ⟨subject, List.mem_cons_self, .refl, hstep, ?_⟩
      rintro e rfl
      exact hnot e rfl

/-- A run ends early at a decision that breaks or at an outcome that is too long. -/
inductive Ends (tree : Tree) (now : Store) (subject : Subject) : StepFault → Prop where
  | broken {g : RuleFault} (h : tree.evaluate now subject = .error (.broken g)) :
      Ends tree now subject (.decision (.broken g))
  | overlong {l : TypedLiteral} (h : tree.evaluate now subject = .ok l)
      (hlong : Literal.Overlong l) : Ends tree now subject (.outcome (.ofOverlong l))

/-- An action stores what its tree decides, unless that is too long. -/
structure StoresOutcomes (a : Action) (tree : Tree) (choice : Attribute) (now : Store) : Prop where
  stored : ∀ subject l, tree.evaluate now subject = .ok l → ¬ Literal.Overlong l →
    ∃ v s, l.toValue = .ok v ∧ a.step now subject = .ok (l, s) ∧
      s.get? subject choice.identifier = some v
  refused : ∀ subject l, tree.evaluate now subject = .ok l → Literal.Overlong l →
    a.step now subject = .error (.outcome (.ofOverlong l))
  /-- Nothing else that is decided ends a run. -/
  ends : ∀ subjects s f, a.run now [] subjects = (s, .error f) →
    now.Later s ∧ ∃ subject ∈ subjects, Ends tree s subject f

theorem ReadyOn.ends (h : a.ReadyOn tree choice now) (htree : tree.Valued)
    (hfails : a.step now subject = .error f) (hnot : ∀ e, f ≠ .decision (.rejected e)) :
    Ends tree now subject f := by
  cases heval : tree.evaluate now subject with
  | error g =>
    have hstep := step_eq_decision.mpr ⟨tree, choice, h.ready, heval⟩
    obtain rfl := Except.error.inj (hfails.symm.trans hstep)
    cases g with
    | rejected e => exact absurd rfl (hnot e)
    | broken g => exact .broken heval
  | ok l =>
    by_cases hlong : Literal.Overlong l
    · have hstep := step_of_fault h.ready heval (htree.long heval hlong)
      obtain rfl := Except.error.inj (hfails.symm.trans hstep)
      exact .overlong heval hlong
    · obtain ⟨v, hvalue⟩ := htree.short heval hlong
      cases hfails.symm.trans (h.step_of_value heval hvalue)

theorem ReadyOn.storesOutcomes (h : a.ReadyOn tree choice now) (htree : tree.Valued) :
    a.StoresOutcomes tree choice now where
  stored := by
    intro subject l heval hshort
    obtain ⟨v, hvalue⟩ := htree.short heval hshort
    exact ⟨v, _, hvalue, h.step_of_value heval hvalue, Store.get?_put ..⟩
  refused := by
    intro subject l heval hlong
    exact step_of_fault h.ready heval (htree.long heval hlong)
  ends := by
    intro subjects s f hrun
    obtain ⟨subject, hmem, hlater, hfails, hnot⟩ := run_eq_error hrun
    exact ⟨hlater, subject, hmem, (h.later hlater).ends htree hfails hnot⟩

end Action

/-! ### Actions of a session -/

namespace Job

variable {name : String} {k k' : KeptAction} {w w' : Workspace}

theorem storesOutcomes_of_prepare (h : (prepare k).Gives w k' w') :
    ∃ tree choice, k'.action.ready = some (tree, choice) ∧
      ∀ now, (w'.stores.getD k'.store {}).Later now → k'.action.StoresOutcomes tree choice now := by
  obtain ⟨tree, choice, _, _, hready⟩ := readyOn_of_prepare h
  obtain ⟨read, _, ⟨_, _, hread⟩, rfl⟩ := exists_gives_prepare.mp ⟨w', h⟩
  obtain ⟨_, _, _, hload, _, htree⟩ := hread
  obtain ⟨rfl, rfl⟩ := Prod.mk.inj (Option.some.inj hready.ready)
  have hvalued := Tree.valued_of_compile (Table.stripped_load hload) htree
  exact ⟨_, _, hready.ready, fun now hlater => (hready.later hlater).storesOutcomes hvalued⟩

theorem gives_initialise (h : (initialise name).Gives w k w') :
    ∃ k₀ w₁ w₂, (prepare k₀).Gives w₁ k w₂ ∧ w'.stores = w₂.stores := by
  unfold initialise at h
  obtain ⟨k₀, w₁, _, hrest⟩ := gives_bind h
  obtain ⟨k', w₂, hprepare, hkeep⟩ := gives_bind hrest
  obtain ⟨u, w₃, hmodify, hlast⟩ := gives_bind hkeep
  obtain ⟨rfl, hsame⟩ := gives_pure hlast
  refine ⟨k₀, w₁, w₂, hprepare, ?_⟩
  rw [hsame, gives_modify hmodify]

/-- Once an action has been initialised, it stores what its tree decides, however the store has
changed since. -/
theorem storesOutcomes_of_initialise (h : (initialise name).Gives w k w') :
    ∃ tree choice, k.action.ready = some (tree, choice) ∧
      ∀ now, (w'.stores.getD k.store {}).Later now → k.action.StoresOutcomes tree choice now := by
  obtain ⟨k₀, w₁, w₂, hprepare, hstores⟩ := gives_initialise h
  rw [hstores]
  exact storesOutcomes_of_prepare hprepare

/-- A subject is decided on, and the outcome is stored. -/
theorem storesOutcomes_of_initialise_short :
    ∃ k w tree choice, (initialise "a").Gives (Example.filed [Example.leafFile ['1']]) k w ∧
      k.action.ready = some (tree, choice) ∧
      k.action.StoresOutcomes tree choice (w.stores.getD k.store {}) ∧
      ∃ s, k.action.step (w.stores.getD k.store {}) (.named "ann") = .ok (⟨.int, "1"⟩, s) ∧
        s.get? (.named "ann") choice.identifier = some (.int 1) := by
  obtain ⟨k, w, tree, hgives, hready, heval⟩ := Example.decides_ones (n := 0) (by decide)
  obtain ⟨tree', choice, hready', hstores⟩ := storesOutcomes_of_initialise hgives
  obtain ⟨rfl, rfl⟩ := Prod.mk.inj (Option.some.inj (hready'.symm.trans hready))
  have hnow := hstores _ .refl
  have hvalue : TypedLiteral.toValue ⟨.int, "1"⟩ = .ok (.int 1) := rfl
  have hshort : ¬ Literal.Overlong ⟨.int, "1"⟩ := by
    rintro ⟨_, hlong⟩
    exact absurd hlong (by decide)
  obtain ⟨v, s, hv, hstep, hget⟩ := hnow.stored _ _ heval hshort
  obtain rfl := Except.ok.inj (hvalue.symm.trans hv)
  exact ⟨k, w, _, _, hgives, hready, hnow, s, hstep, hget⟩

/-- With an integer of too many digits a subject is decided on, but the outcome is not stored, and a
run ends there. -/
theorem storesOutcomes_of_initialise_long :
    ∃ k w tree choice l,
      (initialise "a").Gives (Example.filed [Example.leafFile (List.replicate 4301 '1')]) k w ∧
      k.action.ready = some (tree, choice) ∧
      tree.evaluate (w.stores.getD k.store {}) (.named "ann") = .ok l ∧
      k.action.step (w.stores.getD k.store {}) (.named "ann")
        = .error (.outcome (.integerTooLong 4301)) ∧
      k.action.run (w.stores.getD k.store {}) [] [.named "ann"]
        = (w.stores.getD k.store {}, .error (.outcome (.integerTooLong 4301))) := by
  obtain ⟨k, w, tree, hgives, hready, heval⟩ := Example.decides_ones (n := 4300) (by decide)
  have hlength : (Example.ones 4300).length = 4301 := List.length_replicate
  have hvalue := Literal.toValue_long_digits (Example.digits_ones 4300) (by rw [hlength]; decide)
  rw [hlength] at hvalue
  have hstep := Action.step_of_fault hready heval hvalue
  refine ⟨k, w, tree, _, _, hgives, hready, heval, hstep, ?_⟩
  simp only [Action.run, hstep]

end Job

end DecisionTable
