import DecisionTable.Proofs.Action.LifeCycle
import DecisionTable.Proofs.Compile.FirstRow
import DecisionTable.Proofs.Literal.Conversion
import DecisionTable.Proofs.Table.Written

/-!
# A file for every outcome

A file with a single row can lead to any integer that is written in its cell, whatever the number of
its digits. The action of the file is made ready, and decides with that outcome.
-/

namespace DecisionTable

namespace Job

variable {name : String} {k k' : KeptAction} {w w' : Workspace}

theorem gives_initialise_of_prepare (hname : w.actions.lookup name = some k)
    (h : (prepare k).Gives w k' w') :
    (initialise name).Gives w k' (w'.withActions (keep name k' w'.actions)) := by
  unfold Gives at h ⊢
  rw [run_initialise hname, h]

/-- Making an action ready changes nothing of its store but which attributes have been resolved. -/
theorem store_of_prepare (h : (prepare k).Gives w k' w') :
    ∃ resolved, w'.stores.getD k.store {}
      = { w.stores.getD k.store {} with resolved := resolved } := by
  unfold prepare at h
  obtain ⟨choice, w₁, hresolve, hrest⟩ := gives_bind h
  obtain ⟨s, hfound, rfl⟩ := gives_resolve_iff.mp hresolve
  dsimp only at hrest
  split at hrest
  · obtain ⟨u, w₂, hthrow, _⟩ := gives_bind hrest
    exact (not_gives_throw hthrow).elim
  · obtain ⟨tree, w₂, hload, hlast⟩ := gives_bind hrest
    obtain ⟨_, rfl⟩ := gives_pure hlast
    obtain ⟨t, base, _, hafter⟩ := gives_loadActionTree hload
    rw [getD_set_of_resolve hfound, List.set_set] at hafter
    refine ⟨(compile t s base).store.resolved, ?_⟩
    rw [hafter, getD_set (lt_length_of_resolve hfound), compile_store, (Store.resolve_eq_ok hfound).2]

end Job

namespace Example

/-- The cells of a row in which a score above 50 leads to an outcome. -/
def leafCells (leaf : List Char) : List (List Char) :=
  ["root", "#score", "gt", "50"].map String.toList ++ [leaf, ['0']]

def leafText (leaf : List Char) : String :=
  Csv.written ',' [requiredHeadings.map String.toList, leafCells leaf]

def leafFile (leaf : List Char) : String × List UInt8 :=
  ("tree.csv", (leafText leaf).toList.map fun c => UInt8.ofNat c.toNat)

variable {leaf : List Char}

theorem cleanRow_headings : Csv.CleanRow ',' (requiredHeadings.map String.toList) :=
  ⟨by decide, by decide, by decide⟩

theorem cleanRow_leafCells (hleaf : Csv.Clean ',' leaf)
    (hlength : leaf.length + 20 ≤ maxCellLength) :
    Csv.CleanRow ',' (leafCells leaf) := by
  refine ⟨?_, ⟨_, List.mem_cons_self, by decide⟩, ?_⟩
  · unfold leafCells
    rw [List.forall_mem_append]
    refine ⟨by decide, ?_⟩
    simp only [List.forall_mem_cons]
    exact ⟨hleaf, by decide⟩
  · have hline : (Csv.lineOf ',' (leafCells leaf)).length = leaf.length + 20 := by
      simp [Csv.lineOf, leafCells, List.intercalate_cons_cons]
    rwa [hline]

theorem load_leafText (hleaf : Csv.Clean ',' leaf) (hlength : leaf.length + 20 ≤ maxCellLength) :
    (Csv.load ',' (leafText leaf)).result
      = .ok (singleRow "#score" "gt" "50" (String.ofList leaf) "0" "root") := by
  have hheadings : (requiredHeadings.map String.toList).map String.ofList = requiredHeadings := by
    simp
  have hcells : [leafCells leaf].map (·.map String.ofList)
      = [["root", "#score", "gt", "50", String.ofList leaf, "0"]] := by
    simp [leafCells]
  have hrow := cleanRow_leafCells hleaf hlength
  have hwidth : (leafCells leaf).length ≤ (requiredHeadings.map String.toList).length := by
    simp [leafCells, requiredHeadings]
  rw [leafText, Csv.load_written (by decide) (by decide) cleanRow_headings (by simpa using hrow)
    (by simpa using hwidth) (hheadings ▸ Table.requiredHeadings_nodup)]
  simp only [hheadings, hcells]
  rfl

theorem ofUtf8_leafFile (hleaf : ∀ c ∈ leaf, c.toNat < 0x80) :
    Text.ofUtf8 (leafFile leaf).2 = .ok (leafText leaf) := by
  have hheadings : ∀ cell ∈ requiredHeadings.map String.toList, ∀ c ∈ cell, c.toNat < 0x80 := by
    simp only [← List.forall_iff_forall_mem]
    decide
  have hcells : ∀ cell ∈ leafCells leaf, ∀ c ∈ cell, c.toNat < 0x80 := by
    rw [leafCells, List.forall_mem_append, List.forall_mem_cons]
    simp only [List.forall_mem_singleton]
    refine ⟨?_, hleaf, by decide⟩
    simp only [← List.forall_iff_forall_mem]
    decide
  have hascii : ∀ c ∈ (leafText leaf).toList, c.toNat < 0x80 := by
    refine Csv.forall_mem_written (p := fun c => c.toNat < 0x80) (by decide) (by decide) ?_
    exact List.forall_mem_cons.mpr ⟨hheadings, List.forall_mem_singleton.mpr hcells⟩
  rw [leafFile, Text.ofUtf8_ascii hascii, String.ofList_toList]

def scoreAttribute : Attribute :=
  ⟨"#score", .single, .scalar⟩

/-- A subject with a score of 95 gets the outcome of the row. -/
theorem evaluate_leaf {store : Store} {text : String}
    (hstore : store.attribute? "#score" = some scoreAttribute)
    (htarget : Reference.target? text = none) (htype : Literal.inferType text = .int) :
    ∃ tree, (compile (singleRow "#score" "gt" "50" text "0" "root") store "").tree = .ok tree ∧
      ∀ now : Store, now.get? (.named "ann") "#score" = some (.int 95) →
        tree.evaluate now (.named "ann") = .ok (Literal.parse text "") := by
  let t := singleRow "#score" "gt" "50" text "0" "root"
  have hindexed : t.Indexed := ⟨fun h hh => hh, List.cons_ne_nil _ _, List.nodup_singleton "root"⟩
  have htargets : ∀ side : Side, Reference.target? (t.cell 0 side.heading) = none
    | .onTrue => htarget
    | .onFalse => show Reference.target? "0" = none by decide
  have htypes : ∀ side : Side, Literal.inferType (t.cell 0 side.heading)
      = Literal.inferType (t.cell 0 trueHeading)
    | .onTrue => rfl
    | .onFalse => htype.symm ▸ (show Literal.inferType "0" = .int by decide)
  have hoperator : (Operator.order .gt).spelling = Text.strip (t.cell 0 operatorHeading) :=
    show _ = Text.strip "gt" by decide
  have hcompilable : t.Compilable store :=
    Table.compilable_of_outcomes hindexed htargets
      ⟨scoreAttribute, List.mem_of_find?_eq_some hstore, rfl⟩ ⟨_, hoperator⟩ htypes
  obtain ⟨tree, htree⟩ := hcompilable.exists_tree ""
  refine ⟨tree, htree, ?_⟩
  intro now hnow
  have hcurrent : now.current scoreAttribute (.named "ann")
      = .ok (.single scoreAttribute (.int 95)) := by
    have hidentifier : scoreAttribute.identifier = "#score" := rfl
    rw [Store.current, hidentifier, hnow]
    rfl
  have hdecide : (Operator.order .gt).decide (.single scoreAttribute (.int 95)) "50" = .ok true := by
    decide +kernel
  have hholds : ∀ d : Decision, store.attribute? (t.cell 0 attributeHeading) = some d.tested →
      Operator.parse? (t.cell 0 operatorHeading) = some d.op →
      d.operand = t.cell 0 operandHeading → d.holds now (.named "ann") = .ok true := by
    rintro ⟨tested, op, operand⟩ htested hop hoperand
    obtain rfl := Option.some.inj (hstore.symm.trans htested)
    obtain rfl := Option.some.inj ((Operator.parse?_eq_some.mpr hoperator).symm.trans hop)
    have hfifty : operand = "50" := hoperand
    rw [Decision.holds, hcurrent, hfifty]
    exact hdecide
  have hcell : t.cell 0 Side.onTrue.heading = text := rfl
  rw [← hcell]
  exact Tree.evaluate_of_outcome htree (htargets .onTrue) hholds

/-- The action of the file decides with the integer that is written in its row. -/
theorem decides_leaf (hds : Text.Digits leaf) (hascii : ∀ c ∈ leaf, c.toNat < 0x80)
    (hlength : leaf.length + 20 ≤ maxCellLength) :
    ∃ k w tree, (Job.initialise "a").Gives (filed [leafFile leaf]) k w ∧
      k.action.ready = some (tree, ⟨"#choice", .single, .scalar⟩) ∧
      tree.evaluate (w.stores.getD k.store {}) (.named "ann")
        = .ok ⟨.int, String.ofList leaf⟩ := by
  have hinteger := Numeral.Integer.digits .none hds
  rw [List.nil_append] at hinteger
  have hclean := Csv.clean_of_digits hds (by decide : Text.isDigit ',' = false)
  have htarget : Reference.target? (String.ofList leaf) = none := by
    obtain ⟨c, rest, rfl⟩ := List.exists_cons_of_ne_nil hds.nonempty
    refine Reference.target?_eq_none (by rw [String.toList_ofList]; rfl) ?_
    exact Text.ne_of_isDigit (hds.digits c List.mem_cons_self) (by decide)
  let before := filed [leafFile leaf]
  let resolved : Store := { before.stores.getD 0 {} with resolved := ["#choice"] }
  have hknown : resolved.attribute? "#score" = some scoreAttribute := rfl
  obtain ⟨tree, htree, hdecides⟩ :=
    evaluate_leaf hknown htarget (Literal.inferType_integer hinteger)
  have hdelimiter : before.environment.delimiterFor fileAction.action.delimiter = .ok ',' :=
    show Environment.delimiterFor {} none = .ok ',' by decide
  have hread : fileAction.Reads before resolved tree :=
    .intro rfl (ofUtf8_leafFile hascii) hdelimiter (load_leafText hclean hlength) rfl htree
  have hprepares : fileAction.Prepares before tree ⟨"#choice", .single, .scalar⟩ :=
    .intro rfl rfl hread
  obtain ⟨w, hprepare⟩ := Job.exists_gives_prepare.mpr ⟨tree, _, hprepares, rfl⟩
  obtain ⟨_, hstore⟩ := Job.store_of_prepare hprepare
  have hscore : (w.stores.getD fileAction.store {}).get? (.named "ann") "#score"
      = some (.int 95) := by
    rw [hstore]
    rfl
  refine ⟨_, _, tree, Job.gives_initialise_of_prepare rfl hprepare, rfl, ?_⟩
  rw [← Literal.parse_integer hinteger ""]
  exact hdecides _ hscore

/-- Ones, as many as are asked for and one more. -/
def ones (n : Nat) : List Char :=
  List.replicate (n + 1) '1'

theorem eq_of_mem_ones {n : Nat} {c : Char} (h : c ∈ ones n) : c = '1' :=
  List.eq_of_mem_replicate h

theorem digits_ones (n : Nat) : Text.Digits (ones n) where
  nonempty := by simp [ones]
  digits := by
    intro c hc
    rw [eq_of_mem_ones hc]
    decide

theorem decides_ones {n : Nat} (hlength : n + 21 ≤ maxCellLength) :
    ∃ k w tree, (Job.initialise "a").Gives (filed [leafFile (ones n)]) k w ∧
      k.action.ready = some (tree, ⟨"#choice", .single, .scalar⟩) ∧
      tree.evaluate (w.stores.getD k.store {}) (.named "ann")
        = .ok ⟨.int, String.ofList (ones n)⟩ := by
  have hascii : ∀ c ∈ ones n, c.toNat < 0x80 := by
    intro c hc
    rw [eq_of_mem_ones hc]
    decide
  refine decides_leaf (digits_ones n) hascii ?_
  rw [ones, List.length_replicate]
  omega

end Example

end DecisionTable
