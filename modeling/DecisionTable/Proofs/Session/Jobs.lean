import DecisionTable.Session.Basic

/-!
# Jobs that go well

A job that goes well ends with a result, in some state of the session, and so do the jobs that it is
made of. Loading a table and writing to the log leave the stores as they are.
-/

namespace DecisionTable

namespace Job

variable {α β ε : Type} {j : Job α} {w w' : Workspace} {a : α} {b : β}

/-- A job goes well: it gives a result and leaves the session in a state. -/
def Gives (j : Job α) (w : Workspace) (a : α) (w' : Workspace) : Prop :=
  j.run.run w = (.ok a, w')

theorem gives_bind {f : α → Job β} (h : (j >>= f).Gives w b w') :
    ∃ a w₁, j.Gives w a w₁ ∧ (f a).Gives w₁ b w' := by
  unfold Gives at h
  rw [ExceptT.run_bind, StateT.run_bind] at h
  cases hj : j.run.run w with
  | mk r w₁ =>
    rw [hj] at h
    cases r with
    | error e => cases h
    | ok a => exact ⟨a, w₁, hj, h⟩

theorem gives_pure {a' : α} (h : (pure a' : Job α).Gives w a w') : a = a' ∧ w' = w := by
  cases h
  exact ⟨rfl, rfl⟩

theorem gives_get (h : (get : Job Workspace).Gives w w₁ w') : w₁ = w ∧ w' = w := by
  cases h
  exact ⟨rfl, rfl⟩

theorem gives_modify {f : Workspace → Workspace} {u : Unit} (h : (modify f : Job Unit).Gives w u w') :
    w' = f w := by
  cases h
  rfl

theorem gives_lift {failure : ε → Failure} {r : Except ε α} (h : (lift failure r).Gives w a w') :
    r = .ok a ∧ w' = w := by
  cases r with
  | error e => cases h
  | ok a' =>
    obtain ⟨rfl, rfl⟩ := gives_pure h
    exact ⟨rfl, rfl⟩

theorem not_gives_throw {e : Failure} (h : (throw e : Job α).Gives w a w') : False := by
  cases h

/-- A job that goes well has not fallen back on its handler, if that always fails. -/
theorem gives_tryCatch {handler : Failure → Job α} (hfails : ∀ e w a w', ¬ (handler e).Gives w a w')
    (h : (tryCatch j handler).Gives w a w') : j.Gives w a w' := by
  unfold Gives at h
  rw [ExceptT.run_tryCatch, StateT.run_bind] at h
  cases hj : j.run.run w with
  | mk r w₁ =>
    rw [hj] at h
    cases r with
    | error e => exact (hfails e w₁ a w' h).elim
    | ok a' =>
      cases h
      exact hj

/-! ### Jobs that only write -/

/-- A job goes well, and changes nothing but files and the output. -/
def Prints (j : Job Unit) : Prop :=
  ∀ w, ∃ files output, j.Gives w () { w with files := files, output := output }

theorem prints_pure : (pure () : Job Unit).Prints :=
  fun w => ⟨w.files, w.output, rfl⟩

theorem prints_get {f : Workspace → Job Unit} (hf : ∀ w, (f w).Prints) :
    (get >>= f : Job Unit).Prints :=
  fun w => hf w w

theorem Prints.bind {j : Job Unit} {f : Unit → Job Unit} (hj : j.Prints) (hf : (f ()).Prints) :
    (j >>= f).Prints := by
  intro w
  obtain ⟨files, output, hfirst⟩ := hj w
  obtain ⟨files', output', hrest⟩ := hf { w with files := files, output := output }
  refine ⟨files', output', ?_⟩
  unfold Gives at hfirst ⊢
  rw [ExceptT.run_bind, StateT.run_bind, hfirst]
  exact hrest

theorem prints_appendText (name content : String) : (appendText name content).Prints :=
  fun w => ⟨_, w.output, rfl⟩

theorem prints_printLines (lines : List String) : (printLines lines).Prints := by
  unfold printLines
  induction lines with
  | nil => exact prints_pure
  | cons line rest ih =>
    show (printLine line >>= fun _ => rest.forM printLine).Prints
    exact Prints.bind (fun w => ⟨w.files, _, rfl⟩) ih

theorem prints_log (lines : List LogLine) : (log lines).Prints := by
  unfold log
  refine prints_get ?_
  intro w
  split
  · dsimp only
    split
    · refine (prints_appendText _ _).bind ?_
      split
      · exact prints_printLines _
      · exact prints_pure
    · split
      · exact prints_printLines _
      · exact prints_pure
  · exact prints_pure

/-! ### Jobs that leave the stores alone -/

/-- A job that goes well leaves the stores as they were. -/
def Quiet (j : Job α) : Prop :=
  ∀ w a w', j.Gives w a w' → w'.stores = w.stores

theorem Quiet.bind {f : α → Job β} (hj : j.Quiet) (hf : ∀ a, (f a).Quiet) : (j >>= f).Quiet := by
  intro w b w' h
  obtain ⟨a, w₁, hfirst, hrest⟩ := gives_bind h
  exact (hf a w₁ b w' hrest).trans (hj w a w₁ hfirst)

theorem quiet_get : (get : Job Workspace).Quiet := by
  intro w b w' h
  rw [(gives_get h).2]

theorem quiet_modify {f : Workspace → Workspace} (h : ∀ w, (f w).stores = w.stores) :
    (modify f : Job Unit).Quiet := by
  intro w u w' hmodify
  rw [gives_modify hmodify, h]

theorem quiet_lift (failure : ε → Failure) (r : Except ε α) : (lift failure r).Quiet := by
  intro w a w' h
  rw [(gives_lift h).2]

theorem quiet_throw (e : Failure) : (throw e : Job α).Quiet :=
  fun _ _ _ h => (not_gives_throw h).elim

theorem Prints.quiet {j : Job Unit} (h : j.Prints) : j.Quiet := by
  intro w u w' hgives
  obtain ⟨files, output, hprints⟩ := h w
  cases hgives.symm.trans hprints
  rfl

theorem quiet_log (lines : List LogLine) : (log lines).Quiet :=
  (prints_log lines).quiet

theorem quiet_loadTable (text : String) (delimiter : Option String) :
    (loadTable text delimiter).Quiet := by
  unfold loadTable
  refine quiet_get.bind fun w => ?_
  refine (quiet_lift _ _).bind fun c => ?_
  refine Quiet.bind (quiet_modify fun _ => rfl) fun _ => ?_
  exact quiet_lift _ _

theorem quiet_readText (name : String) : (readText name).Quiet := by
  unfold readText
  refine quiet_get.bind fun w => ?_
  split
  · exact quiet_throw _
  · exact quiet_lift _ _

theorem quiet_loadTableFile (name : String) (delimiter : Option String) :
    (loadTableFile name delimiter).Quiet := by
  unfold loadTableFile
  refine quiet_get.bind fun w => ?_
  split
  · exact (quiet_throw _).bind fun _ => (quiet_readText name).bind fun text =>
      quiet_loadTable text delimiter
  · exact (quiet_readText name).bind fun text => quiet_loadTable text delimiter

/-! ### Jobs that change a store -/

variable {h : StoreHandle} {s : Store}

theorem gives_store (hgives : (store h).Gives w s w') : s = w.stores.getD h {} ∧ w' = w := by
  unfold store at hgives
  obtain ⟨w₁, w₂, hget, hrest⟩ := gives_bind hgives
  obtain ⟨rfl, rfl⟩ := gives_get hget
  exact gives_pure hrest

theorem gives_setStore {u : Unit} (hgives : (setStore h s).Gives w u w') :
    w'.stores = w.stores.set h s := by
  rw [gives_modify hgives]

theorem gives_resolve {identifier : String} {found : Attribute}
    (hgives : (resolve h identifier).Gives w found w') :
    ∃ s, (w.stores.getD h {}).resolve identifier = .ok (found, s) ∧
      w'.stores = w.stores.set h s := by
  unfold resolve at hgives
  obtain ⟨before, w₁, hstore, hlookup⟩ := gives_bind hgives
  obtain ⟨rfl, rfl⟩ := gives_store hstore
  obtain ⟨⟨known, s⟩, w₂, hlift, hwrite⟩ := gives_bind hlookup
  obtain ⟨hresolve, rfl⟩ := gives_lift hlift
  obtain ⟨u, w₃, hset, hlast⟩ := gives_bind hwrite
  obtain ⟨rfl, rfl⟩ := gives_pure hlast
  exact ⟨s, hresolve, gives_setStore hset⟩

theorem gives_compileTable {t : Table} {baseUri : Option String} {tree : Tree}
    (hgives : (compileTable t h baseUri).Gives w tree w') :
    ∃ base, (compile t (w.stores.getD h {}) base).tree = .ok tree ∧
      w'.stores = w.stores.set h (compile t (w.stores.getD h {}) base).store := by
  unfold compileTable at hgives
  obtain ⟨w₁, w₂, hget, hsettings⟩ := gives_bind hgives
  obtain ⟨rfl, rfl⟩ := gives_get hget
  obtain ⟨base, w₃, hbase, hread⟩ := gives_bind hsettings
  obtain ⟨_, rfl⟩ := gives_lift hbase
  obtain ⟨before, w₄, hstore, hwrite⟩ := gives_bind hread
  obtain ⟨rfl, rfl⟩ := gives_store hstore
  obtain ⟨u, w₅, hset, hnote⟩ := gives_bind hwrite
  obtain ⟨v, w₆, hlog, hlast⟩ := gives_bind hnote
  obtain ⟨htree, rfl⟩ := gives_lift hlast
  refine ⟨base, htree, ?_⟩
  rw [quiet_log _ w₅ v w' hlog]
  exact gives_setStore hset

/-- The tree of an action comes from some table that has been compiled against its store. -/
theorem gives_loadActionTree {k : KeptAction} {tree : Tree}
    (hgives : (loadActionTree k).Gives w tree w') :
    ∃ t base, (compile t (w.stores.getD k.store {}) base).tree = .ok tree ∧
      w'.stores = w.stores.set k.store (compile t (w.stores.getD k.store {}) base).store := by
  unfold loadActionTree at hgives
  have hgoes := gives_tryCatch ?handler hgives
  case handler =>
    -- whatever it notes in the log, the handler passes the failure on
    intro failure w tree w' hrun
    dsimp only at hrun
    split at hrun
    · obtain ⟨u, w₁, _, hlast⟩ := gives_bind hrun
      exact not_gives_throw hlast
    · obtain ⟨u, w₁, _, hlast⟩ := gives_bind hrun
      exact not_gives_throw hlast
    · exact not_gives_throw hrun
  obtain ⟨t, w₁, hload, hcompile⟩ := gives_bind hgoes
  have hstores := quiet_loadTableFile _ _ w t w₁ hload
  obtain ⟨base, htree, hafter⟩ := gives_compileTable hcompile
  rw [hstores] at htree hafter
  exact ⟨t, base, htree, hafter⟩

end Job

end DecisionTable
