import DecisionTable.Proofs.Session.Apart

/-!
# What makes an action ready

An action is made ready when the attribute of its outcomes is known and has a single value, its file
is there and is a text, the settings name a delimiter and a base URI, and the table in the file
compiles. That is all it takes: the job that makes an action ready goes well just then.
-/

namespace DecisionTable

/-- The action with another tree and attribute of outcomes, or without them. -/
def KeptAction.withReady (k : KeptAction) (ready : Option (Tree × Attribute)) : KeptAction :=
  { k with action := { k.action with ready := ready } }

/-- The file of an action holds a table that compiles into a tree against a store. -/
inductive KeptAction.Reads (k : KeptAction) (w : Workspace) (s : Store) (tree : Tree) : Prop where
  | intro {bytes : List UInt8} {text : String} {delimiter : Char} {t : Table} {baseUri : String}
      (hfile : w.files.lookup k.action.file = some bytes)
      (htext : Text.ofUtf8 bytes = .ok text)
      (hdelimiter : w.environment.delimiterFor k.action.delimiter = .ok delimiter)
      (hload : (Csv.load delimiter text).result = .ok t)
      (hbase : w.environment.baseUriFor k.action.baseUri = .ok baseUri)
      (htree : (compile t s baseUri).tree = .ok tree) : Reads k w s tree

theorem KeptAction.Reads.congr {k : KeptAction} {w w' : Workspace} {s : Store} {tree : Tree}
    (h : k.Reads w s tree) (hfiles : w'.files = w.files)
    (henvironment : w'.environment = w.environment) : k.Reads w' s tree := by
  obtain ⟨hfile, htext, hdelimiter, hload, hbase, htree⟩ := h
  rw [← hfiles] at hfile
  rw [← henvironment] at hdelimiter hbase
  exact .intro hfile htext hdelimiter hload hbase htree

/-- What makes an action ready in a session. -/
inductive KeptAction.Prepares (k : KeptAction) (w : Workspace) (tree : Tree) (choice : Attribute) :
    Prop where
  | intro {resolved : Store}
      (hchoice : (w.stores.getD k.store {}).resolve k.action.choiceAttribute
        = .ok (choice, resolved))
      (hsingle : choice.cardinality = .single)
      (hread : k.Reads w resolved tree) : Prepares k w tree choice

namespace Job

variable {α β ε : Type} {j : Job α} {w w' : Workspace} {a : α} {b : β}

/-! ### Jobs that go well, the other way round -/

theorem gives_bind_iff {f : α → Job β} :
    (j >>= f).Gives w b w' ↔ ∃ a w₁, j.Gives w a w₁ ∧ (f a).Gives w₁ b w' := by
  constructor
  · exact gives_bind
  · rintro ⟨a, w₁, hj, hf⟩
    unfold Gives at hj hf ⊢
    rw [run_bind, hj]
    exact hf

theorem gives_lift_iff {failure : ε → Failure} {r : Except ε α} :
    (lift failure r).Gives w a w' ↔ r = .ok a ∧ w' = w := by
  constructor
  · exact gives_lift
  · rintro ⟨rfl, rfl⟩
    rfl

/-- A handler that always fails makes no difference to a job that goes well. -/
theorem gives_tryCatch_iff {handler : Failure → Job α}
    (hfails : ∀ e w a w', ¬ (handler e).Gives w a w') :
    (tryCatch j handler).Gives w a w' ↔ j.Gives w a w' := by
  constructor
  · exact gives_tryCatch hfails
  · intro h
    unfold Gives at h ⊢
    rw [run_tryCatch, h]

/-- A job that cannot fail. -/
def Sure (j : Job α) : Prop :=
  ∀ w, ∃ a w', j.Gives w a w'

theorem sure_pure (a : α) : (pure a : Job α).Sure :=
  fun w => ⟨a, w, rfl⟩

theorem sure_log (lines : List LogLine) : (log lines).Sure := by
  intro w
  obtain ⟨files, output, hprints⟩ := prints_log lines w
  exact ⟨(), _, hprints⟩

/-! ### Loading and compiling -/

theorem gives_readText {name text : String} : (readText name).Gives w text w' ↔
    ∃ bytes, w.files.lookup name = some bytes ∧ Text.ofUtf8 bytes = .ok text ∧ w' = w := by
  unfold readText
  rw [gives_bind_iff]
  constructor
  · rintro ⟨w₁, w₂, hget, hrest⟩
    obtain ⟨rfl, rfl⟩ := gives_get hget
    split at hrest
    · exact (not_gives_throw hrest).elim
    · rename_i bytes hfile
      obtain ⟨htext, rfl⟩ := gives_lift hrest
      exact ⟨bytes, hfile, htext, rfl⟩
  · rintro ⟨bytes, hfile, htext, rfl⟩
    refine ⟨w', w', rfl, ?_⟩
    rw [hfile]
    exact gives_lift_iff.mpr ⟨htext, rfl⟩

theorem gives_loadTable {text : String} {given : Option String} {t : Table} :
    (loadTable text given).Gives w t w' ↔ ∃ delimiter,
      w.environment.delimiterFor given = .ok delimiter ∧ (Csv.load delimiter text).result = .ok t ∧
      w' = { w with
        warnings := w.warnings
          ++ (Csv.load delimiter text).skipped.map fun n => s!"Skipping blank line {n}" } := by
  unfold loadTable
  constructor
  · intro h
    obtain ⟨w₁, w₂, hget, hsettings⟩ := gives_bind h
    obtain ⟨rfl, rfl⟩ := gives_get hget
    obtain ⟨c, w₃, hdelimiter, hload⟩ := gives_bind hsettings
    obtain ⟨hdelimiter, rfl⟩ := gives_lift hdelimiter
    obtain ⟨u, w₄, hwarn, hlast⟩ := gives_bind hload
    obtain ⟨hresult, rfl⟩ := gives_lift hlast
    exact ⟨c, hdelimiter, hresult, gives_modify hwarn⟩
  · rintro ⟨c, hdelimiter, hresult, rfl⟩
    refine gives_bind_iff.mpr ⟨w, w, rfl, ?_⟩
    refine gives_bind_iff.mpr ⟨c, w, gives_lift_iff.mpr ⟨hdelimiter, rfl⟩, ?_⟩
    exact gives_bind_iff.mpr ⟨(), _, rfl, gives_lift_iff.mpr ⟨hresult, rfl⟩⟩

/-- A table is loaded from a file that is there, is a text and holds a table. All else that changes
are the warnings. -/
theorem gives_loadTableFile {name : String} {given : Option String} {t : Table} :
    (loadTableFile name given).Gives w t w' ↔ ∃ bytes text,
      w.files.lookup name = some bytes ∧ Text.ofUtf8 bytes = .ok text ∧
      (loadTable text given).Gives w t w' := by
  unfold loadTableFile
  constructor
  · intro h
    obtain ⟨w₁, w₂, hget, hrest⟩ := gives_bind h
    obtain ⟨rfl, rfl⟩ := gives_get hget
    dsimp only at hrest
    split at hrest
    · obtain ⟨u, w₃, hthrow, _⟩ := gives_bind hrest
      exact (not_gives_throw hthrow).elim
    · obtain ⟨text, w₃, hread, hload⟩ := gives_bind hrest
      obtain ⟨bytes, hfile, htext, rfl⟩ := gives_readText.mp hread
      exact ⟨bytes, text, hfile, htext, hload⟩
  · rintro ⟨bytes, text, hfile, htext, hload⟩
    refine gives_bind_iff.mpr ⟨w, w, rfl, ?_⟩
    have hthere : ¬ (w.files.lookup name).isNone = true := by simp [hfile]
    dsimp only
    rw [if_neg hthere]
    exact gives_bind_iff.mpr ⟨text, w, gives_readText.mpr ⟨bytes, hfile, htext, rfl⟩, hload⟩

theorem exists_gives_compileTable {t : Table} {h : StoreHandle} {given : Option String}
    {tree : Tree} : (∃ w', (compileTable t h given).Gives w tree w') ↔
      ∃ baseUri, w.environment.baseUriFor given = .ok baseUri ∧
        (compile t (w.stores.getD h {}) baseUri).tree = .ok tree := by
  unfold compileTable
  constructor
  · rintro ⟨w', h⟩
    obtain ⟨w₁, w₂, hget, hsettings⟩ := gives_bind h
    obtain ⟨rfl, rfl⟩ := gives_get hget
    obtain ⟨base, w₃, hbase, hread⟩ := gives_bind hsettings
    obtain ⟨hbase, rfl⟩ := gives_lift hbase
    obtain ⟨before, w₄, hstore, hwrite⟩ := gives_bind hread
    obtain ⟨rfl, rfl⟩ := gives_store hstore
    obtain ⟨u, w₅, hset, hnote⟩ := gives_bind hwrite
    obtain ⟨v, w₆, hlog, hlast⟩ := gives_bind hnote
    obtain ⟨htree, _⟩ := gives_lift hlast
    exact ⟨base, hbase, htree⟩
  · rintro ⟨base, hbase, htree⟩
    obtain ⟨u, w', hlog⟩ := sure_log (compileLog (compile t (w.stores.getD h {}) base))
      { w with stores := w.stores.set h (compile t (w.stores.getD h {}) base).store }
    refine ⟨w', ?_⟩
    refine gives_bind_iff.mpr ⟨w, w, rfl, ?_⟩
    refine gives_bind_iff.mpr ⟨base, w, gives_lift_iff.mpr ⟨hbase, rfl⟩, ?_⟩
    refine gives_bind_iff.mpr ⟨w.stores.getD h {}, w, rfl, ?_⟩
    refine gives_bind_iff.mpr ⟨(), _, rfl, ?_⟩
    exact gives_bind_iff.mpr ⟨u, w', hlog, gives_lift_iff.mpr ⟨htree, rfl⟩⟩

/-- A failure to load the tree of an action is noted and passed on. -/
theorem gives_loadActionTree_iff {k : KeptAction} {tree : Tree} :
    (loadActionTree k).Gives w tree w' ↔
      (loadTableFile k.action.file k.action.delimiter >>= fun t =>
        compileTable t k.store k.action.baseUri).Gives w tree w' := by
  unfold loadActionTree
  refine gives_tryCatch_iff ?_
  intro failure w tree w' hrun
  dsimp only at hrun
  split at hrun
  · obtain ⟨u, w₁, _, hlast⟩ := gives_bind hrun
    exact not_gives_throw hlast
  · obtain ⟨u, w₁, _, hlast⟩ := gives_bind hrun
    exact not_gives_throw hlast
  · exact not_gives_throw hrun

theorem exists_gives_loadActionTree {k : KeptAction} {tree : Tree} :
    (∃ w', (loadActionTree k).Gives w tree w') ↔ k.Reads w (w.stores.getD k.store {}) tree := by
  constructor
  · rintro ⟨w', h⟩
    obtain ⟨t, w₁, hfile, hcompile⟩ := gives_bind (gives_loadActionTree_iff.mp h)
    obtain ⟨bytes, text, hlookup, htext, hload⟩ := gives_loadTableFile.mp hfile
    obtain ⟨c, hdelimiter, hresult, rfl⟩ := gives_loadTable.mp hload
    obtain ⟨base, hbase, htree⟩ := exists_gives_compileTable.mp ⟨w', hcompile⟩
    exact .intro hlookup htext hdelimiter hresult hbase htree
  · rintro ⟨hlookup, htext, hdelimiter, hresult, hbase, htree⟩
    rename_i bytes text c t base
    let loaded : Workspace := { w with
      warnings := w.warnings
        ++ (Csv.load c text).skipped.map fun n => s!"Skipping blank line {n}" }
    have hload := gives_loadTable.mpr ⟨c, hdelimiter, hresult, rfl⟩
    have hfile := gives_loadTableFile.mpr ⟨bytes, text, hlookup, htext, hload⟩
    obtain ⟨w', hcompile⟩ : ∃ w', (compileTable t k.store k.action.baseUri).Gives loaded tree w' :=
      exists_gives_compileTable.mpr ⟨base, hbase, htree⟩
    exact ⟨w', gives_loadActionTree_iff.mpr (gives_bind_iff.mpr ⟨t, loaded, hfile, hcompile⟩)⟩

/-! ### Making an action ready -/

theorem gives_resolve_iff {h : StoreHandle} {identifier : String} {found : Attribute} :
    (resolve h identifier).Gives w found w' ↔
      ∃ s, (w.stores.getD h {}).resolve identifier = .ok (found, s) ∧
        w' = { w with stores := w.stores.set h s } := by
  unfold resolve
  constructor
  · intro hgives
    obtain ⟨before, w₁, hstore, hlookup⟩ := gives_bind hgives
    obtain ⟨rfl, rfl⟩ := gives_store hstore
    obtain ⟨⟨known, s⟩, w₂, hlift, hwrite⟩ := gives_bind hlookup
    obtain ⟨hresolve, rfl⟩ := gives_lift hlift
    obtain ⟨u, w₃, hset, hlast⟩ := gives_bind hwrite
    obtain ⟨rfl, rfl⟩ := gives_pure hlast
    exact ⟨s, hresolve, gives_modify hset⟩
  · rintro ⟨s, hresolve, rfl⟩
    refine gives_bind_iff.mpr ⟨w.stores.getD h {}, w, rfl, ?_⟩
    refine gives_bind_iff.mpr ⟨(found, s), w, gives_lift_iff.mpr ⟨hresolve, rfl⟩, ?_⟩
    exact gives_bind_iff.mpr ⟨(), _, rfl, rfl⟩

/-- Nothing is resolved against a store that is not there. -/
theorem lt_length_of_resolve {stores : List Store} {h : StoreHandle} {identifier : String}
    {found : Attribute} {s : Store}
    (hresolve : (stores.getD h {}).resolve identifier = .ok (found, s)) : h < stores.length := by
  refine Nat.lt_of_not_le ?_
  intro hmissing
  rw [List.getD_eq_getElem?_getD, List.getElem?_eq_none hmissing] at hresolve
  cases hresolve

theorem getD_set {stores : List Store} {h : StoreHandle} (hplace : h < stores.length) (s : Store) :
    (stores.set h s).getD h {} = s := by
  simp [List.getD_eq_getElem?_getD, hplace]

theorem getD_set_of_resolve {stores : List Store} {h : StoreHandle} {identifier : String}
    {found : Attribute} {s : Store}
    (hresolve : (stores.getD h {}).resolve identifier = .ok (found, s)) :
    (stores.set h s).getD h {} = s :=
  getD_set (lt_length_of_resolve hresolve) s

/-- An action is made ready just when all is there that makes it so. -/
theorem exists_gives_prepare {k k' : KeptAction} : (∃ w', (prepare k).Gives w k' w') ↔
    ∃ tree choice, k.Prepares w tree choice ∧ k' = k.withReady (some (tree, choice)) := by
  unfold prepare
  constructor
  · rintro ⟨w', h⟩
    obtain ⟨choice, w₁, hresolve, hrest⟩ := gives_bind h
    obtain ⟨s, hchoice, rfl⟩ := gives_resolve_iff.mp hresolve
    dsimp only at hrest
    split at hrest
    · obtain ⟨u, w₂, hthrow, _⟩ := gives_bind hrest
      exact (not_gives_throw hthrow).elim
    · rename_i hmulti
      obtain ⟨tree, w₂, hload, hlast⟩ := gives_bind hrest
      obtain ⟨rfl, rfl⟩ := gives_pure hlast
      have hread := exists_gives_loadActionTree.mp ⟨_, hload⟩
      rw [getD_set_of_resolve hchoice] at hread
      refine ⟨tree, choice, .intro hchoice ?_ (hread.congr rfl rfl), rfl⟩
      cases hcard : choice.cardinality with
      | single => rfl
      | multi => exact (hmulti hcard).elim
  · rintro ⟨tree, choice, ⟨hchoice, hsingle, hread⟩, rfl⟩
    rename_i s
    let resolved : Workspace := { w with stores := w.stores.set k.store s }
    have hresolve : (resolve k.store k.action.choiceAttribute).Gives w choice resolved :=
      gives_resolve_iff.mpr ⟨s, hchoice, rfl⟩
    have hresolved : resolved.stores.getD k.store {} = s := getD_set_of_resolve hchoice
    obtain ⟨w', hload⟩ : ∃ w', (loadActionTree k).Gives resolved tree w' := by
      apply exists_gives_loadActionTree.mpr
      rw [hresolved]
      exact hread.congr rfl rfl
    have hnot : ¬ choice.cardinality = .multi := by simp [hsingle]
    refine ⟨w', gives_bind_iff.mpr ⟨choice, resolved, hresolve, ?_⟩⟩
    dsimp only
    rw [if_neg hnot]
    exact gives_bind_iff.mpr ⟨tree, w', hload, rfl⟩

end Job

end DecisionTable
