import DecisionTable.Proofs.Compile.Shape
import DecisionTable.Proofs.Session.Apart
import DecisionTable.Proofs.Store.Calls

/-!
# The record of resolved attributes

A compilation resolves the attribute of a row when both nodes of the row are known. So the record
grows by the attributes of the rows that become branches, and by one more if a row is closed whose
operator is unknown. When all goes well these are the attributes of the rows that the first row
leads to. Nothing else that is done with a tree or a store makes the record grow.
-/

namespace DecisionTable

open Relation

/-! ### What makes the record grow -/

namespace Store

variable {s s' : Store} {identifier : String}

theorem mem_resolved {a : Attribute} (h : s.resolve identifier = .ok (a, s')) (x : String) :
    x ∈ s'.resolved ↔ x ∈ s.resolved ∨ x = identifier := by
  unfold resolve at h
  split at h
  · cases h
  · obtain ⟨_, rfl⟩ := Prod.mk.inj (Except.ok.inj h)
    split
    · rename_i hknown
      have hmem : identifier ∈ s.resolved := List.contains_iff_mem.mp hknown
      constructor
      · exact Or.inl
      · rintro (hx | rfl)
        · exact hx
        · exact hmem
    · simp

end Store

/-- A compilation closes the rows that become branches, and a row of which it says that its operator
is unknown. -/
inductive Closes {α : Type} (branches : List Branch) (result : Except CompileError α)
    (id : String) : Prop where
  | branch (b : Branch) (hb : b ∈ branches) (hid : b.id = id)
  | unknown (text : String) (hresult : result = .error (.unknownOperator text (some id)))

theorem closes_map_iff {α β : Type} {f : α → β} {branches : List Branch}
    {result : Except CompileError α} {id : String} :
    Closes branches.reverse (result.map f) id ↔ Closes branches result id := by
  constructor
  · rintro (⟨b, hb, hid⟩ | ⟨text, hresult⟩)
    · exact .branch b (List.mem_reverse.mp hb) hid
    · exact .unknown text (map_eq_error.mp hresult)
  · rintro (⟨b, hb, hid⟩ | ⟨text, hresult⟩)
    · exact .branch b (List.mem_reverse.mpr hb) hid
    · exact .unknown text (map_eq_error.mpr hresult)

/-- The row of a node names an attribute. -/
def Table.NamesAttribute (t : Table) (id identifier : String) : Prop :=
  ∃ i, t.nodeIds[i]? = some id ∧ t.cell i attributeHeading = identifier

namespace Source

/-- The record holds what it held at first and the attributes of the rows of some branches. -/
def Recorded (src : Source) (store : Store) (known : List Branch) (now : Store) : Prop :=
  ∀ x, x ∈ now.resolved ↔ x ∈ store.resolved ∨ ∃ b ∈ known, src.table.NamesAttribute b.id x

variable {src : Source} {store now now' : Store} {c c' : Compilation} {r : Compiled}
  {known : List Branch} {x : String}

theorem namesAttribute_iff (ht : src.table.Indexed) {o : OpenRow}
    (ho : src.table.nodeIds[o.row]? = some o.id) :
    src.table.NamesAttribute o.id x ↔ x = src.table.cell o.row attributeHeading := by
  constructor
  · rintro ⟨i, hi, rfl⟩
    rw [ht.row_unique hi ho]
  · rintro rfl
    exact ⟨o.row, ho, rfl⟩

theorem Recorded.add {a : Attribute} {o : OpenRow} {b : Branch} (h : src.Recorded store known now)
    (ht : src.table.Indexed) (ho : src.table.nodeIds[o.row]? = some o.id) (hb : b.id = o.id)
    (hattr : now.resolve (src.table.cell o.row attributeHeading) = .ok (a, now')) :
    src.Recorded store (b :: known) now' := by
  intro x
  rw [Store.mem_resolved hattr, h x, List.exists_mem_cons_iff, hb, namesAttribute_iff ht ho,
    or_right_comm, or_assoc]

theorem recorded_of_move (ht : src.table.Indexed) (hc : src.Consistent store c)
    (h : src.Recorded store c.compiled c.store) (hmove : src.Move c c') :
    src.Recorded store c'.compiled c'.store := by
  cases hmove with
  | leaf r l agreement hfocus hmeans hagree => exact h
  | share r id b hfocus hmeans hbranch => exact h
  | descend r id row left hfocus hmeans hbranch hopen hrow => exact h
  | finish r t f a resolved op parent rest hfocus hattr hop hbelow =>
    have hrow : c.focus.row = r := congrArg Focus.row hfocus
    exact h.add ht (hc.row_in_focus hrow).2 rfl hattr

theorem recorded_of_moves (ht : src.table.Indexed)
    (h : ReflTransGen src.Move (.start src.table.nodeIds.zipIdx store) c) :
    src.Recorded store c.compiled c.store := by
  induction h with
  | refl =>
    rw [start_eq ht]
    intro x
    simp
  | tail hmoves hmove ih => exact recorded_of_move ht (consistent_of_moves ht hmoves) ih hmove

theorem Recorded.closes (h : src.Recorded store r.final.compiled r.final.store)
    (hresult : ∀ text id, r.result ≠ .error (.unknownOperator text (some id))) :
    x ∈ r.final.store.resolved ↔ x ∈ store.resolved ∨
      ∃ id, Closes r.final.compiled r.result id ∧ src.table.NamesAttribute id x := by
  rw [h x]
  refine or_congr_right ?_
  constructor
  · rintro ⟨b, hb, hname⟩
    exact ⟨b.id, .branch b hb rfl, hname⟩
  · rintro ⟨id, hclosed, hname⟩
    cases hclosed with
    | branch b hb hid => exact ⟨b, hb, hid ▸ hname⟩
    | unknown text herror => exact absurd herror (hresult text id)

/-- At the end the record holds, beside what it held at first, the attributes of closed rows. -/
theorem recorded_of_halt (ht : src.table.Indexed) (hc : src.Consistent store c)
    (h : src.Recorded store c.compiled c.store) (hhalt : src.Halt c r) :
    x ∈ r.final.store.resolved ↔ x ∈ store.resolved ∨
      ∃ id, Closes r.final.compiled r.result id ∧ src.table.NamesAttribute id x := by
  cases hhalt with
  | inconsistent o l e hfocus hmeans hagree =>
    obtain ⟨expected, first, _, _, rfl⟩ := Agreement.check_eq_error hagree
    exact h.closes nofun
  | cyclic o id hfocus hmeans hbranch hopen => exact h.closes nofun
  | undefined o id hfocus hmeans hbranch hopen hrow => exact h.closes nofun
  | unknownAttribute o t f e hfocus hattr =>
    obtain ⟨_, rfl⟩ := Store.resolve_eq_error hattr
    rw [blame_unknownAttribute]
    exact h.closes nofun
  | unknownOperator o t f a resolved hfocus hattr hop =>
    -- the attribute of the row is resolved before the operator is looked at
    have hrow : c.focus.row = o := congrArg Focus.row hfocus
    rw [Store.mem_resolved hattr, h x, ← namesAttribute_iff ht (hc.row_in_focus hrow).2, or_assoc]
    refine or_congr_right ?_
    constructor
    · rintro (⟨b, hb, hname⟩ | hname)
      · exact ⟨b.id, .branch b hb rfl, hname⟩
      · exact ⟨o.id, .unknown _ rfl, hname⟩
    · rintro ⟨id, hclosed, hname⟩
      cases hclosed with
      | branch b hb hid => exact Or.inl ⟨b, hb, hid ▸ hname⟩
      | unknown text herror =>
        cases herror
        exact Or.inr hname
  | root o t f a resolved op hfocus hattr hop hbelow =>
    have hrow : c.focus.row = o := congrArg Focus.row hfocus
    exact (h.add ht (hc.row_in_focus hrow).2 rfl hattr).closes nofun

theorem Consistent.builtUp_of_halt (hc : src.Consistent store c) (hhalt : src.Halt c r) :
    ∃ settled, src.BuiltUp store settled r.final.compiled := by
  cases hhalt with
  | inconsistent => exact ⟨_, hc.compiled⟩
  | cyclic => exact ⟨_, hc.compiled⟩
  | undefined => exact ⟨_, hc.compiled⟩
  | unknownAttribute => exact ⟨_, hc.compiled⟩
  | unknownOperator => exact ⟨_, hc.compiled⟩
  | root o t f a resolved op hfocus hattr hop hbelow =>
    exact ⟨_, .cons (hc.built_branch hfocus hattr hop) hc.compiled⟩

/-- A row that is closed can be reached from the first one, and its attribute is known. -/
theorem closed_of_halt (hc : src.Consistent store c) (hhalt : src.Halt c r) {id : String}
    (hclosed : Closes r.final.compiled r.result id) :
    ∃ i, src.table.Reachable i ∧ src.table.nodeIds[i]? = some id ∧
      ∃ a, store.attribute? (src.table.cell i attributeHeading) = some a := by
  cases hclosed with
  | branch b hb hid =>
    obtain ⟨settled, hbuilt⟩ := hc.builtUp_of_halt hhalt
    obtain ⟨i, hi⟩ := hbuilt.built hb
    exact ⟨i, hi.reachable, hid ▸ hi.id, _, hi.tested⟩
  | unknown text hresult =>
    cases hhalt with
    | unknownOperator o t f a resolved hfocus hattr hop =>
      cases hresult
      have hrow : c.focus.row = o := congrArg Focus.row hfocus
      obtain ⟨hreach, hid⟩ := hc.row_in_focus hrow
      have hknown := (Store.resolve_eq_ok hattr).1
      rw [hc.attribute?] at hknown
      exact ⟨o.row, hreach, hid, a, hknown⟩
    | inconsistent o l e hfocus hmeans hagree =>
      obtain ⟨_, _, _, _, rfl⟩ := Agreement.check_eq_error hagree
      cases hresult
    | unknownAttribute o t f e hfocus hattr =>
      obtain ⟨_, rfl⟩ := Store.resolve_eq_error hattr
      rw [blame_unknownAttribute] at hresult
      cases hresult
    | cyclic => cases hresult
    | undefined => cases hresult
    | root => cases hresult

end Source

/-! ### The attributes of a tree -/

namespace Tree

variable {x : String}

/-- Takes the attribute of a branch in among the attributes that are known. -/
def noteAttribute (known : List Attribute) (b : Branch) : List Attribute :=
  if known.any (·.identifier == b.decision.tested.identifier) then
    known.map fun k => if k.identifier == b.decision.tested.identifier then b.decision.tested else k
  else known ++ [b.decision.tested]

theorem mem_noteAttribute (known : List Attribute) (b : Branch) :
    x ∈ (noteAttribute known b).map (·.identifier) ↔
      x ∈ known.map (·.identifier) ∨ b.decision.tested.identifier = x := by
  unfold noteAttribute
  split
  · rename_i hknown
    have hsame : (known.map fun k =>
        if k.identifier == b.decision.tested.identifier then b.decision.tested else k).map
          (·.identifier) = known.map (·.identifier) := by
      rw [List.map_map]
      refine List.map_congr_left ?_
      intro k _
      by_cases hk : k.identifier = b.decision.tested.identifier
      · simp [hk]
      · simp [hk]
    have hmem : b.decision.tested.identifier ∈ known.map (·.identifier) := by
      simpa using hknown
    rw [hsame]
    constructor
    · exact Or.inl
    · rintro (hx | rfl)
      · exact hx
      · exact hmem
  · simp [eq_comm]

/-- The attributes of a tree are those that its branches test. -/
theorem mem_attributes (tree : Tree) : x ∈ tree.attributes.map (·.identifier) ↔
    ∃ b ∈ tree.branches, b.decision.tested.identifier = x := by
  have hfold : ∀ (branches : List Branch) (known : List Attribute),
      x ∈ (branches.foldl noteAttribute known).map (·.identifier) ↔
        x ∈ known.map (·.identifier) ∨ ∃ b ∈ branches, b.decision.tested.identifier = x := by
    intro branches
    induction branches with
    | nil => simp
    | cons b rest ih =>
      intro known
      rw [List.foldl_cons, ih, mem_noteAttribute, List.exists_mem_cons_iff, or_assoc]
  have hnotes : tree.attributes = tree.branches.foldl noteAttribute [] := rfl
  rw [hnotes, hfold]
  simp

end Tree

/-! ### What leaves the record alone -/

theorem Store.resolved_set {s s' : Store} {subject : Subject} {identifier : String} {value : Value}
    (h : s.set subject identifier value = .ok s') : s'.resolved = s.resolved := by
  obtain ⟨a, _, ⟨_, rfl⟩ | ⟨kept, _, rfl⟩⟩ := set_eq_ok h
  · rfl
  · rfl

namespace Job

variable {α β ε : Type}

/-- Whether it goes well or fails, a job leaves the stores as they were. -/
def Spares (j : Job α) : Prop :=
  ∀ w, (j.run.run w).2.stores = w.stores

theorem Spares.bind {j : Job α} {f : α → Job β} (hj : j.Spares) (hf : ∀ a, (f a).Spares) :
    (j >>= f).Spares := by
  intro w
  have hfirst := hj w
  rw [run_bind]
  cases hrun : j.run.run w with
  | mk r w' =>
    rw [hrun] at hfirst
    cases r with
    | error e => exact hfirst
    | ok a => exact (hf a w').trans hfirst

theorem spares_lift (failure : ε → Failure) (r : Except ε α) : (lift failure r).Spares := by
  intro w
  cases r with
  | ok a => rfl
  | error e => rfl

theorem spares_log (lines : List LogLine) : (log lines).Spares := by
  intro w
  obtain ⟨files, output, hlog⟩ := prints_log lines w
  rw [hlog]

theorem spares_storeFor (t : KeptTree) (given : Option StoreHandle) :
    (storeFor t given).Spares := by
  intro w
  unfold storeFor
  split
  · rfl
  · rfl

theorem spares_evaluate (t : KeptTree) (subject : Subject) (given : Option StoreHandle) :
    (evaluate t subject given).Spares := by
  unfold evaluate
  refine (spares_storeFor t given).bind fun s => ?_
  exact (spares_log _).bind fun _ => spares_lift _ _

theorem spares_evaluateMany (t : KeptTree) (subjects : List Subject) (given : Option StoreHandle) :
    (evaluateMany t subjects given).Spares := by
  unfold evaluateMany
  split
  · exact fun w => rfl
  · refine (spares_storeFor t given).bind fun s => ?_
    exact (spares_log _).bind fun _ => spares_lift _ _

theorem run_setValue (h : StoreHandle) (subject : Subject) (identifier : String) (value : Value)
    (w : Workspace) : (setValue h subject identifier value).run.run w =
      match (w.stores.getD h {}).set subject identifier value with
      | .ok s => (.ok (), { w with stores := w.stores.set h s })
      | .error f => (.error (.ofStore f), w) := by
  have hstore : (store h).run.run w = (.ok (w.stores.getD h {}), w) := rfl
  unfold setValue
  rw [run_bind, hstore]
  dsimp only
  cases (w.stores.getD h {}).set subject identifier value with
  | error f => rfl
  | ok s => rfl

end Job

/-- What is done with trees and stores once the trees have been compiled. -/
inductive Use where
  | evaluate (t : KeptTree) (subject : Subject) (given : Option StoreHandle)
  | evaluateMany (t : KeptTree) (subjects : List Subject) (given : Option StoreHandle)
  | setValue (h : StoreHandle) (subject : Subject) (identifier : String) (value : Value)

namespace Use

/-- The session after something has been done, whether it went well or failed. -/
def perform (w : Workspace) : Use → Workspace
  | evaluate t subject given => ((Job.evaluate t subject given).run.run w).2
  | evaluateMany t subjects given => ((Job.evaluateMany t subjects given).run.run w).2
  | setValue h subject identifier value =>
    ((Job.setValue h subject identifier value).run.run w).2

theorem map_set_getD {stores : List Store} {h : StoreHandle} {s : Store}
    (hs : s.resolved = (stores.getD h {}).resolved) :
    (stores.set h s).map (·.resolved) = stores.map (·.resolved) := by
  rw [List.map_set, hs]
  rcases Nat.lt_or_ge h stores.length with hlt | hge
  · have hget : stores.getD h {} = stores[h] := by simp [hlt]
    have hself : stores.set h stores[h] = stores := List.set_getElem_self hlt
    rw [hget, ← List.map_set (f := fun s : Store => s.resolved), hself]
  · exact List.set_eq_of_length_le (by simpa using hge)

theorem resolved_perform (w : Workspace) (use : Use) :
    (use.perform w).stores.map (·.resolved) = w.stores.map (·.resolved) := by
  cases use with
  | evaluate t subject given =>
    exact congrArg (List.map (·.resolved)) (Job.spares_evaluate t subject given w)
  | evaluateMany t subjects given =>
    exact congrArg (List.map (·.resolved)) (Job.spares_evaluateMany t subjects given w)
  | setValue h subject identifier value =>
    show ((Job.setValue h subject identifier value).run.run w).2.stores.map (·.resolved) = _
    rw [Job.run_setValue]
    cases hset : (w.stores.getD h {}).set subject identifier value with
    | error f => rfl
    | ok s => exact map_set_getD (Store.resolved_set hset)

theorem resolved_foldl (uses : List Use) (w : Workspace) :
    (uses.foldl perform w).stores.map (·.resolved) = w.stores.map (·.resolved) := by
  induction uses generalizing w with
  | nil => rfl
  | cons use rest ih =>
    rw [List.foldl_cons, ih]
    exact resolved_perform w use

end Use

/-! ### The record after a compilation -/

/-- What a compilation leaves of the record: the attributes of the tree are added to it, or, if
there is no tree, attributes of rows that the tree would have had. -/
structure CompileResult.Records (r : CompileResult) (t : Table) (store : Store) : Prop where
  /-- What is added is what the rows name that are closed. -/
  closed : ∀ x, x ∈ r.store.resolved ↔ x ∈ store.resolved ∨
    ∃ id, Closes r.branches r.tree id ∧ t.NamesAttribute id x
  added : ∀ tree, r.tree = .ok tree → ∀ x, x ∈ r.store.resolved ↔
    x ∈ store.resolved ∨ x ∈ tree.attributes.map (·.identifier)
  /-- The attributes of the tree are those of the rows that the first row leads to. -/
  reachable : ∀ tree, r.tree = .ok tree → ∀ x, x ∈ tree.attributes.map (·.identifier) ↔
    ∃ i, t.Reachable i ∧ t.cell i attributeHeading = x
  kept : ∀ x ∈ store.resolved, x ∈ r.store.resolved
  /-- Without a tree, what is added is the attribute of a row, and is known to the store. -/
  known : ∀ e, r.tree = .error e → ∀ x ∈ r.store.resolved, x ∈ store.resolved ∨
    ∃ i, i < t.rows.length ∧ t.Reachable i ∧ t.cell i attributeHeading = x ∧
      ∃ a ∈ store.attributes, a.identifier = x
  attributes : r.store.attributes = store.attributes
  entries : r.store.entries = store.entries

variable {t : Table} {store : Store} {baseUri : String} {tree : Tree} {x : String}

theorem Tree.mem_attributes_iff (h : (compile t store baseUri).tree = .ok tree) :
    x ∈ tree.attributes.map (·.identifier) ↔
      ∃ i, t.Reachable i ∧ t.cell i attributeHeading = x := by
  obtain ⟨ht, compiled, root, type, hcomplete, rfl, _⟩ := compile_eq_ok h
  rw [Tree.mem_attributes]
  constructor
  · rintro ⟨b, hb, rfl⟩
    obtain ⟨i, hi⟩ := hcomplete.builtUp.built (List.mem_reverse.mp hb)
    exact ⟨i, hi.reachable, (Store.identifier_of_attribute? hi.tested).symm⟩
  · rintro ⟨i, hreach, rfl⟩
    obtain ⟨b, hb, hid⟩ := hcomplete.exists_branch ht hreach
    have hbuilt := hcomplete.built ht hb hid
    exact ⟨b, List.mem_reverse.mpr hb, Store.identifier_of_attribute? hbuilt.tested⟩

theorem Store.mem_attributes_of_attribute? {identifier : String} {a : Attribute}
    (h : store.attribute? identifier = some a) :
    ∃ a ∈ store.attributes, a.identifier = identifier :=
  ⟨a, List.mem_of_find?_eq_some h, identifier_of_attribute? h⟩

theorem Table.indexRows_ne_unknownOperator {e : CompileError} {text : String} {id : Option String}
    (h : t.indexRows = .error e) : e ≠ .unknownOperator text id := by
  rintro rfl
  unfold indexRows at h
  split at h
  · cases h
  · split at h
    · cases h
    · rcases numberIds_cases [] t.nodeIds List.nodup_nil with ⟨_, hok⟩ | ⟨_, _, _, _, _, _, herror⟩
      · cases hok.symm.trans h
      · cases herror.symm.trans h

/-- A table whose rows cannot be told apart is refused before any row is closed. -/
theorem not_closes_of_refused {e : CompileError} (hindex : t.indexRows = .error e) (id : String) :
    ¬ Closes (compile t store baseUri).branches (compile t store baseUri).tree id := by
  have hrefused : compile t store baseUri = ⟨.error e, [], store⟩ := by simp only [compile, hindex]
  rw [hrefused]
  rintro (⟨b, hb, _⟩ | ⟨text, hresult⟩)
  · cases hb
  · exact Table.indexRows_ne_unknownOperator hindex (Except.error.inj hresult)

/-- How the compilation of a table ends whose rows can be told apart. -/
theorem exists_end {rows : List (String × Nat)} (hindex : t.indexRows = .ok rows)
    (store : Store) (baseUri : String) :
    t.Indexed ∧ ∃ c r, Source.Consistent ⟨t, baseUri⟩ store c ∧
      Source.Recorded ⟨t, baseUri⟩ store c.compiled c.store ∧ Source.Halt ⟨t, baseUri⟩ c r ∧
      compile t store baseUri = ⟨r.tree baseUri, r.final.compiled.reverse, r.final.store⟩ := by
  obtain ⟨ht, rfl⟩ := Table.indexRows_eq_ok.mp hindex
  obtain ⟨c, hmoves, hhalt⟩ := Source.run_halts ⟨t, baseUri⟩ (.start t.nodeIds.zipIdx store)
  refine ⟨ht, c, _, Source.consistent_of_moves ht hmoves, Source.recorded_of_moves ht hmoves, hhalt,
    ?_⟩
  simp only [compile, hindex]

theorem mem_resolved_compile (t : Table) (store : Store) (baseUri x : String) :
    x ∈ (compile t store baseUri).store.resolved ↔ x ∈ store.resolved ∨
      ∃ id, Closes (compile t store baseUri).branches (compile t store baseUri).tree id ∧
        t.NamesAttribute id x := by
  cases hindex : t.indexRows with
  | error e =>
    have hstore : (compile t store baseUri).store = store := by simp only [compile, hindex]
    simp only [hstore, not_closes_of_refused hindex, false_and, exists_false, or_false]
  | ok rows =>
    obtain ⟨ht, c, r, hc, hrecord, hhalt, hcompile⟩ := exists_end hindex store baseUri
    rw [hcompile]
    simp only [Compiled.tree, closes_map_iff]
    exact Source.recorded_of_halt ht hc hrecord hhalt

/-- A closed row is one that the first row leads to, and its attribute is known to the store. -/
theorem row_of_closes {id : String}
    (hclosed : Closes (compile t store baseUri).branches (compile t store baseUri).tree id)
    (hname : t.NamesAttribute id x) :
    ∃ i, i < t.rows.length ∧ t.Reachable i ∧ t.cell i attributeHeading = x ∧
      ∃ a ∈ store.attributes, a.identifier = x := by
  cases hindex : t.indexRows with
  | error e => exact absurd hclosed (not_closes_of_refused hindex id)
  | ok rows =>
    obtain ⟨ht, c, r, hc, _, hhalt, hcompile⟩ := exists_end hindex store baseUri
    rw [hcompile] at hclosed
    obtain ⟨i, hreach, hi, a, ha⟩ := Source.closed_of_halt hc hhalt (closes_map_iff.mp hclosed)
    obtain ⟨j, hj, rfl⟩ := hname
    rw [ht.row_unique hj hi]
    exact ⟨i, (Table.nodeIds_getElem?_eq_some.mp hi).1, hreach, rfl,
      Store.mem_attributes_of_attribute? ha⟩

/-- If there is a tree, each row that the first row leads to has been closed. -/
theorem closes_of_reachable (h : (compile t store baseUri).tree = .ok tree) {i : Nat}
    (hreach : t.Reachable i) :
    ∃ id, Closes (compile t store baseUri).branches (compile t store baseUri).tree id ∧
      t.NamesAttribute id (t.cell i attributeHeading) := by
  have hbranches := compile_branches h
  obtain ⟨ht, compiled, root, type, hcomplete, rfl, _⟩ := compile_eq_ok h
  obtain ⟨b, hb, hid⟩ := hcomplete.exists_branch ht hreach
  refine ⟨b.id, .branch b ?_ rfl, i, hid, rfl⟩
  rw [hbranches]
  exact List.mem_reverse.mpr hb

theorem compile_records (t : Table) (store : Store) (baseUri : String) :
    (compile t store baseUri).Records t store := by
  have hclosed := mem_resolved_compile t store baseUri
  have hstore := compile_store t store baseUri
  refine
    { closed := hclosed
      added := ?_
      reachable := fun tree htree x => Tree.mem_attributes_iff htree
      kept := fun x hx => (hclosed x).mpr (.inl hx)
      known := ?_
      attributes := by rw [hstore]
      entries := by rw [hstore] }
  · intro tree htree x
    rw [hclosed, Tree.mem_attributes_iff htree]
    refine or_congr_right ?_
    constructor
    · rintro ⟨id, hid, hname⟩
      obtain ⟨i, _, hreach, hcell, _⟩ := row_of_closes hid hname
      exact ⟨i, hreach, hcell⟩
    · rintro ⟨i, hreach, rfl⟩
      exact closes_of_reachable htree hreach
  · intro e _ x hx
    refine ((hclosed x).mp hx).imp_right ?_
    rintro ⟨id, hid, hname⟩
    exact row_of_closes hid hname

/-- Compiling records exactly the attributes that the tree depends on, and what is done with trees
and stores afterwards records nothing. -/
theorem record_is_exact (t : Table) (store : Store) (baseUri : String) :
    (compile t store baseUri).Records t store ∧
      ∀ (uses : List Use) (w : Workspace),
        (uses.foldl Use.perform w).stores.map (·.resolved) = w.stores.map (·.resolved) :=
  ⟨compile_records t store baseUri, Use.resolved_foldl⟩

end DecisionTable
