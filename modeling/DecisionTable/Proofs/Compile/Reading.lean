import DecisionTable.Example
import DecisionTable.Proofs.Compile.Outcome
import DecisionTable.Proofs.Store.History
import DecisionTable.Tree.Evaluation
import Mathlib.Data.List.Nodup
import Mathlib.Logic.Function.Iterate

/-!
# Reading a table without a tree

A subject can also be decided by going from row to row: at each row the cells are read anew, and the
outcome cell that the decision picks either ends the reading or names the next row. On a table that
compiles this comes to the same end as the tree, and in no more steps than there are rows.
-/

namespace DecisionTable

/-- How far the reading of a table has come. -/
inductive Reading where
  | row (i : Nat)
  | ended (r : Except DecisionFailure TypedLiteral)
  /-- There is no such row, or the row does not name an attribute and an operator. -/
  | lost

namespace Source

def follow (src : Source) (i : Nat) (side : Side) : Reading :=
  let text := src.table.cell i side.heading
  match Reference.target? text with
  | none => .ended (.ok (Literal.parse text src.baseUri))
  | some id =>
    match src.table.nodeIds.idxOf? id with
    | some j => .row j
    | none => .lost

/-- Whether the decision that a row describes holds now, if its attribute and its operator are
those given. -/
def holdsAt (src : Source) (now : Store) (subject : Subject) (i : Nat) (a : Attribute)
    (op : Operator) : Except DecisionFailure Bool := do
  op.decide (← now.current a subject) (src.table.cell i operandHeading)

/-- Reads one row. Attributes are looked up in `defs`, and values are those of `now`. -/
def readRow (src : Source) (defs now : Store) (subject : Subject) (i : Nat) : Reading :=
  match defs.attribute? (src.table.cell i attributeHeading),
    Operator.parse? (src.table.cell i operatorHeading) with
  | some a, some op =>
    match src.holdsAt now subject i a op with
    | .ok true => src.follow i .onTrue
    | .ok false => src.follow i .onFalse
    | .error e => .ended (.error e)
  | _, _ => .lost

/-- One step of a reading, which stays where it is when it has ended. -/
def readStep (src : Source) (defs now : Store) (subject : Subject) : Reading → Reading
  | .row i => src.readRow defs now subject i
  | r => r

variable {src : Source} {store defs now : Store} {subject : Subject} {known : List Branch}
  {settled : Option LiteralType} {row : Nat}

/-! ### Single steps -/

theorem follow_of_outcome {side : Side} {l : TypedLiteral}
    (h : src.sequel row side = .outcome l) : src.follow row side = .ended (.ok l) := by
  obtain ⟨htarget, rfl⟩ := sequel_eq_outcome.mp h
  simp only [follow, htarget]

theorem follow_of_node {side : Side} {id : String} {j : Nat} (ht : src.table.Indexed)
    (h : src.sequel row side = .node id) (hj : src.table.nodeIds[j]? = some id) :
    src.follow row side = .row j := by
  have hindex : src.table.nodeIds.idxOf? id = some j := by
    cases hfound : src.table.nodeIds.idxOf? id with
    | none => exact absurd (List.mem_of_getElem? hj) (List.idxOf?_eq_none_iff.mp hfound)
    | some k =>
      obtain ⟨hk, hid, _⟩ := List.idxOf?_eq_some_iff.mp hfound
      have hget : src.table.nodeIds[k]? = some id := by rw [List.getElem?_eq_getElem hk, hid]
      rw [ht.row_unique hget hj]
  simp only [follow, sequel_eq_node.mp h, hindex]

/-- A row is read as its branch says, if its attribute is still known. -/
theorem readRow_of_built (now : Store) (subject : Subject) {b : Branch}
    (h : src.Built store known settled row b)
    (hdefs : defs.attribute? (src.table.cell row attributeHeading) = some b.decision.tested) :
    src.readRow defs now subject row = match b.decision.holds now subject with
      | .ok true => src.follow row .onTrue
      | .ok false => src.follow row .onFalse
      | .error e => .ended (.error e) := by
  have hholds : src.holdsAt now subject row b.decision.tested b.decision.op
      = b.decision.holds now subject := by
    simp only [holdsAt, Decision.holds, h.operand]
  simp only [readRow, hdefs, h.op, hholds]

theorem readStep_ended (r : Except DecisionFailure TypedLiteral) (n : Nat) :
    (src.readStep defs now subject)^[n] (.ended r) = .ended r :=
  Function.iterate_fixed rfl n

theorem readStep_le {n m : Nat} {start : Reading} {r : Except DecisionFailure TypedLiteral}
    (hle : n ≤ m) (h : (src.readStep defs now subject)^[n] start = .ended r) :
    (src.readStep defs now subject)^[m] start = .ended r := by
  obtain ⟨k, rfl⟩ := Nat.exists_eq_add_of_le' hle
  rw [Function.iterate_add_apply, h, readStep_ended]

/-! ### Whole readings -/

/-- From the row of each branch on, a reading comes to what the branch evaluates to. -/
theorem BuiltUp.reading {l : List Branch} (h : src.BuiltUp store settled l)
    (ht : src.table.Indexed)
    (hdefs : store.Keeps defs) {i : Nat} {b : Branch} (hb : b ∈ l)
    (hi : src.table.nodeIds[i]? = some b.id) :
    (src.readStep defs now subject)^[l.length] (.row i)
      = .ended (b.node.evaluate now subject) := by
  -- on the order of compilation: a branch leads to branches before it only
  induction h generalizing i b with
  | nil => cases hb
  | @cons row d rest hd _ ih =>
    rcases List.mem_cons.mp hb with rfl | hrest
    · obtain rfl := ht.row_unique hi hd.id
      -- whichever cell is followed, what it stands for was compiled before this branch
      have hfollow : ∀ side, (src.readStep defs now subject)^[rest.length] (src.follow i side)
          = .ended ((b.child side).evaluate now subject) := by
        intro side
        have hchild := hd.child side
        generalize b.child side = n at hchild
        cases hchild with
        | leaf l hmeans _ =>
          rw [follow_of_outcome hmeans, readStep_ended]
          rfl
        | branch e hmeans he =>
          obtain ⟨j, hj⟩ := BuiltUp.built ‹_› he
          rw [follow_of_node ht hmeans hj.id]
          exact ih he hj.id
      have hstep := readRow_of_built now subject hd (hdefs _ _ hd.tested)
      rw [List.length_cons, Function.iterate_succ_apply]
      simp only [readStep, hstep, Branch.node, Node.evaluate]
      cases hholds : b.decision.holds now subject with
      | error e => exact readStep_ended _ _
      | ok held =>
        cases held with
        | true => exact hfollow .onTrue
        | false => exact hfollow .onFalse
    · exact readStep_le (Nat.le_succ _) (ih hrest hi)

theorem Complete.length_le {type : LiteralType} {compiled : List Branch} {root : Branch}
    (h : src.Complete store type compiled root) :
    compiled.length ≤ src.table.rows.length := by
  have hsub : compiled.map (·.id) ⊆ src.table.nodeIds := by
    intro id hid
    obtain ⟨b, hb, rfl⟩ := List.mem_map.mp hid
    obtain ⟨i, _, hi⟩ := h.reachable hb
    exact List.mem_of_getElem? hi
  have hlength := (List.subperm_of_subset h.distinct hsub).length_le
  rw [List.length_map, Table.length_nodeIds] at hlength
  exact hlength

theorem Complete.reading {type : LiteralType} {compiled : List Branch} {root : Branch}
    (h : src.Complete store type compiled root) (ht : src.table.Indexed)
    (hdefs : store.Keeps defs) :
    (src.readStep defs now subject)^[src.table.rows.length] (.row 0)
      = .ended (root.node.evaluate now subject) :=
  readStep_le h.length_le (h.builtUp.reading ht hdefs h.root_mem h.first)

end Source

variable {t : Table} {store : Store} {baseUri : String}

/-- A compiled tree gives a subject what reading the table gives, whether an outcome or a failure
and whatever the values are by then; the attributes may be looked up in the store that the table
was compiled against or in what has become of it. -/
theorem evaluate_eq_reading {tree : Tree} (h : (compile t store baseUri).tree = .ok tree)
    (subject : Subject) :
    (∀ now : Store, (Source.readStep ⟨t, baseUri⟩ store now subject)^[t.rows.length] (.row 0)
      = .ended (tree.evaluate now subject)) ∧
    ∀ now, (compile t store baseUri).store.Later now →
      (Source.readStep ⟨t, baseUri⟩ now now subject)^[t.rows.length] (.row 0)
        = .ended (tree.evaluate now subject) := by
  obtain ⟨ht, compiled, root, type, hcomplete, rfl, _⟩ := compile_eq_ok h
  refine ⟨fun now => hcomplete.reading ht (Store.Keeps.refl store), ?_⟩
  intro now hlater
  have hkeeps := (Store.keeps_compile store t baseUri).trans (Store.keeps_later hlater)
  exact hcomplete.reading ht hkeeps

/-- A score of 95, set after the table with a shared row was compiled, leads through two rows. -/
theorem evaluate_eq_reading_sharing :
    ∃ tree, (compile Example.sharing Example.emptyStore "urn:grade").tree = .ok tree ∧
      ∃ now, (compile Example.sharing Example.emptyStore "urn:grade").store.Later now ∧
        (Source.readStep ⟨Example.sharing, "urn:grade"⟩ now now (.named "ann"))^[3] (.row 0)
          = .ended (tree.evaluate now (.named "ann")) ∧
        tree.evaluate now (.named "ann") = .ok ⟨.uri, "urn:grade#best"⟩ := by
  have hstore : (compile Example.sharing Example.emptyStore "urn:grade").store
      = { Example.emptyStore with resolved := ["#choice", "#score"] } := by
    have hresolved : (compile Example.sharing Example.emptyStore "urn:grade").store.resolved
        = ["#choice", "#score"] := by decide +kernel
    rw [compile_store, hresolved]
  have hset : Store.Change { Example.emptyStore with resolved := ["#choice", "#score"] }
      { Example.emptyStore with
        entries := [⟨.named "ann", "#score", .int 95⟩], resolved := ["#choice", "#score"] } :=
    .set (.named "ann") "#score" (.int 95) rfl
  have hvalue : (compile Example.sharing Example.emptyStore "urn:grade").tree.map
      (·.evaluate { Example.emptyStore with
        entries := [⟨.named "ann", "#score", .int 95⟩], resolved := ["#choice", "#score"] }
          (.named "ann")) = .ok (.ok ⟨.uri, "urn:grade#best"⟩) := by decide +kernel
  obtain ⟨tree, htree, houtcome⟩ := exists_tree hvalue
  have hlater := hstore ▸ Relation.ReflTransGen.single hset
  exact ⟨tree, htree, _, hlater, (evaluate_eq_reading htree _).2 _ hlater, houtcome⟩

end DecisionTable
