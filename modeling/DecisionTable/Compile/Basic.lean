import DecisionTable.Compile.Rows
import DecisionTable.Literal.Agreement
import DecisionTable.Store
import DecisionTable.Tree.Basic

/-!
# Compiling tables

A row is compiled when the nodes of its two outcome cells are known: the true side first, then the
false side, then the attribute and the operator. A cell that refers to a row makes that row come
first, unless it has been compiled already, in which case its branch is shared. Rows that are being
compiled wait on a stack, so tables of any depth can be compiled, and a reference to a row on the
stack is a cycle.

Only rows that the first row leads to are compiled. A row is opened when it is first referred to,
and is then no longer among the rows that can be opened; this bounds the work. Each row takes three
steps: one for each side, and one to close it.
-/

namespace DecisionTable

/-- A row that is being compiled. -/
structure OpenRow where
  id : String
  row : Nat
  /-- The node of the true side, once it is known. -/
  onTrue : Option Node := none

/-- The side of which the node is sought. -/
def OpenRow.side (r : OpenRow) : Side :=
  if r.onTrue.isNone then .onTrue else .onFalse

/-- What a compilation does next. -/
inductive Focus where
  /-- Find the next node of a row. -/
  | seek (r : OpenRow)
  /-- Close a row, as both its nodes are known. -/
  | close (r : OpenRow) (onTrue onFalse : Node)

def Focus.row : Focus → OpenRow
  | seek r => r
  | close r .. => r

/-- What is done next when the node that a row waits for is known. -/
def OpenRow.supply (r : OpenRow) (n : Node) : Focus :=
  match r.onTrue with
  | none => .seek { r with onTrue := some n }
  | some t => .close r t n

/-- The state of a compilation. -/
structure Compilation where
  focus : Focus
  /-- The rows that wait for the row in focus, from the last opened to the first. -/
  below : List OpenRow := []
  /-- The rows that have not been opened. -/
  unopened : List (String × Nat)
  /-- The branches that have been compiled, from the last to the first. -/
  compiled : List Branch := []
  /-- The datatype of the outcomes so far. -/
  agreement : Agreement := {}
  /-- The store that attributes are resolved against. -/
  store : Store

/-- What comes of a compilation: the root or the fault, with the state in which it stopped. -/
structure Compiled where
  result : Except CompileError Branch
  final : Compilation

/-- A table with what its leaves are relative to. -/
structure Source where
  table : Table
  /-- What names that begin with `#` are relative to. -/
  baseUri : String

def leafId (id : String) : Side → String
  | .onTrue => s!"Leaf_{id}_T"
  | .onFalse => s!"Leaf_{id}_F"

namespace Compilation

/-- The rows that are open, from the last to the first. -/
def openRows (c : Compilation) : List OpenRow :=
  c.focus.row :: c.below

def branch? (c : Compilation) (id : String) : Option Branch :=
  c.compiled.find? (·.id == id)

/-- The path of a cycle: from the node that is referred to, along the open rows, back to it. -/
def cyclePath (c : Compilation) (target : String) : List String :=
  (c.openRows.reverse.map (·.id)).dropWhile (· != target) ++ [target]

/-- Takes the row of an id from the rows that have not been opened. -/
def takeRow (id : String) : List (String × Nat) → Option (Nat × List (String × Nat))
  | [] => none
  | (name, row) :: rest =>
    if name == id then some (row, rest)
    else (takeRow id rest).map fun (found, left) => (found, (name, row) :: left)

end Compilation

/-- A step of a compilation. -/
inductive Step where
  | next (c : Compilation)
  | stop (r : Compiled)

namespace Source

def fail (c : Compilation) (e : CompileError) : Step :=
  .stop ⟨.error e, c⟩

/-- Finds the next node of a row: a leaf, a branch that has been compiled, or a row to be opened. -/
def seek (src : Source) (c : Compilation) (r : OpenRow) : Step :=
  let text := src.table.cell r.row r.side.heading
  match Reference.target? text with
  | none =>
    let literal := Literal.parse text src.baseUri
    let id := leafId r.id r.side
    match c.agreement.check literal.type id with
    | .error e => fail c e
    | .ok agreement =>
      .next { c with focus := r.supply (.leaf id literal), agreement := agreement }
  | some target =>
    match c.branch? target with
    | some b => .next { c with focus := r.supply b.node }
    | none =>
      if c.openRows.any (·.id == target) then
        fail c (.cyclicReference target (c.cyclePath target))
      else
        match Compilation.takeRow target c.unopened with
        | none => fail c (.undefinedNode target r.id r.side)
        | some (row, left) =>
          .next { c with
            focus := .seek ⟨target, row, none⟩, below := r :: c.below, unopened := left }

/-- The fault of an unknown attribute in a row, unless the store itself blames a node. -/
def blame (id : String) : CompileError → CompileError
  | .unknownAttribute identifier none => .unknownAttribute identifier (some id)
  | e => e

/-- Closes a row: its attribute is resolved, its operator is read, and the branch goes to the row
that waits for it. -/
def close (src : Source) (c : Compilation) (r : OpenRow) (onTrue onFalse : Node) : Step :=
  match c.store.resolve (src.table.cell r.row attributeHeading) with
  | .error e => fail c (blame r.id e)
  | .ok (a, store) =>
    let text := src.table.cell r.row operatorHeading
    match Operator.parse? text with
    | none => fail { c with store := store } (.unknownOperator text (some r.id))
    | some op =>
      let decision := ⟨a, op, src.table.cell r.row operandHeading⟩
      let b : Branch := ⟨r.id, decision, onTrue, onFalse⟩
      let compiled := b :: c.compiled
      match c.below with
      | [] => .stop ⟨.ok b, { c with compiled := compiled, store := store }⟩
      | parent :: rest =>
        .next { c with
          focus := parent.supply b.node, below := rest, compiled := compiled, store := store }

/-- One step of a compilation. -/
def step (src : Source) (c : Compilation) : Step :=
  match c.focus with
  | .seek r => src.seek c r
  | .close r onTrue onFalse => src.close c r onTrue onFalse

end Source

/-! ### The number of steps -/

/-- The number of steps that an open row needs when the node that it waits for is known. -/
def OpenRow.waitingSteps (r : OpenRow) : Nat :=
  if r.onTrue.isNone then 2 else 1

/-- The number of steps that the row in focus needs. -/
def Focus.steps : Focus → Nat
  | seek r => r.waitingSteps + 1
  | close .. => 1

/-- The number of steps that open rows need when the nodes that they wait for are known. -/
def OpenRow.totalWaiting : List OpenRow → Nat
  | [] => 0
  | r :: rest => r.waitingSteps + totalWaiting rest

/-- The number of steps that a compilation has left if every row is opened. -/
def Compilation.stepsLeft (c : Compilation) : Nat :=
  3 * c.unopened.length + c.focus.steps + OpenRow.totalWaiting c.below

theorem OpenRow.steps_supply (r : OpenRow) (n : Node) : (r.supply n).steps = r.waitingSteps := by
  unfold OpenRow.supply OpenRow.waitingSteps
  cases h : r.onTrue <;> simp [Focus.steps, OpenRow.waitingSteps]

theorem Compilation.length_takeRow {id : String} {rows left : List (String × Nat)} {row : Nat}
    (h : takeRow id rows = some (row, left)) : left.length + 1 = rows.length := by
  induction rows generalizing row left with
  | nil => simp [takeRow] at h
  | cons p rest ih =>
    simp only [takeRow] at h
    split at h
    · simp_all
    · cases hr : takeRow id rest with
      | none => simp [hr] at h
      | some q =>
        obtain ⟨found, more⟩ := q
        simp only [hr, Option.map_some, Option.some.injEq, Prod.mk.injEq] at h
        have := ih hr
        simp only [← h.2, List.length_cons]
        omega

theorem Source.stepsLeft_seek {src : Source} {c c' : Compilation} {r : OpenRow}
    (hc : c.focus = .seek r) (h : src.seek c r = .next c') : c'.stepsLeft + 1 = c.stepsLeft := by
  have hsteps : c.focus.steps = r.waitingSteps + 1 := by rw [hc]; rfl
  simp only [Source.seek, Source.fail] at h
  split at h
  · split at h
    · simp at h
    · obtain rfl := Step.next.inj h
      simp only [Compilation.stepsLeft, OpenRow.steps_supply]
      omega
  · split at h
    · obtain rfl := Step.next.inj h
      simp only [Compilation.stepsLeft, OpenRow.steps_supply]
      omega
    · split at h
      · simp at h
      · split at h
        · simp at h
        · rename_i hrow
          obtain rfl := Step.next.inj h
          have := Compilation.length_takeRow hrow
          simp only [Compilation.stepsLeft, Focus.steps, OpenRow.waitingSteps,
            OpenRow.totalWaiting, Option.isNone_none, if_true] at hsteps ⊢
          omega

theorem Source.stepsLeft_close {src : Source} {c c' : Compilation} {r : OpenRow} {t f : Node}
    (hc : c.focus = .close r t f) (h : src.close c r t f = .next c') :
    c'.stepsLeft + 1 = c.stepsLeft := by
  have hsteps : c.focus.steps = 1 := by rw [hc]; rfl
  simp only [Source.close, Source.fail] at h
  split at h
  · simp at h
  · split at h
    · simp at h
    · split at h
      · simp at h
      · rename_i hb
        obtain rfl := Step.next.inj h
        simp only [Compilation.stepsLeft, OpenRow.steps_supply, hb, OpenRow.totalWaiting]
        omega

/-- Each step leaves one step less to be done. -/
theorem Source.stepsLeft_step {src : Source} {c c' : Compilation} (h : src.step c = .next c') :
    c'.stepsLeft + 1 = c.stepsLeft := by
  unfold Source.step at h
  split at h
  · exact stepsLeft_seek ‹_› h
  · exact stepsLeft_close ‹_› h

/-! ### The compiler -/

/-- Goes on with a compilation to its end. -/
def Source.run (src : Source) (c : Compilation) : Compiled :=
  match h : src.step c with
  | .next c' =>
    have := Source.stepsLeft_step h
    src.run c'
  | .stop r => r
termination_by c.stepsLeft

/-- The state in which the first row is opened. -/
def Compilation.start (rows : List (String × Nat)) (store : Store) : Compilation :=
  match rows with
  | [] => { focus := .seek ⟨"", 0, none⟩, unopened := [], store := store }
  | (id, row) :: rest => { focus := .seek ⟨id, row, none⟩, unopened := rest, store := store }

/-- What comes of compiling a table: the tree or the fault, the branches that were compiled in their
order, and the store that has resolved their attributes. -/
structure CompileResult where
  tree : Except CompileError Tree
  branches : List Branch
  store : Store

def Compiled.tree (r : Compiled) (baseUri : String) : Except CompileError Tree :=
  r.result.map fun root =>
    { root := root.node
      branches := r.final.compiled.reverse
      inferredType := r.final.agreement.type?.getD .anySimple
      baseUri := baseUri }

/-- Compiles a table against a store. -/
def compile (t : Table) (store : Store) (baseUri : String) : CompileResult :=
  match t.indexRows with
  | .error e => ⟨.error e, [], store⟩
  | .ok rows =>
    let r := Source.run ⟨t, baseUri⟩ (.start rows store)
    ⟨r.tree baseUri, r.final.compiled.reverse, r.final.store⟩

end DecisionTable
