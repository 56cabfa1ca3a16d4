import DecisionTable.Example
import DecisionTable.Proofs.Compile.Outcome

/-!
# Compiling by recursion

A row can also be compiled by recursion: first its true cell, then its false cell, then its
attribute and its operator, and then its branch is registered. A cell that refers to a row gives the
branch of that row if there is one, is a fault if that row is still being compiled, and otherwise
has that row compiled. The loop with its stack does the same: it registers the same branches in the
same order, and of several faults it comes to the same one first.
-/

namespace DecisionTable

open Relation

/-- What a compilation has settled so far. -/
structure Registry where
  /-- The branches, from the last to the first. -/
  branches : List Branch
  agreement : Agreement
  store : Store

/-- A part of a compilation. A fault ends the whole of it, and the registry stays as it is then. -/
abbrev Registering := EStateM CompileError Registry

namespace Table

/-- The number of rows whose ids are not on a path. -/
def rowsOff (t : Table) (path : List String) : Nat :=
  (t.nodeIds.filter (· ∉ path)).length

theorem rowsOff_cons_lt {t : Table} {path : List String} {id : String} (hids : id ∈ t.nodeIds)
    (hid : id ∉ path) : t.rowsOff (id :: path) < t.rowsOff path := by
  have hmem : id ∈ t.nodeIds.filter (· ∉ path) :=
    List.mem_filter.mpr ⟨hids, by simpa using hid⟩
  have hsplit : t.nodeIds.filter (· ∉ id :: path)
      = (t.nodeIds.filter (· ∉ path)).filter (· ≠ id) := by
    rw [List.filter_filter]
    refine List.filter_congr ?_
    intro a _
    simp [not_or]
  unfold rowsOff
  rw [hsplit]
  exact List.length_filter_lt_length_iff_exists.mpr ⟨id, hmem, by simp⟩

end Table

/-- What a state of the loop has settled. -/
def Compilation.registry (c : Compilation) : Registry :=
  ⟨c.compiled, c.agreement, c.store⟩

namespace Source

/-- The leaf of an outcome, whose datatype has to agree. -/
def recordLeaf (id : String) (side : Side) (l : TypedLiteral) : Registering Node := do
  let registry ← get
  let agreement ← MonadExcept.ofExcept (registry.agreement.check l.type (leafId id side))
  set { registry with agreement := agreement }
  return .leaf (leafId id side) l

/-- Registers the branch of a row both of whose nodes are known. -/
def register (src : Source) (id : String) (row : Nat) (t f : Node) : Registering Branch := do
  let registry ← get
  let (a, store) ← MonadExcept.ofExcept
    ((registry.store.resolve (src.table.cell row attributeHeading)).mapError (blame id))
  set { registry with store := store }
  let text := src.table.cell row operatorHeading
  match Operator.parse? text with
  | none => throw (.unknownOperator text (some id))
  | some op =>
    let b : Branch := ⟨id, ⟨a, op, src.table.cell row operandHeading⟩, t, f⟩
    modify fun registry => { registry with branches := b :: registry.branches }
    return b

mutual

/-- Compiles a row while others wait for it, the last one first. -/
def compileRow (src : Source) (waiting : List String) (id : String) (row : Nat) :
    Registering Branch := do
  let t ← src.compileCell waiting id row .onTrue
  let f ← src.compileCell waiting id row .onFalse
  src.register id row t f
termination_by (src.table.rowsOff (id :: waiting), 1)

/-- Compiles an outcome cell of a row. -/
def compileCell (src : Source) (waiting : List String) (id : String) (row : Nat) (side : Side) :
    Registering Node := do
  match src.sequel row side with
  | .outcome l => recordLeaf id side l
  | .node target =>
    if _hids : target ∈ src.table.nodeIds then
      match (← get).branches.find? (·.id == target) with
      | some b => return b.node
      | none =>
        if _hopen : target ∈ id :: waiting then
          let path := (id :: waiting).reverse.dropWhile (· != target)
          throw (.cyclicReference target (path ++ [target]))
        else
          let b ← src.compileRow (id :: waiting) target (src.table.nodeIds.idxOf target)
          return b.node
    else throw (.undefinedNode target id side)
termination_by (src.table.rowsOff (id :: waiting), 0)
decreasing_by exact Prod.Lex.left _ _ (Table.rowsOff_cons_lt _hids _hopen)

end

variable {src : Source} {store : Store} {waiting : List String} {id target : String}
  {row : Nat} {side : Side} {registry : Registry}

theorem get_bind {α : Type} (k : Registry → Registering α) (registry : Registry) :
    (get >>= k) registry = k registry registry :=
  rfl

/-! ### Cells, one case after the other -/

theorem compileCell_outcome {l : TypedLiteral} (h : src.sequel row side = .outcome l) :
    src.compileCell waiting id row side registry = recordLeaf id side l registry := by
  rw [compileCell, h]

theorem compileCell_undefined (h : src.sequel row side = .node target)
    (hids : target ∉ src.table.nodeIds) :
    src.compileCell waiting id row side registry
      = .error (.undefinedNode target id side) registry := by
  rw [compileCell, h]
  simp only [dif_neg hids]
  rfl

theorem compileCell_shared {b : Branch} (h : src.sequel row side = .node target)
    (hids : target ∈ src.table.nodeIds)
    (hbranch : registry.branches.find? (·.id == target) = some b) :
    src.compileCell waiting id row side registry = .ok b.node registry := by
  rw [compileCell, h]
  simp only [dif_pos hids, get_bind, hbranch]
  rfl

theorem compileCell_cyclic (h : src.sequel row side = .node target)
    (hids : target ∈ src.table.nodeIds)
    (hbranch : registry.branches.find? (·.id == target) = none) (hopen : target ∈ id :: waiting) :
    src.compileCell waiting id row side registry
      = .error (.cyclicReference target
          ((id :: waiting).reverse.dropWhile (· != target) ++ [target])) registry := by
  rw [compileCell, h]
  simp only [dif_pos hids, get_bind, hbranch,
    dif_pos hopen]
  rfl

theorem compileCell_descend (h : src.sequel row side = .node target)
    (hids : target ∈ src.table.nodeIds)
    (hbranch : registry.branches.find? (·.id == target) = none) (hopen : target ∉ id :: waiting) :
    src.compileCell waiting id row side registry
      = ((src.compileRow (id :: waiting) target (src.table.nodeIds.idxOf target)).map Branch.node)
          registry := by
  rw [compileCell, h]
  simp only [dif_pos hids, get_bind, hbranch,
    dif_neg hopen]
  rfl

/-! ### What the loop comes to -/

/-- From a state on, the loop comes to the branch of the row in focus, or to a fault. -/
inductive Finds (src : Source) (c : Compilation) :
    EStateM.Result CompileError Registry Branch → Prop where
  | closes (c' : Compilation) (r : OpenRow) (t f : Node) (a : Attribute) (store : Store)
      (op : Operator) (hmoves : ReflTransGen src.Move c c') (hfocus : c'.focus = .close r t f)
      (hbelow : c'.below = c.below)
      (hattr : c'.store.resolve (src.table.cell r.row attributeHeading) = .ok (a, store))
      (hop : Operator.parse? (src.table.cell r.row operatorHeading) = some op) :
      Finds src c (.ok (src.branch r a op t f)
        ⟨src.branch r a op t f :: c'.compiled, c'.agreement, store⟩)
  | fails (c' final : Compilation) (e : CompileError) (hmoves : ReflTransGen src.Move c c')
      (hhalt : src.Halt c' ⟨.error e, final⟩) : Finds src c (.error e final.registry)

/-- From a state on, the loop comes to the node that a row waits for, or to a fault. -/
inductive Supplies (src : Source) (c : Compilation) (r : OpenRow) :
    EStateM.Result CompileError Registry Node → Prop where
  | hands (c' : Compilation) (n : Node) (hmoves : ReflTransGen src.Move c c')
      (hfocus : c'.focus = r.supply n) (hbelow : c'.below = c.below) :
      Supplies src c r (.ok n c'.registry)
  | fails (c' final : Compilation) (e : CompileError) (hmoves : ReflTransGen src.Move c c')
      (hhalt : src.Halt c' ⟨.error e, final⟩) : Supplies src c r (.error e final.registry)

variable {c c' : Compilation} {r : OpenRow} {l : TypedLiteral} {t f : Node}

theorem Finds.after {result : EStateM.Result CompileError Registry Branch}
    (h : src.Finds c' result) (hmoves : ReflTransGen src.Move c c') (hbelow : c'.below = c.below) :
    src.Finds c result := by
  cases h with
  | closes d r t f a store op hmore hfocus hsame hattr hop =>
    exact .closes d r t f a store op (hmoves.trans hmore) hfocus (hsame.trans hbelow) hattr hop
  | fails d final e hmore hhalt => exact .fails d final e (hmoves.trans hmore) hhalt

/-- The branch of a row that has been descended to is handed to the row below. -/
theorem Finds.supplies {part : Registering Branch} (h : src.Finds c' (part registry))
    (hmoves : ReflTransGen src.Move c c') (hbelow : c'.below = r :: c.below) :
    src.Supplies c r (part.map Branch.node registry) := by
  unfold EStateM.map
  generalize part registry = result at h
  cases h with
  | closes d o t f a store op hmore hfocus hsame hattr hop =>
    have hfinish := Move.finish o t f a store op r c.below hfocus hattr hop (hsame.trans hbelow)
    exact .hands _ _ ((hmoves.trans hmore).tail hfinish) rfl rfl
  | fails d final e hmore hhalt => exact .fails d final e (hmoves.trans hmore) hhalt

theorem recordLeaf_supplies (hfocus : c.focus = .seek r)
    (hmeans : src.sequel r.row r.side = .outcome l) :
    src.Supplies c r (recordLeaf r.id r.side l c.registry) := by
  cases hagree : c.agreement.check l.type (leafId r.id r.side) with
  | error e =>
    have hresult : recordLeaf r.id r.side l c.registry = .error e c.registry := by
      simp only [recordLeaf, get_bind, Compilation.registry, hagree]
      rfl
    rw [hresult]
    exact .fails c c e .refl (.inconsistent r l e hfocus hmeans hagree)
  | ok agreement =>
    have hresult : recordLeaf r.id r.side l c.registry
        = .ok (.leaf (leafId r.id r.side) l) { c.registry with agreement := agreement } := by
      simp only [recordLeaf, get_bind, Compilation.registry, hagree]
      rfl
    rw [hresult]
    exact .hands _ _ (.single (.leaf r l agreement hfocus hmeans hagree)) rfl rfl

theorem register_finds (hfocus : c.focus = .close r t f) :
    src.Finds c (src.register r.id r.row t f c.registry) := by
  cases hattr : c.store.resolve (src.table.cell r.row attributeHeading) with
  | error e =>
    have hresult : src.register r.id r.row t f c.registry = .error (blame r.id e) c.registry := by
      simp only [register, get_bind, Compilation.registry, hattr]
      rfl
    rw [hresult]
    exact .fails c c _ .refl (.unknownAttribute r t f e hfocus hattr)
  | ok p =>
    obtain ⟨a, store⟩ := p
    cases hop : Operator.parse? (src.table.cell r.row operatorHeading) with
    | none =>
      have hresult : src.register r.id r.row t f c.registry
          = .error (.unknownOperator (src.table.cell r.row operatorHeading) (some r.id))
              { c.registry with store := store } := by
        simp only [register, get_bind, Compilation.registry, hattr, hop]
        rfl
      rw [hresult]
      exact .fails c _ _ .refl (.unknownOperator r t f a store hfocus hattr hop)
    | some op =>
      have hresult : src.register r.id r.row t f c.registry
          = .ok (src.branch r a op t f)
              ⟨src.branch r a op t f :: c.compiled, c.agreement, store⟩ := by
        simp only [register, get_bind, Compilation.registry, hattr, hop]
        rfl
      rw [hresult]
      exact .closes c r t f a store op .refl hfocus rfl hattr hop

/-! ### The loop follows the recursion -/

theorem Consistent.mem_nodeIds (h : src.Consistent store c) {o : OpenRow} (ho : o ∈ c.openRows) :
    o.id ∈ src.table.nodeIds :=
  List.mem_of_getElem? (h.opened o ho)

theorem Consistent.branch?_eq_none (h : src.Consistent store c) (hids : id ∉ src.table.nodeIds) :
    c.branch? id = none := by
  refine Compilation.branch?_eq_none.mpr ?_
  intro hmem
  exact hids (h.rows.mem_iff.mp (by simp [hmem]))

/-- The row that is taken from those not yet opened is the row of the id. -/
theorem Consistent.takeRow_eq_some (h : src.Consistent store c) (ht : src.table.Indexed)
    (hids : id ∈ src.table.nodeIds) (hbranch : c.branch? id = none)
    (hopen : ∀ o ∈ c.openRows, o.id ≠ id) :
    ∃ left, Compilation.takeRow id c.unopened = some (src.table.nodeIds.idxOf id, left) := by
  cases htake : Compilation.takeRow id c.unopened with
  | none => exact absurd hids ((h.takeRow_eq_none hbranch hopen).mp htake)
  | some p =>
    obtain ⟨place, left⟩ := p
    have hmem : (id, place) ∈ c.unopened :=
      (Compilation.perm_of_takeRow htake).mem_iff.mpr (List.mem_cons_self ..)
    have hplace : src.table.nodeIds[place]? = some id := h.unopened _ hmem
    have hfirst : src.table.nodeIds[src.table.nodeIds.idxOf id]? = some id :=
      List.getElem?_idxOf hids
    exact ⟨left, by rw [ht.row_unique hplace hfirst]⟩

/-- A cell is compiled as the recursion has it, if that is so of the rows that are opened next. -/
theorem compileCell_supplies (ht : src.table.Indexed) (hc : src.Consistent store c)
    (hfocus : c.focus = .seek r)
    (hrows : ∀ (d : Compilation) (o : OpenRow), src.Consistent store d → d.focus = .seek o →
      o.onTrue = none →
      src.table.rowsOff (d.openRows.map (·.id)) < src.table.rowsOff (c.openRows.map (·.id)) →
      src.Finds d (src.compileRow (d.below.map (·.id)) o.id o.row d.registry)) :
    src.Supplies c r (src.compileCell (c.below.map (·.id)) r.id r.row r.side c.registry) := by
  have hopenRows : c.openRows = r :: c.below :=
    Compilation.openRows_eq (congrArg Focus.row hfocus)
  have hpath : c.openRows.map (·.id) = r.id :: c.below.map (·.id) := by
    rw [hopenRows, List.map_cons]
  cases hmeans : src.sequel r.row r.side with
  | outcome l =>
    rw [compileCell_outcome hmeans]
    exact recordLeaf_supplies hfocus hmeans
  | node id =>
    by_cases hids : id ∈ src.table.nodeIds
    · cases hbranch : c.registry.branches.find? (·.id == id) with
      | some b =>
        rw [compileCell_shared hmeans hids hbranch]
        have hmove := Move.share r id b hfocus hmeans hbranch
        exact .hands { c with focus := r.supply b.node } _ (.single hmove) rfl rfl
      | none =>
        by_cases hopen : id ∈ r.id :: c.below.map (·.id)
        · have hexists : ∃ o ∈ c.openRows, o.id = id := by
            rw [← hpath] at hopen
            exact List.mem_map.mp hopen
          rw [compileCell_cyclic hmeans hids hbranch hopen]
          have hcycle : c.cyclePath id
              = (r.id :: c.below.map (·.id)).reverse.dropWhile (· != id) ++ [id] := by
            rw [Compilation.cyclePath, List.map_reverse, hpath]
          rw [← hcycle]
          exact .fails c c _ .refl (.cyclic r id hfocus hmeans hbranch hexists)
        · have hnone : ∀ o ∈ c.openRows, o.id ≠ id := by
            intro o ho heq
            refine hopen ?_
            rw [← hpath, ← heq]
            exact List.mem_map_of_mem ho
          obtain ⟨left, htake⟩ := hc.takeRow_eq_some ht hids hbranch hnone
          have hmove := Move.descend r id _ left hfocus hmeans hbranch hnone htake
          have hd := consistent_of_move hc hmove
          have hfewer : src.table.rowsOff (id :: r.id :: c.below.map (·.id))
              < src.table.rowsOff (c.openRows.map (·.id)) := by
            rw [hpath]
            exact Table.rowsOff_cons_lt hids hopen
          rw [compileCell_descend hmeans hids hbranch hopen]
          exact (hrows _ _ hd rfl rfl hfewer).supplies (.single hmove) rfl
    · have hbranch := hc.branch?_eq_none hids
      have hopen : ∀ o ∈ c.openRows, o.id ≠ id := by
        intro o ho heq
        exact hids (heq ▸ hc.mem_nodeIds ho)
      have htake := (hc.takeRow_eq_none hbranch hopen).mpr hids
      rw [compileCell_undefined hmeans hids]
      exact .fails c c _ .refl (.undefined r id hfocus hmeans hbranch hopen htake)

theorem compileRow_finds (ht : src.table.Indexed) (hc : src.Consistent store c)
    (hfocus : c.focus = .seek r) (htrue : r.onTrue = none) :
    src.Finds c (src.compileRow (c.below.map (·.id)) r.id r.row c.registry) := by
  -- on the number of rows that are not open
  induction hn : src.table.rowsOff (c.openRows.map (·.id)) using Nat.strongRecOn
    generalizing c r with
  | ind n ih =>
    have hcell : ∀ (d : Compilation) (o : OpenRow), src.Consistent store d → d.focus = .seek o →
        d.openRows.map (·.id) = c.openRows.map (·.id) →
        src.Supplies d o (src.compileCell (d.below.map (·.id)) o.id o.row o.side d.registry) := by
      intro d o hd hseek hsame
      refine compileCell_supplies ht hd hseek ?_
      intro e p he hnext hnone hfewer
      rw [hsame, hn] at hfewer
      exact ih _ hfewer he hnext hnone rfl
    have honTrue := hcell c r hc hfocus rfl
    rw [OpenRow.side_of_none htrue] at honTrue
    rw [compileRow]
    simp only [bind, EStateM.bind]
    generalize src.compileCell (c.below.map (·.id)) r.id r.row .onTrue c.registry = first
      at honTrue
    cases honTrue with
    | fails d final e hmoves hhalt => exact .fails d final e hmoves hhalt
    | hands d t hmoves hsupply hbelow =>
      rw [OpenRow.supply_of_none htrue] at hsupply
      have hd := hc.of_moves hmoves
      have hids : d.openRows.map (·.id) = c.openRows.map (·.id) := by
        simp only [Compilation.openRows, List.map_cons, hsupply, hfocus, hbelow, Focus.row]
      have honFalse := hcell d _ hd hsupply hids
      rw [OpenRow.side_of_some rfl, hbelow] at honFalse
      dsimp only at honFalse ⊢
      generalize src.compileCell (c.below.map (·.id)) r.id r.row .onFalse d.registry = second
        at honFalse
      cases honFalse with
      | fails e final err hmore hhalt => exact .fails e final err (hmoves.trans hmore) hhalt
      | hands e f hmore hclose hbelow' =>
        rw [OpenRow.supply_of_some rfl] at hclose
        have hregister : src.Finds e (src.register r.id r.row t f e.registry) :=
          register_finds (r := { r with onTrue := some t }) hclose
        exact hregister.after (hmoves.trans hmore) (hbelow'.trans hbelow)

/-- Compiles the first row, and with it all that it leads to. -/
def compileFirst (src : Source) (store : Store) :
    EStateM.Result CompileError Registry Branch :=
  src.compileRow [] (src.table.cell 0 nodeHeading) 0 ⟨[], {}, store⟩

end Source

/-- What a run of the loop has come to: the root or the fault, and what was settled by then. -/
def Compiled.outcome (r : Compiled) : EStateM.Result CompileError Registry Branch :=
  match r.result with
  | .ok root => .ok root r.final.registry
  | .error e => .error e r.final.registry

/-- Compiles a table against a store by recursion. -/
def compileByRecursion (t : Table) (store : Store) (baseUri : String) : CompileResult :=
  match t.indexRows with
  | .error e => ⟨.error e, [], store⟩
  | .ok _ =>
    match Source.compileFirst ⟨t, baseUri⟩ store with
    | .ok root registry =>
      let type := registry.agreement.type?.getD .anySimple
      ⟨.ok ⟨root.node, registry.branches.reverse, type, baseUri⟩, registry.branches.reverse,
        registry.store⟩
    | .error e registry => ⟨.error e, registry.branches.reverse, registry.store⟩

namespace Source

variable {src : Source} {store : Store}

theorem outcome_run (ht : src.table.Indexed) :
    (src.run (.start src.table.nodeIds.zipIdx store)).outcome = src.compileFirst store := by
  have hc := consistent_start src store ht
  rw [start_eq ht] at hc ⊢
  have hfinds := compileRow_finds ht hc rfl rfl
  change src.Finds _ (src.compileFirst store) at hfinds
  generalize src.compileFirst store = result at hfinds
  cases hfinds with
  | closes c r t f a resolved op hmoves hfocus hbelow hattr hop =>
    rw [run_of_moves hmoves, run_of_halt (.root r t f a resolved op hfocus hattr hop hbelow)]
    rfl
  | fails c final e hmoves hhalt =>
    rw [run_of_moves hmoves, run_of_halt hhalt]
    rfl

end Source

theorem compile_eq_byRecursion (t : Table) (store : Store) (baseUri : String) :
    compile t store baseUri = compileByRecursion t store baseUri := by
  cases hindex : t.indexRows with
  | error e => simp only [compile, compileByRecursion, hindex]
  | ok rows =>
    obtain ⟨ht, rfl⟩ := Table.indexRows_eq_ok.mp hindex
    have houtcome : (Source.run ⟨t, baseUri⟩ (.start t.nodeIds.zipIdx store)).outcome
        = Source.compileFirst ⟨t, baseUri⟩ store := Source.outcome_run ht
    simp only [compile, compileByRecursion, hindex]
    rw [← houtcome]
    generalize Source.run ⟨t, baseUri⟩ (.start t.nodeIds.zipIdx store) = r
    obtain ⟨result, final⟩ := r
    cases result with
    | ok root => rfl
    | error e => rfl

/-- The loop has the outcome of the recursion, with all that is settled by then: the same root and
the same branches in the same order, or the same fault. -/
theorem loop_eq_recursion {t : Table} {rows : List (String × Nat)} (h : t.indexRows = .ok rows)
    (store : Store) (baseUri : String) :
    (Source.run ⟨t, baseUri⟩ (.start rows store)).outcome
      = Source.compileFirst ⟨t, baseUri⟩ store ∧
    compile t store baseUri = compileByRecursion t store baseUri := by
  obtain ⟨ht, rfl⟩ := Table.indexRows_eq_ok.mp h
  exact ⟨Source.outcome_run ht, compile_eq_byRecursion t store baseUri⟩

/-- Of the faults of a table both come to that of the attribute first, when one branch has been
registered. -/
theorem loop_eq_recursion_faulty :
    Example.faulty.indexRows = .ok [("root", 0), ("high", 1), ("low", 2)] ∧
    (Source.run ⟨Example.faulty, ""⟩
        (.start [("root", 0), ("high", 1), ("low", 2)] Example.emptyStore)).outcome
      = Source.compileFirst ⟨Example.faulty, ""⟩ Example.emptyStore ∧
    (compileByRecursion Example.faulty Example.emptyStore "").tree.map (·.inferredType)
      = .error (.unknownAttribute "#rank" (some "high")) ∧
    (compileByRecursion Example.faulty Example.emptyStore "").branches.map (·.id) = ["low"] := by
  have hrows : Example.faulty.indexRows = .ok [("root", 0), ("high", 1), ("low", 2)] := by
    decide +kernel
  obtain ⟨houtcome, hcompile⟩ := loop_eq_recursion hrows Example.emptyStore ""
  rw [← hcompile]
  exact ⟨hrows, houtcome, by decide +kernel, by decide +kernel⟩

end DecisionTable
