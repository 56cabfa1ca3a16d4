import DecisionTable.Action.Basic
import DecisionTable.Log
import DecisionTable.Table.Csv
import DecisionTable.Text.Utf8

/-!
# Sessions

A session works on tables, trees, stores and actions that are kept by name, on files and on the
settings of an environment. Its jobs print lines, issue warnings and write logs, and a job that
fails keeps what it has done before. Stores and tables have places of their own, and names refer to
places: a tree and an action see what becomes of the store that they were made with, and a table
with two names is one table.
-/

namespace DecisionTable

inductive Failure where
  | compile (e : CompileError)
  /-- There is no outcome for a subject. -/
  | evaluation (e : EvaluationError)
  /-- A fault of a decision that is not put down to an operand, or of a value. -/
  | rule (f : RuleFault)
  | load (f : LoadFailure)
  /-- A cell cannot be looked up. -/
  | cell (f : CellFault)
  | redefined (existing : Attribute)
  | settings (f : SettingsFault)
  | unknownMode (name : String)
  /-- A tree without a store is evaluated. -/
  | noStore
  /-- A table file does not exist. -/
  | missingFile (name : String)
  | noFile (name : String)
  /-- A line of a log has one field only. -/
  | noSeparator
  | undecodable (f : Text.Utf8Fault)
  | notInitialised
  /-- Nothing is kept under a name. -/
  | noSuchName (name : String)
deriving DecidableEq, Repr, Inhabited

def Failure.message : Failure → String
  | compile e => e.message
  | evaluation e => e.message
  | rule f => f.message
  | load f => f.message
  | cell f => f.message
  | redefined existing =>
    s!"Attribute '{existing.identifier}' already defined as {existing.shape.text}"
  | settings f => f.message
  | unknownMode name => s!"{Text.quoted name} is not a valid DotMode"
  | noStore => "No attribute model to read subject values from"
  | missingFile name => s!"Tree table not found: {name}"
  | noFile name => s!"[Errno 2] No such file or directory: {Text.quoted name}"
  | noSeparator => "list index out of range"
  | undecodable f => f.message
  | notInitialised => "DecisionTreeAction.step() called before initialise()"
  | noSuchName name => name

def Failure.ofStore : StoreFault → Failure
  | .unknown identifier => .compile (.unknownAttribute identifier none)
  | .redefined existing => .redefined existing
  | .value f => .rule (.value f)

def Failure.ofDecision : DecisionFailure → Failure
  | .rejected e => .evaluation e
  | .broken f => .rule f

def Failure.ofStep : StepFault → Failure
  | .notInitialised => .notInitialised
  | .decision f => .ofDecision f
  | .outcome f => .rule (.value f)
  | .store f => .ofStore f

abbrev StoreHandle := Nat

abbrev TableHandle := Nat

/-- A tree that is kept, with the store that its attributes were resolved against. -/
structure KeptTree where
  tree : Tree
  store : Option StoreHandle

/-- An action that is kept. -/
structure KeptAction where
  action : Action
  store : StoreHandle

/-- The state of a session. -/
structure Workspace where
  environment : Environment := {}
  /-- The stores. The first one is there from the beginning. -/
  stores : List Store := [{}]
  models : List (String × StoreHandle) := [("m", 0)]
  tables : List Table := []
  tableNames : List (String × TableHandle) := []
  trees : List (String × KeptTree) := []
  actions : List (String × KeptAction) := []
  files : List (String × List UInt8) := []
  logging : Option LogSetup := none
  /-- The time of log lines; a session has no clock of its own. -/
  time : String := "2001-02-03 04:05:06,789"
  output : String := ""
  warnings : List String := []

/-- A job of a session. -/
abbrev Job (α : Type) := ExceptT Failure (StateM Workspace) α

/-- Keeps something under a name in place of what was kept there. -/
def keep {α : Type} (name : String) (a : α) (l : List (String × α)) : List (String × α) :=
  (name, a) :: l.filter (·.1 != name)

namespace Job

def printLine (s : String) : Job Unit :=
  modify fun w => { w with output := w.output ++ s ++ "\n" }

def printLines (l : List String) : Job Unit :=
  l.forM printLine

/-! ### Files -/

def writeFile (name : String) (content : List UInt8) : Job Unit :=
  modify fun w => { w with files := keep name content w.files }

def writeText (name : String) (content : String) : Job Unit :=
  writeFile name (Text.toUtf8 content)

/-- Adds to the end of a text file, which is made if it does not exist. -/
def appendText (name : String) (content : String) : Job Unit := do
  let before := ((← get).files.lookup name).getD []
  writeFile name (before ++ Text.toUtf8 content)

def log (lines : List LogLine) : Job Unit := do
  let w ← get
  if let some setup := w.logging then
    let admitted := lines.filter fun line => setup.admits line.level
    if let some file := setup.file then
      appendText file (String.join (admitted.map fun line => line.timed w.time ++ "\n"))
    if setup.console then printLines (admitted.map LogLine.text)

/-- What a lookup finds, or a failure. -/
def find {α : Type} (name : String) (found : Option α) : Job α :=
  match found with
  | some a => pure a
  | none => throw (.noSuchName name)

/-- The result of a computation that can fail. -/
def lift {ε α : Type} (failure : ε → Failure) (r : Except ε α) : Job α :=
  match r with
  | .ok a => pure a
  | .error e => throw (failure e)

/-! ### Stores -/

def addStore (s : Store) : Job StoreHandle :=
  modifyGet fun w => (w.stores.length, { w with stores := w.stores ++ [s] })

def store (h : StoreHandle) : Job Store := do
  return (← get).stores.getD h {}

def setStore (h : StoreHandle) (s : Store) : Job Unit :=
  modify fun w => { w with stores := w.stores.set h s }

def model (name : String) : Job StoreHandle := do
  find name ((← get).models.lookup name)

def nameModel (name : String) (h : StoreHandle) : Job Unit :=
  modify fun w => { w with models := keep name h w.models }

def define (h : StoreHandle) (a : Attribute) : Job Unit := do
  setStore h (← lift .ofStore ((← store h).define a))

def resolve (h : StoreHandle) (identifier : String) : Job Attribute := do
  let (a, s) ← lift .compile ((← store h).resolve identifier)
  setStore h s
  return a

def setValue (h : StoreHandle) (subject : Subject) (identifier : String) (value : Value) :
    Job Unit := do
  setStore h (← lift .ofStore ((← store h).set subject identifier value))

/-- The stored value of a subject for an attribute; without one, the absent value. -/
def storedValue (h : StoreHandle) (subject : Subject) (identifier : String) : Job Value := do
  return ((← store h).get? subject identifier).getD .null

def readText (name : String) : Job String := do
  match (← get).files.lookup name with
  | none => throw (.noFile name)
  | some bytes => lift .undecodable (Text.ofUtf8 bytes)

/-- The text of a file with a newline for every line break. -/
def readLines (name : String) : Job String := do
  return String.ofList (Text.unifyBreaks (← readText name).toList)

/-- The lines of a log file, without their times. -/
def readLog (name : String) : Job (List String) := do
  match logLines? (← readText name) with
  | some lines => return lines
  | none => throw .noSeparator

/-! ### Settings -/

def settings : Job Settings := do
  lift .settings (← get).environment.settings

/-- Sets logging up. Nothing of an earlier setup remains, and the file exists from then on. -/
def configureLogging (level : Option String) (file : Option String) (console : Bool) :
    Job LogSetup := do
  let name ← lift .settings ((← get).environment.levelNameFor level)
  let setup := ⟨← lift .settings (levelWeight name), console, file⟩
  modify fun w => { w with logging := some setup }
  if let some f := file then appendText f ""
  return setup

/-! ### Tables -/

def addTable (t : Table) : Job TableHandle :=
  modifyGet fun w => (w.tables.length, { w with tables := w.tables ++ [t] })

def tablePlace (name : String) : Job TableHandle := do
  find name ((← get).tableNames.lookup name)

def nameTable (name : String) (h : TableHandle) : Job Unit :=
  modify fun w => { w with tableNames := keep name h w.tableNames }

def table (name : String) : Job Table := do
  find name ((← get).tables[← tablePlace name]?)

def setCell (name : String) (row index : Int) (text : String) : Job Unit := do
  let h ← tablePlace name
  let t ← lift .cell ((← table name).setCell row index text)
  modify fun w => { w with tables := w.tables.set h t }

def loadTable (text : String) (delimiter : Option String) : Job Table := do
  let c ← lift .settings ((← get).environment.delimiterFor delimiter)
  let loaded := Csv.load c text
  modify fun w => { w with
    warnings := w.warnings ++ loaded.skipped.map fun n => s!"Skipping blank line {n}" }
  lift .load loaded.result

def loadTableFile (name : String) (delimiter : Option String) : Job Table := do
  if ((← get).files.lookup name).isNone then throw (.missingFile name)
  loadTable (← readText name) delimiter

/-! ### Trees -/

def tree (name : String) : Job KeptTree := do
  find name ((← get).trees.lookup name)

def keepTree (name : String) (t : KeptTree) : Job Unit :=
  modify fun w => { w with trees := keep name t w.trees }

def compileLog (r : CompileResult) : List LogLine :=
  let origin := "tdtree.compiler"
  (r.branches.map fun b => ⟨.debug, origin, s!"Compiled node {b.id}: {b.decision.text}"⟩)
    ++ match r.tree with
      | .ok t => [⟨.info, origin,
          s!"Compiled decision tree: {t.branches.length} branch node(s), root {t.root.id}, "
            ++ s!"type {t.inferredType.name}"⟩]
      | .error _ => []

/-- Compiles a table against a store. -/
def compileTable (t : Table) (h : StoreHandle) (baseUri : Option String) : Job Tree := do
  let base ← lift .settings ((← get).environment.baseUriFor baseUri)
  let r := compile t (← store h) base
  setStore h r.store
  log (compileLog r)
  lift .compile r.tree

def decisionLog (t : Tree) (s : Store) (subject : Subject) : List LogLine :=
  (t.root.decisions s subject).map fun d =>
    let outcome := if d.held then "True" else "False"
    ⟨.debug, "tdtree.evaluator",
      s!"{subject.text}: node {d.node} [{d.decision.text}] -> {outcome}"⟩

/-- The store that a tree is evaluated with: the given one, or its own. -/
def storeFor (t : KeptTree) (given : Option StoreHandle) : Job Store :=
  match given.or t.store with
  | some h => store h
  | none => throw .noStore

def evaluate (t : KeptTree) (subject : Subject) (given : Option StoreHandle) :
    Job TypedLiteral := do
  let s ← storeFor t given
  log (decisionLog t.tree s subject)
  lift .ofDecision (t.tree.evaluate s subject)

/-- What the log says of the evaluation of several subjects, up to a fault that ends it. -/
def evaluationLog (t : Tree) (s : Store) : List Subject → List LogLine
  | [] => []
  | subject :: rest =>
    decisionLog t s subject ++ match t.verdict s subject with
      | .error _ => []
      | .ok (.ok _) => evaluationLog t s rest
      | .ok (.error e) =>
        ⟨.warning, "tdtree.evaluator", s!"Evaluation failed for {subject.text}: {e.message}"⟩
          :: evaluationLog t s rest

def evaluateMany (t : KeptTree) (subjects : List Subject) (given : Option StoreHandle) :
    Job (List (Subject × Verdict)) := do
  if subjects.isEmpty then return []
  let s ← storeFor t given
  log (evaluationLog t.tree s subjects)
  lift .rule (t.tree.evaluateMany s subjects)

/-! ### Actions -/

def action (name : String) : Job KeptAction := do
  find name ((← get).actions.lookup name)

def keepAction (name : String) (a : KeptAction) : Job Unit :=
  modify fun w => { w with actions := keep name a w.actions }

/-- Loads and compiles the tree of an action. A table that cannot be loaded or compiled is noted in
the log. -/
def loadActionTree (a : KeptAction) : Job Tree :=
  tryCatch
    (do compileTable (← loadTableFile a.action.file a.action.delimiter) a.store a.action.baseUri)
    fun failure => do
      match failure with
      | .load (.rejected _) | .compile _ =>
        log [⟨.error, "tdtree.action",
          s!"Reading decision tree CSV file {a.action.file}: {failure.message}"⟩]
      | _ => pure ()
      throw failure

/-- Makes an action ready: the attribute of its outcomes is resolved, and its tree is loaded. -/
def prepare (a : KeptAction) : Job KeptAction := do
  let choice ← resolve a.store a.action.choiceAttribute
  if choice.cardinality = .multi then
    throw (.compile (.choiceNotSingle a.action.choiceAttribute))
  let t ← loadActionTree a
  return { a with action := { a.action with ready := some (t, choice) } }

def stepWith (a : KeptAction) (subject : Subject) : Job TypedLiteral := do
  let s ← store a.store
  if let some (t, _) := a.action.ready then log (decisionLog t s subject)
  let (l, s) ← lift .ofStep (a.action.step s subject)
  setStore a.store s
  return l

/-- What the log says of a run of an action, up to a fault that ends it. -/
def runLog (a : Action) (s : Store) : List Subject → List LogLine
  | [] => []
  | subject :: rest =>
    (match a.ready with
      | some (t, _) => decisionLog t s subject
      | none => []) ++ match a.step s subject with
      | .ok (_, s) => runLog a s rest
      | .error (.decision (.rejected e)) =>
        ⟨.warning, "tdtree.action", s!"Skipping {subject.text}: {e.message}"⟩ :: runLog a s rest
      | .error _ => []

/-- Lets an action decide for several subjects. -/
def runWith (a : KeptAction) (subjects : List Subject) :
    Job (List (Subject × EvaluationError)) := do
  let s ← store a.store
  log (runLog a.action s subjects)
  let (s, result) := a.action.run s [] subjects
  setStore a.store s
  lift .ofStep result

/-- Initialises the action of a name. If that fails, the action stays as it is. -/
def initialise (name : String) : Job KeptAction := do
  let a ← prepare (← action name)
  keepAction name a
  return a

def stepAction (name : String) (subject : Subject) : Job TypedLiteral := do
  stepWith (← action name) subject

/-- Lets the action of a name decide for several subjects. -/
def runAction (name : String) (subjects : List Subject) :
    Job (List (Subject × EvaluationError)) := do
  runWith (← action name) subjects

end Job

end DecisionTable
