import DecisionTable.Example
import DecisionTable.Session.Basic
import DecisionTable.Tree.Analysis
import DecisionTable.Tree.Diagram
import DecisionTable.Tree.Export
import DecisionTable.Yaml.Write

/-!
# Demonstrations

Three jobs that show what the library does. The first one goes from a table file to outcomes, an
analysis and a diagram; the others draw the tree of grades in both ways and analyse it.
-/

namespace DecisionTable.Demo

open Job

/-- A line of the given character. -/
def rule (c : Char) : String :=
  String.ofList (List.replicate 80 c)

def doubleRule : String := rule '='

def singleRule : String := rule '-'

/-- A title between two lines. -/
def title (s : String) : List String :=
  [doubleRule, s, doubleRule]

def diagramFile (mode : DiagramMode) : String :=
  s!"tree_{mode.name}.dot"

def report (t : Tree) (table : Table) : Job Report :=
  lift .cell (t.analyze (some table))

/-- What is shown of a subject: its choice, or why it has none. -/
def choiceLine (s : Store) (choice : String) (failures : List (Subject × EvaluationError))
    (subject : Subject) : Job String :=
  match failures.lookup subject with
  | some e => return s!"   ✗ {subject.text}: {e.message}"
  | none => do
    let value := (s.get? subject choice).getD .null
    let text ← lift (.rule <| .value ·) value.shown
    return s!"   ✓ {subject.text}: {text}"

/-- Goes from a table file to outcomes, an analysis and a diagram. Without a file the table of
grades is written to one. -/
def pipeline (given : Option String) : Job String := do
  let _ ← configureLogging none none true
  let file := given.getD "example_tree.csv"
  if given.isNone then writeText file Example.gradingText
  let handle ← addStore (← lift .ofStore (Example.store []))
  let subjects := (Example.scores.map (·.1)).mergeSort fun a b => decide (a.text ≤ b.text)
  printLines (title "COMPLETE PIPELINE DEMO: CSV -> Tree -> Choices -> Analysis -> Diagram")
  printLine "\n1. COMPILING TREE..."
  let a ← prepare { action := { file := file }, store := handle }
  match a.action.ready with
  | none => throw .notInitialised
  | some (t, _) =>
    printLines [s!"   ✓ Root: {t.root.id}", s!"   ✓ Branches: {t.branches.length}",
      s!"   ✓ Outcome type: {t.inferredType.name}", "\n2. DECIDING..."]
    let failures ← runWith a subjects
    let s ← store handle
    subjects.forM fun subject => do
      printLine (← choiceLine s a.action.choiceAttribute failures subject)
    printLine "\n3. ANALYZING TREE..."
    let r ← report t (← loadTableFile file none)
    printLines [s!"   ✓ Max depth: {r.maxDepth}",
      s!"   ✓ Attributes: {Text.quotedList (sortTexts (r.attributeUsage.map (·.1)))}",
      s!"   ✓ Unreachable rows: {Text.quotedList r.unreachableRows}"]
    printLines (r.warnings.map fun warning => s!"      - {warning}")
    printLine "\n4. GENERATING DIAGRAM..."
    let diagram := t.diagram .detailed
    writeText (diagramFile .detailed) diagram
    printLines ["   ✓ Saved tree_detailed.dot", s!"\n{doubleRule}", "PIPELINE COMPLETE!",
      "\nTo visualize the diagram:", "  dot -Tpng tree_detailed.dot -o tree_detailed.png",
      doubleRule]
    return diagram

def grading : Job (Tree × Table) := do
  let table ← loadTable Example.gradingText none
  let handle ← addStore (← lift .ofStore (Example.store []))
  return (← compileTable table handle (some ""), table)

/-- Draws the tree of grades in both ways. -/
def diagrams : Job (List (String × String)) := do
  let (t, _) ← grading
  printLines (title "DOT GENERATOR DEMO")
  let drawn ← [DiagramMode.simple, .detailed].mapM fun mode => do
    let diagram := t.diagram mode
    let file := diagramFile mode
    let name := Text.toUpper mode.name
    printLines [s!"\n{name} MODE:", singleRule, diagram]
    writeText file diagram
    printLine s!"\nSaved to: {file}"
    return (file, diagram)
  printLines [s!"\n{doubleRule}", "To visualize the diagrams:",
    "  dot -Tpng tree_simple.dot -o tree_simple.png",
    "  dot -Tpng tree_detailed.dot -o tree_detailed.png", doubleRule]
  return drawn

def treeFile : String := "example_tree_output.yaml"

/-- Analyses the tree of grades and writes it to a file. -/
def analysis : Job Unit := do
  let (t, table) ← grading
  printLines (← report t table).lines
  writeText treeFile (Yaml.write t.toDocument)
  printLine s!"✅ Tree exported to {treeFile}"

end DecisionTable.Demo
