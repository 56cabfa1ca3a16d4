import DecisionTable.Action.Basic
import DecisionTable.Attribute
import DecisionTable.Compile.Basic
import DecisionTable.Compile.Error
import DecisionTable.Compile.Rows
import DecisionTable.CurrentValue
import DecisionTable.Example
import DecisionTable.Json.Basic
import DecisionTable.Json.Parse
import DecisionTable.Json.Print
import DecisionTable.Literal.Agreement
import DecisionTable.Literal.Basic
import DecisionTable.Log
import DecisionTable.Main
import DecisionTable.Number.Binary64
import DecisionTable.Number.Decimal
import DecisionTable.Number.Integer
import DecisionTable.Operator.Basic
import DecisionTable.Operator.Decide
import DecisionTable.Pattern.Basic
import DecisionTable.Pattern.Escape
import DecisionTable.Pattern.Match
import DecisionTable.Pattern.Parse
import DecisionTable.Pattern.Part
import DecisionTable.Pattern.Progress
import DecisionTable.Pattern.Settings
import DecisionTable.Pattern.Token
import DecisionTable.Proofs.Compile.Acceptance
import DecisionTable.Proofs.Compile.Blame
import DecisionTable.Proofs.Compile.Invariant
import DecisionTable.Proofs.Compile.Layout
import DecisionTable.Proofs.Compile.Lockstep
import DecisionTable.Proofs.Compile.Move
import DecisionTable.Proofs.Compile.Outcome
import DecisionTable.Proofs.Compile.Preservation
import DecisionTable.Proofs.Compile.Reading
import DecisionTable.Proofs.Compile.Recursion
import DecisionTable.Proofs.Compile.Reload
import DecisionTable.Proofs.Compile.RoundTrip
import DecisionTable.Proofs.Compile.Shape
import DecisionTable.Proofs.Compile.State
import DecisionTable.Proofs.Json.Document
import DecisionTable.Proofs.Json.Sorted
import DecisionTable.Proofs.Json.Text
import DecisionTable.Proofs.Literal.Cell
import DecisionTable.Proofs.Operator.Fault
import DecisionTable.Proofs.Operator.Spelling
import DecisionTable.Proofs.Store.Calls
import DecisionTable.Proofs.Store.History
import DecisionTable.Proofs.Store.Reached
import DecisionTable.Proofs.Table.Graph
import DecisionTable.Proofs.Table.Index
import DecisionTable.Proofs.Table.Layout
import DecisionTable.Proofs.Table.Path
import DecisionTable.Proofs.Table.Records
import DecisionTable.Proofs.Table.Reload
import DecisionTable.Proofs.Tree.Arrival
import DecisionTable.Proofs.Tree.Batch
import DecisionTable.Proofs.Tree.Bisimulation
import DecisionTable.Proofs.Tree.Decision
import DecisionTable.Proofs.Tree.Equality
import DecisionTable.Proofs.Tree.Export
import DecisionTable.Proofs.Tree.ShapeCheck
import DecisionTable.Proofs.Tree.Walk
import DecisionTable.Proofs.Value.Distinct
import DecisionTable.Proofs.Value.Equality
import DecisionTable.Proofs.Value.Fault
import DecisionTable.Session.Basic
import DecisionTable.Session.Demo
import DecisionTable.Settings
import DecisionTable.Store
import DecisionTable.Subject
import DecisionTable.Table.Basic
import DecisionTable.Table.Csv
import DecisionTable.Table.Documents
import DecisionTable.Table.Records
import DecisionTable.Table.Reference
import DecisionTable.Text.Alternatives
import DecisionTable.Text.Blank
import DecisionTable.Text.Breaks
import DecisionTable.Text.Case
import DecisionTable.Text.DecimalDigit
import DecisionTable.Text.Identifier
import DecisionTable.Text.Printable
import DecisionTable.Text.Quoted
import DecisionTable.Text.Utf8
import DecisionTable.Text.WordCharacter
import DecisionTable.Tree.Analysis
import DecisionTable.Tree.Basic
import DecisionTable.Tree.Depth
import DecisionTable.Tree.Diagram
import DecisionTable.Tree.Equality
import DecisionTable.Tree.Evaluation
import DecisionTable.Tree.Export
import DecisionTable.Tree.Walk
import DecisionTable.Value.Basic
import DecisionTable.Value.Order
import DecisionTable.Value.Read
import DecisionTable.Yaml.Cursor
import DecisionTable.Yaml.Fault
import DecisionTable.Yaml.Node
import DecisionTable.Yaml.Scalar
import DecisionTable.Yaml.Style
import DecisionTable.Yaml.Token
import DecisionTable.Yaml.Write
import DecisionTable.Proofs.Action.Step
import DecisionTable.Proofs.Action.Run
import DecisionTable.Proofs.Action.Independent
import DecisionTable.Proofs.Diagram.Depiction
import DecisionTable.Proofs.Operator.Several
import DecisionTable.Proofs.Compile.Stack
import DecisionTable.Proofs.Compile.Cycle
import DecisionTable.Proofs.Compile.Turns
import DecisionTable.Proofs.Value.Comparison
import DecisionTable.Proofs.Operator.Membership
import DecisionTable.Proofs.Session.Apart
import DecisionTable.Proofs.Session.Preparation
import DecisionTable.Proofs.Action.Calls
import DecisionTable.Proofs.Action.LifeCycle
import DecisionTable.Proofs.Operator.Complement
import DecisionTable.Proofs.Loop
import DecisionTable.Proofs.Tree.Path
import DecisionTable.Proofs.Tree.Preorder
import DecisionTable.Proofs.Compile.Cells
import DecisionTable.Proofs.Names
import DecisionTable.Proofs.Tree.Height
import DecisionTable.Proofs.Tree.Depth
import DecisionTable.Proofs.Tree.Report
import DecisionTable.Proofs.Text.Split
import DecisionTable.Proofs.Text.Digit
import DecisionTable.Proofs.Table.Delimited
import DecisionTable.Proofs.Session.Loading
import DecisionTable.Proofs.Literal.Numeral
import DecisionTable.Proofs.Literal.Conversion
import DecisionTable.Proofs.Table.Written
import DecisionTable.Proofs.Compile.FirstRow
import DecisionTable.Proofs.Action.LeafFile
import DecisionTable.Proofs.Action.Outcomes
import DecisionTable.Proofs.Literal.Grammar
import DecisionTable.Proofs.Action.Atomic
import DecisionTable.Proofs.Compile.Usage
import DecisionTable.Proofs.Tree.Relabel
import DecisionTable.Proofs.Compile.Rebase
import DecisionTable.Proofs.Operator.Alternatives
import DecisionTable.Proofs.Literal.Canonical
import DecisionTable.Proofs.Diagram.Quoted
import DecisionTable.Proofs.Operator.Integer
import DecisionTable.Proofs.Table.Chain
import DecisionTable.Proofs.Compile.Chain
import DecisionTable.Proofs.Tree.Chain
