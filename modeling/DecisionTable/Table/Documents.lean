import DecisionTable.Table.Records
import DecisionTable.Yaml.Node
import DecisionTable.Yaml.Write

/-!
# Tables in documents

A table is written as a list of objects, in JSON or in YAML, and read from such a list. What is
proved of tables and their texts is proved of JSON; YAML is read and written by definitions that no
theorem rests on.
-/

namespace DecisionTable.Table

def toJson (t : Table) : String :=
  t.toDocument.print

def ofJson (s : String) : Except TableError Table := do
  ofDocument (← (Json.parse s).mapError .invalidJson)

def toYaml (t : Table) : String :=
  Yaml.write t.toDocument

def ofYaml (s : String) : Except LoadFailure Table :=
  match Yaml.read s with
  | .ok document => (ofDocument document).mapError .rejected
  | .error .malformed => .error (.rejected .invalidYaml)
  | .error (.number f) => .error (.number f)

end DecisionTable.Table
