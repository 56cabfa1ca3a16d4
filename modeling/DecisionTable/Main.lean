import DecisionTable.Session.Demo

/-!
# Command line

The command line runs the demonstrations. A table file is read before its demonstration begins, and
the files that it has written are saved when it has ended.
-/

namespace DecisionTable.CommandLine

/-- What is shown if the arguments are not understood. -/
def usage : String :=
  "usage: pipeline [TABLE] | diagrams | analysis"

/-- The job that the arguments ask for, and the files that it reads. -/
def request? : List String → Option (Job Unit × List String)
  | ["pipeline"] => some (discard (Demo.pipeline none), [])
  | ["pipeline", file] => some (discard (Demo.pipeline (some file)), [file])
  | ["diagrams"] => some (discard Demo.diagrams, [])
  | ["analysis"] => some (Demo.analysis, [])
  | _ => none

def environment : IO Environment := do
  return ⟨← IO.getEnv "TDTREE_LOG_LEVEL", ← IO.getEnv "TDTREE_BASE_URI",
    ← IO.getEnv "TDTREE_CSV_DELIMITER"⟩

def readFile? (name : String) : IO (Option (String × List UInt8)) := do
  try
    let content ← IO.FS.readBinFile name
    return some (name, content.toList)
  catch _ => return none

def perform (job : Job Unit) (reads : List String) : IO UInt32 := do
  let files ← reads.filterMapM readFile?
  let (result, last) := job.run { environment := ← environment, files }
  IO.print last.output
  for warning in last.warnings do IO.eprintln warning
  for (name, content) in last.files do
    if !reads.contains name then IO.FS.writeBinFile name ⟨content.toArray⟩
  match result with
  | .ok _ => return 0
  | .error failure =>
    IO.eprintln failure.message
    return 1

end DecisionTable.CommandLine

/-- Runs the demonstration that the arguments name. -/
def main (arguments : List String) : IO UInt32 :=
  match DecisionTable.CommandLine.request? arguments with
  | some (job, reads) => DecisionTable.CommandLine.perform job reads
  | none => do
    IO.eprintln DecisionTable.CommandLine.usage
    return 2
