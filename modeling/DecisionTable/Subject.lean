/-!
# Subjects

A subject is what outcomes are decided for. It is known by a name or by a number; the name `1` and
the number 1 are two subjects.
-/

namespace DecisionTable

inductive Subject where
  | named (name : String)
  | numbered (number : Int)
deriving DecidableEq, Repr

/-- The name of a subject, or the digits of its number. -/
def Subject.text : Subject → String
  | named name => name
  | numbered number => toString number

end DecisionTable
