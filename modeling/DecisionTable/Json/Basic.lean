/-!
# JSON documents

A document keeps what its text says: the members of an object in their order, and a number as the
text it was written with, so that `1.50` stays apart from `1.5`.
-/

namespace DecisionTable

inductive Json where
  | null
  | bool (b : Bool)
  | number (text : String)
  /-- One of the number names that JSON itself does not have, by the text it stands for. -/
  | nonNumber (text : String)
  | string (s : String)
  | array (items : List Json)
  | object (members : List (String × Json))
deriving Inhabited

namespace Json

/-- Adds a member; a name that is present keeps its place and gets the new document. -/
def insertMember (members : List (String × Json)) (name : String) (value : Json) :
    List (String × Json) :=
  if members.any (·.1 == name) then
    members.map fun m => if m.1 == name then (name, value) else m
  else members ++ [(name, value)]

def get? (name : String) : Json → Option Json
  | object members => members.lookup name
  | _ => none

def ofInt (n : Int) : Json :=
  .number (toString n)

/-- The number of a natural number. -/
def ofNat (n : Nat) : Json :=
  .number (toString n)

/-- A text, or the absent value. -/
def ofText? : Option String → Json
  | some s => .string s
  | none => .null

def ofTexts (l : List String) : Json :=
  .array (l.map .string)

end Json

end DecisionTable
