import DecisionTable.Compile.Error
import DecisionTable.CurrentValue
import DecisionTable.Operator.Decide

/-!
# Stores

A store knows attributes and keeps the values that subjects have for them. It is what the attributes
of a table are resolved against and what values are read from, and it remembers which attributes
have been resolved.

A multi-valued attribute is given a list; the store keeps the distinct items, the first of equal
ones.
-/

namespace DecisionTable

/-- A stored value: that of a subject for an attribute. -/
structure Entry where
  subject : Subject
  identifier : String
  value : Value

/-- A store of attributes and values. -/
structure Store where
  /-- The attributes, in the order in which they were defined. -/
  attributes : List Attribute := []
  entries : List Entry := []
  /-- The attributes that have been resolved. -/
  resolved : List String := []
  /-- The node, or the lack of one, that the store itself blames for unknown attributes. -/
  blames : Option String := none

/-- Why a store refuses a change. -/
inductive StoreFault where
  | unknown (identifier : String)
  | redefined (existing : Attribute)
  /-- The value does not suit the attribute. -/
  | value (f : ValueFault)
deriving DecidableEq, Repr

namespace Store

def attribute? (s : Store) (identifier : String) : Option Attribute :=
  s.attributes.find? (·.identifier == identifier)

/-- Defines an attribute. Defining it again changes nothing, unless the shape differs. -/
def define (s : Store) (a : Attribute) : Except StoreFault Store :=
  match s.attribute? a.identifier with
  | none => .ok { s with attributes := s.attributes ++ [a] }
  | some existing => if existing = a then .ok s else .error (.redefined existing)

/-- Resolves an attribute and remembers that it was resolved. -/
def resolve (s : Store) (identifier : String) : Except CompileError (Attribute × Store) :=
  match s.attribute? identifier with
  | none => .error (.unknownAttribute identifier s.blames)
  | some a =>
    .ok (a, if s.resolved.contains identifier then s
      else { s with resolved := s.resolved ++ [identifier] })

def get? (s : Store) (subject : Subject) (identifier : String) : Option Value :=
  (s.entries.find? fun e => e.subject == subject && e.identifier == identifier).map (·.value)

/-- The store without the value of a subject for an attribute. -/
def erase (s : Store) (subject : Subject) (identifier : String) : Store :=
  { s with
    entries := s.entries.filter fun e => !(e.subject == subject && e.identifier == identifier) }

def put (s : Store) (subject : Subject) (identifier : String) (value : Value) : Store :=
  { s with entries := ⟨subject, identifier, value⟩ :: (s.erase subject identifier).entries }

/-- A value as it is stored for an attribute. -/
def stored (a : Attribute) (value : Value) : Except ValueFault Value :=
  match a.cardinality with
  | .single => .ok value
  | .multi =>
    match value with
    | .text _ | .bytes _ => .error (.severalNeeded a.identifier)
    | _ => do .ok (.group (← Value.distinct (← value.items)))

/-- Sets the value of a subject for an attribute; the absent value removes it. -/
def set (s : Store) (subject : Subject) (identifier : String) (value : Value) :
    Except StoreFault Store :=
  match s.attribute? identifier with
  | none => .error (.unknown identifier)
  | some a =>
    match value with
    | .null => .ok (s.erase subject identifier)
    | _ => ((stored a value).mapError .value).map (s.put subject identifier)

/-- The store with the given attributes and values, which are put in one after the other. -/
def build (blames : Option String) (attributes : List Attribute) (values : List Entry) :
    Except StoreFault Store := do
  let s ← attributes.foldlM define { blames := blames }
  values.foldlM (fun s e => s.set e.subject e.identifier e.value) s

def subjects (s : Store) : List Subject :=
  (s.entries.map (·.subject)).eraseDups

def current (s : Store) (a : Attribute) (subject : Subject) :
    Except DecisionFailure CurrentValue :=
  match s.get? subject a.identifier with
  | none => .error (.rejected (.missingValue subject a.identifier))
  | some value => (CurrentValue.ofStored a value).mapError fun f => .broken (.value f)

end Store

end DecisionTable
