/-!
# Attributes

An attribute is what a decision tests. Its shape says how many values a subject has for it and
whether these are data or name other subjects; each operator suits one shape.
-/

namespace DecisionTable

/-- How many values an attribute has for a subject. -/
inductive Cardinality where
  | single
  | multi
deriving DecidableEq, Repr

/-- What the values of an attribute are. -/
inductive Kind where
  | scalar
  | reference
deriving DecidableEq, Repr

/-- The cardinality and the kind of an attribute. -/
structure Shape where
  cardinality : Cardinality
  kind : Kind
deriving DecidableEq, Repr

/-- An attribute with its shape. -/
structure Attribute where
  /-- The name by which tables refer to the attribute. -/
  identifier : String
  cardinality : Cardinality := .single
  kind : Kind := .scalar
deriving DecidableEq, Repr

def Cardinality.text : Cardinality → String
  | .single => "single-valued"
  | .multi => "multi-valued"

def Kind.text : Kind → String
  | .scalar => "scalar"
  | .reference => "reference"

def Shape.text (s : Shape) : String :=
  s!"{s.cardinality.text} {s.kind.text}"

def Attribute.shape (a : Attribute) : Shape :=
  ⟨a.cardinality, a.kind⟩

end DecisionTable
