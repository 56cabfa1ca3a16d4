import DecisionTable.Number.Integer
import DecisionTable.Pattern.Part
import DecisionTable.Pattern.Settings

/-!
# Groups of patterns

While a pattern is read, its groups are numbered in the order in which they begin. A reference to a
group can stand where the group has ended, and a conditional can ask for any group of the pattern.
A condition on the preceding text refers to groups before it only.
-/

namespace DecisionTable

namespace Pattern

/-- What the reader knows of the pattern so far. -/
structure Progress where
  settings : Settings := {}
  /-- The number of groups that have begun. -/
  groups : Nat := 0
  /-- The widths of the groups that have ended. -/
  widths : List (Nat × Width) := []
  names : List (List Char × Nat) := []
  /-- Within a condition on the preceding text: the number of groups when it began. -/
  groupsBefore : Option Nat := none
  /-- The greatest group number that a conditional asks for. -/
  asked : Nat := 0
  /-- Whether a repetition has been read. -/
  repeats : Bool := false
  /-- Whether a fault has been found that only counts when all has been read. -/
  faulty : Bool := false
  /-- Whether a condition on the preceding text looks too far back. -/
  tooFarBack : Bool := false

/-- What is left when something has been read: the tokens that follow and the new state. -/
abbrev Rest := List Token × Progress

/-- Begins a group that is remembered; names are given once. -/
def beginGroup (st : Progress) (name : Option (List Char)) :
    Except PatternFault (Nat × Progress) :=
  let number := st.groups + 1
  match name with
  | none => .ok (number, { st with groups := number })
  | some id =>
    if (st.names.lookup id).isSome then .error .invalid
    else .ok (number, { st with groups := number, names := (id, number) :: st.names })

/-- The item that refers to a group which has ended. Inside a condition on the preceding text the
group has to have begun before the condition. -/
def referenceItem (s : Settings) (st : Progress) (number : Nat) : Except PatternFault Item :=
  match st.widths.lookup number with
  | none => .error .invalid
  | some w =>
    if st.groupsBefore.any (· < number) then .error .invalid
    else .ok (.single (.reference s.folding number) w)

/-- The group that the name or number of a conditional stands for. The number may be that of a group
to come. -/
def readGroupName (st : Progress) (name : List Char) : Except PatternFault Nat :=
  if Text.isIdentifier name then
    match st.names.lookup name with
    | some number => .ok number
    | none => .error .invalid
  else
    match readInteger (String.ofList name) with
    | .ok (.ofNat (n + 1)) => .ok (n + 1)
    | _ => .error .invalid

/-- The least length of the preceding text that is too far back for a condition. -/
def lookBehindLimit : Nat := Nat.pow 2 31

/-- The item of a condition on the following or the preceding text. The length of the preceding text
has to be fixed. -/
def lookItem (st : Progress) (behind positive : Bool) (parts : List Part) : Item × Progress :=
  let p := ofParts parts
  if behind then
    let w := widthOf parts
    (.single (.lookBehind w.low positive p) ⟨0, 0⟩,
      { st with
        faulty := st.faulty || w.low != w.high
        tooFarBack := st.tooFarBack || lookBehindLimit ≤ w.low })
  else (.single (.lookAhead positive p) ⟨0, 0⟩, st)

end Pattern

end DecisionTable
