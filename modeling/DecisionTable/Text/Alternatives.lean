/-!
# Lists in one text

A text can list several texts with a separator between them. A text without the separator lists
itself, also if it is empty.
-/

namespace DecisionTable.Text

/-- The runs of characters between separators; there is one more of them than there are separators.
-/
def splitChars (separator : Char) (cs : List Char) : List (List Char) :=
  cs.foldr
    (fun c pieces => if c == separator then [] :: pieces else
      match pieces with
      | piece :: rest => (c :: piece) :: rest
      | [] => [[c]])
    [[]]

def splitAt (separator : Char) (s : String) : List String :=
  (splitChars separator s.toList).map String.ofList

def alternativeMark : Char := '|'

def alternatives (operand : String) : List String :=
  splitAt alternativeMark operand

end DecisionTable.Text
