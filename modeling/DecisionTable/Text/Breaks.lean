import DecisionTable.Text.Alternatives

/-!
# Line breaks

A file of text is read line by line. A line ends with a newline, with a carriage return or with
both, and each of these is read as a newline.
-/

namespace DecisionTable.Text

/-- The characters with a newline for every line break. -/
def unifyBreaks : List Char → List Char
  | [] => []
  | '\r' :: '\n' :: rest => '\n' :: unifyBreaks rest
  | c :: rest => (if c == '\r' then '\n' else c) :: unifyBreaks rest

/-- The lines of a text, the last of which may be empty. -/
def lines (cs : List Char) : List (List Char) :=
  splitChars '\n' (unifyBreaks cs)

end DecisionTable.Text
