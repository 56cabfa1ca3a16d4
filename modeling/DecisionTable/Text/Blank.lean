/-!
# Blank characters

A blank is a character with the Unicode property White_Space, or one of the four information
separators U+001C to U+001F. Cells, operator names and list operands are read without the blanks at
their ends.
-/

namespace DecisionTable.Text

/-- Whether the code point of a character lies in one of the closed ranges. -/
def inRanges (c : Char) (ranges : List (Nat × Nat)) : Bool :=
  ranges.any fun r => r.1 ≤ c.toNat && c.toNat ≤ r.2

/-- Closed ranges of the code points of blanks, ascending and apart. -/
def blankRanges : List (Nat × Nat) :=
  [(0x09, 0x0D), (0x1C, 0x20), (0x85, 0x85), (0xA0, 0xA0), (0x1680, 0x1680), (0x2000, 0x200A),
   (0x2028, 0x2029), (0x202F, 0x202F), (0x205F, 0x205F), (0x3000, 0x3000)]

/-- Whether a character counts as white space around a cell. -/
def isBlank (c : Char) : Bool :=
  inRanges c blankRanges

/-- The characters that are left when those satisfying `p` are taken from both ends. -/
def trimBoth (p : Char → Bool) (cs : List Char) : List Char :=
  ((cs.dropWhile p).reverse.dropWhile p).reverse

/-- The text without the blanks at its ends. -/
def strip (s : String) : String :=
  String.ofList (trimBoth isBlank s.toList)

/-- Whether nothing but blanks is written. -/
def isBlankText (s : String) : Bool :=
  s.toList.all isBlank

end DecisionTable.Text
