import DecisionTable.Text.Printable

/-!
# Quoted text

A text is quoted so that it shows on one line and its ends are plain: the quote is single, unless
the text holds a single quote and no double one. Inside, the quote and the backslash stand behind a
backslash, tab, newline and carriage return have their letters, and any other character that is not
printable is written by its code in two, four or eight hexadecimal digits.
-/

namespace DecisionTable.Text

/-- The lower-case hexadecimal digits of a number, with zeros in front up to the given width. -/
def hex (width n : Nat) : String :=
  let digits := Nat.toDigits 16 n
  String.ofList (List.replicate (width - digits.length) '0' ++ digits)

def quoteOf (cs : List Char) : Char :=
  if cs.contains '\'' && !cs.contains '"' then '"' else '\''

/-- How one character is written between the given quotes. -/
def quoteChar (quote c : Char) : List Char :=
  if c == quote || c == '\\' then ['\\', c]
  else if c == '\n' then ['\\', 'n']
  else if c == '\r' then ['\\', 'r']
  else if c == '\t' then ['\\', 't']
  else if isPrintable c then [c]
  else if c.toNat < 0x100 then '\\' :: 'x' :: (hex 2 c.toNat).toList
  else if c.toNat < 0x10000 then '\\' :: 'u' :: (hex 4 c.toNat).toList
  else '\\' :: 'U' :: (hex 8 c.toNat).toList

/-- The characters of a quoted text, quotes included. -/
def quotedChars (cs : List Char) : List Char :=
  let quote := quoteOf cs
  quote :: (cs.flatMap (quoteChar quote) ++ [quote])

def quoted (s : String) : String :=
  String.ofList (quotedChars s.toList)

/-- Texts joined by a comma and a space. -/
def commaSeparated (l : List String) : String :=
  ", ".intercalate l

/-- A list of texts, each of them quoted, in brackets. -/
def quotedList (l : List String) : String :=
  "[" ++ commaSeparated (l.map quoted) ++ "]"

/-- How one byte is written between the given quotes. -/
def quoteByte (quote : Char) (b : UInt8) : List Char :=
  if b.toNat < 0x80 then quoteChar quote (Char.ofNat b.toNat)
  else '\\' :: 'x' :: (hex 2 b.toNat).toList

/-- The quoted form of a byte string, marked by a `b` in front. -/
def quotedBytes (l : List UInt8) : String :=
  let quote := quoteOf (l.map fun b => Char.ofNat b.toNat)
  String.ofList ('b' :: quote :: (l.flatMap (quoteByte quote) ++ [quote]))

end DecisionTable.Text
