import DecisionTable.Pattern.Basic
import DecisionTable.Pattern.Token

/-!
# Settings of patterns

A pattern can turn settings on for the whole of it, and on and off within a group. The letters of
the settings stand in round brackets behind a question mark.
-/

namespace DecisionTable

namespace Pattern

/-- The settings that can be turned on within a pattern. -/
structure Settings where
  /-- Letters of different case are the same. -/
  ignoreCase : Bool := false
  /-- Anchors hold at lines as well. -/
  lines : Bool := false
  /-- The point stands for line breaks as well. -/
  pointAll : Bool := false
  /-- Blanks and comments may be written between items. -/
  spaced : Bool := false
  /-- The families of characters have members below U+0080 only. -/
  asciiOnly : Bool := false
  /-- The families of characters are asked for in full. -/
  unicode : Bool := false
  template : Bool := false
deriving Repr

def settingLetters : List Char :=
  ['i', 'L', 'm', 's', 'x', 'a', 't', 'u']

def Settings.turnOn (s : Settings) (letter : Char) : Settings :=
  match letter with
  | 'i' => { s with ignoreCase := true }
  | 'm' => { s with lines := true }
  | 's' => { s with pointAll := true }
  | 'x' => { s with spaced := true }
  | 'a' => { s with asciiOnly := true }
  | 'u' => { s with unicode := true }
  | 't' => { s with template := true }
  | _ => s

/-- Settings changed by letters to turn on and letters to turn off. The choice of the character
families replaces the earlier one. -/
def Settings.changed (s : Settings) (on off : List Char) : Settings :=
  let s := if on.contains 'a' then { s with asciiOnly := true }
    else if on.contains 'u' then { s with asciiOnly := false } else s
  { s with
    ignoreCase := (s.ignoreCase || on.contains 'i') && !off.contains 'i'
    lines := (s.lines || on.contains 'm') && !off.contains 'm'
    pointAll := (s.pointAll || on.contains 's') && !off.contains 's'
    spaced := (s.spaced || on.contains 'x') && !off.contains 'x' }

/-- How letters are compared under the settings. -/
def Settings.folding (s : Settings) : Folding :=
  if !s.ignoreCase then .exact else if s.asciiOnly then .ascii else .unicode

/-! ### Reading settings -/

/-- Reads the letters of settings to turn off, up to the colon. -/
def readOffLetters (on : List Char) :
    List Char → List Token → Except PatternFault (List Char × List Token)
  | off, .plain c :: ts =>
    if c == ':' && !off.isEmpty then
      if off.contains 't' || on.any off.contains then .error .invalid else .ok (off, ts)
    else if settingLetters.contains c && !(['a', 'u', 'L'].contains c) then
      readOffLetters on (c :: off) ts
    else .error .invalid
  | _, _ => .error .invalid

/-- What settings in round brackets apply to. -/
inductive Scope where
  | whole (on : List Char)
  | group (on off : List Char)

/-- Reads the letters of settings to turn on and what follows them. -/
def readSettings : List Char → List Token → Except PatternFault (Scope × List Token)
  | on, .plain c :: ts =>
    if c == ')' && !on.isEmpty then .ok (.whole on, ts)
    else if c == ':' && !on.isEmpty then
      if on.contains 't' then .error .invalid else .ok (.group on [], ts)
    else if c == '-' then
      if on.contains 't' then .error .invalid
      else (readOffLetters on [] ts).map fun (off, rest) => (.group on off, rest)
    else if !settingLetters.contains c || c == 'L' then .error .invalid
    else if (c == 'a' && on.contains 'u') || (c == 'u' && on.contains 'a') then .error .invalid
    else readSettings (c :: on) ts
  | _, _ => .error .invalid

end Pattern

end DecisionTable
