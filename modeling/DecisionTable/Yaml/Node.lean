import DecisionTable.Yaml.Token

/-!
# Reading YAML

A text is read as one document of scalars, lists and named parts. Every scalar stays the text that
it was written as, whatever its tag, and the names of parts have to be scalars. A node can be given
a name, and then stands wherever that name is recalled.

Of several faults the first one counts. Tokens are asked for one at a time, so a fault behind a
token only counts if the tokens up to it make sense. Names of parts that are not scalars and nodes
within themselves are only found when the whole text has been read.

The reader stands for a general one of YAML, and no theorem rests on it: what is proved of a table
from a document holds for every document, however it was read.
-/

namespace DecisionTable.Yaml

/-- What is left to be read of a document, and what has been named in it. -/
structure Remainder where
  tokens : Tokens
  /-- The tag handles that can be used. -/
  handles : List String := ["!", "!!"]
  /-- The nodes that have names; a node that is not complete is missing. -/
  named : List (String × Option Json) := []
  /-- Whether a node has been found that cannot stand where it stands. -/
  misplaced : Bool := false

/-- Reads a part of a document. -/
abbrev Reader := StateT Remainder (Except Fault)

namespace Reader

def fail {α : Type} : Reader α :=
  throw .malformed

/-- The next token, unless the text has ended. -/
def peek : Reader (Option Token) := do
  let tokens := (← get).tokens
  match tokens.front, tokens.fault with
  | t :: _, _ => return some t
  | [], some f => throw f
  | [], none => return none

/-- Passes the next token by. -/
def skip : Reader Unit :=
  modify fun r => { r with tokens := { r.tokens with front := r.tokens.front.tail } }

/-- Passes the next token by if it is the given one, and tells whether it was. -/
def accept (t : Token) : Reader Bool := do
  if (← peek) == some t then
    skip
    return true
  else return false

def expect (t : Token) : Reader Unit := do
  if !(← accept t) then fail

/-- Whether the next token is one of the given ones. -/
def isBefore (l : List Token) : Reader Bool := do
  match ← peek with
  | some t => return l.contains t
  | none => return false

/-! ### Properties of nodes -/

/-- The name before a node. -/
def anchor? : Reader (Option String) := do
  match ← peek with
  | some (.anchor name) =>
    skip
    return some name
  | _ => return none

/-- The tag before a node, by its handle if it has one. -/
def tag? : Reader (Option (Option String)) := do
  match ← peek with
  | some (.tag handle) =>
    skip
    return some handle
  | _ => return none

/-- The name before a node, and whether there is a tag. They stand in either order, and the handle
of the tag has to be known. -/
def properties : Reader (Option String × Bool) := do
  let before ← anchor?
  let tag ← tag?
  let name := before.or (← if before.isNone && tag.isSome then anchor? else pure none)
  let known := (← get).handles
  if tag.join.any fun handle => !known.contains handle then fail
  return (name, tag.isSome)

/-- Makes a name known before its node is read. -/
def declareName (name : String) : Reader Unit := do
  if (← get).named.any (·.1 == name) then fail
  modify fun r => { r with named := (name, none) :: r.named }

def bindName (name : String) (j : Json) : Reader Unit :=
  modify fun r => { r with named := (name, some j) :: r.named.filter (·.1 != name) }

/-- Notes that a node cannot stand where it stands. -/
def misplace : Reader Unit :=
  modify fun r => { r with misplaced := true }

/-- The node of a name, which may not be within that node. -/
def namedNode (name : String) : Reader Json := do
  match (← get).named.lookup name with
  | some (some j) => return j
  | some none =>
    misplace
    return .null
  | none => fail

/-- The name of a part: a node that is a scalar. -/
def asName : Json → Reader String
  | .string s => return s
  | _ => do
    misplace
    return ""

/-! ### Nodes -/

/-- The kinds of nodes that can stand at a place. -/
inductive Place where
  | flow
  | block
  /-- After a key or colon, where the entries of a list need not be indented. -/
  | part
deriving DecidableEq

mutual

def node (place : Place) : Nat → Reader Json
  | 0 => fail
  | fuel + 1 => do
    match ← peek with
    | some (.reference name) =>
      skip
      namedNode name
    | _ =>
      let (name, tagged) ← properties
      let _ ← peek
      if let some name := name then declareName name
      let j ← content place (tagged || name.isSome) fuel
      if let some name := name then bindName name j
      return j

/-- A node without its properties; it may be empty if it has some. -/
def content (place : Place) (hasProperties : Bool) : Nat → Reader Json
  | 0 => fail
  | fuel + 1 => do
    match ← peek with
    | some (.scalar s) =>
      skip
      return .string s
    | some .squareOpen =>
      skip
      flowItems true [] fuel
    | some .braceOpen =>
      skip
      flowMembers true [] fuel
    | t =>
      if t == some .entry && place == .part then entries false [] fuel
      else if t == some .sequenceStart && place != .flow then
        skip
        entries true [] fuel
      else if t == some .mappingStart && place != .flow then
        skip
        members [] fuel
      else if hasProperties then return .string ""
      else fail

/-- The entries of a list, which is a block of its own unless it is not indented. -/
def entries (closed : Bool) (done : List Json) : Nat → Reader Json
  | 0 => fail
  | fuel + 1 => do
    if ← accept .entry then
      let ends : List Token :=
        if closed then [.entry, .blockEnd] else [.entry, .key, .value, .blockEnd]
      let item ← nodeUnless ends .block fuel
      entries closed (item :: done) fuel
    else
      if closed then expect .blockEnd
      return .array done.reverse

/-- The named parts of a block. -/
def members (done : List (String × Json)) : Nat → Reader Json
  | 0 => fail
  | fuel + 1 => do
    let ends : List Token := [.key, .value, .blockEnd]
    if ← accept .key then
      let name ← asName (← nodeUnless ends .part fuel)
      let j ← if ← accept .value then nodeUnless ends .part fuel else pure (.string "")
      members (Json.insertMember done name j) fuel
    else
      expect .blockEnd
      return .object done

/-- The items of a list in brackets. A key makes an item with one named part. -/
def flowItems (first : Bool) (done : List Json) : Nat → Reader Json
  | 0 => fail
  | fuel + 1 => do
    if ← accept .squareClose then return .array done.reverse
    if !first then expect .comma
    if ← accept .squareClose then return .array done.reverse
    let item ←
      if ← accept .key then do
        let (name, j) ← flowMember .squareClose fuel
        pure (.object [(name, j)])
      else node .flow fuel
    flowItems false (item :: done) fuel

/-- The named parts in braces. A part without a colon is empty. -/
def flowMembers (first : Bool) (done : List (String × Json)) : Nat → Reader Json
  | 0 => fail
  | fuel + 1 => do
    if ← accept .braceClose then return .object done
    if !first then expect .comma
    if ← accept .braceClose then return .object done
    let (name, j) ←
      if ← accept .key then flowMember .braceClose fuel
      else do pure (← asName (← node .flow fuel), .string "")
    flowMembers false (Json.insertMember done name j) fuel

/-- A key and a value in brackets that the given token closes. -/
def flowMember (close : Token) : Nat → Reader (String × Json)
  | 0 => fail
  | fuel + 1 => do
    let name ← asName (← nodeUnless [.value, .comma, close] .flow fuel)
    let j ← if ← accept .value then nodeUnless [.comma, close] .flow fuel else pure (.string "")
    return (name, j)

/-- A node, or an empty scalar if one of the given tokens is next. -/
def nodeUnless (ends : List Token) (place : Place) : Nat → Reader Json
  | 0 => fail
  | fuel + 1 => do
    if ← isBefore ends then return .string "" else node place fuel

end

/-! ### Documents -/

/-- Reads the directives before a document. There is one version at most, whose first number is one,
and a handle is defined once. The result is the handles. -/
def directives (version : Bool) (handles : List String) : Nat → Reader (List String)
  | 0 => fail
  | fuel + 1 => do
    match ← peek with
    | some (.versionDirective major) =>
      skip
      if version || major != 1 then fail
      directives true handles fuel
    | some (.handleDirective name) =>
      skip
      if handles.contains name then fail
      directives version (name :: handles) fuel
    | some .otherDirective =>
      skip
      directives version handles fuel
    | _ => return handles

/-- A number that bounds how deep and how far the tokens can be read. -/
def bound : Reader Nat := do
  return 8 * (← get).tokens.front.length + 8

/-- The document of a text without directives and markers. -/
def bare : Reader Json := do
  node .block (← bound)

/-- Reads the directives before a document and its marker. -/
def opening : Reader Unit := do
  let handles ← directives false [] (← bound)
  expect .documentStart
  modify fun r => { r with handles := handles ++ r.handles }

/-- A document behind its directives and its marker; it can be empty. -/
def marked : Reader Json := do
  opening
  match ← peek with
  | none | some .documentStart | some .documentEnd | some (.versionDirective _)
  | some (.handleDirective _) | some .otherDirective => return .string ""
  | _ => bare

/-- Passes by the markers at the end of a document. -/
def closing : Nat → Reader Unit
  | 0 => fail
  | fuel + 1 => do
    if ← accept .documentEnd then closing fuel

/-- The only document; a text without tokens has none. -/
def document : Reader Json := do
  match ← peek with
  | none => return .null
  | some .documentStart | some (.versionDirective _) | some (.handleDirective _)
  | some .otherDirective => marked
  | some _ => bare

/-- The only document, behind which nothing else may begin. -/
def only : Reader Json := do
  let j ← document
  closing (← bound)
  if (← peek).isSome then
    opening
    fail
  if (← get).misplaced then fail
  return j

end Reader

/-- Reads the document that a text holds. -/
def read (s : String) : Except Fault Json :=
  Reader.only.run' { tokens := .ofText s }

end DecisionTable.Yaml
