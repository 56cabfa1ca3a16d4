import DecisionTable.Text.Case
import DecisionTable.Text.Quoted

/-!
# Settings

Settings come from environment variables: the level of the log, the base URI of outcomes and the
delimiter of table files. What is given explicitly goes before them.
-/

namespace DecisionTable

/-- The environment variables that settings come from. -/
structure Environment where
  /-- The level of the log, `TDTREE_LOG_LEVEL`. -/
  logLevel : Option String := none
  baseUri : Option String := none
  /-- The delimiter of table files, `TDTREE_CSV_DELIMITER`. -/
  delimiter : Option String := none
deriving Repr

structure Settings where
  /-- The level of the log, in upper case. -/
  logLevel : String
  baseUri : String
  delimiter : Char
deriving Repr

/-- Why there are no settings, or no delimiter. -/
inductive SettingsFault where
  /-- The delimiter of the environment is not one character. -/
  | badDelimiter (text : String)
  /-- The delimiter that was given is not one character. -/
  | longDelimiter
  | levelIsText (text : String)
  /-- The name of a level stands for something else that is no level. -/
  | levelIsOther (text : String)
deriving DecidableEq, Repr

def SettingsFault.message : SettingsFault → String
  | badDelimiter text =>
    s!"TDTREE_CSV_DELIMITER must be a single character, got {Text.quoted text}"
  | longDelimiter => "\"delimiter\" must be a 1-character string"
  | levelIsText text => s!"Unknown level: {Text.quoted text}"
  | levelIsOther text => s!"Level not an integer or a valid string: {text}"

namespace Environment

def settings (e : Environment) : Except SettingsFault Settings :=
  let delimiter := e.delimiter.getD ","
  match delimiter.toList with
  | [c] => .ok ⟨Text.toUpper (e.logLevel.getD "INFO"), e.baseUri.getD "", c⟩
  | _ => .error (.badDelimiter delimiter)

/-- The delimiter that was given, or that of the environment if none or an empty one was given. -/
def delimiterFor (e : Environment) (given : Option String) : Except SettingsFault Char :=
  match (given.getD "").toList with
  | [] => e.settings.map (·.delimiter)
  | [c] => .ok c
  | _ => .error .longDelimiter

/-- The base URI that was given, or that of the environment. -/
def baseUriFor (e : Environment) (given : Option String) : Except SettingsFault String :=
  match given with
  | some uri => .ok uri
  | none => e.settings.map (·.baseUri)

/-- The name of the level of the log: what was given, unless it is empty, or what the environment
says. -/
def levelNameFor (e : Environment) (given : Option String) : Except SettingsFault String :=
  match given with
  | none | some "" => e.settings.map fun s => Text.toUpper s.logLevel
  | some name => .ok (Text.toUpper name)

end Environment

end DecisionTable
