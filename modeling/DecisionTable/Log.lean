import DecisionTable.Settings
import DecisionTable.Text.Breaks

/-!
# Logs

What happens is noted in lines. Each line has a level, and only lines from a certain weight on are
written, to the console, to a file, or to both. In a file every line begins with the time, and a log
that is read back is read without it.
-/

namespace DecisionTable

/-- The levels of log lines. -/
inductive LogLevel where
  | debug | info | warning | error
deriving DecidableEq, Repr

namespace LogLevel

def name : LogLevel → String
  | debug => "DEBUG"
  | info => "INFO"
  | warning => "WARNING"
  | error => "ERROR"

def weight : LogLevel → Nat
  | debug => 10
  | info => 20
  | warning => 30
  | error => 40

end LogLevel

def basicFormat : String := "%(levelname)s:%(name)s:%(message)s"

/-- The styles of formats that are named like a level, as a text. -/
def formatStyles : String :=
  "\x7b'%': (<class 'logging.PercentStyle'>, '%(levelname)s:%(name)s:%(message)s'), "
    ++ "'\x7b': (<class 'logging.StrFormatStyle'>, "
    ++ "'\x7blevelname\x7d:\x7bname\x7d:\x7bmessage\x7d'), "
    ++ "'$': (<class 'logging.StringTemplateStyle'>, "
    ++ "'$\x7blevelname\x7d:$\x7bname\x7d:$\x7bmessage\x7d')\x7d"

/-- The weight of a level by its name in upper case. A name without a meaning is that of the usual
level, but two names stand for formats and not for levels. -/
def levelWeight (name : String) : Except SettingsFault Nat :=
  match name with
  | "CRITICAL" | "FATAL" => .ok 50
  | "ERROR" => .ok 40
  | "WARNING" | "WARN" => .ok 30
  | "DEBUG" => .ok 10
  | "NOTSET" => .ok 0
  | "BASIC_FORMAT" => .error (.levelIsText basicFormat)
  | "_STYLES" => .error (.levelIsOther formatStyles)
  | _ => .ok 20

/-- A line of a log. -/
structure LogLine where
  level : LogLevel
  origin : String
  message : String
deriving Repr

/-- What stands between the fields of a log line. -/
def fieldSeparator : String := " | "

def LogLine.text (l : LogLine) : String :=
  fieldSeparator.intercalate [l.level.name, l.origin, l.message]

/-- The text of a log line in a file, with the given time. -/
def LogLine.timed (l : LogLine) (time : String) : String :=
  fieldSeparator.intercalate [time, l.text]

/-- Where log lines go, and from which weight on. -/
structure LogSetup where
  weight : Nat
  /-- Whether they go to the console. -/
  console : Bool
  /-- The file that they go to. -/
  file : Option String
deriving Repr

/-- Whether lines of a level are written. A weight of zero leaves the choice to the default, which
is that of warnings. -/
def LogSetup.admits (s : LogSetup) (level : LogLevel) : Bool :=
  (if s.weight == 0 then LogLevel.warning.weight else s.weight) ≤ level.weight

/-! ### Reading a log back -/

/-- The characters behind the first separator of fields. -/
def behindSeparator? : List Char → Option (List Char)
  | [] => none
  | c :: rest =>
    if fieldSeparator.toList.isPrefixOf (c :: rest) then
      some ((c :: rest).drop fieldSeparator.length)
    else behindSeparator? rest

/-- The lines of a log file without their times; empty lines do not count. There is no result if
some line has no separator. -/
def logLines? (text : String) : Option (List String) :=
  let lines := (Text.lines text.toList).filter (!·.isEmpty)
  (lines.mapM behindSeparator?).map fun found => found.map String.ofList

end DecisionTable
