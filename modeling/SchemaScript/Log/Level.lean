/- # Levels of log records

A level is a whole number; six of them have names.  A threshold is given as a number or by name, where
case does not matter and a name that is not known means `INFO`.  The level of a record is given as any
value, or by the name of a constant of the log, where case matters: most of these are levels, and one
that is not is shown as it is.
-/
import SchemaScript.Text.LetterCase
import SchemaScript.Value.Same
import SchemaScript.Value.Shown

namespace SchemaScript.Log

namespace Level

/-- The level for details. -/
def debug : Int := 10

/-- The level for what happens as expected. -/
def info : Int := 20

/-- The level for what should be looked at. -/
def warning : Int := 30

/-- The level for failures. -/
def error : Int := 40

/-- The level for failures after which nothing works. -/
def critical : Int := 50

/-- The levels by name; some have two names, of which records show the first. -/
def named : List (String × Int) := [
  ("CRITICAL", critical),
  ("FATAL", critical),
  ("ERROR", error),
  ("WARNING", warning),
  ("WARN", warning),
  ("INFO", info),
  ("DEBUG", debug),
  ("NOTSET", 0)]

/-- The name of a level, which may be written as any number; a level without one is shown as it is. -/
def name (level : Value) : Text :=
  match named.find? fun n => level.same (.int n.2) with
  | some (name, _) => name
  | none => "Level " ++ level.plain

/-- The level of a name. -/
def ofName? (name : String) : Option Int := named.lookup name

/-- The basic layout of lines, a constant of the log that is no level. -/
def basicLayout : String := "%(levelname)s:%(name)s:%(message)s"

/-- The table of layouts, as messages show it. -/
def layoutTable : String :=
  "\x7b'%': (<class 'logging.PercentStyle'>, '%(levelname)s:%(name)s:%(message)s'), " ++
    "'\x7b': (<class 'logging.StrFormatStyle'>, '\x7blevelname\x7d:\x7bname\x7d:\x7bmessage\x7d'), " ++
    "'$': (<class 'logging.StringTemplateStyle'>, '$\x7blevelname\x7d:$\x7bname\x7d:$\x7bmessage\x7d')\x7d"

/-- Why a threshold is refused. -/
inductive Fault where
  /-- It is a text, and not the name of a level. -/
  | unknownName (shown : String)
  /-- It is neither a number nor a text. -/
  | notLevel (shown : String)
deriving DecidableEq, Repr

/-- The text of a fault. -/
def Fault.message : Fault → String
  | .unknownName shown => "Unknown level: " ++ shown
  | .notLevel shown => "Level not an integer or a valid string: " ++ shown

/-- The threshold that a value gives. -/
def threshold : Value → Except Fault Int
  | .int n => .ok n
  | .bool b => .ok (if b then 1 else 0)
  | .text t =>
    match (Text.upperForAscii t).string? with
    | some "BASIC_FORMAT" => .error (.unknownName (Text.quoted basicLayout))
    | some "_STYLES" => .error (.notLevel layoutTable)
    | word => .ok ((word.bind ofName?).getD info)
  | v => .error (.notLevel v.exact)

/-- The kinds of things that the log makes; each is a constant of the log, shown by its full name. -/
def kinds : List String := ["BufferingFormatter", "FileHandler", "Filter", "Filterer", "Formatter",
  "Handler", "LogRecord", "Logger", "LoggerAdapter", "Manager", "NullHandler", "PercentStyle",
  "PlaceHolder", "RootLogger", "StrFormatStyle", "StreamHandler", "StringTemplateStyle"]

/-- The constants of the log by name.  Of a table or a list it matters only that it is one. -/
def constants : List (String × Value) :=
  named.map (fun n => (n.1, .int n.2)) ++
  [("BASIC_FORMAT", .text basicLayout),
    ("raiseExceptions", .bool true),
    ("logThreads", .bool true),
    ("logProcesses", .bool true),
    ("logMultiprocessing", .bool true),
    ("__name__", .text "logging"),
    ("__version__", .text "0.5.1.2"),
    ("__all__", .list []),
    ("_STYLES", .record []),
    ("_levelToName", .record []),
    ("_nameToLevel", .record [])] ++
  kinds.map fun kind => (kind, .text ("<class 'logging." ++ kind ++ "'>"))

/-- Why a value gives a record no level. -/
inductive RecordFault where
  /-- It is a text, and not the name of a constant of the log. -/
  | noConstant (name : Text)
  /-- It is of a kind that no name can be looked up by. -/
  | notKey (kind : String)
deriving DecidableEq, Repr

/-- The text of a fault. -/
def RecordFault.message : RecordFault → Text
  | .noConstant name => "module 'logging' has no attribute '" ++ name ++ "'"
  | .notKey kind => "unhashable type: '" ++ kind ++ "'"

/-- The level of a record that a value stands for. -/
def constantOf : Value → Except RecordFault Value
  | .text name =>
    match name.string?.bind fun name => constants.lookup name with
    | some level => .ok level
    | none => .error (.noConstant name)
  | level => .ok level

/-- A level whose name can be looked up: lists and records have none. -/
def nameable : Value → Except RecordFault Value
  | .list _ => .error (.notKey "list")
  | .record _ => .error (.notKey "dict")
  | level => .ok level

/-- The threshold of a single logger that a value gives; case matters, and only known names are taken. -/
def limit : Value → Except Fault Int
  | .int n => .ok n
  | .bool b => .ok (if b then 1 else 0)
  | v =>
    if v.text?.isNone then .error (.notLevel v.exact)
    else
      match v.string?.bind ofName? with
      | some n => .ok n
      | none => .error (.unknownName v.exact)

/-- A level is shown by a name that means it. -/
theorem ofName?_name_of_named :
    ∀ p ∈ named, (name (.int p.2)).string?.bind ofName? = some p.2 := by
  simp only [name]
  decide

end Level

end SchemaScript.Log
