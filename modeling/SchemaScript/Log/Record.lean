/- # Log records and their lines

A record is what one call of a logger leaves: level, logger, message, the data that came with it, and the
context in force.  It is written as one line of JSON, unless an integer in it has too many digits, or as a line for
reading.
-/
import SchemaScript.Log.Context
import SchemaScript.Log.Data
import SchemaScript.Log.Level
import SchemaScript.Value.Json

namespace SchemaScript.Log

/-- Where in the program a record comes from. -/
structure Origin where
  path : Value := .text "/srv/app/mod.py"
  line : Value := .int 10
  function : Value := .null
deriving Repr, Inhabited

/-- The name of the file at the end of a path; a path that is no text is shown as it is. -/
def Origin.file (o : Origin) : Value :=
  match o.path with
  | .text path => .text (path.reverse.takeWhile (· != .char '/')).reverse
  | v => v

/-- A log record. -/
structure Record where
  time : Instant
  /-- The level, a number. -/
  level : Value
  /-- The name of the logger. -/
  logger : Value
  message : Text
  /-- The data that came with the message, if any did. -/
  extra : Option Data := none
  /-- The text of the failure that the record carries, if it carries one. -/
  failure : Option Text := none
  origin : Origin := {}
  /-- The context in force. -/
  context : Context := {}
deriving Repr, Inhabited

/-- Which fields a line of JSON has, beside those that it always has. -/
structure LineFields where
  timestamp : Bool := true
  level : Bool := true
  logger : Bool := true
  context : Bool := true
deriving DecidableEq, Repr

namespace LineFields

/-- The names of the choices. -/
def names : List String :=
  ["include_timestamp", "include_level", "include_logger", "include_context"]

/-- Reads the choices; the name of one that there is not is told. -/
def ofFields (fs : Fields) : Except Text LineFields :=
  let chosen (name : String) : Bool := (fs.get? name).all Value.isPresent
  match fs.find? fun f => !f.1.string?.any names.contains with
  | some f => .error f.1
  | none =>
    .ok ⟨chosen "include_timestamp", chosen "include_level", chosen "include_logger",
      chosen "include_context"⟩

/-- The message about a choice that there is not. -/
def unknown (name : Text) : Text :=
  "StructuredFormatter.__init__() got an unexpected keyword argument '" ++ name ++ "'"

end LineFields

namespace Record

/-- The data of a record, if there is any to show. -/
def data? (r : Record) : Option Data := r.extra.filter Data.isPresent

/-- The fields of a record in its line of JSON. -/
def toFields (r : Record) (shown : LineFields := {}) : Fields :=
  let context := r.context.toFields
  Fields.given "timestamp" (if shown.timestamp then some (.text r.time.iso) else none) ++
  Fields.given "level" (if shown.level then some (.text (Level.name r.level)) else none) ++
  Fields.given "logger" (if shown.logger then some r.logger else none) ++
  Fields.single "message" (.text r.message) ++
  Fields.given "context" (if shown.context && !context.isEmpty then some (.record context) else none) ++
  Fields.given "data" (r.data?.map Data.toValue) ++
  Fields.given "exception" (r.failure.map .text) ++
  Fields.single "source" (.record [("file", r.origin.file), ("line", r.origin.line),
    ("function", r.origin.function)])

/-- The record as a line of JSON, if it has one. -/
def jsonLine (r : Record) (shown : LineFields := {}) : Except Text.NumeralFault String :=
  (Value.record (r.toFields shown)).writtenJson

/-- One part of the context in a line for reading: only what is present. -/
def contextPart (name : String) (v : Value) : List Text :=
  if v.isPresent then [name ++ "=" ++ v.plain] else []

/-- The context in a line for reading. -/
def contextText (c : Context) : Text :=
  match contextPart "table" c.table ++ contextPart "op" c.operation ++
      contextPart "schema" c.schemaLabel with
  | [] => ""
  | parts => " [" ++ Text.joined ", " parts ++ "]"

/-- The record as a line for reading; a failure follows on a line of its own. -/
def readableLine (r : Record) : Text :=
  let extra : Text :=
    match r.data? with
    | some d => " " ++ d.plain
    | none => []
  let failure : Text :=
    match r.failure with
    | some text => "\n" ++ text
    | none => []
  r.time.dateText ++ " " ++ r.time.clockText ++ " " ++
    Text.padRight 8 (.char ' ') (Level.name r.level) ++ " " ++ r.logger.plain ++
    contextText r.context ++ ": " ++ r.message ++ extra ++ failure

/-- The record as it is captured: level, logger, message, and its data if it carries any. -/
def toValue (r : Record) : Value := .record <|
  Fields.single "level" (.text (Level.name r.level)) ++ Fields.single "logger" r.logger ++
    Fields.single "message" (.text r.message) ++ Fields.given "extra" (r.extra.map Data.toValue)

end Record

end SchemaScript.Log
