/- # Calls of a logger by name

A logger is called by the name of what it should do.  Most calls write a record, of a level that the name
says or the first argument gives; the others ask about the logger or give it a threshold, and a few names
belong to parts of a logger that cannot be called at all.  A call that writes takes the message, the
arguments of the message, and data.
-/
import SchemaScript.Log.Journal
import SchemaScript.Log.Message

namespace SchemaScript.Log

/-- What a logger does under a name. -/
inductive Call where
  /-- It writes a record of a level; the record may carry the current failure. -/
  | write (level : Int) (failed : Bool)
  /-- It writes a record of the level that comes before the message. -/
  | writeAt
  /-- It says whether records of a level are kept. -/
  | ask
  /-- It takes a threshold of its own. -/
  | limit
  /-- It merges the fields of the context into the data of a call. -/
  | prepare
  /-- It says something about itself, and takes nothing. -/
  | tell
  /-- It has a part of a kind that cannot be called. -/
  | part (kind : String)
deriving DecidableEq, Repr

/-- Why a call fails. -/
inductive CallFault where
  /-- The name is no text. -/
  | notName (kind : String)
  /-- Nothing has the name. -/
  | unknown (name : Text)
  | notCallable (kind : String)
  /-- An argument is missing. -/
  | missing (call argument : String)
  /-- There are too many arguments; both numbers count the logger. -/
  | tooMany (call : String) (taken given : Nat)
  /-- The call takes no data. -/
  | noData (call : String)
  /-- A level is of a kind that nothing is found under. -/
  | notKey (kind : String)
  /-- A level is of a kind that numbers are not compared with. -/
  | notComparable (kind : String)
  /-- A level is no whole number. -/
  | notWhole
  /-- What data are merged into has no fields. -/
  | noFields (kind : String)
  | data (fault : DataFault)
  | message (fault : MessageFault)
  | limit (fault : Level.Fault)
  | copy (fault : CopyFault)
deriving DecidableEq, Repr

/-- The text of a fault. -/
def CallFault.text : CallFault → Text
  | .notName kind => "attribute name must be string, not '" ++ kind ++ "'"
  | .unknown name => "'ContextLogger' object has no attribute '" ++ name ++ "'"
  | .notCallable kind => "'" ++ kind ++ "' object is not callable"
  | .missing call argument =>
    call ++ "() missing 1 required positional argument: '" ++ argument ++ "'"
  | .tooMany call taken given =>
    call ++ "() takes " ++ Text.decimal 1 taken ++ " positional argument" ++
      (if taken = 1 then "" else "s") ++ " but " ++ Text.decimal 1 given ++ " were given"
  | .noData call => call ++ "() got an unexpected keyword argument 'extra'"
  | .notKey kind => "unhashable type: '" ++ kind ++ "'"
  | .notComparable kind => "'>=' not supported between instances of 'int' and '" ++ kind ++ "'"
  | .notWhole => "level must be an integer"
  | .noFields kind => "'" ++ kind ++ "' object has no attribute 'get'"
  | .data fault => fault.message
  | .message fault => fault.message
  | .limit fault => fault.message
  | .copy fault => fault.message

namespace Call

/-- The calls by name. -/
def named : List (String × Call) := [
  ("debug", write Level.debug false),
  ("info", write Level.info false),
  ("warning", write Level.warning false),
  ("warn", write Level.warning false),
  ("error", write Level.error false),
  ("exception", write Level.error true),
  ("critical", write Level.critical false),
  ("log", writeAt),
  ("isEnabledFor", ask),
  ("setLevel", limit),
  ("process", prepare),
  ("getEffectiveLevel", tell),
  ("hasHandlers", tell)]

/-- The kinds of the parts of a logger that cannot be called, by name. -/
def parts (logger : Text) : List (String × Call) := [
  ("name", part "str"),
  ("extra", part "dict"),
  ("manager", part "Manager"),
  ("logger", part (if logger = topLogger then "RootLogger" else "Logger"))]

/-- The call of a name. -/
def ofName (logger : Text) (name : Value) : Except CallFault Call :=
  match name.text? with
  | none => .error (.notName name.kind)
  | some t =>
    match t.string?.bind fun s => (named ++ parts logger).lookup s with
    | some c => .ok c
    | none => .error (.unknown t)

/-- The full name of a call that does not write, as messages give it. -/
def title (name : String) : Call → String
  | .prepare => "ContextLogger." ++ name
  | _ => "LoggerAdapter." ++ name

end Call

namespace Logger

/-- Whether records of a level are kept, when the level is a value of any kind. -/
def keeps (l : Logger) (j : Journal) (level : Value) : Except CallFault Bool :=
  if !level.isKey then .error (.notKey level.kind)
  else
    match level.number? with
    | some n => .ok (j.keeps l.name n)
    | none => .error (.notComparable level.kind)

/-- The entries that the data of a call stand for, if there are any. -/
def entriesOf : Option Value → Except CallFault Entries
  | none => .ok []
  | some v => (entriesOfData v).mapError .data

/-- Writes the record of a call, if records of its level are kept. -/
def writeCall (l : Logger) (level message : Value) (arguments : List Value) (data : Option Value)
    (failed : Bool) (j : Journal) : Except CallFault Journal := do
  if !(← l.keeps j level) then return j
  let entries ← entriesOf data
  if level.whole?.isNone then throw .notWhole
  let text ← (formatMessage message arguments).mapError .message
  return l.write level text entries j (if failed then some (.ofString Failure.absent) else none)

/-- Refuses data, and more arguments than a call takes; both numbers count the logger. -/
def accept (call : String) (taken given : Nat) (data : Option Value) : Except CallFault Unit :=
  if data.isSome then .error (.noData call)
  else if taken < given then .error (.tooMany call taken given)
  else .ok ()

/-- What a logger hands on of a call: the message, the attributes that the record of the call gets, and the
other arguments by name. -/
structure Handover where
  message : Value
  attributes : List (Text × Data)
  others : Fields
deriving Repr, Inhabited

/-- The argument that gives the data of a call, and the one attribute that they become. -/
def dataName : String := "extra"

/-- Hands on a message and the arguments by name of a call; the data among these are merged with a copy of the
context. -/
def process (l : Logger) (scope : Scope) (message : Value) (arguments : Fields) :
    Except CallFault Handover := do
  let call ← entriesOf (arguments.get? dataName)
  let c ← scope.copied.mapError .copy
  return {
    message
    attributes := [(dataName, .entries (l.entries c call))]
    others := arguments.filter fun f => f.1 != dataName }

/-- Hands on arguments that should be a record. -/
def prepare (l : Logger) (scope : Scope) (message arguments : Value) : Except CallFault Handover :=
  match arguments with
  | .record fs => l.process scope message fs
  | v => .error (.noFields v.kind)

/-- Calls a logger by a name with a first argument, further ones, and data. -/
def call (l : Logger) (name first : Value) (rest : List Value) (data : Option Value) (j : Journal) :
    Except CallFault Journal := do
  let c ← Call.ofName l.name name
  let title := c.title name.plain.shown
  let given := rest.length + 2
  match c with
  | .write level failed => l.writeCall (.int level) first rest data failed j
  | .writeAt =>
    match rest with
    | [] => throw (.missing title "msg")
    | message :: arguments => l.writeCall first message arguments data false j
  | .ask =>
    accept title 2 given data
    let _ ← l.keeps j first
    return j
  | .limit =>
    accept title 2 given data
    return j.limit l.name (← (Level.limit first).mapError .limit)
  | .prepare =>
    accept title 3 given data
    match rest with
    | [] => throw (.missing title "kwargs")
    | v :: _ =>
      let _ ← l.prepare j.context.toScope first v
      return j
  | .tell =>
    accept title 1 given data
    return j
  | .part kind => throw (.notCallable kind)

/-- A call that writes at a level which is not kept changes nothing, whatever its message and its data
are. -/
theorem writeCall_of_not_keeps {l : Logger} {j : Journal} {level : Value}
    (h : l.keeps j level = .ok false) (message : Value) (arguments : List Value)
    (data : Option Value) (failed : Bool) :
    l.writeCall level message arguments data failed j = .ok j := by
  simp [writeCall, h, bind, Except.bind, pure, Except.pure]

end Logger

end SchemaScript.Log
