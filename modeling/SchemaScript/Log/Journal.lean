/- # Writing log records

A journal holds the open contexts and the records so far; records below its threshold are not kept.  A
logger of a component gives a record, as data, the fields of its call and over them those of the context
in force.  A checkpoint is a record that marks a finished step.
-/
import SchemaScript.Log.Failure
import SchemaScript.Log.Record

namespace SchemaScript.Log

/-- The time that records are given, the threshold, the thresholds of single loggers, the latest first, the
open contexts, innermost first, and the records so far. -/
structure Journal where
  time : Instant
  threshold : Int := Level.debug
  limits : List (Text × Int) := []
  contexts : List Context := []
  records : List Record := []
deriving Repr, Inhabited

/-- The names of a logger and of those above it, from the nearest on: what precedes a point in the name of a
logger is the name of one above it. -/
def lineage (logger : Text) : List Text :=
  let ends := (List.range (logger.length + 1)).filter fun i =>
    i == logger.length || logger[i]? == some (.char '.')
  ends.reverse.map logger.take

/-- The logger above all others. -/
def topLogger : String := "root"

namespace Journal

/-- The context in force. -/
def context (j : Journal) : Context := current j.contexts

/-- The threshold of a logger: its own, or that of the nearest logger above it that has one; a threshold of
zero counts as none. -/
def thresholdOf (j : Journal) (logger : Text) : Int :=
  ((lineage logger).findSome? fun name => (j.limits.lookup name).filter (· != 0)).getD j.threshold

/-- Whether records of a logger are kept at a level. -/
def keeps (j : Journal) (logger : Text) (level : Number) : Bool :=
  level.isPositive && level.reaches (j.thresholdOf logger)

/-- Gives a logger a threshold of its own. -/
def limit (j : Journal) (logger : Text) (level : Int) : Journal :=
  if logger = topLogger then { j with threshold := level }
  else { j with limits := (logger, level) :: j.limits }

/-- Without thresholds of single loggers the threshold of the journal decides. -/
theorem thresholdOf_of_limits_nil {j : Journal} (h : j.limits = []) (logger : Text) :
    j.thresholdOf logger = j.threshold := by
  have : (lineage logger).findSome? (fun name => (j.limits.lookup name).filter (· != 0)) = none := by
    simp [h]
  simp [thresholdOf, this]

/-- Opens a context. -/
def enter (j : Journal) (s : Setting) : Journal := { j with contexts := opened j.contexts s }

/-- Closes the innermost context. -/
def leave (j : Journal) : Journal := { j with contexts := j.contexts.tail }

/-- Adds a record in the context in force, if its level is kept. -/
def write (j : Journal) (level : Value) (logger message : Text) (extra : Option Data)
    (failure : Option Text := none) : Journal :=
  if level.number?.any (j.keeps logger) then
    let r : Record := ⟨j.time, level, .text logger, message, extra, failure, {}, j.context⟩
    { j with records := j.records ++ [r] }
  else j

/-- Leaving the context that was entered gives the journal back. -/
theorem leave_enter (j : Journal) (s : Setting) : (j.enter s).leave = j := rfl

/-- Writing a record leaves the contexts as they are. -/
@[simp] theorem contexts_write (j : Journal) (level : Value) (logger message : Text)
    (extra : Option Data) (failure : Option Text) :
    (j.write level logger message extra failure).contexts = j.contexts := by
  unfold write; split <;> rfl

end Journal

/-! ## Loggers of components -/

/-- A logger: its name, and the component that it belongs to, if any. -/
structure Logger where
  name : Text
  component : Option Component := none
deriving DecidableEq, Repr

namespace Logger

/-- The entries of a record: those of the call, over them the fields of the context, and the component where
nothing else gives one. -/
def entries (l : Logger) (c : Context) (call : Entries) : Entries :=
  let merged := call.merge c.toFields
  match l.component, merged.get? (.text "component") with
  | some k, none => merged.set (.text "component") (.text k.label)
  | _, _ => merged

/-- Writes a record with the entries of a call. -/
def write (l : Logger) (level : Value) (message : Text) (call : Entries) (j : Journal)
    (failure : Option Text := none) : Journal :=
  j.write level l.name message (some (.entries (l.entries j.context call))) failure

/-- The name of the logger that a value names; nothing names the logger above all others. -/
def nameOf (v : Value) : Except String Text :=
  if !v.isPresent then .ok topLogger
  else
    match v.text? with
    | some name => .ok name
    | none => .error "A logger name must be a string"

end Logger

/-! ## Checkpoints -/

/-- The logger of checkpoints, unless another one is named. -/
def checkpointLogger : String := "checkpoint"

/-- A part of the data of a checkpoint: only what is present. -/
def present (name : Text) (v : Value) : Fields := if v.isPresent then [(name, v)] else []

/-- The data of a checkpoint. -/
def checkpointFields (time : Instant) (c : Context) (name data : Value) : Fields :=
  Fields.single "checkpoint" name ++ Fields.single "timestamp" (.text time.iso) ++
    present "table" c.table ++ present "schema_label" c.schemaLabel ++ present "data" data

/-- Writes a checkpoint. -/
def Journal.checkpoint (j : Journal) (name data : Value) (logger : Text := checkpointLogger) :
    Journal :=
  j.write (.int Level.info) logger ("CHECKPOINT: " ++ name.plain)
    (some (.value (.record (checkpointFields j.time j.context name data))))

end SchemaScript.Log
