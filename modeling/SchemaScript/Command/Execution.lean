/- # Carrying out the command

The command sets up the log, makes the registry and the generator, and prints a script or writes it to a
file.  For a table that is not registered it prints a line that says so, writes no file, and ends with the
exit code one.  What cannot be printed or written is refused as a whole: files take UTF-8, and standard output what
its encoding has, which is up to the place where the command runs.
-/
import SchemaScript.Command.Folder
import SchemaScript.Command.Options
import SchemaScript.Service

namespace SchemaScript.Command

/-- Why the command gives up. -/
inductive Failure where
  /-- The threshold of the log is refused. -/
  | threshold (fault : Log.Level.Fault)
  /-- A statement cannot be written. -/
  | statement (fault : Sql.Fault)
  /-- Neither a table nor a part of the script is chosen. -/
  | noPart
  /-- The file is opened, and what should be written to it cannot be. -/
  | content (halves : Text.Unwritable)
  /-- Standard output does not take the text. -/
  | output (halves : Text.Unwritable)

/-- The text about a missing choice of a part. -/
def noPart : String := "unhashable type: 'list'"

/-- What the command leaves behind besides its log. -/
structure Effect where
  exit : Nat
  stdout : Text := []
  /-- The path and the content of the file that is to be written, if there is one. -/
  file : Option (Text × Text) := none
deriving DecidableEq, Repr

/-- The logger of the command. -/
def logger : Log.Logger := ⟨"scripts.generate_schema", some .cli⟩

/-- The threshold of the log: details when they are asked for, otherwise as set. -/
def threshold (o : Options) (s : LogSettings) : Value :=
  if o.verbose then .text "DEBUG" else .text s.level

/-- What a script is chosen by: a table, or a part of the whole. -/
inductive Choice where
  | table (name : Text)
  | part (p : ScriptPart)
deriving DecidableEq, Repr

/-- The choice that options make: a named table comes before a part. -/
def Options.choice? (o : Options) : Option Choice :=
  match o.table.filter (!·.isEmpty) with
  | some name => some (.table name)
  | none => o.part.map .part

/-- The text that a generator gives for a choice. -/
def script (c : Choice) (g : Generator) : Run Text :=
  match c with
  | .table name => g.tableText name
  | .part p => do return (← p.generate g).text

/-- Whether a choice is a table that is not registered. -/
def Choice.isMissing (c : Choice) (r : Registry) : Bool :=
  match c with
  | .table name => !r.contains name
  | .part _ => false

/-- What a choice leaves behind when a file may be asked for. -/
def effect (c : Choice) (output : Option Text) (g : Generator) : Run Effect := do
  if c.isMissing g.registry then return { exit := 1, stdout := (← script c g) ++ "\n" }
  let text ← script c g
  match output.filter (!·.isEmpty) with
  | some path => return { exit := 0, file := some (path, text) }
  | none => return { exit := 0, stdout := text ++ "\n" }

/-- What standard output says to a text if it is written in UTF-8. -/
def utf8Output (text : Text) : Except Text.Unwritable Unit := text.written.map fun _ => ()

/-- The number of lines of a text. -/
def lineCount (text : Text) : Nat := (Text.lines text).length

/-- The record of a file that was written. -/
def noteFile (path text : Text) : Run Unit :=
  Run.note logger Log.Level.info
    ("Wrote " ++ Text.decimal 1 (lineCount text) ++ " lines to " ++ path)

/-- What a command does in the end. -/
inductive Outcome where
  /-- It ends as the effect says; the file, if there is one, was written. -/
  | ended (effect : Effect)
  /-- It prints the help text. -/
  | helped
  /-- The command line is refused. -/
  | misused (fault : UsageFault)
  /-- It gives up before it leaves anything behind. -/
  | failed (failure : Failure)
  /-- The file cannot be written. -/
  | unwritten (fault : FileFault)

/-- The log of a command: the layout of its lines, and the records. -/
structure Log where
  layout : SchemaScript.Log.Layout := .readable
  records : List SchemaScript.Log.Record := []

/-- The lines of the log; a record without a line is left out. -/
def Log.lines (l : Log) : List Text := l.records.filterMap fun r => (l.layout.line r).toOption

/-- Carries out the options with a set-up log; `reach` says whether a path can be written, and `print` whether standard
output takes a text. -/
def execute (o : Options) (settings : Settings) (reach : Text → Except FileFault Unit)
    (print : Text → Except Text.Unwritable Unit) (session : Session) : Outcome × Session :=
  let registry := Registry.application
  let session := { session with journal := registry.announce session.journal }
  match o.choice? with
  | none => (.failed .noPart, session)
  | some choice =>
    match (effect choice o.output ⟨registry, settings⟩).outcome session with
    | (.error f, session) => (.failed (.statement f), session)
    | (.ok e, session) =>
      match e.file with
      | none =>
        match print e.stdout with
        | .error halves => (.failed (.output halves), session)
        | .ok () => (.ended e, session)
      | some (path, text) =>
        match reach path, text.written with
        | .error f, _ => (.unwritten f, session)
        | .ok (), .error halves => (.failed (.content halves), session)
        | .ok (), .ok _ => (.ended e, ((noteFile path text).outcome session).2)

/-- Carries out a command line in an environment: its outcome, and its log, whose records get the given
time. -/
def run (arguments : List Text) (environment : Environment) (clock : Clock) (time : Instant)
    (reach : Text → Except FileFault Unit) (print : Text → Except Text.Unwritable Unit) : Outcome × Log :=
  match Request.ofArguments arguments with
  | .error f => (.misused f, {})
  | .ok .help => (.helped, {})
  | .ok (.script o) =>
    let defaults := Defaults.ofEnvironment environment
    let word := environment.get? LogSettings.layoutVariable
    match SchemaScript.Log.Root.configure .capturing (threshold o defaults.log) defaults.log.json
        word with
    | .error f => (.failed (.threshold f), {})
    | .ok root =>
      let (outcome, session) :=
        execute o defaults.generator reach print ⟨clock, { time, threshold := root.threshold }⟩
      (outcome, ⟨SchemaScript.Log.Layout.choose defaults.log.json word, session.journal.records⟩)

end SchemaScript.Command
