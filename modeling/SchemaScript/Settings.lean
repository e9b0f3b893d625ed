/- # Settings and where they come from

The settings of the generator and of the log, read from named variables of the environment with a default
for each.  They are read once, at the first use, and kept until they are discarded.
-/
import SchemaScript.Log.Setup
import SchemaScript.Sql.Statement
import SchemaScript.Text.Bytes

namespace SchemaScript

/-- The variables of the environment that are set, each with its text. -/
abbrev Environment := List (Text × Text)

namespace Environment

/-- The text of a variable, if it is set. -/
def get? (env : Environment) (name : Text) : Option Text := env.lookup name

/-- The text of a variable, or a default when it is not set. -/
def getOr (env : Environment) (name default : Text) : Text := (env.get? name).getD default

/-- Sets a variable. -/
def set (env : Environment) (name text : Text) : Environment :=
  (name, text) :: env.filter fun v => v.1 != name

/-- Why a variable cannot be set. -/
inductive Fault where
  /-- The name or the text of the variable is not a text. -/
  | notText (kind : String)
  /-- The name or the text has no bytes. -/
  | unwritable (halves : Text.Unwritable)
  /-- The name or the text holds a NUL character. -/
  | nulInside
  /-- The name holds an equals sign. -/
  | equalsInName
  /-- The name is empty. -/
  | emptyName
deriving DecidableEq, Repr

/-- The text of a fault. -/
def Fault.message : Fault → String
  | .notText kind => "str expected, not " ++ kind
  | .unwritable halves => halves.message
  | .nulInside => "embedded null byte"
  | .equalsInName => "illegal environment variable name"
  | .emptyName => "[Errno 22] Invalid argument"

/-- A value as a text of the environment, which consists of bytes. -/
def textOf (v : Value) : Except Fault Text :=
  match v with
  | .text t => t.returned.mapError .unwritable
  | v => .error (.notText v.kind)

/-- Sets a variable, if its name and its text allow it. -/
def put (env : Environment) (name v : Value) : Except Fault Environment := do
  let name ← textOf name
  let text ← textOf v
  if name.contains (.char '\x00') || text.contains (.char '\x00') then throw .nulInside
  if name.contains (.char '=') then throw .equalsInName
  if name.isEmpty then throw .emptyName
  return env.set name text

/-- Sets variables in order, if all of them allow it. -/
def ofFields (fs : Fields) : Except Fault Environment :=
  fs.foldlM (fun env f => env.put (.text f.1) f.2) []

/-- Unsets a variable. -/
def unset (env : Environment) (name : Text) : Environment := env.filter fun v => v.1 != name

/-- A variable that was set has its text. -/
theorem get?_set_self (env : Environment) (name text : Text) :
    (env.set name text).get? name = some text := by
  simp [get?, set]

/-- A variable that was unset is not set. -/
theorem get?_unset_self (env : Environment) (name : Text) : (env.unset name).get? name = none := by
  simp only [get?, unset, List.lookup_eq_none_iff, List.mem_filter, bne_iff_ne, ne_eq, and_imp]
  exact fun v _ h => by simpa using Ne.symm h

end Environment

/-- The settings of the generator. -/
structure Settings where
  /-- The label of the tables script. -/
  schemaLabel : Value := .text "AllSchemas"
  /-- The name of the backend in headers. -/
  backendLabel : Value := .text "Supabase"
  /-- The comment on columns that the client encrypts. -/
  encryptedComment : Value := .text "This field is encrypted on the client"
  /-- The function that stamps changed rows. -/
  triggerFunction : Value := .text Sql.Statement.stampFunction
  /-- The role that policies ask for when no column tells the owner. -/
  authenticatedRole : Value := .text "authenticated"
deriving BEq, Repr, Inhabited

namespace Settings

/-- The names of the settings, in order. -/
def names : List String :=
  ["schema_label", "backend_label", "encrypted_comment", "trigger_function", "authenticated_role"]

/-- Settings from named values; a name that no setting has is told. -/
def ofFields (fs : Fields) : Except Text Settings :=
  match fs.find? fun f => !f.1.string?.any names.contains with
  | some f => .error f.1
  | none =>
    let d : Settings := {}
    .ok {
      schemaLabel := (fs.get? "schema_label").getD d.schemaLabel
      backendLabel := (fs.get? "backend_label").getD d.backendLabel
      encryptedComment := (fs.get? "encrypted_comment").getD d.encryptedComment
      triggerFunction := (fs.get? "trigger_function").getD d.triggerFunction
      authenticatedRole := (fs.get? "authenticated_role").getD d.authenticatedRole }

/-- The message about a name that no setting has. -/
def unknownName (name : Text) : Text :=
  "GeneratorDefaults.__init__() got an unexpected keyword argument '" ++ name ++ "'"

/-- The variable of a setting, or the default. -/
def fromVariable (env : Environment) (name : String) (default : Value) : Value :=
  ((env.get? name).map Value.text).getD default

/-- The settings that the environment gives. -/
def ofEnvironment (env : Environment) : Settings :=
  let d : Settings := {}
  { schemaLabel := fromVariable env "DATASYNC_SCHEMA_LABEL" d.schemaLabel
    backendLabel := fromVariable env "DATASYNC_BACKEND_LABEL" d.backendLabel
    encryptedComment := fromVariable env "DATASYNC_ENCRYPTED_COMMENT" d.encryptedComment
    triggerFunction := fromVariable env "DATASYNC_TRIGGER_FUNCTION" d.triggerFunction
    authenticatedRole := fromVariable env "DATASYNC_AUTHENTICATED_ROLE" d.authenticatedRole }

/-- The settings by name. -/
def toValue (s : Settings) : Value := .record [
  ("schema_label", s.schemaLabel),
  ("backend_label", s.backendLabel),
  ("encrypted_comment", s.encryptedComment),
  ("trigger_function", s.triggerFunction),
  ("authenticated_role", s.authenticatedRole)]

end Settings

/-- The settings of the log. -/
structure LogSettings where
  /-- The name of the threshold. -/
  level : Text := "INFO"
  /-- Whether lines are written as JSON. -/
  json : Bool := false
deriving DecidableEq, Repr, Inhabited

namespace LogSettings

/-- The variable for the layout of lines. -/
def layoutVariable : String := "LOG_FORMAT"

/-- The settings that the environment gives. -/
def ofEnvironment (env : Environment) : LogSettings where
  level := env.getOr "LOG_LEVEL" "INFO"
  json := Log.Layout.asksForJson (env.get? layoutVariable)

/-- The settings by name. -/
def toValue (s : LogSettings) : Value :=
  .record [("level", .text s.level), ("json_output", .bool s.json)]

end LogSettings

/-- All settings. -/
structure Defaults where
  generator : Settings := {}
  log : LogSettings := {}
deriving Repr, Inhabited

namespace Defaults

/-- All settings that the environment gives. -/
def ofEnvironment (env : Environment) : Defaults := ⟨.ofEnvironment env, .ofEnvironment env⟩

/-- All settings by name. -/
def toFields (d : Defaults) : Fields :=
  [("generator", d.generator.toValue), ("logging", d.log.toValue)]

end Defaults

/-- Something that is made at its first use and kept until it is discarded; what is made is counted. -/
structure Kept (α : Type) where
  /-- How many there have been. -/
  made : Nat := 0
  /-- What is kept, if anything. -/
  held : Option α := none
deriving Repr

namespace Kept

variable {α : Type}

/-- What is kept, made now if nothing is, with its number; the numbers start at zero. -/
def get (k : Kept α) (make : α) : Nat × α × Kept α :=
  match k.held with
  | some a => (k.made - 1, a, k)
  | none => (k.made, make, ⟨k.made + 1, some make⟩)

/-- Discards what is kept. -/
def discard (k : Kept α) : Kept α := { k with held := none }

variable {k : Kept α}

theorem get_of_none (h : k.held = none) (a : α) : k.get a = (k.made, a, ⟨k.made + 1, some a⟩) := by
  simp only [get, h]

theorem get_of_some {b : α} (h : k.held = some b) (a : α) : k.get a = (k.made - 1, b, k) := by
  simp only [get, h]

/-- A second use gives what the first one gave, whatever would be made now. -/
theorem get_get (k : Kept α) (a b : α) :
    (k.get a).2.2.get b = k.get a := by
  cases h : k.held with
  | none =>
      rw [get_of_none h, get_of_some rfl]
      rfl
  | some a' => rw [get_of_some h, get_of_some h]

end Kept

end SchemaScript
