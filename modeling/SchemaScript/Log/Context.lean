/- # Contexts of log records

What a record says beside its message: the table and the operation that it belongs to, and the like.
Contexts are opened inside one another; an inner one keeps what it does not set itself.  The open contexts
form a stack, the innermost first.  All fields of a context are copied before they are listed, so that a context
with a lock or an open file in one of them cannot be listed.
-/
import SchemaScript.Value.Shown

namespace SchemaScript.Log

/-- The parts of the program that write records. -/
inductive Component where
  | registry
  | generator
  | api
  | cli
deriving DecidableEq, Repr

namespace Component

/-- All components. -/
def all : List Component := [.registry, .generator, .api, .cli]

/-- The word for a component. -/
def label : Component → String
  | .registry => "registry"
  | .generator => "generator"
  | .api => "api"
  | .cli => "cli"

/-- The component of a word. -/
def ofLabel? (s : String) : Option Component := all.find? fun c => c.label == s

/-- Reading the word of a component gives the component. -/
theorem ofLabel?_label (c : Component) : ofLabel? c.label = some c := by cases c <;> decide

end Component

/-- A context: five fields, null where nothing is set, and further fields by name. -/
structure Context where
  table : Value := .null
  operation : Value := .null
  schemaLabel : Value := .null
  correlationId : Value := .null
  component : Value := .null
  extra : Fields := []
deriving BEq, Repr, Inhabited

/-- What a context sets when it is opened: `none` keeps the field of the context around it, null
clears it, and further fields are added to those around it. -/
structure Setting where
  table : Option Value := none
  operation : Option Value := none
  schemaLabel : Option Value := none
  correlationId : Option Value := none
  component : Option Value := none
  extra : Fields := []
deriving Repr, Inhabited

namespace Setting

/-- Reads what a context sets; the further fields have to be a record, and if they are something else
its kind is told. -/
def ofFields (fs : Fields) : Except String Setting :=
  let settings (extra : Fields) : Setting :=
    { table := fs.get? "table"
      operation := fs.get? "operation"
      schemaLabel := fs.get? "schema_label"
      correlationId := fs.get? "correlation_id"
      component := fs.get? "component"
      extra := extra }
  match fs.get? "extra" with
  | none => .ok (settings [])
  | some (.record extra) => .ok (settings extra)
  | some v => .error v.kind

/-- The message about further fields that are not a record. -/
def notRecord (kind : String) : String := "'" ++ kind ++ "' object is not a mapping"

end Setting

namespace Context

/-- The context that is opened inside `c`. -/
def inside (c : Context) (s : Setting) : Context where
  table := s.table.getD c.table
  operation := s.operation.getD c.operation
  schemaLabel := s.schemaLabel.getD c.schemaLabel
  correlationId := s.correlationId.getD c.correlationId
  component := s.component.getD c.component
  extra := c.extra.merge s.extra

/-- A context that sets nothing is like the one around it. -/
theorem inside_nothing (c : Context) : c.inside {} = c := rfl

/-- A field as it is listed: not at all if it is null. -/
def listed (name : Text) (v : Value) : Fields :=
  match v with
  | .null => []
  | v => [(name, v)]

/-- The five fields, as far as they are set. -/
def ownFields (c : Context) : Fields :=
  listed "table" c.table ++ listed "operation" c.operation ++
    listed "schema_label" c.schemaLabel ++ listed "correlation_id" c.correlationId ++
    listed "component" c.component

/-- All fields of a context: its own, and the further ones over them. -/
def toFields (c : Context) : Fields := c.ownFields.merge c.extra

/-- The empty context lists no field. -/
@[simp] theorem toFields_empty : ({} : Context).toFields = [] := rfl

end Context

/-! ## Contexts before they are copied -/

/-- What stands in a field before it is copied: a value, or something with an object in it that cannot be copied, of
which only the kind matters. -/
inductive Held where
  | value (v : Value)
  | object (kind : String)
deriving Repr, Inhabited

/-- Why a context cannot be copied: for an object of a kind. -/
structure CopyFault where
  kind : String
deriving DecidableEq, Repr

/-- The text of a fault. -/
def CopyFault.message (f : CopyFault) : String := "cannot pickle '" ++ f.kind ++ "' object"

/-- The copy of what stands in a field. -/
def Held.copied : Held → Except CopyFault Value
  | .value v => .ok v
  | .object kind => .error ⟨kind⟩

/-- The copy of a further field. -/
def Held.copiedField (f : Text × Held) : Except CopyFault (Text × Value) := f.2.copied.map fun v => (f.1, v)

/-- A context before it is copied. -/
structure Scope where
  table : Held := .value .null
  operation : Held := .value .null
  schemaLabel : Held := .value .null
  correlationId : Held := .value .null
  component : Held := .value .null
  extra : List (Text × Held) := []
deriving Repr, Inhabited

/-- The copy of a context, field by field; the further fields come last. -/
def Scope.copied (scope : Scope) : Except CopyFault Context := do
  return {
    table := ← scope.table.copied
    operation := ← scope.operation.copied
    schemaLabel := ← scope.schemaLabel.copied
    correlationId := ← scope.correlationId.copied
    component := ← scope.component.copied
    extra := ← scope.extra.mapM Held.copiedField }

/-- A context with nothing but values in it. -/
def Context.toScope (c : Context) : Scope where
  table := .value c.table
  operation := .value c.operation
  schemaLabel := .value c.schemaLabel
  correlationId := .value c.correlationId
  component := .value c.component
  extra := c.extra.map fun f => (f.1, .value f.2)

/-- The context in force: the innermost open one, or the empty one. -/
def current (contexts : List Context) : Context := contexts.headD {}

/-- The stack after a context was opened. -/
def opened (contexts : List Context) (s : Setting) : List Context :=
  (current contexts).inside s :: contexts

end SchemaScript.Log
