/- # Descriptions do not change

Nothing that was described can be assigned to afterwards: neither a field of a column or a table, nor a
setting, nor a rule on names.  A column and a table take notes under names that start with an underscore;
a few such names belong to every object and keep their own rules.
-/
import SchemaScript.Table.Validation
import SchemaScript.Value.Shown

namespace SchemaScript

/-- What an assignment may be tried on. -/
inductive FrozenThing where
  | column
  | table
  | settings
  | logSettings
  | namePattern
deriving DecidableEq, Repr

/-- What becomes of an assignment. -/
inductive Assignment where
  /-- It is a note, which changes no description. -/
  | noted
  /-- It is refused as a fault of a field of a description. -/
  | faults (model : String) (faults : List Fault)
  /-- It is refused because nothing can be assigned to. -/
  | frozen (field : Text)
  /-- The name of the field is no text. -/
  | notName (kind : String)
  /-- The class of an object is no class. -/
  | notClass (kind : String)
  /-- The notes of an object are no record. -/
  | notNotes (kind : String)
  /-- The references to an object are not to be assigned. -/
  | notWritable (field : Text) (model : String)
deriving DecidableEq, Repr

namespace Assignment

/-- The message about an assignment that is refused otherwise than as a fault. -/
def message : Assignment → Text
  | .noted => ""
  | .faults .. => ""
  | .frozen field => "cannot assign to field " ++ Text.quoted field
  | .notName kind => "attribute name must be string, not '" ++ kind ++ "'"
  | .notClass kind => "__class__ must be set to a class, not '" ++ kind ++ "' object"
  | .notNotes kind => "__dict__ must be set to a dictionary, not a '" ++ kind ++ "'"
  | .notWritable field model =>
    "attribute '" ++ field ++ "' of '" ++ model ++ "' objects is not writable"

end Assignment

namespace FrozenThing

/-- The thing of a word. -/
def ofWord? (word : String) : Option FrozenThing :=
  [("column", column), ("table", table), ("generator", settings), ("logging", logSettings),
    ("rule", namePattern)].lookup word

/-- The description that a thing is, by the name of its kind. -/
def model? : FrozenThing → Option String
  | .column => some Column.model
  | .table => some Table.model
  | _ => none

/-- Takes a note of a description. -/
def note (model : String) (name : Text) (v : Value) : Assignment :=
  match name.string?, v with
  | some "__class__", v => .notClass v.kind
  | some "__dict__", .record _ => .noted
  | some "__dict__", v => .notNotes v.kind
  | some "__weakref__", _ => .notWritable name model
  | _, _ => .noted

/-- The name of a field as a path shows it: in place of a half stand three signs of replacement, one for each
byte that it would take. -/
def segmentName (name : Text) : String :=
  String.ofList (name.flatMap fun
    | .char c => [c]
    | .half _ => ['\ufffd', '\ufffd', '\ufffd'])

/-- Tries to assign a value to a field. -/
def assign (t : FrozenThing) (field : Value) (v : Value) : Assignment :=
  match field.text?, t.model? with
  | none, _ => .notName field.kind
  | some name, none => .frozen name
  | some name, some model =>
    if Text.startsWith name "_" then note model name v else 
      .faults model [⟨[.field (segmentName name)], .frozen⟩]

end FrozenThing

end SchemaScript
