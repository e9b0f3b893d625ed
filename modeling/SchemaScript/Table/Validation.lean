/- # Reading tables from values

A table description arrives as a value of unknown shape.  Reading it gives the table, or every fault
in it: faults of fields in the order of their declaration, those of a list in the order of its items,
each with the path to the place.  The rules that tie the columns of a table together are looked at
only when every field is in order.
-/
import SchemaScript.Table.Basic
import SchemaScript.Text.Bytes

namespace SchemaScript

/-- One step of a path into a value. -/
inductive Segment where
  | field (name : String)
  | index (i : Nat)
deriving DecidableEq, Repr

/-- What is wrong at a place. -/
inductive Complaint where
  | missing
  | notText
  | loneHalf
  | emptyText
  | notFlag
  | unclearFlag
  | notSet
  | emptySet
  | notMember (choices : String)
  | notSequence
  | emptySequence
  | notRecord (model : String)
  | brokenRule (fault : TableFault)
  | frozen
deriving DecidableEq, Repr

namespace Complaint

/-- The code of a complaint. -/
def code : Complaint → String
  | .missing => "missing"
  | .notText => "string_type"
  | .loneHalf => "string_unicode"
  | .emptyText => "string_too_short"
  | .notFlag => "bool_type"
  | .unclearFlag => "bool_parsing"
  | .notSet => "frozen_set_type"
  | .emptySet => "too_short"
  | .notMember _ => "enum"
  | .notSequence => "tuple_type"
  | .emptySequence => "too_short"
  | .notRecord _ => "model_type"
  | .brokenRule _ => "value_error"
  | .frozen => "frozen_instance"

/-- The text of a complaint. -/
def message : Complaint → String
  | .missing => "Field required"
  | .notText => "Input should be a valid string"
  | .loneHalf =>
    "Input should be a valid string, unable to parse raw data as a unicode string"
  | .emptyText => "String should have at least 1 character"
  | .notFlag => "Input should be a valid boolean"
  | .unclearFlag => "Input should be a valid boolean, unable to interpret input"
  | .notSet => "Input should be a valid frozenset"
  | .emptySet => "Frozenset should have at least 1 item after validation, not 0"
  | .notMember choices => "Input should be " ++ choices
  | .notSequence => "Input should be a valid tuple"
  | .emptySequence => "Tuple should have at least 1 item after validation, not 0"
  | .notRecord model => "Input should be a valid dictionary or instance of " ++ model
  | .brokenRule fault => "Value error, " ++ fault.message
  | .frozen => "Instance is frozen"

end Complaint

/-- A complaint and the path to the place that it is about. -/
structure Fault where
  path : List Segment
  complaint : Complaint
deriving DecidableEq, Repr

namespace Fault

/-- A fault of the value as a whole. -/
def here (c : Complaint) : Fault := ⟨[], c⟩

/-- The fault as seen from outside: its path starts with one more step. -/
def under (s : Segment) (f : Fault) : Fault := ⟨s :: f.path, f.complaint⟩

end Fault

/-- A reading of a value: what was read, or all that is wrong. -/
abbrev Reading (α : Type) := Except (List Fault) α

namespace Reading

/-- The faults of a reading. -/
def faults {α : Type} : Reading α → List Fault
  | .error fs => fs
  | .ok _ => []

/-- A single fault of the value as a whole. -/
def fault {α : Type} (c : Complaint) : Reading α := .error [.here c]

/-- A reading as seen from outside. -/
def under {α : Type} (s : Segment) (r : Reading α) : Reading α :=
  r.mapError (List.map (Fault.under s))

/-- A required field of a record. -/
def required {α : Type} (fs : Fields) (name : String) (read : Value → Reading α) : Reading α :=
  under (.field name) <|
    match fs.get? name with
    | none => fault .missing
    | some v => read v

/-- A field of a record that has a default. -/
def optional {α : Type} (fs : Fields) (name : String) (default : α) (read : Value → Reading α) :
    Reading α :=
  under (.field name) <|
    match fs.get? name with
    | none => .ok default
    | some v => read v

/-- Reads the items of a list, each under its index. -/
def items {α : Type} (read : Value → Reading α) : Nat → List Value → List (Reading α)
  | _, [] => []
  | i, v :: rest => under (.index i) (read v) :: items read (i + 1) rest

/-- The items that were read. -/
def values {α : Type} (rs : List (Reading α)) : List α := rs.filterMap Except.toOption

end Reading

namespace Value

open Reading

/-- Reads a text. -/
def readText (v : Value) : Reading Text :=
  match v.text? with
  | some t => .ok t
  | none => fault .notText

/-- Reads a text without halves. -/
def readString (v : Value) : Reading String :=
  match v.text? with
  | none => fault .notText
  | some t =>
    match t.string? with
    | some s => .ok s
    | none => fault .loneHalf

/-- Reads a text without halves that is not empty. -/
def readName (v : Value) : Reading { s : String // s ≠ "" } :=
  match v.readString with
  | .error fs => .error fs
  | .ok s => if h : s ≠ "" then .ok ⟨s, h⟩ else fault .emptyText

/-- Reads a text or null. -/
def readText? (v : Value) : Reading (Option Text) :=
  match v with
  | .null => .ok none
  | v => v.readText.map some

/-- A whole number read as a flag. -/
def flagOfInt (n : Int) : Reading Bool :=
  if n = 0 then .ok false
  else if n = 1 then .ok true
  else if -0x8000000000000000 ≤ n ∧ n < 0x8000000000000000 then fault .unclearFlag
  else fault .notFlag

/-- The words that are read as a flag, compared without regard to ASCII case. -/
def flagOfWord (s : String) : Reading Bool :=
  let word := s.map Char.toLower
  if word ∈ ["0", "off", "f", "false", "n", "no"] then .ok false
  else if word ∈ ["1", "on", "t", "true", "y", "yes"] then .ok true
  else fault .unclearFlag

/-- Reads a flag: a truth value, a zero or one, or one of the words for them. A floating number is read as
the whole number that it is equal to; the least whole number of 64 bits is out of its range. -/
def readFlag : Value → Reading Bool
  | .bool b => .ok b
  | .int n => flagOfInt n
  | .real x =>
    match x.toInt? with
    | some n => if n = -0x8000000000000000 then fault .notFlag else flagOfInt n
    | none => fault .notFlag
  | v =>
    match v.readString with
    | .ok s => flagOfWord s
    | .error _ => fault (if v.text?.isSome then .loneHalf else .notFlag)

/-- Reads a member of a vocabulary by its text. -/
def readMember {α : Type} (ofLabel? : String → Option α) (choices : String) (v : Value) :
    Reading α :=
  match v.string?.bind ofLabel? with
  | some a => .ok a
  | none =>
    fault (if v.text?.isSome && v.string?.isNone then .loneHalf else .notMember choices)

/-- Reads a tier. -/
def readTier : Value → Reading Tier :=
  readMember Tier.ofLabel? "'local', 'document' or 'relational'"

/-- Reads a container. -/
def readContainer : Value → Reading Container :=
  readMember Container.ofLabel? "'public', 'private' or 'shared'"

/-- Reads the list of a set's members. -/
def readMembers {α : Type} (read : Value → Reading α) : Value → Reading (List α)
  | .list xs =>
    let rs := items read 0 xs
    match rs.flatMap faults with
    | [] => .ok (values rs)
    | fs => .error fs
  | _ => fault .notSet

/-- Reads a set of tiers with at least one member. -/
def readTiers (v : Value) : Reading { s : TierSet // s.isEmpty = false } :=
  match v.readMembers readTier with
  | .error fs => .error fs
  | .ok ts =>
    if h : (TierSet.ofList ts).isEmpty = false then .ok ⟨.ofList ts, h⟩ else fault .emptySet

/-- Reads a set of containers, or null. -/
def readContainers? : Value → Reading (Option ContainerSet)
  | .null => .ok none
  | v => (v.readMembers readContainer).map fun cs => some (.ofList cs)

end Value

namespace Column

open Reading

/-- The name of the description, as faults give it. -/
def model : String := "ColumnDescriptor"

/-- Reads a column. -/
def ofValue : Value → Reading Column
  | .record fs =>
    let name := required fs "name" Value.readName
    let typeTag := required fs "abstract_type" Value.readName
    let encrypted := optional fs "encrypted" false Value.readFlag
    let tiers := required fs "sync_destinations" Value.readTiers
    let containers := optional fs "containers" none Value.readContainers?
    let isUnique := optional fs "is_unique" false Value.readFlag
    let relationalName := optional fs "relational_column_name" none Value.readText?
    match name, typeTag, encrypted, tiers, containers, isUnique, relationalName with
    | .ok n, .ok t, .ok e, .ok d, .ok c, .ok u, .ok r =>
      .ok ⟨n.1, t.1, e, d.1, c, u, r, n.2, t.2, d.2⟩
    | _, _, _, _, _, _, _ =>
      .error (name.faults ++ typeTag.faults ++ encrypted.faults ++ tiers.faults ++
        containers.faults ++ isUnique.faults ++ relationalName.faults)
  | _ => fault (.notRecord model)

/-- The description of a column. -/
def toValue (c : Column) : Value := .record [
  ("name", .text c.name),
  ("abstract_type", .text c.typeTag),
  ("encrypted", .bool c.encrypted),
  ("sync_destinations", .list (c.tiers.toList.map fun t => .text t.label)),
  ("containers",
    match c.containers with
    | none => .null
    | some s => .list (s.toList.map fun k => .text k.label)),
  ("is_unique", .bool c.isUnique),
  ("relational_column_name", .ofText? c.relationalName)]

end Column

namespace Table

open Reading

/-- The name of the description, as faults give it. -/
def model : String := "TableDescriptor"

/-- Reads the columns of a table: at least one of them has to be in order. -/
def readColumns : Value → Reading { cs : List Column // cs ≠ [] }
  | .list xs =>
    let rs := items Column.ofValue 0 xs
    let cs := values rs
    match rs.flatMap faults with
    | [] => if h : cs ≠ [] then .ok ⟨cs, h⟩ else fault .emptySequence
    | fs => .error (fs ++ if cs.isEmpty then [.here .emptySequence] else [])
  | _ => fault .notSequence

/-- Why a value is no table. -/
inductive Refusal where
  | faults (fs : List Fault)
  /-- The message about a rule that is broken cannot be written. -/
  | unwritable (halves : Text.Unwritable)
deriving DecidableEq, Repr

/-- Makes a table whose primary key is any text.  A key with halves is no column; that can be told only by a
message with the key, which cannot be written, so another broken rule comes first. -/
def buildKeyed (name : String) (columns : List Column) (primaryKey : Option Text)
    (name_ne : name ≠ "") (columns_ne : columns ≠ []) : Except Refusal Table :=
  let broken (f : TableFault) : Refusal := .faults [.here (.brokenRule f)]
  match primaryKey with
  | none => (build name columns none name_ne columns_ne).mapError broken
  | some key =>
    match key.written, fault? name columns none with
    | .ok key, _ => (build name columns (some key) name_ne columns_ne).mapError broken
    | .error _, some f => .error (broken f)
    | .error u, none => .error (.unwritable { u with place := TableFault.keyStart.length + u.place })

/-- Reads a table. -/
def ofValue : Value → Except Refusal Table
  | .record fs =>
    let name := required fs "table_name" Value.readName
    let columns := required fs "columns" readColumns
    let primaryKey := optional fs "primary_key" none Value.readText?
    match name, columns, primaryKey with
    | .ok n, .ok cs, .ok k => buildKeyed n.1 cs.1 k n.2 cs.2
    | _, _, _ => .error (.faults (name.faults ++ columns.faults ++ primaryKey.faults))
  | _ => .error (.faults [.here (.notRecord model)])

/-- The description of a table. -/
def toValue (t : Table) : Value := .record [
  ("table_name", .text t.name),
  ("primary_key", .ofString? t.primaryKey),
  ("columns", .list (t.columns.map Column.toValue))]

end Table

end SchemaScript
