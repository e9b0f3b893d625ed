/- # Statements from filled forms

A statement may be asked for by the name of a form, with the form's entries given as values of unknown
shape.  A form has entries that must be given and entries that may be; no other entry is taken.  First the
kinds of the entries are looked at, and a condition on a role is written; then the entries are written in the
order in which they stand in the statement, and the first one that cannot be decides the fault.
-/
import SchemaScript.Sql.Statement

namespace SchemaScript.Sql

/-- Why a form gives no statement. -/
inductive FormFault where
  /-- There is no group of forms of that name. -/
  | unknownGroup (group : Text)
  /-- There is no form of that name in its group. -/
  | unknownForm (group form : Text)
  /-- An entry is given that the form does not have. -/
  | unknownEntry (form : String) (entry : Text)
  /-- Entries that must be given are not. -/
  | missingEntries (form : String) (entries : List String)
  /-- An entry cannot be written. -/
  | unwritable (fault : Fault)
deriving DecidableEq, Repr

namespace FormFault

/-- Names between apostrophes, with commas and `and` as in a sentence. -/
def enumeration (names : List String) : String :=
  let quoted := names.map fun n => "'" ++ n ++ "'"
  match quoted with
  | [] => ""
  | [a] => a
  | [a, b] => a ++ " and " ++ b
  | _ => String.intercalate ", " quoted.dropLast ++ ", and " ++ quoted.getLastD ""

/-- The text of a fault. -/
def message : FormFault → Text
  | .unknownGroup group => "module 'core.schema.ddl_utils' has no attribute '" ++ group ++ "'"
  | .unknownForm group form => "type object '" ++ group ++ "' has no attribute '" ++ form ++ "'"
  | .unknownEntry form entry =>
    form ++ "() got an unexpected keyword argument '" ++ entry ++ "'"
  | .missingEntries form entries =>
    form ++ "() missing " ++ Text.decimal 1 entries.length ++ " required positional argument" ++
      (if entries.length = 1 then "" else "s") ++ ": " ++ enumeration entries
  | .unwritable fault => fault.message

end FormFault

/-- What a filled form gives: one text, or a list of them. -/
inductive Sheet where
  | single (sql : Text)
  | several (sqls : List Text)
deriving DecidableEq, Repr

/-- A form: its name, the entries that must be given, those that may be, and what it gives. -/
structure Form where
  name : String
  required : List String
  optional : List String := []
  write : Fields → Except Fault Sheet

namespace Form

/-- An entry that stands as text in the statement. -/
def wording (v : Value) : Except Fault Text :=
  match v.text? with
  | some t => .ok t
  | none => .error (.notText v.exact)

/-- An entry; null if it is not given. -/
def entry (fs : Fields) (name : String) : Value := (fs.get? name).getD .null

/-- An entry that stands as text in the statement. -/
def word (fs : Fields) (name : String) : Except Fault Text := wording (entry fs name)

/-- An entry that stands as text in the statement and has a default when it is not given. -/
def wordOr (fs : Fields) (name default : String) : Except Fault Text :=
  match fs.get? name with
  | some v => wording v
  | none => .ok default

/-- An entry for a name that is made up when no name is given. -/
def nameOr (fs : Fields) (name : String) (default : Text) : Except Fault Text :=
  let v := entry fs name
  if v.isPresent then wording v else .ok default

/-- An entry as a name shows it when the name is made up. -/
def shown (fs : Fields) (name : String) : Text := (entry fs name).plain

/-- A flag: whether the entry counts as present. -/
def flag (fs : Fields) (name : String) : Bool := (entry fs name).isPresent

/-- A column definition from its entries: it can be written if its name and its type can. -/
def columnDef (fs : Fields) : Except Fault (Except Fault ColumnDef) := do
  let name ← word fs "name"
  let sqlType ← word fs "sql_type"
  return do
    let name ← written name
    let sqlType ← written sqlType
    return ⟨name, sqlType, flag fs "not_null", flag fs "unique", flag fs "primary_key"⟩

/-- The form of a column definition. -/
def column : Form where
  name := "TableBuilder.column"
  required := ["name", "sql_type"]
  optional := ["not_null", "unique", "primary_key"]
  write fs := do return .single (← (← columnDef fs)).sql

/-- A name made up from a first word, a table and a column. -/
def conventional (start table column : Text) : Text := start ++ "_" ++ table ++ "_" ++ column

/-- The form of an index. -/
def index : Form where
  name := "IndexBuilder.btree"
  required := ["table", "column"]
  optional := ["name"]
  write fs := do
    let name ← nameOr fs "name"
      (conventional Statement.indexStart (shown fs "table") (shown fs "column"))
    let table ← word fs "table"
    let column ← word fs "column"
    let name ← written name
    return .single (Statement.createIndex name (← written table) (← written column)).sql

/-- The form of the name of an index. -/
def indexName : Form where
  name := "IndexBuilder._generate_index_name"
  required := ["table", "column"]
  optional := ["prefix"]
  write fs :=
    let start := ((fs.get? "prefix").getD (.text Statement.indexStart)).plain
    .ok (.single (conventional start (shown fs "table") (shown fs "column")))

/-- The form of a foreign key. -/
def foreignKey : Form where
  name := "ConstraintBuilder.foreign_key"
  required := ["table", "column", "referenced_table", "referenced_column"]
  optional := ["name"]
  write fs := do
    let table ← word fs "table"
    let name ← nameOr fs "name"
      (conventional Statement.foreignKeyStart (shown fs "table") (shown fs "column"))
    let column ← word fs "column"
    let referencedTable ← word fs "referenced_table"
    let referencedColumn ← word fs "referenced_column"
    let table ← written table
    let name ← written name
    let column ← written column
    return .single (Statement.addForeignKey name table column (← written referencedTable)
      (← written referencedColumn)).sql

/-- The form of the function that stamps rows. -/
def stampFunction : Form where
  name := "TriggerBuilder.updated_at_function"
  required := []
  optional := ["function_name"]
  write fs := do
    return .single (Statement.createStampFunction
      (← written (← wordOr fs "function_name" Statement.stampFunction))).sql

/-- The form of the trigger that calls it. -/
def stampTrigger : Form where
  name := "TriggerBuilder.updated_at_trigger"
  required := ["table"]
  optional := ["function_name", "trigger_name"]
  write fs := do
    let name ← nameOr fs "trigger_name" ("set_" ++ shown fs "table" ++ "_updated_at")
    let table ← word fs "table"
    let function ← wordOr fs "function_name" Statement.stampFunction
    let name ← written name
    let table ← written table
    let function ← written function
    return .several [(Statement.dropTrigger name table).sql,
      (Statement.createTrigger name table function).sql]

/-- The form of a column's comment. -/
def comment : Form where
  name := "CommentBuilder.column"
  required := ["table", "column", "comment"]
  write fs := do
    let table ← word fs "table"
    let column ← word fs "column"
    let text ← Constant.ofValue (entry fs "comment")
    let table ← written table
    return .single (Statement.comment table (← written column) text).sql

/-- The form that turns row security on. -/
def enableRowSecurity : Form where
  name := "PolicyBuilder.enable_rls"
  required := ["table"]
  write fs := do
    return .single (Statement.enableRowSecurity (← written (← word fs "table"))).sql

/-- The form of the condition on a column. -/
def ownerCheck : Form where
  name := "PolicyBuilder.ownership_check"
  required := ["column"]
  write fs := do return .single (Check.owner (← written (← word fs "column"))).sql

/-- The form of the condition on the role. -/
def roleCheck : Form where
  name := "PolicyBuilder.role_check"
  required := ["role"]
  write fs := do return .single (Check.role (← Constant.ofValue (entry fs "role"))).sql

/-- A condition: a kind, and the column, role or text that belongs to it.  A role is written at once, the
others when the condition is. -/
def check (v : Value) : Except Fault (Except Fault Check) :=
  match v with
  | .list [.text kind, part] =>
    match kind.string? with
    | some "owner" => do
      let column ← wording part
      return do return .owner (← written column)
    | some "role" => do
      let role ← Constant.ofValue part
      return .ok (.role role)
    | some "raw" => do
      let condition ← wording part
      return do return .raw (← written condition)
    | _ => .error (.notText v.exact)
  | _ => .error (.notText v.exact)

/-- The form of a policy. The name of the policy, which is made up from the table and the command, is written
first. -/
def policy : Form where
  name := "PolicyBuilder.policy"
  required := ["table", "command", "check"]
  write fs := do
    let condition ← check (entry fs "check")
    let command := entry fs "command"
    let some wanted := command.text? | throw (.notCommand command.kind)
    let table ← word fs "table"
    let _ ← written (table ++ "_auth_" ++ Text.lower wanted)
    return .single (Statement.createPolicy (← written table) (← written wanted) (← condition)).sql

/-- The form of all policies of a table. -/
def policySet : Form where
  name := "PolicyBuilder.policy_set"
  required := ["table", "check"]
  write fs := do
    let condition ← check (entry fs "check")
    let table ← word fs "table"
    let table ← written table
    let condition ← condition
    return .several ((Statement.policies table condition).map fun s => .ofString s.sql)

/-- The form that opens a transaction. -/
def transactionStart : Form where
  name := "SchemaUtils.begin"
  required := []
  write _ := .ok (.single Statement.begin.sql)

/-- The form that closes a transaction. -/
def transactionEnd : Form where
  name := "SchemaUtils.commit"
  required := []
  write _ := .ok (.single Statement.commit.sql)

/-- Whether an entry belongs to the form. -/
def takes (f : Form) (entry : Text) : Bool :=
  entry.string?.any (f.required ++ f.optional).contains

/-- Refuses entries that the form does not have, and asks for those that must be given. -/
def accept (f : Form) (fs : Fields) : Except FormFault Unit :=
  match fs.find? fun e => !f.takes e.1 with
  | some e => .error (.unknownEntry f.name e.1)
  | none =>
    match f.required.filter fun (name : String) => (fs.get? name).isNone with
    | [] => .ok ()
    | missing => .error (.missingEntries f.name missing)

/-- Gives what the form gives, if its entries fit it. -/
def fill (f : Form) (fs : Fields) : Except FormFault Sheet := do
  f.accept fs
  (f.write fs).mapError .unwritable

/-- Column definitions, each by the form of a column. -/
def columnDefs : List Value → Except FormFault (List (Except Fault ColumnDef))
  | [] => .ok []
  | v :: rest => do
    let fs := match v with
      | .record fs => fs
      | _ => []
    column.accept fs
    let c ← (columnDef fs).mapError .unwritable
    let cs ← columnDefs rest
    return c :: cs

/-- The name of the form of a table, whose columns are filled forms themselves. -/
def table : String := "TableBuilder.create"

/-- The statement that a filled form of a table gives. The columns are filled in before the form
itself is looked at. -/
def createTable (fs : Fields) : Except FormFault Sheet := do
  let columns ← columnDefs <|
    match fs.get? "columns" with
    | some (.list xs) => xs
    | _ => []
  fill { name := table, required := ["table", "columns"]
         write := fun fs => do
           let table ← written (← word fs "table")
           return .single (Statement.createTable table (← columns.mapM id)).sql } fs

/-- The forms but that of a table. -/
def all : List Form := [column, index, indexName, foreignKey, stampFunction, stampTrigger, comment,
  enableRowSecurity, ownerCheck, roleCheck, policy, policySet, transactionStart, transactionEnd]

/-- The group of a form and its name in it, which a dot sets apart. -/
def split (name : Text) : Text × Text :=
  let (group, rest) := name.span (· != .char '.')
  (group, rest.drop 1)

/-- The fault of a name that no form has. -/
def unknown (name : Text) : FormFault :=
  let (group, form) := split name
  if (table :: all.map Form.name).any fun n => (split n).1 = group then .unknownForm group form
  else .unknownGroup group

/-- What the form of a name gives when it is filled in. Where there is such a form, a condition is looked at
first of all. -/
def answer (name : Text) (fs : Fields) : Except FormFault Sheet := do
  let looked : Except FormFault Unit := do
    if let some v := fs.get? "check" then
      let _ ← (check v).mapError .unwritable
  if name = table then
    looked
    createTable fs
  else
    match all.find? fun f => decide (name = f.name) with
    | some f =>
      looked
      f.fill fs
    | none => .error (unknown name)

end Form

end SchemaScript.Sql
