/- # Generating scripts

The scripts for a registry of tables: the tables with their indexes, the foreign keys, the triggers that
stamp changed rows, the policies, and all of them together.  Only columns that are carried to the backend
appear; a table without such columns appears in no script.  What goes into a script is decided by
functions on tables; the runs at the end put the scripts together, read the clock for their stamps and
keep a log.
-/
import SchemaScript.Naming
import SchemaScript.Policy
import SchemaScript.Registry
import SchemaScript.Run
import SchemaScript.Script
import SchemaScript.Settings

namespace SchemaScript

open Sql (Statement)

/-- A generator: the tables, and the settings. -/
structure Generator where
  registry : Registry
  settings : Settings := {}

namespace Generator

/-! ## Tables -/

/-- The definition of a column: the primary key is not null. -/
def columnDef (t : Table) (c : Column) : Sql.ColumnDef where
  name := c.name
  sqlType := (Sql.ColumnType.ofTag c.typeTag).sql
  notNull := t.isKey c
  unique := c.isUnique
  primaryKey := t.isKey c

/-- The statement that creates a table. -/
def createTable (t : Table) : Statement :=
  .createTable t.name (t.relationalColumns.map (columnDef t))

/-- The columns of a table that are commented on. -/
def encryptedColumns (t : Table) : List Column := t.relationalColumns.filter (·.encrypted)

/-- The comment on an encrypted column. -/
def comment (g : Generator) (t : Table) (c : Column) : Except Sql.Fault Statement := do
  return .comment t.name c.name (← Sql.Constant.ofValue g.settings.encryptedComment)

/-- The statements for a table: its creation, and a comment for each encrypted column. -/
def tableStatements (g : Generator) (t : Table) : Except Sql.Fault (List Statement) :=
  if t.relationalColumns.isEmpty then .ok []
  else do return createTable t :: (← (encryptedColumns t).mapM (g.comment t))

/-- The script for a table, from its statements. -/
def tableScript (t : Table) : List Statement → Script
  | [] => []
  | create :: comments =>
    [.remark ("Create table " ++ t.name ++ " if it doesn't exist"), .statement create, .blank] ++
      if comments.isEmpty then []
      else
        .remark "Fields marked as encrypted in the client application" ::
          Script.ofStatements comments ++ [.blank]

/-! ## Indexes -/

/-- The index on a column. -/
def index (t : Table) (column : String) : Statement :=
  .createIndex (Statement.indexName t.name column) t.name column

/-- The columns that get an index by their names. -/
def indexedColumns (t : Table) : List Column :=
  t.relationalColumns.filter fun c => !t.isKey c && Naming.wantsIndex c.name

/-- The indexes of a table: on the primary key, and on the columns that want one. -/
def indexes (t : Table) : List Statement :=
  if t.relationalColumns.isEmpty then []
  else (t.primaryKey.toList ++ (indexedColumns t).map (·.name)).map (index t)

/-- The indexes of a table as a part of a script. -/
def indexScript (t : Table) : Script :=
  match indexes t with
  | [] => []
  | statements => Script.ofStatements statements ++ [.blank]

/-! ## Foreign keys -/

/-- What the name of a column refers to. -/
inductive Reference where
  /-- No table has a fitting name. -/
  | unknown
  /-- The table has no primary key. -/
  | keyless (table : String)
  | found (table key : String)
deriving DecidableEq, Repr

/-- What a column refers to. -/
def reference (g : Generator) (column : String) : Reference :=
  match (Naming.referenced? (g.registry.names.map .ofString) column).bind g.registry.table? with
  | none => .unknown
  | some t =>
    match t.primaryKey with
    | none => .keyless t.name
    | some key => .found t.name key

/-- The columns of a table whose names are those of references. -/
def referringColumns (t : Table) : List Column :=
  t.relationalColumns.filter fun c =>
    !t.isKey c && Text.endsWith c.name Naming.referenceEnding

/-- The foreign key of a column, if it refers to a table with a key. -/
def foreignKey? (g : Generator) (t : Table) (c : Column) : Option Statement :=
  match g.reference c.name with
  | .found table key =>
    some (.addForeignKey (Statement.foreignKeyName t.name c.name) t.name c.name table key)
  | _ => none

/-- The foreign keys of a table. -/
def tableForeignKeys (g : Generator) (t : Table) : List Statement :=
  (referringColumns t).filterMap (g.foreignKey? t)

/-- All foreign keys, in the order of the registry. -/
def foreignKeys (g : Generator) : List Statement := g.registry.tables.flatMap g.tableForeignKeys

/-- The message about a column that gets no foreign key. -/
def skipMessage? (g : Generator) (t : Table) (c : Column) : Option String :=
  match g.reference c.name with
  | .unknown => some ("No table matches " ++ t.name ++ "." ++ c.name)
  | .keyless table =>
    some (t.name ++ "." ++ c.name ++ " -> " ++ table ++ " skipped, " ++ table ++
      " has no primary key")
  | .found _ _ => none

/-- The messages about the columns that get no foreign key, in order. -/
def skipMessages (g : Generator) : List String :=
  g.registry.tables.flatMap fun t => (referringColumns t).filterMap (g.skipMessage? t)

/-- The script of the foreign keys. -/
def foreignKeysScript (g : Generator) : Script :=
  [.remark "Foreign Key Relationships", .blank, .statement .begin, .blank] ++
    Script.spaced g.foreignKeys ++ [.statement .commit]

/-! ## Triggers -/

/-- The column whose values the triggers stamp. -/
def stampColumn : String := "updated_at"

/-- Whether a table has that column in the backend. -/
def isStamped (t : Table) : Bool := (t.column? stampColumn).any (·.isRelational)

/-- The tables that get a trigger. -/
def stampedTables (g : Generator) : List Table := g.registry.tables.filter isStamped

/-- The function that the triggers call, as statements write it. -/
def stampFunction (g : Generator) : Except Sql.Fault String :=
  match g.settings.triggerFunction.text? with
  | some name => Sql.written name
  | none => .error (.notText g.settings.triggerFunction.exact)

/-- The statements that give the tables their triggers, two for each table. -/
def stampTriggers (g : Generator) (function : String) : List Statement :=
  g.stampedTables.flatMap fun t => Statement.stampTrigger t.name function

/-- The statements for triggers that call a function: the function, then two for each table. -/
def triggers (g : Generator) (function : String) : List Statement :=
  .createStampFunction function :: g.stampTriggers function

/-- Every other item of a list, from the first one on. -/
def everyOther {α : Type} : List α → List α
  | [] => []
  | [a] => [a]
  | a :: _ :: rest => a :: everyOther rest

/-- The part of the script for the trigger of a table: an older one is dropped, and the trigger is created. -/
def triggerScript (t : Table) (drop create : Statement) : Script :=
  [.remark ("Add updated_at trigger for " ++ t.name), .statement drop, .statement create, .blank]

/-- The parts of the script for some tables, each of which takes two of the statements. -/
def triggerScripts (tables : List Table) (statements : List Statement) : List Script :=
  (tables.zip ((everyOther statements).zip (everyOther statements.tail))).map fun p =>
    triggerScript p.1 p.2.1 p.2.2

/-- The script of the triggers, put together from the statements for them. -/
def joinTriggers (tables : List Table) : List Statement → Script
  | [] => []
  | function :: triggers =>
    [.remark "Custom Functions and Triggers", .blank, .statement .begin, .blank,
      .remark "Function to automatically update updated_at timestamp", .statement function, .blank] ++
    (triggerScripts tables triggers).flatten ++ [.statement .commit]

/-- The script of the triggers; there is none if the name of their function cannot be written. -/
def triggersScript (g : Generator) : Except Sql.Fault Script := do
  return joinTriggers g.stampedTables (g.triggers (← g.stampFunction))

/-! ## Policies -/

/-- The policy of a table; none if nothing of the table is in the backend. -/
def policy? (g : Generator) (t : Table) : Except Sql.Fault (Option PolicySelection) :=
  if t.relationalColumns.isEmpty then .ok none
  else do
    let basis := PolicyBasis.ofTable t t.relationalColumns
    return some (← basis.selection g.settings.authenticatedRole)

/-- The statements for a policy: row security, and one policy per command. -/
def policyStatements (t : Table) (p : PolicySelection) : List Statement :=
  .enableRowSecurity t.name :: Statement.policies t.name p.check

/-- The statements for the policy of a table. -/
def policies (g : Generator) (t : Table) : Except Sql.Fault (List Statement) := do
  return ((← g.policy? t).map (policyStatements t)).getD []

/-- Where a policy is selected, the statements are those for it. -/
theorem policies_of_policy? {g : Generator} {t : Table} {p : PolicySelection}
    (h : g.policy? t = .ok (some p)) : g.policies t = .ok (policyStatements t p) := by
  rw [policies, h]
  rfl

/-- The part of the script for the policy of a table, from its statements: what the policy is about is said
after row security is turned on. -/
def policyScript (p : PolicySelection) : List Statement → Script
  | [] => []
  | enable :: policies => [.statement enable, .remark p.comment] ++ Script.spaced policies

/-! ## Runs -/

/-- The logger of the generator. -/
def logger : Log.Logger := ⟨"core.schema.sql_generator", some .generator⟩

/-- Writes a record of a detail. -/
def detail (message : Text) : Run Unit := Run.note logger Log.Level.debug message

/-- Writes a record of progress. -/
def progress (message : Text) : Run Unit := Run.note logger Log.Level.info message

/-- The script for one table; empty if nothing of the table is in the backend. -/
def generateTable (g : Generator) (t : Table) : Run Script :=
  Run.within { table := some (.text t.name), operation := some (.text "create_table") } do
    let statements ← liftExcept (g.tableStatements t)
    match statements with
    | [] => detail "No relational columns, skipping table"
    | _ :: comments =>
      detail ("Generated table with " ++ Text.decimal 1 comments.length ++
        " encrypted column comments")
    return tableScript t statements

/-- The foreign keys, and a record for each column that gets none. -/
def generateForeignKeys (g : Generator) : Run (List Statement) := do
  g.skipMessages.forM fun message => detail message
  progress ("Inferred " ++ Text.decimal 1 g.foreignKeys.length ++ " foreign keys")
  return g.foreignKeys

/-- The label that some tables are generated under: the given one or, without one, that of the
settings. -/
def labelFor (g : Generator) (label : Value) : Value :=
  if label.isPresent then label else g.settings.schemaLabel

/-- The script of some tables, put together from the scripts for each of them. -/
def joinTables (g : Generator) (label : Value) (time : Instant) (tables : List Table)
    (parts : List Script) : Script :=
  [.remark ("Generated SQL for " ++ g.settings.backendLabel.plain ++
      " from DataSync schema: " ++ label.plain), .stamp time, .blank, .statement .begin, .blank] ++
    parts.flatten ++ [.remark "Create indexes for better query performance"] ++
    tables.flatMap indexScript ++ [.statement .commit]

/-- The script of some tables, under a label; without one, under that of the settings. -/
def generateTables (g : Generator) (label : Value) (tables : List Table) : Run Script :=
  Run.within { schemaLabel := some (g.labelFor label), operation := some (.text "tables") } do
    let time ← Run.now
    let parts ← tables.mapM g.generateTable
    let emitted := (parts.filter (!·.isEmpty)).length
    Run.journal (·.checkpoint (.text "tables_script_generated")
      (.record [("tables", .int emitted)]))
    return g.joinTables (g.labelFor label) time tables parts

/-- The script of all tables. -/
def tablesScript (g : Generator) : Run Script := g.generateTables .null g.registry.tables

/-- What stands in for the script of a table that is not registered. -/
def unknownTable (name : Text) : Text := "-- Schema not found for table: " ++ name

/-- Tells that a table is not registered. -/
def missingTable (name : Text) : Run Text := do
  progress ("Schema not found for table: " ++ name)
  return unknownTable name

/-- The text of the script of one table, or what stands in for it. -/
def tableText (g : Generator) (name : Text) : Run Text :=
  match g.registry.table? name with
  | none => missingTable name
  | some t => do return (← g.generateTables (.text name) [t]).text

/-- The text for a name of any kind; no table has a name that is no text. -/
def tableTextFor (g : Generator) (name : Value) : Run Text :=
  match name.text? with
  | some name => g.tableText name
  | none => missingTable name.plain

/-- The script of the foreign keys. -/
def generateForeignKeysScript (g : Generator) : Run Script := do
  let _ ← g.generateForeignKeys
  return g.foreignKeysScript

/-- The script of the policy of a table. -/
def generatePolicy (g : Generator) (t : Table) : Run Script :=
  Run.within { table := some (.text t.name), operation := some (.text "rls") } do
    match ← liftExcept (g.policy? t) with
    | none => return []
    | some p =>
      detail ("Policy rule '" ++ p.rule.name ++ "' selected")
      let statements ← liftExcept (g.policies t)
      return policyScript p statements

/-- The script of the policies, put together from the parts for each table. -/
def joinPolicies (parts : List Script) : Script :=
  [.remark "Setup Row Level Security policies", .statement .begin, .blank] ++
    parts.flatten ++ [.statement .commit]

/-- The script of the policies. -/
def policiesScript (g : Generator) : Run Script := do
  let parts ← g.registry.tables.mapM g.generatePolicy
  return joinPolicies parts

/-- All scripts in one, under a header of their own. -/
def joinAll (g : Generator) (time : Instant) (tables foreignKeys triggers policies : Script) :
    Script :=
  [.remark ("Complete " ++ g.settings.backendLabel.plain ++ " Setup Script"), .stamp time, .blank] ++
    tables ++ .blank :: foreignKeys ++ .blank :: triggers ++ .blank :: policies

/-- All scripts in one: tables, foreign keys, triggers, policies. -/
def completeScript (g : Generator) : Run Script := do
  let time ← Run.now
  let tables ← g.tablesScript
  let foreignKeys ← g.generateForeignKeysScript
  let triggers ← liftExcept g.triggersScript
  let policies ← g.policiesScript
  progress ("Generated complete script for " ++ Text.decimal 1 g.registry.size ++
    " registered tables")
  return g.joinAll time tables foreignKeys triggers policies

end Generator

/-- The scripts that can be asked for by themselves. -/
inductive ScriptPart where
  | complete
  | tables
  | foreignKeys
  | triggers
  | policies
deriving DecidableEq, Repr

namespace ScriptPart

/-- The script that a generator gives. -/
def generate (p : ScriptPart) (g : Generator) : Run Script :=
  match p with
  | .complete => g.completeScript
  | .tables => g.tablesScript
  | .foreignKeys => g.generateForeignKeysScript
  | .triggers => liftExcept g.triggersScript
  | .policies => g.policiesScript

end ScriptPart

end SchemaScript
