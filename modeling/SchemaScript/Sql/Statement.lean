/- # Statements

The statements of the scripts, and how each is written.  Names stand in a statement as they are; only the
name of a policy is quoted.
-/
import SchemaScript.Sql.ColumnType
import SchemaScript.Sql.Constant

namespace SchemaScript.Sql

/-- A column of a table that is being created. -/
structure ColumnDef where
  name : String
  sqlType : String
  notNull : Bool := false
  unique : Bool := false
  primaryKey : Bool := false
deriving DecidableEq, Repr

/-- The column as its line writes it: name, type, and the constraints that apply. -/
def ColumnDef.sql (c : ColumnDef) : String :=
  "    " ++ c.name ++ " " ++ c.sqlType ++ (if c.notNull then " NOT NULL" else "") ++
    (if c.unique then " UNIQUE" else "") ++ if c.primaryKey then " PRIMARY KEY" else ""

/-- The condition of a policy. -/
inductive Check where
  /-- The caller's identity equals a column. -/
  | owner (column : String)
  /-- The caller holds a role. -/
  | role (constant : Constant)
  /-- A condition given as text. -/
  | raw (condition : String)
deriving DecidableEq, Repr

/-- The condition as a policy writes it. -/
def Check.sql : Check → String
  | .owner column => "auth.uid()::text = " ++ column ++ "::text"
  | .role constant => "auth.role() = " ++ constant.sql
  | .raw condition => condition

/-- A statement. -/
inductive Statement where
  | begin
  | commit
  | createTable (table : String) (columns : List ColumnDef)
  | comment (table column : String) (text : Constant)
  | createIndex (name table column : String)
  | addForeignKey (name table column referencedTable referencedColumn : String)
  | createStampFunction (name : String)
  | dropTrigger (name table : String)
  | createTrigger (name table function : String)
  | enableRowSecurity (table : String)
  | createPolicy (table command : String) (check : Check)
deriving DecidableEq, Repr

namespace Statement

/-- The commands that a table has policies for, in order. -/
def policyCommands : List String := ["SELECT", "INSERT", "UPDATE", "DELETE"]

/-- The name of a policy. -/
def policyName (table command : String) : String := table ++ "_auth_" ++ Text.lowerString command

/-- A name between double quotes, each double quote inside written twice. -/
def quotedName (name : String) : String :=
  String.ofList ('"' :: Constant.doubled '"' name.toList ++ ['"'])

/-- How a policy applies its condition: to new rows for insertions, to present ones otherwise. -/
def policyClause (command : String) : String :=
  if command = "INSERT" then "WITH CHECK" else "USING"

/-- A name made up from a first word, a table and a column. -/
def conventionalName (start table column : String) : String :=
  start ++ "_" ++ table ++ "_" ++ column

/-- The first word of the names of indexes. -/
def indexStart : String := "idx"

/-- The name of the index on a column. -/
def indexName (table column : String) : String := conventionalName indexStart table column

/-- The first word of the names of foreign keys. -/
def foreignKeyStart : String := "fk"

/-- The name of the foreign key of a column. -/
def foreignKeyName (table column : String) : String := conventionalName foreignKeyStart table column

/-- The name of the trigger that stamps a table's rows. -/
def triggerName (table : String) : String := "set_" ++ table ++ "_updated_at"

/-- The name of the function that those triggers call, unless another one is given. -/
def stampFunction : String := "update_modified_column"

/-- The statement as text, without the semicolon after it. -/
def sql : Statement → String
  | .begin => "BEGIN"
  | .commit => "COMMIT"
  | .createTable table columns =>
    "CREATE TABLE IF NOT EXISTS " ++ table ++ " (\n" ++
      String.intercalate ",\n" (columns.map ColumnDef.sql) ++ "\n)"
  | .comment table column text =>
    "COMMENT ON COLUMN " ++ table ++ "." ++ column ++ " IS " ++ text.sql
  | .createIndex name table column =>
    "CREATE INDEX IF NOT EXISTS " ++ name ++ " ON " ++ table ++ "(" ++ column ++ ")"
  | .addForeignKey name table column referencedTable referencedColumn =>
    "ALTER TABLE " ++ table ++ " ADD CONSTRAINT " ++ name ++ "\n    FOREIGN KEY (" ++ column ++
      ") REFERENCES " ++ referencedTable ++ "(" ++ referencedColumn ++ ") ON DELETE CASCADE"
  | .createStampFunction name =>
    "CREATE OR REPLACE FUNCTION " ++ name ++ "()\nRETURNS TRIGGER AS $$\nBEGIN\n" ++
      "    NEW.updated_at = now();\n    RETURN NEW;\nEND;\n$$ language 'plpgsql'"
  | .dropTrigger name table => "DROP TRIGGER IF EXISTS " ++ name ++ " ON " ++ table
  | .createTrigger name table function =>
    "CREATE TRIGGER " ++ name ++ "\nBEFORE UPDATE ON " ++ table ++
      "\nFOR EACH ROW\nEXECUTE FUNCTION " ++ function ++ "()"
  | .enableRowSecurity table => "ALTER TABLE " ++ table ++ " ENABLE ROW LEVEL SECURITY"
  | .createPolicy table command check =>
    "CREATE POLICY " ++ quotedName (policyName table command) ++ " ON " ++ table ++ " FOR " ++
      command ++ "\n    " ++ policyClause command ++ " (" ++ check.sql ++ ")"

/-- One policy per command, all with one condition. -/
def policies (table : String) (check : Check) : List Statement :=
  policyCommands.map fun command => .createPolicy table command check

/-- The statements that give a table its trigger: any older one is dropped first. -/
def stampTrigger (table function : String) : List Statement :=
  [.dropTrigger (triggerName table) table, .createTrigger (triggerName table) table function]

end Statement

end SchemaScript.Sql
