/- # Metadata of tables

What the service tells about a table: its description, and with it the types of its columns in the
database, whether they reach the backend, and the rule of its policy.
-/
import SchemaScript.Policy
import SchemaScript.Table.Validation

namespace SchemaScript

namespace Column

/-- What is told about a column. -/
def metadata (c : Column) : Value := .record [
  ("name", .text c.name),
  ("abstract_type", .text c.typeTag),
  ("sql_type", .text (Sql.ColumnType.ofTag c.typeTag).sql),
  ("encrypted", .bool c.encrypted),
  ("is_unique", .bool c.isUnique),
  ("is_relational", .bool c.isRelational),
  ("sync_destinations", .list (c.tiers.toList.map fun t => .text t.label)),
  ("containers",
    match c.containers with
    | none => .null
    | some s => .list (s.toList.map fun k => .text k.label)),
  ("relational_column_name", .ofText? c.relationalName)]

end Column

namespace Table

/-- What is told about a table with a given rule of its policy. -/
def metadata (t : Table) (rule : Option Text) : Value := .record [
  ("table_name", .text t.name),
  ("primary_key", .ofString? t.primaryKey),
  ("is_relational", .bool t.isRelational),
  ("policy_rule", .ofText? rule),
  ("columns", .list (t.columns.map Column.metadata))]

/-- The name of the metadata, as faults give it. -/
def metadataModel : String := "TableResponse"

/-- What is told about a table when the rule comes as a value: it has to be a text or null. -/
def metadataFor (t : Table) (rule : Value) : Reading Value :=
  (Reading.under (.field "policy_rule") rule.readText?).map t.metadata

end Table

end SchemaScript
