/- # The registry of tables

An ordered list of tables, looked up by name.  A name may occur more than once; every look-up takes the
first table of that name, and the later ones are warned about when the registry is made.
-/
import SchemaScript.Log.Journal
import SchemaScript.Table.Application

namespace SchemaScript

/-- The registered tables, in the order of generation. -/
structure Registry where
  tables : List Table
deriving DecidableEq

namespace Registry

/-- The names of the tables, in order. -/
def names (r : Registry) : List String := r.tables.map (·.name)

/-- The number of tables. -/
def size (r : Registry) : Nat := r.tables.length

/-- The first table of a name. -/
def table? (r : Registry) (name : Text) : Option Table :=
  r.tables.find? fun t => decide (name = t.name)

/-- Whether there is a table of a name. -/
def contains (r : Registry) (name : Text) : Bool := (r.table? name).isSome

/-- The place of the first table of a name. -/
def index? (r : Registry) (name : Text) : Option Nat :=
  r.tables.findIdx? fun t => decide (name = t.name)

/-- The column of a name in the first table of a name. -/
def column? (r : Registry) (table column : Text) : Option Column :=
  (r.table? table).bind (·.column? column)

/-- The primary key of the first table of a name. -/
def primaryKey? (r : Registry) (table : Text) : Option String :=
  (r.table? table).bind (·.primaryKey)

/-- The tiers of a column. -/
def tiers? (r : Registry) (table column : Text) : Option TierSet :=
  (r.column? table column).map (·.tiers)

/-- Whether a column is encrypted. -/
def isEncrypted? (r : Registry) (table column : Text) : Option Bool :=
  (r.column? table column).map (·.encrypted)

/-- The containers of a column. -/
def containers? (r : Registry) (table column : Text) : Option ContainerSet :=
  (r.column? table column).bind (·.containers)

/-- Whether a column is unique. -/
def isUnique? (r : Registry) (table column : Text) : Option Bool :=
  (r.column? table column).map (·.isUnique)

/-- A name is registered exactly when a table has it. -/
theorem contains_iff (r : Registry) (name : String) : r.contains name = true ↔ name ∈ r.names := by
  simp only [contains, table?, names, List.find?_isSome, decide_eq_true_eq, Text.ofString_inj,
    List.mem_map]
  constructor <;> rintro ⟨t, ht, h⟩ <;> exact ⟨t, ht, h.symm⟩

/-- A table that is found has the name that was looked up. -/
theorem name_of_table? {r : Registry} {name : Text} {t : Table} (h : r.table? name = some t) :
    name = t.name := by
  simpa using List.find?_some h

/-! ## The log of its making -/

/-- The names that come after a table of the same name, in order; `seen` are the names before. -/
def repeatsAfter (seen : List String) : List String → List String
  | [] => []
  | n :: rest => if n ∈ seen then n :: repeatsAfter seen rest else repeatsAfter (n :: seen) rest

/-- The names that repeat an earlier one, in order. -/
def repeats (r : Registry) : List String := repeatsAfter [] r.names

/-- The logger of the registry. -/
def logger : String := "core.schema.registry"

/-- The warning about a repeated name. -/
def repeatMessage (name : String) : String :=
  "Duplicate table '" ++ name ++ "' in registry; lookups resolve to the first definition"

/-- The message about the registry that was made. -/
def madeMessage (r : Registry) : String :=
  "SchemaRegistry created with " ++ Text.decimal 1 r.size ++ " tables"

/-- The journal after the registry was made. -/
def announce (r : Registry) (j : Log.Journal) : Log.Journal :=
  let warned := r.repeats.foldl
    (fun j name => j.write (.int Log.Level.warning) logger (repeatMessage name) none) j
  warned.write (.int Log.Level.debug) logger r.madeMessage none

/-- The registry of the application. -/
def application : Registry := ⟨Table.application⟩

end Registry

end SchemaScript
