/- # Columns and tables by their names

The names of a table's columns are distinct, so a column that is found by its name is the one column of that
name, and a question about the column that is found can be asked of all columns alike.  A registry may hold
two tables of one name; where its names are distinct, tables are found in the same way.
-/
import Mathlib.Data.List.Nodup
import SchemaScript.Generator

namespace SchemaScript

namespace Table

/-- No two columns of a table share a name. -/
theorem column_eq_of_name_eq {t : Table} {c c' : Column} (hc : c ∈ t.columns) (hc' : c' ∈ t.columns)
    (h : c.name = c'.name) : c = c' :=
  List.inj_on_of_nodup_map t.wellFormed.distinct hc hc' h

theorem column?_eq_some_iff {t : Table} {name : String} {c : Column} :
    t.column? name = some c ↔ c ∈ t.columns ∧ c.name = name := by
  constructor
  · intro h
    have hname := List.find?_some h
    simp only [decide_eq_true_eq, Text.ofString_inj] at hname
    exact ⟨List.mem_of_find?_eq_some h, hname.symm⟩
  · rintro ⟨hc, rfl⟩
    cases h : t.column? c.name with
    | none =>
        have := List.find?_eq_none.mp h c hc
        simp at this
    | some c' =>
        have hname := List.find?_some h
        simp only [decide_eq_true_eq, Text.ofString_inj] at hname
        rw [column_eq_of_name_eq (List.mem_of_find?_eq_some h) hc hname.symm]

theorem mem_relationalColumns {t : Table} {c : Column} :
    c ∈ t.relationalColumns ↔ c ∈ t.columns ∧ c.isRelational = true :=
  List.mem_filter

/-- The key of a table of which anything is in the backend is there, too. -/
theorem key_mem_relationalColumns {t : Table} {key : String} (hkey : t.primaryKey = some key)
    (h : t.relationalColumns ≠ []) : ∃ c ∈ t.relationalColumns, c.name = key := by
  obtain ⟨c, hc, hname⟩ := t.wellFormed.key_mem key hkey
  obtain ⟨d, hd⟩ := List.exists_mem_of_ne_nil _ h
  rw [mem_relationalColumns] at hd
  exact ⟨c, mem_relationalColumns.mpr
    ⟨hc, t.wellFormed.key_relational key hkey ⟨d, hd⟩ c hc hname⟩, hname⟩

end Table

namespace Generator

/-- The first column of a name is carried exactly when some carried column has the name. -/
theorem isStamped_iff {t : Table} :
    isStamped t = true ↔ ∃ c ∈ t.relationalColumns, c.name = stampColumn := by
  simp only [isStamped]
  constructor
  · intro h
    obtain ⟨c, hc, hrel⟩ := (Option.any_eq_true _ _).mp h
    obtain ⟨hmem, hname⟩ := Table.column?_eq_some_iff.mp hc
    exact ⟨c, Table.mem_relationalColumns.mpr ⟨hmem, hrel⟩, hname⟩
  · rintro ⟨c, hc, hname⟩
    obtain ⟨hmem, hrel⟩ := Table.mem_relationalColumns.mp hc
    rw [Table.column?_eq_some_iff.mpr ⟨hmem, hname⟩]
    exact hrel

end Generator

namespace Registry

theorem mem_of_table? {r : Registry} {name : Text} {t : Table} (h : r.table? name = some t) :
    t ∈ r.tables :=
  List.mem_of_find?_eq_some h

/-- Where names are distinct, no two tables share one. -/
theorem table_eq_of_name_eq {r : Registry} (hr : r.names.Nodup) {t t' : Table} (ht : t ∈ r.tables)
    (ht' : t' ∈ r.tables) (h : t.name = t'.name) : t = t' :=
  List.inj_on_of_nodup_map hr ht ht' h

theorem table?_eq_some_iff {r : Registry} (hr : r.names.Nodup) {name : Text} {t : Table} :
    r.table? name = some t ↔ t ∈ r.tables ∧ name = t.name := by
  constructor
  · intro h
    exact ⟨mem_of_table? h, name_of_table? h⟩
  · rintro ⟨ht, rfl⟩
    obtain ⟨t', ht'⟩ := Option.isSome_iff_exists.mp
      ((r.contains_iff t.name).mpr (List.mem_map_of_mem ht))
    have hname : t.name = t'.name := Text.ofString_inj.mp (name_of_table? ht')
    rw [ht', table_eq_of_name_eq hr ht (mem_of_table? ht') hname]

end Registry

end SchemaScript
