/-
# Which columns get an index

## What is proved

The indexes of a table are on its key, if it has one, and then, in order, on the other columns that are carried and whose
names end in `_id` or have `name` or `date` in them; no column has two.  A table has no index if it carries no column, and
also if it carries some but has neither a key nor a column of such a name.

The columns that rows are looked for by are among them: that of a foreign key, that by which a policy tells the owner of a
row, and the one that the triggers stamp.

## How

Four rules on names are written down apart from each other.  That they agree is seen column by column: a column that is
carried gets an index if it is the key or has the name (`mem_indexes_of_carries`), and whatever makes one of the other
rules choose a column gives one or the other.
-/
import SchemaScript.Proofs.IndexNames
import SchemaScript.Proofs.Lookup
import SchemaScript.Proofs.References
import SchemaScript.Proofs.RowSecurity

namespace SchemaScript

open Sql (Statement Check)
open Text (ofString)
open Generator (index indexes)

/-! ## Names that call for an index -/

/-- The name ends in `_id`, or has `name` or `date` in it. -/
def HasIndexName (name : String) : Prop :=
  "_id".toList <:+ name.toList ∨ "name".toList <:+: name.toList ∨ "date".toList <:+: name.toList

instance (name : String) : Decidable (HasIndexName name) :=
  inferInstanceAs (Decidable
    ("_id".toList <:+ name.toList ∨ "name".toList <:+: name.toList ∨ "date".toList <:+: name.toList))

theorem Text.endsWith_ofString_iff {s part : String} :
    Text.endsWith (ofString s) (ofString part) = true ↔ part.toList <:+ s.toList := by
  rw [Text.endsWith_iff]
  constructor
  · rintro ⟨t, h⟩
    obtain ⟨base, rfl, _⟩ := Text.ofString_eq_append_iff.mp h
    exact ⟨base.toList, String.toList_append.symm⟩
  · rintro ⟨cs, h⟩
    refine ⟨Text.ofChars cs, ?_⟩
    rw [ofString, ← h]
    exact List.map_append

theorem Naming.wantsIndex_iff {name : String} : Naming.wantsIndex (ofString name) = true ↔ HasIndexName name := by
  simp only [wantsIndex, indexPatterns, List.any_cons, List.any_nil, NamePattern.test, Bool.or_false,
    Bool.or_eq_true, Text.endsWith_ofString_iff, Text.includes_ofString_iff]
  rfl

/-! ## The indexes of a table -/

namespace Table

variable (t : Table)

/-- The columns of a table that get an index: its key, and then the others that are carried and named so. -/
def indexed : List String :=
  t.primaryKey.toList ++
    (t.relationalColumns.filter fun c => decide (t.primaryKey ≠ some c.name ∧ HasIndexName c.name)).map (·.name)

end Table

/-- The text of the statement that creates an index. -/
def indexText (table column : String) : String :=
  "CREATE INDEX IF NOT EXISTS " ++ ("idx_" ++ table ++ "_" ++ column) ++ " ON " ++ table ++ "(" ++ column ++ ")"

namespace Generator

variable {t : Table}

theorem indexedColumns_eq_filter (t : Table) : indexedColumns t =
    t.relationalColumns.filter fun c => decide (t.primaryKey ≠ some c.name ∧ HasIndexName c.name) := by
  refine List.filter_congr fun c _ => ?_
  rw [Bool.eq_iff_iff, Bool.and_eq_true, Naming.wantsIndex_iff, decide_eq_true_eq]
  simp [Table.isKey]

theorem indexedNames_eq (h : t.relationalColumns ≠ []) : indexedNames t = t.indexed := by
  rw [indexedNames, if_neg fun hempty => h (List.isEmpty_iff.mp hempty), indexedColumns_eq_filter]
  rfl

theorem indexes_of_uncarried (h : t.relationalColumns = []) : indexes t = [] := by
  rw [indexes, h]
  rfl

theorem indexes_eq_indexed (h : t.relationalColumns ≠ []) : indexes t = t.indexed.map (index t) := by
  rw [indexes_eq_map, indexedNames_eq h]

theorem nodup_indexed (t : Table) : t.indexed.Nodup := by
  by_cases h : t.relationalColumns = []
  · rw [Table.indexed, h, List.filter_nil, List.map_nil, List.append_nil]
    cases t.primaryKey with
    | none => exact List.nodup_nil
    | some key => exact List.nodup_singleton key
  · rw [← indexedNames_eq h]
    exact nodup_indexedNames t

theorem indexes_eq_nil_iff : indexes t = [] ↔
    t.relationalColumns = [] ∨ (t.primaryKey = none ∧ ∀ c ∈ t.relationalColumns, ¬ HasIndexName c.name) := by
  by_cases h : t.relationalColumns = []
  · exact iff_of_true (indexes_of_uncarried h) (.inl h)
  rw [or_iff_right h, indexes_eq_indexed h, List.map_eq_nil_iff, Table.indexed, List.append_eq_nil_iff,
    List.map_eq_nil_iff, List.filter_eq_nil_iff, Option.toList_eq_nil_iff]
  refine and_congr_right fun hkey => forall₂_congr fun c _ => ?_
  rw [hkey, decide_eq_true_eq, and_iff_right (Option.some_ne_none c.name).symm]

/-- A column that is carried gets an index if it is the key, or for its name. -/
theorem mem_indexes_of_carries {column : String} (h : t.Carries column)
    (hcolumn : t.primaryKey = some column ∨ HasIndexName column) : index t column ∈ indexes t := by
  obtain ⟨c, hc, rfl⟩ := h
  rw [indexes_eq_indexed (List.ne_nil_of_mem hc)]
  refine List.mem_map_of_mem (List.mem_append.mpr ?_)
  by_cases hkey : t.primaryKey = some c.name
  · exact .inl (Option.mem_toList.mpr hkey)
  · have hname := hcolumn.resolve_left hkey
    exact .inr (List.mem_map_of_mem (List.mem_filter.mpr ⟨hc, decide_eq_true ⟨hkey, hname⟩⟩))

/-! ## The columns that rows are looked for by -/

/-- A foreign key is on a column with an index. -/
theorem indexed_of_mem_foreignKeys {g : Generator} {s : Statement} (h : s ∈ g.foreignKeys) :
    ∃ t ∈ g.registry.tables, ∃ c ∈ t.relationalColumns, ∃ name table key,
      s = .addForeignKey name t.name c.name table key ∧ index t c.name ∈ indexes t := by
  rw [foreignKeys_eq_inferred] at h
  obtain ⟨t, ht, hs⟩ := List.mem_flatMap.mp h
  obtain ⟨c, hc, hs⟩ := List.mem_filterMap.mp hs
  cases inferred?_eq_some_iff.mp hs with
  | foreignKey _ hrefers _ _ =>
      obtain ⟨base, hbase⟩ := hrefers.exists_base
      have hname : HasIndexName c.name := .inl ⟨base.toList, by rw [hbase, String.toList_append]⟩
      exact ⟨t, ht, c, hc, _, _, _, rfl, mem_indexes_of_carries ⟨c, hc, rfl⟩ (.inr hname)⟩

/-- A policy with a key column compares this column with the caller, and no other policy compares one. -/
theorem keyColumn_eq_some_iff {b : PolicyBasis} {role : Value} {p : PolicySelection} (h : b.selection role = .ok p)
    {column : String} : p.keyColumn = some column ↔ p.check = .owner column := by
  cases b with
  | userKey key | owner key =>
      cases h
      exact ⟨fun h => congrArg _ (Option.some.inj h), fun h => congrArg _ (Check.owner.inj h)⟩
  | anyone =>
      obtain ⟨constant, _, hp⟩ := bind_eq_ok_iff.mp h
      cases hp
      exact iff_of_false nofun nofun

/-- The column that a policy tells the owner of a row by has an index. -/
theorem indexed_of_policy? {g : Generator} {p : PolicySelection} (h : g.policy? t = .ok (some p)) (column : String) :
    (p.keyColumn = some column ↔ p.check = .owner column) ∧
      (p.keyColumn = some column → index t column ∈ indexes t) := by
  rcases policy?_eq_ok h with ⟨_, hnone⟩ | ⟨hcolumns, p', hp, hsome⟩
  · cases hnone
  cases hsome
  refine ⟨keyColumn_eq_some_iff hp, fun hcolumn => ?_⟩
  rw [(PolicyBasis.rule_of_selection hp).2] at hcolumn
  rcases PolicyBasis.ofTable_cases t with ⟨key, _, hkey, hbasis⟩ | ⟨_, huser, hbasis⟩ | ⟨_, _, howner, hbasis⟩ |
    ⟨_, _, _, hbasis⟩
  all_goals rw [hbasis] at hcolumn; cases hcolumn
  · exact mem_indexes_of_carries (Table.key_mem_relationalColumns hkey hcolumns) (.inl hkey)
  · exact mem_indexes_of_carries huser (.inr (by decide))
  · exact mem_indexes_of_carries howner (.inr (by decide))

/-- The column that the triggers stamp has an index. -/
theorem indexed_of_mem_stampedTables {g : Generator} (h : t ∈ g.stampedTables) : index t stampColumn ∈ indexes t :=
  mem_indexes_of_carries (isStamped_iff.mp (List.mem_filter.mp h).2) (.inr (by decide))

end Generator

/-! ## All of them are chosen -/

/-- The indexes of a table are on its key and on the carried columns of such names, in order and each once, and there are
none exactly if no column is carried or there is neither a key nor such a name.  The columns of foreign keys, those by
which policies tell the owner, and those that triggers stamp have an index. -/
theorem indexes_cover_what_is_looked_up (g : Generator) :
    (∀ t : Table,
      (indexes t = [] ↔
        t.relationalColumns = [] ∨ (t.primaryKey = none ∧ ∀ c ∈ t.relationalColumns, ¬ HasIndexName c.name)) ∧
      (t.relationalColumns ≠ [] →
        indexes t = t.indexed.map (index t) ∧
        (indexes t).map Statement.sql = t.indexed.map (indexText t.name)) ∧
      t.indexed.Nodup) ∧
    (∀ session fks, (g.generateForeignKeys.outcome session).1 = .ok fks →
      ∀ s ∈ fks, ∃ t ∈ g.registry.tables, ∃ c ∈ t.relationalColumns, ∃ name table key,
        s = .addForeignKey name t.name c.name table key ∧ index t c.name ∈ indexes t) ∧
    (∀ t p, g.policy? t = .ok (some p) → ∀ column,
      (p.keyColumn = some column ↔ p.check = .owner column) ∧
        (p.keyColumn = some column → index t column ∈ indexes t)) ∧
    ∀ t ∈ g.stampedTables, index t "updated_at" ∈ indexes t := by
  refine ⟨fun t => ⟨Generator.indexes_eq_nil_iff, fun h => ?_, Generator.nodup_indexed t⟩, fun session fks h => ?_,
    fun t p h column => Generator.indexed_of_policy? h column,
    fun t ht => Generator.indexed_of_mem_stampedTables ht⟩
  · refine ⟨Generator.indexes_eq_indexed h, ?_⟩
    rw [Generator.indexes_eq_indexed h, List.map_map]
    rfl
  · rw [(g.generateForeignKeys_gives session).1] at h
    cases h
    exact fun s hs => Generator.indexed_of_mem_foreignKeys hs

/-- Parcels, with their senders; the promised date is not carried. -/
def Table.parcels : Table where
  name := "parcels"
  columns := [everywhere "remark" .text, everywhere "parcel_id" .uuid, everywhere "sender_id" .uuid,
    offBackend "promised_date" .text, everywhere "recipient_name" .text]
  primaryKey := some "parcel_id"

/-- Those who send parcels. -/
def Table.senders : Table where
  name := "senders"
  columns := [everywhere "sender_key" .uuid]
  primaryKey := some "sender_key"

/-- The key of the parcels has one index, though its name would call for one, too. -/
theorem parcels_are_looked_up :
    let g : Generator := ⟨⟨[.parcels, .senders, .projects]⟩, {}⟩
    indexes .parcels = ["parcel_id", "sender_id", "recipient_name"].map (index .parcels) ∧
      (∃ s ∈ g.foreignKeys, ∃ t ∈ g.registry.tables, ∃ c ∈ t.relationalColumns, ∃ name table key,
        s = .addForeignKey name t.name c.name table key ∧ index t c.name ∈ indexes t) ∧
      (∃ p, g.policy? .projects = .ok (some p) ∧ p.keyColumn = some "owner_id") ∧
      index .projects "owner_id" ∈ indexes .projects ∧ index .projects "updated_at" ∈ indexes .projects := by
  intro g
  obtain ⟨chosen, foreignKeys, policies, stamped⟩ := indexes_cover_what_is_looked_up g
  have hpolicy : ∃ p, g.policy? .projects = .ok (some p) ∧ p.keyColumn = some "owner_id" := ⟨_, rfl, rfl⟩
  obtain ⟨p, hp, hcolumn⟩ := hpolicy
  have hkey : ∃ s, s ∈ g.foreignKeys := List.exists_mem_of_ne_nil _ (by decide +kernel)
  obtain ⟨s, hs⟩ := hkey
  refine ⟨?_, ⟨s, hs, foreignKeys default _ (g.generateForeignKeys_gives default).1 s hs⟩, ⟨p, hp, hcolumn⟩,
    (policies _ p hp _).2 hcolumn, stamped _ (by decide +kernel)⟩
  rw [((chosen .parcels).2.1 (by decide)).1]
  decide +kernel

/-- Labels, which nothing tells apart. -/
def Table.labels : Table where
  name := "labels"
  columns := [everywhere "caption" .text]

/-- The labels are carried, and have no index. -/
theorem labels_have_no_index : Table.labels.relationalColumns ≠ [] ∧ indexes .labels = [] :=
  ⟨by decide, by decide +kernel⟩

end SchemaScript
