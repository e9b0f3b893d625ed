/-
# What is told about the tables is what is generated for them

## What is proved

The metadata of the tables, the script that creates them and the script of their policies go through the same tables in
the same order, and at every place they agree.  A table is told to be in the backend exactly if it is created, with the
columns that are told to be there, and for each the type and the constraints that are told about it.  The rule that is
told is the first one that applies, and its check stands in all policies of the table; where no rule is told, there are
no policies.  What is told about one table alone is the entry of the first table of that name.

## How

Each of the three asks a table for its relational columns by itself.  So a table is looked at three times, by the
lemmas `tellsTable` and `tellsRule`, and the three lists of results are put beside each other by their places: steps
for each item of a list give their results at the places of the items (`mapM_eq_ok_iff`).
-/
import SchemaScript.Proofs.Answers

namespace SchemaScript

open Text (ofString)
open Sql (Statement ColumnDef Check)

section Places

variable {α β : Type}

/-- Lists that are related item by item have related items at the same places. -/
theorem exists_getElem?_of_forall₂ {r : α → β → Prop} {as : List α} {bs : List β}
    (h : List.Forall₂ r as bs) {i : Nat} {a : α} (ha : as[i]? = some a) : ∃ b, bs[i]? = some b ∧ r a b := by
  induction h generalizing i with
  | nil => cases ha
  | cons hhead _ ih =>
      cases i with
      | zero =>
          cases ha
          exact ⟨_, rfl, hhead⟩
      | succ i => exact ih ha

end Places

/-! ## What is told -/

namespace Value

/-- A field of a value that is a record. -/
def field? (told : Value) (name : String) : Option Value :=
  match told with
  | .record fs => Fields.get? fs name
  | _ => none

/-- Whether a field is a flag that is set. -/
def isSet (told : Value) (name : String) : Bool :=
  match told.field? name with
  | some (.bool b) => b
  | _ => false

end Value

/-- What is told about a column is its definition; `key` is what is told to be the primary key. -/
structure TellsColumn (key : Option Value) (told : Value) (d : ColumnDef) : Prop where
  name : told.field? "name" = some (.text d.name)
  sqlType : told.field? "sql_type" = some (.text d.sqlType)
  unique : told.field? "is_unique" = some (.bool d.unique)
  primaryKey : d.primaryKey = true ↔ key = some (.text d.name)
  notNull : d.notNull = d.primaryKey

/-- What is told about a table is what the script of the tables holds for it. -/
structure TellsTable (told : Value) (table : String) (block : List Statement) : Prop where
  name : told.field? "table_name" = some (.text table)
  created : told.field? "is_relational" = some (.bool true) ↔ block.filterMap Statement.created? = [table]
  absent : told.field? "is_relational" = some (.bool false) ↔ block = []
  columns : ∃ columns, told.field? "columns" = some (.list columns) ∧
    ∀ table' defs, .createTable table' defs ∈ block → table' = table ∧
      List.Forall₂ (TellsColumn (told.field? "primary_key"))
        (columns.filter fun c => c.isSet "is_relational") defs

/-- The check of a rule for a table; `role` is the role that stands in where nobody owns a row. -/
def PolicyRule.Checks (rule : PolicyRule) (role : Value) (t : Table) (check : Check) : Prop :=
  ∃ basis selected, rule.basis? t t.relationalColumns = some basis ∧
    basis.selection role = .ok selected ∧ selected.check = check

/-- What is told about the rule of a table is what the script of the policies holds for it: nothing, or the policies with
the check of the first rule that applies. -/
structure TellsRule (role : Value) (t : Table) (told : Value) (block : List Statement) : Prop where
  null : told.field? "policy_rule" = some .null ↔ block = []
  named : block ≠ [] → ∃ rule check, told.field? "policy_rule" = some (.text rule.name) ∧
    PolicyRule.chain.find? (fun r => (r.basis? t t.relationalColumns).isSome) = some rule ∧
    rule.Checks role t check ∧ block = secures t.name check

namespace PolicyRule

theorem rule_of_basis? {r : PolicyRule} {t : Table} {columns : List Column} {basis : PolicyBasis}
    (h : r.basis? t columns = some basis) : basis.rule = r := by
  cases r with
  | userTable =>
      simp only [basis?] at h
      split at h
      · obtain ⟨key, _, rfl⟩ := Option.map_eq_some_iff.mp h
        rfl
      · cases h
  | ownerColumn =>
      obtain ⟨column, _, rfl⟩ := Option.map_eq_some_iff.mp h
      rfl
  | authenticated =>
      cases h
      rfl

/-- The rule of the reason for the policy of a table is the first one of the chain that applies. -/
theorem find?_chain (t : Table) :
    chain.find? (fun r => (r.basis? t t.relationalColumns).isSome) =
        some (PolicyBasis.ofTable t t.relationalColumns).rule ∧
      (PolicyBasis.ofTable t t.relationalColumns).rule.basis? t t.relationalColumns =
        some (PolicyBasis.ofTable t t.relationalColumns) := by
  have hfirst := PolicyBasis.firstBasis?_chain t t.relationalColumns
  obtain ⟨before, r, after, hchain, hbasis, hnone⟩ := List.findSome?_eq_some_iff.mp hfirst
  rw [rule_of_basis? hbasis]
  refine ⟨?_, hbasis⟩
  rw [hchain, List.find?_append, List.find?_eq_none.mpr, List.find?_cons_of_pos]
  · rfl
  · rw [hbasis]
    rfl
  · intro r' hr'
    rw [hnone r' hr']
    exact Bool.false_ne_true

end PolicyRule

/-! ## One table -/

/-- The columns that are told to be in the backend are those that are. -/
theorem Table.filter_metadata (t : Table) :
    (t.columns.map Column.metadata).filter (fun c => c.isSet "is_relational") =
      t.relationalColumns.map Column.metadata := by
  rw [List.filter_map]
  rfl

theorem Table.isRelational_eq (t : Table) : t.isRelational = !t.relationalColumns.isEmpty := by
  cases hcolumns : t.relationalColumns with
  | nil => exact Bool.eq_false_iff.mpr fun h => t.isRelational_iff.mp h hcolumns
  | cons c cs => exact t.isRelational_iff.mpr (by rw [hcolumns]; exact List.cons_ne_nil _ _)

namespace Generator

variable {g : Generator}

theorem tellsColumn (t : Table) (c : Column) :
    TellsColumn (some (.ofString? t.primaryKey)) c.metadata (columnDef t c) where
  name := rfl
  sqlType := rfl
  unique := rfl
  primaryKey := by
    cases hkey : t.primaryKey with
    | none => simp [columnDef, Table.isKey, hkey, Value.ofString?, Value.ofText?]
    | some key => simp [columnDef, Table.isKey, hkey, Value.ofString?, Value.ofText?]
  notNull := rfl

theorem tellsTable {t : Table} {rule : Option Text} {block : List Statement}
    (h : g.tableStatements t = .ok block) : TellsTable (t.metadata rule) t.name block := by
  have hcreated := created?_tableStatements h
  have htold : (t.metadata rule).field? "is_relational" = some (.bool t.isRelational) := rfl
  rw [t.isRelational_eq] at htold
  rcases tableStatements_eq_ok h with ⟨hempty, rfl⟩ | ⟨hcolumns, comments, rfl, hcomments⟩
  · rw [hempty] at htold
    refine ⟨rfl, ?_, ?_, ⟨_, rfl, fun _ _ hmem => absurd hmem List.not_mem_nil⟩⟩
    · rw [htold]
      exact ⟨fun h => (by cases h), fun h => (by cases h)⟩
    · rw [htold]
      exact ⟨fun _ => rfl, fun _ => rfl⟩
  · rw [List.isEmpty_eq_false_iff.mpr hcolumns] at htold hcreated
    refine ⟨rfl, ?_, ?_, ⟨_, rfl, fun table' defs hmem => ?_⟩⟩
    · rw [htold]
      exact ⟨fun _ => hcreated, fun _ => rfl⟩
    · rw [htold]
      exact ⟨fun h => (by cases h), fun h => (by cases h)⟩
    rcases List.mem_cons.mp hmem with hcreate | hcomment
    · cases hcreate
      rw [t.filter_metadata]
      refine ⟨rfl, List.forall₂_map_left_iff.mpr (List.forall₂_map_right_iff.mpr ?_)⟩
      exact List.forall₂_same.mpr fun c _ => tellsColumn t c
    · obtain ⟨c, _, text, _, hstatement⟩ := hcomments _ hcomment
      cases hstatement

theorem tellsRule {t : Table} {selected : Option PolicySelection} {block : List Statement}
    (hselected : g.policy? t = .ok selected) (h : g.policies t = .ok block) :
    TellsRule g.settings.authenticatedRole t
      (t.metadata (selected.map fun p => p.rule.name)) block := by
  have hblock : (selected.map (policyStatements t)).getD [] = block := by
    simp only [policies, hselected] at h
    exact Except.ok.inj h
  subst hblock
  rcases policy?_eq_ok hselected with ⟨_, rfl⟩ | ⟨_, p, hp, rfl⟩
  · exact ⟨⟨fun _ => rfl, fun _ => rfl⟩, fun h => absurd rfl h⟩
  · obtain ⟨hfirst, hbasis⟩ := PolicyRule.find?_chain t
    have hrule := (PolicyBasis.rule_of_selection hp).1
    refine ⟨⟨fun h => (by cases h), fun h => (by cases h)⟩, fun _ => ?_⟩
    exact ⟨p.rule, p.check, rfl, hrule ▸ hfirst, ⟨_, p, hrule ▸ hbasis, hp, rfl⟩, rfl⟩

end Generator

/-! ## All tables -/

/-- A name that is registered is found at a place, and the table at that place is the one that is found. -/
theorem Registry.exists_index? {r : Registry} {name : String} (h : name ∈ r.names) :
    ∃ i t, r.index? name = some i ∧ r.tables[i]? = some t ∧ r.table? name = some t := by
  obtain ⟨t, ht⟩ := Option.isSome_iff_exists.mp ((r.contains_iff name).mpr h)
  have hindex : r.table? name = (r.index? name).bind fun i => r.tables[i]? :=
    List.find?_eq_bind_findIdx?_getElem?
  obtain ⟨i, hi, hplace⟩ := Option.bind_eq_some_iff.mp (hindex ▸ ht)
  exact ⟨i, t, hi, hplace, ht⟩

theorem Registry.ne_nil_of_mem_names {r : Registry} {name : String} (h : name ∈ r.names) :
    ofString name ≠ [] := by
  obtain ⟨t, _, rfl⟩ := List.mem_map.mp h
  intro hnil
  exact t.name_ne (Text.ofString_inj.mp hnil)

namespace Service

variable {g : Generator} {site : Site} {s : Session}

/-- What is told about one table alone is what is told about it among all of them. -/
theorem answers_tablePath {name : Text} {t : Table} {entry : Value} (hne : name ≠ []) (hslash : .char '/' ∉ name)
    (hwhole : g.registry.Whole) (ht : g.registry.table? name = some t)
    (hentry : g.tableMetadata t = .ok entry) :
    ((Service.respond ⟨site, some g⟩ "GET" (Site.tablePath name)).outcome s).1 = .ok (.ok (.report entry)) := by
  have hsent : entry.Whole :=
    (Generator.whole_tableMetadata_iff hentry).mpr (hwhole t (Registry.mem_of_table? ht))
  rw [outcome_tablePath hne hslash ht, hentry]
  exact congrArg Except.ok (Response.sent_report_ok hsent)

end Service

/-- Wherever the tables are told and both scripts are given, they agree table by table, and each table alone is told as
among all of them.  This is so for settings that are strings without NUL, where no column's name for the backend has half
a pair in it. -/
theorem told_tables_agree_with_scripts (g : Generator) (site : Site) (s s' s'' : Session) :
    let answer (path : Text) := ((Service.respond ⟨site, some g⟩ "GET" path).outcome s).1
    (∀ r tables policies, answer Site.tablesPath = .ok (.ok r) →
      (g.tablesScript.outcome s').1 = .ok tables → (g.policiesScript.outcome s'').1 = .ok policies →
      ∃ (entries : List Value) (blocks policyBlocks : List (List Statement)),
        r = .report (.record [("tables", .list entries), ("count", .int entries.length)]) ∧
        tables.statements =
          .begin :: (blocks.flatten ++ g.registry.tables.flatMap Generator.indexes) ++ [.commit] ∧
        policies.statements = .begin :: policyBlocks.flatten ++ [.commit] ∧
        entries.length = g.registry.size ∧ blocks.length = g.registry.size ∧
        policyBlocks.length = g.registry.size ∧
        (∀ (i : Nat) (t : Table), g.registry.tables[i]? = some t →
          ∃ (entry : Value) (block policyBlock : List Statement),
          entries[i]? = some entry ∧ blocks[i]? = some block ∧ policyBlocks[i]? = some policyBlock ∧
          TellsTable entry t.name block ∧ TellsRule g.settings.authenticatedRole t entry policyBlock) ∧
        ∀ name ∈ g.registry.names, '/' ∉ name.toList → ∃ (i : Nat) (entry : Value),
          g.registry.index? name = some i ∧ entries[i]? = some entry ∧
          answer (Site.tablePath name) = .ok (.ok (.report entry))) ∧
    (g.settings.encryptedComment.IsNulFree → g.settings.authenticatedRole.IsNulFree → g.registry.Whole →
      (∃ r, answer Site.tablesPath = .ok (.ok r)) ∧ (∃ tables, (g.tablesScript.outcome s').1 = .ok tables) ∧
        ∃ policies, (g.policiesScript.outcome s'').1 = .ok policies) := by
  intro answer
  refine ⟨fun r tables policies hr htables hpolicies => ?_, fun hcomment hrole hwhole => ?_⟩
  · obtain ⟨hwhole, v, hv, rfl⟩ := Service.answers_tablesPath_iff.mp hr
    obtain ⟨entries, hentries, rfl⟩ := Generator.metadata_eq_ok hv
    obtain ⟨ss, hss, hstatements⟩ := Generator.tablesScript_eq_ok htables
    obtain ⟨blocks, hblocks, hflat⟩ := bind_eq_ok_iff.mp hss
    cases hflat
    obtain ⟨ss', hss', hstatements'⟩ := Generator.policiesScript_eq_ok hpolicies
    obtain ⟨policyBlocks, hpolicyBlocks, hflat⟩ := bind_eq_ok_iff.mp hss'
    cases hflat
    have hentries := mapM_eq_ok_iff.mp hentries
    have hblocks := mapM_eq_ok_iff.mp hblocks
    have hpolicyBlocks := mapM_eq_ok_iff.mp hpolicyBlocks
    refine ⟨entries, blocks, policyBlocks, rfl, hstatements, hstatements', hentries.length_eq.symm,
      hblocks.length_eq.symm, hpolicyBlocks.length_eq.symm, fun i t ht => ?_, fun name hname hslash => ?_⟩
    · obtain ⟨entry, hentry, htold⟩ := exists_getElem?_of_forall₂ hentries ht
      obtain ⟨block, hblock, hcreated⟩ := exists_getElem?_of_forall₂ hblocks ht
      obtain ⟨policyBlock, hpolicyBlock, hsecured⟩ := exists_getElem?_of_forall₂ hpolicyBlocks ht
      obtain ⟨selected, hselected, rfl⟩ := Generator.tableMetadata_eq_ok htold
      exact ⟨_, block, policyBlock, hentry, hblock, hpolicyBlock, Generator.tellsTable hcreated,
        Generator.tellsRule hselected hsecured⟩
    · obtain ⟨i, t, hi, hplace, ht⟩ := Registry.exists_index? hname
      obtain ⟨entry, hentry, htold⟩ := exists_getElem?_of_forall₂ hentries hplace
      refine ⟨i, entry, hi, hentry, ?_⟩
      refine Service.answers_tablePath (Registry.ne_nil_of_mem_names hname) ?_ hwhole ht htold
      intro hmem
      obtain ⟨c, hc, hpoint⟩ := List.mem_map.mp hmem
      cases hpoint
      exact hslash hc
  · refine ⟨?_, Generator.tablesScript_ok hcomment s', Generator.policiesScript_ok hrole s''⟩
    obtain ⟨v, hv⟩ := Generator.metadata_ok hrole
    exact ⟨.report v, Service.answers_tablesPath_iff.mpr ⟨hwhole, v, hv, rfl⟩⟩

/-- The first table of the application, told alone, is told as it is created and secured. -/
theorem projects_agree_with_scripts :
    let g : Generator := ⟨.application, {}⟩
    ∃ (entry : Value) (block policyBlock : List Statement),
      ((Service.respond ⟨.full, some g⟩ "GET" (Site.tablePath "projects")).outcome default).1 =
        .ok (.ok (.report entry)) ∧
      TellsTable entry "projects" block ∧ TellsRule (.text "authenticated") .projects entry policyBlock := by
  intro g
  obtain ⟨agree, given⟩ := told_tables_agree_with_scripts g .full default default default
  have hcomment : g.settings.encryptedComment.IsNulFree := ⟨_, rfl, by decide⟩
  have hrole : g.settings.authenticatedRole.IsNulFree := ⟨_, rfl, by decide⟩
  have hwhole : g.registry.Whole := by decide
  obtain ⟨⟨r, hr⟩, ⟨tables, htables⟩, policies, hpolicies⟩ := given hcomment hrole hwhole
  obtain ⟨entries, _, _, _, _, _, _, _, _, places, names⟩ := agree r tables policies hr htables hpolicies
  obtain ⟨entry, block, policyBlock, hentry, _, _, htable, hrule⟩ := places 0 .projects rfl
  obtain ⟨i, entry', hi, hentry', halone⟩ := names "projects" (by decide) (by decide)
  have hfirst : g.registry.index? "projects" = some 0 := by decide
  cases hi.symm.trans hfirst
  cases hentry.symm.trans hentry'
  exact ⟨entry, block, policyBlock, halone, htable, hrule⟩

/-- A table whose column has half a pair for its name in the backend is created, but not told. -/
theorem half_in_column_hides_table :
    let g : Generator := ⟨⟨[.halved]⟩, {}⟩
    g.settings.encryptedComment.IsNulFree ∧ g.settings.authenticatedRole.IsNulFree ∧
      "t" ∈ g.registry.names ∧
      g.createStatements g.registry.tables =
        .ok [.createTable "t" [{ name := "half", sqlType := "TEXT" }]] ∧
      ((Service.respond ⟨.schemaOnly, some g⟩ "GET" (Site.tablePath "t")).outcome default).1 =
        .ok (.error (.reportText ⟨0, [0]⟩)) := by
  intro g
  let told := Table.halved.metadata (some "authenticated")
  have htold : g.tableMetadata .halved = .ok told := rfl
  have halves : told.unwritable? = some ⟨0, [0]⟩ := rfl
  refine ⟨⟨_, rfl, by decide⟩, ⟨_, rfl, by decide⟩, by decide, rfl, ?_⟩
  have hne : ofString "t" ≠ [] := by decide
  have hslash : .char '/' ∉ ofString "t" := by decide
  rw [Service.outcome_tablePath hne hslash rfl, htold]
  show Except.ok (Response.report told).sent = _
  rw [Response.sent_report, halves]

end SchemaScript
