/- # The schema that a script builds up

A database that carries out the statements of a script one after another has, before each of them, the tables
and functions that the earlier ones made.  `Schema` is what it has, `Schema.step` what one statement makes of
it, and `Schema.Admits` says that a statement speaks only of what is there.

## What is proved

No statement of the complete script comes too early: each is admitted by the schema that the statements before
it have built.  One thing is left open by the generator itself: a foreign key is added also when the table that
it refers to stays off the backend.

## How

A schema only grows (`Extends`), and what a schema admits a grown one admits as well.  So it is enough to look
at the places where something is made.  `Sound` ties a schema to the registry: a table that it has is a table of
the registry, with the columns that are carried; this is where the names of the tables have to be distinct.
From the first transaction on the schema also `Covers` the registry: every table that reaches the backend is
there.  All that follows is admitted for that reason alone.
-/
import SchemaScript.Proofs.RowSecurity

namespace SchemaScript

open Sql (Statement ColumnDef)

/-- What a database has: tables with their columns, and functions. -/
structure Schema where
  tables : List (String × List ColumnDef) := []
  functions : List String := []

namespace Schema

/-- The columns of a table.  A table that is created again stays as it is, so the first creation counts. -/
def columns? (σ : Schema) (table : String) : Option (List ColumnDef) := σ.tables.lookup table

/-- What a statement makes of a schema. -/
def step (σ : Schema) : Statement → Schema
  | .createTable table columns => { σ with tables := σ.tables ++ [(table, columns)] }
  | .createStampFunction function => { σ with functions := function :: σ.functions }
  | _ => σ

/-- What statements make of a schema, one after another. -/
def run (σ : Schema) (ss : List Statement) : Schema := ss.foldl step σ

/-! ## What is there -/

def HasTable (σ : Schema) (table : String) : Prop := ∃ columns, σ.columns? table = some columns

def HasColumn (σ : Schema) (table column : String) : Prop :=
  ∃ columns, σ.columns? table = some columns ∧ ∃ c ∈ columns, c.name = column

/-- The one column of the table that carries the primary key has this name. -/
def HasKey (σ : Schema) (table column : String) : Prop :=
  ∃ columns, σ.columns? table = some columns ∧
    (columns.filter (·.primaryKey)).map (·.name) = [column]

end Schema

/-- A table of the registry with this key has no column in the backend. -/
def Registry.KeepsOff (r : Registry) (table key : String) : Prop :=
  ∃ t ∈ r.tables, t.name = table ∧ t.primaryKey = some key ∧ t.relationalColumns = []

namespace Schema

/-- The statement speaks only of what is there; the registry is asked about the tables that stay off the
backend. -/
def Admits (r : Registry) (σ : Schema) : Statement → Prop
  | .begin | .commit | .createTable _ _ | .createStampFunction _ => True
  | .comment table column _ => σ.HasColumn table column
  | .createIndex _ table column => σ.HasColumn table column
  | .addForeignKey _ table column referenced key =>
      σ.HasColumn table column ∧ (σ.HasKey referenced key ∨ r.KeepsOff referenced key)
  | .dropTrigger _ table => σ.HasTable table
  | .createTrigger _ table function =>
      σ.HasColumn table Generator.stampColumn ∧ function ∈ σ.functions
  | .enableRowSecurity table => σ.HasTable table
  | .createPolicy table _ check =>
      σ.HasTable table ∧ ∀ column, check = .owner column → σ.HasColumn table column

/-! ## Schemas grow -/

/-- The second schema has what the first one has. -/
structure Extends (σ τ : Schema) : Prop where
  columns : ∀ table columns, σ.columns? table = some columns → τ.columns? table = some columns
  functions : ∀ function ∈ σ.functions, function ∈ τ.functions

theorem Extends.refl (σ : Schema) : σ.Extends σ := ⟨fun _ _ h => h, fun _ h => h⟩

theorem Extends.trans {σ τ υ : Schema} (h : σ.Extends τ) (h' : τ.Extends υ) : σ.Extends υ :=
  ⟨fun table columns hc => h'.columns table columns (h.columns table columns hc),
    fun function hf => h'.functions function (h.functions function hf)⟩

theorem columns?_createTable (σ : Schema) (created : String) (columns : List ColumnDef)
    (table : String) :
    (σ.step (.createTable created columns)).columns? table =
      (σ.columns? table).or (if table = created then some columns else none) := by
  show (σ.tables ++ [(created, columns)]).lookup table = _
  rw [List.lookup_append]
  refine congrArg _ ?_
  by_cases h : table = created
  · rw [if_pos h, h, List.lookup_cons_self]
  · rw [if_neg h, List.lookup_cons, beq_eq_false_iff_ne.mpr h]
    rfl

theorem step_extends (σ : Schema) (s : Statement) : σ.Extends (σ.step s) := by
  cases s with
  | createTable created columns =>
      refine ⟨fun table columns' h => ?_, fun _ h => h⟩
      rw [columns?_createTable, h]
      rfl
  | createStampFunction function =>
      exact ⟨fun _ _ h => h, fun _ h => List.mem_cons_of_mem _ h⟩
  | _ => exact .refl σ

theorem run_extends (σ : Schema) (ss : List Statement) : σ.Extends (σ.run ss) := by
  induction ss generalizing σ with
  | nil => exact .refl σ
  | cons s ss ih => exact (σ.step_extends s).trans (ih (σ.step s))

section Growth

variable {σ τ : Schema} (h : σ.Extends τ)
include h

theorem HasTable.mono {table : String} (ht : σ.HasTable table) : τ.HasTable table := by
  obtain ⟨columns, hc⟩ := ht
  exact ⟨columns, h.columns _ _ hc⟩

theorem HasColumn.mono {table column : String} (hc : σ.HasColumn table column) :
    τ.HasColumn table column := by
  obtain ⟨columns, hcolumns, hmem⟩ := hc
  exact ⟨columns, h.columns _ _ hcolumns, hmem⟩

theorem HasKey.mono {table column : String} (hk : σ.HasKey table column) : τ.HasKey table column := by
  obtain ⟨columns, hcolumns, hkey⟩ := hk
  exact ⟨columns, h.columns _ _ hcolumns, hkey⟩

/-- What a schema admits a grown one admits. -/
theorem Admits.mono {r : Registry} {s : Statement} (hs : σ.Admits r s) : τ.Admits r s := by
  cases s with
  | begin | commit | createTable | createStampFunction => trivial
  | comment | createIndex => exact HasColumn.mono h hs
  | addForeignKey =>
      obtain ⟨hcolumn, hkey⟩ := hs
      exact ⟨hcolumn.mono h, hkey.imp_left (HasKey.mono h)⟩
  | dropTrigger | enableRowSecurity => exact HasTable.mono h hs
  | createTrigger =>
      obtain ⟨hcolumn, hfunction⟩ := hs
      exact ⟨hcolumn.mono h, h.functions _ hfunction⟩
  | createPolicy =>
      obtain ⟨htable, hcolumns⟩ := hs
      exact ⟨htable.mono h, fun column hcheck => (hcolumns column hcheck).mono h⟩

end Growth

/-! ## Walks -/

/-- Each statement is admitted by what the ones before it have made of the schema. -/
def Walk (r : Registry) (σ : Schema) : List Statement → Prop
  | [] => True
  | s :: ss => σ.Admits r s ∧ Walk r (σ.step s) ss

theorem walk_append {r : Registry} {ss ss' : List Statement} :
    ∀ {σ : Schema}, Walk r σ ss → Walk r (σ.run ss) ss' → Walk r σ (ss ++ ss') := by
  induction ss with
  | nil =>
      intro σ _ h'
      exact h'
  | cons s ss ih =>
      intro σ h h'
      exact ⟨h.1, ih h.2 h'⟩

/-- Statements that the schema admits before any of them may stand in any order. -/
theorem walk_of_forall {r : Registry} {ss : List Statement} :
    ∀ {σ : Schema}, (∀ s ∈ ss, σ.Admits r s) → Walk r σ ss := by
  induction ss with
  | nil =>
      intro σ _
      trivial
  | cons s ss ih =>
      intro σ h
      refine ⟨h s List.mem_cons_self, ih fun s' hs' => ?_⟩
      exact (h s' (List.mem_cons_of_mem _ hs')).mono (σ.step_extends s)

/-- A walk admits every statement where it stands. -/
theorem Walk.admits {r : Registry} {before after : List Statement} {s : Statement} :
    ∀ {σ : Schema}, Walk r σ (before ++ s :: after) → (σ.run before).Admits r s := by
  induction before with
  | nil =>
      intro σ h
      exact h.1
  | cons b before ih =>
      intro σ h
      exact ih h.2

theorem run_append (σ : Schema) (ss ss' : List Statement) :
    σ.run (ss ++ ss') = (σ.run ss).run ss' :=
  List.foldl_append

/-- Beginning and end of a transaction change nothing, and are always admitted. -/
theorem run_transaction (σ : Schema) (part : List Statement) :
    σ.run (Generator.transaction part) = σ.run part := by
  show σ.run (part ++ [.commit]) = σ.run part
  rw [run_append]
  rfl

theorem walk_transaction {r : Registry} {σ : Schema} {part : List Statement} (h : Walk r σ part) :
    Walk r σ (Generator.transaction part) :=
  ⟨trivial, walk_append h ⟨trivial, trivial⟩⟩

end Schema

/-! ## The schema of a registry -/

namespace Generator

/-- The columns of a table as its creation lists them. -/
def columnDefs (t : Table) : List ColumnDef := t.relationalColumns.map (columnDef t)

end Generator

namespace Schema

/-- The schema has the table as the generator creates it. -/
def Has (σ : Schema) (t : Table) : Prop := σ.columns? t.name = some (Generator.columnDefs t)

/-- The schema has no other tables than those of the registry. -/
def Sound (r : Registry) (σ : Schema) : Prop :=
  ∀ table columns, σ.columns? table = some columns →
    ∃ t ∈ r.tables, t.name = table ∧ columns = Generator.columnDefs t

/-- The schema has all tables of the registry that reach the backend. -/
def Covers (r : Registry) (σ : Schema) : Prop :=
  ∀ t ∈ r.tables, t.relationalColumns ≠ [] → σ.Has t

theorem Covers.mono {r : Registry} {σ τ : Schema} (h : σ.Extends τ) (hσ : σ.Covers r) : τ.Covers r :=
  fun t ht hcolumns => h.columns _ _ (hσ t ht hcolumns)

section Has

variable {σ : Schema} {t : Table} (h : σ.Has t)
include h

theorem Has.table : σ.HasTable t.name := ⟨_, h⟩

theorem Has.column {name : String} (hc : ∃ c ∈ t.relationalColumns, c.name = name) :
    σ.HasColumn t.name name := by
  obtain ⟨c, hc, hname⟩ := hc
  exact ⟨_, h, Generator.columnDef t c, List.mem_map_of_mem hc, hname⟩

/-- Column names being distinct, the key is the one column that carries the primary key. -/
theorem Has.key {key : String} (hkey : t.primaryKey = some key) (hcolumns : t.relationalColumns ≠ []) :
    σ.HasKey t.name key := by
  refine ⟨_, h, ?_⟩
  let names : List String := t.relationalColumns.map (·.name)
  have hnodup : names.Nodup := (List.filter_sublist.map _).nodup t.wellFormed.distinct
  have hmem : key ∈ names := by
    obtain ⟨c, hc, hname⟩ := Table.key_mem_relationalColumns hkey hcolumns
    exact List.mem_map.mpr ⟨c, hc, hname⟩
  calc ((Generator.columnDefs t).filter (·.primaryKey)).map (·.name)
      = (t.relationalColumns.filter t.isKey).map (·.name) := by
        rw [Generator.columnDefs, List.filter_map, List.map_map]
        rfl
    _ = names.filter (· == key) := by
        rw [List.filter_map]
        refine congrArg _ (List.filter_congr fun c _ => ?_)
        rw [Table.isKey, hkey]
        simp [eq_comm]
    _ = [key] := by
        rw [List.filter_beq, List.count_eq_one_of_mem hnodup hmem]
        rfl

end Has

/-- Where names are distinct, creating a table of the registry gives the schema this very table. -/
theorem has_step_createTable {r : Registry} (hr : r.names.Nodup) {σ : Schema} (hσ : σ.Sound r)
    {t : Table} (ht : t ∈ r.tables) : (σ.step (Generator.createTable t)).Has t := by
  show (σ.step (.createTable t.name (Generator.columnDefs t))).columns? t.name = _
  rw [columns?_createTable]
  cases hcolumns : σ.columns? t.name with
  | none => simp
  | some columns =>
      obtain ⟨t', ht', hname, rfl⟩ := hσ _ _ hcolumns
      rw [Registry.table_eq_of_name_eq hr ht' ht hname]
      rfl

theorem sound_step_createTable {r : Registry} {σ : Schema} (hσ : σ.Sound r) {t : Table}
    (ht : t ∈ r.tables) : (σ.step (Generator.createTable t)).Sound r := by
  intro table columns hcolumns
  have hcases : (σ.columns? table).or
      (if table = t.name then some (Generator.columnDefs t) else none) = some columns := by
    rw [← columns?_createTable]
    exact hcolumns
  rcases Option.or_eq_some_iff.mp hcases with hold | ⟨_, hnew⟩
  · exact hσ table columns hold
  · obtain ⟨hname, rfl⟩ : table = t.name ∧ Generator.columnDefs t = columns := by
      simpa using hnew
    exact ⟨t, ht, hname.symm, rfl⟩

/-! ## The tables -/

/-- The comments of a table make nothing. -/
theorem run_comments {ss : List Statement}
    (h : ∀ s ∈ ss, ∃ table column text, s = .comment table column text) (σ : Schema) :
    σ.run ss = σ := by
  induction ss with
  | nil => rfl
  | cons s ss ih =>
      obtain ⟨table, column, text, rfl⟩ := h s List.mem_cons_self
      exact ih fun s' hs' => h s' (List.mem_cons_of_mem _ hs')

/-- The statements of one table: its columns are there before they are commented on. -/
theorem walk_tableStatements {g : Generator} (hr : g.registry.names.Nodup) {σ : Schema}
    (hσ : σ.Sound g.registry) {t : Table} (ht : t ∈ g.registry.tables) {ss : List Statement}
    (h : g.tableStatements t = .ok ss) :
    Walk g.registry σ ss ∧ (σ.run ss).Sound g.registry ∧
      (t.relationalColumns ≠ [] → (σ.run ss).Has t) := by
  rcases Generator.tableStatements_eq_ok h with ⟨hempty, rfl⟩ | ⟨_, comments, rfl, hcomments⟩
  · exact ⟨trivial, hσ, fun hcolumns => absurd hempty hcolumns⟩
  · have hhas := has_step_createTable hr hσ ht
    have hsame : (σ.step (Generator.createTable t)).run comments =
        σ.step (Generator.createTable t) :=
      run_comments (fun s hs => by
        obtain ⟨c, _, text, _, rfl⟩ := hcomments s hs
        exact ⟨_, _, _, rfl⟩) _
    have hwalk : Walk g.registry (σ.step (Generator.createTable t)) comments := by
      refine walk_of_forall fun s hs => ?_
      obtain ⟨c, hc, text, _, rfl⟩ := hcomments s hs
      exact hhas.column ⟨c, (List.mem_filter.mp hc).1, rfl⟩
    refine ⟨⟨trivial, hwalk⟩, ?_, fun _ => ?_⟩
    · show ((σ.step (Generator.createTable t)).run comments).Sound g.registry
      rw [hsame]
      exact sound_step_createTable hσ ht
    · show ((σ.step (Generator.createTable t)).run comments).Has t
      rw [hsame]
      exact hhas

/-- Table after table, the schema stays sound and gains what reaches the backend. -/
theorem walk_tables {g : Generator} (hr : g.registry.names.Nodup) {tables : List Table} :
    ∀ {σ : Schema} {blocks : List (List Statement)}, σ.Sound g.registry →
      (∀ t ∈ tables, t ∈ g.registry.tables) → tables.mapM g.tableStatements = .ok blocks →
      Walk g.registry σ blocks.flatten ∧
        ∀ t ∈ tables, t.relationalColumns ≠ [] → (σ.run blocks.flatten).Has t := by
  induction tables with
  | nil =>
      intro σ blocks _ _ h
      cases h
      exact ⟨trivial, fun t ht => absurd ht List.not_mem_nil⟩
  | cons t ts ih =>
      intro σ blocks hσ hmem h
      rw [List.mapM_cons] at h
      obtain ⟨block, hblock, h⟩ := bind_eq_ok_iff.mp h
      obtain ⟨blocks', hblocks, h⟩ := bind_eq_ok_iff.mp h
      cases h
      obtain ⟨hwalk, hsound, hhas⟩ :=
        walk_tableStatements hr hσ (hmem t List.mem_cons_self) hblock
      -- The next tables need a sound schema; that the first table stays there needs only that it grows.
      obtain ⟨hwalk', hhas'⟩ := ih hsound (fun t' ht' => hmem t' (List.mem_cons_of_mem _ ht')) hblocks
      rw [List.flatten_cons, run_append]
      refine ⟨walk_append hwalk hwalk', fun t' ht' hcolumns => ?_⟩
      rcases List.mem_cons.mp ht' with rfl | ht'
      · exact ((σ.run block).run_extends blocks'.flatten).columns _ _ (hhas hcolumns)
      · exact hhas' t' ht' hcolumns

theorem sound_empty (r : Registry) : ({} : Schema).Sound r :=
  fun _ _ h => absurd h (Option.some_ne_none _ ·.symm)

theorem walk_createStatements {g : Generator} (hr : g.registry.names.Nodup) {ss : List Statement}
    (h : g.createStatements g.registry.tables = .ok ss) :
    Walk g.registry {} ss ∧ (({} : Schema).run ss).Covers g.registry := by
  obtain ⟨blocks, hblocks, hss⟩ := bind_eq_ok_iff.mp h
  cases hss
  exact walk_tables hr (sound_empty g.registry) (fun _ ht => ht) hblocks

/-! ## What follows the tables -/

section Covered

variable {g : Generator} {σ : Schema} (hσ : σ.Covers g.registry)
include hσ

theorem admits_indexes : ∀ s ∈ g.registry.tables.flatMap Generator.indexes, σ.Admits g.registry s := by
  intro s hs
  obtain ⟨t, ht, hs⟩ := List.mem_flatMap.mp hs
  obtain ⟨c, hc, rfl⟩ := Generator.mem_indexes hs
  exact (hσ t ht (List.ne_nil_of_mem hc)).column ⟨c, hc, rfl⟩

/-- The key that a column refers to is that of its table in the backend, if the table is there. -/
theorem hasKey_of_reference {column table key : String} (h : g.reference column = .found table key) :
    σ.HasKey table key ∨ g.registry.KeepsOff table key := by
  obtain ⟨t, ht, rfl, hkey⟩ := Generator.exists_of_reference h
  by_cases hcolumns : t.relationalColumns = []
  · exact .inr ⟨t, ht, rfl, hkey, hcolumns⟩
  · exact .inl ((hσ t ht hcolumns).key hkey hcolumns)

theorem admits_foreignKeys : ∀ s ∈ g.foreignKeys, σ.Admits g.registry s := by
  intro s hs
  obtain ⟨t, ht, c, hc, table, key, hreference, rfl⟩ := Generator.mem_foreignKeys hs
  exact ⟨(hσ t ht (List.ne_nil_of_mem hc)).column ⟨c, hc, rfl⟩, hasKey_of_reference hσ hreference⟩

theorem admits_stampTriggers {function : String} (hfunction : function ∈ σ.functions) :
    ∀ s ∈ g.stampedTables.flatMap fun t => Statement.stampTrigger t.name function,
      σ.Admits g.registry s := by
  intro s hs
  obtain ⟨t, ht, ⟨c, hc, hname⟩, hs⟩ := Generator.mem_stampTriggers hs
  have hhas := hσ t ht (List.ne_nil_of_mem hc)
  rcases hs with rfl | rfl
  · exact hhas.table
  · exact ⟨hhas.column ⟨c, hc, hname⟩, hfunction⟩

theorem walk_triggers {ss : List Statement} (h : g.triggerStatementsOf = .ok ss) : Walk g.registry σ ss := by
  obtain ⟨function, _, rfl⟩ := Generator.triggerStatementsOf_eq_ok h
  have hcovers := hσ.mono (σ.step_extends (.createStampFunction function))
  exact ⟨trivial, walk_of_forall (admits_stampTriggers hcovers List.mem_cons_self)⟩

/-- The check on a table compares the caller with a column that the table has in the backend. -/
theorem admits_policies {ss : List Statement} (h : g.policyStatementsOf = .ok ss) :
    ∀ s ∈ ss, σ.Admits g.registry s := by
  intro s hs
  obtain ⟨t, ht, hcolumns, check, hguard, hs⟩ := Generator.mem_policyStatementsOf h hs
  have hhas := hσ t ht hcolumns
  rcases hs with rfl | ⟨command, _, rfl⟩
  · exact hhas.table
  · refine ⟨hhas.table, fun column hcheck => hhas.column ?_⟩
    subst hcheck
    exact hguard.carries hcolumns

end Covered

/-- The parts of the complete script, one after another. -/
theorem walk_parts {g : Generator} (hr : g.registry.names.Nodup) {p : Generator.Parts}
    (h : g.parts = .ok p) : Walk g.registry {} p.statements := by
  obtain ⟨htables, hindexes, hforeign, htriggers, hpolicies⟩ := Generator.parts_eq_ok h
  obtain ⟨hwalk, hcovers⟩ := walk_createStatements hr htables
  have later (ss : List Statement) : ((({} : Schema).run p.tables).run ss).Covers g.registry :=
    hcovers.mono (Schema.run_extends _ ss)
  have hfirst : Walk g.registry {} (p.tables ++ g.registry.tables.flatMap Generator.indexes) :=
    walk_append hwalk (walk_of_forall (admits_indexes hcovers))
  simp only [Generator.Parts.statements, hindexes, hforeign]
  refine walk_append (walk_append (walk_append (walk_transaction hfirst) (walk_transaction ?_))
    (walk_transaction ?_)) (walk_transaction ?_)
  all_goals simp only [run_append, run_transaction]
  · exact walk_of_forall (admits_foreignKeys (later _))
  · rw [← run_append]
    exact walk_triggers (later _) htriggers
  · rw [← run_append, ← run_append]
    exact walk_of_forall (admits_policies (later _) hpolicies)

end Schema

/-! ## No statement comes too early -/

/-- Where the names of the tables are distinct, every statement of the complete script is admitted by the schema
that the statements before it have built.  The script is given with all settings that can be written.  The statements
are those that are put into the script, whatever the names and the labels hold; where names are identifiers and the
settings stay on their lines, they are those of its text, by `complete_script_splits`. -/
theorem no_statement_comes_too_early (g : Generator) (hnames : g.registry.names.Nodup) :
    (∀ (session : Session) (script : Script), (g.completeScript.outcome session).1 = .ok script →
      ∀ before s after, script.statements = before ++ s :: after →
        (({} : Schema).run before).Admits g.registry s) ∧
    (g.settings.Writable →
      ∀ session, ∃ script, (g.completeScript.outcome session).1 = .ok script) := by
  refine ⟨fun session script h before s after hsplit => ?_,
    fun hwritable session => Generator.completeScript_ok hwritable session⟩
  obtain ⟨p, hp, hstatements⟩ := Generator.completeScript_eq_ok h
  have hwalk := Schema.walk_parts hnames hp
  rw [← hstatements, hsplit] at hwalk
  exact hwalk.admits

/-- Tasks that belong to projects. -/
def Table.tasks : Table where
  name := "tasks"
  columns := [everywhere "task_id" .uuid, everywhere "project_id" .uuid, everywhere "title" .text true]
  primaryKey := some "task_id"

/-- The tasks come before the projects, and their foreign key after the creation of both. -/
theorem tasks_follow_projects :
    ∃ script before after,
      ((Generator.completeScript ⟨⟨[.tasks, .projects]⟩, {}⟩).outcome default).1 = .ok script ∧
      script.statements = before ++ .addForeignKey "fk_tasks_project_id" "tasks" "project_id"
        "projects" "id" :: after ∧
      (({} : Schema).run before).HasKey "projects" "id" := by
  let g : Generator := ⟨⟨[.tasks, .projects]⟩, {}⟩
  obtain ⟨early, given⟩ := no_statement_comes_too_early g (by decide)
  have hwritable : g.settings.Writable :=
    ⟨⟨_, rfl, by decide⟩, ⟨_, rfl, by decide⟩, ⟨_, rfl⟩⟩
  obtain ⟨script, hscript⟩ := given hwritable default
  have hmem : Statement.addForeignKey "fk_tasks_project_id" "tasks" "project_id" "projects" "id" ∈
      script.statements := by
    obtain ⟨p, hp, hstatements⟩ := Generator.completeScript_eq_ok hscript
    have hforeign : Statement.addForeignKey "fk_tasks_project_id" "tasks" "project_id" "projects"
        "id" ∈ p.foreignKeys := by
      rw [(Generator.parts_eq_ok hp).2.2.1]
      decide
    rw [hstatements]
    simp [Generator.Parts.statements, Generator.transaction, hforeign]
  obtain ⟨before, after, hsplit⟩ := List.append_of_mem hmem
  obtain ⟨_, hkey | hoff⟩ := early default script hscript before _ after hsplit
  · exact ⟨script, before, after, hscript, hsplit, hkey⟩
  · have hcarried : ∀ t ∈ g.registry.tables, t.relationalColumns ≠ [] := by decide
    obtain ⟨t, ht, _, _, hempty⟩ := hoff
    exact absurd hempty (hcarried t ht)

end SchemaScript
