/-
# The order of the tables

## What is proved

Where the names of the tables are distinct, the order in which they are registered decides nothing but the order
of the output.  Two registries of the same tables give complete scripts that hold, part by part, the same
statements as often; and the statements about any one table come in the same order in both.  The script of one
table is the same altogether.

## How

Each part goes over the tables and gives for each of them statements about this very table.  Of such a list the
statements about one name are those of the one table that has it (`statementsOn_flatMap`), wherever it stands.
It remains to see that what is given for a table does not hang on the order.  Only foreign keys look at the other
tables: they ask whether a name is registered, and for the first table of a name, which is the only one.
-/
import Mathlib.Data.List.Perm.Basic
import SchemaScript.Proofs.BackendView
import SchemaScript.Proofs.Schema

namespace SchemaScript

open Sql (Statement)

/-! ## Statements by the table they are about -/

/-- The table that a statement is about. -/
def Sql.Statement.table? : Statement → Option String
  | .begin | .commit | .createStampFunction _ => none
  | .createTable table _ | .comment table _ _ | .createIndex _ table _ | .addForeignKey _ table .. |
    .dropTrigger _ table | .createTrigger _ table _ | .enableRowSecurity table |
    .createPolicy table .. => some table

/-- The statements about a table, in order. -/
def statementsOn (name : String) (ss : List Statement) : List Statement :=
  ss.filter fun s => decide (s.table? = some name)

/-- The same statements as often, those about any one table in the same order. -/
structure SameByTable (ss ss' : List Statement) : Prop where
  perm : ss.Perm ss'
  order : ∀ name, statementsOn name ss = statementsOn name ss'

theorem SameByTable.refl (ss : List Statement) : SameByTable ss ss := ⟨.refl ss, fun _ => rfl⟩

theorem SameByTable.append {as as' bs bs' : List Statement} (ha : SameByTable as as')
    (hb : SameByTable bs bs') : SameByTable (as ++ bs) (as' ++ bs') := by
  refine ⟨ha.perm.append hb.perm, fun name => ?_⟩
  simp only [statementsOn, List.filter_append]
  exact congrArg₂ _ (ha.order name) (hb.order name)

theorem SameByTable.transaction {ss ss' : List Statement} (h : SameByTable ss ss') :
    SameByTable (Generator.transaction ss) (Generator.transaction ss') :=
  (SameByTable.append (.refl [.begin]) h).append (.refl [.commit])

/-- The statements about a name are those of the tables with this name. -/
theorem statementsOn_flatMap {f : Table → List Statement} (name : String) {ts : List Table}
    (hf : ∀ t ∈ ts, ∀ s ∈ f t, s.table? = some t.name) :
    statementsOn name (ts.flatMap f) = (ts.filter fun t => decide (t.name = name)).flatMap f := by
  induction ts with
  | nil => rfl
  | cons t ts ih =>
      have hrest := ih fun t' ht' => hf t' (List.mem_cons_of_mem _ ht')
      have ht (s : Statement) (hs : s ∈ f t) : s.table? = some t.name := hf t List.mem_cons_self s hs
      have hfirst : statementsOn name (f t) = if t.name = name then f t else [] := by
        split
        · next hname =>
            exact List.filter_eq_self.mpr fun s hs => by rw [ht s hs, hname]; exact decide_eq_true rfl
        · next hname =>
            refine List.filter_eq_nil_iff.mpr fun s hs => ?_
            rw [ht s hs]
            simpa using hname
      rw [List.flatMap_cons, statementsOn, List.filter_append]
      show statementsOn name (f t) ++ statementsOn name (ts.flatMap f) = _
      rw [hfirst, hrest, List.filter_cons]
      by_cases hname : t.name = name
      · simp [hname]
      · simp [hname]

/-- Where names are distinct, at most one table has a name. -/
theorem filter_name_eq_of_perm {ts ts' : List Table} (hperm : ts.Perm ts')
    (hnames : (ts.map (·.name)).Nodup) (name : String) :
    (ts.filter fun t => decide (t.name = name)) = ts'.filter fun t => decide (t.name = name) := by
  have hfilter := hperm.filter fun t => decide (t.name = name)
  cases h : ts.filter fun t => decide (t.name = name) with
  | nil =>
      rw [h] at hfilter
      exact hfilter.nil_eq
  | cons t rest =>
      -- A second table would repeat the name of the first one.
      have hnodup : ((t :: rest).map (·.name)).Nodup := by
        rw [← h]
        exact (List.filter_sublist.map _).nodup hnames
      have hsame : ∀ t' ∈ t :: rest, t'.name = name := by
        intro t' ht'
        rw [← h] at ht'
        simpa using (List.mem_filter.mp ht').2
      have hrest : rest = [] := by
        refine List.eq_nil_iff_forall_not_mem.mpr fun t' ht' => ?_
        have hmem : t.name ∈ rest.map (·.name) := by
          rw [hsame t List.mem_cons_self, ← hsame t' (List.mem_cons_of_mem _ ht')]
          exact List.mem_map_of_mem ht'
        exact (List.nodup_cons.mp hnodup).1 hmem
      rw [h, hrest] at hfilter
      rw [hrest]
      exact List.singleton_perm.mp hfilter

theorem sameByTable_flatMap {f : Table → List Statement} {ts ts' : List Table}
    (hf : ∀ t ∈ ts, ∀ s ∈ f t, s.table? = some t.name) (hperm : ts.Perm ts')
    (hnames : (ts.map (·.name)).Nodup) : SameByTable (ts.flatMap f) (ts'.flatMap f) := by
  refine ⟨hperm.flatMap_right f, fun name => ?_⟩
  rw [statementsOn_flatMap name hf,
    statementsOn_flatMap name fun t ht => hf t (hperm.mem_iff.mpr ht),
    filter_name_eq_of_perm hperm hnames]

/-! ## What is given for a table -/

namespace Generator

section Table

variable {g : Generator} {t : Table} {s : Statement}

/-- The statements that a step gives for a table; none if the step fails. -/
def given (step : Table → Except Sql.Fault (List Statement)) (t : Table) : List Statement :=
  (step t).toOption.getD []

theorem flatten_eq_given {step : Table → Except Sql.Fault (List Statement)} {ts : List Table}
    {blocks : List (List Statement)} (h : ts.mapM step = .ok blocks) :
    blocks.flatten = ts.flatMap (given step) := by
  have hblocks : blocks.map id = ts.map (given step) :=
    map_eq_of_mapM_eq_ok (fun t _ block hblock => by rw [given, hblock]; rfl) h
  rw [List.flatMap_def, ← hblocks, List.map_id]

theorem mem_given {step : Table → Except Sql.Fault (List Statement)} (hs : s ∈ given step t) :
    ∃ ss, step t = .ok ss ∧ s ∈ ss := by
  rw [given] at hs
  cases hstep : step t with
  | error fault => rw [hstep] at hs; exact absurd hs List.not_mem_nil
  | ok ss => rw [hstep] at hs; exact ⟨ss, rfl, hs⟩

theorem table?_tableStatements (hs : s ∈ given g.tableStatements t) : s.table? = some t.name := by
  obtain ⟨ss, hss, hs⟩ := mem_given hs
  rcases tableStatements_eq_ok hss with ⟨_, rfl⟩ | ⟨_, comments, rfl, hcomments⟩
  · exact absurd hs List.not_mem_nil
  rcases List.mem_cons.mp hs with rfl | hs
  · rfl
  · obtain ⟨c, _, text, _, rfl⟩ := hcomments s hs
    rfl

theorem table?_indexes (hs : s ∈ indexes t) : s.table? = some t.name := by
  obtain ⟨c, _, rfl⟩ := mem_indexes hs
  rfl

theorem table?_tableForeignKeys (hs : s ∈ g.tableForeignKeys t) : s.table? = some t.name := by
  obtain ⟨c, _, hs⟩ := List.mem_filterMap.mp hs
  simp only [foreignKey?] at hs
  split at hs
  · cases hs; rfl
  · cases hs

theorem table?_stampTrigger {function : String} (hs : s ∈ Statement.stampTrigger t.name function) :
    s.table? = some t.name := by
  rcases List.mem_cons.mp hs with rfl | hs
  · rfl
  · cases List.mem_singleton.mp hs
    rfl

theorem table?_policies (hs : s ∈ given g.policies t) : s.table? = some t.name := by
  obtain ⟨ss, hss, hs⟩ := mem_given hs
  rcases policies_eq_ok hss with ⟨_, rfl⟩ | ⟨_, p, _, rfl⟩
  · exact absurd hs List.not_mem_nil
  rcases List.mem_cons.mp hs with rfl | hs
  · rfl
  · obtain ⟨command, _, rfl⟩ := List.mem_map.mp hs
    rfl

end Table

/-! ## What other tables have to do with it -/

section Permuted

variable {r r' : Registry} (hperm : r.tables.Perm r'.tables) (hnames : r.names.Nodup)
include hperm hnames

theorem table?_eq_of_perm (name : Text) : r.table? name = r'.table? name := by
  have hnames' : r'.names.Nodup := (hperm.map _).nodup_iff.mp hnames
  refine Option.ext fun t => ?_
  rw [Registry.table?_eq_some_iff hnames, Registry.table?_eq_some_iff hnames', hperm.mem_iff]

/-- What a column refers to is found by the names and by the first table of a name. -/
theorem reference_eq_of_perm (σ : Settings) (column : String) :
    reference ⟨r, σ⟩ column = reference ⟨r', σ⟩ column := by
  have hknown (name : Text) :
      decide (name ∈ r.names.map Text.ofString) = decide (name ∈ r'.names.map Text.ofString) :=
    decide_eq_decide.mpr ((hperm.map _).map _).mem_iff
  have hfound : Naming.referenced? (r.names.map .ofString) column =
      Naming.referenced? (r'.names.map .ofString) column :=
    congrArg (List.find? · _) (funext hknown)
  have htable : r.table? = r'.table? := funext (table?_eq_of_perm hperm hnames)
  simp only [reference]
  rw [hfound, htable]

theorem tableForeignKeys_eq_of_perm (σ : Settings) (t : Table) :
    tableForeignKeys ⟨r, σ⟩ t = tableForeignKeys ⟨r', σ⟩ t := by
  refine List.filterMap_congr fun c _ => ?_
  simp only [foreignKey?]
  rw [reference_eq_of_perm hperm hnames]

/-- The script of one table comes from the one table of the name. -/
theorem tableText_eq_of_perm (σ : Settings) (name : Text) :
    tableText ⟨r, σ⟩ name = tableText ⟨r', σ⟩ name := by
  have htable : r.table? name = r'.table? name := table?_eq_of_perm hperm hnames name
  simp only [tableText]
  rw [htable]
  cases r'.table? name with
  | none => rfl
  | some t => exact congrArg (· >>= _) (generateTables_eq rfl _ rfl)

end Permuted

/-! ## The parts -/

/-- Part by part the same statements as often, and in each part those about any one table in the same order. -/
structure Parts.SameByTable (p p' : Parts) : Prop where
  tables : SchemaScript.SameByTable p.tables p'.tables
  indexes : SchemaScript.SameByTable p.indexes p'.indexes
  foreignKeys : SchemaScript.SameByTable p.foreignKeys p'.foreignKeys
  triggers : SchemaScript.SameByTable p.triggers p'.triggers
  policies : SchemaScript.SameByTable p.policies p'.policies

theorem Parts.SameByTable.statements {p p' : Parts} (h : p.SameByTable p') :
    SchemaScript.SameByTable p.statements p'.statements :=
  (((h.tables.append h.indexes).transaction.append h.foreignKeys.transaction).append
    h.triggers.transaction).append h.policies.transaction

theorem parts_sameByTable {σ : Settings} {r r' : Registry} (hperm : r.tables.Perm r'.tables)
    (hnames : r.names.Nodup) {p p' : Parts} (h : parts ⟨r, σ⟩ = .ok p) (h' : parts ⟨r', σ⟩ = .ok p') :
    p.SameByTable p' := by
  obtain ⟨htables, hindexes, hforeign, htriggers, hpolicies⟩ := parts_eq_ok h
  obtain ⟨htables', hindexes', hforeign', htriggers', hpolicies'⟩ := parts_eq_ok h'
  constructor
  case tables =>
    obtain ⟨blocks, hblocks, hp⟩ := bind_eq_ok_iff.mp htables
    obtain ⟨blocks', hblocks', hp'⟩ := bind_eq_ok_iff.mp htables'
    rw [← Except.ok.inj hp, ← Except.ok.inj hp', flatten_eq_given hblocks, flatten_eq_given hblocks']
    exact sameByTable_flatMap (fun t _ s hs => table?_tableStatements hs) hperm hnames
  case indexes =>
    rw [hindexes, hindexes']
    exact sameByTable_flatMap (fun t _ s hs => table?_indexes hs) hperm hnames
  case foreignKeys =>
    have hsame : tableForeignKeys ⟨r, σ⟩ = tableForeignKeys ⟨r', σ⟩ :=
      funext (tableForeignKeys_eq_of_perm hperm hnames σ)
    rw [hforeign, hforeign', foreignKeys, foreignKeys, hsame]
    exact sameByTable_flatMap (fun t _ s hs => table?_tableForeignKeys hs) hperm hnames
  case triggers =>
    obtain ⟨function, hfunction, hp⟩ := triggerStatementsOf_eq_ok htriggers
    obtain ⟨function', hfunction', hp'⟩ := triggerStatementsOf_eq_ok htriggers'
    have hsame : function = function' := Except.ok.inj (hfunction.symm.trans hfunction')
    rw [hp, hp', ← hsame]
    refine SameByTable.append (.refl [.createStampFunction function]) ?_
    exact sameByTable_flatMap (fun t _ s hs => table?_stampTrigger hs) (hperm.filter isStamped)
      ((List.filter_sublist.map _).nodup hnames)
  case policies =>
    obtain ⟨blocks, hblocks, hp⟩ := bind_eq_ok_iff.mp hpolicies
    obtain ⟨blocks', hblocks', hp'⟩ := bind_eq_ok_iff.mp hpolicies'
    rw [← Except.ok.inj hp, ← Except.ok.inj hp', flatten_eq_given hblocks, flatten_eq_given hblocks']
    exact sameByTable_flatMap (fun t _ s hs => table?_policies hs) hperm hnames

end Generator

/-! ## Order of tables, order of output -/

/-- Registries of the same tables in another order give complete scripts of the same statements, part by part and
as often, with those about any one table in the same order; and the same script for each table by itself.  The
complete scripts are given wherever the settings can be written; a function whose name holds a half cannot, and a comment
or a role with one cannot where it is needed, and then there is no complete script for either registry. -/
theorem registry_order_is_output_order (σ : Settings) {r r' : Registry} (hnames : r.names.Nodup)
    (hperm : r.tables.Perm r'.tables) :
    (∀ (s s' : Session) (script script' : Script),
      ((Generator.completeScript ⟨r, σ⟩).outcome s).1 = .ok script →
      ((Generator.completeScript ⟨r', σ⟩).outcome s').1 = .ok script' →
      ∃ p p' : Generator.Parts,
        Generator.parts ⟨r, σ⟩ = .ok p ∧ Generator.parts ⟨r', σ⟩ = .ok p' ∧
        script.statements = p.statements ∧ script'.statements = p'.statements ∧
        p.SameByTable p' ∧
        ∀ name, statementsOn name script.statements = statementsOn name script'.statements) ∧
    (σ.Writable → ∀ s : Session,
      (∃ script, ((Generator.completeScript ⟨r, σ⟩).outcome s).1 = .ok script) ∧
      ∃ script', ((Generator.completeScript ⟨r', σ⟩).outcome s).1 = .ok script') ∧
    ∀ (name : Text) (s : Session), (Generator.tableText ⟨r, σ⟩ name).outcome s =
      (Generator.tableText ⟨r', σ⟩ name).outcome s := by
  refine ⟨fun s s' script script' h h' => ?_, fun hσ s => ?_, fun name s => ?_⟩
  · obtain ⟨p, hp, hstatements⟩ := Generator.completeScript_eq_ok h
    obtain ⟨p', hp', hstatements'⟩ := Generator.completeScript_eq_ok h'
    have hsame : p.SameByTable p' := Generator.parts_sameByTable hperm hnames hp hp'
    refine ⟨p, p', hp, hp', hstatements, hstatements', hsame, fun name => ?_⟩
    rw [hstatements, hstatements']
    exact hsame.statements.order name
  · exact ⟨Generator.completeScript_ok hσ s, Generator.completeScript_ok hσ s⟩
  · rw [Generator.tableText_eq_of_perm hperm hnames σ name]

/-- The tasks refer to the projects, whichever of them comes first. -/
theorem tasks_before_or_after_projects :
    (⟨[.tasks, .projects]⟩ : Registry).names.Nodup ∧
      [Table.tasks, .projects].Perm [.projects, .tasks] ∧
      ∃ script script' : Script,
        ((Generator.completeScript ⟨⟨[.tasks, .projects]⟩, {}⟩).outcome default).1 = .ok script ∧
        ((Generator.completeScript ⟨⟨[.projects, .tasks]⟩, {}⟩).outcome default).1 = .ok script' ∧
        statementsOn "tasks" script.statements = statementsOn "tasks" script'.statements := by
  have hnames : (⟨[.tasks, .projects]⟩ : Registry).names.Nodup := by decide
  have hperm : [Table.tasks, .projects].Perm [.projects, .tasks] := .swap _ _ _
  have hσ : ({} : Settings).Writable :=
    ⟨⟨_, rfl, by decide⟩, ⟨_, rfl, by decide⟩, _, rfl⟩
  let r' : Registry := ⟨[.projects, .tasks]⟩
  have hperm' : (⟨[.tasks, .projects]⟩ : Registry).tables.Perm r'.tables := hperm
  obtain ⟨same, given, _⟩ := registry_order_is_output_order {} hnames hperm'
  obtain ⟨⟨script, h⟩, script', h'⟩ := given hσ default
  obtain ⟨_, _, _, _, _, _, _, hname⟩ := same default default script script' h h'
  exact ⟨hnames, hperm, script, script', h, h', hname "tasks"⟩

/-- Other projects, under a key of another name. -/
def Table.otherProjects : Table where
  name := "projects"
  columns := [everywhere "project_key" .uuid]
  primaryKey := some "project_key"
  name_ne := Table.projects.name_ne

-- Names have to be distinct: a foreign key leads to the first table of a name.
example : Generator.foreignKeys ⟨⟨[.tasks, .projects, .otherProjects]⟩, {}⟩ =
      [.addForeignKey "fk_tasks_project_id" "tasks" "project_id" "projects" "id"] ∧
    Generator.foreignKeys ⟨⟨[.tasks, .otherProjects, .projects]⟩, {}⟩ =
      [.addForeignKey "fk_tasks_project_id" "tasks" "project_id" "projects" "project_key"] := by
  decide

end SchemaScript
