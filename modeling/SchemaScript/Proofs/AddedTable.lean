/-
# One table more

## What is proved

A table that is registered after the others, under a name that none of them has, adds its own statements to the end of
every part of the complete script: its creation and comments, its indexes, its trigger, its policies, its foreign keys.
Whatever the other tables had before stays as it was, with one exception.  Columns whose names now lead to the new table
(`Draws`) refer to its key, or to nothing if it has none, whatever they referred to before.

## How

All parts but the foreign keys go over the tables one by one and look at nothing else.  Foreign keys look at all names.
A name that is new can be the first choice of a column, and then it is taken; or the second one, and then it is taken
if the first one is not registered.  There is no third way for a name to count (`refers_adding_iff`).
-/
import SchemaScript.Proofs.References
import SchemaScript.Proofs.Schema

namespace SchemaScript

open Sql (Statement)
open Text (ofString)

/-! ## Names that lead to the new table -/

/-- The registry with one more table at its end. -/
def Registry.adding (r : Registry) (t : Table) : Registry := ⟨r.tables ++ [t]⟩

/-- Beside the given names, a new one is what the name of a column leads to. -/
inductive Draws (names : List String) (name : String) : String → Prop
  | first : Draws names name (name ++ "_id")
  | second {base : String} : base ∉ names → SecondChoice base name → Draws names name (base ++ "_id")

section Names

variable {names : List String} {name : String}

theorem draws_iff {base : String} :
    Draws names name (base ++ "_id") ↔ base = name ∨ (base ∉ names ∧ SecondChoice base name) := by
  constructor
  · intro h
    generalize hcolumn : base ++ "_id" = column at h
    cases h with
    | first => exact .inl ((String.append_left_inj "_id").mp hcolumn)
    | second hbase hchoice =>
        cases (String.append_left_inj "_id").mp hcolumn
        exact .inr ⟨hbase, hchoice⟩
  · rintro (rfl | ⟨hbase, hchoice⟩)
    · exact .first
    · exact .second hbase hchoice

theorem Draws.exists_base {column : String} (h : Draws names name column) :
    ∃ base, column = base ++ "_id" := by
  cases h
  all_goals exact ⟨_, rfl⟩

theorem Draws.mem_candidates {column : String} (h : Draws names name column) :
    ofString name ∈ Naming.candidates (ofString column) := by
  cases h with
  | first =>
      rw [Naming.candidates_reference]
      exact List.mem_cons_self
  | second _ hchoice =>
      rw [Naming.candidates_reference, Naming.otherNumber_eq_iff.mpr ⟨name, rfl, hchoice⟩]
      exact List.mem_cons_of_mem _ List.mem_cons_self

theorem refers_adding_iff (hnew : name ∉ names) {column found : String} :
    Refers (names ++ [name]) column found ↔
      (Draws names name column ∧ found = name) ∨ (¬ Draws names name column ∧ Refers names column found) := by
  by_cases hcolumn : ∃ base, column = base ++ "_id"
  · obtain ⟨base, rfl⟩ := hcolumn
    simp only [refers_iff, draws_iff, List.mem_append, List.mem_singleton]
    constructor
    · rintro (⟨hbase | rfl, rfl⟩ | ⟨hnot, hchoice, hfound | rfl⟩)
      · refine .inr ⟨?_, .inl ⟨hbase, rfl⟩⟩
        rintro (rfl | ⟨hnot, _⟩)
        · exact hnew hbase
        · exact hnot hbase
      · exact .inl ⟨.inl rfl, rfl⟩
      · obtain ⟨hbase, hne⟩ := not_or.mp hnot
        refine .inr ⟨?_, .inr ⟨hbase, hchoice, hfound⟩⟩
        -- The second choice is another name than the new one, because it is registered already.
        rintro (rfl | ⟨_, hchoice'⟩)
        · exact hne rfl
        · exact hnew (hchoice'.unique hchoice ▸ hfound)
      · exact .inl ⟨.inr ⟨fun h => hnot (.inl h), hchoice⟩, rfl⟩
    · rintro (⟨rfl | ⟨hbase, hchoice⟩, rfl⟩ | ⟨hnot, ⟨hbase, rfl⟩ | ⟨hbase, hchoice, hfound⟩⟩)
      · exact .inl ⟨.inr rfl, rfl⟩
      · by_cases hsame : base = found
        · exact .inl ⟨.inr hsame, hsame.symm⟩
        · exact .inr ⟨not_or.mpr ⟨hbase, hsame⟩, hchoice, .inr rfl⟩
      · exact .inl ⟨.inl hbase, rfl⟩
      · obtain ⟨hne, _⟩ := not_or.mp hnot
        exact .inr ⟨not_or.mpr ⟨hbase, hne⟩, hchoice, .inl hfound⟩
  · constructor
    · intro h
      exact absurd h.exists_base hcolumn
    · rintro (⟨h, _⟩ | ⟨_, h⟩)
      · exact absurd h.exists_base hcolumn
      · exact absurd h.exists_base hcolumn

end Names

/-! ## Foreign keys beside the new table -/

section Added

variable {r : Registry} {t : Table}

theorem Registry.names_adding (r : Registry) (t : Table) : (r.adding t).names = r.names ++ [t.name] :=
  List.map_append

theorem Registry.isFirst_adding_self (hnew : t.name ∉ r.names) : (r.adding t).IsFirst t.name t := by
  refine ⟨r.tables, [], rfl, rfl, fun u hu hname => hnew ?_⟩
  rw [← hname]
  exact List.mem_map_of_mem hu

theorem Registry.IsFirst.adding {name : String} {target : Table} (h : r.IsFirst name target) :
    (r.adding t).IsFirst name target := by
  obtain ⟨before, after, htables, hname, hbefore⟩ := h
  refine ⟨before, after ++ [t], ?_, hname, hbefore⟩
  rw [Registry.adding, htables, List.append_assoc]
  rfl

theorem Registry.isFirst_adding_iff {name : String} {target : Table} (h : name ∈ r.names) :
    (r.adding t).IsFirst name target ↔ r.IsFirst name target := by
  constructor
  · intro h'
    obtain ⟨target', hfirst⟩ := exists_isFirst h
    rw [h'.unique hfirst.adding]
    exact hfirst
  · exact Registry.IsFirst.adding

variable (hnew : t.name ∉ r.names) {u : Table} {c : Column} {s : Statement}
include hnew

/-- A column that is drawn to the new table calls for its key. -/
theorem callsFor_adding_of_draws (hdraws : Draws r.names t.name c.name) :
    CallsFor (r.adding t) u c s ↔
      u.primaryKey ≠ some c.name ∧ ∃ key, t.primaryKey = some key ∧
        s = .addForeignKey ("fk_" ++ u.name ++ "_" ++ c.name) u.name c.name t.name key := by
  have hself := Registry.isFirst_adding_self hnew
  have hrefers : Refers (r.adding t).names c.name t.name := by
    rw [Registry.names_adding]
    exact (refers_adding_iff hnew).mpr (.inl ⟨hdraws, rfl⟩)
  constructor
  · intro h
    cases h with
    | foreignKey hkey hrefers' hfirst htarget =>
        rw [Registry.names_adding, refers_adding_iff hnew] at hrefers'
        rcases hrefers' with ⟨_, rfl⟩ | ⟨hnot, _⟩
        · rw [hfirst.unique hself] at htarget
          exact ⟨hkey, _, htarget, rfl⟩
        · exact absurd hdraws hnot
  · rintro ⟨hkey, key, htarget, rfl⟩
    exact .foreignKey hkey hrefers hself htarget

/-- Any other column calls for what it called for before. -/
theorem callsFor_adding_of_not_draws (hdraws : ¬ Draws r.names t.name c.name) :
    CallsFor (r.adding t) u c s ↔ CallsFor r u c s := by
  have hsame {name : String} : Refers (r.adding t).names c.name name ↔ Refers r.names c.name name := by
    rw [Registry.names_adding, refers_adding_iff hnew]
    constructor
    · rintro (⟨h, _⟩ | ⟨_, h⟩)
      · exact absurd h hdraws
      · exact h
    · intro h
      exact .inr ⟨hdraws, h⟩
  constructor
  · intro h
    cases h with
    | foreignKey hkey hrefers hfirst htarget =>
        rw [hsame] at hrefers
        exact .foreignKey hkey hrefers ((Registry.isFirst_adding_iff hrefers.mem).mp hfirst) htarget
  · intro h
    cases h with
    | foreignKey hkey hrefers hfirst htarget =>
        exact .foreignKey hkey (hsame.mpr hrefers) hfirst.adding htarget

end Added

namespace Generator

/-! ## What a table has of its own -/

/-- The statements for the trigger of a table; none if it is not stamped. -/
def ownTriggers (g : Generator) (t : Table) : Except Sql.Fault (List Statement) := do
  let function ← g.stampFunction
  return if isStamped t then Statement.stampTrigger t.name function else []

/-- The statements about one table, part by part. -/
def ownParts (g : Generator) (t : Table) : Except Sql.Fault Parts := do
  let tables ← g.tableStatements t
  let triggers ← g.ownTriggers t
  let policies ← g.policies t
  return { tables, indexes := indexes t, foreignKeys := t.relationalColumns.filterMap (g.inferred? t),
           triggers, policies }

/-- Each part of the larger registry ends with what one table has of its own, and is that of the smaller one before;
a step fails for the larger registry where it fails for the smaller one, or for that table.  The foreign keys before
those of the table are for the columns of the smaller registry, but refer to all tables of the larger one. -/
structure EndsWithOwn (g g' : Generator) (t : Table) : Prop where
  tables : g'.createStatements g'.registry.tables = do
    return (← g.createStatements g.registry.tables) ++ (← g'.tableStatements t)
  indexes : g'.registry.tables.flatMap indexes = g.registry.tables.flatMap indexes ++ indexes t
  foreignKeys : g'.foreignKeys =
    (g.registry.tables.flatMap fun u => u.relationalColumns.filterMap (g'.inferred? u)) ++
      t.relationalColumns.filterMap (g'.inferred? t)
  triggers : g'.triggerStatementsOf = do return (← g.triggerStatementsOf) ++ (← g'.ownTriggers t)
  policies : g'.policyStatementsOf = do return (← g.policyStatementsOf) ++ (← g'.policies t)

theorem flatten_mapM_append_singleton {α β ε : Type} (f : α → Except ε (List β)) (as : List α) (a : α) :
    (do return (← (as ++ [a]).mapM f).flatten) =
      (do return (← (do return (← as.mapM f).flatten)) ++ (← f a) : Except ε (List β)) := by
  rw [List.mapM_append, List.mapM_cons, List.mapM_nil]
  cases as.mapM f with
  | error fault => rfl
  | ok blocks =>
      cases f a with
      | error fault => rfl
      | ok block =>
          refine congrArg Except.ok ?_
          show (blocks ++ [block]).flatten = blocks.flatten ++ block
          rw [List.flatten_append, List.flatten_singleton]

theorem triggerStatementsOf_adding (σ : Settings) (r : Registry) (t : Table) :
    triggerStatementsOf ⟨r.adding t, σ⟩ = do
      return (← triggerStatementsOf ⟨r, σ⟩) ++ (← ownTriggers ⟨r.adding t, σ⟩ t) := by
  have hstamped : stampedTables ⟨r.adding t, σ⟩ =
      stampedTables ⟨r, σ⟩ ++ if isStamped t then [t] else [] := by
    simp only [stampedTables, Registry.adding, List.filter_append, List.filter_singleton]
    cases isStamped t <;> rfl
  have hfunction : stampFunction ⟨r.adding t, σ⟩ = stampFunction ⟨r, σ⟩ := rfl
  simp only [triggerStatementsOf, triggers, stampTriggers, ownTriggers, hstamped, hfunction]
  cases stampFunction ⟨r, σ⟩ with
  | error fault => rfl
  | ok function =>
      refine congrArg Except.ok ?_
      rw [List.flatMap_append]
      cases isStamped t with
      | true => simp
      | false => simp

theorem endsWithOwn_adding (σ : Settings) (r : Registry) (t : Table) :
    EndsWithOwn ⟨r, σ⟩ ⟨r.adding t, σ⟩ t where
  tables := flatten_mapM_append_singleton (tableStatements ⟨r, σ⟩) r.tables t
  indexes := by
    show (r.tables ++ [t]).flatMap indexes = _
    rw [List.flatMap_append, List.flatMap_singleton]
  foreignKeys := by
    rw [foreignKeys_eq_inferred]
    show (r.tables ++ [t]).flatMap _ = _
    rw [List.flatMap_append, List.flatMap_singleton]
  triggers := triggerStatementsOf_adding σ r t
  policies := flatten_mapM_append_singleton (policies ⟨r, σ⟩) r.tables t

/-- Two results joined are there when both are. -/
theorem append_eq_ok {ε β : Type} {x y : Except ε (List β)} {as cs : List β} (hx : x = .ok as)
    (h : (do return (← x) ++ (← y) : Except ε (List β)) = .ok cs) : ∃ bs, y = .ok bs ∧ cs = as ++ bs := by
  obtain ⟨as', has, h⟩ := bind_eq_ok_iff.mp h
  obtain ⟨bs, hbs, h⟩ := bind_eq_ok_iff.mp h
  cases hx.symm.trans has
  exact ⟨bs, hbs, (Except.ok.inj h).symm⟩

/-- The parts with those of one table after them; the foreign keys before those of the table are given. -/
def Parts.endingWith (p own : Parts) (foreignKeys : List Statement) : Parts where
  tables := p.tables ++ own.tables
  indexes := p.indexes ++ own.indexes
  foreignKeys := foreignKeys ++ own.foreignKeys
  triggers := p.triggers ++ own.triggers
  policies := p.policies ++ own.policies

theorem EndsWithOwn.parts_eq {g g' : Generator} {t : Table} (h : EndsWithOwn g g' t) {p p' : Parts}
    (hp : g.parts = .ok p) (hp' : g'.parts = .ok p') :
    ∃ own, g'.ownParts t = .ok own ∧ p' = p.endingWith own
      (g.registry.tables.flatMap fun u => u.relationalColumns.filterMap (g'.inferred? u)) := by
  obtain ⟨tables, indexes, foreignKeys, triggers, policies⟩ := p'
  obtain ⟨htables, hindexes, hforeign, htriggers, hpolicies⟩ := parts_eq_ok hp
  obtain ⟨htables', hindexes', hforeign', htriggers', hpolicies'⟩ := parts_eq_ok hp'
  rw [h.tables] at htables'
  rw [h.triggers] at htriggers'
  rw [h.policies] at hpolicies'
  obtain ⟨ownTables, hownTables, rfl⟩ := append_eq_ok htables htables'
  obtain ⟨ownTriggers, hownTriggers, rfl⟩ := append_eq_ok htriggers htriggers'
  obtain ⟨ownPolicies, hownPolicies, rfl⟩ := append_eq_ok hpolicies hpolicies'
  rw [h.indexes, ← hindexes] at hindexes'
  rw [h.foreignKeys] at hforeign'
  cases hindexes'
  cases hforeign'
  exact ⟨_, bind_eq_ok_iff.mpr ⟨ownTables, hownTables, bind_eq_ok_iff.mpr ⟨ownTriggers, hownTriggers,
    bind_eq_ok_iff.mpr ⟨ownPolicies, hownPolicies, rfl⟩⟩⟩, rfl⟩

end Generator

/-! ## The new table -/

section Inferred

variable (σ : Settings) {r : Registry} {t : Table} (hnew : t.name ∉ r.names) (u : Table) {c : Column}
include hnew

theorem Generator.inferred?_adding_of_draws (hdraws : Draws r.names t.name c.name) :
    inferred? ⟨r.adding t, σ⟩ u c = if u.isKey c then none else t.primaryKey.map fun key =>
      .addForeignKey ("fk_" ++ u.name ++ "_" ++ c.name) u.name c.name t.name key := by
  refine Option.ext fun s => ?_
  rw [inferred?_eq_some_iff, callsFor_adding_of_draws hnew hdraws]
  cases hkey : u.isKey c with
  | true =>
      have hkey' : u.primaryKey = some c.name := by simpa [Table.isKey] using hkey
      simp [hkey']
  | false =>
      have hkey' : u.primaryKey ≠ some c.name := by simpa [Table.isKey] using hkey
      cases t.primaryKey with
      | none => simp
      | some key => simp [hkey', eq_comm]

theorem Generator.inferred?_adding_of_not_draws (hdraws : ¬ Draws r.names t.name c.name) :
    inferred? ⟨r.adding t, σ⟩ u c = inferred? ⟨r, σ⟩ u c := by
  refine Option.ext fun s => ?_
  rw [inferred?_eq_some_iff, inferred?_eq_some_iff]
  exact callsFor_adding_of_not_draws hnew hdraws

end Inferred

/-- A table of a new name adds its own statements to the end of every part, whether a part can be written or not.  The
other tables keep their foreign keys but for columns that have the new name among their candidates and are drawn to it;
these refer to the key of the new table, or to nothing if it has none.  So it is in the complete scripts, which are given
with all settings that can be written.  A setting with a half that a part needs leaves that part, and the complete script,
with a fault. -/
theorem added_table_is_local (σ : Settings) {r : Registry} {t : Table} (hnew : t.name ∉ r.names) :
    Generator.EndsWithOwn ⟨r, σ⟩ ⟨r.adding t, σ⟩ t ∧
    (Generator.foreignKeys ⟨r, σ⟩ =
      r.tables.flatMap fun u => u.relationalColumns.filterMap (Generator.inferred? ⟨r, σ⟩ u)) ∧
    (∀ (u : Table) (c : Column),
      (Draws r.names t.name c.name → ofString t.name ∈ Naming.candidates c.name ∧
        Generator.inferred? ⟨r.adding t, σ⟩ u c = if u.isKey c then none else t.primaryKey.map fun key =>
          .addForeignKey ("fk_" ++ u.name ++ "_" ++ c.name) u.name c.name t.name key) ∧
      (¬ Draws r.names t.name c.name →
        Generator.inferred? ⟨r.adding t, σ⟩ u c = Generator.inferred? ⟨r, σ⟩ u c)) ∧
    (∀ (s s' : Session) (script script' : Script),
      ((Generator.completeScript ⟨r, σ⟩).outcome s).1 = .ok script →
      ((Generator.completeScript ⟨r.adding t, σ⟩).outcome s').1 = .ok script' →
      ∃ p own, Generator.parts ⟨r, σ⟩ = .ok p ∧ Generator.ownParts ⟨r.adding t, σ⟩ t = .ok own ∧
        script.statements = p.statements ∧
        script'.statements = (p.endingWith own (r.tables.flatMap fun u =>
          u.relationalColumns.filterMap (Generator.inferred? ⟨r.adding t, σ⟩ u))).statements) ∧
    (σ.Writable → ∀ s : Session,
      (∃ script, ((Generator.completeScript ⟨r, σ⟩).outcome s).1 = .ok script) ∧
      ∃ script', ((Generator.completeScript ⟨r.adding t, σ⟩).outcome s).1 = .ok script') := by
  have hends : Generator.EndsWithOwn ⟨r, σ⟩ ⟨r.adding t, σ⟩ t := Generator.endsWithOwn_adding σ r t
  refine ⟨hends, Generator.foreignKeys_eq_inferred _, fun u c => ⟨fun hdraws => ?_, fun hdraws => ?_⟩,
    fun s s' script script' h h' => ?_, fun hσ s => ?_⟩
  · exact ⟨hdraws.mem_candidates, Generator.inferred?_adding_of_draws σ hnew u hdraws⟩
  · exact Generator.inferred?_adding_of_not_draws σ hnew u hdraws
  · obtain ⟨p, hp, hstatements⟩ := Generator.completeScript_eq_ok h
    obtain ⟨p', hp', hstatements'⟩ := Generator.completeScript_eq_ok h'
    obtain ⟨own, hown, rfl⟩ := hends.parts_eq hp hp'
    exact ⟨p, own, hp, hown, hstatements, hstatements'⟩
  · exact ⟨Generator.completeScript_ok hσ s, Generator.completeScript_ok hσ s⟩

/-- One project; its name is the first choice of columns that referred to the projects. -/
def Table.project : Table where
  name := "project"
  columns := [everywhere "project_code" .uuid]
  primaryKey := some "project_code"

/-- Tasks referred to projects, and refer to the one project as soon as there is such a table; their titles refer to
nothing, then as now. -/
theorem tasks_are_drawn_to_project :
    let before : Generator := ⟨⟨[.tasks, .projects]⟩, {}⟩
    let after : Generator := ⟨before.registry.adding .project, {}⟩
    let column : Column := Table.everywhere "project_id" .uuid
    before.inferred? .tasks column =
        some (.addForeignKey "fk_tasks_project_id" "tasks" "project_id" "projects" "id") ∧
      after.inferred? .tasks column =
        some (.addForeignKey "fk_tasks_project_id" "tasks" "project_id" "project" "project_code") ∧
      after.inferred? .tasks (Table.everywhere "title" .text true) =
        before.inferred? .tasks (Table.everywhere "title" .text true) ∧
      ∃ (script script' : Script) (p own : Generator.Parts) (foreignKeys : List Statement),
        (before.completeScript.outcome default).1 = .ok script ∧
        (after.completeScript.outcome default).1 = .ok script' ∧
        script.statements = p.statements ∧ script'.statements = (p.endingWith own foreignKeys).statements := by
  intro before after column
  obtain ⟨_, _, foreignKey, scripts, given⟩ :=
    added_table_is_local {} (show Table.project.name ∉ before.registry.names by decide)
  have hdraws : Draws before.registry.names "project" column.name := .first
  have hstays : ¬ Draws before.registry.names "project" "title" := fun h =>
    absurd h.mem_candidates (by decide)
  have hσ : ({} : Settings).Writable := ⟨⟨_, rfl, by decide⟩, ⟨_, rfl, by decide⟩, _, rfl⟩
  obtain ⟨⟨script, hscript⟩, script', hscript'⟩ := given hσ default
  obtain ⟨p, own, _, _, hstatements, hstatements'⟩ := scripts default default script script' hscript hscript'
  refine ⟨by decide +kernel, ?_, (foreignKey .tasks (Table.everywhere "title" .text true)).2 hstays,
    script, script', p, own, _, hscript, hscript', hstatements, hstatements'⟩
  exact ((foreignKey .tasks column).1 hdraws).2

end SchemaScript
