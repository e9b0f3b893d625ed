/- # What the backend sees

## What is proved

The scripts of two registries are the same whenever the registries look the same from the backend: table by
table the same name, the same primary key and, in order, the same columns that are carried there, each with
its name, its type in the database and its two marks.  "The same" covers more than the text.  The runs
themselves are equal, so that in every session they give the same script or stop with the same fault, read
the clock alike and leave the same journal.

## How

Every step of the generator looks at a table in a way of its own: at the columns carried to the backend, at the
first column of a name, at the key, or at the first table of a name among all.  For each step there is one
lemma that says that tables which look the same give the same; the lists are taken care of by the lemmas of
the first section, once for each way of going over a list.

The one step that looks at all columns of a table is the choice of the tables that get a trigger.  It takes the
first column of a name and asks whether that one is carried.  This is a question about the carried columns
only because the names of a table's columns are distinct.
-/
import SchemaScript.Proofs.Parts

namespace SchemaScript

/-! ## Lists that look the same

`v` is what can be seen of an item.  The hypothesis of each lemma says that a function does the same with
items that look the same; the function may be another one for the second list. -/

section Views

variable {α β γ : Type} {v : α → β}

theorem map_eq_of_view {f f' : α → γ} (hf : ∀ a a', v a = v a' → f a = f' a') :
    ∀ {l l' : List α}, l.map v = l'.map v → l.map f = l'.map f'
  | [], [], _ => rfl
  | a :: l, a' :: l', h => by
      obtain ⟨ha, hl⟩ := List.cons_eq_cons.mp h
      show f a :: l.map f = f' a' :: l'.map f'
      rw [hf a a' ha, map_eq_of_view hf hl]

theorem flatMap_eq_of_view {f f' : α → List γ} (hf : ∀ a a', v a = v a' → f a = f' a')
    {l l' : List α} (h : l.map v = l'.map v) : l.flatMap f = l'.flatMap f' := by
  rw [List.flatMap_def, List.flatMap_def, map_eq_of_view hf h]

theorem filterMap_eq_of_view {f f' : α → Option γ} (hf : ∀ a a', v a = v a' → f a = f' a')
    {l l' : List α} (h : l.map v = l'.map v) : l.filterMap f = l'.filterMap f' := by
  have := congrArg (List.filterMap id) (map_eq_of_view hf h)
  simpa only [List.filterMap_map, Function.id_comp] using this

theorem mapM_eq_of_view {m : Type → Type} [Monad m] [LawfulMonad m] {f f' : α → m γ}
    (hf : ∀ a a', v a = v a' → f a = f' a') {l l' : List α} (h : l.map v = l'.map v) :
    l.mapM f = l'.mapM f' := by
  have := congrArg (List.mapM id) (map_eq_of_view hf h)
  simpa only [List.mapM_map, Function.id_comp] using this

theorem filter_eq_of_view {p p' : α → Bool} (hp : ∀ a a', v a = v a' → p a = p' a') :
    ∀ {l l' : List α}, l.map v = l'.map v → (l.filter p).map v = (l'.filter p').map v
  | [], [], _ => rfl
  | a :: l, a' :: l', h => by
      obtain ⟨ha, hl⟩ := List.cons_eq_cons.mp h
      have ih := filter_eq_of_view hp hl
      rw [List.filter_cons, List.filter_cons, hp a a' ha]
      cases p' a' with
      | true => simp only [if_true, List.map_cons, ha, ih]
      | false => simpa using ih

theorem find?_eq_of_view {p p' : α → Bool} (hp : ∀ a a', v a = v a' → p a = p' a')
    {l l' : List α} (h : l.map v = l'.map v) : (l.find? p).map v = (l'.find? p').map v := by
  rw [← List.head?_filter, ← List.head?_filter, ← List.head?_map, ← List.head?_map,
    filter_eq_of_view hp h]

end Views

/-! ## What can be seen -/

/-- What the backend sees of a column that is carried there. -/
structure BackendColumn where
  name : String
  sqlType : String
  isUnique : Bool
  encrypted : Bool
deriving DecidableEq, Repr

/-- What the backend sees of a column. -/
def Column.backend (c : Column) : BackendColumn where
  name := c.name
  sqlType := (Sql.ColumnType.ofTag c.typeTag).sql
  isUnique := c.isUnique
  encrypted := c.encrypted

/-- What the backend sees of a table: nothing of the columns that stay elsewhere. -/
structure BackendTable where
  name : String
  primaryKey : Option String
  columns : List BackendColumn
deriving DecidableEq, Repr

/-- What the backend sees of a table. -/
def Table.backend (t : Table) : BackendTable where
  name := t.name
  primaryKey := t.primaryKey
  columns := t.relationalColumns.map Column.backend

/-- What the backend sees of all tables, in order. -/
def Registry.backend (r : Registry) : List BackendTable := r.tables.map Table.backend

section Columns

variable {c c' : Column} (h : c.backend = c'.backend)
include h

theorem Column.name_eq_of_backend : c.name = c'.name := congrArg BackendColumn.name h

theorem Column.encrypted_eq_of_backend : c.encrypted = c'.encrypted :=
  congrArg BackendColumn.encrypted h

end Columns

section Tables

variable {t t' : Table} (h : t.backend = t'.backend)
include h

theorem Table.name_eq_of_backend : t.name = t'.name := congrArg BackendTable.name h

theorem Table.primaryKey_eq_of_backend : t.primaryKey = t'.primaryKey :=
  congrArg BackendTable.primaryKey h

theorem Table.columns_eq_of_backend :
    t.relationalColumns.map Column.backend = t'.relationalColumns.map Column.backend :=
  congrArg BackendTable.columns h

theorem Table.isEmpty_eq_of_backend :
    t.relationalColumns.isEmpty = t'.relationalColumns.isEmpty := by
  have := congrArg List.isEmpty (Table.columns_eq_of_backend h)
  simpa only [List.isEmpty_map] using this

theorem Table.isKey_eq_of_backend (c c' : Column) (hc : c.backend = c'.backend) :
    t.isKey c = t'.isKey c' := by
  simp only [Table.isKey]
  rw [Table.primaryKey_eq_of_backend h, Column.name_eq_of_backend hc]

end Tables

/-! ## Steps for one table

The two generators share their settings, and may differ in everything else. -/

namespace Generator

section Steps

variable {g g' : Generator} (hs : g.settings = g'.settings)
variable {t t' : Table} (h : t.backend = t'.backend)

include h

theorem createTable_eq : createTable t = createTable t' := by
  simp only [createTable]
  rw [Table.name_eq_of_backend h]
  refine congrArg _ (map_eq_of_view (fun c c' hc => ?_) (Table.columns_eq_of_backend h))
  have hname := Column.name_eq_of_backend hc
  have htype : (Sql.ColumnType.ofTag c.typeTag).sql = (Sql.ColumnType.ofTag c'.typeTag).sql :=
    congrArg BackendColumn.sqlType hc
  have hunique : c.isUnique = c'.isUnique := congrArg BackendColumn.isUnique hc
  simp only [columnDef]
  rw [hname, htype, hunique, Table.isKey_eq_of_backend h c c' hc]

theorem encryptedColumns_eq :
    (encryptedColumns t).map Column.backend = (encryptedColumns t').map Column.backend :=
  filter_eq_of_view (fun _ _ hc => Column.encrypted_eq_of_backend hc)
    (Table.columns_eq_of_backend h)

theorem indexedColumns_eq :
    (indexedColumns t).map Column.backend = (indexedColumns t').map Column.backend := by
  refine filter_eq_of_view (fun c c' hc => ?_) (Table.columns_eq_of_backend h)
  rw [Table.isKey_eq_of_backend h c c' hc, Column.name_eq_of_backend hc]

theorem indexes_eq : indexes t = indexes t' := by
  simp only [indexes]
  rw [Table.isEmpty_eq_of_backend h, Table.primaryKey_eq_of_backend h,
    map_eq_of_view (fun _ _ hc => Column.name_eq_of_backend hc) (indexedColumns_eq h)]
  refine congrArg _ (List.map_congr_left fun column _ => ?_)
  simp only [index]
  rw [Table.name_eq_of_backend h]

theorem indexScript_eq : indexScript t = indexScript t' := by
  simp only [indexScript]
  rw [indexes_eq h]

theorem referringColumns_eq :
    (referringColumns t).map Column.backend = (referringColumns t').map Column.backend := by
  refine filter_eq_of_view (fun c c' hc => ?_) (Table.columns_eq_of_backend h)
  rw [Table.isKey_eq_of_backend h c c' hc, Column.name_eq_of_backend hc]

theorem tableScript_eq : tableScript t = tableScript t' := by
  funext statements
  cases statements with
  | nil => rfl
  | cons create comments =>
      simp only [tableScript]
      rw [Table.name_eq_of_backend h]

theorem columnNames_eq :
    t.relationalColumns.map (·.name) = t'.relationalColumns.map (·.name) :=
  map_eq_of_view (fun _ _ hc => Column.name_eq_of_backend hc) (Table.columns_eq_of_backend h)

theorem isStamped_eq : isStamped t = isStamped t' := by
  have hnames := columnNames_eq h
  rw [Bool.eq_iff_iff, isStamped_iff, isStamped_iff, ← List.mem_map, ← List.mem_map, hnames]

theorem triggerBlock_eq (function : String) : triggerBlock function t = triggerBlock function t' := by
  simp only [triggerBlock, triggerScript]
  rw [Table.name_eq_of_backend h]

theorem owner?_eq :
    PolicyRule.owner? t.relationalColumns = PolicyRule.owner? t'.relationalColumns := by
  simp only [PolicyRule.owner?]
  refine congrArg (List.find? · _) (funext fun name => ?_)
  have := congrArg (List.any · (· == name)) (columnNames_eq h)
  simpa only [List.any_map, Function.comp_def] using this

theorem basis_eq :
    PolicyBasis.ofTable t t.relationalColumns = PolicyBasis.ofTable t' t'.relationalColumns := by
  have hrule (r : PolicyRule) : r.basis? t t.relationalColumns = r.basis? t' t'.relationalColumns := by
    simp only [PolicyRule.basis?]
    rw [Table.name_eq_of_backend h, Table.primaryKey_eq_of_backend h, owner?_eq h]
  simp only [PolicyBasis.ofTable, PolicyRule.firstBasis?]
  rw [funext hrule]

include hs

theorem tableStatements_eq : g.tableStatements t = g'.tableStatements t' := by
  have hcomments : (encryptedColumns t).mapM (g.comment t) = (encryptedColumns t').mapM (g'.comment t') := by
    refine mapM_eq_of_view (fun c c' hc => ?_) (encryptedColumns_eq h)
    simp only [comment]
    rw [Table.name_eq_of_backend h, Column.name_eq_of_backend hc, hs]
  simp only [tableStatements]
  rw [Table.isEmpty_eq_of_backend h, createTable_eq h, hcomments]

theorem generateTable_eq : g.generateTable t = g'.generateTable t' := by
  simp only [generateTable]
  rw [Table.name_eq_of_backend h, tableStatements_eq hs h, tableScript_eq h]

theorem policy?_eq : g.policy? t = g'.policy? t' := by
  simp only [policy?]
  rw [Table.isEmpty_eq_of_backend h, basis_eq h, hs]

theorem policies_eq : g.policies t = g'.policies t' := by
  have hstatements : policyStatements t = policyStatements t' := by
    funext p
    rw [policyStatements, policyStatements, Table.name_eq_of_backend h]
  rw [policies, policies, policy?_eq hs h, hstatements]

theorem generatePolicy_eq : g.generatePolicy t = g'.generatePolicy t' := by
  simp only [generatePolicy]
  rw [Table.name_eq_of_backend h, policy?_eq hs h, policies_eq hs h]

end Steps

/-! ## Steps for all tables -/

theorem generateTables_eq {g g' : Generator} (hs : g.settings = g'.settings) (label : Value)
    {tables tables' : List Table} (h : tables.map Table.backend = tables'.map Table.backend) :
    g.generateTables label tables = g'.generateTables label tables' := by
  have hparts := mapM_eq_of_view (fun _ _ h => generateTable_eq hs h) h
  have hindexes := flatMap_eq_of_view (fun _ _ h => indexScript_eq h) h
  simp only [generateTables, joinTables, labelFor]
  rw [hparts, hindexes, hs]

section Registries

variable {g g' : Generator} (hs : g.settings = g'.settings)
variable (hr : g.registry.backend = g'.registry.backend)

include hr

theorem names_eq : g.registry.names = g'.registry.names :=
  map_eq_of_view (fun _ _ h => Table.name_eq_of_backend h) hr

theorem size_eq : g.registry.size = g'.registry.size := by
  have := congrArg List.length hr
  simpa only [Registry.backend, Registry.size, List.length_map] using this

theorem table?_eq (name : Text) :
    (g.registry.table? name).map Table.backend = (g'.registry.table? name).map Table.backend :=
  find?_eq_of_view (fun _ _ h => by rw [Table.name_eq_of_backend h]) hr

theorem reference_eq (column : String) : g.reference column = g'.reference column := by
  simp only [reference]
  rw [names_eq hr]
  cases Naming.referenced? (g'.registry.names.map .ofString) column with
  | none => rfl
  | some name =>
      have h := table?_eq hr name
      rw [Option.bind_some, Option.bind_some]
      cases ht : g.registry.table? name with
      | none =>
          rw [ht] at h
          rw [Option.map_eq_none_iff.mp h.symm]
      | some t =>
          rw [ht] at h
          obtain ⟨t', ht', hview⟩ := Option.map_eq_some_iff.mp h.symm
          rw [ht']
          simp only [Table.name_eq_of_backend hview, Table.primaryKey_eq_of_backend hview]

theorem foreignKeys_eq : g.foreignKeys = g'.foreignKeys := by
  refine flatMap_eq_of_view (fun t t' h => ?_) hr
  refine filterMap_eq_of_view (fun c c' hc => ?_) (referringColumns_eq h)
  simp only [foreignKey?]
  rw [Column.name_eq_of_backend hc, Table.name_eq_of_backend h, reference_eq hr]

theorem skipMessages_eq : g.skipMessages = g'.skipMessages := by
  refine flatMap_eq_of_view (fun t t' h => ?_) hr
  refine filterMap_eq_of_view (fun c c' hc => ?_) (referringColumns_eq h)
  simp only [skipMessage?]
  rw [Column.name_eq_of_backend hc, Table.name_eq_of_backend h, reference_eq hr]

theorem generateForeignKeysScript_eq :
    g.generateForeignKeysScript = g'.generateForeignKeysScript := by
  simp only [generateForeignKeysScript, generateForeignKeys, foreignKeysScript]
  rw [foreignKeys_eq hr, skipMessages_eq hr]

theorem stampedTables_eq :
    g.stampedTables.map Table.backend = g'.stampedTables.map Table.backend :=
  filter_eq_of_view (fun _ _ h => isStamped_eq h) hr

include hs

theorem tableText_eq (name : Text) : g.tableText name = g'.tableText name := by
  have h := table?_eq hr name
  simp only [tableText]
  cases ht : g.registry.table? name with
  | none =>
      rw [ht] at h
      rw [Option.map_eq_none_iff.mp h.symm]
  | some t =>
      rw [ht] at h
      obtain ⟨t', ht', hview⟩ := Option.map_eq_some_iff.mp h.symm
      have hone : [t].map Table.backend = [t'].map Table.backend := by
        rw [List.map_singleton, List.map_singleton, hview]
      rw [ht']
      simp only [generateTables_eq hs _ hone]

theorem triggersScript_eq : g.triggersScript = g'.triggersScript := by
  have hfunction : g.stampFunction = g'.stampFunction := by
    simp only [stampFunction]
    rw [hs]
  have hparts (function : String) :=
    flatMap_eq_of_view (fun _ _ h => triggerBlock_eq h function) (stampedTables_eq hr)
  simp only [triggersScript_eq_blocks, hfunction, hparts]

theorem policiesScript_eq : g.policiesScript = g'.policiesScript := by
  simp only [policiesScript]
  rw [mapM_eq_of_view (fun _ _ h => generatePolicy_eq hs h) hr]

theorem completeScript_eq : g.completeScript = g'.completeScript := by
  simp only [completeScript, tablesScript, joinAll]
  rw [generateTables_eq hs _ hr, generateForeignKeysScript_eq hr, triggersScript_eq hs hr,
    policiesScript_eq hs hr, size_eq hr, hs]

end Registries

end Generator

/-! ## Edits that the backend cannot see -/

/-- The second list of columns comes from the first by edits that the backend cannot see.  A column may be
replaced by one that looks the same and is carried to the backend like it, whatever else is said about its
containers, its other name and its other tiers.  A column that stays off the backend may be added or removed
at any place, and by that renamed, moved and marked in any way. -/
inductive LocalEdit : List Column → List Column → Prop
  | nil : LocalEdit [] []
  | keep {c c' : Column} {cs cs' : List Column} : c.isRelational = c'.isRelational →
      c.backend = c'.backend → LocalEdit cs cs' → LocalEdit (c :: cs) (c' :: cs')
  | add {c : Column} {cs cs' : List Column} : c.isRelational = false → LocalEdit cs cs' →
      LocalEdit cs (c :: cs')
  | remove {c : Column} {cs cs' : List Column} : c.isRelational = false → LocalEdit cs cs' →
      LocalEdit (c :: cs) cs'

theorem LocalEdit.backend_eq {cs cs' : List Column} (h : LocalEdit cs cs') :
    (cs.filter (·.isRelational)).map Column.backend =
      (cs'.filter (·.isRelational)).map Column.backend := by
  induction h with
  | nil => rfl
  | @keep c c' cs cs' hrel hview _ ih =>
      -- Columns that look the same need not both be carried, so this is asked of them apart.
      rw [List.filter_cons, List.filter_cons, hrel]
      cases c'.isRelational with
      | true => simp only [if_true, List.map_cons, hview, ih]
      | false => simpa using ih
  | add hlocal _ ih => rw [List.filter_cons, hlocal]; simpa using ih
  | remove hlocal _ ih => rw [List.filter_cons, hlocal]; simpa using ih

/-- Nothing is seen of dropping every column that stays off the backend. -/
theorem LocalEdit.drop : ∀ cs : List Column, LocalEdit cs (cs.filter (·.isRelational))
  | [] => .nil
  | c :: cs => by
      rw [List.filter_cons]
      cases hc : c.isRelational with
      | true => exact .keep rfl rfl (.drop cs)
      | false => exact .remove hc (.drop cs)

/-! ## The scripts depend on nothing else -/

/-- Registries that look the same from the backend give, in every session, the same scripts or the same
faults, and the same journal; and edits that the backend cannot see leave a table looking the same. -/
theorem scripts_depend_only_on_backend (settings : Settings) :
    (∀ r r' : Registry, r.backend = r'.backend → ∀ s : Session,
      (∀ part : ScriptPart, (part.generate ⟨r, settings⟩).outcome s =
        (part.generate ⟨r', settings⟩).outcome s) ∧
      ∀ name : Text, (Generator.tableText ⟨r, settings⟩ name).outcome s =
        (Generator.tableText ⟨r', settings⟩ name).outcome s) ∧
    ∀ t t' : Table, t.name = t'.name → t.primaryKey = t'.primaryKey →
      LocalEdit t.columns t'.columns → t.backend = t'.backend := by
  refine ⟨fun r r' h s => ⟨fun part => congrArg (Run.outcome · s) ?_, fun name => ?_⟩,
    fun t t' hname hkey hedit => ?_⟩
  · cases part with
    | complete => exact Generator.completeScript_eq rfl h
    | tables => exact Generator.generateTables_eq rfl _ h
    | foreignKeys => exact Generator.generateForeignKeysScript_eq h
    | triggers => exact congrArg liftExcept (Generator.triggersScript_eq rfl h)
    | policies => exact Generator.policiesScript_eq rfl h
  · let g : Generator := ⟨r, settings⟩
    let g' : Generator := ⟨r', settings⟩
    have hs : g.settings = g'.settings := rfl
    have htext : g.tableText name = g'.tableText name := Generator.tableText_eq hs h name
    exact congrArg (Run.outcome · s) htext
  · simp only [Table.backend]
    rw [hname, hkey]
    exact congrArg _ hedit.backend_eq

/-- The projects without their logo, which is the one column of theirs that stays off the backend. -/
def Table.projectsWithoutLogo : Table where
  name := Table.projects.name
  columns := Table.projects.relationalColumns
  primaryKey := Table.projects.primaryKey

theorem logo_never_shows :
    LocalEdit Table.projects.columns Table.projectsWithoutLogo.columns ∧
      (⟨[.projects]⟩ : Registry).backend = (⟨[.projectsWithoutLogo]⟩ : Registry).backend ∧
      ∀ s : Session, (Generator.completeScript ⟨⟨[.projects]⟩, {}⟩).outcome s =
        (Generator.completeScript ⟨⟨[.projectsWithoutLogo]⟩, {}⟩).outcome s := by
  have edit : LocalEdit Table.projects.columns Table.projectsWithoutLogo.columns := .drop _
  have view : Table.projects.backend = Table.projectsWithoutLogo.backend :=
    (scripts_depend_only_on_backend {}).2 _ _ rfl rfl edit
  have views : (⟨[.projects]⟩ : Registry).backend = (⟨[.projectsWithoutLogo]⟩ : Registry).backend :=
    congrArg (fun v => [v]) view
  exact ⟨edit, views, fun s => ((scripts_depend_only_on_backend {}).1 _ _ views s).1 .complete⟩

end SchemaScript
