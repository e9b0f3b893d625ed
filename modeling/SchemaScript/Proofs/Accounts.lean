/-
# The log of a run accounts for its script

## What is proved

A run that gives the complete script leaves these records and no others, in this order: one for each registered table,
which says that the table is skipped exactly if it is not created, and otherwise how many comments are put on its
columns; a checkpoint with the number of tables that are created; one for each column whose name ends like a reference
and that is constrained nowhere in the script, with the reason; one with the number of constraints; one for each table
with policies, with the rule that their check comes from; and one with the number of registered tables
(`log_accounts_for_complete_script`).  Each carries the fields of the contexts that it is written in.

## How

The numbers in the records are those of the generator's own loops, and those in the script are counted over its
statements, so the statements are first told apart by the part of the script that they belong to (`Sql.Statement.kind`).
The records are collected along the run by `Run.Leaves`; each step is told not to fail, because the script is there.
-/
import SchemaScript.Proofs.Agreement
import SchemaScript.Proofs.Records
import SchemaScript.Proofs.References

namespace SchemaScript

open Sql (Statement Check)
open Text (ofString)

/-! ## Kinds of statements -/

namespace Sql.Statement

/-- What a statement belongs to. -/
inductive Kind where
  | transaction
  | table
  | index
  | foreignKey
  | trigger
  | policy
deriving DecidableEq, Repr

/-- The kind of a statement; comments on columns belong to the table. -/
def kind : Statement → Kind
  | .begin => .transaction
  | .commit => .transaction
  | .createTable _ _ => .table
  | .comment _ _ _ => .table
  | .createIndex _ _ _ => .index
  | .addForeignKey _ _ _ _ _ => .foreignKey
  | .createStampFunction _ => .trigger
  | .dropTrigger _ _ => .trigger
  | .createTrigger _ _ _ => .trigger
  | .enableRowSecurity _ => .policy
  | .createPolicy _ _ _ => .policy

/-- Whether a statement comments on a column. -/
def isComment : Statement → Bool
  | .comment _ _ _ => true
  | _ => false

/-- Whether a statement constrains a column of a table. -/
def constrains (table column : String) : Statement → Bool
  | .addForeignKey _ t c _ _ => t == table && c == column
  | _ => false

/-- The statements of a kind. -/
def ofKind (k : Kind) (ss : List Statement) : List Statement := ss.filter fun s => decide (s.kind = k)

theorem ofKind_append (k : Kind) (ss ss' : List Statement) :
    ofKind k (ss ++ ss') = ofKind k ss ++ ofKind k ss' :=
  List.filter_append ss ss'

/-- Statements that are all of one kind. -/
theorem ofKind_of_all {k' : Kind} {ss : List Statement} (h : ∀ s ∈ ss, s.kind = k') (k : Kind) :
    ofKind k ss = if k' = k then ss else [] := by
  split
  next hk => exact List.filter_eq_self.mpr fun s hs => decide_eq_true ((h s hs).trans hk)
  next hk => exact List.filter_eq_nil_iff.mpr fun s hs heq => hk ((h s hs).symm.trans (of_decide_eq_true heq))

theorem created?_eq_none {s : Statement} (h : s.kind ≠ .table) : s.created? = none := by
  cases s with
  | createTable table columns => exact absurd rfl h
  | _ => rfl

theorem constrains_eq_false {s : Statement} (h : s.kind ≠ .foreignKey) (table column : String) :
    s.constrains table column = false := by
  cases s with
  | addForeignKey name t c t' c' => exact absurd rfl h
  | _ => rfl

/-- Tables that are created are created by statements of their kind. -/
theorem filterMap_created?_ofKind (ss : List Statement) :
    (ofKind .table ss).filterMap created? = ss.filterMap created? := by
  rw [ofKind, List.filterMap_filter]
  refine List.filterMap_congr fun s _ => ?_
  by_cases h : s.kind = .table
  · rw [if_pos (decide_eq_true h)]
  · rw [if_neg (by simp [h]), created?_eq_none h]

theorem any_constrains_ofKind (ss : List Statement) (table column : String) :
    (ofKind .foreignKey ss).any (constrains table column) = ss.any (constrains table column) := by
  rw [ofKind, List.any_filter]
  congr 1
  funext s
  by_cases h : s.kind = .foreignKey
  · rw [decide_eq_true h, Bool.true_and]
  · rw [constrains_eq_false h, Bool.and_false]

end Sql.Statement

open Sql.Statement (ofKind)

namespace Generator

variable {g : Generator}

/-! ## The statements of a script, by kind -/

theorem ofKind_transaction {k : Sql.Statement.Kind} (hk : k ≠ .transaction) (part : List Statement) :
    ofKind k (transaction part) = ofKind k part := by
  have hends (s : Statement) (hs : s.kind = .transaction) : ofKind k [s] = [] :=
    (Sql.Statement.ofKind_of_all (by simpa using hs) k).trans (if_neg (Ne.symm hk))
  have hparts : transaction part = [.begin] ++ part ++ [.commit] := rfl
  rw [hparts, Sql.Statement.ofKind_append, Sql.Statement.ofKind_append, hends .begin rfl, hends .commit rfl,
    List.nil_append, List.append_nil]

theorem kind_of_mem_tables {ss : List Statement} (h : g.createStatements g.registry.tables = .ok ss) :
    ∀ s ∈ ss, s.kind = .table := by
  intro s hs
  obtain ⟨t, _, rfl | ⟨c, _, text, _, rfl⟩⟩ := mem_createStatements h hs
  · rfl
  · rfl

theorem kind_of_mem_indexes (tables : List Table) : ∀ s ∈ tables.flatMap indexes, s.kind = .index := by
  intro s hs
  obtain ⟨t, _, hs⟩ := List.mem_flatMap.mp hs
  obtain ⟨c, _, rfl⟩ := mem_indexes hs
  rfl

theorem kind_of_mem_foreignKeys : ∀ s ∈ g.foreignKeys, s.kind = .foreignKey := by
  intro s hs
  obtain ⟨t, _, c, _, table, key, _, rfl⟩ := mem_foreignKeys hs
  rfl

theorem kind_of_mem_triggers {ss : List Statement} (h : g.triggerStatementsOf = .ok ss) : ∀ s ∈ ss, s.kind = .trigger := by
  intro s hs
  obtain ⟨function, _, rfl⟩ := triggerStatementsOf_eq_ok h
  rcases List.mem_cons.mp hs with rfl | hs
  · rfl
  · obtain ⟨t, _, _, rfl | rfl⟩ := mem_stampTriggers hs
    · rfl
    · rfl

theorem kind_of_mem_secures {table : String} {check : Check} : ∀ s ∈ secures table check, s.kind = .policy := by
  intro s hs
  simp only [secures, List.mem_cons, List.not_mem_nil, or_false] at hs
  rcases hs with rfl | rfl | rfl | rfl | rfl <;> rfl

theorem kind_of_mem_policies {ss : List Statement} (h : g.policyStatementsOf = .ok ss) :
    ∀ s ∈ ss, s.kind = .policy := by
  intro s hs
  obtain ⟨check, rfl, _⟩ := policyStatementsOf_eq_ok h
  obtain ⟨t, _, hs⟩ := List.mem_flatMap.mp hs
  exact kind_of_mem_secures s hs

/-- Each part of the complete script consists of the statements of its kind. -/
theorem ofKind_statements {p : Parts} (h : g.parts = .ok p) :
    ofKind .table p.statements = p.tables ∧ ofKind .foreignKey p.statements = p.foreignKeys ∧
      ofKind .policy p.statements = p.policies := by
  obtain ⟨htables, hindexes, hforeignKeys, htriggers, hpolicies⟩ := parts_eq_ok h
  have ktables := kind_of_mem_tables htables
  have kindexes : ∀ s ∈ p.indexes, s.kind = .index := hindexes ▸ kind_of_mem_indexes g.registry.tables
  have kforeignKeys : ∀ s ∈ p.foreignKeys, s.kind = .foreignKey := hforeignKeys ▸ kind_of_mem_foreignKeys
  have ktriggers := kind_of_mem_triggers htriggers
  have kpolicies := kind_of_mem_policies hpolicies
  have hsplit (k : Sql.Statement.Kind) (hk : k ≠ .transaction) : ofKind k p.statements =
      (if .table = k then p.tables else []) ++ (if .index = k then p.indexes else []) ++
        (if .foreignKey = k then p.foreignKeys else []) ++ (if .trigger = k then p.triggers else []) ++
        (if .policy = k then p.policies else []) := by
    simp only [Parts.statements, Sql.Statement.ofKind_append, ofKind_transaction hk,
      Sql.Statement.ofKind_of_all ktables, Sql.Statement.ofKind_of_all kindexes,
      Sql.Statement.ofKind_of_all kforeignKeys, Sql.Statement.ofKind_of_all ktriggers,
      Sql.Statement.ofKind_of_all kpolicies]
  refine ⟨(hsplit .table (by decide)).trans ?_, (hsplit .foreignKey (by decide)).trans ?_,
    (hsplit .policy (by decide)).trans ?_⟩
  all_goals simp only [reduceCtorEq, if_true, if_false, List.append_nil, List.nil_append]

/-! ## Records -/

/-- A record of the generator in a context, with data that are fields. -/
def recordIn (c : Log.Context) (time : Instant) (level : Int) (message : Text) (data : Fields) : Log.Record where
  time := time
  level := .int level
  logger := .text "core.schema.sql_generator"
  message := message
  extra := some (.entries (.ofFields data))
  context := c

/-- The fields of records of the generator outside of all contexts. -/
def ownData : Fields := [("component", .text "generator")]

/-- What is said of a table whose statements are these. -/
def tableMessage (statements : List Statement) : Text :=
  if statements.filterMap Statement.created? = [] then "No relational columns, skipping table"
  else "Generated table with " ++ Text.decimal 1 (statements.countP Statement.isComment) ++
    " encrypted column comments"

/-- The record of a table whose statements are these, under a label. -/
def tableRecord (time : Instant) (label : Text) (t : Table) (statements : List Statement) : Log.Record :=
  recordIn { table := .text t.name, operation := .text "create_table", schemaLabel := .text label } time
    Log.Level.debug (tableMessage statements)
    [("table", .text t.name), ("operation", .text "create_table"), ("schema_label", .text label),
      ("component", .text "generator")]

/-- The data of the checkpoint after the tables, of which so many were created. -/
def checkpointData (time : Instant) (label : Text) (created : Nat) : Fields :=
  Fields.single "checkpoint" (.text "tables_script_generated") ++ Fields.single "timestamp" (.text time.iso) ++
    (if label = [] then [] else Fields.single "schema_label" (.text label)) ++
    Fields.single "data" (.record [("tables", .int created)])

/-- The checkpoint after the tables. -/
def checkpointRecord (time : Instant) (label : Text) (created : Nat) : Log.Record where
  time := time
  level := .int Log.Level.info
  logger := .text "checkpoint"
  message := "CHECKPOINT: tables_script_generated"
  extra := some (.value (.record (checkpointData time label created)))
  context := { operation := .text "tables", schemaLabel := .text label }

/-- The record of a column that is not constrained, with the reason. -/
def skipRecord (time : Instant) (reason : Text) : Log.Record := recordIn {} time Log.Level.debug reason ownData

/-- The record of the number of constraints. -/
def constraintsRecord (time : Instant) (constraints : Nat) : Log.Record :=
  recordIn {} time Log.Level.info ("Inferred " ++ Text.decimal 1 constraints ++ " foreign keys") ownData

/-- The record of the rule for the policies of a table. -/
def ruleRecord (time : Instant) (t : Table) (rule : PolicyRule) : Log.Record :=
  recordIn { table := .text t.name, operation := .text "rls" } time Log.Level.debug
    ("Policy rule '" ++ rule.name ++ "' selected")
    [("table", .text t.name), ("operation", .text "rls"), ("component", .text "generator")]

/-- The record at the end, with the number of registered tables. -/
def summaryRecord (time : Instant) (tables : Nat) : Log.Record :=
  recordIn {} time Log.Level.info
    ("Generated complete script for " ++ Text.decimal 1 tables ++ " registered tables") ownData

/-! ## The records of each step -/

variable {time : Instant} {contexts : List Log.Context}

theorem leaves_progress (message : Text) :
    (progress message).Leaves time [] (fun _ => True) [recordIn {} time Log.Level.info message ownData] :=
  Run.leaves_note logger (by decide) message

theorem leaves_detail (message : Text) :
    (detail message).Leaves time [] (fun _ => True) [recordIn {} time Log.Level.debug message ownData] :=
  Run.leaves_note logger (by decide) message

/-- The context that the tables are generated in. -/
def tablesContext (label : Text) : Log.Context := { operation := .text "tables", schemaLabel := .text label }

theorem tableMessage_eq {t : Table} {comments : List Statement} (h : ∀ s ∈ comments, s.isComment = true) :
    tableMessage (createTable t :: comments) =
      "Generated table with " ++ Text.decimal 1 comments.length ++ " encrypted column comments" := by
  have hcreated : (createTable t :: comments).filterMap Statement.created? ≠ [] :=
    List.cons_ne_nil t.name (comments.filterMap Statement.created?)
  have hcomments : (createTable t :: comments).countP Statement.isComment = comments.length := by
    rw [createTable, List.countP_cons_of_neg (by simp [Statement.isComment]), List.countP_eq_length.mpr h]
  rw [tableMessage, if_neg hcreated, hcomments]

theorem leaves_generateTable {t : Table} {ss : List Statement} (h : g.tableStatements t = .ok ss) (label : Text) :
    (g.generateTable t).Leaves time [tablesContext label] (· = tableScript t ss)
      [tableRecord time label t ss] := by
  refine Run.Leaves.within ((Run.leaves_liftExcept h rfl).silent_bind fun statements hstatements => ?_)
  subst hstatements
  rcases tableStatements_eq_ok h with ⟨_, rfl⟩ | ⟨_, comments, rfl, hcomments⟩
  · exact (Run.leaves_note logger (by decide) _).bind_pure fun _ _ => rfl
  · have hcomment : ∀ s ∈ comments, s.isComment = true := by
      intro s hs
      obtain ⟨c, _, text, _, rfl⟩ := hcomments s hs
      rfl
    rw [tableRecord, tableMessage_eq hcomment]
    exact (Run.leaves_note logger (by decide) _).bind_pure fun _ _ => rfl

theorem tableScript_eq_nil_iff {t : Table} {ss : List Statement} : tableScript t ss = [] ↔ ss = [] := by
  constructor
  · intro h
    rw [← statements_tableScript t ss, h]
    rfl
  · rintro rfl
    rfl

theorem isRelational_iff_of_tableStatements {t : Table} {ss : List Statement} (h : g.tableStatements t = .ok ss) :
    t.isRelational = true ↔ ss ≠ [] := by
  rw [t.isRelational_iff]
  rcases tableStatements_eq_ok h with ⟨hempty, rfl⟩ | ⟨hcolumns, comments, rfl, _⟩
  · exact ⟨fun hne => absurd hempty hne, fun hne => absurd rfl hne⟩
  · exact ⟨fun _ => List.cons_ne_nil _ _, fun _ => hcolumns⟩

/-- As many parts are not empty as tables are carried. -/
theorem length_filter_parts {block : Table → List Statement}
    (h : ∀ t ∈ g.registry.tables, g.tableStatements t = .ok (block t)) :
    ((g.registry.tables.map fun t => tableScript t (block t)).filter (!·.isEmpty)).length =
      g.registry.carried.length := by
  rw [List.filter_map, List.length_map, Registry.carried]
  refine congrArg List.length (List.filter_congr fun t ht => ?_)
  rw [Bool.eq_iff_iff, isRelational_iff_of_tableStatements (h t ht)]
  simp [tableScript_eq_nil_iff]

theorem leaves_checkpoint (label : Text) (created : Nat) :
    (Run.journal (·.checkpoint (.text "tables_script_generated") (.record [("tables", .int created)]))).Leaves
      time [tablesContext label] (fun _ => True) [checkpointRecord time label created] := by
  refine Run.leaves_journal fun j hkeeps htime hcontexts => ?_
  have hlabel : Log.present "schema_label" (.text label) =
      if label = [] then [] else Fields.single "schema_label" (.text label) := by
    cases label <;> rfl
  have hcontext : j.context = tablesContext label := by
    rw [Log.Journal.context, hcontexts]
    rfl
  have hdata : Log.checkpointFields time (tablesContext label) (.text "tables_script_generated")
      (.record [("tables", .int created)]) = checkpointData time label created := by
    rw [checkpointData, ← hlabel]
    rfl
  rw [Log.Journal.checkpoint, Log.Journal.write_eq_add hkeeps (by decide), htime, hcontext, hdata]
  rfl

theorem leaves_tablesScript {label : Text} (hlabel : g.settings.schemaLabel = .text label)
    {block : Table → List Statement} (h : ∀ t ∈ g.registry.tables, g.tableStatements t = .ok (block t)) :
    g.tablesScript.Leaves time [] (fun _ => True)
      (g.registry.tables.map (fun t => tableRecord time label t (block t)) ++
        [checkpointRecord time label g.registry.carried.length]) := by
  rw [tablesScript, generateTables]
  have hcontexts : Log.opened [] { schemaLabel := some (g.labelFor .null), operation := some (.text "tables") } =
      [tablesContext label] := by
    rw [labelFor, hlabel]
    rfl
  refine Run.Leaves.within ?_
  rw [hcontexts]
  have hparts : (g.registry.tables.mapM g.generateTable).Leaves time [tablesContext label]
      (List.Forall₂ (fun t script => script = tableScript t (block t)) g.registry.tables)
      (g.registry.tables.map fun t => tableRecord time label t (block t)) := by
    rw [List.map_eq_flatMap]
    exact Run.leaves_mapM fun t ht => leaves_generateTable (h t ht) label
  refine Run.leaves_now.silent_bind fun time' _ => hparts.bind fun parts hparts => ?_
  have hscripts : parts = g.registry.tables.map fun t => tableScript t (block t) := by
    rw [← List.forall₂_eq_eq_eq, List.forall₂_map_right_iff]
    exact hparts.flip
  rw [hscripts, length_filter_parts h]
  exact (leaves_checkpoint label g.registry.carried.length).bind_pure fun _ _ => trivial

theorem leaves_generateForeignKeysScript :
    g.generateForeignKeysScript.Leaves time [] (fun _ => True)
      (g.skipMessages.map (fun message => skipRecord time (ofString message)) ++
        [constraintsRecord time g.foreignKeys.length]) := by
  have hskips : (g.skipMessages.forM fun message => detail message).Leaves time [] (fun _ => True)
      (g.skipMessages.map fun message => skipRecord time (ofString message)) := by
    rw [List.map_eq_flatMap]
    exact Run.leaves_forM fun message _ => leaves_detail (ofString message)
  have hkeys : g.generateForeignKeys.Leaves time [] (fun _ => True)
      (g.skipMessages.map (fun message => skipRecord time (ofString message)) ++
        [constraintsRecord time g.foreignKeys.length]) :=
    hskips.bind fun _ _ => (leaves_progress _).bind_pure fun _ _ => trivial
  exact hkeys.bind_pure fun _ _ => trivial

/-- The rule that the policies of a table come from. -/
def ruleOf (t : Table) : PolicyRule := (PolicyBasis.ofTable t t.relationalColumns).rule

theorem leaves_generatePolicy {t : Table} {selected : Option PolicySelection} (h : g.policy? t = .ok selected) :
    (g.generatePolicy t).Leaves time [] (fun _ => True)
      (if t.relationalColumns.isEmpty then [] else [ruleRecord time t (ruleOf t)]) := by
  rcases policy?_eq_ok h with ⟨hempty, rfl⟩ | ⟨hcolumns, p, hp, rfl⟩
  · rw [if_pos (List.isEmpty_iff.mpr hempty)]
    refine Run.Leaves.within ((Run.leaves_liftExcept h rfl).silent_bind fun selected hselected => ?_)
    subst hselected
    exact Run.leaves_pure trivial
  · rw [if_neg fun hempty => hcolumns (List.isEmpty_iff.mp hempty), ruleOf, ← (PolicyBasis.rule_of_selection hp).1]
    refine Run.Leaves.within ((Run.leaves_liftExcept h rfl).silent_bind fun selected hselected => ?_)
    subst hselected
    refine (Run.leaves_note logger (by decide) _).bind fun _ _ => ?_
    exact (Run.leaves_liftExcept (policies_of_policy? h) rfl).bind_pure fun _ _ => trivial

theorem leaves_policiesScript (h : ∀ t ∈ g.registry.tables, ∃ selected, g.policy? t = .ok selected) :
    g.policiesScript.Leaves time [] (fun _ => True)
      (g.registry.carried.map fun t => ruleRecord time t (ruleOf t)) := by
  rw [List.map_eq_flatMap, Registry.flatMap_carried]
  have hparts : (g.registry.tables.mapM g.generatePolicy).Leaves time []
      (List.Forall₂ (fun _ _ => True) g.registry.tables) (g.registry.tables.flatMap fun t =>
        if t.relationalColumns.isEmpty then [] else [ruleRecord time t (ruleOf t)]) :=
    Run.leaves_mapM fun t ht => leaves_generatePolicy (h t ht).choose_spec
  exact hparts.bind_pure fun _ _ => trivial

/-- The records of the complete script, in the order in which they are written. -/
theorem leaves_completeScript {label : Text} (hlabel : g.settings.schemaLabel = .text label)
    {block : Table → List Statement} (hblock : ∀ t ∈ g.registry.tables, g.tableStatements t = .ok (block t))
    (htriggers : ∃ script, g.triggersScript = .ok script)
    (hpolicies : ∀ t ∈ g.registry.tables, ∃ selected, g.policy? t = .ok selected) :
    g.completeScript.Leaves time [] (fun _ => True)
      (g.registry.tables.map (fun t => tableRecord time label t (block t)) ++
        [checkpointRecord time label g.registry.carried.length] ++
        (g.skipMessages.map (fun message => skipRecord time (ofString message)) ++
          [constraintsRecord time g.foreignKeys.length] ++
          (g.registry.carried.map (fun t => ruleRecord time t (ruleOf t)) ++
            [summaryRecord time g.registry.size]))) := by
  obtain ⟨triggers, htriggers⟩ := htriggers
  have hsilent : (liftExcept g.triggersScript : Run Script).Leaves time [] (fun _ => True) [] :=
    Run.leaves_liftExcept htriggers trivial
  rw [completeScript]
  refine Run.leaves_now.silent_bind fun time' _ => ?_
  refine (leaves_tablesScript hlabel hblock).bind fun tables _ => ?_
  refine leaves_generateForeignKeysScript.bind fun foreignKeys _ => ?_
  refine hsilent.silent_bind fun triggers _ => ?_
  exact (leaves_policiesScript hpolicies).bind fun policies _ => (leaves_progress _).bind_pure fun _ _ => trivial

/-- Where the name of the function cannot be written, the run ends with the number of constraints. -/
theorem completeScript_failsAfter {label : Text} (hlabel : g.settings.schemaLabel = .text label)
    {block : Table → List Statement} (hblock : ∀ t ∈ g.registry.tables, g.tableStatements t = .ok (block t))
    {fault : Sql.Fault} (htriggers : g.triggersScript = .error fault) :
    g.completeScript.FailsAfter time [] fault
      (g.registry.tables.map (fun t => tableRecord time label t (block t)) ++
        [checkpointRecord time label g.registry.carried.length] ++
        (g.skipMessages.map (fun message => skipRecord time (ofString message)) ++
          [constraintsRecord time g.foreignKeys.length])) := by
  rw [completeScript]
  refine Run.leaves_now.bind_failsAfter fun time' _ => ?_
  refine (leaves_tablesScript hlabel hblock).bind_failsAfter fun tables _ => ?_
  rw [← List.append_nil (_ ++ [constraintsRecord _ _])]
  exact leaves_generateForeignKeysScript.bind_failsAfter fun foreignKeys _ =>
    Run.failsAfter_liftExcept_bind htriggers _

end Generator

/-! ## Columns that are not constrained -/

section Lists

variable {α β γ : Type}

theorem forall₂_filterMap {f : α → Option β} {p : α → Bool} {as : List α}
    (h : ∀ a ∈ as, p a = (f a).isSome) : List.Forall₂ (fun a b => f a = some b) (as.filter p) (as.filterMap f) := by
  induction as with
  | nil => exact .nil
  | cons a as ih =>
      have htail := ih fun a' ha' => h a' (List.mem_cons_of_mem _ ha')
      have hhead := h a List.mem_cons_self
      cases hf : f a with
      | none =>
          rw [hf] at hhead
          rw [List.filter_cons_of_neg (by simp [hhead]), List.filterMap_cons_none hf]
          exact htail
      | some b =>
          rw [hf] at hhead
          rw [List.filter_cons_of_pos (by simp [hhead]), List.filterMap_cons_some hf]
          exact .cons hf htail

theorem forall₂_flatMap {R : β → γ → Prop} {f : α → List β} {f' : α → List γ} {as : List α}
    (h : ∀ a ∈ as, List.Forall₂ R (f a) (f' a)) : List.Forall₂ R (as.flatMap f) (as.flatMap f') := by
  induction as with
  | nil => exact .nil
  | cons a as ih =>
      rw [List.flatMap_cons, List.flatMap_cons]
      exact List.rel_append (h a List.mem_cons_self) (ih fun a' ha' => h a' (List.mem_cons_of_mem _ ha'))

end Lists

/-- Why a column gets no constraint: its name leads to no table, or to one without a key. -/
inductive Skips (r : Registry) (t : Table) (c : Column) : String → Prop where
  | unmatched (h : ∀ name, ¬ Refers r.names c.name name) :
      Skips r t c ("No table matches " ++ t.name ++ "." ++ c.name)
  | keyless {name : String} {target : Table} (hrefers : Refers r.names c.name name)
      (hfirst : r.IsFirst name target) (hkey : target.primaryKey = none) :
      Skips r t c (t.name ++ "." ++ c.name ++ " -> " ++ name ++ " skipped, " ++ name ++ " has no primary key")

/-- The columns that are named like references and are no keys of their own tables, with their tables, as far as no
statement constrains them. -/
def Registry.unconstrained (r : Registry) (ss : List Statement) : List (Table × Column) :=
  r.tables.flatMap fun t => (t.relationalColumns.filter fun c =>
    t.primaryKey != some c.name && Text.endsWith c.name "_id" && !ss.any (Statement.constrains t.name c.name)).map
      (t, ·)

namespace Generator

variable {g : Generator}

theorem skips_of_skipMessage? {t : Table} {c : Column} {reason : String} (h : g.skipMessage? t c = some reason) :
    Skips g.registry t c reason := by
  cases hrefers : Naming.referenced? (g.registry.names.map .ofString) c.name with
  | none =>
      have hunknown : g.reference c.name = .unknown := by
        rw [reference, hrefers]
        rfl
      simp only [skipMessage?, hunknown] at h
      cases h
      refine .unmatched fun name hname => ?_
      rw [Naming.referenced?_eq_some_iff.mpr ⟨name, rfl, hname⟩] at hrefers
      cases hrefers
  | some text =>
      obtain ⟨name, rfl, hname⟩ := Naming.referenced?_eq_some_iff.mp hrefers
      obtain ⟨target, hfirst⟩ := Registry.exists_isFirst hname.mem
      have htarget := Registry.table?_eq_some_iff_isFirst.mpr hfirst
      cases hkey : target.primaryKey with
      | none =>
          have hkeyless : g.reference c.name = .keyless target.name := by
            rw [reference, hrefers, Option.bind_some, htarget]
            simp only [hkey]
          simp only [skipMessage?, hkeyless] at h
          cases h
          rw [hfirst.name]
          exact .keyless hname hfirst hkey
      | some key =>
          have hfound := reference_eq_found_iff.mpr ⟨target, hname, hfirst, hkey⟩
          simp only [skipMessage?, hfound] at h
          cases h

/-- A column that is named like a reference has either a message or a foreign key. -/
theorem isSome_skipMessage? (t : Table) (c : Column) :
    (g.skipMessage? t c).isSome = !(g.foreignKey? t c).isSome := by
  unfold skipMessage? foreignKey?
  cases g.reference c.name <;> rfl

/-- The foreign keys constrain a column exactly if its name leads to a key. -/
theorem any_constrains_foreignKeys {t : Table} (ht : t ∈ g.registry.tables) {c : Column}
    (hc : c ∈ referringColumns t) :
    g.foreignKeys.any (Statement.constrains t.name c.name) = (g.foreignKey? t c).isSome := by
  rw [Bool.eq_iff_iff, List.any_eq_true]
  constructor
  · rintro ⟨s, hs, hconstrains⟩
    obtain ⟨t', _, c', _, table, key, href, rfl⟩ := mem_foreignKeys hs
    simp only [Statement.constrains, Bool.and_eq_true, beq_iff_eq] at hconstrains
    rw [foreignKey?, ← hconstrains.2, href]
    rfl
  · intro h
    obtain ⟨s, hs⟩ := Option.isSome_iff_exists.mp h
    refine ⟨s, List.mem_flatMap.mpr ⟨t, ht, List.mem_filterMap.mpr ⟨c, hc, hs⟩⟩, ?_⟩
    simp only [foreignKey?] at hs
    split at hs
    · cases hs
      simp [Statement.constrains]
    · cases hs

/-- The messages are the reasons for the columns that the script leaves without a constraint, in order. -/
theorem skips_unconstrained {ss : List Statement} (h : ofKind .foreignKey ss = g.foreignKeys) :
    List.Forall₂ (fun p reason => Skips g.registry p.1 p.2 reason) (g.registry.unconstrained ss) g.skipMessages := by
  refine forall₂_flatMap fun t ht => ?_
  have hcolumns : (t.relationalColumns.filter fun c => t.primaryKey != some c.name && Text.endsWith c.name "_id" &&
      !ss.any (Statement.constrains t.name c.name)) =
      (referringColumns t).filter fun c => !ss.any (Statement.constrains t.name c.name) := by
    rw [referringColumns, List.filter_filter]
    exact List.filter_congr fun c _ => Bool.and_comm _ _
  have hmessages : List.Forall₂ (fun c reason => g.skipMessage? t c = some reason)
      ((referringColumns t).filter fun c => !ss.any (Statement.constrains t.name c.name))
      ((referringColumns t).filterMap (g.skipMessage? t)) := by
    refine forall₂_filterMap fun c hc => ?_
    rw [isSome_skipMessage?, ← any_constrains_foreignKeys ht hc, ← h, Statement.any_constrains_ofKind]
  rw [hcolumns, List.forall₂_map_left_iff]
  exact hmessages.imp fun c reason hreason => skips_of_skipMessage? hreason

/-! ## What a script that is given says of its parts -/

/-- The statements of the tables are the blocks of the tables, in order. -/
theorem exists_blocks {tables : List Table} {ss : List Statement} (h : g.createStatements tables = .ok ss) :
    ∃ block : Table → List Statement, (∀ t ∈ tables, g.tableStatements t = .ok (block t)) ∧
      ss = tables.flatMap block := by
  obtain ⟨blocks, hblocks, hss⟩ := bind_eq_ok_iff.mp h
  cases hss
  let block (t : Table) : List Statement := (g.tableStatements t).toOption.getD []
  refine ⟨block, fun t ht => ?_, ?_⟩
  · obtain ⟨ss, hss⟩ := exists_of_mapM_eq_ok hblocks ht
    simp only [block, hss]
    rfl
  · have hlist : blocks.map id = tables.map block := by
      refine map_eq_of_mapM_eq_ok (fun t _ ss hss => ?_) hblocks
      simp only [block, hss]
      rfl
    rw [List.flatMap_def, ← hlist, List.map_id]

theorem exists_policy? {ss : List Statement} (h : g.policyStatementsOf = .ok ss) :
    ∀ t ∈ g.registry.tables, ∃ selected, g.policy? t = .ok selected := by
  intro t ht
  obtain ⟨blocks, hblocks, _⟩ := bind_eq_ok_iff.mp h
  obtain ⟨block, hblock⟩ := exists_of_mapM_eq_ok hblocks ht
  obtain ⟨selected, hselected, _⟩ := bind_eq_ok_iff.mp hblock
  exact ⟨selected, hselected⟩

/-- The check of each table with policies comes from the first rule that applies to the table. -/
theorem exists_ruled_checks {ss : List Statement} (h : g.policyStatementsOf = .ok ss) :
    ∃ check : Table → Check, ss = (g.registry.carried.flatMap fun t => secures t.name (check t)) ∧
      ∀ t ∈ g.registry.carried,
        PolicyRule.chain.find? (fun q => (q.basis? t t.relationalColumns).isSome) = some (ruleOf t) ∧
          (ruleOf t).Checks g.settings.authenticatedRole t (check t) := by
  obtain ⟨check, hss, hcheck⟩ := exists_selections h
  refine ⟨check, hss, fun t ht => ?_⟩
  obtain ⟨selected, hselected, hchecks⟩ := hcheck t ht
  obtain ⟨hfirst, hbasis⟩ := PolicyRule.find?_chain t
  exact ⟨hfirst, _, selected, hbasis, hselected, hchecks⟩

/-- As many tables are created as carried. -/
theorem length_created {p : Parts} (h : g.parts = .ok p) :
    (p.statements.filterMap Statement.created?).length = g.registry.carried.length := by
  obtain ⟨htables, _⟩ := parts_eq_ok h
  rw [← Sql.Statement.filterMap_created?_ofKind, (ofKind_statements h).1, created?_createStatements htables,
    List.length_map]

end Generator

/-! ## The log of a run -/

/-- A run with which the complete script is given leaves the records that account for it, and no others: of each table
whether it is created and with how many comments, the number of tables that are created, of each column without a
constraint why it has none, the number of constraints, of each table with policies the rule for its check, and the
number of all tables.  The script is given if comment and role are strings without NUL and the function is a string.  What
is counted are the statements that are put into the script; where names are identifiers and the settings stay on their
lines, they are those of its text, by `complete_script_splits`. -/
theorem log_accounts_for_complete_script (r : Registry) (schemaLabel backendLabel comment function role : Text)
    (clock : Clock) (time : Instant) (before : List Log.Record) :
    let g : Generator := ⟨r, .ofTexts schemaLabel backendLabel comment function role⟩
    let s : Session := ⟨clock, { time, records := before }⟩
    (g.settings.Writable → ∃ script, (g.completeScript.outcome s).1 = .ok script) ∧
    ∀ script, (g.completeScript.outcome s).1 = .ok script →
      ∃ (block : Table → List Statement) (check : Table → Check) (rule : Table → PolicyRule) (reasons : List String),
        (∀ t ∈ r.tables, g.tableStatements t = .ok (block t)) ∧
        ofKind .table script.statements = r.tables.flatMap block ∧
        ofKind .policy script.statements = (r.carried.flatMap fun t => secures t.name (check t)) ∧
        (∀ t ∈ r.carried,
          PolicyRule.chain.find? (fun q => (q.basis? t t.relationalColumns).isSome) = some (rule t) ∧
            (rule t).Checks (.text role) t (check t)) ∧
        List.Forall₂ (fun p reason => Skips r p.1 p.2 reason) (r.unconstrained script.statements) reasons ∧
        (g.completeScript.outcome s).2.journal = { time, records := before ++
          (r.tables.map (fun t => Generator.tableRecord time schemaLabel t (block t)) ++
            [Generator.checkpointRecord time schemaLabel (script.statements.filterMap Statement.created?).length] ++
            (reasons.map (fun reason => Generator.skipRecord time (ofString reason)) ++
              [Generator.constraintsRecord time (ofKind .foreignKey script.statements).length] ++
              (r.carried.map (fun t => Generator.ruleRecord time t (rule t)) ++
                [Generator.summaryRecord time r.size]))) } := by
  intro g s
  refine ⟨fun hwritable => Generator.completeScript_ok hwritable s, fun script hscript => ?_⟩
  obtain ⟨p, hp, hstatements⟩ := Generator.completeScript_eq_ok hscript
  obtain ⟨htables, _, hforeignKeys, htriggers, hpolicies⟩ := Generator.parts_eq_ok hp
  obtain ⟨ktables, kforeignKeys, kpolicies⟩ := Generator.ofKind_statements hp
  obtain ⟨block, hblock, hblocks⟩ := Generator.exists_blocks htables
  obtain ⟨check, hchecks, hrules⟩ := Generator.exists_ruled_checks hpolicies
  obtain ⟨triggers, htriggers, _⟩ := exists_of_map_eq g.statements_triggersScript.symm htriggers
  have hskips := Generator.skips_unconstrained (kforeignKeys.trans hforeignKeys)
  obtain ⟨_, clock', houtcome, _⟩ := Generator.leaves_completeScript rfl hblock ⟨triggers, htriggers⟩
    (Generator.exists_policy? hpolicies) s ⟨rfl, rfl⟩ rfl rfl
  rw [hstatements]
  refine ⟨block, check, Generator.ruleOf, g.skipMessages, hblock, ktables.trans hblocks, kpolicies.trans hchecks,
    hrules, hskips, ?_⟩
  rw [houtcome, Generator.length_created hp, kforeignKeys, hforeignKeys]
  rfl

/-- The log of the script for the projects and for the session cache, which is not created. -/
theorem projects_and_cache_are_accounted_for :
    let g : Generator := ⟨⟨[.projects, .localAppState]⟩, .ofTexts "app" "backend" "secret" "stamp" "member"⟩
    let s : Session := ⟨default, { time := default }⟩
    let first : List Text := ["Generated table with 3 encrypted column comments",
      "No relational columns, skipping table", "CHECKPOINT: tables_script_generated"]
    let last : List Text := ["Policy rule 'owner_column' selected", "Generated complete script for 2 registered tables"]
    g.settings.Writable ∧ ∃ script, (g.completeScript.outcome s).1 = .ok script ∧ ∃ references : List Text,
      (g.completeScript.outcome s).2.journal.records.map (·.message) = first ++ references ++ last := by
  intro g s first last
  have hwritable : g.settings.Writable :=
    ⟨⟨_, rfl, by decide⟩, ⟨_, rfl, by decide⟩, ⟨"stamp", rfl⟩⟩
  obtain ⟨given, accounts⟩ := log_accounts_for_complete_script ⟨[.projects, .localAppState]⟩ "app" "backend" "secret"
    "stamp" "member" default default []
  obtain ⟨script, hscript⟩ := given hwritable
  obtain ⟨block, _, rule, reasons, hblock, _, _, hrule, _, hjournal⟩ := accounts script hscript
  have hmessage (t : Table) (ht : t ∈ g.registry.tables) (message : Text)
      (h : (g.tableStatements t).toOption.map Generator.tableMessage = some message) :
      Generator.tableMessage (block t) = message := by
    rw [hblock t ht] at h
    exact Option.some.inj h
  have hprojects := hmessage .projects List.mem_cons_self "Generated table with 3 encrypted column comments" rfl
  have hcache := hmessage .localAppState (List.mem_cons_of_mem _ List.mem_cons_self)
    "No relational columns, skipping table" rfl
  have hcarried : (⟨[.projects, .localAppState]⟩ : Registry).carried = [.projects] := rfl
  have howner : rule .projects = .ownerColumn := by
    have hfirst := (hrule .projects (hcarried ▸ List.mem_cons_self)).1
    exact (Option.some.inj hfirst).symm
  let constraints := Generator.constraintsRecord default (ofKind .foreignKey script.statements).length
  refine ⟨hwritable, script, hscript, reasons.map ofString ++ [constraints.message], ?_⟩
  have hreasons : (reasons.map fun reason => Generator.skipRecord default (ofString reason)).map (·.message) =
      reasons.map ofString := List.map_map
  rw [hjournal, hcarried]
  simp only [List.nil_append, List.map_append, hreasons]
  show [Generator.tableMessage (block .projects), Generator.tableMessage (block .localAppState), _] ++
    (_ ++ [Text.ofString "Policy rule '" ++ (rule .projects).name ++ "' selected", _]) = _
  rw [hprojects, hcache, howner]
  exact (List.append_assoc _ _ _).symm

/-- With half of a pair in the name of the function the run ends early: no text has a NUL, and still the number of tables
is not told. -/
theorem halved_function_ends_log_early :
    let function : Text := [.char 'f', .half 0x4ff]
    let g : Generator := ⟨⟨[]⟩, .ofTexts "app" "backend" "secret" function "member"⟩
    let after := g.completeScript.outcome ⟨default, { time := default }⟩
    (∀ text ∈ (["app", "backend", "secret", function, "member"] : List Text), ¬ text.HasNul) ∧
      after.1 = .error (.unwritable ⟨1, [0x4ff]⟩) ∧
      Generator.summaryRecord default 0 ∉ after.2.journal.records := by
  intro function g after
  have hblock : ∀ t ∈ g.registry.tables, g.tableStatements t = .ok [] := fun t ht => absurd ht List.not_mem_nil
  obtain ⟨clock, hafter⟩ :=
    Generator.completeScript_failsAfter rfl hblock rfl ⟨default, { time := default }⟩ ⟨rfl, rfl⟩ rfl rfl
  refine ⟨by decide, congrArg Prod.fst hafter, fun hmem => ?_⟩
  have hmessages : after.2.journal.records.map (·.message) =
      [Text.ofString "CHECKPOINT: tables_script_generated", Text.ofString "Inferred 0 foreign keys"] := by
    have hnoKeys : g.foreignKeys.length = 0 := rfl
    simp only [after, hafter, hnoKeys]
    rfl
  have hmessage := List.mem_map_of_mem (f := (·.message)) hmem
  rw [hmessages] at hmessage
  revert hmessage
  decide

end SchemaScript
