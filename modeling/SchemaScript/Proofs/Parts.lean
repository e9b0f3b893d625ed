/- # The statements of the scripts, part by part

A script is a list of pieces, and most of what is to be said about it is about its statements.  Here every
script is read as its statements: what the steps of the generator give, table after table, between the
beginnings and the ends of transactions.  `Parts` holds what stands between them in the complete script.

A step can fail where a setting has to be written as a constant, so a script and its parts are both results
that may be a fault; the equations below say that they are the same fault, and the same statements otherwise.
After them come the steps that did not fail, what the statements that they gave are about, and the settings with
which no step fails.  The last section says all this of the runs.
-/
import SchemaScript.Proofs.Lookup
import SchemaScript.Proofs.Outcome
import SchemaScript.Proofs.Steps

namespace SchemaScript

open Sql (Statement)

/-! ## The statements of a script -/

namespace Script

theorem statements_flatten (ss : List Script) :
    statements ss.flatten = (ss.map statements).flatten :=
  List.filterMap_flatten

theorem statements_flatMap {α : Type} (f : α → Script) (as : List α) :
    statements (as.flatMap f) = as.flatMap fun a => statements (f a) := by
  rw [List.flatMap_def, List.flatMap_def, statements_flatten, List.map_map]
  rfl

@[simp] theorem statements_spaced (ss : List Statement) : statements (spaced ss) = ss := by
  simp only [spaced]
  rw [statements_flatMap]
  exact List.flatMap_singleton' ss

end Script

namespace Generator

/-! ## The statements of one table -/

theorem statements_tableScript (t : Table) (ss : List Statement) :
    (tableScript t ss).statements = ss := by
  cases ss with
  | nil => rfl
  | cons create comments =>
      cases comments with
      | nil => rfl
      | cons c cs =>
          show create :: Script.statements (Script.ofStatements (c :: cs) ++ [.blank]) = _
          rw [Script.statements_append, Script.statements_ofStatements]
          exact congrArg _ (List.append_nil _)

theorem statements_indexScript (t : Table) : (indexScript t).statements = indexes t := by
  simp only [indexScript]
  cases indexes t with
  | nil => rfl
  | cons s ss =>
      show Script.statements (Script.ofStatements (s :: ss) ++ [.blank]) = _
      rw [Script.statements_append, Script.statements_ofStatements]
      exact List.append_nil _

/-- The part of the script for the trigger of a table, with the statements of the table. -/
def triggerBlock (function : String) (t : Table) : Script :=
  triggerScript t (.dropTrigger (Statement.triggerName t.name) t.name)
    (.createTrigger (Statement.triggerName t.name) t.name function)

theorem statements_triggerBlock (function : String) (t : Table) :
    (triggerBlock function t).statements = Statement.stampTrigger t.name function := rfl

theorem everyOther_cons {α : Type} (a : α) (as : List α) : everyOther (a :: as) = a :: everyOther as.tail := by
  cases as with
  | nil => rfl
  | cons b as => rfl

/-- Each table takes the two statements that were made for it. -/
theorem triggerScripts_stampTriggers (function : String) (tables : List Table) :
    triggerScripts tables (tables.flatMap fun t => Statement.stampTrigger t.name function) =
      tables.map (triggerBlock function) := by
  induction tables with
  | nil => rfl
  | cons t ts ih =>
      rw [List.map_cons, ← ih, List.flatMap_cons]
      simp only [triggerScripts, Statement.stampTrigger, List.cons_append, List.nil_append, List.tail_cons,
        everyOther_cons, List.zip_cons_cons, List.map_cons]
      rfl

/-- The pieces of the script of the triggers before those for the tables. -/
def triggersHeader (function : String) : Script :=
  [.remark "Custom Functions and Triggers", .blank, .statement .begin, .blank,
    .remark "Function to automatically update updated_at timestamp",
    .statement (.createStampFunction function), .blank]

theorem triggersScript_eq_blocks (g : Generator) :
    g.triggersScript = do
      let function ← g.stampFunction
      return triggersHeader function ++ g.stampedTables.flatMap (triggerBlock function) ++ [.statement .commit] := by
  simp only [triggersScript, joinTriggers, triggers, stampTriggers, triggerScripts_stampTriggers, ← List.flatMap_def]
  rfl

theorem statements_securityScript (t : Table) (p : PolicySelection) :
    (securityScript t p).statements = policyStatements t p := by
  simp only [securityScript, policyScript, policyStatements]
  rw [Script.statements_append, Script.statements_spaced]
  rfl

theorem map_statements_scriptOf (g : Generator) (t : Table) :
    (g.scriptOf t).map Script.statements = g.tableStatements t := by
  simp only [scriptOf]
  cases g.tableStatements t with
  | error fault => rfl
  | ok ss => exact congrArg Except.ok (statements_tableScript t ss)

theorem map_statements_policyPart (g : Generator) (t : Table) :
    (g.policyPart t).map Script.statements = g.policies t := by
  rw [policyPart_eq, policies]
  cases g.policy? t with
  | error fault => rfl
  | ok selected =>
      cases selected with
      | none => rfl
      | some p => exact congrArg Except.ok (statements_securityScript t p)

/-! ## The statements of the scripts -/

/-- What stands between the beginnings and ends of the transactions of the complete script. -/
structure Parts where
  tables : List Statement
  indexes : List Statement
  foreignKeys : List Statement
  triggers : List Statement
  policies : List Statement

/-- The statements of a transaction that holds one part. -/
def transaction (part : List Statement) : List Statement := .begin :: part ++ [.commit]

/-- The statements of the complete script: four transactions. -/
def Parts.statements (p : Parts) : List Statement :=
  transaction (p.tables ++ p.indexes) ++ transaction p.foreignKeys ++ transaction p.triggers ++
    transaction p.policies

/-- The statements of some tables, table after table. -/
def createStatements (g : Generator) (tables : List Table) : Except Sql.Fault (List Statement) := do
  return (← tables.mapM g.tableStatements).flatten

/-- The statements for triggers, with the name of their function as it is written. -/
def triggerStatementsOf (g : Generator) : Except Sql.Fault (List Statement) := do
  return g.triggers (← g.stampFunction)

/-- The statements of the policies, table after table. -/
def policyStatementsOf (g : Generator) : Except Sql.Fault (List Statement) := do
  return (← g.registry.tables.mapM g.policies).flatten

/-- The parts of the complete script. -/
def parts (g : Generator) : Except Sql.Fault Parts := do
  let tables ← g.createStatements g.registry.tables
  let triggers ← g.triggerStatementsOf
  let policies ← g.policyStatementsOf
  return { tables, indexes := g.registry.tables.flatMap indexes, foreignKeys := g.foreignKeys,
           triggers, policies }

theorem statements_tablesScriptAt (g : Generator) (time : Instant) (label : Value)
    (tables : List Table) :
    (g.tablesScriptAt time label tables).map Script.statements =
      (g.createStatements tables).map fun ss => transaction (ss ++ tables.flatMap indexes) := by
  simp only [tablesScriptAt, createStatements]
  rw [← map_mapM g.map_statements_scriptOf]
  cases tables.mapM g.scriptOf with
  | error fault => rfl
  | ok parts =>
      refine congrArg Except.ok ?_
      simp only [joinTables]
      simp only [Script.statements_append, Script.statements_flatten, Script.statements_flatMap,
        statements_indexScript]
      simp only [transaction, List.append_assoc, List.cons_append]
      rfl

theorem statements_policiesScriptOf (g : Generator) :
    g.policiesScriptOf.map Script.statements = g.policyStatementsOf.map transaction := by
  simp only [policiesScriptOf, policyStatementsOf]
  rw [← map_mapM g.map_statements_policyPart]
  cases g.registry.tables.mapM g.policyPart with
  | error fault => rfl
  | ok parts =>
      refine congrArg Except.ok ?_
      simp only [joinPolicies]
      simp only [Script.statements_append, Script.statements_flatten]
      rfl

theorem statements_foreignKeysScript (g : Generator) :
    g.foreignKeysScript.statements = transaction g.foreignKeys := by
  simp only [foreignKeysScript]
  rw [Script.statements_append, Script.statements_append, Script.statements_spaced]
  rfl

theorem statements_triggersScript (g : Generator) :
    g.triggersScript.map Script.statements = g.triggerStatementsOf.map transaction := by
  rw [triggersScript_eq_blocks, triggerStatementsOf]
  cases g.stampFunction with
  | error fault => rfl
  | ok function =>
      refine congrArg Except.ok ?_
      simp only [Script.statements_append, Script.statements_flatMap, statements_triggerBlock]
      rfl

/-- The statements of the complete script are its parts in four transactions. -/
theorem statements_completeScriptAt (g : Generator) (time tablesTime : Instant) :
    (g.completeScriptAt time tablesTime).map Script.statements = g.parts.map Parts.statements := by
  simp only [completeScriptAt, completed, parts]
  -- Three steps can fail, each for the script just when it does for the statements; the first one that fails
  -- ends both.
  rcases cases_of_map_eq (g.statements_tablesScriptAt tablesTime .null g.registry.tables) with
    ⟨fault, hscript, hstatements⟩ | ⟨tables, tables', hscript, hstatements, htables⟩
  · rw [hscript, hstatements]; rfl
  rw [hscript, hstatements]
  rcases cases_of_map_eq g.statements_triggersScript with
    ⟨fault, hscript, hstatements⟩ | ⟨triggers, triggers', hscript, hstatements, htriggers⟩
  · rw [hscript, hstatements]; rfl
  rw [hscript, hstatements]
  rcases cases_of_map_eq g.statements_policiesScriptOf with
    ⟨fault, hscript, hstatements⟩ | ⟨policies, policies', hscript, hstatements, hpolicies⟩
  · rw [hscript, hstatements]; rfl
  rw [hscript, hstatements]
  refine congrArg Except.ok ?_
  simp only [joinAll, Parts.statements]
  rw [← htables, ← htriggers, ← hpolicies, ← g.statements_foreignKeysScript]
  simp only [Script.statements_append]
  rfl

/-! ## Steps that did not fail -/

/-- The constant that comments set; which one does not matter where there are no comments. -/
def commentConstant (σ : Settings) : Sql.Constant :=
  (Sql.Constant.ofValue σ.encryptedComment).toOption.getD .null

theorem commentConstant_eq {σ : Settings} {constant : Sql.Constant}
    (h : Sql.Constant.ofValue σ.encryptedComment = .ok constant) : commentConstant σ = constant := by
  rw [commentConstant, h]
  rfl

/-- The statements of a table: none, or its creation and the comments on its encrypted columns, all with the
one text of the settings. -/
theorem tableStatements_eq_ok {g : Generator} {t : Table} {ss : List Statement}
    (h : g.tableStatements t = .ok ss) :
    (t.relationalColumns = [] ∧ ss = []) ∨
      (t.relationalColumns ≠ [] ∧ ∃ comments, ss = createTable t :: comments ∧
        ∀ s ∈ comments, ∃ c ∈ encryptedColumns t, ∃ text,
          Sql.Constant.ofValue g.settings.encryptedComment = .ok text ∧
            s = .comment t.name c.name text) := by
  simp only [tableStatements] at h
  cases hempty : t.relationalColumns with
  | nil =>
      rw [hempty] at h
      exact .inl ⟨rfl, (Except.ok.inj h).symm⟩
  | cons c cs =>
      rw [hempty] at h
      obtain ⟨comments, hcomments, hss⟩ := bind_eq_ok_iff.mp h
      refine .inr ⟨List.cons_ne_nil _ _, comments, (Except.ok.inj hss).symm, fun s hs => ?_⟩
      obtain ⟨c', hc', hcomment⟩ := exists_of_mem_mapM hcomments hs
      obtain ⟨text, htext, hs⟩ := bind_eq_ok_iff.mp hcomment
      exact ⟨c', hc', text, htext, (Except.ok.inj hs).symm⟩

/-- The policy of a table: none, or that for the reason that the first rule of the chain gives. -/
theorem policy?_eq_ok {g : Generator} {t : Table} {selected : Option PolicySelection}
    (h : g.policy? t = .ok selected) :
    (t.relationalColumns = [] ∧ selected = none) ∨
      (t.relationalColumns ≠ [] ∧ ∃ p,
        (PolicyBasis.ofTable t t.relationalColumns).selection g.settings.authenticatedRole = .ok p ∧
          selected = some p) := by
  simp only [policy?] at h
  cases hempty : t.relationalColumns with
  | nil =>
      rw [hempty] at h
      exact .inl ⟨rfl, (Except.ok.inj h).symm⟩
  | cons c cs =>
      rw [hempty] at h
      obtain ⟨p, hp, hsome⟩ := bind_eq_ok_iff.mp h
      exact .inr ⟨List.cons_ne_nil _ _, p, hp, (Except.ok.inj hsome).symm⟩

/-- The part for a policy: nothing, or that for the reason that the first rule of the chain gives. -/
theorem policyPart_eq_ok {g : Generator} {t : Table} {part : Script} (h : g.policyPart t = .ok part) :
    (t.relationalColumns = [] ∧ part = []) ∨
      (t.relationalColumns ≠ [] ∧ ∃ p,
        (PolicyBasis.ofTable t t.relationalColumns).selection g.settings.authenticatedRole = .ok p ∧
          part = securityScript t p) := by
  rw [policyPart_eq] at h
  obtain ⟨selected, hselected, hpart⟩ := bind_eq_ok_iff.mp h
  cases hpart
  rcases policy?_eq_ok hselected with ⟨hempty, rfl⟩ | ⟨hcolumns, p, hp, rfl⟩
  · exact .inl ⟨hempty, rfl⟩
  · exact .inr ⟨hcolumns, p, hp, rfl⟩

theorem policies_eq_ok {g : Generator} {t : Table} {ss : List Statement}
    (h : g.policies t = .ok ss) :
    (t.relationalColumns = [] ∧ ss = []) ∨
      (t.relationalColumns ≠ [] ∧ ∃ p,
        (PolicyBasis.ofTable t t.relationalColumns).selection g.settings.authenticatedRole = .ok p ∧
          ss = policyStatements t p) := by
  obtain ⟨selected, hselected, hss⟩ := bind_eq_ok_iff.mp h
  cases hss
  rcases policy?_eq_ok hselected with ⟨hempty, rfl⟩ | ⟨hcolumns, p, hp, rfl⟩
  · exact .inl ⟨hempty, rfl⟩
  · exact .inr ⟨hcolumns, p, hp, rfl⟩

theorem written_eq_ok_iff {t : Text} {s : String} : Sql.written t = .ok s ↔ t = .ofString s := by
  rw [← Text.written_eq_ok_iff, Sql.written]
  cases t.written with
  | error halves =>
      constructor
      all_goals
        intro h
        cases h
  | ok s' =>
      constructor
      all_goals
        intro h
        cases h
        rfl

/-- A text is written as the constant of a text. -/
theorem constant_ofValue_text {t : Text} {constant : Sql.Constant}
    (h : Sql.Constant.ofValue (.text t) = .ok constant) :
    ∃ s hs, t = .ofString s ∧ constant = .text s hs := by
  obtain ⟨s, hwritten, hs⟩ := bind_eq_ok_iff.mp h
  simp only [Sql.Constant.ofString] at hs
  split at hs
  · exact ⟨s, _, written_eq_ok_iff.mp hwritten, (Except.ok.inj hs).symm⟩
  · cases hs

/-- The name of the function is the text of the setting. -/
theorem stampFunction_eq_ok_iff {g : Generator} {name : String} :
    g.stampFunction = .ok name ↔ g.settings.triggerFunction.text? = some (.ofString name) := by
  simp only [stampFunction]
  cases g.settings.triggerFunction.text? with
  | none =>
      constructor
      all_goals
        intro h
        cases h
  | some t =>
      rw [Option.some_inj]
      exact written_eq_ok_iff

theorem stampFunction_ofString {g : Generator} {name : String}
    (h : g.settings.triggerFunction = .text (.ofString name)) : g.stampFunction = .ok name :=
  stampFunction_eq_ok_iff.mpr (h ▸ rfl)

/-- The statements for the triggers: their function, and two statements for each table that is stamped. -/
theorem triggerStatementsOf_eq_ok {g : Generator} {ss : List Statement} (h : g.triggerStatementsOf = .ok ss) :
    ∃ function, g.stampFunction = .ok function ∧
      ss = .createStampFunction function ::
        g.stampedTables.flatMap fun t => Statement.stampTrigger t.name function := by
  obtain ⟨function, hfunction, hss⟩ := bind_eq_ok_iff.mp h
  exact ⟨function, hfunction, (Except.ok.inj hss).symm⟩

/-- The parts come from the five steps, of which three can fail. -/
theorem parts_eq_ok {g : Generator} {p : Parts} (h : g.parts = .ok p) :
    g.createStatements g.registry.tables = .ok p.tables ∧
      p.indexes = g.registry.tables.flatMap Generator.indexes ∧ p.foreignKeys = g.foreignKeys ∧
      g.triggerStatementsOf = .ok p.triggers ∧ g.policyStatementsOf = .ok p.policies := by
  obtain ⟨tables, htables, h⟩ := bind_eq_ok_iff.mp h
  obtain ⟨triggers, htriggers, h⟩ := bind_eq_ok_iff.mp h
  obtain ⟨policies, hpolicies, h⟩ := bind_eq_ok_iff.mp h
  cases h
  exact ⟨htables, rfl, rfl, htriggers, hpolicies⟩

/-! ## What the statements are about -/

/-- A statement of the tables creates one of them, or comments on a column that it carries. -/
theorem mem_createStatements {g : Generator} {tables : List Table} {ss : List Statement}
    (h : g.createStatements tables = .ok ss) {s : Statement} (hs : s ∈ ss) :
    ∃ t ∈ tables, s = createTable t ∨ ∃ c ∈ t.relationalColumns, ∃ text,
      Sql.Constant.ofValue g.settings.encryptedComment = .ok text ∧ s = .comment t.name c.name text := by
  obtain ⟨blocks, hblocks, hss⟩ := bind_eq_ok_iff.mp h
  cases hss
  obtain ⟨block, hblock, hs⟩ := List.mem_flatten.mp hs
  obtain ⟨t, ht, hstatements⟩ := exists_of_mem_mapM hblocks hblock
  refine ⟨t, ht, ?_⟩
  rcases tableStatements_eq_ok hstatements with ⟨_, rfl⟩ | ⟨_, comments, rfl, hcomments⟩
  · exact absurd hs List.not_mem_nil
  rcases List.mem_cons.mp hs with rfl | hs
  · exact .inl rfl
  · obtain ⟨c, hc, text, htext, rfl⟩ := hcomments s hs
    exact .inr ⟨c, (List.mem_filter.mp hc).1, text, htext, rfl⟩

/-- An index is on a column that the table carries: on its key too, because the key is carried. -/
theorem mem_indexes {t : Table} {s : Statement} (hs : s ∈ indexes t) :
    ∃ c ∈ t.relationalColumns, s = index t c.name := by
  simp only [indexes] at hs
  split at hs
  · exact absurd hs List.not_mem_nil
  next hempty =>
    have hcolumns : t.relationalColumns ≠ [] := fun h => hempty (List.isEmpty_iff.mpr h)
    obtain ⟨column, hcolumn, rfl⟩ := List.mem_map.mp hs
    rcases List.mem_append.mp hcolumn with hkey | hindexed
    · obtain ⟨c, hc, hname⟩ := Table.key_mem_relationalColumns (Option.mem_toList.mp hkey) hcolumns
      exact ⟨c, hc, by rw [hname]⟩
    · obtain ⟨c, hc, rfl⟩ := List.mem_map.mp hindexed
      exact ⟨c, (List.mem_filter.mp hc).1, rfl⟩

/-- What a column refers to is a table of the registry, by its key. -/
theorem exists_of_reference {g : Generator} {column table key : String}
    (h : g.reference column = .found table key) :
    ∃ t ∈ g.registry.tables, t.name = table ∧ t.primaryKey = some key := by
  simp only [reference] at h
  split at h
  · cases h
  next t ht =>
    obtain ⟨name, _, hname⟩ := Option.bind_eq_some_iff.mp ht
    split at h
    · cases h
    next key' hkey =>
      cases h
      exact ⟨t, Registry.mem_of_table? hname, rfl, hkey⟩

/-- A foreign key leads from a column that its table carries to what the column refers to. -/
theorem mem_foreignKeys {g : Generator} {s : Statement} (hs : s ∈ g.foreignKeys) :
    ∃ t ∈ g.registry.tables, ∃ c ∈ t.relationalColumns, ∃ table key,
      g.reference c.name = .found table key ∧
        s = .addForeignKey (Statement.foreignKeyName t.name c.name) t.name c.name table key := by
  obtain ⟨t, ht, hs⟩ := List.mem_flatMap.mp hs
  obtain ⟨c, hc, hs⟩ := List.mem_filterMap.mp hs
  simp only [foreignKey?] at hs
  split at hs
  next table key hreference =>
    cases hs
    exact ⟨t, ht, c, (List.mem_filter.mp hc).1, table, key, hreference, rfl⟩
  · cases hs

/-- The statements for a trigger are for a table that carries the column that is stamped. -/
theorem mem_stampTriggers {g : Generator} {function : String} {s : Statement}
    (hs : s ∈ g.stampedTables.flatMap fun t => Statement.stampTrigger t.name function) :
    ∃ t ∈ g.registry.tables, (∃ c ∈ t.relationalColumns, c.name = stampColumn) ∧
      (s = .dropTrigger (Statement.triggerName t.name) t.name ∨
        s = .createTrigger (Statement.triggerName t.name) t.name function) := by
  obtain ⟨t, ht, hs⟩ := List.mem_flatMap.mp hs
  obtain ⟨ht, hstamped⟩ := List.mem_filter.mp ht
  refine ⟨t, ht, isStamped_iff.mp hstamped, ?_⟩
  rcases List.mem_cons.mp hs with rfl | hs
  · exact .inl rfl
  · exact .inr (List.mem_singleton.mp hs)

end Generator

/-! ## Steps that cannot fail -/

/-- The value of a setting that can be written as a constant: a string without NUL. -/
def Value.IsNulFree (v : Value) : Prop :=
  ∃ s : String, v = .text (.ofString s) ∧ Sql.holdsNul s = false

theorem Value.IsNulFree.constant {v : Value} (h : v.IsNulFree) :
    ∃ c, Sql.Constant.ofValue v = .ok c := by
  obtain ⟨s, rfl, hs⟩ := h
  exact (Sql.Constant.ofText_isOk_iff _).mpr ⟨s, rfl, hs⟩

/-- Settings with which nothing fails: what becomes a constant is a string without NUL, and the name of the
function is a string. -/
structure Settings.Writable (σ : Settings) : Prop where
  comment : σ.encryptedComment.IsNulFree
  role : σ.authenticatedRole.IsNulFree
  function : ∃ name : String, σ.triggerFunction = .text (.ofString name)

namespace Generator

theorem createStatements_ok {g : Generator} (h : g.settings.encryptedComment.IsNulFree)
    (tables : List Table) : ∃ ss, g.createStatements tables = .ok ss := by
  obtain ⟨text, htext⟩ := h.constant
  have step (t : Table) : ∃ ss, g.tableStatements t = .ok ss := by
    have comments : ∃ cs, (encryptedColumns t).mapM (g.comment t) = .ok cs :=
      mapM_ok_of_forall fun c _ => ⟨_, bind_eq_ok_iff.mpr ⟨text, htext, rfl⟩⟩
    obtain ⟨cs, hcs⟩ := comments
    simp only [tableStatements]
    split
    · exact ⟨[], rfl⟩
    · exact ⟨_, bind_eq_ok_iff.mpr ⟨cs, hcs, rfl⟩⟩
  obtain ⟨blocks, hblocks⟩ := mapM_ok_of_forall fun t (_ : t ∈ tables) => step t
  exact ⟨_, bind_eq_ok_iff.mpr ⟨blocks, hblocks, rfl⟩⟩

theorem policyStatementsOf_ok {g : Generator} (h : g.settings.authenticatedRole.IsNulFree) :
    ∃ ss, g.policyStatementsOf = .ok ss := by
  obtain ⟨role, hrole⟩ := h.constant
  have selection (b : PolicyBasis) : ∃ p, b.selection g.settings.authenticatedRole = .ok p := by
    cases b with
    | userKey key => exact ⟨_, rfl⟩
    | owner column => exact ⟨_, rfl⟩
    | anyone => exact ⟨_, bind_eq_ok_iff.mpr ⟨role, hrole, rfl⟩⟩
  have step (t : Table) : ∃ ss, g.policies t = .ok ss := by
    have selected : ∃ p, g.policy? t = .ok p := by
      obtain ⟨p, hp⟩ := selection (PolicyBasis.ofTable t t.relationalColumns)
      simp only [policy?]
      split
      · exact ⟨none, rfl⟩
      · exact ⟨some p, bind_eq_ok_iff.mpr ⟨p, hp, rfl⟩⟩
    obtain ⟨p, hp⟩ := selected
    exact ⟨_, bind_eq_ok_iff.mpr ⟨p, hp, rfl⟩⟩
  obtain ⟨blocks, hblocks⟩ := mapM_ok_of_forall fun t (_ : t ∈ g.registry.tables) => step t
  exact ⟨_, bind_eq_ok_iff.mpr ⟨blocks, hblocks, rfl⟩⟩

theorem triggerStatementsOf_ok {g : Generator}
    (h : ∃ name : String, g.settings.triggerFunction = .text (.ofString name)) :
    ∃ ss, g.triggerStatementsOf = .ok ss := by
  obtain ⟨name, hname⟩ := h
  exact ⟨_, bind_eq_ok_iff.mpr ⟨name, stampFunction_ofString hname, rfl⟩⟩

theorem parts_ok {g : Generator} (h : g.settings.Writable) : ∃ p, g.parts = .ok p := by
  obtain ⟨tables, htables⟩ := createStatements_ok h.comment g.registry.tables
  obtain ⟨triggers, htriggers⟩ := triggerStatementsOf_ok h.function
  obtain ⟨policies, hpolicies⟩ := policyStatementsOf_ok h.role
  exact ⟨_, bind_eq_ok_iff.mpr ⟨tables, htables, bind_eq_ok_iff.mpr ⟨triggers, htriggers,
    bind_eq_ok_iff.mpr ⟨policies, hpolicies, rfl⟩⟩⟩⟩

/-! ## What the runs give -/

/-- The tables script holds the statements of the tables, and after them the indexes. -/
theorem tablesScript_eq_ok {g : Generator} {s : Session} {script : Script}
    (h : (g.tablesScript.outcome s).1 = .ok script) :
    ∃ ss, g.createStatements g.registry.tables = .ok ss ∧
      script.statements = transaction (ss ++ g.registry.tables.flatMap indexes) := by
  rw [(g.outcome_tablesScript s).1] at h
  exact exists_of_map_eq (g.statements_tablesScriptAt _ .null g.registry.tables) h

theorem policiesScript_eq_ok {g : Generator} {s : Session} {script : Script}
    (h : (g.policiesScript.outcome s).1 = .ok script) :
    ∃ ss, g.policyStatementsOf = .ok ss ∧ script.statements = transaction ss := by
  rw [(g.policiesScript_gives s).1] at h
  exact exists_of_map_eq g.statements_policiesScriptOf h

theorem tablesScript_ok {g : Generator} (h : g.settings.encryptedComment.IsNulFree) (s : Session) :
    ∃ script, (g.tablesScript.outcome s).1 = .ok script := by
  obtain ⟨ss, hss⟩ := createStatements_ok h g.registry.tables
  rw [(g.outcome_tablesScript s).1]
  obtain ⟨script, hscript, _⟩ :=
    exists_of_map_eq (g.statements_tablesScriptAt s.clock.next .null g.registry.tables).symm hss
  exact ⟨script, hscript⟩

theorem policiesScript_ok {g : Generator} (h : g.settings.authenticatedRole.IsNulFree) (s : Session) :
    ∃ script, (g.policiesScript.outcome s).1 = .ok script := by
  obtain ⟨ss, hss⟩ := policyStatementsOf_ok h
  rw [(g.policiesScript_gives s).1]
  obtain ⟨script, hscript, _⟩ := exists_of_map_eq g.statements_policiesScriptOf.symm hss
  exact ⟨script, hscript⟩

theorem completeScript_eq_ok {g : Generator} {s : Session} {script : Script}
    (h : (g.completeScript.outcome s).1 = .ok script) :
    ∃ p, g.parts = .ok p ∧ script.statements = p.statements := by
  rw [g.outcome_completeScript s] at h
  exact exists_of_map_eq (g.statements_completeScriptAt _ _) h

theorem completeScript_ok {g : Generator} (h : g.settings.Writable) (s : Session) :
    ∃ script, (g.completeScript.outcome s).1 = .ok script := by
  obtain ⟨p, hp⟩ := parts_ok h
  rw [g.outcome_completeScript s]
  obtain ⟨script, hscript, _⟩ :=
    exists_of_map_eq (g.statements_completeScriptAt s.clock.next s.clock.advance.next).symm hp
  exact ⟨script, hscript⟩

end Generator

end SchemaScript
