/-
# What the complete script is made of

A fact about all statements of the complete script, or about all its remarks, is shown kind by kind: `Emits` lists the
statements that the script may hold, each with what is known about the tables, columns and settings in it, and
`Remarks` lists its remarks.  The two stamps stand in its head; after the head come no others (`completeScriptAt_pieces`).
-/
import SchemaScript.Proofs.RowSecurity

namespace SchemaScript

open Sql (Statement Check Constant)

namespace Generator

/-! ## Statements -/

/-- A statement that the complete script may hold. -/
inductive Emits (g : Generator) : Statement → Prop
  | begin : Emits g .begin
  | commit : Emits g .commit
  | createTable {t : Table} : t ∈ g.registry.tables → Emits g (createTable t)
  | comment {t : Table} {c : Column} {constant : Constant} : t ∈ g.registry.tables →
      c ∈ t.relationalColumns → Constant.ofValue g.settings.encryptedComment = .ok constant →
      Emits g (.comment t.name c.name constant)
  | index {t : Table} {c : Column} : t ∈ g.registry.tables → c ∈ t.relationalColumns →
      Emits g (index t c.name)
  | foreignKey {t t' : Table} {c : Column} {key : String} : t ∈ g.registry.tables →
      c ∈ t.relationalColumns → t' ∈ g.registry.tables → t'.primaryKey = some key →
      Emits g (.addForeignKey (Statement.foreignKeyName t.name c.name) t.name c.name t'.name key)
  | stampFunction {function : String} : g.stampFunction = .ok function →
      Emits g (.createStampFunction function)
  | dropTrigger {t : Table} : t ∈ g.registry.tables →
      Emits g (.dropTrigger (Statement.triggerName t.name) t.name)
  | createTrigger {t : Table} {function : String} : t ∈ g.registry.tables →
      g.stampFunction = .ok function →
      Emits g (.createTrigger (Statement.triggerName t.name) t.name function)
  | enableRowSecurity {t : Table} : t ∈ g.registry.tables → Emits g (.enableRowSecurity t.name)
  | createPolicy {t : Table} {command : String} {check : Check} : t ∈ g.registry.tables →
      t.relationalColumns ≠ [] → command ∈ Statement.policyCommands →
      Guard g.settings.authenticatedRole t check → Emits g (.createPolicy t.name command check)

section Statements

variable {g : Generator} {ss : List Statement}

theorem emits_createStatements (h : g.createStatements g.registry.tables = .ok ss) :
    ∀ s ∈ ss, g.Emits s := by
  intro s hs
  obtain ⟨t, ht, rfl | ⟨c, hc, constant, hconstant, rfl⟩⟩ := mem_createStatements h hs
  · exact .createTable ht
  · exact .comment ht hc hconstant

theorem emits_indexes : ∀ s ∈ g.registry.tables.flatMap indexes, g.Emits s := by
  intro s hs
  obtain ⟨t, ht, hs⟩ := List.mem_flatMap.mp hs
  obtain ⟨c, hc, rfl⟩ := mem_indexes hs
  exact .index ht hc

theorem emits_foreignKeys : ∀ s ∈ g.foreignKeys, g.Emits s := by
  intro s hs
  obtain ⟨t, ht, c, hc, table, key, hreference, rfl⟩ := mem_foreignKeys hs
  obtain ⟨t', ht', rfl, hkey⟩ := exists_of_reference hreference
  exact .foreignKey ht hc ht' hkey

theorem emits_triggers (h : g.triggerStatementsOf = .ok ss) : ∀ s ∈ ss, g.Emits s := by
  obtain ⟨function, hfunction, rfl⟩ := triggerStatementsOf_eq_ok h
  intro s hs
  rcases List.mem_cons.mp hs with rfl | hs
  · exact .stampFunction hfunction
  · obtain ⟨t, ht, _, rfl | rfl⟩ := mem_stampTriggers hs
    · exact .dropTrigger ht
    · exact .createTrigger ht hfunction

theorem emits_policies (h : g.policyStatementsOf = .ok ss) : ∀ s ∈ ss, g.Emits s := by
  intro s hs
  obtain ⟨t, ht, hcolumns, check, hguard, rfl | ⟨command, hcommand, rfl⟩⟩ :=
    mem_policyStatementsOf h hs
  · exact .enableRowSecurity ht
  · exact .createPolicy ht hcolumns hcommand hguard

theorem emits_transaction (h : ∀ s ∈ ss, g.Emits s) : ∀ s ∈ transaction ss, g.Emits s := by
  intro s hs
  rcases List.mem_cons.mp hs with rfl | hs
  · exact .begin
  rcases List.mem_append.mp hs with hs | hs
  · exact h s hs
  · cases List.mem_singleton.mp hs
    exact .commit

theorem emits_parts {p : Parts} (h : g.parts = .ok p) : ∀ s ∈ p.statements, g.Emits s := by
  obtain ⟨htables, hindexes, hforeign, htriggers, hpolicies⟩ := parts_eq_ok h
  simp only [Parts.statements, hindexes, hforeign, List.forall_mem_append]
  refine ⟨⟨⟨emits_transaction ?_, emits_transaction emits_foreignKeys⟩,
    emits_transaction (emits_triggers htriggers)⟩, emits_transaction (emits_policies hpolicies)⟩
  exact List.forall_mem_append.mpr ⟨emits_createStatements htables, emits_indexes⟩

end Statements

/-! ## Remarks -/

/-- The remarks that say the same whatever is generated. -/
def fixedRemarks : List String :=
  ["Fields marked as encrypted in the client application", "Create indexes for better query performance",
    "Foreign Key Relationships", "Custom Functions and Triggers",
    "Function to automatically update updated_at timestamp", "Setup Row Level Security policies",
    "Users can only access their own data", "Resources owned by users"]

/-- The remark in the head of the complete script. -/
def completeRemark (σ : Settings) : Text := "Complete " ++ σ.backendLabel.plain ++ " Setup Script"

/-- The remark in the head of the script of the tables. -/
def tablesRemark (σ : Settings) : Text :=
  "Generated SQL for " ++ σ.backendLabel.plain ++ " from DataSync schema: " ++ σ.schemaLabel.plain

/-- A remark that the complete script may hold. -/
inductive Remarks (g : Generator) : Text → Prop
  | fixed {text : String} : text ∈ fixedRemarks → Remarks g text
  | complete : Remarks g (completeRemark g.settings)
  | tables : Remarks g (tablesRemark g.settings)
  | table {t : Table} : t ∈ g.registry.tables →
      Remarks g ("Create table " ++ t.name ++ " if it doesn't exist")
  | trigger {t : Table} : t ∈ g.registry.tables → Remarks g ("Add updated_at trigger for " ++ t.name)
  | role : Remarks g ("Default policies for " ++ g.settings.authenticatedRole.plain ++ " users")

/-- A piece that may stand after the head of the complete script: it is no stamp, and if it is a remark, it is one of
those. -/
def InBody (g : Generator) : Piece → Prop
  | .remark text => g.Remarks text
  | .stamp _ => False
  | .blank | .statement _ => True

/-- A script all of whose pieces may stand after the head. -/
def Body (g : Generator) (script : Script) : Prop := ∀ p ∈ script, g.InBody p

section Body

variable {g : Generator}

theorem Body.nil : g.Body [] := fun _ hp => absurd hp List.not_mem_nil

theorem Body.cons {p : Piece} {a : Script} (hp : g.InBody p) (ha : g.Body a) : g.Body (p :: a) :=
  List.forall_mem_cons.mpr ⟨hp, ha⟩

theorem Body.append {a b : Script} (ha : g.Body a) (hb : g.Body b) : g.Body (a ++ b) :=
  List.forall_mem_append.mpr ⟨ha, hb⟩

theorem Body.blank {a : Script} (ha : g.Body a) : g.Body (.blank :: a) := .cons trivial ha

theorem Body.statement {a : Script} (s : Statement) (ha : g.Body a) : g.Body (.statement s :: a) :=
  .cons trivial ha

theorem Body.fixed {a : Script} {text : String} (htext : text ∈ fixedRemarks) (ha : g.Body a) :
    g.Body (.remark text :: a) :=
  .cons (.fixed htext) ha

theorem Body.flatMap {α : Type} {as : List α} {f : α → Script} (h : ∀ a ∈ as, g.Body (f a)) :
    g.Body (as.flatMap f) := by
  intro p hp
  obtain ⟨a, ha, hp⟩ := List.mem_flatMap.mp hp
  exact h a ha p hp

theorem Body.flatten {scripts : List Script} (h : ∀ s ∈ scripts, g.Body s) : g.Body scripts.flatten := by
  intro p hp
  obtain ⟨s, hs, hp⟩ := List.mem_flatten.mp hp
  exact h s hs p hp

theorem body_ofStatements (ss : List Statement) : g.Body (Script.ofStatements ss) := by
  intro p hp
  obtain ⟨s, _, rfl⟩ := List.mem_map.mp hp
  trivial

theorem body_spaced (ss : List Statement) : g.Body (Script.spaced ss) :=
  .flatMap fun s _ => .statement s (.blank .nil)

theorem body_tableScript {t : Table} (ht : t ∈ g.registry.tables) (ss : List Statement) :
    g.Body (tableScript t ss) := by
  cases ss with
  | nil => exact .nil
  | cons create comments =>
      refine .append (.cons (.table ht) (.statement create (.blank .nil))) ?_
      split
      · exact .nil
      · exact .fixed (by decide) (.append (body_ofStatements comments) (.blank .nil))

theorem body_indexScript (t : Table) : g.Body (indexScript t) := by
  simp only [indexScript]
  split
  · exact .nil
  · exact .append (body_ofStatements _) (.blank .nil)

theorem body_triggerBlock {t : Table} (ht : t ∈ g.registry.tables) (function : String) :
    g.Body (triggerBlock function t) :=
  .cons (.trigger ht) (.statement _ (.statement _ (.blank .nil)))

theorem body_securityScript {t : Table} {basis : PolicyBasis} {p : PolicySelection}
    (h : basis.selection g.settings.authenticatedRole = .ok p) : g.Body (securityScript t p) := by
  have hcomment : g.Remarks p.comment := by
    cases basis with
    | userKey key =>
        cases h
        exact .fixed (by decide)
    | owner column =>
        cases h
        exact .fixed (by decide)
    | anyone =>
        obtain ⟨constant, _, hp⟩ := bind_eq_ok_iff.mp h
        cases hp
        exact .role
  exact .statement _ (.cons hcomment (body_spaced _))

theorem body_foreignKeysScript (g : Generator) : g.Body g.foreignKeysScript :=
  .fixed (by decide)
    (.blank (.statement _ (.blank (.append (body_spaced _) (.statement _ .nil)))))

theorem body_triggersScript {script : Script} (h : g.triggersScript = .ok script) : g.Body script := by
  rw [triggersScript_eq_blocks] at h
  obtain ⟨function, _, hscript⟩ := bind_eq_ok_iff.mp h
  cases hscript
  have htables : g.Body (g.stampedTables.flatMap (triggerBlock function)) :=
    .flatMap fun t ht => body_triggerBlock (List.mem_filter.mp ht).1 function
  have hstart : g.Body (triggersHeader function) :=
    .fixed (by decide)
      (.blank (.statement _ (.blank (.fixed (by decide) (.statement _ (.blank .nil))))))
  exact (hstart.append htables).append (.statement _ .nil)

theorem body_policiesScriptOf {script : Script} (h : g.policiesScriptOf = .ok script) :
    g.Body script := by
  obtain ⟨parts, hparts, hscript⟩ := bind_eq_ok_iff.mp h
  cases hscript
  have hstart : g.Body [.remark "Setup Row Level Security policies", .statement .begin, .blank] :=
    .fixed (by decide) (.statement _ (.blank .nil))
  refine (hstart.append (.flatten fun part hpart => ?_)).append (.statement _ .nil)
  obtain ⟨t, _, hstep⟩ := exists_of_mem_mapM hparts hpart
  rcases policyPart_eq_ok hstep with ⟨_, rfl⟩ | ⟨_, p, hp, rfl⟩
  · exact .nil
  · exact body_securityScript hp

theorem tablesScriptAt_pieces {time : Instant} {script : Script}
    (h : g.tablesScriptAt time .null g.registry.tables = .ok script) :
    ∃ body, script = .remark (tablesRemark g.settings) :: .stamp time :: body ∧ g.Body body := by
  obtain ⟨parts, hparts, hscript⟩ := bind_eq_ok_iff.mp h
  cases hscript
  have htables : g.Body parts.flatten := by
    refine .flatten fun part hpart => ?_
    obtain ⟨t, ht, hstep⟩ := exists_of_mem_mapM hparts hpart
    obtain ⟨ss, _, hpart⟩ := bind_eq_ok_iff.mp hstep
    cases hpart
    exact body_tableScript ht ss
  have hindexes : g.Body (g.registry.tables.flatMap indexScript) :=
    .flatMap fun t _ => body_indexScript t
  refine ⟨_, rfl, .blank (.statement _ (.blank ?_))⟩
  exact ((htables.append (.fixed (by decide) .nil)).append hindexes).append (.statement _ .nil)

/-- The complete script: its own header and stamp, those of the tables, and a body. -/
theorem completeScriptAt_pieces {time tablesTime : Instant} {script : Script}
    (h : g.completeScriptAt time tablesTime = .ok script) :
    ∃ body, script = .remark (completeRemark g.settings) :: .stamp time :: .blank ::
        .remark (tablesRemark g.settings) :: .stamp tablesTime :: body ∧ g.Body body := by
  obtain ⟨tables, htables, h⟩ := bind_eq_ok_iff.mp h
  obtain ⟨triggers, htriggers, h⟩ := bind_eq_ok_iff.mp h
  obtain ⟨policies, hpolicies, h⟩ := bind_eq_ok_iff.mp h
  cases h
  obtain ⟨body, rfl, hbody⟩ := tablesScriptAt_pieces htables
  refine ⟨_, rfl, ?_⟩
  exact ((hbody.append (.blank (body_foreignKeysScript g))).append
    (.blank (body_triggersScript htriggers))).append (.blank (body_policiesScriptOf hpolicies))

end Body

end Generator

end SchemaScript
