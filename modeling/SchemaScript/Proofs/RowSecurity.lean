/- # Row security

## What is proved

The tables that one script creates are, in order and with repetitions, the tables that the other script puts
under row security.  Right after a table is put there it gets its four policies, all with one check, and the
check is the one that the shape of the table calls for: `Guard` says which one, case by case, without the
chain of rules.

## How

The two scripts come from two loops over the same tables.  Each loop is read as a list over the tables that
reach the backend, the first one as their names, the second one as their blocks of statements; that the
lists fit together is then a fact about one list.  The loops ask the same question, whether a table has
relational columns, each for itself, and nothing else decides whether a table is skipped.
-/
import SchemaScript.Proofs.Parts

namespace SchemaScript

open Sql (Statement Check)

/-! ## What a table calls for -/

theorem Text.includes_ofString_iff {s part : String} :
    Text.includes (ofString s) (ofString part) = true ↔ part.toList <:+: s.toList := by
  show Text.occursIn _ _ = true ↔ _
  rw [Text.occursIn_iff]
  constructor
  · intro h
    obtain ⟨part', hpart, hmap⟩ := List.infix_map_iff.mp h
    have hchars : Text.ofChars part.toList = Text.ofChars part' := hmap
    have : some part.toList = some part' := by
      rw [← Text.chars?_ofChars, ← Text.chars?_ofChars part', hchars]
    cases this
    exact hpart
  · intro h
    exact h.map Point.char

namespace Table

/-- A table about users, with a key to tell them by. -/
def IsKeyedOnUsers (t : Table) : Prop := "user".toList <:+: t.name.toList ∧ t.primaryKey ≠ none

/-- A column of this name is carried to the backend. -/
def Carries (t : Table) (name : String) : Prop := ∃ c ∈ t.relationalColumns, c.name = name

instance (t : Table) (name : String) : Decidable (t.Carries name) :=
  inferInstanceAs (Decidable (∃ c ∈ t.relationalColumns, c.name = name))

theorem includes_userMarker_iff {t : Table} :
    Text.includes t.name PolicyRule.userMarker = true ↔ "user".toList <:+: t.name.toList :=
  Text.includes_ofString_iff

theorem any_name_iff {t : Table} {name : String} :
    (t.relationalColumns.any fun c => c.name == name) = true ↔ t.Carries name := by
  simp [Carries]

end Table

/-- The check that guards the rows of a table.  A table about users is guarded by its key, whatever columns it
has besides; any other table by the column of its owner, `user_id` before `owner_id`; only a table without
these is guarded by the role alone. -/
inductive Guard (role : Value) (t : Table) : Check → Prop
  | userKey {key : String} : t.IsKeyedOnUsers → t.primaryKey = some key → Guard role t (.owner key)
  | userId : ¬ t.IsKeyedOnUsers → t.Carries "user_id" → Guard role t (.owner "user_id")
  | ownerId : ¬ t.IsKeyedOnUsers → ¬ t.Carries "user_id" → t.Carries "owner_id" →
      Guard role t (.owner "owner_id")
  | role {constant : Sql.Constant} : ¬ t.IsKeyedOnUsers → ¬ t.Carries "user_id" →
      ¬ t.Carries "owner_id" → Sql.Constant.ofValue role = .ok constant →
      Guard role t (.role constant)

/-- Whatever column guards the rows of a table is one that the table has in the backend. -/
theorem Guard.carries {role : Value} {t : Table} {column : String} (h : Guard role t (.owner column))
    (hcolumns : t.relationalColumns ≠ []) : t.Carries column := by
  cases h with
  | userKey _ hkey => exact Table.key_mem_relationalColumns hkey hcolumns
  | userId _ hcarries => exact hcarries
  | ownerId _ _ hcarries => exact hcarries

/-- One table calls for one check. -/
theorem Guard.unique {role : Value} {t : Table} {check check' : Check} (h : Guard role t check)
    (h' : Guard role t check') : check = check' := by
  cases h with
  | userKey hkeyed hkey =>
      cases h' with
      | userKey _ hkey' => rw [Option.some.inj (hkey.symm.trans hkey')]
      | userId hnot _ => exact absurd hkeyed hnot
      | ownerId hnot _ _ => exact absurd hkeyed hnot
      | role hnot _ _ _ => exact absurd hkeyed hnot
  | userId hnot huser =>
      cases h' with
      | userKey hkeyed _ => exact absurd hkeyed hnot
      | userId _ _ => rfl
      | ownerId _ hnone _ => exact absurd huser hnone
      | role _ hnone _ _ => exact absurd huser hnone
  | ownerId hnot hnone howner =>
      cases h' with
      | userKey hkeyed _ => exact absurd hkeyed hnot
      | userId _ huser => exact absurd huser hnone
      | ownerId _ _ _ => rfl
      | role _ _ hnone' _ => exact absurd howner hnone'
  | role hnot hnone hnone' hconstant =>
      cases h' with
      | userKey hkeyed _ => exact absurd hkeyed hnot
      | userId _ huser => exact absurd huser hnone
      | ownerId _ _ howner => exact absurd howner hnone'
      | role _ _ _ hconstant' => rw [Except.ok.inj (hconstant.symm.trans hconstant')]

/-- The column of the owner is the stronger of the two that the table has. -/
theorem owner?_relationalColumns (t : Table) :
    (t.Carries "user_id" ∧ PolicyRule.owner? t.relationalColumns = some "user_id") ∨
      (¬ t.Carries "user_id" ∧ t.Carries "owner_id" ∧
        PolicyRule.owner? t.relationalColumns = some "owner_id") ∨
      (¬ t.Carries "user_id" ∧ ¬ t.Carries "owner_id" ∧
        PolicyRule.owner? t.relationalColumns = none) := by
  simp only [PolicyRule.owner?, PolicyRule.ownerColumns, List.find?]
  by_cases huser : t.Carries "user_id"
  · rw [Table.any_name_iff.mpr huser]
    exact .inl ⟨huser, rfl⟩
  rw [Bool.eq_false_iff.mpr fun h => huser (Table.any_name_iff.mp h)]
  by_cases howner : t.Carries "owner_id"
  · rw [Table.any_name_iff.mpr howner]
    exact .inr (.inl ⟨huser, howner, rfl⟩)
  · rw [Bool.eq_false_iff.mpr fun h => howner (Table.any_name_iff.mp h)]
    exact .inr (.inr ⟨huser, howner, rfl⟩)

/-- The first rule is the one for tables keyed on users. -/
theorem basis?_userTable (t : Table) :
    (∃ key, t.IsKeyedOnUsers ∧ t.primaryKey = some key ∧
        PolicyRule.userTable.basis? t t.relationalColumns = some (.userKey key)) ∨
      (¬ t.IsKeyedOnUsers ∧ PolicyRule.userTable.basis? t t.relationalColumns = none) := by
  simp only [PolicyRule.basis?]
  by_cases hname : "user".toList <:+: t.name.toList
  · rw [if_pos (Table.includes_userMarker_iff.mpr hname)]
    cases hkey : t.primaryKey with
    | some key => exact .inl ⟨key, ⟨hname, by rw [hkey]; exact Option.some_ne_none key⟩, rfl, rfl⟩
    | none => exact .inr ⟨fun h => h.2 hkey, rfl⟩
  · rw [if_neg fun h => hname (Table.includes_userMarker_iff.mp h)]
    exact .inr ⟨fun h => hname h.1, rfl⟩

/-- The reasons that the chain of rules gives, each with the tables that it is given for. -/
theorem PolicyBasis.ofTable_cases (t : Table) :
    (∃ key, t.IsKeyedOnUsers ∧ t.primaryKey = some key ∧
        PolicyBasis.ofTable t t.relationalColumns = .userKey key) ∨
      (¬ t.IsKeyedOnUsers ∧ t.Carries "user_id" ∧
        PolicyBasis.ofTable t t.relationalColumns = .owner "user_id") ∨
      (¬ t.IsKeyedOnUsers ∧ ¬ t.Carries "user_id" ∧ t.Carries "owner_id" ∧
        PolicyBasis.ofTable t t.relationalColumns = .owner "owner_id") ∨
      (¬ t.IsKeyedOnUsers ∧ ¬ t.Carries "user_id" ∧ ¬ t.Carries "owner_id" ∧
        PolicyBasis.ofTable t t.relationalColumns = .anyone) := by
  simp only [PolicyBasis.ofTable, PolicyRule.firstBasis?, PolicyRule.chain, List.findSome?]
  rcases basis?_userTable t with ⟨key, hkeyed, hkey, hbasis⟩ | ⟨hnot, hbasis⟩
  · rw [hbasis]
    exact .inl ⟨key, hkeyed, hkey, rfl⟩
  rw [hbasis]
  simp only [PolicyRule.basis?]
  rcases owner?_relationalColumns t with
    ⟨huser, howner?⟩ | ⟨hnone, howner, howner?⟩ | ⟨hnone, hnone', howner?⟩
  · rw [howner?]
    exact .inr (.inl ⟨hnot, huser, rfl⟩)
  · rw [howner?]
    exact .inr (.inr (.inl ⟨hnot, hnone, howner, rfl⟩))
  · rw [howner?]
    exact .inr (.inr (.inr ⟨hnot, hnone, hnone', rfl⟩))

/-- The chain of rules chooses the check that the table calls for. -/
theorem guard_of_selection {t : Table} {role : Value} {p : PolicySelection}
    (h : (PolicyBasis.ofTable t t.relationalColumns).selection role = .ok p) :
    Guard role t p.check := by
  rcases PolicyBasis.ofTable_cases t with ⟨key, hkeyed, hkey, hbasis⟩ | ⟨hnot, huser, hbasis⟩ |
    ⟨hnot, hnone, howner, hbasis⟩ | ⟨hnot, hnone, hnone', hbasis⟩
  · rw [hbasis] at h
    cases h
    exact .userKey hkeyed hkey
  · rw [hbasis] at h
    cases h
    exact .userId hnot huser
  · rw [hbasis] at h
    cases h
    exact .ownerId hnot hnone howner
  · rw [hbasis] at h
    obtain ⟨constant, hconstant, hp⟩ := bind_eq_ok_iff.mp h
    cases hp
    exact .role hnot hnone hnone' hconstant

/-! ## The two loops as lists over the same tables -/

/-- The tables that reach the backend, in order. -/
def Registry.carried (r : Registry) : List Table := r.tables.filter (·.isRelational)

theorem Registry.flatMap_carried {α : Type} (r : Registry) (f : Table → List α) :
    r.carried.flatMap f =
      r.tables.flatMap fun t => if t.relationalColumns.isEmpty then [] else f t := by
  simp only [carried]
  induction r.tables with
  | nil => rfl
  | cons t ts ih =>
      rw [List.filter_cons, List.flatMap_cons, ← ih]
      by_cases h : t.relationalColumns = []
      · rw [if_neg fun hrel => t.isRelational_iff.mp hrel h, h]
        rfl
      · rw [if_pos (t.isRelational_iff.mpr h), List.isEmpty_eq_false_iff.mpr h]
        rfl

/-- The table that a statement creates. -/
def Sql.Statement.created? : Statement → Option String
  | .createTable table _ => some table
  | _ => none

/-- The table that a statement puts under row security. -/
def Sql.Statement.secured? : Statement → Option String
  | .enableRowSecurity table => some table
  | _ => none

/-- The statements that secure a table: row security, then one policy for each command. -/
def secures (table : String) (check : Check) : List Statement :=
  [.enableRowSecurity table, .createPolicy table "SELECT" check, .createPolicy table "INSERT" check,
    .createPolicy table "UPDATE" check, .createPolicy table "DELETE" check]

/-- The texts of these statements: the policy for insertions checks the rows that are written, the others the
rows that are there. -/
def securingTexts (table : String) (check : Check) : List String :=
  let policy (command clause : String) :=
    "CREATE POLICY " ++ Statement.quotedName (table ++ "_auth_" ++ Text.lowerString command) ++
      " ON " ++ table ++ " FOR " ++ command ++ "\n    " ++ clause ++ " (" ++ check.sql ++ ")"
  ["ALTER TABLE " ++ table ++ " ENABLE ROW LEVEL SECURITY", policy "SELECT" "USING",
    policy "INSERT" "WITH CHECK", policy "UPDATE" "USING", policy "DELETE" "USING"]

theorem map_sql_secures (tables : List Table) (check : Table → Check) :
    (tables.flatMap fun t => secures t.name (check t)).map Statement.sql =
      tables.flatMap fun t => securingTexts t.name (check t) := by
  rw [List.map_flatMap]
  rfl

namespace Generator

theorem filterMap_transaction {α : Type} {view : Statement → Option α} (hbegin : view .begin = none)
    (hcommit : view .commit = none) (part : List Statement) :
    (transaction part).filterMap view = part.filterMap view := by
  rw [transaction, List.cons_append, List.filterMap_cons_none hbegin, List.filterMap_append,
    List.filterMap_cons_none hcommit, List.filterMap_nil, List.append_nil]

theorem created?_indexes (tables : List Table) :
    (tables.flatMap indexes).filterMap Statement.created? = [] := by
  rw [List.filterMap_eq_nil_iff]
  intro s hs
  obtain ⟨t, _, hs⟩ := List.mem_flatMap.mp hs
  simp only [indexes] at hs
  split at hs
  · exact absurd hs List.not_mem_nil
  · obtain ⟨column, _, rfl⟩ := List.mem_map.mp hs
    rfl

/-- A table that reaches the backend is created once, and no other is. -/
theorem created?_tableStatements {g : Generator} {t : Table} {ss : List Statement}
    (h : g.tableStatements t = .ok ss) :
    ss.filterMap Statement.created? = if t.relationalColumns.isEmpty then [] else [t.name] := by
  rcases tableStatements_eq_ok h with ⟨hempty, rfl⟩ | ⟨hcolumns, comments, rfl, hcomments⟩
  · rw [hempty]
    rfl
  · have hnone : comments.filterMap Statement.created? = [] := by
      rw [List.filterMap_eq_nil_iff]
      intro s hs
      obtain ⟨c, _, text, _, rfl⟩ := hcomments s hs
      rfl
    rw [List.isEmpty_eq_false_iff.mpr hcolumns]
    show t.name :: comments.filterMap Statement.created? = [t.name]
    rw [hnone]

/-- The first loop: the tables that are created are the ones that reach the backend. -/
theorem created?_createStatements {g : Generator} {ss : List Statement}
    (h : g.createStatements g.registry.tables = .ok ss) :
    ss.filterMap Statement.created? = g.registry.carried.map (·.name) := by
  obtain ⟨blocks, hblocks, hss⟩ := bind_eq_ok_iff.mp h
  cases hss
  have hnames := map_eq_of_mapM_eq_ok (fun t _ _ ht => created?_tableStatements ht) hblocks
  rw [List.filterMap_flatten, hnames, ← List.flatMap_def, ← Registry.flatMap_carried]
  exact List.map_eq_flatMap.symm

theorem secured?_secures (tables : List Table) (check : Table → Check) :
    (tables.flatMap fun t => secures t.name (check t)).filterMap Statement.secured? =
      tables.map (·.name) := by
  induction tables with
  | nil => rfl
  | cons t ts ih =>
      rw [List.flatMap_cons, List.filterMap_append, ih]
      rfl

/-- The second loop: each table that reaches the backend is secured with the check that the chain of rules selects. -/
theorem exists_selections {g : Generator} {ss : List Statement} (h : g.policyStatementsOf = .ok ss) :
    ∃ check : Table → Check,
      ss = (g.registry.carried.flatMap fun t => secures t.name (check t)) ∧
        ∀ t ∈ g.registry.carried, ∃ p,
          (PolicyBasis.ofTable t t.relationalColumns).selection g.settings.authenticatedRole = .ok p ∧
            p.check = check t := by
  obtain ⟨blocks, hblocks, hss⟩ := bind_eq_ok_iff.mp h
  cases hss
  -- A check for every table, so that one function serves the whole list; where no statement asks for one, any
  -- check will do.
  have step (t : Table) : ∃ check : Check, t ∈ g.registry.tables →
      g.policies t = .ok (if t.relationalColumns.isEmpty then [] else secures t.name check) ∧
        (t.relationalColumns ≠ [] → ∃ p,
          (PolicyBasis.ofTable t t.relationalColumns).selection g.settings.authenticatedRole = .ok p ∧
            p.check = check) := by
    by_cases ht : t ∈ g.registry.tables
    · obtain ⟨block, hblock⟩ := exists_of_mapM_eq_ok hblocks ht
      rcases policies_eq_ok hblock with ⟨hempty, rfl⟩ | ⟨hcolumns, p, hp, rfl⟩
      · exact ⟨.raw "", fun _ => ⟨by rw [hblock, hempty]; rfl, fun hcolumns => absurd hempty hcolumns⟩⟩
      · refine ⟨p.check, fun _ => ⟨?_, fun _ => ⟨p, hp, rfl⟩⟩⟩
        rw [hblock, List.isEmpty_eq_false_iff.mpr hcolumns]
        rfl
    · exact ⟨.raw "", fun hmem => absurd hmem ht⟩
  choose check hcheck using step
  have hlist : blocks.map id = g.registry.tables.map _ :=
    map_eq_of_mapM_eq_ok (fun t ht block hblock =>
      Except.ok.inj (hblock.symm.trans (hcheck t ht).1)) hblocks
  refine ⟨check, ?_, fun t ht => ?_⟩
  · rw [Registry.flatMap_carried, List.flatMap_def, ← hlist, List.map_id]
  · obtain ⟨ht, hrel⟩ := List.mem_filter.mp ht
    exact (hcheck t ht).2 (t.isRelational_iff.mp hrel)

/-- The check of a table that reaches the backend is the one that the table calls for. -/
theorem policyStatementsOf_eq_ok {g : Generator} {ss : List Statement}
    (h : g.policyStatementsOf = .ok ss) :
    ∃ check : Table → Check,
      ss = (g.registry.carried.flatMap fun t => secures t.name (check t)) ∧
        ∀ t ∈ g.registry.carried, Guard g.settings.authenticatedRole t (check t) := by
  obtain ⟨check, hss, hcheck⟩ := exists_selections h
  refine ⟨check, hss, fun t ht => ?_⟩
  obtain ⟨p, hp, heq⟩ := hcheck t ht
  exact heq ▸ guard_of_selection hp

/-- A statement of the policies is for a table that reaches the backend, with the check that it calls for. -/
theorem mem_policyStatementsOf {g : Generator} {ss : List Statement} (h : g.policyStatementsOf = .ok ss)
    {s : Statement} (hs : s ∈ ss) :
    ∃ t ∈ g.registry.tables, t.relationalColumns ≠ [] ∧
      ∃ check, Guard g.settings.authenticatedRole t check ∧
        (s = .enableRowSecurity t.name ∨
          ∃ command ∈ Statement.policyCommands, s = .createPolicy t.name command check) := by
  obtain ⟨check, rfl, hguard⟩ := policyStatementsOf_eq_ok h
  obtain ⟨t, hcarried, hs⟩ := List.mem_flatMap.mp hs
  obtain ⟨ht, hrel⟩ := List.mem_filter.mp hcarried
  refine ⟨t, ht, t.isRelational_iff.mp hrel, check t, hguard t hcarried, ?_⟩
  rcases List.mem_cons.mp hs with rfl | hs
  · exact .inl rfl
  · obtain ⟨command, hcommand, rfl⟩ : ∃ command ∈ Statement.policyCommands,
        Statement.createPolicy t.name command (check t) = s := List.mem_map.mp hs
    exact .inr ⟨command, hcommand, rfl⟩

end Generator

/-! ## Every table is secured -/

/-- Both scripts are given where comment and role are strings without NUL.  Whenever they are given, the tables
of the one are secured by the other, each with the check that it calls for and with no other, and a check on a
column is on one that the table has in the backend.  A script that needs a comment or a role with a half is not
given.  The statements are those that are put into the scripts, whatever the names and the labels hold; where names
are identifiers and the settings stay on their lines, `complete_script_splits` finds them in the text. -/
theorem every_created_table_is_secured (g : Generator) :
    (∀ (s s' : Session) (tables policies : Script), (g.tablesScript.outcome s).1 = .ok tables →
      (g.policiesScript.outcome s').1 = .ok policies →
      tables.statements.filterMap Statement.created? = g.registry.carried.map (·.name) ∧
      policies.statements.filterMap Statement.secured? =
        tables.statements.filterMap Statement.created? ∧
      ∃ check : Table → Check,
        policies.statements =
          .begin :: (g.registry.carried.flatMap fun t => secures t.name (check t)) ++ [.commit] ∧
        policies.statements.map Statement.sql =
          "BEGIN" :: (g.registry.carried.flatMap fun t => securingTexts t.name (check t)) ++
            ["COMMIT"] ∧
        ∀ t ∈ g.registry.carried,
          (∀ c, Guard g.settings.authenticatedRole t c ↔ c = check t) ∧
          ∀ column, check t = .owner column → t.Carries column ∧
            (check t).sql = "auth.uid()::text = " ++ column ++ "::text") ∧
    (g.settings.encryptedComment.IsNulFree → g.settings.authenticatedRole.IsNulFree →
      ∀ s s' : Session, (∃ tables, (g.tablesScript.outcome s).1 = .ok tables) ∧
        ∃ policies, (g.policiesScript.outcome s').1 = .ok policies) := by
  refine ⟨?_, fun hcomment hrole s s' =>
    ⟨Generator.tablesScript_ok hcomment s, Generator.policiesScript_ok hrole s'⟩⟩
  intro s s' tables policies htables hpolicies
  obtain ⟨ss, hss, hstatements⟩ := Generator.tablesScript_eq_ok htables
  obtain ⟨ss', hss', hstatements'⟩ := Generator.policiesScript_eq_ok hpolicies
  obtain ⟨check, rfl, hguard⟩ := Generator.policyStatementsOf_eq_ok hss'
  have hcreated : tables.statements.filterMap Statement.created? =
      g.registry.carried.map (·.name) := by
    rw [hstatements, Generator.filterMap_transaction rfl rfl, List.filterMap_append,
      Generator.created?_createStatements hss, Generator.created?_indexes, List.append_nil]
  have hsecured : policies.statements.filterMap Statement.secured? =
      g.registry.carried.map (·.name) := by
    rw [hstatements', Generator.filterMap_transaction rfl rfl, Generator.secured?_secures]
  have htexts : policies.statements.map Statement.sql =
      "BEGIN" :: (g.registry.carried.flatMap fun t => securingTexts t.name (check t)) ++
        ["COMMIT"] := by
    rw [hstatements', ← map_sql_secures, Generator.transaction, List.map_append]
    rfl
  refine ⟨hcreated, hsecured.trans hcreated.symm, check, hstatements', htexts, fun t ht => ?_⟩
  refine ⟨fun c => ⟨fun hc => hc.unique (hguard t ht), fun hc => hc ▸ hguard t ht⟩,
    fun column hcolumn => ⟨?_, hcolumn ▸ rfl⟩⟩
  have hcolumns := t.isRelational_iff.mp (List.mem_filter.mp ht).2
  exact (hcolumn ▸ hguard t ht).carries hcolumns

/-- Of the five tables of the application the session cache alone is neither created nor secured. -/
theorem application_is_secured :
    ∃ tables policies : Script,
      ((Generator.tablesScript ⟨.application, {}⟩).outcome default).1 = .ok tables ∧
      ((Generator.policiesScript ⟨.application, {}⟩).outcome default).1 = .ok policies ∧
      policies.statements.filterMap Statement.secured? =
        ["projects", "users_public", "users_private", "app_state"] := by
  obtain ⟨secured, given⟩ := every_created_table_is_secured ⟨.application, {}⟩
  have hcomment : (Settings.encryptedComment {}).IsNulFree := ⟨_, rfl, by decide⟩
  have hrole : (Settings.authenticatedRole {}).IsNulFree := ⟨_, rfl, by decide⟩
  obtain ⟨⟨tables, htables⟩, policies, hpolicies⟩ := given hcomment hrole default default
  obtain ⟨hcreated, hsecured, _⟩ := secured default default tables policies htables hpolicies
  have hcarried : (Registry.application.carried).map (·.name) =
      ["projects", "users_public", "users_private", "app_state"] := by decide
  exact ⟨tables, policies, htables, hpolicies, hsecured.trans (hcreated.trans hcarried)⟩

end SchemaScript
