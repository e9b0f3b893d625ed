/-
# When generation fails

## What is proved

With settings that are texts, a script fails for one of three reasons and for no other.  The comment on encrypted
columns cannot be quoted, and there is an encrypted column in the backend; the role cannot be quoted, and some
table falls to the rule for everyone; or the name of the function for the stamps cannot be written.  The foreign
keys never fail.  A text cannot be quoted if it holds a NUL or half a pair of units; only such a half keeps it from
being written.  Whatever becomes of a script, the open contexts of the log are afterwards what they were before.

## How

Every step that can fail is followed from the constant that it needs: for each there is an equivalence with one
fault on its left, so that the fault of a loop is the fault of some item of it, and the first of three steps that fails
gives its fault to the whole.  For the contexts, `Balanced` is closed under the ways in which runs are put together, and
closing a context in any outcome is what makes it so (`Balanced.within`).
-/
import SchemaScript.Proofs.RowSecurity
import SchemaScript.Proofs.WholeTexts

namespace SchemaScript

open Sql (Statement Constant)

/-! ## Texts that cannot be quoted -/

namespace Sql.Constant

/-- A text can be quoted unless a NUL or half a pair stands in it. -/
theorem ofText_fails_iff {t : Text} : (∃ f, ofText t = .error f) ↔ t.HasNul ∨ ¬ t.Whole := by
  rw [← not_ok_iff, ofText_isOk_iff]
  constructor
  · intro h
    by_cases hwhole : t.Whole
    · obtain ⟨s, rfl⟩ := Text.whole_iff.mp hwhole
      refine .inl (Text.hasNul_ofString.mpr ?_)
      cases hnul : holdsNul s with
      | true => rfl
      | false => exact absurd ⟨s, rfl, hnul⟩ h
    · exact .inr hwhole
  · rintro (hnul | hhalf) ⟨s, rfl, hs⟩
    · rw [Text.hasNul_ofString.mp hnul] at hs
      cases hs
    · exact hhalf (Text.whole_ofString s)

/-- A text without halves can fail to be quoted for its NUL alone. -/
theorem fault_of_whole {t : Text} (ht : t.Whole) {f : Fault} (h : ofText t = .error f) :
    f = .nulInText := by
  obtain ⟨s, rfl⟩ := Text.whole_iff.mp ht
  rw [ofText_ofString, ofString] at h
  split at h
  · cases h
  · cases h
    rfl

/-- A text with halves is refused for them. -/
theorem written_fails_iff {t : Text} : (∃ f, written t = .error f) ↔ ¬ t.Whole := by
  rw [← not_ok_iff, Text.whole_iff]
  refine not_congr (exists_congr fun s => ?_)
  exact Generator.written_eq_ok_iff

end Sql.Constant

/-! ## Steps that fail -/

namespace Table

/-- A column that the client encrypts is carried to the backend. -/
def HasEncrypted (t : Table) : Prop := ∃ c ∈ t.relationalColumns, c.encrypted = true

instance (t : Table) : Decidable t.HasEncrypted :=
  inferInstanceAs (Decidable (∃ c ∈ t.relationalColumns, c.encrypted = true))

/-- The table reaches the backend, and the rule for everyone is selected for it. -/
def FallsToRole (t : Table) : Prop :=
  t.relationalColumns ≠ [] ∧ (PolicyBasis.ofTable t t.relationalColumns).rule = .authenticated

/-- These are the tables with neither a key of users nor a column of the owner. -/
theorem fallsToRole_iff {t : Table} :
    t.FallsToRole ↔ t.relationalColumns ≠ [] ∧ ¬ t.IsKeyedOnUsers ∧ ¬ t.Carries "user_id" ∧
      ¬ t.Carries "owner_id" := by
  refine and_congr_right fun _ => ?_
  rcases PolicyBasis.ofTable_cases t with ⟨key, hkeyed, _, hbasis⟩ | ⟨_, huser, hbasis⟩ |
    ⟨_, _, howner, hbasis⟩ | ⟨hnot, hnone, hnone', hbasis⟩
  · rw [hbasis]
    exact ⟨fun h => (by cases h), fun h => absurd hkeyed h.1⟩
  · rw [hbasis]
    exact ⟨fun h => (by cases h), fun h => absurd huser h.2.1⟩
  · rw [hbasis]
    exact ⟨fun h => (by cases h), fun h => absurd howner h.2.2⟩
  · rw [hbasis]
    exact ⟨fun _ => ⟨hnot, hnone, hnone'⟩, fun _ => rfl⟩

theorem FallsToRole.basis {t : Table} (h : t.FallsToRole) :
    PolicyBasis.ofTable t t.relationalColumns = .anyone := by
  obtain ⟨_, hrule⟩ := h
  cases hbasis : PolicyBasis.ofTable t t.relationalColumns with
  | anyone => rfl
  | userKey | owner =>
      rw [hbasis] at hrule
      cases hrule

instance (t : Table) : Decidable t.FallsToRole :=
  inferInstanceAs (Decidable (t.relationalColumns ≠ [] ∧
    (PolicyBasis.ofTable t t.relationalColumns).rule = .authenticated))

end Table

namespace Generator

variable {g : Generator} {f : Sql.Fault}

theorem comment_eq_error_iff {t : Table} {c : Column} :
    g.comment t c = .error f ↔ Constant.ofValue g.settings.encryptedComment = .error f :=
  bind_ok_eq_error_iff fun _ => rfl

/-- The statements of a table fail for the comment, and only where there is something to comment on. -/
theorem tableStatements_eq_error_iff {t : Table} :
    g.tableStatements t = .error f ↔
      Constant.ofValue g.settings.encryptedComment = .error f ∧ t.HasEncrypted := by
  have step (c : Column) (f : Sql.Fault) : g.comment t c = .error f ↔
      Constant.ofValue g.settings.encryptedComment = .error f ∧ True := by
    rw [comment_eq_error_iff, and_true]
  have hencrypted : (∃ c ∈ encryptedColumns t, True) ↔ t.HasEncrypted := by
    simp only [encryptedColumns, Table.HasEncrypted, List.mem_filter, and_true]
  simp only [tableStatements]
  split
  next hempty =>
    constructor
    · intro h
      cases h
    · rintro ⟨_, c, hc, _⟩
      rw [List.isEmpty_iff.mp hempty] at hc
      exact absurd hc List.not_mem_nil
  · rw [← hencrypted, ← mapM_eq_error_iff step]
    exact bind_ok_eq_error_iff fun _ => rfl

theorem createStatements_eq_error_iff {tables : List Table} :
    g.createStatements tables = .error f ↔
      Constant.ofValue g.settings.encryptedComment = .error f ∧ ∃ t ∈ tables, t.HasEncrypted := by
  rw [← mapM_eq_error_iff fun t f => g.tableStatements_eq_error_iff]
  exact bind_ok_eq_error_iff fun _ => rfl

/-- A reason fails to become a policy for the role, and only where the role is asked for. -/
theorem selection_eq_error_iff {b : PolicyBasis} {role : Value} :
    b.selection role = .error f ↔ Constant.ofValue role = .error f ∧ b.rule = .authenticated := by
  cases b with
  | userKey key => exact ⟨fun h => (by cases h), fun h => (by cases h.2)⟩
  | owner column => exact ⟨fun h => (by cases h), fun h => (by cases h.2)⟩
  | anyone =>
      have step : PolicyBasis.anyone.selection role = .error f ↔ Constant.ofValue role = .error f :=
        bind_ok_eq_error_iff fun _ => rfl
      rw [step]
      exact ⟨fun h => ⟨h, rfl⟩, fun h => h.1⟩

theorem policy?_eq_error_iff {t : Table} :
    g.policy? t = .error f ↔
      Constant.ofValue g.settings.authenticatedRole = .error f ∧ t.FallsToRole := by
  simp only [policy?]
  split
  next hempty =>
    constructor
    · intro h
      cases h
    · rintro ⟨_, hcolumns, _⟩
      exact absurd (List.isEmpty_iff.mp hempty) hcolumns
  next hempty =>
    have hcolumns : t.relationalColumns ≠ [] := fun h => hempty (List.isEmpty_iff.mpr h)
    refine (bind_ok_eq_error_iff fun _ => rfl).trans (selection_eq_error_iff.trans ?_)
    exact and_congr_right fun _ => ⟨fun h => ⟨hcolumns, h⟩, fun h => h.2⟩

theorem policyStatementsOf_eq_error_iff :
    g.policyStatementsOf = .error f ↔
      Constant.ofValue g.settings.authenticatedRole = .error f ∧
        ∃ t ∈ g.registry.tables, t.FallsToRole := by
  have step (t : Table) (f : Sql.Fault) : g.policies t = .error f ↔
      Constant.ofValue g.settings.authenticatedRole = .error f ∧ t.FallsToRole :=
    (bind_ok_eq_error_iff fun _ => rfl).trans policy?_eq_error_iff
  rw [← mapM_eq_error_iff step]
  exact bind_ok_eq_error_iff fun _ => rfl

theorem triggerStatementsOf_eq_error_iff : g.triggerStatementsOf = .error f ↔ g.stampFunction = .error f :=
  bind_ok_eq_error_iff fun _ => rfl

/-- The fault of the complete script is that of a part of it. -/
theorem parts_eq_error (h : g.parts = .error f) :
    g.createStatements g.registry.tables = .error f ∨ g.stampFunction = .error f ∨
      g.policyStatementsOf = .error f := by
  rcases bind_eq_error_iff.mp h with htables | ⟨_, _, h⟩
  · exact .inl htables
  rcases bind_eq_error_iff.mp h with htriggers | ⟨_, _, h⟩
  · exact .inr (.inl (triggerStatementsOf_eq_error_iff.mp htriggers))
  · exact .inr (.inr ((bind_ok_eq_error_iff fun _ => rfl).mp h))

/-- The complete script fails as soon as one of its parts does. -/
theorem parts_fails_iff : (∃ f, g.parts = .error f) ↔
    (∃ f, g.createStatements g.registry.tables = .error f) ∨ (∃ f, g.stampFunction = .error f) ∨
      ∃ f, g.policyStatementsOf = .error f := by
  constructor
  · rintro ⟨f, h⟩
    rcases parts_eq_error h with h | h | h
    · exact .inl ⟨f, h⟩
    · exact .inr (.inl ⟨f, h⟩)
    · exact .inr (.inr ⟨f, h⟩)
  · intro h
    refine not_ok_iff.mp ?_
    rintro ⟨p, hp⟩
    obtain ⟨htables, _, _, htriggers, hpolicies⟩ := parts_eq_ok hp
    rcases h with ⟨f, h⟩ | ⟨f, h⟩ | ⟨f, h⟩
    · rw [h] at htables
      cases htables
    · rw [triggerStatementsOf_eq_error_iff.mpr h] at htriggers
      cases htriggers
    · rw [h] at hpolicies
      cases hpolicies

/-! ## Runs that fail -/

theorem tablesScript_eq_error_iff {s : Session} :
    (g.tablesScript.outcome s).1 = .error f ↔
      Constant.ofValue g.settings.encryptedComment = .error f ∧
        ∃ t ∈ g.registry.tables, t.HasEncrypted := by
  rw [(g.outcome_tablesScript s).1, ← createStatements_eq_error_iff]
  exact error_iff_of_map_eq (g.statements_tablesScriptAt _ .null g.registry.tables) f

theorem policiesScript_eq_error_iff {s : Session} :
    (g.policiesScript.outcome s).1 = .error f ↔
      Constant.ofValue g.settings.authenticatedRole = .error f ∧
        ∃ t ∈ g.registry.tables, t.FallsToRole := by
  rw [(g.policiesScript_gives s).1, ← policyStatementsOf_eq_error_iff]
  exact error_iff_of_map_eq g.statements_policiesScriptOf f

theorem triggersScript_eq_error_iff : g.triggersScript = .error f ↔ g.stampFunction = .error f :=
  (error_iff_of_map_eq g.statements_triggersScript f).trans triggerStatementsOf_eq_error_iff

theorem completeScript_eq_error_iff {s : Session} :
    (g.completeScript.outcome s).1 = .error f ↔ g.parts = .error f := by
  rw [g.outcome_completeScript s]
  exact error_iff_of_map_eq (g.statements_completeScriptAt _ _) f

end Generator

/-! ## Contexts are closed in any outcome -/

namespace Run

variable {α β : Type}

/-- Whatever comes of the run, the open contexts are afterwards what they were before. -/
def Balanced (act : Run α) : Prop :=
  ∀ s, (act.outcome s).2.journal.contexts = s.journal.contexts

theorem balanced_pure (a : α) : (pure a : Run α).Balanced := fun _ => rfl

theorem balanced_liftExcept (r : Except Sql.Fault α) : (liftExcept r : Run α).Balanced := by
  intro s
  rw [outcome_liftExcept]

theorem balanced_now : now.Balanced := fun _ => rfl

theorem balanced_journal {change : Log.Journal → Log.Journal}
    (h : ∀ j, (change j).contexts = j.contexts) : (journal change).Balanced :=
  fun s => h s.journal

theorem balanced_note (l : Log.Logger) (level : Int) (message : Text) :
    (note l level message).Balanced :=
  balanced_journal fun _ => Log.Journal.contexts_write _ _ _ _ _ _

/-- A run that is ended by a fault leaves the contexts where the fault left them. -/
theorem Balanced.bind {act : Run α} {next : α → Run β} (h : act.Balanced)
    (hnext : ∀ a, (next a).Balanced) : (act >>= next).Balanced := by
  intro s
  rw [outcome_bind]
  have hact := h s
  cases hr : act.outcome s with
  | mk r after =>
      rw [hr] at hact
      cases r with
      | ok a => exact (hnext a after).trans hact
      | error fault => exact hact

/-- The context that is opened around a run is closed after it, and no other is. -/
theorem Balanced.within {act : Run α} (h : act.Balanced) (setting : Log.Setting) :
    (Run.within setting act).Balanced := by
  intro s
  rw [outcome_within]
  have hact := h { s with journal := s.journal.enter setting }
  simp only [Log.Journal.leave, hact]
  rfl

theorem balanced_mapM {act : α → Run β} (h : ∀ a, (act a).Balanced) (as : List α) :
    (as.mapM act).Balanced := by
  induction as with
  | nil => exact balanced_pure []
  | cons a as ih =>
      rw [List.mapM_cons]
      exact (h a).bind fun b => ih.bind fun bs => balanced_pure (b :: bs)

theorem balanced_forM {act : α → Run Unit} (h : ∀ a, (act a).Balanced) (as : List α) :
    (as.forM act).Balanced := by
  induction as with
  | nil => exact balanced_pure ()
  | cons a as ih =>
      show (act a >>= fun _ => as.forM act).Balanced
      exact (h a).bind fun _ => ih

end Run

namespace Generator

theorem balanced_detail (message : Text) : (detail message).Balanced := Run.balanced_note _ _ _

theorem balanced_progress (message : Text) : (progress message).Balanced := Run.balanced_note _ _ _

theorem balanced_generateTable (g : Generator) (t : Table) : (g.generateTable t).Balanced := by
  refine Run.Balanced.within ((Run.balanced_liftExcept _).bind fun statements => ?_) _
  cases statements with
  | nil => exact (balanced_detail _).bind fun _ => Run.balanced_pure _
  | cons create comments => exact (balanced_detail _).bind fun _ => Run.balanced_pure _

theorem balanced_generateTables (g : Generator) (label : Value) (tables : List Table) :
    (g.generateTables label tables).Balanced := by
  refine Run.Balanced.within (Run.balanced_now.bind fun time => ?_) _
  refine (Run.balanced_mapM g.balanced_generateTable tables).bind fun parts => ?_
  refine (Run.balanced_journal fun j => ?_).bind fun _ => Run.balanced_pure _
  exact Log.Journal.contexts_write _ _ _ _ _ _

theorem balanced_tableText (g : Generator) (name : Text) : (g.tableText name).Balanced := by
  simp only [tableText]
  split
  · exact (balanced_progress _).bind fun _ => Run.balanced_pure _
  · exact (g.balanced_generateTables _ _).bind fun _ => Run.balanced_pure _

theorem balanced_generateForeignKeysScript (g : Generator) :
    g.generateForeignKeysScript.Balanced := by
  have found : g.generateForeignKeys.Balanced :=
    (Run.balanced_forM (fun _ => balanced_detail _) _).bind fun _ =>
      (balanced_progress _).bind fun _ => Run.balanced_pure _
  exact found.bind fun _ => Run.balanced_pure _

theorem balanced_generatePolicy (g : Generator) (t : Table) : (g.generatePolicy t).Balanced := by
  refine Run.Balanced.within ((Run.balanced_liftExcept _).bind fun selected => ?_) _
  cases selected with
  | none => exact Run.balanced_pure _
  | some p =>
      refine (balanced_detail _).bind fun _ => ?_
      exact (Run.balanced_liftExcept _).bind fun _ => Run.balanced_pure _

theorem balanced_policiesScript (g : Generator) : g.policiesScript.Balanced :=
  (Run.balanced_mapM g.balanced_generatePolicy _).bind fun _ => Run.balanced_pure _

theorem balanced_completeScript (g : Generator) : g.completeScript.Balanced := by
  refine Run.balanced_now.bind fun time => ?_
  refine (g.balanced_generateTables _ _).bind fun tables => ?_
  refine g.balanced_generateForeignKeysScript.bind fun foreignKeys => ?_
  refine (Run.balanced_liftExcept _).bind fun triggers => ?_
  refine g.balanced_policiesScript.bind fun policies => ?_
  exact (balanced_progress _).bind fun _ => Run.balanced_pure _

theorem balanced_generate (g : Generator) (part : ScriptPart) : (part.generate g).Balanced := by
  cases part with
  | complete => exact g.balanced_completeScript
  | tables => exact g.balanced_generateTables _ _
  | foreignKeys => exact g.balanced_generateForeignKeysScript
  | triggers => exact Run.balanced_liftExcept _
  | policies => exact g.balanced_policiesScript

end Generator

/-! ## Generation fails for what cannot be written -/

/-- Settings that are texts. -/
def Settings.ofTexts (schemaLabel backendLabel comment function role : Text) : Settings :=
  ⟨.text schemaLabel, .text backendLabel, .text comment, .text function, .text role⟩

/-- Generation fails for a comment, a role or the name of a function that cannot be written, where it is needed, and
for nothing else.  Without halves the one fault is a NUL where a text is quoted.  Whatever comes of a script, no
context that it opened stays open. -/
theorem generation_fails_only_on_unwritable_texts (r : Registry)
    (schemaLabel backendLabel comment function role : Text) (s : Session) :
    let g : Generator := ⟨r, .ofTexts schemaLabel backendLabel comment function role⟩
    let result (part : ScriptPart) := ((part.generate g).outcome s).1
    let commentFails := (comment.HasNul ∨ ¬ comment.Whole) ∧ ∃ t ∈ r.tables, t.HasEncrypted
    let roleFails := (role.HasNul ∨ ¬ role.Whole) ∧ ∃ t ∈ r.tables, t.FallsToRole
    ((∃ f, result .tables = .error f) ↔ commentFails) ∧
    ((∃ f, result .policies = .error f) ↔ roleFails) ∧
    (∃ script, result .foreignKeys = .ok script) ∧
    ((∃ f, result .triggers = .error f) ↔ ¬ function.Whole) ∧
    ((∃ f, result .complete = .error f) ↔ commentFails ∨ ¬ function.Whole ∨ roleFails) ∧
    (comment.Whole → function.Whole → role.Whole →
      ∀ part f, result part = .error f → f = .nulInText) ∧
    ∀ part : ScriptPart, ((part.generate g).outcome s).2.journal.contexts = s.journal.contexts := by
  intro g result commentFails roleFails
  -- What fails is the constant of a setting, and that is a matter of the text alone.
  have hcomment : (∃ f, g.createStatements r.tables = .error f) ↔ commentFails := by
    simp only [Generator.createStatements_eq_error_iff, exists_and_right]
    exact and_congr_left fun _ => Constant.ofText_fails_iff
  have hrole : (∃ f, g.policyStatementsOf = .error f) ↔ roleFails := by
    simp only [Generator.policyStatementsOf_eq_error_iff, exists_and_right]
    exact and_congr_left fun _ => Constant.ofText_fails_iff
  have hfunction : (∃ f, g.stampFunction = .error f) ↔ ¬ function.Whole := Constant.written_fails_iff
  have htables (f : Sql.Fault) : result .tables = .error f ↔ g.createStatements r.tables = .error f :=
    Generator.tablesScript_eq_error_iff.trans Generator.createStatements_eq_error_iff.symm
  have hpolicies (f : Sql.Fault) : result .policies = .error f ↔ g.policyStatementsOf = .error f :=
    Generator.policiesScript_eq_error_iff.trans Generator.policyStatementsOf_eq_error_iff.symm
  have htriggers (f : Sql.Fault) : result .triggers = .error f ↔ g.stampFunction = .error f := by
    rw [← Generator.triggersScript_eq_error_iff, ← (Run.gives_liftExcept g.triggersScript s).1]
    rfl
  have hcomplete (f : Sql.Fault) : result .complete = .error f ↔ g.parts = .error f :=
    Generator.completeScript_eq_error_iff
  have hforeignKeys : result .foreignKeys = .ok g.foreignKeysScript :=
    (g.generateForeignKeysScript_gives s).1
  refine ⟨?_, ?_, ⟨_, hforeignKeys⟩, ?_, ?_, ?_, fun part => g.balanced_generate part s⟩
  · simp only [htables, hcomment]
  · simp only [hpolicies, hrole]
  · simp only [htriggers, hfunction]
  · simp only [hcomplete, Generator.parts_fails_iff]
    exact or_congr hcomment (or_congr hfunction hrole)
  · intro hcommentWhole hfunctionWhole hroleWhole part f hf
    have tables (h : g.createStatements r.tables = .error f) : f = .nulInText :=
      Constant.fault_of_whole hcommentWhole (Generator.createStatements_eq_error_iff.mp h).1
    have stamps (h : g.stampFunction = .error f) : f = .nulInText :=
      absurd hfunctionWhole (hfunction.mp ⟨f, h⟩)
    have policies (h : g.policyStatementsOf = .error f) : f = .nulInText :=
      Constant.fault_of_whole hroleWhole (Generator.policyStatementsOf_eq_error_iff.mp h).1
    cases part with
    | complete =>
        rcases Generator.parts_eq_error ((hcomplete f).mp hf) with h | h | h
        · exact tables h
        · exact stamps h
        · exact policies h
    | tables => exact tables ((htables f).mp hf)
    | foreignKeys =>
        rw [hforeignKeys] at hf
        cases hf
    | triggers => exact stamps ((htriggers f).mp hf)
    | policies => exact policies ((hpolicies f).mp hf)

/-- A NUL in the comment, and in nothing else, makes the tables fail that have an encrypted column; within an open
context that context stays open. -/
theorem nul_in_comment_fails_projects :
    let g : Generator := ⟨⟨[.projects]⟩, .ofTexts "l" "b" "a\x00b" "f" "r"⟩
    let s : Session := ⟨default, { time := default, contexts := [{ table := .text "outer" }] }⟩
    (g.tablesScript.outcome s).1 = .error .nulInText ∧ (g.tablesScript.outcome s).2.journal.contexts =
      [{ table := .text "outer" }] := by
  intro g s
  obtain ⟨tables, _, _, _, _, faults, contexts⟩ :=
    generation_fails_only_on_unwritable_texts ⟨[.projects]⟩ "l" "b" "a\x00b" "f" "r" s
  have hnul : Text.HasNul "a\x00b" := by decide
  have hencrypted : Table.projects.HasEncrypted := by decide
  obtain ⟨f, hf⟩ := tables.mpr ⟨.inl hnul, _, List.mem_singleton_self _, hencrypted⟩
  have hfault := faults (Text.whole_ofString _) (Text.whole_ofString _) (Text.whole_ofString _) .tables f hf
  exact ⟨hfault ▸ hf, contexts .tables⟩

/-- A byte that makes no character, in the variable for the name of the function, is no NUL; still the triggers fail,
and with them the complete script. -/
theorem stray_byte_fails_triggers :
    let env : Environment := [("DATASYNC_TRIGGER_FUNCTION", [.char 'f', .half 0x4ff])]
    let g : Generator := ⟨⟨[]⟩, .ofEnvironment env⟩
    (∀ v ∈ env, ¬ Text.HasNul v.2) ∧
      ((ScriptPart.triggers.generate g).outcome default).1 = .error (.unwritable ⟨1, [0x4ff]⟩) ∧
      ((ScriptPart.complete.generate g).outcome default).1 = .error (.unwritable ⟨1, [0x4ff]⟩) := by
  intro env g
  exact ⟨by decide, rfl, rfl⟩

end SchemaScript
