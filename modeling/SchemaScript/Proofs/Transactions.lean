/- # The complete script, read as statements

## What is proved

The text of the complete script, read as a database reads it, consists of the statements of the script and of
nothing else: `BEGIN`, the tables, their indexes, `COMMIT`, and so on through the four transactions.  Names are
identifiers here, and the labels and the role stay on one line, because they also stand in remarks.  The comment
on encrypted columns may be any text; one that cannot be written as a constant leaves no script at all.

## How

Two things are said about all pieces of the script, kind by kind: the statements have ordinary names (`IsPlain`),
and the remarks are single lines (`IsOneLine`).
-/
import SchemaScript.Proofs.Pieces
import SchemaScript.Proofs.Splitting

namespace SchemaScript

open Sql (Statement Constant)
open Lexing (NoBreak IsOrdinary IsPlain)

/-! ## Identifiers -/

/-- Letters of ASCII, digits and underscores, the first of them no digit. -/
def IsIdentifier (s : String) : Prop :=
  (s.toList.head?.any fun c => c.isAlpha || c == '_') = true ∧
    (s.toList.all fun c => c.isAlphanum || c == '_') = true

instance (s : String) : Decidable (IsIdentifier s) :=
  inferInstanceAs (Decidable ((s.toList.head?.any fun c => c.isAlpha || c == '_') = true ∧
    (s.toList.all fun c => c.isAlphanum || c == '_') = true))

/-- What is neither letter nor digit nor underscore does not stand in an identifier. -/
theorem IsIdentifier.ne {s : String} (h : IsIdentifier s) {c : Char} (hc : c ∈ s.toList) (d : Char)
    (hd : (d.isAlphanum || d == '_') = false) : c ≠ d := by
  rintro rfl
  rw [List.all_eq_true.mp h.2 c hc] at hd
  cases hd

theorem IsIdentifier.lacks {s : String} (h : IsIdentifier s) {stop : List Char}
    (hstop : (stop.any fun d => d.isAlphanum || d == '_') = false) : Lacks stop s := by
  intro c hc hmem
  exact h.ne hc c (Bool.eq_false_iff.mpr (List.any_eq_false.mp hstop c hmem)) rfl

theorem IsIdentifier.ordinary {s : String} (h : IsIdentifier s) : IsOrdinary s := by
  have hlacks : Lacks Lexing.special s := h.lacks (by decide)
  exact hlacks

theorem IsIdentifier.noBreak {s : String} (h : IsIdentifier s) : NoBreak s := by
  intro p hp
  obtain ⟨c, hc, rfl⟩ := List.mem_map.mp hp
  have hline := h.ne hc '\n' rfl
  have hreturn := h.ne hc '\r' rfl
  simp [Lexing.Mode.isLineBreak, hline, hreturn]

/-- All names of tables and columns are identifiers. -/
def Registry.HasIdentifiers (r : Registry) : Prop :=
  ∀ t ∈ r.tables, IsIdentifier t.name ∧ ∀ c ∈ t.columns, IsIdentifier c.name

instance (r : Registry) : Decidable r.HasIdentifiers :=
  inferInstanceAs (Decidable (∀ t ∈ r.tables, IsIdentifier t.name ∧
    ∀ c ∈ t.columns, IsIdentifier c.name))

theorem Registry.HasIdentifiers.table {r : Registry} (h : r.HasIdentifiers) {t : Table}
    (ht : t ∈ r.tables) : IsIdentifier t.name :=
  (h t ht).1

theorem Registry.HasIdentifiers.column {r : Registry} (h : r.HasIdentifiers) {t : Table}
    (ht : t ∈ r.tables) {c : Column} (hc : c ∈ t.relationalColumns) : IsIdentifier c.name :=
  (h t ht).2 c (Table.mem_relationalColumns.mp hc).1

/-- Settings with which every remark stays on its line: the function is an identifier, comment and role are
texts, and no label breaks a line. -/
structure Settings.Inline (σ : Settings) : Prop where
  schemaLabel : NoBreak σ.schemaLabel.plain
  backendLabel : NoBreak σ.backendLabel.plain
  comment : ∃ text : Text, σ.encryptedComment = .text text
  function : ∃ name : String, σ.triggerFunction = .text name ∧ IsIdentifier name
  role : ∃ role : Text, σ.authenticatedRole = .text role ∧ NoBreak role

/-! ## The names in the statements -/

namespace Generator

theorem ordinary_conventionalName {start table column : String} (hstart : IsOrdinary start)
    (htable : IsOrdinary table) (hcolumn : IsOrdinary column) :
    IsOrdinary (Statement.conventionalName start table column) :=
  (((hstart.append (by decide)).append htable).append (by decide)).append hcolumn

section Kinds

variable {g : Generator} (hr : g.registry.HasIdentifiers) (hs : g.settings.Inline)
include hr hs

omit hr in
theorem ordinary_stampFunction {function : String} (h : g.stampFunction = .ok function) :
    IsOrdinary function := by
  obtain ⟨name, hsetting, hname⟩ := hs.function
  cases h.symm.trans (stampFunction_ofString hsetting)
  exact hname.ordinary

theorem isPlainCheck_of_guard {t : Table} (ht : t ∈ g.registry.tables) (hcolumns : t.relationalColumns ≠ [])
    {check : Sql.Check} (h : Guard g.settings.authenticatedRole t check) :
    Lexing.IsPlainCheck check := by
  cases check with
  | owner column =>
      obtain ⟨c, hc, rfl⟩ := h.carries hcolumns
      exact (hr.column ht hc).ordinary
  | role constant =>
      obtain ⟨role, hrole, _⟩ := hs.role
      cases h with
      | role _ _ _ hconstant =>
          rw [hrole] at hconstant
          obtain ⟨s, hs, _, rfl⟩ := constant_ofValue_text hconstant
          exact ⟨s, hs, rfl⟩
  | raw condition => cases h

/-- All statements of the complete script have ordinary names. -/
theorem Emits.isPlain {s : Statement} (h : g.Emits s) : IsPlain s := by
  have table {t : Table} (ht : t ∈ g.registry.tables) : IsOrdinary t.name := (hr.table ht).ordinary
  have column {t : Table} {c : Column} (ht : t ∈ g.registry.tables) (hc : c ∈ t.relationalColumns) :
      IsOrdinary c.name := (hr.column ht hc).ordinary
  have trigger {t : Table} (ht : t ∈ g.registry.tables) : IsOrdinary (Statement.triggerName t.name) :=
    (IsOrdinary.append (by decide) (table ht)).append (by decide)
  cases h with
  | begin | commit => trivial
  | createTable ht =>
      refine ⟨table ht, fun d hd => ?_⟩
      obtain ⟨c, hc, rfl⟩ := List.mem_map.mp hd
      exact ⟨column ht hc, Lexing.ordinary_columnType _⟩
  | comment ht hc hconstant =>
      obtain ⟨comment, hcomment⟩ := hs.comment
      rw [hcomment] at hconstant
      obtain ⟨s, hs, _, rfl⟩ := constant_ofValue_text hconstant
      exact ⟨table ht, column ht hc, s, hs, rfl⟩
  | index ht hc =>
      exact ⟨ordinary_conventionalName (by decide) (table ht) (column ht hc), table ht, column ht hc⟩
  | foreignKey ht hc ht' hkey =>
      -- The key of a table is one of its columns.
      obtain ⟨k, hk, rfl⟩ := Table.wellFormed _ |>.key_mem _ hkey
      exact ⟨ordinary_conventionalName (by decide) (table ht) (column ht hc), table ht, column ht hc,
        table ht', ((hr _ ht').2 k hk).ordinary⟩
  | stampFunction hfunction => exact ordinary_stampFunction hs hfunction
  | dropTrigger ht => exact ⟨trigger ht, table ht⟩
  | createTrigger ht hfunction =>
      exact ⟨trigger ht, table ht, ordinary_stampFunction hs hfunction⟩
  | enableRowSecurity ht => exact table ht
  | createPolicy ht hcolumns hcommand hguard =>
      have hcommands : ∀ command ∈ Statement.policyCommands, IsOrdinary command := by decide
      exact ⟨table ht, hcommands _ hcommand, isPlainCheck_of_guard hr hs ht hcolumns hguard⟩

/-- All remarks of the complete script stay on one line. -/
theorem Remarks.noBreak {text : Text} (h : g.Remarks text) : NoBreak text := by
  cases h with
  | fixed htext =>
      have hfixed : ∀ text ∈ fixedRemarks, NoBreak text := by decide +kernel
      exact hfixed _ htext
  | complete => exact (NoBreak.append (by decide) hs.backendLabel).append (by decide)
  | tables =>
      exact ((NoBreak.append (by decide) hs.backendLabel).append (by decide)).append hs.schemaLabel
  | table ht => exact (NoBreak.append (by decide) (hr.table ht).noBreak).append (by decide)
  | trigger ht => exact NoBreak.append (by decide) (hr.table ht).noBreak
  | role =>
      obtain ⟨role, hrole, hbreak⟩ := hs.role
      rw [hrole]
      exact (NoBreak.append (by decide) hbreak).append (by decide)

theorem oneLine_completeScriptAt {time tablesTime : Instant} {script : Script}
    (h : g.completeScriptAt time tablesTime = .ok script) : ∀ p ∈ script, p.IsOneLine := by
  obtain ⟨body, rfl, hbody⟩ := completeScriptAt_pieces h
  have hrest : ∀ p ∈ body, p.IsOneLine := by
    intro p hp
    have hkind := hbody p hp
    cases p with
    | remark text => exact Remarks.noBreak hr hs hkind
    | stamp | blank | statement => trivial
  simp only [List.forall_mem_cons]
  exact ⟨Remarks.noBreak hr hs .complete, trivial, trivial, Remarks.noBreak hr hs .tables, trivial, hrest⟩

end Kinds

end Generator

/-! ## The script and its statements -/

/-- Whenever the complete script is given, reading its text as a database does gives the statements of its parts
in four transactions, and nothing else.  It is given where comment and role are strings without NUL.  A comment or a
role with a half, like the name of a function with one, cannot be written in a script: then there is none. -/
theorem complete_script_splits (g : Generator) (hnames : g.registry.HasIdentifiers)
    (hsettings : g.settings.Inline) :
    (∀ (session : Session) (script : Script), (g.completeScript.outcome session).1 = .ok script →
      ∃ p, g.parts = .ok p ∧
        Lexing.split script.text = some (p.statements.map fun s => .ofString s.sql)) ∧
    (g.settings.encryptedComment.IsNulFree → g.settings.authenticatedRole.IsNulFree →
      ∀ session, ∃ script, (g.completeScript.outcome session).1 = .ok script) := by
  constructor
  · intro session script h
    obtain ⟨p, hp, hstatements⟩ := Generator.completeScript_eq_ok h
    rw [g.outcome_completeScript session] at h
    have hplain : ∀ s ∈ p.statements, IsPlain s := fun s hs =>
      (Generator.emits_parts hp s hs).isPlain hnames hsettings
    have hline := Generator.oneLine_completeScriptAt hnames hsettings h
    refine ⟨p, hp, ?_⟩
    rw [← hstatements] at hplain ⊢
    refine split_text fun piece hpiece => ?_
    cases piece with
    | statement s => exact hplain s (List.mem_filterMap.mpr ⟨_, hpiece, rfl⟩)
    | remark text => exact hline _ hpiece
    | stamp time => trivial
    | blank => trivial
  · intro hcomment hrole session
    obtain ⟨name, hname, _⟩ := hsettings.function
    exact Generator.completeScript_ok ⟨hcomment, hrole, name, hname⟩ session

/-- Settings with everything in them that could end a statement or a constant early. -/
def Settings.hostile : Settings where
  schemaLabel := .text "all'; -- $$ \""
  backendLabel := .text "E'\\'; $$"
  encryptedComment := .text "can't; \\'; -- $$ \" \n COMMIT;"
  authenticatedRole := .text "o'brien\\'; -- $$"

/-- Tags, which nobody owns. -/
def Table.tags : Table where
  name := "tags"
  columns := [everywhere "tag_id" .uuid, everywhere "label" .text]
  primaryKey := some "tag_id"

/-- Comments on the projects and policies of the tags say what the settings say, and no statement is torn
apart. -/
theorem hostile_settings_split :
    ∃ script p,
      ((Generator.completeScript ⟨⟨[.projects, .tags]⟩, .hostile⟩).outcome default).1 = .ok script ∧
      Generator.parts ⟨⟨[.projects, .tags]⟩, .hostile⟩ = .ok p ∧
      Lexing.split script.text = some (p.statements.map fun s => .ofString s.sql) := by
  have hnames : (⟨[.projects, .tags]⟩ : Registry).HasIdentifiers := by decide
  have hsettings : Settings.hostile.Inline :=
    ⟨by decide, by decide, ⟨_, rfl⟩, ⟨_, rfl, by decide⟩, ⟨_, rfl, by decide⟩⟩
  obtain ⟨splits, given⟩ := complete_script_splits ⟨⟨[.projects, .tags]⟩, .hostile⟩ hnames hsettings
  obtain ⟨script, hscript⟩ := given ⟨_, rfl, by decide⟩ ⟨_, rfl, by decide⟩ default
  obtain ⟨p, hp, hsplit⟩ := splits default script hscript
  exact ⟨script, p, hscript, hp, hsplit⟩

end SchemaScript
