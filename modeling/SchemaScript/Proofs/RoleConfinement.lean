/-
# What a role can change

## What is proved

The role that stands in where nobody owns a row is written in two places of the policies script: in a remark, as it is,
and in the check of a policy, as a constant.  Take two roles, each on one line, and everything else the same.  Then the
two scripts say the same: without their comments, and with a placeholder for the constants that the role of the caller is
compared with, their texts are equal.  A database reads each of them as its own statements and nothing else, and these
are the same statements but for the role.  What else is in a role, quotes, backslashes or dashes, does not matter.

A role that breaks its line gets out of the remark, and can add any statement to the script (`line_break_adds_statement`).
Only where no table falls back to a role this cannot happen, for then the role is not written at all.

## How

Both scripts are made at once, piece beside piece (`SameButRole`).  From one beginning of a line the eraser keeps the same
of both pieces; this is carried along the scripts by induction.
-/
import SchemaScript.Proofs.Erasing
import SchemaScript.Proofs.Faults
import SchemaScript.Proofs.Transactions

namespace SchemaScript

open Sql (Statement Check Constant)
open Text (ofString)
open Lexing (Eraser NoBreak IsOrdinary IsPlain erase)

/-! ## What is kept of a piece -/

namespace Piece

theorem text_statement (s : Statement) : (Piece.statement s).text = ofString (s.sql ++ ";\n") := by
  rw [Text.ofString_append]
  rfl

theorem read_remark {text : Text} (h : NoBreak text) (kept : Text) :
    ({ kept } : Eraser).read (Piece.remark text).text = { kept := kept ++ ofString "\n" } :=
  Eraser.read_remark (NoBreak.append (show NoBreak (ofString " ") by decide) h) kept

theorem read_statement {s : Statement} (hplain : IsPlain s) (hquote : Lacks ['\x27'] s.sql) (kept : Text) :
    ({ kept } : Eraser).read (Piece.statement s).text = { kept := kept ++ ofString (s.sql ++ ";\n") } := by
  rw [text_statement]
  exact Eraser.read_statement (Lexing.passes_sql hplain) hquote kept

end Piece

/-! ## Pieces beside each other -/

/-- The statement with a placeholder for the role. -/
def Sql.Statement.withoutRole : Statement → Statement
  | .createPolicy table command (.role _) => .createPolicy table command (.raw (Lexing.comparison ++ Lexing.placeholder))
  | s => s

/-- The two pieces are remarks, or they are the same but for the role that they are about. -/
inductive Piece.SameButRole : Piece → Piece → Prop
  | blank : SameButRole .blank .blank
  | remark {text text' : Text} : NoBreak text → NoBreak text' → SameButRole (.remark text) (.remark text')
  | statement {s : Statement} : IsPlain s → Lacks ['\x27'] s.sql → SameButRole (.statement s) (.statement s)
  | policy {table command role role' : String} {h : Sql.holdsNul role = false} {h' : Sql.holdsNul role' = false} :
      IsOrdinary table → command ∈ Statement.policyCommands →
      SameButRole (.statement (.createPolicy table command (.role (.text role h))))
        (.statement (.createPolicy table command (.role (.text role' h'))))

namespace Piece.SameButRole

variable {p p' : Piece} (h : SameButRole p p')
include h

theorem readable : p.IsReadable ∧ p'.IsReadable := by
  cases h with
  | blank => exact ⟨trivial, trivial⟩
  | remark htext htext' => exact ⟨htext, htext'⟩
  | statement hplain => exact ⟨hplain, hplain⟩
  | policy htable hcommand =>
      have hcommand := Lexing.ordinary_command hcommand
      exact ⟨⟨htable, hcommand, _, _, rfl⟩, ⟨htable, hcommand, _, _, rfl⟩⟩

theorem statement? : p.statement?.map Statement.withoutRole = p'.statement?.map Statement.withoutRole := by
  cases h with
  | blank | remark | statement | policy => rfl

/-- From the beginning of a line, the eraser comes from either piece to the beginning of a line, and what it keeps of them
is the same text, whatever was kept before. -/
theorem read : ∃ added : Text, ∀ kept : Text,
    ({ kept } : Eraser).read p.text = { kept := kept ++ added } ∧
      ({ kept } : Eraser).read p'.text = { kept := kept ++ added } := by
  cases h with
  | blank => exact ⟨_, fun kept => ⟨Eraser.read_newline kept, Eraser.read_newline kept⟩⟩
  | remark htext htext' => exact ⟨_, fun kept => ⟨read_remark htext kept, read_remark htext' kept⟩⟩
  | statement hplain hquote =>
      exact ⟨_, fun kept => ⟨read_statement hplain hquote kept, read_statement hplain hquote kept⟩⟩
  | policy htable hcommand =>
      rw [text_statement, text_statement]
      have hread := Eraser.read_rolePolicy htable hcommand
      exact ⟨_, fun kept => ⟨hread _ _ kept, hread _ _ kept⟩⟩

end Piece.SameButRole

namespace Script

variable {script script' : Script} (h : List.Forall₂ Piece.SameButRole script script')
include h

theorem read_sameButRole : ∃ added : Text, ∀ kept : Text,
    ({ kept } : Eraser).read script.text = { kept := kept ++ added } ∧
      ({ kept } : Eraser).read script'.text = { kept := kept ++ added } := by
  induction h with
  | nil =>
      refine ⟨[], fun kept => ?_⟩
      rw [List.append_nil]
      exact ⟨rfl, rfl⟩
  | cons hpiece _ ih =>
      obtain ⟨first, hfirst⟩ := hpiece.read
      obtain ⟨rest, hrest⟩ := ih
      refine ⟨first ++ rest, fun kept => ⟨?_, ?_⟩⟩
      · rw [text_cons, Eraser.read_append, (hfirst kept).1, (hrest _).1, List.append_assoc]
      · rw [text_cons, Eraser.read_append, (hfirst kept).2, (hrest _).2, List.append_assoc]

omit h in
theorem erase_of_read {kept : Text} (hread : ({} : Eraser).read script.text = { kept }) : erase script.text = kept := by
  rw [erase, hread]
  exact List.append_nil kept

theorem erase_sameButRole : erase script.text = erase script'.text := by
  obtain ⟨added, hread⟩ := read_sameButRole h
  exact (erase_of_read (hread []).1).trans (erase_of_read (hread []).2).symm

theorem withoutRole_sameButRole :
    script.statements.map Statement.withoutRole = script'.statements.map Statement.withoutRole := by
  simp only [statements, List.map_filterMap]
  induction h with
  | nil => rfl
  | cons hpiece _ ih => rw [List.filterMap_cons, List.filterMap_cons, hpiece.statement?, ih]

/-- Both scripts are split into their statements. -/
theorem split_sameButRole :
    Lexing.split script.text = some (script.statements.map fun s => ofString s.sql) ∧
      Lexing.split script'.text = some (script'.statements.map fun s => ofString s.sql) := by
  have readable : (∀ p ∈ script, p.IsReadable) ∧ ∀ p ∈ script', p.IsReadable := by
    induction h with
    | nil => exact ⟨fun _ hp => absurd hp List.not_mem_nil, fun _ hp => absurd hp List.not_mem_nil⟩
    | cons hpiece _ ih =>
        exact ⟨List.forall_mem_cons.mpr ⟨hpiece.readable.1, ih.1⟩, List.forall_mem_cons.mpr ⟨hpiece.readable.2, ih.2⟩⟩
  exact ⟨split_text readable.1, split_text readable.2⟩

end Script

/-! ## Scripts beside each other -/

/-- The settings with another role. -/
def Settings.withRole (σ : Settings) (role : Text) : Settings := { σ with authenticatedRole := .text role }

namespace Generator

open Piece (SameButRole)

theorem lacks_enableRowSecurity {table : String} (htable : IsOrdinary table) :
    Lacks ['\x27'] (Statement.enableRowSecurity table).sql :=
  (Lacks.append (by decide) htable.lacks_quote).append (by decide)

theorem lacks_ownerPolicy {table command column : String} (htable : IsOrdinary table)
    (hcommand : command ∈ Statement.policyCommands) (hcolumn : IsOrdinary column) :
    Lacks ['\x27'] (Statement.createPolicy table command (.owner column)).sql := by
  rw [Lexing.sql_createPolicy]
  have hcheck : Lacks ['\x27'] (Check.owner column).sql :=
    (Lacks.append (by decide) hcolumn.lacks_quote).append (by decide)
  exact ((Lexing.lacks_policyHead htable hcommand).append hcheck).append (by decide)

theorem noBreak_roleRemark {text : Text} (h : NoBreak text) : NoBreak ("Default policies for " ++ text) :=
  NoBreak.append (by decide +kernel) h

theorem noBreak_title : NoBreak "Setup Row Level Security policies" := by decide +kernel

theorem sameButRole_begin : SameButRole (.statement .begin) (.statement .begin) := .statement trivial (by decide)

theorem sameButRole_commit : SameButRole (.statement .commit) (.statement .commit) := .statement trivial (by decide)

theorem sameButRole_policies {table : String} {check check' : Check} (h : ∀ command ∈ Statement.policyCommands,
      SameButRole (.statement (.createPolicy table command check)) (.statement (.createPolicy table command check'))) :
    List.Forall₂ SameButRole (Script.spaced (Statement.policies table check))
      (Script.spaced (Statement.policies table check')) := by
  simp only [Script.spaced, Statement.policies, List.flatMap_map]
  generalize Statement.policyCommands = commands at h
  induction commands with
  | nil => exact .nil
  | cons command commands ih =>
      obtain ⟨hfirst, hrest⟩ := List.forall_mem_cons.mp h
      exact .cons hfirst (.cons .blank (ih hrest))

/-- The parts for a table are alike if its name is ordinary, the remarks stay on their lines, and the policies are alike. -/
theorem sameButRole_securityScript {t : Table} {p p' : PolicySelection} (htable : IsOrdinary t.name)
    (hcomment : NoBreak p.comment) (hcomment' : NoBreak p'.comment)
    (hpolicy : ∀ command ∈ Statement.policyCommands,
      SameButRole (.statement (.createPolicy t.name command p.check)) (.statement (.createPolicy t.name command p'.check))) :
    List.Forall₂ SameButRole (securityScript t p) (securityScript t p') :=
  .cons (.statement htable (lacks_enableRowSecurity htable))
    (.cons (.remark hcomment hcomment') (sameButRole_policies hpolicy))

section TwoRoles

variable {r : Registry} (hr : r.HasIdentifiers) (σ : Settings) {role role' : Text}
  (hlines : (∃ t ∈ r.tables, t.FallsToRole) → NoBreak role ∧ NoBreak role')
include hr hlines

theorem sameButRole_selection {t : Table} (ht : t ∈ r.tables) (hcolumns : t.relationalColumns ≠ [])
    {p p' : PolicySelection} (hp : (PolicyBasis.ofTable t t.relationalColumns).selection (.text role) = .ok p)
    (hp' : (PolicyBasis.ofTable t t.relationalColumns).selection (.text role') = .ok p') :
    List.Forall₂ SameButRole (securityScript t p) (securityScript t p') := by
  have htable : IsOrdinary t.name := (hr.table ht).ordinary
  have owned {comment : Text} {rule : PolicyRule} {column : String} (hcomment : NoBreak comment)
      (hcarries : t.Carries column) :
      List.Forall₂ SameButRole (securityScript t ⟨rule, comment, .owner column, some column⟩)
        (securityScript t ⟨rule, comment, .owner column, some column⟩) := by
    obtain ⟨c, hc, rfl⟩ := hcarries
    have hcolumn : IsOrdinary c.name := (hr.column ht hc).ordinary
    exact sameButRole_securityScript htable hcomment hcomment fun command hcommand =>
      .statement ⟨htable, Lexing.ordinary_command hcommand, hcolumn⟩ (lacks_ownerPolicy htable hcommand hcolumn)
  rcases PolicyBasis.ofTable_cases t with ⟨key, _, hkey, hbasis⟩ | ⟨_, huser, hbasis⟩ | ⟨_, _, howner, hbasis⟩ |
    ⟨hnot, hnone, hnone', hbasis⟩
  all_goals rw [hbasis] at hp hp'
  · cases hp
    cases hp'
    exact owned (by decide +kernel) (Table.key_mem_relationalColumns hkey hcolumns)
  · cases hp
    cases hp'
    exact owned (by decide +kernel) huser
  · cases hp
    cases hp'
    exact owned (by decide +kernel) howner
  · -- Only here the role is written.
    obtain ⟨hrole, hrole'⟩ := hlines ⟨t, ht, Table.fallsToRole_iff.mpr ⟨hcolumns, hnot, hnone, hnone'⟩⟩
    obtain ⟨constant, hconstant, hp⟩ := bind_eq_ok_iff.mp hp
    obtain ⟨constant', hconstant', hp'⟩ := bind_eq_ok_iff.mp hp'
    cases hp
    cases hp'
    obtain ⟨s, hs, _, rfl⟩ := constant_ofValue_text hconstant
    obtain ⟨s', hs', _, rfl⟩ := constant_ofValue_text hconstant'
    exact sameButRole_securityScript htable ((noBreak_roleRemark hrole).append (by decide))
      ((noBreak_roleRemark hrole').append (by decide)) fun _ hcommand => .policy htable hcommand

theorem sameButRole_policyPart {t : Table} (ht : t ∈ r.tables) {part part' : Script}
    (h : policyPart ⟨r, σ.withRole role⟩ t = .ok part) (h' : policyPart ⟨r, σ.withRole role'⟩ t = .ok part') :
    List.Forall₂ SameButRole part part' := by
  rcases policyPart_eq_ok h with ⟨hempty, rfl⟩ | ⟨hcolumns, p, hp, rfl⟩
  · rcases policyPart_eq_ok h' with ⟨_, rfl⟩ | ⟨hcolumns, _⟩
    · exact .nil
    · exact absurd hempty hcolumns
  · rcases policyPart_eq_ok h' with ⟨hempty, _⟩ | ⟨_, p', hp', rfl⟩
    · exact absurd hempty hcolumns
    · exact sameButRole_selection hr hlines ht hcolumns hp hp'

theorem sameButRole_parts {tables : List Table} (htables : ∀ t ∈ tables, t ∈ r.tables) {parts parts' : List Script}
    (h : tables.mapM (policyPart ⟨r, σ.withRole role⟩) = .ok parts)
    (h' : tables.mapM (policyPart ⟨r, σ.withRole role'⟩) = .ok parts') :
    List.Forall₂ SameButRole parts.flatten parts'.flatten := by
  induction tables generalizing parts parts' with
  | nil =>
      cases h
      cases h'
      exact .nil
  | cons t ts ih =>
      rw [List.mapM_cons] at h h'
      obtain ⟨part, hpart, h⟩ := bind_eq_ok_iff.mp h
      obtain ⟨rest, hrest, h⟩ := bind_eq_ok_iff.mp h
      obtain ⟨part', hpart', h'⟩ := bind_eq_ok_iff.mp h'
      obtain ⟨rest', hrest', h'⟩ := bind_eq_ok_iff.mp h'
      cases h
      cases h'
      obtain ⟨ht, hts⟩ := List.forall_mem_cons.mp htables
      rw [List.flatten_cons, List.flatten_cons]
      exact List.rel_append (sameButRole_policyPart hr σ hlines ht hpart hpart') (ih hts hrest hrest')

theorem sameButRole_policiesScript {s s' : Session} {script script' : Script}
    (h : ((policiesScript ⟨r, σ.withRole role⟩).outcome s).1 = .ok script)
    (h' : ((policiesScript ⟨r, σ.withRole role'⟩).outcome s').1 = .ok script') :
    List.Forall₂ SameButRole script script' := by
  rw [(policiesScript_gives _ s).1] at h
  rw [(policiesScript_gives _ s').1] at h'
  obtain ⟨parts, hparts, h⟩ := bind_eq_ok_iff.mp h
  obtain ⟨parts', hparts', h'⟩ := bind_eq_ok_iff.mp h'
  cases h
  cases h'
  refine List.rel_append (List.rel_append ?_ (sameButRole_parts hr σ hlines (fun _ ht => ht) hparts hparts')) ?_
  · exact .cons (.remark noBreak_title noBreak_title) (.cons sameButRole_begin (.cons .blank .nil))
  · exact .cons sameButRole_commit .nil

end TwoRoles

end Generator

/-! ## The role stays where it is -/

/-- Take two roles for one registry of identifiers, each on one line if any table falls back to it.  Without comments, and with
placeholders for the constants that the role is compared with, the two policies scripts are one text.  Each is split into
its own statements, and these are the same but for the role.  A script is given for every role without NUL. -/
theorem role_stays_in_constant_and_remark {r : Registry} (hr : r.HasIdentifiers) (σ : Settings) {role role' : Text}
    (hlines : (∃ t ∈ r.tables, t.FallsToRole) → NoBreak role ∧ NoBreak role') :
    (∀ (s s' : Session) (script script' : Script),
      ((Generator.policiesScript ⟨r, σ.withRole role⟩).outcome s).1 = .ok script →
      ((Generator.policiesScript ⟨r, σ.withRole role'⟩).outcome s').1 = .ok script' →
      erase script.text = erase script'.text ∧
      Lexing.split script.text = some (script.statements.map fun s => ofString s.sql) ∧
      Lexing.split script'.text = some (script'.statements.map fun s => ofString s.sql) ∧
      script.statements.map Statement.withoutRole = script'.statements.map Statement.withoutRole) ∧
    (Value.IsNulFree (.text role) → ∀ s : Session,
      ∃ script, ((Generator.policiesScript ⟨r, σ.withRole role⟩).outcome s).1 = .ok script) := by
  refine ⟨fun s s' script script' h h' => ?_, fun hrole s => Generator.policiesScript_ok hrole s⟩
  have halike := Generator.sameButRole_policiesScript hr σ hlines h h'
  obtain ⟨hsplit, hsplit'⟩ := Script.split_sameButRole halike
  exact ⟨Script.erase_sameButRole halike, hsplit, hsplit', Script.withoutRole_sameButRole halike⟩

/-- Quotes, backslashes and dashes stay inside, in remark and constant. -/
theorem hostile_role_stays_inside :
    ∃ script script',
      ((Generator.policiesScript ⟨⟨[.projects, .tags]⟩, Settings.withRole {} "editor"⟩).outcome default).1 =
        .ok script ∧
      ((Generator.policiesScript ⟨⟨[.projects, .tags]⟩, Settings.withRole {} "E'\\'); DROP TABLE tags; --"⟩).outcome
        default).1 = .ok script' ∧
      erase script.text = erase script'.text := by
  have hr : (⟨[.projects, .tags]⟩ : Registry).HasIdentifiers := by decide
  have hplain : NoBreak "editor" := by decide
  have hhostile : NoBreak "E'\\'); DROP TABLE tags; --" := by decide
  obtain ⟨same, given⟩ := role_stays_in_constant_and_remark hr {} fun _ => ⟨hplain, hhostile⟩
  obtain ⟨_, given'⟩ := role_stays_in_constant_and_remark hr {} fun _ => ⟨hhostile, hplain⟩
  obtain ⟨script, hscript⟩ := given ⟨_, rfl, by decide⟩ default
  obtain ⟨script', hscript'⟩ := given' ⟨_, rfl, by decide⟩ default
  exact ⟨script, script', hscript, hscript', (same default default script script' hscript hscript').1⟩

/-! ## Roles that break their line -/

/-- The remark about the role of a policy. -/
def Piece.roleRemark (role : String) : Piece := .remark ("Default policies for " ++ ofString role ++ " users")

/-- A role that ends the remark and goes on with a statement. -/
def breakingRole (line : String) (s : Statement) : String := line ++ "\n" ++ s.sql ++ ";\n--"

/-- What the remark about such a role comes to. -/
def Script.brokenRemark (line : String) (s : Statement) : Script :=
  [.remark ("Default policies for " ++ ofString line), .statement s, .remark "users"]

theorem text_breakingRole (line : String) (s : Statement) :
    (Piece.roleRemark (breakingRole line s)).text = (Script.brokenRemark line s).text := by
  have hend : ofString ";\n--" ++ ofString " users" ++ ofString "\n" =
      ofString ";\n" ++ (ofString "-- " ++ ofString "users" ++ ofString "\n") := by decide
  simp only [Piece.roleRemark, breakingRole, Script.brokenRemark, Piece.text, Script.text_cons, Script.text_nil,
    Text.ofString_append, List.append_assoc, List.append_nil] at hend ⊢
  rw [hend]

namespace Generator

open Piece (SameButRole)

/-- The policies script of one table up to the remark about the role. -/
def roleOpening (t : Table) : Script :=
  [.remark "Setup Row Level Security policies", .statement .begin, .blank, .statement (.enableRowSecurity t.name)]

/-- The policies script after that remark. -/
def roleClosing (t : Table) (constant : Constant) : Script :=
  Script.spaced (Statement.policies t.name (.role constant)) ++ [.statement .commit]

section OneTable

variable {t : Table}

theorem policiesScript_of_fallsToRole (ht : t.FallsToRole) (σ : Settings) {role : String}
    (hrole : Sql.holdsNul role = false) (s : Session) :
    ((policiesScript ⟨⟨[t]⟩, σ.withRole role⟩).outcome s).1 =
      .ok (roleOpening t ++ .roleRemark role :: roleClosing t (.text role hrole)) := by
  have hconstant : Constant.ofValue (.text (ofString role)) = .ok (.text role hrole) :=
    bind_eq_ok_iff.mpr ⟨role, written_eq_ok_iff.mpr rfl, dif_pos hrole⟩
  let p : PolicySelection := ⟨.authenticated, "Default policies for " ++ ofString role ++ " users",
    .role (.text role hrole), none⟩
  have hselected : policy? ⟨⟨[t]⟩, σ.withRole role⟩ t = .ok (some p) := by
    rw [policy?, List.isEmpty_eq_false_iff.mpr ht.1, ht.basis]
    exact bind_eq_ok_iff.mpr ⟨p, bind_eq_ok_iff.mpr ⟨_, hconstant, rfl⟩, rfl⟩
  have hpart : policyPart ⟨⟨[t]⟩, σ.withRole role⟩ t = .ok (securityScript t p) := by
    rw [policyPart_eq, hselected]
    rfl
  have hparts : [t].mapM (policyPart ⟨⟨[t]⟩, σ.withRole role⟩) = .ok [securityScript t p] := by
    rw [List.mapM_cons, hpart, List.mapM_nil]
    rfl
  rw [(policiesScript_gives _ s).1]
  exact bind_eq_ok_iff.mpr ⟨[securityScript t p], hparts, rfl⟩

variable (hname : IsOrdinary t.name)
include hname

theorem sameButRole_roleOpening : List.Forall₂ SameButRole (roleOpening t) (roleOpening t) :=
  .cons (.remark noBreak_title noBreak_title) (.cons sameButRole_begin (.cons .blank
    (.cons (.statement hname (lacks_enableRowSecurity hname)) .nil)))

theorem sameButRole_roleClosing {role role' : String} (h : Sql.holdsNul role = false)
    (h' : Sql.holdsNul role' = false) :
    List.Forall₂ SameButRole (roleClosing t (.text role h)) (roleClosing t (.text role' h')) :=
  List.rel_append (sameButRole_policies fun _ hcommand => .policy hname hcommand) (.cons sameButRole_commit .nil)

variable {line : String} (hline : NoBreak (ofString line)) {added : Statement} (hplain : IsPlain added)
  (hquote : Lacks ['\x27'] added.sql)
include hline hplain hquote

/-- A statement more is kept. -/
theorem erase_brokenRemark {role role' : String} (hrole : Sql.holdsNul role = false)
    (hrole' : Sql.holdsNul role' = false) (hbreak : NoBreak (ofString role)) :
    erase (Script.text (roleOpening t ++ .roleRemark role :: roleClosing t (.text role hrole))) ≠
      erase (Script.text (roleOpening t ++ (Script.brokenRemark line added ++ roleClosing t (.text role' hrole')))) := by
  obtain ⟨before, hbefore⟩ := Script.read_sameButRole (sameButRole_roleOpening hname)
  obtain ⟨after, hafter⟩ := Script.read_sameButRole (sameButRole_roleClosing hname hrole hrole')
  have hremark : NoBreak ("Default policies for " ++ ofString role ++ " users") :=
    (noBreak_roleRemark hbreak).append (by decide)
  have hwhole : erase (Script.text (roleOpening t ++ .roleRemark role :: roleClosing t (.text role hrole))) =
      before ++ ofString "\n" ++ after := by
    refine Script.erase_of_read ?_
    rw [Script.text_append, Script.text_cons, Eraser.read_append, Eraser.read_append, (hbefore []).1,
      Piece.roleRemark, Piece.read_remark hremark, (hafter _).1]
    rfl
  have hbroken : erase (Script.text
      (roleOpening t ++ (Script.brokenRemark line added ++ roleClosing t (.text role' hrole')))) =
      before ++ ofString "\n" ++ ofString (added.sql ++ ";\n") ++ ofString "\n" ++ after := by
    refine Script.erase_of_read ?_
    simp only [Script.brokenRemark, Script.text_append, Script.text_cons, Script.text_nil, Eraser.read_append,
      List.append_nil]
    rw [(hbefore []).1, Piece.read_remark (noBreak_roleRemark hline), Piece.read_statement hplain hquote,
      Piece.read_remark (show NoBreak "users" by decide), (hafter _).2]
    rfl
  rw [hwhole, hbroken]
  intro h
  have hlength := congrArg List.length h
  simp only [List.length_append] at hlength
  have hnewline : (ofString "\n").length = 1 := rfl
  omega

/-- The database reads the statement between those before and after. -/
theorem split_brokenRemark {role : String} (hrole : Sql.holdsNul role = false) :
    Lexing.split (Script.text
        (roleOpening t ++ (Script.brokenRemark line added ++ roleClosing t (.text role hrole)))) =
      some (((roleOpening t).statements ++ added :: (roleClosing t (.text role hrole)).statements).map
        fun s => ofString s.sql) := by
  have husers : NoBreak "users" := by decide
  have hbroken : List.Forall₂ SameButRole (Script.brokenRemark line added) (Script.brokenRemark line added) :=
    .cons (.remark (noBreak_roleRemark hline) (noBreak_roleRemark hline)) (.cons (.statement hplain hquote)
      (.cons (.remark husers husers) .nil))
  have halike := List.rel_append (sameButRole_roleOpening hname)
    (List.rel_append hbroken (sameButRole_roleClosing hname hrole hrole))
  rw [(Script.split_sameButRole halike).1, Script.statements_append, Script.statements_append]
  rfl

end OneTable

end Generator

/-- A statement is added wherever the role that a table falls back to breaks its line for it: the database reads it among
the others, and the text is another one than with any role on one line. -/
theorem line_break_adds_statement {t : Table} (ht : t.FallsToRole) (hname : IsOrdinary t.name) (σ : Settings)
    (line : String) (hline : NoBreak (ofString line)) (added : Statement) (hplain : IsPlain added)
    (hquote : Lacks ['\x27'] added.sql) (hnul : Sql.holdsNul (breakingRole line added) = false)
    (role : String) (hrole : Sql.holdsNul role = false) (hbreak : NoBreak (ofString role)) (s : Session) :
    ∃ script script',
      ((Generator.policiesScript ⟨⟨[t]⟩, σ.withRole role⟩).outcome s).1 = .ok script ∧
      ((Generator.policiesScript ⟨⟨[t]⟩, σ.withRole (breakingRole line added)⟩).outcome s).1 = .ok script' ∧
      erase script.text ≠ erase script'.text ∧
      ∃ before after, script'.statements = before ++ after ∧
        Lexing.split script'.text = some ((before ++ added :: after).map fun s => ofString s.sql) := by
  let closing : Script := Generator.roleClosing t (.text _ hnul)
  have htext : Script.text (Generator.roleOpening t ++ .roleRemark (breakingRole line added) :: closing) =
      Script.text (Generator.roleOpening t ++ (Script.brokenRemark line added ++ closing)) := by
    rw [Script.text_append, Script.text_cons, text_breakingRole, Script.text_append, Script.text_append]
  refine ⟨_, _, Generator.policiesScript_of_fallsToRole ht σ hrole s,
    Generator.policiesScript_of_fallsToRole ht σ hnul s, ?_, (Generator.roleOpening t).statements,
    closing.statements, Script.statements_append _ _, ?_⟩
  · rw [htext]
    exact Generator.erase_brokenRemark hname hline hplain hquote hrole hnul hbreak
  · rw [htext]
    exact Generator.split_brokenRemark hname hline hplain hquote hnul

/-- A role that commits the transaction before there are any policies. -/
theorem broken_role_commits_early :
    (⟨[.tags]⟩ : Registry).HasIdentifiers ∧ ∃ script script' ss,
      ((Generator.policiesScript ⟨⟨[.tags]⟩, Settings.withRole {} "editor"⟩).outcome default).1 = .ok script ∧
      ((Generator.policiesScript ⟨⟨[.tags]⟩, Settings.withRole {} "x\nCOMMIT;\n--"⟩).outcome default).1 = .ok script' ∧
      erase script.text ≠ erase script'.text ∧
      Lexing.split script'.text = some ss ∧ ss.length = script'.statements.length + 1 := by
  obtain ⟨script, script', hscript, hscript', hdiffer, before, after, hstatements, hsplit⟩ :=
    line_break_adds_statement (show Table.tags.FallsToRole by decide) (by decide) {} "x" (by decide) .commit trivial
      (by decide) (by decide) "editor" (by decide) (by decide) default
  refine ⟨by decide, script, script', _, hscript, hscript', hdiffer, hsplit, ?_⟩
  rw [hstatements, List.length_map, List.length_append, List.length_append, List.length_cons]
  rfl

end SchemaScript
