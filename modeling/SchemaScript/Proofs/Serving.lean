/-
# What a service with a generator answers

## What is proved

An answer at an endpoint for tables or scripts is a report, a notice that a table is not registered, or a script
(`Serves`).  In none of these cases is it the answer of a service without a generator.  Neither the log nor the clock
shows in it but for the stamps of a script, not even in whether it can be sent.  No answer leaves a context of the log
open.  With settings that are strings without NUL, and without half a pair in the path, every request is answered.

## How

Each endpoint puts one thing into an answer after a single step that may fail, so what it gives is that step, seen through
a function (`Run.outcome_bind_pure`).  A stamp has no half in it, so a script can be sent exactly if it can without its
stamps, and that is the same script at any two times.
-/
import SchemaScript.Proofs.Answers
import SchemaScript.Proofs.Stamps
import SchemaScript.Server

namespace SchemaScript

open Text (ofString)

/-! ## Texts that can be sent -/

namespace Script

theorem whole_text_iff {script : Script} : script.text.Whole ↔ ∀ p ∈ script, p.text.Whole :=
  Text.whole_flatMap_iff

theorem whole_stamp (time : Instant) : (Piece.stamp time).text.Whole := by
  simp only [Piece.text, Text.whole_append_iff]
  exact ⟨⟨Text.whole_ofString _, Text.whole_ofString _⟩, Text.whole_ofString _⟩

/-- The stamps do not decide whether a script can be sent. -/
theorem whole_unstamped_iff {script : Script} : script.unstamped.text.Whole ↔ script.text.Whole := by
  rw [whole_text_iff, whole_text_iff]
  constructor
  · intro h p hp
    cases p with
    | stamp time => exact whole_stamp time
    | remark | blank | statement => exact h _ (List.mem_filter.mpr ⟨hp, rfl⟩)
  · intro h p hp
    exact h p (List.mem_filter.mp hp).1

end Script

theorem Body.faultOfText?_eq_none_iff {t : Text} : faultOfText? t = none ↔ t.Whole := by
  rw [Text.whole_iff]
  simp only [faultOfText?, ← Text.written_eq_ok_iff]
  cases t.written with
  | ok s => exact ⟨fun _ => ⟨s, rfl⟩, fun _ => rfl⟩
  | error halves => exact ⟨fun h => (by cases h), fun h => (by obtain ⟨s, hs⟩ := h; cases hs)⟩

/-! ## Answers without stamps -/

/-- A body without the stamps of its script. -/
def Body.unstamped : Body → Body
  | .text t => .text (dropStamps t)
  | body => body

/-- An answer without the stamps of its script. -/
def Response.unstamped (r : Response) : Response := { r with body := r.body.unstamped }

/-- What becomes of a request, without stamps; where in an answer the halves are that keep it from being sent is not told. -/
def Answer.unstamped (answer : Answer) : Except Sql.Fault (Option Response) :=
  answer.map fun sent => sent.toOption.map Response.unstamped

theorem Response.unstamped_sent_text (script : Script) :
    (text script.text).sent.toOption.map unstamped =
      if script.unstamped.text.Whole then some (text (dropStamps script.unstamped.text)) else none := by
  rw [← script.dropStamps_text]
  by_cases hwhole : script.text.Whole
  · have hsent : (text script.text).sent = .ok (text script.text) := by
      simp only [sent, text, Body.fault?, Body.faultOfText?_eq_none_iff.mpr hwhole]
    rw [hsent, if_pos (Script.whole_unstamped_iff.mpr hwhole)]
    rfl
  · rw [if_neg fun h => hwhole (Script.whole_unstamped_iff.mp h)]
    cases hfault : Body.faultOfText? script.text with
    | none => exact absurd (Body.faultOfText?_eq_none_iff.mp hfault) hwhole
    | some fault =>
        have hsent : (text script.text).sent = .error fault := by
          simp only [sent, text, Body.fault?, hfault]
        rw [hsent]
        rfl

/-! ## Endpoints -/

/-- The endpoints for tables and scripts. -/
def Endpoint.isSchema : Endpoint → Bool
  | .page _ | .overview | .health => false
  | .tables | .table _ | .script _ | .tableScript _ => true

/-- What a run answers at an endpoint for tables or scripts. -/
inductive Serves (act : Run Response) : Prop
  | report (told : Except Sql.Fault Value) (h : ∀ s, (act.outcome s).1 = told.map Response.report)
  | unknown (name : Text) (h : ∀ s, (act.outcome s).1 = .ok (.unknownTable name))
  | script (given : Session → Except Sql.Fault Script)
      (hsame : ∀ s s', (given s).map Script.unstamped = (given s').map Script.unstamped)
      (h : ∀ s, (act.outcome s).1 = (given s).map fun script => Response.text script.text)

namespace Serves

variable {act : Run Response}

/-- The answer of a service without a generator is none of these. -/
theorem status_ne (h : Serves act) {s : Session} {r : Response} (hr : (act.outcome s).1 = .ok r) :
    r.status ≠ 503 := by
  cases h with
  | report told h =>
      rw [h] at hr
      cases told with
      | error f => cases hr
      | ok v =>
          cases hr
          show (200 : Nat) ≠ 503
          omega
  | unknown name h =>
      rw [h] at hr
      cases hr
      show (404 : Nat) ≠ 503
      omega
  | script given _ h =>
      rw [h] at hr
      cases hgiven : given s with
      | error f =>
          rw [hgiven] at hr
          cases hr
      | ok script =>
          rw [hgiven] at hr
          cases hr
          show (200 : Nat) ≠ 503
          omega

/-- Log and clock do not show in the answer but for the stamps. -/
theorem unstamped_eq (h : Serves act) (s s' : Session) :
    Answer.unstamped ((act.outcome s).1.map Response.sent) =
      Answer.unstamped ((act.outcome s').1.map Response.sent) := by
  cases h with
  | report told h => rw [h, h]
  | unknown name h => rw [h, h]
  | script given hsame h =>
      rw [h, h]
      rcases cases_of_map_eq (hsame s s') with ⟨f, hs, hs'⟩ | ⟨script, script', hs, hs', hscript⟩
      · rw [hs, hs']
      · rw [hs, hs']
        refine congrArg Except.ok ?_
        show (Response.text script.text).sent.toOption.map Response.unstamped =
          (Response.text script'.text).sent.toOption.map Response.unstamped
        rw [Response.unstamped_sent_text, hscript, ← Response.unstamped_sent_text]

end Serves

namespace Service

variable (g : Generator) (site : Site)

theorem serves_answer {e : Endpoint} (he : e.isSchema = true) :
    Serves (Service.answer ⟨site, some g⟩ e) := by
  cases e with
  | page _ | overview | health => cases he
  | tables => exact .report g.metadata fun s => congrArg Prod.fst (outcome_report g.metadata s)
  | table name =>
      cases ht : g.registry.table? name with
      | none =>
          refine .unknown name fun s => ?_
          simp only [answer, withGenerator, Generator.withTable, ht]
          rfl
      | some t =>
          refine .report (g.tableMetadata t) fun s => ?_
          simp only [answer, withGenerator, Generator.withTable, ht]
          exact congrArg Prod.fst (outcome_report (g.tableMetadata t) s)
  | script part =>
      refine .script _ (g.unstamped_generate part) fun s => ?_
      exact congrArg Prod.fst
        (Run.outcome_bind_pure (part.generate g) (fun script => Response.text script.text) s)
  | tableScript name =>
      cases ht : g.registry.table? name with
      | none =>
          refine .unknown name fun s => ?_
          simp only [answer, withGenerator, Generator.withTable, ht]
          rfl
      | some t =>
          refine .script (fun s => g.tablesScriptAt s.clock.next (.text name) [t])
            (fun s s' => g.unstamped_tablesScriptAt _ _ _ _) fun s => ?_
          simp only [answer, withGenerator, Generator.withTable, ht]
          have houtcome := congrArg Prod.fst (Run.outcome_bind_pure (g.tableText name) Response.text s)
          rw [Generator.outcome_tableText ht] at houtcome
          refine houtcome.trans ?_
          cases g.tablesScriptAt s.clock.next (.text name) [t] <;> rfl

/-! ## Contexts -/

theorem balanced_answer (service : Service) (e : Endpoint) (registry : Registry) :
    (service.answer e registry).Balanced := by
  have guarded {act : Generator → Run Response} (h : ∀ g, (act g).Balanced) :
      (service.withGenerator act).Balanced := by
    simp only [withGenerator]
    split
    · exact Run.balanced_pure _
    · exact h _
  have found {act : Table → Run Response} (g : Generator) (name : Text) (h : ∀ t, (act t).Balanced) :
      (g.withTable name act).Balanced := by
    simp only [Generator.withTable]
    split
    · exact Run.balanced_pure _
    · exact h _
  cases e with
  | page _ | overview | health => exact Run.balanced_pure _
  | tables => exact guarded fun g => (Run.balanced_liftExcept _).bind fun _ => Run.balanced_pure _
  | table name =>
      refine guarded fun g => found g name fun t => ?_
      exact (Run.balanced_liftExcept _).bind fun _ => Run.balanced_pure _
  | script part => exact guarded fun g => (g.balanced_generate part).bind fun _ => Run.balanced_pure _
  | tableScript name =>
      refine guarded fun g => found g name fun t => ?_
      exact (g.balanced_tableText name).bind fun _ => Run.balanced_pure _

theorem balanced_respond (service : Service) (method path : Text) (registry : Registry) :
    (service.respond method path registry).Balanced := by
  have chosen : (service.choose method path registry).Balanced := by
    simp only [choose]
    split
    · split
      · exact service.balanced_answer _ registry
      · exact Run.balanced_pure _
    · exact Run.balanced_pure _
  exact chosen.bind fun _ => Run.balanced_pure _

end Service

/-! ## Requests that are answered -/

/-- All settings are strings without NUL. -/
structure Settings.NulFree (σ : Settings) : Prop where
  schemaLabel : σ.schemaLabel.IsNulFree
  backendLabel : σ.backendLabel.IsNulFree
  comment : σ.encryptedComment.IsNulFree
  function : σ.triggerFunction.IsNulFree
  role : σ.authenticatedRole.IsNulFree

/-- Nothing that remarks say of the settings has half a pair in it. -/
structure Settings.Whole (σ : Settings) : Prop where
  schemaLabel : σ.schemaLabel.plain.Whole
  backendLabel : σ.backendLabel.plain.Whole
  role : σ.authenticatedRole.plain.Whole

theorem Settings.NulFree.writable {σ : Settings} (h : σ.NulFree) : σ.Writable := by
  obtain ⟨name, hname, _⟩ := h.function
  exact ⟨h.comment, h.role, name, hname⟩

theorem Value.IsNulFree.whole_plain {v : Value} (h : v.IsNulFree) : v.plain.Whole := by
  obtain ⟨s, rfl, _⟩ := h
  exact Text.whole_ofString s

theorem Settings.NulFree.whole {σ : Settings} (h : σ.NulFree) : σ.Whole :=
  ⟨h.schemaLabel.whole_plain, h.backendLabel.whole_plain, h.role.whole_plain⟩

theorem Value.isNulFree_text {t : Text} (hnul : ¬ t.HasNul) (hwhole : t.Whole) : (Value.text t).IsNulFree := by
  obtain ⟨s, rfl⟩ := Text.whole_iff.mp hwhole
  exact ⟨s, rfl, Bool.eq_false_iff.mpr fun h => hnul (Text.hasNul_ofString.mpr h)⟩

/-- Nothing in the environment keeps its settings from being written. -/
def Environment.Writable (env : Environment) : Prop := ∀ v ∈ env, ¬ v.2.HasNul ∧ v.2.Whole

theorem Settings.nulFree_ofEnvironment {env : Environment} (h : env.Writable) :
    (Settings.ofEnvironment env).NulFree := by
  have setting (name : String) {default : Value} (hdefault : default.IsNulFree) :
      (Settings.fromVariable env name default).IsNulFree := by
    simp only [Settings.fromVariable]
    cases hget : env.get? name with
    | none => exact hdefault
    | some t =>
        obtain ⟨before, after, rfl, _⟩ := List.lookup_eq_some_iff.mp hget
        obtain ⟨hnul, hwhole⟩ := h (ofString name, t) (List.mem_append_right _ List.mem_cons_self)
        exact Value.isNulFree_text hnul hwhole
  exact ⟨setting _ ⟨_, rfl, by decide⟩, setting _ ⟨_, rfl, by decide⟩, setting _ ⟨_, rfl, by decide⟩,
    setting _ ⟨_, rfl, by decide⟩, setting _ ⟨_, rfl, by decide⟩⟩

namespace Generator

variable {g : Generator}

theorem Remarks.whole (hs : g.settings.Whole) {text : Text} (h : g.Remarks text) : text.Whole := by
  cases h with
  | fixed _ => exact Text.whole_ofString _
  | complete =>
      simp only [completeRemark, Text.whole_append_iff]
      exact ⟨⟨Text.whole_ofString _, hs.backendLabel⟩, Text.whole_ofString _⟩
  | tables =>
      simp only [tablesRemark, Text.whole_append_iff]
      exact ⟨⟨⟨Text.whole_ofString _, hs.backendLabel⟩, Text.whole_ofString _⟩,
        hs.schemaLabel⟩
  | table _ | trigger _ =>
      simp only [Text.whole_append_iff, Text.whole_ofString, and_self]
  | role =>
      simp only [Text.whole_append_iff]
      exact ⟨⟨Text.whole_ofString _, hs.role⟩, Text.whole_ofString _⟩

theorem InBody.whole (hs : g.settings.Whole) {p : Piece} (h : g.InBody p) : p.text.Whole := by
  cases p with
  | stamp time => exact absurd h id
  | blank => exact Text.whole_ofString _
  | statement s =>
      simp only [Piece.text, Text.whole_append_iff]
      exact ⟨Text.whole_ofString _, Text.whole_ofString _⟩
  | remark text =>
      simp only [Piece.text, Text.whole_append_iff]
      exact ⟨⟨Text.whole_ofString _, Remarks.whole hs h⟩, Text.whole_ofString _⟩

theorem Body.whole (hs : g.settings.Whole) {script : Script} (h : g.Body script) : script.text.Whole :=
  Script.whole_text_iff.mpr fun p hp => InBody.whole hs (h p hp)

theorem whole_tablesScriptAt (hs : g.settings.Whole) {time : Instant} {script : Script}
    (h : g.tablesScriptAt time .null g.registry.tables = .ok script) : script.text.Whole := by
  obtain ⟨body, rfl, hbody⟩ := tablesScriptAt_pieces h
  simp only [Script.text_cons, Text.whole_append_iff]
  exact ⟨InBody.whole hs (p := .remark _) Remarks.tables, Script.whole_stamp time, Body.whole hs hbody⟩

/-- With such settings every script can be written, and sent. -/
theorem generate_ok (hs : g.settings.NulFree) (part : ScriptPart) (s : Session) :
    ∃ script, ((part.generate g).outcome s).1 = .ok script ∧ script.text.Whole := by
  cases part with
  | complete =>
      obtain ⟨script, hscript⟩ := completeScript_ok hs.writable s
      refine ⟨script, hscript, ?_⟩
      rw [g.outcome_completeScript] at hscript
      obtain ⟨body, rfl, hbody⟩ := completeScriptAt_pieces hscript
      simp only [Script.text_cons, Text.whole_append_iff]
      exact ⟨InBody.whole hs.whole (p := .remark _) Remarks.complete, Script.whole_stamp _,
        InBody.whole hs.whole (p := .blank) trivial, InBody.whole hs.whole (p := .remark _) Remarks.tables,
        Script.whole_stamp _, Body.whole hs.whole hbody⟩
  | tables =>
      obtain ⟨script, hscript⟩ := tablesScript_ok hs.comment s
      refine ⟨script, hscript, ?_⟩
      rw [(g.outcome_tablesScript s).1] at hscript
      exact whole_tablesScriptAt hs.whole hscript
  | foreignKeys =>
      exact ⟨_, (g.generateForeignKeysScript_gives s).1, Body.whole hs.whole (body_foreignKeysScript g)⟩
  | triggers =>
      cases hscript : g.triggersScript with
      | error f =>
          obtain ⟨name, hname, _⟩ := hs.function
          have hfault := triggersScript_eq_error_iff.mp hscript
          rw [stampFunction_ofString hname] at hfault
          cases hfault
      | ok script =>
          refine ⟨script, ?_, Body.whole hs.whole (body_triggersScript hscript)⟩
          rw [← hscript]
          exact (Run.gives_liftExcept g.triggersScript s).1
  | policies =>
      obtain ⟨script, hscript⟩ := policiesScript_ok hs.role s
      refine ⟨script, hscript, ?_⟩
      rw [(g.policiesScript_gives s).1] at hscript
      exact Body.whole hs.whole (body_policiesScriptOf hscript)

/-- The script of one table is that of a registry which holds this table alone, under its name as label. -/
theorem tableText_ok (hs : g.settings.NulFree) {name : Text} {t : Table}
    (ht : g.registry.table? name = some t) (s : Session) :
    ∃ text, ((g.tableText name).outcome s).1 = .ok text ∧ text.Whole := by
  obtain rfl := Registry.name_of_table? ht
  have hpresent : (Value.text t.name).isPresent = true := by
    have hne : ofString t.name ≠ [] := fun h => t.name_ne (Text.ofString_inj.mp h)
    simp only [Value.isPresent, List.isEmpty_eq_false_iff.mpr hne, Bool.not_false]
  let alone : Generator := ⟨⟨[t]⟩, { g.settings with schemaLabel := .text t.name }⟩
  have hsame : g.tablesScriptAt s.clock.next (.text t.name) [t] =
      alone.tablesScriptAt s.clock.next .null alone.registry.tables := by
    simp only [tablesScriptAt, labelFor, hpresent, if_true]
    rfl
  obtain ⟨script, hscript⟩ := tablesScript_ok (g := alone) hs.comment s
  rw [(alone.outcome_tablesScript s).1] at hscript
  have hwhole : alone.settings.Whole :=
    ⟨Text.whole_ofString t.name, hs.whole.backendLabel, hs.whole.role⟩
  refine ⟨script.text, ?_, whole_tablesScriptAt hwhole hscript⟩
  rw [outcome_tableText ht, hsame, hscript]
  rfl

end Generator

/-! ## Answers that can be sent -/

theorem Response.eq_of_sent {r r' : Response} (h : r.sent = .ok r') : r = r' := by
  simp only [sent] at h
  split at h
  · exact Except.ok.inj h
  · cases h

theorem Response.sent_ok {r : Response} (h : r.body.fault? = none) : r.sent = .ok r := by
  simp only [sent, h]

theorem Value.Json.whole_sentString {t : Text} (h : t.Whole) : Text.Whole (sentString t) := by
  simp only [sentString, Text.whole_append_iff, Text.whole_flatMap_iff]
  refine ⟨⟨Text.whole_ofString _, fun p hp => ?_⟩, Text.whole_ofString _⟩
  cases p with
  | half i => exact absurd hp (h i)
  | char c =>
      simp only [sentPoint]
      split
      · exact Text.whole_ofChars _
      · exact Text.whole_ofChars [c]

theorem Response.sent_failure {status : Nat} {detail : Text} (h : detail.Whole) :
    (failure status detail).sent = .ok (failure status detail) := by
  refine sent_ok (Body.faultOfText?_eq_none_iff.mpr ?_)
  simp only [Text.whole_append_iff]
  exact ⟨⟨⟨⟨Text.whole_ofString _, Value.Json.whole_sentString (Text.whole_ofString _)⟩,
    Text.whole_ofString _⟩, Value.Json.whole_sentString h⟩, Text.whole_ofString _⟩

theorem Response.sent_unknownTable {name : Text} (h : name.Whole) :
    (unknownTable name).sent = .ok (unknownTable name) :=
  sent_failure (Text.whole_append_iff.mpr ⟨Text.whole_ofString _, h⟩)

theorem Response.sent_text {t : Text} (h : t.Whole) : (text t).sent = .ok (text t) :=
  sent_ok (Body.faultOfText?_eq_none_iff.mpr h)

/-- The name in what is asked for. -/
def Endpoint.name? : Endpoint → Option Text
  | .table name | .tableScript name => some name
  | .page _ | .overview | .health | .tables | .script _ => none

/-- A name that is asked for is a part of the path. -/
theorem Site.whole_name {site : Site} {path : Text} {e : Endpoint} (he : site.endpoint? path = some e)
    (hpath : path.Whole) : ∀ name ∈ e.name?, name.Whole := by
  have hfixed : ∀ f ∈ site.fixed, f.2.name? = none := by
    cases site <;> decide
  have hafter {start name : Text} (h : nameAfter? path start = some name) : name.Whole := by
    simp only [nameAfter?] at h
    split at h
    · split at h
      · cases h
      · cases h
        exact fun i hi => hpath i (List.mem_of_mem_drop hi)
    · cases h
  simp only [endpoint?] at he
  split at he
  next f hfind =>
    cases he
    rw [hfixed _ (List.mem_of_find?_eq_some hfind)]
    exact fun name hname => (by cases hname)
  · obtain ⟨⟨start, make⟩, hmem, hmake⟩ := List.exists_of_findSome?_eq_some he
    obtain ⟨name, hname, rfl⟩ := Option.map_eq_some_iff.mp hmake
    have hname? : (make name).name? = some name := by
      simp only [named, List.mem_cons, List.not_mem_nil, or_false, Prod.mk.injEq] at hmem
      rcases hmem with ⟨_, rfl⟩ | ⟨_, rfl⟩ <;> rfl
    rw [hname?]
    intro name' hname'
    cases hname'
    exact hafter hname

namespace Service

variable {g : Generator} {site : Site}

/-- With settings and descriptions that can be written, all endpoints are answered, whatever is asked for. -/
theorem answer_ok (hs : g.settings.NulFree) (hr : g.registry.Whole) {e : Endpoint}
    (he : ∀ name ∈ e.name?, name.Whole) (registry : Registry) (s : Session) :
    ∃ r, ((Service.answer ⟨site, some g⟩ e registry).outcome s).1 = .ok r ∧ r.sent = .ok r := by
  cases e with
  | page p => exact ⟨.page p, rfl, Response.sent_ok rfl⟩
  | overview =>
      refine ⟨_, rfl, Response.sent_report_ok ?_⟩
      simp [Text.whole_ofString]
  | health =>
      refine ⟨_, rfl, Response.sent_report_ok ?_⟩
      simp [Text.whole_ofString]
  | tables =>
      obtain ⟨v, hv⟩ := Generator.metadata_ok hs.role
      refine ⟨.report v, ?_, Response.sent_report_ok ((Generator.whole_metadata_iff hv).mpr hr)⟩
      simp only [answer, withGenerator]
      rw [outcome_report, hv]
      rfl
  | table name =>
      simp only [answer, withGenerator, Generator.withTable]
      cases ht : g.registry.table? name with
      | none => exact ⟨_, rfl, Response.sent_unknownTable (he name rfl)⟩
      | some t =>
          obtain ⟨v, hv⟩ := Generator.tableMetadata_ok hs.role t
          have hwhole := (Generator.whole_tableMetadata_iff hv).mpr (hr t (Registry.mem_of_table? ht))
          refine ⟨.report v, ?_, Response.sent_report_ok hwhole⟩
          rw [outcome_report, hv]
          rfl
  | script part =>
      obtain ⟨script, hscript, hwhole⟩ := Generator.generate_ok hs part s
      refine ⟨.text script.text, ?_, Response.sent_text hwhole⟩
      simp only [answer, withGenerator]
      rw [Run.outcome_bind_pure, hscript]
      rfl
  | tableScript name =>
      simp only [answer, withGenerator, Generator.withTable]
      cases ht : g.registry.table? name with
      | none => exact ⟨_, rfl, Response.sent_unknownTable (he name rfl)⟩
      | some t =>
          obtain ⟨text, htext, hwhole⟩ := Generator.tableText_ok hs ht s
          refine ⟨.text text, ?_, Response.sent_text hwhole⟩
          rw [Run.outcome_bind_pure, htext]
          rfl

theorem respond_ok (hs : g.settings.NulFree) (hr : g.registry.Whole) {method path : Text}
    (hpath : path.Whole) (registry : Registry) (s : Session) :
    ∃ r, ((Service.respond ⟨site, some g⟩ method path registry).outcome s).1 = .ok (.ok r) := by
  have hchoose : ∃ r, ((Service.choose ⟨site, some g⟩ method path registry).outcome s).1 = .ok r ∧
      r.sent = .ok r := by
    simp only [choose]
    cases he : site.endpoint? path with
    | none =>
        refine ⟨_, rfl, ?_⟩
        split
        · rfl
        · exact Response.sent_failure (Text.whole_ofString _)
    | some e =>
        by_cases haccepts : e.accepts method = true
        · simp only [if_pos haccepts]
          exact answer_ok hs hr (Site.whole_name he hpath) registry s
        · simp only [if_neg haccepts]
          exact ⟨_, rfl, Response.sent_failure (Text.whole_ofString _)⟩
  obtain ⟨r, hr, hsent⟩ := hchoose
  refine ⟨r, ?_⟩
  rw [outcome_respond, hr]
  exact congrArg Except.ok hsent

end Service

end SchemaScript
