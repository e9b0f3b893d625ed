/-
# The endpoints for tables and scripts follow the starts and stops

## What is proved

There is a process exactly if the log does not refuse the level that the environment names.  Between starts, stops and
requests in any order, a request at an endpoint for tables or scripts is refused exactly if the latest start or stop before
it is not a start.  Otherwise it is answered as if it came alone right after a single start, but for the stamps of scripts;
any other request, also for a page of the framework, is answered as if nothing had happened at all.  A request leaves the
generator, the settings and the open contexts of the log as they are.

## How

`Follows` is what all events keep: the process has its generator exactly after a start, and this generator is always the
same, because registry and settings are kept from their first use on.  One step keeps it (`Follows.step`), so a run
does.  What is then left is about a single service, with the generator or without it.
-/
import SchemaScript.Proofs.LogSetup
import SchemaScript.Proofs.Serving

namespace SchemaScript

open Text (ofString)

/-! ## The level of the log -/

namespace Environment

/-- The environment names a level, or none at all. -/
def NamesLevel (env : Environment) : Prop :=
  ∀ level, env.get? (ofString "LOG_LEVEL") = some level →
    ∃ l ∈ Log.Level.named, level.upperForAscii = ofString l.1

/-- The log refuses the level that the environment wants. -/
def RefusesLevel (env : Environment) : Prop := ∃ f, (Log.Wanted.word (LogSettings.ofEnvironment env).level).Refused f

variable {env : Environment}

theorem level_of_get?_eq_none (h : env.get? (ofString "LOG_LEVEL") = none) :
    (LogSettings.ofEnvironment env).level = ofString "INFO" := by
  simp only [LogSettings.ofEnvironment, getOr, h, Option.getD_none]

/-- The level in use has a name, since the one that is used without any has one. -/
theorem NamesLevel.named (h : env.NamesLevel) :
    ∃ l ∈ Log.Level.named, (LogSettings.ofEnvironment env).level.upperForAscii = ofString l.1 := by
  cases hget : env.get? (ofString "LOG_LEVEL") with
  | none =>
      rw [level_of_get?_eq_none hget]
      exact ⟨("INFO", Log.Level.info), by decide, by decide⟩
  | some level =>
      have hlevel : (LogSettings.ofEnvironment env).level = level := by
        simp only [LogSettings.ofEnvironment, getOr, hget, Option.getD_some]
      rw [hlevel]
      exact h level hget

theorem NamesLevel.not_refusesLevel (h : env.NamesLevel) : ¬ env.RefusesLevel :=
  fun ⟨f, hf⟩ => Log.Wanted.not_refused_of_named h.named f hf

end Environment

/-! ## Requests -/

/-- The request comes to an endpoint for tables or scripts. -/
def Site.IsSchemaRequest (site : Site) (method path : Text) : Prop :=
  method = "GET" ∧ ∃ e, site.endpoint? path = some e ∧ e.isSchema = true

namespace Service

variable {site : Site} {method path : Text} {g : Generator}

theorem choose_of_isSchemaRequest (h : site.IsSchemaRequest method path) (generator : Option Generator) :
    ∃ e, e.isSchema = true ∧ site.endpoint? path = some e ∧
      Service.choose ⟨site, generator⟩ method path = Service.answer ⟨site, generator⟩ e := by
  obtain ⟨rfl, e, he, hschema⟩ := h
  exact ⟨e, hschema, he, choose_of_accepts he e.accepts_get _⟩

/-- Without a generator such a request is refused, even for a table that is not registered. -/
theorem respond_notReady (h : site.IsSchemaRequest method path) (s : Session) :
    ((Service.respond ⟨site, none⟩ method path).outcome s).1 = .ok (.ok .notReady) := by
  obtain ⟨e, hschema, _, hchoose⟩ := choose_of_isSchemaRequest h none
  have hanswer : Service.answer ⟨site, none⟩ e = pure .notReady := by
    cases e with
    | page _ | overview | health => cases hschema
    | tables | table _ | script _ | tableScript _ => rfl
  rw [outcome_respond, hchoose, hanswer]
  exact congrArg Except.ok (Response.sent_failure (Text.whole_ofString _))

/-- With one it is not refused. -/
theorem status_ne_of_isSchemaRequest (h : site.IsSchemaRequest method path) {s : Session} {r : Response}
    (hr : ((Service.respond ⟨site, some g⟩ method path).outcome s).1 = .ok (.ok r)) : r.status ≠ 503 := by
  obtain ⟨e, hschema, _, hchoose⟩ := choose_of_isSchemaRequest h (some g)
  rw [outcome_respond, hchoose] at hr
  cases hanswer : ((Service.answer ⟨site, some g⟩ e).outcome s).1 with
  | error f =>
      rw [hanswer] at hr
      cases hr
  | ok r' =>
      rw [hanswer] at hr
      cases Response.eq_of_sent (Except.ok.inj hr)
      exact (serves_answer g site hschema).status_ne hanswer

theorem unstamped_respond (h : site.IsSchemaRequest method path) (s s' : Session) :
    Answer.unstamped ((Service.respond ⟨site, some g⟩ method path).outcome s).1 =
      Answer.unstamped ((Service.respond ⟨site, some g⟩ method path).outcome s').1 := by
  obtain ⟨e, hschema, _, hchoose⟩ := choose_of_isSchemaRequest h (some g)
  rw [outcome_respond, outcome_respond, hchoose]
  exact (serves_answer g site hschema).unstamped_eq s s'

/-- Other requests do not ask for the generator. -/
theorem respond_of_not_isSchemaRequest (h : ¬ site.IsSchemaRequest method path)
    (generator generator' : Option Generator) (s s' : Session) :
    ((Service.respond ⟨site, generator⟩ method path).outcome s).1 =
      ((Service.respond ⟨site, generator'⟩ method path).outcome s').1 := by
  rw [outcome_respond, outcome_respond]
  simp only [choose]
  cases he : site.endpoint? path with
  | none => rfl
  | some e =>
      simp only
      cases e with
      | page _ | overview | health => split <;> rfl
      | tables | table _ | script _ | tableScript _ =>
          have hmethod : method ≠ "GET" := fun hget => h ⟨hget, _, he, rfl⟩
          simp only [Endpoint.accepts, beq_iff_eq, if_neg hmethod]
          rfl

end Service

/-! ## The process -/

namespace Server

/-- What the process is like after events of which `latest` is the latest start or stop: `contexts` are the contexts
of the log that were open before. -/
structure Follows (env : Environment) (contexts : List Log.Context) (latest : Option Lifecycle)
    (server : Server) : Prop where
  service : server.service =
    ⟨.full, if latest = some .startup then some ⟨.application, .ofEnvironment env⟩ else none⟩
  registry : server.registry.held = none ∨ server.registry.held = some .application
  defaults : server.defaults.held = some (.ofEnvironment env)
  contexts : server.session.journal.contexts = contexts

variable {env : Environment} {contexts : List Log.Context} {latest : Option Lifecycle} {server : Server}

/-- The process comes about when its log is set up. -/
theorem loaded_eq_map (env : Environment) (s : Session) :
    loaded env s = (Log.Level.threshold (.text (LogSettings.ofEnvironment env).level)).map fun threshold =>
      { service := ⟨.full, none⟩
        defaults := (Kept.get {} (Defaults.ofEnvironment env)).2.2
        session := { s with journal := { s.journal with threshold } } } := by
  show (Log.Root.configure _ (.text (LogSettings.ofEnvironment env).level) _ _ >>= fun root => pure _) = _
  rw [Log.Root.configure_eq_map]
  cases Log.Level.threshold (.text (LogSettings.ofEnvironment env).level) <;> rfl

theorem exists_loaded_iff (env : Environment) (s : Session) :
    (∃ server, loaded env s = .ok server) ↔ ¬ env.RefusesLevel := by
  rw [loaded_eq_map]
  obtain ⟨f, hf, hthreshold⟩ | ⟨hnot, _, _, hthreshold⟩ :=
    Log.Level.threshold_value (.word (LogSettings.ofEnvironment env).level)
  · rw [Log.Wanted.value] at hthreshold
    rw [hthreshold]
    constructor
    · rintro ⟨server, hserver⟩
      cases hserver
    · intro hnot
      exact absurd ⟨f, hf⟩ hnot
  · rw [Log.Wanted.value] at hthreshold
    rw [hthreshold]
    constructor
    · rintro - ⟨f, hf⟩
      exact hnot f hf
    · intro
      exact ⟨_, rfl⟩

theorem follows_loaded {s : Session} (h : loaded env s = .ok server) :
    Follows env s.journal.contexts none server := by
  rw [loaded_eq_map] at h
  cases hthreshold : Log.Level.threshold (.text (LogSettings.ofEnvironment env).level) with
  | error f =>
      rw [hthreshold] at h
      cases h
  | ok threshold =>
      rw [hthreshold] at h
      obtain rfl := Except.ok.inj h
      exact ⟨rfl, .inl rfl, rfl, rfl⟩

theorem contexts_announce (r : Registry) (j : Log.Journal) : (r.announce j).contexts = j.contexts := by
  have warned (names : List String) (j : Log.Journal) :
      (names.foldl (fun j name => j.write (.int Log.Level.warning) Registry.logger
        (Registry.repeatMessage name) none) j).contexts = j.contexts := by
    induction names generalizing j with
    | nil => rfl
    | cons name names ih => rw [List.foldl_cons, ih, Log.Journal.contexts_write]
  simp only [Registry.announce, Log.Journal.contexts_write, warned]

theorem Follows.note (h : Follows env contexts latest server) (message : Text) :
    Follows env contexts latest (server.note message) :=
  ⟨h.service, h.registry, h.defaults, (Run.balanced_note _ _ _ server.session).trans h.contexts⟩

/-- The registry that is used is that of the application, whether it was there or is made now. -/
theorem Follows.useRegistry (h : Follows env contexts latest server) :
    server.useRegistry.1 = .application ∧ Follows env contexts latest server.useRegistry.2 := by
  simp only [Server.useRegistry]
  rcases h.registry with hnone | hsome
  · rw [Kept.get_of_none hnone, hnone]
    exact ⟨rfl, h.service, .inr rfl, h.defaults, (contexts_announce _ _).trans h.contexts⟩
  · rw [Kept.get_of_some hsome, hsome]
    exact ⟨rfl, h.service, .inr hsome, h.defaults, h.contexts⟩

theorem Follows.serve (h : Follows env contexts latest server) (latest' : Option Lifecycle)
    {service : Service} (hservice : service =
      ⟨.full, if latest' = some .startup then some ⟨.application, .ofEnvironment env⟩ else none⟩) :
    Follows env contexts latest' { server with service } :=
  ⟨hservice, h.registry, h.defaults, h.contexts⟩

/-- A start gives the process its generator, always the same one: the settings were read before. -/
theorem Follows.start (h : Follows env contexts latest server) :
    Follows env contexts (some .startup) (server.start env) := by
  obtain ⟨happlication, hserver⟩ := (h.note startMessage).useRegistry
  have hkept := Kept.get_of_some hserver.defaults (.ofEnvironment env)
  simp only [Server.start]
  rw [happlication, hkept]
  refine (hserver.serve (some .startup) ?_).note _
  rw [hserver.service]
  rfl

theorem Follows.stop (h : Follows env contexts latest server) :
    Follows env contexts (some .shutdown) server.stop := by
  refine (h.serve (some .shutdown) ?_).note _
  rw [h.service]
  rfl

/-- Requests are answered with the registry of the application; only that for health makes it, if it is not there. -/
theorem Follows.beforeAnswer (h : Follows env contexts latest server) (method path : Text) :
    ∃ server', Follows env contexts latest server' ∧
      (if method = "GET" ∧ server.service.site.endpoint? path = some .health then server.useRegistry
        else (.application, server)) = (.application, server') := by
  split
  · obtain ⟨happlication, hserver⟩ := h.useRegistry
    exact ⟨_, hserver, Prod.ext happlication rfl⟩
  · exact ⟨server, h, rfl⟩

theorem Follows.respond (h : Follows env contexts latest server) (method path : Text) :
    Follows env contexts latest (server.respond method path).2 := by
  obtain ⟨server', hserver, hbefore⟩ := h.beforeAnswer method path
  have hbalanced := hserver.contexts
  rw [← Service.balanced_respond server'.service method path .application] at hbalanced
  simp only [Server.respond, hbefore]
  exact ⟨hserver.service, hserver.registry, hserver.defaults, hbalanced⟩

/-- One event keeps it. -/
theorem Follows.step (h : Follows env contexts latest server) (event : Event) :
    Follows env contexts (event.lifecycle?.or latest) (server.step env event) := by
  cases event with
  | lifecycle change =>
      cases change with
      | startup => exact h.start
      | shutdown => exact h.stop
  | request method path => exact h.respond method path

/-- All events keep it. -/
theorem Follows.after {first : Server} (h : Follows env contexts none first) (events : List Event) :
    Follows env contexts (events.filterMap Event.lifecycle?).getLast? (first.after env events) := by
  induction events using List.reverseRecOn with
  | nil => exact h
  | append_singleton events event ih =>
      have hlatest : ((events ++ [event]).filterMap Event.lifecycle?).getLast? =
          event.lifecycle?.or (events.filterMap Event.lifecycle?).getLast? := by
        rw [List.filterMap_append, List.getLast?_append]
        cases event <;> rfl
      rw [Server.after, List.foldl_append, hlatest]
      exact ih.step event

theorem defaults_respond (server : Server) (method path : Text) :
    (server.respond method path).2.defaults = server.defaults := by
  simp only [Server.respond]
  split <;> rfl

/-- The generator with which the site answers. -/
theorem Follows.answer (h : Follows env contexts latest server) (method path : Text) :
    ∃ s, (server.respond method path).1 =
      ((Service.respond ⟨.full, if latest = some .startup then some ⟨.application, .ofEnvironment env⟩
        else none⟩ method path).outcome s).1 := by
  obtain ⟨server', hserver, hbefore⟩ := h.beforeAnswer method path
  simp only [Server.respond, hbefore]
  rw [hserver.service]
  exact ⟨_, rfl⟩

end Server

/-- There is a process exactly if the log does not refuse the level of the environment, and it never refuses one that has a
name.  After any starts, stops and requests: an endpoint for tables or scripts refuses exactly if the latest start or stop is
not a start, and otherwise answers, but for the stamps, as it does alone right after a start; any other request is answered
as before any event.  No request changes the generator, the settings or the open contexts; and where the environment
and the path can be written, every request is answered. -/
theorem schema_endpoints_follow_lifecycle (env : Environment) (s s' : Session) :
    ((∃ first, Server.loaded env s = .ok first) ↔ ¬ env.RefusesLevel) ∧
    (env.NamesLevel → ¬ env.RefusesLevel) ∧
    ∀ first first', Server.loaded env s = .ok first → Server.loaded env s' = .ok first' →
      ∀ (events : List Event) (method path : Text),
        let server := first.after env events
        let answer := (server.respond method path).1
        let alone := ((first'.after env [.lifecycle .startup]).respond method path).1
        let started := (events.filterMap Event.lifecycle?).getLast? = some .startup
        (Site.full.IsSchemaRequest method path →
          ((∃ r, answer = .ok (.ok r) ∧ r.status = 503) ↔ ¬ started) ∧
          (started → answer.unstamped = alone.unstamped)) ∧
        (¬ Site.full.IsSchemaRequest method path → answer = (first'.respond method path).1) ∧
        (server.respond method path).2.service = server.service ∧
        (server.respond method path).2.defaults = server.defaults ∧
        (server.respond method path).2.session.journal.contexts = server.session.journal.contexts ∧
        (env.Writable → path.Whole → ∃ r, answer = .ok (.ok r)) := by
  refine ⟨Server.exists_loaded_iff env s, Environment.NamesLevel.not_refusesLevel,
    fun first first' hfirst hfirst' events method path => ?_⟩
  intro server answer alone started
  have hserver : server.Follows env _ _ := (Server.follows_loaded hfirst).after events
  have hafter := hserver.respond method path
  obtain ⟨t, hanswer⟩ := hserver.answer method path
  refine ⟨fun hschema => ?_, fun hother => ?_, hafter.service.trans hserver.service.symm,
    server.defaults_respond method path, hafter.contexts.trans hserver.contexts.symm,
    fun henv hpath => ?_⟩
  · by_cases hstarted : started
    -- The same generator answers here and after a single start, in two sessions.
    · rw [if_pos hstarted] at hanswer
      obtain ⟨t', halone⟩ :=
        ((Server.follows_loaded hfirst').after [.lifecycle .startup]).answer method path
      refine ⟨⟨?_, fun h => absurd hstarted h⟩, fun _ => ?_⟩
      · rintro ⟨r, hr, hstatus⟩
        exact absurd hstatus (Service.status_ne_of_isSchemaRequest hschema (hanswer.symm.trans hr))
      · calc answer.unstamped
            = Answer.unstamped _ := congrArg _ hanswer
          _ = Answer.unstamped _ := Service.unstamped_respond hschema t t'
          _ = alone.unstamped := congrArg _ halone.symm
    · rw [if_neg hstarted] at hanswer
      refine ⟨⟨fun _ => hstarted, fun _ => ?_⟩, fun h => absurd h hstarted⟩
      exact ⟨_, hanswer.trans (Service.respond_notReady hschema t), rfl⟩
  · obtain ⟨t', hother'⟩ := (Server.follows_loaded hfirst').answer method path
    exact hanswer.trans ((Service.respond_of_not_isSchemaRequest hother _ _ t t').trans hother'.symm)
  -- What is not refused for the lack of a generator is what this generator answers.
  · have hwhole : Registry.application.Whole := by decide
    obtain ⟨r, hr⟩ : ∃ r, ((Service.respond ⟨.full, some ⟨.application, .ofEnvironment env⟩⟩ method
        path).outcome t).1 = .ok (.ok r) :=
      Service.respond_ok (Settings.nulFree_ofEnvironment henv) hwhole hpath .application t
    by_cases hschema : Site.full.IsSchemaRequest method path
    · by_cases hstarted : started
      · rw [if_pos hstarted] at hanswer
        exact ⟨r, hanswer.trans hr⟩
      · rw [if_neg hstarted] at hanswer
        exact ⟨_, hanswer.trans (Service.respond_notReady hschema t)⟩
    · exact ⟨r, hanswer.trans ((Service.respond_of_not_isSchemaRequest hschema _ _ t t).trans hr)⟩

/-- A table that is not registered: its request is refused after a stop, and answered again after the next start; the
requests for health and for a page are answered all the time. -/
theorem unknown_table_between_stop_and_start :
    ∃ first, Server.loaded [] default = .ok first ∧
      let after (events : List Event) := first.after [] events
      let stopped : List Event := [.lifecycle .startup, .request "GET" "/health", .lifecycle .shutdown]
      let started : List Event := stopped ++ [.lifecycle .startup]
      let path := Site.tablePath "nothing"
      (∃ r, ((after stopped).respond "GET" path).1 = .ok (.ok r) ∧ r.status = 503) ∧
      (∃ r, ((after started).respond "GET" path).1 = .ok (.ok r)) ∧
      (((after started).respond "GET" path).1).unstamped =
        (((after [.lifecycle .startup]).respond "GET" path).1).unstamped ∧
      ((after stopped).respond "GET" "/health").1 = (first.respond "GET" "/health").1 ∧
      ((after stopped).respond "HEAD" "/docs").1 = (first.respond "HEAD" "/docs").1 := by
  have hnames : Environment.NamesLevel [] := fun level hget => (by cases hget)
  obtain ⟨hexists, hnamed, hall⟩ := schema_endpoints_follow_lifecycle [] default default
  obtain ⟨first, hfirst⟩ := hexists.mpr (hnamed hnames)
  refine ⟨first, hfirst, ?_⟩
  intro after stopped started path
  have hpath : Site.full.endpoint? path = some (.table "nothing") :=
    Site.endpoint?_tablePath .full (by decide) (by decide)
  have hschema : Site.full.IsSchemaRequest "GET" path := ⟨rfl, _, hpath, rfl⟩
  have hhealth : ¬ Site.full.IsSchemaRequest "GET" "/health" := by
    rintro ⟨_, e, he, hschema⟩
    cases he
    cases hschema
  have hdocs : ¬ Site.full.IsSchemaRequest "HEAD" "/docs" := fun h => absurd h.1 (by decide)
  have henv : Environment.Writable [] := fun _ hv => absurd hv List.not_mem_nil
  have hwhole : path.Whole :=
    Text.whole_append_iff.mpr ⟨Text.whole_ofString _, Text.whole_ofString _⟩
  obtain ⟨refused, _⟩ := hall first first hfirst hfirst stopped "GET" path
  obtain ⟨answered, _, _, _, _, given⟩ := hall first first hfirst hfirst started "GET" path
  obtain ⟨_, healthy, _⟩ := hall first first hfirst hfirst stopped "GET" "/health"
  obtain ⟨_, shown, _⟩ := hall first first hfirst hfirst stopped "HEAD" "/docs"
  exact ⟨(refused hschema).1.mpr (by decide), given henv hwhole, (answered hschema).2 (by decide), healthy hhealth,
    shown hdocs⟩

/-- Without any NUL, an environment may name a constant of the log that is no level, and then there is no process; and
it may have half a pair in the name of the function, and then the script of the triggers is not answered after a start. -/
theorem layout_word_and_half_give_no_answer :
    let layout : Environment := [(ofString "LOG_LEVEL", ofString "basic_format")]
    let half : Environment := [(ofString "DATASYNC_TRIGGER_FUNCTION", [.char 'f', .half 0x4ff])]
    (∀ v ∈ layout ++ half, ¬ v.2.HasNul) ∧
    (∃ fault, Server.loaded layout default = .error fault) ∧
    ∃ first, Server.loaded half default = .ok first ∧
      ∃ fault, ((first.after half [.lifecycle .startup]).respond "GET" (Site.scriptPath .triggers)).1 = .error fault := by
  intro layout half
  have hnames : half.NamesLevel := by
    intro level hget
    have hnone : half.get? (ofString "LOG_LEVEL") = none := by decide
    cases hnone.symm.trans hget
  obtain ⟨first, hfirst⟩ := (Server.exists_loaded_iff half default).mpr hnames.not_refusesLevel
  refine ⟨by decide, ⟨_, rfl⟩, first, hfirst, ?_⟩
  obtain ⟨t, hanswer⟩ :=
    ((Server.follows_loaded hfirst).after [.lifecycle .startup]).answer "GET" (Site.scriptPath .triggers)
  let g : Generator := ⟨.application, .ofEnvironment half⟩
  obtain ⟨fault, hfault⟩ : ∃ fault, g.triggersScript = .error fault :=
    ⟨_, Generator.triggersScript_eq_error_iff.mpr rfl⟩
  refine ⟨fault, hanswer.trans ?_⟩
  show ((Service.respond ⟨.full, some g⟩ "GET" (Site.scriptPath .triggers)).outcome t).1 = _
  rw [Service.outcome_scriptPath, ScriptPart.generate, (Run.gives_liftExcept _ t).1, hfault]
  rfl

end SchemaScript
