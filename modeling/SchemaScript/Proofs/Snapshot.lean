/-
# The settings in use are a snapshot of the environment

## What is proved

Changes of the environment, uses of the settings and discards of them come in any order.  A use gives what the first use
after the latest discard has given: the same reading, with the settings of the environment at that time, whatever has become
of it since.  Uses before that discard have given other readings.  In each reading a variable that was not set then has its
default, and one that was set, even to the empty text, its text.

## How

The events are taken apart at the latest discard and at the first use after it (`Phases`).  Up to the first of these places
the number of readings only grows; from there to the second nothing is kept; after it, what is kept stays.  What the
environment holds for a variable comes from the latest change of it, as in any sequence of events (`foldl_view_eq_or_latest`).
-/
import SchemaScript.Configuration
import SchemaScript.Proofs.Bytes
import SchemaScript.Proofs.Latest

namespace SchemaScript

open Text (ofString)

/-! ## Variables -/

namespace Environment

/-- A name and a text are taken for a variable, each as it comes back from outside. -/
structure Takes (name v : Value) (n t : Text) : Prop where
  name : textOf name = .ok n
  text : textOf v = .ok t
  noNul : .char '\x00' ∉ n ∧ .char '\x00' ∉ t
  noEquals : .char '=' ∉ n
  nonempty : n ≠ []

theorem textOf_ofString (s : String) : textOf (.text (ofString s)) = .ok (ofString s) := by
  rw [textOf, Text.returned_ofString]
  rfl

variable {env env' : Environment} {name v : Value} {n t x : Text}

theorem put_of_textOf (hname : textOf name = .ok n) (htext : textOf v = .ok t) :
    env.put name v =
      if n.contains (.char '\x00') || t.contains (.char '\x00') then .error .nulInside
      else if n.contains (.char '=') then .error .equalsInName
      else if n.isEmpty then .error .emptyName
      else .ok (env.set n t) := by
  simp only [put, hname, htext, bind, Except.bind, throw, throwThe, MonadExceptOf.throw, pure, Except.pure]

theorem put_eq_ok_iff : env.put name v = .ok env' ↔ ∃ n t, Takes name v n t ∧ env' = env.set n t := by
  constructor
  · intro h
    cases hname : textOf name with
    | error f => rw [put, hname] at h; cases h
    | ok n =>
        cases htext : textOf v with
        | error f => rw [put, hname, htext] at h; cases h
        | ok t =>
            rw [put_of_textOf hname htext] at h
            split at h
            · cases h
            split at h
            · cases h
            split at h
            · cases h
            next hnul hequals hne =>
              refine ⟨n, t, ⟨hname, htext, ?_, ?_, ?_⟩, (Except.ok.inj h).symm⟩
              · simpa using hnul
              · simpa using hequals
              · simpa using hne
  · rintro ⟨n, t, ⟨hname, htext, hnul, hequals, hne⟩, rfl⟩
    rw [put_of_textOf hname htext, if_neg (by simpa using hnul), if_neg (by simpa using hequals),
      if_neg (by simpa using hne)]

theorem lookup_filter_ne (h : x ≠ n) (env : Environment) :
    (env.filter fun v => v.1 != n).lookup x = env.lookup x := by
  induction env with
  | nil => rfl
  | cons v env ih =>
      by_cases hv : v.1 = n
      · have hx : (x == v.1) = false := beq_false_of_ne (hv ▸ h)
        rw [List.filter_cons_of_neg (by simp [hv]), ih, List.lookup_cons, hx]
      · rw [List.filter_cons_of_pos (by simp [hv]), List.lookup_cons, List.lookup_cons, ih]

theorem get?_set_of_ne (h : x ≠ n) : (env.set n t).get? x = env.get? x := by
  have hx : (x == n) = false := beq_false_of_ne h
  rw [set, get?, List.lookup_cons, hx]
  exact lookup_filter_ne h env

theorem get?_unset_of_ne (h : x ≠ n) : (env.unset n).get? x = env.get? x := lookup_filter_ne h env

end Environment

/-! ## What the environment holds -/

namespace Configuration

/-- What an event makes of a variable: a text, or nothing. -/
inductive Event.Makes : Event → Text → Option Text → Prop
  | set {name v : Value} {n t : Text} (h : Environment.Takes name v n t) : Makes (.set name v) n (some t)
  | unset {name : Value} {n : Text} (h : Environment.textOf name = .ok n) : Makes (.unset name) n none

/-- The event changes a variable. -/
def Event.Changes (x : Text) (e : Event) : Prop := ∃ o, e.Makes x o

/-- What the environment holds for a variable after events: what the latest change has made, or else what it held before. -/
def IsHeldAfter (env : Environment) (events : List Event) (x : Text) (o : Option Text) : Prop :=
  (∃ before e later, IsLatest (Event.Changes x) before e later events ∧ e.Makes x o) ∨
    (∀ e ∈ events, ¬ e.Changes x) ∧ o = env.get? x

variable {c : Configuration} {e : Event} {x n t : Text} {name v : Value}

theorem step_set (h : Environment.Takes name v n t) :
    c.step (.set name v) = { c with environment := c.environment.set n t } := by
  have hput : c.environment.put name v = .ok (c.environment.set n t) := Environment.put_eq_ok_iff.2 ⟨n, t, h, rfl⟩
  simp only [step, set, hput]
  rfl

/-- What is not taken is not set. -/
theorem step_set_of_not (h : ∀ n t, ¬ Environment.Takes name v n t) : c.step (.set name v) = c := by
  cases hput : c.environment.put name v with
  | ok env =>
      obtain ⟨n, t, htakes, _⟩ := Environment.put_eq_ok_iff.1 hput
      exact absurd htakes (h n t)
  | error f =>
      simp only [step, set, hput]
      rfl

theorem step_unset (h : Environment.textOf name = .ok n) :
    c.step (.unset name) = { c with environment := c.environment.unset n } := by
  simp only [step, unset, h]
  rfl

theorem step_unset_of_error {f : Environment.Fault} (h : Environment.textOf name = .error f) :
    c.step (.unset name) = c := by
  simp only [step, unset, h]
  rfl

/-- An event makes of a variable what it says, and leaves the others as they are. -/
theorem get?_step (c : Configuration) (e : Event) (x : Text) :
    e.Makes x ((c.step e).environment.get? x) ∨
      ¬ e.Changes x ∧ (c.step e).environment.get? x = c.environment.get? x := by
  cases e with
  | use =>
      exact Or.inr ⟨fun ⟨_, h⟩ => (nomatch h), rfl⟩
  | discard =>
      exact Or.inr ⟨fun ⟨_, h⟩ => (nomatch h), rfl⟩
  | set name v =>
      by_cases htakes : ∃ n t, Environment.Takes name v n t
      · obtain ⟨n, t, htakes⟩ := htakes
        rw [step_set htakes]
        by_cases hx : x = n
        · subst hx
          rw [Environment.get?_set_self]
          exact Or.inl (.set htakes)
        · refine Or.inr ⟨?_, Environment.get?_set_of_ne hx⟩
          rintro ⟨_, hmakes⟩
          cases hmakes with
          | set htakes' => exact hx (Except.ok.inj (htakes'.name.symm.trans htakes.name))
      · rw [step_set_of_not (fun n t h => htakes ⟨n, t, h⟩)]
        refine Or.inr ⟨?_, rfl⟩
        rintro ⟨_, hmakes⟩
        cases hmakes with
        | set h => exact htakes ⟨_, _, h⟩
  | unset name =>
      cases hname : Environment.textOf name with
      | ok n =>
          rw [step_unset hname]
          by_cases hx : x = n
          · subst hx
            rw [Environment.get?_unset_self]
            exact Or.inl (.unset hname)
          · refine Or.inr ⟨?_, Environment.get?_unset_of_ne hx⟩
            rintro ⟨_, hmakes⟩
            cases hmakes with
            | unset hname' => exact hx (Except.ok.inj (hname'.symm.trans hname))
      | error f =>
          rw [step_unset_of_error hname]
          refine Or.inr ⟨?_, rfl⟩
          rintro ⟨_, hmakes⟩
          cases hmakes with
          | unset h => cases hname.symm.trans h

theorem isHeldAfter (env : Environment) (events : List Event) (x : Text) :
    IsHeldAfter env events x ((after { environment := env } events).environment.get? x) := by
  let held (c : Configuration) : Option Text := c.environment.get? x
  have hkeep (c : Configuration) (e : Event) (h : ¬ e.Changes x) : held (c.step e) = held c :=
    (get?_step c e x).elim (fun hmakes => absurd ⟨_, hmakes⟩ h) And.right
  have hmake (c : Configuration) (e : Event) (h : e.Changes x) : e.Makes x (held (c.step e)) :=
    (get?_step c e x).elim id fun hnot => absurd h hnot.1
  obtain ⟨hall, hheld⟩ | hlatest := foldl_view_eq_or_latest hkeep hmake { environment := env } events
  · exact Or.inr ⟨hall, hheld⟩
  · exact Or.inl hlatest

/-! ## What is kept -/

theorem use_of_none (h : c.defaults.held = none) :
    c.use = ((c.defaults.made, .ofEnvironment c.environment),
      { c with defaults := ⟨c.defaults.made + 1, some (.ofEnvironment c.environment)⟩ }) := by
  simp only [use, Kept.get_of_none h]

theorem use_of_some {d : Defaults} (h : c.defaults.held = some d) : c.use = ((c.defaults.made - 1, d), c) := by
  simp only [use, Kept.get_of_some h]

/-- Changes of the environment do not touch what is kept. -/
theorem defaults_step (huse : e ≠ .use) (hdiscard : e ≠ .discard) : (c.step e).defaults = c.defaults := by
  cases e with
  | use => exact absurd rfl huse
  | discard => exact absurd rfl hdiscard
  | set name v =>
      by_cases htakes : ∃ n t, Environment.Takes name v n t
      · obtain ⟨n, t, htakes⟩ := htakes
        rw [step_set htakes]
      · rw [step_set_of_not (fun n t h => htakes ⟨n, t, h⟩)]
  | unset name =>
      cases hname : Environment.textOf name with
      | ok n => rw [step_unset hname]
      | error f => rw [step_unset_of_error hname]

theorem after_append (c : Configuration) (events events' : List Event) :
    c.after (events ++ events') = (c.after events).after events' := List.foldl_append

variable {events : List Event}

theorem defaults_after_of_changes (huse : .use ∉ events) (hdiscard : .discard ∉ events) :
    (c.after events).defaults = c.defaults := by
  induction events generalizing c with
  | nil => rfl
  | cons e events ih =>
      rw [List.mem_cons, not_or] at huse hdiscard
      exact (ih huse.2 hdiscard.2).trans (defaults_step (Ne.symm huse.1) (Ne.symm hdiscard.1))

/-- Once they are kept, they stay until they are discarded. -/
theorem defaults_after_of_some {d : Defaults} (h : c.defaults.held = some d) (hdiscard : .discard ∉ events) :
    (c.after events).defaults = c.defaults := by
  induction events generalizing c with
  | nil => rfl
  | cons e events ih =>
      rw [List.mem_cons, not_or] at hdiscard
      have hstep : (c.step e).defaults = c.defaults := by
        by_cases huse : e = .use
        · rw [huse, step, use_of_some h]
        · exact defaults_step huse (Ne.symm hdiscard.1)
      exact (ih (hstep ▸ h) hdiscard.2).trans hstep

/-- What is kept has been read at some time. -/
def IsCounted (c : Configuration) : Prop := c.defaults.held ≠ none → 0 < c.defaults.made

/-- The number of readings never falls. -/
structure Grows (c c' : Configuration) : Prop where
  made : c.defaults.made ≤ c'.defaults.made
  counted : c.IsCounted → c'.IsCounted

theorem grows_step (c : Configuration) (e : Event) : Grows c (c.step e) := by
  by_cases huse : e = .use
  · subst huse
    cases hheld : c.defaults.held with
    | none =>
        rw [step, use_of_none hheld]
        exact ⟨Nat.le_succ _, fun _ _ => Nat.succ_pos _⟩
    | some d =>
        rw [step, use_of_some hheld]
        exact ⟨Nat.le_refl _, id⟩
  by_cases hdiscard : e = .discard
  · subst hdiscard
    exact ⟨Nat.le_refl _, fun _ h => absurd rfl h⟩
  · have hkept := defaults_step (c := c) huse hdiscard
    exact ⟨Nat.le_of_eq (congrArg Kept.made hkept).symm, fun h => by rw [IsCounted, hkept]; exact h⟩

theorem grows_after (c : Configuration) (events : List Event) : Grows c (c.after events) := by
  induction events generalizing c with
  | nil => exact ⟨Nat.le_refl _, id⟩
  | cons e events ih =>
      have hstep := grows_step c e
      have hrest := ih (c.step e)
      exact ⟨Nat.le_trans hstep.made hrest.made, fun h => hrest.counted (hstep.counted h)⟩

/-- The number of a use is that of a reading that there has been after it. -/
theorem number_lt_made_step_use (h : c.IsCounted) : c.use.1.1 < (c.step .use).defaults.made := by
  cases hheld : c.defaults.held with
  | none =>
      rw [step, use_of_none hheld]
      exact Nat.lt_succ_self _
  | some d =>
      have hpos : 0 < c.defaults.made := h (by rw [hheld]; exact Option.some_ne_none d)
      rw [step, use_of_some hheld]
      exact Nat.sub_lt hpos Nat.one_pos

/-! ## The latest discard and the first use after it -/

/-- Events taken apart: `before` up to the latest discard, `since` from there to the next use, and `later` from this use
on. -/
structure Phases (events before since later : List Event) : Prop where
  eq : events = before ++ since ++ later
  discarded : before = [] ∨ before.getLast? = some .discard
  kept : .discard ∉ since ++ later
  unused : .use ∉ since
  used : later = [] ∨ later.head? = some .use

theorem exists_phases (events : List Event) : ∃ before since later, Phases events before since later := by
  induction events using List.reverseRecOn with
  | nil => exact ⟨[], [], [], rfl, Or.inl rfl, List.not_mem_nil, List.not_mem_nil, Or.inl rfl⟩
  | append_singleton events e ih =>
      obtain ⟨before, since, later, rfl, hdiscarded, hkept, hunused, hused⟩ := ih
      by_cases hdiscard : e = .discard
      · subst hdiscard
        exact ⟨before ++ since ++ later ++ [.discard], [], [], by simp, Or.inr (by simp), by simp, by simp, Or.inl rfl⟩
      have hkept' : .discard ∉ since ++ (later ++ [e]) := by
        rw [← List.append_assoc, List.mem_append, List.mem_singleton, not_or]
        exact ⟨hkept, Ne.symm hdiscard⟩
      obtain rfl | hhead := hused
      · by_cases huse : e = .use
        · exact ⟨before, since, [e], by simp, hdiscarded, hkept', hunused, Or.inr (by rw [huse]; rfl)⟩
        · refine ⟨before, since ++ [e], [], by simp, hdiscarded, by simpa using hkept', ?_, Or.inl rfl⟩
          rw [List.mem_append, List.mem_singleton, not_or]
          exact ⟨hunused, Ne.symm huse⟩
      · refine ⟨before, since, later ++ [e], by simp, hdiscarded, hkept', hunused, Or.inr ?_⟩
        rw [List.head?_append, hhead]
        rfl

variable {before since later : List Event}

/-- Right before the first use nothing is kept. -/
theorem held_eq_none (h : Phases events before since later) (env : Environment) :
    (after { environment := env } (before ++ since)).defaults.held = none := by
  have hsince : .discard ∉ since := fun hmem => h.kept (List.mem_append_left _ hmem)
  rw [after_append, defaults_after_of_changes h.unused hsince]
  obtain rfl | hlast := h.discarded
  · rfl
  · obtain ⟨rest, rfl⟩ := List.getLast?_eq_some_iff.1 hlast
    rw [after_append]
    rfl

theorem use_after_eq (h : Phases events before since later) (env : Environment) :
    (after { environment := env } events).use.1 = (after { environment := env } (before ++ since)).use.1 := by
  have hnone := held_eq_none h env
  rw [h.eq, after_append]
  generalize after { environment := env } (before ++ since) = first at hnone ⊢
  obtain rfl | hhead := h.used
  · rfl
  · obtain ⟨tail, rfl⟩ := List.head?_eq_some_iff.1 hhead
    have hfirst : (first.step .use).defaults = ⟨first.defaults.made + 1, some (.ofEnvironment first.environment)⟩ := by
      rw [step, use_of_none hnone]
    have hheld : (first.step .use).defaults.held = some (.ofEnvironment first.environment) := by rw [hfirst]
    have htail : .discard ∉ tail := fun hmem => h.kept (List.mem_append_right _ (List.mem_cons_of_mem _ hmem))
    have hkept : ((first.step .use).after tail).defaults = (first.step .use).defaults :=
      defaults_after_of_some hheld htail
    show ((first.step .use).after tail).use.1 = first.use.1
    rw [use_of_some (hkept ▸ hheld), use_of_none hnone, hkept, hfirst]
    rfl

/-- A use before the discard has given an earlier reading. -/
theorem number_lt_of_before (h : Phases events before since later) (env : Environment) {earlier : List Event}
    (hearlier : earlier ++ [.use] <+: before) :
    (after { environment := env } earlier).use.1.1 < (after { environment := env } (before ++ since)).use.1.1 := by
  obtain ⟨rest, rfl⟩ := hearlier
  have hcounted : (after { environment := env } earlier).IsCounted :=
    (grows_after _ earlier).counted fun hheld => absurd rfl hheld
  have hgrows := grows_after ((after { environment := env } earlier).step .use) (rest ++ since)
  rw [use_of_none (held_eq_none h env)]
  calc (after { environment := env } earlier).use.1.1
      < ((after { environment := env } earlier).step .use).defaults.made := number_lt_made_step_use hcounted
    _ ≤ (((after { environment := env } earlier).step .use).after (rest ++ since)).defaults.made := hgrows.made
    _ = (after { environment := env } (earlier ++ [.use] ++ rest ++ since)).defaults.made := by
      rw [List.append_assoc, List.append_assoc, after_append _ earlier]
      rfl

end Configuration

/-! ## Settings -/

/-- The settings are the texts of their variables, or the defaults of those that are not set. -/
structure Defaults.IsReadFrom (d : Defaults) (value : Text → Option Text) : Prop where
  schemaLabel : d.generator.schemaLabel = .text ((value (ofString "DATASYNC_SCHEMA_LABEL")).getD (ofString "AllSchemas"))
  backendLabel : d.generator.backendLabel = .text ((value (ofString "DATASYNC_BACKEND_LABEL")).getD (ofString "Supabase"))
  encryptedComment : d.generator.encryptedComment =
    .text ((value (ofString "DATASYNC_ENCRYPTED_COMMENT")).getD (ofString "This field is encrypted on the client"))
  triggerFunction : d.generator.triggerFunction =
    .text ((value (ofString "DATASYNC_TRIGGER_FUNCTION")).getD (ofString "update_modified_column"))
  authenticatedRole : d.generator.authenticatedRole =
    .text ((value (ofString "DATASYNC_AUTHENTICATED_ROLE")).getD (ofString "authenticated"))
  level : d.log.level = (value (ofString "LOG_LEVEL")).getD (ofString "INFO")
  json : d.log.json = true ↔ Text.lower ((value (ofString "LOG_FORMAT")).getD []) = ofString "json"

theorem Settings.fromVariable_text (env : Environment) (name : String) (t : Text) :
    fromVariable env name (.text t) = .text ((env.get? (ofString name)).getD t) := by
  rw [fromVariable]
  cases env.get? (ofString name) with
  | none => rfl
  | some t' => rfl

theorem Defaults.isReadFrom_ofEnvironment (env : Environment) : (ofEnvironment env).IsReadFrom env.get? where
  schemaLabel := Settings.fromVariable_text ..
  backendLabel := Settings.fromVariable_text ..
  encryptedComment := Settings.fromVariable_text ..
  triggerFunction := Settings.fromVariable_text ..
  authenticatedRole := Settings.fromVariable_text ..
  level := rfl
  json := beq_iff_eq

/-- A use gives what the first use after the latest discard has given, and uses before that discard have given other readings.
What is given are the settings of the environment at that first use: its variables are as their latest changes up to there
have made them, and a string comes back as it was set. -/
theorem settings_are_kept_from_first_use (env : Environment) (events : List Configuration.Event) :
    let start : Configuration := { environment := env }
    (∃ before since later, Configuration.Phases events before since later) ∧
    (∀ before since later, Configuration.Phases events before since later →
      let first := start.after (before ++ since)
      (start.after events).use.1 = first.use.1 ∧
      (∀ earlier, earlier ++ [.use] <+: before → (start.after earlier).use.1.1 ≠ first.use.1.1) ∧
      first.use.1.2 = .ofEnvironment first.environment ∧
      ∃ value : Text → Option Text, first.use.1.2.IsReadFrom value ∧
        ∀ x, Configuration.IsHeldAfter env (before ++ since) x (value x)) ∧
    ∀ s : String, Environment.textOf (.text (ofString s)) = .ok (ofString s) := by
  intro start
  refine ⟨Configuration.exists_phases events, fun before since later h => ?_, Environment.textOf_ofString⟩
  intro first
  have hgiven : first.use.1.2 = .ofEnvironment first.environment := by
    rw [Configuration.use_of_none (Configuration.held_eq_none h env)]
  refine ⟨Configuration.use_after_eq h env, fun earlier hearlier => ?_, hgiven, first.environment.get?, ?_, ?_⟩
  · exact Nat.ne_of_lt (Configuration.number_lt_of_before h env hearlier)
  · rw [hgiven]
    exact Defaults.isReadFrom_ofEnvironment first.environment
  · exact Configuration.isHeldAfter env (before ++ since)

/-- The label that is set to the empty text after a discard is the empty text, not the default, and stays it. -/
theorem empty_label_is_kept :
    let start : Configuration := { environment := [] }
    let label (t : String) : Configuration.Event := .set (.text (ofString "DATASYNC_SCHEMA_LABEL")) (.text (ofString t))
    let before := [label "first", .use, .discard]
    let since := [label "", .set (.text (ofString "LOG_FORMAT")) (.text (ofString "Json"))]
    let later := [.use, label "last"]
    let used := (start.after (before ++ since ++ later)).use.1
    Configuration.Phases (before ++ since ++ later) before since later ∧
      used = (start.after (before ++ since)).use.1 ∧
      (start.after [label "first"]).use.1.1 ≠ used.1 ∧
      used.2.generator.schemaLabel = .text [] ∧ used.2.log.json = true := by
  intro start label before since later used
  have hphases : Configuration.Phases (before ++ since ++ later) before since later :=
    ⟨rfl, Or.inr rfl, by simp [since, later, label], by simp [since, label], Or.inr rfl⟩
  obtain ⟨hused, hearlier, _⟩ :=
    (settings_are_kept_from_first_use [] (before ++ since ++ later)).2.1 before since later hphases
  refine ⟨hphases, hused, ?_, ?_, ?_⟩
  · exact fun h => hearlier [label "first"] ⟨[.discard], rfl⟩ (h.trans (congrArg Prod.fst hused))
  · rfl
  · rfl

/-- A label of two halves that keep the bytes of a letter is set, and comes back as that letter. -/
theorem halves_come_back_as_letter :
    let halves : Text := [.half 0x4c3, .half 0x4a9]
    let start : Configuration := { environment := [] }
    let used := (start.after [.set (.text (ofString "DATASYNC_BACKEND_LABEL")) (.text halves)]).use.1.2
    used.generator.backendLabel = .text (ofString "é") ∧ halves ≠ ofString "é" := by
  intro halves start used
  have hbytes : Text.bytes halves = Text.bytes (ofString "é") := by decide
  have hreturned : Environment.textOf (.text halves) = .ok (ofString "é") := by
    rw [Environment.textOf, Text.returned, hbytes]
    exact Environment.textOf_ofString "é"
  have htakes : Environment.Takes (.text (ofString "DATASYNC_BACKEND_LABEL")) (.text halves)
      (ofString "DATASYNC_BACKEND_LABEL") (ofString "é") :=
    ⟨Environment.textOf_ofString _, hreturned, by decide, by decide, by decide⟩
  refine ⟨?_, by decide⟩
  let env := Environment.set [] (ofString "DATASYNC_BACKEND_LABEL") (ofString "é")
  have hused : used = .ofEnvironment env :=
    congrArg (fun c : Configuration => c.use.1.2) (Configuration.step_set htakes)
  have hlabel := (Defaults.isReadFrom_ofEnvironment env).backendLabel
  rw [Environment.get?_set_self] at hlabel
  rw [hused]
  exact hlabel

end SchemaScript
