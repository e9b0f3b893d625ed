/-
# What runs write

A journal that keeps details keeps every record of a run, so that all a run does to it is to add records.  `Leaves`
says so of a run that comes to an end: it gives something, and it leaves these records, which depend on the time and
on the contexts that are open when it starts.  The ways in which runs are put together put the records together, one
after another; a context shows in the records that are written inside it and is gone afterwards.
-/
import Mathlib.Data.List.Forall2
import SchemaScript.Proofs.Outcome

namespace SchemaScript

namespace Log.Journal

/-- Records of all loggers are kept from the level for details on. -/
structure KeepsDetails (j : Journal) : Prop where
  threshold : j.threshold = Level.debug
  limits : j.limits = []

/-- The journal with further records. -/
def add (j : Journal) (records : List Record) : Journal := { j with records := j.records ++ records }

theorem add_nil (j : Journal) : j.add [] = j := by
  rw [add, List.append_nil]

theorem add_add (j : Journal) (rs rs' : List Record) : (j.add rs).add rs' = j.add (rs ++ rs') := by
  simp only [add, List.append_assoc]

theorem KeepsDetails.add {j : Journal} (h : j.KeepsDetails) (records : List Record) :
    (j.add records).KeepsDetails :=
  ⟨h.threshold, h.limits⟩

theorem KeepsDetails.enter {j : Journal} (h : j.KeepsDetails) (setting : Setting) :
    (j.enter setting).KeepsDetails :=
  ⟨h.threshold, h.limits⟩

theorem write_eq_add {j : Journal} (h : j.KeepsDetails) {level : Int} (hlevel : Level.debug ≤ level)
    (logger message : Text) (extra : Option Data) :
    j.write (.int level) logger message extra =
      j.add [⟨j.time, .int level, .text logger, message, extra, none, {}, j.context⟩] := by
  have hpositive : 0 < level := Int.lt_of_lt_of_le (by decide) hlevel
  have hkept : (Value.int level).number?.any (j.keeps logger) = true := by
    simp [Value.number?, keeps, Number.isPositive, Number.reaches, thresholdOf_of_limits_nil h.limits,
      h.threshold, hpositive, hlevel]
  rw [write, if_pos hkept]
  rfl

end Log.Journal

/-- The record that a logger leaves in a context, when nothing comes with the message. -/
def Log.Logger.record (l : Log.Logger) (time : Instant) (c : Log.Context) (level : Int) (message : Text) :
    Log.Record where
  time := time
  level := .int level
  logger := .text l.name
  message := message
  extra := some (.entries (l.entries c []))
  context := c

namespace Run

variable {α β : Type}

theorem outcome_note (l : Log.Logger) {level : Int} (hlevel : Log.Level.debug ≤ level) (message : Text)
    {s : Session} (h : s.journal.KeepsDetails) :
    (note l level message).outcome s =
      (.ok (), { s with journal := s.journal.add [l.record s.journal.time s.journal.context level message] }) := by
  rw [Log.Logger.record, ← Log.Journal.write_eq_add h hlevel]
  rfl

/-- Wherever details are kept, the run gives something of a kind and leaves records. -/
def Leaves (act : Run α) (time : Instant) (contexts : List Log.Context) (gives : α → Prop)
    (records : List Log.Record) : Prop :=
  ∀ s : Session, s.journal.KeepsDetails → s.journal.time = time → s.journal.contexts = contexts →
    ∃ a clock, act.outcome s = (.ok a, ⟨clock, s.journal.add records⟩) ∧ gives a

variable {time : Instant} {contexts : List Log.Context} {gives : α → Prop}

theorem leaves_pure {a : α} (ha : gives a) : (pure a : Run α).Leaves time contexts gives [] := by
  intro s _ _ _
  refine ⟨a, s.clock, ?_, ha⟩
  rw [Log.Journal.add_nil]
  rfl

theorem leaves_liftExcept {r : Except Sql.Fault α} {a : α} (hr : r = .ok a) (ha : gives a) :
    (liftExcept r : Run α).Leaves time contexts gives [] := by
  intro s _ _ _
  refine ⟨a, s.clock, ?_, ha⟩
  rw [outcome_liftExcept, hr, Log.Journal.add_nil]

theorem leaves_now : now.Leaves time contexts (fun _ => True) [] := by
  intro s _ _ _
  refine ⟨s.clock.next, s.clock.advance, ?_, trivial⟩
  rw [outcome_now, Log.Journal.add_nil]

theorem leaves_note (l : Log.Logger) {level : Int} (hlevel : Log.Level.debug ≤ level) (message : Text) :
    (note l level message).Leaves time contexts (fun _ => True)
      [l.record time (Log.current contexts) level message] := by
  intro s hkeeps htime hcontexts
  refine ⟨(), s.clock, ?_, trivial⟩
  rw [outcome_note l hlevel message hkeeps, htime, Log.Journal.context, hcontexts]

theorem leaves_journal {change : Log.Journal → Log.Journal} {records : List Log.Record}
    (h : ∀ j : Log.Journal, j.KeepsDetails → j.time = time → j.contexts = contexts → change j = j.add records) :
    (journal change).Leaves time contexts (fun _ => True) records := by
  intro s hkeeps htime hcontexts
  refine ⟨(), s.clock, ?_, trivial⟩
  rw [← h s.journal hkeeps htime hcontexts]
  rfl

/-- The records of the second run come after those of the first. -/
theorem Leaves.bind {act : Run α} {next : α → Run β} {gives' : β → Prop} {rs rs' : List Log.Record}
    (h : act.Leaves time contexts gives rs)
    (hnext : ∀ a, gives a → (next a).Leaves time contexts gives' rs') :
    (act >>= next).Leaves time contexts gives' (rs ++ rs') := by
  intro s hkeeps htime hcontexts
  obtain ⟨a, clock, hact, ha⟩ := h s hkeeps htime hcontexts
  obtain ⟨b, clock', hnext, hb⟩ :=
    hnext a ha ⟨clock, s.journal.add rs⟩ (hkeeps.add rs) htime hcontexts
  refine ⟨b, clock', ?_, hb⟩
  rw [outcome_bind, hact]
  refine hnext.trans ?_
  rw [Log.Journal.add_add]

/-- A run without records shows only in what comes after it. -/
theorem Leaves.silent_bind {act : Run α} {next : α → Run β} {gives' : β → Prop} {rs : List Log.Record}
    (h : act.Leaves time contexts gives []) (hnext : ∀ a, gives a → (next a).Leaves time contexts gives' rs) :
    (act >>= next).Leaves time contexts gives' rs :=
  h.bind hnext

/-- What is made of the result of a run leaves no record of its own. -/
theorem Leaves.bind_pure {act : Run α} {f : α → β} {gives' : β → Prop} {rs : List Log.Record}
    (h : act.Leaves time contexts gives rs) (hf : ∀ a, gives a → gives' (f a)) :
    (act >>= fun a => pure (f a)).Leaves time contexts gives' rs := by
  rw [← List.append_nil rs]
  exact h.bind fun a ha => leaves_pure (hf a ha)

/-- Inside a context the run starts with that context open; its records stay, and the context does not. -/
theorem Leaves.within {act : Run α} {setting : Log.Setting} {records : List Log.Record}
    (h : act.Leaves time (Log.opened contexts setting) gives records) :
    (Run.within setting act).Leaves time contexts gives records := by
  intro s hkeeps htime hcontexts
  obtain ⟨a, clock, hact, ha⟩ := h { s with journal := s.journal.enter setting } (hkeeps.enter setting)
    htime (congrArg (Log.opened · setting) hcontexts)
  refine ⟨a, clock, ?_, ha⟩
  rw [outcome_within, hact]
  rfl

/-- Wherever details are kept, the run fails, and the records that it left until then stay. -/
def FailsAfter (act : Run α) (time : Instant) (contexts : List Log.Context) (fault : Sql.Fault)
    (records : List Log.Record) : Prop :=
  ∀ s : Session, s.journal.KeepsDetails → s.journal.time = time → s.journal.contexts = contexts →
    ∃ clock, act.outcome s = (.error fault, ⟨clock, s.journal.add records⟩)

theorem failsAfter_liftExcept_bind {r : Except Sql.Fault α} {fault : Sql.Fault} (h : r = .error fault)
    (next : α → Run β) : (liftExcept r >>= next).FailsAfter time contexts fault [] := by
  intro s _ _ _
  refine ⟨s.clock, ?_⟩
  rw [outcome_bind, outcome_liftExcept, h, Log.Journal.add_nil]

/-- A run that comes to its end does not keep the next one from failing. -/
theorem Leaves.bind_failsAfter {act : Run α} {next : α → Run β} {fault : Sql.Fault} {rs rs' : List Log.Record}
    (h : act.Leaves time contexts gives rs) (hnext : ∀ a, gives a → (next a).FailsAfter time contexts fault rs') :
    (act >>= next).FailsAfter time contexts fault (rs ++ rs') := by
  intro s hkeeps htime hcontexts
  obtain ⟨a, clock, hact, ha⟩ := h s hkeeps htime hcontexts
  obtain ⟨clock', hfails⟩ := hnext a ha ⟨clock, s.journal.add rs⟩ (hkeeps.add rs) htime hcontexts
  refine ⟨clock', ?_⟩
  rw [outcome_bind, hact]
  refine hfails.trans ?_
  rw [Log.Journal.add_add]

/-- A run for each item of a list leaves the records of all of them, in order. -/
theorem leaves_mapM {act : α → Run β} {gives : α → β → Prop} {records : α → List Log.Record} {as : List α}
    (h : ∀ a ∈ as, (act a).Leaves time contexts (gives a) (records a)) :
    (as.mapM act).Leaves time contexts (List.Forall₂ gives as) (as.flatMap records) := by
  induction as with
  | nil => exact leaves_pure .nil
  | cons a as ih =>
      rw [List.mapM_cons, List.flatMap_cons]
      refine (h a List.mem_cons_self).bind fun b hb => ?_
      exact (ih fun a' ha' => h a' (List.mem_cons_of_mem _ ha')).bind_pure fun bs hbs => .cons hb hbs

theorem leaves_forM {act : α → Run Unit} {records : α → List Log.Record} {as : List α}
    (h : ∀ a ∈ as, (act a).Leaves time contexts (fun _ => True) (records a)) :
    (as.forM act).Leaves time contexts (fun _ => True) (as.flatMap records) := by
  induction as with
  | nil => exact leaves_pure trivial
  | cons a as ih =>
      show (act a >>= fun _ => as.forM act).Leaves time contexts _ _
      exact (h a List.mem_cons_self).bind fun _ _ => ih fun a' ha' => h a' (List.mem_cons_of_mem _ ha')

end Run

end SchemaScript
