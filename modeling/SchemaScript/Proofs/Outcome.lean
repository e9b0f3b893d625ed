/- # What runs give

A run of the generator reads a clock and writes a journal, but what it gives depends neither on the journal nor
on the open contexts: it is a function of the generator and of the times that the clock shows.

`Gives` says so of a run that does not look at the clock.  It is closed under the ways in which runs are put
together, so that for each run of the generator it remains to name the function; for the steps of one table
these functions are there already.  Two runs look at the clock, and the functions that they give take the
times as arguments: `tablesScriptAt` takes one, `completeScriptAt` takes two, the first for its own header and
the second for that of the tables.
-/
import SchemaScript.Generator

namespace SchemaScript

namespace Run

variable {α β : Type}

/-! ## The steps of a run -/

theorem outcome_liftExcept (r : Except Sql.Fault α) (s : Session) :
    (liftExcept r : Run α).outcome s = (r, s) := by
  cases r <;> rfl

theorem outcome_now (s : Session) :
    now.outcome s = (.ok s.clock.next, { s with clock := s.clock.advance }) := rfl

/-- A fault of the first run ends the second one before it starts. -/
theorem outcome_bind (act : Run α) (next : α → Run β) (s : Session) :
    (act >>= next).outcome s =
      match act.outcome s with
      | (.ok a, after) => (next a).outcome after
      | (.error fault, after) => (.error fault, after) := by
  cases h : act.outcome s with
  | mk r after =>
      have hr : act s = (r, after) := h
      cases r with
      | ok a =>
          show ExceptT.bindCont next (act s).1 (act s).2 = _
          rw [hr]; rfl
      | error fault =>
          show ExceptT.bindCont next (act s).1 (act s).2 = _
          rw [hr]; rfl

theorem outcome_bind_pure (act : Run α) (f : α → β) (s : Session) :
    (act >>= fun a => pure (f a)).outcome s = ((act.outcome s).1.map f, (act.outcome s).2) := by
  rw [outcome_bind]
  cases act.outcome s with
  | mk r after => cases r <;> rfl

/-! ## Runs that do not look at the clock -/

/-- The run gives `r` in every session, and leaves the clock as it is. -/
def Gives (act : Run α) (r : Except Sql.Fault α) : Prop :=
  ∀ s, (act.outcome s).1 = r ∧ (act.outcome s).2.clock = s.clock

theorem gives_pure (a : α) : (pure a : Run α).Gives (.ok a) := fun _ => ⟨rfl, rfl⟩

theorem gives_liftExcept (r : Except Sql.Fault α) : (liftExcept r : Run α).Gives r := by
  intro s
  rw [outcome_liftExcept]
  exact ⟨rfl, rfl⟩

theorem gives_journal (change : Log.Journal → Log.Journal) : (journal change).Gives (.ok ()) :=
  fun _ => ⟨rfl, rfl⟩

theorem gives_note (l : Log.Logger) (level : Int) (message : Text) :
    (note l level message).Gives (.ok ()) :=
  gives_journal _

/-- What follows a run adds to what the run gives, and leaves the clock where the run left it. -/
theorem outcome_bind_of_gives (act : Run α) {next : α → Run β} {f : α → Except Sql.Fault β}
    (h : ∀ a, (next a).Gives (f a)) (s : Session) :
    ((act >>= next).outcome s).1 = (act.outcome s).1 >>= f ∧
      ((act >>= next).outcome s).2.clock = (act.outcome s).2.clock := by
  rw [outcome_bind]
  cases act.outcome s with
  | mk r after =>
      cases r with
      | ok a => exact h a after
      | error fault => exact ⟨rfl, rfl⟩

/-- One run after another gives what the two functions give after another. -/
theorem Gives.bind {act : Run α} {next : α → Run β} {r : Except Sql.Fault α}
    {f : α → Except Sql.Fault β} (hact : act.Gives r) (hnext : ∀ a, (next a).Gives (f a)) :
    (act >>= next).Gives (r >>= f) := by
  intro s
  obtain ⟨hr, hclock⟩ := hact s
  obtain ⟨hr', hclock'⟩ := outcome_bind_of_gives act hnext s
  exact ⟨hr'.trans (hr ▸ rfl), hclock'.trans hclock⟩

/-- A context around a run shows in the journal alone. -/
theorem Gives.within {act : Run α} {r : Except Sql.Fault α} (h : act.Gives r)
    (setting : Log.Setting) : (Run.within setting act).Gives r := by
  intro s
  rw [outcome_within]
  exact h { s with journal := s.journal.enter setting }

/-- A run for each item of a list gives what the functions for the items give. -/
theorem gives_mapM {act : α → Run β} {f : α → Except Sql.Fault β} (h : ∀ a, (act a).Gives (f a))
    (as : List α) : (as.mapM act).Gives (as.mapM f) := by
  induction as with
  | nil => exact gives_pure []
  | cons a as ih =>
      rw [List.mapM_cons, List.mapM_cons]
      exact (h a).bind fun b => ih.bind fun bs => gives_pure (b :: bs)

/-- Records for each item of a list give nothing. -/
theorem gives_forM {act : α → Run Unit} (h : ∀ a, (act a).Gives (.ok ())) (as : List α) :
    (as.forM act).Gives (.ok ()) := by
  induction as with
  | nil => exact gives_pure ()
  | cons a as ih =>
      show (act a >>= fun _ => as.forM act).Gives (.ok ())
      exact (h a).bind fun _ => ih

end Run

namespace Generator

/-! ## The steps for one table -/

theorem detail_gives (message : Text) : (detail message).Gives (.ok ()) :=
  Run.gives_note _ _ _

theorem progress_gives (message : Text) : (progress message).Gives (.ok ()) :=
  Run.gives_note _ _ _

/-- The script of a table, if its comments can be written. -/
def scriptOf (g : Generator) (t : Table) : Except Sql.Fault Script := do
  return tableScript t (← g.tableStatements t)

theorem generateTable_gives (g : Generator) (t : Table) :
    (g.generateTable t).Gives (g.scriptOf t) := by
  refine Run.Gives.within ((Run.gives_liftExcept _).bind fun statements => ?_) _
  cases statements with
  | nil => exact (detail_gives _).bind fun _ => Run.gives_pure _
  | cons create comments => exact (detail_gives _).bind fun _ => Run.gives_pure _

/-- The part for the policy of a table, if its condition can be written. -/
def policyPart (g : Generator) (t : Table) : Except Sql.Fault Script := do
  match ← g.policy? t with
  | none => return []
  | some p => return policyScript p (← g.policies t)

theorem generatePolicy_gives (g : Generator) (t : Table) :
    (g.generatePolicy t).Gives (g.policyPart t) := by
  refine Run.Gives.within ((Run.gives_liftExcept _).bind fun selected => ?_) _
  cases selected with
  | none => exact Run.gives_pure _
  | some p =>
      refine (detail_gives _).bind (f := fun _ => do return policyScript p (← g.policies t)) fun _ => ?_
      exact (Run.gives_liftExcept _).bind fun _ => Run.gives_pure _

/-- The part for a policy, its remark and its statements being about the same table. -/
def securityScript (t : Table) (p : PolicySelection) : Script := policyScript p (policyStatements t p)

/-- The rule is selected twice, for the remark and for the statements, and is the same both times. -/
theorem policyPart_eq (g : Generator) (t : Table) :
    g.policyPart t = do return ((← g.policy? t).map (securityScript t)).getD [] := by
  rw [policyPart]
  cases h : g.policy? t with
  | error fault => rfl
  | ok selected =>
      cases selected with
      | none => rfl
      | some p =>
          show (do return policyScript p (← g.policies t)) = _
          rw [policies_of_policy? h]
          rfl

/-! ## The scripts -/

theorem generateForeignKeys_gives (g : Generator) : g.generateForeignKeys.Gives (.ok g.foreignKeys) :=
  (Run.gives_forM (fun _ => detail_gives _) _).bind (f := fun _ => .ok g.foreignKeys) fun _ =>
    (progress_gives _).bind (f := fun _ => .ok g.foreignKeys) fun _ => Run.gives_pure _

theorem generateForeignKeysScript_gives (g : Generator) :
    g.generateForeignKeysScript.Gives (.ok g.foreignKeysScript) :=
  g.generateForeignKeys_gives.bind (f := fun _ => .ok g.foreignKeysScript) fun _ => Run.gives_pure _

/-- The script of the policies, as far as the conditions can be written. -/
def policiesScriptOf (g : Generator) : Except Sql.Fault Script := do
  return joinPolicies (← g.registry.tables.mapM g.policyPart)

theorem policiesScript_gives (g : Generator) : g.policiesScript.Gives g.policiesScriptOf :=
  (Run.gives_mapM (generatePolicy_gives g) _).bind fun _ => Run.gives_pure _

/-- The script of some tables with a given time in its header. -/
def tablesScriptAt (g : Generator) (time : Instant) (label : Value) (tables : List Table) :
    Except Sql.Fault Script := do
  return g.joinTables (g.labelFor label) time tables (← tables.mapM g.scriptOf)

/-- The tables script takes one time off the clock, whether it can be written or not. -/
theorem outcome_generateTables (g : Generator) (label : Value) (tables : List Table) (s : Session) :
    ((g.generateTables label tables).outcome s).1 = g.tablesScriptAt s.clock.next label tables ∧
      ((g.generateTables label tables).outcome s).2.clock = s.clock.advance := by
  simp only [generateTables]
  rw [Run.outcome_within]
  refine Run.outcome_bind_of_gives Run.now
    (f := fun time => g.tablesScriptAt time label tables) (fun time => ?_) _
  refine (Run.gives_mapM g.generateTable_gives tables).bind fun parts => ?_
  exact (Run.gives_journal _).bind (f := fun _ => .ok (g.joinTables _ time tables parts)) fun _ =>
    Run.gives_pure _

theorem outcome_tablesScript (g : Generator) (s : Session) :
    (g.tablesScript.outcome s).1 = g.tablesScriptAt s.clock.next .null g.registry.tables ∧
      (g.tablesScript.outcome s).2.clock = s.clock.advance :=
  g.outcome_generateTables _ _ s

/-- The scripts of tables and foreign keys completed with the others, under a header with a given time. -/
def completed (g : Generator) (time : Instant) (tables foreignKeys : Script) :
    Except Sql.Fault Script := do
  let triggers ← g.triggersScript
  let policies ← g.policiesScriptOf
  return g.joinAll time tables foreignKeys triggers policies

/-- The complete script with given times in its header and in that of its tables. -/
def completeScriptAt (g : Generator) (time tablesTime : Instant) : Except Sql.Fault Script := do
  g.completed time (← g.tablesScriptAt tablesTime .null g.registry.tables) g.foreignKeysScript

/-- The complete script takes its own time off the clock first, and then that of the tables. -/
theorem outcome_completeScript (g : Generator) (s : Session) :
    (g.completeScript.outcome s).1 = g.completeScriptAt s.clock.next s.clock.advance.next := by
  simp only [completeScript]
  rw [Run.outcome_bind, Run.outcome_now]
  let after : Session := { s with clock := s.clock.advance }
  refine (Run.outcome_bind_of_gives g.tablesScript
    (f := fun tables => g.completed s.clock.next tables g.foreignKeysScript)
    (fun tables => ?_) after).1.trans ?_
  · refine g.generateForeignKeysScript_gives.bind (f := g.completed _ tables) fun foreignKeys => ?_
    refine (Run.gives_liftExcept _).bind fun triggers => ?_
    refine g.policiesScript_gives.bind fun policies => ?_
    exact (progress_gives _).bind (f := fun _ => .ok (g.joinAll _ tables foreignKeys triggers policies))
      fun _ => Run.gives_pure _
  · rw [(g.outcome_tablesScript after).1]
    rfl

end Generator

end SchemaScript
