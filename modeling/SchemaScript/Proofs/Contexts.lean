/-
# Contexts inside one another

## What is proved

A context that is opened inside another one is made from it once and for all.  Still each field of the context in
force says what the innermost open block says that sets it, with null as good a value as any, and nothing where no
block sets it; the further fields are those of all open blocks, of two with one name the inner one (`Resolves`).  So
it is wherever a record is written, in every run in which blocks lie inside one another, whether they end by
themselves or by a failure, and whether the failure is caught; and after a block the contexts are what they were
before it.

Blocks may also end in any other order, as those of two interleaved tasks do.  Then the contexts that are left may
not be those of the open blocks, but there are as many of them, so that no block ends on an empty stack.

## How

`Nesting` are the runs, as trees.  `seen` walks through such a tree with the settings of the blocks around each
place in hand, and knows nothing of a stack; that the stack agrees with it is an induction over the tree, in which a
block is one step of `Resolves`.  For blocks in any order there are steps instead of a tree, and the invariant is the
number of contexts.
-/
import Mathlib.Logic.Relation
import SchemaScript.Proofs.Faults
import SchemaScript.Proofs.Merging
import SchemaScript.Proofs.Records

namespace SchemaScript

namespace Log

/-! ## What the open blocks say -/

/-- What the innermost block says that sets a field, the innermost block being the first; null if none does. -/
def Setting.innermost (field : Setting → Option Value) (blocks : List Setting) : Value :=
  (blocks.findSome? field).getD .null

/-- The context says what the open blocks say, of which the innermost is the first. -/
structure Context.Resolves (c : Context) (blocks : List Setting) : Prop where
  table : c.table = Setting.innermost (·.table) blocks
  operation : c.operation = Setting.innermost (·.operation) blocks
  schemaLabel : c.schemaLabel = Setting.innermost (·.schemaLabel) blocks
  correlationId : c.correlationId = Setting.innermost (·.correlationId) blocks
  component : c.component = Setting.innermost (·.component) blocks
  extra : ∀ name, c.extra.get? name = blocks.findSome? fun s => s.extra.get? name
  distinct : c.extra.Distinct

theorem Setting.innermost_cons (field : Setting → Option Value) (s : Setting) (blocks : List Setting) :
    innermost field (s :: blocks) = (field s).getD (innermost field blocks) := by
  rw [innermost, List.findSome?_cons]
  cases field s <;> rfl

theorem Context.resolves_nil : ({} : Context).Resolves [] where
  table := rfl
  operation := rfl
  schemaLabel := rfl
  correlationId := rfl
  component := rfl
  extra _ := rfl
  distinct := List.nodup_nil

/-- A context made inside another one says what one block more says. -/
theorem Context.Resolves.inside {c : Context} {blocks : List Setting} (h : c.Resolves blocks) {s : Setting}
    (hs : s.extra.Distinct) : (c.inside s).Resolves (s :: blocks) where
  table := by rw [Setting.innermost_cons, ← h.table]; rfl
  operation := by rw [Setting.innermost_cons, ← h.operation]; rfl
  schemaLabel := by rw [Setting.innermost_cons, ← h.schemaLabel]; rfl
  correlationId := by rw [Setting.innermost_cons, ← h.correlationId]; rfl
  component := by rw [Setting.innermost_cons, ← h.component]; rfl
  extra name := by
    rw [List.findSome?_cons, ← h.extra name]
    refine (Fields.get?_merge hs c.extra name).trans ?_
    cases s.extra.get? name <;> rfl
  distinct := h.distinct.merge s.extra

end Log

/-! ## Failures that are caught -/

namespace Run

variable {α : Type}

/-- What a caught failure has changed stays changed. -/
theorem outcome_tryCatch (act : Run α) (handler : Sql.Fault → Run α) (s : Session) :
    (tryCatch act handler).outcome s =
      match act.outcome s with
      | (.ok a, after) => (.ok a, after)
      | (.error fault, after) => (handler fault).outcome after := by
  show ExceptT.tryCatch act handler s = match act s with
    | (.ok a, after) => (.ok a, after)
    | (.error fault, after) => handler fault after
  simp only [ExceptT.tryCatch, ExceptT.mk, bind, StateT.bind]
  cases act s with
  | mk r after => cases r <;> rfl

theorem Balanced.tryCatch {act : Run α} {handler : Sql.Fault → Run α} (h : act.Balanced)
    (hhandler : ∀ fault, (handler fault).Balanced) : (tryCatch act handler).Balanced := by
  intro s
  rw [outcome_tryCatch]
  have hact := h s
  cases hr : act.outcome s with
  | mk r after =>
      rw [hr] at hact
      cases r with
      | ok a => exact hact
      | error fault => exact (hhandler fault after).trans hact

end Run

/-! ## Runs of blocks inside one another -/

/-- A run of blocks inside one another. -/
inductive Nesting where
  | idle
  /-- A record is written. -/
  | note
  | fail (fault : Sql.Fault)
  | andThen (first next : Nesting)
  | block (setting : Log.Setting) (body : Nesting)
  /-- What comes after a failure of the body. -/
  | rescue (body handler : Nesting)

namespace Nesting

/-- The run. -/
def run : Nesting → Run Unit
  | idle => pure ()
  | note => Run.note ⟨"watch", none⟩ Log.Level.info "now"
  | fail fault => throw fault
  | andThen first next => do
    first.run
    next.run
  | block setting body => Run.within setting body.run
  | rescue body handler => tryCatch body.run fun _ => handler.run

/-- How the run ends. -/
def result : Nesting → Except Sql.Fault Unit
  | idle | note => .ok ()
  | fail fault => .error fault
  | andThen first next => first.result >>= fun _ => next.result
  | block _ body => body.result
  | rescue body handler => body.result.tryCatch fun _ => handler.result

/-- The blocks around each record that is written, the innermost first, where `outer` are those around all. -/
def seen (outer : List Log.Setting) : Nesting → List (List Log.Setting)
  | idle | fail _ => []
  | note => [outer]
  | andThen first next => first.seen outer ++
    match first.result with
    | .ok _ => next.seen outer
    | .error _ => []
  | block setting body => body.seen (setting :: outer)
  | rescue body handler => body.seen outer ++
    match body.result with
    | .ok _ => []
    | .error _ => handler.seen outer

/-- The further fields of each block have distinct names. -/
def IsMapped : Nesting → Prop
  | idle | note | fail _ => True
  | andThen first next => first.IsMapped ∧ next.IsMapped
  | block setting body => setting.extra.Distinct ∧ body.IsMapped
  | rescue body handler => body.IsMapped ∧ handler.IsMapped

/-- The contexts are afterwards what they were before. -/
theorem balanced_run (p : Nesting) : p.run.Balanced := by
  induction p with
  | idle => exact Run.balanced_pure ()
  | note => exact Run.balanced_note _ _ _
  | fail fault => exact fun _ => rfl
  | andThen first next ihfirst ihnext => exact ihfirst.bind fun _ => ihnext
  | block setting body ih => exact ih.within setting
  | rescue body handler ihbody ihhandler => exact ihbody.tryCatch fun _ => ihhandler

/-- The records of a run show what the blocks around them say. -/
theorem outcome_run {p : Nesting} (hp : p.IsMapped) {s : Session} (hkeeps : s.journal.KeepsDetails)
    {blocks : List Log.Setting} (h : s.journal.context.Resolves blocks) :
    ∃ records, p.run.outcome s = (p.result, { s with journal := s.journal.add records }) ∧
      List.Forall₂ (fun around r => r.context.Resolves around) (p.seen blocks) records := by
  induction p generalizing s blocks with
  | idle => exact ⟨[], by rw [Log.Journal.add_nil]; rfl, .nil⟩
  | note =>
      exact ⟨_, Run.outcome_note _ (by decide) _ hkeeps, .cons h .nil⟩
  | fail fault => exact ⟨[], by rw [Log.Journal.add_nil]; rfl, .nil⟩
  | andThen first next ihfirst ihnext =>
      obtain ⟨rs, hfirst, hseen⟩ := ihfirst hp.1 hkeeps h
      simp only [run, result, seen]
      rw [Run.outcome_bind, hfirst]
      cases first.result with
      | error fault => exact ⟨rs, rfl, (List.append_nil _).symm ▸ hseen⟩
      | ok _ =>
          obtain ⟨rs', hnext, hseen'⟩ := ihnext hp.2 (s := { s with journal := s.journal.add rs })
            (hkeeps.add rs) h
          refine ⟨rs ++ rs', ?_, List.rel_append hseen hseen'⟩
          rw [← Log.Journal.add_add]
          exact hnext
  | block setting body ih =>
      obtain ⟨rs, hbody, hseen⟩ := ih hp.2 (s := { s with journal := s.journal.enter setting })
        (hkeeps.enter setting) (h.inside hp.1)
      refine ⟨rs, ?_, hseen⟩
      simp only [run]
      rw [Run.outcome_within, hbody]
      rfl
  | rescue body handler ihbody ihhandler =>
      obtain ⟨rs, hbody, hseen⟩ := ihbody hp.1 hkeeps h
      simp only [run, result, seen]
      rw [Run.outcome_tryCatch, hbody]
      cases body.result with
      | ok _ => exact ⟨rs, rfl, (List.append_nil _).symm ▸ hseen⟩
      | error fault =>
          obtain ⟨rs', hhandler, hseen'⟩ := ihhandler hp.2 (s := { s with journal := s.journal.add rs })
            (hkeeps.add rs) h
          refine ⟨rs ++ rs', ?_, List.rel_append hseen hseen'⟩
          rw [← Log.Journal.add_add]
          exact hhandler

end Nesting

/-! ## Blocks that end in any order -/

/-- Blocks that were entered, numbered one after another, and the contexts that they opened. -/
structure Blocks where
  journal : Log.Journal
  entered : Nat := 0
  /-- The blocks that are open. -/
  live : List Nat := []

namespace Blocks

/-- A block is entered, or one that is open ends. -/
inductive Step : Blocks → Blocks → Prop
  | enter (b : Blocks) (setting : Log.Setting) :
      Step b ⟨b.journal.enter setting, b.entered + 1, b.entered :: b.live⟩
  | leave {b : Blocks} {n : Nat} : n ∈ b.live → Step b ⟨b.journal.leave, b.entered, b.live.erase n⟩

/-- Steps after one another, from no block on. -/
def Reachable (b : Blocks) : Prop :=
  ∃ journal : Log.Journal, journal.contexts = [] ∧ Relation.ReflTransGen Step ⟨journal, 0, []⟩ b

theorem Step.depth {b b' : Blocks} (h : Step b b') (hb : b.journal.contexts.length = b.live.length) :
    b'.journal.contexts.length = b'.live.length := by
  cases h with
  | enter setting => exact congrArg (· + 1) hb
  | leave hlive =>
      show b.journal.contexts.tail.length = _
      rw [List.length_tail, List.length_erase_of_mem hlive, hb]

/-- There are as many contexts as open blocks. -/
theorem Reachable.depth {b : Blocks} (h : b.Reachable) :
    b.journal.contexts.length = b.live.length := by
  obtain ⟨journal, hempty, hsteps⟩ := h
  induction hsteps with
  | refl => exact congrArg List.length hempty
  | tail _ hstep ih => exact hstep.depth ih

end Blocks

/-! ## Contexts resolve and unwind -/

/-- In a run of blocks inside one another every record is written in the context that the blocks around it call for,
and the run ends as its blocks and failures say; whatever it does and wherever it starts, the contexts are afterwards
what they were before.  In whatever order blocks end, there are as many contexts as open blocks, so that none ends on
an empty stack. -/
theorem contexts_resolve_and_unwind :
    (∀ (p : Nesting) (clock : Clock) (time : Instant) (before : List Log.Record), p.IsMapped →
      let s : Session := ⟨clock, { time, records := before }⟩
      ∃ records, p.run.outcome s = (p.result, ⟨clock, { time, records := before ++ records }⟩) ∧
        List.Forall₂ (fun around r => r.context.Resolves around) (p.seen []) records) ∧
    (∀ (p : Nesting) (s : Session), (p.run.outcome s).2.journal.contexts = s.journal.contexts) ∧
    ∀ b : Blocks, b.Reachable → b.journal.contexts.length = b.live.length ∧
      ∀ n ∈ b.live, b.journal.contexts ≠ [] := by
  refine ⟨fun p clock time before hp => ?_, fun p => p.balanced_run, fun b hb => ⟨hb.depth, fun n hn => ?_⟩⟩
  · exact Nesting.outcome_run hp ⟨rfl, rfl⟩ Log.Context.resolves_nil
  · rw [← List.length_pos_iff, hb.depth]
    exact List.length_pos_of_mem hn

/-- The block around a failed step. -/
def Log.Setting.outerStep : Log.Setting where
  table := some (.text "projects")
  operation := some (.text "tables")
  extra := [("run", .int 1), ("step", .int 1)]

/-- The block of the step, for no table. -/
def Log.Setting.innerStep : Log.Setting where
  table := some .null
  extra := [("step", .int 2)]

/-- A step that fails inside its block; the failure is caught in the block around it. -/
def Nesting.failedStep : Nesting :=
  .block .outerStep (.rescue (.block .innerStep (.andThen .note (.fail .nulInText))) .note)

/-- Of two blocks the first one ends before the second one. -/
def Blocks.crossed (journal : Log.Journal) : Blocks :=
  ⟨((journal.enter .outerStep).enter .innerStep).leave, 2, [1]⟩

/-- The null of the inner block hides the table of the outer one until the inner block has failed; what the inner
block does not set comes from the outer one.  Blocks that cross each other leave one context for one open block. -/
theorem failed_step_unwinds :
    Nesting.failedStep.IsMapped ∧ (Blocks.crossed { time := default }).Reachable ∧
      (∃ inside after : Log.Record,
        Nesting.failedStep.run.outcome ⟨default, { time := default }⟩ =
          (.ok (), ⟨default, { time := default, records := [inside, after] }⟩) ∧
        inside.context.table = .null ∧ inside.context.operation = .text "tables" ∧
        inside.context.extra.get? "step" = some (.int 2) ∧ inside.context.extra.get? "run" = some (.int 1) ∧
        after.context.table = .text "projects" ∧ after.context.extra.get? "step" = some (.int 1)) ∧
      (Blocks.crossed { time := default }).journal.contexts.length = 1 := by
  have hmapped : Nesting.failedStep.IsMapped := ⟨by decide, ⟨by decide, trivial, trivial⟩, trivial⟩
  have hcrossed : (Blocks.crossed { time := default }).Reachable := by
    refine ⟨{ time := default }, rfl, .tail (.tail (.tail .refl (.enter _ .outerStep)) (.enter _ .innerStep)) ?_⟩
    exact Blocks.Step.leave (n := 0) (by decide)
  obtain ⟨resolves, _, depth⟩ := contexts_resolve_and_unwind
  refine ⟨hmapped, hcrossed, ?_, (depth _ hcrossed).1⟩
  obtain ⟨records, houtcome, hseen⟩ := resolves .failedStep default default [] hmapped
  cases hseen with
  | cons hinside hrest =>
    cases hrest with
    | cons hafter hnone =>
      cases hnone
      exact ⟨_, _, houtcome, hinside.table, hinside.operation, hinside.extra "step", hinside.extra "run",
        hafter.table, hafter.extra "step"⟩

end SchemaScript
