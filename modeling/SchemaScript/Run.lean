/- # Runs

A run reads a clock, writes to a journal, and ends with a result or with the first statement that cannot be
written.  What it wrote before it failed stays written, and every context that it entered is left again
whether it failed or not.
-/
import SchemaScript.Log.Journal
import SchemaScript.Sql.Statement

namespace SchemaScript

/-- What a run works on: a clock and a journal. -/
structure Session where
  clock : Clock
  journal : Log.Journal
deriving Inhabited

/-- A run that gives an `α`. -/
abbrev Run (α : Type) := ExceptT Sql.Fault (StateM Session) α

namespace Run

/-- Carries out a run: its outcome, and the session after it. -/
def outcome {α : Type} (act : Run α) (s : Session) : Except Sql.Fault α × Session := act.run.run s

/-- Reads the clock. -/
def now : Run Instant := do
  let s ← get
  set { s with clock := s.clock.advance }
  return s.clock.next

/-- Changes the journal. -/
def journal (change : Log.Journal → Log.Journal) : Run Unit :=
  modify fun s => { s with journal := change s.journal }

/-- Writes a record of a logger. -/
def note (l : Log.Logger) (level : Int) (message : Text) : Run Unit :=
  journal (l.write (.int level) message [])

/-- Carries out a run within a context. -/
def within {α : Type} (setting : Log.Setting) (act : Run α) : Run α :=
  ExceptT.mk fun s =>
    let (result, after) := act.outcome { s with journal := s.journal.enter setting }
    (result, { after with journal := after.journal.leave })

/-- A run within a context leaves the context, whatever its outcome. -/
theorem outcome_within {α : Type} (setting : Log.Setting) (act : Run α) (s : Session) :
    (within setting act).outcome s =
      let r := act.outcome { s with journal := s.journal.enter setting }
      (r.1, { r.2 with journal := r.2.journal.leave }) := rfl

end Run

end SchemaScript
