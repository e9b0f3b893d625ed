/- # The settings in use

A process changes its environment and uses its settings.  They are read at their first use and kept, whatever becomes of the
environment afterwards, until they are discarded; the next use reads them anew.
-/
import SchemaScript.Settings

namespace SchemaScript

/-- The environment of a process, and the settings that it keeps. -/
structure Configuration where
  environment : Environment
  defaults : Kept Defaults := {}

namespace Configuration

/-- Sets a variable, if its name and its text allow it. -/
def set (c : Configuration) (name text : Value) : Except Environment.Fault Configuration := do
  return { c with environment := ← c.environment.put name text }

/-- Unsets a variable, if it can have that name. -/
def unset (c : Configuration) (name : Value) : Except Environment.Fault Configuration := do
  return { c with environment := c.environment.unset (← Environment.textOf name) }

/-- The settings in use, with the number of this reading of them. -/
def use (c : Configuration) : (Nat × Defaults) × Configuration :=
  let (n, d, kept) := c.defaults.get (.ofEnvironment c.environment)
  ((n, d), { c with defaults := kept })

/-- Discards the settings that are kept. -/
def discard (c : Configuration) : Configuration := { c with defaults := c.defaults.discard }

/-- What happens to a configuration. -/
inductive Event where
  | set (name text : Value)
  | unset (name : Value)
  | use
  | discard

/-- What an event makes of the configuration: a change that is refused leaves it as it is. -/
def step (c : Configuration) : Event → Configuration
  | .set name text => ((c.set name text).toOption).getD c
  | .unset name => ((c.unset name).toOption).getD c
  | .use => c.use.2
  | .discard => c.discard

/-- What events make of it, one after another. -/
def after (c : Configuration) (events : List Event) : Configuration := events.foldl step c

end Configuration

end SchemaScript
