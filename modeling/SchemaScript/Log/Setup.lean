/- # Setting up the log

The root of the log has a threshold and handlers.  Setting it up sets the threshold and leaves a single
handler, which writes lines of JSON if that is asked for or if the environment says so, and lines for
reading otherwise.  When the threshold is refused, nothing changes.
-/
import SchemaScript.Log.Record
import SchemaScript.Text.LetterCase

namespace SchemaScript.Log

/-- The layout of the lines that a handler writes. -/
inductive Layout where
  | json
  | readable
deriving DecidableEq, Repr

namespace Layout

/-- The name of a layout. -/
def name : Layout → String
  | .json => "StructuredFormatter"
  | .readable => "HumanFormatter"

/-- The line of a record, if it has one in a layout. -/
def line : Layout → Record → Except Text.NumeralFault Text
  | .json, r => r.jsonLine.map .ofString
  | .readable, r => .ok r.readableLine

/-- Whether the environment's word asks for JSON. -/
def asksForJson (word : Option Text) : Bool := Text.lower (word.getD []) == "json"

/-- The layout that is chosen. -/
def choose (json : Bool) (word : Option Text) : Layout :=
  if json || asksForJson word then .json else .readable

end Layout

/-- What becomes of the records that are kept: they are captured, or written in a layout. -/
inductive Handler where
  | capture
  | write (layout : Layout)
deriving DecidableEq, Repr

/-- The root of the log. -/
structure Root where
  threshold : Int
  handlers : List Handler
deriving DecidableEq, Repr

namespace Root

/-- A root that captures everything from the level for details on. -/
def capturing : Root := ⟨Level.debug, [.capture]⟩

/-- Takes a handler away. -/
def removeHandler (r : Root) (h : Handler) : Root := { r with handlers := r.handlers.erase h }

/-- Adds a new handler. -/
def addHandler (r : Root) (h : Handler) : Root := { r with handlers := r.handlers ++ [h] }

/-- Sets the root up, unless the threshold is refused: the handlers that it has are taken away one by one, and a new
one is added. -/
def configure (r : Root) (level : Value) (json : Bool) (word : Option Text) : Except Level.Fault Root := do
  let threshold ← Level.threshold level
  let cleared := r.handlers.foldl removeHandler { r with threshold }
  return cleared.addHandler (.write (Layout.choose json word))

end Root

end SchemaScript.Log
