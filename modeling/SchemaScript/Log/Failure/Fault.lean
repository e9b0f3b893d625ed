/- # Faults of failures

A failure is given by the name of its class and by arguments of unknown shape.  Some classes take only
certain arguments, and some can be written only if their arguments fit together.
-/
import SchemaScript.Value.Number
import SchemaScript.Value.Shown

namespace SchemaScript.Log

/-- Why a failure cannot be made from its arguments, or cannot be written. -/
inductive FailureFault where
  /-- There is no class of that name. -/
  | unknownClass (name : Text)
  /-- A class takes a fixed number of arguments. -/
  | wrongCount (needed given : Nat)
  /-- An argument, counted from one, is not a text. -/
  | notText (place : Nat) (kind : String)
  /-- A value stands for a position and is not a whole number. -/
  | notWhole (kind : String)
  /-- A position is beyond the greatest one. -/
  | hugePosition
  /-- A number of characters written is beyond the greatest one. -/
  | hugeCount
  /-- A value stands for bytes. -/
  | notBytes (kind : String)
  /-- A place in a source has too few parts, or too many. -/
  | shortPlace (given : Nat)
  | longPlace (given : Nat)
  /-- A place in a source has the line of its end without the column. -/
  | halfEnd
  /-- A value stands for the parts of a place. -/
  | noParts (kind : String)
  /-- A value stands for a line of a source. -/
  | notLine (kind : String)
  /-- Values that are no numbers stand for columns. -/
  | notComparable (kind : String)
  | notNext (kind : String)
  | notColumn (kind : String)
  /-- A column is a floating number. -/
  | brokenColumn
  /-- The end of a mark is a floating number. -/
  | brokenMark
  /-- A mark is longer than the greatest text, or than a text that can be held. -/
  | hugeMark
  | wideMark
  /-- A group of failures has a title and members. -/
  | wrongGroup (given : Nat)
  | notTitle (kind : String)
  | noMembers
  | emptyGroup
  /-- A member of a group, counted from zero, is not a failure. -/
  | notMember (place : Nat)
deriving DecidableEq, Repr

namespace FailureFault

/-- The name of a kind where nothing is given; null is called by its text. -/
def givenKind (kind : String) : String := if kind = Value.null.kind then Value.null.exact else kind

/-- The text of a fault. -/
def message : FailureFault → Text
  | .unknownClass name => "module 'builtins' has no attribute '" ++ name ++ "'"
  | .wrongCount needed given =>
    "function takes exactly " ++ Text.decimal 1 needed ++ " arguments (" ++ Text.decimal 1 given ++
      " given)"
  | .notText place kind =>
    "argument " ++ Text.decimal 1 place ++ " must be str, not " ++ givenKind kind
  | .notWhole kind => "'" ++ kind ++ "' object cannot be interpreted as an integer"
  | .hugePosition => "Python int too large to convert to C ssize_t"
  | .hugeCount => "cannot fit 'int' into an index-sized integer"
  | .notBytes kind => "a bytes-like object is required, not '" ++ kind ++ "'"
  | .shortPlace given =>
    "function takes at least 4 arguments (" ++ Text.decimal 1 given ++ " given)"
  | .longPlace given => "function takes at most 6 arguments (" ++ Text.decimal 1 given ++ " given)"
  | .halfEnd => "end_offset must be provided when end_lineno is provided"
  | .noParts kind => "'" ++ kind ++ "' object is not iterable"
  | .notLine kind => "'" ++ kind ++ "' object has no attribute 'rstrip'"
  | .notComparable kind => "unhashable type: '" ++ kind ++ "'"
  | .notNext kind =>
    if kind = "str" || kind = "list" then
      "can only concatenate " ++ kind ++ " (not \"int\") to " ++ kind
    else "unsupported operand type(s) for +: '" ++ kind ++ "' and 'int'"
  | .notColumn kind => "unsupported operand type(s) for -: '" ++ kind ++ "' and 'int'"
  | .brokenColumn => "slice indices must be integers or None or have an __index__ method"
  | .brokenMark => "can't multiply sequence by non-int of type 'float'"
  | .hugeMark => "cannot fit 'int' into an index-sized integer"
  | .wideMark => ""
  | .wrongGroup given =>
    "BaseExceptionGroup.__new__() takes exactly 2 arguments (" ++ Text.decimal 1 given ++ " given)"
  | .notTitle kind =>
    "BaseExceptionGroup.__new__() argument 1 must be str, not " ++ givenKind kind
  | .noMembers => "second argument (exceptions) must be a sequence"
  | .emptyGroup => "second argument (exceptions) must be a non-empty sequence"
  | .notMember place =>
    "Item " ++ Text.decimal 1 place ++ " of second argument (exceptions) is not an exception"

end FailureFault

/-! ## Texts of arguments -/

/-- Arguments between brackets. -/
def argumentTuple : List Value → String
  | [v] => "(" ++ v.exact ++ ",)"
  | vs => "(" ++ String.intercalate ", " (vs.map Value.exact) ++ ")"

/-- The text of the arguments of a failure that has no text of its own. -/
def argumentText : List Value → Text
  | [] => ""
  | [v] => v.plain
  | vs => argumentTuple vs

/-- The least and the greatest whole number of 64 bits. -/
def leastWord : Int := -0x8000000000000000
def greatestWord : Int := 0x7fffffffffffffff

end SchemaScript.Log
