/- # Failures of the operating system

A failure with a number and a text may name one file or two.  Failures of the general class with a common
number get a class of their own.
-/
import SchemaScript.Log.Failure.Fault

namespace SchemaScript.Log.SystemFailure

/-- The general class of operating-system failures. -/
def general : String := "OSError"

/-- The other names of the general class. -/
def aliases : List String := ["IOError", "EnvironmentError"]

/-- The class of operations that would have to wait; it may tell how many characters were written. -/
def waiting : String := "BlockingIOError"

/-- The classes by number. -/
def classes : List (Int × String) := [
  (1, "PermissionError"),
  (2, "FileNotFoundError"),
  (3, "ProcessLookupError"),
  (4, "InterruptedError"),
  (10, "ChildProcessError"),
  (11, waiting),
  (13, "PermissionError"),
  (17, "FileExistsError"),
  (20, "NotADirectoryError"),
  (21, "IsADirectoryError"),
  (32, "BrokenPipeError"),
  (103, "ConnectionAbortedError"),
  (104, "ConnectionResetError"),
  (108, "BrokenPipeError"),
  (110, "TimeoutError"),
  (111, "ConnectionRefusedError"),
  (114, waiting),
  (115, waiting)]

/-- Whether a class is one of operating-system failures. -/
def isClass (name : String) : Bool :=
  name == general || aliases.contains name || name == "ConnectionError" ||
    classes.any (·.2 == name)

/-- A class under its first name. -/
def canonical (name : String) : String := if aliases.contains name then general else name

/-- The class of a failure with a number. -/
def classFor (name : String) (number : Value) : String :=
  if canonical name = general then (number.whole?.bind fun n => classes.lookup n).getD general else name

/-- Checks a value that may tell how many characters were written, and says whether it does. -/
def tellsCount (value : Value) : Except FailureFault Bool :=
  match value, value.whole? with
  | _, some n =>
    if leastWord ≤ n ∧ n ≤ greatestWord then .ok true else .error .hugeCount
  | .real _, none => .error (.notWhole value.kind)
  | _, none => .ok false

/-- A file as it is told, with a word before it; null is none. -/
def told (before : String) : Value → String
  | .null => ""
  | v => before ++ v.exact

/-- The class and the text of a failure with a number, a text, and perhaps files. -/
def numbered (name : String) (number text file other : Value) :
    Except FailureFault (String × Text) := do
  let name := classFor name number
  let first : Text := "[Errno " ++ number.plain ++ "] " ++ text.plain
  let hidden ← if name = waiting then tellsCount file else pure false
  let files := if hidden || file == .null then "" else told ": " file ++ told " -> " other
  return (name, first ++ files)

/-- The class and the text of a failure. -/
def ofArguments (name : String) (arguments : List Value) :
    Except FailureFault (String × Text) :=
  match arguments with
  | [number, text] => numbered name number text .null .null
  | [number, text, file] => numbered name number text file .null
  | [number, text, file, _] => numbered name number text file .null
  | [number, text, file, _, other] => numbered name number text file other
  | vs => .ok (canonical name, argumentText vs)

end SchemaScript.Log.SystemFailure
