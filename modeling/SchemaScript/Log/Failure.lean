/- # Failures in log records

A record may carry a failure: the class of the failure and its arguments, written as the class and the text
of the arguments.  Some families of classes have a text of their own.
-/
import SchemaScript.Log.Failure.Codec
import SchemaScript.Log.Failure.Source
import SchemaScript.Log.Failure.System

namespace SchemaScript.Log

/-- A failure: its class with a text, or a failure to read a source. -/
inductive Failure where
  | plain (name : String) (text : Text)
  | source (failure : SourceFailure)
deriving BEq, Repr, Inhabited

namespace Failure

/-- The classes of failures to read a source. -/
def sourceClasses : List String := ["SyntaxError", "IndentationError", "TabError"]

/-- The classes of groups of failures. -/
def groupClasses : List String := ["BaseExceptionGroup", "ExceptionGroup"]

/-- The classes whose text is that of their arguments. -/
def plainClasses : List String := [
  "ArithmeticError", "AssertionError", "AttributeError", "BaseException", "BufferError",
  "BytesWarning", "DeprecationWarning", "EOFError", "EncodingWarning", "Exception",
  "FloatingPointError", "FutureWarning", "GeneratorExit", "ImportError", "ImportWarning",
  "IndexError", "KeyboardInterrupt", "LookupError", "MemoryError", "ModuleNotFoundError",
  "NameError", "NotImplementedError", "OverflowError", "PendingDeprecationWarning",
  "RecursionError", "ReferenceError", "ResourceWarning", "RuntimeError", "RuntimeWarning",
  "StopAsyncIteration", "StopIteration", "SyntaxWarning", "SystemError", "SystemExit", "TypeError",
  "UnboundLocalError", "UnicodeError", "UnicodeWarning", "UserWarning", "ValueError", "Warning",
  "ZeroDivisionError"]

/-- The fault of a group of failures: nothing that can be given is a member of it. -/
def groupFault : List Value → FailureFault
  | [title, members] =>
    match title.text?, members with
    | none, _ => .notTitle title.kind
    | some _, .list [] => .emptyGroup
    | some _, .list _ => .notMember 0
    | some _, .text t => if t.isEmpty then .emptyGroup else .notMember 0
    | some _, _ => .noMembers
  | vs => .wrongGroup vs.length

/-- The text of a failure about a missing key: a single argument is shown exactly. -/
def keyText : List Value → Text
  | [v] => v.exact
  | vs => argumentText vs

/-- The failure of a class with arguments. -/
def ofClass (name : String) (arguments : List Value) : Except FailureFault Failure :=
  if SystemFailure.isClass name then do
    let (name, text) ← SystemFailure.ofArguments name arguments
    return .plain name text
  else if sourceClasses.contains name then
    return .source (← SourceFailure.ofArguments name arguments)
  else if groupClasses.contains name then .error (groupFault arguments)
  else if name = "UnicodeEncodeError" then
    return .plain name (← CodecFailure.encodeText arguments)
  else if name = "UnicodeDecodeError" then .error (CodecFailure.decodeFault arguments)
  else if name = "UnicodeTranslateError" then
    return .plain name (← CodecFailure.translateText arguments)
  else if name = "KeyError" then .ok (.plain name (keyText arguments))
  else if plainClasses.contains name then .ok (.plain name (argumentText arguments))
  else .error (.unknownClass name)

/-- The failure of a class, given by its name, with arguments. -/
def ofArguments (name : Text) (arguments : List Value) : Except FailureFault Failure :=
  match name.string? with
  | some name => ofClass name arguments
  | none => .error (.unknownClass name)

/-- The text of a failure in a line. -/
def text : Failure → Except FailureFault Text
  | .plain name text => .ok (if text.isEmpty then name else name ++ ": " ++ text)
  | .source failure => failure.text

/-- The text where a failure is asked for and there is none. -/
def absent : String := "NoneType: None"

end Failure

end SchemaScript.Log
