/- # Failures to write a text in a code

The failure names the code, the text, the range of characters that cannot be written, and the reason.  A
range of one character shows the character by its code point.
-/
import SchemaScript.Log.Failure.Fault

namespace SchemaScript.Log.CodecFailure

/-- An argument that has to be a text; places are counted from one. -/
def text (place : Nat) (v : Value) : Except FailureFault Text :=
  match v.text? with
  | some s => .ok s
  | none => .error (.notText place v.kind)

/-- An argument that has to be a position. -/
def position (v : Value) : Except FailureFault Int :=
  match v.whole? with
  | none => .error (.notWhole v.kind)
  | some n => if leastWord ≤ n ∧ n ≤ greatestWord then .ok n else .error .hugePosition

/-- A code point in as many hexadecimal digits as its size needs: two, four or eight. -/
def codePoint (n : Nat) : String :=
  if n ≤ 0xff then "\\x" ++ String.ofList (Text.numeral 16 2 n)
  else if n ≤ 0xffff then "\\u" ++ String.ofList (Text.numeral 16 4 n)
  else "\\U" ++ String.ofList (Text.numeral 16 8 n)

/-- The last position before the end of a range, in 64 bits. -/
def last (stop : Int) : Int := if stop = leastWord then greatestWord else stop - 1

/-- The text of a failure whose range is a single character in front of the text. -/
def unreadable : String := "<exception str() failed>"

/-- The part of a text that cannot be written; `none` if it is a single character in front of the text. -/
def range? (subject : Text) (start stop : Int) : Option String :=
  if start < subject.length ∧ stop = start + 1 then
    if start < 0 then none
    else
      subject[start.toNat]?.map fun p =>
        "character '" ++ codePoint p.code ++ "' in position " ++ Text.signedDecimal start
  else
    some ("characters in position " ++ Text.signedDecimal start ++ "-" ++
      Text.signedDecimal (last stop))

/-- The text of a failure to encode. -/
def encodeText : List Value → Except FailureFault Text
  | [code, subject, start, stop, reason] => do
    let code ← text 1 code
    let subject ← text 2 subject
    let start ← position start
    let stop ← position stop
    let reason ← text 5 reason
    return match range? subject start stop with
      | some range => "'" ++ code ++ "' codec can't encode " ++ range ++ ": " ++ reason
      | none => unreadable
  | vs => .error (.wrongCount 5 vs.length)

/-- The fault of a failure to decode: its subject would have to be bytes. -/
def decodeFault : List Value → FailureFault
  | [code, subject, start, stop, reason] =>
    let checked := do
      let _ ← text 1 code
      let _ ← position start
      let _ ← position stop
      text 5 reason
    match checked with
    | .error f => f
    | .ok _ => .notBytes subject.kind
  | vs => .wrongCount 5 vs.length

/-- The text of a failure to translate. -/
def translateText : List Value → Except FailureFault Text
  | [subject, start, stop, reason] => do
    let subject ← text 1 subject
    let start ← position start
    let stop ← position stop
    let reason ← text 4 reason
    return match range? subject start stop with
      | some range => "can't translate " ++ range ++ ": " ++ reason
      | none => unreadable
  | vs => .error (.wrongCount 4 vs.length)

end SchemaScript.Log.CodecFailure
