/- # Failures to read a source

The failure may name a place in a source: the file, the line by its number and by its text, and the columns
of its start and its end, counted from one.  It is written with the line, and with a mark below the columns.
-/
import SchemaScript.Log.Failure.Fault
import SchemaScript.Text.CharacterClass

namespace SchemaScript.Log

/-- A place in a source; what is not known is null. -/
structure Place where
  file : Value := .null
  number : Value := .null
  column : Value := .null
  line : Value := .null
  stop : Value := .null
deriving BEq, Repr, Inhabited

/-- A failure to read a source. -/
structure SourceFailure where
  name : String
  reason : Value := .null
  place : Place := {}
deriving BEq, Repr, Inhabited

namespace Place

/-- The parts that a value has, if it has parts. -/
def parts? : Value → Option (List Value)
  | .list xs => some xs
  | .text t => some (t.map fun p => .text [p])
  | .record fs => some (fs.map fun f => .text f.1)
  | _ => none

/-- The place of its parts: file, number, column, line, and perhaps line and column of the end. -/
def ofParts : List Value → Except FailureFault Place
  | [file, number, column, line] => .ok ⟨file, number, column, line, .null⟩
  | [file, number, column, line, _, stop] => .ok ⟨file, number, column, line, stop⟩
  | [_, _, _, _, _] => .error .halfEnd
  | vs => .error (if vs.length < 4 then .shortPlace vs.length else .longPlace vs.length)

/-- The place that a value stands for. -/
def ofValue (v : Value) : Except FailureFault Place :=
  match parts? v with
  | some vs => ofParts vs
  | none => .error (.noParts v.kind)

/-! ## Columns -/

/-- Whether two values are the same as numbers, or the same text. -/
def same (a b : Value) : Bool :=
  match a.number?, b.number? with
  | some c, some d => c.same d
  | none, none => a == b
  | _, _ => false

/-- Whether a value gives no end: it is null or zero. -/
def givesNoEnd (v : Value) : Except FailureFault Bool :=
  match v with
  | .null => .ok true
  | .list _ => .error (.notComparable v.kind)
  | .record _ => .error (.notComparable v.kind)
  | v => .ok (v.number?.any (·.isWhole 0))

/-- The column behind a column. -/
def next (v : Value) : Except FailureFault Number :=
  match v.number? with
  | some (.whole n) => .ok (.whole (n + 1))
  | some c => .ok c
  | none => .error (.notNext v.kind)

/-- A value that has to be a column. -/
def needColumn (v : Value) : Except FailureFault Number :=
  match v.number? with
  | some c => .ok c
  | none => .error (.notColumn v.kind)

/-- The column where the mark of a start and an end stops. A mark without an end is one wide. -/
def stopColumn (start stop : Value) : Except FailureFault Number := do
  if (← givesNoEnd stop) || same start stop || stop.number?.any (·.isWhole (-1)) then next start
  else
    let _ ← needColumn start
    needColumn stop

/-! ## Marks -/

/-- The width from which a mark cannot be held. -/
def widthLimit : Int := 0x10000000000

/-- The line below a text that marks columns of it, if the mark starts within the text; `indent` is the number
of characters that the text lacks at its left. -/
def mark? (start stop : Value) (indent : Nat) (text : Text) :
    Except FailureFault (Option Text) := do
  let stop ← stopColumn start stop
  match ← needColumn start with
  | .real x => if (indent : Int) + 1 ≤ x.truncate then throw .brokenColumn else return none
  | .whole n =>
    if n < indent + 1 then return none
    match stop with
    | .real _ => throw .brokenMark
    | .whole m =>
      let width := m - n
      if width < leastWord ∨ greatestWord < width then throw .hugeMark
      if widthLimit ≤ width then throw .wideMark
      let before := (text.take (n - 1 - indent).toNat).map fun p =>
        if p.is Text.isBlank then p else .char ' '
      return some (before ++ List.replicate width.toNat (.char '^'))

/-- A text without the line feeds at its end. -/
def withoutLineFeeds (t : Text) : Text := (t.reverse.dropWhile (· == .char '\n')).reverse

/-- Whether a character is taken off the left of a line. -/
def isMargin (c : Char) : Bool := c == ' ' || c == '\n' || c == '\x0c'

/-- The lines for the text of a line of a source. -/
def lineTexts (p : Place) : Except FailureFault (List Text) :=
  match p.line with
  | .null => .ok []
  | .text line => do
    let whole := withoutLineFeeds line
    let text := whole.dropWhile (·.is isMargin)
    let shown : Text := "    " ++ text
    match p.column with
    | .null => return [shown]
    | column =>
      match ← mark? column p.stop (whole.length - text.length) text with
      | none => return [shown]
      | some mark => return [shown, "    " ++ mark]
  | v => .error (.notLine v.kind)

/-- The line that names a place, if it has a number. -/
def heading (p : Place) : List Text :=
  match p.number with
  | .null => []
  | number =>
    ["  File \"" ++ (if p.file.isPresent then p.file.plain else "<string>") ++ "\", line " ++
      number.plain]

/-- The file, where no line names it. -/
def suffix (p : Place) : Text :=
  match p.number, p.file with
  | .null, .null => ""
  | .null, file => " (" ++ file.plain ++ ")"
  | _, _ => ""

end Place

namespace SourceFailure

/-- The failure of the arguments of its class: a reason, and perhaps a place. -/
def ofArguments (name : String) : List Value → Except FailureFault SourceFailure
  | [] => .ok { name }
  | [reason, place] => do return { name, reason, place := ← Place.ofValue place }
  | reason :: _ => .ok { name, reason }

/-- The text of a failure, with a line for each part of it. -/
def text (f : SourceFailure) : Except FailureFault Text := do
  let reason : Text := if f.reason.isPresent then f.reason.plain else "<no detail available>"
  let lines := f.place.heading ++ (← f.place.lineTexts) ++
    [f.name ++ ": " ++ reason ++ f.place.suffix]
  return Text.joined "\n" lines

end SourceFailure

end SchemaScript.Log
