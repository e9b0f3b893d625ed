/- # Constants

A constant as it stands in a statement: a keyword, a number, or a text between single quotes.  Inside the
quotes a single quote is written twice; when the text holds a backslash, the constant starts with an `E`
and every backslash is written twice as well.  A text with a NUL character or with half a character cannot be
written.  An array is written as a text, followed by its type.
-/
import SchemaScript.Sql.ArrayText
import SchemaScript.Text.Bytes

namespace SchemaScript.Sql

/-- Why a part of a statement cannot be written. -/
inductive Fault where
  /-- A text with a NUL character stands where a constant is written. -/
  | nulInText
  /-- Halves stand in a text that is written. -/
  | unwritable (halves : Text.Unwritable)
  /-- The value has no constant. -/
  | notConstant (kind : String)
  /-- The items of an array are of several kinds. -/
  | mixedItems (kinds : List String)
  /-- The value stands where a name or a piece of a statement is written, and is not a text. -/
  | notText (shown : String)
  /-- The value stands where a command is written, and is not a text. -/
  | notCommand (kind : String)
deriving DecidableEq, Repr

namespace Fault

/-- The text of a fault. -/
def message : Fault → String
  | .nulInText => "PostgreSQL text fields cannot contain NUL (0x00) bytes"
  | .unwritable halves => halves.message
  | .notConstant kind =>
    "cannot adapt type '" ++ kind ++ "' using placeholder '%t' (format: TEXT)"
  | .mixedItems kinds =>
    "cannot dump lists of mixed types; got: " ++ String.intercalate ", " kinds
  | .notText shown => "SQL values must be strings, got " ++ shown ++ " instead"
  | .notCommand kind => "'" ++ kind ++ "' object has no attribute 'lower'"

end Fault

/-- Whether a string holds a NUL character. -/
def holdsNul (s : String) : Bool := s.toList.contains '\x00'

/-- A text as it is written: it has no halves. -/
def written (t : Text) : Except Fault String := t.written.mapError .unwritable

/-- A constant of a statement. -/
inductive Constant where
  | null
  | bool (b : Bool)
  | int (n : Int)
  | real (x : Binary64)
  | text (s : String) (nulFree : holdsNul s = false)
  | array (chars : List Char) (itemType : ItemType)
deriving DecidableEq, Repr

namespace Constant

/-- The constant of a string. -/
def ofString (s : String) : Except Fault Constant :=
  if h : holdsNul s = false then .ok (.text s h) else .error .nulInText

/-- The constant of a text. -/
def ofText (t : Text) : Except Fault Constant := do ofString (← written t)

/-- Why an item of an array cannot be written, if it cannot. -/
def itemFault? (v : Value) : Option Fault :=
  v.text?.bind fun t =>
    match ofText t with
    | .ok _ => none
    | .error f => some f

/-- The constant of an array. -/
def ofItems (xs : List Value) : Except Fault Constant :=
  let leaves := ArrayText.itemLeaves xs
  match ArrayText.itemType leaves with
  | .error (.noType kind) => .error (.notConstant kind)
  | .error (.mixed kinds) => .error (.mixedItems kinds)
  | .ok t =>
    match leaves.findSome? itemFault? with
    | some f => .error f
    | none => .ok (.array (ArrayText.text (.list xs)) t)

/-- The constant of a value. -/
def ofValue : Value → Except Fault Constant
  | .null => .ok .null
  | .bool b => .ok (.bool b)
  | .int n => .ok (.int n)
  | .real x => .ok (.real x)
  | .text t => ofText t
  | .symbol s => ofText s.text
  | .list xs => ofItems xs
  | v => .error (.notConstant v.kind)

/-- Writes every occurrence of a character twice. -/
def doubled (q : Char) (cs : List Char) : List Char :=
  cs.flatMap fun c => if c = q then [c, c] else [c]

/-- A text as a constant. -/
def quoted (cs : List Char) : List Char :=
  if cs.contains '\\' then 'E' :: '\x27' :: doubled '\\' (doubled '\x27' cs) ++ ['\x27']
  else '\x27' :: doubled '\x27' cs ++ ['\x27']

/-- The constant as a statement writes it. -/
def sql : Constant → String
  | .null => "NULL"
  | .bool true => "true"
  | .bool false => "false"
  | .int n => Text.signedDecimal n
  | .real x => x.text
  | .text s _ => String.ofList (quoted s.toList)
  | .array chars itemType => String.ofList (quoted chars) ++ itemType.cast

/-- A string has a constant exactly when it holds no NUL. -/
theorem ofString_isOk_iff (s : String) : (∃ c, ofString s = .ok c) ↔ holdsNul s = false := by
  unfold ofString
  split <;> simp_all

/-- A string has the same constant as a text. -/
theorem ofText_ofString (s : String) : ofText (.ofString s) = ofString s := by
  simp only [ofText, written, Text.written_eq_ok_iff.2 rfl]
  rfl

/-- A text with halves has no constant. -/
theorem ofText_of_halves {t : Text} {u : Text.Unwritable} (h : t.written = .error u) :
    ofText t = .error (.unwritable u) := by
  simp only [ofText, written, h]
  rfl

/-- A text has a constant exactly when it is a string that holds no NUL. -/
theorem ofText_isOk_iff (t : Text) :
    (∃ c, ofText t = .ok c) ↔ ∃ s, t = .ofString s ∧ holdsNul s = false := by
  cases h : t.written with
  | error u =>
    have none : ∀ s, t ≠ .ofString s := fun s hs => by simp [Text.written_eq_ok_iff.2 hs] at h
    simp [ofText_of_halves h, none]
  | ok s =>
    cases Text.written_eq_ok_iff.1 h
    simp [ofText_ofString, ofString_isOk_iff]

end Constant

end SchemaScript.Sql
