/- # Values of unknown shape

The values that a table description, a log field or an answer over HTTP may hold: null, truth
values, whole and floating numbers, texts, members of a closed vocabulary, points in time, lists,
and records with their fields in the order in which they were written.
-/
import SchemaScript.Number.Binary64
import SchemaScript.Text.Basic
import SchemaScript.Time.Instant

namespace SchemaScript

/-- A member of a closed vocabulary: the vocabulary's name, the member's name in it, and the text
that it stands for. -/
structure Symbol where
  family : String
  member : String
  text : String
deriving DecidableEq, Repr, Inhabited

/-- A value whose shape is known only when it is looked at. -/
inductive Value where
  | null
  | bool (b : Bool)
  | int (n : Int)
  | real (x : Binary64)
  | text (t : Text)
  | symbol (s : Symbol)
  | instant (t : Instant)
  | list (xs : List Value)
  | record (fs : List (Text × Value))
deriving BEq, Repr, Inhabited

/-- The fields of a record, in order; a name occurs at most once. -/
abbrev Fields := List (Text × Value)

namespace Fields

/-- The record of one field. -/
def single (name : Text) (v : Value) : Fields := [(name, v)]

/-- The record of one field, or of none. -/
def given (name : Text) (v : Option Value) : Fields := v.toList.map fun v => (name, v)

/-- The value of a field. -/
def get? (fs : Fields) (name : Text) : Option Value :=
  (fs.find? fun f => f.1 == name).map (·.2)

/-- Sets one field: in its place if the name is there, at the end if it is new. -/
def set : Fields → Text → Value → Fields
  | [], name, v => [(name, v)]
  | f :: fs, name, v => if f.1 = name then (name, v) :: fs else f :: set fs name v

/-- Sets all fields of `new`, in order. -/
def merge (old new : Fields) : Fields := new.foldl (fun fs f => fs.set f.1 f.2) old

/-- A field that was set has the value that it was set to. -/
theorem get?_set_self (fs : Fields) (name : Text) (v : Value) :
    (fs.set name v).get? name = some v := by
  induction fs with
  | nil => simp [set, get?]
  | cons f fs ih =>
    by_cases h : f.1 = name
    · simp [set, h, get?]
    · simpa [set, h, get?] using ih

/-- Setting one field leaves the others as they are. -/
theorem get?_set_ne (fs : Fields) {name other : Text} (v : Value) (h : other ≠ name) :
    (fs.set name v).get? other = fs.get? other := by
  induction fs with
  | nil => simp [set, get?, Ne.symm h]
  | cons f fs ih =>
    by_cases hf : f.1 = name
    · simp [set, hf, get?, Ne.symm h]
    · by_cases ho : f.1 = other
      · simp [set, get?, ho, h]
      · simpa [set, hf, get?, ho] using ih

/-- Merging no field changes nothing. -/
@[simp] theorem merge_nil (fs : Fields) : fs.merge [] = fs := rfl

end Fields

namespace Value

/-- Whether a value counts as present: null, false, zero, and the empty text, list and record do
not. -/
def isPresent : Value → Bool
  | .null => false
  | .bool b => b
  | .int n => n != 0
  | .real x => !x.isZero
  | .text t => !t.isEmpty
  | .symbol s => s.text != ""
  | .instant _ => true
  | .list xs => !xs.isEmpty
  | .record fs => !fs.isEmpty

/-- The text that a value is, or that a vocabulary member stands for; nothing else is a text. -/
def text? : Value → Option Text
  | .text t => some t
  | .symbol s => some s.text
  | _ => none

/-- The string that a value is: a text without halves. -/
def string? (v : Value) : Option String := v.text?.bind Text.string?

/-- The name of a value's kind, as messages give it. -/
def kind : Value → String
  | .null => "NoneType"
  | .bool _ => "bool"
  | .int _ => "int"
  | .real _ => "float"
  | .text _ => "str"
  | .symbol s => s.family
  | .instant _ => "datetime.datetime"
  | .list _ => "list"
  | .record _ => "dict"

/-- A text, or null when there is none. -/
def ofText? : Option Text → Value
  | none => .null
  | some t => .text t

/-- A string, or null when there is none. -/
def ofString? (s : Option String) : Value := ofText? (s.map .ofString)

end Value

end SchemaScript
