/- # The texts in a value

Every text in a value, in the order in which the value's JSON text has them: a field's name comes before what
the field holds.  A value that is written text by text is refused at the first text that has no bytes, and its
place is counted within that text alone.  The main statement says that a value is written exactly when all its
texts are strings.
-/
import SchemaScript.Text.Bytes
import SchemaScript.Value.Basic

namespace SchemaScript.Value

mutual

/-- The texts in a value. -/
def texts : Value → List Text
  | .text t => [t]
  | .symbol s => [s.text]
  | .list xs => textsOfItems xs
  | .record fs => textsOfFields fs
  | _ => []

/-- The texts in items. -/
def textsOfItems : List Value → List Text
  | [] => []
  | x :: rest => texts x ++ textsOfItems rest

/-- The texts in fields. -/
def textsOfFields : List (Text × Value) → List Text
  | [] => []
  | (name, v) :: rest => name :: texts v ++ textsOfFields rest

end

/-- What cannot be written in the first text that cannot, if there is one. -/
def unwritable? (v : Value) : Option Text.Unwritable :=
  v.texts.findSome? fun t =>
    match t.written with
    | .ok _ => none
    | .error u => some u

/-- A value can be written text by text exactly when each of its texts is a string. -/
theorem unwritable?_eq_none_iff (v : Value) :
    v.unwritable? = none ↔ ∀ t ∈ v.texts, ∃ s, t = Text.ofString s := by
  simp only [unwritable?, List.findSome?_eq_none_iff]
  refine forall₂_congr fun t _ => ?_
  cases h : t.written with
  | ok s => simpa using ⟨s, Text.written_eq_ok_iff.1 h⟩
  | error u =>
    simp only [reduceCtorEq, false_iff, not_exists]
    intro s hs
    simp [Text.written_eq_ok_iff.2 hs] at h

end SchemaScript.Value
