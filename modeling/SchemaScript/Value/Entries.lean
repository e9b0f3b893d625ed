/- # Entries under keys of any kind

Entries are pairs of a key and a value in the order in which the keys were first set.  Of two keys that are
the same the first stays, and the last value set counts.  In JSON text a key is written as the text that
JSON has for it.
-/
import SchemaScript.Value.Same
import SchemaScript.Value.Shown

namespace SchemaScript

namespace Value

/-- Whether a value can be a key: a list or a record cannot. -/
def isKey : Value → Bool
  | .list _ => false
  | .record _ => false
  | _ => true

/-- The name that a key has in JSON text. -/
def keyName : Value → Text
  | .null => "null"
  | .bool true => "true"
  | .bool false => "false"
  | .text t => t
  | .symbol s => s.text
  | v => v.plain

end Value

/-- Entries by key, in order. -/
abbrev Entries := List (Value × Value)

namespace Entries

/-- Sets one entry: in its place if the key is there, at the end if it is new. -/
def set : Entries → Value → Value → Entries
  | [], key, v => [(key, v)]
  | e :: es, key, v => if e.1.same key then (e.1, v) :: es else e :: set es key v

/-- The value under a key. -/
def get? (es : Entries) (key : Value) : Option Value :=
  (es.find? fun e => e.1.same key).map (·.2)

/-- The entries of a record: its names are the keys. -/
def ofFields (fs : Fields) : Entries := fs.map fun f => (.text f.1, f.2)

/-- Sets all fields of `new`, in order. -/
def merge (old : Entries) (new : Fields) : Entries :=
  new.foldl (fun es f => es.set (.text f.1) f.2) old

/-- The fields that entries have in JSON text. -/
def toFields (es : Entries) : Fields := es.map fun e => (e.1.keyName, e.2)

/-- The exact text of entries. -/
def exact (es : Entries) : String :=
  "\x7b" ++ String.intercalate ", " (es.map fun e => e.1.exact ++ ": " ++ e.2.exact) ++ "\x7d"

/-- An entry that was set has the value that it was set to. -/
theorem get?_set_self (es : Entries) (key v : Value) (h : key.same key = true) :
    (es.set key v).get? key = some v := by
  induction es with
  | nil => simp [set, get?, h]
  | cons e es ih =>
    by_cases hk : e.1.same key = true
    · simp [set, get?, hk]
    · simpa [set, get?, hk] using ih

/-- Entries of a record have the fields of the record. -/
@[simp] theorem toFields_ofFields (fs : Fields) : (ofFields fs).toFields = fs := by
  induction fs with
  | nil => rfl
  | cons f fs ih => simpa [ofFields, toFields, Value.keyName] using ih

/-- The entry of a record under a text is the field of that name. -/
theorem get?_ofFields (fs : Fields) (name : Text) :
    (ofFields fs).get? (.text name) = fs.get? name := by
  induction fs with
  | nil => rfl
  | cons f fs ih =>
    by_cases h : f.1 = name
    · simp [ofFields, get?, Fields.get?, h]
    · simpa [ofFields, get?, Fields.get?, h] using ih

/-- Setting an entry of a record under a text is setting the field of that name. -/
theorem ofFields_set (fs : Fields) (name : Text) (v : Value) :
    (ofFields fs).set (.text name) v = ofFields (fs.set name v) := by
  induction fs with
  | nil => rfl
  | cons f fs ih =>
    by_cases h : f.1 = name
    · simp [ofFields, set, Fields.set, h]
    · simpa [ofFields, set, Fields.set, h] using ih

/-- Merging fields into the entries of a record is merging them into the record. -/
theorem ofFields_merge (old new : Fields) :
    (ofFields old).merge new = ofFields (old.merge new) := by
  induction new generalizing old with
  | nil => rfl
  | cons f fs ih =>
    simp only [merge, Fields.merge, List.foldl_cons] at ih ⊢
    rw [ofFields_set]
    exact ih (old.set f.1 f.2)

end Entries

end SchemaScript
