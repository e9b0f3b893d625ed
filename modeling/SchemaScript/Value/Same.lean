/- # Values that are the same

Two values are the same if nothing tells them apart but how they are written: numbers if they are equal,
texts if they consist of the same code points, points in time if they are the same moment, lists if their
items are the same in order, and records if they have the same fields in any order.
-/
import SchemaScript.Value.Number

namespace SchemaScript.Value

/-- Whether two values that hold no others are the same. -/
def sameLeaf (a b : Value) : Bool :=
  match a.number?, b.number?, a.text?, b.text? with
  | some m, some n, _, _ => m.same n
  | none, none, some s, some t => s == t
  | none, none, none, none =>
    match a, b with
    | .null, .null => true
    | .instant t, .instant u => t.same u
    | _, _ => false
  | _, _, _, _ => false

mutual

/-- Whether two values are the same. -/
def same : Value → Value → Bool
  | .list xs, .list ys => sameItems xs ys
  | .record fs, .record gs => fs.length == gs.length && sameFields fs gs
  | a, b => sameLeaf a b
termination_by structural a => a

/-- Whether the items of two lists are the same, one by one. -/
def sameItems : List Value → List Value → Bool
  | [], [] => true
  | x :: xs, y :: ys => same x y && sameItems xs ys
  | _, _ => false
termination_by structural xs => xs

/-- Whether a record has the same value under the name of a field. -/
def sameField : Text × Value → Fields → Bool
  | (name, v), gs =>
    match gs.get? name with
    | some w => same v w
    | none => false
termination_by structural f => f

/-- Whether a record has the same values under the names of some fields. -/
def sameFields : List (Text × Value) → Fields → Bool
  | [], _ => true
  | f :: fs, gs => sameField f gs && sameFields fs gs
termination_by structural fs => fs

end

/-- Texts are the same if they are equal. -/
@[simp] theorem same_text (s t : Text) : same (.text s) (.text t) = (s == t) := by
  simp [same, sameLeaf, number?, text?]

/-- The order of two lists of equal numbers matters, their notation does not. -/
theorem same_numbers : same (.list [.int 1, .bool false]) (.list [.bool true, .int 0]) = true ∧
    same (.list [.int 1, .int 0]) (.list [.int 0, .int 1]) = false := by decide

end SchemaScript.Value
