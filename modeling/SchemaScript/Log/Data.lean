/- # Data of log records

What comes with the message of a record: a value of unknown shape, or the entries that the data of a call
stand for.  Entries may be given as a record or as a list of pairs, and a key has to be a value that can be
told apart from others by what it holds, so neither a list nor a record.
-/
import SchemaScript.Value.Entries

namespace SchemaScript.Log

/-- The data of a record. -/
inductive Data where
  | value (v : Value)
  | entries (es : Entries)
deriving BEq, Repr, Inhabited

namespace Data

/-- Whether there is anything to show. -/
def isPresent : Data → Bool
  | .value v => v.isPresent
  | .entries es => !es.isEmpty

/-- The plain text of data. -/
def plain : Data → Text
  | .value v => v.plain
  | .entries es => es.exact

/-- Data as they stand in JSON text. -/
def toValue : Data → Value
  | .value v => v
  | .entries es => .record es.toFields

/-- Entries with the keys of a record are shown like the record. -/
theorem toValue_ofFields (fs : Fields) :
    (entries (.ofFields fs)).toValue = (value (.record fs)).toValue := by simp [toValue]

end Data

/-- Why the data of a call cannot be taken as entries. -/
inductive DataFault where
  | notIterable (kind : String)
  | notPair (index : Nat)
  | wrongLength (index length : Nat)
  | notKey (kind : String)
deriving DecidableEq, Repr

/-- The text of a fault. -/
def DataFault.message : DataFault → String
  | .notIterable kind => "'" ++ kind ++ "' object is not iterable"
  | .notPair index =>
    "cannot convert dictionary update sequence element #" ++ Text.decimal 1 index ++ " to a sequence"
  | .wrongLength index length =>
    "dictionary update sequence element #" ++ Text.decimal 1 index ++ " has length " ++
      Text.decimal 1 length ++ "; 2 is required"
  | .notKey kind => "unhashable type: '" ++ kind ++ "'"

/-- The items of a value that stands for a pair. -/
def pairItems? : Value → Option (List Value)
  | .list xs => some xs
  | .record fs => some (fs.map fun f => .text f.1)
  | v => v.text?.map fun t => t.map fun p => .text [p]

/-- Entries with those of a list of pairs; `i` counts the pairs. -/
def entriesOfPairs (es : Entries) : Nat → List Value → Except DataFault Entries
  | _, [] => .ok es
  | i, v :: rest =>
    match pairItems? v with
    | none => .error (.notPair i)
    | some [k, x] =>
      if k.isKey then entriesOfPairs (es.set k x) (i + 1) rest else .error (.notKey k.kind)
    | some xs => .error (.wrongLength i xs.length)

/-- The entries that the data of a call stand for. -/
def entriesOfData : Value → Except DataFault Entries
  | .record fs => .ok (.ofFields fs)
  | v =>
    match pairItems? v with
    | some xs => entriesOfPairs [] 0 xs
    | none => .error (.notIterable v.kind)

end SchemaScript.Log
