/- # Values as messages show them

Two texts of a value: the exact one, in which texts are quoted and the kind of everything can be
seen, and the plain one, which differs for texts, vocabulary members and points in time.  What stands
inside a list or a record is always shown exactly.
-/
import SchemaScript.Text.Quoted
import SchemaScript.Value.Basic

namespace SchemaScript.Value

mutual

/-- The exact text of a value; `shown` says which characters of texts appear as they are. Halves never do, so
that the exact text consists of characters. -/
def exactWith (shown : Char → Bool) : Value → String
  | .null => "None"
  | .bool true => "True"
  | .bool false => "False"
  | .int n => Text.signedDecimal n
  | .real x => x.text
  | .text t => Text.quotedWith shown t
  | .symbol s => "<" ++ s.family ++ "." ++ s.member ++ ": " ++ Text.quotedWith shown s.text ++ ">"
  | .instant t => t.call
  | .list xs => "[" ++ exactItems shown xs ++ "]"
  | .record fs => "\x7b" ++ exactFields shown fs ++ "\x7d"

/-- Items with commas between them. -/
def exactItems (shown : Char → Bool) : List Value → String
  | [] => ""
  | [x] => exactWith shown x
  | x :: y :: rest => exactWith shown x ++ ", " ++ exactItems shown (y :: rest)

/-- One field: its quoted name and its value. -/
def exactField (shown : Char → Bool) : Text × Value → String
  | (name, v) => Text.quotedWith shown name ++ ": " ++ exactWith shown v

/-- Fields with commas between them. -/
def exactFields (shown : Char → Bool) : List (Text × Value) → String
  | [] => ""
  | [f] => exactField shown f
  | f :: g :: rest => exactField shown f ++ ", " ++ exactFields shown (g :: rest)

end

/-- The exact text of a value. -/
def exact (v : Value) : String := exactWith Text.isPrintable v

/-- The exact text of a value in ASCII characters only. -/
def exactAscii (v : Value) : String := exactWith Text.isPrintableAscii v

/-- The plain text of a value. -/
def plain : Value → Text
  | .text t => t
  | .symbol s => s.family ++ "." ++ s.member
  | .instant t => t.plain
  | v => exact v

end SchemaScript.Value
