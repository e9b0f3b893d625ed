/- # Values as JSON text

The JSON text of a value, on one line and in ASCII: a comma and a space between items, a colon and a
space after a field's name, and every code point outside the printable ASCII ones as an escape of its
UTF-16 units.  A vocabulary member is written as its text and a point in time as its plain text.  A value with
an integer of too many digits has no JSON text.  A string that is sent keeps every code point that needs no escape:
only the quote, the backslash and the control characters do.
-/
import SchemaScript.Value.Basic

namespace SchemaScript.Value

namespace Json

/-- The escape of one UTF-16 unit, in four hexadecimal digits. -/
def unitEscape (unit : Nat) : List Char := '\\' :: 'u' :: Text.numeral 16 4 unit

/-- One character inside a JSON string. -/
def stringChar (c : Char) : List Char :=
  if c = '"' then ['\\', '"']
  else if c = '\\' then ['\\', '\\']
  else if c = '\n' then ['\\', 'n']
  else if c = '\r' then ['\\', 'r']
  else if c = '\t' then ['\\', 't']
  else if c = '\x08' then ['\\', 'b']
  else if c = '\x0c' then ['\\', 'f']
  else if 32 ≤ c.toNat ∧ c.toNat < 127 then [c]
  else if c.toNat < 0x10000 then unitEscape c.toNat
  else
    unitEscape (0xd800 + (c.toNat - 0x10000) / 0x400) ++
      unitEscape (0xdc00 + (c.toNat - 0x10000) % 0x400)

/-- One code point inside a JSON string. -/
def stringPoint : Point → List Char
  | .char c => stringChar c
  | .half i => unitEscape (Point.half i).code

/-- A JSON string. -/
def string (t : Text) : List Char := '"' :: t.flatMap stringPoint ++ ['"']

/-- One code point inside a JSON string that is sent. -/
def sentPoint (p : Point) : Text :=
  match p with
  | .char c => if c = '"' ∨ c = '\\' ∨ c.toNat < 32 then .ofChars (stringChar c) else [p]
  | .half _ => [p]

/-- A JSON string that is sent. -/
def sentString (t : Text) : Text := "\"" ++ t.flatMap sentPoint ++ "\""

end Json

open Json

mutual

/-- The JSON text of a value, as characters. -/
def jsonChars : Value → List Char
  | .null => ['n', 'u', 'l', 'l']
  | .bool true => ['t', 'r', 'u', 'e']
  | .bool false => ['f', 'a', 'l', 's', 'e']
  | .int n => (Text.signedDecimal n).toList
  | .real x => x.text.toList
  | .text t => string t
  | .symbol s => string s.text
  | .instant t => string t.plain
  | .list xs => '[' :: jsonItems xs ++ [']']
  | .record fs => '\x7b' :: jsonFields fs ++ ['\x7d']

/-- Items with a comma and a space between them. -/
def jsonItems : List Value → List Char
  | [] => []
  | [x] => jsonChars x
  | x :: y :: rest => jsonChars x ++ ',' :: ' ' :: jsonItems (y :: rest)

/-- One field: its name, a colon and a space, its value. -/
def jsonField : Text × Value → List Char
  | (name, v) => string name ++ ':' :: ' ' :: jsonChars v

/-- Fields with a comma and a space between them. -/
def jsonFields : List (Text × Value) → List Char
  | [] => []
  | [f] => jsonField f
  | f :: g :: rest => jsonField f ++ ',' :: ' ' :: jsonFields (g :: rest)

end

/-- The JSON text of a value, however many digits its integers have. -/
def json (v : Value) : String := String.ofList v.jsonChars

mutual

/-- The integers in a value. -/
def integers : Value → List Int
  | .int n => [n]
  | .list xs => integersOfItems xs
  | .record fs => integersOfFields fs
  | _ => []

/-- The integers in items. -/
def integersOfItems : List Value → List Int
  | [] => []
  | x :: rest => integers x ++ integersOfItems rest

/-- The integers in fields. -/
def integersOfFields : List (Text × Value) → List Int
  | [] => []
  | (_, v) :: rest => integers v ++ integersOfFields rest

end

/-- The JSON text of a value, if no integer in it has too many digits. -/
def writtenJson (v : Value) : Except Text.NumeralFault String :=
  if v.integers.all Text.hasNumeral then .ok v.json else .error .tooManyDigits

end SchemaScript.Value
