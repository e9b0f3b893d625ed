/- # Column types

The types that a column may have in the database, and how a type tag chooses one.  Tags are compared
without regard to case and to blanks around them; a tag that is not known gives a text column.
-/
import SchemaScript.Text.CharacterClass
import SchemaScript.Text.LetterCase
import SchemaScript.Value.Shown
import SchemaScript.Vocabulary

namespace SchemaScript.Sql

/-- A type of the database. -/
inductive ColumnType where
  | text
  | integer
  | doublePrecision
  | boolean
  | timestamp
  | uuid
  | bytes
deriving DecidableEq, Repr, Inhabited

namespace ColumnType

/-- The type as statements write it. -/
def sql : ColumnType → String
  | .text => "TEXT"
  | .integer => "INTEGER"
  | .doublePrecision => "DOUBLE PRECISION"
  | .boolean => "BOOLEAN"
  | .timestamp => "TIMESTAMP WITH TIME ZONE"
  | .uuid => "UUID"
  | .bytes => "BYTEA"

/-- No two types are written alike. -/
theorem sql_injective {a b : ColumnType} (h : a.sql = b.sql) : a = b := by
  cases a <;> cases b <;> simp_all [sql]

/-- The known tags in their plain form: the seven of the vocabulary, then seven more spellings. -/
def known : List (String × ColumnType) := [
  ("text", .text),
  ("integer", .integer),
  ("float", .doublePrecision),
  ("boolean", .boolean),
  ("timestamp", .timestamp),
  ("uuid", .uuid),
  ("binary", .bytes),
  ("string", .text),
  ("int", .integer),
  ("double", .doublePrecision),
  ("bool", .boolean),
  ("date", .timestamp),
  ("data", .bytes),
  ("blob", .bytes)]

/-- The type for tags that are not known. -/
def fallback : ColumnType := .text

/-- A tag in its plain form: no blanks around it, small letters. -/
def plainTag (tag : Text) : Text := Text.lower (Text.trim tag)

/-- The type that a tag chooses. -/
def ofTag (tag : Text) : ColumnType :=
  ((plainTag tag).string?.bind fun name => known.lookup name).getD fallback

/-- The type that a value chooses as a tag: by its text, or as it is shown. -/
def ofValue (v : Value) : ColumnType := ofTag (v.text?.getD v.plain)

end ColumnType

end SchemaScript.Sql
