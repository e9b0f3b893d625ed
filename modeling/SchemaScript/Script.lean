/- # Scripts

A script is a list of pieces: remarks, the stamp of its time, blank lines, and statements.  Its text puts
them one after another.  The stamps are the only part that depends on the time; `dropStamps` takes their
lines out of any text.
-/
import SchemaScript.Sql.Statement
import SchemaScript.Text.Lines

namespace SchemaScript

/-- A piece of a script. -/
inductive Piece where
  /-- A line that says something to the reader. -/
  | remark (text : Text)
  /-- The line with the time at which the script was generated. -/
  | stamp (time : Instant)
  | blank
  | statement (s : Sql.Statement)
deriving DecidableEq, Repr

namespace Piece

/-- How a stamp starts. -/
def stampStart : String := "-- Generated on: "

/-- The text of a piece. -/
def text : Piece → Text
  | .remark text => "-- " ++ text ++ "\n"
  | .stamp time => stampStart ++ time.iso ++ "\n"
  | .blank => "\n"
  | .statement s => s.sql ++ ";\n"

/-- The statement in a piece, if it holds one. -/
def statement? : Piece → Option Sql.Statement
  | .statement s => some s
  | _ => none

end Piece

/-- A script. -/
abbrev Script := List Piece

namespace Script

/-- The text of a script. -/
def text (s : Script) : Text := s.flatMap Piece.text

@[simp] theorem text_nil : text [] = [] := rfl

@[simp] theorem text_cons (p : Piece) (s : Script) : text (p :: s) = p.text ++ text s :=
  List.flatMap_cons

@[simp] theorem text_append (a b : Script) : text (a ++ b) = text a ++ text b :=
  List.flatMap_append

theorem text_flatten (ss : List Script) : text ss.flatten = ss.flatMap text := by
  induction ss with
  | nil => rfl
  | cons s ss ih => rw [List.flatten_cons, text_append, ih, List.flatMap_cons]

/-- The statements of a script, in order. -/
def statements (s : Script) : List Sql.Statement := s.filterMap Piece.statement?

/-- The statements of two scripts after one another. -/
@[simp] theorem statements_append (a b : Script) :
    statements (a ++ b) = statements a ++ statements b := List.filterMap_append

/-- Statements as pieces of a script. -/
def ofStatements (ss : List Sql.Statement) : Script := ss.map .statement

/-- The script that holds some statements alone has just those. -/
@[simp] theorem statements_ofStatements (ss : List Sql.Statement) :
    statements (ofStatements ss) = ss := by
  induction ss with
  | nil => rfl
  | cons s ss ih => simpa [ofStatements, statements, Piece.statement?] using ih

/-- Each statement with a blank line after it. -/
def spaced (ss : List Sql.Statement) : Script := ss.flatMap fun s => [.statement s, .blank]

end Script

/-! ## Texts without their stamps -/

/-- Whether a line is a stamp. -/
def isStampLine (line : Text) : Bool := Text.startsWith line Piece.stampStart

/-- The lines of a text that are not stamps. -/
def unstampedLines (t : Text) : List Text := (Text.lines t).filter fun line => !isStampLine line

/-- The text without its stamps, its other lines being joined by line feeds. -/
def dropStamps (t : Text) : Text := Text.joinLines (unstampedLines t)

end SchemaScript
