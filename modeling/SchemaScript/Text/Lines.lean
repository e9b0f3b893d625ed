/- # Lines of a text

A text is broken into lines at ten characters: the line feed, vertical tab, form feed, carriage
return, three of the information separators, the next-line control and the two Unicode separators;
a carriage return directly before a line feed breaks once.  A break ends a line, so a text that ends
with one has no empty line after it, and the empty text has no line at all.
-/
import SchemaScript.Text.Basic

namespace SchemaScript.Text

/-- Whether the character ends a line. -/
def isBreak (c : Char) : Bool :=
  match c.toNat with
  | 0xa | 0xb | 0xc | 0xd | 0x1c | 0x1d | 0x1e | 0x85 | 0x2028 | 0x2029 => true
  | _ => false

/-- The lines of a text, without their breaks. -/
def lines : Text → List Text
  | [] => []
  | .char '\r' :: .char '\n' :: rest => [] :: lines rest
  | p :: rest =>
    if p.is isBreak then [] :: lines rest else
    match lines rest with
    | [] => [[p]]
    | line :: others => (p :: line) :: others

/-- No line holds a character that ends a line. -/
theorem not_isBreak_of_mem_lines {t line : Text} (hl : line ∈ lines t) :
    ∀ p ∈ line, p.is isBreak = false := by
  fun_induction lines t generalizing line with
  | case1 => simp at hl
  | case2 rest ih =>
    rcases List.mem_cons.1 hl with rfl | hl
    · simp
    · exact ih hl
  | case3 c rest _ hb ih =>
    rcases List.mem_cons.1 hl with rfl | hl
    · simp
    · exact ih hl
  | case4 c rest _ hb hr ih =>
    simp only [List.mem_singleton] at hl
    subst hl
    simpa using hb
  | case5 c rest _ hb line' others hr ih =>
    rcases List.mem_cons.1 hl with rfl | hl
    · intro d hd
      rcases List.mem_cons.1 hd with rfl | hd
      · simpa using hb
      · exact ih (by simp [hr]) d hd
    · exact ih (by simp [hr, hl])

/-- The lines, each but the last followed by a line feed. -/
def joinLines (ls : List Text) : Text := joined "\n" ls

end SchemaScript.Text
