/- # Letter case

Lower-casing of any text.  Each capital becomes its small letter; two rules go beyond the table: the
dotted capital I becomes an i and a combining dot, and a capital sigma becomes the final small sigma
when it ends a word, that is, when a letter with case stands before it and none after it, other
marks being passed over.

Capitals are needed only as far as a text is compared with an ASCII word.  Besides the ASCII letters, ten
characters have capitals within ASCII: the dotless i, the long s, the sharp s and the Latin
ligatures.  Every other character keeps, in capitals, a character outside ASCII, so it can be left as
it is without changing such a comparison.
-/
import SchemaScript.Text.CaseTable

namespace SchemaScript.Text

/-! ## Small letters -/

/-- Whether the character is passed over when looking for a letter with case. -/
def isCaseIgnorable (c : Char) : Bool := inRanges caseIgnorableRanges c

/-- Whether the character is a letter with case that ends such a search. -/
def isCased (c : Char) : Bool := inRanges casedRanges c

/-- The small form of one character, the sigma apart. -/
def small (c : Char) : List Char :=
  if c = '\u0130' then ['i', '\u0307'] else
  match capitalRows.find? fun (first, last, step, _) =>
      decide (first ≤ c.toNat) && decide (c.toNat ≤ last) && (c.toNat - first) % step == 0 with
  | some (_, _, _, shift) => [Char.ofNat (c.toNat + shift).toNat]
  | none => [c]

/-- Whether the first character that is not passed over is a letter with case. -/
def startsCased (t : Text) : Bool :=
  match t.dropWhile (·.is isCaseIgnorable) with
  | [] => false
  | p :: _ => p.is isCased

/-- Small letters of a text; `inWord` says that a letter with case was the last character before it
that is not passed over. -/
def lowerFrom (inWord : Bool) : Text → Text
  | [] => []
  | .half i :: rest => .half i :: lowerFrom false rest
  | .char c :: rest =>
    ofChars (if c = '\u03a3' then [if inWord && !startsCased rest then '\u03c2' else '\u03c3']
      else small c) ++
      lowerFrom (if isCaseIgnorable c then inWord else isCased c) rest

/-- The text in small letters. -/
def lower (t : Text) : Text := lowerFrom false t

/-- A string in small letters, which is a string again. -/
def lowerString (s : String) : String := (lower s).shown

/-! ## Capitals, as far as ASCII words need them -/

/-- The capitals of one character, where they lie within ASCII; the character itself otherwise. -/
def asciiCapitals (c : Char) : List Char :=
  match c.toNat with
  | 0xdf => ['S', 'S']
  | 0x131 => ['I']
  | 0x17f => ['S']
  | 0xfb00 => ['F', 'F']
  | 0xfb01 => ['F', 'I']
  | 0xfb02 => ['F', 'L']
  | 0xfb03 => ['F', 'F', 'I']
  | 0xfb04 => ['F', 'F', 'L']
  | 0xfb05 => ['S', 'T']
  | 0xfb06 => ['S', 'T']
  | _ => [c.toUpper]

/-- The text in capitals, for comparison with an ASCII word. -/
def upperForAscii (t : Text) : Text :=
  t.flatMap fun
    | .char c => ofChars (asciiCapitals c)
    | .half i => [.half i]

end SchemaScript.Text
