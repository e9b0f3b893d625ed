/- # Texts

A text is a list of code points.  Nearly all code points are characters.  A character of a code above
`0xffff` is also written as a pair of two units of 16 bits; the number of such a unit is a code point but no
character, and it means something only together with its other half.  What comes from outside, and what is
made from numbers, can hold a half alone, so a `String`, which consists of characters, is a text, but not
every text is a `String`.
-/

namespace SchemaScript

/-- A code point: a character, or one half of a pair of units that stands alone, the halves being numbered
from zero. -/
inductive Point where
  | char (c : Char)
  | half (index : Fin 0x800)
deriving DecidableEq, Repr, Inhabited

namespace Point

instance : Coe Char Point := ⟨.char⟩

/-- The code of the first half. -/
def firstHalf : Nat := 0xd800

/-- The code point of a code. -/
def ofNat (n : Nat) : Point :=
  if n.isValidChar then .char (Char.ofNat n) else .half (Fin.ofNat 0x800 (n - firstHalf))

/-- The code of a code point. -/
def code : Point → Nat
  | .char c => c.toNat
  | .half i => firstHalf + i

/-- The character of a code point, if it is one. -/
def char? : Point → Option Char
  | .char c => some c
  | .half _ => none

/-- What stands for a code point where only characters can stand. -/
def shown : Point → Char
  | .char c => c
  | .half _ => '\ufffd'

/-- Whether a code point is a character with a property. -/
def is (property : Char → Bool) (p : Point) : Bool := p.char?.any property

/-- The codes of characters leave those of the halves out. -/
theorem code_char_lt (c : Char) : c.toNat < 0xd800 ∨ 0xdfff < c.toNat ∧ c.toNat < 0x110000 := c.valid

end Point

/-- A text. -/
abbrev Text := List Point

namespace Text

/-- The text of some characters. -/
def ofChars (cs : List Char) : Text := cs.map .char

/-- The text of a string. -/
def ofString (s : String) : Text := ofChars s.toList

instance : Coe (List Char) Text := ⟨ofChars⟩

instance : Coe String Text := ⟨ofString⟩

/-- The characters of a text without halves. -/
def chars? : Text → Option (List Char)
  | [] => some []
  | .char c :: rest => (chars? rest).map (c :: ·)
  | .half _ :: _ => none

/-- The string that a text without halves is. -/
def string? (t : Text) : Option String := t.chars?.map String.ofList

/-- The text with a sign of replacement for every half. -/
def shown (t : Text) : String := String.ofList (t.map Point.shown)

/-- Texts one after another with a text between them. -/
def joined (between : Text) (ts : List Text) : Text := List.intercalate between ts

/-- The parts of a text between line feeds. -/
def splitLines : Text → List Text
  | [] => [[]]
  | p :: rest =>
    if p = .char '\n' then [] :: splitLines rest
    else
      match splitLines rest with
      | [] => [[p]]
      | line :: lines => (p :: line) :: lines

/-- Characters are found again in their text. -/
@[simp] theorem chars?_ofChars (cs : List Char) : (ofChars cs).chars? = some cs := by
  induction cs with
  | nil => rfl
  | cons c cs ih =>
    simp only [ofChars, List.map_cons, chars?] at ih ⊢
    simp [ih]

/-- A string is found again in its text. -/
@[simp] theorem string?_ofString (s : String) : (ofString s).string? = some s := by
  simp [string?, ofString]

/-- A text has characters exactly when it is their text. -/
theorem chars?_eq_some_iff {t : Text} {cs : List Char} : t.chars? = some cs ↔ t = ofChars cs := by
  refine ⟨fun h => ?_, fun h => h ▸ chars?_ofChars cs⟩
  induction t generalizing cs with
  | nil => cases h; rfl
  | cons p rest ih =>
    cases p with
    | half i => simp [chars?] at h
    | char c =>
      obtain ⟨ds, hd, rfl⟩ := Option.map_eq_some_iff.1 h
      simp [ofChars, ih hd]

/-- A text is a string exactly when it is the text of that string. -/
theorem string?_eq_some_iff {t : Text} {s : String} : t.string? = some s ↔ t = ofString s := by
  refine ⟨fun h => ?_, fun h => h ▸ string?_ofString s⟩
  obtain ⟨cs, hc, rfl⟩ := Option.map_eq_some_iff.1 h
  simpa [ofString] using chars?_eq_some_iff.1 hc

/-- Different strings are different texts. -/
@[simp] theorem ofString_inj {a b : String} : ofString a = ofString b ↔ a = b := by
  refine ⟨fun h => ?_, fun h => h ▸ rfl⟩
  simpa using congrArg string? h

/-- The text of one string after another is that of the second after that of the first. -/
theorem ofString_append (a b : String) : ofString (a ++ b) = ofString a ++ ofString b := by
  simp [ofString, ofChars]

/-- A string is shown as it is. -/
@[simp] theorem shown_ofString (s : String) : (ofString s).shown = s := by
  simp [shown, ofString, ofChars, Function.comp_def, Point.shown]

/-! ## Finding one text in another -/

/-- Whether `part` occurs in the text at some place. -/
def occursIn (part : Text) : Text → Bool
  | [] => part.isEmpty
  | p :: rest => part.isPrefixOf (p :: rest) || occursIn part rest

/-- A part occurs exactly where it stands between some two texts. -/
theorem occursIn_iff {part t : Text} : occursIn part t = true ↔ part <:+: t := by
  induction t with
  | nil => simp [occursIn]
  | cons c rest ih => simp [occursIn, ih, List.infix_cons_iff]

/-- Whether `part` occurs in `t`. -/
def includes (t part : Text) : Bool := occursIn part t

/-- Whether `t` ends with `part`. -/
def endsWith (t part : Text) : Bool := part.isSuffixOf t

/-- Whether `t` starts with `part`. -/
def startsWith (t part : Text) : Bool := part.isPrefixOf t

/-- The text before the ending `part`, if `t` ends with it. -/
def beforeEnding? (t part : Text) : Option Text :=
  if endsWith t part then some (t.take (t.length - part.length)) else none

end Text

end SchemaScript
