/- # Texts as bytes

Outside the program a text is a row of bytes, one to four for each character, and a half of a pair has none.
Where bytes come in that make no character, each of them is kept as a half of its own, and goes out as that
byte again; so the other halves are the only code points that cannot be written there.
-/
import SchemaScript.Text.Basic
import SchemaScript.Text.Numeral

namespace SchemaScript.Text

/-- Halves that cannot be written: the place of the first, and how they follow one another from there. -/
structure Unwritable where
  place : Nat
  halves : List (Fin 0x800)
deriving DecidableEq, Repr

namespace Unwritable

/-- What cannot be written: one code point by its code, several by their places. -/
def rangeText (u : Unwritable) : String :=
  match u.halves with
  | [half] =>
    "character '\\u" ++ String.ofList (numeral 16 4 (Point.half half).code) ++ "' in position " ++
      decimal 1 u.place
  | halves =>
    "characters in position " ++ decimal 1 u.place ++ "-" ++ decimal 1 (u.place + halves.length - 1)

/-- The message about what cannot be written. -/
def message (u : Unwritable) : String :=
  "'utf-8' codec can't encode " ++ u.rangeText ++ ": surrogates not allowed"

end Unwritable

/-- The halves at the start of a text. -/
def leadingHalves : Text → List (Fin 0x800)
  | .half i :: rest => i :: leadingHalves rest
  | _ => []

/-- The string that a text is, or the first halves in it; `place` code points were before it. -/
def writtenFrom (place : Nat) : Text → Except Unwritable (List Char)
  | [] => .ok []
  | .char c :: rest => do return c :: (← writtenFrom (place + 1) rest)
  | .half i :: rest => .error ⟨place, leadingHalves (.half i :: rest)⟩

/-- The string that a text is, or the first halves in it. -/
def written (t : Text) : Except Unwritable String := (writtenFrom 0 t).map String.ofList

/-- A text can be written exactly as the string that it is. -/
theorem written_eq_ok_iff {t : Text} {s : String} : t.written = .ok s ↔ t = ofString s := by
  have from_chars (cs : List Char) (n : Nat) : writtenFrom n (ofChars cs) = .ok cs := by
    induction cs generalizing n with
    | nil => rfl
    | cons c cs ih =>
      have := ih (n + 1)
      simp only [ofChars] at this
      simp [ofChars, writtenFrom, this, bind, Except.bind, pure, Except.pure]
  have to_chars {u : Text} {n : Nat} {cs : List Char} (h : writtenFrom n u = .ok cs) :
      u = ofChars cs := by
    induction u generalizing n cs with
    | nil => cases h; rfl
    | cons p rest ih =>
      cases p with
      | half i => simp [writtenFrom] at h
      | char c =>
        cases hr : writtenFrom (n + 1) rest with
        | error e => simp [writtenFrom, hr, bind, Except.bind] at h
        | ok ds =>
          simp only [writtenFrom, hr, bind, Except.bind, pure, Except.pure, Except.ok.injEq] at h
          subst h
          simp [ofChars, ih hr]
  constructor
  · intro h
    unfold written at h
    cases hc : writtenFrom 0 t with
    | error e => simp [hc, Except.map] at h
    | ok cs =>
      simp only [hc, Except.map, Except.ok.injEq] at h
      subst h
      simpa [ofString] using to_chars hc
  · rintro rfl
    simp [written, ofString, from_chars, Except.map]

/-! ## Bytes kept as halves -/

/-- The code that a kept byte counts from; only bytes from 128 on are kept. -/
def byteStart : Nat := 0xdc00

/-- The byte that a half keeps, if it keeps one. -/
def keptByte? (i : Fin 0x800) : Option Nat :=
  let code := (Point.half i).code
  if byteStart + 0x80 ≤ code ∧ code ≤ byteStart + 0xff then some (code - byteStart) else none

/-- The half that keeps a byte. -/
def keepByte (b : Nat) : Point := .ofNat (byteStart + b)

/-- The bytes of a text, or the first halves that keep no byte; halves that follow one another are told
together from the first such on. -/
def bytesFrom (place : Nat) : Text → Except Unwritable (List Nat)
  | [] => .ok []
  | .char c :: rest => do
    return (String.utf8EncodeChar c).map UInt8.toNat ++ (← bytesFrom (place + 1) rest)
  | .half i :: rest =>
    match keptByte? i with
    | some b => do return b :: (← bytesFrom (place + 1) rest)
    | none => .error ⟨place, leadingHalves (.half i :: rest)⟩

/-- The bytes of a text, or the first halves that keep no byte. -/
def bytes (t : Text) : Except Unwritable (List Nat) := bytesFrom 0 t

/-- Whether a byte goes on with a character. -/
def isContinuation (b : Nat) : Bool := 0x80 ≤ b && b < 0xc0

/-- The code that the bytes of a character give, six bits from each byte after the first. -/
def codeOf (first : Nat) (later : List Nat) : Nat := later.foldl (fun n b => n * 0x40 + (b - 0x80)) first

/-- A character of a code, if it is one that needs a certain number of bytes. -/
def charOfCode? (least code : Nat) : Option Char :=
  if least ≤ code ∧ code.isValidChar then some (Char.ofNat code) else none

/-- The character at the start of bytes, and the number of its bytes. -/
def leadingChar? : List Nat → Option (Char × Nat)
  | [] => none
  | a :: rest =>
    let later (count : Nat) : Option (List Nat) :=
      let bs := rest.take count
      if bs.length = count ∧ bs.all isContinuation then some bs else none
    if a < 0x80 then some (Char.ofNat a, 1)
    else if 0xc0 ≤ a ∧ a < 0xe0 then do
      return (← charOfCode? 0x80 (codeOf (a - 0xc0) (← later 1)), 2)
    else if 0xe0 ≤ a ∧ a < 0xf0 then do
      return (← charOfCode? 0x800 (codeOf (a - 0xe0) (← later 2)), 3)
    else if 0xf0 ≤ a ∧ a < 0xf8 then do
      return (← charOfCode? 0x10000 (codeOf (a - 0xf0) (← later 3)), 4)
    else none

/-- The text of bytes: of the next `count` bytes, and of no others. -/
def ofBytesUpTo : Nat → List Nat → Text
  | 0, _ => []
  | _, [] => []
  | count + 1, b :: rest =>
    match leadingChar? (b :: rest) with
    | some (c, n) => .char c :: ofBytesUpTo count ((b :: rest).drop n)
    | none => keepByte b :: ofBytesUpTo count rest

/-- The text of bytes; a byte that belongs to no character is kept as a half. -/
def ofBytes (bs : List Nat) : Text := ofBytesUpTo bs.length bs

/-- A text as it comes back from outside, where it was bytes. -/
def returned (t : Text) : Except Unwritable Text := t.bytes.map ofBytes

/-- The number of bytes of a text, as far as it has any. -/
def byteCount (t : Text) : Nat := ((t.bytes.toOption).getD []).length

end SchemaScript.Text
