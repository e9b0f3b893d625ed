/-
# Strings come back from outside as they are

## What is proved

A text without halves has bytes, and these bytes are read as the same text (`Text.returned_ofString`).

## How

The bytes of one character hold its code in pieces of six bits, and `leadingChar?` puts the pieces together again, whatever
follows them.  Then one character after another is taken off the bytes of a string.
-/
import SchemaScript.Text.Bytes

namespace SchemaScript.Text

/-- The bytes of a character. -/
def charBytes (c : Char) : List Nat := (String.utf8EncodeChar c).map UInt8.toNat

theorem charBytes_eq (c : Char) :
    charBytes c =
      if c.toNat < 0x80 then [c.toNat]
      else if c.toNat < 0x800 then [0xc0 + c.toNat / 0x40, 0x80 + c.toNat % 0x40]
      else if c.toNat < 0x10000 then
        [0xe0 + c.toNat / 0x1000, 0x80 + c.toNat / 0x40 % 0x40, 0x80 + c.toNat % 0x40]
      else
        [0xf0 + c.toNat / 0x40000, 0x80 + c.toNat / 0x1000 % 0x40, 0x80 + c.toNat / 0x40 % 0x40,
          0x80 + c.toNat % 0x40] := by
  have hcode : c.val.toNat = c.toNat := rfl
  have hlt := Point.code_char_lt c
  simp only [charBytes, String.utf8EncodeChar, hcode]
  split
  · rw [if_pos (by omega)]
    simp only [List.map_cons, List.map_nil, UInt8.toNat_ofNat', List.cons.injEq, and_true]
    omega
  split
  · rw [if_neg (by omega), if_pos (by omega)]
    simp only [List.map_cons, List.map_nil, UInt8.toNat_ofNat', List.cons.injEq, and_true]
    omega
  split
  · rw [if_neg (by omega), if_neg (by omega), if_pos (by omega)]
    simp only [List.map_cons, List.map_nil, UInt8.toNat_ofNat', List.cons.injEq, and_true]
    omega
  · rw [if_neg (by omega), if_neg (by omega), if_neg (by omega)]
    simp only [List.map_cons, List.map_nil, UInt8.toNat_ofNat', List.cons.injEq, and_true]
    omega

theorem charOfCode?_toNat {c : Char} {least code : Nat} (hcode : code = c.toNat) (h : least ≤ c.toNat) :
    charOfCode? least code = some c := by
  have hvalid : c.toNat.isValidChar := c.valid
  rw [charOfCode?, hcode, if_pos ⟨h, hvalid⟩, Char.ofNat_toNat]

theorem isContinuation_add {n : Nat} (h : n < 0x40) : isContinuation (0x80 + n) = true := by
  simp only [isContinuation, Bool.and_eq_true, decide_eq_true_eq]
  omega

/-- The bytes of a character are read as this character, whatever follows them. -/
theorem leadingChar?_charBytes (c : Char) (rest : List Nat) :
    leadingChar? (charBytes c ++ rest) = some (c, (charBytes c).length) := by
  have hlt := Point.code_char_lt c
  -- Each byte after the first goes on with the character.
  have hlow : isContinuation (0x80 + c.toNat % 0x40) = true := isContinuation_add (by omega)
  have hmiddle : isContinuation (0x80 + c.toNat / 0x40 % 0x40) = true := isContinuation_add (by omega)
  have hhigh : isContinuation (0x80 + c.toNat / 0x1000 % 0x40) = true := isContinuation_add (by omega)
  rw [charBytes_eq]
  split
  · next h =>
    simp only [leadingChar?, List.singleton_append]
    rw [if_pos h, Char.ofNat_toNat]
    rfl
  split
  · simp only [leadingChar?, List.cons_append, List.nil_append]
    rw [if_neg (by omega), if_pos (by omega)]
    have hcode : codeOf (c.toNat / 0x40) [0x80 + c.toNat % 0x40] = c.toNat := by
      simp only [codeOf, List.foldl_cons, List.foldl_nil]
      omega
    have hchar : charOfCode? 0x80 _ = some c := charOfCode?_toNat hcode (by omega)
    simp [hlow, hchar]
  split
  · simp only [leadingChar?, List.cons_append, List.nil_append]
    rw [if_neg (by omega), if_neg (by omega), if_pos (by omega)]
    have hcode : codeOf (c.toNat / 0x1000) [0x80 + c.toNat / 0x40 % 0x40, 0x80 + c.toNat % 0x40] = c.toNat := by
      simp only [codeOf, List.foldl_cons, List.foldl_nil]
      omega
    have hchar : charOfCode? 0x800 _ = some c := charOfCode?_toNat hcode (by omega)
    simp [hlow, hmiddle, hchar]
  · simp only [leadingChar?, List.cons_append, List.nil_append]
    rw [if_neg (by omega), if_neg (by omega), if_neg (by omega), if_pos (by omega)]
    have hcode : codeOf (c.toNat / 0x40000)
        [0x80 + c.toNat / 0x1000 % 0x40, 0x80 + c.toNat / 0x40 % 0x40, 0x80 + c.toNat % 0x40] = c.toNat := by
      simp only [codeOf, List.foldl_cons, List.foldl_nil]
      omega
    have hchar : charOfCode? 0x10000 _ = some c := charOfCode?_toNat hcode (by omega)
    simp [hlow, hmiddle, hhigh, hchar]

theorem length_charBytes_pos (c : Char) : 0 < (charBytes c).length := by
  rw [charBytes, List.length_map, String.length_utf8EncodeChar]
  exact c.utf8Size_pos

theorem bytesFrom_ofChars (cs : List Char) (place : Nat) :
    bytesFrom place (ofChars cs) = .ok (cs.flatMap charBytes) := by
  induction cs generalizing place with
  | nil => rfl
  | cons c cs ih =>
      show (do return charBytes c ++ (← bytesFrom (place + 1) (ofChars cs))) = _
      rw [ih]
      rfl

/-- With enough bytes allowed, all characters are read. -/
theorem ofBytesUpTo_flatMap_charBytes (cs : List Char) {count : Nat} (h : (cs.flatMap charBytes).length ≤ count) :
    ofBytesUpTo count (cs.flatMap charBytes) = ofChars cs := by
  induction cs generalizing count with
  | nil =>
      cases count with
      | zero => rfl
      | succ count => rfl
  | cons c cs ih =>
      have hpos := length_charBytes_pos c
      rw [List.flatMap_cons, List.length_append] at h
      obtain ⟨count, rfl⟩ : ∃ n, count = n + 1 := ⟨count - 1, by omega⟩
      obtain ⟨b, later, hbytes⟩ := List.exists_cons_of_length_pos hpos
      have hlead := leadingChar?_charBytes c (cs.flatMap charBytes)
      have hrest : (charBytes c ++ cs.flatMap charBytes).drop (charBytes c).length = cs.flatMap charBytes :=
        List.drop_left
      rw [hbytes, List.cons_append] at hlead hrest
      rw [List.flatMap_cons, hbytes, List.cons_append, ofBytesUpTo, hlead]
      show Point.char c :: ofBytesUpTo count _ = Point.char c :: ofChars cs
      rw [hrest, ih (by omega)]

/-- A string comes back as it is. -/
theorem returned_ofString (s : String) : (ofString s).returned = .ok (ofString s) := by
  rw [returned, bytes, ofString, bytesFrom_ofChars]
  exact congrArg Except.ok (ofBytesUpTo_flatMap_charBytes s.toList Nat.le.refl)

end SchemaScript.Text
