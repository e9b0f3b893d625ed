/-
# Reading JSON strings

## What is proved

A JSON string is printable ASCII, and reading it gives back the text that it was written from, up to one thing: where
the text has the first half of a pair directly before a second half, the two escapes are one character
(`readString_body`).  A text without halves is read as it is.

## How

Reading consumes one escape or one character, so the induction is on the text.  Only the escape of a first half looks
further ahead, to the next escape; `beginsLow` is what it finds there, and it depends on nothing but the next code point
of the text.
-/
import SchemaScript.Proofs.WholeTexts
import SchemaScript.Proofs.Lexing
import SchemaScript.Value.JsonReader

namespace SchemaScript

/-! ## Halves that meet -/

namespace Value.Json

theorem isHighHalf_iff {n : Nat} : isHighHalf n = true ↔ 0xd800 ≤ n ∧ n < 0xdc00 := by
  rw [isHighHalf, Bool.and_eq_true, decide_eq_true_eq, decide_eq_true_eq]

theorem isLowHalf_iff {n : Nat} : isLowHalf n = true ↔ 0xdc00 ≤ n ∧ n < 0xe000 := by
  rw [isLowHalf, Bool.and_eq_true, decide_eq_true_eq, decide_eq_true_eq]

end Value.Json

namespace Point

/-- The character that two halves of a pair stand for. -/
def paired (high low : Nat) : Char := Char.ofNat (0x10000 + (high - 0xd800) * 0x400 + (low - 0xdc00))

/-- Whether two code points are the halves of one character, in this order. -/
def arePair (p q : Point) : Bool := Value.Json.isHighHalf p.code && Value.Json.isLowHalf q.code

end Point

namespace Text

/-- A code point before a text; together with the first code point of the text it may make one character. -/
def joinPoint (p : Point) : Text → Text
  | [] => [p]
  | q :: rest => if p.arePair q then .char (Point.paired p.code q.code) :: rest else p :: q :: rest

/-- The text with one character for each two halves that make one. -/
def paired (t : Text) : Text := t.foldr joinPoint []

end Text

namespace Point

theorem not_isHighHalf_char (c : Char) : Value.Json.isHighHalf (char c).code = false := by
  have := code_char_lt c
  rw [Bool.eq_false_iff, ne_eq, Value.Json.isHighHalf_iff]
  show ¬ (0xd800 ≤ c.toNat ∧ c.toNat < 0xdc00)
  omega

theorem not_isLowHalf_char (c : Char) : Value.Json.isLowHalf (char c).code = false := by
  have := code_char_lt c
  rw [Bool.eq_false_iff, ne_eq, Value.Json.isLowHalf_iff]
  show ¬ (0xdc00 ≤ c.toNat ∧ c.toNat < 0xe000)
  omega

theorem not_isHighHalf_of_isLowHalf {n : Nat} (h : Value.Json.isLowHalf n = true) :
    Value.Json.isHighHalf n = false := by
  rw [Value.Json.isLowHalf_iff] at h
  rw [Bool.eq_false_iff, ne_eq, Value.Json.isHighHalf_iff]
  omega

/-- A code point is found again by its code. -/
theorem ofNat_code (p : Point) : ofNat p.code = p := by
  cases p with
  | char c =>
      rw [ofNat, code, if_pos (show c.toNat.isValidChar from c.valid), Char.ofNat_toNat]
  | half i =>
      have hi := i.isLt
      have hvalid : ¬ (firstHalf + i.val).isValidChar := by
        simp only [Nat.isValidChar, firstHalf]
        omega
      rw [ofNat, code, if_neg hvalid, Nat.add_sub_cancel_left]
      exact congrArg half (Fin.ext (Nat.mod_eq_of_lt hi))

theorem code_half_lt (i : Fin 0x800) : (Point.half i).code < 0x10000 := by
  have := i.isLt
  simp only [code, firstHalf]
  omega

end Point

namespace Text

theorem joinPoint_of_not_isHighHalf {p : Point} (h : Value.Json.isHighHalf p.code = false) (t : Text) :
    joinPoint p t = p :: t := by
  cases t with
  | nil => rfl
  | cons q rest => rw [joinPoint, Point.arePair, h, Bool.false_and, if_neg Bool.false_ne_true]

theorem paired_cons (p : Point) (t : Text) : paired (p :: t) = joinPoint p t.paired := rfl

theorem joinPoint_of_arePair {p q : Point} (h : p.arePair q = true) (t : Text) :
    joinPoint p (q :: t) = .char (Point.paired p.code q.code) :: t := if_pos h

theorem joinPoint_of_not_arePair {p q : Point} (h : p.arePair q = false) (t : Text) :
    joinPoint p (q :: t) = p :: q :: t := if_neg (Bool.eq_false_iff.mp h)

/-- What comes first after joining is a second half exactly if it was one before. -/
theorem joinPoint_head (p : Point) (t : Text) :
    ∃ q rest, joinPoint p t = q :: rest ∧ Value.Json.isLowHalf q.code = Value.Json.isLowHalf p.code := by
  cases t with
  | nil => exact ⟨p, [], rfl, rfl⟩
  | cons q t =>
      cases h : p.arePair q with
      | false => exact ⟨p, q :: t, joinPoint_of_not_arePair h t, rfl⟩
      | true =>
          refine ⟨_, t, joinPoint_of_arePair h t, (Point.not_isLowHalf_char _).trans ?_⟩
          have hhigh := (Bool.and_eq_true _ _ ▸ h : _ ∧ _).1
          cases hlow : Value.Json.isLowHalf p.code with
          | false => rfl
          | true =>
              rw [Point.not_isHighHalf_of_isLowHalf hlow] at hhigh
              cases hhigh

/-- A text without halves has nothing to join. -/
theorem paired_of_whole {t : Text} (h : t.Whole) : t.paired = t := by
  induction t with
  | nil => rfl
  | cons p t ih =>
      have ht : Whole t := fun i hi => h i (List.mem_cons_of_mem _ hi)
      cases p with
      | char c =>
          rw [paired_cons, ih ht]
          exact joinPoint_of_not_isHighHalf (Point.not_isHighHalf_char c) t
      | half i => exact absurd List.mem_cons_self (h i)

end Text

namespace Value.Json

/-! ## Escapes -/

theorem hexDigit?_digitChar {k : Nat} (h : k < 16) : hexDigit? (.char (Nat.digitChar k)) = some k := by
  have hall : ∀ k < 16, hexDigit? (.char (Nat.digitChar k)) = some k := by decide
  exact hall k h

theorem numeral_one {b n : Nat} (hb : 1 < b) (hn : n < b) : Text.numeral b 1 n = [Nat.digitChar n] := by
  rw [Text.numeral, Nat.toDigits_eq_if hb, if_pos hn]
  rfl

/-- One more place of a numeral is the last one. -/
theorem numeral_succ {b : Nat} (hb : 1 < b) (width n : Nat) :
    Text.numeral b (width + 2) n = Text.numeral b (width + 1) (n / b) ++ [Nat.digitChar (n % b)] := by
  by_cases hn : n < b
  · rw [Text.numeral, Text.numeral, Nat.div_eq_of_lt hn, Nat.mod_eq_of_lt hn, Nat.toDigits_eq_if hb, if_pos hn,
      Nat.toDigits_zero]
    simp [Text.padLeft, List.replicate_succ']
  · rw [Text.numeral, Text.numeral, Nat.toDigits_eq_if hb, if_neg hn]
    simp [Text.padLeft]

theorem numeral_unit {u : Nat} (h : u < 0x10000) : Text.numeral 16 4 u =
    [Nat.digitChar (u / 16 / 16 / 16), Nat.digitChar (u / 16 / 16 % 16), Nat.digitChar (u / 16 % 16),
      Nat.digitChar (u % 16)] := by
  rw [numeral_succ (by decide), numeral_succ (by decide), numeral_succ (by decide),
    numeral_one (by decide) (by omega)]
  rfl

/-- An escape of a unit spells the unit. -/
theorem ofChars_unitEscape {u : Nat} (h : u < 0x10000) :
    ∃ a b c d, Text.ofChars (unitEscape u) = [.char '\\', .char 'u', a, b, c, d] ∧
      unit? a b c d = some u := by
  refine ⟨.char (Nat.digitChar (u / 16 / 16 / 16)), .char (Nat.digitChar (u / 16 / 16 % 16)),
    .char (Nat.digitChar (u / 16 % 16)), .char (Nat.digitChar (u % 16)), ?_, ?_⟩
  · rw [unitEscape, numeral_unit h]
    rfl
  · rw [unit?, hexDigit?_digitChar (by omega), hexDigit?_digitChar (by omega), hexDigit?_digitChar (by omega),
      hexDigit?_digitChar (by omega)]
    refine congrArg some ?_
    omega

/-- Whether a text begins with the escape of a second half. -/
def beginsLow : Text → Bool
  | .char '\\' :: .char 'u' :: e :: f :: g :: h :: _ => (unit? e f g h).any isLowHalf
  | _ => false

theorem beginsLow_escape {e f g h : Point} {v : Nat} (hv : unit? e f g h = some v) (rest : Text) :
    beginsLow (.char '\\' :: .char 'u' :: e :: f :: g :: h :: rest) = isLowHalf v := by
  rw [beginsLow, hv, Option.any_some]

theorem beginsLow_letter {p : Point} (h : p ≠ .char 'u') (rest : Text) :
    beginsLow (.char '\\' :: p :: rest) = false :=
  beginsLow.eq_2 _ fun _ _ _ _ _ heq => h (List.cons.inj (List.cons.inj heq).2).1

theorem beginsLow_literal {p : Point} (h : p ≠ .char '\\') (rest : Text) : beginsLow (p :: rest) = false :=
  beginsLow.eq_2 _ fun _ _ _ _ _ heq => h (List.cons.inj heq).1

theorem unit?_of_readString {e f g h : Point} {rest : Text} {r : Text × Text}
    (hr : readString (.char '\\' :: .char 'u' :: e :: f :: g :: h :: rest) = some r) :
    ∃ v, unit? e f g h = some v := by
  cases hunit : unit? e f g h with
  | some v => exact ⟨v, rfl⟩
  | none =>
      exfalso
      by_cases hrest : ∃ e' f' g' h' rest', rest = .char '\\' :: .char 'u' :: e' :: f' :: g' :: h' :: rest'
      · obtain ⟨e', f', g', h', rest', rfl⟩ := hrest
        rw [readString.eq_3, hunit] at hr
        cases hr
      · rw [readString.eq_4 _ _ _ _ _ fun e' f' g' h' rest' heq => hrest ⟨e', f', g', h', rest', heq⟩,
          hunit] at hr
        cases hr

/-- An escape is read by itself unless it is that of a first half before that of a second half. -/
theorem readString_unit {a b c d : Point} {u : Nat} (hu : unit? a b c d = some u) {rest s after : Text}
    (hrest : readString rest = some (s, after))
    (hpair : (isHighHalf u && beginsLow rest) = false) :
    readString (.char '\\' :: .char 'u' :: a :: b :: c :: d :: rest) = some (.ofNat u :: s, after) := by
  by_cases hshape : ∃ e f g h rest', rest = .char '\\' :: .char 'u' :: e :: f :: g :: h :: rest'
  · obtain ⟨e, f, g, h, rest', rfl⟩ := hshape
    obtain ⟨v, hv⟩ := unit?_of_readString hrest
    have hapart : (isHighHalf u && isLowHalf v) = false := beginsLow_escape hv rest' ▸ hpair
    rw [readString.eq_3, hu, hv]
    simp only [Option.bind_eq_bind, Option.bind_some, hapart, hrest, Bool.false_eq_true, if_false]
    rfl
  · rw [readString.eq_4 _ _ _ _ _ fun e f g h rest' heq => hshape ⟨e, f, g, h, rest', heq⟩, hu, hrest]
    rfl

/-- The escapes of two halves that meet are read as one character. -/
theorem readString_pair {a b c d e f g h : Point} {u v : Nat} (hu : unit? a b c d = some u)
    (hv : unit? e f g h = some v) (hhigh : isHighHalf u = true) (hlow : isLowHalf v = true)
    {rest s after : Text} (hrest : readString rest = some (s, after)) :
    readString (.char '\\' :: .char 'u' :: a :: b :: c :: d ::
        .char '\\' :: .char 'u' :: e :: f :: g :: h :: rest) =
      some (.char (Point.paired u v) :: s, after) := by
  rw [readString.eq_3, hu, hv]
  simp only [Option.bind_eq_bind, Option.bind_some, hhigh, hlow, hrest, Bool.and_self, if_true]
  rfl

theorem readString_escaped {p : Point} {c : Char} (hp : escaped? p = some c) {rest s after : Text}
    (hrest : readString rest = some (s, after)) :
    readString (.char '\\' :: p :: rest) = some (.char c :: s, after) := by
  have hu : p ≠ .char 'u' := by
    rintro rfl
    cases hp
  rw [readString.eq_5 _ _ (fun _ _ _ _ _ _ _ _ _ h => absurd h hu) (fun _ _ _ _ _ h => absurd h hu), hp, hrest]
  rfl

theorem readString_literal {p : Point} (hquote : p ≠ .char '"') (hslash : p ≠ .char '\\')
    (hp : isStringPoint p = true) {rest s after : Text} (hrest : readString rest = some (s, after)) :
    readString (p :: rest) = some (p :: s, after) := by
  rw [readString.eq_6 _ _ hquote (fun _ _ _ _ _ _ _ _ _ h => absurd h hslash)
    (fun _ _ _ _ _ h => absurd h hslash) (fun _ _ h => absurd h hslash), if_pos hp, hrest]
  rfl

/-! ## Code points in a string -/

/-- The first unit of the pair that a character is written as. -/
def highUnit (c : Char) : Nat := 0xd800 + (c.toNat - 0x10000) / 0x400

/-- The second unit of the pair that a character is written as. -/
def lowUnit (c : Char) : Nat := 0xdc00 + (c.toNat - 0x10000) % 0x400

theorem isHighHalf_highUnit (c : Char) : isHighHalf (highUnit c) = true := by
  have := Point.code_char_lt c
  rw [isHighHalf_iff, highUnit]
  omega

theorem isLowHalf_lowUnit (c : Char) : isLowHalf (lowUnit c) = true := by
  rw [isLowHalf_iff, lowUnit]
  omega

theorem lt_of_isHighHalf {n : Nat} (h : isHighHalf n = true) : n < 0x10000 :=
  Nat.lt_trans (isHighHalf_iff.mp h).2 (by decide)

theorem lt_of_isLowHalf {n : Nat} (h : isLowHalf n = true) : n < 0x10000 :=
  Nat.lt_trans (isLowHalf_iff.mp h).2 (by decide)

/-- A character is that of its two units. -/
theorem paired_units {c : Char} (h : 0x10000 ≤ c.toNat) : Point.paired (highUnit c) (lowUnit c) = c := by
  have hcode : 0x10000 + (highUnit c - 0xd800) * 0x400 + (lowUnit c - 0xdc00) = c.toNat := by
    rw [highUnit, lowUnit]
    omega
  rw [Point.paired, hcode, Char.ofNat_toNat]

/-- Whether a character is a printable one of ASCII. -/
def IsAscii (c : Char) : Prop := 32 ≤ c.toNat ∧ c.toNat < 127

instance (c : Char) : Decidable (IsAscii c) := inferInstanceAs (Decidable (_ ∧ _))

/-- How a code point stands in a string: as a letter after a backslash, as it is, or as one escape or two. -/
inductive Written : Point → List Char → Prop where
  | letter {c e : Char} (he : escaped? (.char e) = some c) (hascii : IsAscii e) :
      Written (.char c) ['\\', e]
  | literal {c : Char} (hquote : c ≠ '"') (hslash : c ≠ '\\') (hascii : IsAscii c) : Written (.char c) [c]
  | unit {p : Point} (hcode : p.code < 0x10000) : Written p (unitEscape p.code)
  | pair {c : Char} (hcode : 0x10000 ≤ c.toNat) :
      Written (.char c) (unitEscape (highUnit c) ++ unitEscape (lowUnit c))

theorem written_stringChar (c : Char) : Written (.char c) (stringChar c) := by
  unfold stringChar
  iterate 7
    split
    next h =>
      subst h
      exact .letter rfl (by decide)
  split
  next hquote hslash _ _ _ _ _ hrange => exact .literal hquote hslash hrange
  split
  next hcode => exact .unit hcode
  next hcode => exact .pair (Nat.le_of_not_lt hcode)

theorem written_stringPoint (p : Point) : Written p (stringPoint p) := by
  cases p with
  | char c => exact written_stringChar c
  | half i => exact .unit (Point.code_half_lt i)

theorem isAscii_unitEscape {u : Nat} (h : u < 0x10000) : ∀ c ∈ unitEscape u, IsAscii c := by
  have hdigit : ∀ k < 16, IsAscii (Nat.digitChar k) := by decide
  rw [unitEscape, numeral_unit h]
  simp only [List.forall_mem_cons, List.not_mem_nil, false_imp_iff, implies_true, and_true]
  exact ⟨by decide, by decide, hdigit _ (by omega), hdigit _ (by omega), hdigit _ (by omega), hdigit _ (by omega)⟩

theorem Written.isAscii {p : Point} {cs : List Char} (h : Written p cs) : ∀ c ∈ cs, IsAscii c := by
  cases h with
  | letter _ hascii =>
      simp only [List.forall_mem_cons, List.not_mem_nil, false_imp_iff, implies_true, and_true]
      exact ⟨by decide, hascii⟩
  | literal _ _ hascii =>
      intro c hc
      exact List.mem_singleton.mp hc ▸ hascii
  | unit hcode => exact isAscii_unitEscape hcode
  | @pair c _ =>
      rw [List.forall_mem_append]
      exact ⟨isAscii_unitEscape (lt_of_isHighHalf (isHighHalf_highUnit c)),
        isAscii_unitEscape (lt_of_isLowHalf (isLowHalf_lowUnit c))⟩

/-- What an escape of a first half finds after it is a second half exactly if the next code point is one. -/
theorem Written.beginsLow_append {p : Point} {cs : List Char} (h : Written p cs) (rest : Text) :
    beginsLow (Text.ofChars cs ++ rest) = isLowHalf p.code := by
  cases h with
  | @letter c e he _ =>
      have hu : Point.char e ≠ .char 'u' := by
        intro heq
        rw [heq] at he
        cases he
      exact (beginsLow_letter hu rest).trans (Point.not_isLowHalf_char c).symm
  | @literal c _ hslash _ =>
      have hp : Point.char c ≠ .char '\\' := fun heq => hslash (Point.char.inj heq)
      exact (beginsLow_literal hp rest).trans (Point.not_isLowHalf_char c).symm
  | unit hcode =>
      obtain ⟨a, b, c, d, hchars, hunit⟩ := ofChars_unitEscape hcode
      rw [hchars]
      exact beginsLow_escape hunit rest
  | @pair c hcode =>
      have hhigh := isHighHalf_highUnit c
      obtain ⟨a, b, c', d, hchars, hunit⟩ := ofChars_unitEscape (lt_of_isHighHalf hhigh)
      have hlow : isLowHalf (highUnit c) = false := by
        rw [Bool.eq_false_iff]
        intro hlow
        rw [Point.not_isHighHalf_of_isLowHalf hlow] at hhigh
        cases hhigh
      rw [Lexing.ofChars_append, hchars, List.append_assoc]
      exact ((beginsLow_escape hunit _).trans hlow).trans (Point.not_isLowHalf_char c).symm

/-- A code point is read as it is, unless it is a first half before a second half. -/
theorem Written.readString {p : Point} {cs : List Char} (h : Written p cs) {rest s after : Text}
    (hrest : Json.readString rest = some (s, after)) (hpair : (isHighHalf p.code && beginsLow rest) = false) :
    Json.readString (Text.ofChars cs ++ rest) = some (p :: s, after) := by
  cases h with
  | letter he _ => exact readString_escaped he hrest
  | @literal c hquote hslash hascii =>
      refine readString_literal (fun h => hquote (Point.char.inj h)) (fun h => hslash (Point.char.inj h)) ?_ hrest
      exact decide_eq_true hascii.1
  | unit hcode =>
      obtain ⟨a, b, c, d, hchars, hunit⟩ := ofChars_unitEscape hcode
      rw [hchars, ← Point.ofNat_code p]
      exact readString_unit hunit hrest hpair
  | @pair c hcode =>
      have hhigh := isHighHalf_highUnit c
      have hlow := isLowHalf_lowUnit c
      obtain ⟨a, b, c', d, hchars, hunit⟩ := ofChars_unitEscape (lt_of_isHighHalf hhigh)
      obtain ⟨e, f, g, h, hchars', hunit'⟩ := ofChars_unitEscape (lt_of_isLowHalf hlow)
      have hread := readString_pair hunit hunit' hhigh hlow hrest
      rw [paired_units hcode] at hread
      rw [Lexing.ofChars_append, hchars, hchars']
      exact hread

/-- The escapes of two code points that are one character are read as that character. -/
theorem readString_arePair {p q : Point} (h : p.arePair q = true) {rest s after : Text}
    (hrest : readString rest = some (s, after)) :
    readString (Text.ofChars (stringPoint p) ++ (Text.ofChars (stringPoint q) ++ rest)) =
      some (.char (Point.paired p.code q.code) :: s, after) := by
  obtain ⟨hhigh, hlow⟩ := Bool.and_eq_true _ _ ▸ h
  cases p with
  | char c =>
      rw [Point.not_isHighHalf_char] at hhigh
      cases hhigh
  | half i =>
      cases q with
      | char c =>
          rw [Point.not_isLowHalf_char] at hlow
          cases hlow
      | half j =>
          obtain ⟨a, b, c, d, hchars, hunit⟩ := ofChars_unitEscape (Point.code_half_lt i)
          obtain ⟨e, f, g, h, hchars', hunit'⟩ := ofChars_unitEscape (Point.code_half_lt j)
          rw [stringPoint, stringPoint, hchars, hchars']
          exact readString_pair hunit hunit' hhigh hlow hrest

/-! ## Strings -/

/-- A text in a string, up to its closing quote, before a rest. -/
def body (t rest : Text) : Text := Text.ofChars (t.flatMap stringPoint) ++ .char '"' :: rest

theorem body_cons (p : Point) (t rest : Text) :
    body (p :: t) rest = Text.ofChars (stringPoint p) ++ body t rest := by
  rw [body, body, List.flatMap_cons, Lexing.ofChars_append, List.append_assoc]

theorem readString_body : ∀ t rest : Text, readString (body t rest) = some (t.paired, rest)
  | [], rest => readString.eq_2 rest
  | [p], rest => by
      rw [body_cons]
      have hquote : beginsLow (body [] rest) = false := beginsLow_literal (by decide) rest
      exact (written_stringPoint p).readString (readString.eq_2 rest) (by rw [hquote, Bool.and_false])
  | p :: q :: t, rest => by
      rw [body_cons, Text.paired_cons]
      cases hpair : p.arePair q with
      | true =>
          have hq : isHighHalf q.code = false :=
            Point.not_isHighHalf_of_isLowHalf (Bool.and_eq_true _ _ ▸ hpair : _ ∧ _).2
          rw [Text.paired_cons, Text.joinPoint_of_not_isHighHalf hq, Text.joinPoint_of_arePair hpair, body_cons]
          exact readString_arePair hpair (readString_body t rest)
      | false =>
          have hlow : beginsLow (body (q :: t) rest) = isLowHalf q.code := by
            rw [body_cons]
            exact (written_stringPoint q).beginsLow_append _
          obtain ⟨r, t', hjoin, hr⟩ := Text.joinPoint_head q (Text.paired t)
          have happart : p.arePair r = false := by
            rw [Point.arePair, hr]
            exact hpair
          have hread := (written_stringPoint p).readString (readString_body (q :: t) rest) (by
            rw [hlow]
            exact hpair)
          rw [hread, Text.paired_cons, hjoin, Text.joinPoint_of_not_arePair happart]

/-- A string consists of printable characters of ASCII. -/
theorem isAscii_string (t : Text) : ∀ c ∈ string t, IsAscii c := by
  intro c hc
  rw [string, List.cons_append, List.mem_cons, List.mem_append] at hc
  rcases hc with rfl | hc | hc
  · decide
  · obtain ⟨p, _, hp⟩ := List.mem_flatMap.mp hc
    exact (written_stringPoint p).isAscii c hp
  · exact List.mem_singleton.mp hc ▸ by decide

theorem ofChars_string (t rest : Text) : Text.ofChars (string t) ++ rest = .char '"' :: body t rest := by
  rw [string, Lexing.ofChars_append, body, List.append_assoc]
  rfl

end Value.Json

end SchemaScript
