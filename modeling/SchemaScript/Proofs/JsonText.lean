/-
# Reading JSON texts

## What is proved

`Value.ReadsAs v w` says that the JSON text of `v` is printable ASCII and that reading it, whatever follows, gives `w`
and leaves what follows.  Every text is read as the text with its meeting halves joined; integers, lists and records
are read from their parts, and so a value that is made of nothing else than these, with texts without halves and integers
of not too many digits, has a JSON text (`IsPlain.writtenJson`) and is read as itself (`IsPlain.readsAs`).

## How

Reading a value takes a bound on its depth; the length of the text is enough, because a bracket or a comma is spent on
every step.  What follows a value is the end, a comma or a closing bracket (`Ends`), so a number ends where it should.
Blanks before a value are skipped, so each statement is about a text that is the value's once its blanks are skipped.
-/
import Mathlib.Data.List.Forall2
import SchemaScript.Proofs.JsonStrings
import SchemaScript.Proofs.Merging

namespace SchemaScript

namespace Value

namespace Json

/-! ## What stands around a value -/

/-- What may follow a value: nothing, a comma, or a closing bracket. -/
def Ends (t : Text) : Prop := ∀ p ∈ t.head?, p = .char ',' ∨ p = .char ']' ∨ p = .char '\x7d'

theorem ends_nil : Ends [] := nofun

theorem ends_comma (t : Text) : Ends (.char ',' :: t) := fun _ h => .inl (Option.some.inj h).symm

theorem ends_bracket (t : Text) : Ends (.char ']' :: t) := fun _ h => .inr (.inl (Option.some.inj h).symm)

theorem ends_brace (t : Text) : Ends (.char '\x7d' :: t) := fun _ h => .inr (.inr (Option.some.inj h).symm)

/-- A code point that may follow a value has no property that the three characters lack. -/
theorem Ends.head {t : Text} (h : Ends t) {property : Char → Bool} (hcomma : property ',' = false)
    (hbracket : property ']' = false) (hbrace : property '\x7d' = false) :
    ∀ p ∈ t.head?, p.is property = false := by
  intro p hp
  rcases h p hp with rfl | rfl | rfl
  · exact hcomma
  · exact hbracket
  · exact hbrace

theorem skipBlanks_of_isAscii {c : Char} (h : IsAscii c) (hc : c ≠ ' ') (t : Text) :
    skipBlanks (.char c :: t) = .char c :: t := by
  have hblank : (c == ' ' || c == '\t' || c == '\n' || c == '\r') = false := by
    have hlow (d : Char) (hd : d.toNat < 32) : c ≠ d := fun heq => by
      have := h.1
      rw [heq] at this
      omega
    simp [hc, hlow '\t' (by decide), hlow '\n' (by decide), hlow '\r' (by decide)]
  exact List.dropWhile_cons_of_neg (by simp [Point.is, Point.char?, hblank])

/-! ## Numbers -/

theorem spanDigits_append {ds : List Char} (hds : ∀ d ∈ ds, d.isDigit = true) {rest : Text}
    (hrest : ∀ p ∈ rest.head?, p.is Char.isDigit = false) :
    spanDigits (Text.ofChars ds ++ rest) = (ds, rest) := by
  have hall : ∀ p ∈ Text.ofChars ds, p.is Char.isDigit = true := by
    intro p hp
    obtain ⟨d, hd, rfl⟩ := List.mem_map.mp hp
    exact hds d hd
  have htake : rest.takeWhile (·.is Char.isDigit) = [] := by
    cases rest with
    | nil => rfl
    | cons p rest => exact List.takeWhile_cons_of_neg (by simp [hrest p rfl])
  have hdrop : rest.dropWhile (·.is Char.isDigit) = rest := by
    cases rest with
    | nil => rfl
    | cons p rest => exact List.dropWhile_cons_of_neg (by simp [hrest p rfl])
  rw [spanDigits, List.span_eq_takeWhile_dropWhile]
  simp only
  rw [List.takeWhile_append_of_pos hall, List.dropWhile_append_of_pos hall, htake, hdrop, List.append_nil,
    Text.ofChars, List.filterMap_map]
  exact congrArg (·, rest) List.filterMap_some

/-- A numeral begins with a zero only if it is that of zero. -/
theorem head_toDigits {n : Nat} (hn : n ≠ 0) : (Nat.toDigits 10 n).head? ≠ some '0' := by
  induction n using Nat.strongRecOn with
  | _ n ih =>
      rw [Nat.toDigits_eq_if (by decide)]
      split
      next hlt =>
        have hdigit : ∀ k < 10, k ≠ 0 → Nat.digitChar k ≠ '0' := by decide
        exact fun h => hdigit n hlt hn (Option.some.inj h)
      next hge =>
        rw [List.head?_append_of_ne_nil _ Nat.toDigits_ne_nil]
        exact ih (n / 10) (by omega) (by omega)

theorem natOfDigits_toDigits (n : Nat) : natOfDigits (Nat.toDigits 10 n) = n := by
  have hfold : natOfDigits (Nat.toDigits 10 n) = Nat.ofDigitChars 10 (Nat.toDigits 10 n) 0 := by
    rw [natOfDigits, Nat.ofDigitChars]
    congr 1
    funext k d
    rw [Nat.mul_comm]
    rfl
  rw [hfold, Nat.ofDigitChars_toDigits (by decide) (by decide)]

theorem readWhole_toDigits (n : Nat) {rest : Text} (hrest : Ends rest) :
    readWhole (Text.ofChars (Nat.toDigits 10 n) ++ rest) = some (Nat.toDigits 10 n, rest) := by
  have hspan : spanDigits (Text.ofChars (Nat.toDigits 10 n) ++ rest) = (Nat.toDigits 10 n, rest) :=
    spanDigits_append (fun d hd => Nat.isDigit_of_mem_toDigits (by decide) (by decide) hd)
      (hrest.head rfl rfl rfl)
  by_cases hn : n = 0
  · subst hn
    rfl
  · have hhead := head_toDigits hn
    cases hds : Nat.toDigits 10 n with
    | nil => exact absurd hds Nat.toDigits_ne_nil
    | cons d ds =>
        rw [hds] at hspan hhead
        have hd : Point.char d ≠ .char '0' := fun h => hhead (congrArg some (Point.char.inj h))
        rw [Text.ofChars, List.map_cons, List.cons_append, readWhole.eq_2 _ fun _ h => hd (List.cons.inj h).1]
        have hspan' : spanDigits (.char d :: (ds.map .char ++ rest)) = (d :: ds, rest) := hspan
        rw [hspan']

theorem readPlaces_of_ends {rest : Text} (h : Ends rest) : readPlaces rest = (none, rest) := by
  cases rest with
  | nil => rfl
  | cons p rest => rcases h p rfl with rfl | rfl | rfl <;> rfl

theorem readPower_of_ends {rest : Text} (h : Ends rest) : readPower rest = (none, rest) := by
  cases rest with
  | nil => rfl
  | cons p rest => rcases h p rfl with rfl | rfl | rfl <;> rfl

theorem readMagnitude_toDigits (negative : Bool) (n : Nat) {rest : Text} (hrest : Ends rest) :
    readMagnitude negative (Text.ofChars (Nat.toDigits 10 n) ++ rest) =
      some (.int (if negative then -n else n), rest) := by
  rw [readMagnitude, readWhole_toDigits n hrest]
  simp only [Option.bind_eq_bind, Option.bind_some, readPlaces_of_ends hrest, readPower_of_ends hrest,
    natOfDigits_toDigits]
  rfl

/-- The text of an integer: the digits of its size, after a minus sign if it is negative. -/
theorem toList_signedDecimal (n : Int) :
    (Text.signedDecimal n).toList = (if n < 0 then ['-'] else []) ++ Nat.toDigits 10 n.natAbs := by
  have hpad : Text.numeral 10 1 n.natAbs = Nat.toDigits 10 n.natAbs := by
    have hlen := List.length_pos_of_ne_nil (Nat.toDigits_ne_nil (n := n.natAbs) (b := 10))
    rw [Text.numeral, Text.padLeft, Nat.sub_eq_zero_of_le hlen]
    rfl
  rw [Text.signedDecimal, Text.decimal, hpad]
  split
  · rw [String.toList_append, String.toList_ofList, String.toList_ofList]
  · rw [String.toList_ofList]
    rfl

theorem isAscii_of_isDigit {c : Char} (h : c.isDigit = true) : IsAscii c := by
  simp only [Char.isDigit, Bool.and_eq_true, decide_eq_true_eq] at h
  have hlow : 48 ≤ c.toNat := UInt32.le_iff_toNat_le.mp h.1
  have hhigh : c.toNat ≤ 57 := UInt32.le_iff_toNat_le.mp h.2
  exact ⟨by omega, by omega⟩

/-- The text of an integer begins with a digit or a minus sign. -/
theorem head_signedDecimal (n : Int) :
    ∃ c cs, (Text.signedDecimal n).toList = c :: cs ∧ (c = '-' ∨ c.isDigit = true) := by
  rw [toList_signedDecimal]
  split
  · exact ⟨'-', _, rfl, .inl rfl⟩
  · cases hds : Nat.toDigits 10 n.natAbs with
    | nil => exact absurd hds Nat.toDigits_ne_nil
    | cons d ds =>
        have hd : d ∈ Nat.toDigits 10 n.natAbs := hds ▸ List.mem_cons_self
        exact ⟨d, ds, rfl, .inr (Nat.isDigit_of_mem_toDigits (by decide) (by decide) hd)⟩

theorem readNumber_signedDecimal (n : Int) {rest : Text} (hrest : Ends rest) :
    readNumber (Text.ofChars (Text.signedDecimal n).toList ++ rest) = some (.int n, rest) := by
  rw [toList_signedDecimal]
  split
  next hn =>
    have hread := readMagnitude_toDigits true n.natAbs hrest
    rw [if_pos rfl, show -(n.natAbs : Int) = n by omega] at hread
    exact hread
  next hn =>
    have hread := readMagnitude_toDigits false n.natAbs hrest
    rw [if_neg Bool.false_ne_true, show (n.natAbs : Int) = n by omega] at hread
    rw [List.nil_append, ← hread]
    refine readNumber.eq_2 _ fun t ht => ?_
    have hminus : Point.char '-' ∈ (Text.ofChars (Nat.toDigits 10 n.natAbs)) := by
      cases hds : Nat.toDigits 10 n.natAbs with
      | nil => exact absurd hds Nat.toDigits_ne_nil
      | cons d ds =>
          rw [hds] at ht
          exact (List.cons.inj ht).1 ▸ List.mem_cons_self
    obtain ⟨d, hd, heq⟩ := List.mem_map.mp hminus
    have hdigit := Nat.isDigit_of_mem_toDigits (by decide) (by decide) hd
    rw [Point.char.inj heq] at hdigit
    cases hdigit

/-- What begins with a digit or a minus sign is read as a number. -/
theorem readValue_number {c : Char} (hc : c = '-' ∨ c.isDigit = true) {fuel : Nat} {t rest : Text}
    (ht : skipBlanks t = .char c :: rest) : readValue (fuel + 1) t = readNumber (.char c :: rest) := by
  have hne (d : Char) (hd : d ≠ '-' ∧ d.isDigit = false) (heq : Point.char c = .char d) : False := by
    rcases hc with rfl | hc
    · exact hd.1 (Point.char.inj heq).symm
    · rw [Point.char.inj heq, hd.2] at hc
      cases hc
  rw [readValue.eq_2, ht]
  split
  iterate 6
    next heq => exact (hne _ (by decide) (List.cons.inj heq).1).elim
  rfl

end Json

open Json

/-! ## Values that are read -/

/-- The JSON text of a value is printable ASCII, and a reader takes it for another value, whatever follows it. -/
structure ReadsAs (v w : Value) : Prop where
  ascii : ∀ c ∈ v.jsonChars, IsAscii c
  opens : ∃ c cs, v.jsonChars = c :: cs ∧ c ≠ ' ' ∧ c ≠ ']'
  read : ∀ (fuel : Nat) (t rest : Text), skipBlanks t = Text.ofChars v.jsonChars ++ rest →
    v.jsonChars.length ≤ fuel + 1 → Ends rest → readValue (fuel + 1) t = some (w, rest)

/-- Characters of a literal, checked one by one: a statement on all characters that are members is decided over the
whole type. -/
theorem isAscii_of_all {cs : List Char} (h : (cs.all fun c => decide (IsAscii c)) = true) : ∀ c ∈ cs, IsAscii c :=
  fun c hc => of_decide_eq_true (List.all_eq_true.mp h c hc)

theorem readsAs_null : null.ReadsAs null where
  ascii := by
    rw [jsonChars]
    exact isAscii_of_all rfl
  opens := ⟨_, _, rfl, by decide, by decide⟩
  read fuel t rest ht _ _ := by
    rw [readValue.eq_2, ht]
    rfl

theorem readsAs_bool (b : Bool) : (bool b).ReadsAs (bool b) where
  ascii := by cases b <;> (rw [jsonChars]; exact isAscii_of_all rfl)
  opens := by cases b <;> exact ⟨_, _, rfl, by decide, by decide⟩
  read fuel t rest ht _ _ := by
    rw [readValue.eq_2, ht]
    cases b <;> rfl

theorem readsAs_int (n : Int) : (int n).ReadsAs (int n) where
  ascii := by
    intro c hc
    rw [jsonChars, toList_signedDecimal, List.mem_append] at hc
    rcases hc with hc | hc
    · split at hc
      · exact List.mem_singleton.mp hc ▸ by decide
      · cases hc
    · exact isAscii_of_isDigit (Nat.isDigit_of_mem_toDigits (by decide) (by decide) hc)
  opens := by
    obtain ⟨c, cs, hcs, hc⟩ := head_signedDecimal n
    refine ⟨c, cs, hcs, ?_, ?_⟩
    all_goals
      rintro rfl
      exact hc.elim (by decide) (by decide)
  read fuel t rest ht _ hrest := by
    obtain ⟨c, cs, hcs, hc⟩ := head_signedDecimal n
    have hread := readNumber_signedDecimal n hrest
    rw [jsonChars] at ht
    rw [hcs] at ht hread
    exact (readValue_number hc ht).trans hread

/-- A text is read as itself with one character for each two halves that make one. -/
theorem readsAs_text (t : Text) : (text t).ReadsAs (text t.paired) where
  ascii := isAscii_string t
  opens := ⟨_, _, rfl, by decide, by decide⟩
  read fuel u rest hu _ _ := by
    rw [jsonChars, ofChars_string] at hu
    rw [readValue.eq_2, hu]
    simp only [readString_body, Option.bind_eq_bind, Option.bind_some]
    rfl

namespace ReadsAs

variable {v w : Value}

/-- Nothing is skipped before the text of a value. -/
theorem skip (h : v.ReadsAs w) (rest : Text) :
    skipBlanks (Text.ofChars v.jsonChars ++ rest) = Text.ofChars v.jsonChars ++ rest := by
  obtain ⟨c, cs, hcs, hspace, _⟩ := h.opens
  have hc : IsAscii c := h.ascii c (hcs ▸ List.mem_cons_self)
  rw [hcs]
  exact skipBlanks_of_isAscii hc hspace _

theorem length_pos (h : v.ReadsAs w) : 0 < v.jsonChars.length := by
  obtain ⟨c, cs, hcs, _⟩ := h.opens
  rw [hcs]
  exact Nat.succ_pos _

theorem readValue_eq (h : v.ReadsAs w) {fuel : Nat} {t rest : Text}
    (ht : skipBlanks t = Text.ofChars v.jsonChars ++ rest) (hfuel : v.jsonChars.length ≤ fuel) (hrest : Ends rest) :
    readValue fuel t = some (w, rest) := by
  cases fuel with
  | zero => exact absurd h.length_pos (Nat.not_lt.mpr hfuel)
  | succ fuel => exact h.read fuel t rest ht hfuel hrest

end ReadsAs

/-! ## Lists -/

namespace Json

theorem ofChars_cons (c : Char) (cs : List Char) : Text.ofChars (c :: cs) = .char c :: Text.ofChars cs := rfl

/-- Items are printable ASCII, and the first of them begins as a value does. -/
theorem ascii_items {vs ws : List Value} (h : List.Forall₂ ReadsAs vs ws) :
    ∀ c ∈ jsonItems vs, IsAscii c := by
  induction h with
  | nil => nofun
  | @cons v w vs ws hv hvs ih =>
      cases vs with
      | nil => exact hv.ascii
      | cons v' vs =>
          rw [jsonItems]
          simp only [List.forall_mem_append, List.forall_mem_cons]
          exact ⟨hv.ascii, by decide, by decide, ih⟩

theorem opens_items {v w : Value} (hv : v.ReadsAs w) (vs : List Value) :
    ∃ c cs, jsonItems (v :: vs) = c :: cs ∧ IsAscii c ∧ c ≠ ' ' ∧ c ≠ ']' := by
  obtain ⟨c, cs, hcs, hc⟩ := hv.opens
  have hascii : IsAscii c := hv.ascii c (hcs ▸ List.mem_cons_self)
  cases vs with
  | nil => exact ⟨c, cs, hcs, hascii, hc⟩
  | cons v' vs => exact ⟨c, _, by rw [jsonItems, hcs, List.cons_append], hascii, hc⟩

theorem skip_items {v w : Value} (hv : v.ReadsAs w) (vs : List Value) (rest : Text) :
    skipBlanks (Text.ofChars (jsonItems (v :: vs)) ++ rest) = Text.ofChars (jsonItems (v :: vs)) ++ rest := by
  obtain ⟨c, cs, hcs, hascii, hspace, _⟩ := opens_items hv vs
  rw [hcs]
  exact skipBlanks_of_isAscii hascii hspace _

/-- Items are read up to the bracket after them, one after another. -/
theorem readItems_items {v w : Value} {vs ws : List Value} (hv : v.ReadsAs w) (h : List.Forall₂ ReadsAs vs ws) :
    ∀ (fuel : Nat) (t rest : Text), skipBlanks t = Text.ofChars (jsonItems (v :: vs)) ++ .char ']' :: rest →
      (jsonItems (v :: vs)).length ≤ fuel → readItems (fuel + 1) t = some (w :: ws, rest) := by
  induction h generalizing v w with
  | nil =>
      intro fuel t rest ht hfuel
      rw [readItems.eq_2, hv.readValue_eq ht hfuel (ends_bracket rest)]
      rfl
  | @cons v' w' vs ws hv' hvs ih =>
      intro fuel t rest ht hfuel
      rw [jsonItems, Lexing.ofChars_append, ofChars_cons, ofChars_cons, List.append_assoc, List.cons_append,
        List.cons_append] at ht
      rw [jsonItems, List.length_append, List.length_cons, List.length_cons] at hfuel
      obtain ⟨fuel, rfl⟩ : ∃ k, fuel = k + 1 := Nat.exists_eq_add_one.mpr (by omega)
      have hlength : v.jsonChars.length ≤ fuel + 1 := by omega
      have hmore := ih hv' fuel (.char ' ' :: (Text.ofChars (jsonItems (v' :: vs)) ++ .char ']' :: rest)) rest
        (skip_items hv' vs _) (by omega)
      rw [readItems.eq_2, hv.readValue_eq ht hlength (ends_comma _)]
      simp only [Option.bind_eq_bind, Option.bind_some]
      show (readItems (fuel + 1) (.char ' ' :: _)).bind (fun r => some (w :: r.1, r.2)) = _
      rw [hmore]
      rfl

theorem readValue_bracket {fuel : Nat} {t rest : Text} (ht : skipBlanks t = .char '[' :: rest)
    (hrest : ∀ after, skipBlanks rest ≠ .char ']' :: after) :
    readValue (fuel + 1) t = (readItems fuel (skipBlanks rest)).bind fun r => some (.list r.1, r.2) := by
  rw [readValue.eq_2, ht]
  simp only
  rfl

end Json

/-- A list is read as the list of what its items are read as. -/
theorem readsAs_list {vs ws : List Value} (h : List.Forall₂ ReadsAs vs ws) : (list vs).ReadsAs (list ws) where
  ascii := by
    rw [jsonChars]
    simp only [List.forall_mem_append, List.forall_mem_cons, List.not_mem_nil, false_imp_iff, implies_true, and_true]
    exact ⟨⟨by decide, ascii_items h⟩, by decide⟩
  opens := ⟨_, _, rfl, by decide, by decide⟩
  read fuel t rest ht hfuel _ := by
    rw [jsonChars, Lexing.ofChars_append, ofChars_cons, List.append_assoc] at ht
    rw [jsonChars, List.length_append, List.length_cons] at hfuel
    cases h with
    | nil =>
        rw [readValue.eq_2, ht]
        rfl
    | @cons v w vs ws hv hvs =>
        have hopen : skipBlanks t =
            .char '[' :: (Text.ofChars (jsonItems (v :: vs)) ++ .char ']' :: rest) := ht
        rw [List.length_singleton] at hfuel
        obtain ⟨fuel, rfl⟩ : ∃ k, fuel = k + 1 := Nat.exists_eq_add_one.mpr (by omega)
        have hskip := skip_items hv vs (.char ']' :: rest)
        have hbracket (after : Text) :
            skipBlanks (Text.ofChars (jsonItems (v :: vs)) ++ .char ']' :: rest) ≠ .char ']' :: after := by
          obtain ⟨c, cs, hcs, _, _, hc⟩ := opens_items hv vs
          rw [hskip, hcs]
          exact fun h => hc (Point.char.inj (List.cons.inj h).1)
        have hitems := readItems_items hv hvs fuel _ rest hskip (by omega)
        rw [readValue_bracket hopen hbracket, hskip, hitems]
        rfl

/-! ## Records -/

/-- A field is read as another one: its name with its meeting halves joined, and its value. -/
def FieldReadsAs (f g : Text × Value) : Prop := g.1 = f.1.paired ∧ f.2.ReadsAs g.2

namespace Json

theorem jsonField_eq (f : Text × Value) : jsonField f = string f.1 ++ ':' :: ' ' :: f.2.jsonChars := by
  cases f
  rw [jsonField]

theorem ascii_field {f g : Text × Value} (h : FieldReadsAs f g) : ∀ c ∈ jsonField f, IsAscii c := by
  rw [jsonField_eq]
  simp only [List.forall_mem_append, List.forall_mem_cons]
  exact ⟨isAscii_string f.1, by decide, by decide, h.2.ascii⟩

theorem ascii_fields {fs gs : Fields} (h : List.Forall₂ FieldReadsAs fs gs) :
    ∀ c ∈ jsonFields fs, IsAscii c := by
  induction h with
  | nil => nofun
  | @cons f g fs gs hf hfs ih =>
      cases fs with
      | nil => exact ascii_field hf
      | cons f' fs =>
          rw [jsonFields]
          simp only [List.forall_mem_append, List.forall_mem_cons]
          exact ⟨ascii_field hf, by decide, by decide, ih⟩

/-- The text of a field before a rest begins with the quote of its name. -/
theorem ofChars_field (f : Text × Value) (rest : Text) : Text.ofChars (jsonField f) ++ rest =
    .char '"' :: body f.1 (.char ':' :: .char ' ' :: (Text.ofChars f.2.jsonChars ++ rest)) := by
  rw [jsonField_eq, Lexing.ofChars_append, ofChars_cons, ofChars_cons, List.append_assoc, ofChars_string]
  rfl

theorem ofChars_fields (f : Text × Value) (fs : Fields) (rest : Text) :
    ∃ t, Text.ofChars (jsonFields (f :: fs)) ++ rest = .char '"' :: t := by
  cases fs with
  | nil => exact ⟨_, ofChars_field f rest⟩
  | cons f' fs =>
      rw [jsonFields, Lexing.ofChars_append, List.append_assoc]
      exact ⟨_, ofChars_field f _⟩

theorem skip_fields (f : Text × Value) (fs : Fields) (rest : Text) :
    skipBlanks (Text.ofChars (jsonFields (f :: fs)) ++ rest) = Text.ofChars (jsonFields (f :: fs)) ++ rest := by
  obtain ⟨t, ht⟩ := ofChars_fields f fs rest
  rw [ht]
  exact skipBlanks_of_isAscii (by decide) (by decide) t

/-- What follows a field decides whether there are more. -/
theorem readFields_field {f g : Text × Value} (h : FieldReadsAs f g) {fuel : Nat} {t rest : Text}
    (ht : skipBlanks t = Text.ofChars (jsonField f) ++ rest) (hfuel : (jsonField f).length ≤ fuel)
    (hrest : Ends rest) :
    readFields (fuel + 1) t =
      match skipBlanks rest with
      | .char ',' :: more => (readFields fuel more).bind fun r => some (g :: r.1, r.2)
      | .char '}' :: after => some ([g], after)
      | _ => none := by
  have hlength : f.2.jsonChars.length ≤ fuel := by
    rw [jsonField_eq, List.length_append, List.length_cons, List.length_cons] at hfuel
    omega
  have hvalue : readValue fuel (.char ' ' :: (Text.ofChars f.2.jsonChars ++ rest)) = some (g.2, rest) :=
    h.2.readValue_eq (h.2.skip rest) hlength hrest
  have hcolon (u : Text) : skipBlanks (.char ':' :: u) = .char ':' :: u :=
    skipBlanks_of_isAscii (by decide) (by decide) u
  have hname : (g.1, g.2) = g := rfl
  rw [readFields.eq_2, ht, ofChars_field]
  simp only [readString_body, Option.bind_eq_bind, Option.bind_some, hcolon, hvalue, ← h.1, hname]
  rfl

/-- Fields are read up to the brace after them, one after another. -/
theorem readFields_fields {f g : Text × Value} {fs gs : Fields} (hf : FieldReadsAs f g)
    (h : List.Forall₂ FieldReadsAs fs gs) :
    ∀ (fuel : Nat) (t rest : Text), skipBlanks t = Text.ofChars (jsonFields (f :: fs)) ++ .char '}' :: rest →
      (jsonFields (f :: fs)).length ≤ fuel → readFields (fuel + 1) t = some (g :: gs, rest) := by
  induction h generalizing f g with
  | nil =>
      intro fuel t rest ht hfuel
      rw [readFields_field hf ht hfuel (ends_brace rest)]
      rfl
  | @cons f' g' fs gs hf' hfs ih =>
      intro fuel t rest ht hfuel
      rw [jsonFields, Lexing.ofChars_append, ofChars_cons, ofChars_cons, List.append_assoc, List.cons_append,
        List.cons_append] at ht
      rw [jsonFields, List.length_append, List.length_cons, List.length_cons] at hfuel
      obtain ⟨fuel, rfl⟩ : ∃ k, fuel = k + 1 := Nat.exists_eq_add_one.mpr (by omega)
      have hlength : (jsonField f).length ≤ fuel + 1 := by omega
      have hmore := ih hf' fuel (.char ' ' :: (Text.ofChars (jsonFields (f' :: fs)) ++ .char '}' :: rest)) rest
        (skip_fields f' fs _) (by omega)
      rw [readFields_field hf ht hlength (ends_comma _)]
      show (readFields (fuel + 1) (.char ' ' :: _)).bind (fun r => some (g :: r.1, r.2)) = _
      rw [hmore]
      rfl

theorem readValue_brace {fuel : Nat} {t rest : Text} (ht : skipBlanks t = .char '{' :: rest)
    (hrest : ∀ after, skipBlanks rest ≠ .char '}' :: after) :
    readValue (fuel + 1) t =
      (readFields fuel (skipBlanks rest)).bind fun r => some (.record (Fields.merge [] r.1), r.2) := by
  rw [readValue.eq_2, ht]
  simp only
  rfl

end Json

/-- A record of distinct names is read as the record of what its fields are read as. -/
theorem readsAs_record {fs gs : Fields} (h : List.Forall₂ FieldReadsAs fs gs) (hgs : gs.Distinct) :
    (record fs).ReadsAs (record gs) where
  ascii := by
    rw [jsonChars]
    simp only [List.forall_mem_append, List.forall_mem_cons, List.not_mem_nil, false_imp_iff, implies_true, and_true]
    exact ⟨⟨by decide, ascii_fields h⟩, by decide⟩
  opens := ⟨_, _, rfl, by decide, by decide⟩
  read fuel t rest ht hfuel _ := by
    rw [jsonChars, Lexing.ofChars_append, ofChars_cons, List.append_assoc] at ht
    rw [jsonChars, List.length_append, List.length_cons] at hfuel
    cases h with
    | nil =>
        rw [readValue.eq_2, ht]
        rfl
    | @cons f g fs gs hf hfs =>
        have hopen : skipBlanks t =
            .char '{' :: (Text.ofChars (jsonFields (f :: fs)) ++ .char '}' :: rest) := ht
        rw [List.length_singleton] at hfuel
        obtain ⟨fuel, rfl⟩ : ∃ k, fuel = k + 1 := Nat.exists_eq_add_one.mpr (by omega)
        have hskip := skip_fields f fs (.char '}' :: rest)
        have hbrace (after : Text) :
            skipBlanks (Text.ofChars (jsonFields (f :: fs)) ++ .char '}' :: rest) ≠ .char '}' :: after := by
          obtain ⟨u, hu⟩ := ofChars_fields f fs (.char '}' :: rest)
          rw [hskip, hu]
          exact fun h => absurd (Point.char.inj (List.cons.inj h).1) (by decide)
        have hfields := readFields_fields hf hfs fuel _ rest hskip (by omega)
        rw [readValue_brace hopen hbrace, hskip, hfields, Option.bind_some, Fields.merge_nil_left hgs]

/-! ## Plain values -/

/-- A value that is made of null, truth values, integers of not too many digits, texts without halves, lists, and records
of distinct names. -/
inductive IsPlain : Value → Prop where
  | null : IsPlain .null
  | bool (b : Bool) : IsPlain (.bool b)
  | int {n : Int} (hn : Text.hasNumeral n = true) : IsPlain (.int n)
  | text {t : Text} (ht : t.Whole) : IsPlain (.text t)
  | list {vs : List Value} (hvs : ∀ v ∈ vs, IsPlain v) : IsPlain (.list vs)
  | record {fs : Fields} (hdistinct : fs.Distinct) (hnames : ∀ f ∈ fs, f.1.Whole) (hfs : ∀ f ∈ fs, IsPlain f.2) :
      IsPlain (.record fs)

theorem mem_integersOfItems_iff {n : Int} {vs : List Value} :
    n ∈ integersOfItems vs ↔ ∃ v ∈ vs, n ∈ v.integers := by
  induction vs with
  | nil => simp [integersOfItems]
  | cons v vs ih => simp only [integersOfItems, List.mem_append, ih, List.exists_mem_cons_iff]

theorem integersOfFields_eq (fs : Fields) : integersOfFields fs = integersOfItems (fs.map (·.2)) := by
  induction fs with
  | nil => rfl
  | cons f fs ih =>
      obtain ⟨name, v⟩ := f
      rw [List.map_cons, integersOfFields, integersOfItems, ih]

theorem mem_integers_record_iff {n : Int} {fs : Fields} :
    n ∈ (record fs).integers ↔ ∃ f ∈ fs, n ∈ f.2.integers := by
  rw [integers, integersOfFields_eq, mem_integersOfItems_iff]
  simp only [List.mem_map, exists_exists_and_eq_and]

/-- A plain value can be written. -/
theorem IsPlain.hasNumeral {v : Value} (h : v.IsPlain) : ∀ n ∈ v.integers, Text.hasNumeral n = true := by
  induction h with
  | null | bool _ | text _ => nofun
  | int hn => exact List.forall_mem_singleton.mpr hn
  | list _ ih =>
      intro n hn
      rw [integers, mem_integersOfItems_iff] at hn
      obtain ⟨v, hv, hn⟩ := hn
      exact ih v hv n hn
  | record _ _ _ ih =>
      intro n hn
      obtain ⟨f, hf, hn⟩ := mem_integers_record_iff.mp hn
      exact ih f hf n hn

theorem writtenJson_eq_ok {v : Value} (h : ∀ n ∈ v.integers, Text.hasNumeral n = true) : v.writtenJson = .ok v.json := by
  rw [writtenJson, if_pos (List.all_eq_true.mpr h)]

theorem writtenJson_eq_error {v : Value} {n : Int} (hn : n ∈ v.integers) (hlong : Text.hasNumeral n = false) :
    v.writtenJson = .error .tooManyDigits := by
  rw [writtenJson, if_neg]
  intro hall
  rw [List.all_eq_true.mp hall n hn] at hlong
  cases hlong

/-- A plain value is read as itself. -/
theorem IsPlain.readsAs {v : Value} (h : v.IsPlain) : v.ReadsAs v := by
  induction h with
  | null => exact readsAs_null
  | bool b => exact readsAs_bool b
  | @int n _ => exact readsAs_int n
  | @text t ht =>
      have hread := readsAs_text t
      rw [Text.paired_of_whole ht] at hread
      exact hread
  | list _ ih => exact readsAs_list (List.forall₂_same.mpr ih)
  | record hdistinct hnames _ ih =>
      refine readsAs_record (List.forall₂_same.mpr fun f hf => ?_) hdistinct
      exact ⟨(Text.paired_of_whole (hnames f hf)).symm, ih f hf⟩

/-- The JSON text of a value is read as what the value is read as. -/
theorem ReadsAs.ofJson?_json {v w : Value} (h : v.ReadsAs w) : ofJson? (Text.ofString v.json) = some w := by
  have ht : skipBlanks (Text.ofString v.json) = Text.ofChars v.jsonChars ++ [] := by
    rw [json, Lexing.ofString_ofList, List.append_nil]
    exact (List.append_nil (Text.ofChars v.jsonChars)) ▸ h.skip []
  have hlength : v.jsonChars.length ≤ 2 * (Text.ofString v.json).length + 1 := by
    rw [json, Lexing.ofString_ofList, Text.ofChars, List.length_map]
    omega
  rw [ofJson?, h.readValue_eq ht hlength ends_nil]
  rfl

end Value

end SchemaScript
