/-
# The lines of a script

Every piece of a script ends with a line feed, and at a line feed a text can be cut without changing its lines
(`lines_append_newline`): a carriage return before it breaks together with it, and on the other side nothing can
join it.  So the lines of a script are those of its pieces, whatever labels, names and comments hold, and taking the
stamps out of its text is the same as never having put them there (`unstampedLines_text`).

Whether some other line looks like a stamp depends on what comes after the breaks of a text.  A text is `Undashed` if
none of its lines starts with a dash; it is put together from parts that are `Inline`, which neither end with a break
nor have a dash right after one.
-/
import Mathlib.Data.List.Chain
import SchemaScript.Script

namespace SchemaScript

namespace Text

/-! ## The ends of lines -/

/-- The characters that end a line. -/
def lineEnds : List Char :=
  ['\n', '\x0b', '\x0c', '\r', '\x1c', '\x1d', '\x1e', '\u0085', '\u2028', '\u2029']

theorem isBreak_iff {c : Char} : isBreak c = true ↔ c ∈ lineEnds := by
  constructor
  · intro h
    have hcode : c.toNat ∈ lineEnds.map Char.toNat := by
      unfold isBreak at h
      split at h
      all_goals simp_all [lineEnds]
    obtain ⟨c', hc', heq⟩ := List.mem_map.mp hcode
    exact Char.toNat_inj.mp heq ▸ hc'
  · intro h
    have hall : ∀ c ∈ lineEnds, isBreak c = true := by simp [lineEnds, isBreak]
    exact hall c h

/-- A character of a kind that none of these belongs to ends no line. -/
theorem not_isBreak_of_kind {kind : Char → Prop} (hends : ∀ c ∈ lineEnds, ¬ kind c) {c : Char} (h : kind c) :
    isBreak c = false := by
  rw [← Bool.not_eq_true, isBreak_iff]
  intro hc
  exact hends c hc h

/-! ## Unbroken texts -/

/-- No character of the text ends a line. -/
def Unbroken (t : Text) : Prop := ∀ p ∈ t, p.is isBreak = false

instance (t : Text) : Decidable (Unbroken t) :=
  List.decidableBAll (fun p : Point => p.is isBreak = false) t

theorem Unbroken.append {t t' : Text} (h : Unbroken t) (h' : Unbroken t') : Unbroken (t ++ t') :=
  List.forall_mem_append.mpr ⟨h, h'⟩

theorem Unbroken.appendString {a b : String} (h : Unbroken a) (h' : Unbroken b) :
    Unbroken (ofString (a ++ b)) := by
  rw [ofString_append]
  exact h.append h'

theorem not_isBreak_of_isDigit {c : Char} (h : c.isDigit = true) : isBreak c = false := by
  have hends : ∀ c ∈ lineEnds, ¬ c.isDigit = true := by simp [lineEnds]
  exact not_isBreak_of_kind hends h

theorem unbroken_decimal (width n : Nat) : Unbroken (decimal width n) := by
  intro p hp
  rw [decimal, ofString, String.toList_ofList] at hp
  obtain ⟨c, hc, rfl⟩ := List.mem_map.mp hp
  have hdigit : c.isDigit = true := by
    rcases List.mem_append.mp hc with hc | hc
    · rw [List.eq_of_mem_replicate hc]
      rfl
    · exact Nat.isDigit_of_mem_toDigits (by decide) (by decide) hc
  exact not_isBreak_of_isDigit hdigit

/-! ## Lines of texts that are put together -/

/-- A code point put in front of the first line. -/
def extend (p : Point) : List Text → List Text
  | [] => [[p]]
  | line :: others => (p :: line) :: others

theorem extend_append (p : Point) {ls : List Text} (h : ls ≠ []) (ls' : List Text) :
    extend p (ls ++ ls') = extend p ls ++ ls' := by
  cases ls with
  | nil => exact absurd rfl h
  | cons line others => rfl

theorem lines_cons {p : Point} (hp : p.is isBreak = false) (t : Text) :
    lines (p :: t) = extend p (lines t) := by
  have hreturn : ∀ rest, p = .char '\r' → t = .char '\n' :: rest → False := by
    rintro _ rfl _
    cases hp
  rw [lines.eq_3 _ _ hreturn, hp]
  rfl

theorem lines_break {p : Point} (hp : p.is isBreak = true) {t : Text}
    (h : p = .char '\r' → t.head? ≠ some (.char '\n')) : lines (p :: t) = [] :: lines t := by
  have hreturn : ∀ rest, p = .char '\r' → t = .char '\n' :: rest → False := by
    rintro rest hp rfl
    exact h hp rfl
  rw [lines.eq_3 _ _ hreturn, hp]
  rfl

theorem lines_newline (t : Text) : lines (.char '\n' :: t) = [] :: lines t := by
  refine lines_break (by decide) fun h => ?_
  cases h

theorem lines_ne_nil {t : Text} (h : t ≠ []) : lines t ≠ [] := by
  fun_cases lines t
  all_goals simp_all

/-- A text can be cut after a line feed. -/
theorem lines_append_newline (a b : Text) :
    lines (a ++ .char '\n' :: b) = lines (a ++ [.char '\n']) ++ lines b := by
  induction a using lines.induct with
  | case1 => rw [List.nil_append, List.nil_append, lines_newline, lines_newline]; rfl
  | case2 rest ih => exact congrArg ([] :: ·) ih
  | case3 p rest hnot hp ih =>
      cases rest with
      | nil =>
          -- A carriage return at the end breaks together with the line feed.
          by_cases hreturn : p = .char '\r'
          · rw [hreturn]
            rfl
          · have hbreak (t : Text) : lines (p :: t) = [] :: lines t :=
              lines_break hp fun h => absurd h hreturn
            show lines (p :: .char '\n' :: b) = lines (p :: [.char '\n']) ++ lines b
            rw [hbreak, hbreak, lines_newline, lines_newline]
            rfl
      | cons q rest =>
          have hbreak (t : Text) : lines (p :: (q :: rest ++ t)) = [] :: lines (q :: rest ++ t) := by
            refine lines_break hp fun hreturn hhead => ?_
            cases hhead
            exact hnot rest hreturn rfl
          show lines (p :: (q :: rest ++ _)) = lines (p :: (q :: rest ++ _)) ++ lines b
          rw [hbreak, hbreak, ih]
          rfl
  | case4 p rest _ hp _ ih | case5 p rest _ hp _ _ _ ih =>
      rw [Bool.not_eq_true] at hp
      rw [List.cons_append, List.cons_append, lines_cons hp, lines_cons hp, ih,
        extend_append p (lines_ne_nil (List.append_ne_nil_of_right_ne_nil _ (List.cons_ne_nil _ _)))]

/-- An unbroken text goes before the first line of what follows. -/
theorem lines_unbroken_append {l : Text} (hl : Unbroken l) {t first : Text} {others : List Text}
    (ht : lines t = first :: others) : lines (l ++ t) = (l ++ first) :: others := by
  induction l with
  | nil => exact ht
  | cons p l ih =>
      rw [List.cons_append, lines_cons (hl p List.mem_cons_self),
        ih fun q hq => hl q (List.mem_cons_of_mem _ hq)]
      rfl

/-- An unbroken text before a line feed is a line. -/
theorem lines_unbroken {l : Text} (hl : Unbroken l) (t : Text) :
    lines (l ++ .char '\n' :: t) = l :: lines t := by
  rw [lines_unbroken_append hl (lines_newline t), List.append_nil]

/-- A text without breaks is its only line. -/
theorem lines_of_unbroken {t : Text} (h : t.Unbroken) (hne : t ≠ []) : lines t = [t] := by
  induction t with
  | nil => exact absurd rfl hne
  | cons p t ih =>
      rw [lines_cons (h p List.mem_cons_self)]
      cases t with
      | nil => rfl
      | cons q t =>
          rw [ih (fun r hr => h r (List.mem_cons_of_mem _ hr)) (List.cons_ne_nil q t)]
          rfl

/-! ## Lines that start with a dash -/

/-- After a break no dash follows. -/
def NoDashAfterBreak (p q : Point) : Prop := p.is isBreak = true → q ≠ .char '-'

instance (p q : Point) : Decidable (NoDashAfterBreak p q) :=
  inferInstanceAs (Decidable (p.is isBreak = true → q ≠ .char '-'))

/-- A part of a text after which a line goes on, and inside which no line starts with a dash. -/
structure Inline (t : Text) : Prop where
  chain : t.IsChain NoDashAfterBreak
  goesOn : ∀ p ∈ t.getLast?, p.is isBreak = false

instance (t : Text) : Decidable (Inline t) :=
  decidable_of_iff (t.IsChain NoDashAfterBreak ∧ ∀ p ∈ t.getLast?, p.is isBreak = false)
    ⟨fun h => ⟨h.1, h.2⟩, fun h => ⟨h.1, h.2⟩⟩

/-- The first line does not start with a dash, and neither does any after it. -/
structure Undashed (t : Text) : Prop where
  head : t.head? ≠ some (.char '-')
  chain : t.IsChain NoDashAfterBreak

theorem chain_append {t t' : Text} (h : t.IsChain NoDashAfterBreak) (h' : t'.IsChain NoDashAfterBreak)
    (hbetween : (∀ p ∈ t.getLast?, p.is isBreak = false) ∨ t'.head? ≠ some (.char '-')) :
    (t ++ t').IsChain NoDashAfterBreak := by
  refine List.isChain_append.mpr ⟨h, h', fun p hp q hq hbreak hdash => ?_⟩
  rcases hbetween with hlast | hhead
  · rw [hlast p hp] at hbreak
    cases hbreak
  · exact hhead (hdash ▸ hq)

theorem Inline.append {t t' : Text} (h : Inline t) (h' : Inline t') : Inline (t ++ t') := by
  refine ⟨chain_append h.chain h'.chain (.inl h.goesOn), fun p hp => ?_⟩
  rw [List.getLast?_append] at hp
  cases hlast : t'.getLast? with
  | none =>
      rw [hlast] at hp
      exact h.goesOn p hp
  | some q =>
      rw [hlast] at hp
      exact h'.goesOn p (hlast ▸ hp)

theorem Inline.appendString {a b : String} (h : Inline a) (h' : Inline b) :
    Inline (ofString (a ++ b)) := by
  rw [ofString_append]
  exact h.append h'

/-- The start of a text that can go on, with another first character than a dash. -/
structure Opens (t : Text) : Prop extends Inline t where
  starts : (t.head?.any fun p => decide (p ≠ .char '-')) = true

instance (t : Text) : Decidable (Opens t) :=
  decidable_of_iff (Inline t ∧ (t.head?.any fun p => decide (p ≠ .char '-')) = true)
    ⟨fun h => ⟨h.1, h.2⟩, fun h => ⟨h.toInline, h.starts⟩⟩

theorem Opens.append {t t' : Text} (h : Opens t) (h' : Inline t') : Opens (t ++ t') := by
  refine ⟨h.toInline.append h', ?_⟩
  obtain ⟨p, hp, hdash⟩ := (Option.any_eq_true _ _).mp h.starts
  rw [List.head?_append_of_ne_nil _ (by rintro rfl; cases hp), hp]
  exact hdash

theorem Opens.appendString {a b : String} (h : Opens a) (h' : Inline b) : Opens (ofString (a ++ b)) := by
  rw [ofString_append]
  exact h.append h'

/-- What is opened without a dash can be closed by anything that neither starts with one nor has one after a
break. -/
theorem Opens.undashed_append {t t' : Text} (h : Opens t) (h' : t'.IsChain NoDashAfterBreak) :
    Undashed (t ++ t') := by
  refine ⟨?_, chain_append h.chain h' (.inl h.goesOn)⟩
  obtain ⟨p, hp, hdash⟩ := (Option.any_eq_true _ _).mp h.starts
  rw [List.head?_append_of_ne_nil _ (by rintro rfl; cases hp), hp]
  intro heq
  cases heq
  exact absurd rfl (of_decide_eq_true hdash)

theorem Unbroken.inline {t : Text} (h : Unbroken t) : Inline t := by
  refine ⟨?_, fun p hp => h p (List.mem_of_getLast? hp)⟩
  refine List.isChain_iff_getElem.mpr fun i hi hbreak => ?_
  rw [h _ (List.getElem_mem _)] at hbreak
  cases hbreak

/-- The lines after the first one do not start with a dash, nor does the first one if the text does not. -/
theorem head_ne_of_chain {t : Text} (h : t.IsChain NoDashAfterBreak) :
    (∀ line ∈ (lines t).tail, line.head? ≠ some (.char '-')) ∧
      (t.head? ≠ some (.char '-') → ∀ line ∈ lines t, line.head? ≠ some (.char '-')) := by
  have after_break {p : Point} {rest : Text} (h : (p :: rest).IsChain NoDashAfterBreak)
      (hp : p.is isBreak = true) : rest.head? ≠ some (.char '-') := by
    intro hhead
    exact (List.isChain_cons.mp h).1 _ hhead hp rfl
  have empty_first {ls : List Text} (hls : ∀ line ∈ ls, line.head? ≠ some (.char '-')) :
      ∀ line ∈ [] :: ls, line.head? ≠ some (.char '-') := by
    intro line hline
    rcases List.mem_cons.mp hline with rfl | hline
    · intro hhead
      cases hhead
    · exact hls line hline
  -- The first line is asked about apart: after a character that is no break the rest may well start with a dash.
  induction t using lines.induct with
  | case1 => exact ⟨fun _ hline => absurd hline List.not_mem_nil, fun _ _ hline =>
      absurd hline List.not_mem_nil⟩
  | case2 rest ih =>
      obtain ⟨_, hchain⟩ := List.isChain_cons_cons.mp h
      have hrest := (ih (List.isChain_cons.mp hchain).2).2 (after_break hchain (by decide))
      exact ⟨hrest, fun _ => empty_first hrest⟩
  | case3 p rest hnot hp ih =>
      have hrest := (ih (List.isChain_cons.mp h).2).2 (after_break h hp)
      have hlines : lines (p :: rest) = [] :: lines rest := by
        refine lines_break hp fun hreturn hhead => ?_
        obtain ⟨rest', rfl⟩ := List.head?_eq_some_iff.mp hhead
        exact hnot rest' hreturn rfl
      rw [hlines]
      exact ⟨hrest, fun _ => empty_first hrest⟩
  | case4 p rest _ hp hnil ih =>
      rw [Bool.not_eq_true] at hp
      rw [lines_cons hp, hnil]
      refine ⟨fun _ hline => absurd hline List.not_mem_nil, fun hhead line hline => ?_⟩
      rw [List.mem_singleton.mp hline]
      exact hhead
  | case5 p rest _ hp first others hlines ih =>
      have hothers := (ih (List.isChain_cons.mp h).2).1
      rw [Bool.not_eq_true] at hp
      rw [hlines] at hothers
      rw [lines_cons hp, hlines]
      refine ⟨hothers, fun hhead line hline => ?_⟩
      rcases List.mem_cons.mp hline with rfl | hline
      · exact hhead
      · exact hothers line hline

theorem Undashed.head_ne {t : Text} (h : Undashed t) {line : Text} (hline : line ∈ lines t) :
    line.head? ≠ some (.char '-') :=
  (head_ne_of_chain h.chain).2 h.head line hline

end Text

/-! ## Stamps -/

namespace Instant

open Text (Unbroken unbroken_decimal)

theorem unbroken_offsetText (offset : Int) : Unbroken (offsetText offset) := by
  have hsign : Unbroken ((if offset < 0 then "-" else "+" : String)) := by split <;> decide
  have hseconds (n : Nat) :
      Unbroken ((if n % 60 = 0 then "" else ":" ++ Text.decimal 2 (n % 60) : String)) := by
    split
    · decide
    · exact .appendString (by decide) (unbroken_decimal _ _)
  exact .appendString (.appendString (.appendString (.appendString hsign (unbroken_decimal _ _))
    (by decide)) (unbroken_decimal _ _)) (hseconds _)

theorem unbroken_iso (t : Instant) : Unbroken t.iso := by
  have hdate : Unbroken t.dateText :=
    .appendString (.appendString (.appendString (.appendString (unbroken_decimal _ _) (by decide))
      (unbroken_decimal _ _)) (by decide)) (unbroken_decimal _ _)
  have hclock : Unbroken t.clockText :=
    .appendString (.appendString (.appendString (.appendString (unbroken_decimal _ _) (by decide))
      (unbroken_decimal _ _)) (by decide)) (unbroken_decimal _ _)
  have hfraction : Unbroken
      ((if t.microsecond = 0 then "" else "." ++ Text.decimal 6 t.microsecond : String)) := by
    split
    · decide
    · exact .appendString (by decide) (unbroken_decimal _ _)
  have hseparator : Unbroken "T" := by decide
  have hmoment := ((hdate.appendString hseparator).appendString hclock).appendString hfraction
  cases h : t.offset with
  | none =>
      simp only [iso, textWith, h]
      exact hmoment.appendString (by decide)
  | some offset =>
      simp only [iso, textWith, h]
      exact hmoment.appendString (unbroken_offsetText offset)

end Instant

/-- The line of a stamp. -/
def stampLine (time : Instant) : Text := Piece.stampStart ++ time.iso

/-- A stamp is a line of its own. -/
theorem lines_stamp (time : Instant) : Text.lines (Piece.stamp time).text = [stampLine time] := by
  have hstamp : Text.Unbroken (stampLine time) := .append (by decide) time.unbroken_iso
  exact Text.lines_unbroken hstamp []

/-- A remark that does not break a line is a line of its own. -/
theorem lines_remark {text : Text} (h : text.Unbroken) :
    Text.lines (Piece.remark text).text = [Text.ofString "-- " ++ text] := by
  have hremark : Text.Unbroken (Text.ofString "-- " ++ text) := .append (by decide) h
  exact Text.lines_unbroken hremark []

theorem isStampLine_stampLine (time : Instant) : isStampLine (stampLine time) = true :=
  List.isPrefixOf_iff_prefix.mpr (List.prefix_append _ _)

theorem unstampedLines_stamp (time : Instant) : unstampedLines (Piece.stamp time).text = [] := by
  rw [unstampedLines, lines_stamp, List.filter_singleton, isStampLine_stampLine]
  rfl

/-- A line that does not start with a dash is no stamp. -/
theorem not_isStampLine_of_head {line : Text} (h : line.head? ≠ some (.char '-')) :
    isStampLine line = false := by
  cases hstamp : isStampLine line with
  | false => rfl
  | true =>
      obtain ⟨rest, rfl⟩ := List.isPrefixOf_iff_prefix.mp hstamp
      exact absurd rfl h

/-! ## Scripts -/

/-- Whether a piece is a stamp. -/
def Piece.isStamp : Piece → Bool
  | .stamp _ => true
  | _ => false

/-- Every piece ends with a line feed. -/
theorem Piece.text_ends (p : Piece) : ∃ t, p.text = t ++ [.char '\n'] := by
  cases p with
  | remark text => exact ⟨_, rfl⟩
  | stamp time => exact ⟨_, rfl⟩
  | blank => exact ⟨[], rfl⟩
  | statement s =>
      refine ⟨s.sql ++ Text.ofString ";", ?_⟩
      rw [List.append_assoc]
      rfl

namespace Script

/-- The lines of a script are those of its pieces. -/
theorem lines_text (s : Script) : Text.lines s.text = s.flatMap fun p => Text.lines p.text := by
  induction s with
  | nil => rfl
  | cons p s ih =>
      obtain ⟨t, ht⟩ := p.text_ends
      rw [text_cons, List.flatMap_cons, ← ih, ht, List.append_assoc]
      exact Text.lines_append_newline t (text s)

theorem unstampedLines_cons (p : Piece) (s : Script) :
    unstampedLines (text (p :: s)) = unstampedLines p.text ++ unstampedLines s.text := by
  simp only [unstampedLines, lines_text, List.flatMap_cons, List.filter_append]

/-- The script without its stamps. -/
def unstamped (s : Script) : Script := s.filter fun p => !p.isStamp

/-- Taking the stamps out of the text of a script leaves the lines that the script has without them. -/
theorem unstampedLines_text (s : Script) : unstampedLines s.text = unstampedLines s.unstamped.text := by
  induction s with
  | nil => rfl
  | cons p s ih =>
      rw [unstampedLines_cons, ih]
      cases p with
      | stamp time =>
          rw [unstampedLines_stamp]
          rfl
      | remark | blank | statement => exact (unstampedLines_cons _ (unstamped s)).symm

theorem dropStamps_text (s : Script) : dropStamps s.text = dropStamps s.unstamped.text :=
  congrArg Text.joinLines s.unstampedLines_text

end Script

end SchemaScript
