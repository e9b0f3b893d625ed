/-
# The lines that are kept

## What is proved

Two texts are the same without their stamps exactly if they have the same lines that are no stamps, and what is left
of a text consists of those lines (`stripped_texts_tell_kept_lines`).  One difference cannot be seen: a text without
any such line and a text whose only such line is empty both leave the empty text.

## What a line is

`Lined` says which lines a text has without reading it: a line holds none of the ten characters that end one, it is
ended by one of them or by a carriage return together with a line feed, and what comes after the last end is a line
only if it is not empty.  Every text is lined in just one way, which is that of the reader (`lined_iff`).

## How

A line holds no line feed, so lines that were joined by line feeds are found again by cutting at them
(`splitOn_joinLines`).  Only the empty list of lines is joined to the same text as another one.
-/
import SchemaScript.Proofs.Lines

namespace SchemaScript

open Text (ofString lines joinLines Unbroken)

/-! ## The lines of a text, said without reading it -/

namespace Text

/-- What ends a line that this text comes after: one of the characters, or a carriage return and a line feed at
once.  A carriage return ends nothing by itself where a line feed comes after it. -/
inductive EndsBefore : Text → Text → Prop
  | single {c : Char} {rest : Text} : c ∈ lineEnds →
      (c = '\r' → rest.head? ≠ some (.char '\n')) → EndsBefore [.char c] rest
  | pair {rest : Text} : EndsBefore [.char '\r', .char '\n'] rest

/-- A text with its lines. -/
inductive Lined : Text → List Text → Prop
  | nothing : Lined [] []
  | last {line : Text} : line ≠ [] → (∀ c ∈ lineEnds, .char c ∉ line) → Lined line [line]
  | ended {line stop rest : Text} {ls : List Text} : (∀ c ∈ lineEnds, .char c ∉ line) →
      EndsBefore stop rest → Lined rest ls → Lined (line ++ (stop ++ rest)) (line :: ls)

theorem unbroken_iff {t : Text} : Unbroken t ↔ ∀ c ∈ lineEnds, .char c ∉ t := by
  constructor
  · intro h c hc hmem
    have hbreak : isBreak c = true := isBreak_iff.mpr hc
    cases hbreak.symm.trans (h _ hmem)
  · intro h p hp
    cases p with
    | half i => rfl
    | char c =>
        rw [← Bool.not_eq_true]
        intro hbreak
        exact h c (isBreak_iff.mp hbreak) hp

/-- The reader finds the end of a line where there is one. -/
theorem EndsBefore.lines_append {stop rest : Text} (h : EndsBefore stop rest) :
    lines (stop ++ rest) = [] :: lines rest := by
  cases h with
  | @single c _ hc hreturn =>
      have hbreak : (Point.char c).is isBreak = true := isBreak_iff.mpr hc
      exact lines_break hbreak fun heq => hreturn (Point.char.inj heq)
  | pair => rfl

theorem Lined.eq_lines {t : Text} {ls : List Text} (h : Lined t ls) : ls = lines t := by
  induction h with
  | nothing => rfl
  | last hne hline => exact (lines_of_unbroken (unbroken_iff.mpr hline) hne).symm
  | @ended line _ _ _ hline hstop _ ih =>
      rw [lines_unbroken_append (unbroken_iff.mpr hline) hstop.lines_append, List.append_nil, ih]

/-- A code point that ends nothing goes before the first line. -/
theorem Lined.cons {p : Point} (hp : p.is isBreak = false) {t : Text} {ls : List Text} (h : Lined t ls) :
    Lined (p :: t) (extend p ls) := by
  have extended {line : Text} (hline : ∀ c ∈ lineEnds, .char c ∉ line) :
      ∀ c ∈ lineEnds, .char c ∉ p :: line := by
    rw [← unbroken_iff] at hline ⊢
    exact List.forall_mem_cons.mpr ⟨hp, hline⟩
  cases h with
  | nothing => exact .last (List.cons_ne_nil p []) (extended fun c _ => List.not_mem_nil)
  | last _ hline => exact .last (List.cons_ne_nil p _) (extended hline)
  | ended hline hstop hrest => exact .ended (extended hline) hstop hrest

theorem lined_lines (t : Text) : Lined t (lines t) := by
  -- An end of a line is the end of an empty line before what follows.
  have ended {stop rest : Text} (hstop : EndsBefore stop rest) (ih : Lined rest (lines rest)) :
      Lined (stop ++ rest) ([] :: lines rest) :=
    .ended (fun c _ => List.not_mem_nil) hstop ih
  induction t using lines.induct with
  | case1 => exact .nothing
  | case2 rest ih => exact ended .pair ih
  | case3 p rest hnot hp ih =>
      cases p with
      | half i => cases hp
      | char c =>
          have hreturn : c = '\r' → rest.head? ≠ some (.char '\n') := by
            rintro rfl hhead
            obtain ⟨rest', rfl⟩ := List.head?_eq_some_iff.mp hhead
            exact hnot rest' rfl rfl
          rw [lines_break hp fun heq => hreturn (Point.char.inj heq)]
          exact ended (.single (isBreak_iff.mp hp) hreturn) ih
  | case4 p rest _ hp _ ih | case5 p rest _ hp _ _ _ ih =>
      rw [Bool.not_eq_true] at hp
      rw [lines_cons hp]
      exact ih.cons hp

/-- A text is lined in one way. -/
theorem lined_iff {t : Text} {ls : List Text} : Lined t ls ↔ ls = lines t := by
  constructor
  · exact Lined.eq_lines
  · rintro rfl
    exact lined_lines t

end Text

/-! ## Joining lines and cutting them apart -/

/-- Nothing to see: no line, or one that is empty. -/
def IsBare (ls : List Text) : Prop := ls = [] ∨ ls = [[]]

/-- The same lines, as far as lines that are joined can be told apart. -/
def SameLines (as bs : List Text) : Prop := as = bs ∨ IsBare as ∧ IsBare bs

section Joined

variable {ls : List Text} (hls : ∀ line ∈ ls, Unbroken line)
include hls

theorem splitOn_joinLines (hne : ls ≠ []) : (joinLines ls).splitOn (.char '\n') = ls := by
  refine List.splitOn_intercalate (.char '\n') (fun line hline hmem => ?_) hne
  cases hls line hline _ hmem

theorem joinLines_eq_nil_iff : joinLines ls = [] ↔ IsBare ls := by
  constructor
  · intro h
    by_cases hne : ls = []
    · exact .inl hne
    · have hcut := splitOn_joinLines hls hne
      rw [h, List.splitOn_nil] at hcut
      exact .inr hcut.symm
  · rintro (rfl | rfl) <;> rfl

/-- Joined lines have these lines again; only an empty one at the end is not seen, as nothing comes after it. -/
theorem exists_lined_joinLines : ∃ rs, Text.Lined (joinLines ls) rs ∧ (ls = rs ∨ ls = rs ++ [[]]) := by
  induction ls with
  | nil => exact ⟨[], .nothing, .inl rfl⟩
  | cons line others ih =>
      obtain ⟨hline, hothers⟩ := List.forall_mem_cons.mp hls
      rw [Text.unbroken_iff] at hline
      cases others with
      | nil =>
          have hjoined : joinLines [line] = line := by
            rw [joinLines, Text.joined, List.intercalate_singleton]
          rw [hjoined]
          by_cases hne : line = []
          · exact ⟨[], hne ▸ .nothing, .inr (hne ▸ rfl)⟩
          · exact ⟨[line], .last hne hline, .inl rfl⟩
      | cons second others =>
          obtain ⟨rs, hrs, hsame⟩ := ih hothers
          have hjoined : joinLines (line :: second :: others) =
              line ++ ([.char '\n'] ++ joinLines (second :: others)) := by
            rw [joinLines, Text.joined, List.intercalate_cons_cons, List.append_assoc]
            rfl
          have hstop : Text.EndsBefore [.char '\n'] (joinLines (second :: others)) :=
            .single (by simp [Text.lineEnds]) fun heq => nomatch heq
          refine ⟨line :: rs, hjoined ▸ .ended hline hstop hrs, ?_⟩
          rcases hsame with h | h
          · exact .inl (h ▸ rfl)
          · exact .inr (by rw [h, List.cons_append])

end Joined

theorem joinLines_eq_iff {as bs : List Text} (has : ∀ line ∈ as, Unbroken line)
    (hbs : ∀ line ∈ bs, Unbroken line) : joinLines as = joinLines bs ↔ SameLines as bs := by
  constructor
  · intro h
    by_cases hempty : joinLines as = []
    · exact .inr ⟨(joinLines_eq_nil_iff has).mp hempty, (joinLines_eq_nil_iff hbs).mp (h ▸ hempty)⟩
    · left
      have hne {cs : List Text} (hcs : joinLines cs ≠ []) : cs ≠ [] := by
        rintro rfl
        exact hcs rfl
      calc
        as = (joinLines as).splitOn (.char '\n') := (splitOn_joinLines has (hne hempty)).symm
        _ = (joinLines bs).splitOn (.char '\n') := by rw [h]
        _ = bs := splitOn_joinLines hbs (hne (h ▸ hempty))
  · rintro (rfl | ⟨ha, hb⟩)
    · rfl
    · rw [(joinLines_eq_nil_iff has).mpr ha, (joinLines_eq_nil_iff hbs).mpr hb]

/-! ## Texts without their stamps -/

/-- Whether a line starts like a stamp. -/
def StartsStamp (line : Text) : Prop := ofString "-- Generated on: " <+: line

instance (line : Text) : Decidable (StartsStamp line) :=
  inferInstanceAs (Decidable (_ <+: line))

/-- The lines that are no stamps. -/
def keptLines (ls : List Text) : List Text := ls.filter fun line => ¬ StartsStamp line

theorem unstampedLines_eq (t : Text) : unstampedLines t = keptLines (lines t) := by
  refine List.filter_congr fun line _ => ?_
  have hstamp : isStampLine line = true ↔ StartsStamp line := List.isPrefixOf_iff_prefix
  rw [Bool.eq_iff_iff, Bool.not_eq_true', ← Bool.not_eq_true, hstamp, decide_eq_true_eq]

theorem unbroken_of_mem_keptLines {t line : Text} (h : line ∈ keptLines (lines t)) : Unbroken line :=
  Text.not_isBreak_of_mem_lines (List.mem_filter.mp h).1

/-- What is left of a text with the given lines. -/
structure Stripped (left : Text) (ls : List Text) : Prop where
  /-- Between its line feeds stand the lines that are no stamps, as they were and in their order. -/
  cut : keptLines ls ≠ [] → left.splitOn (.char '\n') = keptLines ls
  empty : keptLines ls = [] → left = []
  /-- These are its lines as well, up to an empty one at the end. -/
  lined : ∃ rs, Text.Lined left rs ∧ (keptLines ls = rs ∨ keptLines ls = rs ++ [[]])
  unstamped : ∀ rs, Text.Lined left rs → ∀ line ∈ rs, ¬ StartsStamp line

theorem stripped_dropStamps (t : Text) : Stripped (dropStamps t) (lines t) := by
  have hunbroken : ∀ line ∈ keptLines (lines t), Unbroken line := fun line => unbroken_of_mem_keptLines
  rw [dropStamps, unstampedLines_eq]
  obtain ⟨rs, hrs, hsame⟩ := exists_lined_joinLines hunbroken
  refine ⟨splitOn_joinLines hunbroken, fun h => h ▸ rfl, ⟨rs, hrs, hsame⟩, fun rs' hrs' line hline => ?_⟩
  have hmem : line ∈ keptLines (lines t) := by
    rw [Text.lined_iff.mp hrs', ← Text.lined_iff.mp hrs] at hline
    rcases hsame with h | h
    · exact h ▸ hline
    · exact h ▸ List.mem_append_left _ hline
  exact of_decide_eq_true (List.mem_filter.mp hmem).2

/-- Texts are compared without their stamps by their lines that are no stamps; of each of these nothing is lost, and
nothing else is left. -/
theorem stripped_texts_tell_kept_lines (a b : Text) :
    (∀ ls, Text.Lined a ls ↔ ls = lines a) ∧
      (dropStamps a = dropStamps b ↔ SameLines (keptLines (lines a)) (keptLines (lines b))) ∧
      Stripped (dropStamps a) (lines a) := by
  refine ⟨fun ls => Text.lined_iff, ?_, stripped_dropStamps a⟩
  rw [dropStamps, dropStamps, unstampedLines_eq, unstampedLines_eq]
  exact joinLines_eq_iff (fun line => unbroken_of_mem_keptLines) fun line => unbroken_of_mem_keptLines

/-- A stamp goes with the carriage return and the line feed after it; a form feed ends a line and is not kept. -/
example : dropStamps ("a\r\n-- Generated on: now\r\n\x0cb\n" : String) = ofString "a\n\nb" := by
  decide +kernel

end SchemaScript
