/- # The complete script, read as statements

## What is proved

The text of the complete script, read as a database reads it, consists of the statements of the script and of
nothing else: `BEGIN`, the tables, their indexes, `COMMIT`, and so on through the four transactions.  The text
of the comment on encrypted columns may be anything that a constant can hold, and so may the role, as long as it
stays on one line: its name also stands in a remark.

## How

Between two pieces of a script the reader is `Ready`: it is in open text and has nothing of the next statement
but space.  Each piece leaves it so.  A statement does because its text passes, and a remark does because it is
one line, so two things are to be said about all pieces of the script: `IsPlain` of the statements,
`IsOneLine` of the rest.
-/
import Mathlib.Data.List.TakeWhile
import SchemaScript.Proofs.Lines
import SchemaScript.Proofs.StatementTexts

namespace SchemaScript

open Sql (Statement Constant)

namespace Lexing

/-! ## Between pieces -/

/-- The reader has read some statements, and has nothing of the next one. -/
structure Ready (r : Reader) (texts : List Text) : Prop where
  done : r.done = texts
  blank : ∀ p ∈ r.current, isSpace p = true
  mode : r.mode = .plain .outside

theorem Ready.rest {r : Reader} {texts : List Text} (h : Ready r texts) : r.rest = [] := by
  have hheld : r.mode.held = [] := by rw [h.mode]; rfl
  rw [Reader.rest, hheld, List.append_nil]
  exact List.dropWhile_eq_nil_iff.mpr h.blank

theorem Ready.newline {r : Reader} {texts : List Text} (h : Ready r texts) :
    Ready (r.read (.ofString "\n")) texts := by
  have hread : Reads (.plain .outside) (.ofString "\n") (.plain .outside) :=
    reads_one (fun h => nomatch h.2) rfl rfl ⟨nofun, nofun⟩
  rw [hread.read r h.mode]
  refine ⟨h.done, fun p hp => ?_, rfl⟩
  rcases List.mem_append.mp hp with hp | hp
  · exact h.blank p hp
  · cases List.mem_singleton.mp hp
    rfl

/-- After the text of a statement, a semicolon ends just this statement. -/
theorem Ready.statement {r : Reader} {texts : List Text} (h : Ready r texts) {sql : String}
    (hpasses : Passes sql) (hstarts : Starts sql) :
    Ready (r.read (.ofString (sql ++ ";\n"))) (texts ++ [.ofString sql]) := by
  obtain ⟨m, hread, hm⟩ := hpasses (.plain .outside) trivial
  obtain ⟨p, ps, hsql, hp⟩ := hstarts
  -- Where the reader stands between the text and the semicolon.
  let s : Reader := { r with current := r.current ++ Text.ofString sql, mode := m }
  have hrest : s.rest = Text.ofString sql := by
    show (r.current ++ Text.ofString sql ++ m.held).dropWhile isSpace = Text.ofString sql
    rw [hm.held, List.append_nil, List.dropWhile_append_of_pos h.blank, hsql,
      List.dropWhile_cons_of_neg (by rw [hp]; exact Bool.false_ne_true)]
  have hend : s.read (.ofString ";") = { done := texts ++ [Text.ofString sql] } := by
    show s.step (.char ';') = _
    rw [Reader.step, if_pos ⟨hm.isOpen, rfl⟩, hrest]
    show ({ done := r.done ++ _ } : Reader) = _
    rw [h.done]
  have hsplit : Text.ofString (sql ++ ";\n") =
      Text.ofString sql ++ (Text.ofString ";" ++ Text.ofString "\n") := Text.ofString_append _ _
  rw [hsplit, Reader.read_append, hread.read r h.mode, Reader.read_append, hend]
  exact Ready.newline ⟨rfl, fun _ hp => absurd hp List.not_mem_nil, rfl⟩

/-! ## Lines -/

/-- The text stays on one line. -/
def NoBreak (t : Text) : Prop := ∀ p ∈ t, Mode.isLineBreak p = false

instance (t : Text) : Decidable (NoBreak t) :=
  List.decidableBAll (fun p => Mode.isLineBreak p = false) t

theorem NoBreak.append {t t' : Text} (h : NoBreak t) (h' : NoBreak t') : NoBreak (t ++ t') :=
  List.forall_mem_append.mpr ⟨h, h'⟩

/-- In a comment nothing is kept before the end of its line. -/
theorem read_comment {t : Text} (ht : NoBreak t) :
    ∀ r : Reader, r.mode = .comment → r.read t = r := by
  induction t with
  | nil => exact fun _ _ => rfl
  | cons p ps ih =>
      intro r hr
      have hnext : Mode.next .comment p = .comment := by
        rw [Mode.next, ht p List.mem_cons_self]
        rfl
      have hstep : r.step p = r := by
        rw [Reader.step, hr, if_neg (fun h => Bool.false_ne_true h.1), Mode.added, hnext,
          if_pos (.inr rfl), List.append_nil, ← hr]
      show (r.step p).read ps = r
      rw [hstep, ih (fun p' hp' => ht p' (List.mem_cons_of_mem _ hp')) r hr]

/-- A remark is read to the end of its line and leaves nothing behind. -/
theorem Ready.remark {r : Reader} {texts : List Text} (h : Ready r texts) {t : Text}
    (ht : NoBreak t) : Ready (r.read (.ofString "--" ++ t ++ .ofString "\n")) texts := by
  have hdashes : r.read (.ofString "--") = { r with mode := .comment } := by
    obtain ⟨done, current, mode⟩ := r
    cases h.mode
    show Reader.mk done (current ++ [] ++ []) .comment = _
    rw [List.append_nil, List.append_nil]
  rw [Reader.read_append, Reader.read_append, hdashes, read_comment ht _ rfl]
  refine ⟨h.done, fun p hp => ?_, rfl⟩
  rcases List.mem_append.mp hp with hp | hp
  · exact h.blank p hp
  · cases List.mem_singleton.mp hp
    rfl

end Lexing

/-! ## Pieces -/

open Lexing (Ready NoBreak IsOrdinary IsPlain)

/-- What no line ends in leaves a comment on its line. -/
theorem Text.Unbroken.noBreak {t : Text} (h : t.Unbroken) : NoBreak t := by
  intro p hp
  have hbreak := h p hp
  cases hline : Lexing.Mode.isLineBreak p with
  | false => rfl
  | true =>
      simp only [Lexing.Mode.isLineBreak, decide_eq_true_eq] at hline
      rcases hline with rfl | rfl <;> exact absurd hbreak (by decide)

namespace Piece

/-- A remark stays on one line. -/
def IsOneLine : Piece → Prop
  | .remark text => NoBreak text
  | .stamp _ | .blank | .statement _ => True

instance (p : Piece) : Decidable p.IsOneLine :=
  match p with
  | .remark text => inferInstanceAs (Decidable (NoBreak text))
  | .stamp _ | .blank | .statement _ => .isTrue trivial

/-- A remark that is one line, or a statement with ordinary names. -/
def IsReadable : Piece → Prop
  | .statement s => IsPlain s
  | p => p.IsOneLine

end Piece

/-- The text that a piece adds to the statements. -/
def Piece.added (p : Piece) : List Text := p.statement?.toList.map fun s => .ofString s.sql

/-- A piece leaves the reader ready, and adds its statement, if it holds one. -/
theorem Lexing.Ready.piece {r : Lexing.Reader} {texts : List Text} (h : Ready r texts) {p : Piece}
    (hp : p.IsReadable) : Ready (r.read p.text) (texts ++ p.added) := by
  cases p with
  | remark text =>
      have hline : NoBreak (Text.ofString " " ++ text) := NoBreak.append (by decide) hp
      rw [show Piece.added _ = [] from rfl, List.append_nil]
      exact h.remark hline
  | stamp time =>
      have hline : NoBreak (Text.ofString " Generated on: " ++ Text.ofString time.iso) :=
        NoBreak.append (by decide) time.unbroken_iso.noBreak
      rw [show Piece.added _ = [] from rfl, List.append_nil]
      exact h.remark hline
  | blank =>
      rw [show Piece.added _ = [] from rfl, List.append_nil]
      exact h.newline
  | statement s =>
      have htext : (Piece.statement s).text = Text.ofString (s.sql ++ ";\n") := by
        rw [Text.ofString_append]
        rfl
      rw [htext]
      exact h.statement (Lexing.passes_sql hp) (Lexing.starts_sql s)

/-- A script whose pieces are readable leaves the reader ready, and adds its statements. -/
theorem Lexing.Ready.script {script : Script} :
    ∀ {r : Lexing.Reader} {texts : List Text}, Ready r texts → (∀ p ∈ script, p.IsReadable) →
      Ready (r.read script.text) (texts ++ script.statements.map fun s => .ofString s.sql) := by
  induction script with
  | nil =>
      intro r texts h _
      rw [show Script.statements [] = [] from rfl, List.map_nil, List.append_nil]
      exact h
  | cons p ps ih =>
      intro r texts h hps
      have hp := h.piece (hps p List.mem_cons_self)
      have hrest := ih hp fun p' hp' => hps p' (List.mem_cons_of_mem _ hp')
      have hstatements : (Script.statements (p :: ps)).map (fun s => Text.ofString s.sql) =
          p.added ++ (Script.statements ps).map fun s => Text.ofString s.sql := by
        cases p <;> rfl
      rw [hstatements, ← List.append_assoc]
      show Ready (r.read (p.text ++ Script.text ps)) _
      rw [Lexing.Reader.read_append]
      exact hrest

theorem Lexing.Ready.split {t : Text} {texts : List Text} (h : Ready (Lexing.Reader.read {} t) texts) :
    Lexing.split t = some texts := by
  show (if (Lexing.Reader.read {} t).rest = [] then _ else _) = _
  rw [if_pos h.rest]
  exact congrArg some h.done

/-- A script whose pieces are readable is split into the texts of its statements. -/
theorem split_text {script : Script} (h : ∀ p ∈ script, p.IsReadable) :
    Lexing.split script.text = some (script.statements.map fun s => .ofString s.sql) := by
  have hstart : Ready {} [] := ⟨rfl, fun _ hp => absurd hp List.not_mem_nil, rfl⟩
  exact (hstart.script h).split

end SchemaScript
