/-
# Texts between quotation marks

## What is proved

A text that a constant holds is found again where the constant is read, whatever comes after it, and so is the name of
a policy (`quoted_texts_read_back`).  Every text without NUL has a constant, but for texts with halves, which cannot
be written at all.  Two policies of the same name are on the same table and for the same command.

## How a constant is read

`constant?` and `name?` are read off the rules of the database and know nothing of how a constant is written: a mark
that stands twice says itself once, a mark that stands alone closes, and after an `E` two backslashes say one.  They
give what was said, and the text that they have not touched.  Nothing else is read after an `E`: no constant has any
other use of a backslash.  The reader of statements goes by the same rules, but looks for ends only.

## How the proof goes

What is said grows by one code point with each character as it is written (`between?_flatMap`), and the closing mark
is told from a double one by what comes next, so the rest must not start with a mark.
-/
import SchemaScript.Proofs.WholeTexts
import SchemaScript.Proofs.Lexing
import SchemaScript.Text.CharacterClass

namespace SchemaScript

open Sql (Statement Constant)
open Text (ofString ofChars)

namespace Lexing

/-! ## Reading what stands between two marks -/

/-- One more code point was said before what was read. -/
def saying (p : Point) (read : Text × Text) : Text × Text := (p :: read.1, read.2)

/-- What a text says up to the mark that closes it, and what comes after that mark. -/
def between? (mark : Char) (escapes : Bool) : Text → Option (Text × Text)
  | [] => none
  | [p] => if p = .char mark then some ([], []) else none
  | p :: q :: rest =>
      if p = .char mark then
        if q = .char mark then (between? mark escapes rest).map (saying p) else some ([], q :: rest)
      else if escapes = true ∧ p = .char '\\' then
        if q = .char '\\' then (between? mark escapes rest).map (saying p) else none
      else (between? mark escapes (q :: rest)).map (saying p)

/-- What the constant at the start of a text says, and what comes after it. -/
def constant? : Text → Option (Text × Text)
  | .char '\x27' :: rest => between? '\x27' false rest
  | .char 'E' :: .char '\x27' :: rest => between? '\x27' true rest
  | .char 'e' :: .char '\x27' :: rest => between? '\x27' true rest
  | _ => none

/-- What the quoted name at the start of a text says, and what comes after it. -/
def name? : Text → Option (Text × Text)
  | .char '"' :: rest => between? '"' false rest
  | _ => none

section Between

variable {mark : Char} {escapes : Bool} {p : Point}

theorem between?_plain (hmark : p ≠ .char mark) (hslash : ¬ (escapes = true ∧ p = .char '\\')) (t : Text) :
    between? mark escapes (p :: t) = (between? mark escapes t).map (saying p) := by
  cases t with
  | nil => exact if_neg hmark
  | cons q rest => rw [between?, if_neg hmark, if_neg hslash]

theorem between?_twice (hp : p = .char mark ∨ (escapes = true ∧ p = .char '\\')) (t : Text) :
    between? mark escapes (p :: p :: t) = (between? mark escapes t).map (saying p) := by
  by_cases hmark : p = .char mark
  · rw [between?, if_pos hmark, if_pos hmark]
  · have hslash := hp.resolve_left hmark
    rw [between?, if_neg hmark, if_pos hslash, if_pos hslash.2]

theorem between?_closing {t : Text} (ht : t.head? ≠ some (.char mark)) :
    between? mark escapes (.char mark :: t) = some ([], t) := by
  cases t with
  | nil => rw [between?, if_pos rfl]
  | cons q rest =>
      have hq : q ≠ .char mark := fun h => ht (congrArg some h)
      rw [between?, if_pos rfl, if_neg hq]

/-- If each character is read as it is written, so is a text before its closing mark. -/
theorem between?_flatMap {write : Char → List Char}
    (hwrite : ∀ c t, between? mark escapes (ofChars (write c) ++ t) = (between? mark escapes t).map (saying c))
    (cs : List Char) {t : Text} (ht : t.head? ≠ some (.char mark)) :
    between? mark escapes (ofChars (cs.flatMap write ++ [mark]) ++ t) = some (ofChars cs, t) := by
  induction cs with
  | nil => exact between?_closing ht
  | cons c cs ih =>
      rw [List.flatMap_cons, List.append_assoc, ofChars_append, List.append_assoc, hwrite, ih]
      rfl

end Between

theorem between?_quotedChar (escapes : Bool) (c : Char) (t : Text) :
    between? '\x27' escapes (ofChars (quotedChar escapes c) ++ t) =
      (between? '\x27' escapes t).map (saying c) := by
  by_cases hc : c = '\x27' ∨ (escapes = true ∧ c = '\\')
  · rw [quotedChar, if_pos hc]
    exact between?_twice (hc.imp (congrArg _) (And.imp_right (congrArg _))) t
  · rw [quotedChar, if_neg hc]
    refine between?_plain (fun h => hc (.inl (Point.char.inj h))) (fun h => hc (.inr ?_)) t
    exact ⟨h.1, Point.char.inj h.2⟩

/-- A constant is read up to its end, in whichever of the two forms it is written. -/
theorem constant?_quoted (cs : List Char) {t : Text} (ht : t.head? ≠ some (.char '\x27')) :
    constant? (ofChars (Constant.quoted cs) ++ t) = some (ofChars cs, t) := by
  rcases quoted_eq cs with h | h
  · rw [h]
    exact between?_flatMap (between?_quotedChar true) cs ht
  · rw [h]
    exact between?_flatMap (between?_quotedChar false) cs ht

/-- A constant with a quotation mark and a backslash, and what comes after it. -/
example : constant? (ofString "E'it''s \\\\ enc');") = some (ofString "it's \\ enc", ofString ");") := by
  decide +kernel

/-- A name is read up to its end. -/
theorem name?_quotedName (name : String) {t : Text} (ht : t.head? ≠ some (.char '"')) :
    name? (ofString (Statement.quotedName name) ++ t) = some (ofString name, t) := by
  have hwrite (c : Char) (t : Text) :
      between? '"' false (ofChars (if c = '"' then [c, c] else [c]) ++ t) = (between? '"' false t).map (saying c) := by
    by_cases hc : c = '"'
    · rw [if_pos hc]
      exact between?_twice (.inl (congrArg _ hc)) t
    · have hslash : ¬ (false = true ∧ Point.char c = .char '\\') := fun h => Bool.noConfusion h.1
      rw [if_neg hc]
      exact between?_plain (fun h => hc (Point.char.inj h)) hslash t
  rw [Statement.quotedName, ofString_ofList]
  exact between?_flatMap hwrite name.toList ht

end Lexing

/-! ## The form that the driver gives a constant -/

/-- A text with every mark of one kind written twice. -/
def twice (mark : Char) (s : Text) : Text := s.flatMap fun p => if p = .char mark then [p, p] else [p]

/-- A text between quotation marks as the driver of the database writes it, with a blank before an `E`. -/
def byDriver (s : Text) : Text :=
  if .char '\\' ∈ s then ofString " E'" ++ twice '\\' (twice '\x27' s) ++ ofString "'"
  else ofString "'" ++ twice '\x27' s ++ ofString "'"

theorem twice_ofChars (mark : Char) (cs : List Char) :
    twice mark (ofChars cs) = ofChars (Constant.doubled mark cs) := by
  rw [twice, ofChars, List.flatMap_map, ofChars, Constant.doubled, List.map_flatMap]
  refine congrArg (List.flatMap · cs) (funext fun c => ?_)
  by_cases hc : c = mark
  · simp [hc]
  · simp [hc]

theorem trimStart_ofChars_cons {c : Char} (hc : Text.isBlank c = false) (cs : List Char) :
    Text.trimStart (ofChars (c :: cs)) = ofChars (c :: cs) := by
  refine List.dropWhile_cons_of_neg ?_
  rw [Bool.not_eq_true]
  exact hc

/-- Without the blank before it this is the constant; inside the marks no blank is lost. -/
theorem trimStart_byDriver (s : String) :
    Text.trimStart (byDriver (ofString s)) = ofChars (Constant.quoted s.toList) := by
  have hs : ofString s = ofChars s.toList := rfl
  have hslash : Point.char '\\' ∈ ofString s ↔ s.toList.contains '\\' = true := by
    rw [List.contains_iff_mem]
    exact List.mem_map_of_injective fun _ _ => Point.char.inj
  rw [byDriver, Constant.quoted]
  by_cases h : s.toList.contains '\\' = true
  · have hblank : ofString " E'" = .char ' ' :: ofChars ['E', '\x27'] := rfl
    rw [if_pos (hslash.mpr h), if_pos h, hs, twice_ofChars, twice_ofChars, hblank]
    calc
      Text.trimStart (.char ' ' :: ofChars ['E', '\x27'] ++
          ofChars (Constant.doubled '\\' (Constant.doubled '\x27' s.toList)) ++ ofString "'")
        = Text.trimStart (.char ' ' :: ofChars ('E' :: '\x27' ::
            Constant.doubled '\\' (Constant.doubled '\x27' s.toList) ++ ['\x27'])) := by
          rw [Lexing.ofChars_append]
          rfl
      _ = Text.trimStart (ofChars ('E' :: '\x27' ::
            Constant.doubled '\\' (Constant.doubled '\x27' s.toList) ++ ['\x27'])) :=
          List.dropWhile_cons_of_pos rfl
      _ = _ := trimStart_ofChars_cons rfl _
  · have hclosing : ofString "'" = ofChars ['\x27'] := rfl
    rw [if_neg (mt hslash.mp h), if_neg h, hs, twice_ofChars, hclosing, ← Lexing.ofChars_append,
      ← Lexing.ofChars_append]
    exact trimStart_ofChars_cons rfl _

/-- The constant of a text: the form that the driver gives it without the blank before, which reads back as the text
whatever comes after it. -/
structure IsConstantOf (s : Text) (c : Constant) : Prop where
  trimmed : ofString c.sql = Text.trimStart (byDriver s)
  unspaced : ∀ p ∈ (ofString c.sql).head?, p.is Text.isBlank = false
  read : ∀ t : Text, t.head? ≠ some (.char '\x27') → Lexing.constant? (ofString c.sql ++ t) = some (s, t)

theorem isConstantOf_text {s : String} (hnul : Sql.holdsNul s = false) :
    IsConstantOf (ofString s) (.text s hnul) := by
  have hsql : ofString (Constant.text s hnul).sql = ofChars (Constant.quoted s.toList) :=
    Lexing.ofString_ofList _
  have htrimmed : ofString (Constant.text s hnul).sql = Text.trimStart (byDriver (ofString s)) :=
    hsql.trans (trimStart_byDriver s).symm
  refine ⟨htrimmed, fun p hp => ?_, fun t ht => ?_⟩
  · have hhead := List.head?_dropWhile_not (fun p : Point => p.is Text.isBlank) (byDriver (ofString s))
    rw [htrimmed, Text.trimStart, Option.mem_def] at hp
    rw [hp] at hhead
    exact hhead
  · rw [hsql]
    exact Lexing.constant?_quoted s.toList ht

/-! ## Names of policies -/

theorem lowerString_command {command : String} (h : command ∈ Statement.policyCommands) :
    Text.lowerString command = command.toLower := by
  have hall : ∀ command ∈ Statement.policyCommands,
      (Text.lowerString command).toList = command.toList.map Char.toLower := by decide
  have hchars : command.toLower.toList = command.toList.map Char.toLower := String.toList_map
  rw [← String.toList_inj, hchars]
  exact hall command h

/-- A table and a command are found again in the name of their policy: all commands are of one length. -/
theorem policyName_inj {table table' command command' : String} (hc : command ∈ Statement.policyCommands)
    (hc' : command' ∈ Statement.policyCommands) :
    Statement.policyName table command = Statement.policyName table' command' ↔
      table = table' ∧ command = command' := by
  have hlength : ∀ command ∈ Statement.policyCommands, (Text.lowerString command).toList.length = 6 := by decide
  have hlower : ∀ c ∈ Statement.policyCommands, ∀ c' ∈ Statement.policyCommands,
      Text.lowerString c = Text.lowerString c' → c = c' := by decide
  constructor
  · intro h
    have hlists := congrArg String.toList h
    simp only [Statement.policyName, String.toList_append] at hlists
    obtain ⟨hstart, hend⟩ :=
      List.append_inj' hlists ((hlength command hc).trans (hlength command' hc').symm)
    exact ⟨String.toList_inj.mp (List.append_cancel_right hstart),
      hlower command hc command' hc' (String.toList_inj.mp hend)⟩
  · rintro ⟨rfl, rfl⟩
    rfl

theorem quotedName_inj {name name' : String} :
    Statement.quotedName name = Statement.quotedName name' ↔ name = name' := by
  have hread (name : String) :
      Lexing.name? (ofString (Statement.quotedName name) ++ []) = some (ofString name, []) := by
    refine Lexing.name?_quotedName name fun h => ?_
    cases h
  constructor
  · intro h
    have hsame := (hread name).symm.trans (h ▸ hread name')
    exact Text.ofString_inj.mp (Prod.mk.inj (Option.some.inj hsame)).1
  · rintro rfl
    rfl

/-! ## Both together -/

/-- A text that holds neither NUL nor halves has a constant, which reads back as the text; one with halves has none.
The quoted name of a policy reads back as that name, and tells the table and the command. -/
theorem quoted_texts_read_back :
    (∀ s : Text, ¬ s.HasNul → s.Whole → ∃ c, Constant.ofText s = .ok c ∧ IsConstantOf s c) ∧
      (∀ s : Text, ¬ s.Whole →
        ∃ halves, s.written = .error halves ∧ Constant.ofText s = .error (.unwritable halves)) ∧
      (∀ table : String, ∀ command ∈ Statement.policyCommands, ∀ t : Text, t.head? ≠ some (.char '"') →
        Lexing.name? (ofString (Statement.quotedName (Statement.policyName table command)) ++ t) =
          some (ofString (table ++ "_auth_" ++ command.toLower), t)) ∧
      ∀ table table' : String, ∀ command ∈ Statement.policyCommands, ∀ command' ∈ Statement.policyCommands,
        Statement.quotedName (Statement.policyName table command) =
            Statement.quotedName (Statement.policyName table' command') ↔
          table = table' ∧ command = command' := by
  refine ⟨fun s hnul hwhole => ?_, fun s hhalf => ?_, ?_, ?_⟩
  · obtain ⟨string, rfl⟩ := Text.whole_iff.mp hwhole
    have hfree : Sql.holdsNul string = false := by
      rw [← Bool.not_eq_true, ← Text.hasNul_ofString]
      exact hnul
    have hgiven : Constant.ofText (ofString string) = .ok (.text string hfree) := by
      rw [Constant.ofText_ofString, Constant.ofString, dif_pos hfree]
    exact ⟨_, hgiven, isConstantOf_text hfree⟩
  · cases hwritten : s.written with
    | ok string => exact absurd (Text.whole_iff.mpr ⟨string, Text.written_eq_ok_iff.mp hwritten⟩) hhalf
    | error halves => exact ⟨halves, rfl, Constant.ofText_of_halves hwritten⟩
  · intro table command hcommand t ht
    rw [Lexing.name?_quotedName _ ht, Statement.policyName, lowerString_command hcommand]
  · intro table table' command hcommand command' hcommand'
    exact quotedName_inj.trans (policyName_inj hcommand hcommand')

/-- What looks like the end of a constant is text, half of a pair is none, and names that go on like another one are
told apart. -/
theorem hostile_texts_read_back :
    let s := ofString "'; DROP TABLE tags; -- \\''\\"
    let rest := ofString ");\n"
    (¬ s.HasNul ∧ s.Whole ∧ rest.head? ≠ some (.char '\x27') ∧ ∃ c, Constant.ofText s = .ok c ∧
        ofString c.sql = ofString "E'''; DROP TABLE tags; -- \\\\''''\\\\'" ∧
        Lexing.constant? (ofString c.sql ++ rest) = some (s, rest)) ∧
      (¬ Text.Whole [.char 'a', .half 7] ∧
        ∃ halves, Constant.ofText [.char 'a', .half 7] = .error (.unwritable halves)) ∧
      ("DELETE" ∈ Statement.policyCommands ∧ rest.head? ≠ some (.char '"') ∧
        Lexing.name? (ofString (Statement.quotedName (Statement.policyName "tags\"" "DELETE")) ++ rest) =
          some (ofString "tags\"_auth_delete", rest)) ∧
      "SELECT" ∈ Statement.policyCommands ∧
      Statement.quotedName (Statement.policyName "tags" "DELETE") ≠
        Statement.quotedName (Statement.policyName "tags_auth_delete" "SELECT") := by
  intro s rest
  have hnul : ¬ s.HasNul := by decide
  have hwhole : s.Whole := Text.whole_ofString _
  have hquote : rest.head? ≠ some (.char '\x27') := by decide
  have hname : rest.head? ≠ some (.char '"') := by decide
  have hdelete : "DELETE" ∈ Statement.policyCommands := by decide
  have hselect : "SELECT" ∈ Statement.policyCommands := by decide
  have hhalf : ¬ Text.Whole [.char 'a', .half 7] := fun h => h 7 (by decide)
  obtain ⟨given, refused, named, apart⟩ := quoted_texts_read_back
  obtain ⟨c, hc, hconstant⟩ := given s hnul hwhole
  obtain ⟨halves, -, hrefused⟩ := refused _ hhalf
  refine ⟨⟨hnul, hwhole, hquote, c, hc, hconstant.trimmed.trans ?_, hconstant.read rest hquote⟩,
    ⟨hhalf, halves, hrefused⟩, ⟨hdelete, hname, (named "tags\"" "DELETE" hdelete rest hname).trans ?_⟩,
    hselect, fun h => ?_⟩
  · decide +kernel
  · decide +kernel
  · have htables := ((apart "tags" "tags_auth_delete" "DELETE" hdelete "SELECT" hselect).mp h).1
    exact absurd htables (by decide)

/-- Half of a pair holds no NUL, and yet it has no constant. -/
theorem half_is_not_quoted :
    ¬ Text.HasNul [.half 0] ∧ Constant.ofText [.half 0] = .error (.unwritable ⟨0, [0]⟩) ∧
      ¬ ∃ c, Constant.ofText [.half 0] = .ok c := by
  refine ⟨by decide, rfl, ?_⟩
  rintro ⟨c, hc⟩
  cases hc

end SchemaScript
