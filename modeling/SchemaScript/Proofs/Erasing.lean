/-
# Texts without comments and roles

Two things in a script are meant to say no more than they say: a comment, and the constant that the role of the caller is
compared with.  `erase` takes both out of a text, as a database finds them.  A comment goes from its two dashes to the end
of the line, which stays.  In the place of the constant, with its quotes and the `E` before them, there is a placeholder.

`Eraser` does this in one go, with the mode of the reader beside the text that is kept.  What it does to the text of a
piece it does wherever a line begins, and so it is enough to know it piece by piece.
-/
import SchemaScript.Proofs.References
import SchemaScript.Proofs.Splitting

namespace SchemaScript.Lexing

open Text (ofString)
open Sql (Statement Check Constant)

/-- Whether the reader is between single quotes, or after one that may end the constant. -/
def Mode.inConstant : Mode → Bool
  | .quoted _ | .quoteSeen _ | .escape => true
  | _ => false

/-- What stands before a constant that the role of the caller is compared with. -/
def comparison : String := "auth.role() = "

/-- What stands in for such a constant. -/
def placeholder : String := ":role"

/-- What stays of a text before a quote, if the quote opens a constant that the role is compared with. -/
def beforeRole? (t : Text) : Option Text :=
  if Text.endsWith t comparison then some t
  else (Text.beforeEnding? t "E").filter fun t => Text.endsWith t comparison

/-- The text that is kept, where the reader is, and whether it is in a constant that a placeholder stands for. -/
structure Eraser where
  kept : Text := []
  mode : Mode := .plain .outside
  masked : Bool := false

namespace Eraser

/-- The eraser after one more code point. -/
def step (e : Eraser) (p : Point) : Eraser :=
  let mode := e.mode.next p
  if e.masked ∧ mode.inConstant then { e with mode }
  else
    match if mode.inConstant ∧ ¬ e.mode.inConstant then beforeRole? (e.kept ++ e.mode.held) else none with
    | some kept => { kept := kept ++ placeholder, mode, masked := true }
    | none => { kept := e.kept ++ e.mode.added p, mode }

/-- The eraser after a text. -/
def read (e : Eraser) (t : Text) : Eraser := t.foldl step e

theorem read_append (e : Eraser) (t t' : Text) : e.read (t ++ t') = (e.read t).read t' :=
  List.foldl_append

end Eraser

/-- The text without comments, and with a placeholder for each constant that the role of the caller is compared with. -/
def erase (t : Text) : Text :=
  let e := ({} : Eraser).read t
  e.kept ++ e.mode.held

/-- A comment with a quote, a constant with a dash, and a role with both. -/
example : erase ("SELECT '-- one'; -- it's\nCHECK (auth.role() = E'\\'--');" : String) =
    ofString "SELECT '-- one'; \nCHECK (auth.role() = :role);" := by
  decide +kernel

theorem beforeRole?_comparison (t : Text) :
    beforeRole? (t ++ ofString comparison) = some (t ++ ofString comparison) :=
  if_pos (Text.endsWith_iff.mpr ⟨t, rfl⟩)

theorem beforeRole?_escaped (t : Text) :
    beforeRole? (t ++ ofString comparison ++ ofString "E") = some (t ++ ofString comparison) := by
  have hends : ¬ Text.endsWith (t ++ ofString comparison ++ ofString "E") (ofString comparison) = true := by
    intro h
    obtain ⟨base, hbase⟩ := Text.endsWith_iff.mp h
    -- The comparison ends in a blank.
    have hlast := congrArg List.getLast? hbase
    simp [comparison, Text.ofString, Text.ofChars] at hlast
  rw [beforeRole?, if_neg hends, Text.beforeEnding?_eq_some_iff.mpr rfl, Option.filter_some,
    if_pos (Text.endsWith_iff.mpr ⟨t, rfl⟩)]

/-! ## Statements without quotes -/

theorem not_mem_ofString {s : String} (h : Lacks ['\x27'] s) : Point.char '\x27' ∉ ofString s := by
  intro hmem
  obtain ⟨c, hc, hpoint⟩ := List.mem_map.mp hmem
  cases hpoint
  exact h _ hc List.mem_cons_self

theorem IsOrdinary.lacks_quote {s : String} (h : IsOrdinary s) : Lacks ['\x27'] s := by
  intro c hc hmem
  rw [List.mem_singleton.mp hmem] at hc
  exact h _ hc (by decide)

theorem ordinary_command {command : String} (h : command ∈ Statement.policyCommands) : IsOrdinary command := by
  have hcommands : ∀ command ∈ Statement.policyCommands, IsOrdinary command := by decide
  exact hcommands command h

theorem lacks_quotedName {name : String} (h : Lacks ['\x27'] name) : Lacks ['\x27'] (Statement.quotedName name) := by
  intro c hc
  rw [Statement.quotedName, String.toList_ofList] at hc
  rcases List.mem_cons.mp hc with rfl | hc
  · decide
  rcases List.mem_append.mp hc with hc | hc
  · obtain ⟨d, hd, hc⟩ := List.mem_flatMap.mp hc
    split at hc
    · have heq : c = d := by simpa using hc
      exact heq ▸ h d hd
    · exact List.mem_singleton.mp hc ▸ h d hd
  · cases List.mem_singleton.mp hc
    decide

theorem lacks_policyHead {table command : String} (htable : IsOrdinary table)
    (hcommand : command ∈ Statement.policyCommands) : Lacks ['\x27'] (policyHead table command) := by
  have hlower : ∀ command ∈ Statement.policyCommands, Lacks ['\x27'] (Text.lowerString command) := by decide
  have hname : Lacks ['\x27'] (Statement.policyName table command) :=
    (htable.lacks_quote.append (by decide)).append (hlower command hcommand)
  exact (Lacks.append (by decide) (Lacks.append (by decide) (lacks_quotedName hname))).append
    (ordinary_afterPolicyName htable (ordinary_command hcommand)).lacks_quote

/-! ## What is kept -/

/-- Only a quote opens a constant. -/
theorem eq_quote_of_opens {m : Mode} {p : Point} (hm : m.inConstant = false) (h : (m.next p).inConstant = true) :
    p = .char '\x27' := by
  have plain (w : Word) (h : (Mode.nextPlain w p).inConstant = true) : p = .char '\x27' := by
    by_contra hp
    simp only [Mode.nextPlain, if_neg hp] at h
    split_ifs at h
    all_goals cases h
  cases m with
  | plain w => exact plain w h
  | quoted | quoteSeen | escape => cases hm
  | dash | nameQuoteSeen | dollar =>
      simp only [Mode.next] at h
      split at h
      · cases h
      · exact plain _ h
  | comment | name | body | bodyDollar =>
      simp only [Mode.next] at h
      split at h
      all_goals cases h

namespace Eraser

/-- Outside of hidden constants everything is kept that is no comment, as long as no quote opens another one. -/
theorem step_of_ne_quote {p : Point} (hp : p ≠ .char '\x27') (kept : Text) (m : Mode) :
    ({ kept, mode := m } : Eraser).step p = { kept := kept ++ m.added p, mode := m.next p } := by
  have hopens : ¬ ((m.next p).inConstant = true ∧ ¬ m.inConstant = true) := fun ⟨hnext, hm⟩ =>
    hp (eq_quote_of_opens (Bool.not_eq_true _ ▸ hm) hnext)
  simp only [step, if_neg hopens, Bool.false_eq_true, false_and, if_false]

theorem read_reads {m m' : Mode} {t : Text} (h : Reads m t m') (hquote : .char '\x27' ∉ t) (kept : Text) :
    ({ kept, mode := m } : Eraser).read t = { kept := kept ++ t, mode := m' } := by
  induction h generalizing kept with
  | nil => rw [List.append_nil]; rfl
  | @cons m m' p ps hends hadded _ ih =>
      obtain ⟨hp, hps⟩ := not_or.mp fun h => hquote (List.mem_cons.mpr h)
      show (step _ p).read ps = _
      rw [step_of_ne_quote (Ne.symm hp), hadded, ih hps, List.append_assoc]
      rfl

/-! ## Comments -/

theorem read_comment {t : Text} (ht : NoBreak t) (kept : Text) :
    ({ kept, mode := .comment } : Eraser).read t = { kept, mode := .comment } := by
  induction t with
  | nil => rfl
  | cons p ps ih =>
      have hnext : Mode.next .comment p = .comment := by
        rw [Mode.next, ht p List.mem_cons_self]
        rfl
      have hstep : ({ kept, mode := .comment } : Eraser).step p = { kept, mode := .comment } := by
        simp [step, hnext, Mode.inConstant, Mode.added]
      show (step _ p).read ps = _
      rw [hstep]
      exact ih fun p' hp' => ht p' (List.mem_cons_of_mem _ hp')

theorem read_newline (kept : Text) : ({ kept } : Eraser).read (ofString "\n") = { kept := kept ++ ofString "\n" } :=
  step_of_ne_quote (p := .char '\n') (by decide) kept (.plain .outside)

/-- Of a remark only the end of its line is kept. -/
theorem read_remark {t : Text} (ht : NoBreak t) (kept : Text) :
    ({ kept } : Eraser).read (ofString "--" ++ t ++ ofString "\n") = { kept := kept ++ ofString "\n" } := by
  have hdashes : ({ kept } : Eraser).read (ofString "--") = { kept, mode := .comment } := by
    show ({ kept := kept ++ [] ++ [], mode := .comment } : Eraser) = _
    rw [List.append_nil, List.append_nil]
  rw [read_append, read_append, hdashes, read_comment ht]
  exact step_of_ne_quote (p := .char '\n') (by decide) kept .comment

/-! ## Statements -/

/-- A semicolon ends every word. -/
theorem reads_end {m : Mode} (hm : m.Settled) (kept : Text) :
    ({ kept, mode := m } : Eraser).read (ofString ";\n") = { kept := kept ++ ofString ";\n" } := by
  have hnext : m.next (.char ';') = .plain .outside := by
    cases m with
    | plain w => cases w <;> rfl
    | quoteSeen | nameQuoteSeen => rfl
    | _ => cases hm
  have hadded : m.added (.char ';') = [.char ';'] := by
    rw [Mode.added, hnext, hm.held]
    rfl
  show (step _ (.char ';')).read (ofString "\n") = _
  rw [step_of_ne_quote (by decide), hnext, hadded, read_newline, List.append_assoc]
  rfl

/-- A statement without a quote is kept as it is. -/
theorem read_statement {sql : String} (hpasses : Passes sql) (hquote : Lacks ['\x27'] sql) (kept : Text) :
    ({ kept } : Eraser).read (ofString (sql ++ ";\n")) = { kept := kept ++ ofString (sql ++ ";\n") } := by
  obtain ⟨m, hread, hm⟩ := hpasses (.plain .outside) trivial
  rw [Text.ofString_append, read_append, read_reads hread (not_mem_ofString hquote), reads_end hm, List.append_assoc]

/-! ## Roles -/

/-- In a constant that is masked nothing is kept. -/
theorem step_masked {m : Mode} {p : Point} (h : (m.next p).inConstant = true) (kept : Text) :
    ({ kept, mode := m, masked := true } : Eraser).step p = { kept, mode := m.next p, masked := true } :=
  if_pos ⟨rfl, h⟩

theorem read_quotedChar (escapes : Bool) (c : Char) (kept : Text) :
    ({ kept, mode := .quoted escapes, masked := true } : Eraser).read (.ofChars (quotedChar escapes c)) =
      { kept, mode := .quoted escapes, masked := true } := by
  by_cases hquote : c = '\x27'
  · rw [hquote]
    rfl
  by_cases hslash : escapes = true ∧ c = '\\'
  · obtain ⟨rfl, rfl⟩ := hslash
    rfl
  · rw [quotedChar, if_neg (not_or.mpr ⟨hquote, hslash⟩)]
    have hquote' : Point.char c ≠ .char '\x27' := fun h => hquote (Point.char.inj h)
    have hslash' : ¬ (escapes = true ∧ Point.char c = .char '\\') :=
      fun h => hslash ⟨h.1, Point.char.inj h.2⟩
    have hnext : (Mode.quoted escapes).next (.char c) = .quoted escapes := by
      simp only [Mode.next]
      rw [if_neg hquote', if_neg hslash']
    show step _ (.char c) = _
    rw [step_masked (by rw [hnext]; rfl), hnext]

/-- Whatever stands between the quotes, the closing quote is found behind it. -/
theorem read_closing (escapes : Bool) (cs : List Char) (kept : Text) :
    ({ kept, mode := .quoted escapes, masked := true } : Eraser).read
        (.ofChars (cs.flatMap (quotedChar escapes) ++ ['\x27'])) =
      { kept, mode := .quoteSeen escapes, masked := true } := by
  induction cs with
  | nil => rfl
  | cons c cs ih =>
      rw [List.flatMap_cons, List.append_assoc, ofChars_append, read_append, read_quotedChar]
      exact ih

theorem read_leaving (escapes : Bool) (kept : Text) :
    ({ kept, mode := .quoteSeen escapes, masked := true } : Eraser).read (ofString ")") =
      { kept := kept ++ ofString ")" } := by
  cases escapes with
  | true => rfl
  | false => rfl

/-- A quote after the comparison opens a constant that is masked. -/
theorem read_opening {w : Word} {seen kept : Text} (h : beforeRole? seen = some kept) :
    ({ kept := seen, mode := .plain w } : Eraser).read (.ofChars ['\x27']) =
      { kept := kept ++ ofString placeholder, mode := .quoted (w = .letterE), masked := true } := by
  have hseen : beforeRole? (seen ++ Mode.held (.plain w)) = some kept := by
    rw [show Mode.held (.plain w) = [] from rfl, List.append_nil, h]
  have hnext : (Mode.plain w).next (.char '\x27') = .quoted (w = .letterE) := rfl
  have hopens : (Mode.quoted (w = .letterE)).inConstant = true ∧ ¬ (Mode.plain w).inConstant = true :=
    ⟨rfl, Bool.false_ne_true⟩
  have hone (e : Eraser) : e.read (.ofChars ['\x27']) = e.step (.char '\x27') := rfl
  simp only [hone, step, hnext, if_pos hopens, hseen, Bool.false_eq_true, false_and, if_false]

/-- The constant that the role is compared with leaves a placeholder, whatever role it is. -/
theorem read_role (s : String) (hs : Sql.holdsNul s = false) (kept : Text) :
    ({ kept := kept ++ ofString comparison } : Eraser).read (ofString ((Constant.text s hs).sql ++ ")")) =
      { kept := kept ++ ofString comparison ++ ofString placeholder ++ ofString ")" } := by
  rw [Text.ofString_append, read_append, Constant.sql, ofString_ofList]
  rcases quoted_eq s.toList with h | h
  · have letter : ({ kept := kept ++ ofString comparison } : Eraser).read (.ofChars ['E']) =
        { kept := kept ++ ofString comparison ++ ofString "E", mode := .plain .letterE } :=
      step_of_ne_quote (p := .char 'E') (by decide) _ (.plain .outside)
    rw [h, ofChars_append, read_append, letter, ofChars_append, read_append, read_opening (beforeRole?_escaped kept)]
    exact (congrArg (read · _) (read_closing true s.toList _)).trans (read_leaving true _)
  · rw [h, ofChars_append, read_append, read_opening (beforeRole?_comparison kept)]
    exact (congrArg (read · _) (read_closing false s.toList _)).trans (read_leaving false _)

/-- A policy that asks for a role is kept up to the comparison and after the constant. -/
theorem read_rolePolicy {table command : String} (htable : IsOrdinary table)
    (hcommand : command ∈ Statement.policyCommands) (s : String) (hs : Sql.holdsNul s = false) (kept : Text) :
    ({ kept } : Eraser).read (ofString ((Statement.createPolicy table command (.role (.text s hs))).sql ++ ";\n")) =
      { kept := kept ++ (ofString (policyHead table command ++ comparison) ++ ofString placeholder ++
          ofString ");\n") } := by
  have hhead : Reads (.plain .outside) (ofString (policyHead table command ++ comparison)) (.plain .outside) := by
    obtain ⟨m, hread, hm⟩ := ((passes_policyHead htable (ordinary_command hcommand)).append
      (passes_ordinary (show IsOrdinary "auth.role() =" by decide))) (.plain .outside) trivial
    have hblank : comparison = "auth.role() =" ++ " " := by decide
    rw [hblank, ← String.append_assoc, Text.ofString_append]
    exact hread.trans (reads_blank hm)
  have hquote : Lacks ['\x27'] (policyHead table command ++ comparison) :=
    (lacks_policyHead htable hcommand).append (by decide)
  have hsplit : (Statement.createPolicy table command (.role (.text s hs))).sql ++ ";\n" =
      policyHead table command ++ comparison ++ ((Constant.text s hs).sql ++ ")") ++ ";\n" := by
    rw [sql_createPolicy]
    show policyHead table command ++ (comparison ++ (Constant.text s hs).sql) ++ ")" ++ ";\n" = _
    simp only [String.append_assoc]
  rw [hsplit, Text.ofString_append, read_append, Text.ofString_append, read_append,
    read_reads hhead (not_mem_ofString hquote)]
  rw [Text.ofString_append (policyHead table command), ← List.append_assoc, read_role,
    reads_end (m := .plain .outside) trivial]
  have hclose : ofString ");\n" = ofString ")" ++ ofString ";\n" := Text.ofString_append ")" ";\n"
  simp only [hclose, List.append_assoc]

end Eraser

end SchemaScript.Lexing
