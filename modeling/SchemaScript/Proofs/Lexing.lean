/- # Reading a text as statements

How a database takes a text apart before it looks at any statement: two dashes start a comment, which runs to
the end of its line; a text between single quotes holds a single quote by writing it twice; after an `E` a
backslash in such a text takes the next character with it; a name between double quotes holds a double quote
by writing it twice; a body stands between two pairs of dollar signs; and a semicolon ends a statement only
outside all of these.  Comments count for nothing, nor does the space before a statement.

`Mode` says where the reader is, `Mode.next` where one more character takes it.  `split` gives the statements
of a text, if nothing is left behind the last semicolon.

`Reads` is the part of a reading in which nothing ends and nothing is left out.  A text that leads in this way
from open text to open text, from wherever the reader comes, `Passes`; texts that pass can be put together,
which is how whole statements are shown to pass.
-/
import SchemaScript.Proofs.Reading
import SchemaScript.Sql.Statement

namespace SchemaScript.Lexing

open Sql (Constant)

/-! ## Modes -/

/-- What the reader knows of the word that it is in: an `E` alone can still turn out to start a constant. -/
inductive Word where
  | outside
  | letterE
  | inside
deriving DecidableEq, Repr

/-- Whether a code point can stand in a word: letters, digits, the underscore, and all that is beyond ASCII. -/
def isWordPoint : Point → Bool
  | .char c => c.isAlphanum || c == '_' || decide (128 ≤ c.toNat)
  | .half _ => true

/-- The word after one more code point. -/
def Word.next (w : Word) (p : Point) : Word :=
  if isWordPoint p then
    if w = .outside ∧ (p = .char 'E' ∨ p = .char 'e') then .letterE else .inside
  else .outside

/-- Where the reader is. -/
inductive Mode where
  /-- In open text. -/
  | plain (word : Word)
  /-- After one dash in open text. -/
  | dash
  | comment
  /-- In a text between single quotes; `escapes` tells whether a backslash means something. -/
  | quoted (escapes : Bool)
  /-- After a single quote in such a text, which ends it or is the first of two. -/
  | quoteSeen (escapes : Bool)
  /-- After a backslash that means something. -/
  | escape
  /-- In a name between double quotes. -/
  | name
  /-- After a double quote in such a name. -/
  | nameQuoteSeen
  /-- After one dollar sign in open text. -/
  | dollar
  | body
  /-- After one dollar sign in a body. -/
  | bodyDollar
deriving DecidableEq, Repr

namespace Mode

/-- Whether a code point ends a line. -/
def isLineBreak (p : Point) : Bool := p = .char '\n' ∨ p = .char '\r'

/-- Where one more code point of open text leads.  A dollar sign can stand inside a word. -/
def nextPlain (w : Word) (p : Point) : Mode :=
  if p = .char '\x27' then .quoted (w = .letterE)
  else if p = .char '"' then .name
  else if p = .char '-' then .dash
  else if p = .char '$' then if w = .outside then .dollar else .plain .inside
  else .plain (w.next p)

/-- Where one more code point leads. -/
def next (m : Mode) (p : Point) : Mode :=
  match m with
  | .plain w => nextPlain w p
  | .dash => if p = .char '-' then .comment else nextPlain .outside p
  | .comment => if isLineBreak p then .plain .outside else .comment
  | .quoted escapes =>
      if p = .char '\x27' then .quoteSeen escapes
      else if escapes ∧ p = .char '\\' then .escape else .quoted escapes
  | .quoteSeen escapes => if p = .char '\x27' then .quoted escapes else nextPlain .outside p
  | .escape => .quoted true
  | .name => if p = .char '"' then .nameQuoteSeen else .name
  | .nameQuoteSeen => if p = .char '"' then .name else nextPlain .outside p
  | .dollar => if p = .char '$' then .body else nextPlain .outside p
  | .body => if p = .char '$' then .bodyDollar else .body
  | .bodyDollar => if p = .char '$' then .plain .outside else .body

/-- Whether the reader is in open text, where a semicolon ends a statement. -/
def isOpen : Mode → Bool
  | .plain _ | .dash | .quoteSeen _ | .nameQuoteSeen | .dollar => true
  | .comment | .quoted _ | .escape | .name | .body | .bodyDollar => false

/-- What was read but may still belong to a comment. -/
def held : Mode → Text
  | .dash => [.char '-']
  | _ => []

/-- What one more code point adds to a statement: nothing, as long as it may belong to a comment. -/
def added (m : Mode) (p : Point) : Text :=
  if m.next p = .dash ∨ m.next p = .comment then [] else m.held ++ [p]

end Mode

/-! ## The reader -/

/-- Whether a code point is space between statements. -/
def isSpace (p : Point) : Bool :=
  p ∈ ([' ', '\t', '\n', '\r', '\x0b', '\x0c'] : List Char).map Point.char

/-- The reader: the statements that have ended, what it has of the next one, and where it is. -/
structure Reader where
  done : List Text := []
  current : Text := []
  mode : Mode := .plain .outside

namespace Reader

/-- What the reader has of the next statement, without the space before it. -/
def rest (r : Reader) : Text := (r.current ++ r.mode.held).dropWhile isSpace

/-- The reader after one more code point. -/
def step (r : Reader) (p : Point) : Reader :=
  if r.mode.isOpen ∧ p = .char ';' then { done := r.done ++ [r.rest] }
  else { r with current := r.current ++ r.mode.added p, mode := r.mode.next p }

/-- The reader after a text. -/
def read (r : Reader) (t : Text) : Reader := t.foldl step r

theorem read_append (r : Reader) (t t' : Text) : r.read (t ++ t') = (r.read t).read t' :=
  List.foldl_append

end Reader

/-- The statements of a text, if the text ends with the last of them. -/
def split (t : Text) : Option (List Text) :=
  let r := ({} : Reader).read t
  if r.rest = [] then some r.done else none

/-- A comment with an apostrophe, a constant with a semicolon and a backslash, and a body with a quote. -/
example : split ("-- it's; a remark\nSELECT E'\\';';\n DO $$ x'; $$;" : String) =
    some (["SELECT E'\\';'", "DO $$ x'; $$"].map Text.ofString) := by
  decide +kernel

/-! ## Readings in which nothing ends -/

/-- From the first mode the text leads to the second one; no statement ends in it, and all of it belongs to the
statement. -/
inductive Reads : Mode → Text → Mode → Prop
  | nil (m : Mode) : Reads m [] m
  | cons {m m' : Mode} {p : Point} {ps : Text} : ¬ (m.isOpen ∧ p = .char ';') → m.added p = [p] →
      Reads (m.next p) ps m' → Reads m (p :: ps) m'

theorem Reads.trans {m m' m'' : Mode} {t t' : Text} (h : Reads m t m') (h' : Reads m' t' m'') :
    Reads m (t ++ t') m'' := by
  induction h with
  | nil => exact h'
  | cons hends hadded _ ih => exact .cons hends hadded (ih h')

theorem Reads.read {m m' : Mode} {t : Text} (h : Reads m t m') :
    ∀ r : Reader, r.mode = m → r.read t = { r with current := r.current ++ t, mode := m' } := by
  induction h with
  | nil m =>
      intro r hr
      rw [List.append_nil, ← hr]
      rfl
  | @cons m m' p ps hends hadded _ ih =>
      intro r hr
      have hstep : r.step p = { r with current := r.current ++ [p], mode := m.next p } := by
        rw [Reader.step, hr, if_neg hends, hadded]
      show (r.step p).read ps = _
      rw [ih (r.step p) (by rw [hstep]), hstep]
      simp

/-! ## Texts that pass -/

namespace Mode

/-- Open text in which nothing is pending. -/
def Settled : Mode → Prop
  | .plain _ | .quoteSeen _ | .nameQuoteSeen => True
  | _ => False

theorem Settled.isOpen {m : Mode} (h : m.Settled) : m.isOpen = true := by
  cases m <;> first | rfl | cases h

theorem Settled.held {m : Mode} (h : m.Settled) : m.held = [] := by
  cases m <;> first | rfl | cases h

end Mode

/-- Wherever the text is met in open text, it leads to open text again. -/
def Passes (s : String) : Prop :=
  ∀ m : Mode, m.Settled → ∃ m', Reads m (.ofString s) m' ∧ m'.Settled

theorem Passes.append {a b : String} (ha : Passes a) (hb : Passes b) : Passes (a ++ b) := by
  intro m hm
  obtain ⟨m', hread, hm'⟩ := ha m hm
  obtain ⟨m'', hread', hm''⟩ := hb m' hm'
  rw [Text.ofString_append]
  exact ⟨m'', hread.trans hread', hm''⟩

/-! ## Ordinary texts -/

/-- The characters with which something special starts, or a statement ends. -/
def special : List Char := ['\x27', '"', '-', '$', ';']

/-- A text without special characters. -/
def IsOrdinary (s : String) : Prop := ∀ c ∈ s.toList, c ∉ special

instance (s : String) : Decidable (IsOrdinary s) :=
  List.decidableBAll (fun c => c ∉ special) s.toList

theorem IsOrdinary.append {a b : String} (ha : IsOrdinary a) (hb : IsOrdinary b) :
    IsOrdinary (a ++ b) := by
  have happend : Lacks special (a ++ b) := Lacks.append ha hb
  exact happend

/-- An ordinary character continues open text. -/
theorem next_ordinary {m : Mode} (hm : m.Settled) {c : Char} (hc : c ∉ special) :
    ∃ w, m.next (.char c) = .plain w := by
  have plain (w : Word) : Mode.nextPlain w (.char c) = .plain (w.next (.char c)) := by
    simp_all [Mode.nextPlain, special]
  cases m with
  | plain w => exact ⟨_, plain w⟩
  | quoteSeen escapes =>
      have hquote : Point.char c ≠ .char '\x27' := by rintro ⟨⟩; simp [special] at hc
      exact ⟨_, (if_neg hquote).trans (plain .outside)⟩
  | nameQuoteSeen =>
      have hquote : Point.char c ≠ .char '"' := by rintro ⟨⟩; simp [special] at hc
      exact ⟨_, (if_neg hquote).trans (plain .outside)⟩
  | _ => cases hm

/-- One code point is read that ends no statement and is no part of a comment. -/
theorem reads_one {m m' : Mode} {p : Point} (hends : ¬ (m.isOpen ∧ p = .char ';'))
    (hheld : m.held = []) (hnext : m.next p = m') (hm' : m' ≠ .dash ∧ m' ≠ .comment) :
    Reads m [p] m' := by
  refine .cons hends ?_ (hnext ▸ .nil m')
  rw [Mode.added, hnext, if_neg (not_or.mpr hm'), hheld]
  rfl

theorem passes_ordinary {s : String} (h : IsOrdinary s) : Passes s := by
  have chars (cs : List Char) (hcs : ∀ c ∈ cs, c ∉ special) :
      ∀ m : Mode, m.Settled → ∃ m', Reads m (.ofChars cs) m' ∧ m'.Settled := by
    induction cs with
    | nil => exact fun m hm => ⟨m, .nil m, hm⟩
    | cons c cs ih =>
        intro m hm
        have hc := hcs c List.mem_cons_self
        obtain ⟨w, hw⟩ := next_ordinary hm hc
        obtain ⟨m', hread, hm'⟩ :=
          ih (fun c' hc' => hcs c' (List.mem_cons_of_mem _ hc')) (.plain w) trivial
        have hone : Reads m [.char c] (.plain w) :=
          reads_one (by rintro ⟨_, ⟨⟩⟩; simp [special] at hc) hm.held hw ⟨nofun, nofun⟩
        exact ⟨m', hone.trans hread, hm'⟩
  exact chars s.toList h

/-- A blank ends every word. -/
theorem reads_blank {m : Mode} (hm : m.Settled) : Reads m [.char ' '] (.plain .outside) := by
  refine reads_one (fun h => nomatch h.2) hm.held ?_ ⟨nofun, nofun⟩
  cases m with
  | plain w => rfl
  | quoteSeen escapes => rfl
  | nameQuoteSeen => rfl
  | _ => cases hm

/-! ## Between quotes -/

theorem ofChars_append (cs ds : List Char) :
    Text.ofChars (cs ++ ds) = Text.ofChars cs ++ Text.ofChars ds :=
  List.map_append

theorem ofString_ofList (cs : List Char) : Text.ofString (String.ofList cs) = Text.ofChars cs := by
  rw [Text.ofString, String.toList_ofList]

/-- A mode that each piece of a text leads back to is kept by the text. -/
theorem reads_flatMap {m : Mode} {f : Char → List Char} {cs : List Char}
    (h : ∀ c ∈ cs, Reads m (.ofChars (f c)) m) : Reads m (.ofChars (cs.flatMap f)) m := by
  induction cs with
  | nil => exact .nil m
  | cons c cs ih =>
      rw [List.flatMap_cons, ofChars_append]
      exact (h c List.mem_cons_self).trans (ih fun c' hc' => h c' (List.mem_cons_of_mem _ hc'))

/-- A character between single quotes, as it is written: what would end the constant, or would take the next
character with it, is written twice. -/
def quotedChar (escapes : Bool) (c : Char) : List Char :=
  if c = '\x27' ∨ (escapes = true ∧ c = '\\') then [c, c] else [c]

theorem reads_quotedChar (escapes : Bool) (c : Char) :
    Reads (.quoted escapes) (.ofChars (quotedChar escapes c)) (.quoted escapes) := by
  have closed (p : Point) : ¬ ((Mode.quoted escapes).isOpen ∧ p = .char ';') := fun h => nomatch h.1
  by_cases hquote : c = '\x27'
  · rw [hquote]
    have first : Reads (.quoted escapes) [.char '\x27'] (.quoteSeen escapes) :=
      reads_one (closed _) rfl rfl ⟨nofun, nofun⟩
    have second : Reads (.quoteSeen escapes) [.char '\x27'] (.quoted escapes) :=
      reads_one (fun h => nomatch h.2) rfl rfl ⟨nofun, nofun⟩
    exact first.trans second
  by_cases hslash : escapes = true ∧ c = '\\'
  · obtain ⟨rfl, rfl⟩ := hslash
    have first : Reads (.quoted true) [.char '\\'] .escape :=
      reads_one (closed _) rfl rfl ⟨nofun, nofun⟩
    have second : Reads .escape [.char '\\'] (.quoted true) :=
      reads_one (fun h => nomatch h.1) rfl rfl ⟨nofun, nofun⟩
    exact first.trans second
  · rw [quotedChar, if_neg (not_or.mpr ⟨hquote, hslash⟩)]
    refine reads_one (closed _) rfl ?_ ⟨nofun, nofun⟩
    have hquote' : Point.char c ≠ .char '\x27' := fun h => hquote (Point.char.inj h)
    have hslash' : ¬ (escapes = true ∧ Point.char c = .char '\\') :=
      fun h => hslash ⟨h.1, Point.char.inj h.2⟩
    simp only [Mode.next]
    rw [if_neg hquote', if_neg hslash']

theorem doubled_quote (cs : List Char) :
    Constant.doubled '\x27' cs = cs.flatMap (quotedChar false) := by
  refine congrArg (List.flatMap · cs) (funext fun c => ?_)
  simp [quotedChar]

theorem doubled_backslash_quote (cs : List Char) :
    Constant.doubled '\\' (Constant.doubled '\x27' cs) = cs.flatMap (quotedChar true) := by
  rw [Constant.doubled, Constant.doubled, List.flatMap_assoc]
  refine congrArg (List.flatMap · cs) (funext fun c => ?_)
  by_cases hquote : c = '\x27'
  · rw [hquote]
    rfl
  · simp [quotedChar, hquote]

/-- A constant is written in one of two forms, the one with an `E` if it holds a backslash. -/
theorem quoted_eq (cs : List Char) :
    Constant.quoted cs = ['E'] ++ (['\x27'] ++ (cs.flatMap (quotedChar true) ++ ['\x27'])) ∨
      Constant.quoted cs = ['\x27'] ++ (cs.flatMap (quotedChar false) ++ ['\x27']) := by
  rw [Constant.quoted, doubled_backslash_quote, doubled_quote]
  split
  · exact .inl rfl
  · exact .inr rfl

theorem reads_openingQuote (escapes : Bool) {w : Word} (hw : decide (w = .letterE) = escapes) :
    Reads (.plain w) [.char '\x27'] (.quoted escapes) :=
  reads_one (fun h => nomatch h.2) rfl (congrArg Mode.quoted hw) ⟨nofun, nofun⟩

/-- What stands between the quotes, whatever it is, and the closing quote. -/
theorem reads_closing (escapes : Bool) (cs : List Char) :
    Reads (.quoted escapes) (.ofChars (cs.flatMap (quotedChar escapes) ++ ['\x27']))
      (.quoteSeen escapes) := by
  rw [ofChars_append]
  exact (reads_flatMap fun c _ => reads_quotedChar escapes c).trans
    (reads_one (fun h => nomatch h.1) rfl rfl ⟨nofun, nofun⟩)

theorem reads_quoted (cs : List Char) :
    ∃ escapes, Reads (.plain .outside) (.ofChars (Constant.quoted cs)) (.quoteSeen escapes) := by
  rcases quoted_eq cs with h | h
  · have letter : Reads (.plain .outside) [.char 'E'] (.plain .letterE) :=
      reads_one (fun h => nomatch h.2) rfl rfl ⟨nofun, nofun⟩
    rw [h, ofChars_append, ofChars_append]
    exact ⟨true, letter.trans ((reads_openingQuote true rfl).trans (reads_closing true cs))⟩
  · rw [h, ofChars_append]
    exact ⟨false, (reads_openingQuote false rfl).trans (reads_closing false cs)⟩

/-- A name between double quotes is read to its end, whatever name it is. -/
theorem reads_quotedName (name : String) :
    Reads (.plain .outside) (.ofString (Sql.Statement.quotedName name)) .nameQuoteSeen := by
  have opening : Reads (.plain .outside) [.char '"'] .name :=
    reads_one (fun h => nomatch h.2) rfl rfl ⟨nofun, nofun⟩
  have seen : Reads .name [.char '"'] .nameQuoteSeen :=
    reads_one (fun h => nomatch h.1) rfl rfl ⟨nofun, nofun⟩
  have again : Reads .nameQuoteSeen [.char '"'] .name :=
    reads_one (fun h => nomatch h.2) rfl rfl ⟨nofun, nofun⟩
  have inner : Reads .name (.ofChars (Constant.doubled '"' name.toList)) .name := by
    refine reads_flatMap fun c _ => ?_
    by_cases hquote : c = '"'
    · rw [if_pos hquote, hquote]
      exact seen.trans again
    · rw [if_neg hquote]
      exact reads_one (fun h => nomatch h.1) rfl (if_neg fun h => hquote (Point.char.inj h))
        ⟨nofun, nofun⟩
  rw [Sql.Statement.quotedName, ofString_ofList, List.cons_append, ← List.singleton_append,
    ofChars_append, ofChars_append]
  exact opening.trans (inner.trans seen)

/-- A body without dollar signs is read to its end. -/
theorem reads_body {body : String} (h : '$' ∉ body.toList) :
    Reads (.plain .outside) (.ofString ("$$" ++ body ++ "$$")) (.plain .outside) := by
  have inner : Reads .body (.ofChars (body.toList.flatMap fun c => [c])) .body := by
    refine reads_flatMap fun c hc => ?_
    have hdollar : Point.char c ≠ .char '$' := by
      rintro ⟨⟩
      exact h hc
    exact reads_one (fun h => nomatch h.1) rfl (if_neg hdollar) ⟨nofun, nofun⟩
  rw [List.flatMap_singleton'] at inner
  have one : Reads (.plain .outside) [.char '$'] .dollar :=
    reads_one (fun h => nomatch h.2) rfl rfl ⟨nofun, nofun⟩
  have opening : Reads .dollar [.char '$'] .body :=
    reads_one (fun h => nomatch h.2) rfl rfl ⟨nofun, nofun⟩
  have another : Reads .body [.char '$'] .bodyDollar :=
    reads_one (fun h => nomatch h.1) rfl rfl ⟨nofun, nofun⟩
  have closing : Reads .bodyDollar [.char '$'] (.plain .outside) :=
    reads_one (fun h => nomatch h.1) rfl rfl ⟨nofun, nofun⟩
  rw [Text.ofString_append, Text.ofString_append]
  exact ((one.trans opening).trans inner).trans (another.trans closing)

/-- What leads from open text outside of all words to open text passes after a blank. -/
theorem passes_blank {s : String} {m : Mode} (h : Reads (.plain .outside) (.ofString s) m)
    (hm : m.Settled) : Passes (" " ++ s) := by
  intro m' hm'
  rw [Text.ofString_append]
  exact ⟨m, (reads_blank hm').trans h, hm⟩

end SchemaScript.Lexing
