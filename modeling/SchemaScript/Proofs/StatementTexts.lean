/- # Statements as the reader sees them

The text of a statement passes: it is read from open text to open text, nothing ends in it, and nothing of it
is taken for a comment.  All that is needed for this is that the names in it are ordinary; the text of a
comment or a role may be anything, because it stands in a constant.
-/
import SchemaScript.Proofs.Lexing

namespace SchemaScript.Lexing

open Sql (Statement ColumnDef Check Constant)

/-! ## Ordinary parts of statements -/

theorem IsOrdinary.intercalate {between : String} (hb : IsOrdinary between) {ss : List String}
    (h : ∀ s ∈ ss, IsOrdinary s) : IsOrdinary (between.intercalate ss) := by
  induction ss with
  | nil =>
      rw [String.intercalate_nil]
      decide
  | cons s ss ih =>
      have hs := h s List.mem_cons_self
      have hss := ih fun s' hs' => h s' (List.mem_cons_of_mem _ hs')
      cases ss with
      | nil =>
          rw [String.intercalate_singleton]
          exact hs
      | cons s' ss =>
          rw [String.intercalate_cons_cons]
          exact (hs.append hb).append hss

/-- A column in the creation of a table, with an ordinary name and an ordinary type. -/
theorem ordinary_columnDef {c : ColumnDef} (hname : IsOrdinary c.name) (htype : IsOrdinary c.sqlType) :
    IsOrdinary c.sql := by
  have mark {b : Bool} {s : String} (hs : IsOrdinary s) : IsOrdinary (if b then s else "") := by
    cases b with
    | true => exact hs
    | false => exact (by decide : IsOrdinary "")
  have hcolumn : IsOrdinary ("    " ++ c.name ++ " " ++ c.sqlType) :=
    ((IsOrdinary.append (by decide) hname).append (by decide)).append htype
  exact ((hcolumn.append (mark (by decide))).append (mark (by decide))).append (mark (by decide))

theorem ordinary_columnType (t : Sql.ColumnType) : IsOrdinary t.sql := by
  cases t <;> decide

/-! ## Statements with ordinary names -/

/-- The check compares with an ordinary column, or with a role that is written as a text. -/
def IsPlainCheck : Check → Prop
  | .owner column => IsOrdinary column
  | .role constant => ∃ s h, constant = .text s h
  | .raw _ => False

/-- The names in the statement are ordinary, and what is written as a constant is a text. -/
def IsPlain : Statement → Prop
  | .begin | .commit => True
  | .createTable table columns =>
      IsOrdinary table ∧ ∀ c ∈ columns, IsOrdinary c.name ∧ IsOrdinary c.sqlType
  | .comment table column text => IsOrdinary table ∧ IsOrdinary column ∧ ∃ s h, text = .text s h
  | .createIndex name table column => IsOrdinary name ∧ IsOrdinary table ∧ IsOrdinary column
  | .addForeignKey name table column referenced key =>
      IsOrdinary name ∧ IsOrdinary table ∧ IsOrdinary column ∧ IsOrdinary referenced ∧ IsOrdinary key
  | .createStampFunction name => IsOrdinary name
  | .dropTrigger name table => IsOrdinary name ∧ IsOrdinary table
  | .createTrigger name table function =>
      IsOrdinary name ∧ IsOrdinary table ∧ IsOrdinary function
  | .enableRowSecurity table => IsOrdinary table
  | .createPolicy table command check =>
      IsOrdinary table ∧ IsOrdinary command ∧ IsPlainCheck check

/-- A text that is written as a constant passes after a blank, whatever it holds. -/
theorem passes_constant (s : String) (hs : Sql.holdsNul s = false) :
    Passes (" " ++ (Constant.text s hs).sql) := by
  obtain ⟨escapes, hread⟩ := reads_quoted s.toList
  refine passes_blank (m := .quoteSeen escapes) ?_ trivial
  rw [Constant.sql, ofString_ofList]
  exact hread

theorem passes_check {check : Check} (h : IsPlainCheck check) : Passes check.sql := by
  cases check with
  | owner column =>
      exact passes_ordinary ((IsOrdinary.append (by decide) h).append (by decide))
  | role constant =>
      obtain ⟨s, hs, rfl⟩ := h
      have hsplit : (Check.role (.text s hs)).sql =
          "auth.role() =" ++ (" " ++ (Constant.text s hs).sql) := by
        rw [← String.append_assoc]
        rfl
      rw [hsplit]
      exact (passes_ordinary (by decide)).append (passes_constant s hs)
  | raw condition => exact absurd h id

theorem passes_comment {table column : String} (htable : IsOrdinary table)
    (hcolumn : IsOrdinary column) (s : String) (hs : Sql.holdsNul s = false) :
    Passes (Statement.comment table column (.text s hs)).sql := by
  have hsplit : (Statement.comment table column (.text s hs)).sql =
      ("COMMENT ON COLUMN " ++ table ++ "." ++ column ++ " IS") ++
        (" " ++ (Constant.text s hs).sql) := by
    -- The blank ends the word before the constant, without which an `E` would not start one.
    have hblank : " IS " = " IS" ++ " " := by decide
    show "COMMENT ON COLUMN " ++ table ++ "." ++ column ++ " IS " ++ (Constant.text s hs).sql = _
    rw [hblank, ← String.append_assoc, ← String.append_assoc]
  have hhead : IsOrdinary ("COMMENT ON COLUMN " ++ table ++ "." ++ column ++ " IS") :=
    (((IsOrdinary.append (by decide) htable).append (by decide)).append hcolumn).append (by decide)
  rw [hsplit]
  exact (passes_ordinary hhead).append (passes_constant s hs)

/-- What the stamping function does. -/
def stampBody : String := "\nBEGIN\n    NEW.updated_at = now();\n    RETURN NEW;\nEND;\n"

/-- The semicolons of the function stand in its body. -/
theorem passes_createStampFunction {name : String} (hname : IsOrdinary name) :
    Passes (Statement.createStampFunction name).sql := by
  have hsplit : (Statement.createStampFunction name).sql =
      ("CREATE OR REPLACE FUNCTION " ++ name ++ "()\nRETURNS TRIGGER AS") ++
        (" " ++ ("$$" ++ stampBody ++ "$$")) ++ " language" ++
        (" " ++ (Constant.text "plpgsql" (by decide)).sql) := by
    have hbody : "()\nRETURNS TRIGGER AS $$\nBEGIN\n" ++
        "    NEW.updated_at = now();\n    RETURN NEW;\nEND;\n$$ language 'plpgsql'" =
        "()\nRETURNS TRIGGER AS" ++ (" " ++ ("$$" ++ (stampBody ++ ("$$" ++ (" language" ++
          (" " ++ (Constant.text "plpgsql" (by decide)).sql)))))) := by decide
    show "CREATE OR REPLACE FUNCTION " ++ name ++ "()\nRETURNS TRIGGER AS $$\nBEGIN\n" ++
      "    NEW.updated_at = now();\n    RETURN NEW;\nEND;\n$$ language 'plpgsql'" = _
    simp only [String.append_assoc, hbody]
  have hhead : IsOrdinary ("CREATE OR REPLACE FUNCTION " ++ name ++ "()\nRETURNS TRIGGER AS") :=
    (IsOrdinary.append (by decide) hname).append (by decide)
  have hbody : Passes (" " ++ ("$$" ++ stampBody ++ "$$")) :=
    passes_blank (reads_body (by decide)) trivial
  rw [hsplit]
  exact (((passes_ordinary hhead).append hbody).append (passes_ordinary (by decide))).append
    (passes_constant _ _)

/-- What a policy says before its check.  Its name stands between double quotes. -/
def policyHead (table command : String) : String :=
  "CREATE POLICY" ++ (" " ++ Statement.quotedName (Statement.policyName table command)) ++
    (" ON " ++ table ++ " FOR " ++ command ++ "\n    " ++ Statement.policyClause command ++ " (")

theorem sql_createPolicy (table command : String) (check : Check) :
    (Statement.createPolicy table command check).sql = policyHead table command ++ check.sql ++ ")" := by
  have hblank : "CREATE POLICY " = "CREATE POLICY" ++ " " := by decide
  show "CREATE POLICY " ++ Statement.quotedName (Statement.policyName table command) ++ " ON " ++ table ++
    " FOR " ++ command ++ "\n    " ++ Statement.policyClause command ++ " (" ++ check.sql ++ ")" = _
  rw [hblank, policyHead]
  simp only [String.append_assoc]

/-- After the name, a policy has nothing but ordinary parts before its check. -/
theorem ordinary_afterPolicyName {table command : String} (htable : IsOrdinary table)
    (hcommand : IsOrdinary command) :
    IsOrdinary (" ON " ++ table ++ " FOR " ++ command ++ "\n    " ++ Statement.policyClause command ++ " (") := by
  have hclause : IsOrdinary (Statement.policyClause command) := by
    show IsOrdinary (if command = "INSERT" then _ else _)
    split
    · decide
    · decide
  have hhead : IsOrdinary (" ON " ++ table ++ " FOR " ++ command) :=
    ((IsOrdinary.append (by decide) htable).append (by decide)).append hcommand
  exact ((hhead.append (by decide)).append hclause).append (by decide)

theorem passes_policyHead {table command : String} (htable : IsOrdinary table) (hcommand : IsOrdinary command) :
    Passes (policyHead table command) := by
  have hname : Passes (" " ++ Statement.quotedName (Statement.policyName table command)) :=
    passes_blank (reads_quotedName _) trivial
  exact ((passes_ordinary (by decide)).append hname).append
    (passes_ordinary (ordinary_afterPolicyName htable hcommand))

/-- The check of a policy stands between parentheses. -/
theorem passes_createPolicy {table command : String} {check : Check} (htable : IsOrdinary table)
    (hcommand : IsOrdinary command) (hcheck : IsPlainCheck check) :
    Passes (Statement.createPolicy table command check).sql := by
  rw [sql_createPolicy]
  exact ((passes_policyHead htable hcommand).append (passes_check hcheck)).append (passes_ordinary (by decide))

/-- The text of a statement is read from open text to open text. -/
theorem passes_sql {s : Statement} (h : IsPlain s) : Passes s.sql := by
  cases s with
  | begin => exact passes_ordinary (by decide)
  | commit => exact passes_ordinary (by decide)
  | createTable table columns =>
      obtain ⟨htable, hcolumns⟩ := h
      have hlines : ∀ line ∈ columns.map ColumnDef.sql, IsOrdinary line := by
        intro line hline
        obtain ⟨c, hc, rfl⟩ := List.mem_map.mp hline
        exact ordinary_columnDef (hcolumns c hc).1 (hcolumns c hc).2
      have hhead : IsOrdinary ("CREATE TABLE IF NOT EXISTS " ++ table ++ " (\n") :=
        (IsOrdinary.append (by decide) htable).append (by decide)
      have hbetween : IsOrdinary ",\n" := by decide
      have hbody := hbetween.intercalate hlines
      exact passes_ordinary ((hhead.append hbody).append (by decide))
  | comment table column text =>
      obtain ⟨htable, hcolumn, s, hs, rfl⟩ := h
      exact passes_comment htable hcolumn s hs
  | createIndex name table column =>
      obtain ⟨hname, htable, hcolumn⟩ := h
      have hhead : IsOrdinary ("CREATE INDEX IF NOT EXISTS " ++ name ++ " ON " ++ table) :=
        ((IsOrdinary.append (by decide) hname).append (by decide)).append htable
      exact passes_ordinary (((hhead.append (by decide)).append hcolumn).append (by decide))
  | addForeignKey name table column referenced key =>
      obtain ⟨hname, htable, hcolumn, hreferenced, hkey⟩ := h
      have hhead : IsOrdinary ("ALTER TABLE " ++ table ++ " ADD CONSTRAINT " ++ name) :=
        ((IsOrdinary.append (by decide) htable).append (by decide)).append hname
      have hcolumn : IsOrdinary ("ALTER TABLE " ++ table ++ " ADD CONSTRAINT " ++ name ++
          "\n    FOREIGN KEY (" ++ column ++ ") REFERENCES ") :=
        ((hhead.append (by decide)).append hcolumn).append (by decide)
      exact passes_ordinary
        ((((hcolumn.append hreferenced).append (by decide)).append hkey).append (by decide))
  | createStampFunction name => exact passes_createStampFunction h
  | dropTrigger name table =>
      obtain ⟨hname, htable⟩ := h
      exact passes_ordinary
        (((IsOrdinary.append (by decide) hname).append (by decide)).append htable)
  | createTrigger name table function =>
      obtain ⟨hname, htable, hfunction⟩ := h
      have hhead : IsOrdinary ("CREATE TRIGGER " ++ name ++ "\nBEFORE UPDATE ON " ++ table) :=
        ((IsOrdinary.append (by decide) hname).append (by decide)).append htable
      exact passes_ordinary (((hhead.append (by decide)).append hfunction).append (by decide))
  | enableRowSecurity table =>
      exact passes_ordinary ((IsOrdinary.append (by decide) h).append (by decide))
  | createPolicy table command check =>
      obtain ⟨htable, hcommand, hcheck⟩ := h
      exact passes_createPolicy htable hcommand hcheck

/-! ## How statements start -/

/-- The text starts with something other than space. -/
def Starts (s : String) : Prop := ∃ p ps, Text.ofString s = p :: ps ∧ isSpace p = false

theorem starts_of_head {s : String} (h : (s.toList.head?.any fun c => !isSpace (.char c)) = true) :
    Starts s := by
  obtain ⟨c, hc, hspace⟩ := (Option.any_eq_true _ _).mp h
  obtain ⟨cs, hcs⟩ := List.head?_eq_some_iff.mp hc
  refine ⟨.char c, Text.ofChars cs, ?_, Bool.not_eq_true' _ ▸ hspace⟩
  rw [Text.ofString, hcs]
  rfl

theorem Starts.append {a : String} (h : Starts a) (b : String) : Starts (a ++ b) := by
  obtain ⟨p, ps, ha, hp⟩ := h
  refine ⟨p, ps ++ Text.ofString b, ?_, hp⟩
  rw [Text.ofString_append, ha]
  rfl

theorem starts_sql (s : Statement) : Starts s.sql := by
  cases s
  all_goals repeat first | exact starts_of_head (by decide) | refine Starts.append ?_ _

end SchemaScript.Lexing
