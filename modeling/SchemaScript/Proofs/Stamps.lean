/-
# What the clock shows in

## What is proved

The clock shows in the stamps alone.  With the stamps taken out, the complete script, the script of the tables and
that of any one table are the same text at any two times, or the same fault, whatever characters labels, names and
comments hold; the other scripts do not look at the clock at all.  Where no name and no setting breaks a line, what is
taken out of the complete script are its second line and its fifth, and nothing else.

## How

The scripts at two times are the same list of pieces but for the stamps, and a text without its stamps is the text of a
script without them (`dropStamps_text`).  For the second part it has to be seen that no other line looks like a stamp.
A remark is one line, and none starts like a stamp (`Remarks.not_isStampLine`).  A statement may have many lines, but
none of them starts with a dash: the words of the statement stand before every name and every constant in it
(`Emits.undashed`).
-/
import SchemaScript.Proofs.Lines
import SchemaScript.Proofs.Pieces
import SchemaScript.Proofs.Reading

namespace SchemaScript

open Sql (Statement ColumnDef Check Constant)
open Text (ofString Unbroken Inline Opens Undashed)

/-! ## Scripts at two times -/

namespace Generator

section Times

variable (g : Generator)

theorem unstamped_tablesScriptAt (time time' : Instant) (label : Value) (tables : List Table) :
    (g.tablesScriptAt time label tables).map Script.unstamped =
      (g.tablesScriptAt time' label tables).map Script.unstamped := by
  simp only [tablesScriptAt]
  cases tables.mapM g.scriptOf with
  | error fault => rfl
  | ok parts => rfl

theorem unstamped_completeScriptAt (time time' tablesTime tablesTime' : Instant) :
    (g.completeScriptAt time tablesTime).map Script.unstamped =
      (g.completeScriptAt time' tablesTime').map Script.unstamped := by
  simp only [completeScriptAt, completed]
  rcases cases_of_map_eq (g.unstamped_tablesScriptAt tablesTime tablesTime' .null g.registry.tables) with
    ⟨fault, h, h'⟩ | ⟨tables, tables', h, h', htables⟩
  · rw [h, h']
    rfl
  rw [h, h']
  cases g.triggersScript with
  | error fault => rfl
  | ok triggers =>
      cases g.policiesScriptOf with
      | error fault => rfl
      | ok policies =>
          refine congrArg Except.ok ?_
          simp only [joinAll, Script.unstamped, List.filter_append] at htables ⊢
          rw [htables]
          rfl

end Times

/-- Scripts that are the same without their stamps have the same text without them. -/
theorem dropStamps_eq_of_unstamped_eq {r r' : Except Sql.Fault Script}
    (h : r.map Script.unstamped = r'.map Script.unstamped) :
    r.map (fun script => dropStamps script.text) = r'.map fun script => dropStamps script.text := by
  rcases cases_of_map_eq h with ⟨fault, hr, hr'⟩ | ⟨script, script', hr, hr', hscript⟩
  · rw [hr, hr']
  · rw [hr, hr']
    refine congrArg Except.ok ?_
    show dropStamps (Script.text script) = dropStamps (Script.text script')
    rw [Script.dropStamps_text, hscript, ← Script.dropStamps_text]

/-- Any script at two times is the same without its stamps; three of them have none. -/
theorem unstamped_generate (g : Generator) (part : ScriptPart) (s s' : Session) :
    ((part.generate g).outcome s).1.map Script.unstamped =
      ((part.generate g).outcome s').1.map Script.unstamped := by
  have same {act : Run Script} {r : Except Sql.Fault Script} (h : act.Gives r) :
      (act.outcome s).1 = (act.outcome s').1 := (h s).1.trans (h s').1.symm
  cases part with
  | complete =>
      simp only [ScriptPart.generate]
      rw [g.outcome_completeScript, g.outcome_completeScript]
      exact g.unstamped_completeScriptAt _ _ _ _
  | tables =>
      simp only [ScriptPart.generate]
      rw [(g.outcome_tablesScript s).1, (g.outcome_tablesScript s').1]
      exact g.unstamped_tablesScriptAt _ _ _ _
  | foreignKeys => exact congrArg _ (same g.generateForeignKeysScript_gives)
  | triggers => exact congrArg _ (same (Run.gives_liftExcept g.triggersScript))
  | policies => exact congrArg _ (same g.policiesScript_gives)

theorem outcome_tableText {g : Generator} {name : Text} {t : Table} (ht : g.registry.table? name = some t)
    (s : Session) :
    ((g.tableText name).outcome s).1 = (g.tablesScriptAt s.clock.next (.text name) [t]).map Script.text := by
  simp only [tableText, ht]
  show ((g.generateTables (.text name) [t] >>= fun script => pure (Script.text script)).outcome s).1 = _
  rw [Run.outcome_bind_pure, (g.outcome_generateTables (.text name) [t] s).1]

/-- The script of one table at two times, or what stands in for it. -/
theorem dropStamps_tableText (g : Generator) (name : Text) (s s' : Session) :
    ((g.tableText name).outcome s).1.map dropStamps =
      ((g.tableText name).outcome s').1.map dropStamps := by
  cases ht : g.registry.table? name with
  | none =>
      simp only [tableText, ht]
      rfl
  | some t =>
      have view (r : Except Sql.Fault Script) :
          (r.map Script.text).map dropStamps = r.map fun script => dropStamps script.text := by
        cases r <;> rfl
      rw [outcome_tableText ht, outcome_tableText ht, view, view]
      exact dropStamps_eq_of_unstamped_eq (g.unstamped_tablesScriptAt _ _ _ _)

end Generator

/-! ## Names and settings that do not break a line -/

/-- The value is a text that does not break a line. -/
def Value.IsUnbroken (v : Value) : Prop := ∃ t : Text, v = .text t ∧ t.Unbroken

/-- No setting breaks a line. -/
structure Settings.Unbroken (σ : Settings) : Prop where
  schemaLabel : σ.schemaLabel.IsUnbroken
  backendLabel : σ.backendLabel.IsUnbroken
  comment : σ.encryptedComment.IsUnbroken
  function : σ.triggerFunction.IsUnbroken
  role : σ.authenticatedRole.IsUnbroken

/-- No name of a table or column breaks a line. -/
def Registry.Unbroken (r : Registry) : Prop :=
  ∀ t ∈ r.tables, Text.Unbroken t.name ∧ ∀ c ∈ t.columns, Text.Unbroken c.name

instance (r : Registry) : Decidable r.Unbroken :=
  inferInstanceAs (Decidable (∀ t ∈ r.tables, Text.Unbroken t.name ∧
    ∀ c ∈ t.columns, Text.Unbroken c.name))

theorem Value.IsUnbroken.plain {v : Value} (h : v.IsUnbroken) : Text.Unbroken v.plain := by
  obtain ⟨t, rfl, ht⟩ := h
  exact ht

/-! ## Constants and quoted names -/

theorem unbroken_doubled (q : Char) {cs : List Char} (hcs : Unbroken (Text.ofChars cs)) :
    Unbroken (Text.ofChars (Constant.doubled q cs)) := by
  intro p hp
  obtain ⟨c, hc, rfl⟩ := List.mem_map.mp hp
  obtain ⟨c', hc', hmem⟩ := List.mem_flatMap.mp hc
  have hsame : c = c' := by
    split at hmem
    all_goals simpa using hmem
  rw [hsame]
  exact hcs _ (List.mem_map_of_mem hc')

theorem unbroken_between {cs : List Char} (hcs : Unbroken (Text.ofChars cs)) {a b : List Char}
    (ha : Unbroken (Text.ofChars a)) (hb : Unbroken (Text.ofChars b)) :
    Unbroken (ofString (String.ofList (a ++ cs ++ b))) := by
  rw [ofString, String.toList_ofList, Text.ofChars, List.map_append, List.map_append]
  exact (ha.append hcs).append hb

theorem unbroken_quotedName {name : String} (hname : Unbroken name) :
    Unbroken (Statement.quotedName name) :=
  unbroken_between (a := ['"']) (unbroken_doubled _ hname) (by decide) (by decide)

theorem unbroken_constant {s : String} (hs : Unbroken s) (h : Sql.holdsNul s = false) :
    Unbroken (Constant.text s h).sql := by
  have hquoted := unbroken_doubled '\x27' hs
  simp only [Constant.sql, Constant.quoted]
  split
  · exact unbroken_between (a := ['E', '\x27']) (unbroken_doubled '\\' hquoted) (by decide) (by decide)
  · exact unbroken_between (a := ['\x27']) hquoted (by decide) (by decide)

/-! ## Statements -/

theorem opens_columnDef {d : ColumnDef} (hname : Unbroken d.name) (htype : Inline d.sqlType) :
    Opens d.sql := by
  have mark {b : Bool} {s : String} (hs : Inline s) : Inline (if b then s else "" : String) := by
    cases b with
    | true => exact hs
    | false => exact (by decide : Inline "")
  have hcolumn : Opens ("    " ++ d.name ++ " " ++ d.sqlType : String) :=
    ((Opens.appendString (by decide) hname.inline).appendString (by decide)).appendString htype
  exact ((hcolumn.appendString (mark (by decide))).appendString (mark (by decide))).appendString
    (mark (by decide))

theorem inline_columnType (type : Sql.ColumnType) : Inline type.sql := by
  cases type <;> decide

/-- Lines that start without a dash, with a comma and a break between them. -/
theorem undashed_intercalate {ls : List String} (hls : ∀ l ∈ ls, Opens l) :
    Undashed (ofString (",\n".intercalate ls)) := by
  induction ls with
  | nil =>
      rw [String.intercalate_nil]
      exact ⟨by decide, by decide⟩
  | cons l ls ih =>
      have hl : Opens l := hls l List.mem_cons_self
      have hrest := ih fun l' hl' => hls l' (List.mem_cons_of_mem _ hl')
      cases ls with
      | nil =>
          rw [String.intercalate_singleton, ← List.append_nil (ofString l)]
          exact hl.undashed_append .nil
      | cons l' ls =>
          rw [String.intercalate_cons_cons, Text.ofString_append, Text.ofString_append,
            List.append_assoc]
          exact hl.undashed_append (Text.chain_append (by decide) hrest.chain (.inr hrest.head))

theorem inline_columnList {ls : List String} (hls : ∀ l ∈ ls, Opens l) :
    Inline (ofString (" (\n" ++ ",\n".intercalate ls ++ "\n)")) := by
  have hlist := undashed_intercalate hls
  rw [Text.ofString_append, Text.ofString_append]
  constructor
  · refine Text.chain_append (Text.chain_append (by decide) hlist.chain (.inr hlist.head)) (by decide) ?_
    exact .inr (by decide)
  · intro p hp
    have hlast : p = .char ')' := by
      rw [List.getLast?_append_of_ne_nil _ (by decide)] at hp
      exact (Option.some.inj hp).symm
    rw [hlast]
    decide

namespace Generator

section Kinds

variable {g : Generator} (hr : g.registry.Unbroken) (hs : g.settings.Unbroken)
include hr hs

omit hr in
theorem unbroken_stampFunction {function : String} (h : g.stampFunction = .ok function) :
    Unbroken function := by
  obtain ⟨t, hsetting, ht⟩ := hs.function
  rw [stampFunction_eq_ok_iff, hsetting] at h
  cases h
  exact ht

omit hr hs in
theorem unbroken_ofValue {v : Value} (hv : v.IsUnbroken) {constant : Constant}
    (h : Constant.ofValue v = .ok constant) : Unbroken constant.sql := by
  obtain ⟨t, rfl, ht⟩ := hv
  obtain ⟨s, hnul, rfl, rfl⟩ := constant_ofValue_text h
  exact unbroken_constant ht hnul

theorem inline_check {t : Table} (ht : t ∈ g.registry.tables) (hcolumns : t.relationalColumns ≠ [])
    {check : Check} (h : Guard g.settings.authenticatedRole t check) : Inline check.sql := by
  cases check with
  | owner column =>
      obtain ⟨c, hc, rfl⟩ := h.carries hcolumns
      have hcolumn : Unbroken c.name := (hr t ht).2 c (Table.mem_relationalColumns.mp hc).1
      exact (Inline.appendString (by decide) hcolumn.inline).appendString (by decide)
  | role constant =>
      cases h with
      | role _ _ _ hconstant =>
          exact Inline.appendString (by decide) (unbroken_ofValue hs.role hconstant).inline
  | raw condition => cases h

/-- No line of a statement starts with a dash. -/
theorem Emits.opens {s : Statement} (h : g.Emits s) : Opens s.sql := by
  have table {t : Table} (ht : t ∈ g.registry.tables) : Inline t.name := (hr t ht).1.inline
  have column {t : Table} {c : Column} (ht : t ∈ g.registry.tables) (hc : c ∈ t.relationalColumns) :
      Inline c.name := ((hr t ht).2 c (Table.mem_relationalColumns.mp hc).1).inline
  have trigger {t : Table} (ht : t ∈ g.registry.tables) : Inline (Statement.triggerName t.name) :=
    (Inline.appendString (by decide) (table ht)).appendString (by decide)
  have name (start : String) (hstart : Inline start) {t : Table} {c : Column}
      (ht : t ∈ g.registry.tables) (hc : c ∈ t.relationalColumns) :
      Inline (Statement.conventionalName start t.name c.name) :=
    (((hstart.appendString (by decide)).appendString (table ht)).appendString (by decide)).appendString
      (column ht hc)
  cases h with
  | begin | commit => decide
  | @createTable t ht =>
      let lines : List String := (t.relationalColumns.map (columnDef t)).map ColumnDef.sql
      have hlines : ∀ l ∈ lines, Opens l := by
        intro l hl
        obtain ⟨d, hd, rfl⟩ := List.mem_map.mp hl
        obtain ⟨c, hc, rfl⟩ := List.mem_map.mp hd
        exact opens_columnDef ((hr t ht).2 c (Table.mem_relationalColumns.mp hc).1)
          (inline_columnType _)
      -- The breaks stand at the ends of the list, so it is taken together with its parentheses.
      have hsplit : (Generator.createTable t).sql = "CREATE TABLE IF NOT EXISTS " ++ t.name ++
          (" (\n" ++ ",\n".intercalate lines ++ "\n)") := by
        show "CREATE TABLE IF NOT EXISTS " ++ t.name ++ " (\n" ++ ",\n".intercalate lines ++ "\n)" = _
        simp only [String.append_assoc]
      rw [hsplit]
      exact (Opens.appendString (by decide) (table ht)).appendString (inline_columnList hlines)
  | comment ht hc hconstant =>
      have hconstant := (unbroken_ofValue hs.comment hconstant).inline
      exact ((((Opens.appendString (by decide) (table ht)).appendString (by decide)).appendString
        (column ht hc)).appendString (by decide)).appendString hconstant
  | index ht hc =>
      have hname := name Statement.indexStart (by decide) ht hc
      exact (((((Opens.appendString (by decide) hname).appendString (by decide)).appendString
        (table ht)).appendString (by decide)).appendString (column ht hc)).appendString (by decide)
  | @foreignKey t t' c key ht hc ht' hkey =>
      have hname := name Statement.foreignKeyStart (by decide) ht hc
      -- The key of a table is one of its columns.
      have hkey' : Inline key := by
        obtain ⟨k, hk, rfl⟩ := t'.wellFormed.key_mem key hkey
        exact ((hr t' ht').2 k hk).inline
      have hstart := ((Opens.appendString (by decide : Opens "ALTER TABLE ") (table ht)).appendString
        (by decide : Inline " ADD CONSTRAINT ")).appendString hname
      exact (((((hstart.appendString (by decide)).appendString (column ht hc)).appendString
        (by decide)).appendString (table ht')).appendString (by decide)).appendString hkey'
          |>.appendString (by decide)
  | @stampFunction function hfunction =>
      have hfunction := (unbroken_stampFunction hs hfunction).inline
      -- The body is written in two pieces, of which the first ends with a break.
      let body : String := "()\nRETURNS TRIGGER AS $$\nBEGIN\n" ++
        "    NEW.updated_at = now();\n    RETURN NEW;\nEND;\n$$ language 'plpgsql'"
      have hsplit : (Statement.createStampFunction function).sql =
          "CREATE OR REPLACE FUNCTION " ++ function ++ body := by
        rw [← String.append_assoc]
        rfl
      have hbody : Inline body := by decide +kernel
      rw [hsplit]
      exact (Opens.appendString (by decide) hfunction).appendString hbody
  | dropTrigger ht =>
      exact ((Opens.appendString (by decide) (trigger ht)).appendString (by decide)).appendString
        (table ht)
  | createTrigger ht hfunction =>
      have hfunction := (unbroken_stampFunction hs hfunction).inline
      exact (((((Opens.appendString (by decide) (trigger ht)).appendString (by decide)).appendString
        (table ht)).appendString (by decide)).appendString hfunction).appendString (by decide)
  | enableRowSecurity ht =>
      exact (Opens.appendString (by decide) (table ht)).appendString (by decide)
  | @createPolicy t command check ht hcolumns hcommand hguard =>
      have hcommands : ∀ command ∈ Statement.policyCommands, Unbroken command ∧
          Unbroken (ofString (Text.lowerString command)) ∧
          Unbroken (ofString (Statement.policyClause command)) := by
        decide +kernel
      obtain ⟨hupper, hlower, hclause⟩ := hcommands command hcommand
      have hname : Unbroken (ofString (Statement.policyName t.name command)) :=
        .appendString (.appendString (hr t ht).1 (by decide)) hlower
      have hhead := (((Opens.appendString (by decide : Opens "CREATE POLICY ")
        (unbroken_quotedName hname).inline).appendString (by decide : Inline " ON ")).appendString
        (table ht)).appendString (by decide : Inline " FOR ")
      exact ((((hhead.appendString hupper.inline).appendString (by decide)).appendString
        hclause.inline).appendString (by decide)).appendString (inline_check hr hs ht hcolumns hguard)
          |>.appendString (by decide)

theorem Emits.not_isStampLine {s : Statement} (h : g.Emits s) :
    ∀ line ∈ Text.lines (Piece.statement s).text, isStampLine line = false := by
  intro line hline
  have hundashed : Undashed (Piece.statement s).text :=
    (Emits.opens hr hs h).undashed_append (by decide : (ofString ";\n").IsChain Text.NoDashAfterBreak)
  exact not_isStampLine_of_head (hundashed.head_ne hline)

/-! ## Remarks -/

theorem Remarks.unbroken {text : Text} (h : g.Remarks text) : Unbroken text := by
  cases h with
  | fixed htext =>
      have hfixed : ∀ text ∈ fixedRemarks, Unbroken text := by decide +kernel
      exact hfixed _ htext
  | complete => exact (Unbroken.append (by decide) hs.backendLabel.plain).append (by decide)
  | tables =>
      exact ((Unbroken.append (by decide) hs.backendLabel.plain).append (by decide)).append
        hs.schemaLabel.plain
  | table ht => exact (Unbroken.append (by decide) (hr _ ht).1).append (by decide)
  | trigger ht => exact Unbroken.append (by decide) (hr _ ht).1
  | role => exact (Unbroken.append (by decide) hs.role.plain).append (by decide)

omit hr hs in
/-- No remark starts like a stamp. -/
theorem Remarks.ne_stamp {text : Text} (h : g.Remarks text) (rest : Text) :
    text ≠ ofString "Generated on: " ++ rest := by
  have apart {start : String} (hstart : Apart (ofString start) (ofString "Generated on: ")) (more : Text) :
      ofString start ++ more ≠ ofString "Generated on: " ++ rest :=
    hstart.append_ne more rest
  cases h with
  | @fixed text htext =>
      have hfixed : ∀ text ∈ fixedRemarks, Apart (ofString text) (ofString "Generated on: ") := by
        decide +kernel
      rw [← List.append_nil (ofString text)]
      exact apart (hfixed text htext) []
  | complete | tables | table | role =>
      simp only [completeRemark, tablesRemark, List.append_assoc]
      exact apart (by decide) _
  | trigger => exact apart (by decide) _

theorem Remarks.not_isStampLine {text : Text} (h : g.Remarks text) :
    ∀ line ∈ Text.lines (Piece.remark text).text, isStampLine line = false := by
  intro line hline
  rw [lines_remark (h.unbroken hr hs), List.mem_singleton] at hline
  rw [hline]
  cases hstamp : isStampLine (ofString "-- " ++ text) with
  | false => rfl
  | true =>
      obtain ⟨rest, hrest⟩ := List.isPrefixOf_iff_prefix.mp hstamp
      have hsplit : ofString Piece.stampStart = ofString "-- " ++ ofString "Generated on: " := by
        rw [← Text.ofString_append]
        rfl
      rw [hsplit, List.append_assoc] at hrest
      exact absurd (List.append_cancel_left hrest).symm (h.ne_stamp rest)

/-! ## The body of the script -/

theorem not_isStampLine_of_inBody {p : Piece} (hp : g.InBody p)
    (hstatement : ∀ s, p = .statement s → g.Emits s) :
    ∀ line ∈ Text.lines p.text, isStampLine line = false := by
  cases p with
  | remark text => exact Remarks.not_isStampLine hr hs hp
  | stamp time => exact absurd hp id
  | blank =>
      intro line hline
      cases List.mem_singleton.mp hline
      rfl
  | statement s => exact (hstatement s rfl).not_isStampLine hr hs

/-- Nothing of a piece that may stand in the body is taken out with the stamps. -/
theorem unstampedLines_of_inBody {p : Piece} (hp : g.InBody p)
    (hstatement : ∀ s, p = .statement s → g.Emits s) : unstampedLines p.text = Text.lines p.text := by
  refine List.filter_eq_self.mpr fun line hline => ?_
  rw [not_isStampLine_of_inBody hr hs hp hstatement line hline]
  rfl

theorem unstampedLines_body {body : Script} (hbody : g.Body body)
    (hstatements : ∀ s ∈ body.statements, g.Emits s) :
    unstampedLines body.text = Text.lines body.text := by
  induction body with
  | nil => rfl
  | cons p body ih =>
      have hp : unstampedLines p.text = Text.lines p.text := by
        refine unstampedLines_of_inBody hr hs (hbody p List.mem_cons_self) fun s hs => ?_
        exact hstatements s (List.mem_filterMap.mpr ⟨p, List.mem_cons_self, hs ▸ rfl⟩)
      have hrest := ih (fun q hq => hbody q (List.mem_cons_of_mem _ hq)) fun s hs => by
        obtain ⟨q, hq, hsome⟩ := List.mem_filterMap.mp hs
        exact hstatements s (List.mem_filterMap.mpr ⟨q, List.mem_cons_of_mem _ hq, hsome⟩)
      rw [Script.unstampedLines_cons, hp, hrest, Script.lines_text, Script.lines_text, List.flatMap_cons]

/-- The second line and the fifth are the stamps, and no other line is taken out. -/
theorem lines_completeScriptAt {time tablesTime : Instant} {script : Script}
    (h : g.completeScriptAt time tablesTime = .ok script) :
    ∃ first third fourth rest,
      Text.lines script.text =
        first :: stampLine time :: third :: fourth :: stampLine tablesTime :: rest ∧
      unstampedLines script.text = first :: third :: fourth :: rest := by
  obtain ⟨p, hp, hstatements⟩ := exists_of_map_eq (g.statements_completeScriptAt time tablesTime) h
  obtain ⟨body, rfl, hbody⟩ := completeScriptAt_pieces h
  have hemits : ∀ s ∈ Script.statements body, g.Emits s := by
    intro s hs
    have hmem : s ∈ p.statements := hstatements ▸ hs
    exact emits_parts hp s hmem
  have remark {text : Text} (htext : g.Remarks text) :
      unstampedLines (Piece.remark text).text = [ofString "-- " ++ text] := by
    have hpiece : g.InBody (.remark text) := htext
    rw [unstampedLines_of_inBody hr hs hpiece (fun _ heq => Piece.noConfusion heq),
      lines_remark (htext.unbroken hr hs)]
  have blank : unstampedLines Piece.blank.text = [[]] := rfl
  refine ⟨ofString "-- " ++ completeRemark g.settings, [], ofString "-- " ++ tablesRemark g.settings,
    Text.lines (Script.text body), ?_, ?_⟩
  · rw [Script.lines_text]
    simp only [List.flatMap_cons, lines_stamp, ← Script.lines_text]
    rw [lines_remark (Remarks.unbroken hr hs .complete), lines_remark (Remarks.unbroken hr hs .tables)]
    rfl
  · simp only [Script.unstampedLines_cons, unstampedLines_stamp]
    rw [remark .complete, remark .tables, blank, unstampedLines_body hr hs hbody hemits]
    rfl

end Kinds

end Generator

/-! ## The clock shows in the stamps -/

/-- At any two times the scripts that hold stamps are the same without them, and the other scripts are the same, or
all of them end with the same fault.  Where nothing breaks a line, the second line and the fifth of the complete
script are taken out, and no other; and the complete script is given wherever the settings can be written.  Settings
with a half that a script needs cannot: they end in the fault of that half, at every time. -/
theorem clock_shows_in_stamps (g : Generator) :
    (∀ s s' : Session,
      (∀ part ∈ [ScriptPart.complete, .tables],
        ((part.generate g).outcome s).1.map (fun script => dropStamps script.text) =
          ((part.generate g).outcome s').1.map fun script => dropStamps script.text) ∧
      (∀ name : Text, ((g.tableText name).outcome s).1.map dropStamps =
        ((g.tableText name).outcome s').1.map dropStamps) ∧
      ∀ part ∈ [ScriptPart.foreignKeys, .triggers, .policies],
        ((part.generate g).outcome s).1 = ((part.generate g).outcome s').1) ∧
    (g.registry.Unbroken → g.settings.Unbroken →
      (∀ (s : Session) (script : Script), (g.completeScript.outcome s).1 = .ok script →
        ∃ first third fourth rest,
          Text.lines script.text = first :: stampLine s.clock.next :: third :: fourth ::
            stampLine s.clock.advance.next :: rest ∧
          dropStamps script.text = Text.joinLines (first :: third :: fourth :: rest)) ∧
      (g.settings.Writable → ∀ s : Session,
        ∃ script, (g.completeScript.outcome s).1 = .ok script)) := by
  constructor
  · intro s s'
    refine ⟨fun part _ => ?_, fun name => g.dropStamps_tableText name s s', fun part hpart => ?_⟩
    · exact Generator.dropStamps_eq_of_unstamped_eq (g.unstamped_generate part s s')
    · simp only [List.mem_cons, List.not_mem_nil, or_false] at hpart
      rcases hpart with rfl | rfl | rfl
      · exact (g.generateForeignKeysScript_gives s).1.trans (g.generateForeignKeysScript_gives s').1.symm
      · exact (Run.gives_liftExcept g.triggersScript s).1.trans
          (Run.gives_liftExcept g.triggersScript s').1.symm
      · exact (g.policiesScript_gives s).1.trans (g.policiesScript_gives s').1.symm
  · intro hr hs
    refine ⟨fun s script h => ?_, fun hwritable s => Generator.completeScript_ok hwritable s⟩
    rw [g.outcome_completeScript] at h
    obtain ⟨first, third, fourth, rest, hlines, hunstamped⟩ := Generator.lines_completeScriptAt hr hs h
    exact ⟨first, third, fourth, rest, hlines, congrArg Text.joinLines hunstamped⟩

/-- Settings that look like stamps wherever they can. -/
def Settings.lookalike : Settings where
  schemaLabel := .text "-- Generated on: Monday"
  backendLabel := .text "-- Generated on: "
  encryptedComment := .text "-- Generated on: Tuesday"
  authenticatedRole := .text "-- Generated on: Wednesday"

/-- A table with the name of a stamp. -/
def Table.lookalike : Table where
  name := "-- Generated on: Thursday"
  columns := [everywhere "-- Generated on: " .uuid, everywhere "-- Generated on: Friday" .text true]
  primaryKey := some "-- Generated on: "

/-- Names and settings that look like stamps stay where they are. -/
theorem lookalikes_stay :
    ∃ script first third fourth rest,
      ((Generator.completeScript ⟨⟨[.lookalike]⟩, .lookalike⟩).outcome default).1 = .ok script ∧
      Text.lines script.text = first :: stampLine (default : Session).clock.next :: third :: fourth ::
        stampLine (default : Session).clock.advance.next :: rest ∧
      dropStamps script.text = Text.joinLines (first :: third :: fourth :: rest) := by
  have hr : (⟨[.lookalike]⟩ : Registry).Unbroken := by decide +kernel
  have hs : Settings.lookalike.Unbroken :=
    ⟨⟨_, rfl, by decide⟩, ⟨_, rfl, by decide⟩, ⟨_, rfl, by decide⟩, ⟨_, rfl, by decide⟩,
      ⟨_, rfl, by decide⟩⟩
  have hwritable : Settings.lookalike.Writable :=
    ⟨⟨_, rfl, by decide⟩, ⟨_, rfl, by decide⟩, _, rfl⟩
  obtain ⟨stays, given⟩ := (clock_shows_in_stamps ⟨⟨[.lookalike]⟩, .lookalike⟩).2 hr hs
  obtain ⟨script, hscript⟩ := given hwritable default
  obtain ⟨first, third, fourth, rest, hlines, hstays⟩ := stays default script hscript
  exact ⟨script, first, third, fourth, rest, hscript, hlines, hstays⟩

end SchemaScript
