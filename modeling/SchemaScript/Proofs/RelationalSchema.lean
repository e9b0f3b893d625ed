/-
# What the script of the tables tells

## What is proved

The text of the script of the tables determines the relational schema: the tables that reach the backend, in order
and by name, and for each of them, in order, the carried columns with their types, whether they are unique, whether
they are the primary key, and whether the client encrypts them.  Names are identifiers here; the comment on
encrypted columns may be any text that can be written.

## How

Two equal texts are read from the front at the same time.  A name ends at a blank or a line break, at which no
identifier breaks off (`eq_of_append_stop`); a constant that both texts share is passed over as a whole, so it does
not matter what is in it; and wherever the text can go on in two ways, the two ways differ from the start
(`Apart`).  What is left after a type are the three marks, and there are only 28 ways to write a type with its marks.
That a column is encrypted is told by a comment that names the column, and no two columns share a name.
-/
import SchemaScript.Proofs.BackendView
import SchemaScript.Proofs.Reading
import SchemaScript.Proofs.Schema
import SchemaScript.Proofs.Transactions

namespace SchemaScript

open Sql (Statement ColumnDef ColumnType Constant)
open Text (ofString)

/-! ## Columns -/

/-- A type with its marks, as it stands after the name of a column. -/
def markedType (type : ColumnType) (isUnique isKey : Bool) : String :=
  type.sql ++ (if isKey then " NOT NULL" else "") ++ (if isUnique then " UNIQUE" else "") ++
    if isKey then " PRIMARY KEY" else ""

/-- All types, each with and without each mark. -/
def marks : List (ColumnType × Bool × Bool) :=
  [.text, .integer, .doublePrecision, .boolean, .timestamp, .uuid, .bytes].product
    ([false, true].product [false, true])

theorem mem_marks (type : ColumnType) (isUnique isKey : Bool) : (type, isUnique, isKey) ∈ marks := by
  cases type <;> cases isUnique <;> cases isKey <;> decide

theorem markedType_inj {type type' : ColumnType} {unique unique' key key' : Bool}
    (h : markedType type unique key = markedType type' unique' key') :
    type = type' ∧ unique = unique' ∧ key = key' := by
  have hnodup : (marks.map fun m => markedType m.1 m.2.1 m.2.2).Nodup := by decide +kernel
  have := List.inj_on_of_nodup_map hnodup (mem_marks type unique key) (mem_marks type' unique' key') h
  simpa using this

theorem lacks_markedType (type : ColumnType) (isUnique isKey : Bool) :
    Lacks [',', '\n'] (markedType type isUnique isKey) := by
  have htype : Lacks [',', '\n'] type.sql := by cases type <;> decide
  have mark {b : Bool} {s : String} (hs : Lacks [',', '\n'] s) :
      Lacks [',', '\n'] (if b then s else "") := by
    cases b with
    | true => exact hs
    | false => exact (by decide : Lacks [',', '\n'] "")
  exact ((htype.append (mark (by decide))).append (mark (by decide))).append (mark (by decide))

namespace Generator

section Lines

variable {t t' : Table} {c c' : Column}

theorem sql_columnDef (t : Table) (c : Column) : (columnDef t c).sql =
    "    " ++ c.name ++ " " ++ markedType (.ofTag c.typeTag) c.isUnique (t.isKey c) := by
  simp only [markedType, ← String.append_assoc]
  rfl

theorem lacks_columnDef (hc : IsIdentifier c.name) : Lacks [',', '\n'] (columnDef t c).sql := by
  rw [sql_columnDef]
  have hname : Lacks [',', '\n'] c.name := hc.lacks (by decide)
  exact ((Lacks.append (by decide) hname).append (by decide)).append (lacks_markedType _ _ _)

theorem columnDef_eq_of_sql_eq (hc : IsIdentifier c.name) (hc' : IsIdentifier c'.name)
    (h : (columnDef t c).sql = (columnDef t' c').sql) : columnDef t c = columnDef t' c' := by
  have htext : ofString c.name ++ (ofString " " ++
      ofString (markedType (.ofTag c.typeTag) c.isUnique (t.isKey c))) =
      ofString c'.name ++ (ofString " " ++
        ofString (markedType (.ofTag c'.typeTag) c'.isUnique (t'.isKey c'))) := by
    rw [sql_columnDef, sql_columnDef, ← Text.ofString_inj] at h
    simpa only [Text.ofString_append, List.append_assoc, List.append_cancel_left_eq] using h
  obtain ⟨hname, hrest⟩ := eq_of_append_stop [' '] (hc.lacks (by decide))
    (hc'.lacks (by decide)) (stopsAt_append (by decide) _) (stopsAt_append (by decide) _) htext
  obtain ⟨htype, hunique, hkey⟩ := markedType_inj
    (Text.ofString_inj.mp (List.append_cancel_left hrest))
  simp only [columnDef]
  rw [hname, htype, hunique, hkey]

theorem map_columnDef_eq {cs cs' : List Column} (hcs : ∀ c ∈ cs, IsIdentifier c.name)
    (hcs' : ∀ c ∈ cs', IsIdentifier c.name)
    (h : (cs.map (columnDef t)).map ColumnDef.sql = (cs'.map (columnDef t')).map ColumnDef.sql) :
    cs.map (columnDef t) = cs'.map (columnDef t') := by
  induction cs generalizing cs' with
  | nil =>
      cases cs' with
      | nil => rfl
      | cons c' cs' => cases h
  | cons c cs ih =>
      cases cs' with
      | nil => cases h
      | cons c' cs' =>
          obtain ⟨hhead, htail⟩ := List.cons_eq_cons.mp h
          obtain ⟨hc, hrest⟩ := List.forall_mem_cons.mp hcs
          obtain ⟨hc', hrest'⟩ := List.forall_mem_cons.mp hcs'
          rw [List.map_cons, List.map_cons, columnDef_eq_of_sql_eq hc hc' hhead,
            ih hrest hrest' htail]

end Lines

/-! ### Lists of columns -/

theorem ofString_intercalate_cons (between l : String) (ls : List String) :
    ofString (between.intercalate (l :: ls)) =
      ofString l ++ ls.flatMap fun m => ofString between ++ ofString m := by
  induction ls generalizing l with
  | nil =>
      rw [String.intercalate_singleton]
      exact (List.append_nil _).symm
  | cons m ls ih =>
      rw [String.intercalate_cons_cons, Text.ofString_append, Text.ofString_append, ih,
        List.flatMap_cons, List.append_assoc, List.append_assoc]

/-- After a line comes either a comma and another line, or the end of the list. -/
theorem readable_lines : Readable (fun l => ofString ",\n" ++ ofString l) id (Lacks [',', '\n'])
    (StopsAt [',', '\n']) (ofString "\n)") where
  read := by
    intro l l' hl hl' r r' hr hr' h
    rw [List.append_assoc, List.append_assoc] at h
    exact eq_of_append_stop _ hl hl' hr hr' (List.append_cancel_left h)
  ne_ending := by
    intro l _ r r'
    have happart : Apart (ofString ",\n") (ofString "\n)") := by decide
    rw [List.append_assoc]
    exact happart.append_ne _ _
  follow_item _ r := by
    rw [List.append_assoc]
    exact stopsAt_append (by decide) _
  follow_ending r := stopsAt_append (by decide) r

theorem read_lines {ls ls' : List String} (hne : ls ≠ []) (hne' : ls' ≠ [])
    (hls : ∀ l ∈ ls, Lacks [',', '\n'] l) (hls' : ∀ l ∈ ls', Lacks [',', '\n'] l) {r r' : Text}
    (h : ofString (",\n".intercalate ls) ++ (ofString "\n)" ++ r) =
      ofString (",\n".intercalate ls') ++ (ofString "\n)" ++ r')) : ls = ls' ∧ r = r' := by
  obtain ⟨l, ls, rfl⟩ := List.exists_cons_of_ne_nil hne
  obtain ⟨l', ls', rfl⟩ := List.exists_cons_of_ne_nil hne'
  obtain ⟨hl, hrests⟩ := List.forall_mem_cons.mp hls
  obtain ⟨hl', hrests'⟩ := List.forall_mem_cons.mp hls'
  rw [ofString_intercalate_cons, ofString_intercalate_cons, List.append_assoc, List.append_assoc] at h
  obtain ⟨rfl, hrest⟩ := eq_of_append_stop _ hl hl' (readable_lines.follow_items hrests r)
    (readable_lines.follow_items hrests' r') h
  obtain ⟨htail, hr⟩ := readable_lines.map_eq hrests hrests' hrest
  rw [List.map_id, List.map_id] at htail
  exact ⟨by rw [htail], hr⟩

/-! ## What is told of a table -/

end Generator

/-- What the script tells of a table: its name, and its carried columns, each with whether it is the key. -/
structure RelationalTable where
  name : String
  columns : List (BackendColumn × Bool)
deriving DecidableEq, Repr

def Table.relational (t : Table) : RelationalTable where
  name := t.name
  columns := t.relationalColumns.map fun c => (c.backend, t.isKey c)

/-- What the script tells of all tables that reach the backend, in order. -/
def Registry.relational (r : Registry) : List RelationalTable := r.carried.map Table.relational

/-- The table reaches the backend, with identifiers for names. -/
structure Table.IsLegible (t : Table) : Prop where
  name : IsIdentifier t.name
  column : ∀ c ∈ t.relationalColumns, IsIdentifier c.name
  carried : t.relationalColumns ≠ []

/-- A table told by its creation and by the names of the columns that are commented on. -/
def RelationalTable.told (name : String) (columns : List ColumnDef) (commented : List String) :
    RelationalTable where
  name := name
  columns := columns.map fun c => (⟨c.name, c.sqlType, c.unique, decide (c.name ∈ commented)⟩, c.primaryKey)

namespace Generator

/-- Column names being distinct, the comments tell which columns are encrypted. -/
theorem relational_eq_told (t : Table) :
    t.relational = .told t.name (columnDefs t) ((encryptedColumns t).map (·.name)) := by
  simp only [Table.relational, RelationalTable.told, columnDefs, List.map_map]
  refine congrArg _ (List.map_congr_left fun c hc => ?_)
  have hencrypted : c.encrypted = decide (c.name ∈ (encryptedColumns t).map (·.name)) := by
    rw [Bool.eq_iff_iff, decide_eq_true_eq, List.mem_map]
    constructor
    · intro h
      exact ⟨c, List.mem_filter.mpr ⟨hc, h⟩, rfl⟩
    · rintro ⟨c', hc', hname⟩
      obtain ⟨hmem, h⟩ := List.mem_filter.mp hc'
      rw [Table.mem_relationalColumns] at hc hmem
      rw [← Table.column_eq_of_name_eq hmem.1 hc.1 hname]
      exact h
  simp only [Column.backend, Function.comp_apply, columnDef]
  rw [hencrypted]
  rfl

section Read

variable {t t' : Table} (ht : t.IsLegible) (ht' : t'.IsLegible) {r r' : Text}
include ht ht'

theorem read_createTable
    (h : ofString (createTable t).sql ++ r = ofString (createTable t').sql ++ r') :
    t.name = t'.name ∧ columnDefs t = columnDefs t' ∧ r = r' := by
  have hsql (t : Table) (r : Text) : ofString (createTable t).sql ++ r =
      ofString "CREATE TABLE IF NOT EXISTS " ++ (ofString t.name ++ (ofString " (\n" ++
        (ofString (",\n".intercalate ((columnDefs t).map ColumnDef.sql)) ++ (ofString "\n)" ++ r)))) := by
    show ofString ("CREATE TABLE IF NOT EXISTS " ++ t.name ++ " (\n" ++
      ",\n".intercalate ((columnDefs t).map ColumnDef.sql) ++ "\n)") ++ r = _
    simp only [Text.ofString_append, List.append_assoc]
  have hne {t : Table} (ht : t.IsLegible) : (columnDefs t).map ColumnDef.sql ≠ [] := by
    intro hnil
    rw [List.map_eq_nil_iff, columnDefs, List.map_eq_nil_iff] at hnil
    exact ht.carried hnil
  have hlines {t : Table} (ht : t.IsLegible) :
      ∀ l ∈ (columnDefs t).map ColumnDef.sql, Lacks [',', '\n'] l := by
    intro l hl
    obtain ⟨d, hd, rfl⟩ := List.mem_map.mp hl
    obtain ⟨c, hc, rfl⟩ := List.mem_map.mp hd
    exact lacks_columnDef (ht.column c hc)
  rw [hsql, hsql] at h
  obtain ⟨hname, h⟩ := eq_of_append_stop [' '] (ht.name.lacks (by decide))
    (ht'.name.lacks (by decide)) (stopsAt_append (by decide) _) (stopsAt_append (by decide) _)
    (List.append_cancel_left h)
  obtain ⟨hcolumns, hr⟩ := read_lines (hne ht) (hne ht') (hlines ht) (hlines ht')
    (List.append_cancel_left h)
  exact ⟨hname, map_columnDef_eq ht.column ht'.column hcolumns, hr⟩

end Read

/-! ## Comments -/

/-- The comments on the encrypted columns of a table, all with one constant. -/
def commentsWith (constant : Constant) (t : Table) : List Statement :=
  (encryptedColumns t).map fun c => .comment t.name c.name constant

/-- The part of the script of a table that comes after its creation. -/
def commentScript (constant : Constant) (t : Table) : Script :=
  if (commentsWith constant t).isEmpty then []
  else .remark "Fields marked as encrypted in the client application" ::
    Script.ofStatements (commentsWith constant t) ++ [.blank]

theorem text_commentScript_of_none {constant : Constant} {t : Table} (h : encryptedColumns t = []) :
    (commentScript constant t).text = [] := by
  have hempty : (commentsWith constant t).isEmpty = true := by
    rw [commentsWith, h]
    rfl
  rw [commentScript, if_pos hempty]
  rfl

theorem text_commentScript_of_some {constant : Constant} {t : Table} (h : encryptedColumns t ≠ [])
    (r : Text) : (commentScript constant t).text ++ r =
      ofString "-- " ++ (ofString "Fields marked as encrypted in the client application" ++
        (ofString "\n" ++ ((encryptedColumns t).flatMap
          (fun c => (Piece.statement (.comment t.name c.name constant)).text) ++
          (ofString "\n" ++ r)))) := by
  have hempty : ¬ (commentsWith constant t).isEmpty = true := by
    rw [List.isEmpty_iff, commentsWith, List.map_eq_nil_iff]
    exact h
  have hcomments : (Script.ofStatements (commentsWith constant t)).text =
      (encryptedColumns t).flatMap
        fun c => (Piece.statement (.comment t.name c.name constant)).text := by
    rw [Script.text, Script.ofStatements, commentsWith, List.map_map, List.flatMap_map]
    rfl
  rw [commentScript, if_neg hempty]
  simp only [List.cons_append, Script.text_cons, Script.text_append, Script.text_nil, hcomments,
    Piece.text, List.append_assoc, List.nil_append]

/-- A comment says which column it is on before the constant comes. -/
theorem readable_comments (name : String) (constant : Constant) :
    Readable (fun c : Column => (Piece.statement (.comment name c.name constant)).text) (·.name)
      (fun c => IsIdentifier c.name) (fun _ => True) (ofString "\n") := by
  have htext (c : Column) (r : Text) :
      (Piece.statement (.comment name c.name constant)).text ++ r =
        ofString "COMMENT ON COLUMN " ++ (ofString name ++ (ofString "." ++ (ofString c.name ++
          (ofString " IS " ++ (ofString constant.sql ++ (ofString ";\n" ++ r)))))) := by
    show ofString ("COMMENT ON COLUMN " ++ name ++ "." ++ c.name ++ " IS " ++ constant.sql) ++
      ofString ";\n" ++ r = _
    simp only [Text.ofString_append, List.append_assoc]
  constructor
  case read =>
    intro c c' hc hc' r r' _ _ h
    rw [htext, htext] at h
    simp only [List.append_cancel_left_eq] at h
    obtain ⟨hname, h⟩ := eq_of_append_stop [' '] (hc.lacks (by decide))
      (hc'.lacks (by decide)) (stopsAt_append (by decide) _) (stopsAt_append (by decide) _) h
    simp only [List.append_cancel_left_eq] at h
    exact ⟨hname, h⟩
  case ne_ending =>
    intro c _ r r'
    have happart : Apart (ofString "COMMENT ON COLUMN ") (ofString "\n") := by decide
    rw [htext]
    exact happart.append_ne _ _
  case follow_item => exact fun _ _ => trivial
  case follow_ending => exact fun _ => trivial

/-- What comes after the script of a table: the script of another one, or the indexes. -/
def GoesOn (r : Text) : Prop := ∃ rest, r = ofString "-- " ++ (ofString "Create " ++ rest)

section Read

variable {t t' : Table} (ht : t.IsLegible) (ht' : t'.IsLegible) {r r' : Text}
include ht ht'

theorem read_commentScript (constant : Constant) (hname : t.name = t'.name) (hr : GoesOn r)
    (hr' : GoesOn r')
    (h : (commentScript constant t).text ++ r = (commentScript constant t').text ++ r') :
    (encryptedColumns t).map (·.name) = (encryptedColumns t').map (·.name) ∧ r = r' := by
  have happart : Apart (ofString "Fields marked as encrypted in the client application")
    (ofString "Create ") := by decide
  have hidentifier {t : Table} (ht : t.IsLegible) : ∀ c ∈ encryptedColumns t, IsIdentifier c.name :=
    fun c hc => ht.column c (List.mem_filter.mp hc).1
  -- Without encrypted columns the next remark comes at once, and it does not start like the one before comments.
  cases hcolumns : encryptedColumns t with
  | nil =>
      rw [text_commentScript_of_none hcolumns] at h
      cases hcolumns' : encryptedColumns t' with
      | nil =>
          rw [text_commentScript_of_none hcolumns'] at h
          exact ⟨rfl, h⟩
      | cons c' cs' =>
          obtain ⟨rest, rfl⟩ := hr
          rw [text_commentScript_of_some (hcolumns' ▸ List.cons_ne_nil c' cs'), List.nil_append] at h
          exact absurd (List.append_cancel_left h).symm (happart.append_ne _ _)
  | cons c cs =>
      rw [text_commentScript_of_some (hcolumns ▸ List.cons_ne_nil c cs)] at h
      cases hcolumns' : encryptedColumns t' with
      | nil =>
          obtain ⟨rest, rfl⟩ := hr'
          rw [text_commentScript_of_none hcolumns', List.nil_append] at h
          exact absurd (List.append_cancel_left h) (happart.append_ne _ _)
      | cons c' cs' =>
          rw [text_commentScript_of_some (hcolumns' ▸ List.cons_ne_nil c' cs'), ← hname] at h
          rw [← hcolumns, ← hcolumns']
          simp only [List.append_cancel_left_eq] at h
          exact (readable_comments t.name constant).map_eq (hidentifier ht) (hidentifier ht') h

end Read

/-! ## Tables -/

/-- The script of a table that reaches the backend, with the constant that its comments set. -/
def legibleScript (constant : Constant) (t : Table) : Script :=
  tableScript t (createTable t :: commentsWith constant t)

theorem text_legibleScript (constant : Constant) (t : Table) (r : Text) :
    (legibleScript constant t).text ++ r =
      ofString "-- " ++ (ofString "Create " ++ (ofString "table " ++ (ofString t.name ++
        (ofString " if it doesn't exist" ++ (ofString "\n" ++ (ofString (createTable t).sql ++
          (ofString ";\n" ++ (ofString "\n" ++ ((commentScript constant t).text ++ r))))))))) := by
  have hstart : ofString "Create table " = ofString "Create " ++ ofString "table " := by
    rw [← Text.ofString_append]
    rfl
  show Script.text ([.remark ("Create table " ++ t.name ++ " if it doesn't exist"),
    .statement (createTable t), .blank] ++ commentScript constant t) ++ r = _
  simp only [Script.text_append, Script.text_cons, Script.text_nil, Piece.text, hstart,
    List.append_assoc, List.nil_append]

/-- The remark before the indexes, which ends the scripts of the tables. -/
def indexRemark : Text := ofString "-- " ++ (ofString "Create " ++ ofString "indexes ")

theorem readable_tables (constant : Constant) :
    Readable (fun t => (legibleScript constant t).text) Table.relational Table.IsLegible GoesOn
      indexRemark := by
  constructor
  case read =>
    intro t t' ht ht' r r' hr hr' h
    rw [text_legibleScript, text_legibleScript] at h
    simp only [List.append_cancel_left_eq] at h
    obtain ⟨hname, h⟩ := eq_of_append_stop [' '] (ht.name.lacks (by decide))
      (ht'.name.lacks (by decide)) (stopsAt_append (by decide) _) (stopsAt_append (by decide) _) h
    simp only [List.append_cancel_left_eq] at h
    obtain ⟨_, hcolumns, h⟩ := read_createTable ht ht' h
    simp only [List.append_cancel_left_eq] at h
    obtain ⟨hcommented, hrest⟩ := read_commentScript ht ht' constant hname hr hr' h
    exact ⟨by rw [relational_eq_told, relational_eq_told, hname, hcolumns, hcommented], hrest⟩
  case ne_ending =>
    intro t _ r r' h
    have happart : Apart (ofString "table ") (ofString "indexes ") := by decide
    rw [text_legibleScript, indexRemark] at h
    simp only [List.append_assoc, List.append_cancel_left_eq] at h
    exact happart.append_ne _ _ h
  case follow_item =>
    intro t _ r
    exact ⟨_, text_legibleScript constant t r⟩
  case follow_ending =>
    intro r
    refine ⟨ofString "indexes " ++ r, ?_⟩
    simp only [indexRemark, List.append_assoc]

/-! ## The script of all tables -/

theorem eq_commentsWith_of_tableStatements {g : Generator} {t : Table} {ss : List Statement}
    (h : g.tableStatements t = .ok ss) :
    ss = if t.relationalColumns.isEmpty then []
      else createTable t :: commentsWith (commentConstant g.settings) t := by
  simp only [tableStatements] at h
  split at h
  next hempty =>
    cases h
    rw [if_pos hempty]
  next hempty =>
    obtain ⟨comments, hcomments, hss⟩ := bind_eq_ok_iff.mp h
    cases hss
    have hlist : comments.map id = commentsWith (commentConstant g.settings) t := by
      refine map_eq_of_mapM_eq_ok (fun c _ s hs => ?_) hcomments
      obtain ⟨constant, hconstant, hs⟩ := bind_eq_ok_iff.mp hs
      cases hs
      rw [commentConstant_eq hconstant]
      rfl
    rw [List.map_id] at hlist
    rw [if_neg hempty, hlist]

theorem scriptOf_eq_ok {g : Generator} {t : Table} {script : Script} (h : g.scriptOf t = .ok script) :
    script = if t.relationalColumns.isEmpty then []
      else legibleScript (commentConstant g.settings) t := by
  obtain ⟨ss, hss, hscript⟩ := bind_eq_ok_iff.mp h
  cases hscript
  rw [eq_commentsWith_of_tableStatements hss]
  split
  · rfl
  · rfl

/-- How the script of the tables starts, whatever the tables are. -/
def tablesHeader (σ : Settings) (time : Instant) : Script :=
  [.remark (tablesRemark σ), .stamp time, .blank, .statement .begin, .blank]

theorem text_tablesScriptAt {g : Generator} {time : Instant} {script : Script}
    (h : g.tablesScriptAt time .null g.registry.tables = .ok script) :
    ∃ rest, script.text = (tablesHeader g.settings time).text ++
      (g.registry.carried.flatMap (fun t => (legibleScript (commentConstant g.settings) t).text) ++
        (indexRemark ++ rest)) := by
  obtain ⟨parts, hparts, hscript⟩ := bind_eq_ok_iff.mp h
  cases hscript
  have hlist : parts.map Script.text = g.registry.tables.map fun t =>
      if t.relationalColumns.isEmpty then []
      else (legibleScript (commentConstant g.settings) t).text := by
    refine map_eq_of_mapM_eq_ok (fun t _ part hpart => ?_) hparts
    rw [scriptOf_eq_ok hpart]
    split <;> rfl
  have htables : Script.text parts.flatten = g.registry.carried.flatMap fun t =>
      (legibleScript (commentConstant g.settings) t).text := by
    rw [Registry.flatMap_carried, List.flatMap_def, ← hlist, Script.text_flatten, List.flatMap_def]
  have hremark : ofString "Create indexes for better query performance" =
      ofString "Create " ++ (ofString "indexes " ++ ofString "for better query performance") := by
    rw [← Text.ofString_append, ← Text.ofString_append]
    rfl
  refine ⟨ofString "for better query performance" ++ (ofString "\n" ++
    Script.text (g.registry.tables.flatMap indexScript ++ [.statement .commit])), ?_⟩
  show Script.text (tablesHeader g.settings time ++ parts.flatten ++
    [.remark "Create indexes for better query performance"] ++
    g.registry.tables.flatMap indexScript ++ [.statement .commit]) = _
  simp only [Script.text_append, htables, indexRemark, List.append_assoc]
  simp only [Script.text_cons, Script.text_nil, Piece.text, hremark, List.append_assoc,
    List.nil_append]

end Generator

/-- Registries whose scripts of the tables have the same text tell the same of the same tables; and there is such a
script wherever the comment can be written. -/
theorem tables_script_tells_relational_schema (σ : Settings) {r r' : Registry}
    (hr : r.HasIdentifiers) (hr' : r'.HasIdentifiers) {s s' : Session} (hclock : s.clock = s'.clock) :
    (∀ script script' : Script,
      ((Generator.tablesScript ⟨r, σ⟩).outcome s).1 = .ok script →
      ((Generator.tablesScript ⟨r', σ⟩).outcome s').1 = .ok script' →
      script.text = script'.text → r.relational = r'.relational) ∧
    (σ.encryptedComment.IsNulFree →
      (∃ script, ((Generator.tablesScript ⟨r, σ⟩).outcome s).1 = .ok script) ∧
      ∃ script', ((Generator.tablesScript ⟨r', σ⟩).outcome s').1 = .ok script') := by
  constructor
  · intro script script' h h' htext
    rw [(Generator.outcome_tablesScript _ s).1] at h
    rw [(Generator.outcome_tablesScript _ s').1, ← hclock] at h'
    obtain ⟨rest, hscript⟩ := Generator.text_tablesScriptAt h
    obtain ⟨rest', hscript'⟩ := Generator.text_tablesScriptAt h'
    rw [hscript, hscript'] at htext
    have legible {r : Registry} (hr : r.HasIdentifiers) : ∀ t ∈ r.carried, t.IsLegible := by
      intro t ht
      obtain ⟨hmem, hrelational⟩ := List.mem_filter.mp ht
      exact ⟨hr.table hmem, fun c hc => hr.column hmem hc, t.isRelational_iff.mp hrelational⟩
    exact ((Generator.readable_tables (Generator.commentConstant σ)).map_eq (legible hr) (legible hr')
      (List.append_cancel_left htext)).1
  · intro hcomment
    exact ⟨Generator.tablesScript_ok hcomment s, Generator.tablesScript_ok hcomment s'⟩

/-- The projects are told without their logo, under a comment that looks like the end of a table. -/
theorem logo_is_not_told :
    ∃ (σ : Settings) (script : Script),
      σ.encryptedComment = .text "\n);\n\n-- Create table x" ∧
      ((Generator.tablesScript ⟨⟨[.projects]⟩, σ⟩).outcome default).1 = .ok script ∧
      ((Generator.tablesScript ⟨⟨[.projectsWithoutLogo]⟩, σ⟩).outcome default).1 = .ok script ∧
      (⟨[.projects]⟩ : Registry).relational = (⟨[.projectsWithoutLogo]⟩ : Registry).relational := by
  let σ : Settings := { encryptedComment := .text "\n);\n\n-- Create table x" }
  have hr : (⟨[.projects]⟩ : Registry).HasIdentifiers := by decide
  have hr' : (⟨[.projectsWithoutLogo]⟩ : Registry).HasIdentifiers := by decide
  have hbackend : [Table.projects].map Table.backend = [Table.projectsWithoutLogo].map Table.backend := by
    decide +kernel
  have hscripts : Generator.tablesScript ⟨⟨[.projects]⟩, σ⟩ =
      Generator.tablesScript ⟨⟨[.projectsWithoutLogo]⟩, σ⟩ :=
    Generator.generateTables_eq rfl _ hbackend
  obtain ⟨tells, given⟩ := tables_script_tells_relational_schema σ hr hr' (s := default) rfl
  obtain ⟨⟨script, h⟩, _⟩ := given ⟨_, rfl, by decide⟩
  have h' : ((Generator.tablesScript ⟨⟨[.projectsWithoutLogo]⟩, σ⟩).outcome default).1 = .ok script := by
    rw [← hscripts]
    exact h
  exact ⟨σ, script, rfl, h, h', tells script script h h' rfl⟩

end SchemaScript
