/-
# How a table is laid out

## What is proved

The statement that creates a table has one line for each column that is carried to the backend, in order, between the line
that opens the list and the line that closes it (`LaidOut`).  The marks of the primary key stand on the line of the key
and nowhere else, so they stand in the statement once, or not at all if there is no key; and the lines that end with the
mark of unique values, or have it before that of the key, are those of the columns whose values are unique.  Names are
identifiers here, which may be called like a mark, but not like two words of one.  After the creation come the comments on
the encrypted columns, and these can only fail for their text.

## How

A mark of the key consists of two words.  Where a text is put together around a blank, a mark stands in the first part, or
in the second one, or around the blank (`occurrences_append_words`); it does not stand around the blanks beside a name,
because neither what comes before a name ends with a first word nor any type begins with a second one.  There are 28 ways
to write a type with its marks, and these are looked through.  Around the ends of lines a mark cannot stand at all.
-/
import Mathlib.Algebra.GroupWithZero.Nat
import SchemaScript.Proofs.WholeTexts
import SchemaScript.Proofs.IndexNames
import SchemaScript.Proofs.Lines
import SchemaScript.Proofs.RelationalSchema
import SchemaScript.Proofs.Validation

namespace SchemaScript

open Sql (Statement Constant ColumnDef ColumnType)
open Text (ofString Unbroken)

/-! ## Places of a part in a list -/

section Occurrences

variable {α : Type} {part first second as bs : List α} {x : α}

theorem prefix_append_cons_iff (hx : x ∉ part) : part <+: as ++ x :: bs ↔ part <+: as := by
  constructor
  · rintro ⟨rest, h⟩
    rcases List.append_eq_append_iff.mp h with ⟨m, rfl, _⟩ | ⟨m, rfl, hrest⟩
    · exact List.prefix_append part m
    · cases m with
      | nil => exact ⟨[], by simp⟩
      | cons y m =>
          obtain ⟨rfl, _⟩ := List.cons.inj hrest
          exact absurd (List.mem_append_right as List.mem_cons_self) hx
  · exact fun h => h.trans (List.prefix_append as _)

theorem words_prefix_append_cons_iff (hfirst : x ∉ first) (hsecond : x ∉ second) :
    first ++ x :: second <+: as ++ x :: bs ↔ first ++ x :: second <+: as ∨ (first = as ∧ second <+: bs) := by
  constructor
  · rintro ⟨rest, h⟩
    rw [List.append_assoc, List.cons_append, append_cons_eq_append_cons_iff] at h
    rcases h with ⟨rfl, rfl⟩ | ⟨m, rfl, h⟩ | ⟨m, rfl, _⟩
    · exact .inr ⟨rfl, List.prefix_append second rest⟩
    · obtain ⟨m', rfl⟩ := (prefix_append_cons_iff hsecond).mp ⟨rest, h⟩
      exact .inl ⟨m', by simp⟩
    · exact absurd (List.mem_append_right as List.mem_cons_self) hfirst
  · rintro (h | ⟨rfl, h⟩)
    · exact h.trans (List.prefix_append as _)
    · exact (List.prefix_append_right_inj first).mpr ((List.prefix_cons_inj x).mpr h)

variable [DecidableEq α]

/-- The number of places where a part stands in a list. -/
def occurrences (part as : List α) : Nat := as.tails.countP fun rest => decide (part <+: rest)

theorem occurrences_nil (h : part ≠ []) : occurrences part [] = 0 := by
  simp [occurrences, h]

theorem occurrences_cons (a : α) :
    occurrences part (a :: as) = occurrences part as + if part <+: a :: as then 1 else 0 := by
  simp only [occurrences, List.tails_cons, List.countP_cons, decide_eq_true_eq]

theorem occurrences_of_not_mem (hx : x ∈ part) (h : x ∉ as) : occurrences part as = 0 := by
  refine List.countP_eq_zero.mpr fun rest hrest hpart => h ?_
  exact ((List.mem_tails ..).mp hrest).subset ((of_decide_eq_true hpart).subset hx)

/-- A part does not stand around an item that it does not have. -/
theorem occurrences_append_cons (hpart : part ≠ []) (hx : x ∉ part) :
    occurrences part (as ++ x :: bs) = occurrences part as + occurrences part bs := by
  induction as with
  | nil =>
      have hnot : ¬ part <+: x :: bs := by
        intro h
        have hnil : part <+: [] := (prefix_append_cons_iff hx).mp h
        exact hpart (List.prefix_nil.mp hnil)
      rw [List.nil_append, occurrences_cons, if_neg hnot, occurrences_nil hpart, Nat.zero_add]
      rfl
  | cons a as ih =>
      rw [List.cons_append, occurrences_cons, occurrences_cons, ih, ← List.cons_append]
      simp only [prefix_append_cons_iff hx]
      exact Nat.add_right_comm ..

/-- Two words with an item between them stand before such an item, or after it, or around it. -/
theorem occurrences_append_words (hfirst : x ∉ first) (hsecond : x ∉ second) :
    occurrences (first ++ x :: second) (as ++ x :: bs) =
      occurrences (first ++ x :: second) as + (if first <:+ as ∧ second <+: bs then 1 else 0) +
        occurrences (first ++ x :: second) bs := by
  induction as with
  | nil =>
      have hnil : ¬ first ++ x :: second <+: [] := by simp
      rw [occurrences_nil (by simp), Nat.zero_add, Nat.add_comm, List.nil_append, occurrences_cons,
        ← List.nil_append (x :: bs)]
      simp only [words_prefix_append_cons_iff hfirst hsecond, hnil, false_or, List.suffix_nil]
  | cons a as ih =>
      -- The words stand at the front in one of two ways, and then the first of them does not end what comes after.
      have hfront : first ++ x :: second <+: a :: as → first ≠ a :: as := by
        rintro ⟨rest, h⟩ rfl
        simp at h
      have hend : first <:+ as → first ≠ a :: as := by
        rintro ⟨rest, h⟩ rfl
        have hlength := congrArg List.length h
        rw [List.length_append, List.length_cons] at hlength
        omega
      rw [List.cons_append, occurrences_cons, occurrences_cons, ih, ← List.cons_append]
      simp only [words_prefix_append_cons_iff hfirst hsecond, List.suffix_cons_iff]
      grind

end Occurrences

/-! ## The line of a column -/

/-- The two words of the marks that a key has. -/
def keyWords : List (List Char × List Char) :=
  [("PRIMARY".toList, "KEY".toList), ("NOT".toList, "NULL".toList)]

/-- The line of a column in the statement that creates its table. -/
def columnLine (t : Table) (c : Column) : String :=
  "    " ++ c.name ++ " " ++ markedType (.ofTag c.typeTag) c.isUnique (t.isKey c)

/-- The characters of a type with its marks. -/
def markedChars (type : ColumnType) (isUnique isKey : Bool) : List Char :=
  type.sql.toList ++ (if isKey then " NOT NULL".toList else []) ++ (if isUnique then " UNIQUE".toList else []) ++
    if isKey then " PRIMARY KEY".toList else []

theorem toList_markedType (type : ColumnType) (isUnique isKey : Bool) :
    (markedType type isUnique isKey).toList = markedChars type isUnique isKey := by
  simp only [markedType, markedChars, String.toList_append]
  cases isUnique <;> cases isKey <;> rfl

section Line

variable {t : Table} {c : Column} {w : List Char × List Char}

theorem toList_columnLine (t : Table) (c : Column) : (columnLine t c).toList =
    ("    " ++ c.name).toList ++ ' ' :: markedChars (.ofTag c.typeTag) c.isUnique (t.isKey c) := by
  have hblank : " ".toList = [' '] := by decide
  rw [columnLine, String.toList_append, String.toList_append, toList_markedType, hblank, List.append_assoc,
    List.singleton_append]

theorem IsIdentifier.blankless {s : String} (h : IsIdentifier s) : ' ' ∉ s.toList :=
  fun hc => h.ne hc ' ' rfl rfl

theorem keyWords_lack (hw : w ∈ keyWords) : ∀ x ∈ [' ', ',', '\n'], x ∉ w.1 ∧ x ∉ w.2 := by
  rw [keyWords] at hw
  rcases List.mem_pair.mp hw with rfl | rfl <;> simp

theorem occurrences_markedChars (hw : w ∈ keyWords) (type : ColumnType) (isUnique isKey : Bool) :
    occurrences (w.1 ++ ' ' :: w.2) (markedChars type isUnique isKey) = if isKey then 1 else 0 := by
  have hall : ∀ w ∈ keyWords, ∀ m ∈ marks,
      occurrences (w.1 ++ ' ' :: w.2) (markedChars m.1 m.2.1 m.2.2) = if m.2.2 then 1 else 0 := by
    decide +kernel
  exact hall w hw (type, isUnique, isKey) (mem_marks type isUnique isKey)

theorem not_prefix_markedChars (hw : w ∈ keyWords) (type : ColumnType) (isUnique isKey : Bool) :
    ¬ w.2 <+: markedChars type isUnique isKey := by
  have hall : ∀ w ∈ keyWords, ∀ m ∈ marks, ¬ w.2 <+: markedChars m.1 m.2.1 m.2.2 := by decide +kernel
  exact hall w hw (type, isUnique, isKey) (mem_marks type isUnique isKey)

theorem occurrences_name {s : String} (hs : IsIdentifier s) :
    occurrences (w.1 ++ ' ' :: w.2) s.toList = 0 :=
  occurrences_of_not_mem (by simp) hs.blankless

/-- A mark of the key is on the line of the key, once. -/
theorem occurrences_columnLine (hw : w ∈ keyWords) (hc : IsIdentifier c.name) :
    occurrences (w.1 ++ ' ' :: w.2) (columnLine t c).toList = if t.isKey c then 1 else 0 := by
  obtain ⟨hfirst, hsecond⟩ := keyWords_lack hw ' ' List.mem_cons_self
  have hindent : ∀ w ∈ keyWords, occurrences (w.1 ++ ' ' :: w.2) "   ".toList = 0 ∧ ¬ w.1 <:+ "   ".toList := by
    decide
  obtain ⟨hnone, hnot⟩ := hindent w hw
  have hname : ("    " ++ c.name).toList = "   ".toList ++ ' ' :: c.name.toList := String.toList_append
  rw [toList_columnLine, occurrences_append_words hfirst hsecond, hname, occurrences_append_words hfirst hsecond,
    hnone, if_neg fun h => hnot h.1, occurrences_name hc, if_neg fun h => not_prefix_markedChars hw _ _ _ h.2,
    occurrences_markedChars hw, Nat.zero_add]

theorem suffix_append_iff {s as bs : List Char} (h : ¬ bs <:+ s) : s <:+ as ++ bs ↔ s <:+ bs := by
  constructor
  · intro hs
    exact (List.suffix_or_suffix_of_suffix hs (List.suffix_append as bs)).resolve_right h
  · exact fun hs => hs.trans (List.suffix_append as bs)

/-- The mark of unique values is at the end of a line or before that of the key exactly if the values are unique. -/
theorem unique_suffix_columnLine_iff :
    ("UNIQUE".toList <:+ (columnLine t c).toList ∨ "UNIQUE PRIMARY KEY".toList <:+ (columnLine t c).toList) ↔
      c.isUnique = true := by
  have hall : ∀ m ∈ marks,
      (¬ ' ' :: markedChars m.1 m.2.1 m.2.2 <:+ "UNIQUE".toList) ∧
      (¬ ' ' :: markedChars m.1 m.2.1 m.2.2 <:+ "UNIQUE PRIMARY KEY".toList) ∧
      (("UNIQUE".toList <:+ ' ' :: markedChars m.1 m.2.1 m.2.2 ∨
        "UNIQUE PRIMARY KEY".toList <:+ ' ' :: markedChars m.1 m.2.1 m.2.2) ↔ m.2.1 = true) := by
    decide +kernel
  obtain ⟨halone, hkey, hmark⟩ := hall _ (mem_marks (.ofTag c.typeTag) c.isUnique (t.isKey c))
  rw [toList_columnLine, suffix_append_iff halone, suffix_append_iff hkey, hmark]

end Line

/-! ## Lines that are put together -/

/-- Lines in a list: each but the last one has a comma after it. -/
def commaed : List String → List String
  | [] => []
  | [l] => [l]
  | l :: l' :: ls => (l ++ ",") :: commaed (l' :: ls)

theorem lines_intercalate {ls : List String} (hne : ls ≠ []) (hls : ∀ l ∈ ls, Unbroken l) (rest : Text) :
    Text.lines (ofString (",\n".intercalate ls) ++ .char '\n' :: rest) = (commaed ls).map ofString ++ Text.lines rest := by
  induction ls using commaed.induct with
  | case1 => exact absurd rfl hne
  | case2 l =>
      rw [String.intercalate_singleton, Text.lines_unbroken (hls l List.mem_cons_self)]
      rfl
  | case3 l l' ls ih =>
      obtain ⟨hl, hrest⟩ := List.forall_mem_cons.mp hls
      have hcut : ofString (",\n".intercalate (l :: l' :: ls)) ++ .char '\n' :: rest =
          ofString (l ++ ",") ++ .char '\n' :: (ofString (",\n".intercalate (l' :: ls)) ++ .char '\n' :: rest) := by
        rw [String.intercalate_cons_cons, Text.ofString_append, Text.ofString_append, Text.ofString_append]
        simp only [List.append_assoc]
        rfl
      have hcomma : Unbroken (ofString (l ++ ",")) := hl.appendString (by decide)
      rw [hcut, Text.lines_unbroken hcomma, ih (List.cons_ne_nil _ _) hrest]
      rfl

theorem occurrences_intercalate {part : List Char} (hpart : part ≠ []) (hcomma : ',' ∉ part) (hline : '\n' ∉ part)
    (ls : List String) :
    occurrences part (",\n".intercalate ls).toList = (ls.map fun l => occurrences part l.toList).sum := by
  induction ls using commaed.induct with
  | case1 => exact occurrences_nil hpart
  | case2 l => rw [String.intercalate_singleton, List.map_singleton, List.sum_singleton]
  | case3 l l' ls ih =>
      have hcut : (",\n".intercalate (l :: l' :: ls)).toList =
          l.toList ++ ',' :: ([] ++ '\n' :: (",\n".intercalate (l' :: ls)).toList) := by
        rw [String.intercalate_cons_cons]
        simp
      rw [hcut, occurrences_append_cons hpart hcomma, occurrences_append_cons hpart hline, occurrences_nil hpart, ih,
        Nat.zero_add]
      rfl

/-! ## The statement that creates a table -/

/-- The lines of the statement that creates a table, and where its marks stand. -/
structure LaidOut (t : Table) (text : String) : Prop where
  whole : text = "CREATE TABLE IF NOT EXISTS " ++ t.name ++ " (\n" ++
    ",\n".intercalate (t.relationalColumns.map (columnLine t)) ++ "\n)"
  lines : Text.lines text = (("CREATE TABLE IF NOT EXISTS " ++ t.name ++ " (") ::
    commaed (t.relationalColumns.map (columnLine t)) ++ [")"]).map ofString
  once : ∀ mark ∈ ["PRIMARY KEY", "NOT NULL"],
    occurrences mark.toList text.toList = if t.primaryKey.isSome then 1 else 0
  keyLine : ∀ mark ∈ ["PRIMARY KEY", "NOT NULL"], ∀ c ∈ t.relationalColumns,
    occurrences mark.toList (columnLine t c).toList = if t.primaryKey = some c.name then 1 else 0
  uniqueLine : ∀ c ∈ t.relationalColumns,
    ("UNIQUE".toList <:+ (columnLine t c).toList ∨ "UNIQUE PRIMARY KEY".toList <:+ (columnLine t c).toList) ↔
      c.isUnique = true

section Statement

variable {t : Table}

theorem IsIdentifier.unbroken {s : String} (h : IsIdentifier s) : Unbroken s := by
  intro p hp
  obtain ⟨c, hc, rfl⟩ := List.mem_map.mp hp
  have hends : ∀ c ∈ Text.lineEnds, ¬ (c.isAlphanum || c == '_') = true := by simp [Text.lineEnds]
  exact Text.not_isBreak_of_kind hends (List.all_eq_true.mp h.2 c hc)

theorem unbroken_markedType (type : ColumnType) (isUnique isKey : Bool) :
    Unbroken (markedType type isUnique isKey) := by
  have hall : ∀ m ∈ marks, Unbroken (Text.ofChars (markedChars m.1 m.2.1 m.2.2)) := by decide +kernel
  rw [ofString, toList_markedType]
  exact hall (type, isUnique, isKey) (mem_marks type isUnique isKey)

theorem unbroken_columnLine {c : Column} (hc : IsIdentifier c.name) : Unbroken (columnLine t c) :=
  ((Unbroken.appendString (by decide) hc.unbroken).appendString (by decide)).appendString (unbroken_markedType _ _ _)

theorem sum_map_ite {α : Type} (p : α → Bool) (as : List α) :
    (as.map fun a => if p a then 1 else 0).sum = as.countP p := by
  induction as with
  | nil => rfl
  | cons a as ih => rw [List.map_cons, List.sum_cons, ih, List.countP_cons, Nat.add_comm]

/-- If there is a key, it is one of the columns that are carried. -/
theorem countP_isKey (hne : t.relationalColumns ≠ []) :
    t.relationalColumns.countP t.isKey = if t.primaryKey.isSome then 1 else 0 := by
  cases hkey : t.primaryKey with
  | none =>
      refine List.countP_eq_zero.mpr fun c _ h => ?_
      rw [Table.isKey, hkey] at h
      cases h
  | some k =>
      have hcount := t.count_key hkey (t.isRelational_iff.mpr hne)
      rw [List.count, List.countP_map] at hcount
      refine Eq.trans (List.countP_congr fun c _ => ?_) hcount
      show t.isKey c = true ↔ (c.name == k) = true
      rw [Table.isKey, hkey, beq_iff_eq, beq_iff_eq, Option.some_inj, eq_comm]

theorem occurrences_header {w : List Char × List Char} (hw : w ∈ keyWords) (hname : IsIdentifier t.name) :
    occurrences (w.1 ++ ' ' :: w.2) ("CREATE TABLE IF NOT EXISTS " ++ t.name ++ " (").toList = 0 := by
  obtain ⟨hfirst, hsecond⟩ := keyWords_lack hw ' ' List.mem_cons_self
  have hall : ∀ w ∈ keyWords, occurrences (w.1 ++ ' ' :: w.2) "CREATE TABLE IF NOT EXISTS".toList = 0 ∧
      ¬ w.1 <:+ "CREATE TABLE IF NOT EXISTS".toList ∧ ¬ w.2 <+: ['('] := by
    decide +kernel
  obtain ⟨hnone, hbefore, hafter⟩ := hall w hw
  have hcut : ("CREATE TABLE IF NOT EXISTS " ++ t.name ++ " (").toList =
      "CREATE TABLE IF NOT EXISTS".toList ++ ' ' :: (t.name.toList ++ ' ' :: ['(']) := by
    have hopen : "CREATE TABLE IF NOT EXISTS ".toList = "CREATE TABLE IF NOT EXISTS".toList ++ [' '] := by decide
    rw [String.toList_append, String.toList_append, hopen, List.append_assoc, List.append_assoc]
    rfl
  rw [hcut, occurrences_append_words hfirst hsecond, occurrences_append_words hfirst hsecond, hnone,
    if_neg fun h => hbefore h.1, occurrences_name hname, if_neg fun h => hafter h.2,
    occurrences_of_not_mem (x := ' ') (by simp) (by decide)]

theorem sql_createTable (t : Table) : (Generator.createTable t).sql =
    "CREATE TABLE IF NOT EXISTS " ++ t.name ++ " (\n" ++
      ",\n".intercalate (t.relationalColumns.map (columnLine t)) ++ "\n)" := by
  have hlines : (t.relationalColumns.map (Generator.columnDef t)).map ColumnDef.sql =
      t.relationalColumns.map (columnLine t) := by
    rw [List.map_map]
    exact List.map_congr_left fun c _ => Generator.sql_columnDef t c
  rw [← hlines]
  rfl

variable (hname : IsIdentifier t.name) (hcolumns : ∀ c ∈ t.relationalColumns, IsIdentifier c.name)
  (hne : t.relationalColumns ≠ [])
include hname hcolumns hne

theorem occurrences_createTable {w : List Char × List Char} (hw : w ∈ keyWords) :
    occurrences (w.1 ++ ' ' :: w.2) (Generator.createTable t).sql.toList =
      if t.primaryKey.isSome then 1 else 0 := by
  have hpart : w.1 ++ ' ' :: w.2 ≠ [] := by simp
  have hlack {x : Char} (hx : x ∈ [',', '\n']) : x ∉ w.1 ++ ' ' :: w.2 := by
    obtain ⟨hfirst, hsecond⟩ := keyWords_lack hw x (List.mem_cons_of_mem _ hx)
    have hblank : x ≠ ' ' := by
      rintro rfl
      revert hx
      decide
    simp [hfirst, hsecond, hblank]
  have hcut : (Generator.createTable t).sql.toList =
      ("CREATE TABLE IF NOT EXISTS " ++ t.name ++ " (").toList ++
        '\n' :: ((",\n".intercalate (t.relationalColumns.map (columnLine t))).toList ++ '\n' :: [')']) := by
    have hopen : " (\n" = " (" ++ "\n" := by decide
    rw [sql_createTable, hopen]
    simp only [String.toList_append, List.append_assoc]
    rfl
  have hlines : ((t.relationalColumns.map (columnLine t)).map
      fun l => occurrences (w.1 ++ ' ' :: w.2) l.toList).sum = t.relationalColumns.countP t.isKey := by
    rw [List.map_map, ← sum_map_ite]
    exact congrArg List.sum (List.map_congr_left fun c hc => occurrences_columnLine hw (hcolumns c hc))
  rw [hcut, occurrences_append_cons hpart (hlack (by decide)), occurrences_append_cons hpart (hlack (by decide)),
    occurrences_header hw hname, occurrences_intercalate hpart (hlack (by decide)) (hlack (by decide)), hlines,
    occurrences_of_not_mem (x := ' ') (by simp) (by decide), countP_isKey hne, Nat.zero_add, Nat.add_zero]

theorem lines_createTable : Text.lines (Generator.createTable t).sql =
    (("CREATE TABLE IF NOT EXISTS " ++ t.name ++ " (") ::
      commaed (t.relationalColumns.map (columnLine t)) ++ [")"]).map ofString := by
  have hcut : ofString (Generator.createTable t).sql =
      ofString ("CREATE TABLE IF NOT EXISTS " ++ t.name ++ " (") ++ .char '\n' ::
        (ofString (",\n".intercalate (t.relationalColumns.map (columnLine t))) ++ .char '\n' :: ofString ")") := by
    rw [sql_createTable]
    have hopen : ofString " (\n" = ofString " (" ++ [.char '\n'] := rfl
    have hclose : ofString "\n)" = .char '\n' :: ofString ")" := rfl
    simp only [Text.ofString_append, hopen, hclose, List.append_assoc]
    rfl
  have hheader : Unbroken (ofString ("CREATE TABLE IF NOT EXISTS " ++ t.name ++ " (")) :=
    (Unbroken.appendString (by decide) hname.unbroken).appendString (by decide)
  have hunbroken : ∀ l ∈ t.relationalColumns.map (columnLine t), Unbroken l := by
    intro l hl
    obtain ⟨c, hc, rfl⟩ := List.mem_map.mp hl
    exact unbroken_columnLine (hcolumns c hc)
  rw [hcut, Text.lines_unbroken hheader, lines_intercalate (mt List.map_eq_nil_iff.mp hne) hunbroken]
  rw [List.map_append, List.map_cons]
  rfl

theorem laidOut_createTable : LaidOut t (Generator.createTable t).sql := by
  have hwords : ∀ mark ∈ ["PRIMARY KEY", "NOT NULL"], ∃ w ∈ keyWords, mark.toList = w.1 ++ ' ' :: w.2 := by decide
  refine ⟨sql_createTable t, lines_createTable hname hcolumns hne, fun mark hmark => ?_, fun mark hmark c hc => ?_,
    fun c _ => unique_suffix_columnLine_iff⟩
  · obtain ⟨w, hw, hsplit⟩ := hwords mark hmark
    rw [hsplit, occurrences_createTable hname hcolumns hne hw]
  · obtain ⟨w, hw, hsplit⟩ := hwords mark hmark
    rw [hsplit, occurrences_columnLine hw (hcolumns c hc)]
    simp [Table.isKey]

end Statement

/-! ## The statements of a table -/

/-- The statements of a table are none, or its creation, laid out in lines, and the comments on its encrypted columns, all
with one constant.  They fail only for the text of the comments, and only if there are any. -/
theorem created_table_has_a_line_per_column (g : Generator) (t : Table) (hname : IsIdentifier t.name)
    (hcolumns : ∀ c ∈ t.relationalColumns, IsIdentifier c.name) :
    (∀ ss, g.tableStatements t = .ok ss →
      (ss = [] ↔ t.relationalColumns = []) ∧
      (t.relationalColumns ≠ [] → ∃ create comments, ss = create :: comments ∧ LaidOut t create.sql ∧
        ∃ constant : Constant,
          (t.HasEncrypted → Constant.ofValue g.settings.encryptedComment = .ok constant) ∧
          comments.map Statement.sql = (t.relationalColumns.filter (·.encrypted)).map fun c =>
            "COMMENT ON COLUMN " ++ t.name ++ "." ++ c.name ++ " IS " ++ constant.sql)) ∧
    ∀ comment : Text, g.settings.encryptedComment = .text comment →
      ((∃ ss, g.tableStatements t = .ok ss) ↔ ¬ (t.HasEncrypted ∧ (comment.HasNul ∨ ¬ comment.Whole))) := by
  refine ⟨fun ss hss => ?_, fun comment hcomment => ?_⟩
  · have hlist := Generator.eq_commentsWith_of_tableStatements hss
    by_cases hne : t.relationalColumns = []
    · rw [hne, List.isEmpty_nil, if_pos rfl] at hlist
      exact ⟨iff_of_true hlist hne, fun h => absurd hne h⟩
    · rw [if_neg fun h => hne (List.isEmpty_iff.mp h)] at hlist
      subst hlist
      refine ⟨iff_of_false (List.cons_ne_nil _ _) hne, fun _ => ⟨_, _, rfl, laidOut_createTable hname hcolumns hne,
        Generator.commentConstant g.settings, fun hencrypted => ?_, ?_⟩⟩
      · cases hconstant : Constant.ofValue g.settings.encryptedComment with
        | ok constant => rw [Generator.commentConstant_eq hconstant]
        | error fault =>
            rw [Generator.tableStatements_eq_error_iff.mpr ⟨hconstant, hencrypted⟩] at hss
            cases hss
      · rw [Generator.commentsWith, List.map_map]
        rfl
  · rw [← not_iff_not, not_ok_iff, not_not, ← Constant.ofText_fails_iff]
    simp only [Generator.tableStatements_eq_error_iff, hcomment]
    constructor
    · rintro ⟨fault, hfails, hencrypted⟩
      exact ⟨hencrypted, fault, hfails⟩
    · rintro ⟨hencrypted, fault, hfails⟩
      exact ⟨fault, hfails, hencrypted⟩

/-- A table whose names are the marks of columns. -/
def Table.marked : Table where
  name := "KEY"
  columns := [everywhere "PRIMARY" .uuid false true, everywhere "UNIQUE" .text true, everywhere "NOT" .uuid]
  primaryKey := some "PRIMARY"

/-- Names that are marks do not count as such. -/
theorem marks_in_names_do_not_count :
    IsIdentifier "KEY" ∧ (∀ c ∈ Table.marked.relationalColumns, IsIdentifier c.name) ∧
      ∃ create comments, Generator.tableStatements ⟨⟨[.marked]⟩, {}⟩ .marked = .ok (create :: comments) ∧
        occurrences "PRIMARY KEY".toList create.sql.toList = 1 ∧ occurrences "NOT NULL".toList create.sql.toList = 1 ∧
        Text.lines create.sql = (["CREATE TABLE IF NOT EXISTS KEY (",
          "    PRIMARY UUID NOT NULL UNIQUE PRIMARY KEY,", "    UNIQUE TEXT,", "    NOT UUID", ")"]).map ofString ∧
        comments.map Statement.sql = ["COMMENT ON COLUMN KEY.UNIQUE IS 'This field is encrypted on the client'"] := by
  have hname : IsIdentifier "KEY" := by decide
  have hcolumns : ∀ c ∈ Table.marked.relationalColumns, IsIdentifier c.name := by decide
  obtain ⟨laid, given⟩ := created_table_has_a_line_per_column ⟨⟨[.marked]⟩, {}⟩ .marked hname hcolumns
  have hwritten : ¬ (Text.HasNul "This field is encrypted on the client" ∨
      ¬ Text.Whole "This field is encrypted on the client") := by decide
  obtain ⟨ss, hss⟩ := (given _ rfl).mpr fun h => hwritten h.2
  obtain ⟨create, comments, rfl, hlaid, constant, hconstant, hcomments⟩ := (laid ss hss).2 (by decide)
  cases hconstant (by decide)
  refine ⟨hname, hcolumns, create, comments, hss, hlaid.once _ (by decide), hlaid.once _ (by decide), ?_, ?_⟩
  · rw [hlaid.lines]
    decide +kernel
  · rw [hcomments]
    decide +kernel

/-- A text with a NUL is no comment, and so there are no statements. -/
theorem no_statements_for_unwritable_comment :
    IsIdentifier "KEY" ∧ (∀ c ∈ Table.marked.relationalColumns, IsIdentifier c.name) ∧
      Table.marked.relationalColumns ≠ [] ∧
      Generator.tableStatements ⟨⟨[.marked]⟩, { encryptedComment := .text "\x00" }⟩ .marked = .error .nulInText :=
  ⟨by decide, by decide, by decide, rfl⟩

end SchemaScript
