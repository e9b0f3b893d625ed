/-
# The first definition of a name

## What is proved

A registry takes tables of one name and looks at the first of them alone.  When it is made, it warns of each table whose
name an earlier one has, in order, and then tells how many tables there are.  Without these later tables
(`Registry.firsts`) it answers every question about tables and columns in the same way, known names and unknown ones
alike; there is one warning for each table that is left out.

## How

`later` and `firsts` go by the places of the tables: whether a name stands before a place.  The warnings come from a loop
that collects the names it has seen, so the two are brought together by induction from the end of the list, where one more
table adds the same to both.  All questions ask first for the table of a name, so it is enough to see that the first
table of a name stays the first one (`IsFirst.firsts`).
-/
import Mathlib.Data.List.Induction
import SchemaScript.Proofs.Lookup
import SchemaScript.Proofs.Records
import SchemaScript.Proofs.References

namespace SchemaScript

open Text (ofString)

/-! ## Records that are kept -/

namespace Log.Journal

/-- The record of a message that comes without data. -/
def plainRecord (j : Journal) (level : Int) (logger message : Text) : Record where
  time := j.time
  level := .int level
  logger := .text logger
  message := message
  context := j.context

/-- Whether the journal keeps a record of a logger. -/
def isKept (j : Journal) (logger : Text) (record : Record) : Bool := record.level.number?.any (j.keeps logger)

theorem write_eq_add_filter (j : Journal) (level : Int) (logger message : Text) :
    j.write (.int level) logger message none = j.add ([j.plainRecord level logger message].filter (j.isKept logger)) := by
  by_cases hkept : j.isKept logger (j.plainRecord level logger message) = true
  · rw [List.filter_cons_of_pos hkept]
    exact if_pos hkept
  · rw [List.filter_cons_of_neg hkept, List.filter_nil, add_nil]
    exact if_neg hkept

/-- Messages of one level and one logger, one after another. -/
theorem foldl_write_eq_add_filter {α : Type} (j : Journal) (level : Int) (logger : Text) (message : α → Text)
    (as : List α) :
    as.foldl (fun j a => j.write (.int level) logger (message a) none) j =
      j.add ((as.map fun a => j.plainRecord level logger (message a)).filter (j.isKept logger)) := by
  induction as generalizing j with
  | nil => exact (add_nil j).symm
  | cons a as ih =>
      rw [List.foldl_cons, ih, write_eq_add_filter]
      -- Records that are added change neither the time nor which records are kept.
      show (j.add _).add ((as.map fun a => j.plainRecord level logger (message a)).filter (j.isKept logger)) = _
      rw [add_add, ← List.filter_append]
      rfl

theorem KeepsDetails.isKept {j : Journal} (h : j.KeepsDetails) {level : Int} (hlevel : Level.debug ≤ level)
    (logger message : Text) : j.isKept logger (j.plainRecord level logger message) = true := by
  have hpositive : 0 < level := Int.lt_of_lt_of_le (by decide) hlevel
  simp [Journal.isKept, plainRecord, Value.number?, keeps, Number.isPositive, Number.reaches,
    thresholdOf_of_limits_nil h.limits, h.threshold, hpositive, hlevel]

end Log.Journal

namespace Registry

/-! ## Later definitions -/

/-- The tables whose name an earlier table has, in order. -/
def later (r : Registry) : List Table :=
  (r.tables.zipIdx.filter fun p => p.1.name ∈ r.names.take p.2).map Prod.fst

/-- The registry without the tables whose name an earlier table has. -/
def firsts (r : Registry) : Registry :=
  ⟨(r.tables.zipIdx.filter fun p => p.1.name ∉ r.names.take p.2).map Prod.fst⟩

variable {r : Registry}

/-- A table more is a later one exactly if its name is there already; the others stay what they are. -/
theorem later_concat (ts : List Table) (t : Table) :
    (⟨ts ++ [t]⟩ : Registry).later = (⟨ts⟩ : Registry).later ++ if t.name ∈ ts.map (·.name) then [t] else [] := by
  have hnames (n : Nat) (hn : n ≤ ts.length) :
      (⟨ts ++ [t]⟩ : Registry).names.take n = (⟨ts⟩ : Registry).names.take n := by
    simp only [names, List.map_append]
    exact List.take_append_of_le_length (by simpa using hn)
  have hbefore : (ts.zipIdx.filter fun p => p.1.name ∈ (⟨ts ++ [t]⟩ : Registry).names.take p.2) =
      ts.zipIdx.filter fun p => p.1.name ∈ (⟨ts⟩ : Registry).names.take p.2 :=
    List.filter_congr fun p hp => by rw [hnames p.2 (Nat.le_of_lt (by simpa using List.snd_lt_of_mem_zipIdx hp))]
  have hlast : (⟨ts ++ [t]⟩ : Registry).names.take ts.length = ts.map (·.name) := by
    rw [hnames _ (Nat.le_refl _), names, List.take_of_length_le (by simp)]
  simp only [later]
  rw [List.zipIdx_append, List.filter_append, hbefore, List.map_append, List.zipIdx_cons, List.zipIdx_nil, Nat.zero_add]
  refine congrArg _ ?_
  simp only [List.filter_cons, List.filter_nil, hlast, decide_eq_true_eq]
  split
  · rfl
  · rfl

/-- The names that the loop has seen make a repeat of a name just as names before it do. -/
theorem repeatsAfter_concat (seen names : List String) (name : String) :
    repeatsAfter seen (names ++ [name]) =
      repeatsAfter seen names ++ if name ∈ seen ∨ name ∈ names then [name] else [] := by
  induction names generalizing seen with
  | nil => simp [repeatsAfter]
  | cons n names ih =>
      simp only [List.cons_append, repeatsAfter]
      by_cases hn : n ∈ seen
      · have hseen : (name ∈ seen ∨ name ∈ names) ↔ (name ∈ seen ∨ name ∈ n :: names) := by grind
        rw [if_pos hn, if_pos hn, ih, List.cons_append]
        simp only [hseen]
      · have hseen : (name ∈ n :: seen ∨ name ∈ names) ↔ (name ∈ seen ∨ name ∈ n :: names) := by grind
        rw [if_neg hn, if_neg hn, ih]
        simp only [hseen]

theorem repeats_eq (r : Registry) : r.repeats = r.later.map (·.name) := by
  obtain ⟨ts⟩ := r
  induction ts using List.reverseRecOn with
  | nil => rfl
  | append_singleton ts t ih =>
      have hrepeats : (⟨ts ++ [t]⟩ : Registry).repeats =
          (⟨ts⟩ : Registry).repeats ++ if t.name ∈ ts.map (·.name) then [t.name] else [] := by
        simp only [repeats, names, List.map_append, List.map_cons, List.map_nil, repeatsAfter_concat,
          List.not_mem_nil, false_or]
      rw [hrepeats, ih, later_concat, List.map_append]
      split
      · rfl
      · rfl

/-- Each table is either a later one or one that stays. -/
theorem length_later_add_size_firsts (r : Registry) : r.later.length + r.firsts.size = r.size := by
  have hsplit := List.length_eq_length_filter_add (l := r.tables.zipIdx)
    (fun p => decide (p.1.name ∈ r.names.take p.2))
  simp only [List.length_zipIdx] at hsplit
  simp only [later, firsts, size, List.length_map, hsplit, decide_not]

/-! ## The first table of a name -/

theorem mem_of_mem_firsts {t : Table} (h : t ∈ r.firsts.tables) : t ∈ r.tables := by
  obtain ⟨p, hp, rfl⟩ := List.mem_map.mp h
  exact List.fst_mem_of_mem_zipIdx (List.mem_filter.mp hp).1

/-- What is left out comes later, so the first table of a name stays the first one. -/
theorem IsFirst.firsts {name : String} {t : Table} (h : r.IsFirst name t) : r.firsts.IsFirst name t := by
  obtain ⟨before, after, htables, hname, hbefore⟩ := h
  have hstays : t.name ∉ r.names.take before.length := by
    rw [names, htables, List.map_append, List.take_left' (by simp), hname]
    intro hmem
    obtain ⟨u, hu, hsame⟩ := List.mem_map.mp hmem
    exact hbefore u hu hsame
  refine ⟨(before.zipIdx.filter fun p => p.1.name ∉ r.names.take p.2).map Prod.fst,
    ((after.zipIdx (before.length + 1)).filter fun p => p.1.name ∉ r.names.take p.2).map Prod.fst, ?_, hname, ?_⟩
  · simp only [Registry.firsts]
    rw [htables, List.zipIdx_append, List.filter_append, List.zipIdx_cons, Nat.zero_add,
      List.filter_cons_of_pos (by simpa using hstays), List.map_append, List.map_cons]
  · intro u hu
    obtain ⟨p, hp, rfl⟩ := List.mem_map.mp hu
    exact hbefore p.1 (List.fst_mem_of_mem_zipIdx (List.mem_filter.mp hp).1)

theorem table?_firsts (r : Registry) (name : Text) : r.firsts.table? name = r.table? name := by
  cases htable : r.table? name with
  | some t =>
      obtain rfl := name_of_table? htable
      exact table?_eq_some_iff_isFirst.mpr (table?_eq_some_iff_isFirst.mp htable).firsts
  | none =>
      have hnone := List.find?_eq_none.mp htable
      exact List.find?_eq_none.mpr fun t ht => hnone t (mem_of_mem_firsts ht)

/-! ## Questions and answers -/

/-- What a registry answers about a table and a column, asked in all the ways that there are. -/
structure Lookups where
  table : Option Table
  contained : Bool
  primaryKey : Option String
  tiers : Option TierSet
  encrypted : Option Bool
  containers : Option ContainerSet
  unique : Option Bool
deriving DecidableEq

/-- The answers about a table and a column of given names. -/
def lookups (r : Registry) (table column : Text) : Lookups where
  table := r.table? table
  contained := r.contains table
  primaryKey := r.primaryKey? table
  tiers := r.tiers? table column
  encrypted := r.isEncrypted? table column
  containers := r.containers? table column
  unique := r.isUnique? table column

/-- The answers that the first table of a name calls for, and the column of a name in it. -/
inductive Answers (r : Registry) (table column : Text) : Lookups → Prop
  | unknownTable : (∀ t ∈ r.tables, table ≠ ofString t.name) →
      Answers r table column ⟨none, false, none, none, none, none, none⟩
  | unknownColumn {t : Table} : table = ofString t.name → r.IsFirst t.name t →
      (∀ c ∈ t.columns, column ≠ ofString c.name) →
      Answers r table column ⟨some t, true, t.primaryKey, none, none, none, none⟩
  | known {t : Table} {c : Column} : table = ofString t.name → r.IsFirst t.name t → c ∈ t.columns →
      column = ofString c.name →
      Answers r table column
        ⟨some t, true, t.primaryKey, some c.tiers, some c.encrypted, c.containers, some c.isUnique⟩

theorem answers_lookups (r : Registry) (table column : Text) : r.Answers table column (r.lookups table column) := by
  cases htable : r.table? table with
  | none =>
      have hunknown (t : Table) (ht : t ∈ r.tables) : table ≠ ofString t.name := by
        simpa using List.find?_eq_none.mp htable t ht
      have hlookups : r.lookups table column = ⟨none, false, none, none, none, none, none⟩ := by
        simp [lookups, contains, primaryKey?, tiers?, isEncrypted?, containers?, isUnique?, column?, htable]
      exact hlookups ▸ .unknownTable hunknown
  | some t =>
      have hname := name_of_table? htable
      have hfirst : r.IsFirst t.name t := table?_eq_some_iff_isFirst.mp (hname ▸ htable)
      cases hcolumn : t.column? column with
      | none =>
          have hunknown (c : Column) (hc : c ∈ t.columns) : column ≠ ofString c.name := by
            simpa using List.find?_eq_none.mp hcolumn c hc
          have hlookups : r.lookups table column = ⟨some t, true, t.primaryKey, none, none, none, none⟩ := by
            simp [lookups, contains, primaryKey?, tiers?, isEncrypted?, containers?, isUnique?, column?, htable, hcolumn]
          exact hlookups ▸ .unknownColumn hname hfirst hunknown
      | some c =>
          have hcname : column = ofString c.name := by simpa using List.find?_some hcolumn
          have hlookups : r.lookups table column =
              ⟨some t, true, t.primaryKey, some c.tiers, some c.encrypted, c.containers, some c.isUnique⟩ := by
            simp [lookups, contains, primaryKey?, tiers?, isEncrypted?, containers?, isUnique?, column?, htable, hcolumn]
          exact hlookups ▸ .known hname hfirst (List.mem_of_find?_eq_some hcolumn) hcname

/-- No text that is not the name of a table is contained, whatever code points it has. -/
theorem contains_iff_mem (r : Registry) (table : Text) : r.contains table = true ↔ table ∈ r.names.map ofString := by
  simp only [contains, table?, names, List.find?_isSome, decide_eq_true_eq, List.mem_map, exists_exists_and_eq_and]
  constructor
  · rintro ⟨t, ht, h⟩
    exact ⟨t, ht, h.symm⟩
  · rintro ⟨t, ht, h⟩
    exact ⟨t, ht, h.symm⟩

theorem lookups_firsts (r : Registry) (table column : Text) :
    r.firsts.lookups table column = r.lookups table column := by
  simp only [lookups, contains, primaryKey?, tiers?, isEncrypted?, containers?, isUnique?, column?, table?_firsts]

/-! ## The log of its making -/

/-- The records of a registry that is made: a warning for each later table, and the number of tables. -/
def announcements (r : Registry) (j : Log.Journal) : List Log.Record :=
  r.later.map (fun t => j.plainRecord Log.Level.warning logger (repeatMessage t.name)) ++
    [j.plainRecord Log.Level.debug logger r.madeMessage]

theorem announce_eq_add_filter (r : Registry) (j : Log.Journal) :
    r.announce j = j.add ((r.announcements j).filter (j.isKept logger)) := by
  simp only [announce, repeats_eq]
  rw [Log.Journal.foldl_write_eq_add_filter, Log.Journal.write_eq_add_filter, announcements, List.filter_append,
    ← Log.Journal.add_add, List.map_map]
  rfl

/-- A journal that keeps details keeps all of them. -/
theorem announce_eq_add (r : Registry) {j : Log.Journal} (h : j.KeepsDetails) :
    r.announce j = j.add (r.announcements j) := by
  rw [announce_eq_add_filter, List.filter_eq_self.mpr]
  intro record hrecord
  rcases List.mem_append.mp hrecord with hwarning | hmade
  · obtain ⟨t, _, rfl⟩ := List.mem_map.mp hwarning
    exact h.isKept (by decide) _ _
  · rw [List.mem_singleton.mp hmade]
    exact h.isKept (by decide) _ _

end Registry

/-- Whatever is registered, under names that repeat or not: a warning for each later table of a name and then a detail
are written when the registry is made, as far as the journal keeps them; and every question is answered from the first
table of the name alone, so that leaving out the later ones, one for each warning, changes no answer. -/
theorem lookups_see_first_definitions (r : Registry) (j : Log.Journal) (table column : Text) :
    r.announce j = j.add ((r.announcements j).filter (j.isKept Registry.logger)) ∧
    (j.KeepsDetails → r.announce j = j.add (r.announcements j)) ∧
    r.later.length + r.firsts.size = r.size ∧
    r.firsts.lookups table column = r.lookups table column ∧
    r.Answers table column (r.lookups table column) ∧
    (r.contains table = true ↔ table ∈ r.names.map ofString) :=
  ⟨r.announce_eq_add_filter j, r.announce_eq_add, r.length_later_add_size_firsts, r.lookups_firsts table column,
    r.answers_lookups table column, r.contains_iff_mem table⟩

/-- A table, and another one of the same name that has a key and a column which the first one lacks. -/
def Table.widgets : Table where
  name := "widgets"
  columns := [everywhere "widget_no" .uuid]
  primaryKey := some "widget_no"

@[inherit_doc Table.widgets]
def Table.laterWidgets : Table where
  name := "widgets"
  columns := [everywhere "serial_no" .uuid true]
  primaryKey := some "serial_no"

/-- The later table is warned about, and neither its key nor its column is seen. -/
theorem later_widgets_are_not_seen :
    let r : Registry := ⟨[.widgets, .laterWidgets]⟩
    let j : Log.Journal := { time := default }
    r.firsts = ⟨[.widgets]⟩ ∧
    (r.announce j).records.map (·.message) =
      [ofString "Duplicate table 'widgets' in registry; lookups resolve to the first definition",
        ofString "SchemaRegistry created with 2 tables"] ∧
    r.lookups "widgets" "serial_no" = ⟨some .widgets, true, some "widget_no", none, none, none, none⟩ := by
  intro r j
  obtain ⟨_, records, _, same, _, _⟩ := lookups_see_first_definitions r j "widgets" "serial_no"
  refine ⟨by decide, ?_, same.symm.trans rfl⟩
  rw [records ⟨rfl, rfl⟩]
  decide +kernel

end SchemaScript
