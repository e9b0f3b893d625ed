/-
# What columns refer to

## What is proved

The foreign keys of a registry are exactly those that the names of its columns call for, column after column and table
after table.  A column calls for one if it is carried, is not the key of its own table, and its name leads to a table
that has a key.  Where a name leads is said by `Refers`: first choice is what stands before `_id`, second choice the
same with one `s` less or more.  The second choice counts only where no table has the name of the first one; that the
first one has no key does not bring the second one into play.

Names may repeat in the registry; then the first table of a name is the one that is referred to.  Where they do not
repeat, no column is constrained twice, and on no table two constraints share a name.

## How

The generator works on code points, with endings cut off and put on.  `beforeEnding?_eq_some_iff` turns every cut into
an equation between texts, and `ofString_eq_append_iff` brings the equation back to strings, where `Refers` is stated.
-/
import SchemaScript.Proofs.Parts

namespace SchemaScript

open Sql (Statement)
open Text (ofString)

/-! ## Endings -/

namespace Text

theorem endsWith_iff {t part : Text} : endsWith t part = true ↔ ∃ base, t = base ++ part := by
  rw [endsWith, List.isSuffixOf_iff_suffix]
  constructor
  · rintro ⟨base, h⟩
    exact ⟨base, h.symm⟩
  · rintro ⟨base, h⟩
    exact ⟨base, h.symm⟩

theorem beforeEnding?_eq_some_iff {t part base : Text} :
    beforeEnding? t part = some base ↔ t = base ++ part := by
  simp only [beforeEnding?]
  constructor
  · intro h
    split at h
    next hends =>
      obtain ⟨base', rfl⟩ := endsWith_iff.mp hends
      cases h
      simp
    · cases h
  · rintro rfl
    rw [if_pos (endsWith_iff.mpr ⟨base, rfl⟩)]
    simp

theorem ofString_eq_append_iff {s part : String} {t : Text} :
    ofString s = t ++ ofString part ↔ ∃ base, s = base ++ part ∧ t = ofString base := by
  constructor
  · intro h
    obtain ⟨cs, ds, hs, hcs, hds⟩ := List.map_eq_append_iff.mp h
    have hpart : ds = part.toList := by
      have hchars := congrArg chars? (show ofChars ds = ofChars part.toList from hds)
      simpa using hchars
    refine ⟨String.ofList cs, ?_, ?_⟩
    · apply String.toList_injective
      rw [String.toList_append, String.toList_ofList, hs, hpart]
    · rw [ofString, String.toList_ofList]
      exact hcs.symm
  · rintro ⟨base, rfl, rfl⟩
    exact ofString_append base part

theorem beforeEnding?_eq_none {s part : String} (h : ∀ base, s ≠ base ++ part) :
    beforeEnding? (ofString s) (ofString part) = none := by
  refine Option.eq_none_iff_forall_ne_some.mpr fun t ht => ?_
  obtain ⟨base, hbase, _⟩ := ofString_eq_append_iff.mp (beforeEnding?_eq_some_iff.mp ht)
  exact h base hbase

end Text

/-! ## Where a name leads -/

/-- The second choice for a name before `_id`: one `s` less, or, where the name does not end in it, one more. -/
inductive SecondChoice : String → String → Prop
  | shorter (stem : String) : SecondChoice (stem ++ "s") stem
  | longer {base : String} : (∀ stem, base ≠ stem ++ "s") → SecondChoice base (base ++ "s")

/-- The name of a column leads to a name among the given ones. -/
inductive Refers (names : List String) : String → String → Prop
  | first {base : String} : base ∈ names → Refers names (base ++ "_id") base
  | second {base name : String} : base ∉ names → SecondChoice base name → name ∈ names →
      Refers names (base ++ "_id") name

theorem SecondChoice.unique {base name name' : String} (h : SecondChoice base name)
    (h' : SecondChoice base name') : name = name' := by
  cases h with
  | shorter =>
      generalize hbase : name ++ "s" = base at h'
      cases h' with
      | shorter => exact (String.append_left_inj "s").mp hbase
      | longer hends => exact absurd hbase.symm (hends name)
  | longer hends =>
      cases h' with
      | shorter => exact absurd rfl (hends name')
      | longer _ => rfl

theorem Refers.exists_base {names : List String} {column name : String} (h : Refers names column name) :
    ∃ base, column = base ++ "_id" := by
  cases h
  all_goals exact ⟨_, rfl⟩

theorem Refers.mem {names : List String} {column name : String} (h : Refers names column name) :
    name ∈ names := by
  cases h with
  | first hbase => exact hbase
  | second _ _ hname => exact hname

theorem refers_iff {names : List String} {base name : String} :
    Refers names (base ++ "_id") name ↔
      (base ∈ names ∧ name = base) ∨ (base ∉ names ∧ SecondChoice base name ∧ name ∈ names) := by
  constructor
  · intro h
    generalize hcolumn : base ++ "_id" = column at h
    cases h with
    | first hbase =>
        cases (String.append_left_inj "_id").mp hcolumn
        exact .inl ⟨hbase, rfl⟩
    | second hbase hchoice hname =>
        cases (String.append_left_inj "_id").mp hcolumn
        exact .inr ⟨hbase, hchoice, hname⟩
  · rintro (⟨hbase, rfl⟩ | ⟨hbase, hchoice, hname⟩)
    · exact .first hbase
    · exact .second hbase hchoice hname

namespace Naming

/-- The other number of a name is its second choice. -/
theorem otherNumber_eq_iff {base : String} {t : Text} :
    otherNumber (ofString base) = t ↔ ∃ name, t = ofString name ∧ SecondChoice base name := by
  have hother : ∃ name, otherNumber (ofString base) = ofString name ∧ SecondChoice base name := by
    simp only [otherNumber]
    by_cases hends : ∃ stem, base = stem ++ "s"
    · obtain ⟨stem, rfl⟩ := hends
      rw [Text.beforeEnding?_eq_some_iff.mpr (Text.ofString_append stem "s")]
      exact ⟨stem, rfl, .shorter stem⟩
    · have hends' : ∀ stem, base ≠ stem ++ "s" := not_exists.mp hends
      rw [Text.beforeEnding?_eq_none hends']
      exact ⟨base ++ "s", (Text.ofString_append base "s").symm, .longer hends'⟩
  obtain ⟨name, hname, hchoice⟩ := hother
  rw [hname]
  constructor
  · rintro rfl
    exact ⟨name, rfl, hchoice⟩
  · rintro ⟨name', rfl, hchoice'⟩
    rw [hchoice.unique hchoice']

theorem candidates_reference (base : String) :
    candidates (ofString (base ++ "_id")) = [ofString base, otherNumber (ofString base)] := by
  simp only [candidates, referenceEnding]
  rw [Text.beforeEnding?_eq_some_iff.mpr (Text.ofString_append base "_id")]

theorem candidates_other {column : String} (h : ∀ base, column ≠ base ++ "_id") :
    candidates (ofString column) = [] := by
  simp only [candidates, referenceEnding]
  rw [Text.beforeEnding?_eq_none h]

theorem mem_known_iff {names : List String} {name : String} :
    ofString name ∈ names.map ofString ↔ name ∈ names :=
  List.mem_map_of_injective fun _ _ => Text.ofString_inj.mp

theorem referenced?_reference (names : List String) (base : String) :
    referenced? (names.map ofString) (ofString (base ++ "_id")) =
      if base ∈ names then some (ofString base)
      else if otherNumber (ofString base) ∈ names.map ofString then some (otherNumber (ofString base))
      else none := by
  simp only [referenced?, candidates_reference, List.find?_cons, List.find?_nil, mem_known_iff]
  by_cases hbase : base ∈ names
  · simp only [hbase, decide_true, if_true]
  · simp only [hbase, decide_false, if_false]
    split
    next hother => rw [if_pos (of_decide_eq_true hother)]
    next hother => rw [if_neg (of_decide_eq_false hother)]

/-- The first candidate that is known is what the column leads to. -/
theorem referenced?_eq_some_iff {names : List String} {column : String} {t : Text} :
    referenced? (names.map ofString) (ofString column) = some t ↔
      ∃ name, t = ofString name ∧ Refers names column name := by
  by_cases hcolumn : ∃ base, column = base ++ "_id"
  · obtain ⟨base, rfl⟩ := hcolumn
    obtain ⟨other, hother, hchoice⟩ := otherNumber_eq_iff.mp (Eq.refl (otherNumber (ofString base)))
    simp only [referenced?_reference, hother, mem_known_iff, refers_iff]
    by_cases hbase : base ∈ names
    · rw [if_pos hbase]
      constructor
      · rintro ⟨⟩
        exact ⟨base, rfl, .inl ⟨hbase, rfl⟩⟩
      · rintro ⟨name, rfl, ⟨_, rfl⟩ | ⟨hnot, _⟩⟩
        · rfl
        · exact absurd hbase hnot
    rw [if_neg hbase]
    by_cases hknown : other ∈ names
    · rw [if_pos hknown]
      constructor
      · rintro ⟨⟩
        exact ⟨other, rfl, .inr ⟨hbase, hchoice, hknown⟩⟩
      · rintro ⟨name, rfl, ⟨hyes, _⟩ | ⟨_, hchoice', _⟩⟩
        · exact absurd hyes hbase
        · rw [hchoice.unique hchoice']
    · rw [if_neg hknown]
      constructor
      · rintro ⟨⟩
      · rintro ⟨name, rfl, ⟨hyes, _⟩ | ⟨_, hchoice', hname⟩⟩
        · exact absurd hyes hbase
        · exact absurd (hchoice.unique hchoice' ▸ hname) hknown
  · rw [referenced?, candidates_other (not_exists.mp hcolumn)]
    constructor
    · rintro ⟨⟩
    · rintro ⟨name, _, hrefers⟩
      exact absurd hrefers.exists_base hcolumn

end Naming

/-! ## The first table of a name -/

/-- The first table of a name. -/
def Registry.IsFirst (r : Registry) (name : String) (t : Table) : Prop :=
  ∃ before after, r.tables = before ++ t :: after ∧ t.name = name ∧ ∀ u ∈ before, u.name ≠ name

theorem Registry.IsFirst.name {r : Registry} {name : String} {t : Table} (h : r.IsFirst name t) :
    t.name = name := by
  obtain ⟨_, _, _, hname, _⟩ := h
  exact hname

theorem Registry.table?_eq_some_iff_isFirst {r : Registry} {name : String} {t : Table} :
    r.table? (ofString name) = some t ↔ r.IsFirst name t := by
  rw [Registry.table?, List.find?_eq_some_iff_append]
  simp only [decide_eq_true_eq, Text.ofString_inj, Bool.not_eq_true', decide_eq_false_iff_not]
  constructor
  · rintro ⟨hname, before, after, htables, hbefore⟩
    exact ⟨before, after, htables, hname.symm, fun u hu => Ne.symm (hbefore u hu)⟩
  · rintro ⟨before, after, htables, hname, hbefore⟩
    exact ⟨hname.symm, before, after, htables, fun u hu => Ne.symm (hbefore u hu)⟩

theorem Registry.IsFirst.unique {r : Registry} {name : String} {t t' : Table} (h : r.IsFirst name t)
    (h' : r.IsFirst name t') : t = t' := by
  rw [← table?_eq_some_iff_isFirst] at h h'
  exact Option.some.inj (h.symm.trans h')

theorem Registry.exists_isFirst {r : Registry} {name : String} (h : name ∈ r.names) :
    ∃ target, r.IsFirst name target := by
  obtain ⟨target, htarget⟩ := Option.isSome_iff_exists.mp ((r.contains_iff name).mpr h)
  exact ⟨target, Registry.table?_eq_some_iff_isFirst.mp htarget⟩

/-! ## The foreign key of a column -/

/-- The text of a foreign key: rows go with the row that they refer to. -/
def foreignKeyText (table column referenced key : String) : String :=
  "ALTER TABLE " ++ table ++ " ADD CONSTRAINT " ++ ("fk_" ++ table ++ "_" ++ column) ++
    "\n    FOREIGN KEY (" ++ column ++ ") REFERENCES " ++ referenced ++ "(" ++ key ++ ") ON DELETE CASCADE"

/-- The foreign key that a column of a table calls for. -/
inductive CallsFor (r : Registry) (t : Table) (c : Column) : Statement → Prop
  | foreignKey {name key : String} {target : Table} : t.primaryKey ≠ some c.name →
      Refers r.names c.name name → r.IsFirst name target → target.primaryKey = some key →
      CallsFor r t c
        (.addForeignKey ("fk_" ++ t.name ++ "_" ++ c.name) t.name c.name name key)

/-- The names being led to are those of tables, so a first choice without a key leaves nothing to call for. -/
theorem not_callsFor_of_keyless {r : Registry} {t target : Table} {c : Column} {base : String}
    (hcolumn : c.name = base ++ "_id") (hfirst : r.IsFirst base target) (hkey : target.primaryKey = none)
    (s : Statement) : ¬ CallsFor r t c s := by
  intro h
  have hbase : base ∈ r.names := by
    obtain ⟨before, after, htables, hname, _⟩ := hfirst
    refine List.mem_map.mpr ⟨target, ?_, hname⟩
    rw [htables]
    exact List.mem_append_right _ List.mem_cons_self
  cases h with
  | foreignKey _ hrefers hfirst' hkey' =>
      rw [hcolumn, refers_iff] at hrefers
      rcases hrefers with ⟨_, rfl⟩ | ⟨hnot, _⟩
      · rw [hfirst'.unique hfirst, hkey] at hkey'
        cases hkey'
      · exact hnot hbase

namespace Generator

/-- The foreign key of a column, unless it is the key of its table. -/
def inferred? (g : Generator) (t : Table) (c : Column) : Option Statement :=
  if t.isKey c then none else g.foreignKey? t c

theorem reference_eq_found_iff {g : Generator} {column name key : String} :
    g.reference column = .found name key ↔
      ∃ target, Refers g.registry.names column name ∧ g.registry.IsFirst name target ∧
        target.primaryKey = some key := by
  constructor
  · intro h
    simp only [reference] at h
    split at h
    · cases h
    next target htarget =>
      obtain ⟨t, ht, htable⟩ := Option.bind_eq_some_iff.mp htarget
      obtain ⟨name', rfl, hrefers⟩ := Naming.referenced?_eq_some_iff.mp ht
      have hfirst := Registry.table?_eq_some_iff_isFirst.mp htable
      split at h
      · cases h
      next key' hkey =>
        cases h
        rw [← hfirst.name] at hrefers hfirst
        exact ⟨target, hrefers, hfirst, hkey⟩
  · rintro ⟨target, hrefers, hfirst, hkey⟩
    simp only [reference]
    rw [Naming.referenced?_eq_some_iff.mpr ⟨name, rfl, hrefers⟩, Option.bind_some,
      Registry.table?_eq_some_iff_isFirst.mpr hfirst]
    simp only [hkey, hfirst.name]

theorem inferred?_eq_some_iff {g : Generator} {t : Table} {c : Column} {s : Statement} :
    g.inferred? t c = some s ↔ CallsFor g.registry t c s := by
  constructor
  · intro h
    simp only [inferred?] at h
    split at h
    · cases h
    next hkey =>
      simp only [foreignKey?] at h
      split at h
      next name key href =>
        obtain ⟨target, hrefers, hfirst, htarget⟩ := reference_eq_found_iff.mp href
        cases h
        refine .foreignKey (fun hc => hkey ?_) hrefers hfirst htarget
        rw [Table.isKey, hc]
        exact beq_self_eq_true _
      · cases h
  · intro h
    cases h with
    | foreignKey hkey hrefers hfirst htarget =>
        have hnot : ¬ t.isKey c = true := fun h => hkey (by simpa [Table.isKey] using h)
        rw [inferred?, if_neg hnot, foreignKey?,
          reference_eq_found_iff.mpr ⟨_, hrefers, hfirst, htarget⟩]
        rfl

theorem inferred?_of_not_endsWith {g : Generator} {t : Table} {c : Column}
    (h : ¬ Text.endsWith c.name Naming.referenceEnding = true) : g.inferred? t c = none := by
  refine Option.eq_none_iff_forall_ne_some.mpr fun s hs => ?_
  cases inferred?_eq_some_iff.mp hs with
  | foreignKey _ hrefers _ _ =>
      obtain ⟨base, hbase⟩ := hrefers.exists_base
      refine h (Text.endsWith_iff.mpr ⟨ofString base, ?_⟩)
      rw [hbase]
      exact Text.ofString_append base "_id"

/-! ## All foreign keys -/

theorem tableForeignKeys_eq (g : Generator) (t : Table) :
    g.tableForeignKeys t = t.relationalColumns.filterMap (g.inferred? t) := by
  rw [tableForeignKeys, referringColumns, List.filterMap_filter]
  refine List.filterMap_congr fun c _ => ?_
  by_cases hends : Text.endsWith c.name Naming.referenceEnding = true
  · cases hkey : t.isKey c with
    | true => simp [inferred?, hkey]
    | false => simp [inferred?, hkey, hends]
  · rw [inferred?_of_not_endsWith hends]
    simp [hends]

theorem foreignKeys_eq_inferred (g : Generator) :
    g.foreignKeys = g.registry.tables.flatMap fun t => t.relationalColumns.filterMap (g.inferred? t) :=
  congrArg (List.flatMap · g.registry.tables) (funext g.tableForeignKeys_eq)

end Generator

/-! ## One constraint in one place -/

/-- The statements do not constrain the same column of one table, nor do they use one name on it. -/
def ConstrainApart (s s' : Statement) : Prop :=
  ∀ name table column referenced key name' table' column' referenced' key',
    s = .addForeignKey name table column referenced key →
    s' = .addForeignKey name' table' column' referenced' key' →
    (table, column) ≠ (table', column') ∧ (table, name) ≠ (table', name')

theorem CallsFor.apart {r : Registry} {t t' : Table} {c c' : Column} {s s' : Statement} (h : CallsFor r t c s)
    (h' : CallsFor r t' c' s') (hne : (t.name, c.name) ≠ (t'.name, c'.name)) : ConstrainApart s s' := by
  intro name table column referenced key name' table' column' referenced' key' hs hs'
  cases h
  cases h'
  cases hs
  cases hs'
  refine ⟨hne, fun heq => hne ?_⟩
  -- On one table the names differ only in what stands behind the name of the table.
  obtain ⟨htable, hname⟩ := Prod.mk.inj heq
  rw [htable] at hname ⊢
  rw [String.append_right_inj] at hname
  rw [hname]

theorem Table.pairwise_relationalColumns (t : Table) :
    t.relationalColumns.Pairwise fun c c' => c.name ≠ c'.name :=
  (List.pairwise_map.mp t.wellFormed.distinct).sublist List.filter_sublist

theorem Generator.pairwise_foreignKeys {g : Generator} (hnames : g.registry.names.Nodup) :
    g.foreignKeys.Pairwise ConstrainApart := by
  rw [g.foreignKeys_eq_inferred, List.pairwise_flatMap]
  constructor
  · intro t _
    refine t.pairwise_relationalColumns.filterMap _ fun c c' hne s hs s' hs' => ?_
    exact (inferred?_eq_some_iff.mp hs).apart (inferred?_eq_some_iff.mp hs') fun h =>
      hne (Prod.mk.inj h).2
  · refine (List.pairwise_map.mp hnames).imp fun {t t'} hne s hs s' hs' => ?_
    obtain ⟨c, _, hs⟩ := List.mem_filterMap.mp hs
    obtain ⟨c', _, hs'⟩ := List.mem_filterMap.mp hs'
    exact (inferred?_eq_some_iff.mp hs).apart (inferred?_eq_some_iff.mp hs') fun h =>
      hne (Prod.mk.inj h).1

/-! ## Exactly the foreign keys that are called for -/

/-- The foreign keys that are generated are, column after column and table after table, those that are called for, and
the script of the foreign keys holds them and nothing else.  A first choice without a key leaves a column without a
foreign key.  Where the names of the tables are distinct, so are the places and the names of the constraints. -/
theorem foreign_keys_are_those_called_for (g : Generator) :
    (∀ session, (g.generateForeignKeys.outcome session).1 =
      .ok (g.registry.tables.flatMap fun t => t.relationalColumns.filterMap (g.inferred? t))) ∧
    (∀ session, ∃ script, (g.generateForeignKeysScript.outcome session).1 = .ok script ∧
      script.statements = .begin ::
        (g.registry.tables.flatMap fun t => t.relationalColumns.filterMap (g.inferred? t)) ++ [.commit]) ∧
    (∀ t c s, g.inferred? t c = some s ↔ CallsFor g.registry t c s) ∧
    (∀ t c s, CallsFor g.registry t c s → ∃ name target key, Refers g.registry.names c.name name ∧
      g.registry.IsFirst name target ∧ target.primaryKey = some key ∧
      s.sql = foreignKeyText t.name c.name name key) ∧
    (∀ t c base target, c.name = base ++ "_id" → g.registry.IsFirst base target →
      target.primaryKey = none → g.inferred? t c = none) ∧
    (g.registry.names.Nodup → g.foreignKeys.Pairwise ConstrainApart) := by
  refine ⟨fun session => ?_, fun session => ?_, fun t c s => Generator.inferred?_eq_some_iff,
    fun t c s h => ?_, fun t c base target hcolumn hfirst hkey => ?_, Generator.pairwise_foreignKeys⟩
  · rw [(g.generateForeignKeys_gives session).1, g.foreignKeys_eq_inferred]
  · refine ⟨_, (g.generateForeignKeysScript_gives session).1, ?_⟩
    rw [g.statements_foreignKeysScript, ← g.foreignKeys_eq_inferred]
    rfl
  · cases h with
    | foreignKey _ hrefers hfirst hkey => exact ⟨_, _, _, hrefers, hfirst, hkey, rfl⟩
  · refine Option.eq_none_iff_forall_ne_some.mpr fun s hs => ?_
    exact not_callsFor_of_keyless hcolumn hfirst hkey s (Generator.inferred?_eq_some_iff.mp hs)

/-- A log without a key. -/
def Table.log : Table where
  name := "log"
  columns := [everywhere "message" .text]

/-- Logs by their keys. -/
def Table.logs : Table where
  name := "logs"
  columns := [everywhere "log_key" .uuid]
  primaryKey := some "log_key"

/-- Those who write into logs. -/
def Table.authors : Table where
  name := "authors"
  columns := [everywhere "author_key" .uuid]
  primaryKey := some "author_key"

/-- Entries of logs, with their authors. -/
def Table.entries : Table where
  name := "entries"
  columns := [everywhere "entry_id" .uuid, everywhere "log_id" .uuid, everywhere "author_id" .uuid]
  primaryKey := some "entry_id"

/-- The log has no key, and so an entry refers to its author alone; that there are logs with keys does not count. -/
theorem entries_refer_to_authors :
    let g : Generator := ⟨⟨[.entries, .log, .logs, .authors]⟩, {}⟩
    let key : Statement := .addForeignKey "fk_entries_author_id" "entries" "author_id" "authors" "author_key"
    (g.generateForeignKeys.outcome default).1 = .ok [key] ∧
      g.inferred? .entries (Table.everywhere "log_id" .uuid) = none ∧
      (∃ name target column, g.registry.IsFirst name target ∧ target.primaryKey = some column ∧
        key.sql = foreignKeyText "entries" "author_id" name column) ∧
      g.foreignKeys.Pairwise ConstrainApart := by
  intro g key
  obtain ⟨given, _, called, text, keyless, apart⟩ := foreign_keys_are_those_called_for g
  have hnone := keyless .entries (Table.everywhere "log_id" .uuid) "log" .log rfl
    ⟨[.entries], [.logs, .authors], rfl, rfl, by decide⟩ rfl
  have hsome : g.inferred? .entries (Table.everywhere "author_id" .uuid) = some key := by
    decide +kernel
  obtain ⟨name, target, column, _, hfirst, hkey, hsql⟩ := text _ _ _ ((called _ _ _).mp hsome)
  refine ⟨?_, hnone, ⟨name, target, column, hfirst, hkey, hsql⟩, apart (by decide)⟩
  rw [given default]
  decide +kernel

end SchemaScript
