/-
# Indexes of one name

## What is proved

An index is named after its table and its column.  Where table names are distinct, all indexes of the tables script have
names of their own unless two of them clash: one table is called as another one with something after it, and that
something stands before the column of the other one (`Clash`).  There is no other way to one name.

A database makes the first index of a name and passes over the others without an error.  So the script is carried out in
any case, and every column that was chosen has its index exactly if there is no clash.

## How

A name is cut at an underscore between table and column.  Two cuts of one name are the same, or one of them comes first,
and then the text between the cuts is at the end of one table name and at the beginning of one column name.

What the database knows of indexes is followed statement by statement (`indexes_of_run`), and that nothing fails is known
from the schema that the script builds up: the catalogue mirrors it as long as names are not confused (`Mirrors`).
-/
import SchemaScript.Proofs.Catalogue
import SchemaScript.Proofs.References
import SchemaScript.Proofs.Schema
import SchemaScript.Proofs.Transactions

namespace SchemaScript

open Sql (Statement)

/-! ## Two cuts of one name -/

/-- Lists put together around an item are equal if the parts are, or if one place of the item comes before the other. -/
theorem append_cons_eq_append_cons_iff {α : Type} {x : α} {l l' r r' : List α} :
    l ++ x :: r = l' ++ x :: r' ↔
      (l = l' ∧ r = r') ∨ (∃ m, l' = l ++ x :: m ∧ r = m ++ x :: r') ∨ ∃ m, l = l' ++ x :: m ∧ r' = m ++ x :: r := by
  constructor
  · intro h
    rcases List.append_eq_append_iff.mp h with ⟨a, rfl, hr⟩ | ⟨a, rfl, hr⟩
    · cases a with
      | nil => exact .inl ⟨(List.append_nil l).symm, (List.cons.inj hr).2⟩
      | cons y m =>
          obtain ⟨rfl, rfl⟩ := List.cons.inj hr
          exact .inr (.inl ⟨m, rfl, rfl⟩)
    · cases a with
      | nil => exact .inl ⟨List.append_nil l', (List.cons.inj hr).2.symm⟩
      | cons y m =>
          obtain ⟨rfl, rfl⟩ := List.cons.inj hr
          exact .inr (.inr ⟨m, rfl, rfl⟩)
  · rintro (⟨rfl, rfl⟩ | ⟨m, rfl, rfl⟩ | ⟨m, rfl, rfl⟩)
    · rfl
    · rw [List.append_assoc, List.cons_append]
    · rw [List.append_assoc, List.cons_append]

/-- The name of the index on a column of a table. -/
def indexNameAt (p : String × String) : String := Statement.indexName p.1 p.2

/-- The name of the second table is that of the first one and more, and with this the name of the first column begins. -/
inductive Clash : String × String → String × String → Prop
  | mk (table middle column : String) : Clash (table, middle ++ "_" ++ column) (table ++ "_" ++ middle, column)

theorem clash_iff {p q : String × String} :
    Clash p q ↔ ∃ m, q.1.toList = p.1.toList ++ '_' :: m ∧ p.2.toList = m ++ '_' :: q.2.toList := by
  obtain ⟨table, column⟩ := p
  obtain ⟨table', column'⟩ := q
  constructor
  · rintro ⟨_, middle, _⟩
    exact ⟨middle.toList, by simp, by simp⟩
  · rintro ⟨m, htable, hcolumn⟩
    have htable' : table' = table ++ "_" ++ String.ofList m := String.toList_inj.mp (by simpa using htable)
    have hcolumn' : column = String.ofList m ++ "_" ++ column' := String.toList_inj.mp (by simpa using hcolumn)
    rw [htable', hcolumn']
    exact .mk table (String.ofList m) column'

theorem indexNameAt_eq_iff {p q : String × String} :
    indexNameAt p = indexNameAt q ↔ p = q ∨ Clash p q ∨ Clash q p := by
  have hname (p : String × String) :
      (indexNameAt p).toList = "idx_".toList ++ (p.1.toList ++ '_' :: p.2.toList) := by
    simp [indexNameAt, Statement.indexName, Statement.conventionalName, Statement.indexStart]
  rw [← String.toList_inj, hname, hname, List.append_cancel_left_eq, append_cons_eq_append_cons_iff, clash_iff,
    clash_iff, String.toList_inj, String.toList_inj, ← Prod.ext_iff]

/-! ## The indexes of the tables script -/

/-- The index that a statement creates: its name, and the table and column that it is on. -/
def Sql.Statement.index? : Statement → Option (String × String × String)
  | .createIndex name table column => some (name, table, column)
  | _ => none

namespace Generator

/-- The columns of a table that get an index. -/
def indexedNames (t : Table) : List String :=
  if t.relationalColumns.isEmpty then [] else t.primaryKey.toList ++ (indexedColumns t).map (·.name)

theorem indexes_eq_map (t : Table) : indexes t = (indexedNames t).map (index t) := by
  rw [indexes, indexedNames]
  split
  · rfl
  · rfl

/-- The key is not among the columns that are chosen by their names. -/
theorem nodup_indexedNames (t : Table) : (indexedNames t).Nodup := by
  rw [indexedNames]
  split
  · exact List.nodup_nil
  refine List.nodup_append.mpr ⟨?_, ?_, ?_⟩
  · cases t.primaryKey with
    | none => exact List.nodup_nil
    | some key => exact List.nodup_singleton key
  · exact List.pairwise_map.mpr (t.pairwise_relationalColumns.sublist List.filter_sublist)
  · rintro key hkey _ hmem rfl
    obtain ⟨c, hc, rfl⟩ := List.mem_map.mp hmem
    have hkey' : t.primaryKey = some c.name := Option.mem_toList.mp hkey
    have hnot := (List.mem_filter.mp hc).2
    simp [Table.isKey, hkey'] at hnot

end Generator

/-- The columns of all tables that get an index, each with its table. -/
def Registry.indexed (r : Registry) : List (String × String) :=
  r.tables.flatMap fun t => (Generator.indexedNames t).map fun column => (t.name, column)

/-- No two columns that get an index clash. -/
def Registry.IndexesApart (r : Registry) : Prop := ∀ p ∈ r.indexed, ∀ q ∈ r.indexed, ¬ Clash p q

theorem Registry.nodup_indexed {r : Registry} (hnames : r.names.Nodup) : r.indexed.Nodup := by
  refine List.pairwise_flatMap.mpr ⟨fun t _ => ?_, (List.pairwise_map.mp hnames).imp fun {t t'} hne p hp q hq => ?_⟩
  · exact (Generator.nodup_indexedNames t).map fun _ _ h => (Prod.mk.inj h).2
  · obtain ⟨_, _, rfl⟩ := List.mem_map.mp hp
    obtain ⟨_, _, rfl⟩ := List.mem_map.mp hq
    exact fun h => hne (Prod.mk.inj h).1

theorem Registry.indexesApart_iff {r : Registry} :
    r.IndexesApart ↔ ∀ p ∈ r.indexed, ∀ q ∈ r.indexed, indexNameAt p = indexNameAt q → p = q := by
  constructor
  · intro h p hp q hq hsame
    rcases indexNameAt_eq_iff.mp hsame with heq | hclash | hclash
    · exact heq
    · exact absurd hclash (h p hp q hq)
    · exact absurd hclash (h q hq p hp)
  · rintro h p hp q hq hclash
    have heq := h p hp q hq (indexNameAt_eq_iff.mpr (.inr (.inl hclash)))
    -- A table name that is longer than another one is not that one.
    obtain ⟨m, htable, _⟩ := clash_iff.mp hclash
    rw [heq, List.self_eq_append_right] at htable
    exact absurd htable (List.cons_ne_nil _ _)

namespace Generator

variable {g : Generator}

theorem index?_createStatements {ss : List Statement} (h : g.createStatements g.registry.tables = .ok ss) :
    ss.filterMap Statement.index? = [] := by
  rw [List.filterMap_eq_nil_iff]
  intro s hs
  obtain ⟨t, _, rfl | ⟨c, _, text, _, rfl⟩⟩ := mem_createStatements h hs
  · rfl
  · rfl

theorem index?_indexes (tables : List Table) :
    (tables.flatMap indexes).filterMap Statement.index? =
      (Registry.mk tables).indexed.map fun p => (indexNameAt p, p) := by
  rw [Registry.indexed, List.filterMap_flatMap, List.map_flatMap]
  refine List.flatMap_congr fun t _ => ?_
  rw [indexes_eq_map, List.filterMap_map, List.map_map, ← List.filterMap_eq_map]
  rfl

/-- The tables script creates an index for each column that gets one. -/
theorem index?_tablesScript {session : Session} {script : Script}
    (h : (g.tablesScript.outcome session).1 = .ok script) :
    script.statements.filterMap Statement.index? = g.registry.indexed.map fun p => (indexNameAt p, p) := by
  obtain ⟨ss, hss, hstatements⟩ := tablesScript_eq_ok h
  rw [hstatements, filterMap_transaction rfl rfl, List.filterMap_append, index?_createStatements hss,
    index?_indexes, List.nil_append]

end Generator

/-! ## What the database knows of indexes -/

namespace Catalogue

variable {fold : String → String} {c c' : Catalogue} {s : Statement} {ss : List Statement}

section Indexes

variable (fold)

/-- A place, by the names as the database understands them. -/
def placeOf (p : String × String) : String × String := (fold p.1, fold p.2)

/-- Where an index is on if it has this name. -/
def indexUnder (name : String) (i : String × String × String) : Option (String × String) :=
  if fold i.1 = name then some (placeOf fold i.2) else none

end Indexes

/-- A statement gives a name to an index if it creates one and the name is free. -/
theorem indexes_of_step (h : c.step fold s = .ok c') (name : String) :
    c'.indexes name = (c.indexes name).or (s.index?.bind (indexUnder fold name)) := by
  have hsame (other : s.index? = none) (hindexes : c'.indexes = c.indexes) :
      c'.indexes name = (c.indexes name).or (s.index?.bind (indexUnder fold name)) := by
    rw [other, hindexes]
    exact Option.or_none.symm
  cases s with
  | begin | commit | addForeignKey | enableRowSecurity | createPolicy | createStampFunction | dropTrigger =>
      cases h
      exact hsame rfl rfl
  | createTable table columns =>
      rw [step] at h
      split at h
      all_goals cases h; exact hsame rfl rfl
  | comment table column text =>
      rw [step] at h
      split at h
      · cases h; exact hsame rfl rfl
      · cases h
  | createTrigger trigger table function =>
      rw [step] at h
      split at h
      · cases h
      · cases h; exact hsame rfl rfl
  | createIndex index table column =>
      show c'.indexes name = (c.indexes name).or (indexUnder fold name (index, (table, column)))
      rw [step] at h
      by_cases hname : fold index = name
      · rw [indexUnder, if_pos hname]
        subst hname
        split at h
        · next htaken =>
            cases h
            rw [Option.or_of_isSome htaken]
        · next hfree =>
            split at h
            · cases h
              rw [Option.not_isSome_iff_eq_none.mp hfree]
              exact Function.update_self ..
            · cases h
      · rw [indexUnder, if_neg hname, Option.or_none]
        split at h
        · cases h; rfl
        · split at h
          · cases h
            exact Function.update_of_ne (Ne.symm hname) ..
          · cases h

/-- After statements a name is that of the index that had it before, or else of the first one that is created under it. -/
theorem indexes_of_run (h : c.run fold ss = .ok c') (name : String) :
    c'.indexes name =
      (c.indexes name).or ((ss.filterMap Statement.index?).findSome? (indexUnder fold name)) := by
  induction ss generalizing c with
  | nil =>
      cases h
      exact Option.or_none.symm
  | cons s ss ih =>
      obtain ⟨c₁, hstep, hrun⟩ := bind_eq_ok_iff.mp h
      rw [ih hrun, indexes_of_step hstep, Option.or_assoc]
      cases hindex : s.index? with
      | none => rw [List.filterMap_cons_none hindex]; rfl
      | some i =>
          rw [List.filterMap_cons_some hindex, List.findSome?_cons, Option.bind_some]
          cases indexUnder fold name i with
          | none => rfl
          | some place => rfl

/-- Where the names of some indexes were free, each is at its place afterwards exactly if those that share a name share a
place. -/
theorem indexed_iff {places : List (String × String)}
    (hindexes : ss.filterMap Statement.index? = places.map fun p => (indexNameAt p, p))
    (hfree : ∀ p ∈ places, c.indexes (fold (indexNameAt p)) = none) (h : c.run fold ss = .ok c') :
    (∀ p ∈ places, c'.indexes (fold (indexNameAt p)) = some (placeOf fold p)) ↔
      ∀ p ∈ places, ∀ q ∈ places, fold (indexNameAt p) = fold (indexNameAt q) → placeOf fold p = placeOf fold q := by
  constructor
  · intro hall p hp q hq hsame
    have hplace := (hall p hp).symm.trans ((congrArg c'.indexes hsame).trans (hall q hq))
    exact Option.some.inj hplace
  · intro hplaces p hp
    rw [indexes_of_run h, hfree p hp, Option.none_or, hindexes, List.findSome?_map]
    let named (q : String × String) := indexUnder fold (fold (indexNameAt p)) (indexNameAt q, q)
    have hself : named p = some (placeOf fold p) := if_pos rfl
    have hsome : (places.findSome? named).isSome :=
      List.findSome?_isSome_iff.mpr ⟨p, hp, hself ▸ rfl⟩
    obtain ⟨place, hplace⟩ := Option.isSome_iff_exists.mp hsome
    obtain ⟨q, hq, hnamed⟩ := List.exists_of_findSome?_eq_some hplace
    obtain ⟨hname, hat⟩ := Option.ite_none_right_eq_some.mp hnamed
    rw [hplaces p hp q hq hname.symm]
    exact hplace.trans hat.symm

/-! ## Nothing fails -/

/-- The catalogue has the tables that the schema has. -/
def Mirrors (fold : String → String) (c : Catalogue) (σ : Schema) : Prop :=
  ∀ table, c.tables (fold table) = σ.columns? table

theorem Mirrors.hasColumn {σ : Schema} (h : c.Mirrors fold σ) {table column : String}
    (hcolumn : σ.HasColumn table column) : c.hasColumn fold table column = true := by
  obtain ⟨columns, hcolumns, d, hd, hname⟩ := hcolumn
  refine (Option.any_eq_true _ _).mpr ⟨columns, (h table).trans hcolumns, ?_⟩
  exact List.any_eq_true.mpr ⟨d, hd, by simp [hname]⟩

theorem mirrors_empty : Mirrors fold {} {} := fun _ => rfl

/-- What a schema admits does not fail, triggers apart, which may be there already. -/
theorem exists_step {r : Registry} {σ : Schema} (hfold : Function.Injective fold) (h : c.Mirrors fold σ)
    (hs : σ.Admits r s) (htrigger : ∀ name table function, s ≠ .createTrigger name table function) :
    ∃ c', c.step fold s = .ok c' ∧ c'.Mirrors fold (σ.step s) := by
  cases s with
  | createTrigger name table function => exact absurd rfl (htrigger name table function)
  | begin | commit | addForeignKey | enableRowSecurity | createPolicy => exact ⟨c, rfl, h⟩
  | createStampFunction | dropTrigger => exact ⟨_, rfl, h⟩
  | comment table column text =>
      rw [step, if_pos (h.hasColumn hs)]
      exact ⟨_, rfl, h⟩
  | createIndex index table column =>
      rw [step]
      split
      · exact ⟨c, rfl, h⟩
      · rw [if_pos (h.hasColumn hs)]
        exact ⟨_, rfl, h⟩
  | createTable created columns =>
      rw [step]
      split
      · next htaken =>
          refine ⟨c, rfl, fun table => ?_⟩
          rw [Schema.columns?_createTable, ← h table]
          by_cases hname : table = created
          · rw [hname, Option.or_of_isSome htaken]
          · rw [if_neg hname, Option.or_none]
      · next hfree =>
          refine ⟨_, rfl, fun table => ?_⟩
          show Function.update c.tables (fold created) (some columns) (fold table) = _
          rw [Schema.columns?_createTable, ← h table]
          by_cases hname : table = created
          · rw [hname, Function.update_self, if_pos rfl, Option.not_isSome_iff_eq_none.mp hfree]
            rfl
          · rw [Function.update_of_ne fun heq => hname (hfold heq), if_neg hname, Option.or_none]

theorem exists_run {r : Registry} (hfold : Function.Injective fold)
    (htrigger : ∀ name table function, .createTrigger name table function ∉ ss) :
    ∀ {c : Catalogue} {σ : Schema}, c.Mirrors fold σ → σ.Walk r ss → ∃ c', c.run fold ss = .ok c' := by
  induction ss with
  | nil => exact fun _ _ => ⟨_, rfl⟩
  | cons s ss ih =>
      intro c σ h hwalk
      obtain ⟨hfirst, hrest⟩ := hwalk
      obtain ⟨c₁, hstep, hmirrors⟩ := exists_step hfold h hfirst fun name table function heq =>
        htrigger name table function (heq ▸ List.mem_cons_self)
      obtain ⟨c', hrun⟩ := ih (fun name table function hs =>
        htrigger name table function (List.mem_cons_of_mem _ hs)) hmirrors hrest
      exact ⟨c', bind_eq_ok_iff.mpr ⟨c₁, hstep, hrun⟩⟩

end Catalogue

/-- A new database carries out the tables script if it does not confuse names. -/
theorem Generator.exists_run_tablesScript {g : Generator} (hnames : g.registry.names.Nodup) {session : Session}
    {script : Script} (h : (g.tablesScript.outcome session).1 = .ok script) {fold : String → String}
    (hfold : Function.Injective fold) : ∃ c, Catalogue.run fold {} script.statements = .ok c := by
  obtain ⟨ss, hss, hstatements⟩ := tablesScript_eq_ok h
  obtain ⟨hwalk, hcovers⟩ := Schema.walk_createStatements hnames hss
  rw [hstatements]
  refine Catalogue.exists_run hfold (fun name table function hs => ?_) Catalogue.mirrors_empty
    (Schema.walk_transaction (Schema.walk_append hwalk (Schema.walk_of_forall (Schema.admits_indexes hcovers))))
  simp only [transaction, List.cons_append, List.mem_cons, List.mem_append, reduceCtorEq, List.not_mem_nil,
    or_false, false_or] at hs
  rcases hs with hs | hs
  · obtain ⟨t, _, heq | ⟨c, _, text, _, heq⟩⟩ := mem_createStatements hss hs
    · cases heq
    · cases heq
  · obtain ⟨t, _, hs⟩ := List.mem_flatMap.mp hs
    obtain ⟨c, _, heq⟩ := mem_indexes hs
    cases heq

/-! ## Only clashes lose indexes -/

/-- Where table names are distinct, the indexes of the tables script have names of their own exactly if no two of them
clash.  In a database where these names were free, all columns that were chosen have their indexes afterwards exactly if
those of one name are one column, as the database understands names.  A new database that does not confuse names
carries out the script without an error, so with it indexes are lost to clashes only. -/
theorem indexes_are_lost_only_to_clashes (g : Generator) (hnames : g.registry.names.Nodup) :
    (∀ (session : Session) (script : Script), (g.tablesScript.outcome session).1 = .ok script →
      (((script.statements.filterMap Statement.index?).map (·.1)).Nodup ↔ g.registry.IndexesApart) ∧
      (∀ (fold : String → String) (c c' : Catalogue),
        (∀ p ∈ g.registry.indexed, c.indexes (fold (indexNameAt p)) = none) →
        c.run fold script.statements = .ok c' →
        ((∀ p ∈ g.registry.indexed, c'.indexes (fold (indexNameAt p)) = some (fold p.1, fold p.2)) ↔
          ∀ p ∈ g.registry.indexed, ∀ q ∈ g.registry.indexed, fold (indexNameAt p) = fold (indexNameAt q) →
            (fold p.1, fold p.2) = (fold q.1, fold q.2))) ∧
      (∀ fold : String → String, Function.Injective fold → ∃ c',
        Catalogue.run fold {} script.statements = .ok c' ∧
        ((∀ p ∈ g.registry.indexed, c'.indexes (fold (indexNameAt p)) = some (fold p.1, fold p.2)) ↔
          g.registry.IndexesApart))) ∧
    (g.settings.encryptedComment.IsNulFree → ∀ session : Session,
      ∃ script, (g.tablesScript.outcome session).1 = .ok script) := by
  refine ⟨fun session script h => ?_, fun hcomment => Generator.tablesScript_ok hcomment⟩
  have hindexes := Generator.index?_tablesScript h
  refine ⟨?_, fun fold c c' hfree hrun => Catalogue.indexed_iff hindexes hfree hrun, fun fold hfold => ?_⟩
  · rw [hindexes, List.map_map]
    exact (List.nodup_map_iff_inj_on (Registry.nodup_indexed hnames)).trans Registry.indexesApart_iff.symm
  · obtain ⟨c', hrun⟩ := Generator.exists_run_tablesScript hnames h hfold
    refine ⟨c', hrun, (Catalogue.indexed_iff hindexes (fun _ _ => rfl) hrun).trans ?_⟩
    rw [Registry.indexesApart_iff]
    refine forall₂_congr fun p _ => forall₂_congr fun q _ => ?_
    rw [hfold.eq_iff]
    refine imp_congr_right fun _ => ?_
    rw [Catalogue.placeOf, Catalogue.placeOf, Prod.mk.injEq, hfold.eq_iff, hfold.eq_iff, Prod.ext_iff]

/-- No two of the indexes of the application clash, and so none of them is lost. -/
theorem application_loses_no_index :
    ∃ script c,
      ((Generator.tablesScript ⟨.application, {}⟩).outcome default).1 = .ok script ∧
      ((script.statements.filterMap Statement.index?).map (·.1)).Nodup ∧
      Catalogue.run id {} script.statements = .ok c ∧
      ∀ p ∈ Registry.application.indexed, c.indexes (indexNameAt p) = some p := by
  obtain ⟨lost, given⟩ := indexes_are_lost_only_to_clashes ⟨.application, {}⟩ (by decide)
  obtain ⟨script, hscript⟩ := given ⟨_, rfl, by decide⟩ default
  obtain ⟨hnodup, _, hrun⟩ := lost default script hscript
  have hapart : Registry.application.IndexesApart := Registry.indexesApart_iff.mpr (by decide +kernel)
  obtain ⟨c, hc, hmade⟩ := hrun id Function.injective_id
  exact ⟨script, c, hscript, hnodup.mpr hapart, hc, hmade.mpr hapart⟩

/-- Baskets, each called after one of its items. -/
def Table.basket : Table where
  name := "basket"
  columns := [everywhere "basket_key" .uuid, everywhere "item_name" .text]
  primaryKey := some "basket_key"

/-- The items of baskets. -/
def Table.basketItem : Table where
  name := "basket_item"
  columns := [everywhere "item_key" .uuid, everywhere "name" .text]
  primaryKey := some "item_key"

/-- The index on the names of items in baskets has the name of the one on the baskets, and is not made. -/
theorem names_of_items_have_no_index :
    let g : Generator := ⟨⟨[.basket, .basketItem]⟩, {}⟩
    g.registry.names.Nodup ∧ g.registry.HasIdentifiers ∧ ("basket_item", "name") ∈ g.registry.indexed ∧
      ∃ script c,
        (g.tablesScript.outcome default).1 = .ok script ∧
        ¬ ((script.statements.filterMap Statement.index?).map (·.1)).Nodup ∧
        Catalogue.run id {} script.statements = .ok c ∧
        c.indexes (indexNameAt ("basket_item", "name")) = some ("basket", "item_name") := by
  intro g
  have hnames : g.registry.names.Nodup := by decide
  obtain ⟨script, hscript⟩ :=
    Generator.tablesScript_ok (g := g) (show g.settings.encryptedComment.IsNulFree from ⟨_, rfl, by decide⟩) default
  obtain ⟨c, hrun⟩ := Generator.exists_run_tablesScript hnames hscript Function.injective_id
  have hindexes := Generator.index?_tablesScript hscript
  refine ⟨hnames, by decide, by decide, script, c, hscript, ?_, hrun, ?_⟩
  · rw [hindexes]
    decide +kernel
  · rw [Catalogue.indexes_of_run hrun, hindexes]
    decide +kernel

end SchemaScript
