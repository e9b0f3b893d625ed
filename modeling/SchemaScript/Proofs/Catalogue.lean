/-
# Scripts that are carried out again

## What is proved

Take any database in which the script of the tables, or that of the triggers, is carried out without an error.
Carried out once more, the script meets no error either, and leaves everything exactly as the first time left
it.  Nothing is asked of the registry: tables may share a name, and so may indexes of different tables.

## What a database is here

A `Catalogue` knows tables with their columns, the comments on columns, indexes and functions by their names, and
triggers by table and name.  `step` says what a statement does to it.

* `CREATE TABLE` and `CREATE INDEX` do nothing where the name is taken; a new index needs its column.
* `COMMENT` overwrites, and needs its column; so does the function, which needs nothing.
* `DROP TRIGGER` takes the trigger away if it is there; `CREATE TRIGGER` is an error if it is.

The names in the statements are not quoted.  How a database understands such a name, whether it folds the case of
its letters or cuts it off at some length, is left open: `fold` may be any function.

## How

A statement alone need not be repeatable: to drop a trigger undoes what the statement after it did.  So the
scripts are taken in blocks (`Block`), of one statement each but for the two that renew a trigger.  What a block
leaves behind (`Holds`) no later block takes away (`Keeps`), and where it is there the block changes nothing.
All comments have one text and all triggers one function; this is why overwriting takes nothing away.
-/
import Mathlib.Logic.Function.Basic
import SchemaScript.Proofs.Parts
import SchemaScript.Proofs.StatementTexts

namespace SchemaScript

open Sql (Statement ColumnDef Constant)

/-- What a database knows, by the names as it understands them. -/
structure Catalogue where
  tables : String → Option (List ColumnDef) := fun _ => none
  /-- By table and column. -/
  comments : String × String → Option Constant := fun _ => none
  /-- The table and the column that each index is on. -/
  indexes : String → Option (String × String) := fun _ => none
  /-- What each function does. -/
  functions : String → Option String := fun _ => none
  /-- The function that each trigger calls, by table and name. -/
  triggers : String × String → Option String := fun _ => none

namespace Catalogue

/-- Why a statement is an error. -/
inductive Fault where
  | missingColumn (table column : String)
  | repeatedTrigger (table name : String)
deriving DecidableEq, Repr

section Semantics

variable (fold : String → String)

def hasColumn (c : Catalogue) (table column : String) : Bool :=
  (c.tables (fold table)).any fun columns => columns.any fun d => fold d.name == fold column

/-- What a statement does to the catalogue.  Constraints and policies are not in it. -/
def step (c : Catalogue) : Statement → Except Fault Catalogue
  | .createTable table columns =>
      if (c.tables (fold table)).isSome then .ok c
      else .ok { c with tables := Function.update c.tables (fold table) (some columns) }
  | .comment table column text =>
      let place := (fold table, fold column)
      if c.hasColumn fold table column then
        .ok { c with comments := Function.update c.comments place (some text) }
      else .error (.missingColumn table column)
  | .createIndex name table column =>
      let place := (fold table, fold column)
      if (c.indexes (fold name)).isSome then .ok c
      else if c.hasColumn fold table column then
        .ok { c with indexes := Function.update c.indexes (fold name) (some place) }
      else .error (.missingColumn table column)
  | .createStampFunction name =>
      .ok { c with functions := Function.update c.functions (fold name) (some Lexing.stampBody) }
  | .dropTrigger name table =>
      let key := (fold table, fold name)
      .ok { c with triggers := Function.update c.triggers key none }
  | .createTrigger name table function =>
      let key := (fold table, fold name)
      if (c.triggers key).isSome then .error (.repeatedTrigger table name)
      else .ok { c with triggers := Function.update c.triggers key (some function) }
  | .begin | .commit | .addForeignKey .. | .enableRowSecurity .. | .createPolicy .. => .ok c

/-- What statements do one after another, up to the first error. -/
def run (c : Catalogue) (ss : List Statement) : Except Fault Catalogue := ss.foldlM (step fold) c

/-- The catalogue after a transaction, which an error undoes as a whole. -/
def after (c : Catalogue) (ss : List Statement) : Catalogue := (c.run fold ss).toOption.getD c

end Semantics

variable {fold : String → String}

theorem run_append (c : Catalogue) (ss ss' : List Statement) :
    c.run fold (ss ++ ss') = c.run fold ss >>= fun c' => c'.run fold ss' :=
  List.foldlM_append

theorem run_singleton (c : Catalogue) (s : Statement) : c.run fold [s] = c.step fold s := by
  show (c.step fold s >>= fun c' => .ok c') = c.step fold s
  cases c.step fold s <;> rfl

/-- Where success is repeated without a change, so is a whole transaction, whether it succeeds or not. -/
theorem after_after {ss : List Statement}
    (h : ∀ c c' : Catalogue, c.run fold ss = .ok c' → c'.run fold ss = .ok c') (c : Catalogue) :
    (c.after fold ss).after fold ss = c.after fold ss := by
  cases hrun : c.run fold ss with
  | error fault =>
      have hsame : c.after fold ss = c := by rw [after, hrun]; rfl
      rw [hsame, hsame]
  | ok c' =>
      have hfirst : c.after fold ss = c' := by rw [after, hrun]; rfl
      rw [hfirst, after, h c c' hrun]
      rfl

/-! ## Blocks -/

/-- The least parts of the scripts that can be repeated. -/
inductive Block where
  | begin
  | commit
  | table (table : String) (columns : List ColumnDef)
  | comment (table column : String)
  | index (name table column : String)
  | function
  | trigger (table : String)

/-- The statements of a block; `text` is that of all comments, `function` that of all triggers. -/
def Block.statements (text : Constant) (function : String) : Block → List Statement
  | .begin => [.begin]
  | .commit => [.commit]
  | .table t columns => [.createTable t columns]
  | .comment t column => [.comment t column text]
  | .index name t column => [.createIndex name t column]
  | .function => [.createStampFunction function]
  | .trigger t => Statement.stampTrigger t function

section Blocks

variable (fold : String → String) (text : Constant) (function : String)

/-- Where the trigger of a table is found. -/
def triggerKey (table : String) : String × String := (fold table, fold (Statement.triggerName table))

/-- What a block leaves behind. -/
def Holds (c : Catalogue) : Block → Prop
  | .begin | .commit => True
  | .table table _ => (c.tables (fold table)).isSome
  | .comment table column =>
      c.hasColumn fold table column ∧ c.comments (fold table, fold column) = some text
  | .index name _ _ => (c.indexes (fold name)).isSome
  | .function => c.functions (fold function) = some Lexing.stampBody
  | .trigger table => c.triggers (triggerKey fold table) = some function

/-- All that a block could have left behind in the first catalogue is in the second one. -/
structure Keeps (c c' : Catalogue) : Prop where
  tables : ∀ table columns, c.tables table = some columns → c'.tables table = some columns
  comments : ∀ key, c.comments key = some text → c'.comments key = some text
  indexes : ∀ name place, c.indexes name = some place → c'.indexes name = some place
  functions : ∀ name, c.functions name = some Lexing.stampBody →
    c'.functions name = some Lexing.stampBody
  triggers : ∀ key, c.triggers key = some function → c'.triggers key = some function

end Blocks

variable {text : Constant} {function : String}

theorem Keeps.refl (c : Catalogue) : Keeps text function c c :=
  ⟨fun _ _ h => h, fun _ h => h, fun _ _ h => h, fun _ h => h, fun _ h => h⟩

theorem Keeps.trans {c c' c'' : Catalogue} (h : Keeps text function c c')
    (h' : Keeps text function c' c'') : Keeps text function c c'' where
  tables table columns ht := h'.tables table columns (h.tables table columns ht)
  comments key hk := h'.comments key (h.comments key hk)
  indexes name place hn := h'.indexes name place (h.indexes name place hn)
  functions name hn := h'.functions name (h.functions name hn)
  triggers key hk := h'.triggers key (h.triggers key hk)

theorem hasColumn_mono {c c' : Catalogue} (h : Keeps text function c c') {table column : String}
    (hc : c.hasColumn fold table column) : c'.hasColumn fold table column := by
  obtain ⟨columns, htable, hcolumn⟩ := (Option.any_eq_true _ _).mp hc
  exact (Option.any_eq_true _ _).mpr ⟨columns, h.tables _ _ htable, hcolumn⟩

theorem Holds.mono {c c' : Catalogue} (h : Keeps text function c c') {b : Block}
    (hb : c.Holds fold text function b) : c'.Holds fold text function b := by
  cases b with
  | begin => trivial
  | commit => trivial
  | table table columns =>
      obtain ⟨columns', hcolumns⟩ := Option.isSome_iff_exists.mp hb
      exact Option.isSome_iff_exists.mpr ⟨columns', h.tables _ _ hcolumns⟩
  | comment table column => exact ⟨hasColumn_mono h hb.1, h.comments _ hb.2⟩
  | index name table column =>
      obtain ⟨place, hplace⟩ := Option.isSome_iff_exists.mp hb
      exact Option.isSome_iff_exists.mpr ⟨place, h.indexes _ _ hplace⟩
  | function => exact h.functions _ hb
  | trigger table => exact h.triggers _ hb

/-! ## One block -/

section Update

variable {κ ν : Type} [DecidableEq κ] {f : κ → Option ν} {k : κ} {v : ν}

/-- An entry survives that the same value is written somewhere. -/
theorem update_same_value (h : f k = some v) (k' : κ) :
    Function.update f k' (some v) k = some v := by
  by_cases hk : k = k'
  · rw [hk, Function.update_self]
  · rw [Function.update_of_ne hk, h]

/-- An entry survives that another one is added. -/
theorem update_new_entry (h : f k = some v) {k' : κ} (hnew : ¬ (f k').isSome) (w : ν) :
    Function.update f k' (some w) k = some v := by
  have hk : k ≠ k' := by
    rintro rfl
    exact hnew (Option.isSome_iff_exists.mpr ⟨v, h⟩)
  rw [Function.update_of_ne hk, h]

theorem isSome_update_self (f : κ → Option ν) (k : κ) (v : ν) :
    (Function.update f k (some v) k).isSome := by
  rw [Function.update_self]
  rfl

end Update

/-- Renewing a trigger never fails: after its removal there is none in the way. -/
theorem run_stampTrigger (c : Catalogue) (table function : String) :
    c.run fold (Statement.stampTrigger table function) =
      .ok { c with triggers := Function.update c.triggers (triggerKey fold table) (some function) } := by
  let key := triggerKey fold table
  let dropped : Catalogue := { c with triggers := Function.update c.triggers key none }
  have hgone : dropped.triggers key = none := Function.update_self ..
  show dropped.run fold [.createTrigger (Statement.triggerName table) table function] = _
  rw [run_singleton]
  show (if (dropped.triggers key).isSome then _ else
    Except.ok { c with triggers := Function.update dropped.triggers key (some function) }) = _
  rw [hgone, Function.update_idem]
  rfl

/-- What one block does: it leaves behind what it should, and takes nothing away. -/
theorem holds_of_run_block {c c' : Catalogue} {b : Block}
    (h : c.run fold (b.statements text function) = .ok c') :
    Keeps text function c c' ∧ c'.Holds fold text function b := by
  have same : Keeps text function c c := .refl c
  cases b with
  | begin => cases h; exact ⟨same, trivial⟩
  | commit => cases h; exact ⟨same, trivial⟩
  | table table columns =>
      rw [Block.statements, run_singleton, step] at h
      split at h
      · next htaken => cases h; exact ⟨same, htaken⟩
      · next hnew =>
          cases h
          refine ⟨{ same with tables := fun _ _ ht => update_new_entry ht hnew _ }, ?_⟩
          exact isSome_update_self ..
  | comment table column =>
      rw [Block.statements, run_singleton, step] at h
      split at h
      · next hcolumn =>
          cases h
          refine ⟨{ same with comments := fun _ hk => update_same_value hk _ }, hcolumn, ?_⟩
          exact Function.update_self ..
      · cases h
  | index name table column =>
      rw [Block.statements, run_singleton, step] at h
      split at h
      · next htaken => cases h; exact ⟨same, htaken⟩
      next hnew =>
        split at h
        · cases h
          refine ⟨{ same with indexes := fun _ _ hn => update_new_entry hn hnew _ }, ?_⟩
          exact isSome_update_self ..
        · cases h
  | function =>
      cases h
      exact ⟨{ same with functions := fun _ hn => update_same_value hn _ },
        Function.update_self ..⟩
  | trigger table =>
      rw [Block.statements, run_stampTrigger] at h
      cases h
      exact ⟨{ same with triggers := fun _ hk => update_same_value hk _ },
        Function.update_self ..⟩

/-- Where a block has left behind what it should, it changes nothing. -/
theorem run_block_of_holds {c : Catalogue} {b : Block} (h : c.Holds fold text function b) :
    c.run fold (b.statements text function) = .ok c := by
  cases b with
  | begin => rfl
  | commit => rfl
  | table table columns =>
      have htaken : (c.tables (fold table)).isSome := h
      rw [Block.statements, run_singleton, step, if_pos htaken]
  | comment table column =>
      obtain ⟨hcolumn, htext⟩ := h
      rw [Block.statements, run_singleton, step, if_pos hcolumn, ← htext, Function.update_eq_self]
  | index name table column =>
      have htaken : (c.indexes (fold name)).isSome := h
      rw [Block.statements, run_singleton, step, if_pos htaken]
  | function =>
      have hbody : c.functions (fold function) = some Lexing.stampBody := h
      rw [Block.statements, run_singleton, step, ← hbody, Function.update_eq_self]
  | trigger table =>
      have hfunction : c.triggers (triggerKey fold table) = some function := h
      rw [Block.statements, run_stampTrigger, ← hfunction, Function.update_eq_self]

/-! ## Blocks one after another -/

/-- In the end everything is there that any of the blocks left behind. -/
theorem holds_of_run {blocks : List Block} {c c' : Catalogue}
    (h : c.run fold (blocks.flatMap (Block.statements text function)) = .ok c') :
    Keeps text function c c' ∧ ∀ b ∈ blocks, c'.Holds fold text function b := by
  induction blocks generalizing c with
  | nil =>
      cases h
      exact ⟨.refl c', fun b hb => absurd hb List.not_mem_nil⟩
  | cons b bs ih =>
      rw [List.flatMap_cons, run_append] at h
      obtain ⟨c₁, hfirst, hrest⟩ := bind_eq_ok_iff.mp h
      obtain ⟨hkeeps, hb⟩ := holds_of_run_block hfirst
      obtain ⟨hkeeps', hbs⟩ := ih hrest
      -- What the first block left behind the later ones keep.
      exact ⟨hkeeps.trans hkeeps', List.forall_mem_cons.mpr ⟨hb.mono hkeeps', hbs⟩⟩

theorem run_of_holds {blocks : List Block} {c : Catalogue}
    (h : ∀ b ∈ blocks, c.Holds fold text function b) :
    c.run fold (blocks.flatMap (Block.statements text function)) = .ok c := by
  induction blocks with
  | nil => rfl
  | cons b bs ih =>
      obtain ⟨hb, hbs⟩ := List.forall_mem_cons.mp h
      rw [List.flatMap_cons, run_append, run_block_of_holds hb]
      exact ih hbs

/-- The statements come in blocks of one comment text and one function. -/
def InBlocks (ss : List Statement) : Prop :=
  ∃ (text : Constant) (function : String) (blocks : List Block),
    ss = blocks.flatMap (Block.statements text function)

theorem InBlocks.run_again {ss : List Statement} (h : InBlocks ss) {c c' : Catalogue}
    (hrun : c.run fold ss = .ok c') : c'.run fold ss = .ok c' := by
  obtain ⟨text, function, blocks, rfl⟩ := h
  exact run_of_holds (holds_of_run hrun).2

/-- Statements are in blocks if each of them is a block by itself. -/
theorem inBlocks_of_forall {ss : List Statement} (text : Constant) (function : String)
    (h : ∀ s ∈ ss, ∃ b : Block, b.statements text function = [s]) : InBlocks ss := by
  refine ⟨text, function, ?_⟩
  induction ss with
  | nil => exact ⟨[], rfl⟩
  | cons s ss ih =>
      obtain ⟨b, hb⟩ := h s List.mem_cons_self
      obtain ⟨bs, hbs⟩ := ih fun s' hs' => h s' (List.mem_cons_of_mem _ hs')
      refine ⟨b :: bs, ?_⟩
      rw [List.flatMap_cons, hb, ← hbs]
      rfl

end Catalogue

namespace Generator

open Catalogue (Block InBlocks)

/-- Each statement of the tables script is a block by itself: its comments have the text of the settings. -/
theorem inBlocks_tables {g : Generator} {ss : List Statement}
    (h : g.createStatements g.registry.tables = .ok ss) :
    InBlocks (transaction (ss ++ g.registry.tables.flatMap indexes)) := by
  refine Catalogue.inBlocks_of_forall (commentConstant g.settings) "" fun s hs => ?_
  rcases List.mem_cons.mp hs with rfl | hs
  · exact ⟨.begin, rfl⟩
  rcases List.mem_append.mp hs with hs | hs
  · rcases List.mem_append.mp hs with hs | hs
    · obtain ⟨t, _, rfl | ⟨c, _, text, htext, rfl⟩⟩ := mem_createStatements h hs
      · exact ⟨.table t.name (t.relationalColumns.map (columnDef t)), rfl⟩
      · exact ⟨.comment t.name c.name, by rw [← commentConstant_eq htext]; rfl⟩
    · obtain ⟨t, _, hs⟩ := List.mem_flatMap.mp hs
      obtain ⟨c, _, rfl⟩ := mem_indexes hs
      exact ⟨.index (Statement.indexName t.name c.name) t.name c.name, rfl⟩
  · cases List.mem_singleton.mp hs
    exact ⟨.commit, rfl⟩

/-- In the triggers script each trigger is created right after its own removal. -/
theorem inBlocks_triggers {g : Generator} {ss : List Statement} (h : g.triggerStatementsOf = .ok ss) :
    InBlocks (transaction ss) := by
  obtain ⟨function, _, rfl⟩ := triggerStatementsOf_eq_ok h
  refine ⟨.null, function,
    .begin :: .function :: g.stampedTables.map (fun t => .trigger t.name) ++ [.commit], ?_⟩
  rw [List.cons_append, List.cons_append, List.flatMap_cons, List.flatMap_cons, List.flatMap_append,
    List.flatMap_map]
  rfl

end Generator

/-! ## The second time -/

/-- If the script of the tables, or that of the triggers, is carried out without an error, a second time changes
nothing; and as a transaction, which may also fail, it does as much the first time as it does twice.  The statements
are those that are put into the script.  Where names are identifiers and the settings stay on their lines, a reader of
the text finds just these, as `complete_script_splits` shows of the complete script, which has the same pieces. -/
theorem script_can_be_carried_out_again (g : Generator) (part : ScriptPart)
    (hpart : part = .tables ∨ part = .triggers) (session : Session) (script : Script)
    (hscript : ((part.generate g).outcome session).1 = .ok script) (fold : String → String)
    (c : Catalogue) :
    (∀ c', c.run fold script.statements = .ok c' → c'.run fold script.statements = .ok c') ∧
      (c.after fold script.statements).after fold script.statements =
        c.after fold script.statements := by
  have hblocks : Catalogue.InBlocks script.statements := by
    rcases hpart with rfl | rfl
    · obtain ⟨ss, hss, hstatements⟩ := Generator.tablesScript_eq_ok hscript
      rw [hstatements]
      exact Generator.inBlocks_tables hss
    · have htriggers : g.triggersScript = .ok script := by
        rw [← hscript]
        exact (Run.gives_liftExcept _ session).1.symm
      obtain ⟨ss, hss, hstatements⟩ := exists_of_map_eq g.statements_triggersScript htriggers
      rw [hstatements]
      exact Generator.inBlocks_triggers hss
  exact ⟨fun c' hrun => hblocks.run_again hrun,
    Catalogue.after_after (fun c c' hrun => hblocks.run_again hrun) c⟩

/-- Users by their places in groups. -/
def Table.user : Table where
  name := "user"
  columns := [everywhere "group_key" .uuid, everywhere "nickname" .text true]
  primaryKey := some "group_key"

/-- Groups; the index on their key has the name of the index on that of the users. -/
def Table.userGroup : Table where
  name := "user_group"
  columns := [everywhere "key" .uuid, everywhere "motto" .text]
  primaryKey := some "key"

/-- How a database understands a name when it does not tell capitals from small letters. -/
def Catalogue.ignoreCase (name : String) : String := String.ofList (name.toList.map Char.toLower)

/-- Another table of users, unless capitals count. -/
def Table.capitalUser : Table where
  name := "User"
  columns := [everywhere "GROUP_KEY" .uuid]
  primaryKey := some "GROUP_KEY"

/-- Two tables have one name and two indexes have one, and the first of each stays. -/
theorem clashing_names_are_skipped_twice :
    ∃ script c,
      ((ScriptPart.tables.generate ⟨⟨[.user, .userGroup, .capitalUser]⟩, {}⟩).outcome default).1 =
        .ok script ∧
      Catalogue.run Catalogue.ignoreCase {} script.statements = .ok c ∧
      c.indexes "idx_user_group_key" = some ("user", "group_key") ∧
      c.run Catalogue.ignoreCase script.statements = .ok c := by
  obtain ⟨script, hscript⟩ := Generator.tablesScript_ok
    (show (Generator.mk ⟨[.user, .userGroup, .capitalUser]⟩ {}).settings.encryptedComment.IsNulFree
      from ⟨_, rfl, by decide⟩) default
  obtain ⟨ss, hss, hstatements⟩ := Generator.tablesScript_eq_ok hscript
  have hindex : ((Catalogue.run Catalogue.ignoreCase {} script.statements).toOption.bind fun c =>
      c.indexes "idx_user_group_key") = some ("user", "group_key") := by
    cases hss
    rw [hstatements]
    decide +kernel
  cases hrun : Catalogue.run Catalogue.ignoreCase {} script.statements with
  | error fault => rw [hrun] at hindex; cases hindex
  | ok c =>
      rw [hrun] at hindex
      exact ⟨script, c, hscript, hrun, hindex, (script_can_be_carried_out_again
        ⟨⟨[.user, .userGroup, .capitalUser]⟩, {}⟩ .tables (.inl rfl) default script hscript
        Catalogue.ignoreCase {}).1 c hrun⟩

end SchemaScript
