/-
# Every table has its own trigger

## What is proved

After the function, the script of the triggers has one block for each registered table that carries `updated_at`, in the
order of the registry, and no other block.  A block consists of a remark, the statement that drops an older trigger, and
the one that creates the new trigger; all three are about the same table, and the trigger calls the function from the top
of the script.  Put one after another, the statements of the blocks are those that are generated after the function.

The script is given exactly if the name of the function is a text without halves of pairs.

## How

The blocks are made from three lists that are gone through together: the tables, and every other one of the statements,
once from the first and once from the second on.  With the two statements of one more table in front, both lists of
statements have one item more in front (`everyOther_cons`), and so each table meets its own statements and none is left
out (`triggerScripts_stampTriggers`).
-/
import SchemaScript.Proofs.RowSecurity

namespace SchemaScript

open Sql (Statement)
open Text (ofString)

/-! ## Texts of the statements -/

theorem sql_dropTrigger (name table : String) : (Statement.dropTrigger name table).sql =
    "DROP TRIGGER IF EXISTS " ++ name ++ " ON " ++ table := rfl

theorem sql_createTrigger (name table function : String) : (Statement.createTrigger name table function).sql =
    "CREATE TRIGGER " ++ name ++ "\nBEFORE UPDATE ON " ++ table ++ "\nFOR EACH ROW\nEXECUTE FUNCTION " ++ function ++
      "()" := rfl

/-! ## The block of a table -/

/-- The block for the trigger of a table. -/
def triggerPieces (function : String) (t : Table) : Script :=
  [.remark ("Add updated_at trigger for " ++ t.name),
    .statement (.dropTrigger ("set_" ++ t.name ++ "_updated_at") t.name),
    .statement (.createTrigger ("set_" ++ t.name ++ "_updated_at") t.name function), .blank]

/-- The text of the block. -/
def triggerText (function : String) (t : Table) : String :=
  "-- " ++ ("Add updated_at trigger for " ++ t.name) ++ "\n" ++
    ("DROP TRIGGER IF EXISTS " ++ ("set_" ++ t.name ++ "_updated_at") ++ " ON " ++ t.name) ++ ";\n" ++
    ("CREATE TRIGGER " ++ ("set_" ++ t.name ++ "_updated_at") ++ "\nBEFORE UPDATE ON " ++ t.name ++
      "\nFOR EACH ROW\nEXECUTE FUNCTION " ++ function ++ "()") ++ ";\n" ++ "\n"

theorem text_triggerPieces (function : String) (t : Table) :
    Script.text (triggerPieces function t) = ofString (triggerText function t) := by
  simp only [triggerPieces, triggerText, Script.text_cons, Script.text_nil, Piece.text, sql_dropTrigger,
    sql_createTrigger, Text.ofString_append, List.append_assoc, List.append_nil]

namespace Generator

theorem stampedTables_eq_filter (g : Generator) :
    g.stampedTables = g.registry.tables.filter fun t => decide (t.Carries "updated_at") := by
  refine List.filter_congr fun t _ => ?_
  rw [Bool.eq_iff_iff, isStamped_iff, decide_eq_true_eq]
  rfl

theorem text_flatMap_triggerPieces (function : String) (tables : List Table) :
    Script.text (tables.flatMap (triggerPieces function)) = tables.flatMap fun t => ofString (triggerText function t) := by
  rw [List.flatMap_def, Script.text_flatten, List.flatMap_map]
  exact List.flatMap_congr fun t _ => text_triggerPieces function t

end Generator

/-! ## The script -/

/-- If the function has a name, the script of the triggers is the function and then one block for each table that carries
`updated_at`, and the statements of the blocks are those that come after the function.  Otherwise there is no script. -/
theorem triggers_script_pairs_tables (g : Generator) :
    (∀ function : String, g.settings.triggerFunction.text? = some (ofString function) →
      ∃ script rest, g.triggersScript = .ok script ∧ g.triggers function = .createStampFunction function :: rest ∧
        let tables := g.registry.tables.filter fun t => decide (t.Carries "updated_at")
        script = Generator.triggersHeader function ++ tables.flatMap (triggerPieces function) ++ [.statement .commit] ∧
        script.text = Script.text (Generator.triggersHeader function) ++
          (tables.flatMap fun t => ofString (triggerText function t)) ++ ofString "COMMIT;\n" ∧
        Script.statements (tables.flatMap (triggerPieces function)) = rest) ∧
    ∀ script, g.triggersScript = .ok script →
      ∃ function : String, g.settings.triggerFunction.text? = some (ofString function) := by
  refine ⟨fun function hname => ?_, fun script hscript => ?_⟩
  · have hfunction := Generator.stampFunction_eq_ok_iff.mpr hname
    refine ⟨_, g.stampTriggers function, ?_, rfl, rfl, ?_, ?_⟩
    · rw [g.triggersScript_eq_blocks, hfunction, g.stampedTables_eq_filter]
      rfl
    · rw [Script.text_append, Script.text_append, Generator.text_flatMap_triggerPieces]
      rfl
    · rw [Generator.stampTriggers, g.stampedTables_eq_filter, Script.statements_flatMap]
      rfl
  · rw [g.triggersScript_eq_blocks] at hscript
    obtain ⟨function, hfunction, _⟩ := bind_eq_ok_iff.mp hscript
    exact ⟨function, Generator.stampFunction_eq_ok_iff.mp hfunction⟩

/-- A table that is registered two times has two blocks, and one that does not carry the column has none. -/
theorem projects_have_a_block_each :
    let g : Generator := ⟨⟨[.projects, .localAppState, .projects]⟩, {}⟩
    ∃ script rest, g.triggersScript = .ok script ∧
      g.triggers "update_modified_column" = .createStampFunction "update_modified_column" :: rest ∧
      script = Generator.triggersHeader "update_modified_column" ++
        (triggerPieces "update_modified_column" .projects ++ triggerPieces "update_modified_column" .projects) ++
        [.statement .commit] ∧
      rest = [.dropTrigger "set_projects_updated_at" "projects",
        .createTrigger "set_projects_updated_at" "projects" "update_modified_column",
        .dropTrigger "set_projects_updated_at" "projects",
        .createTrigger "set_projects_updated_at" "projects" "update_modified_column"] := by
  intro g
  obtain ⟨script, rest, hscript, htriggers, hpieces, _, hrest⟩ :=
    (triggers_script_pairs_tables g).1 "update_modified_column" rfl
  refine ⟨script, rest, hscript, htriggers, hpieces.trans (by decide +kernel), hrest.symm.trans (by decide +kernel)⟩

/-- A function with half of a pair in its name is not written, though there is a table for a block. -/
theorem no_block_calls_halved_function :
    let g : Generator := ⟨⟨[.projects]⟩, { triggerFunction := .text [.char 'f', .half 0x4ff] }⟩
    Table.Carries .projects "updated_at" ∧ g.triggersScript = .error (.unwritable ⟨1, [0x4ff]⟩) :=
  ⟨by decide, rfl⟩

end SchemaScript
