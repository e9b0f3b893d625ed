/-
# A filled form is its statement

## What is proved

A form takes exactly the entries that it has, and asks for those that must be given (`accept_eq_ok_iff`).  Where the
entries are strings, a form gives the statement of these strings, and of the names and words that the form makes up for
what is left out (`Gives`); so does the form of a table, whose columns are filled forms themselves.  Each form is found
under its name (`answer_of_gives`, `answer_of_table`).

## How

`Gives` says form by form which entries belong to which statement, with no word about how a form writes; the proof has one
case for each form, in which every entry comes down to a string that is written as it is.
-/
import SchemaScript.Proofs.Merging
import SchemaScript.Proofs.Parts
import SchemaScript.Proofs.WholeTexts
import SchemaScript.Sql.Form

namespace SchemaScript

open Text (ofString)

namespace Sql.Form

/-! ## Entries -/

theorem takes_iff {f : Form} {entry : Text} :
    f.takes entry = true ↔ ∃ name ∈ f.required ++ f.optional, entry = ofString name := by
  simp only [takes, Option.any_eq_true, Text.string?_eq_some_iff, List.contains_iff_mem]
  constructor
  · rintro ⟨name, hname, hmem⟩
    exact ⟨name, hmem, hname⟩
  · rintro ⟨name, hmem, hname⟩
    exact ⟨name, hname, hmem⟩

/-- A form accepts entries of its own, among which are those that must be given. -/
theorem accept_eq_ok_iff {f : Form} {fs : Fields} :
    f.accept fs = .ok () ↔ (∀ e ∈ fs, ∃ name ∈ f.required ++ f.optional, e.1 = ofString name) ∧
      ∀ name ∈ f.required, (fs.get? (ofString name)).isSome = true := by
  have htaken : (fs.find? fun e => !f.takes e.1) = none ↔
      ∀ e ∈ fs, ∃ name ∈ f.required ++ f.optional, e.1 = ofString name := by
    simp only [List.find?_eq_none, Bool.not_eq_true, Bool.not_eq_false', takes_iff]
  have hgiven : (f.required.filter fun name => (fs.get? (ofString name)).isNone) = [] ↔
      ∀ name ∈ f.required, (fs.get? (ofString name)).isSome = true := by
    simp only [List.filter_eq_nil_iff, Bool.not_eq_true, Option.isNone_eq_false_iff]
  rw [← htaken, ← hgiven, accept]
  cases fs.find? fun e => !f.takes e.1 with
  | some e => simp
  | none =>
      cases f.required.filter fun name => (fs.get? (ofString name)).isNone with
      | nil => simp
      | cons name names => simp

theorem written_ofString (s : String) : written (ofString s) = .ok s := Generator.written_eq_ok_iff.mpr rfl

/-- An entry for a name: the name itself, or nothing and the name that is made up. -/
def Names (fs : Fields) (name : String) (default given : String) : Prop :=
  (entry fs name).isPresent = false ∧ given = default ∨ given ≠ "" ∧ entry fs name = .text given

/-- An entry for a word: the word itself, or none and the word that is usual. -/
def Words (fs : Fields) (name : String) (default given : String) : Prop :=
  fs.get? name = none ∧ given = default ∨ fs.get? name = some (.text given)

section

variable {fs : Fields} {name default given : String}

theorem word_eq (h : entry fs name = .text given) : word fs name = .ok (ofString given) := by
  rw [word, h]
  rfl

theorem shown_eq (h : entry fs name = .text given) : shown fs name = ofString given := by
  rw [shown, h]
  rfl

theorem nameOr_eq (h : Names fs name default given) : nameOr fs name (ofString default) = .ok (ofString given) := by
  rcases h with ⟨habsent, rfl⟩ | ⟨hne, hentry⟩
  · simp only [nameOr, habsent]
    rfl
  · have hpresent : (Value.text (ofString given)).isPresent = true := by
      have hnil : ofString given ≠ [] := fun h => hne (Text.ofString_inj.mp h)
      simp only [Value.isPresent, List.isEmpty_eq_false_iff.mpr hnil, Bool.not_false]
    simp only [nameOr, hentry, hpresent, if_true]
    rfl

theorem wordOr_eq (h : Words fs name default given) : wordOr fs name default = .ok (ofString given) := by
  rcases h with ⟨habsent, rfl⟩ | hgiven
  · simp only [wordOr, habsent]
  · simp only [wordOr, hgiven]
    rfl

theorem plain_eq (h : Words fs name default given) :
    ((fs.get? name).getD (.text default)).plain = ofString given := by
  rcases h with ⟨habsent, rfl⟩ | hgiven
  · rw [habsent]
    rfl
  · rw [hgiven]
    rfl

theorem conventional_ofString (start table column : String) :
    conventional (ofString start) (ofString table) (ofString column) =
      ofString (Statement.conventionalName start table column) := by
  simp only [conventional, Statement.conventionalName, Text.ofString_append]

end

/-! ## What a form gives -/

/-- The entries of a column definition. -/
structure Defines (fs : Fields) (c : ColumnDef) : Prop where
  name : entry fs "name" = .text c.name
  sqlType : entry fs "sql_type" = .text c.sqlType
  notNull : flag fs "not_null" = c.notNull
  unique : flag fs "unique" = c.unique
  primaryKey : flag fs "primary_key" = c.primaryKey

/-- The entry of a condition. -/
inductive Checks : Value → Check → Prop where
  | owner (column : String) : Checks (.list [.text "owner", .text column]) (.owner column)
  | role {v : Value} {constant : Constant} (h : Constant.ofValue v = .ok constant) :
      Checks (.list [.text "role", v]) (.role constant)
  | raw (condition : String) : Checks (.list [.text "raw", .text condition]) (.raw condition)

/-- The statements, or the parts of one, that a form gives for entries. -/
inductive Gives (fs : Fields) : Form → Sheet → Prop where
  | column {c : ColumnDef} (hc : Defines fs c) : Gives fs column (.single c.sql)
  | index {name table column : String} (htable : entry fs "table" = .text table)
      (hcolumn : entry fs "column" = .text column)
      (hname : Names fs "name" (Statement.indexName table column) name) :
      Gives fs index (.single (Statement.createIndex name table column).sql)
  | indexName {start table column : String} (hstart : Words fs "prefix" Statement.indexStart start)
      (htable : entry fs "table" = .text table) (hcolumn : entry fs "column" = .text column) :
      Gives fs indexName (.single (Statement.conventionalName start table column))
  | foreignKey {name table column referencedTable referencedColumn : String}
      (htable : entry fs "table" = .text table) (hcolumn : entry fs "column" = .text column)
      (hreferencedTable : entry fs "referenced_table" = .text referencedTable)
      (hreferencedColumn : entry fs "referenced_column" = .text referencedColumn)
      (hname : Names fs "name" (Statement.foreignKeyName table column) name) :
      Gives fs foreignKey
        (.single (Statement.addForeignKey name table column referencedTable referencedColumn).sql)
  | stampFunction {function : String} (hfunction : Words fs "function_name" Statement.stampFunction function) :
      Gives fs stampFunction (.single (Statement.createStampFunction function).sql)
  | stampTrigger {name table function : String} (htable : entry fs "table" = .text table)
      (hfunction : Words fs "function_name" Statement.stampFunction function)
      (hname : Names fs "trigger_name" (Statement.triggerName table) name) :
      Gives fs stampTrigger (.several
        [(Statement.dropTrigger name table).sql, (Statement.createTrigger name table function).sql])
  | comment {table column : String} {text : Constant} (htable : entry fs "table" = .text table)
      (hcolumn : entry fs "column" = .text column) (htext : Constant.ofValue (entry fs "comment") = .ok text) :
      Gives fs comment (.single (Statement.comment table column text).sql)
  | enableRowSecurity {table : String} (htable : entry fs "table" = .text table) :
      Gives fs enableRowSecurity (.single (Statement.enableRowSecurity table).sql)
  | ownerCheck {column : String} (hcolumn : entry fs "column" = .text column) :
      Gives fs ownerCheck (.single (Check.owner column).sql)
  | roleCheck {constant : Constant} (hrole : Constant.ofValue (entry fs "role") = .ok constant) :
      Gives fs roleCheck (.single (Check.role constant).sql)
  | policy {table command : String} {condition : Check} (htable : entry fs "table" = .text table)
      (hcommand : entry fs "command" = .text command) (hcheck : Checks (entry fs "check") condition) :
      Gives fs policy (.single (Statement.createPolicy table command condition).sql)
  | policySet {table : String} {condition : Check} (htable : entry fs "table" = .text table)
      (hcheck : Checks (entry fs "check") condition) :
      Gives fs policySet (.several ((Statement.policies table condition).map fun s => .ofString s.sql))
  | transactionStart : Gives fs transactionStart (.single Statement.begin.sql)
  | transactionEnd : Gives fs transactionEnd (.single Statement.commit.sql)

theorem columnDef_eq {fs : Fields} {c : ColumnDef} (h : Defines fs c) : columnDef fs = .ok (.ok c) := by
  simp only [columnDef, word_eq h.name, word_eq h.sqlType, h.notNull, h.unique, h.primaryKey, ok_bind, written_ofString]
  rfl

theorem check_eq {v : Value} {condition : Check} (h : Checks v condition) : check v = .ok (.ok condition) := by
  cases h with
  | owner column =>
      show Except.ok (do return Check.owner (← written (ofString column))) = _
      rw [written_ofString]
      rfl
  | role h =>
      show (do let role ← Constant.ofValue _; pure (Except.ok (Check.role role))) = _
      rw [h]
      rfl
  | raw condition =>
      show Except.ok (do return Check.raw (← written (ofString condition))) = _
      rw [written_ofString]
      rfl

/-- What a form writes is what it gives. -/
theorem write_of_gives {fs : Fields} {f : Form} {sheet : Sheet} (h : Gives fs f sheet) : f.write fs = .ok sheet := by
  cases h with
  | column hc =>
      simp only [column, columnDef_eq hc, ok_bind]
      rfl
  | index htable hcolumn hname =>
      -- The name that is made up is put together from the entries as they are shown.
      have hname := nameOr_eq hname
      rw [Statement.indexName, ← conventional_ofString, ← shown_eq htable, ← shown_eq hcolumn] at hname
      simp only [index, hname, word_eq htable, word_eq hcolumn, ok_bind, written_ofString]
      rfl
  | indexName hstart htable hcolumn =>
      simp only [indexName, plain_eq hstart, shown_eq htable, shown_eq hcolumn, conventional_ofString]
  | foreignKey htable hcolumn hreferencedTable hreferencedColumn hname =>
      have hname := nameOr_eq hname
      rw [Statement.foreignKeyName, ← conventional_ofString, ← shown_eq htable, ← shown_eq hcolumn] at hname
      simp only [foreignKey, hname, word_eq htable, word_eq hcolumn, word_eq hreferencedTable,
        word_eq hreferencedColumn, ok_bind, written_ofString]
      rfl
  | stampFunction hfunction =>
      simp only [stampFunction, wordOr_eq hfunction, ok_bind, written_ofString]
      rfl
  | stampTrigger htable hfunction hname =>
      have hname := nameOr_eq hname
      rw [Statement.triggerName, Text.ofString_append, Text.ofString_append, ← shown_eq htable] at hname
      simp only [stampTrigger, hname, word_eq htable, wordOr_eq hfunction, ok_bind, written_ofString]
      rfl
  | comment htable hcolumn htext =>
      simp only [comment, word_eq htable, word_eq hcolumn, htext, ok_bind, written_ofString]
      rfl
  | enableRowSecurity htable =>
      simp only [enableRowSecurity, word_eq htable, ok_bind, written_ofString]
      rfl
  | ownerCheck hcolumn =>
      simp only [ownerCheck, word_eq hcolumn, ok_bind, written_ofString]
      rfl
  | roleCheck hrole =>
      simp only [roleCheck, hrole, ok_bind]
      rfl
  | @policy table command condition htable hcommand hcheck =>
      -- The title of the policy has the command in small letters, so it is no string before these are known to be whole.
      have hlower : Text.Whole (Text.lower (ofString command)) := Text.whole_lowerFrom (Text.whole_ofString command) false
      obtain ⟨title, htitle⟩ : ∃ title, ofString table ++ ofString "_auth_" ++ Text.lower (ofString command) =
          ofString title := by
        refine Text.whole_iff.mp (Text.whole_append_iff.mpr ⟨?_, hlower⟩)
        exact Text.whole_append_iff.mpr ⟨Text.whole_ofString _, Text.whole_ofString _⟩
      have hwanted : (entry fs "command").text? = some (ofString command) := by
        rw [hcommand]
        rfl
      simp only [policy, check_eq hcheck, hwanted, word_eq htable, ok_bind, htitle, written_ofString]
      rfl
  | policySet htable hcheck =>
      simp only [policySet, check_eq hcheck, word_eq htable, ok_bind, written_ofString]
      rfl
  | transactionStart => rfl
  | transactionEnd => rfl

/-! ## Forms by name -/

theorem find?_name {forms : List Form} (hnames : (forms.map name).Nodup) {f : Form} (hf : f ∈ forms) :
    (forms.find? fun other => decide (ofString f.name = ofString other.name)) = some f := by
  induction forms with
  | nil => cases hf
  | cons other forms ih =>
      rw [List.map_cons, List.nodup_cons] at hnames
      rcases List.mem_cons.mp hf with rfl | hf
      · exact List.find?_cons_of_pos (decide_eq_true rfl)
      · have hne : f.name ≠ other.name := fun heq => hnames.1 (heq ▸ List.mem_map_of_mem hf)
        rw [List.find?_cons_of_neg (by simpa [Text.ofString_inj] using hne)]
        exact ih hnames.2 hf

/-- A form is found under its name, if the condition among the entries, where there is one, can be read. -/
theorem answer_name {f : Form} (hf : f ∈ all) {fs : Fields}
    (hcheck : ∀ v, fs.get? "check" = some v → ∃ condition, check v = .ok condition) :
    answer f.name fs = f.fill fs := by
  have hnames : (all.map name).Nodup := by decide
  have htable : ofString f.name ≠ ofString table := by
    have hnone : ∀ n ∈ all.map name, ofString n ≠ ofString table := by decide
    exact hnone f.name (List.mem_map_of_mem hf)
  simp only [answer, if_neg htable, find?_name hnames hf]
  cases hv : fs.get? "check" with
  | none => rfl
  | some v =>
      obtain ⟨condition, hcondition⟩ := hcheck v hv
      simp only [hcondition]
      rfl

theorem Gives.mem_all {fs : Fields} {f : Form} {sheet : Sheet} (h : Gives fs f sheet) : f ∈ all := by
  cases h <;> simp [all]

/-- Only the forms of policies have an entry for a condition. -/
theorem Gives.checks_or_not_mem {fs : Fields} {f : Form} {sheet : Sheet} (h : Gives fs f sheet) :
    (∃ condition, Checks (entry fs "check") condition) ∨ "check" ∉ f.required ++ f.optional := by
  cases h with
  | policy _ _ hcheck => exact .inl ⟨_, hcheck⟩
  | policySet _ hcheck => exact .inl ⟨_, hcheck⟩
  | _ => exact .inr (by decide)

theorem get?_of_accept {f : Form} {fs : Fields} (haccept : f.accept fs = .ok ()) {name : String}
    (hname : name ∉ f.required ++ f.optional) : fs.get? (ofString name) = none := by
  rw [Fields.get?_eq_none_iff]
  intro hmem
  obtain ⟨e, he, heq⟩ := List.mem_map.mp hmem
  obtain ⟨own, hown, heq'⟩ := (accept_eq_ok_iff.mp haccept).1 e he
  rw [heq, Text.ofString_inj] at heq'
  exact hname (heq' ▸ hown)

/-- A form that is filled in with entries of its own gives, under its name, what these entries say. -/
theorem answer_of_gives {fs : Fields} {f : Form} {sheet : Sheet} (haccept : f.accept fs = .ok ())
    (h : Gives fs f sheet) : answer f.name fs = .ok sheet := by
  have hcheck : ∀ v, fs.get? "check" = some v → ∃ condition, check v = .ok condition := by
    intro v hv
    rcases h.checks_or_not_mem with ⟨condition, hcondition⟩ | hnone
    · rw [entry, hv, Option.getD_some] at hcondition
      exact ⟨_, check_eq hcondition⟩
    · rw [get?_of_accept haccept hnone] at hv
      cases hv
  rw [answer_name h.mem_all hcheck, fill, haccept, write_of_gives h]
  rfl

/-! ## Tables -/

/-- The columns of a table are filled forms of columns. -/
def Columns (v : Value) (c : ColumnDef) : Prop := ∃ fs, v = .record fs ∧ column.accept fs = .ok () ∧ Defines fs c

theorem columnDefs_eq {vs : List Value} {columns : List ColumnDef} (h : List.Forall₂ Columns vs columns) :
    columnDefs vs = .ok (columns.map .ok) := by
  induction h with
  | nil => rfl
  | cons hv _ ih =>
      obtain ⟨fs, rfl, haccept, hc⟩ := hv
      simp only [columnDefs, haccept, columnDef_eq hc, ih]
      rfl

/-- The form of a table gives the table with the columns of its filled forms. -/
theorem answer_of_table {fs : Fields} {name : String} {vs : List Value} {columns : List ColumnDef}
    (hown : ∀ e ∈ fs, e.1 = ofString "table" ∨ e.1 = ofString "columns")
    (htable : entry fs "table" = .text name) (hcolumns : fs.get? "columns" = some (.list vs))
    (h : List.Forall₂ Columns vs columns) :
    answer table fs = .ok (.single (Statement.createTable name columns).sql) := by
  have hcheck : fs.get? "check" = none := by
    rw [Fields.get?_eq_none_iff]
    intro hmem
    obtain ⟨e, he, heq⟩ := List.mem_map.mp hmem
    rcases hown e he with heq' | heq' <;> exact absurd (heq.symm.trans heq') (by decide)
  have hgiven : (fs.get? "table").isSome = true := by
    cases hget : fs.get? "table" with
    | some v => rfl
    | none =>
        rw [entry, hget] at htable
        cases htable
  have haccept (write : Fields → Except Fault Sheet) :
      accept { name := table, required := ["table", "columns"], write } fs = .ok () := by
    rw [accept_eq_ok_iff]
    refine ⟨fun e he => ?_, ?_⟩
    · rcases hown e he with heq | heq
      · exact ⟨"table", List.mem_append_left _ List.mem_cons_self, heq⟩
      · exact ⟨"columns", List.mem_append_left _ (List.mem_cons_of_mem _ List.mem_cons_self), heq⟩
    · simp only [List.forall_mem_cons, List.not_mem_nil, false_imp_iff, implies_true, and_true]
      exact ⟨hgiven, by rw [hcolumns]; rfl⟩
  simp only [answer, if_true, hcheck, createTable, hcolumns, columnDefs_eq h, ok_bind, fill, haccept, word_eq htable,
    written_ofString, mapM_map_eq_ok (f := id) (fun _ => rfl)]
  rfl

end Sql.Form

end SchemaScript
