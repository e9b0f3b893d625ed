/-
# The metadata loses nothing

## What is proved

What the service tells about its tables can be read again as descriptions of tables, whatever else is told beside
them, and gives the same tables in the same order.  So a registry that is made from an answer has the scripts of the
registry that was asked about.  The answer is given exactly if the rule of every table can be selected and no name of
a column for the backend has half a pair in it, that name being the one text of a description that may have one.

## How

`Described` says which fields make a record a description of a column; other fields do not matter.  Each field is read
back by a lemma of its own, and what is read is the column itself, because the fields are in order already: a column
carries the proofs that its name, its tag and its tiers are not empty, and a table carries the proof that its columns and
its key fit together, which is all that reading looks for (`build_self`).
-/
import SchemaScript.Proofs.Answers

namespace SchemaScript

open Text (ofString)

/-! ## Reading what was written -/

namespace Reading

variable {α : Type} {fs : Fields} {name : String} {v : Value} {read : Value → Reading α} {a : α}

theorem required_eq_ok (h : fs.get? name = some v) (hread : read v = .ok a) :
    required fs name read = .ok a := by
  simp only [required]
  rw [h]
  show under _ (read v) = .ok a
  rw [hread]
  rfl

theorem optional_eq_ok {default : α} (h : fs.get? name = some v) (hread : read v = .ok a) :
    Reading.optional fs name default read = .ok a := by
  simp only [Reading.optional]
  rw [h]
  show under _ (read v) = .ok a
  rw [hread]
  rfl

theorem items_of_map {as : List α} {vs : List Value} (h : vs.map read = as.map .ok) (i : Nat) :
    items read i vs = as.map .ok := by
  induction vs generalizing as i with
  | nil =>
      cases as with
      | nil => rfl
      | cons a as => cases h
  | cons v vs ih =>
      cases as with
      | nil => cases h
      | cons a as =>
          obtain ⟨hread, hrest⟩ := List.cons.inj h
          simp only [List.map_cons, items]
          rw [hread, ih hrest]
          rfl

/-- Items that were written one by one are read one by one. -/
theorem map_undone {write : α → Value} (h : ∀ a, read (write a) = .ok a) (as : List α) :
    (as.map write).map read = as.map .ok := by
  rw [List.map_map]
  exact List.map_congr_left fun a _ => h a

theorem faults_map_ok (as : List α) : (as.map (Except.ok : α → Reading α)).flatMap faults = [] := by
  induction as with
  | nil => rfl
  | cons a as ih => exact ih

theorem values_map_ok (as : List α) : values (as.map (Except.ok : α → Reading α)) = as := by
  induction as with
  | nil => rfl
  | cons a as ih => exact congrArg (a :: ·) ih

end Reading

namespace Value

open Reading

theorem readName_ofString {s : String} (h : s ≠ "") : readName (.text (ofString s)) = .ok ⟨s, h⟩ := by
  have hread : readString (.text (ofString s)) = .ok s := by
    simp only [readString, text?, Text.string?_ofString]
  simp only [readName, hread]
  rw [dif_pos h]

theorem readFlag_bool (b : Bool) : readFlag (.bool b) = .ok b := rfl

theorem readText?_ofText? (t : Option Text) : readText? (ofText? t) = .ok t := by
  cases t with
  | none => rfl
  | some t => rfl

theorem readMember_label {α : Type} {ofLabel? : String → Option α} {label : α → String}
    (h : ∀ a, ofLabel? (label a) = some a) (choices : String) (a : α) :
    readMember ofLabel? choices (.text (ofString (label a))) = .ok a := by
  simp only [readMember, string?, text?, Option.bind_some, Text.string?_ofString]
  rw [h]

theorem readMembers_map {α : Type} {read : Value → Reading α} {write : α → Value}
    (h : ∀ a, read (write a) = .ok a) (as : List α) :
    readMembers read (.list (as.map write)) = .ok as := by
  simp only [readMembers]
  rw [items_of_map (map_undone h as), faults_map_ok]
  exact congrArg Except.ok (values_map_ok as)

theorem readTiers_toList {s : TierSet} (h : s.isEmpty = false) :
    readTiers (.list (s.toList.map fun t => .text (ofString t.label))) = .ok ⟨s, h⟩ := by
  have hread : readMembers readTier (.list (s.toList.map fun t => .text (ofString t.label))) = .ok s.toList :=
    readMembers_map (readMember_label Tier.ofLabel?_label _) s.toList
  simp only [readTiers]
  rw [hread]
  simp only [TierSet.ofList_toList]
  rw [dif_pos h]

theorem readContainers?_toList (s : ContainerSet) :
    readContainers? (.list (s.toList.map fun k => .text (ofString k.label))) = .ok (some s) := by
  have hread : readMembers readContainer (.list (s.toList.map fun k => .text (ofString k.label))) =
      .ok s.toList :=
    readMembers_map (readMember_label Container.ofLabel?_label _) s.toList
  show (readMembers readContainer _).map _ = _
  rw [hread]
  show Except.ok (some (ContainerSet.ofList s.toList)) = _
  rw [ContainerSet.ofList_toList]

end Value

namespace Column

open Reading

/-- The fields of a record that make it the description of a column. -/
structure Described (c : Column) (fs : Fields) : Prop where
  name : fs.get? "name" = some (.text c.name)
  typeTag : fs.get? "abstract_type" = some (.text c.typeTag)
  encrypted : fs.get? "encrypted" = some (.bool c.encrypted)
  tiers : fs.get? "sync_destinations" = some (.list (c.tiers.toList.map fun t => .text t.label))
  containers : fs.get? "containers" = some (match c.containers with
    | none => .null
    | some s => .list (s.toList.map fun k => .text k.label))
  isUnique : fs.get? "is_unique" = some (.bool c.isUnique)
  relationalName : fs.get? "relational_column_name" = some (.ofText? c.relationalName)

theorem ofValue_of_described {c : Column} {fs : Fields} (h : c.Described fs) :
    ofValue (.record fs) = .ok c := by
  have hcontainers : Value.readContainers? (match c.containers with
      | none => .null
      | some s => .list (s.toList.map fun k => .text (ofString k.label))) = .ok c.containers := by
    cases c.containers with
    | none => rfl
    | some s => exact Value.readContainers?_toList s
  simp only [ofValue]
  rw [required_eq_ok h.name (Value.readName_ofString c.name_ne),
    required_eq_ok h.typeTag (Value.readName_ofString c.typeTag_ne),
    optional_eq_ok h.encrypted (Value.readFlag_bool _), required_eq_ok h.tiers (Value.readTiers_toList c.tiers_ne),
    optional_eq_ok h.containers hcontainers, optional_eq_ok h.isUnique (Value.readFlag_bool _),
    optional_eq_ok h.relationalName (Value.readText?_ofText? c.relationalName)]

theorem ofValue_metadata (c : Column) : ofValue c.metadata = .ok c :=
  ofValue_of_described ⟨rfl, rfl, rfl, rfl, rfl, rfl, rfl⟩

end Column

namespace Table

open Reading

/-- A table is made again from its own parts. -/
theorem build_self (t : Table) :
    build t.name t.columns t.primaryKey t.name_ne t.columns_ne = .ok t := by
  have hfault : fault? t.name t.columns t.primaryKey = none := fault?_eq_none_iff.mpr t.wellFormed
  simp only [build]
  split
  next f hf =>
    rw [hfault] at hf
    cases hf
  · rfl

theorem buildKeyed_self (t : Table) :
    buildKeyed t.name t.columns (t.primaryKey.map ofString) t.name_ne t.columns_ne = .ok t := by
  have hbuild := t.build_self
  cases hkey : t.primaryKey with
  | none =>
      rw [hkey] at hbuild
      simp only [buildKeyed, Option.map_none, hbuild]
      rfl
  | some key =>
      rw [hkey] at hbuild
      have hwritten : (ofString key).written = .ok key := Text.written_eq_ok_iff.mpr rfl
      simp only [buildKeyed, Option.map_some, hwritten, hbuild]
      rfl

theorem readColumns_of_map {cs : List Column} {vs : List Value} (h : vs.map Column.ofValue = cs.map .ok)
    (hcs : cs ≠ []) : readColumns (.list vs) = .ok ⟨cs, hcs⟩ := by
  simp only [readColumns]
  rw [items_of_map h, faults_map_ok]
  simp only [values_map_ok]
  rw [dif_pos hcs]

/-- Whatever rule is told with it, what is told about a table is read as the table. -/
theorem ofValue_metadata (t : Table) (rule : Option Text) : ofValue (t.metadata rule) = .ok t := by
  simp only [metadata, ofValue]
  rw [required_eq_ok rfl (Value.readName_ofString t.name_ne),
    required_eq_ok rfl (readColumns_of_map (map_undone Column.ofValue_metadata t.columns) t.columns_ne),
    optional_eq_ok rfl (Value.readText?_ofText? (t.primaryKey.map ofString))]
  exact t.buildKeyed_self

end Table

/-! ## What the service tells -/

theorem Generator.mapM_ofValue {g : Generator} {entries : List Value}
    (h : g.registry.tables.mapM g.tableMetadata = .ok entries) :
    entries.mapM Table.ofValue = .ok g.registry.tables := by
  refine mapM_undo (fun t v ht => ?_) h
  obtain ⟨selected, _, rfl⟩ := tableMetadata_eq_ok ht
  exact t.ofValue_metadata _

/-- What is told about the tables can be read again and gives the tables, in order; from what was read come the
scripts of the registry that was asked about.  It is told exactly if the rule of every table can be selected and no
column's name for the backend has half a pair in it. -/
theorem told_tables_read_back (g : Generator) (site : Site) (s : Session) :
    let answer := ((Service.respond ⟨site, some g⟩ "GET" Site.tablesPath).outcome s).1
    (∀ r, answer = .ok (.ok r) → ∃ entries : List Value,
      r = .report (.record [("tables", .list entries), ("count", .int entries.length)]) ∧
      entries.mapM Table.ofValue = .ok g.registry.tables ∧
      ∀ tables, entries.mapM Table.ofValue = .ok tables → ∀ (σ : Settings) (s' : Session),
        (Generator.completeScript ⟨⟨tables⟩, σ⟩).outcome s' =
          (Generator.completeScript ⟨g.registry, σ⟩).outcome s') ∧
    ∀ role : Text, g.settings.authenticatedRole = .text role →
      ((∃ r, answer = .ok (.ok r)) ↔
        g.registry.Whole ∧ ¬ ((role.HasNul ∨ ¬ role.Whole) ∧ ∃ t ∈ g.registry.tables, t.FallsToRole)) := by
  intro answer
  refine ⟨fun r hr => ?_, fun role hrole => ?_⟩
  · obtain ⟨_, v, hv, rfl⟩ := Service.answers_tablesPath_iff.mp hr
    obtain ⟨entries, hentries, rfl⟩ := Generator.metadata_eq_ok hv
    have hread := Generator.mapM_ofValue hentries
    refine ⟨entries, rfl, hread, fun tables htables σ s' => ?_⟩
    have hsame : tables = g.registry.tables := Except.ok.inj (htables.symm.trans hread)
    rw [hsame]
  · have htold : (∃ v, g.metadata = .ok v) ↔
        ¬ ((role.HasNul ∨ ¬ role.Whole) ∧ ∃ t ∈ g.registry.tables, t.FallsToRole) := by
      rw [← not_iff_not, not_ok_iff, not_not, ← Sql.Constant.ofText_fails_iff]
      simp only [Generator.metadata_eq_error_iff, hrole, exists_and_right]
      rfl
    rw [← htold]
    constructor
    · rintro ⟨r, hr⟩
      obtain ⟨hwhole, v, hv, _⟩ := Service.answers_tablesPath_iff.mp hr
      exact ⟨hwhole, v, hv⟩
    · rintro ⟨hwhole, v, hv⟩
      exact ⟨.report v, Service.answers_tablesPath_iff.mpr ⟨hwhole, v, hv, rfl⟩⟩

/-- What is told about the five tables of the application reads back as these. -/
theorem application_reads_back :
    let answer := ((Service.respond ⟨.full, some ⟨.application, {}⟩⟩ "GET" Site.tablesPath).outcome default).1
    ∃ entries : List Value,
      answer = .ok (.ok (.report (.record [("tables", .list entries), ("count", .int entries.length)]))) ∧
      entries.mapM Table.ofValue = .ok Table.application := by
  intro answer
  obtain ⟨reads, told⟩ := told_tables_read_back ⟨.application, {}⟩ .full default
  have hwhole : Registry.application.Whole := by decide
  have hwritten : ¬ (Text.HasNul "authenticated" ∨ ¬ Text.Whole "authenticated") := by decide
  obtain ⟨r, hr⟩ := (told "authenticated" rfl).mpr ⟨hwhole, fun h => hwritten h.1⟩
  obtain ⟨entries, rfl, hread, _⟩ := reads r hr
  exact ⟨entries, hr, hread⟩

/-- A half in the column's name for the backend keeps the whole answer from being sent, though the role is in order. -/
theorem half_in_column_is_not_sent :
    let g : Generator := ⟨⟨[.halved]⟩, {}⟩
    g.settings.authenticatedRole = .text "authenticated" ∧ ¬ Text.HasNul "authenticated" ∧
      ((Service.respond ⟨.schemaOnly, some g⟩ "GET" Site.tablesPath).outcome default).1 =
        .ok (.error (.reportText ⟨0, [0]⟩)) := by
  intro g
  let told := Generator.listing [Table.halved.metadata (some "authenticated")]
  have htold : g.metadata = .ok told := rfl
  have halves : told.unwritable? = some ⟨0, [0]⟩ := rfl
  refine ⟨rfl, by decide, ?_⟩
  rw [Service.outcome_tablesPath, htold]
  show Except.ok (Response.report told).sent = _
  rw [Response.sent_report, halves]

end SchemaScript
