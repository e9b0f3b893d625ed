/-
# What is told about tables

An answer is chosen first, and then it is sent if it can be written.  A report can be written exactly if no text in it
has half a pair, and in what is told about tables only one kind of text may have one: a name of a column for the
backend.  Besides, nothing is told at all where the rule of a table cannot be selected.  These lemmas say what the
service answers at the two paths for tables, and when it does.
-/
import SchemaScript.Proofs.Faults
import SchemaScript.Service

namespace SchemaScript

open Text (ofString)
open Sql (Constant)

/-! ## Values without halves -/

namespace Value

/-- No text in the value has half a pair in it. -/
def Whole (v : Value) : Prop := ∀ t ∈ v.texts, t.Whole

theorem unwritable?_eq_none_iff_whole {v : Value} : v.unwritable? = none ↔ v.Whole := by
  rw [unwritable?_eq_none_iff]
  exact forall₂_congr fun t _ => Text.whole_iff.symm

@[simp] theorem whole_null : Value.null.Whole := by simp [Whole, texts]

@[simp] theorem whole_bool (b : Bool) : (Value.bool b).Whole := by simp [Whole, texts]

@[simp] theorem whole_int (n : Int) : (Value.int n).Whole := by simp [Whole, texts]

@[simp] theorem whole_text_iff {t : Text} : (Value.text t).Whole ↔ t.Whole := by simp [Whole, texts]

@[simp] theorem whole_ofText?_iff {t : Option Text} : (ofText? t).Whole ↔ ∀ n ∈ t, n.Whole := by
  cases t with
  | none => simp [ofText?]
  | some t => simp [ofText?]

@[simp] theorem whole_list_iff {vs : List Value} : (Value.list vs).Whole ↔ ∀ v ∈ vs, v.Whole := by
  induction vs with
  | nil => simp [Whole, texts, textsOfItems]
  | cons v vs ih =>
      simp only [Whole, texts] at ih
      simp only [Whole, texts, textsOfItems, List.forall_mem_append, List.forall_mem_cons, ih]

@[simp] theorem whole_record_iff {fs : Fields} :
    (Value.record fs).Whole ↔ ∀ f ∈ fs, f.1.Whole ∧ f.2.Whole := by
  induction fs with
  | nil => simp [Whole, texts, textsOfFields]
  | cons f fs ih =>
      simp only [Whole, texts] at ih
      simp only [Whole, texts, textsOfFields, List.forall_mem_append, List.forall_mem_cons, ih,
        List.cons_append, and_assoc]

end Value

/-- No half of a pair is in the column's name for the backend. -/
def Column.Whole (c : Column) : Prop := ∀ name ∈ c.relationalName, Text.Whole name

/-- No half of a pair is in any description of a table. -/
def Registry.Whole (r : Registry) : Prop := ∀ t ∈ r.tables, ∀ c ∈ t.columns, c.Whole

instance (c : Column) : Decidable c.Whole :=
  inferInstanceAs (Decidable (∀ name ∈ c.relationalName, Text.Whole name))

instance (r : Registry) : Decidable r.Whole :=
  inferInstanceAs (Decidable (∀ t ∈ r.tables, ∀ c ∈ t.columns, c.Whole))

/-- A column with half a pair for its name in the backend. -/
def Column.halved : Column :=
  { name := "half", typeTag := "text", tiers := .ofList [.relational], relationalName := some [.ofNat 0xd800] }

/-- A table that can be described but not told about. -/
def Table.halved : Table := { name := "t", columns := [Column.halved] }

theorem Column.whole_metadata_iff (c : Column) : c.metadata.Whole ↔ c.Whole := by
  cases hcontainers : c.containers with
  | none => simp [metadata, hcontainers, Text.whole_ofString, Column.Whole]
  | some s => simp [metadata, hcontainers, Text.whole_ofString, Column.Whole]

theorem Table.whole_metadata_iff (t : Table) {rule : Option Text} (hrule : ∀ name ∈ rule, name.Whole) :
    (t.metadata rule).Whole ↔ ∀ c ∈ t.columns, c.Whole := by
  have hkey : (Value.ofString? t.primaryKey).Whole := by
    refine Value.whole_ofText?_iff.mpr fun name hname => ?_
    obtain ⟨key, _, rfl⟩ := Option.map_eq_some_iff.mp hname
    exact Text.whole_ofString key
  simp only [metadata, Value.whole_record_iff, List.forall_mem_cons, Text.whole_ofString, hkey,
    Value.whole_ofText?_iff.mpr hrule]
  simp [Text.whole_ofString, Column.whole_metadata_iff]

/-! ## The paths for tables and scripts -/

namespace Site

/-- The path of the tables. -/
def tablesPath : Text := ofString (base ++ "/tables")

/-- The path of the table of a name. -/
def tablePath (name : Text) : Text := ofString (base ++ "/tables/") ++ name

/-- The path of a script. -/
def scriptPath : ScriptPart → Text
  | .complete => ofString (base ++ "/sql")
  | .tables => ofString (base ++ "/sql/tables")
  | .foreignKeys => ofString (base ++ "/sql/foreign-keys")
  | .triggers => ofString (base ++ "/sql/triggers")
  | .policies => ofString (base ++ "/sql/rls")

theorem endpoint?_tablesPath (site : Site) : site.endpoint? tablesPath = some .tables := by
  cases site <;> rfl

theorem endpoint?_scriptPath (site : Site) (part : ScriptPart) :
    site.endpoint? (scriptPath part) = some (.script part) := by
  cases site <;> cases part <;> decide +kernel

/-- A fixed path does not start like one that ends with a name. -/
theorem find?_isFixed_append (site : Site) {start : String} (hstart : start ∈ named.map (·.1)) (name : Text) :
    site.fixed.find? (fun f => isFixed (ofString start ++ name) f.1) = none := by
  have hfixed : ∀ start ∈ named.map (·.1), ∀ f ∈ site.fixed, ¬ Text.startsWith (ofString f.1) (ofString start) ∧
      ¬ Text.startsWith (ofString f.1 ++ ofString "\n") (ofString start) := by
    cases site <;> decide +kernel
  refine List.find?_eq_none.mpr fun f hf h => ?_
  obtain ⟨hpath, hline⟩ := hfixed start hstart f hf
  have differs {path : Text} (h : ¬ Text.startsWith path (ofString start)) :
      (ofString start ++ name == path) = false := by
    refine beq_eq_false_iff_ne.mpr ?_
    rintro rfl
    exact h (List.isPrefixOf_iff_prefix.mpr (List.prefix_append _ _))
  simp only [isFixed] at h
  rw [differs hpath] at h
  cases (differs hline).symm.trans h

theorem nameAfter?_append (start : Text) {name : Text} (hne : name ≠ []) (hslash : .char '/' ∉ name) :
    nameAfter? (start ++ name) start = some name := by
  have hstart : Text.startsWith (start ++ name) start = true :=
    List.isPrefixOf_iff_prefix.mpr (List.prefix_append _ _)
  have hname : (name.isEmpty || name.contains (.char '/')) = false := by
    rw [Bool.or_eq_false_iff, List.isEmpty_eq_false_iff, List.contains_eq_mem, decide_eq_false_iff_not]
    exact ⟨hne, hslash⟩
  simp only [nameAfter?]
  rw [if_pos hstart, List.drop_left, hname]
  rfl

theorem endpoint?_tablePath (site : Site) {name : Text} (hne : name ≠ []) (hslash : .char '/' ∉ name) :
    site.endpoint? (tablePath name) = some (.table name) := by
  have hafter : nameAfter? (tablePath name) (ofString (base ++ "/tables/")) = some name :=
    nameAfter?_append _ hne hslash
  simp only [endpoint?]
  rw [tablePath, find?_isFixed_append site (by decide) name, ← tablePath]
  simp only [named, List.findSome?_cons]
  rw [hafter]
  rfl

end Site

/-! ## Answers at these paths -/

/-- The answer if it can be sent, or else why it cannot. -/
def Response.sent (r : Response) : Except BodyFault Response :=
  match r.body.fault? with
  | none => .ok r
  | some fault => .error fault

theorem Response.sent_report {v : Value} : (report v).sent =
    match v.unwritable? with
    | none => .ok (report v)
    | some halves => .error (.reportText halves) := by
  simp only [sent, report, Body.fault?]
  cases v.unwritable? <;> rfl

theorem Response.sent_report_eq_ok {v : Value} {r : Response} :
    (report v).sent = .ok r ↔ v.Whole ∧ r = report v := by
  rw [sent_report, ← Value.unwritable?_eq_none_iff_whole]
  cases v.unwritable? with
  | none => exact ⟨fun h => ⟨rfl, (Except.ok.inj h).symm⟩, fun h => by rw [h.2]⟩
  | some halves => exact ⟨fun h => (by cases h), fun h => (by cases h.1)⟩

theorem Response.sent_report_ok {v : Value} (h : v.Whole) : (report v).sent = .ok (report v) :=
  sent_report_eq_ok.mpr ⟨h, rfl⟩

/-- Answers are sent after they are chosen. -/
theorem Service.outcome_respond (service : Service) (method path : Text) (registry : Registry) (s : Session) :
    (service.respond method path registry).outcome s =
      (((service.choose method path registry).outcome s).1.map Response.sent,
        ((service.choose method path registry).outcome s).2) := by
  exact Run.outcome_bind_pure (service.choose method path registry) Response.sent s

theorem Endpoint.accepts_get (e : Endpoint) : e.accepts "GET" = true := by
  cases e <;> rfl

theorem Service.choose_of_accepts {service : Service} {method path : Text} {e : Endpoint}
    (he : service.site.endpoint? path = some e) (haccepts : e.accepts method = true) (registry : Registry) :
    service.choose method path registry = service.answer e registry := by
  simp only [choose, he]
  rw [if_pos haccepts]

namespace Generator

variable {g : Generator}

/-- What is told about all tables. -/
def listing (entries : List Value) : Value :=
  .record [("tables", .list entries), ("count", .int entries.length)]

theorem tableMetadata_eq_ok {t : Table} {v : Value} (h : g.tableMetadata t = .ok v) :
    ∃ selected, g.policy? t = .ok selected ∧ v = t.metadata (selected.map fun p => p.rule.name) := by
  obtain ⟨selected, hselected, hv⟩ := bind_eq_ok_iff.mp h
  exact ⟨selected, hselected, (Except.ok.inj hv).symm⟩

theorem metadata_eq_ok {v : Value} (h : g.metadata = .ok v) :
    ∃ entries, g.registry.tables.mapM g.tableMetadata = .ok entries ∧ v = listing entries := by
  obtain ⟨entries, hentries, hv⟩ := bind_eq_ok_iff.mp h
  exact ⟨entries, hentries, (Except.ok.inj hv).symm⟩

/-- Nothing is told about a table whose rule cannot be selected. -/
theorem tableMetadata_eq_error_iff {t : Table} {f : Sql.Fault} :
    g.tableMetadata t = .error f ↔
      Constant.ofValue g.settings.authenticatedRole = .error f ∧ t.FallsToRole :=
  (bind_ok_eq_error_iff fun _ => rfl).trans policy?_eq_error_iff

theorem metadata_eq_error_iff {f : Sql.Fault} :
    g.metadata = .error f ↔ Constant.ofValue g.settings.authenticatedRole = .error f ∧
      ∃ t ∈ g.registry.tables, t.FallsToRole := by
  rw [← mapM_eq_error_iff fun t f => g.tableMetadata_eq_error_iff]
  exact bind_ok_eq_error_iff fun _ => rfl

theorem tableMetadata_ok (h : g.settings.authenticatedRole.IsNulFree) (t : Table) :
    ∃ v, g.tableMetadata t = .ok v := by
  obtain ⟨constant, hconstant⟩ := h.constant
  cases hv : g.tableMetadata t with
  | error f =>
      rw [(tableMetadata_eq_error_iff.mp hv).1] at hconstant
      cases hconstant
  | ok v => exact ⟨v, rfl⟩

theorem metadata_ok (h : g.settings.authenticatedRole.IsNulFree) : ∃ v, g.metadata = .ok v := by
  obtain ⟨entries, hentries⟩ := mapM_ok_of_forall fun t (_ : t ∈ g.registry.tables) => tableMetadata_ok h t
  exact ⟨_, bind_eq_ok_iff.mpr ⟨entries, hentries, rfl⟩⟩

theorem whole_tableMetadata_iff {t : Table} {v : Value} (h : g.tableMetadata t = .ok v) :
    v.Whole ↔ ∀ c ∈ t.columns, c.Whole := by
  obtain ⟨selected, _, rfl⟩ := tableMetadata_eq_ok h
  refine t.whole_metadata_iff fun name hname => ?_
  obtain ⟨p, _, rfl⟩ := Option.map_eq_some_iff.mp hname
  exact Text.whole_ofString p.rule.name

theorem whole_metadata_iff {v : Value} (h : g.metadata = .ok v) : v.Whole ↔ g.registry.Whole := by
  obtain ⟨entries, hentries, rfl⟩ := metadata_eq_ok h
  have hlisting : (listing entries).Whole ↔ ∀ entry ∈ entries, entry.Whole := by
    simp [listing, Text.whole_ofString]
  have hmap : entries.map Value.Whole = g.registry.tables.map fun t => ∀ c ∈ t.columns, c.Whole :=
    map_eq_of_mapM_eq_ok (fun t _ entry ht => propext (whole_tableMetadata_iff ht)) hentries
  calc (listing entries).Whole
      ↔ ∀ p ∈ entries.map Value.Whole, p := by rw [hlisting, List.forall_mem_map]
    _ ↔ g.registry.Whole := by rw [hmap, List.forall_mem_map]; rfl

end Generator

namespace Service

section Paths

variable {g : Generator} {site : Site} {s : Session}

theorem outcome_report (told : Except Sql.Fault Value) (s : Session) :
    (liftExcept told >>= fun v => pure (Response.report v) : Run Response).outcome s =
      (told.map Response.report, s) := by
  rw [Run.outcome_bind_pure, Run.outcome_liftExcept]

theorem outcome_tablesPath :
    (Service.respond ⟨site, some g⟩ "GET" Site.tablesPath).outcome s =
      (g.metadata.map fun v => (Response.report v).sent, s) := by
  have hchoose : (Service.choose ⟨site, some g⟩ "GET" Site.tablesPath).outcome s =
      (g.metadata.map Response.report, s) := by
    rw [choose_of_accepts site.endpoint?_tablesPath (Endpoint.accepts_get _)]
    exact outcome_report g.metadata s
  rw [outcome_respond, hchoose]
  cases g.metadata <;> rfl

theorem outcome_tablePath {name : Text} {t : Table} (hne : name ≠ []) (hslash : .char '/' ∉ name)
    (ht : g.registry.table? name = some t) :
    (Service.respond ⟨site, some g⟩ "GET" (Site.tablePath name)).outcome s =
      ((g.tableMetadata t).map fun v => (Response.report v).sent, s) := by
  have hchoose : (Service.choose ⟨site, some g⟩ "GET" (Site.tablePath name)).outcome s =
      ((g.tableMetadata t).map Response.report, s) := by
    rw [choose_of_accepts (site.endpoint?_tablePath hne hslash) (Endpoint.accepts_get _)]
    show ((g.withTable name fun t => _).outcome s) = _
    simp only [Generator.withTable, ht]
    exact outcome_report (g.tableMetadata t) s
  rw [outcome_respond, hchoose]
  cases g.tableMetadata t <;> rfl

theorem outcome_scriptPath (part : ScriptPart) :
    ((Service.respond ⟨site, some g⟩ "GET" (Site.scriptPath part)).outcome s).1 =
      ((part.generate g).outcome s).1.map fun script => (Response.text script.text).sent := by
  have hanswer : (Service.answer ⟨site, some g⟩ (.script part)).outcome s = _ :=
    Run.outcome_bind_pure (part.generate g) (fun script => Response.text script.text) s
  rw [outcome_respond, choose_of_accepts (site.endpoint?_scriptPath part) (Endpoint.accepts_get _), hanswer]
  cases ((part.generate g).outcome s).1 <;> rfl

/-- The tables are told if there is something to be told and nothing in it that cannot be sent. -/
theorem answers_tablesPath_iff {r : Response} :
    ((Service.respond ⟨site, some g⟩ "GET" Site.tablesPath).outcome s).1 = .ok (.ok r) ↔
      g.registry.Whole ∧ ∃ v, g.metadata = .ok v ∧ r = .report v := by
  rw [outcome_tablesPath]
  cases hv : g.metadata with
  | error f =>
      constructor
      · intro h
        cases h
      · rintro ⟨_, v, hv', _⟩
        cases hv'
  | ok v =>
      rw [← Generator.whole_metadata_iff hv]
      constructor
      · intro h
        obtain ⟨hwhole, rfl⟩ := Response.sent_report_eq_ok.mp (Except.ok.inj h)
        exact ⟨hwhole, v, rfl, rfl⟩
      · rintro ⟨hwhole, v', hv', rfl⟩
        cases hv'
        exact congrArg Except.ok (Response.sent_report_eq_ok.mpr ⟨hwhole, rfl⟩)

end Paths

end Service

end SchemaScript
