/-
# Log records as lines of JSON

## What is proved

A record is written as one line, whatever its message is, and the line is read back as what the record says: its time,
the names of its level and of its logger, its message, the fields of the context and the data, each of them where there
are any, the failure where there is one, and where in the program the record comes from (`line_decodes_to_record`).  So no
message, key or value can end the line and begin another record.

The values of the context and of the data are null, truth values, integers, texts of characters, lists and records; with
an integer of too many digits there is no line.  The message and the name of the logger may hold halves of pairs, too;
where two of them meet, the line is read as having the one character that they stand for.

## How

The line is the JSON text of one record, whose fields are there or not; what is read has the same fields with the same
ones left out (`Fields.ofOptions`), so the two are compared field by field.
-/
import SchemaScript.Log.Record
import SchemaScript.Proofs.JsonText
import SchemaScript.Proofs.Lines
import SchemaScript.Proofs.RecordData

namespace SchemaScript

/-! ## Lines of printable characters -/

namespace Text

theorem not_isBreak_of_isAscii {c : Char} (h : Value.Json.IsAscii c) : isBreak c = false := by
  have hends : ∀ c ∈ lineEnds, ¬ Value.Json.IsAscii c := by simp [lineEnds, Value.Json.IsAscii]
  exact not_isBreak_of_kind hends h

end Text

/-! ## Fields that are there or not -/

namespace Value

/-- Fields that are there or not are read as other ones, there or not alike. -/
theorem forall₂_ofOptions {fs gs : List (Text × Option Value)}
    (h : List.Forall₂ (fun f g => g.1 = f.1.paired ∧ Option.Rel ReadsAs f.2 g.2) fs gs) :
    List.Forall₂ FieldReadsAs (Fields.ofOptions fs) (Fields.ofOptions gs) := by
  induction h with
  | nil => exact .nil
  | @cons f g fs gs hf hfs ih =>
      obtain ⟨hname, hvalue⟩ := hf
      rw [Fields.ofOptions_cons, Fields.ofOptions_cons]
      generalize f.2 = v, g.2 = w at hvalue
      cases hvalue with
      | none => exact ih
      | some hread => exact .cons ⟨hname, hread⟩ ih

theorem mem_integers_ofOptions_iff {n : Int} {fs : List (Text × Option Value)} :
    n ∈ (record (Fields.ofOptions fs)).integers ↔ ∃ f ∈ fs, ∃ v ∈ f.2, n ∈ v.integers := by
  rw [mem_integers_record_iff]
  constructor
  · rintro ⟨f, hf, hn⟩
    exact ⟨_, Fields.mem_ofOptions_iff.mp hf, f.2, rfl, hn⟩
  · rintro ⟨⟨name, v⟩, hf, w, hw, hn⟩
    exact ⟨(name, w), Fields.mem_ofOptions_iff.mpr (Option.mem_def.mp hw ▸ hf), hn⟩

end Value

namespace Log

/-! ## What is plain in a record -/

/-- The fields of the context that are set, and its further ones, are plain. -/
structure Context.IsPlain (c : Context) : Prop where
  own : ∀ f ∈ c.slots, f.2.IsPlain
  extra : (Value.record c.extra).IsPlain

/-- Where a record comes from is told by plain values. -/
structure Origin.IsPlain (o : Origin) : Prop where
  path : o.path.IsPlain
  line : o.line.IsPlain
  function : o.function.IsPlain

theorem Context.mem_ownFields {c : Context} {f : Text × Value} (h : f ∈ c.ownFields) : f ∈ c.slots := by
  rw [ownFields_eq] at h
  obtain ⟨g, hg, hf⟩ := List.mem_flatMap.mp h
  rw [listed_eq] at hf
  obtain ⟨name, v⟩ := g
  cases v with
  | null => cases hf
  | _ => exact List.mem_singleton.mp hf ▸ hg

theorem Context.whole_of_mem_slots {c : Context} {f : Text × Value} (h : f ∈ c.slots) : f.1.Whole := by
  have hnames : ∀ name ∈ c.slots.map Prod.fst, Text.Whole name := by
    have hslots : c.slots.map Prod.fst =
        ["table", "operation", "schema_label", "correlation_id", "component"] := rfl
    rw [hslots]
    decide
  exact hnames f.1 (List.mem_map_of_mem h)

/-- The fields of a plain context are a plain record. -/
theorem Context.IsPlain.toFields {c : Context} (h : c.IsPlain) : (Value.record c.toFields).IsPlain := by
  cases h.extra with
  | record _ hnames hvalues =>
      refine .record c.distinct_toFields (fun f hf => ?_) fun f hf => ?_
      · exact (Fields.mem_merge hf).elim (fun hf => whole_of_mem_slots (mem_ownFields hf)) (hnames f)
      · exact (Fields.mem_merge hf).elim (fun hf => h.own f (mem_ownFields hf)) (hvalues f)

theorem Origin.IsPlain.file {o : Origin} (h : o.IsPlain) : o.file.IsPlain := by
  have hpath := h.path
  unfold Origin.file
  split
  next path heq =>
    rw [heq] at hpath
    cases hpath with
    | text ht =>
        refine .text fun i hi => ht i ?_
        exact List.mem_reverse.mp (List.takeWhile_subset _ (List.mem_reverse.mp hi))
  next => exact hpath

/-! ## What a line says -/

/-- The data of a record are fields: none at all, or those of a mapping whose keys are texts. -/
inductive HasFields : Option Data → Fields → Prop where
  | absent : HasFields none []
  | record (fs : Fields) : HasFields (some (.value (.record fs))) fs
  | entries (fs : Fields) : HasFields (some (.entries (.ofFields fs))) fs

/-- A record of fields, if there are any. -/
def shownFields (fs : Fields) : Option Value := if fs.isEmpty then none else some (.record fs)

theorem HasFields.data?_eq {extra : Option Data} {fs : Fields} (h : HasFields extra fs) :
    (extra.filter Data.isPresent).map Data.toValue = shownFields fs := by
  cases h with
  | absent => rfl
  | record fs => cases fs <;> rfl
  | entries fs =>
      cases fs with
      | nil => rfl
      | cons f fs =>
          show some (Data.entries (.ofFields (f :: fs))).toValue = _
          rw [Data.toValue_ofFields]
          rfl

/-- Where a record comes from, as its line says it. -/
def Origin.toFields (o : Origin) : Fields := [("file", o.file), ("line", o.line), ("function", o.function)]

/-- What the line of a record says by name, the logger being called `name` and the data being `data`; `shown` is how the
texts are given. -/
def Record.told (r : Record) (shown : Text → Text) (name : Text) (data : Fields) : List (Text × Option Value) := [
  ("timestamp", some (.text r.time.iso)),
  ("level", some (.text (shown (Level.name r.level)))),
  ("logger", some (.text (shown name))),
  ("message", some (.text (shown r.message))),
  ("context", shownFields r.context.toFields),
  ("data", shownFields data),
  ("exception", r.failure.map fun t => .text (shown t)),
  ("source", some (.record r.origin.toFields))]

section

variable {r : Record} {name : Text} {data : Fields}

theorem Record.toFields_eq (hlogger : r.logger = .text name) (hdata : HasFields r.extra data) :
    r.toFields = Fields.ofOptions (r.told id name data) := by
  have hcontext : (if !r.context.toFields.isEmpty then some (Value.record r.context.toFields) else none) =
      shownFields r.context.toFields := by
    unfold shownFields
    cases r.context.toFields.isEmpty <;> rfl
  have hlist : Fields.ofOptions (r.told id name data) =
      Fields.given "timestamp" (some (.text r.time.iso)) ++ Fields.given "level" (some (.text (Level.name r.level))) ++
      Fields.given "logger" (some (.text name)) ++ Fields.single "message" (.text r.message) ++
      Fields.given "context" (shownFields r.context.toFields) ++ Fields.given "data" (shownFields data) ++
      Fields.given "exception" (r.failure.map .text) ++ Fields.single "source" (.record r.origin.toFields) := by
    simp only [Record.told, Fields.ofOptions, List.flatMap_cons, List.flatMap_nil, List.append_nil, List.append_assoc]
    rfl
  rw [hlist, ← hdata.data?_eq, ← hcontext, ← hlogger]
  rfl

theorem Record.names_told (shown : Text → Text) : (r.told shown name data).map Prod.fst =
    ["timestamp", "level", "logger", "message", "context", "data", "exception", "source"] := rfl

theorem rel_shownFields {fs : Fields} (h : (Value.record fs).IsPlain) :
    Option.Rel Value.ReadsAs (shownFields fs) (shownFields fs) := by
  unfold shownFields
  split
  · exact .none
  · exact .some h.readsAs

theorem Origin.IsPlain.toFields {o : Origin} (h : o.IsPlain) : (Value.record o.toFields).IsPlain := by
  have hnames : o.toFields.map Prod.fst = ["file", "line", "function"] := rfl
  refine .record ?_ ?_ ?_
  · rw [Fields.Distinct, hnames]
    decide
  · simp only [Origin.toFields, List.forall_mem_cons, List.not_mem_nil, false_imp_iff, implies_true, and_true]
    decide
  · simp only [Origin.toFields, List.forall_mem_cons, List.not_mem_nil, false_imp_iff, implies_true, and_true]
    exact ⟨h.file, h.line, h.function⟩

/-- The fields of a line are read as what the record says, with meeting halves joined. -/
theorem Record.readsAs_toFields (hlogger : r.logger = .text name) (hdata : HasFields r.extra data)
    (hplain : (Value.record data).IsPlain) (hcontext : r.context.IsPlain) (horigin : r.origin.IsPlain) :
    (Value.record r.toFields).ReadsAs (.record (Fields.ofOptions (r.told Text.paired name data))) := by
  have hname (s : String) : Text.ofString s = (Text.ofString s).paired :=
    (Text.paired_of_whole (Text.whole_ofString s)).symm
  have htime : (Value.text r.time.iso).ReadsAs (.text r.time.iso) := (Value.IsPlain.text (Text.whole_ofString _)).readsAs
  have hfailure : Option.Rel Value.ReadsAs (r.failure.map .text) (r.failure.map fun t => .text t.paired) := by
    cases r.failure with
    | none => exact .none
    | some t => exact .some (Value.readsAs_text t)
  rw [Record.toFields_eq hlogger hdata]
  refine Value.readsAs_record (Value.forall₂_ofOptions ?_) ?_
  · exact .cons ⟨hname _, .some htime⟩ <| .cons ⟨hname _, .some (Value.readsAs_text _)⟩ <|
      .cons ⟨hname _, .some (Value.readsAs_text _)⟩ <| .cons ⟨hname _, .some (Value.readsAs_text _)⟩ <|
      .cons ⟨hname _, rel_shownFields hcontext.toFields⟩ <| .cons ⟨hname _, rel_shownFields hplain⟩ <|
      .cons ⟨hname _, hfailure⟩ <| .cons ⟨hname _, .some horigin.toFields.readsAs⟩ .nil
  · refine List.Nodup.sublist (Fields.names_ofOptions _) ?_
    rw [Record.names_told]
    decide

theorem mem_integers_shownFields_iff {fs : Fields} {n : Int} :
    (∃ v, shownFields fs = some v ∧ n ∈ v.integers) ↔ n ∈ (Value.record fs).integers := by
  cases fs with
  | nil => simp [shownFields, Value.integers, Value.integersOfFields]
  | cons f fs => simp [shownFields]

/-- The integers of a line are those of the context, of the data and of the origin. -/
theorem Record.mem_integers_iff (hlogger : r.logger = .text name) (hdata : HasFields r.extra data) {n : Int} :
    n ∈ (Value.record r.toFields).integers ↔ n ∈ (Value.record r.context.toFields).integers ∨
      n ∈ (Value.record data).integers ∨ n ∈ (Value.record r.origin.toFields).integers := by
  have htext (t : Text) : n ∉ (Value.text t).integers := nofun
  have hfailure : ¬ ∃ v, (r.failure.map fun t => Value.text (id t)) = some v ∧ n ∈ v.integers := by
    rintro ⟨v, hv, hn⟩
    obtain ⟨t, _, rfl⟩ := Option.map_eq_some_iff.mp hv
    exact htext t hn
  rw [Record.toFields_eq hlogger hdata, Value.mem_integers_ofOptions_iff]
  simp only [Record.told, List.exists_mem_cons_iff, mem_integers_shownFields_iff, hfailure, Option.mem_def,
    Option.some.injEq, exists_eq_left', htext, List.not_mem_nil, false_and, exists_false, or_false, false_or]

end

end Log

open Log

/-- A record has a line, if its values are plain.  The line consists of printable ASCII, so it is one line, and it is read
back as what the record says: time, level, logger and message, the fields of its context and its data if there are any,
its failure if it has one, and where it comes from.  Texts without halves of pairs come back as they are. -/
theorem line_decodes_to_record {r : Record} {name : Text} {data : Fields} (hlogger : r.logger = .text name)
    (hdata : HasFields r.extra data) (hplain : (Value.record data).IsPlain) (hcontext : r.context.IsPlain)
    (horigin : r.origin.IsPlain) :
    ∃ line : String, r.jsonLine = .ok line ∧
      (∀ c ∈ line.toList, 32 ≤ c.toNat ∧ c.toNat < 127) ∧
      Text.lines line = [Text.ofString line] ∧
      Value.ofJson? line = some (.record (Fields.ofOptions (r.told Text.paired name data))) ∧
      ∀ t : Text, t.Whole → t.paired = t := by
  have hread := Record.readsAs_toFields hlogger hdata hplain hcontext horigin
  have hwritten : r.jsonLine = .ok (Value.record r.toFields).json := by
    refine Value.writtenJson_eq_ok fun n hn => ?_
    rcases (Record.mem_integers_iff hlogger hdata).mp hn with hn | hn | hn
    · exact hcontext.toFields.hasNumeral n hn
    · exact hplain.hasNumeral n hn
    · exact horigin.toFields.hasNumeral n hn
  have hascii : ∀ c ∈ (Value.record r.toFields).json.toList, 32 ≤ c.toNat ∧ c.toNat < 127 := by
    rw [Value.json, String.toList_ofList]
    exact hread.ascii
  refine ⟨_, hwritten, hascii, Text.lines_of_unbroken ?_ ?_, hread.ofJson?_json, fun t => Text.paired_of_whole⟩
  · intro p hp
    obtain ⟨c, hc, rfl⟩ := List.mem_map.mp hp
    exact Text.not_isBreak_of_isAscii (hascii c hc)
  · obtain ⟨c, cs, hcs, _⟩ := hread.opens
    rw [Value.json, Lexing.ofString_ofList, hcs]
    exact List.cons_ne_nil _ _

/-- A message that goes on with a line of its own, and data whose key would end its string. -/
def Log.forgingRecord : Record where
  time := default
  level := .int Level.info
  logger := .text "core.x"
  message := "done\n\x7b\"level\": \"CRITICAL\"\x7d"
  extra := some (.entries (.ofFields [("a\": 1, \"b\\", .list [.null, .int (-7), .text [.char (Char.ofNat 0x1f600)]])]))
  context := { table := .text "projects", extra := [("run", .record [("\x7f", .bool true)])] }

/-- The record is still one line, with the level that it has, and its message and data come back. -/
theorem forging_record_stays_one_line :
    (forgingRecord.context.IsPlain ∧ forgingRecord.origin.IsPlain) ∧
      ∃ (line : String) (fs : Fields), forgingRecord.jsonLine = .ok line ∧ (Text.lines line).length = 1 ∧
        Value.ofJson? line = some (.record fs) ∧
        fs.get? "level" = some (.text "INFO") ∧
        fs.get? "message" = some (.text "done\n\x7b\"level\": \"CRITICAL\"\x7d") ∧
        fs.get? "data" = some (.record
          [("a\": 1, \"b\\", .list [.null, .int (-7), .text [.char (Char.ofNat 0x1f600)]])]) ∧
        fs.get? "context" = some (.record
          [("table", .text "projects"), ("run", .record [("\x7f", .bool true)])]) ∧
        fs.get? "exception" = none := by
  have hdata : (Value.record [("a\": 1, \"b\\",
      .list [.null, .int (-7), .text [.char (Char.ofNat 0x1f600)]])]).IsPlain := by
    refine .record (by decide) (by decide) ?_
    simp only [List.forall_mem_cons, List.not_mem_nil, false_imp_iff, implies_true, and_true]
    refine .list ?_
    simp only [List.forall_mem_cons, List.not_mem_nil, false_imp_iff, implies_true, and_true]
    exact ⟨.null, .int (by decide), .text (by decide)⟩
  have hcontext : forgingRecord.context.IsPlain := by
    refine ⟨?_, .record (by decide) (by decide) ?_⟩
    · simp only [Context.slots, List.forall_mem_cons, List.not_mem_nil, false_imp_iff, implies_true, and_true]
      exact ⟨.text (by decide), .null, .null, .null, .null⟩
    · simp only [forgingRecord, List.forall_mem_cons, List.not_mem_nil, false_imp_iff, implies_true, and_true]
      refine .record (by decide) (by decide) ?_
      simp only [List.forall_mem_cons, List.not_mem_nil, false_imp_iff, implies_true, and_true]
      exact .bool true
  have horigin : forgingRecord.origin.IsPlain := ⟨.text (by decide), .int (by decide), .null⟩
  obtain ⟨line, hline, _, hlines, hread, _⟩ := line_decodes_to_record rfl (.entries _) hdata hcontext horigin
  exact ⟨⟨hcontext, horigin⟩, line, _, hline, by rw [hlines]; rfl, hread, rfl, rfl, rfl, rfl, rfl⟩

/-- An integer that is just too long keeps a record from having a line.  And a record of the call `exception` has a failure
on its line, although none is being dealt with. -/
theorem long_integer_has_no_line :
    ({ forgingRecord with extra := some (.value (.record [("n", .int (Text.beyondDigits Text.digitLimit))])) } : Record).jsonLine =
        .error .tooManyDigits ∧
      ∃ (after : Journal) (r : Record),
        Logger.call ⟨"core.x", none⟩ (.text "exception") (.text "m") [] none { time := default } = .ok after ∧
        after.records = [r] ∧ r.toFields.get? "exception" = some (.text "NoneType: None") := by
  have hlong : Text.hasNumeral (Text.beyondDigits Text.digitLimit) = false := by
    rw [Bool.eq_false_iff, ne_eq, Text.hasNumeral_iff, Int.natAbs_natCast]
    exact Nat.lt_irrefl _
  have hline {n : Int} (h : Text.hasNumeral n = false) :
      ({ forgingRecord with extra := some (.value (.record [("n", .int n)])) } : Record).jsonLine =
        .error .tooManyDigits := by
    refine Value.writtenJson_eq_error ?_ h
    rw [Record.mem_integers_iff rfl (.record _)]
    exact .inr (.inl List.mem_cons_self)
  exact ⟨hline hlong, _, _, rfl, rfl, rfl⟩

end SchemaScript
