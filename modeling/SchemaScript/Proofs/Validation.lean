/-
# Which descriptions are tables

## What is proved

A description of a table whose columns are in order is accepted exactly if the names of the columns differ, the primary
key is one of them, and the key reaches the backend if any column does (`Fits`).  If it is not accepted, there is one
fault, that of the first rule that is broken: a name that came before, the first one to do so; else a key that is no
column; else a key that stays off the backend (`FirstBroken`).  Texts with halves of pairs make two more ways to fail.  A
name of a table with a half is no name; and a key with a half is no column, but the message that would say so cannot be
written.

An accepted table is what was described.  In it a name finds the one column that has it, something reaches the backend
exactly if there are columns that do, and then the key is one of these, once.

## How

`firstRepeat?` goes over the names with those that it has seen.  What it finds is told by where it stops: the names before
that place are new, each when it is reached, and the one there is not (`firstRepeat?_eq_some_iff`).  The other two rules
are looked at only when the names differ, so that the cases of `FirstBroken` exclude each other.
-/
import SchemaScript.Proofs.Metadata

namespace SchemaScript

open Text (ofString)

theorem Column.ofValue_toValue (c : Column) : ofValue c.toValue = .ok c :=
  ofValue_of_described ⟨rfl, rfl, rfl, rfl, rfl, rfl, rfl⟩

namespace Table

/-! ## What is described -/

/-- The fields of a record that make it the description of a table.  Other fields do not matter, and if there is no key,
its field may be missing. -/
structure Described (name : Text) (columns : List Column) (key : Option Text) (fs : Fields) : Prop where
  name : fs.get? "table_name" = some (.text name)
  columns : ∃ vs, fs.get? "columns" = some (.list vs) ∧ vs.map Column.ofValue = columns.map .ok
  key : fs.get? "primary_key" = some (.ofText? key) ∨ (key = none ∧ fs.get? "primary_key" = none)

/-- The columns and the key of a table. -/
structure Fits (columns : List Column) (key : Option Text) : Prop where
  distinct : (columns.map (·.name)).Nodup
  named : ∀ k, key = some k → ∃ c ∈ columns, ofString c.name = k
  carried : (∃ c ∈ columns, c.isRelational = true) →
    ∀ c ∈ columns, key = some (ofString c.name) → c.isRelational = true

/-- The first rule that columns and key break, with the text about it. -/
inductive FirstBroken (name : String) (columns : List Column) (key : Option Text) : TableFault → String → Prop
  | repeatedColumn {before after : List Column} {c : Column} : columns = before ++ c :: after →
      (before.map (·.name)).Nodup → c.name ∈ before.map (·.name) →
      FirstBroken name columns key (.repeatedColumn name c.name)
        ("Duplicate column '" ++ c.name ++ "' in table '" ++ name ++ "'")
  | missingKey {k : String} : (columns.map (·.name)).Nodup → key = some (ofString k) →
      (∀ c ∈ columns, c.name ≠ k) →
      FirstBroken name columns key (.missingKey name k)
        ("Primary key '" ++ k ++ "' is not a column of '" ++ name ++ "'")
  | localKey {c d : Column} : (columns.map (·.name)).Nodup → key = some (ofString c.name) →
      c ∈ columns → c.isRelational = false → d ∈ columns → d.isRelational = true →
      FirstBroken name columns key (.localKey name c.name)
        ("Primary key '" ++ c.name ++ "' of '" ++ name ++
          "' is not synced to the relational store but other columns are")

/-- Why a description is not accepted. -/
inductive Refused (name : Text) (columns : List Column) (key : Option Text) : Refusal → Prop
  | halvedName : ¬ name.Whole → Refused name columns key (.faults [⟨[.field "table_name"], .loneHalf⟩])
  | broken {s : String} {fault : TableFault} {text : String} : name = ofString s →
      FirstBroken s columns key fault text → Refused name columns key (.faults [.here (.brokenRule fault)])
  | halvedKey {k : Text} {halves : Text.Unwritable} : name.Whole → (columns.map (·.name)).Nodup →
      key = some k → k.written = .error halves →
      Refused name columns key (.unwritable { halves with place := 13 + halves.place })

theorem FirstBroken.message {name : String} {columns : List Column} {key : Option Text} {fault : TableFault}
    {text : String} (h : FirstBroken name columns key fault text) : fault.message = text := by
  cases h
  all_goals rfl

/-! ## The first name that came before -/

theorem firstRepeat?_eq_some_iff {seen names : List String} {n : String} :
    firstRepeat? seen names = some n ↔
      ∃ before after, names = before ++ n :: after ∧ before.Nodup ∧ (∀ m ∈ before, m ∉ seen) ∧
        (n ∈ seen ∨ n ∈ before) := by
  induction names generalizing seen with
  | nil => simp [firstRepeat?]
  | cons m rest ih =>
      rw [firstRepeat?]
      by_cases hm : m ∈ seen
      · rw [if_pos hm]
        constructor
        · rintro ⟨⟩
          exact ⟨[], rest, rfl, List.nodup_nil, fun _ h => absurd h List.not_mem_nil, .inl hm⟩
        · rintro ⟨before, after, hnames, _, hnew, _⟩
          cases before with
          | nil => rw [(List.cons.inj hnames).1]
          | cons b before =>
              obtain ⟨rfl, _⟩ := List.cons.inj hnames
              exact absurd hm (hnew m List.mem_cons_self)
      · rw [if_neg hm, ih]
        constructor
        · rintro ⟨before, after, rfl, hnodup, hnew, hold⟩
          refine ⟨m :: before, after, rfl, List.nodup_cons.mpr ⟨fun h => ?_, hnodup⟩, fun b hb => ?_, ?_⟩
          · exact hnew m h List.mem_cons_self
          · rcases List.mem_cons.mp hb with rfl | hb
            · exact hm
            · exact fun h => hnew b hb (List.mem_cons_of_mem _ h)
          · rcases hold with h | h
            · rcases List.mem_cons.mp h with rfl | h
              · exact .inr List.mem_cons_self
              · exact .inl h
            · exact .inr (List.mem_cons_of_mem _ h)
        · rintro ⟨before, after, hnames, hnodup, hnew, hold⟩
          cases before with
          | nil =>
              obtain ⟨rfl, _⟩ := List.cons.inj hnames
              exact absurd (hold.resolve_right List.not_mem_nil) hm
          | cons b before =>
              obtain ⟨rfl, rfl⟩ := List.cons.inj hnames
              obtain ⟨hb, hnodup⟩ := List.nodup_cons.mp hnodup
              refine ⟨before, after, rfl, hnodup, fun x hx h => ?_, ?_⟩
              · rcases List.mem_cons.mp h with rfl | h
                · exact hb hx
                · exact hnew x (List.mem_cons_of_mem _ hx) h
              · rcases hold with h | h
                · exact .inl (List.mem_cons_of_mem _ h)
                · rcases List.mem_cons.mp h with rfl | h
                  · exact .inl List.mem_cons_self
                  · exact .inr h

theorem firstRepeat?_columns_iff {columns : List Column} {n : String} :
    firstRepeat? [] (columns.map (·.name)) = some n ↔
      ∃ before c after, columns = before ++ c :: after ∧ (before.map (·.name)).Nodup ∧
        c.name ∈ before.map (·.name) ∧ c.name = n := by
  rw [firstRepeat?_eq_some_iff]
  constructor
  · rintro ⟨names, names', hnames, hnodup, _, hold⟩
    obtain ⟨before, rest, rfl, rfl, hrest⟩ := List.map_eq_append_iff.mp hnames
    obtain ⟨c, after, rfl, rfl, rfl⟩ := List.map_eq_cons_iff.mp hrest
    exact ⟨before, c, after, rfl, hnodup, hold.resolve_left List.not_mem_nil, rfl⟩
  · rintro ⟨before, c, after, rfl, hnodup, hold, rfl⟩
    refine ⟨before.map (·.name), after.map (·.name), ?_, hnodup, fun _ _ => List.not_mem_nil, .inr hold⟩
    rw [List.map_append, List.map_cons]

theorem firstRepeat?_columns_eq_none_iff {columns : List Column} :
    firstRepeat? [] (columns.map (·.name)) = none ↔ (columns.map (·.name)).Nodup := by
  rw [firstRepeat?_eq_none_iff]
  exact and_iff_left fun _ _ => List.not_mem_nil

/-! ## The rules -/

section Rules

variable {name : String} {columns : List Column} {fault : TableFault}

theorem all_ne_iff {k : String} : columns.all (·.name != k) = true ↔ ∀ c ∈ columns, c.name ≠ k := by
  simp

/-- What keeps a key off the backend while another column goes there. -/
theorem any_local_iff {k : String} :
    (columns.any (·.isRelational) && columns.any (fun c => c.name == k && !c.isRelational)) = true ↔
      ∃ c ∈ columns, ∃ d ∈ columns, c.name = k ∧ c.isRelational = false ∧ d.isRelational = true := by
  simp only [Bool.and_eq_true, List.any_eq_true, beq_iff_eq, Bool.not_eq_true']
  constructor
  · rintro ⟨⟨d, hd, hrel⟩, c, hc, hname, hlocal⟩
    exact ⟨c, hc, d, hd, hname, hlocal, hrel⟩
  · rintro ⟨c, hc, d, hd, hname, hlocal, hrel⟩
    exact ⟨⟨d, hd, hrel⟩, c, hc, hname, hlocal⟩

theorem fault?_of_repeat {key : Option String} {n : String}
    (h : firstRepeat? [] (columns.map (·.name)) = some n) :
    fault? name columns key = some (.repeatedColumn name n) := by
  simp only [fault?, h]

theorem fault?_keyless (h : (columns.map (·.name)).Nodup) : fault? name columns none = none := by
  simp only [fault?, firstRepeat?_columns_eq_none_iff.mpr h]

theorem fault?_keyed {k : String} (h : (columns.map (·.name)).Nodup) :
    fault? name columns (some k) =
      if ∀ c ∈ columns, c.name ≠ k then some (.missingKey name k)
      else if ∃ c ∈ columns, ∃ d ∈ columns, c.name = k ∧ c.isRelational = false ∧ d.isRelational = true then
        some (.localKey name k)
      else none := by
  simp only [fault?, firstRepeat?_columns_eq_none_iff.mpr h, all_ne_iff, any_local_iff]

/-- The fault that is found is that of the first rule that is broken. -/
theorem fault?_eq_some_iff {key : Option String} :
    fault? name columns key = some fault ↔ ∃ text, FirstBroken name columns (key.map ofString) fault text := by
  constructor
  · intro h
    cases hrepeat : firstRepeat? [] (columns.map (·.name)) with
    | some n =>
        rw [fault?_of_repeat hrepeat] at h
        obtain ⟨before, c, after, hcolumns, hnodup, hold, rfl⟩ := firstRepeat?_columns_iff.mp hrepeat
        cases h
        exact ⟨_, .repeatedColumn hcolumns hnodup hold⟩
    | none =>
        have hnodup := firstRepeat?_columns_eq_none_iff.mp hrepeat
        cases key with
        | none =>
            rw [fault?_keyless hnodup] at h
            cases h
        | some k =>
            rw [fault?_keyed hnodup] at h
            split at h
            next hmissing =>
              cases h
              exact ⟨_, .missingKey hnodup rfl hmissing⟩
            next =>
              split at h
              next hlocal =>
                cases h
                obtain ⟨c, hc, d, hd, rfl, hoff, hrel⟩ := hlocal
                exact ⟨_, .localKey hnodup rfl hc hoff hd hrel⟩
              · cases h
  · rintro ⟨text, h⟩
    cases h with
    | repeatedColumn hcolumns hnodup hold =>
        exact fault?_of_repeat (firstRepeat?_columns_iff.mpr ⟨_, _, _, hcolumns, hnodup, hold, rfl⟩)
    | missingKey hnodup hkey hmissing =>
        obtain ⟨k, rfl, hk⟩ := Option.map_eq_some_iff.mp hkey
        cases Text.ofString_inj.mp hk
        rw [fault?_keyed hnodup, if_pos hmissing]
    | localKey hnodup hkey hc hoff hd hrel =>
        obtain ⟨k, rfl, hk⟩ := Option.map_eq_some_iff.mp hkey
        cases Text.ofString_inj.mp hk
        rw [fault?_keyed hnodup, if_neg fun h => h _ hc rfl, if_pos ⟨_, hc, _, hd, rfl, hoff, hrel⟩]

theorem fits_iff {key : Option String} : Fits columns (key.map ofString) ↔ WellFormed columns key := by
  constructor
  · intro h
    refine ⟨h.distinct, ?_, ?_⟩
    · rintro k rfl
      obtain ⟨c, hc, hname⟩ := h.named _ rfl
      exact ⟨c, hc, Text.ofString_inj.mp hname⟩
    · rintro k rfl hany c hc rfl
      exact h.carried hany c hc rfl
  · intro h
    refine ⟨h.distinct, fun k hk => ?_, fun hany c hc hk => ?_⟩
    · obtain ⟨k, rfl, rfl⟩ := Option.map_eq_some_iff.mp hk
      obtain ⟨c, hc, rfl⟩ := h.key_mem k rfl
      exact ⟨c, hc, rfl⟩
    · obtain ⟨k, rfl, hname⟩ := Option.map_eq_some_iff.mp hk
      exact h.key_relational k rfl hany c hc (Text.ofString_inj.mp hname).symm

end Rules

/-! ## Making a table -/

theorem mapError_eq_error_iff {ε ε' α : Type} {r : Except ε α} {f : ε → ε'} {e' : ε'} :
    r.mapError f = .error e' ↔ ∃ e, r = .error e ∧ e' = f e := by
  cases r with
  | ok a => exact ⟨fun h => (by cases h), fun ⟨_, h, _⟩ => (by cases h)⟩
  | error e =>
      constructor
      · rintro ⟨⟩
        exact ⟨e, rfl, rfl⟩
      · rintro ⟨_, ⟨⟩, rfl⟩
        rfl

/-- A key is a string, if there is one, or has halves. -/
theorem written_or_halved (key : Option Text) :
    (∃ k : Option String, key = k.map ofString) ∨ ∃ k halves, key = some k ∧ k.written = .error halves := by
  cases key with
  | none => exact .inl ⟨none, rfl⟩
  | some k =>
      cases hk : k.written with
      | ok s => exact .inl ⟨some s, congrArg some (Text.written_eq_ok_iff.mp hk)⟩
      | error halves => exact .inr ⟨k, halves, rfl, hk⟩

section Build

variable {name : String} {columns : List Column} {hname : name ≠ ""} {hcolumns : columns ≠ []}

theorem build_eq_error_iff {key : Option String} {fault : TableFault} :
    build name columns key hname hcolumns = .error fault ↔ fault? name columns key = some fault := by
  rw [build]
  split
  next f hf =>
    rw [hf, Option.some_inj]
    exact ⟨fun h => Except.error.inj h, fun h => congrArg _ h⟩
  next hf =>
    constructor
    · intro h
      cases h
    · intro h
      rw [hf] at h
      cases h

theorem parts_of_build {key : Option String} {t : Table} (h : build name columns key hname hcolumns = .ok t) :
    t.name = name ∧ t.columns = columns ∧ t.primaryKey = key := by
  rw [build] at h
  split at h
  · cases h
  · cases h
    exact ⟨rfl, rfl, rfl⟩

/-- The refusal for a broken rule. -/
def refusalFor (fault : TableFault) : Refusal := .faults [.here (.brokenRule fault)]

theorem buildKeyed_of_written {key : Option String} :
    buildKeyed name columns (key.map ofString) hname hcolumns =
      (build name columns key hname hcolumns).mapError refusalFor := by
  cases key with
  | none => rfl
  | some k =>
      have hk : (ofString k).written = .ok k := Text.written_eq_ok_iff.mpr rfl
      simp only [buildKeyed, Option.map_some, hk]
      rfl

theorem buildKeyed_of_halved {k : Text} {halves : Text.Unwritable} (hk : k.written = .error halves) :
    buildKeyed name columns (some k) hname hcolumns = .error (match fault? name columns none with
      | some fault => refusalFor fault
      | none => .unwritable { halves with place := 13 + halves.place }) := by
  simp only [buildKeyed, hk]
  cases fault? name columns none with
  | some fault => rfl
  | none => rfl

/-- With a key that cannot be written, only the rule about the names can be told to be broken. -/
theorem firstBroken_halved_iff {k : Text} {halves : Text.Unwritable} (hk : k.written = .error halves)
    {fault : TableFault} {text : String} :
    FirstBroken name columns (some k) fault text ↔ FirstBroken name columns none fault text := by
  have hnot (s : String) (h : some k = some (ofString s)) : False := by
    rw [Option.some.inj h, Text.written_eq_ok_iff.mpr rfl] at hk
    cases hk
  constructor
  · intro h
    cases h with
    | repeatedColumn hsplit hnodup hold => exact .repeatedColumn hsplit hnodup hold
    | missingKey _ hkey => exact (hnot _ hkey).elim
    | localKey _ hkey => exact (hnot _ hkey).elim
  · intro h
    cases h with
    | repeatedColumn hsplit hnodup hold => exact .repeatedColumn hsplit hnodup hold
    | missingKey _ hkey => cases hkey
    | localKey _ hkey => cases hkey

theorem refused_written_iff {key : Option String} {refusal : Refusal} :
    Refused (ofString name) columns (key.map ofString) refusal ↔
      ∃ fault, fault? name columns key = some fault ∧ refusal = refusalFor fault := by
  constructor
  · intro h
    cases h with
    | halvedName h => exact absurd (Text.whole_ofString name) h
    | broken hs h =>
        cases Text.ofString_inj.mp hs
        exact ⟨_, fault?_eq_some_iff.mpr ⟨_, h⟩, rfl⟩
    | halvedKey _ _ hk hhalves =>
        obtain ⟨k, rfl, rfl⟩ := Option.map_eq_some_iff.mp hk
        rw [Text.written_eq_ok_iff.mpr rfl] at hhalves
        cases hhalves
  · rintro ⟨fault, hfault, rfl⟩
    obtain ⟨_, h⟩ := fault?_eq_some_iff.mp hfault
    exact .broken rfl h

theorem refused_halved_iff {k : Text} {halves : Text.Unwritable} (hk : k.written = .error halves)
    {refusal : Refusal} :
    Refused (ofString name) columns (some k) refusal ↔
      (∃ fault, fault? name columns none = some fault ∧ refusal = refusalFor fault) ∨
        (fault? name columns none = none ∧ refusal = .unwritable { halves with place := 13 + halves.place }) := by
  constructor
  · intro h
    cases h with
    | halvedName h => exact absurd (Text.whole_ofString name) h
    | broken hs h =>
        cases Text.ofString_inj.mp hs
        exact .inl ⟨_, fault?_eq_some_iff.mpr ⟨_, (firstBroken_halved_iff hk).mp h⟩, rfl⟩
    | halvedKey _ hnodup hk' hhalves =>
        cases hk'
        cases hk.symm.trans hhalves
        exact .inr ⟨fault?_keyless hnodup, rfl⟩
  · rintro (⟨fault, hfault, rfl⟩ | ⟨hnone, rfl⟩)
    · obtain ⟨_, h⟩ := fault?_eq_some_iff.mp hfault
      exact .broken rfl ((firstBroken_halved_iff hk).mpr h)
    · exact .halvedKey (Text.whole_ofString name) (fault?_eq_none_iff.mp hnone).distinct rfl hk

theorem buildKeyed_eq_error_iff {key : Option Text} {refusal : Refusal} :
    buildKeyed name columns key hname hcolumns = .error refusal ↔ Refused (ofString name) columns key refusal := by
  rcases written_or_halved key with ⟨key, rfl⟩ | ⟨k, halves, rfl, hk⟩
  · rw [buildKeyed_of_written, mapError_eq_error_iff, refused_written_iff]
    simp only [build_eq_error_iff]
  · rw [buildKeyed_of_halved hk, refused_halved_iff hk]
    cases fault? name columns none with
    | some fault => simp [eq_comm]
    | none => simp [eq_comm]

theorem parts_of_buildKeyed {key : Option Text} {t : Table}
    (h : buildKeyed name columns key hname hcolumns = .ok t) :
    t.name = name ∧ t.columns = columns ∧ t.primaryKey.map ofString = key := by
  rcases written_or_halved key with ⟨key, rfl⟩ | ⟨k, halves, rfl, hk⟩
  · rw [buildKeyed_of_written] at h
    cases hbuild : build name columns key hname hcolumns with
    | error fault =>
        rw [hbuild] at h
        cases h
    | ok t' =>
        rw [hbuild] at h
        cases h
        obtain ⟨hname, hcolumns, hkey⟩ := parts_of_build hbuild
        exact ⟨hname, hcolumns, hkey ▸ rfl⟩
  · rw [buildKeyed_of_halved hk] at h
    cases h

/-- A table is made exactly if its columns and its key are those of one. -/
theorem exists_buildKeyed_iff {key : Option Text} :
    (∃ t, buildKeyed name columns key hname hcolumns = .ok t) ↔ Fits columns key := by
  rw [← not_iff_not, not_ok_iff]
  rcases written_or_halved key with ⟨key, rfl⟩ | ⟨k, halves, rfl, hk⟩
  · have hnone : fault? name columns key = none ↔ WellFormed columns key := fault?_eq_none_iff
    rw [fits_iff, buildKeyed_of_written, ← hnone]
    simp only [mapError_eq_error_iff, build_eq_error_iff]
    cases hfault : fault? name columns key with
    | some fault => exact iff_of_true ⟨_, fault, rfl, rfl⟩ (Option.some_ne_none fault)
    | none =>
        refine iff_of_false ?_ fun h => h rfl
        rintro ⟨_, fault, h, _⟩
        exact Option.some_ne_none fault h.symm
  · refine iff_of_true ⟨_, buildKeyed_of_halved hk⟩ fun h => ?_
    obtain ⟨c, _, rfl⟩ := h.named k rfl
    rw [Text.written_eq_ok_iff.mpr rfl] at hk
    cases hk

end Build

/-! ## Reading a description -/

section Reading

open Reading

variable {name : Text} {columns : List Column} {key : Option Text} {fs : Fields}

theorem Described.columns_eq (h : Described name columns key fs) (hcolumns : columns ≠ []) :
    required fs "columns" readColumns = .ok ⟨columns, hcolumns⟩ := by
  obtain ⟨vs, hfield, hread⟩ := h.columns
  exact required_eq_ok hfield (readColumns_of_map hread hcolumns)

theorem Described.key_eq (h : Described name columns key fs) :
    Reading.optional fs "primary_key" none Value.readText? = .ok key := by
  rcases h.key with hfield | ⟨rfl, hfield⟩
  · exact optional_eq_ok hfield (Value.readText?_ofText? key)
  · simp only [Reading.optional]
    rw [hfield]
    rfl

theorem ofValue_of_whole {s : String} (h : Described (ofString s) columns key fs) (hs : s ≠ "")
    (hcolumns : columns ≠ []) : ofValue (.record fs) = buildKeyed s columns key hs hcolumns := by
  simp only [ofValue]
  rw [required_eq_ok h.name (Value.readName_ofString hs), h.columns_eq hcolumns, h.key_eq]

theorem ofValue_of_halved (h : Described name columns key fs) (hname : ¬ name.Whole)
    (hcolumns : columns ≠ []) :
    ofValue (.record fs) = .error (.faults [⟨[.field "table_name"], .loneHalf⟩]) := by
  have hstring : name.string? = none := Text.string?_eq_none_iff.mpr hname
  have hread : required fs "table_name" Value.readName = .error [⟨[.field "table_name"], .loneHalf⟩] := by
    simp only [required]
    rw [h.name]
    simp only [Value.readName, Value.readString, Value.text?, hstring]
    rfl
  simp only [ofValue]
  rw [hread, h.columns_eq hcolumns, h.key_eq]
  rfl

end Reading

/-! ## What an accepted table is like -/

/-- Where names differ, the first that has a name is all that has it. -/
theorem filter_name_of_nodup {cs : List Column} (h : (cs.map (·.name)).Nodup) (n : Text) :
    (cs.filter fun c => decide (ofString c.name = n)) = (cs.find? fun c => decide (n = c.name)).toList := by
  induction cs with
  | nil => rfl
  | cons c cs ih =>
      obtain ⟨hc, hcs⟩ := List.nodup_cons.mp h
      by_cases hn : n = ofString c.name
      · have hrest : (cs.filter fun c => decide (ofString c.name = n)) = [] := by
          refine List.filter_eq_nil_iff.mpr fun d hd hname => hc ?_
          have hname : d.name = c.name := Text.ofString_inj.mp ((of_decide_eq_true hname).trans hn)
          exact List.mem_map.mpr ⟨d, hd, hname⟩
        simp only [List.filter_cons, List.find?_cons, ← hn, decide_true, if_true, hrest, Option.toList_some]
      · simp only [List.filter_cons, List.find?_cons, hn, Ne.symm hn, decide_false, Bool.false_eq_true, if_false]
        exact ih hcs

section Accepted

variable (t : Table)

theorem filter_name (n : Text) :
    (t.columns.filter fun c => decide (ofString c.name = n)) = (t.column? n).toList :=
  filter_name_of_nodup t.wellFormed.distinct n

theorem count_key {k : String} (hkey : t.primaryKey = some k) (hrelational : t.isRelational = true) :
    (t.relationalColumns.map (·.name)).count k = 1 := by
  obtain ⟨c, hc, rfl⟩ := key_mem_relationalColumns hkey (t.isRelational_iff.mp hrelational)
  have hnodup : (t.relationalColumns.map (·.name)).Nodup :=
    t.wellFormed.distinct.sublist (List.filter_sublist.map _)
  exact List.count_eq_one_of_mem hnodup (List.mem_map_of_mem hc)

end Accepted

/-- A description with a name and with columns is a table exactly if the name has no half of a pair and columns and key
fit together; otherwise it is refused for the one reason that comes first.  A table is what was described: a name finds
all that has the name, and the key of a table that reaches the backend is there once. -/
theorem accepted_iff_fits (name : Text) (columns : List Column) (key : Option Text) (fs : Fields)
    (h : Described name columns key fs) (hname : name ≠ []) (hcolumns : columns ≠ []) :
    ((∃ t, ofValue (.record fs) = .ok t) ↔ name.Whole ∧ Fits columns key) ∧
    (∀ refusal, ofValue (.record fs) = .error refusal ↔ Refused name columns key refusal) ∧
    (∀ s fault text, FirstBroken s columns key fault text →
      (Complaint.brokenRule fault).message = "Value error, " ++ text) ∧
    ∀ t, ofValue (.record fs) = .ok t →
      (ofString t.name = name ∧ t.columns = columns ∧ t.primaryKey.map ofString = key) ∧
      (∀ n : Text, (t.columns.filter fun c => decide (ofString c.name = n)) = (t.column? n).toList) ∧
      (t.relationalColumns ≠ [] ↔ t.isRelational = true) ∧
      ∀ k, t.primaryKey = some k → t.isRelational = true → (t.relationalColumns.map (·.name)).count k = 1 := by
  have hmessage (s : String) (fault : TableFault) (text : String) (hbroken : FirstBroken s columns key fault text) :
      (Complaint.brokenRule fault).message = "Value error, " ++ text :=
    congrArg ("Value error, " ++ ·) hbroken.message
  by_cases hwhole : name.Whole
  · obtain ⟨s, rfl⟩ := Text.whole_iff.mp hwhole
    have hs : s ≠ "" := by
      rintro rfl
      exact hname rfl
    rw [ofValue_of_whole h hs hcolumns]
    refine ⟨?_, fun refusal => buildKeyed_eq_error_iff, hmessage, fun t ht => ?_⟩
    · rw [exists_buildKeyed_iff, and_iff_right hwhole]
    · obtain ⟨ht, hcolumns, hkey⟩ := parts_of_buildKeyed ht
      exact ⟨⟨congrArg ofString ht, hcolumns, hkey⟩, t.filter_name, t.isRelational_iff.symm, fun k => t.count_key⟩
  · rw [ofValue_of_halved h hwhole hcolumns]
    refine ⟨?_, fun refusal => ?_, hmessage, fun t ht => (by cases ht)⟩
    · exact iff_of_false (fun ⟨t, ht⟩ => (by cases ht)) fun hfits => hwhole hfits.1
    · constructor
      · rintro ⟨⟩
        exact .halvedName hwhole
      · intro hrefused
        cases hrefused with
        | halvedName _ => rfl
        | broken hs _ => exact absurd (Text.whole_iff.mpr ⟨_, hs⟩) hwhole
        | halvedKey hname _ _ _ => exact absurd hname hwhole

/-- The description of a table of crates with given name, columns and key. -/
def crates (name : Text) (columns : List Column) (key : Option Text) : Fields :=
  [("table_name", .text name), ("primary_key", .ofText? key), ("columns", .list (columns.map Column.toValue))]

theorem described_crates (name : Text) (columns : List Column) (key : Option Text) :
    Described name columns key (crates name columns key) :=
  ⟨rfl, ⟨_, rfl, Reading.map_undone Column.ofValue_toValue columns⟩, .inl rfl⟩

/-- The columns of a crate; the batch does not reach the backend. -/
def crateColumns : List Column := [everywhere "crate_code" .uuid, offBackend "batch" .text, everywhere "weight" .text]

/-- If all rules are broken, the name that is repeated is told. -/
theorem repeat_is_told_first :
    let columns := crateColumns ++ [everywhere "crate_code" .uuid, everywhere "weight" .text]
    let fault : TableFault := .repeatedColumn "crates" "crate_code"
    ofValue (.record (crates "crates" columns (some "lot"))) = .error (.faults [.here (.brokenRule fault)]) ∧
      (Complaint.brokenRule fault).message = "Value error, Duplicate column 'crate_code' in table 'crates'" := by
  intro columns fault
  have hbroken : FirstBroken "crates" columns (some "lot") fault
      "Duplicate column 'crate_code' in table 'crates'" :=
    .repeatedColumn (show columns = crateColumns ++ everywhere "crate_code" .uuid :: [everywhere "weight" .text] from rfl)
      (by decide) (by decide)
  obtain ⟨_, hrefused, hmessage, _⟩ := accepted_iff_fits "crates" columns (some "lot")
    (crates "crates" columns (some "lot")) (described_crates _ _ _) (by decide) (by decide)
  exact ⟨(hrefused _).mpr (.broken rfl hbroken), hmessage _ _ _ hbroken⟩

/-- A name with half of a pair is refused though columns and key fit together, and a key with half of a pair, which is no
column, is not told about. -/
theorem halves_are_refused_otherwise :
    (Fits crateColumns (some "crate_code") ∧
      ofValue (.record (crates [.half 0] crateColumns (some "crate_code"))) =
        .error (.faults [⟨[.field "table_name"], .loneHalf⟩])) ∧
    ((∀ c ∈ crateColumns, ofString c.name ≠ [.half 0]) ∧
      ofValue (.record (crates "crates" crateColumns (some [.half 0]))) = .error (.unwritable ⟨13, [0]⟩)) := by
  have hfits : Fits crateColumns ((some "crate_code").map ofString) := fits_iff.mpr (by decide)
  refine ⟨⟨hfits, ?_⟩, by decide, rfl⟩
  exact ofValue_of_halved (described_crates _ _ _) (by decide) (by decide)

end Table

end SchemaScript
