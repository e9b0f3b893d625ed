/- # Tables and their columns

A table describes one kind of record: its columns, and which of them is the primary key.  A column
says to which tiers it is carried, whether the client encrypts it and whether its values are unique.
Both types hold only well-formed descriptions: names and type tags are not empty, column names are
distinct, a primary key is one of the columns, and it reaches the backend if any column does.
`Table.fault?` decides the rules of a table and names the first one that is broken.
-/
import SchemaScript.Vocabulary

namespace SchemaScript

/-- One column of a table. -/
structure Column where
  /-- The name, unique within the table. -/
  name : String
  /-- The type tag; a tag that is not known stands for text. -/
  typeTag : String
  /-- Whether the client encrypts the values. -/
  encrypted : Bool := false
  /-- The tiers that carry the column. -/
  tiers : TierSet
  /-- The containers of the document store, if they are given. -/
  containers : Option ContainerSet := none
  /-- Whether no two rows share a value. -/
  isUnique : Bool := false
  /-- Another name in the backend, for information only. -/
  relationalName : Option Text := none
  name_ne : name ≠ "" := by decide
  typeTag_ne : typeTag ≠ "" := by decide
  tiers_ne : tiers.isEmpty = false := by decide
deriving DecidableEq, Repr

namespace Column

/-- Whether the column is carried to a tier. -/
def isCarriedTo (c : Column) (t : Tier) : Bool := c.tiers.has t

/-- Whether the column is carried to the relational backend. -/
def isRelational (c : Column) : Bool := c.isCarriedTo .relational

end Column

/-- The ways in which columns and primary key may fail to make a table. -/
inductive TableFault where
  /-- A column name occurs a second time. -/
  | repeatedColumn (table column : String)
  /-- The primary key is not a column. -/
  | missingKey (table key : String)
  /-- The primary key stays off the backend while another column goes there. -/
  | localKey (table key : String)
deriving DecidableEq, Repr

/-- How the text of a fault of a primary key starts, up to the key. -/
def TableFault.keyStart : String := "Primary key '"

/-- The text of a fault. -/
def TableFault.message : TableFault → String
  | .repeatedColumn table column => "Duplicate column '" ++ column ++ "' in table '" ++ table ++ "'"
  | .missingKey table key => keyStart ++ key ++ "' is not a column of '" ++ table ++ "'"
  | .localKey table key =>
    keyStart ++ key ++ "' of '" ++ table ++
      "' is not synced to the relational store but other columns are"

namespace Table

/-- The first name that occurs among the names before it, `seen` coming before all of them. -/
def firstRepeat? (seen : List String) : List String → Option String
  | [] => none
  | n :: rest => if n ∈ seen then some n else firstRepeat? (n :: seen) rest

/-- No name is a repeat exactly when the names are distinct and none was seen before. -/
theorem firstRepeat?_eq_none_iff {seen names : List String} :
    firstRepeat? seen names = none ↔ names.Nodup ∧ ∀ n ∈ names, n ∉ seen := by
  induction names generalizing seen with
  | nil => simp [firstRepeat?]
  | cons n rest ih =>
    by_cases h : n ∈ seen
    · simp [firstRepeat?, h]
    · simp only [firstRepeat?, h, if_false, ih, List.nodup_cons, List.mem_cons, not_or,
        forall_eq_or_imp]
      constructor
      · rintro ⟨hd, hs⟩
        exact ⟨⟨fun hm => (hs n hm).1 rfl, hd⟩, not_false, fun m hm => (hs m hm).2⟩
      · rintro ⟨⟨hn, hd⟩, -, hs⟩
        exact ⟨hd, fun m hm => ⟨fun e => hn (e ▸ hm), hs m hm⟩⟩

/-- The rules of a table: distinct column names, a primary key among them, and that key carried to
the backend if any column is. -/
structure WellFormed (columns : List Column) (primaryKey : Option String) : Prop where
  distinct : (columns.map (·.name)).Nodup
  key_mem : ∀ k, primaryKey = some k → ∃ c ∈ columns, c.name = k
  key_relational : ∀ k, primaryKey = some k → (∃ c ∈ columns, c.isRelational) →
    ∀ c ∈ columns, c.name = k → c.isRelational

/-- The first broken rule, if there is one. -/
def fault? (name : String) (columns : List Column) (primaryKey : Option String) :
    Option TableFault :=
  match firstRepeat? [] (columns.map (·.name)) with
  | some n => some (.repeatedColumn name n)
  | none =>
    match primaryKey with
    | none => none
    | some k =>
      if columns.all (·.name != k) then some (.missingKey name k)
      else if columns.any (·.isRelational) &&
          columns.any (fun c => c.name == k && !c.isRelational) then some (.localKey name k)
      else none

/-- No rule is broken exactly when the description is well-formed. -/
theorem fault?_eq_none_iff {name : String} {columns : List Column} {primaryKey : Option String} :
    fault? name columns primaryKey = none ↔ WellFormed columns primaryKey := by
  unfold fault?
  split
  · next n h =>
    refine ⟨fun h => by simp at h, fun w => ?_⟩
    have := firstRepeat?_eq_none_iff.2 ⟨w.distinct, fun n _ => List.not_mem_nil⟩
    simp [h] at this
  · next h =>
    have hd : (columns.map (·.name)).Nodup := (firstRepeat?_eq_none_iff.1 h).1
    cases primaryKey with
    | none => exact ⟨fun _ => ⟨hd, by simp, by simp⟩, fun _ => rfl⟩
    | some k =>
      constructor
      · intro hn
        by_cases hm : columns.all (·.name != k) = true
        · simp [hm] at hn
        by_cases hr : (columns.any (·.isRelational) &&
            columns.any (fun c => c.name == k && !c.isRelational)) = true
        · simp [hm, hr] at hn
        refine ⟨hd, fun k' hk => ?_, fun k' hk hany c hc hck => ?_⟩
        · cases hk; simpa using hm
        · cases hk
          cases hrel : c.isRelational with
          | true => rfl
          | false =>
            obtain ⟨c', hc', hr'⟩ := hany
            refine absurd ?_ hr
            simp only [Bool.and_eq_true, List.any_eq_true]
            exact ⟨⟨c', hc', hr'⟩, c, hc, by simp [hck], by simp [hrel]⟩
      · intro w
        have hm : ¬ (columns.all (·.name != k)) = true := by
          obtain ⟨c, hc, hk⟩ := w.key_mem k rfl
          simpa using ⟨c, hc, hk⟩
        have hr : ¬ (columns.any (·.isRelational) &&
            columns.any (fun c => c.name == k && !c.isRelational)) = true := by
          simp only [Bool.and_eq_true, List.any_eq_true, not_and]
          rintro ⟨c, hc, hr⟩ ⟨c', hc', hk, hn⟩
          have := w.key_relational k rfl ⟨c, hc, hr⟩ c' hc' (by simpa using hk)
          simp [this] at hn
        simp [hm, hr]

instance (columns : List Column) (primaryKey : Option String) :
    Decidable (WellFormed columns primaryKey) :=
  decidable_of_iff (fault? "" columns primaryKey = none) fault?_eq_none_iff

end Table

/-- A table: its name, its columns in order, and the name of its primary key, if it has one. -/
structure Table where
  name : String
  columns : List Column
  primaryKey : Option String := none
  name_ne : name ≠ "" := by decide
  columns_ne : columns ≠ [] := by decide
  wellFormed : Table.WellFormed columns primaryKey := by decide
deriving DecidableEq

namespace Table

/-- Makes a table, or names the first broken rule. -/
def build (name : String) (columns : List Column) (primaryKey : Option String)
    (name_ne : name ≠ "") (columns_ne : columns ≠ []) : Except TableFault Table :=
  match h : fault? name columns primaryKey with
  | some f => .error f
  | none => .ok ⟨name, columns, primaryKey, name_ne, columns_ne, fault?_eq_none_iff.1 h⟩

/-- The column of a name. -/
def column? (t : Table) (name : Text) : Option Column :=
  t.columns.find? fun c => decide (name = c.name)

/-- Whether there is a column of a name. -/
def hasColumn (t : Table) (name : Text) : Bool := (t.column? name).isSome

/-- The columns carried to the backend, in order. -/
def relationalColumns (t : Table) : List Column := t.columns.filter (·.isRelational)

/-- Whether any column is carried to the backend. -/
def isRelational (t : Table) : Bool := t.columns.any (·.isRelational)

/-- Whether a column is the primary key. -/
def isKey (t : Table) (c : Column) : Bool := t.primaryKey == some c.name

/-- A table reaches the backend exactly when it has relational columns. -/
theorem isRelational_iff (t : Table) : t.isRelational = true ↔ t.relationalColumns ≠ [] := by
  simp [isRelational, relationalColumns, List.filter_eq_nil_iff]

end Table

end SchemaScript
