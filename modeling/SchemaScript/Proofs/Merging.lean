/-
# Fields over fields

Setting a field replaces the value in its place or puts the field at the end, and merging sets one field after
another.  What counts of merged fields is what is found under a name: the new value where there is a new one, and
the old value otherwise (`get?_merge`).  That needs the names of the new fields to be distinct, as those of a record
are: of two new values under one name the last would be set, while the first is found.

The same is said of entries under keys of any kind.  A key and the name of a field are the same exactly if the key
is the text of that name, so a field set among entries is found under every key with that text and changes nothing
under the others.
-/
import Mathlib.Data.List.Nodup
import SchemaScript.Value.Entries

namespace SchemaScript

/-! ## Fields -/

namespace Fields

/-- No name occurs twice. -/
def Distinct (fs : Fields) : Prop := (fs.map Prod.fst).Nodup

instance (fs : Fields) : Decidable fs.Distinct := inferInstanceAs (Decidable (List.Nodup _))

theorem get?_cons (f : Text × Value) (fs : Fields) (name : Text) :
    get? (f :: fs) name = if f.1 = name then some f.2 else get? fs name := by
  by_cases h : f.1 = name
  · simp [get?, h]
  · simp [get?, h]

theorem get?_eq_none_iff {fs : Fields} {name : Text} :
    fs.get? name = none ↔ name ∉ fs.map Prod.fst := by
  induction fs with
  | nil => simp [get?]
  | cons f fs ih =>
      rw [get?_cons, List.map_cons, List.mem_cons, not_or, ← ih]
      by_cases h : f.1 = name
      · simp [h]
      · simp [h, Ne.symm h]

theorem get?_set (fs : Fields) (name other : Text) (v : Value) :
    (fs.set name v).get? other = if name = other then some v else fs.get? other := by
  by_cases h : name = other
  · rw [if_pos h, ← h, get?_set_self]
  · rw [if_neg h, get?_set_ne fs v (Ne.symm h)]

theorem mem_set {fs : Fields} {name : Text} {v : Value} {f : Text × Value} (h : f ∈ fs.set name v) :
    f ∈ fs ∨ f = (name, v) := by
  induction fs with
  | nil => exact .inr (List.mem_singleton.mp h)
  | cons g fs ih =>
      simp only [set] at h
      split at h
      · rcases List.mem_cons.mp h with h | h
        · exact .inr h
        · exact .inl (List.mem_cons_of_mem _ h)
      · rcases List.mem_cons.mp h with h | h
        · exact .inl (h ▸ List.mem_cons_self)
        · exact (ih h).imp_left (List.mem_cons_of_mem _)

theorem mem_names_set {fs : Fields} {name other : Text} {v : Value}
    (h : other ∈ (fs.set name v).map Prod.fst) : other ∈ fs.map Prod.fst ∨ other = name := by
  obtain ⟨f, hf, rfl⟩ := List.mem_map.mp h
  rcases mem_set hf with hf | rfl
  · exact .inl (List.mem_map_of_mem hf)
  · exact .inr rfl

theorem Distinct.set {fs : Fields} (h : fs.Distinct) (name : Text) (v : Value) :
    (fs.set name v).Distinct := by
  induction fs with
  | nil => exact List.nodup_singleton _
  | cons f fs ih =>
      obtain ⟨hf, hfs⟩ := List.nodup_cons.mp h
      simp only [Fields.set]
      split
      next hname => exact List.nodup_cons.mpr ⟨hname ▸ hf, hfs⟩
      next hname =>
        refine List.nodup_cons.mpr ⟨fun hmem => ?_, ih hfs⟩
        rcases mem_names_set hmem with hmem | heq
        · exact hf hmem
        · exact hname heq

theorem merge_cons (fs : Fields) (f : Text × Value) (gs : Fields) :
    fs.merge (f :: gs) = (fs.set f.1 f.2).merge gs := rfl

/-- What is found among merged fields is new, or else old. -/
theorem get?_merge {gs : Fields} (h : gs.Distinct) (fs : Fields) (name : Text) :
    (fs.merge gs).get? name = (gs.get? name).or (fs.get? name) := by
  induction gs generalizing fs with
  | nil => rfl
  | cons g gs ih =>
      obtain ⟨hg, hgs⟩ := List.nodup_cons.mp h
      rw [merge_cons, ih hgs, get?_set, get?_cons]
      by_cases hname : g.1 = name
      · -- No later new field has the name, so that the value stays.
        rw [if_pos hname, if_pos hname, get?_eq_none_iff.mpr (hname ▸ hg)]
        rfl
      · rw [if_neg hname, if_neg hname]

theorem Distinct.merge {fs : Fields} (h : fs.Distinct) (gs : Fields) : (fs.merge gs).Distinct := by
  induction gs generalizing fs with
  | nil => exact h
  | cons g gs ih => exact ih (h.set g.1 g.2)

theorem mem_merge {fs gs : Fields} {f : Text × Value} (h : f ∈ fs.merge gs) : f ∈ fs ∨ f ∈ gs := by
  induction gs generalizing fs with
  | nil => exact .inl h
  | cons g gs ih =>
      rcases ih h with h | h
      · refine (mem_set h).imp_right fun hset => ?_
        rw [hset]
        exact List.mem_cons_self
      · exact .inr (List.mem_cons_of_mem _ h)

theorem set_of_not_mem {fs : Fields} {name : Text} (h : name ∉ fs.map Prod.fst) (v : Value) :
    fs.set name v = fs ++ [(name, v)] := by
  induction fs with
  | nil => rfl
  | cons f fs ih =>
      rw [List.map_cons, List.mem_cons, not_or] at h
      rw [Fields.set, if_neg (Ne.symm h.1), ih h.2]
      rfl

/-- Fields of names that are all new come after the old ones. -/
theorem merge_of_distinct {fs gs : Fields} (h : Distinct (fs ++ gs)) : fs.merge gs = fs ++ gs := by
  induction gs generalizing fs with
  | nil => exact (List.append_nil fs).symm
  | cons g gs ih =>
      have hg : g.1 ∉ fs.map Prod.fst := by
        rw [Distinct, List.map_append, List.nodup_append] at h
        exact fun hmem => h.2.2 _ hmem _ List.mem_cons_self rfl
      have happend : fs ++ g :: gs = (fs ++ [g]) ++ gs := by simp
      rw [merge_cons, set_of_not_mem hg, happend, ih (happend ▸ h)]

theorem merge_nil_left {fs : Fields} (h : fs.Distinct) : merge [] fs = fs := merge_of_distinct h

/-- The fields that are there. -/
def ofOptions (fs : List (Text × Option Value)) : Fields := fs.flatMap fun f => given f.1 f.2

theorem ofOptions_cons (f : Text × Option Value) (fs : List (Text × Option Value)) :
    ofOptions (f :: fs) = given f.1 f.2 ++ ofOptions fs := rfl

theorem mem_ofOptions_iff {fs : List (Text × Option Value)} {f : Text × Value} :
    f ∈ ofOptions fs ↔ (f.1, some f.2) ∈ fs := by
  have hgiven (g : Text × Option Value) : f ∈ given g.1 g.2 ↔ g = (f.1, some f.2) := by
    obtain ⟨name, v⟩ := g
    obtain ⟨name', v'⟩ := f
    cases v with
    | none => simp [given]
    | some v => simp [given, eq_comm]
  simp only [ofOptions, List.mem_flatMap, hgiven, exists_eq_right]

theorem names_ofOptions (fs : List (Text × Option Value)) :
    ((ofOptions fs).map Prod.fst).Sublist (fs.map Prod.fst) := by
  induction fs with
  | nil => exact List.Sublist.slnil
  | cons f fs ih =>
      rw [ofOptions_cons, List.map_append, List.map_cons]
      cases f.2 with
      | none => exact ih.cons f.1
      | some v => exact ih.cons_cons f.1

end Fields

/-! ## Keys that are texts -/

namespace Value

/-- What is the same as a text is that text. -/
theorem same_iff_of_text? {u v : Value} {name : Text} (h : u.text? = some name) :
    u.same v = true ↔ v.text? = some name := by
  cases u with
  | text t | symbol t =>
      cases h
      cases v <;> simp [same, sameLeaf, number?, text?]
      all_goals exact eq_comm
  | _ => cases h

theorem same_iff_of_text?_right {u v : Value} {name : Text} (h : v.text? = some name) :
    u.same v = true ↔ u.text? = some name := by
  cases v with
  | text t | symbol t =>
      cases h
      cases u <;> simp [same, sameLeaf, number?, text?]
  | _ => cases h

end Value

/-! ## Entries -/

namespace Entries

/-- No two keys are the same. -/
def Distinct (es : Entries) : Prop := es.Pairwise fun e e' => e.1.same e'.1 = false

theorem get?_cons (e : Value × Value) (es : Entries) (key : Value) :
    get? (e :: es) key = if e.1.same key then some e.2 else get? es key := by
  by_cases h : e.1.same key = true
  · simp [get?, h]
  · simp [get?, h]

theorem get?_set_text (es : Entries) (name : Text) (v key : Value) :
    (es.set (.text name) v).get? key = if key.text? = some name then some v else es.get? key := by
  have hname (e : Value) : e.same (.text name) = true ↔ e.text? = some name :=
    Value.same_iff_of_text?_right rfl
  induction es with
  | nil =>
      rw [set, get?_cons]
      simp only [Value.same_iff_of_text? (u := .text name) rfl]
  | cons e es ih =>
      simp only [set]
      split
      next hset =>
        rw [get?_cons, get?_cons]
        simp only [Value.same_iff_of_text? ((hname _).mp hset)]
        split <;> rfl
      next hset =>
        rw [get?_cons, get?_cons, ih]
        by_cases hkey : key.text? = some name
        · have hne : ¬ e.1.same key = true := fun h =>
            hset ((hname _).mpr ((Value.same_iff_of_text?_right hkey).mp h))
          rw [if_pos hkey, if_pos hkey, if_neg hne]
        · rw [if_neg hkey, if_neg hkey]

theorem merge_cons (es : Entries) (f : Text × Value) (fs : Fields) :
    es.merge (f :: fs) = (es.set (.text f.1) f.2).merge fs := rfl

/-- What is found among entries with fields merged into them is that of the fields, or else the old one. -/
theorem get?_merge {fs : Fields} (h : fs.Distinct) (es : Entries) (key : Value) :
    (es.merge fs).get? key = (key.text?.bind fs.get?).or (es.get? key) := by
  induction fs generalizing es with
  | nil => cases key.text? <;> rfl
  | cons f fs ih =>
      obtain ⟨hf, hfs⟩ := List.nodup_cons.mp h
      rw [merge_cons, ih hfs, get?_set_text]
      cases hkey : key.text? with
      | none => rfl
      | some name =>
          simp only [Option.bind_some, Fields.get?_cons, Option.some.injEq]
          by_cases hname : f.1 = name
          · rw [if_pos hname, if_pos hname.symm, Fields.get?_eq_none_iff.mpr (hname ▸ hf)]
            rfl
          · rw [if_neg hname, if_neg (Ne.symm hname)]

theorem mem_set {es : Entries} {key v : Value} {e : Value × Value} (h : e ∈ es.set key v) :
    (∃ e' ∈ es, e'.1 = e.1) ∨ e = (key, v) := by
  induction es with
  | nil => exact .inr (List.mem_singleton.mp h)
  | cons d es ih =>
      simp only [set] at h
      split at h
      · rcases List.mem_cons.mp h with rfl | h
        · exact .inl ⟨d, List.mem_cons_self, rfl⟩
        · exact .inl ⟨e, List.mem_cons_of_mem _ h, rfl⟩
      · rcases List.mem_cons.mp h with rfl | h
        · exact .inl ⟨e, List.mem_cons_self, rfl⟩
        · refine (ih h).imp_left fun hmem => ?_
          obtain ⟨e', he', heq⟩ := hmem
          exact ⟨e', List.mem_cons_of_mem _ he', heq⟩

theorem Distinct.set {es : Entries} (h : es.Distinct) (key v : Value) : (es.set key v).Distinct := by
  induction es with
  | nil => exact List.pairwise_singleton _ _
  | cons e es ih =>
      obtain ⟨he, hes⟩ := List.pairwise_cons.mp h
      simp only [Entries.set]
      split
      · exact List.pairwise_cons.mpr ⟨he, hes⟩
      next hkey =>
        refine List.pairwise_cons.mpr ⟨fun d hd => ?_, ih hes⟩
        rcases mem_set hd with ⟨e', he', heq⟩ | rfl
        · exact heq ▸ he e' he'
        · exact Bool.eq_false_iff.mpr hkey

theorem Distinct.merge {es : Entries} (h : es.Distinct) (fs : Fields) : (es.merge fs).Distinct := by
  induction fs generalizing es with
  | nil => exact h
  | cons f fs ih => exact ih (h.set _ _)

end Entries

end SchemaScript
