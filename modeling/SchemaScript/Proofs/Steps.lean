/-
# Steps that may fail

## What is proved

A step after another one gives a result exactly if both do, and fails exactly if one of them does (`bind_eq_ok_iff`,
`bind_eq_error_iff`).  Steps for the items of a list give their results at their own places if none of them fails, and
otherwise the fault of one of them (`mapM_eq_ok_iff`, `exists_of_mapM_eq_error`); so what is known about each step is known
about all of them together.

## How

The lemmas about lists go back to the one equivalence with a relation place by place, and by induction on that relation to
the single steps.
-/
import Mathlib.Data.List.Forall2

namespace SchemaScript

variable {ε ε' α β γ : Type}

/-! ## One step after another -/

theorem ok_bind (a : α) (f : α → Except ε β) : (Except.ok a >>= f) = f a := rfl

theorem bind_eq_ok_iff {r : Except ε α} {f : α → Except ε β} {b : β} :
    r >>= f = .ok b ↔ ∃ a, r = .ok a ∧ f a = .ok b := by
  constructor
  · intro h
    cases r with
    | error e => cases h
    | ok a => exact ⟨a, rfl, h⟩
  · rintro ⟨a, rfl, h⟩
    exact h

/-- Two results that look alike are the same fault, or are both there and look alike. -/
theorem cases_of_map_eq {r : Except ε α} {r' : Except ε β} {f : α → γ} {f' : β → γ}
    (h : r.map f = r'.map f') :
    (∃ e, r = .error e ∧ r' = .error e) ∨ ∃ a b, r = .ok a ∧ r' = .ok b ∧ f a = f' b := by
  cases r with
  | error e =>
      cases r' with
      | error e' => exact .inl ⟨e, rfl, by cases h; rfl⟩
      | ok b => cases h
  | ok a =>
      cases r' with
      | error e' => cases h
      | ok b => exact .inr ⟨a, b, rfl, rfl, Except.ok.inj h⟩

/-- A result that looks like one that is there is there, too. -/
theorem exists_of_map_eq {r : Except ε α} {r' : Except ε β} {f : α → γ} {f' : β → γ}
    (h : r.map f = r'.map f') {a : α} (ha : r = .ok a) : ∃ b, r' = .ok b ∧ f a = f' b := by
  rcases cases_of_map_eq h with ⟨e, he, _⟩ | ⟨a', b, ha', hb, hview⟩
  · rw [he] at ha
    cases ha
  · rw [ha'] at ha
    cases ha
    exact ⟨b, hb, hview⟩

theorem not_ok_iff {r : Except ε α} : (¬ ∃ a, r = .ok a) ↔ ∃ e, r = .error e := by
  cases r with
  | error e => exact ⟨fun _ => ⟨e, rfl⟩, fun _ h => by obtain ⟨a, ha⟩ := h; cases ha⟩
  | ok a => exact ⟨fun h => absurd ⟨a, rfl⟩ h, fun h => by obtain ⟨e, he⟩ := h; cases he⟩

theorem bind_eq_error_iff {r : Except ε α} {f : α → Except ε β} {e : ε} :
    r >>= f = .error e ↔ r = .error e ∨ ∃ a, r = .ok a ∧ f a = .error e := by
  cases r with
  | error e' =>
      constructor
      · intro h
        cases h
        exact .inl rfl
      · rintro (h | ⟨a, ha, _⟩)
        · cases h
          rfl
        · cases ha
  | ok a =>
      constructor
      · intro h
        exact .inr ⟨a, rfl, h⟩
      · rintro (h | ⟨a', ha, h⟩)
        · cases h
        · cases ha
          exact h

/-- Where nothing can fail afterwards, a fault is that of the first step. -/
theorem bind_ok_eq_error_iff {r : Except ε α} {f : α → Except ε β} {h : α → β} {e : ε}
    (hf : ∀ a, f a = .ok (h a)) : r >>= f = .error e ↔ r = .error e := by
  rw [bind_eq_error_iff]
  refine ⟨fun hr => hr.resolve_right ?_, .inl⟩
  rintro ⟨a, _, ha⟩
  rw [hf] at ha
  cases ha

theorem map_eq_error_iff {r : Except ε α} {f : α → β} {e : ε} : r.map f = .error e ↔ r = .error e := by
  cases r with
  | error e' => exact ⟨fun h => by cases h; rfl, fun h => by cases h; rfl⟩
  | ok a => exact ⟨fun h => (by cases h), fun h => (by cases h)⟩

/-- Results that look alike are the same fault, if either is one. -/
theorem error_iff_of_map_eq {r : Except ε α} {r' : Except ε β} {f : α → γ} {f' : β → γ}
    (h : r.map f = r'.map f') (e : ε) : r = .error e ↔ r' = .error e := by
  rw [← map_eq_error_iff (f := f), h, map_eq_error_iff]

/-! ## Steps for the items of a list -/

/-- If no step failed, each of them gave its result at its own place. -/
theorem mapM_eq_ok_iff {f : α → Except ε β} {as : List α} {bs : List β} :
    as.mapM f = .ok bs ↔ List.Forall₂ (fun a b => f a = .ok b) as bs := by
  constructor
  · intro h
    induction as generalizing bs with
    | nil =>
        cases h
        exact .nil
    | cons a as ih =>
        rw [List.mapM_cons] at h
        obtain ⟨b, ha, h⟩ := bind_eq_ok_iff.mp h
        obtain ⟨bs', has, h⟩ := bind_eq_ok_iff.mp h
        cases h
        exact .cons ha (ih has)
  · intro h
    induction h with
    | nil => rfl
    | cons ha _ ih =>
        rw [List.mapM_cons, ha, ih]
        rfl

/-- Looking at what each step gives is looking at what all of them give. -/
theorem map_mapM {f : α → Except ε β} {view : β → γ} {f' : α → Except ε γ}
    (h : ∀ a, (f a).map view = f' a) (as : List α) :
    (as.mapM f).map (List.map view) = as.mapM f' := by
  induction as with
  | nil => rfl
  | cons a as ih =>
      rw [List.mapM_cons, List.mapM_cons, ← h a, ← ih]
      cases f a with
      | error e => rfl
      | ok b => cases as.mapM f <;> rfl

/-- What all steps give was given by one of them. -/
theorem exists_of_mem_mapM {f : α → Except ε β} {as : List α} {bs : List β}
    (h : as.mapM f = .ok bs) {b : β} (hb : b ∈ bs) : ∃ a ∈ as, f a = .ok b := by
  rw [mapM_eq_ok_iff] at h
  induction h with
  | nil => exact absurd hb List.not_mem_nil
  | cons ha _ ih =>
      rcases List.mem_cons.mp hb with rfl | hb
      · exact ⟨_, List.mem_cons_self, ha⟩
      · obtain ⟨a', ha', h'⟩ := ih hb
        exact ⟨a', List.mem_cons_of_mem _ ha', h'⟩

/-- If no step failed, each of them gave something. -/
theorem exists_of_mapM_eq_ok {f : α → Except ε β} {as : List α} {bs : List β}
    (h : as.mapM f = .ok bs) {a : α} (ha : a ∈ as) : ∃ b, f a = .ok b := by
  rw [mapM_eq_ok_iff] at h
  induction h with
  | nil => exact absurd ha List.not_mem_nil
  | cons hhead _ ih =>
      rcases List.mem_cons.mp ha with rfl | ha
      · exact ⟨_, hhead⟩
      · exact ih ha

/-- What is seen of what all steps gave, when it is known for each step. -/
theorem map_eq_of_mapM_eq_ok {f : α → Except ε β} {view : β → γ} {seen : α → γ} {as : List α}
    (hstep : ∀ a ∈ as, ∀ b, f a = .ok b → view b = seen a) {bs : List β} (h : as.mapM f = .ok bs) :
    bs.map view = as.map seen := by
  rw [mapM_eq_ok_iff] at h
  induction h with
  | nil => rfl
  | cons ha _ ih =>
      have hhead := hstep _ List.mem_cons_self _ ha
      have htail := ih fun a' ha' => hstep a' (List.mem_cons_of_mem _ ha')
      rw [List.map_cons, List.map_cons, hhead, htail]

/-- If no step fails, all of them together do not. -/
theorem mapM_ok_of_forall {f : α → Except ε β} {as : List α} (h : ∀ a ∈ as, ∃ b, f a = .ok b) :
    ∃ bs, as.mapM f = .ok bs := by
  induction as with
  | nil => exact ⟨[], rfl⟩
  | cons a as ih =>
      obtain ⟨b, hb⟩ := h a List.mem_cons_self
      obtain ⟨bs, hbs⟩ := ih fun a' ha' => h a' (List.mem_cons_of_mem _ ha')
      exact ⟨b :: bs, by rw [List.mapM_cons, hb, hbs]; rfl⟩

/-- Steps that are undone one by one are undone together. -/
theorem mapM_undo {f : α → Except ε β} {f' : β → Except ε' α}
    (h : ∀ a b, f a = .ok b → f' b = .ok a) {as : List α} {bs : List β} (hall : as.mapM f = .ok bs) :
    bs.mapM f' = .ok as := by
  have hundone : List.Forall₂ (fun a b => f' b = .ok a) as bs := (mapM_eq_ok_iff.mp hall).imp h
  exact mapM_eq_ok_iff.mpr hundone.flip

/-- Steps that give back what their items were made of give back the whole list. -/
theorem mapM_map_eq_ok {write : β → α} {f : α → Except ε β} (h : ∀ b, f (write b) = .ok b) (bs : List β) :
    (bs.map write).mapM f = .ok bs := by
  rw [mapM_eq_ok_iff, List.forall₂_map_left_iff, List.forall₂_same]
  intro b _
  exact h b

/-- The fault of all steps together is the fault of one of them. -/
theorem exists_of_mapM_eq_error {f : α → Except ε β} {as : List α} {e : ε}
    (h : as.mapM f = .error e) : ∃ a ∈ as, f a = .error e := by
  induction as with
  | nil => cases h
  | cons a as ih =>
      rw [List.mapM_cons] at h
      rcases bind_eq_error_iff.mp h with ha | ⟨b, _, h⟩
      · exact ⟨a, List.mem_cons_self, ha⟩
      rcases bind_eq_error_iff.mp h with has | ⟨bs, _, h⟩
      · obtain ⟨a', ha', h'⟩ := ih has
        exact ⟨a', List.mem_cons_of_mem _ ha', h'⟩
      · cases h

/-- Steps that need the same result and fail for it alone: all of them together fail for it, too, as soon as one of
them needs it. -/
theorem mapM_eq_error_iff {r : Except ε γ} {needs : α → Prop} {f : α → Except ε β}
    (h : ∀ a e, f a = .error e ↔ r = .error e ∧ needs a) {as : List α} {e : ε} :
    as.mapM f = .error e ↔ r = .error e ∧ ∃ a ∈ as, needs a := by
  constructor
  · intro hall
    obtain ⟨a, ha, hfault⟩ := exists_of_mapM_eq_error hall
    obtain ⟨hr, hneeds⟩ := (h a e).mp hfault
    exact ⟨hr, a, ha, hneeds⟩
  · rintro ⟨hr, a, ha, hneeds⟩
    cases hall : as.mapM f with
    | error e' =>
        obtain ⟨a', _, hfault⟩ := exists_of_mapM_eq_error hall
        rw [Except.error.inj (((h a' e').mp hfault).1.symm.trans hr)]
    | ok bs =>
        obtain ⟨b, hb⟩ := exists_of_mapM_eq_ok hall ha
        rw [(h a e).mpr ⟨hr, hneeds⟩] at hb
        cases hb

end SchemaScript
