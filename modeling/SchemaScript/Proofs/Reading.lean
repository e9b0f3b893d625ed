/-
# Texts that are read from the front

If two texts are equal, what can be read of one from the front can be read of the other.  Three things make reading
certain: a part that cannot hold a character ends before that character (`eq_of_append_stop`); of two parts neither of
which starts with the other only one can come next (`Apart`); and a list of parts is read one after another, if each of
them can be read and none looks like the ending of the list (`Readable`).
-/
import Mathlib.Data.List.Infix
import SchemaScript.Text.Basic

namespace SchemaScript

open Text (ofString)

/-! ## Where equal texts come apart -/

section Lists

variable {α β γ : Type}

/-- Neither list starts with the other one. -/
def Apart (as bs : List β) : Prop := ¬ as <+: bs ∧ ¬ bs <+: as

instance [DecidableEq β] (as bs : List β) : Decidable (Apart as bs) :=
  inferInstanceAs (Decidable (¬ as <+: bs ∧ ¬ bs <+: as))

theorem Apart.append_ne {as bs : List β} (h : Apart as bs) (as' bs' : List β) :
    as ++ as' ≠ bs ++ bs' := by
  intro heq
  have ha : as <+: bs ++ bs' := ⟨as', heq⟩
  have hb : bs <+: bs ++ bs' := List.prefix_append bs bs'
  rcases List.prefix_or_prefix_of_prefix ha hb with hprefix | hprefix
  · exact h.1 hprefix
  · exact h.2 hprefix

theorem append_stop_inj {stop : β → Prop} {as as' bs bs' : List β} {x x' : β}
    (has : ∀ a ∈ as, ¬ stop a) (has' : ∀ a ∈ as', ¬ stop a) (hx : stop x) (hx' : stop x')
    (h : as ++ x :: bs = as' ++ x' :: bs') : as = as' ∧ x :: bs = x' :: bs' := by
  induction as generalizing as' with
  | nil =>
      cases as' with
      | nil => exact ⟨rfl, h⟩
      | cons a' as' =>
          obtain ⟨rfl, _⟩ := List.cons_eq_cons.mp h
          exact absurd hx (has' x List.mem_cons_self)
  | cons a as ih =>
      cases as' with
      | nil =>
          obtain ⟨rfl, _⟩ := List.cons_eq_cons.mp h
          exact absurd hx' (has a List.mem_cons_self)
      | cons a' as' =>
          obtain ⟨rfl, htail⟩ := List.cons_eq_cons.mp h
          obtain ⟨rfl, hrest⟩ := ih (fun b hb => has b (List.mem_cons_of_mem _ hb))
            (fun b hb => has' b (List.mem_cons_of_mem _ hb)) htail
          exact ⟨rfl, hrest⟩

/-- Items that are read one after another, each where `follow` holds of what comes after it, up to an ending that
no item looks like. -/
structure Readable (item : α → List β) (view : α → γ) (good : α → Prop) (follow : List β → Prop)
    (ending : List β) : Prop where
  read : ∀ {a a'}, good a → good a' → ∀ {r r'}, follow r → follow r' →
    item a ++ r = item a' ++ r' → view a = view a' ∧ r = r'
  ne_ending : ∀ {a}, good a → ∀ r r', item a ++ r ≠ ending ++ r'
  follow_item : ∀ {a}, good a → ∀ r, follow (item a ++ r)
  follow_ending : ∀ r, follow (ending ++ r)

section Readable

variable {item : α → List β} {view : α → γ} {good : α → Prop} {follow : List β → Prop}
  {ending : List β} (h : Readable item view good follow ending)
include h

theorem Readable.follow_items {as : List α} (has : ∀ a ∈ as, good a) (r : List β) :
    follow (as.flatMap item ++ (ending ++ r)) := by
  cases as with
  | nil => exact h.follow_ending r
  | cons a as =>
      rw [List.flatMap_cons, List.append_assoc]
      exact h.follow_item (has a List.mem_cons_self) _

/-- What is seen of a list of items is read from the text of the list. -/
theorem Readable.map_eq {as as' : List α} (has : ∀ a ∈ as, good a) (has' : ∀ a ∈ as', good a)
    {r r' : List β} (heq : as.flatMap item ++ (ending ++ r) = as'.flatMap item ++ (ending ++ r')) :
    as.map view = as'.map view ∧ r = r' := by
  -- Both lists are read at once; if one of them ended first, an item of the other would look like the ending.
  induction as generalizing as' with
  | nil =>
      cases as' with
      | nil => exact ⟨rfl, List.append_cancel_left heq⟩
      | cons a' as' =>
          rw [List.flatMap_cons, List.append_assoc] at heq
          exact absurd heq.symm (h.ne_ending (has' a' List.mem_cons_self) _ _)
  | cons a as ih =>
      cases as' with
      | nil =>
          rw [List.flatMap_cons, List.append_assoc] at heq
          exact absurd heq (h.ne_ending (has a List.mem_cons_self) _ _)
      | cons a' as' =>
          have htail : ∀ b ∈ as, good b := fun b hb => has b (List.mem_cons_of_mem _ hb)
          have htail' : ∀ b ∈ as', good b := fun b hb => has' b (List.mem_cons_of_mem _ hb)
          rw [List.flatMap_cons, List.flatMap_cons, List.append_assoc, List.append_assoc] at heq
          obtain ⟨hview, hrest⟩ := h.read (has a List.mem_cons_self) (has' a' List.mem_cons_self)
            (h.follow_items htail r) (h.follow_items htail' r') heq
          obtain ⟨hviews, hr⟩ := ih htail htail' hrest
          exact ⟨by rw [List.map_cons, List.map_cons, hview, hviews], hr⟩

end Readable

end Lists

/-- None of the characters stands in the string. -/
def Lacks (stop : List Char) (s : String) : Prop := ∀ c ∈ s.toList, c ∉ stop

instance (stop : List Char) (s : String) : Decidable (Lacks stop s) :=
  List.decidableBAll (fun c => c ∉ stop) s.toList

theorem Lacks.append {stop : List Char} {a b : String} (ha : Lacks stop a) (hb : Lacks stop b) :
    Lacks stop (a ++ b) := by
  intro c hc
  rw [String.toList_append] at hc
  rcases List.mem_append.mp hc with hc | hc
  · exact ha c hc
  · exact hb c hc

/-- The text starts with one of the characters. -/
def StopsAt (stop : List Char) (t : Text) : Prop := ∃ c ∈ stop, ∃ rest, t = .char c :: rest

theorem stopsAt_append {stop : List Char} {b : String}
    (hb : (b.toList.head?.any fun c => decide (c ∈ stop)) = true) (r : Text) :
    StopsAt stop (ofString b ++ r) := by
  obtain ⟨c, hc, hmem⟩ := (Option.any_eq_true _ _).mp hb
  obtain ⟨cs, hcs⟩ := List.head?_eq_some_iff.mp hc
  refine ⟨c, of_decide_eq_true hmem, Text.ofChars cs ++ r, ?_⟩
  rw [ofString, hcs]
  rfl

/-- Two texts are read up to the first character at which reading stops. -/
theorem eq_of_append_stop (stop : List Char) {a a' : String} {r r' : Text} (ha : Lacks stop a)
    (ha' : Lacks stop a') (hr : StopsAt stop r) (hr' : StopsAt stop r')
    (h : ofString a ++ r = ofString a' ++ r') : a = a' ∧ r = r' := by
  have passes {a : String} (ha : Lacks stop a) : ∀ p ∈ ofString a, ¬ ∃ c ∈ stop, p = .char c := by
    rintro p hp ⟨c, hstop, rfl⟩
    obtain ⟨c', hc', hchar⟩ := List.mem_map.mp hp
    cases hchar
    exact ha c hc' hstop
  obtain ⟨c, hc, rest, rfl⟩ := hr
  obtain ⟨c', hc', rest', rfl⟩ := hr'
  obtain ⟨hnames, hrests⟩ := append_stop_inj (passes ha) (passes ha') ⟨c, hc, rfl⟩ ⟨c', hc', rfl⟩ h
  exact ⟨Text.ofString_inj.mp hnames, hrests⟩

end SchemaScript
