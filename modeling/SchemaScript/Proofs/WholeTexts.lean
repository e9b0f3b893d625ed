/-
# Texts without halves

A text in which no half of a pair of units stands alone is a string, and the other way round (`whole_iff`).  Only such a
text can be written; one that holds a NUL cannot be quoted.
-/
import SchemaScript.Sql.Constant
import SchemaScript.Text.LetterCase

namespace SchemaScript.Text

/-- No half of a pair stands in the text. -/
def Whole (t : Text) : Prop := ∀ i, Point.half i ∉ t

/-- A NUL stands in the text. -/
def HasNul (t : Text) : Prop := Point.char '\x00' ∈ t

instance (t : Text) : Decidable t.HasNul := inferInstanceAs (Decidable (_ ∈ _))

instance (t : Text) : Decidable t.Whole :=
  decidable_of_iff (∀ p ∈ t, p.char? ≠ none) <| by
    constructor
    · intro h i hi
      exact h _ hi rfl
    · intro h p hp hnone
      cases p with
      | char c => cases hnone
      | half i => exact h i hp

theorem whole_append_iff {t t' : Text} : Whole (t ++ t') ↔ t.Whole ∧ t'.Whole := by
  simp only [Whole, List.mem_append, not_or, forall_and]

theorem whole_flatMap_iff {α : Type} {as : List α} {f : α → Text} :
    Whole (as.flatMap f) ↔ ∀ a ∈ as, (f a).Whole := by
  constructor
  · intro h a ha i hi
    exact h i (List.mem_flatMap.mpr ⟨a, ha, hi⟩)
  · intro h i hi
    obtain ⟨a, ha, hi⟩ := List.mem_flatMap.mp hi
    exact h a ha i hi

theorem whole_ofChars (cs : List Char) : Whole (ofChars cs) := by
  intro i hi
  obtain ⟨c, _, hc⟩ := List.mem_map.mp hi
  cases hc

theorem whole_ofString (s : String) : Whole (ofString s) := whole_ofChars s.toList

/-- The texts without halves are the strings. -/
theorem whole_iff {t : Text} : t.Whole ↔ ∃ s, t = ofString s := by
  constructor
  · intro h
    suffices ∃ cs, t = ofChars cs by
      obtain ⟨cs, rfl⟩ := this
      exact ⟨String.ofList cs, by rw [ofString, String.toList_ofList]⟩
    induction t with
    | nil => exact ⟨[], rfl⟩
    | cons p rest ih =>
        cases p with
        | half i => exact absurd List.mem_cons_self (h i)
        | char c =>
            obtain ⟨cs, rfl⟩ := ih fun i hi => h i (List.mem_cons_of_mem _ hi)
            exact ⟨c :: cs, rfl⟩
  · rintro ⟨s, rfl⟩
    exact whole_ofString s

theorem string?_eq_none_iff {t : Text} : t.string? = none ↔ ¬ t.Whole := by
  rw [whole_iff, Option.eq_none_iff_forall_ne_some, not_exists]
  exact forall_congr' fun _ => not_congr string?_eq_some_iff

theorem hasNul_ofString {s : String} : HasNul (ofString s) ↔ Sql.holdsNul s = true := by
  simp [HasNul, ofString, ofChars, Sql.holdsNul]

theorem whole_lowerFrom {t : Text} (h : t.Whole) (inWord : Bool) : Whole (lowerFrom inWord t) := by
  induction t generalizing inWord with
  | nil => exact h
  | cons p t ih =>
      have ht : Whole t := fun i hi => h i (List.mem_cons_of_mem _ hi)
      cases p with
      | half i => exact absurd List.mem_cons_self (h i)
      | char c => exact whole_append_iff.mpr ⟨whole_ofChars _, ih ht _⟩

end SchemaScript.Text
