/-
# The latest event that counts

## What is proved

Some events change what is looked at, and others leave it.  After any events, either none of them has counted and all is as at
the beginning, or it is as the latest one that counts has left it.
-/
import Mathlib.Data.List.Induction

namespace SchemaScript

/-- An event that counts, after which no other one does. -/
structure IsLatest {ε : Type} (counts : ε → Prop) (before : List ε) (event : ε) (later : List ε)
    (events : List ε) : Prop where
  eq : events = before ++ event :: later
  hit : counts event
  rest : ∀ e ∈ later, ¬ counts e

section

variable {σ ε β : Type} {step : σ → ε → σ} {view : σ → β} {counts : ε → Prop} {made : ε → β → Prop}

theorem foldl_view_eq_or_latest (hkeep : ∀ s e, ¬ counts e → view (step s e) = view s)
    (hmake : ∀ s e, counts e → made e (view (step s e))) (s : σ) (events : List ε) :
    ((∀ e ∈ events, ¬ counts e) ∧ view (events.foldl step s) = view s) ∨
      ∃ before e later, IsLatest counts before e later events ∧ made e (view (events.foldl step s)) := by
  induction events using List.reverseRecOn with
  | nil => exact Or.inl ⟨fun _ h => absurd h List.not_mem_nil, rfl⟩
  | append_singleton events e ih =>
      rw [List.foldl_append, List.foldl_cons, List.foldl_nil]
      by_cases he : counts e
      · refine Or.inr ⟨events, e, [], ⟨rfl, he, fun _ h => absurd h List.not_mem_nil⟩, ?_⟩
        exact hmake _ e he
      · rw [hkeep _ e he]
        obtain ⟨hall, hview⟩ | ⟨before, e', later, ⟨rfl, he', hrest⟩, hview⟩ := ih
        · refine Or.inl ⟨?_, hview⟩
          exact List.forall_mem_append.2 ⟨hall, List.forall_mem_singleton.2 he⟩
        · refine Or.inr ⟨before, e', later ++ [e], ⟨by simp, he', ?_⟩, hview⟩
          exact List.forall_mem_append.2 ⟨hrest, List.forall_mem_singleton.2 he⟩

end

end SchemaScript
