import Mathlib

/-!
# Support — Runs

The states a labelled transition system reaches.  `Reach step ok s s'` says that `s'` is reached
from `s` by steps that each meet the side condition `ok`, a predicate on the state the step is
taken from and on its label.

* `Reach.invariant`: what every such step keeps holds in every state reached.
* `Reach.mono`: a weaker side condition reaches at least as much.
* `Reach.of_exec`: a list of labels, executed, is a run.
* `Reach.lift`: a run is a run of another system along a function on states, when each step is.
-/

namespace Runs

variable {σ τ α β : Type}

/-- The states reached from `s` by steps that meet `ok`. -/
inductive Reach (step : σ → α → σ → Prop) (ok : σ → α → Prop) (s : σ) : σ → Prop where
  | refl : Reach step ok s s
  | tail {s₁ s₂ : σ} {a : α} (r : Reach step ok s s₁) (h : step s₁ a s₂) (c : ok s₁ a) :
      Reach step ok s s₂

/-- The side condition that every step meets. -/
def Any : σ → α → Prop := fun _ _ => True

variable {step : σ → α → σ → Prop} {ok ok' : σ → α → Prop} {s s₁ s₂ : σ} {a : α}

namespace Reach

theorem single (h : step s a s₁) (c : ok s a) : Reach step ok s s₁ := .tail .refl h c

theorem trans (r₁ : Reach step ok s s₁) (r₂ : Reach step ok s₁ s₂) : Reach step ok s s₂ := by
  induction r₂ with
  | refl => exact r₁
  | tail _ h c ih => exact .tail ih h c

theorem mono (hok : ∀ s a, ok s a → ok' s a) (r : Reach step ok s s₁) :
    Reach step ok' s s₁ := by
  induction r with
  | refl => exact .refl
  | tail _ h c ih => exact .tail ih h (hok _ _ c)

/-- **The invariant rule.**  What holds at the start and is kept by every step that meets the
side condition holds in every state reached. -/
theorem invariant {I : σ → Prop} (r : Reach step ok s s₁) (h₀ : I s)
    (keep : ∀ {s a s'}, I s → step s a s' → ok s a → I s') : I s₁ := by
  induction r with
  | refl => exact h₀
  | tail _ h c ih => exact keep ih h c

/-- A transitive relation that contains every step contains every run. -/
theorem relation {R : σ → σ → Prop} (r : Reach step ok s s₁) (hr : ∀ s, R s s)
    (ht : ∀ {a b c}, R a b → R b c → R a c)
    (hs : ∀ {s a s'}, step s a s' → ok s a → R s s') : R s s₁ := by
  induction r with
  | refl => exact hr s
  | tail _ h c ih => exact ht ih (hs h c)

/-- **Simulation.**  Where each step of one system is a run of another, so is each run. -/
theorem lift {step' : τ → β → τ → Prop} {ok' : τ → β → Prop} {f : σ → τ}
    (hs : ∀ {s a s'}, step s a s' → ok s a → Reach step' ok' (f s) (f s'))
    (r : Reach step ok s s₁) : Reach step' ok' (f s) (f s₁) := by
  induction r with
  | refl => exact .refl
  | tail _ h c ih => exact ih.trans (hs h c)

end Reach

/-! ### Execution -/

/-- The labels taken in turn from `s`, each where its condition holds. -/
def exec (f : σ → α → Option σ) (ok : σ → α → Bool) : σ → List α → Option σ
  | s, [] => some s
  | s, a :: as => if ok s a then (f s a).bind fun t => exec f ok t as else none

theorem Reach.of_exec {f : σ → α → Option σ} {ok : σ → α → Bool} {s t : σ} {as : List α}
    (h : exec f ok s as = some t) :
    Reach (fun s a s' => f s a = some s') (fun s a => ok s a = true) s t := by
  induction as generalizing s with
  | nil => cases h; exact .refl
  | cons a as ih =>
      unfold exec at h
      split at h
      · next hok =>
        obtain ⟨u, hu, ht⟩ := Option.bind_eq_some_iff.mp h
        have h₁ : Reach (fun s a s' => f s a = some s') (fun s a => ok s a = true) s u :=
          .single hu hok
        exact h₁.trans (ih ht)
      · cases h

/-- An execution that ends in a state with `p` is a run to such a state. -/
theorem Reach.of_exec_any {f : σ → α → Option σ} {ok : σ → α → Bool} {s : σ} {as : List α}
    {p : σ → Bool} (h : (exec f ok s as).any p = true) :
    ∃ t, Reach (fun s a s' => f s a = some s') (fun s a => ok s a = true) s t ∧ p t = true := by
  rcases ht : exec f ok s as with _ | t
  · rw [ht] at h; cases h
  · rw [ht] at h
    exact ⟨t, .of_exec ht, h⟩

end Runs
