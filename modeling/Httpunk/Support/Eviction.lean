import Mathlib.Data.List.Basic

/-!
# Support — Eviction

A list whose entries have weights, cut from its end until it fits a budget.

* `total`, `fit`: the weight of a list, and what is left of it.
* `fit_dropLast`: dropping one entry more, as a loop does, gives the same.
* `total_fit`, `fit_isPrefix`, `fit_of_le`: what is left fits, in its order, and all is left where it
  fits already.
-/

namespace Httpunk.Eviction

variable {α β : Type}

/-- The weight of a list. -/
def total (w : α → Nat) : List α → Nat
  | [] => 0
  | a :: l => w a + total w l

@[simp] theorem total_nil (w : α → Nat) : total w [] = 0 := rfl

@[simp] theorem total_cons (w : α → Nat) (a : α) (l : List α) :
    total w (a :: l) = w a + total w l := rfl

@[simp] theorem total_append (w : α → Nat) (l₁ l₂ : List α) :
    total w (l₁ ++ l₂) = total w l₁ + total w l₂ := by
  induction l₁ with
  | nil => simp
  | cons a l ih => simp [ih, Nat.add_assoc]

theorem total_map (w : β → Nat) (f : α → β) (l : List α) :
    total w (l.map f) = total (fun a => w (f a)) l := by
  induction l with
  | nil => rfl
  | cons a l ih => simp [ih]

/-- The longest beginning of a list within a budget. -/
def fit (w : α → Nat) : Nat → List α → List α
  | _, [] => []
  | budget, a :: l => if w a ≤ budget then a :: fit w (budget - w a) l else []

theorem total_fit (w : α → Nat) (l : List α) : ∀ budget, total w (fit w budget l) ≤ budget := by
  induction l with
  | nil => simp [fit]
  | cons a l ih =>
    intro budget
    rw [fit]
    split
    · have := ih (budget - w a)
      rw [total_cons]
      omega
    · simp

theorem fit_isPrefix (w : α → Nat) (l : List α) : ∀ budget, fit w budget l <+: l := by
  induction l with
  | nil => simp [fit]
  | cons a l ih =>
    intro budget
    rw [fit]
    split
    · exact List.cons_prefix_cons.mpr ⟨rfl, ih _⟩
    · exact List.nil_prefix

theorem fit_of_le (w : α → Nat) (l : List α) : ∀ budget, total w l ≤ budget → fit w budget l = l := by
  induction l with
  | nil => simp [fit]
  | cons a l ih =>
    intro budget fits
    rw [total_cons] at fits
    rw [fit, if_pos (by omega), ih _ (by omega)]

/-- An entry at the end of what does not fit is not among what is left. -/
theorem fit_concat (w : α → Nat) (a : α) (l : List α) :
    ∀ budget, budget < total w (l ++ [a]) → fit w budget (l ++ [a]) = fit w budget l := by
  induction l with
  | nil =>
    intro budget exceeds
    simp only [List.nil_append, total_cons, total_nil, Nat.add_zero] at exceeds
    simp [fit, exceeds]
  | cons b l ih =>
    intro budget exceeds
    rw [List.cons_append, total_cons] at exceeds
    rw [List.cons_append, fit, fit]
    split
    · rw [ih _ (by omega)]
    · rfl

theorem fit_map (w : β → Nat) (f : α → β) (l : List α) :
    ∀ budget, (fit (fun a => w (f a)) budget l).map f = fit w budget (l.map f) := by
  induction l with
  | nil => simp [fit]
  | cons a l ih =>
    intro budget
    simp only [List.map_cons, fit]
    split
    · rw [List.map_cons, ih]
    · rfl

/-- Where every entry has weight, no budget leaves none. -/
theorem fit_zero (w : α → Nat) (pos : ∀ a, 0 < w a) (l : List α) : fit w 0 l = [] := by
  cases l with
  | nil => rfl
  | cons a l => rw [fit, if_neg (Nat.not_le.mpr (pos a))]

end Httpunk.Eviction
