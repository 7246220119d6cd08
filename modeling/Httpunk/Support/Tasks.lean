import Mathlib.Data.List.Count
import Mathlib.Data.List.Perm.Basic

/-!
# Support — Tasks

A list of tasks, each of which holds some items.

* `count_set`: what all of them hold, when one of them goes on.
* `count_spawn`: when another is started.
-/

namespace Tasks

variable {T α : Type*} [DecidableEq α] {tasks : List T} {i : Nat} {t : T}

/-- One task goes on: the others hold what they held. -/
theorem count_set (f : T → List α) (h : tasks[i]? = some t) (t' : T) (c : α) :
    ((tasks.set i t').flatMap f).count c + (f t).count c =
      (tasks.flatMap f).count c + (f t').count c := by
  obtain ⟨hi, ht⟩ := List.getElem?_eq_some_iff.mp h
  have hnew := ((List.set_perm_cons_eraseIdx hi t').flatMap_right f).count_eq c
  have hold := ((List.getElem_cons_eraseIdx_perm hi).flatMap_right f).count_eq c
  rw [List.flatMap_cons, List.count_append] at hnew hold
  rw [ht] at hold
  omega

theorem count_spawn (f : T → List α) (t : T) (c : α) :
    ((tasks ++ [t]).flatMap f).count c = (tasks.flatMap f).count c + (f t).count c := by
  rw [List.flatMap_append, List.count_append, List.flatMap_singleton]

end Tasks
