import Mathlib

/-!
# Support — Mailbox

A queue of chunks that is ended by a last item.  What is put on it after its first last item is
never read.

* `Mailbox.chunks q`, `Mailbox.ending q`: the chunks read from `q`, and the item that ends it.
* `chunks_append`, `ending_append`: what is put on an ended queue changes neither.
-/

namespace Mailbox

/-- One item: a chunk, or a last item. -/
inductive Item (α ε : Type) where
  | chunk (a : α)
  | last (e : ε)
  deriving DecidableEq

variable {α ε : Type}

/-- The chunks up to the first last item. -/
def chunks : List (Item α ε) → List α
  | .chunk a :: q => a :: chunks q
  | .last _ :: _ | [] => []

/-- The first last item. -/
def ending : List (Item α ε) → Option ε
  | .chunk _ :: q => ending q
  | .last e :: _ => some e
  | [] => none

@[simp] theorem chunks_nil : chunks ([] : List (Item α ε)) = [] := rfl

@[simp] theorem ending_nil : ending ([] : List (Item α ε)) = none := rfl

@[simp] theorem chunks_chunk (a : α) (q : List (Item α ε)) :
    chunks (.chunk a :: q) = a :: chunks q := rfl

@[simp] theorem chunks_last (e : ε) (q : List (Item α ε)) : chunks (.last e :: q) = [] := rfl

@[simp] theorem ending_chunk (a : α) (q : List (Item α ε)) :
    ending (.chunk a :: q) = ending q := rfl

@[simp] theorem ending_last (e : ε) (q : List (Item α ε)) : ending (.last e :: q) = some e := rfl

/-- The first end stands. -/
@[simp] theorem ending_append (q r : List (Item α ε)) :
    ending (q ++ r) = (ending q).or (ending r) := by
  induction q with
  | nil => simp
  | cons i q ih => cases i <;> simp [ih]

/-- What follows an end is not read. -/
theorem chunks_append (q r : List (Item α ε)) :
    chunks (q ++ r) = if (ending q).isSome then chunks q else chunks q ++ chunks r := by
  induction q with
  | nil => simp
  | cons i q ih =>
      cases i with
      | last e => simp
      | chunk a =>
          by_cases hq : (ending q).isSome
          · simp [ih, hq]
          · simp [ih, hq]

theorem chunks_append_open {q : List (Item α ε)} (h : ending q = none) (r : List (Item α ε)) :
    chunks (q ++ r) = chunks q ++ chunks r := by
  rw [chunks_append, h]
  rfl

/-- A last item adds no chunk. -/
@[simp] theorem chunks_append_last (q : List (Item α ε)) (e : ε) :
    chunks (q ++ [.last e]) = chunks q := by
  rw [chunks_append]
  split <;> simp

end Mailbox
