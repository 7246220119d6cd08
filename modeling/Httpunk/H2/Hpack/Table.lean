import Httpunk.H2.Hpack.Header
import Httpunk.Support.Eviction

/-!
# H2 — Hpack — Table

The decoder's dynamic table (`Table` of `hpack/decoder.rs`).

* `Table.reserve_eq`, `Table.setMaxSize_eq`: the loops that evict, by what they leave.
* `Table.Ok`: the size is that of the entries and within its bound, after any call.
-/

namespace Httpunk.H2.Hpack

open Httpunk.Eviction

/-! ### The decoder's table -/

structure Table where
  entries : List Header
  size : Nat
  maxSize : Nat
  deriving DecidableEq

namespace Table

/-- `Table::new`. -/
def new (maxSize : Nat) : Table := ⟨[], 0, maxSize⟩

/-- `get`. -/
def get (t : Table) (index : Nat) : Except DecoderError Header :=
  if index = 0 then .error .invalidTableIndex
  else if index ≤ 61 then .ok (getStatic index)
  else
    match t.entries[index - 62]? with
    | some e => .ok e
    | none => .error .invalidTableIndex

/-- `reserve`. -/
def reserve (t : Table) (size : Nat) : Table :=
  if t.maxSize < t.size + size then
    if h : t.entries = [] then t
    else reserve ⟨t.entries.dropLast, t.size - (t.entries.getLast h).len, t.maxSize⟩ size
  else t
termination_by t.entries.length
decreasing_by
  have := List.length_pos_iff.mpr h
  simp only [List.length_dropLast]
  omega

/-- `insert`. -/
def insert (t : Table) (entry : Header) : Table :=
  if (t.reserve entry.len).size + entry.len ≤ (t.reserve entry.len).maxSize then
    ⟨entry :: (t.reserve entry.len).entries, (t.reserve entry.len).size + entry.len,
      (t.reserve entry.len).maxSize⟩
  else t.reserve entry.len

/-- `consolidate`, whose table without entries is empty. -/
def consolidate (t : Table) : Table :=
  if t.maxSize < t.size then
    if h : t.entries = [] then t
    else consolidate ⟨t.entries.dropLast, t.size - (t.entries.getLast h).len, t.maxSize⟩
  else t
termination_by t.entries.length
decreasing_by
  have := List.length_pos_iff.mpr h
  simp only [List.length_dropLast]
  omega

/-- `set_max_size`. -/
def setMaxSize (t : Table) (size : Nat) : Table := consolidate { t with maxSize := size }

/-- The size is that of the entries, and within its bound. -/
structure Ok (t : Table) : Prop where
  size_eq : t.size = total Header.len t.entries
  fits : t.size ≤ t.maxSize

end Table

theorem Header.len_pos (h : Header) : 0 < h.len := by
  cases h <;> simp only [Header.len] <;> omega

namespace Table

/-- The table with the entries that fit a budget. -/
def cut (t : Table) (budget : Nat) : Table :=
  ⟨fit Header.len budget t.entries, total Header.len (fit Header.len budget t.entries), t.maxSize⟩

/-- The eviction loop of `reserve` leaves what fits beside the entry. -/
theorem reserve_eq (t : Table) (size : Nat) (ok : t.size = total Header.len t.entries) :
    t.reserve size = t.cut (t.maxSize - size) := by
  obtain ⟨entries, tsize, maxSize⟩ := t
  obtain rfl : tsize = total Header.len entries := ok
  induction entries using List.reverseRecOn with
  | nil =>
    rw [reserve.eq_def]
    simp [cut, fit]
  | append_singleton l a ih =>
    rw [reserve.eq_def]
    split
    · next exceeds =>
      have left : total Header.len (l ++ [a]) - a.len = total Header.len l := by simp
      rw [dif_neg (by simp)]
      simp only [List.dropLast_concat, List.getLast_append_singleton, left, ih, cut]
      by_cases wide : maxSize - size < total Header.len (l ++ [a])
      · rw [fit_concat _ _ _ _ wide]
      · have : 0 < a.len := a.len_pos
        simp only [total_append, total_cons, total_nil] at wide exceeds
        omega
    · next under =>
      simp only [cut]
      rw [fit_of_le _ _ _ (by simp only at under; omega)]

theorem consolidate_eq (t : Table) (ok : t.size = total Header.len t.entries) :
    t.consolidate = t.cut t.maxSize := by
  obtain ⟨entries, tsize, maxSize⟩ := t
  obtain rfl : tsize = total Header.len entries := ok
  induction entries using List.reverseRecOn with
  | nil =>
    rw [consolidate.eq_def]
    simp [cut, fit]
  | append_singleton l a ih =>
    rw [consolidate.eq_def]
    split
    · next exceeds =>
      have left : total Header.len (l ++ [a]) - a.len = total Header.len l := by simp
      rw [dif_neg (by simp)]
      simp only [List.dropLast_concat, List.getLast_append_singleton, left, ih, cut]
      rw [fit_concat _ _ _ _ exceeds]
    · next under =>
      simp only [cut]
      rw [fit_of_le _ _ _ (Nat.le_of_not_lt under)]

theorem setMaxSize_eq {t : Table} (ok : t.Ok) (size : Nat) :
    t.setMaxSize size = { t with maxSize := size }.cut size :=
  consolidate_eq _ ok.size_eq

theorem cut_ok (t : Table) {budget : Nat} (within : budget ≤ t.maxSize) : (t.cut budget).Ok :=
  ⟨rfl, (total_fit _ _ _).trans within⟩

theorem new_ok (maxSize : Nat) : (new maxSize).Ok := ⟨rfl, Nat.zero_le _⟩

theorem setMaxSize_ok {t : Table} (ok : t.Ok) (size : Nat) : (t.setMaxSize size).Ok := by
  rw [setMaxSize_eq ok]
  exact cut_ok _ le_rfl

/-- An entry that fits is put before what fits beside it. -/
theorem insert_eq {t : Table} (ok : t.Ok) {h : Header} (fits : h.len ≤ t.maxSize) :
    t.insert h = ⟨h :: (t.cut (t.maxSize - h.len)).entries,
      (t.cut (t.maxSize - h.len)).size + h.len, t.maxSize⟩ := by
  have beside := total_fit Header.len t.entries (t.maxSize - h.len)
  rw [insert, reserve_eq t h.len ok.size_eq, if_pos]
  · rfl
  · simp only [cut]
    omega

theorem insert_ok {t : Table} (ok : t.Ok) (h : Header) : (t.insert h).Ok := by
  rw [insert, reserve_eq t h.len ok.size_eq]
  split
  · next fits => exact ⟨by simp [cut, Nat.add_comm], fits⟩
  · exact cut_ok t (Nat.sub_le _ _)

theorem insert_maxSize (t : Table) (h : Header) (ok : t.Ok) : (t.insert h).maxSize = t.maxSize := by
  rw [insert, reserve_eq t h.len ok.size_eq]
  split <;> rfl

/-- Every entry has a weight of 32 at least. -/
theorem weight {t : Table} (ok : t.Ok) : 32 * t.entries.length ≤ t.size := by
  have each (l : List Header) : 32 * l.length ≤ total Header.len l := by
    induction l with
    | nil => exact Nat.zero_le _
    | cons h l ih =>
      have : 32 ≤ h.len := by cases h <;> simp only [Header.len] <;> omega
      simp only [List.length_cons, total_cons]
      omega
  rw [ok.size_eq]
  exact each t.entries

end Table

end Httpunk.H2.Hpack
