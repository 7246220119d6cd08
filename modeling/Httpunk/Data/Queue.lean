import Httpunk.Support.Store

/-!
# Data — Queue

A queue of the keys of a store, where each entry says of itself whether it has a place, and the
places of entries that are dead are dropped only as they come to the front.

* `Marked`: no key has two places, who has one is flagged, and who is flagged and live has one.
* `Marked.join`, `Marked.leave`, `Marked.skip`, `Marked.rotate`: what happens to the queue.
* `Marked.carry`: what happens to the store beside it.
* `Ahead`: the order of two members, kept by what joins at the back and what leaves.
-/

namespace Queue

variable {κ β : Type} [DecidableEq κ] {flag live : β → Bool} {t t' : Store κ β} {q : List κ}
  {k : κ} {e e' : β}

/-- The entries of `t` say who is in `q`: `flag` that they have a place, and `live` that their place
is not to be dropped. -/
structure Marked (flag live : β → Bool) (t : Store κ β) (q : List κ) : Prop where
  nodup : q.Nodup
  flagged : ∀ k ∈ q, ∃ e, t.lookup k = some e ∧ flag e = true
  has : ∀ k e, t.lookup k = some e → flag e = true → live e = true → k ∈ q

/-- Of a queue without duplicates, the front leaves as any other does. -/
theorem tail_eq_filter (h : q.Nodup) (hd : q.head? = some k) : q.tail = q.filter (· ≠ k) := by
  cases q with
  | nil => cases hd
  | cons a l =>
    cases hd
    rw [List.tail_cons, List.filter_cons_of_neg (by simp)]
    refine (List.filter_eq_self.mpr fun b hb => ?_).symm
    rw [decide_eq_true_eq]
    rintro rfl
    exact (List.nodup_cons.mp h).1 hb

omit [DecidableEq κ] in
/-- The first that is not dropped. -/
theorem head_dropWhile {p : κ → Bool} (h : (q.dropWhile fun k => !p k).head? = some k) :
    p k = true := by
  have hd := List.head?_dropWhile_not (fun k => !p k) q
  rw [h] at hd
  simpa using hd

namespace Marked

theorem empty : Marked flag live (∅ : Store κ β) [] where
  nodup := .nil
  flagged := fun _ h => by cases h
  has := fun _ _ h => by cases h

/-- A flagged entry that is live is in the queue, and who is not flagged is not. -/
theorem mem_iff (h : Marked flag live t q) (he : t.lookup k = some e) (hl : live e = true) :
    flag e = true ↔ k ∈ q := by
  refine ⟨fun hf => h.has k e he hf hl, fun hm => ?_⟩
  obtain ⟨a, ha, hf⟩ := h.flagged k hm
  rw [he] at ha
  cases ha
  exact hf

/-- The store changes beside the queue: who is flagged stays so, and who is flagged and live was. -/
theorem carry (h : Marked flag live t q)
    (hto : ∀ k e, t.lookup k = some e → flag e = true →
      ∃ e', t'.lookup k = some e' ∧ flag e' = true)
    (hfrom : ∀ k e', t'.lookup k = some e' → flag e' = true → live e' = true →
      ∃ e, t.lookup k = some e ∧ flag e = true ∧ live e = true) : Marked flag live t' q where
  nodup := h.nodup
  flagged := by
    intro k hk
    obtain ⟨e, he, hf⟩ := h.flagged k hk
    exact hto k e he hf
  has := by
    intro k e' he' hf hl
    obtain ⟨e, he, hf, hl⟩ := hfrom k e' he' hf hl
    exact h.has k e he hf hl

/-- One entry changes beside the queue. -/
theorem put (h : Marked flag live t q) (he : t.lookup k = some e) (hf : flag e' = flag e)
    (hl : flag e' = true → live e' = true → live e = true) :
    Marked flag live (t.insert k e') q := by
  refine h.carry (fun a b ha hb => ?_) fun a b ha hb hlb => ?_
  · rw [Store.lookup_insert']
    by_cases hak : a = k
    · subst hak
      rw [he] at ha
      cases ha
      exact ⟨e', if_pos rfl, hf.trans hb⟩
    · exact ⟨b, (if_neg hak).trans ha, hb⟩
  · rw [Store.lookup_insert'] at ha
    by_cases hak : a = k
    · subst hak
      rw [if_pos rfl] at ha
      cases ha
      exact ⟨e, he, hf.symm.trans hb, hl hb hlb⟩
    · rw [if_neg hak] at ha
      exact ⟨b, ha, hb, hlb⟩

/-- An entry that is not flagged is stored. -/
theorem insert (h : Marked flag live t q) (hn : ∀ e, t.lookup k = some e → flag e = false)
    (hf : flag e' = false) : Marked flag live (t.insert k e') q := by
  refine h.carry (fun a b ha hb => ?_) fun a b ha hb hlb => ?_
  · have hak : a ≠ k := by
      rintro rfl
      rw [hn b ha] at hb
      cases hb
    exact ⟨b, (AList.lookup_insert_ne hak).trans ha, hb⟩
  · rw [Store.lookup_insert'] at ha
    split at ha
    · cases ha
      rw [hf] at hb
      cases hb
    · exact ⟨b, ha, hb, hlb⟩

/-- An entry that is not flagged is removed. -/
theorem erase (h : Marked flag live t q) (hn : ∀ e, t.lookup k = some e → flag e = false) :
    Marked flag live (t.erase k) q := by
  refine h.carry (fun a b ha hb => ?_) fun a b ha hb hlb => ?_
  · have hak : a ≠ k := by
      rintro rfl
      rw [hn b ha] at hb
      cases hb
    exact ⟨b, (AList.lookup_erase_ne hak).trans ha, hb⟩
  · rw [Store.lookup_erase'] at ha
    split at ha
    · cases ha
    · exact ⟨b, ha, hb, hlb⟩

/-- A key joins at the back. -/
theorem join (h : Marked flag live t q) (he : t.lookup k = some e) (hf : flag e = false)
    (hf' : flag e' = true) : Marked flag live (t.insert k e') (q ++ [k]) where
  nodup := by
    refine List.nodup_append.mpr ⟨h.nodup, List.nodup_singleton _, ?_⟩
    rintro a ha b hb rfl
    rw [List.mem_singleton.mp hb] at ha
    obtain ⟨c, hc, hfc⟩ := h.flagged k ha
    rw [he] at hc
    cases hc
    rw [hf] at hfc
    cases hfc
  flagged := by
    intro a ha
    rw [Store.lookup_insert']
    by_cases hak : a = k
    · exact ⟨e', if_pos hak, hf'⟩
    · have hm : a ∈ q := (List.mem_append.mp ha).resolve_right fun hs => hak (List.mem_singleton.mp hs)
      obtain ⟨b, hb, hfb⟩ := h.flagged a hm
      exact ⟨b, (if_neg hak).trans hb, hfb⟩
  has := by
    intro a b ha hb hlb
    rw [Store.lookup_insert'] at ha
    split at ha
    · next hak => exact List.mem_append_right _ (List.mem_singleton.mpr hak)
    · exact List.mem_append_left _ (h.has a b ha hb hlb)

/-- A key leaves. -/
theorem leave (h : Marked flag live t q) (hf : flag e' = false) :
    Marked flag live (t.insert k e') (q.filter (· ≠ k)) where
  nodup := h.nodup.filter _
  flagged := by
    intro a ha
    obtain ⟨hm, hak⟩ := List.mem_filter.mp ha
    rw [decide_eq_true_eq] at hak
    obtain ⟨b, hb, hfb⟩ := h.flagged a hm
    exact ⟨b, (AList.lookup_insert_ne hak).trans hb, hfb⟩
  has := by
    intro a b ha hb hlb
    rw [Store.lookup_insert'] at ha
    split at ha
    · cases ha
      rw [hf] at hb
      cases hb
    · next hak =>
      exact List.mem_filter.mpr ⟨h.has a b ha hb hlb, decide_eq_true hak⟩

/-- Places of who is not flagged, or not live, are dropped from the front. -/
theorem skip {p : κ → Bool} (h : Marked flag live t q)
    (hp : ∀ k e, t.lookup k = some e → flag e = true → live e = true → p k = false) :
    Marked flag live t (q.dropWhile p) where
  nodup := h.nodup.sublist (List.dropWhile_sublist p)
  flagged := fun k hk => h.flagged k ((List.dropWhile_sublist p).subset hk)
  has := by
    intro k e he hf hl
    have hm : k ∈ q.takeWhile p ++ q.dropWhile p := by
      rw [List.takeWhile_append_dropWhile]
      exact h.has k e he hf hl
    refine (List.mem_append.mp hm).resolve_left fun ht => ?_
    have hpk := List.mem_takeWhile_imp ht
    rw [hp k e he hf hl] at hpk
    cases hpk

/-- The front goes to the back. -/
theorem rotate (h : Marked flag live t q) (hd : q.head? = some k) :
    Marked flag live t (q.tail ++ [k]) := by
  have hperm : (q.tail ++ [k]).Perm q := by
    cases q with
    | nil => cases hd
    | cons a l =>
      cases hd
      exact List.perm_append_singleton k l
  exact ⟨hperm.nodup_iff.mpr h.nodup, fun a ha => h.flagged a (hperm.mem_iff.mp ha),
    fun a e he hf hl => hperm.mem_iff.mpr (h.has a e he hf hl)⟩

end Marked

/-! ### The order of two members -/

section Order

variable {a b : κ} {l : List κ}

/-- `a` stands in `l` before any `b`. -/
def Ahead (a b : κ) (l : List κ) : Prop := a ∈ l.takeWhile (· ≠ b)

namespace Ahead

instance (a b : κ) (l : List κ) : Decidable (Ahead a b l) :=
  inferInstanceAs (Decidable (a ∈ l.takeWhile (· ≠ b)))

/-- Of a queue with a member in front. -/
theorem cons_iff : Ahead a b (k :: l) ↔ k ≠ b ∧ (a = k ∨ Ahead a b l) := by
  unfold Ahead
  by_cases hk : k = b
  · simp [hk]
  · simp [hk]

theorem append (h : Ahead a b l) (l' : List κ) : Ahead a b (l ++ l') := by
  induction l with
  | nil => cases h
  | cons c l ih =>
    obtain ⟨hc, h⟩ := cons_iff.mp h
    exact cons_iff.mpr ⟨hc, h.imp id ih⟩

/-- Another leaves. -/
theorem filter (h : Ahead a b l) (hk : k ≠ a) : Ahead a b (l.filter (· ≠ k)) := by
  induction l with
  | nil => cases h
  | cons c l ih =>
    obtain ⟨hc, h⟩ := cons_iff.mp h
    by_cases hck : c = k
    · have hl : Ahead a b l := h.resolve_left fun ha => hk (hck.symm.trans ha.symm)
      simpa [hck] using ih hl
    · rw [List.filter_cons_of_pos (by simpa using hck)]
      exact cons_iff.mpr ⟨hc, h.imp id ih⟩

theorem tail (h : Ahead a b l) (hk : l.head? ≠ some a) : Ahead a b l.tail := by
  cases l with
  | nil => cases h
  | cons c l =>
    refine (cons_iff.mp h).2.resolve_left fun hc => hk ?_
    rw [hc, List.head?_cons]

/-- Those who leave from the front do not include `a`. -/
theorem dropWhile {p : κ → Bool} (h : Ahead a b l) (hp : p a = false) :
    Ahead a b (l.dropWhile p) := by
  induction l with
  | nil => cases h
  | cons c l ih =>
    rw [List.dropWhile_cons]
    split
    · next hc =>
      refine ih ((cons_iff.mp h).2.resolve_left fun ha => ?_)
      rw [← ha, hp] at hc
      cases hc
    · exact h

theorem head_ne (h : Ahead a b l) : l.head? ≠ some b := by
  cases l with
  | nil => cases h
  | cons c l =>
    intro hc
    exact (cons_iff.mp h).1 (Option.some.inj hc)

end Ahead

end Order

end Queue
