import Httpunk.H2.Driver.Wire

/-!
# H2 — Safety — WireOrder

The output is neither lost, duplicated nor reordered on its way to the transport.

* `Batches.Apart`: no buffer in use is one that is still held, and the spare is empty.
* `Wire.Sound`: the batches taken are what was queued, and the bytes handed over are the batches.
* `Wire.output_in_order`: both in every state reached, and what holds where `close` has flushed.
-/

namespace Httpunk.H2

open Runs (Reach)

/-! ### Buffers -/

namespace Batches

/-- The memory in use: the pending buffer's, the spare's and that of the batches held. -/
def ids (b : Batches) : List Nat :=
  b.pending.id :: (b.spare.toList.map (·.id) ++ b.out.map (·.id))

/-- The buffers are apart, and the spare is empty. -/
structure Apart (b : Batches) : Prop where
  nodup : b.ids.Nodup
  fresh : ∀ id ∈ b.ids, id < b.fresh
  spare : ∀ s, b.spare = some s → s.data = []

variable {b : Batches}

theorem Apart.new : Apart new where
  nodup := by simp [ids, Batches.new]
  fresh := fun id hid => by
    simp only [ids, Batches.new, Option.toList_none, List.map_nil, List.append_nil,
      List.mem_singleton] at hid
    subst hid
    exact Nat.zero_lt_one
  spare := fun s hs => by cases hs

theorem Apart.append (h : b.Apart) (bytes : Bytes) : (b.append bytes).Apart :=
  ⟨h.nodup, h.fresh, h.spare⟩

/-- The batch that leaves is the pending buffer, and an empty one takes its place. -/
theorem take_spec (h : b.Apart) : b.take.1.Apart ∧ b.take.2.1 = b.pending ∧
    b.take.1.pending.data = [] := by
  have hn := h.nodup
  have hlt := h.fresh
  unfold take
  rcases hs : b.spare with _ | next
  · simp only [ids, hs, Option.toList_none, List.map_nil, List.nil_append] at hn hlt
    refine ⟨⟨?_, fun id hid => ?_, fun s hs' => ?_⟩, rfl, rfl⟩
    · -- the fresh buffer is none of those in use
      have hnew : b.fresh ∉ b.pending.id :: b.out.map (·.id) := fun hm =>
        Nat.lt_irrefl _ (hlt _ hm)
      simp only [ids, Option.toList_none, List.map_nil, List.nil_append, List.map_append,
        List.map_cons]
      refine List.nodup_cons.mpr ⟨fun hm => hnew ?_, ?_⟩
      · rcases List.mem_append.mp hm with hm | hm
        · exact List.mem_cons_of_mem _ hm
        · exact List.mem_cons.mpr (.inl (List.mem_singleton.mp hm))
      · exact (List.perm_append_singleton _ _).nodup_iff.mpr hn
    · simp only [ids, Option.toList_none, List.map_nil, List.nil_append, List.map_append,
        List.map_cons, List.mem_cons, List.mem_append, List.not_mem_nil, or_false] at hid hlt ⊢
      rcases hid with rfl | hid | rfl
      · exact Nat.lt_succ_self _
      · exact Nat.lt_succ_of_lt (hlt id (.inr hid))
      · exact Nat.lt_succ_of_lt (hlt _ (.inl rfl))
    · cases hs'
  · simp only [ids, hs, Option.toList_some, List.map_cons, List.map_nil, List.singleton_append]
      at hn hlt
    have hperm : (next.id :: (b.out.map (·.id) ++ [b.pending.id])).Perm
        (b.pending.id :: next.id :: b.out.map (·.id)) :=
      (List.Perm.cons _ (List.perm_append_singleton _ _)).trans (List.Perm.swap _ _ _)
    refine ⟨⟨?_, fun id hid => ?_, fun s hs' => by cases hs'⟩, rfl, h.spare next hs⟩
    · simp only [ids, Option.toList_none, List.map_nil, List.nil_append, List.map_append,
        List.map_cons]
      exact hperm.nodup_iff.mpr hn
    · simp only [ids, Option.toList_none, List.map_nil, List.nil_append, List.map_append,
        List.map_cons] at hid
      exact hlt id (hperm.mem_iff.mp hid)

/-- A dropped batch is the spare, or nothing. -/
theorem Apart.drop (h : b.Apart) {id : Nat} (hid : id ∈ b.out.map (·.id)) : (b.drop id).Apart := by
  have hn := h.nodup
  have hlt := h.fresh
  have hsub : (b.out.filter (·.id ≠ id)).map (·.id) = (b.out.map (·.id)).filter (· ≠ id) := by
    rw [List.filter_map]
    rfl
  have hsl : List.Sublist ((b.out.filter (·.id ≠ id)).map (·.id)) (b.out.map (·.id)) :=
    List.filter_sublist.map _
  unfold Batches.drop
  rcases hs : b.spare with _ | next
  · simp only [ids, hs, Option.toList_none, List.map_nil, List.nil_append] at hn hlt
    refine ⟨?_, fun k hk => ?_, fun s hs' => by cases hs'; rfl⟩
    · simp only [ids, Option.toList_some, List.map_cons, List.map_nil, List.singleton_append]
      rw [List.nodup_cons] at hn ⊢
      refine ⟨fun hm => hn.1 ?_, List.nodup_cons.mpr ⟨fun hm => ?_, hsl.nodup hn.2⟩⟩
      · rcases List.mem_cons.mp hm with heq | hm
        · rw [heq]
          exact hid
        · exact hsl.subset hm
      · rw [hsub] at hm
        simpa using (List.mem_filter.mp hm).2
    · simp only [ids, Option.toList_some, List.map_cons, List.map_nil, List.singleton_append,
        List.mem_cons] at hk
      rcases hk with rfl | rfl | hk
      · exact hlt _ (List.mem_cons_self ..)
      · exact hlt _ (List.mem_cons_of_mem _ hid)
      · exact hlt _ (List.mem_cons_of_mem _ (hsl.subset hk))
  · simp only [ids, hs, Option.toList_some, List.map_cons, List.map_nil, List.singleton_append]
      at hn hlt
    have hsl' := (hsl.cons_cons next.id).cons_cons b.pending.id
    refine ⟨?_, fun k hk => ?_, fun s hs' => h.spare s (hs.trans hs')⟩
    · simp only [ids, Option.toList_some, List.map_cons, List.map_nil, List.singleton_append]
      exact hsl'.nodup hn
    · simp only [ids, Option.toList_some, List.map_cons, List.map_nil, List.singleton_append] at hk
      exact hlt k (hsl'.subset hk)

end Batches

namespace Wire

variable {w w' : Wire} {a : Action}

/-! ### What was taken and what was handed over -/

/-- The bytes of the batch in the hand of the lock's holder. -/
def inHand (w : Wire) : Bytes := (w.lock.map fun l => l.2.data).getD []

/-- What a flush has made sure of. -/
def Fine (w : Wire) (f : Flusher) : Prop :=
  match f.stage with
  | .joining _ => True
  | .flushing => f.mark ≤ w.appended.length
  | .writing => f.mark ≤ w.taken.flatten.length
  | .flushed => w.failed = true ∨ f.mark ≤ w.handed.length

/-- What holds between any two steps. -/
structure Sound (w : Wire) : Prop where
  apart : w.bufs.Apart
  queued : w.taken.flatten ++ w.bufs.pending.data = w.appended
  cut : w.taken.flatten.length = w.cut
  handed : w.failed = false → w.handed ++ w.inHand = w.taken.flatten
  fine : ∀ f ∈ w.flushers, w.Fine f

/-- What a flush has made sure of stays so. -/
theorem Fine.mono {f : Flusher} (h : w.Fine f)
    (ha : w.appended.length ≤ w'.appended.length)
    (ht : w.taken.flatten.length ≤ w'.taken.flatten.length)
    (hf : w.failed = true → w'.failed = true) (hh : w.handed.length ≤ w'.handed.length) :
    w'.Fine f := by
  unfold Fine at h ⊢
  split
  · exact trivial
  · next hs =>
    rw [hs] at h
    exact Nat.le_trans h ha
  · next hs =>
    rw [hs] at h
    exact Nat.le_trans h ht
  · next hs =>
    rw [hs] at h
    exact h.imp hf fun hm => Nat.le_trans hm hh

/-- What was taken is a part of what was queued. -/
theorem Sound.taken_le (h : w.Sound) : w.taken.flatten.length ≤ w.appended.length := by
  rw [← h.queued, List.length_append]
  exact Nat.le_add_right _ _

/-- One flush at a new stage. -/
theorem fine_set {i : Nat} {f : Flusher} (hall : ∀ g ∈ w.flushers, w'.Fine g) (hf : w'.Fine f) :
    ∀ g ∈ w.flushers.set i f, w'.Fine g := by
  intro g hg
  rcases List.mem_or_eq_of_mem_set hg with hg | rfl
  · exact hall g hg
  · exact hf

/-- **A take** by the task that got the lock. -/
theorem Sound.takeFor (h : w.Sound) (hl : w.lock = none) (who : Holder) :
    (w.takeFor who).Sound ∧ (w.takeFor who).taken.flatten = w.appended := by
  obtain ⟨hapart, hbatch, hempty⟩ := Batches.take_spec h.apart
  have htaken : (w.taken ++ [w.bufs.take.2.1.data]).flatten = w.appended := by
    rw [List.flatten_append, hbatch, ← h.queued]
    simp
  refine ⟨⟨hapart, ?_, ?_, fun hf => ?_, fun f hf => (h.fine f hf).mono (Nat.le_refl _) ?_ id
    (Nat.le_refl _)⟩, htaken⟩
  · unfold Wire.takeFor
    dsimp only
    rw [htaken, hempty, List.append_nil]
  · unfold Wire.takeFor
    dsimp only
    rw [htaken]
  · have hh := h.handed hf
    unfold inHand at hh ⊢
    rw [hl] at hh
    unfold Wire.takeFor
    dsimp only
    rw [List.flatten_append, ← hh]
    simp
  · unfold Wire.takeFor
    dsimp only
    rw [htaken]
    exact h.taken_le

/-- **A write**: the batch was handed over, or the write failed. -/
theorem Sound.afterWrite (h : w.Sound) {who : Holder} {batch : Buffer}
    (hl : w.lock = some (who, batch)) (ok : Bool) :
    (w.afterWrite batch ok).Sound ∧
      ((w.afterWrite batch ok).failed = true ∨ (w.afterWrite batch ok).handed = w.taken.flatten) := by
  have hhand : w.failed = false → w.handed ++ batch.data = w.taken.flatten := fun hf => by
    have hh := h.handed hf
    unfold inHand at hh
    rw [hl] at hh
    exact hh
  refine ⟨⟨h.apart, h.queued, h.cut, fun hf => ?_, fun f hf => (h.fine f hf).mono (Nat.le_refl _)
    (Nat.le_refl _) (fun ht => ?_) ?_⟩, ?_⟩
  · unfold Wire.afterWrite at hf ⊢
    dsimp only at hf ⊢
    cases ok with
    | true =>
      have hfail : w.failed = false := by simpa using hf
      unfold inHand
      simp only [if_true, Option.map_none, Option.getD_none, List.append_nil]
      exact hhand hfail
    | false => simp at hf
  · unfold Wire.afterWrite
    simp [ht]
  · unfold Wire.afterWrite
    cases ok with
    | true => simp
    | false => simp
  · unfold Wire.afterWrite
    dsimp only
    cases ok with
    | true =>
      by_cases hf : w.failed = true
      · exact .inl (by simp [hf])
      · exact .inr (hhand (by simpa using hf))
    | false => exact .inl (by simp)

theorem sound_init : init.Sound where
  apart := .new
  queued := rfl
  cut := rfl
  handed := fun _ => rfl
  fine := fun f hf => by cases hf

/-- A flush or a `close` that is added. -/
theorem fine_add {f : Flusher} (hall : ∀ g ∈ w.flushers, w'.Fine g) (hf : w'.Fine f) :
    ∀ g ∈ w.flushers ++ [f], w'.Fine g := by
  intro g hg
  rcases List.mem_append.mp hg with hg | hg
  · exact hall g hg
  · rw [List.mem_singleton.mp hg]
    exact hf

/-- **Each step keeps the order.** -/
theorem Sound.step (h : w.Sound) (hs : Step w a w') : w'.Sound := by
  unfold Step Wire.step at hs
  cases a with
  | append bytes =>
    cases hs
    have hq : w.taken.flatten ++ (w.bufs.append bytes).pending.data = w.appended ++ bytes := by
      rw [← h.queued, List.append_assoc]
      rfl
    refine ⟨h.apart.append bytes, hq, h.cut, h.handed, fun f hf => (h.fine f hf).mono ?_
      (Nat.le_refl _) id (Nat.le_refl _)⟩
    dsimp only
    rw [List.length_append]
    exact Nat.le_add_right _ _
  | wake =>
    cases hs
    exact ⟨h.apart, h.queued, h.cut, h.handed, h.fine⟩
  | drop id =>
    dsimp only at hs
    split at hs
    · next hc =>
      cases hs
      exact ⟨h.apart.drop hc.1, h.queued, h.cut, h.handed, h.fine⟩
    · cases hs
  | pumpWake =>
    dsimp only at hs
    split at hs
    · cases hs
      exact ⟨h.apart, h.queued, h.cut, h.handed, h.fine⟩
    · cases hs
  | pumpTake =>
    dsimp only at hs
    split at hs
    · next hc =>
      cases hs
      obtain ⟨ht, -⟩ := h.takeFor hc.2 .pump
      exact ⟨ht.apart, ht.queued, ht.cut, ht.handed, ht.fine⟩
    · cases hs
  | pumpTurn =>
    dsimp only at hs
    split at hs
    · cases hs
      exact ⟨h.apart, h.queued, h.cut, h.handed, h.fine⟩
    · cases hs
  | startFlush =>
    cases hs
    exact ⟨h.apart, h.queued, h.cut, h.handed, fine_add h.fine (Nat.le_refl w.appended.length)⟩
  | startClose =>
    cases hs
    exact ⟨⟨h.apart.nodup, h.apart.fresh, h.apart.spare⟩, h.queued, h.cut, h.handed,
      fine_add h.fine trivial⟩
  | joined i =>
    dsimp only at hs
    split at hs
    · split at hs
      · cases hs
        exact ⟨h.apart, h.queued, h.cut, h.handed, fine_set h.fine (Nat.le_refl w.appended.length)⟩
      · cases hs
    · cases hs
  | flushTake i =>
    dsimp only at hs
    split at hs
    · next close mark hf =>
      split at hs
      · next hl =>
        cases hs
        obtain ⟨ht, htaken⟩ := h.takeFor hl (.flusher i)
        -- the bytes that were queued when the flush began are in what has been taken
        have hmark : mark ≤ (w.takeFor (.flusher i)).taken.flatten.length := by
          rw [htaken]
          exact h.fine _ (List.mem_of_getElem? hf)
        exact ⟨ht.apart, ht.queued, ht.cut, ht.handed, fine_set ht.fine hmark⟩
      · cases hs
    · cases hs
  | wrote ok =>
    dsimp only at hs
    split at hs
    · cases hs
    · split at hs
      · cases hs
      · next batch hl =>
        split at hs
        · cases hs
          obtain ⟨hw, -⟩ := h.afterWrite hl ok
          exact ⟨hw.apart, hw.queued, hw.cut, hw.handed, hw.fine⟩
        · cases hs
      · next i batch hl =>
        split at hs
        · next close mark hf =>
          cases hs
          obtain ⟨hw, hdone⟩ := h.afterWrite hl ok
          have hmark : mark ≤ w.taken.flatten.length := h.fine _ (List.mem_of_getElem? hf)
          have hflushed : (w.afterWrite batch ok).Fine ⟨close, .flushed, mark⟩ :=
            hdone.imp id fun heq => by
              dsimp only
              rw [heq]
              exact hmark
          exact ⟨hw.apart, hw.queued, hw.cut, hw.handed, fine_set hw.fine hflushed⟩
        · cases hs
  | abort =>
    cases hs
    exact ⟨⟨h.apart.nodup, h.apart.fresh, h.apart.spare⟩, h.queued, h.cut, h.handed, h.fine⟩

theorem sound_of_reached (r : Reached w) : w.Sound :=
  Reach.invariant (I := Sound) r sound_init fun h hs _ => h.step hs

/-- What was handed over, while no write has failed, is the first part of what was queued. -/
theorem Sound.handed_prefix (h : w.Sound) (hf : w.failed = false) : w.handed <+: w.appended := by
  rw [← h.queued, ← h.handed hf, List.append_assoc]
  exact List.prefix_append _ _

/-- **The output is in order.**  The batches, in the order they were taken, are what had been queued
at the last take, and the rest is pending; the buffers in use are none that is still held, and the
spare is empty; and where `close` has flushed, the bytes queued before its flush were handed to the
transport in order, or a write failed. -/
theorem output_in_order (w : Wire) (r : Reached w) :
    w.taken.flatten = w.appended.take w.cut ∧
    w.taken.flatten ++ w.bufs.pending.data = w.appended ∧
    (∀ s, w.bufs.spare = some s → s.data = [] ∧ s.id ∉ w.bufs.out.map (·.id)) ∧
    w.bufs.pending.id ∉ w.bufs.out.map (·.id) ∧ (w.bufs.out.map (·.id)).Nodup ∧
    (w.failed = false → w.handed <+: w.appended) ∧
    ∀ f ∈ w.flushers, f.close = true → f.stage = .flushed →
      w.failed = true ∨ f.mark ≤ w.handed.length ∧ w.handed <+: w.appended := by
  have h := sound_of_reached r
  have hn := h.apart.nodup
  unfold Batches.ids at hn
  rw [List.nodup_cons] at hn
  obtain ⟨hpending, hrest⟩ := hn
  refine ⟨?_, h.queued, fun s hs => ⟨h.apart.spare s hs, fun hm => ?_⟩,
    fun hm => hpending (List.mem_append_right _ hm), ?_, h.handed_prefix, fun f hf _ hstage => ?_⟩
  · rw [← h.cut]
    exact (List.prefix_iff_eq_take.mp (by rw [← h.queued]; exact List.prefix_append _ _))
  · rw [hs] at hrest
    exact (List.nodup_append.mp hrest).2.2 s.id (List.mem_singleton.mpr rfl) s.id hm rfl
  · exact (List.nodup_append.mp hrest).2.1
  · have hfine := h.fine f hf
    unfold Fine at hfine
    rw [hstage] at hfine
    by_cases hfail : w.failed = true
    · exact .inl hfail
    · have hok : w.failed = false := by simpa using hfail
      exact .inr ⟨hfine.resolve_left hfail, h.handed_prefix hok⟩

/-- Two turns of the pump, the first batch dropped late, and a `close`. -/
def closing : List Action := [
  .append [1, 2], .wake, .pumpWake, .pumpTake, .append [3], .wrote true, .pumpTurn,
  .startClose, .pumpWake, .pumpTake, .drop 0, .wrote true, .pumpTurn,
  .append [4], .joined 0, .flushTake 0, .drop 1, .wrote true]

/-- The bytes of the run are with the transport when `close` has flushed. -/
theorem output_in_order_closing : ∃ w, Reached w ∧ w.handed = [1, 2, 3, 4] ∧
    ∀ f ∈ w.flushers, f.close = true → f.stage = .flushed →
      w.failed = true ∨ f.mark ≤ w.handed.length ∧ w.handed <+: w.appended := by
  obtain ⟨w, r, hw⟩ := @Reach.of_exec_any _ _ step (fun _ _ => true) init
    closing (fun w => w.handed == [1, 2, 3, 4]) (by decide)
  have r' : Reached w := r.mono fun _ _ _ => trivial
  exact ⟨w, r', by simpa using hw, (output_in_order w r').2.2.2.2.2.2⟩

end Wire

end Httpunk.H2
