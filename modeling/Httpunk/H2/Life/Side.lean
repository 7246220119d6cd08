import Httpunk.H2.Driver.Feed
import Httpunk.H2.Life.Driver

/-!
# H2 — Life — Side

The receive side of one stream over the calls: what leaves it alone, and what each end of a
stream makes of it and tells its readers.

* `Touches.sideKept`: a run that neither ends the stream nor gives it a head.
* `resetStream_side`, `finishStream_side`, `abortAll_side`: the local ends.
-/

namespace Httpunk.H2

open Runs (Reach)
open Httpunk.H2.Inner

variable {s s' : Inner} {sid k : Nat} {e e' : StreamEntry} {extra : Mark → Prop}

/-! ### What leaves the receive side alone -/

/-- What is left of the declared length of a stored stream. -/
def Inner.lengthOf (me : Inner) (k : Nat) : ContentLength :=
  ((me.streams.lookup k).map StreamEntry.contentLength).getD .omitted

/-- A stored stream that has finished receives nothing more. -/
def Inner.Finite (me : Inner) (k : Nat) : Prop :=
  ∀ e, me.streams.lookup k = some e → e.finished = true → e.state.recvDone = true

/-- The receive side of `k` is what it was, or an entry that received nothing more has left. -/
def SideKept (s s' : Inner) (k : Nat) : Prop :=
  s'.side k = s.side k ∨ s'.side k = none ∧ ∀ half, s.side k ≠ some (.receiving half)

theorem Inner.side_of (he : s.streams.lookup k = some e) : s.side k = some e.state.recvSide := by
  rw [side, he]
  rfl

theorem Inner.side_eq_some {x : RecvSide} (h : s.side k = some x) :
    ∃ e, s.streams.lookup k = some e ∧ e.state.recvSide = x :=
  Option.map_eq_some_iff.mp h

theorem Inner.side_none (hn : s.streams.lookup k = none) : s.side k = none := by
  rw [side, hn]
  rfl

theorem Inner.lengthOf_of (he : s.streams.lookup k = some e) :
    s.lengthOf k = e.contentLength := by
  rw [lengthOf, he]
  rfl

theorem Inner.lengthOf_none (hn : s.streams.lookup k = none) : s.lengthOf k = .omitted := by
  rw [lengthOf, hn]
  rfl

theorem Inner.Wf.finite (h : s.Wf) (k : Nat) : s.Finite k :=
  fun _ he hf => State.recvDone_of_isClosed (h.finished he hf)

theorem Inner.side_receiving_iff (hf : s.Finite k) :
    (∃ half, s.side k = some (.receiving half)) ↔ s.Receiving k := by
  constructor
  · rintro ⟨half, hs⟩
    obtain ⟨e, he, hx⟩ := side_eq_some hs
    have hd : e.state.recvDone = false := State.recvDone_iff.mpr ⟨half, hx⟩
    refine ⟨e, he, hd, ?_⟩
    by_contra hfin
    rw [hf e he (by simpa using hfin)] at hd
    cases hd
  · rintro ⟨e, he, hd, -⟩
    obtain ⟨half, hx⟩ := State.recvDone_iff.mp hd
    exact ⟨half, (side_of he).trans (congrArg some hx)⟩

/-- An entry found after a run comes from the entry found before it. -/
theorem Touches.back (r : Touches extra s s') (hu : s.Used k)
    (hm : ∀ m, extra m → m ≠ .ends k ∧ m ≠ .begins k) (he : s'.streams.lookup k = some e') :
    ∃ e, s.streams.lookup k = some e ∧ e'.state.recvSide = e.state.recvSide ∧
      ((∀ m, extra m → m ≠ .declare k) → e'.contentLength = e.contentLength) := by
  have key : s'.Used k ∧ ∀ e', s'.streams.lookup k = some e' →
      ∃ e, s.streams.lookup k = some e ∧ e'.state.recvSide = e.state.recvSide ∧
        ((∀ m, extra m → m ≠ .declare k) → e'.contentLength = e.contentLength) := by
    refine Reach.invariant (I := fun t : Inner => t.Used k ∧ ∀ e', t.streams.lookup k = some e' →
      ∃ e, s.streams.lookup k = some e ∧ e'.state.recvSide = e.state.recvSide ∧
        ((∀ m, extra m → m ≠ .declare k) → e'.contentLength = e.contentLength)) r
      ⟨hu, fun e' he' => ⟨e', he', rfl, fun _ => rfl⟩⟩ fun {a m b} ⟨hu, hback⟩ t hk => ?_
    refine ⟨t.keeps.used hu, fun e' he' => ?_⟩
    have hne : m ≠ .ends k ∧ m ≠ .begins k := by
      rcases hk with hc | hx
      · constructor <;> (rintro rfl; cases hc)
      · exact hm m hx
    rcases t.entry he' with ⟨e, hae, hv⟩ | ⟨-, hnew⟩
    · obtain ⟨e₀, he₀, hs₀, hl₀⟩ := hback e hae
      refine ⟨e₀, he₀, (hv.recvSide hne.1 hne.2).trans hs₀, fun hd => ?_⟩
      refine (hv.contentLength ?_).trans (hl₀ hd)
      rcases hk with hc | hx
      · rintro rfl; cases hc
      · exact hd m hx
    · exact absurd hu hnew.unused
  exact key.2 e' he

/-- A used stream that receives nothing never will. -/
theorem Touches.deaf (r : Touches extra s s') (hu : s.Used k) {half : Half}
    (hs : s'.side k = some (.receiving half)) : ∃ half, s.side k = some (.receiving half) := by
  have key : s'.Used k ∧ ∀ e', s'.streams.lookup k = some e' →
      ∃ e, s.streams.lookup k = some e ∧ State.Later e.state e'.state := by
    refine Reach.invariant (I := fun t : Inner => t.Used k ∧ ∀ e', t.streams.lookup k = some e' →
      ∃ e, s.streams.lookup k = some e ∧ State.Later e.state e'.state) r
      ⟨hu, fun e' he' => ⟨e', he', .refl _⟩⟩ fun {a m b} ⟨hu, hback⟩ t hk => ?_
    refine ⟨t.keeps.used hu, fun e' he' => ?_⟩
    rcases t.entry he' with ⟨e, hae, hv⟩ | ⟨-, hnew⟩
    · obtain ⟨e₀, he₀, hl⟩ := hback e hae
      exact ⟨e₀, he₀, hl.trans hv.later⟩
    · exact absurd hu hnew.unused
  obtain ⟨e', he', hx⟩ := side_eq_some hs
  obtain ⟨e, he, hl⟩ := key.2 e' he'
  have hd : e.state.recvDone = false := by
    by_contra hd
    have hd' := hl.recvDone (by simpa using hd)
    rw [State.recvDone_iff.mpr ⟨half, hx⟩] at hd'
    cases hd'
  obtain ⟨half', hx'⟩ := State.recvDone_iff.mp hd
  exact ⟨half', (side_of he).trans (congrArg some hx')⟩

/-- **A run that neither ends the stream nor gives it a head** leaves its receive side alone. -/
theorem Touches.sideKept (r : Touches extra s s') (hf : s.Finite k) (hu : s.Used k)
    (hm : ∀ m, extra m → m ≠ .ends k ∧ m ≠ .begins k) : SideKept s s' k := by
  rcases hn : s'.streams.lookup k with _ | e'
  · refine .inr ⟨side_none hn, fun half hs => ?_⟩
    have hr := (side_receiving_iff hf).mp ⟨half, hs⟩
    obtain ⟨e', he', -⟩ := r.receiving hr fun hx => (hm _ hx).1 rfl
    rw [hn] at he'
    cases he'
  · obtain ⟨e, he, hs, -⟩ := r.back hu hm hn
    refine .inl ?_
    rw [side_of hn, side_of he, hs]

theorem Touch.finite {m : Mark} (t : Touch s m s') (h : s.Finite k) : s'.Finite k := by
  intro e' he' hf'
  rcases t.entry he' with ⟨e, he, hv⟩ | ⟨-, hnew⟩
  · rcases hv.finished with ⟨hf, -⟩ | ⟨rfl, -, -⟩
    · exact hv.later.recvDone (h e he (hf.symm.trans hf'))
    · cases t with
      | finish hl hc _ =>
        rw [hl] at he
        cases he
        exact hv.later.recvDone (State.recvDone_of_isClosed hc)
  · rw [hnew.active] at hf'
    cases hf'

theorem Touches.finite (r : Touches extra s s') (h : s.Finite k) : s'.Finite k :=
  r.invariant h fun hs t _ => t.finite hs

/-- The length left goes with it. -/
theorem Touches.lengthKept (r : Touches extra s s') (hu : s.Used k)
    (hm : ∀ m, extra m → ¬m.receives k) : s'.lengthOf k = s.lengthOf k ∨ s'.side k = none := by
  rcases hn : s'.streams.lookup k with _ | e'
  · exact .inr (side_none hn)
  · obtain ⟨e, he, -, hl⟩ := r.back hu
      (fun m hx => ⟨fun h => hm m hx (.inl h), fun h => hm m hx (.inr (.inl h))⟩) hn
    refine .inl ?_
    rw [lengthOf_of hn, lengthOf_of he, hl fun m hx h => hm m hx (.inr (.inr h))]

/-- The side of an entry that receives nothing more, after a run that does not move it: it is
what it was, or the entry has left. -/
theorem Touches.sideOver (r : Touches extra s s') (he : s.streams.lookup k = some e)
    (hu : s.Used k) (hd : e.state.recvDone = true)
    (hm : ∀ m, extra m → m ≠ .ends k ∧ m ≠ .begins k) :
    s'.side k = some e.state.recvSide ∨ s'.side k = none := by
  have hf : s.Finite k := fun e' he' _ => by
    rw [he] at he'
    cases he'
    exact hd
  rcases r.sideKept hf hu hm with h | ⟨h, -⟩
  · exact .inl (h.trans (side_of he))
  · exact .inr h

/-- No mark but the common ones. -/
theorem Mark.nothing_calm {m : Mark} (h : Mark.nothing m) : m ≠ .ends k ∧ m ≠ .begins k := h.elim

/-! ### The local ends -/

namespace Inner

variable {me : Inner}

/-- What a reset makes of a closed stream, and what its readers are told. -/
theorem reset_closed {st : State} (hc : st.isClosed = true) (sid : Nat) (reason : Reason)
    (initiator : Initiator) :
    (∃ err, (if st.isReset then st else st.setReset sid reason initiator).ensureRecvOpen =
        .error err ∧
      (if st.isReset then st else st.setReset sid reason initiator).recvSide = .stopped) ∨
    (∃ more, (if st.isReset then st else st.setReset sid reason initiator).ensureRecvOpen =
        .ok more ∧ st.recvSide = .endedReset ∧
      (if st.isReset then st else st.setReset sid reason initiator).recvSide = .endedReset) := by
  cases st with
  | closed c =>
      cases c with
      | endStream => exact .inl ⟨_, rfl, rfl⟩
      | error err => exact .inl ⟨err, rfl, rfl⟩
      | errorAfterEndStream err => exact .inr ⟨_, rfl, rfl, rfl⟩
      | scheduledLibraryReset r => exact .inl ⟨_, rfl, rfl⟩
  | _ => cases hc

/-- A stream told to its readers as stopped, or reset once more after its end. -/
def Told (me s : Inner) (sid : Nat) (v : ResetVerdict) : Prop :=
  v.handle = some sid ∧
    ((∃ stop, v.stop = some stop ∧ (s.side sid = some .stopped ∨ s.side sid = none)) ∨
      v.stop = none ∧ me.side sid = some .endedReset ∧
        (s.side sid = some .endedReset ∨ s.side sid = none))

/-- An entry closed by `st`, reclaimed and given to `close_stream`. -/
theorem endWith_side {st : State} (hu : me.Used sid) (hd : st.recvDone = true)
    (r : Touches Mark.nothing (me.setStream sid { e with state := st }) s) :
    s.side sid = some st.recvSide ∨ s.side sid = none :=
  r.sideOver (e := { e with state := st }) (AList.lookup_insert _) hu hd
    fun _ => Mark.nothing_calm

theorem resetStream_side (hu : me.Used sid) (he : me.streams.lookup sid = some e)
    (reason : Reason) (initiator : Initiator) :
    Told me (me.resetStream sid reason initiator).1 sid (me.resetStream sid reason initiator).2 := by
  unfold resetStream
  rw [he]
  dsimp only
  split
  · next hc =>
    have hst := reset_closed hc sid reason initiator
    have hclosed : (if e.state.isReset then e.state
        else e.state.setReset sid reason initiator).isClosed = true := by
      split
      · exact hc
      · rfl
    generalize (if e.state.isReset then e.state
      else e.state.setReset sid reason initiator) = st at hst hclosed
    have hr : Touches Mark.nothing (me.setStream sid { e with state := st })
        (if st.isLocalError then (((me.setStream sid { e with state := st
          }).reclaimStreamAccounting sid).closeStream sid).1.enqueueResetExpiration sid
        else (((me.setStream sid { e with state := st }).reclaimStreamAccounting sid).closeStream
          sid).1) := by
      have h₀ : Touches Mark.nothing (me.setStream sid { e with state := st })
          ((me.setStream sid { e with state := st }).dropClosedStored sid).1 :=
        dropClosedStored_touches _ sid
      split
      · exact h₀.trans (Touches.still (enqueueResetExpiration_still _ sid))
      · exact h₀
    have hside := endWith_side hu (State.recvDone_of_isClosed hclosed) hr
    refine ⟨rfl, ?_⟩
    rcases hst with ⟨err, herr, hs⟩ | ⟨more, hok, hb, hs⟩
    · refine .inl ⟨stopFromProto err, ?_, ?_⟩
      · simp only [StreamEntry.stopForReader, herr]
      · rwa [hs] at hside
    · refine .inr ⟨?_, (side_of he).trans (congrArg some hb), ?_⟩
      · simp only [StreamEntry.stopForReader, hok]
      · rwa [hs] at hside
  · have h₀ : Touches Mark.nothing
        (me.setStream sid { e with state := e.state.setReset sid reason initiator })
        (((me.setStream sid { e with
          state := e.state.setReset sid reason initiator }).reclaimStreamAccounting sid).emit
            (.rstStream sid reason)) :=
      (reclaimStreamAccounting_touches _ sid).trans (Touches.still (.emit _ _))
    have hr := (h₀.trans (closeStream_touches _ sid)).trans
      (Touches.still (enqueueResetExpiration_still _ sid))
    exact ⟨rfl, .inl ⟨_, rfl, endWith_side hu rfl hr⟩⟩

/-- The end of a send half hands over its own stream, if any. -/
theorem finishStream_tells (me : Inner) (sid : Nat) :
    (me.finishStream sid).2.handle = none ∨ (me.finishStream sid).2.handle = some sid := by
  unfold finishStream
  dsimp only
  split
  · exact .inl rfl
  · split
    · exact .inl rfl
    · next e he =>
      split
      · next hc =>
        refine .inr ?_
        unfold resetStream
        rw [he]
        dsimp only
        rw [if_neg (by simpa using hc)]
      · exact .inl rfl

/-- The stream it hands over is stopped. -/
theorem finishStream_side (hu : me.Used sid) (hh : (me.finishStream sid).2.handle ≠ none) :
    Told me (me.finishStream sid).1 sid (me.finishStream sid).2 := by
  have hc : Touches Mark.nothing me (me.closeStream sid).1 := closeStream_touches me sid
  unfold finishStream at hh ⊢
  dsimp only at hh ⊢
  split at hh
  · exact absurd rfl hh
  · split at hh
    · exact absurd rfl hh
    · next e he =>
      split at hh
      · next hopen =>
        rw [if_pos hopen]
        obtain ⟨hhandle, htold⟩ := resetStream_side (hc.keeps.used hu) he .noError .user
        refine ⟨hhandle, htold.imp id fun ⟨hstop, hs, hs'⟩ => ?_⟩
        rw [side_of he] at hs
        rw [State.isClosed_of_endedReset (Option.some.inj hs)] at hopen
        cases hopen
      · exact absurd rfl hh

/-! ### What a reader is told -/

/-- Nothing is done to the handle of `k`. -/
def Silent (k : Nat) (signals : List Signal) : Prop :=
  itemsOf k signals = [] ∧ .head k ∉ signals ∧ .surfaced k ∉ signals

/-- The head waiter of `k` is released and its queue ended. -/
def Tells (k : Nat) (stop : Option Stopped) (signals : List Signal) : Prop :=
  itemsOf k signals = [.last stop] ∧ .head k ∈ signals ∧ .surfaced k ∉ signals

/-- The readers of `k` see nothing. -/
structure Unseen (me s : Inner) (k : Nat) (signals : List Signal) : Prop where
  silent : Silent k signals
  side : SideKept me s k
  length : s.lengthOf k = me.lengthOf k ∨ s.side k = none

/-- The readers of `k` are told that it stopped, or once more that it ended. -/
def Ended (me s : Inner) (k : Nat) (signals : List Signal) : Prop :=
  (∃ stop, Tells k (some stop) signals ∧ (s.side k = some .stopped ∨ s.side k = none)) ∨
    Tells k none signals ∧ me.side k = some .endedReset ∧
      (s.side k = some .endedReset ∨ s.side k = none)

theorem silent_nil (k : Nat) : Silent k [] := ⟨rfl, by simp, by simp⟩

theorem Silent.append {a b : List Signal} (ha : Silent k a) (hb : Silent k b) :
    Silent k (a ++ b) := by
  refine ⟨?_, ?_, ?_⟩
  · rw [itemsOf, List.filterMap_append]
    exact List.append_eq_nil_iff.mpr ⟨ha.1, hb.1⟩
  · simpa using ⟨ha.2.1, hb.2.1⟩
  · simpa using ⟨ha.2.2, hb.2.2⟩

theorem Tells.append_left {a b : List Signal} {stop : Option Stopped} (ha : Silent k a)
    (hb : Tells k stop b) : Tells k stop (a ++ b) := by
  refine ⟨?_, ?_, ?_⟩
  · rw [itemsOf, List.filterMap_append]
    exact (congrArg (· ++ itemsOf k b) ha.1).trans hb.1
  · simpa using .inr hb.2.1
  · simpa using ⟨ha.2.2, hb.2.2⟩

theorem Tells.append_right {a b : List Signal} {stop : Option Stopped} (ha : Tells k stop a)
    (hb : Silent k b) : Tells k stop (a ++ b) := by
  refine ⟨?_, ?_, ?_⟩
  · rw [itemsOf, List.filterMap_append]
    exact (congrArg (itemsOf k a ++ ·) hb.1).trans ((List.append_nil _).trans ha.1)
  · simpa using .inl ha.2.1
  · simpa using ⟨ha.2.2, hb.2.2⟩

theorem notifyReset_silent {handle : Option Nat} (stop : Option Stopped) (h : handle ≠ some k) :
    Silent k (notifyReset handle stop) := by
  cases handle with
  | none => exact silent_nil k
  | some sid =>
      have hne : sid ≠ k := fun hs => h (congrArg some hs)
      simp [notifyReset, Silent, itemsOf, hne, hne.symm]

theorem notifyReset_tells (k : Nat) (stop : Option Stopped) :
    Tells k stop (notifyReset (some k) stop) := by
  simp [notifyReset, Tells, itemsOf]

theorem notifyStopped_silent {sid : Nat} (stop : Stopped) (b : Bool) (h : sid ≠ k) :
    Silent k (notifyStopped sid stop b) := by
  cases b <;> simp [notifyStopped, Silent, itemsOf, h, h.symm]

theorem notifyStopped_tells (k : Nat) (stop : Stopped) :
    Tells k (some stop) (notifyStopped k stop true) := by
  simp [notifyStopped, Tells, itemsOf]

theorem Told.ended {v : ResetVerdict} (h : Told me s k v) :
    Ended me s k (notifyReset v.handle v.stop) := by
  obtain ⟨hh, ⟨stop, hstop, hs⟩ | ⟨hstop, hb, hs⟩⟩ := h
  · rw [hh, hstop]
    exact .inl ⟨stop, notifyReset_tells k _, hs⟩
  · rw [hh, hstop]
    exact .inr ⟨notifyReset_tells k _, hb, hs⟩

/-- A run that does not touch the receive side, and no signal. -/
theorem Unseen.of_touches {signals : List Signal} (h : me.Finite k) (hu : me.Used k)
    (r : Touches extra me s) (hm : ∀ m, extra m → ¬m.receives k) (hs : Silent k signals) :
    Unseen me s k signals where
  silent := hs
  side := r.sideKept (h) hu fun m hx =>
    ⟨fun he => hm m hx (.inl he), fun he => hm m hx (.inr (.inl he))⟩
  length := r.lengthKept hu hm

theorem Unseen.of_still {signals : List Signal} (h : me.Finite k) (hu : me.Used k) (r : Still me s)
    (hs : Silent k signals) : Unseen me s k signals :=
  have ht : Touches Mark.nothing me s := Touches.still r
  .of_touches h hu ht (fun _ hx => hx.elim) hs

/-! ### Several streams at once -/

theorem notifyAll_silent {aborted : List (Nat × Stopped)} (h : k ∉ aborted.map Prod.fst) :
    Silent k (notifyAll aborted) := by
  induction aborted with
  | nil => exact silent_nil k
  | cons a rest ih =>
      simp only [List.map_cons, List.mem_cons, not_or] at h
      exact (notifyStopped_silent a.2 true (Ne.symm h.1)).append (ih h.2)

theorem notifyAll_tells {aborted : List (Nat × Stopped)} (hn : (aborted.map Prod.fst).Nodup)
    (h : k ∈ aborted.map Prod.fst) : ∃ stop, Tells k (some stop) (notifyAll aborted) := by
  induction aborted with
  | nil => cases h
  | cons a rest ih =>
      obtain ⟨ha, hrest⟩ := List.nodup_cons.mp hn
      rcases List.mem_cons.mp h with rfl | h
      · exact ⟨a.2, (notifyStopped_tells a.1 a.2).append_right (notifyAll_silent ha)⟩
      · have hne : a.1 ≠ k := fun hk => ha (hk ▸ h)
        obtain ⟨stop, hs⟩ := ih hrest h
        exact ⟨stop, hs.append_left (notifyStopped_silent a.2 true hne)⟩

/-- **The end of several streams**: the readers of those not closed before are told. -/
theorem abortAll_told (h : me.Finite k) (hu : me.Used k) (reason : Option Reason) {ids : List Nat}
    (hn : ids.Nodup) :
    Unseen me (me.abortAll reason ids).1 k (notifyAll (me.abortAll reason ids).2.1) ∨
      Ended me (me.abortAll reason ids).1 k (notifyAll (me.abortAll reason ids).2.1) := by
  obtain ⟨hout, hlook⟩ := abortAll_spec me reason hn
  have hnout : ((me.abortAll reason ids).2.1.map Prod.fst).Nodup := hout ▸ hn.filter _
  by_cases hk : k ∈ (me.abortAll reason ids).2.1.map Prod.fst
  · obtain ⟨stop, hs⟩ := notifyAll_tells hnout hk
    rw [hout] at hk
    refine .inr (.inl ⟨stop, hs, .inr (side_none ?_)⟩)
    rw [hlook, if_pos (List.mem_filter.mp hk).1]
  · have hs := notifyAll_silent hk
    rw [hout] at hk
    refine .inl ?_
    by_cases hmem : k ∈ ids
    · -- the entry leaves, and it received nothing more
      have hgone : (me.abortAll reason ids).1.side k = none :=
        side_none (by rw [hlook, if_pos hmem])
      refine ⟨hs, .inr ⟨hgone, fun half hx => ?_⟩, .inr hgone⟩
      obtain ⟨e, he, hx⟩ := side_eq_some hx
      refine hk (List.mem_filter.mpr ⟨hmem, ?_⟩)
      have hd : e.state.recvDone = false := State.recvDone_iff.mpr ⟨half, hx⟩
      rw [he]
      by_contra hc
      rw [State.recvDone_of_isClosed (by simpa using hc)] at hd
      cases hd
    · refine .of_touches h hu (abortAll_touches me reason ids) ?_ hs
      rintro m ⟨sid, hsid, rfl⟩ (hx | hx | hx)
      · cases hx
        exact hmem hsid
      · cases hx
      · cases hx

/-! ### The calls -/

/-- A send on `sid`, for the readers of `k`. -/
theorem SendEnds.told {r : Inner × Except Err SendVerdict} (h : me.Finite k) (hu : me.Used k)
    (hs : SendEnds sid me r) :
    Unseen me r.1 k (sendSignals r.2) ∨ Ended me r.1 k (sendSignals r.2) := by
  rcases hs with ⟨hst, hh⟩ | ⟨m, n, flags, hm, rfl⟩
  · refine .inl (.of_still h hu hst ?_)
    rcases hr : r.2 with err | v
    · exact silent_nil k
    · rw [hr] at hh
      exact notifyReset_silent _ (by rw [show v.handle = none from hh]; nofun)
  · have hturn : ∀ m', m' = Mark.turn sid → ¬m'.receives k := by
      rintro m' rfl (hx | hx | hx) <;> cases hx
    by_cases hk : (m.finishStream sid).2.handle = some k
    · have hsid : sid = k := by
        rcases finishStream_tells m sid with hn | hn
        · rw [hn] at hk; cases hk
        · exact Option.some.inj (hn.symm.trans hk)
      subst hsid
      have hum := hm.keeps.used hu
      obtain ⟨hh, htold⟩ := finishStream_side hum (by rw [hk]; nofun)
      have hback : me.side sid = m.side sid ∨ m.side sid = none := by
        rcases hm.sideKept (h) hu fun m' hx =>
            ⟨by rw [hx]; nofun, by rw [hx]; nofun⟩ with hs | ⟨hs, -⟩
        · exact .inl hs.symm
        · exact .inr hs
      have hv : Told me (m.finishStream sid).1 sid (m.finishStream sid).2 := by
        refine ⟨hh, htold.imp id fun ⟨hstop, hb, hs⟩ => ⟨hstop, ?_, hs⟩⟩
        rcases hback with hx | hx
        · exact hx.trans hb
        · rw [hx] at hb; cases hb
      exact .inr hv.ended
    · have hsil : Silent k (sendSignals (.ok
          (.completed n flags (m.finishStream sid).2) : Except Err SendVerdict)) :=
        notifyReset_silent _ hk
      refine .inl (.of_touches h hu ((hm.mono fun m' hx => .inl hx).trans
        (finishStream_touches m sid)) ?_ hsil)
      rintro m' (rfl | ⟨hh, rfl⟩)
      · exact hturn _ rfl
      · rintro (hx | hx | hx)
        · cases hx
          exact hk hh
        · cases hx
        · cases hx

/-- What comes before a call that its readers do not see. -/
theorem told_after {m : Inner} {signals : List Signal} (h : me.Finite k) (hu : me.Used k)
    (r : Touches extra me m) (hm : ∀ m', extra m' → ¬m'.receives k)
    (ht : Unseen m s k signals ∨ Ended m s k signals) :
    Unseen me s k signals ∨ Ended me s k signals := by
  have hside : SideKept me m k := r.sideKept (h) hu fun m' hx =>
    ⟨fun he => hm m' hx (.inl he), fun he => hm m' hx (.inr (.inl he))⟩
  have hlen := r.lengthKept hu hm
  refine ht.imp (fun ⟨hs, hk, hl⟩ => ⟨hs, ?_, ?_⟩) (Or.imp id fun ⟨hs, hb, ha⟩ => ⟨hs, ?_, ha⟩)
  · rcases hside with hx | ⟨hx, hnr⟩
    · rcases hk with hy | ⟨hy, hnr⟩
      · exact .inl (hy.trans hx)
      · exact .inr ⟨hy, fun half hz => hnr half (hx.trans hz)⟩
    · rcases hk with hy | ⟨hy, -⟩
      · exact .inr ⟨hy.trans hx, hnr⟩
      · exact .inr ⟨hy, hnr⟩
  · rcases hl with hl | hl
    · rcases hlen with hx | hx
      · exact .inl (hl.trans hx)
      · rcases hk with hy | ⟨hy, -⟩
        · exact .inr (hy.trans hx)
        · exact .inr hy
    · exact .inr hl
  · rcases hside with hx | ⟨hx, -⟩
    · exact hx.symm.trans hb
    · rw [hx] at hb; cases hb

theorem Buffered.told {r : Inner × Except Err SendVerdict} (h : me.Finite k) (hu : me.Used k)
    (hs : Buffered sid me r) :
    Unseen me r.1 k (sendSignals r.2) ∨ Ended me r.1 k (sendSignals r.2) := by
  rcases hs with hs | ⟨n, s₁, s₂, s₃, s₄, h₁, hb, h₂, hc, hs⟩
  · exact hs.told h hu
  · have hbuf : Touches (sendMarks sid (.error .abort)) me s₄ :=
      (((Touches.still h₁).trans (Touches.one hb (.inl ⟨n, .inl rfl⟩))).trans
        (Touches.still h₂)).trans (Touches.one hc (.inl ⟨n, .inr rfl⟩))
    refine told_after h hu hbuf ?_ (hs.told (hbuf.finite h) (hbuf.keeps.used hu))
    rintro m (⟨n', rfl | rfl⟩ | rfl | ⟨hh, -⟩) <;>
      first | cases hh | (rintro (hx | hx | hx) <;> cases hx)

theorem sendResponseHead_told (h : me.Finite k) (hu : me.Used k) (sid status : Nat)
    (fields : Fields) (endStream : Bool) (date : String) :
    Unseen me (me.sendResponseHead sid status fields endStream date).1 k
        (sendSignals (me.sendResponseHead sid status fields endStream date).2) ∨
      Ended me (me.sendResponseHead sid status fields endStream date).1 k
        (sendSignals (me.sendResponseHead sid status fields endStream date).2) := by
  have ht := sendResponseHead_touches me sid status fields endStream date
  rcases sendResponseHead_ends me sid status fields endStream date with hs | ⟨-, hh⟩
  · exact hs.told h hu
  · rw [hh] at ht
    refine .inl (.of_touches h hu ht ?_ ?_)
    · rintro m (rfl | ⟨hx, -⟩)
      · rintro (hx | hx | hx) <;> cases hx
      · cases hx
    · rcases hr : (me.sendResponseHead sid status fields endStream date).2 with err | v
      · exact silent_nil k
      · rw [hr] at hh
        exact notifyReset_silent _ (by rw [show v.handle = none from hh]; nofun)

/-- A reset of `sid`, for the readers of `k`. -/
theorem resetStream_told (h : me.Finite k) (hu : me.Used k) (sid : Nat) (reason : Reason)
    (initiator : Initiator) :
    Unseen me (me.resetStream sid reason initiator).1 k
        (notifyReset (me.resetStream sid reason initiator).2.handle
          (me.resetStream sid reason initiator).2.stop) ∨
      Ended me (me.resetStream sid reason initiator).1 k
        (notifyReset (me.resetStream sid reason initiator).2.handle
          (me.resetStream sid reason initiator).2.stop) := by
  rcases he : me.streams.lookup sid with _ | e
  · refine .inl ?_
    rw [show me.resetStream sid reason initiator = (me, {}) by rw [resetStream, he]]
    exact .of_still h hu (.refl me) (silent_nil k)
  · by_cases hk : sid = k
    · subst hk
      exact .inr (resetStream_side hu he reason initiator).ended
    · refine .inl (.of_touches h hu (resetStream_touches me sid reason initiator) ?_ ?_)
      · rintro m rfl (hx | hx | hx)
        · cases hx
          exact hk rfl
        · cases hx
        · cases hx
      · refine notifyReset_silent _ fun hh => hk ?_
        have hsid : (me.resetStream sid reason initiator).2.handle = some sid := by
          rw [resetStream, he]
          dsimp only
          split <;> rfl
        exact Option.some.inj (hsid.symm.trans hh)

theorem acloseBody_told (h : me.Finite k) (hu : me.Used k) (sid : Nat) :
    Unseen me (me.acloseBody sid).1 k
        (notifyReset (me.acloseBody sid).2.handle (me.acloseBody sid).2.stop) ∨
      Ended me (me.acloseBody sid).1 k
        (notifyReset (me.acloseBody sid).2.handle (me.acloseBody sid).2.stop) := by
  unfold acloseBody
  dsimp only
  split
  · exact .inl (.of_still h hu (.refl me) (silent_nil k))
  · split
    · have hd : Touches Mark.nothing me (me.dropClosedStored sid).1 :=
        dropClosedStored_touches me sid
      exact .inl (.of_touches h hu hd (fun _ hx => hx.elim) (silent_nil k))
    · exact resetStream_told h hu sid .cancel .user

theorem fail_told (h : me.Finite k) (hu : me.Used k) (exc : Option Err) (message : String) :
    Unseen me (me.fail exc message).1 k (notifyAll (me.fail exc message).2) ∨
      Ended me (me.fail exc message).1 k (notifyAll (me.fail exc message).2) := by
  obtain ⟨error, he⟩ : ∃ error, me.fail exc message = { me with error := error }.failAll :=
    ⟨_, rfl⟩
  have ht : Touches Mark.nothing me { me with error := error } :=
    Touches.still { Still.refl me with }
  rw [he]
  exact told_after h hu ht (fun _ hx => hx.elim)
    (abortAll_told (ht.finite h) (ht.keeps.used hu) none me.streams.keys_nodup)

/-- The signals of `open_stream`: the handle of the next id, once its stream is stored. -/
theorem openStream_signals (me : Inner) (request : Except Err Block) (eos isHead : Bool) :
    me.callSignals (.openStream request eos isHead) = [] ∨
      me.callSignals (.openStream request eos isHead) = [.surfaced me.nextId] ∧
        ∃ block st, State.idle.sendOpen eos = .ok st ∧
          (me.openStream request eos isHead).1 = me.insertOpened isHead eos block st := by
  unfold callSignals openStream
  dsimp only
  split
  · exact .inl rfl
  · split
    · exact .inl rfl
    · split
      · exact .inl rfl
      · next block =>
        split
        · exact .inl rfl
        · next st hst => exact .inr ⟨rfl, block, st, hst, rfl⟩

/-- **What a call does to a handle** that the application holds. -/
theorem call_told (h : me.Wf) (hu : me.Used k) (c : Call)
    (hopen : ∀ request eos isHead, c = .openStream request eos isHead → me.role = .client) :
    Unseen me (me.call c).1 k (me.callSignals c) ∨
      Ended me (me.call c).1 k (me.callSignals c) := by
  have hf := h.finite k
  cases c with
  | openStream request eos isHead =>
      refine .inl (.of_touches hf hu (call_touches h (.openStream request eos isHead) hopen) ?_ ?_)
      · rintro m (rfl | rfl) (hx | hx | hx) <;> cases hx
      · have hr := hopen _ _ _ rfl
        have hne : me.nextId ≠ k := fun hk => by
          simp only [Used, hr] at hu
          omega
        rcases openStream_signals me request eos isHead with hs | ⟨hs, -⟩
        · exact hs ▸ silent_nil k
        · rw [hs]
          simp [Silent, itemsOf, hne.symm]
  | sendData sid data offset eos => exact (sendData_buffered h sid data offset eos).told hf hu
  | sendTrailers sid trailers => exact (sendTrailers_ends me sid trailers).told hf hu
  | sendResponseHead sid status fields eos date =>
      exact sendResponseHead_told hf hu sid status fields eos date
  | resetStream sid reason initiator => exact resetStream_told hf hu sid reason initiator
  | acloseBody sid => exact acloseBody_told hf hu sid
  | fail exc message => exact fail_told hf hu exc message
  | tryClaimSlot | releaseSlot | creditWritten =>
      refine .inl (.of_touches hf hu (call_touches h _ hopen) ?_ (silent_nil k))
      rintro m rfl (hx | hx | hx) <;> cases hx
  | _ =>
      exact .inl (.of_touches hf hu (call_touches h _ hopen) (fun _ hx => hx.elim) (silent_nil k))

end Inner

end Httpunk.H2
