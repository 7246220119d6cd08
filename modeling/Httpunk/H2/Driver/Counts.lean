import Httpunk.H2.Driver.Connection

/-!
# H2 — Driver — Counts

The counters of a connection: the active streams, the accept queue and the resets in it, the
error resets, the DATA-framing budget and the phase of a graceful shutdown.

* `Inner.counts`: those fields, as one value.
* `counts_*`: the operations that keep all of them, which are all but a few.
-/

namespace Httpunk.H2

/-- What a connection counts, and how far its graceful shutdown is. -/
structure Counts where
  numActive : Nat
  dataBudget : DataFrameCounts
  localErrorResets : Nat
  pendingAccept : Finset Nat
  remoteResetPending : Finset Nat
  graceful : Bool
  shutdownFinal : Bool

namespace Inner

variable {me : Inner}

/-- The counters of the connection. -/
def counts (me : Inner) : Counts where
  numActive := me.numActive
  dataBudget := me.dataBudget
  localErrorResets := me.localErrorResets
  pendingAccept := me.pendingAccept
  remoteResetPending := me.remoteResetPending
  graceful := me.graceful
  shutdownFinal := me.shutdownFinal

/-! ### The rotation -/

@[simp] theorem counts_enqueueSend (me : Inner) (sid : Nat) :
    (me.enqueueSend sid).counts = me.counts := by
  unfold enqueueSend
  split
  · rfl
  · split <;> rfl

@[simp] theorem counts_enqueueCapacity (me : Inner) (sid : Nat) :
    (me.enqueueCapacity sid).counts = me.counts := by
  unfold enqueueCapacity
  split
  · rfl
  · split <;> rfl

@[simp] theorem counts_leaveSendQueue (me : Inner) (sid : Nat) :
    (me.leaveSendQueue sid).1.counts = me.counts := by
  unfold leaveSendQueue
  dsimp only
  repeat' split
  all_goals rfl

@[simp] theorem counts_leaveCapacityQueue (me : Inner) (sid : Nat) :
    (me.leaveCapacityQueue sid).1.counts = me.counts := by
  unfold leaveCapacityQueue
  dsimp only
  repeat' split
  all_goals rfl

@[simp] theorem counts_yieldSendTurn (me : Inner) (sid : Nat) :
    (me.yieldSendTurn sid).1.counts = me.counts := by
  unfold yieldSendTurn
  dsimp only
  repeat' split
  all_goals rfl

@[simp] theorem counts_admitCapacityFront (me : Inner) :
    me.admitCapacityFront.1.counts = me.counts := by
  unfold admitCapacityFront
  dsimp only
  split
  · rfl
  · split
    · rfl
    · split
      · rfl
      · rw [counts_enqueueSend]
        split <;> rfl

@[simp] theorem counts_nextCapacityWake (me : Inner) : me.nextCapacityWake.1.counts = me.counts :=
  counts_admitCapacityFront me

/-! ### The store -/

@[simp] theorem counts_reclaimConn (me : Inner) (n : Nat) :
    (me.reclaimConn n).counts = me.counts := by
  unfold reclaimConn
  dsimp only
  repeat' split
  all_goals rfl

@[simp] theorem counts_maybeRemoveSettled (me : Inner) (sid : Nat) :
    (me.maybeRemoveSettled sid).counts = me.counts := by
  unfold maybeRemoveSettled
  split
  · rfl
  · split <;> rfl

@[simp] theorem counts_maybeGoawayReply (me : Inner) :
    me.maybeGoawayReply.1.counts = me.counts := by
  unfold maybeGoawayReply
  split <;> rfl

@[simp] theorem counts_inResetStore (me : Inner) (sid : Nat) :
    (me.inResetStore sid).1.counts = me.counts := by
  unfold inResetStore
  split
  · rfl
  · split <;> rfl

@[simp] theorem counts_enqueueResetExpiration (me : Inner) (sid : Nat) :
    (me.enqueueResetExpiration sid).counts = me.counts := by
  unfold enqueueResetExpiration
  dsimp only
  split <;> rfl

@[simp] theorem counts_setStream (me : Inner) (sid : Nat) (e : StreamEntry) :
    (me.setStream sid e).counts = me.counts := rfl

@[simp] theorem counts_emit (me : Inner) (f : OutFrame) : (me.emit f).counts = me.counts := rfl

/-! ### Frames -/

theorem counts_applyContentLength {sid : Nat} {f : Headers} {s : Inner} {r : Option Err}
    (h : me.applyContentLength sid f = (s, r)) : s.counts = me.counts := by
  rw [← show (me.applyContentLength sid f).1 = s from congrArg Prod.fst h]
  unfold applyContentLength
  dsimp only
  repeat' split
  all_goals rfl

@[simp] theorem counts_releaseCapacityInner (me : Inner) (sid n : Nat) :
    (me.releaseCapacityInner sid n).counts = me.counts := by
  unfold releaseCapacityInner
  dsimp only
  repeat' split
  all_goals simp

@[simp] theorem counts_consumeConnRecv (me : Inner) (n : Nat) :
    (me.consumeConnRecv n).1.counts = me.counts := rfl

@[simp] theorem counts_ignoreData (me : Inner) (n : Nat) :
    (me.ignoreData n).1.counts = me.counts := by
  unfold ignoreData
  split
  · next h => rw [← counts_consumeConnRecv me n, h]
  · next h => rw [counts_reclaimConn, ← counts_consumeConnRecv me n, h]

@[simp] theorem counts_recvWindowUpdate (me : Inner) (frame : WindowUpdate) :
    (me.recvWindowUpdate frame).1.counts = me.counts := by
  unfold recvWindowUpdate
  dsimp only
  split
  · split
    · rfl
    · exact counts_admitCapacityFront _
  · repeat' split
    all_goals rfl

theorem counts_applyRemoteLimits (me : Inner) (v : SettingsValues) :
    (me.applyRemoteLimits v).1.counts = me.counts := by
  have hh : ∀ n, (me.applyHeaderTable n).counts = me.counts := fun n => by cases n <;> rfl
  have hf : ∀ (m : Inner) n, (m.applyMaxFrame n).1.counts = m.counts := fun m n => by
    unfold applyMaxFrame
    repeat' split
    all_goals rfl
  have hs : ∀ (m : Inner) n, (m.applyMaxStreams n).1.counts = m.counts := fun m n => by
    unfold applyMaxStreams
    dsimp only
    split
    · rfl
    · split <;> rfl
  have hb := (hf (me.applyHeaderTable v.headerTableSize) v.maxFrameSize).trans (hh _)
  unfold applyRemoteLimits
  split
  · next h =>
    rw [h] at hb
    exact hb
  · next h =>
    rw [h] at hb
    exact (hs _ _).trans hb

theorem counts_applyInitialWindow (me : Inner) (new : Nat) :
    (me.applyInitialWindow new).1.counts = me.counts := by
  unfold applyInitialWindow
  dsimp only
  repeat' split
  all_goals rfl

theorem counts_applyRemoteSettings (me : Inner) (v : SettingsValues) :
    (me.applyRemoteSettings v).1.counts = me.counts := by
  unfold applyRemoteSettings
  have hl := counts_applyRemoteLimits me v
  split
  · next h => rw [h] at hl; exact hl
  · next m flags h =>
    rw [h] at hl
    split
    · exact hl
    · next new _ =>
      have hw := counts_applyInitialWindow m new
      split
      · next h' => rw [h'] at hw; exact hw.trans hl
      · next h' => rw [h'] at hw; exact hw.trans hl

theorem counts_applyLocalSettings (me : Inner) : me.applyLocalSettings.1.counts = me.counts := by
  unfold applyLocalSettings
  dsimp only
  repeat' split
  all_goals rfl

@[simp] theorem counts_recvSettings (me : Inner) (frame : SettingsFrame) :
    (me.recvSettings frame).1.counts = me.counts := by
  unfold recvSettings
  dsimp only
  split
  · split
    · rfl
    · next s hs =>
      have hl := counts_applyLocalSettings { me with settings := s }
      split
      · next h => rw [h] at hl; exact hl
      · next h => rw [h] at hl; exact hl
  · have hr := counts_applyRemoteSettings
      { me.emit .settingsAck with settings := (me.settings.recvRemote).1 } frame.values
    split
    · next h => rw [h] at hr; exact hr
    · next h => rw [h] at hr; exact hr

/-! ### Calls -/

theorem counts_afterFrame (me : Inner) (sid : Nat) (e : StreamEntry) (n want : Nat) :
    (me.afterFrame sid e n want).1.counts = me.counts := by
  unfold afterFrame
  repeat' split
  all_goals simp

theorem counts_leaveWaiting (me : Inner) (sid : Nat) (e : StreamEntry) :
    (me.leaveWaiting sid e).counts = me.counts := by
  unfold leaveWaiting
  split <;> rfl

theorem counts_creditAll (me : Inner) (woken : List Nat) (batch : List (Nat × Nat)) :
    (me.creditAll woken batch).1.counts = me.counts := by
  induction batch generalizing me woken with
  | nil => rfl
  | cons p batch ih =>
      unfold creditAll
      split
      · exact ih me woken
      · exact (ih _ _).trans rfl

/-! ### The operations that change one of them -/

theorem counts_reclaimEntry (me : Inner) (sid : Nat) (e : StreamEntry) :
    (me.reclaimEntry sid e).counts = { me.counts with
      dataBudget := if e.dataBudgetCharged ≠ 0 then me.dataBudget.release e.dataBudgetCharged
        else me.dataBudget } := by
  rw [reclaimEntry, counts_reclaimConn]
  rfl

theorem counts_reclaimStreamAccounting (me : Inner) (sid : Nat) :
    (me.reclaimStreamAccounting sid).counts = { me.counts with
      dataBudget := (me.reclaimStreamAccounting sid).dataBudget } := by
  have hb : ∀ s : Inner, s.dataBudget = s.counts.dataBudget := fun _ => rfl
  unfold reclaimStreamAccounting
  split
  · rfl
  · rw [hb, counts_maybeRemoveSettled, counts_reclaimEntry]

@[simp] theorem counts_onStreamGone (me : Inner) : me.onStreamGone.1.counts = me.counts :=
  counts_maybeGoawayReply me

/-- A stream that finishes leaves the active set. -/
theorem counts_finished {sid : Nat} {e : StreamEntry} (he : me.streams.lookup sid = some e)
    (hc : e.state.isClosed = true) (hf : e.finished = false) :
    (me.closeStream sid).1.counts = { me.counts with numActive := me.numActive - 1 } := by
  have hq : (((me.finishEntry sid e).leaveSendQueue sid).1.leaveCapacityQueue sid).1.counts =
      { me.counts with numActive := me.numActive - 1 } := by
    rw [counts_leaveCapacityQueue, counts_leaveSendQueue]
    rfl
  simp only [closeStream, he, hc, hf, Bool.not_true, Bool.or_false, Bool.false_eq_true, if_false,
    counts_onStreamGone]
  split
  · exact hq
  · exact hq

theorem counts_closeStream (me : Inner) (sid : Nat) :
    (me.closeStream sid).1.counts = { me.counts with
      numActive := (me.closeStream sid).1.numActive } := by
  rcases he : me.streams.lookup sid with _ | e
  · simp only [closeStream, he]
    rfl
  · by_cases h : e.state.isClosed = true ∧ e.finished = false
    · have hn : ∀ s : Inner, s.numActive = s.counts.numActive := fun _ => rfl
      rw [hn, counts_finished he h.1 h.2]
    · have hs : (!e.state.isClosed || e.finished) = true := by
        rw [Bool.or_eq_true, Bool.not_eq_true']
        by_contra hn
        simp only [not_or, Bool.not_eq_false, Bool.not_eq_true] at hn
        exact h hn
      simp only [closeStream, he, hs, if_true]
      rfl

theorem counts_recordDataFrame (me : Inner) (sid n : Nat) :
    (me.recordDataFrame sid n).1.counts = { me.counts with
      dataBudget := (me.recordDataFrame sid n).1.dataBudget } := by
  unfold recordDataFrame
  dsimp only
  repeat' split
  all_goals rfl

end Inner

end Httpunk.H2
