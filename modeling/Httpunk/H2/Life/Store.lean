import Httpunk.H2.Life.Basic

/-!
# H2 — Life — Store

The helpers of the connection as touches.  The rotation and the reset store are not counted;
closing, resetting and aborting a stream are runs of touches.

* `closeStream_touches`: a closed stream finishes, and leaves when nothing of it is to be
  released.
* `resetStream_touches`, `abortStream_touches`: the stream ends.
* `finishStream_touches`: the stream ends only where its handle is handed over.
-/

namespace Httpunk.H2.Inner

open Runs (Reach)

variable {extra : Mark → Prop} {me : Inner} {sid : Nat} {e : StreamEntry}

/-! ### What is not counted -/

theorem enqueueSend_still (me : Inner) (sid : Nat) : Still me (me.enqueueSend sid) := by
  unfold enqueueSend
  split
  · exact .refl _
  · next e he =>
    have h : Still me (me.setStream sid { e with isPendingSend := true, turnFrames := 0 }) :=
      .setStream he { SameLife.refl e with }
    split
    · exact .refl _
    · exact h.trans (.rotation _ _ _)

theorem enqueueCapacity_still (me : Inner) (sid : Nat) : Still me (me.enqueueCapacity sid) := by
  unfold enqueueCapacity
  split
  · exact .refl _
  · next e he =>
    have h : Still me (me.setStream sid { e with isPendingCapacity := true }) :=
      .setStream he { SameLife.refl e with }
    split
    · exact .refl _
    · exact h.trans (.rotation _ _ _)

theorem leaveSendQueue_still (me : Inner) (sid : Nat) : Still me (me.leaveSendQueue sid).1 := by
  unfold leaveSendQueue
  split
  · exact .refl _
  · next e he =>
    have h : Still me (me.setStream sid { e with isPendingSend := false, turnFrames := 0 }) :=
      .setStream he { SameLife.refl e with }
    split
    · exact .refl _
    · dsimp only
      split
      · exact h.trans (.rotation _ _ _)
      · exact h.trans (.rotation _ _ _)

theorem leaveCapacityQueue_still (me : Inner) (sid : Nat) :
    Still me (me.leaveCapacityQueue sid).1 := by
  unfold leaveCapacityQueue
  split
  · exact .refl _
  · next e he =>
    have h : Still me (me.setStream sid { e with isPendingCapacity := false }) :=
      .setStream he { SameLife.refl e with }
    split
    · exact .refl _
    · dsimp only
      split
      · exact h.trans (.rotation _ _ _)
      · exact h.trans (.rotation _ _ _)

theorem sendFront_still (me : Inner) : Still me me.sendFront.1 := .rotation me _ _

theorem yieldSendTurn_still (me : Inner) (sid : Nat) : Still me (me.yieldSendTurn sid).1 := by
  unfold yieldSendTurn
  dsimp only
  split
  · have h : Still me { me with pendingSend := me.pendingSend.tail ++ [sid] } :=
      .rotation me _ _
    split
    · exact h
    · next e he =>
      exact h.trans (.setStream (s := { me with pendingSend := me.pendingSend.tail ++ [sid] }) he
        { SameLife.refl e with })
  · exact .refl _

theorem admitCapacityFront_still (me : Inner) : Still me me.admitCapacityFront.1 := by
  unfold admitCapacityFront
  split
  · exact .refl _
  · dsimp only
    split
    · exact me.sendFront_still
    · have h : Still me me.sendFront.1.capacityFront.1 := .rotation me _ _
      split
      · exact h
      · next sid _ =>
        refine Still.trans ?_ (enqueueSend_still _ sid)
        split
        · next e he =>
          have hw : Still me.sendFront.1.capacityFront.1
              (me.sendFront.1.capacityFront.1.setStream sid { e with isPendingCapacity := false }) :=
            .setStream he { SameLife.refl e with }
          exact (h.trans hw).trans (.rotation _ _ _)
        · exact h.trans (.rotation _ _ _)

theorem inResetStore_still (me : Inner) (sid : Nat) : Still me (me.inResetStore sid).1 := by
  obtain ⟨m, hm⟩ := inResetStore_eq me sid
  rw [hm]
  exact { Still.refl me with }

theorem enqueueResetExpiration_still (me : Inner) (sid : Nat) :
    Still me (me.enqueueResetExpiration sid) := by
  unfold enqueueResetExpiration
  dsimp only
  split
  · exact { Still.refl me with }
  · exact { Still.refl me with }

theorem enqueueResetExpiration_streams (me : Inner) (sid : Nat) :
    (me.enqueueResetExpiration sid).streams = me.streams := by
  unfold enqueueResetExpiration
  dsimp only
  split <;> rfl

theorem maybeGoawayReply_still (me : Inner) : Still me me.maybeGoawayReply.1 := by
  unfold maybeGoawayReply
  split
  · exact { Still.refl me with }
  · exact .refl _

theorem onStreamGone_still (me : Inner) : Still me me.onStreamGone.1 := maybeGoawayReply_still me

/-! ### Closing a stream -/

/-- An entry kept or removed, on two states that agree. -/
theorem maybeRemoveSettled_of {e : StreamEntry} (he : me.streams.lookup sid = some e) :
    me.maybeRemoveSettled sid =
      if e.finished && e.recvUnreleased == 0 && e.dataBudgetCharged == 0 then
        { me with streams := me.streams.erase sid }
      else me := by
  rw [maybeRemoveSettled, he]

theorem closeStream_touches (me : Inner) (sid : Nat) :
    Touches extra me (me.closeStream sid).1 := by
  unfold closeStream
  split
  · exact .refl
  · next e he =>
    split
    · exact .refl
    · next hc =>
      simp only [Bool.or_eq_true, Bool.not_eq_true', not_or, Bool.not_eq_false,
        Bool.not_eq_true] at hc
      have hl : (me.finishEntry sid e).streams.lookup sid =
          some { e with finished := true, holdsSlot := false } := AList.lookup_insert _
      have hf : Touches extra me ((me.finishEntry sid e).maybeRemoveSettled sid) :=
        Touches.common (.finish he hc.1 hc.2) rfl
      rw [maybeRemoveSettled_of hl] at hf
      have hq : Still (me.finishEntry sid e)
          (((me.finishEntry sid e).leaveSendQueue sid).1.leaveCapacityQueue sid).1 :=
        (leaveSendQueue_still _ sid).trans (leaveCapacityQueue_still _ sid)
      dsimp only at hf ⊢
      rw [Bool.true_and] at hf
      refine Reach.trans ?_ (Touches.still (onStreamGone_still _))
      split
      · next hd =>
        rw [if_pos hd] at hf
        exact hf.trans (Touches.still (hq.erase sid))
      · next hd =>
        rw [if_neg hd] at hf
        exact hf.trans (Touches.still hq)

/-- The unread bytes and the framing charge go, and with them a stream that has finished. -/
theorem reclaimStreamAccounting_touches (me : Inner) (sid : Nat) :
    Touches extra me (me.reclaimStreamAccounting sid) := by
  unfold reclaimStreamAccounting
  split
  · exact .refl
  · next e he =>
    have hl₁ : (me.setStream sid { e with
        dataBudgetCharged := 0, recvUnreleased := 0, recvReclaimed := true }).streams.lookup sid =
        some { e with dataBudgetCharged := 0, recvUnreleased := 0, recvReclaimed := true } :=
      AList.lookup_insert _
    have hl₂ : (me.reclaimEntry sid e).streams.lookup sid =
        some { e with dataBudgetCharged := 0, recvUnreleased := 0, recvReclaimed := true } := by
      rw [lookup_reclaimEntry, if_pos rfl]
    have hs : Still (me.setStream sid { e with
        dataBudgetCharged := 0, recvUnreleased := 0, recvReclaimed := true })
        (me.reclaimEntry sid e) := by
      unfold reclaimEntry
      dsimp only
      refine Still.trans ?_ (.reclaimConn _ _)
      exact { Still.refl _ with }
    have hk := Touch.settle (n := 0) (c := 0) (r := true) he
    unfold keepStream at hk
    refine Reach.trans (Touches.common hk rfl) (Touches.still ?_)
    rw [maybeRemoveSettled_of hl₁, maybeRemoveSettled_of hl₂]
    split
    · exact hs.erase sid
    · exact hs

theorem dropClosedStored_touches (me : Inner) (sid : Nat) :
    Touches extra me (me.dropClosedStored sid).1 :=
  (reclaimStreamAccounting_touches me sid).trans (closeStream_touches _ sid)

/-! ### Resetting and aborting a stream -/

/-- A stream ended by `st`, reclaimed and finished. -/
theorem endWith_touches {st : State} (he : me.streams.lookup sid = some e)
    (hc : st.isClosed = true) : Touches (· = .ends sid) me
      ((me.setStream sid { e with state := st }).reclaimStreamAccounting sid) := by
  have hs : Touches (· = .ends sid) me (me.setStream sid { e with state := st }) :=
    Touches.one (.ends he (.of_isClosed hc)) rfl
  exact hs.trans (reclaimStreamAccounting_touches _ sid)

theorem resetStream_touches (me : Inner) (sid : Nat) (reason : Reason) (initiator : Initiator) :
    Touches (· = .ends sid) me (me.resetStream sid reason initiator).1 := by
  unfold resetStream
  split
  · exact .refl
  · next e he =>
    split
    · next hc =>
      have hst : (if e.state.isReset then e.state
          else e.state.setReset sid reason initiator).isClosed = true := by
        split
        · exact hc
        · rfl
      generalize (if e.state.isReset then e.state
        else e.state.setReset sid reason initiator) = st at hst
      have hm := (endWith_touches he hst).trans (closeStream_touches _ sid)
      dsimp only
      split
      · exact hm.trans (Touches.still (enqueueResetExpiration_still _ sid))
      · exact hm
    · have hm := endWith_touches he (State.isClosed_setReset e.state sid reason initiator)
      exact ((hm.trans (Touches.still (.emit _ _))).trans (closeStream_touches _ sid)).trans
        (Touches.still (enqueueResetExpiration_still _ sid))

/-- The marks of the end of a send half, which may hand the stream over. -/
def endMarks (sid : Nat) (handle : Option Nat) (m : Mark) : Prop :=
  m = .turn sid ∨ handle = some sid ∧ m = .ends sid

/-- The end of a send half ends the whole stream only where its reader is to be told. -/
theorem finishStream_touches (me : Inner) (sid : Nat) :
    Touches (endMarks sid (me.finishStream sid).2.handle) me (me.finishStream sid).1 := by
  have hc : ∀ {x}, Touches x me (me.closeStream sid).1 := closeStream_touches me sid
  unfold finishStream
  dsimp only
  split
  · exact hc
  · split
    · exact hc
    · next e he =>
      split
      · next hn =>
        have hreset : ((me.closeStream sid).1.resetStream sid .noError .user).2.handle =
            some sid := by
          rw [resetStream, he]
          dsimp only
          rw [if_neg (by simpa using hn)]
        exact hc.trans ((resetStream_touches _ sid _ _).mono fun m hm => .inr ⟨hreset, hm⟩)
      · exact hc.trans (reclaimStreamAccounting_touches _ sid)

theorem abortStream_touches (me : Inner) (sid : Nat) (reason : Option Reason) :
    Touches (· = .ends sid) me (me.abortStream sid reason).1 := by
  unfold abortStream
  split
  · exact .refl
  · next e he =>
    dsimp only
    generalize hst : abortState e.state reason = st
    have hc : st.isClosed = true := hst ▸ isClosed_abortState e.state reason
    generalize hm : me.setStream sid { e with
      state := st, recvUnreleased := 0, dataBudgetCharged := 0, recvReclaimed := true } = m
    have hl : m.streams.lookup sid = some { e with
        state := st, recvUnreleased := 0, dataBudgetCharged := 0, recvReclaimed := true } :=
      hm ▸ AList.lookup_insert _
    have hs : Touches (· = .ends sid) me (me.setStream sid { e with state := st }) :=
      Touches.one (.ends he (.of_isClosed hc)) rfl
    have hk : Touches (· = .ends sid) (me.setStream sid { e with state := st })
        (m.maybeRemoveSettled sid) := by
      have hk := Touch.settle (s := me.setStream sid { e with state := st }) (n := 0) (c := 0)
        (r := true) (AList.lookup_insert _)
      rw [keepStream, setStream_setStream, hm] at hk
      exact Touches.common hk rfl
    rw [maybeRemoveSettled_of hl] at hk
    by_cases hfin : e.finished = true
    · rw [closeStream_of_finished hl hfin]
      rw [if_pos (by simp [hfin])] at hk
      exact hs.trans hk
    · rw [if_neg (by simp [hfin])] at hk
      have hn := lookup_closeStream hl hc (by simpa using hfin) rfl rfl
      refine ((hs.trans hk).trans (closeStream_touches m sid)).trans (Touches.still ?_)
      exact .lookups _ fun k => by rw [Store.erase_of_lookup_none hn]

/-- The marks of several streams that end. -/
def endsOf (ids : List Nat) (m : Mark) : Prop := ∃ sid ∈ ids, m = .ends sid

theorem abortAll_touches (me : Inner) (reason : Option Reason) (ids : List Nat) :
    Touches (endsOf ids) me (me.abortAll reason ids).1 := by
  induction ids generalizing me with
  | nil => exact .refl
  | cons sid ids ih =>
      refine Reach.trans ((abortStream_touches me sid reason).mono ?_)
        ((ih (me.abortStream sid reason).1).mono ?_)
      · rintro m rfl
        exact ⟨sid, .head _, rfl⟩
      · rintro m ⟨k, hk, rfl⟩
        exact ⟨k, .tail _ hk, rfl⟩

end Httpunk.H2.Inner
