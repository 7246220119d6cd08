import Httpunk.H2.Conn.Output
import Httpunk.H2.Driver.Invariant

/-!
# H2 — Safety — HeadSends

A send of a head that fails is atomic.

* `HeadCall.run_failed`: the state it leaves, but for the slot of `open_stream`, is the one it found.
* `SameButSlots`: two states that differ in the count of slots at most; each operation of a head
  call does the same to both.
* `Output.failed_call_atomic`: neither bytes nor the HPACK encoder move, and the next call queues
  what it would have queued.
-/

namespace Httpunk.H2

/-! ### What a failed call leaves -/

/-- A failed call leaves the state as it was, but for the slot. -/
theorem HeadCall.run_failed (me : Inner) (c : HeadCall) (h : (c.run me).2.failed = true) :
    (c.run me).1 = c.giveBack me := by
  cases c with
  | openStream request endStream isHead =>
    simp only [HeadCall.run, HeadCall.giveBack] at h ⊢
    unfold Inner.openStream at h ⊢
    split
    · rfl
    · next hd =>
      split
      · rfl
      · next hm =>
        rw [if_neg hd, if_neg hm] at h
        rcases request with err | block
        · rfl
        · -- an idle stream opens, whatever END_STREAM says
          have hopen : ∃ st, State.idle.sendOpen endStream = .ok st := by
            cases endStream with
            | true => exact ⟨_, rfl⟩
            | false => exact ⟨_, rfl⟩
          obtain ⟨st, hst⟩ := hopen
          simp only [hst] at h
          cases h
  | sendTrailers sid trailers =>
    simp only [HeadCall.run, HeadCall.giveBack] at h ⊢
    unfold Inner.sendTrailers at h ⊢
    rcases he : me.streams.lookup sid with _ | e
    · rfl
    · simp only [he] at h ⊢
      by_cases hs : e.state.isSendStreaming = true
      · simp only [hs, Bool.not_true, Bool.false_eq_true, if_false] at h ⊢
        rcases hc : e.state.sendClose with _ | st
        · rfl
        · simp only [hc] at h
          cases h
      · simp only [hs, Bool.not_false, if_true]
  | sendResponseHead sid status fields endStream date =>
    simp only [HeadCall.run, HeadCall.giveBack] at h ⊢
    unfold Inner.sendResponseHead at h ⊢
    rcases hf : checkSendFields fields with _ | err
    · simp only [hf] at h ⊢
      rcases he : me.streams.lookup sid with _ | e
      · rfl
      · simp only [he] at h ⊢
        by_cases hc : e.state.isClosed = true
        · simp only [hc, if_true]
        · simp only [hc, Bool.false_eq_true, if_false] at h ⊢
          rcases hb : buildResponseHeaders status fields me.autoDate date with err | block
          · rfl
          · simp only [hb] at h ⊢
            rcases ho : e.state.sendOpen endStream with err | st
            · rfl
            · simp only [ho] at h
              cases h
    · rfl

/-! ### States that differ in the count of slots -/

/-- The two states differ in the count of slots at most. -/
def Inner.SameButSlots (s s' : Inner) : Prop := ∃ n, s' = { s with numOpenStreams := n }

/-- The two outcomes are equal, and their states differ in the count of slots at most. -/
def Inner.AlikeButSlots {α : Type} (r r' : Inner × α) : Prop :=
  r.1.SameButSlots r'.1 ∧ r'.2 = r.2

namespace Inner.SameButSlots

variable {s s' : Inner}

theorem refl (s : Inner) : s.SameButSlots s := ⟨s.numOpenStreams, rfl⟩

theorem releaseSlotCount (s : Inner) : s.SameButSlots s.releaseSlotCount := ⟨_, rfl⟩

theorem setStream (h : s.SameButSlots s') (sid : Nat) (e : StreamEntry) :
    (s.setStream sid e).SameButSlots (s'.setStream sid e) := by
  obtain ⟨n, rfl⟩ := h
  exact ⟨n, rfl⟩

theorem emit (h : s.SameButSlots s') (f : OutFrame) : (s.emit f).SameButSlots (s'.emit f) := by
  obtain ⟨n, rfl⟩ := h
  exact ⟨n, rfl⟩

theorem reclaimConn (h : s.SameButSlots s') (k : Nat) :
    (s.reclaimConn k).SameButSlots (s'.reclaimConn k) := by
  obtain ⟨n, rfl⟩ := h
  unfold Inner.reclaimConn
  by_cases hk : k = 0
  · rw [if_pos hk, if_pos hk]
    exact ⟨n, rfl⟩
  · rw [if_neg hk, if_neg hk]
    dsimp only
    split <;> exact ⟨n, rfl⟩

theorem reclaimEntry (h : s.SameButSlots s') (sid : Nat) (e : StreamEntry) :
    (s.reclaimEntry sid e).SameButSlots (s'.reclaimEntry sid e) := by
  obtain ⟨n, rfl⟩ := h
  unfold Inner.reclaimEntry
  exact SameButSlots.reclaimConn ⟨n, rfl⟩ _

theorem maybeRemoveSettled (h : s.SameButSlots s') (sid : Nat) :
    (s.maybeRemoveSettled sid).SameButSlots (s'.maybeRemoveSettled sid) := by
  obtain ⟨n, rfl⟩ := h
  unfold Inner.maybeRemoveSettled
  dsimp only
  split
  · exact ⟨n, rfl⟩
  · split <;> exact ⟨n, rfl⟩

theorem reclaimStreamAccounting (h : s.SameButSlots s') (sid : Nat) :
    (s.reclaimStreamAccounting sid).SameButSlots (s'.reclaimStreamAccounting sid) := by
  have hs : s'.streams = s.streams := by
    obtain ⟨n, rfl⟩ := h
    rfl
  unfold Inner.reclaimStreamAccounting
  rw [hs]
  split
  · exact h
  · exact (h.reclaimEntry sid _).maybeRemoveSettled sid

theorem leaveSendQueue (h : s.SameButSlots s') (sid : Nat) :
    AlikeButSlots (s.leaveSendQueue sid) (s'.leaveSendQueue sid) := by
  obtain ⟨n, rfl⟩ := h
  unfold Inner.leaveSendQueue
  dsimp only
  split
  · exact ⟨⟨n, rfl⟩, rfl⟩
  · split
    · exact ⟨⟨n, rfl⟩, rfl⟩
    · dsimp only [Inner.setStream]
      by_cases hh : s.pendingSend.head? = some sid
      · simp only [hh, if_true]
        exact ⟨⟨n, rfl⟩, rfl⟩
      · simp only [hh, if_false]
        exact ⟨⟨n, rfl⟩, rfl⟩

theorem leaveCapacityQueue (h : s.SameButSlots s') (sid : Nat) :
    AlikeButSlots (s.leaveCapacityQueue sid) (s'.leaveCapacityQueue sid) := by
  obtain ⟨n, rfl⟩ := h
  unfold Inner.leaveCapacityQueue
  dsimp only
  split
  · exact ⟨⟨n, rfl⟩, rfl⟩
  · split
    · exact ⟨⟨n, rfl⟩, rfl⟩
    · dsimp only [Inner.setStream]
      by_cases hh : s.pendingCapacity.head? = some sid
      · simp only [hh, if_true]
        exact ⟨⟨n, rfl⟩, rfl⟩
      · simp only [hh, if_false]
        exact ⟨⟨n, rfl⟩, rfl⟩

theorem maybeGoawayReply (h : s.SameButSlots s') :
    AlikeButSlots s.maybeGoawayReply s'.maybeGoawayReply := by
  obtain ⟨n, rfl⟩ := h
  unfold Inner.maybeGoawayReply
  have hdue : Inner.replyDue { s with numOpenStreams := n } = s.replyDue := rfl
  rw [hdue]
  by_cases hr : s.replyDue = true
  · simp only [hr, if_true]
    exact ⟨⟨n, rfl⟩, rfl⟩
  · simp only [hr, Bool.false_eq_true, if_false]
    exact ⟨⟨n, rfl⟩, rfl⟩

theorem onStreamGone (h : s.SameButSlots s') : AlikeButSlots s.onStreamGone s'.onStreamGone := by
  obtain ⟨hreply, hf⟩ := h.maybeGoawayReply
  obtain ⟨n, rfl⟩ := h
  unfold Inner.onStreamGone
  exact ⟨hreply, by dsimp only; rw [hf]⟩

theorem finishEntry (h : s.SameButSlots s') (sid : Nat) (e : StreamEntry) :
    (s.finishEntry sid e).SameButSlots (s'.finishEntry sid e) := by
  obtain ⟨n, rfl⟩ := h
  exact ⟨_, rfl⟩

theorem closeStream (h : s.SameButSlots s') (sid : Nat) :
    AlikeButSlots (s.closeStream sid) (s'.closeStream sid) := by
  have hs : s'.streams = s.streams := by
    obtain ⟨n, rfl⟩ := h
    rfl
  unfold Inner.closeStream
  rw [hs]
  split
  · exact ⟨h, rfl⟩
  · next e _ =>
    split
    · exact ⟨h, rfl⟩
    · obtain ⟨hleft, hlf⟩ := (h.finishEntry sid e).leaveSendQueue sid
      obtain ⟨⟨n, hidle⟩, hif⟩ := hleft.leaveCapacityQueue sid
      have hdrop (b : Bool) (t : Inner) : SameButSlots
          (if b then { t with streams := t.streams.erase sid } else t)
          (if b then { ({ t with numOpenStreams := n } : Inner) with
            streams := t.streams.erase sid } else { t with numOpenStreams := n }) := by
        cases b with
        | true => exact ⟨n, rfl⟩
        | false => exact ⟨n, rfl⟩
      dsimp only
      rw [hlf, hif, hidle]
      obtain ⟨hgone, hgf⟩ := (hdrop (e.recvUnreleased == 0 && e.dataBudgetCharged == 0)
        (((s.finishEntry sid e).leaveSendQueue sid).1.leaveCapacityQueue sid).1).onStreamGone
      exact ⟨hgone, by rw [hgf]⟩

theorem enqueueResetExpiration (h : s.SameButSlots s') (sid : Nat) :
    (s.enqueueResetExpiration sid).SameButSlots (s'.enqueueResetExpiration sid) := by
  obtain ⟨n, rfl⟩ := h
  have hclear : Inner.clearExpiredResetStreams { s with numOpenStreams := n } =
      { s.clearExpiredResetStreams with numOpenStreams := n } := rfl
  unfold Inner.enqueueResetExpiration
  rw [hclear]
  dsimp only
  by_cases hmax :
      s.clearExpiredResetStreams.resetStreams.keys.length ≥ s.clearExpiredResetStreams.resetStreamMax
  · simp only [hmax, if_true]
    exact ⟨n, rfl⟩
  · simp only [hmax, if_false]
    exact ⟨n, rfl⟩

theorem resetStream (h : s.SameButSlots s') (sid : Nat) (reason : Reason)
    (initiator : Initiator) :
    AlikeButSlots (s.resetStream sid reason initiator) (s'.resetStream sid reason initiator) := by
  have hs : s'.streams = s.streams := by
    obtain ⟨n, rfl⟩ := h
    rfl
  unfold Inner.resetStream
  rw [hs]
  split
  · exact ⟨h, rfl⟩
  · next e _ =>
    split
    · generalize (if e.state.isReset then e.state
        else e.state.setReset sid reason initiator) = st
      obtain ⟨hclose, hcf⟩ :=
        ((h.setStream sid { e with state := st }).reclaimStreamAccounting sid).closeStream sid
      refine ⟨?_, by dsimp only; rw [hcf]⟩
      by_cases hl : st.isLocalError = true
      · simp only [hl, if_true]
        exact hclose.enqueueResetExpiration sid
      · simp only [hl, Bool.false_eq_true, if_false]
        exact hclose
    · dsimp only
      obtain ⟨hclose, hcf⟩ := (((h.setStream sid
        { e with state := e.state.setReset sid reason initiator }).reclaimStreamAccounting sid).emit
          (.rstStream sid reason)).closeStream sid
      exact ⟨hclose.enqueueResetExpiration sid, by rw [hcf]⟩

theorem finishStream (h : s.SameButSlots s') (sid : Nat) :
    AlikeButSlots (s.finishStream sid) (s'.finishStream sid) := by
  obtain ⟨hclose, hcf⟩ := h.closeStream sid
  have hrole : (s'.closeStream sid).1.role = (s.closeStream sid).1.role := by
    obtain ⟨n, hn⟩ := hclose
    rw [hn]
  have hstr : (s'.closeStream sid).1.streams = (s.closeStream sid).1.streams := by
    obtain ⟨n, hn⟩ := hclose
    rw [hn]
  unfold Inner.finishStream
  dsimp only
  rw [hrole, hstr, hcf]
  split
  · exact ⟨hclose, rfl⟩
  · split
    · exact ⟨hclose, rfl⟩
    · split
      · obtain ⟨hreset, hrf⟩ := hclose.resetStream sid .noError .user
        exact ⟨hreset, by rw [hrf]⟩
      · exact ⟨hclose.reclaimStreamAccounting sid, rfl⟩

theorem pending (h : s.SameButSlots s') : s'.pending = s.pending := by
  obtain ⟨n, rfl⟩ := h
  rfl

theorem sendMaxFrameSize (h : s.SameButSlots s') : s'.sendMaxFrameSize = s.sendMaxFrameSize := by
  obtain ⟨n, rfl⟩ := h
  rfl

theorem wakeFlag (h : s.SameButSlots s') (before : Nat) : s'.wakeFlag before = s.wakeFlag before := by
  obtain ⟨n, rfl⟩ := h
  rfl

/-- The end of a head that closed the send half. -/
theorem completed (h : s.SameButSlots s') (sid before : Nat) (close : Bool) :
    AlikeButSlots
      (let tail := if close then s.finishStream sid else (s, {})
       (tail.1, Except.ok (ε := Err) (SendVerdict.completed 0 (tail.1.wakeFlag before) tail.2)))
      (let tail := if close then s'.finishStream sid else (s', {})
       (tail.1, Except.ok (SendVerdict.completed 0 (tail.1.wakeFlag before) tail.2))) := by
  cases close with
  | true =>
    obtain ⟨hf, hff⟩ := h.finishStream sid
    simp only [if_true]
    exact ⟨hf, by rw [hff, hf.wakeFlag]⟩
  | false =>
    simp only [Bool.false_eq_true, if_false]
    exact ⟨h, by rw [h.wakeFlag]⟩

/-- **A head call does the same** in the two states. -/
theorem run (h : s.SameButSlots s') (c : HeadCall) : AlikeButSlots (c.run s) (c.run s') := by
  cases c with
  | openStream request endStream isHead =>
    obtain ⟨n, rfl⟩ := h
    simp only [HeadCall.run]
    unfold Inner.openStream
    have hdead : Inner.isDead { s with numOpenStreams := n } = s.isDead := rfl
    rw [hdead]
    by_cases hd : s.isDead = true
    · simp only [hd, if_true]
      exact ⟨⟨_, rfl⟩, rfl⟩
    · simp only [hd, Bool.false_eq_true, if_false]
      by_cases hm : s.nextId > maxStreamIdValue
      · simp only [hm, if_true]
        exact ⟨⟨_, rfl⟩, rfl⟩
      · simp only [hm, if_false]
        rcases request with err | block
        · exact ⟨⟨_, rfl⟩, rfl⟩
        · dsimp only
          split
          · exact ⟨⟨n, rfl⟩, rfl⟩
          · exact ⟨⟨n, rfl⟩, rfl⟩
  | sendTrailers sid trailers =>
    have hs : s'.streams = s.streams := by
      obtain ⟨n, rfl⟩ := h
      rfl
    have hp := h.pending
    simp only [HeadCall.run]
    unfold Inner.sendTrailers
    rw [hs, hp]
    split
    · exact ⟨h, rfl⟩
    · next e _ =>
      split
      · exact ⟨h, rfl⟩
      · split
        · exact ⟨h, rfl⟩
        · next st _ =>
          obtain ⟨hf, hff⟩ := ((h.setStream sid { e with state := st }).emit
            (.headers sid (.trailers trailers) true)).completed sid s.pending.length true
          exact ⟨hf, congrArg HeadResult.sent hff⟩
  | sendResponseHead sid status fields endStream date =>
    have hs : s'.streams = s.streams := by
      obtain ⟨n, rfl⟩ := h
      rfl
    have hauto : s'.autoDate = s.autoDate := by
      obtain ⟨n, rfl⟩ := h
      rfl
    have hp := h.pending
    simp only [HeadCall.run]
    unfold Inner.sendResponseHead
    rw [hs, hp, hauto]
    split
    · exact ⟨h, rfl⟩
    · dsimp only
      split
      · exact ⟨h, rfl⟩
      · next e _ =>
        split
        · exact ⟨h, rfl⟩
        · split
          · exact ⟨h, rfl⟩
          · next block _ =>
            split
            · exact ⟨h, rfl⟩
            · next st _ =>
              obtain ⟨hf, hff⟩ := ((h.setStream sid { e with state := st }).emit
                (.headers sid block endStream)).completed sid s.pending.length endStream
              exact ⟨hf, congrArg HeadResult.sent hff⟩

end Inner.SameButSlots

/-- What a failed call leaves differs in the count of slots at most. -/
theorem HeadCall.giveBack_same (me : Inner) (c : HeadCall) : me.SameButSlots (c.giveBack me) := by
  cases c with
  | openStream request endStream isHead => exact .releaseSlotCount me
  | sendTrailers sid trailers => exact .refl me
  | sendResponseHead sid status fields endStream date => exact .refl me

theorem HeadCall.giveBack_pending (me : Inner) (c : HeadCall) :
    (c.giveBack me).pending = me.pending :=
  (c.giveBack_same me).pending

variable {E : Type}

/-- **A failed send of a head is atomic.**  It queues no byte, leaves the HPACK encoder, and the
state but for the slot that `open_stream` gives back; and any next call reports the same, leaves
the encoder in the same state and the same bytes queued as if the failed one had not been made. -/
theorem Output.failed_call_atomic (v : FrameEncoder E) (o : Output E) (c : HeadCall)
    (h : (o.call v c).2.failed = true) :
    (o.call v c).1 = { o with inner := c.giveBack o.inner } ∧
    ∀ next : HeadCall, ((o.call v c).1.call v next).2 = (o.call v next).2 ∧
      ((o.call v c).1.call v next).1.enc = (o.call v next).1.enc ∧
      ((o.call v c).1.call v next).1.bytes = (o.call v next).1.bytes ∧
      (o.call v next).1.inner.SameButSlots ((o.call v c).1.call v next).1.inner := by
  have hrun : (c.run o.inner).1 = c.giveBack o.inner := c.run_failed o.inner h
  have hleft : (o.call v c).1 = { o with inner := c.giveBack o.inner } := by
    unfold Output.call
    dsimp only
    rw [hrun, c.giveBack_pending, List.drop_length]
    simp only [FrameEncoder.encode, List.append_nil]
  refine ⟨hleft, fun next => ?_⟩
  rw [hleft]
  obtain ⟨hsame, hres⟩ := (c.giveBack_same o.inner).run next
  unfold Output.call
  dsimp only
  rw [hsame.pending, hsame.sendMaxFrameSize, c.giveBack_pending]
  exact ⟨hres, rfl, rfl, hsame⟩

/-- An encoder that counts the header blocks it has written. -/
def countingEncoder : FrameEncoder Nat where
  headers n _ sid _ eos := (n + 1, [UInt8.ofNat n, UInt8.ofNat sid, if eos then 5 else 4])
  plain _ := []

/-- A client with a claimed slot is refused the fields of its request. -/
theorem Output.failed_call_atomic_refused :
    (Output.call countingEncoder ⟨(Inner.new Sys.clientConfig).tryClaimSlot.1, 0, []⟩
      (.openStream (.error (mapUserErr .malformedHeaders)) true false)).1.bytes = [] ∧
    ((Output.call countingEncoder ⟨(Inner.new Sys.clientConfig).tryClaimSlot.1, 0, []⟩
      (.openStream (.error (mapUserErr .malformedHeaders)) true false)).1.call countingEncoder
        (.openStream (.ok (.request "GET" "/" [])) true false)).1.bytes = [0, 1, 5] := by
  obtain ⟨hleft, hnext⟩ := Output.failed_call_atomic countingEncoder
    ⟨(Inner.new Sys.clientConfig).tryClaimSlot.1, 0, []⟩
    (.openStream (.error (mapUserErr .malformedHeaders)) true false) (by decide)
  refine ⟨by rw [hleft], ?_⟩
  rw [(hnext (.openStream (.ok (.request "GET" "/" [])) true false)).2.2.1]
  decide

end Httpunk.H2
