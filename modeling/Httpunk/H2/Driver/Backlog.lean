import Httpunk.H2.Driver.Counts

/-!
# H2 — Driver — Backlog

The backlog of a server: the requests not yet accepted, those of them the peer has reset, and the
resets its malformed frames have drawn.

* `Inner.backlog`: those fields, as one value.
* `dispatch_backlog`: a frame other than RST_STREAM changes it by the request it opens at most.
* `call_backlog`: the only call that changes it is `accepted`.
-/

namespace Httpunk.H2

/-- What a peer can make a server hold without an active stream. -/
structure Backlog where
  pendingAccept : Finset Nat
  remoteResetPending : Finset Nat
  localErrorResets : Nat

/-- The backlog of the counters. -/
def Counts.backlog (c : Counts) : Backlog :=
  ⟨c.pendingAccept, c.remoteResetPending, c.localErrorResets⟩

/-- A request opened joins the accept queue. -/
def Backlog.opens (b : Backlog) : Option Nat → Backlog
  | some sid => { b with pendingAccept := insert sid b.pendingAccept }
  | none => b

/-- The request a verdict of `recv_headers` opens. -/
def openedBy : Except Err RecvHeadersVerdict → Option Nat
  | .ok v => v.acts.opened
  | .error _ => none

namespace Inner

variable {me s : Inner} {sid : Nat}

/-- The backlog of the connection. -/
def backlog (me : Inner) : Backlog := me.counts.backlog

theorem backlog_of_counts (h : s.counts = me.counts) : s.backlog = me.backlog :=
  congrArg Counts.backlog h

/-! ### The store -/

@[simp] theorem backlog_setStream (me : Inner) (sid : Nat) (e : StreamEntry) :
    (me.setStream sid e).backlog = me.backlog := rfl

@[simp] theorem backlog_emit (me : Inner) (f : OutFrame) : (me.emit f).backlog = me.backlog := rfl

@[simp] theorem backlog_reclaimStreamAccounting (me : Inner) (sid : Nat) :
    (me.reclaimStreamAccounting sid).backlog = me.backlog := by
  have hc := congrArg Counts.backlog (counts_reclaimStreamAccounting me sid)
  exact hc

theorem backlog_maybeRemoveSettled (me : Inner) (sid : Nat) :
    (me.maybeRemoveSettled sid).backlog = me.backlog :=
  backlog_of_counts (counts_maybeRemoveSettled me sid)

@[simp] theorem backlog_closeStream (me : Inner) (sid : Nat) :
    (me.closeStream sid).1.backlog = me.backlog := by
  have hc := congrArg Counts.backlog (counts_closeStream me sid)
  exact hc

@[simp] theorem backlog_dropClosedStored (me : Inner) (sid : Nat) :
    (me.dropClosedStored sid).1.backlog = me.backlog := by
  rw [dropClosedStored, backlog_closeStream, backlog_reclaimStreamAccounting]

@[simp] theorem backlog_inResetStore (me : Inner) (sid : Nat) :
    (me.inResetStore sid).1.backlog = me.backlog := backlog_of_counts (counts_inResetStore me sid)

@[simp] theorem backlog_enqueueResetExpiration (me : Inner) (sid : Nat) :
    (me.enqueueResetExpiration sid).backlog = me.backlog :=
  backlog_of_counts (counts_enqueueResetExpiration me sid)

@[simp] theorem backlog_resetStream (me : Inner) (sid : Nat) (reason : Reason)
    (initiator : Initiator) : (me.resetStream sid reason initiator).1.backlog = me.backlog := by
  unfold resetStream
  dsimp only
  repeat' split
  all_goals simp

@[simp] theorem backlog_finishStream (me : Inner) (sid : Nat) :
    (me.finishStream sid).1.backlog = me.backlog := by
  unfold finishStream
  dsimp only
  repeat' split
  all_goals simp

@[simp] theorem backlog_abortStream (me : Inner) (sid : Nat) (reason : Option Reason) :
    (me.abortStream sid reason).1.backlog = me.backlog := by
  unfold abortStream
  dsimp only
  split
  · rfl
  · exact backlog_closeStream _ _

@[simp] theorem backlog_abortAll (me : Inner) (reason : Option Reason) (ids : List Nat) :
    (me.abortAll reason ids).1.backlog = me.backlog := by
  induction ids generalizing me with
  | nil => rfl
  | cons sid ids ih => exact (ih _).trans (backlog_abortStream me sid reason)

/-! ### Frames -/

@[simp] theorem backlog_recvLookup (me : Inner) (sid : Nat) :
    (me.recvLookup sid).1.backlog = me.backlog := by
  unfold recvLookup
  dsimp only
  repeat' split
  all_goals simp

theorem backlog_applyContentLength {f : Headers} {r : Option Err}
    (h : me.applyContentLength sid f = (s, r)) : s.backlog = me.backlog := by
  have hc := counts_applyContentLength h
  exact backlog_of_counts hc

theorem backlog_rejectOversizeRequest {r : Except Err Flags}
    (h : me.rejectOversizeRequest sid = (s, r)) : s.backlog = me.backlog := by
  rw [← show (me.rejectOversizeRequest sid).1 = s from congrArg Prod.fst h]
  unfold rejectOversizeRequest
  dsimp only
  repeat' split
  all_goals simp

/-- **A request that is opened joins the accept queue**, and nothing else does. -/
theorem recvRequest_backlog (me : Inner) (frame : Headers) (spare : Bool) (before : Nat)
    (flags : Flags) : (me.recvRequest frame spare before flags).1.backlog =
      me.backlog.opens (openedBy (me.recvRequest frame spare before flags).2) := by
  unfold recvRequest
  dsimp only
  split
  · rfl
  · split
    · rfl
    · split
      · rfl
      · split
        · rfl
        · split
          · rfl
          · split
            · next h =>
              have hc := backlog_applyContentLength h
              exact hc
            · next m h =>
              have hc := backlog_applyContentLength h
              split
              · split
                · next h' => exact (backlog_rejectOversizeRequest h').trans hc
                · next h' => exact (backlog_rejectOversizeRequest h').trans hc
              · exact congrArg (Backlog.opens · (some frame.streamId)) hc

theorem recvHeadersUnknown_backlog (me : Inner) (frame : Headers) (spare : Bool) (before : Nat)
    (flags : Flags) : (me.recvHeadersUnknown frame spare before flags).1.backlog =
      me.backlog.opens (openedBy (me.recvHeadersUnknown frame spare before flags).2) := by
  have hin := backlog_inResetStore me frame.streamId
  unfold recvHeadersUnknown
  dsimp only
  split
  · exact hin
  · split
    · split <;> exact hin
    · rw [recvRequest_backlog, hin]

theorem recvHead_backlog (me : Inner) (frame : Headers) (e : StreamEntry) (before : Nat) :
    (me.recvHead frame e before).1.backlog = me.backlog ∧
      openedBy (me.recvHead frame e before).2 = none := by
  unfold recvHead
  dsimp only
  split
  · exact ⟨rfl, rfl⟩
  · split
    · exact ⟨rfl, rfl⟩
    · split
      · next h =>
        have hc := backlog_applyContentLength h
        exact ⟨hc, rfl⟩
      · next h =>
        have hc := backlog_applyContentLength h
        repeat' split
        all_goals first
          | exact ⟨hc, rfl⟩
          | exact ⟨(backlog_closeStream _ _).trans hc, rfl⟩

theorem recvTrailers_backlog (me : Inner) (frame : Headers) (e : StreamEntry) (before : Nat) :
    (me.recvTrailers frame e before).1.backlog = me.backlog ∧
      openedBy (me.recvTrailers frame e before).2 = none := by
  unfold recvTrailers
  dsimp only
  repeat' split
  all_goals exact ⟨by simp, rfl⟩

theorem recvHeaders_backlog (me : Inner) (frame : Headers) (spare : Bool) :
    (me.recvHeaders frame spare).1.backlog =
      me.backlog.opens (openedBy (me.recvHeaders frame spare).2) := by
  unfold recvHeaders
  dsimp only
  split
  · exact recvHeadersUnknown_backlog _ _ _ _ _
  · split
    · rfl
    · split
      · have hd := backlog_dropClosedStored me frame.streamId
        split
        · exact hd
        · rw [recvHeadersUnknown_backlog, hd]
      · split
        · next e he _ _ _ =>
          obtain ⟨hb, ho⟩ := recvHead_backlog me frame e me.pending.length
          rw [hb, ho]
          rfl
        · next e he _ _ _ =>
          obtain ⟨hb, ho⟩ := recvTrailers_backlog me frame e me.pending.length
          rw [hb, ho]
          rfl

@[simp] theorem backlog_releaseCapacityInner (me : Inner) (sid n : Nat) :
    (me.releaseCapacityInner sid n).backlog = me.backlog := by
  unfold releaseCapacityInner
  dsimp only
  repeat' split
  all_goals first | rfl | exact backlog_of_counts (by simp)

@[simp] theorem backlog_recordDataFrame (me : Inner) (sid n : Nat) :
    (me.recordDataFrame sid n).1.backlog = me.backlog := by
  have hc := congrArg Counts.backlog (counts_recordDataFrame me sid n)
  exact hc

theorem backlog_deliverData (me : Inner) (frame : Data) (e : StreamEntry) (before : Nat) :
    (me.deliverData frame e before).1.backlog = me.backlog := by
  unfold deliverData
  dsimp only
  generalize hm : (if frame.padding > 0 then
    (me.setStream frame.streamId { e with
      recvUnreleased := (e.recvUnreleased + frame.flowControlledLen) % 2 ^ 32
    }).releaseCapacityInner frame.streamId frame.padding
    else me.setStream frame.streamId { e with
      recvUnreleased := (e.recvUnreleased + frame.flowControlledLen) % 2 ^ 32 }) = m
  have ht : m.backlog = me.backlog := by
    rw [← hm]
    split <;> simp
  generalize hc : (if (!frame.endStream) = true then
    m.recordDataFrame frame.streamId frame.data.length else (m, none)) = c
  have hct : c.1.backlog = me.backlog := by
    rw [← hc]
    split
    · simp [ht]
    · exact ht
  obtain ⟨c, r⟩ := c
  repeat' split
  all_goals first | exact hct | simp_all

theorem backlog_recvDataOn (me : Inner) (frame : Data) (e : StreamEntry) (before : Nat) :
    (me.recvDataOn frame e before).1.backlog = me.backlog := by
  have hc := backlog_of_counts (counts_consumeConnRecv me frame.flowControlledLen)
  unfold recvDataOn
  dsimp only
  split
  · next h => rw [h] at hc; exact hc
  · next m h =>
    rw [h] at hc
    repeat' split
    all_goals first
      | exact hc
      | exact (backlog_of_counts (counts_reclaimConn _ _)).trans hc
      | exact (backlog_deliverData _ _ _ _).trans hc

@[simp] theorem backlog_recvData (me : Inner) (frame : Data) :
    (me.recvData frame).1.backlog = me.backlog := by
  have hig : ∀ {m s : Inner} {n : Nat} {r : Option Err}, m.ignoreData n = (s, r) →
      s.backlog = m.backlog := fun {m s n r} h => by
    have hi := backlog_of_counts (counts_ignoreData m n)
    rw [h] at hi
    exact hi
  have hl := backlog_recvLookup me frame.streamId
  unfold recvData
  dsimp only
  split
  · next h =>
    rw [h] at hl
    split
    · next h' => exact (hig h').trans hl
    · next h' => exact (hig h').trans hl
  · next h =>
    rw [h] at hl
    split
    · next h' => exact (hig h').trans hl
    · next h' => exact (hig h').trans hl
  · next h =>
    rw [h] at hl
    repeat' split
    all_goals first | exact hl | exact (backlog_recvDataOn _ _ _ _).trans hl

theorem backlog_recvResetOn (me : Inner) (frame : RstStream) (e : StreamEntry) :
    (me.recvResetOn frame e).1.backlog = me.backlog := by
  unfold recvResetOn
  dsimp only
  split <;> simp

@[simp] theorem backlog_recvPing (me : Inner) (frame : Ping) :
    (me.recvPing frame).1.backlog = me.backlog := by
  unfold recvPing
  dsimp only
  repeat' split
  all_goals rfl

@[simp] theorem backlog_recvGoAway (me : Inner) (frame : GoAway) :
    (me.recvGoAway frame).1.backlog = me.backlog := by
  unfold recvGoAway
  dsimp only
  split
  · rfl
  · split
    · rfl
    · exact backlog_abortAll _ _ _

/-- The request a frame opens. -/
def opensOn (me : Inner) : Frame → Option Nat
  | .headers f => openedBy (me.recvHeaders f (me.role = .server)).2
  | _ => none

/-- **What a frame adds to the backlog**, when it resets no stream. -/
theorem dispatch_backlog (me : Inner) {f : Frame} (hf : ∀ r, f ≠ .rstStream r) :
    (me.dispatch f).1.backlog = me.backlog.opens (me.opensOn f) := by
  cases f with
  | headers f => exact recvHeaders_backlog me f _
  | data f => exact backlog_recvData me f
  | windowUpdate f => exact backlog_of_counts (counts_recvWindowUpdate me f)
  | settings f => exact backlog_of_counts (counts_recvSettings me f)
  | ping f => exact backlog_recvPing me f
  | goAway f => exact backlog_recvGoAway me f
  | rstStream f => exact absurd rfl (hf f)
  | priority _ => rfl
  | streamError _ _ _ => rfl

/-! ### Calls -/

theorem backlog_sendEmpty (me : Inner) (sid : Nat) (e : StreamEntry) (endStream : Bool) :
    (me.sendEmpty sid e endStream).1.backlog = me.backlog := by
  unfold sendEmpty
  dsimp only
  repeat' split
  all_goals simp

theorem backlog_queueData (me : Inner) (sid : Nat) (chunk : Bytes) (last done : Bool)
    (before : Nat) (flags : Flags) :
    (me.queueData sid chunk last done before flags).1.backlog = me.backlog := by
  unfold queueData
  dsimp only
  repeat' split
  all_goals first | rfl | exact (backlog_finishStream _ _).trans rfl

theorem backlog_frameData (me : Inner) (sid : Nat) (e : StreamEntry) (data : Bytes)
    (offset : Nat) (endStream : Bool) (budget before : Nat) :
    (me.frameData sid e data offset endStream budget before).1.backlog = me.backlog := by
  unfold frameData
  dsimp only
  repeat' split
  · rfl
  · rfl
  · rw [backlog_queueData, backlog_of_counts (counts_afterFrame _ _ _ _ _)]
    rfl

theorem backlog_sendTurn (me : Inner) (sid : Nat) (data : Bytes) (offset : Nat)
    (endStream : Bool) (budget before : Nat) :
    (me.sendTurn sid data offset endStream budget before).1.backlog = me.backlog := by
  unfold sendTurn
  repeat' split
  all_goals first
    | exact backlog_frameData _ _ _ _ _ _ _ _
    | exact backlog_of_counts (counts_yieldSendTurn _ _)
    | rfl

theorem backlog_sendChunk (me : Inner) (sid : Nat) (e : StreamEntry) (data : Bytes)
    (offset : Nat) (endStream : Bool) :
    (me.sendChunk sid e data offset endStream).1.backlog = me.backlog := by
  have hw : (me.leaveWaiting sid e).sendFront.1.backlog = me.backlog :=
    backlog_of_counts (counts_leaveWaiting me sid e)
  have hq : ∀ m : Inner, (m.enqueueSend sid).backlog = m.backlog := fun m =>
    backlog_of_counts (counts_enqueueSend m sid)
  unfold sendChunk
  dsimp only
  split
  · rw [backlog_of_counts (counts_leaveSendQueue _ _)]
    split
    · exact backlog_of_counts (counts_enqueueCapacity _ _)
    · rfl
  · split
    · split
      · rw [hq, hw]
      · rw [backlog_sendTurn, hw]
    · rw [backlog_sendTurn, hq, hw]

theorem backlog_sendData (me : Inner) (sid : Nat) (data : Bytes) (offset : Nat)
    (endStream : Bool) : (me.sendData sid data offset endStream).1.backlog = me.backlog := by
  unfold sendData
  repeat' split
  all_goals simp [backlog_sendEmpty, backlog_sendChunk]

theorem backlog_sendTrailers (me : Inner) (sid : Nat) (trailers : Fields) :
    (me.sendTrailers sid trailers).1.backlog = me.backlog := by
  unfold sendTrailers
  dsimp only
  repeat' split
  all_goals simp

theorem backlog_sendResponseHead (me : Inner) (sid status : Nat) (fields : Fields)
    (endStream : Bool) (date : String) :
    (me.sendResponseHead sid status fields endStream date).1.backlog = me.backlog := by
  unfold sendResponseHead
  dsimp only
  repeat' split
  all_goals simp

theorem backlog_acloseBody (me : Inner) (sid : Nat) :
    (me.acloseBody sid).1.backlog = me.backlog := by
  unfold acloseBody
  dsimp only
  repeat' split
  all_goals simp

theorem backlog_releaseDataFrame (me : Inner) (sid n : Nat) :
    (me.releaseDataFrame sid n).backlog = me.backlog := by
  unfold releaseDataFrame
  dsimp only
  repeat' split
  all_goals first | rfl | exact (backlog_maybeRemoveSettled _ _).trans rfl

@[simp] theorem backlog_fail (me : Inner) (exc : Option Err) (message : String) :
    (me.fail exc message).1.backlog = me.backlog := backlog_abortAll _ _ _

/-- What a call makes of the backlog. -/
def backlogAfter (me : Inner) : Call → Backlog
  | .accepted sid => { me.backlog with
      pendingAccept := me.pendingAccept.erase sid
      remoteResetPending := me.remoteResetPending.erase sid }
  | _ => me.backlog

/-- **The only call that changes the backlog is `accepted`.** -/
theorem call_backlog (me : Inner) (c : Call) : (me.call c).1.backlog = me.backlogAfter c := by
  cases c with
  | tryClaimSlot =>
      simp only [call, tryClaimSlot]
      split <;> rfl
  | openStream request eos isHead =>
      simp only [call, openStream]
      repeat' split
      all_goals rfl
  | sendData sid data offset eos => exact backlog_sendData me sid data offset eos
  | sendTrailers sid trailers => exact backlog_sendTrailers me sid trailers
  | sendResponseHead sid status fields eos date =>
      exact backlog_sendResponseHead me sid status fields eos date
  | resetStream sid reason initiator => exact backlog_resetStream me sid reason initiator
  | acloseBody sid => exact backlog_acloseBody me sid
  | releaseCapacity sid n => exact backlog_releaseCapacityInner me sid n
  | releaseDataFrame sid n => exact backlog_releaseDataFrame me sid n
  | creditWritten => exact backlog_of_counts ((counts_creditAll _ _ _).trans rfl)
  | nextCapacityWake => exact backlog_of_counts (counts_nextCapacityWake me)
  | fail exc message => exact backlog_fail me exc message
  | writerStart =>
      simp only [call, writerStart]
      split <;> rfl
  | beginGracefulShutdown =>
      simp only [call, beginGracefulShutdown]
      split <;> rfl
  | _ => rfl

/-- **An error of a stream that is answered is counted**, and one past the cap is not. -/
theorem resetOnError_backlog (me : Inner) (sid : Nat) (reason : Reason) :
    (∃ v, (me.resetOnError sid reason).2 = .ok v ∧
      (∀ max ∈ me.maxLocalErrorResets, me.localErrorResets < max) ∧
      (me.resetOnError sid reason).1.backlog = { me.backlog with
        localErrorResets := me.localErrorResets + 1 }) ∨
    (∃ max ∈ me.maxLocalErrorResets, max ≤ me.localErrorResets) ∧
      me.resetOnError sid reason = (me, .error (protocolErrWithDebug .enhanceYourCalm
        "too many stream resets" "too_many_internal_resets")) := by
  unfold resetOnError
  dsimp only
  split
  · next h =>
    simp only [Option.any_eq_true, decide_eq_true_eq] at h
    exact .inr ⟨h, rfl⟩
  · next h =>
    have hlt : ∀ max ∈ me.maxLocalErrorResets, me.localErrorResets < max := by
      simpa [Option.any_eq_true] using h
    refine .inl ?_
    split
    · exact ⟨_, rfl, hlt, (backlog_resetStream _ _ _ _).trans rfl⟩
    · refine ⟨_, rfl, hlt, ?_⟩
      rw [backlog_emit]
      split
      · exact (backlog_enqueueResetExpiration _ _).trans rfl
      · rfl

end Inner

end Httpunk.H2
