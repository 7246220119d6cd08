import Httpunk.H2.Driver.Connection

/-!
# H2 — Driver — Terms

What the connection was configured with, and what only the closing of the connection changes.

* `Inner.terms`: those fields, as one value.
* `dispatch_terms`, `call_terms`: no frame changes them, and of the calls only `stop_pump` and
  the writers' own.
-/

namespace Httpunk.H2

/-- The configured limits of a connection, and how far its closing is. -/
structure Terms where
  role : Role
  resetStreamMax : Nat
  resetStreamDuration : Nat
  connRecvTarget : Nat
  maxSendBufSize : Nat
  burstFrames : Nat
  maxLocalErrorResets : Option Nat
  maxConcurrent : Nat
  maxPendingAcceptReset : Nat
  stop : Bool
  writers : Nat
  draining : Bool

namespace Inner

variable {me : Inner}

/-- The terms of the connection. -/
def terms (me : Inner) : Terms where
  role := me.role
  resetStreamMax := me.resetStreamMax
  resetStreamDuration := me.resetStreamDuration
  connRecvTarget := me.connRecvTarget
  maxSendBufSize := me.maxSendBufSize
  burstFrames := me.burstFrames
  maxLocalErrorResets := me.maxLocalErrorResets
  maxConcurrent := me.maxConcurrent
  maxPendingAcceptReset := me.maxPendingAcceptReset
  stop := me.stop
  writers := me.writers
  draining := me.draining

/-! ### The rotation -/

@[simp] theorem terms_enqueueSend (me : Inner) (sid : Nat) :
    (me.enqueueSend sid).terms = me.terms := by
  unfold enqueueSend
  split
  · rfl
  · split <;> rfl

@[simp] theorem terms_enqueueCapacity (me : Inner) (sid : Nat) :
    (me.enqueueCapacity sid).terms = me.terms := by
  unfold enqueueCapacity
  split
  · rfl
  · split <;> rfl

@[simp] theorem terms_leaveSendQueue (me : Inner) (sid : Nat) :
    (me.leaveSendQueue sid).1.terms = me.terms := by
  unfold leaveSendQueue
  dsimp only
  repeat' split
  all_goals rfl

@[simp] theorem terms_leaveCapacityQueue (me : Inner) (sid : Nat) :
    (me.leaveCapacityQueue sid).1.terms = me.terms := by
  unfold leaveCapacityQueue
  dsimp only
  repeat' split
  all_goals rfl

@[simp] theorem terms_yieldSendTurn (me : Inner) (sid : Nat) :
    (me.yieldSendTurn sid).1.terms = me.terms := by
  unfold yieldSendTurn
  dsimp only
  repeat' split
  all_goals rfl

@[simp] theorem terms_admitCapacityFront (me : Inner) :
    me.admitCapacityFront.1.terms = me.terms := by
  unfold admitCapacityFront
  dsimp only
  split
  · rfl
  · split
    · rfl
    · split
      · rfl
      · rw [terms_enqueueSend]
        split <;> rfl

@[simp] theorem terms_nextCapacityWake (me : Inner) : me.nextCapacityWake.1.terms = me.terms :=
  terms_admitCapacityFront me

/-! ### The store -/

@[simp] theorem terms_reclaimConn (me : Inner) (n : Nat) :
    (me.reclaimConn n).terms = me.terms := by
  unfold reclaimConn
  dsimp only
  repeat' split
  all_goals rfl

@[simp] theorem terms_maybeRemoveSettled (me : Inner) (sid : Nat) :
    (me.maybeRemoveSettled sid).terms = me.terms := by
  unfold maybeRemoveSettled
  split
  · rfl
  · split <;> rfl

@[simp] theorem terms_reclaimStreamAccounting (me : Inner) (sid : Nat) :
    (me.reclaimStreamAccounting sid).terms = me.terms := by
  unfold reclaimStreamAccounting
  split
  · rfl
  · rw [terms_maybeRemoveSettled, reclaimEntry, terms_reclaimConn]
    rfl

@[simp] theorem terms_maybeGoawayReply (me : Inner) :
    me.maybeGoawayReply.1.terms = me.terms := by
  unfold maybeGoawayReply
  split <;> rfl

@[simp] theorem terms_closeStream (me : Inner) (sid : Nat) :
    (me.closeStream sid).1.terms = me.terms := by
  unfold closeStream
  split
  · rfl
  · next e he =>
    split
    · rfl
    · have hq : (((me.finishEntry sid e).leaveSendQueue sid).1.leaveCapacityQueue sid).1.terms =
          me.terms := by
        rw [terms_leaveCapacityQueue, terms_leaveSendQueue]
        rfl
      refine (terms_maybeGoawayReply _).trans ?_
      split <;> exact hq

@[simp] theorem terms_dropClosedStored (me : Inner) (sid : Nat) :
    (me.dropClosedStored sid).1.terms = me.terms := by
  rw [dropClosedStored, terms_closeStream, terms_reclaimStreamAccounting]

@[simp] theorem terms_inResetStore (me : Inner) (sid : Nat) :
    (me.inResetStore sid).1.terms = me.terms := by
  unfold inResetStore
  split
  · rfl
  · split <;> rfl

@[simp] theorem terms_enqueueResetExpiration (me : Inner) (sid : Nat) :
    (me.enqueueResetExpiration sid).terms = me.terms := by
  unfold enqueueResetExpiration
  dsimp only
  split <;> rfl

@[simp] theorem terms_setStream (me : Inner) (sid : Nat) (e : StreamEntry) :
    (me.setStream sid e).terms = me.terms := rfl

@[simp] theorem terms_emit (me : Inner) (f : OutFrame) : (me.emit f).terms = me.terms := rfl

@[simp] theorem terms_resetStream (me : Inner) (sid : Nat) (reason : Reason)
    (initiator : Initiator) : (me.resetStream sid reason initiator).1.terms = me.terms := by
  unfold resetStream
  dsimp only
  repeat' split
  all_goals simp

@[simp] theorem terms_finishStream (me : Inner) (sid : Nat) :
    (me.finishStream sid).1.terms = me.terms := by
  unfold finishStream
  dsimp only
  repeat' split
  all_goals simp

@[simp] theorem terms_abortStream (me : Inner) (sid : Nat) (reason : Option Reason) :
    (me.abortStream sid reason).1.terms = me.terms := by
  unfold abortStream
  dsimp only
  split
  · rfl
  · exact terms_closeStream _ _

@[simp] theorem terms_abortAll (me : Inner) (reason : Option Reason) (ids : List Nat) :
    (me.abortAll reason ids).1.terms = me.terms := by
  induction ids generalizing me with
  | nil => rfl
  | cons sid ids ih => exact (ih _).trans (terms_abortStream me sid reason)

/-! ### Frames -/

@[simp] theorem terms_recvLookup (me : Inner) (sid : Nat) :
    (me.recvLookup sid).1.terms = me.terms := by
  unfold recvLookup
  dsimp only
  repeat' split
  all_goals simp

theorem terms_applyContentLength {sid : Nat} {f : Headers} {s : Inner} {r : Option Err}
    (h : me.applyContentLength sid f = (s, r)) : s.terms = me.terms := by
  rw [← show (me.applyContentLength sid f).1 = s from congrArg Prod.fst h]
  unfold applyContentLength
  dsimp only
  repeat' split
  all_goals rfl

theorem terms_rejectOversizeRequest {sid : Nat} {s : Inner} {r : Except Err Flags}
    (h : me.rejectOversizeRequest sid = (s, r)) : s.terms = me.terms := by
  rw [← show (me.rejectOversizeRequest sid).1 = s from congrArg Prod.fst h]
  unfold rejectOversizeRequest
  dsimp only
  repeat' split
  all_goals simp

theorem terms_recvRequest (me : Inner) (frame : Headers) (spare : Bool) (before : Nat)
    (flags : Flags) : (me.recvRequest frame spare before flags).1.terms = me.terms := by
  unfold recvRequest
  dsimp only
  split
  · rfl
  · split
    · rfl
    · split
      · rfl
      · split
        · rfl
        · split
          · rfl
          · split
            · next h =>
              have hc := terms_applyContentLength h
              exact hc
            · next h =>
              have hc := terms_applyContentLength h
              split
              · split
                · next h' => exact (terms_rejectOversizeRequest h').trans hc
                · next h' => exact (terms_rejectOversizeRequest h').trans hc
              · exact hc

theorem terms_recvHeadersUnknown (me : Inner) (frame : Headers) (spare : Bool) (before : Nat)
    (flags : Flags) : (me.recvHeadersUnknown frame spare before flags).1.terms = me.terms := by
  unfold recvHeadersUnknown
  dsimp only
  repeat' split
  all_goals simp [terms_recvRequest]

theorem terms_recvHead (me : Inner) (frame : Headers) (e : StreamEntry) (before : Nat) :
    (me.recvHead frame e before).1.terms = me.terms := by
  unfold recvHead
  dsimp only
  split
  · rfl
  · split
    · rfl
    · split
      · next h =>
        have hc := terms_applyContentLength h
        exact hc
      · next h =>
        have hc := terms_applyContentLength h
        repeat' split
        all_goals first | exact hc | exact (terms_closeStream _ _).trans hc

theorem terms_recvTrailers (me : Inner) (frame : Headers) (e : StreamEntry) (before : Nat) :
    (me.recvTrailers frame e before).1.terms = me.terms := by
  unfold recvTrailers
  dsimp only
  repeat' split
  all_goals simp

@[simp] theorem terms_recvHeaders (me : Inner) (frame : Headers) (spare : Bool) :
    (me.recvHeaders frame spare).1.terms = me.terms := by
  unfold recvHeaders
  dsimp only
  repeat' split
  all_goals simp [terms_recvHeadersUnknown, terms_recvHead, terms_recvTrailers]

@[simp] theorem terms_releaseCapacityInner (me : Inner) (sid n : Nat) :
    (me.releaseCapacityInner sid n).terms = me.terms := by
  unfold releaseCapacityInner
  dsimp only
  repeat' split
  all_goals simp

@[simp] theorem terms_recordDataFrame (me : Inner) (sid n : Nat) :
    (me.recordDataFrame sid n).1.terms = me.terms := by
  unfold recordDataFrame
  dsimp only
  repeat' split
  all_goals rfl

@[simp] theorem terms_consumeConnRecv (me : Inner) (n : Nat) :
    (me.consumeConnRecv n).1.terms = me.terms := rfl

@[simp] theorem terms_ignoreData (me : Inner) (n : Nat) :
    (me.ignoreData n).1.terms = me.terms := by
  unfold ignoreData
  split
  · next h => rw [← terms_consumeConnRecv me n, h]
  · next h => rw [terms_reclaimConn, ← terms_consumeConnRecv me n, h]

theorem terms_deliverData (me : Inner) (frame : Data) (e : StreamEntry) (before : Nat) :
    (me.deliverData frame e before).1.terms = me.terms := by
  unfold deliverData
  dsimp only
  generalize hm : (if frame.padding > 0 then
    (me.setStream frame.streamId { e with
      recvUnreleased := (e.recvUnreleased + frame.flowControlledLen) % 2 ^ 32
    }).releaseCapacityInner frame.streamId frame.padding
    else me.setStream frame.streamId { e with
      recvUnreleased := (e.recvUnreleased + frame.flowControlledLen) % 2 ^ 32 }) = m
  have ht : m.terms = me.terms := by
    rw [← hm]
    split <;> simp
  generalize hc : (if (!frame.endStream) = true then
    m.recordDataFrame frame.streamId frame.data.length else (m, none)) = c
  have hct : c.1.terms = me.terms := by
    rw [← hc]
    split
    · simp [ht]
    · exact ht
  obtain ⟨c, r⟩ := c
  repeat' split
  all_goals first | exact hct | simp_all

theorem terms_recvDataOn (me : Inner) (frame : Data) (e : StreamEntry) (before : Nat) :
    (me.recvDataOn frame e before).1.terms = me.terms := by
  unfold recvDataOn
  dsimp only
  split
  · next h => rw [← terms_consumeConnRecv me frame.flowControlledLen, h]
  · next m h =>
    have hm : m.terms = me.terms := by
      rw [← terms_consumeConnRecv me frame.flowControlledLen, h]
    repeat' split
    all_goals simp [hm, terms_deliverData]

@[simp] theorem terms_recvData (me : Inner) (frame : Data) :
    (me.recvData frame).1.terms = me.terms := by
  have hig : ∀ {m s : Inner} {n : Nat} {r : Option Err}, m.ignoreData n = (s, r) →
      s.terms = m.terms := fun {m s n r} h => by
    rw [← terms_ignoreData m n, h]
  unfold recvData
  dsimp only
  split
  · next h =>
    have hl := terms_recvLookup me frame.streamId
    rw [h] at hl
    split
    · next h' => exact (hig h').trans hl
    · next h' => exact (hig h').trans hl
  · next h =>
    have hl := terms_recvLookup me frame.streamId
    rw [h] at hl
    split
    · next h' => exact (hig h').trans hl
    · next h' => exact (hig h').trans hl
  · next h =>
    have hl := terms_recvLookup me frame.streamId
    rw [h] at hl
    repeat' split
    all_goals first | exact hl | exact (terms_recvDataOn _ _ _ _).trans hl

@[simp] theorem terms_recvWindowUpdate (me : Inner) (frame : WindowUpdate) :
    (me.recvWindowUpdate frame).1.terms = me.terms := by
  unfold recvWindowUpdate
  dsimp only
  split
  · split
    · rfl
    · exact terms_admitCapacityFront _
  · repeat' split
    all_goals rfl

theorem terms_recvResetOn (me : Inner) (frame : RstStream) (e : StreamEntry) :
    (me.recvResetOn frame e).1.terms = me.terms := by
  unfold recvResetOn
  dsimp only
  split <;> simp

@[simp] theorem terms_recvReset (me : Inner) (frame : RstStream) :
    (me.recvReset frame).1.terms = me.terms := by
  unfold recvReset
  dsimp only
  repeat' split
  all_goals first | rfl | exact terms_recvResetOn _ _ _

theorem terms_applyRemoteLimits (me : Inner) (v : SettingsValues) :
    (me.applyRemoteLimits v).1.terms = me.terms := by
  have hh : ∀ n, (me.applyHeaderTable n).terms = me.terms := fun n => by cases n <;> rfl
  have hf : ∀ (m : Inner) n, (m.applyMaxFrame n).1.terms = m.terms := fun m n => by
    unfold applyMaxFrame
    repeat' split
    all_goals rfl
  have hs : ∀ (m : Inner) n, (m.applyMaxStreams n).1.terms = m.terms := fun m n => by
    unfold applyMaxStreams
    dsimp only
    split
    · rfl
    · split <;> rfl
  have hb := (hf (me.applyHeaderTable v.headerTableSize) v.maxFrameSize).trans (hh _)
  unfold applyRemoteLimits
  split
  · next h =>
    rw [h] at hb
    exact hb
  · next h =>
    rw [h] at hb
    exact (hs _ _).trans hb

theorem terms_applyInitialWindow (me : Inner) (new : Nat) :
    (me.applyInitialWindow new).1.terms = me.terms := by
  unfold applyInitialWindow
  dsimp only
  repeat' split
  all_goals rfl

theorem terms_applyRemoteSettings (me : Inner) (v : SettingsValues) :
    (me.applyRemoteSettings v).1.terms = me.terms := by
  unfold applyRemoteSettings
  have hl := terms_applyRemoteLimits me v
  split
  · next h => rw [h] at hl; exact hl
  · next m flags h =>
    rw [h] at hl
    split
    · exact hl
    · next new _ =>
      have hw := terms_applyInitialWindow m new
      split
      · next h' => rw [h'] at hw; exact hw.trans hl
      · next h' => rw [h'] at hw; exact hw.trans hl

theorem terms_applyLocalSettings (me : Inner) : me.applyLocalSettings.1.terms = me.terms := by
  unfold applyLocalSettings
  dsimp only
  repeat' split
  all_goals rfl

@[simp] theorem terms_recvSettings (me : Inner) (frame : SettingsFrame) :
    (me.recvSettings frame).1.terms = me.terms := by
  unfold recvSettings
  dsimp only
  split
  · split
    · rfl
    · next s hs =>
      have hl := terms_applyLocalSettings { me with settings := s }
      split
      · next h => rw [h] at hl; exact hl
      · next h => rw [h] at hl; exact hl
  · have hr := terms_applyRemoteSettings
      { me.emit .settingsAck with settings := (me.settings.recvRemote).1 } frame.values
    split
    · next h => rw [h] at hr; exact hr
    · next h => rw [h] at hr; exact hr

@[simp] theorem terms_recvPing (me : Inner) (frame : Ping) :
    (me.recvPing frame).1.terms = me.terms := by
  unfold recvPing
  dsimp only
  repeat' split
  all_goals rfl

@[simp] theorem terms_recvGoAway (me : Inner) (frame : GoAway) :
    (me.recvGoAway frame).1.terms = me.terms := by
  unfold recvGoAway
  dsimp only
  split
  · rfl
  · split
    · rfl
    · exact terms_abortAll _ _ _

/-- **No frame changes the terms.** -/
theorem dispatch_terms (me : Inner) (f : Frame) : (me.dispatch f).1.terms = me.terms := by
  cases f <;> simp [dispatch]

/-! ### Calls -/

theorem terms_openStream (me : Inner) (request : Except Err Block) (endStream isHead : Bool) :
    (me.openStream request endStream isHead).1.terms = me.terms := by
  unfold openStream
  repeat' split
  all_goals rfl

theorem terms_sendEmpty (me : Inner) (sid : Nat) (e : StreamEntry) (endStream : Bool) :
    (me.sendEmpty sid e endStream).1.terms = me.terms := by
  unfold sendEmpty
  dsimp only
  repeat' split
  all_goals simp

theorem terms_queueData (me : Inner) (sid : Nat) (chunk : Bytes) (last done : Bool)
    (before : Nat) (flags : Flags) :
    (me.queueData sid chunk last done before flags).1.terms = me.terms := by
  unfold queueData
  dsimp only
  repeat' split
  all_goals first | rfl | exact (terms_finishStream _ _).trans rfl

theorem terms_afterFrame (me : Inner) (sid : Nat) (e : StreamEntry) (n want : Nat) :
    (me.afterFrame sid e n want).1.terms = me.terms := by
  unfold afterFrame
  repeat' split
  all_goals simp

theorem terms_frameData (me : Inner) (sid : Nat) (e : StreamEntry) (data : Bytes) (offset : Nat)
    (endStream : Bool) (budget before : Nat) :
    (me.frameData sid e data offset endStream budget before).1.terms = me.terms := by
  unfold frameData
  dsimp only
  repeat' split
  · rfl
  · rfl
  · rw [terms_queueData, terms_afterFrame]
    rfl

theorem terms_sendTurn (me : Inner) (sid : Nat) (data : Bytes) (offset : Nat) (endStream : Bool)
    (budget before : Nat) :
    (me.sendTurn sid data offset endStream budget before).1.terms = me.terms := by
  unfold sendTurn
  repeat' split
  all_goals simp [terms_frameData]

theorem terms_leaveWaiting (me : Inner) (sid : Nat) (e : StreamEntry) :
    (me.leaveWaiting sid e).terms = me.terms := by
  unfold leaveWaiting
  split <;> rfl

theorem terms_sendChunk (me : Inner) (sid : Nat) (e : StreamEntry) (data : Bytes) (offset : Nat)
    (endStream : Bool) : (me.sendChunk sid e data offset endStream).1.terms = me.terms := by
  have hw : (me.leaveWaiting sid e).sendFront.1.terms = me.terms := terms_leaveWaiting me sid e
  unfold sendChunk
  dsimp only
  split
  · rw [terms_leaveSendQueue]
    split <;> simp
  · split
    · split
      · rw [terms_enqueueSend, hw]
      · rw [terms_sendTurn, hw]
    · rw [terms_sendTurn, terms_enqueueSend, hw]

theorem terms_sendData (me : Inner) (sid : Nat) (data : Bytes) (offset : Nat)
    (endStream : Bool) : (me.sendData sid data offset endStream).1.terms = me.terms := by
  unfold sendData
  repeat' split
  all_goals simp [terms_sendEmpty, terms_sendChunk]

theorem terms_sendTrailers (me : Inner) (sid : Nat) (trailers : Fields) :
    (me.sendTrailers sid trailers).1.terms = me.terms := by
  unfold sendTrailers
  dsimp only
  repeat' split
  all_goals simp

theorem terms_sendResponseHead (me : Inner) (sid status : Nat) (fields : Fields)
    (endStream : Bool) (date : String) :
    (me.sendResponseHead sid status fields endStream date).1.terms = me.terms := by
  unfold sendResponseHead
  dsimp only
  repeat' split
  all_goals simp

@[simp] theorem terms_resetOnError (me : Inner) (sid : Nat) (reason : Reason) :
    (me.resetOnError sid reason).1.terms = me.terms := by
  unfold resetOnError
  dsimp only
  split
  · rfl
  · split
    · exact (terms_resetStream _ _ _ _).trans rfl
    · rw [terms_emit]
      split
      · exact (terms_enqueueResetExpiration _ _).trans rfl
      · rfl

theorem terms_acloseBody (me : Inner) (sid : Nat) : (me.acloseBody sid).1.terms = me.terms := by
  unfold acloseBody
  dsimp only
  repeat' split
  all_goals simp

theorem terms_releaseDataFrame (me : Inner) (sid n : Nat) :
    (me.releaseDataFrame sid n).terms = me.terms := by
  unfold releaseDataFrame
  dsimp only
  repeat' split
  all_goals first | rfl | exact (terms_maybeRemoveSettled _ _).trans rfl

theorem terms_creditAll (me : Inner) (woken : List Nat) (batch : List (Nat × Nat)) :
    (me.creditAll woken batch).1.terms = me.terms := by
  induction batch generalizing me woken with
  | nil => rfl
  | cons p batch ih =>
      unfold creditAll
      split
      · exact ih me woken
      · exact (ih _ _).trans rfl

@[simp] theorem terms_fail (me : Inner) (exc : Option Err) (message : String) :
    (me.fail exc message).1.terms = me.terms := terms_abortAll _ _ _

/-- What a call makes of the terms. -/
def termsAfter (me : Inner) : Call → Terms
  | .stopPump => { me.terms with stop := true }
  | .writerStart => me.writerStart.1.terms
  | .writerEnd => { me.terms with writers := me.writers - 1 }
  | .releaseWriters => { me.terms with draining := true }
  | _ => me.terms

/-- **The calls that change the terms.** -/
theorem call_terms (me : Inner) (c : Call) : (me.call c).1.terms = me.termsAfter c := by
  cases c with
  | tryClaimSlot =>
      simp only [call, tryClaimSlot]
      split <;> rfl
  | openStream request eos isHead => exact terms_openStream me request eos isHead
  | sendData sid data offset eos => exact terms_sendData me sid data offset eos
  | sendTrailers sid trailers => exact terms_sendTrailers me sid trailers
  | sendResponseHead sid status fields eos date =>
      exact terms_sendResponseHead me sid status fields eos date
  | resetStream sid reason initiator => exact terms_resetStream me sid reason initiator
  | acloseBody sid => exact terms_acloseBody me sid
  | releaseCapacity sid n => exact terms_releaseCapacityInner me sid n
  | releaseDataFrame sid n => exact terms_releaseDataFrame me sid n
  | creditWritten => exact (terms_creditAll _ _ _).trans rfl
  | nextCapacityWake => exact terms_nextCapacityWake me
  | fail exc message => exact terms_fail me exc message
  | beginGracefulShutdown =>
      simp only [call, beginGracefulShutdown]
      split <;> rfl
  | _ => rfl

end Inner

/-! ### The driver -/

namespace Sys

variable {σ σ' : Sys} {a : Action}

/-- **The calls that change the terms are the only steps that do.** -/
theorem step_terms (hs : σ.step a = some σ') :
    σ'.inner.terms = match a with
      | .call c => σ.inner.termsAfter c
      | _ => σ.inner.terms := by
  unfold step at hs
  cases a with
  | recv f =>
      dsimp only at hs
      split at hs
      · cases hs
        simp only [recv]
        split <;> exact Inner.dispatch_terms _ _
      · cases hs
  | raised e =>
      dsimp only at hs
      split at hs <;> cases hs
      rfl
  | pump =>
      dsimp only at hs
      unfold pumpStep at hs
      split at hs
      · dsimp only at hs
        split at hs <;> cases hs <;> exact Inner.terms_resetOnError _ _ _
      · cases hs
        rfl
      · cases hs
        exact Inner.terms_fail _ _ _
      · cases hs
      · cases hs
  | reply =>
      dsimp only at hs
      split at hs <;> cases hs
      exact Inner.terms_maybeGoawayReply _
  | call c =>
      dsimp only at hs
      split at hs <;> cases hs
      exact Inner.call_terms _ c
  | flush =>
      cases hs
      rfl
  | tick d =>
      cases hs
      rfl
  | rehash m =>
      dsimp only at hs
      split at hs <;> cases hs
      rfl

end Sys

end Httpunk.H2
