import Httpunk.H2.Life.Effect

/-!
# H2 — Life — Send

The sending calls, the readers' releases and the write pump as touches.

* `sendData_buffered`: a send that frames `n` bytes buffers them on its stream and credits them
  to it, once each, within the limit of the buffer.
* `fail_touches`: a failure ends every stream.
-/

namespace Httpunk.H2.Inner

open Runs (Reach)

variable {extra : Mark → Prop} {me : Inner} {sid : Nat} {e : StreamEntry}

/-! ### Slots and opening -/

/-- `open_stream` turns the claimed slot into a stream, or gives it back. -/
theorem openStream_touch (h : me.Wf) (request : Except Err Block) (endStream isHead : Bool)
    (hr : me.role = .client) :
    Touch me .unclaim (me.openStream request endStream isHead).1 ∨
      Touch me (.requested me.nextId) (me.openStream request endStream isHead).1 := by
  have hn : me.streams.lookup me.nextId = none := by
    rcases hl : me.streams.lookup me.nextId with _ | e
    · rfl
    · have hu := h.used hl
      simp only [Used, hr] at hu
      omega
  unfold openStream
  split
  · exact .inl .unclaim
  · split
    · exact .inl .unclaim
    · split
      · exact .inl .unclaim
      · split
        · next h => cases h
        · next st hst =>
          have hc : st.recvDone = false := by
            rw [State.sendOpen] at hst
            cases hst
            cases endStream <;> rfl
          exact .inr (.requested hr hn hc)

/-! ### DATA -/

/-- The handle a send hands over. -/
def sendHandle : Except Err SendVerdict → Option Nat
  | .ok v => v.handle
  | .error _ => none

/-- The state of a stream after its send half moved. -/
theorem turned {st : State} (he : me.streams.lookup sid = some e)
    (hl : State.Later e.state st) (hr : st.recvSide = e.state.recvSide) :
    Touches (· = .turn sid) me (me.setStream sid { e with state := st }) :=
  Touches.one (.turn he hl hr) rfl

/-- How a send ends: it leaves the stream as it counts, or it closes the send half and finishes
the stream. -/
def SendEnds (sid : Nat) (me : Inner) (r : Inner × Except Err SendVerdict) : Prop :=
  Still me r.1 ∧ sendHandle r.2 = none ∨
    ∃ m n flags, Touches (· = .turn sid) me m ∧
      r = ((m.finishStream sid).1, .ok (.completed n flags (m.finishStream sid).2))

theorem SendEnds.before {s : Inner} {r : Inner × Except Err SendVerdict} (hs : Still me s)
    (h : SendEnds sid s r) : SendEnds sid me r := by
  rcases h with ⟨h, hh⟩ | ⟨m, n, flags, hm, hr⟩
  · exact .inl ⟨hs.trans h, hh⟩
  · exact .inr ⟨m, n, flags, (Touches.still hs).trans hm, hr⟩

theorem SendEnds.touches {r : Inner × Except Err SendVerdict} (h : SendEnds sid me r) :
    Touches (endMarks sid (sendHandle r.2)) me r.1 := by
  rcases h with ⟨h, -⟩ | ⟨m, n, flags, hm, rfl⟩
  · exact Touches.still h
  · exact (hm.mono fun _ hk => .inl hk).trans (finishStream_touches m sid)

/-- What a send leaves: its bytes buffered on its stream and credited to it, or nothing
counted. -/
def Buffered (sid : Nat) (me : Inner) (r : Inner × Except Err SendVerdict) : Prop :=
  SendEnds sid me r ∨
    ∃ n s₁ s₂ s₃ s₄, Still me s₁ ∧ Touch s₁ (.buffer sid n) s₂ ∧ Still s₂ s₃ ∧
      Touch s₃ (.credit sid n) s₄ ∧ SendEnds sid s₄ r

theorem Buffered.still {me' : Inner} {v : Except Err SendVerdict} (h : Still me me')
    (hv : sendHandle v = none) : Buffered sid me (me', v) := .inl (.inl ⟨h, hv⟩)

theorem Buffered.before {s : Inner} {r : Inner × Except Err SendVerdict} (hs : Still me s)
    (h : Buffered sid s r) : Buffered sid me r := by
  rcases h with h | ⟨n, s₁, s₂, s₃, s₄, h₁, hb, h₂, hc, h₃⟩
  · exact .inl (h.before hs)
  · exact .inr ⟨n, s₁, s₂, s₃, s₄, hs.trans h₁, hb, h₂, hc, h₃⟩

/-- The end of a message: the send half closes, and the stream may end with it. -/
theorem sendEnd_ends {st : State} (n : Nat) (flags : Flags)
    (he : me.streams.lookup sid = some e) (hst : e.state.sendClose = some st) :
    SendEnds sid me (((me.setStream sid { e with state := st }).finishStream sid).1,
      .ok (.completed n flags ((me.setStream sid { e with state := st }).finishStream sid).2)) :=
  .inr ⟨_, n, flags, turned he (State.sendClose_later hst) (State.sendClose_recvSide hst), rfl⟩

theorem sendEmpty_ends (endStream : Bool) (he : me.streams.lookup sid = some e) :
    SendEnds sid me (me.sendEmpty sid e endStream) := by
  have hem : Still me (me.emit (.data sid [] endStream)) := .emit _ _
  unfold sendEmpty
  dsimp only
  split
  · split
    · exact .inl ⟨hem, rfl⟩
    · next st hst =>
      have hl : (me.emit (.data sid [] endStream)).streams.lookup sid = some e := he
      exact (sendEnd_ends _ _ hl hst).before hem
  · exact .inl ⟨hem, rfl⟩

/-- A frame of `n` bytes is credited to its stream. -/
theorem queueData_ends (chunk : Bytes) {last done : Bool} (before : Nat) (flags : Flags)
    (hn : chunk.length ≤ me.sendMaxFrameSize) :
    ∃ s₃ s₄, Still me s₃ ∧ Touch s₃ (.credit sid chunk.length) s₄ ∧
      SendEnds sid s₄ (me.queueData sid chunk last done before flags) := by
  unfold queueData
  dsimp only
  rw [if_neg (by omega)]
  refine ⟨_, _, .emit me (.data sid chunk last), .credit, ?_⟩
  split
  · split
    · exact .inl ⟨.refl _, rfl⟩
    · next e' he' =>
      split
      · exact .inl ⟨.refl _, rfl⟩
      · next st hst => exact sendEnd_ends _ _ he' hst
  · exact .inl ⟨.refl _, rfl⟩

theorem afterFrame_still (me : Inner) (sid : Nat) (e : StreamEntry) (n want : Nat) :
    Still me (me.afterFrame sid e n want).1 := by
  unfold afterFrame
  split
  · exact leaveSendQueue_still _ _
  · split
    · exact (enqueueCapacity_still _ _).trans (leaveSendQueue_still _ _)
    · split
      · exact leaveSendQueue_still _ _
      · exact .refl _

theorem frameData_buffered (data : Bytes) (offset budget before : Nat) (endStream : Bool)
    (h : me.Wf) (he : me.streams.lookup sid = some e) (hb : 0 < budget)
    (hc : budget ≤ me.connSend.size) (hr : budget ≤ me.streamRoom e) :
    Buffered sid me (me.frameData sid e data offset endStream budget before) := by
  unfold frameData
  dsimp only
  set want := data.length - offset with hwant
  set n := min (min budget want) me.peer.maxFrameSize with hn
  have hnb : n ≤ budget := (Nat.min_le_left _ _).trans (Nat.min_le_left _ _)
  have hnw : n ≤ want := (Nat.min_le_left _ _).trans (Nat.min_le_right _ _)
  have hnm : n ≤ me.peer.maxFrameSize := Nat.min_le_right _ _
  have hlen : ((data.drop offset).take n).length = n := by
    rw [List.length_take, List.length_drop]
    omega
  have hsize : budget ≤ e.sendFlow.size := hr.trans (Nat.min_le_left _ _)
  have hroom : e.sendBuffered + n ≤ me.maxSendBufSize := by
    have hle : budget ≤ me.maxSendBufSize - e.sendBuffered := hr.trans (Nat.min_le_right _ _)
    omega
  -- both charges go through
  obtain ⟨conn, hconn⟩ := fcSendData_of_le (n := n) (by rw [h.connSend]) (hnb.trans hc)
  obtain ⟨fc, hfc⟩ := fcSendData_of_le (n := n) (by rw [h.sendFlow he]) (hnb.trans hsize)
  simp only [hconn, hfc]
  set e₁ : StreamEntry := { e with
    sendFlow := fc, sendBuffered := e.sendBuffered + n, turnFrames := e.turnFrames + 1 } with he₁
  have hconnS : Still me { me with connSend := conn } := { Still.refl me with }
  have hflow : Still me ({ me with connSend := conn }.setStream sid
      { e with sendFlow := fc, turnFrames := e.turnFrames + 1 }) :=
    hconnS.trans (.setStream (s := { me with connSend := conn }) he { SameLife.refl e with })
  have hbuf := Touch.buffer (s := { me with connSend := conn }.setStream sid
    { e with sendFlow := fc, turnFrames := e.turnFrames + 1 }) (n := n)
    (AList.lookup_insert _) hroom
  rw [setStream_setStream] at hbuf
  have ha := afterFrame_alike ({ me with connSend := conn }.setStream sid e₁) sid e₁ n want
  have hafter := afterFrame_still ({ me with connSend := conn }.setStream sid e₁) sid e₁ n want
  have hfit : ((data.drop offset).take n).length ≤
      (({ me with connSend := conn }.setStream sid e₁).afterFrame sid e₁ n want).1.sendMaxFrameSize := by
    rw [ha.sendMaxFrameSize, hlen]
    exact hnm.trans_eq h.frame.symm
  obtain ⟨s₃, s₄, h₃, hcr, h₄⟩ : ∃ s₃ s₄,
      Still (({ me with connSend := conn }.setStream sid e₁).afterFrame sid e₁ n want).1 s₃ ∧
      Touch s₃ (.credit sid ((data.drop offset).take n).length) s₄ ∧
      SendEnds sid s₄ ((({ me with
        connSend := conn }.setStream sid e₁).afterFrame sid e₁ n want).1.queueData sid
          ((data.drop offset).take n) (endStream && n == want) (n == want) before
          (({ me with connSend := conn }.setStream sid e₁).afterFrame sid e₁ n want).2) :=
    queueData_ends _ before _ hfit
  rw [hlen] at hcr
  exact .inr ⟨n, _, _, s₃, s₄, hflow, hbuf, hafter.trans h₃, hcr, h₄⟩

theorem sendTurn_buffered (data : Bytes) (offset budget before : Nat) (endStream : Bool)
    (h : me.Wf) (he : me.streams.lookup sid = some e) (hb : 0 < budget)
    (hc : budget ≤ me.connSend.size) (hr : budget ≤ me.streamRoom e) :
    Buffered sid me (me.sendTurn sid data offset endStream budget before) := by
  unfold sendTurn
  rw [he]
  dsimp only
  split
  · exact .still (yieldSendTurn_still me sid) rfl
  · split
    · exact .still (.refl _) rfl
    · exact frameData_buffered data offset budget before endStream h he hb hc hr

theorem leaveWaiting_still (he : me.streams.lookup sid = some e) :
    Still me (me.leaveWaiting sid e) := by
  unfold leaveWaiting
  split
  · have h : Still me (me.setStream sid { e with isPendingCapacity := false }) :=
      .setStream he { SameLife.refl e with }
    exact h.trans (.rotation _ _ _)
  · exact .refl _

theorem sendChunk_buffered (data : Bytes) (offset : Nat) (endStream : Bool) (h : me.Wf)
    (he : me.streams.lookup sid = some e) :
    Buffered sid me (me.sendChunk sid e data offset endStream) := by
  unfold sendChunk
  dsimp only
  split
  · refine .still ?_ rfl
    split
    · exact (enqueueCapacity_still _ _).trans (leaveSendQueue_still _ _)
    · exact leaveSendQueue_still _ _
  · next hb =>
    have hfront := (leaveWaiting_alike he).trans (me.leaveWaiting sid e).sendFront_alike
    have hstill := (leaveWaiting_still he).trans (me.leaveWaiting sid e).sendFront_still
    -- the turn is taken in a state that differs in the rotation only
    have turn : ∀ m, Alike me m → Still me m → Buffered sid me (m.sendTurn sid data offset
        endStream (min (me.streamRoom e) me.connSend.size) me.pending.length) := by
      intro m ha hm
      obtain ⟨e', he', hs⟩ := ha.stored he
      obtain ⟨e'', he'', hl⟩ := hm.stored he
      rw [he'] at he''
      cases he''
      have hroom : m.streamRoom e' = me.streamRoom e := by
        rw [streamRoom, streamRoom, hs.sendFlow, hl.sendBuffered, hm.maxSendBufSize]
      refine .before hm (sendTurn_buffered data offset _ _ endStream (h.alike ha) he'
        (Nat.pos_of_ne_zero hb) ?_ ?_)
      · rw [ha.connSend]
        exact Nat.min_le_right _ _
      · rw [hroom]
        exact Nat.min_le_left _ _
    split
    · split
      · exact .still (hstill.trans (enqueueSend_still _ _)) rfl
      · exact turn _ hfront hstill
    · exact turn _ (hfront.trans (enqueueSend_alike _ _)) (hstill.trans (enqueueSend_still _ _))

/-- **A send buffers what it frames, and credits it.** -/
theorem sendData_buffered (h : me.Wf) (sid : Nat) (data : Bytes) (offset : Nat)
    (endStream : Bool) : Buffered sid me (me.sendData sid data offset endStream) := by
  unfold sendData
  split
  · exact .still (.refl _) rfl
  · next e he =>
    split
    · exact .still (.refl _) rfl
    · split
      · exact .inl (sendEmpty_ends endStream he)
      · exact sendChunk_buffered data offset endStream h he

/-! ### Trailers and the response head -/

theorem sendTrailers_ends (me : Inner) (sid : Nat) (trailers : Fields) :
    SendEnds sid me (me.sendTrailers sid trailers) := by
  unfold sendTrailers
  dsimp only
  split
  · exact .inl ⟨.refl _, rfl⟩
  · next e he =>
    split
    · exact .inl ⟨.refl _, rfl⟩
    · split
      · exact .inl ⟨.refl _, rfl⟩
      · next st hst =>
        exact .inr ⟨_, _, _, (turned he (State.sendClose_later hst)
          (State.sendClose_recvSide hst)).trans (Touches.still (.emit _ _)), rfl⟩

/-- A response head that ends the message is its end; another opens the send half. -/
theorem sendResponseHead_ends (me : Inner) (sid status : Nat) (fields : Fields)
    (endStream : Bool) (date : String) :
    SendEnds sid me (me.sendResponseHead sid status fields endStream date) ∨
      (∃ e st s, me.streams.lookup sid = some e ∧ e.state.sendOpen false = .ok st ∧
        Still (me.setStream sid { e with state := st }) s ∧
        s = (me.sendResponseHead sid status fields endStream date).1) ∧
        sendHandle (me.sendResponseHead sid status fields endStream date).2 = none := by
  unfold sendResponseHead
  dsimp only
  split
  · exact .inl (.inl ⟨.refl _, rfl⟩)
  · split
    · exact .inl (.inl ⟨.refl _, rfl⟩)
    · next e he =>
      split
      · exact .inl (.inl ⟨.refl _, rfl⟩)
      · split
        · exact .inl (.inl ⟨.refl _, rfl⟩)
        · next block _ =>
          split
          · exact .inl (.inl ⟨.refl _, rfl⟩)
          · next st hst =>
            cases endStream with
            | true =>
                exact .inl (.inr ⟨_, _, _, (turned he (State.sendOpen_later hst)
                  (State.sendOpen_recvSide hst)).trans (Touches.still (.emit _ _)), rfl⟩)
            | false => exact .inr ⟨⟨e, st, _, he, hst, .emit _ _, rfl⟩, rfl⟩

theorem sendResponseHead_touches (me : Inner) (sid status : Nat) (fields : Fields)
    (endStream : Bool) (date : String) :
    Touches (endMarks sid
        (sendHandle (me.sendResponseHead sid status fields endStream date).2)) me
      (me.sendResponseHead sid status fields endStream date).1 := by
  rcases sendResponseHead_ends me sid status fields endStream date with
    h | ⟨⟨e, st, s, he, hst, hs, rfl⟩, -⟩
  · exact h.touches
  · exact (Touches.one (.turn he (State.sendOpen_later hst) (State.sendOpen_recvSide hst))
      (.inl rfl)).trans (Touches.still hs)

/-! ### The local end of a stream -/

theorem resetOnError_touches (me : Inner) (sid : Nat) (reason : Reason) :
    Touches (· = .ends sid) me (me.resetOnError sid reason).1 := by
  unfold resetOnError
  dsimp only
  split
  · exact .refl
  · have hc : Still me { me with localErrorResets := me.localErrorResets + 1 } :=
      { Still.refl me with }
    split
    · exact (Touches.still hc).trans (resetStream_touches _ sid reason .library)
    · refine (Touches.still hc).trans (Touches.still (Still.trans ?_ (.emit _ _)))
      split
      · exact enqueueResetExpiration_still _ sid
      · exact .refl _

theorem acloseBody_touches (me : Inner) (sid : Nat) :
    Touches (· = .ends sid) me (me.acloseBody sid).1 := by
  unfold acloseBody
  dsimp only
  split
  · exact .refl
  · split
    · exact (reclaimStreamAccounting_touches me sid).trans (closeStream_touches _ sid)
    · exact resetStream_touches me sid .cancel .user

/-! ### The readers, the write pump and the end of the connection -/

theorem releaseDataFrame_touches (me : Inner) (sid n : Nat) :
    Touches extra me (me.releaseDataFrame sid n) := by
  unfold releaseDataFrame
  split
  · exact .refl
  · next e he =>
    split
    · exact .refl
    · dsimp only
      generalize min (dataFrameOverheadThreshold - n) e.dataBudgetCharged = charge
      have hk := Touch.settle (n := e.recvUnreleased) (c := e.dataBudgetCharged - charge)
        (r := e.recvReclaimed) he
      rw [keepStream, maybeRemoveSettled_of (AList.lookup_insert _)] at hk
      refine (Touches.common hk rfl).trans (Touches.still ?_)
      rw [maybeRemoveSettled_of (e := { e with
        dataBudgetCharged := e.dataBudgetCharged - charge }) (AList.lookup_insert _)]
      split
      · exact { Still.refl _ with }
      · exact { Still.refl _ with }

theorem nextCapacityWake_still (me : Inner) : Still me me.nextCapacityWake.1 :=
  (admitCapacityFront_still me).trans (sendFront_still _)

theorem fail_touches (me : Inner) (exc : Option Err) (message : String) :
    Touches (endsOf me.streams.keys) me (me.fail exc message).1 := by
  unfold fail failAll
  dsimp only
  refine Reach.trans (Touches.still ?_) (abortAll_touches _ none me.streams.keys)
  exact { Still.refl me with }

theorem beginGracefulShutdown_still (me : Inner) : Still me me.beginGracefulShutdown.1 := by
  unfold beginGracefulShutdown
  split
  · exact .refl _
  · exact { Still.refl me with }

end Httpunk.H2.Inner
