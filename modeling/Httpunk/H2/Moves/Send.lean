import Httpunk.H2.Moves.Wf

/-!
# H2 — Moves — Send

The sending calls as runs of moves.  Under the invariant no send fails half-way: what
`send_data` frames is within both windows and the peer's frame size, so its charges go through
and its frame is encoded.

* `sendData_framed`: a call that frames something queues one DATA frame, with the bytes its
  verdict counts; any other queues nothing on the stream.
-/

namespace Httpunk.H2.Inner

open Runs (Reach)

variable {extra : Kind → Prop} {me : Inner} {sid : Nat} {e : StreamEntry}

/-! ### Slots and opening -/

/-- An opened stream takes the next id, once. -/
theorem openStream_moves (me : Inner) (request : Except Err Block) (endStream isHead : Bool)
    (hr : me.role = .client) :
    Once (· = .request me.nextId endStream) me
      (me.openStream request endStream isHead).1 := by
  have hslot : Alike me me.releaseSlotCount := { Alike.refl me with }
  unfold openStream
  split
  · exact .none (Moves.admin hslot)
  · next hd =>
    split
    · exact .none (Moves.admin hslot)
    · next hn =>
      split
      · exact .none (Moves.admin hslot)
      · split
        · next h => cases h
        · next st hst =>
          exact Once.one (.request hr (by simpa using hd) (Nat.le_of_not_lt hn) hst) rfl .refl

/-! ### DATA -/

/-- What a `send_data` that framed something did: one DATA frame with the next bytes, its end
marked when the body ends with it. -/
structure Framed (me me' : Inner) (sid : Nat) (data : Bytes) (offset : Nat) (endStream : Bool)
    (v : SendVerdict) : Prop where
  moved : ∃ s₁ s₂, Moves Kind.nothing me s₁ ∧
    Move s₁ (.data sid ((data.drop offset).take v.sent) (endStream && v.done)) s₂ ∧
    Moves Kind.nothing s₂ me'
  running : v.stopped = none
  bounded : v.sent ≤ data.length - offset
  finished : v.done = decide (v.sent = data.length - offset)
  progress : v.done = false → 0 < v.sent

/-- A frame that both windows cover is encoded. -/
theorem queueData_moves (chunk : Bytes) {last done : Bool} (before : Nat) (flags : Flags)
    (he : me.streams.lookup sid = some e) (hs : e.state.isSendStreaming = true)
    (hn : chunk.length ≤ me.sendMaxFrameSize) (hd : last = true → done = true) :
    ∃ v st m me', me.queueData sid chunk last done before flags = (me', .ok v) ∧
      v.sent = chunk.length ∧ v.done = done ∧ v.stopped = none ∧
      (if last then e.state.sendClose = some st else e.state = st) ∧
      Alike ((me.setStream sid { e with state := st }).emit (.data sid chunk last)) m ∧
      Moves Kind.nothing m me' := by
  unfold queueData
  dsimp only
  rw [if_neg (by omega)]
  rcases last
  · refine ⟨_, e.state, _, _, rfl, rfl, rfl, rfl, rfl, ?_, .refl⟩
    have hc := (Alike.setStream_self he).emit (.data sid chunk false)
    exact hc.trans { Alike.refl (me.emit (.data sid chunk false)) with }
  · obtain ⟨st, hst⟩ := State.sendClose_of_isSendStreaming hs
    rw [if_pos rfl, show (me.emit (.data sid chunk true)).streams.lookup sid = some e from he]
    simp only [hst]
    refine ⟨_, st, _, _, rfl, rfl, (hd rfl).symm, rfl, by simp, ?_,
      finishStream_moves _ sid⟩
    exact { Alike.refl ((me.setStream sid { e with state := st }).emit (.data sid chunk true)) with }

theorem afterFrame_alike (me : Inner) (sid : Nat) (e : StreamEntry) (n want : Nat) :
    Alike me (me.afterFrame sid e n want).1 := by
  unfold afterFrame
  split
  · exact leaveSendQueue_alike _ _
  · split
    · exact (enqueueCapacity_alike _ _).trans (leaveSendQueue_alike _ _)
    · split
      · exact leaveSendQueue_alike _ _
      · exact .refl _

theorem frameData_framed (data : Bytes) (offset budget before : Nat) (endStream : Bool)
    (h : me.Wf) (he : me.streams.lookup sid = some e) (hs : e.state.isSendStreaming = true)
    (hb : 0 < budget) (hc : budget ≤ me.connSend.size) (hr : budget ≤ e.sendFlow.size) :
    ∃ v me', me.frameData sid e data offset endStream budget before = (me', .ok v) ∧
      Framed me me' sid data offset endStream v := by
  unfold frameData
  dsimp only
  set want := data.length - offset with hwant
  set n := min (min budget want) me.peer.maxFrameSize with hn
  have hnb : n ≤ budget := (Nat.min_le_left _ _).trans (Nat.min_le_left _ _)
  have hnw : n ≤ want := (Nat.min_le_left _ _).trans (Nat.min_le_right _ _)
  have hnm : n ≤ me.peer.maxFrameSize := Nat.min_le_right _ _
  have hlen : ((data.drop offset).take n).length = n := by
    rw [List.length_take, List.length_drop]
    omega
  -- both charges go through
  obtain ⟨conn, hconn⟩ := fcSendData_of_le (n := n)
    (by rw [h.connSend]) (hnb.trans hc)
  obtain ⟨fc, hfc⟩ := fcSendData_of_le (n := n)
    (by rw [h.sendFlow he]) (hnb.trans hr)
  simp only [hconn, hfc]
  set e₁ : StreamEntry := { e with
    sendFlow := fc, sendBuffered := e.sendBuffered + n, turnFrames := e.turnFrames + 1 } with he₁
  have ha := afterFrame_alike ({ me with connSend := conn }.setStream sid e₁) sid e₁ n want
  obtain ⟨e₂, hl₂, hs₂⟩ := ha.stored (k := sid) (e := e₁) (AList.lookup_insert _)
  have hlast : (endStream && n == want) = true → (n == want) = true := fun hl => by
    simp only [Bool.and_eq_true] at hl
    exact hl.2
  obtain ⟨v, st, m, me', hq, hv, hd, hrun, hst, hm, hmoves⟩ := queueData_moves
    ((data.drop offset).take n) before
    (({ me with connSend := conn }.setStream sid e₁).afterFrame sid e₁ n want).2 hl₂
    (by rw [hs₂.state]; exact hs)
    (by rw [ha.sendMaxFrameSize, hlen]; exact hnm.trans_eq h.frame.symm) hlast
  rw [hs₂.state] at hst
  refine ⟨v, me', hq, ?_, hrun, by rw [hv, hlen]; exact hnw, ?_, ?_⟩
  · have hmove : Move me (.data sid ((data.drop offset).take n) (endStream && n == want))
        (me.queueFrame sid e conn fc ((data.drop offset).take n) (endStream && n == want) st) :=
      .data he hs (by rw [hlen]; exact hconn) (by rw [hlen]; exact hfc)
        (by rw [hlen]; exact hnm) hst
    have hse : SameEntry { e with sendFlow := fc, state := st } { e₂ with state := st } :=
      ⟨rfl, hs₂.sendFlow, hs₂.recvUnreleased, hs₂.recvReclaimed, hs₂.finished⟩
    have hset := (ha.set sid hse).emit
      (.data sid ((data.drop offset).take n) (endStream && n == want))
    rw [setStream_setStream] at hset
    rw [hv, hlen, hd]
    exact ⟨me, _, .refl, hmove, (Moves.admin (hset.trans hm)).trans hmoves⟩
  · rw [hd, hv, hlen]
    rfl
  · intro hdone
    rw [hd, beq_eq_false_iff_ne] at hdone
    have := h.frameSize
    unfold defaultMaxFrameSize at this
    rw [hv, hlen]
    omega

/-- A call that framed nothing: the stream is parked, or its send half is over. -/
structure Unframed (me me' : Inner) (v : SendVerdict) : Prop where
  moves : Moves Kind.nothing me me'
  sent : v.sent = 0
  running : v.done = false

theorem sendTurn_moves (data : Bytes) (offset budget before : Nat) (endStream : Bool)
    (h : me.Wf) (he : me.streams.lookup sid = some e) (hs : e.state.isSendStreaming = true)
    (hb : 0 < budget) (hc : budget ≤ me.connSend.size) (hr : budget ≤ e.sendFlow.size) :
    ∃ v me', me.sendTurn sid data offset endStream budget before = (me', .ok v) ∧
      (Unframed me me' v ∨ Framed me me' sid data offset endStream v) := by
  unfold sendTurn
  rw [he]
  dsimp only
  split
  · exact ⟨_, _, rfl, .inl ⟨Moves.admin (yieldSendTurn_alike me sid), rfl, rfl⟩⟩
  · split
    · exact ⟨_, _, rfl, .inl ⟨.refl, rfl, rfl⟩⟩
    · obtain ⟨v, me', hv, hf⟩ := frameData_framed data offset budget before endStream
        h he hs hb hc hr
      exact ⟨v, me', hv, .inr hf⟩

theorem Framed.after {me₁ me' : Inner} {data : Bytes} {offset : Nat} {endStream : Bool}
    {v : SendVerdict} (ha : Alike me me₁) (h : Framed me₁ me' sid data offset endStream v) :
    Framed me me' sid data offset endStream v := by
  obtain ⟨s₁, s₂, h₁, hm, h₂⟩ := h.moved
  exact { h with moved := ⟨s₁, s₂, (Moves.admin ha).trans h₁, hm, h₂⟩ }

theorem leaveWaiting_alike (he : me.streams.lookup sid = some e) :
    Alike me (me.leaveWaiting sid e) := by
  unfold leaveWaiting
  split
  · have h : Alike me (me.setStream sid { e with isPendingCapacity := false }) :=
      .setStream he { SameEntry.refl e with }
    exact h.trans (.rotation _ _ _)
  · exact .refl _

theorem sendChunk_moves (data : Bytes) (offset : Nat) (endStream : Bool) (h : me.Wf)
    (he : me.streams.lookup sid = some e) (hs : e.state.isSendStreaming = true) :
    ∃ v me', me.sendChunk sid e data offset endStream = (me', .ok v) ∧
      (Unframed me me' v ∨ Framed me me' sid data offset endStream v) := by
  unfold sendChunk
  dsimp only
  split
  · refine ⟨_, _, rfl, .inl ⟨Moves.admin ?_, rfl, rfl⟩⟩
    split
    · exact (enqueueCapacity_alike _ _).trans (leaveSendQueue_alike _ _)
    · exact leaveSendQueue_alike _ _
  · next hb =>
    have hfront := (leaveWaiting_alike he).trans (me.leaveWaiting sid e).sendFront_alike
    have hroom : me.streamRoom e ≤ e.sendFlow.size := Nat.min_le_left _ _
    -- the turn is taken in a state that differs in the rotation only
    have turn : ∀ m, Alike me m → ∃ v me',
        m.sendTurn sid data offset endStream (min (me.streamRoom e) me.connSend.size)
          me.pending.length = (me', .ok v) ∧
        (Unframed me me' v ∨ Framed me me' sid data offset endStream v) := by
      intro m ha
      obtain ⟨e', he', hse⟩ := ha.stored he
      obtain ⟨v, me', hv, hres⟩ := sendTurn_moves data offset
        (min (me.streamRoom e) me.connSend.size) me.pending.length endStream (h.alike ha) he'
        (by rw [hse.state]; exact hs) (Nat.pos_of_ne_zero hb)
        (by rw [ha.connSend]; exact Nat.min_le_right _ _)
        (by rw [hse.sendFlow]; exact (Nat.min_le_left _ _).trans hroom)
      refine ⟨v, me', hv, hres.imp (fun hu => ?_) (·.after ha)⟩
      exact { hu with moves := (Moves.admin ha).trans hu.moves }
    split
    · split
      · exact ⟨_, _, rfl, .inl ⟨Moves.admin (hfront.trans (enqueueSend_alike _ _)), rfl, rfl⟩⟩
      · exact turn _ hfront
    · exact turn _ (hfront.trans (enqueueSend_alike _ _))

theorem sendEmpty_framed (data : Bytes) (offset : Nat) (endStream : Bool)
    (he : me.streams.lookup sid = some e) (hs : e.state.isSendStreaming = true)
    (hd : data.isEmpty = true) :
    ∃ v me', me.sendEmpty sid e endStream = (me', .ok v) ∧
      Framed me me' sid data offset endStream v := by
  obtain rfl : data = [] := List.isEmpty_iff.mp hd
  have hz : ∀ fc : FlowControl, fcSendData fc 0 = (fc, none) := fun fc => by
    rw [fcSendData, if_neg (by omega), FlowControl.sendData, if_neg (by omega)]
  unfold sendEmpty
  dsimp only
  rcases endStream
  · have hm : Move me (.data sid [] false)
        (me.queueFrame sid e me.connSend e.sendFlow [] false e.state) :=
      .data he hs (hz _) (hz _) (Nat.zero_le _) (by simp)
    have ha : Alike (me.queueFrame sid e me.connSend e.sendFlow [] false e.state)
        (me.emit (.data sid [] false)) := (Alike.setStream_self he).emit _
    exact ⟨_, _, rfl, ⟨me, _, .refl, hm, Moves.admin ha⟩, rfl, Nat.zero_le _,
      by simp [SendVerdict.completed], fun h => by cases h⟩
  · obtain ⟨st, hst⟩ := State.sendClose_of_isSendStreaming hs
    simp only [hst, if_true]
    have hm : Move me (.data sid [] true)
        (me.queueFrame sid e me.connSend e.sendFlow [] true st) :=
      .data he hs (hz _) (hz _) (Nat.zero_le _) (by simpa using hst)
    exact ⟨_, _, rfl, ⟨me, _, .refl, hm, finishStream_moves _ sid⟩, rfl, Nat.zero_le _,
      by simp [SendVerdict.completed], fun h => by cases h⟩

/-- **A send frames one DATA frame or none.** -/
theorem sendData_framed (h : me.Wf) (sid : Nat) (data : Bytes) (offset : Nat)
    (endStream : Bool) :
    ∃ v me', me.sendData sid data offset endStream = (me', .ok v) ∧
      (Unframed me me' v ∨ Framed me me' sid data offset endStream v) := by
  unfold sendData
  split
  · exact ⟨_, _, rfl, .inl ⟨.refl, rfl, rfl⟩⟩
  · next e he =>
    split
    · exact ⟨_, _, rfl, .inl ⟨.refl, rfl, rfl⟩⟩
    · next hs =>
      have hs' : e.state.isSendStreaming = true := by simpa using hs
      split
      · next hd =>
        obtain ⟨v, me', hv, hf⟩ := sendEmpty_framed data offset endStream he hs' hd
        exact ⟨v, me', hv, .inr hf⟩
      · exact sendChunk_moves data offset endStream h he hs'

/-! ### Trailers and the response head -/

/-- Trailers end the stream, once. -/
theorem sendTrailers_moves (me : Inner) (sid : Nat) (trailers : Fields) :
    ∃ v me', me.sendTrailers sid trailers = (me', .ok v) ∧
      (v.stopped.isSome = true ∧ me' = me ∨
        v.stopped = none ∧ ∃ s, Move me (.head sid true) s ∧ Moves Kind.nothing s me') := by
  unfold sendTrailers
  dsimp only
  split
  · exact ⟨_, _, rfl, .inl ⟨rfl, rfl⟩⟩
  · next e he =>
    split
    · exact ⟨_, _, rfl, .inl ⟨rfl, rfl⟩⟩
    · next hs =>
      have hs' : e.state.isSendStreaming = true := by simpa using hs
      obtain ⟨st, hst⟩ := State.sendClose_of_isSendStreaming hs'
      have ho : e.state.isSendClosed = false := by
        by_contra hc
        rw [State.isSendStreaming_of_isSendClosed (by simpa using hc)] at hs'
        cases hs'
      simp only [hst]
      exact ⟨_, _, rfl, .inr ⟨rfl, _, .head he ho (State.sendClose_later hst)
        (fun _ => State.sendClose_isSendClosed hst), finishStream_moves _ sid⟩⟩

theorem sendResponseHead_moves (me : Inner) (sid status : Nat) (fields : Fields)
    (endStream : Bool) (date : String) :
    Once (· = .head sid endStream) me
      (me.sendResponseHead sid status fields endStream date).1 := by
  unfold sendResponseHead
  dsimp only
  split
  · exact .none .refl
  · split
    · exact .none .refl
    · next e he =>
      split
      · exact .none .refl
      · split
        · exact .none .refl
        · next block _ =>
          split
          · exact .none .refl
          · next st hst =>
            obtain ⟨ho, hc⟩ := State.sendOpen_isSendClosed hst
            have hm : Move me (.head sid endStream) ((me.setStream sid
                { e with state := st }).emit (.headers sid block endStream)) :=
              .head he ho (State.sendOpen_later hst) fun hes => hc.trans hes
            refine Once.one hm rfl ?_
            split
            · exact finishStream_moves _ sid
            · exact .refl

/-! ### The local end of a stream -/

theorem resetStreamCall_moves (me : Inner) (sid : Nat) (reason : Reason)
    (initiator : Initiator) : Moves extra me (me.resetStreamCall sid reason initiator).1 :=
  resetStream_moves me sid reason initiator

theorem resetOnError_moves (me : Inner) (sid : Nat) (reason : Reason) :
    Moves extra me (me.resetOnError sid reason).1 := by
  unfold resetOnError
  dsimp only
  split
  · exact .refl
  · have hc : Alike me { me with localErrorResets := me.localErrorResets + 1 } :=
      { Alike.refl me with }
    split
    · exact (Moves.admin hc).trans (resetStream_moves _ sid reason .library)
    · next hn =>
      have hq : Alike { me with localErrorResets := me.localErrorResets + 1 }
          (if reason ≠ .refusedStream then
            { me with localErrorResets := me.localErrorResets + 1 }.enqueueResetExpiration sid
          else { me with localErrorResets := me.localErrorResets + 1 }) := by
        split
        · exact enqueueResetExpiration_alike _ sid
        · exact .refl _
      refine ((Moves.admin hc).trans (Moves.admin hq)).trans
        (Moves.common (.rst fun e he => ?_) rfl)
      rw [(hc.trans hq).absent hn] at he
      cases he

theorem acloseBody_moves (me : Inner) (sid : Nat) : Moves extra me (me.acloseBody sid).1 := by
  unfold acloseBody
  dsimp only
  split
  · exact .refl
  · next e he =>
    split
    · next hr =>
      refine Reach.trans (reclaimStreamAccounting_moves fun e' h' => ?_) (closeStream_moves _ sid)
      rw [he] at h'
      cases h'
      exact State.recvDone_of_isRecvEndStream hr
    · exact resetStream_moves me sid .cancel .user

end Httpunk.H2.Inner
