import Httpunk.H2.Conn.Store

/-!
# H2 — Conn — Send

The sending half of `conn.rs`: slots and opening a request stream, DATA, trailers and the
response head, and the local end of a stream.
-/

namespace Httpunk.H2

/-- `H2SendVerdict`. -/
structure SendVerdict where
  sent : Nat
  done : Bool
  stopped : Option Stopped
  flags : Flags
  handle : Option Nat
  readerStop : Option Stopped
  deriving DecidableEq

namespace SendVerdict

/-- `no_window`. -/
def noWindow (flags : Flags) : SendVerdict := ⟨0, false, none, flags, none, none⟩

/-- `stopped_send`. -/
def stoppedSend (stop : Stopped) : SendVerdict := ⟨0, false, some stop, .none, none, none⟩

/-- `completed_send`. -/
def completed (sent : Nat) (flags : Flags) (tail : ResetVerdict) : SendVerdict :=
  ⟨sent, true, none, flags ||| tail.flags, tail.handle, tail.stop⟩

end SendVerdict

/-- The fields of a header block, in order, their names in lower case. -/
abbrev Fields : Type := List (String × String)

/-- `check_send_fields`. -/
def checkSendFields (fields : Fields) : Option Err :=
  let banned := ["connection", "transfer-encoding", "upgrade", "keep-alive", "proxy-connection"]
  if fields.any fun f => banned.contains f.1 then some (mapUserErr .malformedHeaders)
  else if (fields.lookup "te").any (· ≠ "trailers") then some (mapUserErr .malformedHeaders)
  else none

/-- `build_response_headers`; `date` is the value the automatic field takes. -/
def buildResponseHeaders (status : Nat) (fields : Fields) (autoDate : Bool) (date : String) :
    Except Err Block :=
  if status < 100 ∨ status ≥ 1000 then .error (.value "invalid status: invalid status code")
  else
    let dated := autoDate && (fields.lookup "date").isNone
    .ok (.response status (if dated then fields ++ [("date", date)] else fields))

namespace Inner

/-! ### Slots and opening -/

/-- `can_open`. -/
def canOpen (me : Inner) : Bool := me.streamLimit.all fun lim => me.numOpenStreams < lim

/-- `try_claim_slot`. -/
def tryClaimSlot (me : Inner) : Inner × Bool :=
  if me.canOpen then ({ me with numOpenStreams := me.numOpenStreams + 1 }, true) else (me, false)

/-- `release_slot_count`. -/
def releaseSlotCount (me : Inner) : Inner := { me with numOpenStreams := me.numOpenStreams - 1 }

/-- The insertion of an opened request: stored with its slot, its HEADERS queued. -/
def insertOpened (me : Inner) (isHead endStream : Bool) (block : Block) (state : State) : Inner :=
  let sid := me.nextId
  let e := StreamEntry.new me.peer.initialWindowSize me.recvInit isHead
  { me.setStream sid { e with holdsSlot := true, state := state } with
    nextId := sid + 2
    numActive := me.numActive + 1
    pending := me.pending ++ [.headers sid block endStream] }

/-- `open_stream`, with a claimed slot.  `request` is what `build_request_headers` makes of the
method, the target and the fields. -/
def openStream (me : Inner) (request : Except Err Block) (endStream isHead : Bool) :
    Inner × Except Err (Option Nat) :=
  if me.isDead then (me.releaseSlotCount, .ok none)
  else if me.nextId > maxStreamIdValue then
    (me.releaseSlotCount, .error (protocolErr .refusedStream
      "stream ID space exhausted (OverflowedStreamId)"))
  else
    match request with
    | .error err => (me.releaseSlotCount, .error err)
    | .ok block =>
      match State.idle.sendOpen endStream with
      | .error err => ({ me with nextId := me.nextId + 2 }, .error (mapUserErr err))
      | .ok state => (me.insertOpened isHead endStream block state, .ok (some me.nextId))

/-! ### DATA -/

/-- An empty `send_data`: one empty DATA frame. -/
def sendEmpty (me : Inner) (sid : Nat) (e : StreamEntry) (endStream : Bool) :
    Inner × Except Err SendVerdict :=
  let before := me.pending.length
  let me := me.emit (.data sid [] endStream)
  if endStream then
    match e.state.sendClose with
    | none => (me, .error .abort)
    | some state =>
      let tail := (me.setStream sid { e with state := state }).finishStream sid
      (tail.1, .ok (.completed 0 (tail.1.wakeFlag before) tail.2))
  else (me, .ok (.completed 0 (me.wakeFlag before) {}))

/-- The credit ledger after `n` bytes of `sid`: consecutive frames of one stream are one
entry. -/
def addCredit (credit : List (Nat × Nat)) (sid n : Nat) : List (Nat × Nat) :=
  match credit.getLast? with
  | some (last, m) => if last = sid then credit.dropLast ++ [(sid, m + n)] else credit ++ [(sid, n)]
  | none => [(sid, n)]

/-- Where the stream stands in the rotation once `n` of its `want` bytes are framed. -/
def afterFrame (me : Inner) (sid : Nat) (e : StreamEntry) (n want : Nat) : Inner × Flags :=
  if n = want then me.leaveSendQueue sid
  else if me.connSend.size = 0 ∧ me.streamRoom e > 0 then
    (me.enqueueCapacity sid).leaveSendQueue sid
  else if me.streamRoom e = 0 then me.leaveSendQueue sid
  else (me, .none)

/-- The frame is encoded and credited; with END_STREAM the send half closes with it. -/
def queueData (me : Inner) (sid : Nat) (chunk : Bytes) (last done : Bool) (before : Nat)
    (queueFlags : Flags) : Inner × Except Err SendVerdict :=
  let n := chunk.length
  if n > me.sendMaxFrameSize then (me, .error (.payloadTooBig n me.sendMaxFrameSize))
  else
    let me := { me.emit (.data sid chunk last) with credit := addCredit me.credit sid n }
    if last then
      match me.streams.lookup sid with
      | none => (me, .error .abort)
      | some e =>
        match e.state.sendClose with
        | none => (me, .error .abort)
        | some state =>
          let tail := (me.setStream sid { e with state := state }).finishStream sid
          (tail.1, .ok (.completed n (tail.1.wakeFlag before ||| queueFlags) tail.2))
    else (me, .ok ⟨n, done, none, me.wakeFlag before ||| queueFlags, none, none⟩)

/-- `send_data` with the turn: one frame of up to `budget` bytes. -/
def frameData (me : Inner) (sid : Nat) (e : StreamEntry) (data : Bytes) (offset : Nat)
    (endStream : Bool) (budget before : Nat) : Inner × Except Err SendVerdict :=
  let want := data.length - offset
  let n := min (min budget want) me.peer.maxFrameSize
  let last := endStream && n == want
  match fcSendData me.connSend n with
  | (conn, some r) => ({ me with connSend := conn }, .error (mapReason r))
  | (conn, none) =>
    let me := { me with connSend := conn }
    match fcSendData e.sendFlow n with
    | (fc, some r) => (me.setStream sid { e with sendFlow := fc }, .error (mapReason r))
    | (fc, none) =>
      let e := { e with
        sendFlow := fc, sendBuffered := e.sendBuffered + n, turnFrames := e.turnFrames + 1 }
      let queued := (me.setStream sid e).afterFrame sid e n want
      queued.1.queueData sid ((data.drop offset).take n) last (n == want) before queued.2

/-- `send_data` at the front of the rotation: the turn's bound, then the frame. -/
def sendTurn (me : Inner) (sid : Nat) (data : Bytes) (offset : Nat) (endStream : Bool)
    (budget before : Nat) : Inner × Except Err SendVerdict :=
  match me.streams.lookup sid with
  | none => (me, .error .abort)
  | some e =>
    if e.turnFrames ≥ me.burstFrames ∧ me.pendingSend.length > 1 then
      let r := me.yieldSendTurn sid
      (r.1, .ok (.noWindow r.2))
    else if e.turnFrames ≥ me.burstFrames ∧ me.numActive > 1 then (me, .ok (.noWindow .none))
    else me.frameData sid e data offset endStream budget before

/-- A stream with window no longer waits for the connection's. -/
def leaveWaiting (me : Inner) (sid : Nat) (e : StreamEntry) : Inner :=
  if e.isPendingCapacity then
    { me.setStream sid { e with isPendingCapacity := false } with
      pendingCapacity := me.pendingCapacity.filter (· ≠ sid) }
  else me

/-- `send_data` of a non-empty chunk on a stream that streams. -/
def sendChunk (me : Inner) (sid : Nat) (e : StreamEntry) (data : Bytes) (offset : Nat)
    (endStream : Bool) : Inner × Except Err SendVerdict :=
  let before := me.pending.length
  let room := me.streamRoom e
  let conn := me.connSend.size
  let budget := min room conn
  if budget = 0 then
    let me := if conn = 0 ∧ room > 0 then me.enqueueCapacity sid else me
    let r := me.leaveSendQueue sid
    (r.1, .ok (.noWindow r.2))
  else
    let front := (me.leaveWaiting sid e).sendFront
    match front.2 with
    | some f =>
      if f ≠ sid then (front.1.enqueueSend sid, .ok (.noWindow .none))
      else front.1.sendTurn sid data offset endStream budget before
    | none => (front.1.enqueueSend sid).sendTurn sid data offset endStream budget before

/-- `send_data`. -/
def sendData (me : Inner) (sid : Nat) (data : Bytes) (offset : Nat) (endStream : Bool) :
    Inner × Except Err SendVerdict :=
  match me.streams.lookup sid with
  | none => (me, .ok (.stoppedSend ⟨none, false⟩))
  | some e =>
    if !e.state.isSendStreaming then (me, .ok (.stoppedSend e.stopped))
    else if data.isEmpty then me.sendEmpty sid e endStream
    else me.sendChunk sid e data offset endStream

/-! ### Trailers and the response head -/

/-- `send_trailers`. -/
def sendTrailers (me : Inner) (sid : Nat) (trailers : Fields) : Inner × Except Err SendVerdict :=
  let before := me.pending.length
  match me.streams.lookup sid with
  | none => (me, .ok (.stoppedSend ⟨none, false⟩))
  | some e =>
    if !e.state.isSendStreaming then (me, .ok (.stoppedSend e.stopped))
    else
      match e.state.sendClose with
      | none => (me, .error .abort)
      | some state =>
        let me := (me.setStream sid { e with state := state }).emit
          (.headers sid (.trailers trailers) true)
        let tail := me.finishStream sid
        (tail.1, .ok (.completed 0 (tail.1.wakeFlag before) tail.2))

/-- `send_response_head`. -/
def sendResponseHead (me : Inner) (sid status : Nat) (fields : Fields) (endStream : Bool)
    (date : String) : Inner × Except Err SendVerdict :=
  match checkSendFields fields with
  | some err => (me, .error err)
  | none =>
    let before := me.pending.length
    match me.streams.lookup sid with
    | none => (me, .ok (.stoppedSend ⟨none, false⟩))
    | some e =>
      if e.state.isClosed then (me, .ok (.stoppedSend e.stopped))
      else
        match buildResponseHeaders status fields me.autoDate date with
        | .error err => (me, .error err)
        | .ok block =>
          match e.state.sendOpen endStream with
          | .error err => (me, .error (mapUserErr err))
          | .ok state =>
            let me := (me.setStream sid { e with state := state }).emit
              (.headers sid block endStream)
            let tail := if endStream then me.finishStream sid else (me, {})
            (tail.1, .ok (.completed 0 (tail.1.wakeFlag before) tail.2))

/-! ### The local end of a stream -/

/-- `reset_stream`, as the driver calls it. -/
def resetStreamCall (me : Inner) (sid : Nat) (reason : Reason) (initiator : Initiator) :
    Inner × ResetVerdict :=
  let before := me.pending.length
  let r := me.resetStream sid reason initiator
  (r.1, { r.2 with flags := r.2.flags ||| r.1.wakeFlag before })

/-- `reset_on_error`. -/
def resetOnError (me : Inner) (sid : Nat) (reason : Reason) : Inner × Except Err ResetVerdict :=
  let before := me.pending.length
  if me.maxLocalErrorResets.any fun max => me.localErrorResets ≥ max then
    (me, .error (protocolErrWithDebug .enhanceYourCalm "too many stream resets"
      "too_many_internal_resets"))
  else
    let me := { me with localErrorResets := me.localErrorResets + 1 }
    match me.streams.lookup sid with
    | some _ =>
      let r := me.resetStream sid reason .library
      (r.1, .ok { r.2 with flags := r.2.flags ||| r.1.wakeFlag before })
    | none =>
      let me := if reason ≠ .refusedStream then me.enqueueResetExpiration sid else me
      let me := me.emit (.rstStream sid reason)
      (me, .ok { flags := me.wakeFlag before })

/-- `aclose_body`. -/
def acloseBody (me : Inner) (sid : Nat) : Inner × ResetVerdict :=
  let before := me.pending.length
  match me.streams.lookup sid with
  | none => (me, {})
  | some e =>
    if e.state.isRecvEndStream then
      let r := (me.reclaimStreamAccounting sid).closeStream sid
      (r.1, { flags := r.2 ||| r.1.wakeFlag before })
    else
      let r := me.resetStream sid .cancel .user
      (r.1, { r.2 with flags := r.2.flags ||| r.1.wakeFlag before })

end Inner

end Httpunk.H2
