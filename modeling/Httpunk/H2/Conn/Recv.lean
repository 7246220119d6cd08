import Httpunk.H2.Conn.Store

/-!
# H2 — Conn — Recv

The dispatch entry points of `conn.rs`: what each received frame does to the state.  A call
returns the state it leaves behind together with its verdict or the error it raises; an error
does not undo what came before it.
-/

namespace Httpunk.H2

/-- `H2RecvHeadersVerdict.kind`. -/
inductive HeadersKind where
  | ignored
  | opened
  | head
  | trailers
  deriving DecidableEq

/-- `H2RecvHeadersVerdict`. -/
structure RecvHeadersVerdict where
  kind : HeadersKind
  handle : Option Nat
  streamId : Nat
  eof : Bool
  flags : Flags
  deriving DecidableEq

/-- `ignored`. -/
def RecvHeadersVerdict.ignored (sid : Nat) : RecvHeadersVerdict := ⟨.ignored, none, sid, false, .none⟩

/-- `H2RecvDataVerdict`. -/
structure RecvDataVerdict where
  handle : Option Nat
  payload : Option Bytes
  budgeted : Bool
  eof : Bool
  flags : Flags
  deriving DecidableEq

/-- A verdict with nothing to deliver. -/
def RecvDataVerdict.swallowed (flags : Flags) : RecvDataVerdict := ⟨none, none, false, false, flags⟩

/-- What `recv_reset` leaves for the driver: the handle, its stop, whether the body's readers
are to be woken, and the flags. -/
structure RecvResetVerdict where
  handle : Nat
  stop : Stopped
  notifyBody : Bool
  flags : Flags
  deriving DecidableEq

/-- What `recv_settings` leaves for the driver. -/
structure RecvSettingsVerdict where
  initial : Bool
  wake : List Nat
  flags : Flags
  deriving DecidableEq

namespace Inner

/-! ### Target resolution -/

/-- `recv_lookup`. -/
def recvLookup (me : Inner) (sid : Nat) : Inner × Except Err (Option Nat) :=
  match me.streams.lookup sid with
  | some e =>
    if e.state.isLocalError then (me, .ok none)
    else if e.state.isClosed then
      ((me.dropClosedStored sid).1, .error (streamErr sid .streamClosed))
    else (me, .ok (some sid))
  | none =>
    let r := me.inResetStore sid
    if r.2 then (r.1, .ok none)
    else if r.1.aboveGoaway sid then (r.1, .ok none)
    else
      match r.1.ensureNotIdle sid with
      | .error err => (r.1, .error err)
      | .ok () => (r.1, .error (streamErr sid .streamClosed))

/-! ### HEADERS -/

/-- `reject_oversize_request`. -/
def rejectOversizeRequest (me : Inner) (sid : Nat) : Inner × Except Err Flags :=
  match me.streams.lookup sid with
  | none => (me, .error .abort)
  | some e =>
    match e.state.sendOpen true with
    | .error err => (me, .error (mapUserErr err))
    | .ok state =>
      let me := (me.setStream sid { e with state := state }).emit
        (.headers sid (.response 431 []) true)
      let me :=
        if !state.isClosed then
          let reset := state.setReset sid .protocolError .library
          ((me.setStream sid { e with state := reset }).emit
            (.rstStream sid .protocolError)).enqueueResetExpiration sid
        else me
      let r := me.closeStream sid
      (r.1, .ok r.2)

/-- `apply_content_length`. -/
def applyContentLength (me : Inner) (sid : Nat) (f : Headers) : Inner × Option Err :=
  match me.streams.lookup sid with
  | none => (me, none)
  | some e =>
    if f.contentLengthInvalid then (me, some (streamErr sid .protocolError))
    else if e.contentLength.isHead then (me, none)
    else
      match f.contentLength with
      | none => (me, none)
      | some cl =>
        let me := me.setStream sid { e with contentLength := e.contentLength.set cl }
        if f.endStream && cl > 0 && !(f.status == some 204 || f.status == some 304) then
          (me, some (streamErr sid .protocolError))
        else (me, none)

/-- The insertion of a request stream: stored, counted, and part of the GOAWAY last id. -/
def insertRequest (me : Inner) (sid : Nat) (state : State) : Inner :=
  { me.setStream sid
      { StreamEntry.new me.peer.initialWindowSize me.recvInit false with state := state } with
    numActive := me.numActive + 1
    lastProcessedId := sid }

/-- `recv_headers` of a server, for a stream it does not hold: a new request. -/
def recvRequest (me : Inner) (frame : Headers) (spare : Bool) (before : Nat) (flags : Flags) :
    Inner × Except Err RecvHeadersVerdict :=
  let sid := frame.streamId
  if sid > me.maxStreamId then (me, .ok (.ignored sid))
  else if !isClientInitiated sid || sid ≤ me.lastRecvId then
    (me, .error (protocolErr .protocolError s!"invalid new stream id {sid}"))
  else
    let me := { me with lastRecvId := sid }
    if me.numActive ≥ me.maxConcurrent then (me, .error (streamErr sid .refusedStream))
    else if !spare then
      (me, .error (.value "recv_headers: the server role needs a spare stream handle"))
    else
      match State.idle.recvOpen frame.endStream false with
      | .error err => (me, .error (mapProtoErr err))
      | .ok state =>
        match (me.insertRequest sid state).applyContentLength sid frame with
        | (me, some err) => (me, .error err)
        | (me, none) =>
          if frame.isOverSize then
            match me.rejectOversizeRequest sid with
            | (me, .error err) => (me, .error err)
            | (me, .ok more) =>
              let flags := flags ||| more ||| me.wakeFlag before
              (me, .ok { RecvHeadersVerdict.ignored sid with flags := flags })
          else
            let me := { me with pendingAccept := insert sid me.pendingAccept }
            (me, .ok ⟨.opened, some sid, sid, frame.endStream, flags ||| me.wakeFlag before⟩)

/-- `recv_headers` for a stream with no live entry. -/
def recvHeadersUnknown (me : Inner) (frame : Headers) (spare : Bool) (before : Nat)
    (flags : Flags) : Inner × Except Err RecvHeadersVerdict :=
  let sid := frame.streamId
  let r := me.inResetStore sid
  if r.2 then (r.1, .ok (.ignored sid))
  else
    match r.1.role with
    | .client =>
      match r.1.ensureNotIdle sid with
      | .error err => (r.1, .error err)
      | .ok () => (r.1, .error (streamErr sid .streamClosed))
    | .server => r.1.recvRequest frame spare before flags

/-- `recv_headers` for a live stream that waits for a head. -/
def recvHead (me : Inner) (frame : Headers) (e : StreamEntry) (before : Nat) :
    Inner × Except Err RecvHeadersVerdict :=
  let sid := frame.streamId
  if frame.isInformational && frame.endStream then (me, .error (streamErr sid .protocolError))
  else
    match e.state.recvOpen frame.endStream frame.isInformational with
    | .error err => (me, .error (mapProtoErr err))
    | .ok state =>
      match (me.setStream sid { e with state := state }).applyContentLength sid frame with
      | (me, some err) => (me, .error err)
      | (me, none) =>
        if frame.isOverSize then (me, .error (streamErr sid .protocolError))
        else if frame.isInformational then (me, .ok (.ignored sid))
        else if frame.status.isNone then (me, .error (streamErr sid .protocolError))
        else
          let r := if frame.endStream then me.closeStream sid else (me, .none)
          (r.1, .ok ⟨.head, some sid, sid, frame.endStream, r.2 ||| r.1.wakeFlag before⟩)

/-- `recv_headers` for a live stream past its head: trailers. -/
def recvTrailers (me : Inner) (frame : Headers) (e : StreamEntry) (before : Nat) :
    Inner × Except Err RecvHeadersVerdict :=
  let sid := frame.streamId
  if !frame.endStream then (me, .error (streamErr sid .protocolError))
  else
    match e.state.recvClose with
    | .error err => (me, .error (mapProtoErr err))
    | .ok state =>
      let me := me.setStream sid { e with state := state }
      if !e.contentLength.isSatisfied then (me, .error (streamErr sid .protocolError))
      else
        let r := me.closeStream sid
        (r.1, .ok ⟨.trailers, some sid, sid, true, r.2 ||| r.1.wakeFlag before⟩)

/-- `recv_headers`.  `spare`: the driver passed a handle for a new request. -/
def recvHeaders (me : Inner) (frame : Headers) (spare : Bool) :
    Inner × Except Err RecvHeadersVerdict :=
  let before := me.pending.length
  let sid := frame.streamId
  match me.streams.lookup sid with
  | none => me.recvHeadersUnknown frame spare before .none
  | some e =>
    if e.state.isLocalError then (me, .ok (.ignored sid))
    else if e.state.isClosed then
      let r := me.dropClosedStored sid
      match me.role with
      | .client => (r.1, .error (streamErr sid .streamClosed))
      | .server => r.1.recvHeadersUnknown frame spare before r.2
    else if e.state.isRecvHeaders then me.recvHead frame e before
    else me.recvTrailers frame e before

/-! ### DATA -/

/-- `release_capacity_inner`. -/
def releaseCapacityInner (me : Inner) (sid n : Nat) : Inner :=
  match me.streams.lookup sid with
  | none => me
  | some e =>
    if e.recvReclaimed then me
    else
      let fc := (e.recvFlow.assignCapacity n).1
      let e := { e with recvUnreleased := e.recvUnreleased - n, recvFlow := fc }
      let me :=
        match fc.unclaimedCapacity with
        | none => me.setStream sid e
        | some unclaimed =>
          if !e.state.isRecvEndStream then
            (me.setStream sid { e with recvFlow := (fc.incWindow unclaimed).1 }).emit
              (.windowUpdate sid unclaimed)
          else me.setStream sid e
      (me.reclaimConn n).maybeRemoveSettled sid

/-- `record_data_frame`. -/
def recordDataFrame (me : Inner) (sid payloadLen : Nat) : Inner × Option Err :=
  match me.dataBudget.record payloadLen with
  | (b, .error err) => ({ me with dataBudget := b }, some err)
  | (b, .ok charge) =>
    let me := { me with dataBudget := b }
    match me.streams.lookup sid with
    | none => (me, none)
    | some e =>
      (me.setStream sid { e with dataBudgetCharged := e.dataBudgetCharged + charge }, none)

/-- A DATA frame nobody reads: its bytes come off the connection window and go straight back. -/
def ignoreData (me : Inner) (sz : Nat) : Inner × Option Err :=
  match me.consumeConnRecv sz with
  | (me, some err) => (me, some err)
  | (me, none) => (me.reclaimConn sz, none)

/-- `recv_data` past the windows and the declared length: the payload is delivered. -/
def deliverData (me : Inner) (frame : Data) (e : StreamEntry) (before : Nat) :
    Inner × Except Err RecvDataVerdict :=
  let sid := frame.streamId
  let sz := frame.flowControlledLen
  let me := me.setStream sid { e with recvUnreleased := (e.recvUnreleased + sz) % 2 ^ 32 }
  let me := if frame.padding > 0 then me.releaseCapacityInner sid frame.padding else me
  let budgeted := !frame.endStream
  let charged := if budgeted then me.recordDataFrame sid frame.data.length else (me, none)
  match charged with
  | (me, some err) => (me, .error err)
  | (me, none) =>
    if budgeted && frame.data.isEmpty then (me, .ok (.swallowed (me.wakeFlag before)))
    else if frame.endStream then
      match me.streams.lookup sid with
      | none => (me, .error .abort)
      | some e =>
        match e.state.recvClose with
        | .error err => (me, .error (mapProtoErr err))
        | .ok state =>
          let r := (me.setStream sid { e with state := state }).closeStream sid
          (r.1, .ok ⟨some sid, some frame.data, budgeted, true, r.2 ||| r.1.wakeFlag before⟩)
    else (me, .ok ⟨some sid, some frame.data, budgeted, false, me.wakeFlag before⟩)

/-- `recv_data` on a live stream: the windows, the declared length, then the delivery. -/
def recvDataOn (me : Inner) (frame : Data) (e : StreamEntry) (before : Nat) :
    Inner × Except Err RecvDataVerdict :=
  let sid := frame.streamId
  let sz := frame.flowControlledLen
  match me.consumeConnRecv sz with
  | (me, some err) => (me, .error err)
  | (me, none) =>
    match fcSendData e.recvFlow sz with
    | (fc, some _) =>
      ((me.setStream sid { e with recvFlow := fc }).reclaimConn sz,
        .error (streamErr sid .flowControlError))
    | (fc, none) =>
      let e := { e with recvFlow := fc }
      match e.contentLength.dec frame.data.length with
      | none => ((me.setStream sid e).reclaimConn sz, .error (streamErr sid .protocolError))
      | some cl =>
        let e := { e with contentLength := cl }
        if frame.endStream && !cl.isSatisfied then
          ((me.setStream sid e).reclaimConn sz, .error (streamErr sid .protocolError))
        else me.deliverData frame e before

/-- `recv_data`. -/
def recvData (me : Inner) (frame : Data) : Inner × Except Err RecvDataVerdict :=
  let before := me.pending.length
  let sz := frame.flowControlledLen
  match me.recvLookup frame.streamId with
  | (me, .error err) =>
    match me.ignoreData sz with
    | (me, some overrun) => (me, .error overrun)
    | (me, none) => (me, .error err)
  | (me, .ok none) =>
    match me.ignoreData sz with
    | (me, some overrun) => (me, .error overrun)
    | (me, none) => (me, .ok (.swallowed (me.wakeFlag before)))
  | (me, .ok (some sid)) =>
    match me.streams.lookup sid with
    | none => (me, .error .abort)
    | some e =>
      if !e.state.isRecvStreaming then
        (me, .error (protocolErr .protocolError s!"unexpected DATA on stream {sid}"))
      else me.recvDataOn frame e before

/-! ### WINDOW_UPDATE and RST_STREAM -/

/-- `recv_window_update`: the handles whose senders must be woken. -/
def recvWindowUpdate (me : Inner) (frame : WindowUpdate) : Inner × Except Err (List Nat) :=
  let sid := frame.streamId
  if sid = 0 then
    match me.connSend.grant frame.increment with
    | (fc, some r) => ({ me with connSend := fc }, .error (mapReason r))
    | (fc, none) =>
      let front := ({ me with connSend := fc }.admitCapacityFront).1.sendFront
      (front.1, .ok front.2.toList)
  else
    match me.streams.lookup sid with
    | none =>
      if (me.resetStreams.lookup sid).isSome then (me, .ok [])
      else
        match me.ensureNotIdle sid with
        | .error err => (me, .error err)
        | .ok () => (me, .ok [])
    | some e =>
      match e.sendFlow.grant frame.increment with
      | (fc, some _) =>
        (me.setStream sid { e with sendFlow := fc }, .error (streamErr sid .flowControlError))
      | (fc, none) => (me.setStream sid { e with sendFlow := fc }, .ok [sid])

/-- `recv_reset` of a stored stream. -/
def recvResetOn (me : Inner) (frame : RstStream) (e : StreamEntry) :
    Inner × Except Err (Option RecvResetVerdict) :=
  let before := me.pending.length
  let sid := frame.streamId
  if e.finished then (me, .ok none)
  else
    let recvEnded := e.state.isRecvEndStream
    let e := { e with state := e.state.recvReset sid frame.errorCode }
    let r := ((me.setStream sid e).reclaimStreamAccounting sid).closeStream sid
    (r.1, .ok (some ⟨sid, e.stopped, !recvEnded, r.2 ||| r.1.wakeFlag before⟩))

/-- `recv_reset`. -/
def recvReset (me : Inner) (frame : RstStream) :
    Inner × Except Err (Option RecvResetVerdict) :=
  let sid := frame.streamId
  if sid = 0 then (me, .error (protocolErr .protocolError "RST_STREAM on stream 0"))
  else
    match me.streams.lookup sid with
    | none =>
      if (me.resetStreams.lookup sid).isSome then (me, .ok none)
      else
        match me.ensureNotIdle sid with
        | .error err => (me, .error err)
        | .ok () => (me, .ok none)
    | some e =>
      if me.role = .server ∧ sid ∈ me.pendingAccept then
        if me.remoteResetPending.card ≥ me.maxPendingAcceptReset then
          (me, .error (protocolErrWithDebug .enhanceYourCalm "too_many_resets" "too_many_resets"))
        else
          { me with remoteResetPending := insert sid me.remoteResetPending }.recvResetOn frame e
      else me.recvResetOn frame e

/-! ### SETTINGS -/

/-- The loop body of `apply_remote_settings`: one stream's send window follows the peer's
initial window, unless its send half is closed. -/
def resizeSend (old new : Nat) (_ : Nat) (e : StreamEntry) : StreamEntry × Option Err :=
  if e.state.isSendClosed then (e, none)
  else
    let r := if new ≥ old then e.sendFlow.grant (new - old) else e.sendFlow.shrink (old - new)
    ({ e with sendFlow := r.1 }, r.2.map mapReason)

/-- The handles `apply_remote_settings` wakes: the windows that did not shrink. -/
def resizeWakes (me : Inner) (old new : Nat) : List Nat :=
  if new ≥ old then
    (me.streams.entries.filter fun p => !p.2.state.isSendClosed).map Sigma.fst
  else []

/-- The peer's header table size. -/
def applyHeaderTable (me : Inner) : Option Nat → Inner
  | none => me
  | some n => { me with peer := { me.peer with headerTableSize := n } }

/-- The peer's frame size, which the encoder takes at once. -/
def applyMaxFrame (me : Inner) : Option Nat → Inner × Option Err
  | none => (me, none)
  | some n =>
    match checkMaxFrameSize n with
    | some err => (me, some err)
    | none => ({ me with sendMaxFrameSize := n, peer := { me.peer with maxFrameSize := n } }, none)

/-- The peer's limit on streams, which is a client's. -/
def applyMaxStreams (me : Inner) : Option Nat → Inner × Flags
  | none => (me, .none)
  | some n =>
    let me := { me with peer := { me.peer with maxConcurrentStreams := some n } }
    match me.role with
    | .client => (me.applyStreamLimit (some n), { slotFreed := true })
    | .server => (me, .none)

/-- `apply_remote_settings` up to the send windows. -/
def applyRemoteLimits (me : Inner) (v : SettingsValues) : Inner × Except Err Flags :=
  match (me.applyHeaderTable v.headerTableSize).applyMaxFrame v.maxFrameSize with
  | (me, some err) => (me, .error err)
  | (me, none) =>
    let r := me.applyMaxStreams v.maxConcurrentStreams
    (r.1, .ok r.2)

/-- The last part of `apply_remote_settings`: the peer's initial window. -/
def applyInitialWindow (me : Inner) (new : Nat) : Inner × Except Err (List Nat) :=
  let old := me.peer.initialWindowSize
  if new = old then (me, .ok [])
  else
    let r := Store.scan (resizeSend old new) me.streams
    let wake := me.resizeWakes old new
    let me :=
      { me with peer := { me.peer with initialWindowSize := new }, streams := r.1 }
    match r.2 with
    | some err => (me, .error err)
    | none => (me, .ok wake)

/-- `apply_remote_settings`. -/
def applyRemoteSettings (me : Inner) (v : SettingsValues) :
    Inner × Except Err (List Nat × Flags) :=
  match me.applyRemoteLimits v with
  | (me, .error err) => (me, .error err)
  | (me, .ok flags) =>
    match v.initialWindowSize with
    | none => (me, .ok ([], flags))
    | some new =>
      match me.applyInitialWindow new with
      | (me, .error err) => (me, .error err)
      | (me, .ok wake) => (me, .ok (wake, flags))

/-- The loop body of `apply_local_settings`: one stream's receive window follows ours. -/
def resizeRecv (old target : Nat) (_ : Nat) (e : StreamEntry) : StreamEntry × Option Err :=
  let r := if target > old then e.recvFlow.grant (target - old)
    else e.recvFlow.decRecvWindow (old - target)
  ({ e with recvFlow := r.1 }, r.2.map mapReason)

/-- The decoder's share of `apply_local_settings`. -/
def applyLocalLimits (l : RecvLimits) (v : SettingsValues) : RecvLimits × Option Err :=
  let l := match v.headerTableSize with
    | some n => l.setRecvHeaderTableSize n
    | none => l
  let sized := match v.maxFrameSize with
    | none => (l, none)
    | some n =>
      match checkMaxFrameSize n with
      | some err => (l, some err)
      | none => (l.setMaxRecvFrameSize n, none)
  match sized with
  | (l, some err) => (l, some err)
  | (l, none) =>
    match v.maxHeaderListSize with
    | some n => (l.setMaxHeaderListSize n, none)
    | none => (l, none)

/-- `apply_local_settings`. -/
def applyLocalSettings (me : Inner) : Inner × Option Err :=
  match applyLocalLimits me.limits me.settings.values with
  | (l, some err) => ({ me with limits := l }, some err)
  | (l, none) =>
    let me := { me with limits := l }
    match me.settings.values.initialWindowSize with
    | none => (me, none)
    | some target =>
      let old := me.recvInit
      let me := { me with recvInit := target }
      if target = old then (me, none)
      else
        let r := Store.scan (resizeRecv old target) me.streams
        ({ me with streams := r.1 }, r.2)

/-- `recv_settings`. -/
def recvSettings (me : Inner) (frame : SettingsFrame) : Inner × Except Err RecvSettingsVerdict :=
  let before := me.pending.length
  if frame.ack then
    match me.settings.recvAck with
    | .error err => (me, .error err)
    | .ok s =>
      match { me with settings := s }.applyLocalSettings with
      | (me, some err) => (me, .error err)
      | (me, none) => (me, .ok ⟨false, [], .none⟩)
  else
    let s := me.settings.recvRemote
    match { me.emit .settingsAck with settings := s.1 }.applyRemoteSettings frame.values with
    | (me, .error err) => (me, .error err)
    | (me, .ok (wake, flags)) => (me, .ok ⟨s.2, wake, flags ||| me.wakeFlag before⟩)

/-! ### PING and GOAWAY -/

/-- `recv_ping`. -/
def recvPing (me : Inner) (frame : Ping) : Inner × Flags :=
  let before := me.pending.length
  if !frame.ack then
    let me := me.emit (.ping frame.data true)
    (me, me.wakeFlag before)
  else if me.role ≠ .server ∨ frame.data ≠ shutdownPing ∨ !me.graceful ∨ me.shutdownFinal then
    (me, .none)
  else
    let me := { me with shutdownFinal := true, maxStreamId := me.lastProcessedId }.emit
      (.goAway me.lastProcessedId .noError [])
    (me, me.wakeFlag before |||
      (if me.numActive = 0 then { stopAccepting := true } else .none))

/-- The streams a GOAWAY says were not processed. -/
def streamsAbove (me : Inner) (last : Nat) : List Nat := me.streams.keys.filter (· > last)

/-- `recv_go_away`: the handles to notify, and the flags. -/
def recvGoAway (me : Inner) (frame : GoAway) :
    Inner × Except Err (List (Nat × Stopped) × Flags) :=
  let last := frame.lastStreamId
  if me.goawayLastId.any (last > ·) then
    (me, .error (protocolErr .protocolError "GOAWAY may not raise last_stream_id"))
  else
    let me := { me with
      goawayLastId := some last
      goaway := some ⟨last, frame.errorCode, frame.debugData⟩ }
    match me.role with
    | .server => (me, .ok ([], .none))
    | .client =>
      let r := me.abortAll (some frame.errorCode) (me.streamsAbove last)
      (r.1, .ok (r.2.1, r.2.2 ||| { slotFreed := true }))

end Inner

end Httpunk.H2
