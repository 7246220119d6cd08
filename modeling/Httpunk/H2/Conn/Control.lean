import Httpunk.H2.Conn.Recv

/-!
# H2 — Conn — Control

The rest of the connection's methods: the handshake start, the readers' releases, the write
pump, the writers' count, the closing of the connection and the graceful shutdown.
-/

namespace Httpunk.H2.Inner

/-! ### The handshake -/

/-- The first frames of `begin`: a client's preface, and our SETTINGS.  The advertised values
passed the checks of the constructor, so `encode_settings` takes them. -/
def handshake (me : Inner) : List OutFrame :=
  match me.role with
  | .client => [.preface, .settings me.settings.values]
  | .server => [.settings me.settings.values]

/-- `begin`. -/
def begin (me : Inner) : Inner :=
  let me := { me with
    pending := me.pending ++ me.handshake
    settings := me.settings.markSent }
  let delta := me.connRecvTarget - defaultInitialWindowSize
  if delta > 0 then me.reclaimConn delta else me

/-! ### The readers -/

/-- `release_capacity`. -/
def releaseCapacity (me : Inner) (sid n : Nat) : Inner × Flags :=
  let before := me.pending.length
  let me := me.releaseCapacityInner sid n
  (me, me.wakeFlag before)

/-- `release_data_frame`. -/
def releaseDataFrame (me : Inner) (sid payloadLen : Nat) : Inner :=
  match me.streams.lookup sid with
  | none => me
  | some e =>
    if payloadLen = 0 ∨ payloadLen ≥ dataFrameOverheadThreshold then me
    else
      let charge := min (dataFrameOverheadThreshold - payloadLen) e.dataBudgetCharged
      let me := me.setStream sid { e with dataBudgetCharged := e.dataBudgetCharged - charge }
      { me with dataBudget := me.dataBudget.release charge }.maybeRemoveSettled sid

/-- `accepted`. -/
def accepted (me : Inner) (sid : Nat) : Inner :=
  { me with
    pendingAccept := me.pendingAccept.erase sid
    remoteResetPending := me.remoteResetPending.erase sid }

/-! ### The write pump -/

/-- `stop_pump`. -/
def stopPump (me : Inner) : Inner := { me with stop := true }

/-- `take_pending`: the batch, and whether the pump is to stop. -/
def takePending (me : Inner) : Inner × List OutFrame × Bool :=
  ({ me with
      pending := []
      credit := []
      inflightCredit := me.inflightCredit ++ me.credit },
    me.pending, me.stop)

/-- The loop of `credit_written`: the handles to wake, each once. -/
def creditAll (me : Inner) (woken : List Nat) : List (Nat × Nat) → Inner × List Nat
  | [] => (me, woken)
  | (sid, n) :: batch =>
    match me.streams.lookup sid with
    | none => me.creditAll woken batch
    | some e =>
      let me := me.setStream sid { e with sendBuffered := e.sendBuffered - n, turnFrames := 0 }
      me.creditAll (if sid ∈ woken then woken else woken ++ [sid]) batch

/-- `credit_written`. -/
def creditWritten (me : Inner) : Inner × List Nat :=
  { me with inflightCredit := [] }.creditAll [] me.inflightCredit

/-- `has_pending`. -/
def hasPending (me : Inner) : Bool := !me.pending.isEmpty

/-- `next_capacity_wake`. -/
def nextCapacityWake (me : Inner) : Inner × Option Nat := me.admitCapacityFront.1.sendFront

/-! ### The body writers -/

/-- `writer_start`. -/
def writerStart (me : Inner) : Inner × Bool :=
  if me.error.isSome || me.draining then (me, false)
  else ({ me with writers := me.writers + 1 }, true)

/-- `writer_end`. -/
def writerEnd (me : Inner) : Inner × Bool :=
  let me := { me with writers := me.writers - 1 }
  (me, me.writers = 0 && me.draining)

/-- `release_writers`. -/
def releaseWriters (me : Inner) : Inner × Bool :=
  let me := { me with draining := true }
  (me, me.writers = 0)

/-! ### Closing the connection -/

/-- `send_goaway`. -/
def sendGoaway (me : Inner) (reason : Reason) (debugData : Bytes) : Inner × Flags :=
  let before := me.pending.length
  let me := me.emit (.goAway me.goawayLastStreamId reason debugData)
  (me, me.wakeFlag before)

/-- The error `fail` records: the exception it is given, or a closure. -/
def failError (exc : Option Err) (message : String) : ConnError :=
  match exc with
  | some e => .py e
  | none => .closed message

/-- `fail`: the first error recorded stays. -/
def fail (me : Inner) (exc : Option Err) (message : String) : Inner × List (Nat × Stopped) :=
  let error := match me.error with
    | some err => some err
    | none => some (failError exc message)
  { me with error := error }.failAll

/-- `begin_graceful_shutdown`. -/
def beginGracefulShutdown (me : Inner) : Inner × Flags :=
  if me.graceful then (me, .none)
  else
    let before := me.pending.length
    let me := ({ me with graceful := true }.emit (.goAway maxStreamIdValue .noError [])).emit
      (.ping shutdownPing false)
    (me, me.wakeFlag before)

end Httpunk.H2.Inner
