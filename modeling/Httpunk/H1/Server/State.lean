import Httpunk.H1.Wire

/-!
# H1 — Server — State

`H1ServerState` of `src/src/h1/conn.rs`: the connection and its current request, and each method
as one step on them.  Times are numbers, and a Python object a method is handed (an event, a task)
is named by a number.

The request bodies' decoders are shared by the state and the handles, so they stand beside the
state under their request's number (`Inner.decoders`).
-/

namespace Httpunk.H1

/-- `Watcher`: the mid-message watcher, named by the number of its `done` event. -/
structure Watcher where
  done : Nat
  handle : Option Nat := none
  data : Option Bytes := none
  error : Bool := false
  completed : Bool := false
  deriving DecidableEq

/-- `Current`: the current request. -/
structure Current where
  seq : Nat := 0
  /-- The state still holds the decoder of the request. -/
  hasDecoder : Bool := false
  expectContinue : Bool := false
  http10 : Bool := false
  requestKeepAlive : Bool := false
  isUpgrade : Bool := false
  isConnect : Bool := false
  upgradeRequest : Bool := false
  responded : Bool := false
  headPending : Bool := false
  responseDone : Bool := true
  bodyDone : Bool := true
  readingBody : Bool := false
  continueSent : Bool := false
  peerClosed : Bool := false
  headNegotiated : Bool := false
  isSwitch : Bool := false
  keepAlive : Bool := false
  watchWanted : Bool := false
  deriving DecidableEq

/-- `Inner` of the server state, with the read buffer of its codec. -/
structure Inner (W : Wire) where
  lim : Limits
  /-- The read buffer of the codec. -/
  buf : Bytes
  decoders : Nat → Option (BodyDecoder W)
  transport : Bool
  closed : Bool
  reusable : Bool
  upgraded : Bool
  halfClose : Bool
  keepAliveEnabled : Bool
  shutdownRequested : Bool
  idleReadParked : Bool
  headReadSince : Option Nat
  watcher : Option Watcher
  current : Current
  nextSeq : Nat

/-- The verdicts of `begin_read` and `drain_done`: `NEXT_…` and `READ_…`. -/
inductive Next where
  | none
  | raise
  | close
  | drain
  | parse
  | shutdown
  | watcher (done : Nat)
  | transport
  | eof
  deriving DecidableEq

/-- The verdicts of `respond_head` and `detach`: `REQ_…`. -/
inductive Req where
  | ok
  | already
  | stale
  | parked
  | peerClosed
  | continue
  deriving DecidableEq

/-- What the encoder makes of a response head: the head, and its two verdicts. -/
structure Encoded where
  head : Bytes
  isLast : Bool
  closeDelimited : Bool
  deriving DecidableEq

namespace Inner

variable {W : Wire}

/-- `H1ServerState::new`, the bytes a protocol sniff read in the buffer (`_prime`). -/
def new (W : Wire) (lim : Limits) (keepAlive halfClose : Bool) (prime : Bytes) : Inner W where
  lim := lim
  buf := prime
  decoders := fun _ => none
  transport := true
  closed := false
  reusable := true
  upgraded := false
  halfClose := halfClose
  keepAliveEnabled := keepAlive
  shutdownRequested := false
  idleReadParked := false
  headReadSince := none
  watcher := none
  current := {}
  nextSeq := 1

def isCurrent (me : Inner W) (seq : Nat) : Bool := me.current.seq == seq && seq != 0

/-! ### The decoders -/

/-- The decoder of the current request, where the state holds one. -/
def decoder (me : Inner W) : Option (BodyDecoder W) :=
  if me.current.hasDecoder then me.decoders me.current.seq else none

/-- One call on the decoder of a request. -/
def setDecoder (me : Inner W) (seq : Nat) (d : BodyDecoder W) : Inner W :=
  { me with decoders := Function.update me.decoders seq (some d) }

/-- `feed_decoder_leftover`: the bytes past the body go back into the read buffer. -/
def feedDecoderLeftover (me : Inner W) : Inner W :=
  match me.decoder with
  | none => me
  | some d => { me.setDecoder me.current.seq d.takeBuffered with buf := me.buf ++ d.buf }

/-- `ready_for_next`. -/
def readyForNext (me : Inner W) : Inner W :=
  let me := me.feedDecoderLeftover
  { me with
    current := { me.current with hasDecoder := false, responseDone := true, bodyDone := true } }

/-- `close_now`: whether the transport is handed back to be closed. -/
def closeNow (me : Inner W) : Inner W × Bool :=
  let closed := { me with closed := true, reusable := false }
  if me.upgraded then (closed, false) else ({ closed with transport := false }, me.transport)

/-! ### The mid-message watcher -/

/-- `arm_decision`, and whether the watcher `done` was armed. -/
def armDecision (me : Inner W) (done : Nat) : Inner W × Bool :=
  let c := me.current
  if !c.watchWanted then (me, false)
  else if me.halfClose || me.closed || !me.transport || me.watcher.isSome then (me, false)
  else if !c.bodyDone || c.responseDone then (me, false)
  else if c.upgradeRequest && (!c.headNegotiated || c.isSwitch) then (me, false)
  else if me.buf ≠ [] then (me, false)
  else if me.decoder.any fun d => d.buf ≠ [] then (me.feedDecoderLeftover, false)
  else ({ me with watcher := some { done := done } }, true)

/-- `arm_watcher`. -/
def armWatcher (me : Inner W) (seq done : Nat) (want headNegotiated : Bool) : Inner W × Bool :=
  if !me.isCurrent seq then (me, false)
  else
    let c := me.current
    let me := { me with current := { c with
      headNegotiated := c.headNegotiated || headNegotiated
      watchWanted := c.watchWanted || want } }
    me.armDecision done

/-- `store_watcher_handle`, and whether the handle was refused. -/
def storeWatcherHandle (me : Inner W) (handle : Nat) : Inner W × Bool :=
  if me.closed then (me, true)
  else
    match me.watcher with
    | some w =>
      if w.handle.isNone then ({ me with watcher := some { w with handle := some handle } }, false)
      else (me, true)
    | none => (me, true)

/-- `watcher_completed`, and whether the caller resolves `peer_closed()`. -/
def watcherCompleted (me : Inner W) (data : Option Bytes) (error : Bool) : Inner W × Bool :=
  match me.watcher with
  | none => (me, false)
  | some w =>
    let me := { me with
      watcher := some { w with data := data, error := error, completed := true } }
    if data.all (· = []) && !me.current.responseDone && !me.current.peerClosed then
      ({ me with reusable := false, current := { me.current with peerClosed := true } }, true)
    else (me, false)

/-- `watcher_aborted`. -/
def watcherAborted (me : Inner W) : Inner W :=
  { me with watcher := me.watcher.map fun w => { w with completed := true } }

/-- `watcher_parked`. -/
def watcherParked (me : Inner W) : Bool := me.watcher.any fun w => !w.completed

/-- `watcher_done`. -/
def watcherDone (me : Inner W) : Option Nat := me.watcher.map Watcher.done

/-- `take_watcher_handle`. -/
def takeWatcherHandle (me : Inner W) : Inner W × Option Nat :=
  ({ me with watcher := me.watcher.map fun w => { w with handle := none } },
    me.watcher.bind Watcher.handle)

/-- `take_watcher_result`. -/
def takeWatcherResult (me : Inner W) : Inner W × Option Bytes × Bool :=
  match me.watcher with
  | none => (me, none, false)
  | some w =>
    let kept := if w.handle.isNone then none else some { w with data := none, error := false }
    ({ me with watcher := kept }, w.data, w.error)

/-! ### The accept loop -/

/-- `read_verdict`. -/
def readVerdict (me : Inner W) (now : Nat) : Inner W × Next :=
  let since := some (me.headReadSince.getD now)
  if me.buf ≠ [] then ({ me with headReadSince := since }, .parse)
  else if me.shutdownRequested then (me, .shutdown)
  else
    match me.watcher with
    | some w => ({ me with idleReadParked := true, headReadSince := since }, .watcher w.done)
    | none =>
      if me.transport then
        ({ me with idleReadParked := true, headReadSince := since }, .transport)
      else (me, .eof)

/-- `begin_read`. -/
def beginRead (me : Inner W) (now : Nat) : Inner W × Next :=
  if me.closed || !me.reusable then (me, .none)
  else if me.current.seq != 0 && !me.current.responseDone then (me, .raise)
  else if me.current.seq != 0 && !me.current.bodyDone then
    if me.current.readingBody then (me.closeNow.1, .close)
    else ({ me with current := { me.current with readingBody := true } }, .drain)
  else me.readyForNext.readVerdict now

/-- `drain_done`. -/
def drainDone (me : Inner W) (complete : Bool) (now : Nat) : Inner W × Next :=
  let me := { me with current := { me.current with readingBody := false } }
  if !complete then (me.closeNow.1, .close)
  else
    ({ me with current := { me.current with bodyDone := true } }.readyForNext).readVerdict now

/-- `unpark_idle_read`, and whether the connection was closed. -/
def unparkIdleRead (me : Inner W) : Inner W × Bool :=
  ({ me with idleReadParked := false }, me.closed)

/-- `begin_request`. -/
def beginRequest (me : Inner W) (head : RequestHead) (decoder : BodyDecoder W) : Inner W :=
  { me.setDecoder me.nextSeq decoder with
    nextSeq := me.nextSeq + 1
    current := {
      seq := me.nextSeq
      hasDecoder := true
      expectContinue := head.expectContinue
      http10 := head.http10
      requestKeepAlive := head.keepAlive
      isUpgrade := head.isUpgrade
      isConnect := head.isConnect
      upgradeRequest := head.isUpgrade || head.isConnect
      responseDone := false
      bodyDone := decoder.done } }

/-- `accept_head`: the head that became the current request, nothing, or a parse error. -/
def acceptHead (me : Inner W) (data : Bytes) : Inner W × Except Unit (Option RequestHead) :=
  let me := { me with idleReadParked := false }
  if me.closed then (me, .ok none)
  else
    let buf := me.buf ++ data
    match W.parseHead me.lim buf with
    | .more => ({ me with buf := buf }, .ok none)
    | .failed => ({ me with buf := buf }, .error ())
    | .head head n =>
      let decoder := BodyDecoder.new W head.kind (head.contentLength.getD 0) (buf.drop n)
      ({ me with buf := [], headReadSince := none }.beginRequest head decoder, .ok (some head))

/-- `head_read_overdue`, and whether the head is overdue. -/
def headReadOverdue (me : Inner W) (timeout now : Nat) : Inner W × Bool :=
  if me.closed then (me, false)
  else
    match me.headReadSince with
    | none => (me, false)
    | some since => if now - since < timeout then (me, false) else (me.closeNow.1, true)

/-- `fail_read`. -/
def failRead (me : Inner W) : Inner W := me.closeNow.1

/-- `stop_serving`. -/
def stopServing (me : Inner W) : Inner W := { me with closed := true, reusable := false }

/-- `mark_closed`, and the watcher's event. -/
def markClosed (me : Inner W) : Inner W × Option Nat := (me.closeNow.1, me.watcherDone)

/-- `mark_unusable`. -/
def markUnusable (me : Inner W) : Inner W := { me with reusable := false }

/-- `request_shutdown`. -/
def requestShutdown (me : Inner W) : Inner W :=
  let me := { me with reusable := false, shutdownRequested := true }
  if me.idleReadParked then me.closeNow.1 else me

/-! ### The current request -/

/-- `try_send_continue`. -/
def trySendContinue (me : Inner W) (seq : Nat) : Inner W × Bool :=
  let c := me.current
  if !me.isCurrent seq then (me, false)
  else if !c.expectContinue || c.continueSent || c.responded || c.http10 then (me, false)
  else ({ me with current := { c with continueSent := true } }, true)

/-- `begin_body_read`. -/
def beginBodyRead (me : Inner W) (seq : Nat) : Inner W × Bool :=
  if !me.isCurrent seq || me.current.bodyDone || me.current.readingBody then (me, false)
  else ({ me with current := { me.current with readingBody := true } }, true)

/-- `end_body_read`. -/
def endBodyRead (me : Inner W) (seq : Nat) (complete : Bool) : Inner W :=
  if !me.isCurrent seq then me
  else { me with current := { me.current with
    readingBody := false, bodyDone := me.current.bodyDone || complete } }

/-- The end of `respond_head_locked`: the head is encoded, its decisions recorded, and the watcher
armed where it is wanted. -/
def encodeHead (me : Inner W) (status : Nat) (encoded : Option Encoded) (done : Nat)
    (want : Bool) : Inner W × Except Unit (Req × Bool) :=
  if me.current.peerClosed then (me, .ok (.peerClosed, false))
  else
    match encoded with
    | none => (me, .error ())
    | some enc =>
      let c := me.current
      let me := { me with current := { c with
        isSwitch := (status == 101 && c.isUpgrade) ||
          (c.isConnect && 200 ≤ status && status < 300)
        keepAlive := !enc.isLast && !enc.closeDelimited
        headNegotiated := true
        watchWanted := c.watchWanted || want } }
      let r := me.armDecision done
      (r.1, .ok (.ok, r.2))

/-- `respond_head`: the verdict, and whether the watcher `done` was armed.  `encoded` is what the
encoder makes of the head, should it come to that. -/
def respondHead (me : Inner W) (seq status : Nat) (encoded : Option Encoded) (done : Nat)
    (want : Bool) : Inner W × Except Unit (Req × Bool) :=
  let c := me.current
  if !me.isCurrent seq then (me, .ok (.stale, false))
  else if c.headPending then
    { me with current := { c with headPending := false } }.encodeHead status encoded done want
  else if c.responded then (me, .ok (.already, false))
  else if c.continueSent then
    ({ me with current := { c with responded := true, headPending := true } },
      .ok (.continue, false))
  else { me with current := { c with responded := true } }.encodeHead status encoded done want

/-- `finish_response`: the bytes of the tunnel, where the response switches. -/
def finishResponse (me : Inner W) (seq : Nat) : Inner W × Option Bytes :=
  if !me.isCurrent seq then (me, none)
  else
    let me := { me with current := { me.current with responseDone := true } }
    if me.current.isSwitch then
      let me := me.feedDecoderLeftover
      ({ me with
          buf := [], upgraded := true, closed := true, reusable := false, transport := false },
        some me.buf)
    else
      let me := { me with reusable := me.reusable && me.current.keepAlive }
      if me.reusable then (me, none) else (me.closeNow.1, none)

/-- `fail_response`. -/
def failResponse (me : Inner W) (seq : Nat) : Inner W :=
  let done := { me with current := { me.current with responseDone := true } }
  if me.isCurrent seq then done.closeNow.1 else me.closeNow.1

/-- `detach`: the verdict, and the bytes of the tunnel. -/
def detach (me : Inner W) (seq : Nat) : Inner W × Req × Option Bytes :=
  if !me.isCurrent seq then (me, .stale, none)
  else if me.current.responded then (me, .already, none)
  else if me.watcherParked then (me, .parked, none)
  else
    let me := { me with current := { me.current with responded := true, responseDone := true } }
    let me := me.feedDecoderLeftover
    let leftover := me.buf ++ (me.watcher.bind Watcher.data).getD []
    ({ me with
        buf := []
        watcher := me.watcher.map fun (w : Watcher) => { w with data := none }
        upgraded := true, closed := true, reusable := false, transport := false },
      .ok, some leftover)

end Inner

end Httpunk.H1
