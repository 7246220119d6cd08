import Httpunk.H2.Conn.Send
import Httpunk.H2.Conn.Control

/-!
# H2 — Driver — Connection

The driver of `httpunk/h2/connection.py` over the connection state: the read pump with its error
paths, the write pump's batches, and the calls of the application, in any interleaving.  Each
step is one locked call into the state with the acts its verdict asks for.

* `Inner.dispatch`: one received frame (`_dispatch`).
* `Call`: what the application, the writers and the closing of the connection may call.
* `Sys.step`: the whole system, the read pump being a state machine of its own.
-/

namespace Httpunk.H2

/-! ### Dispatch -/

/-- What a verdict asks of the driver: the flags for `_after`, the handles whose `window_evt` is
set, the handles told of a stop, the handle of a request to publish, and the handle a payload
was put on with the payload's length. -/
structure Acts where
  flags : Flags := .none
  windowWakes : List Nat := []
  stopped : List Nat := []
  opened : Option Nat := none
  delivered : Option (Nat × Nat) := none
  deriving DecidableEq

/-- The bytes put on a handle's body queue. -/
def Acts.deliveredTo (a : Acts) (sid : Nat) : Nat :=
  match a.delivered with
  | some (k, n) => if k = sid then n else 0
  | none => 0

/-- `_dispatch` after `recv_headers`. -/
def RecvHeadersVerdict.acts (v : RecvHeadersVerdict) : Acts where
  flags := v.flags
  opened := if v.kind = .opened then some v.streamId else none

/-- `_dispatch` after `recv_data`. -/
def RecvDataVerdict.acts (v : RecvDataVerdict) : Acts where
  flags := v.flags
  delivered :=
    match v.handle, v.payload with
    | some k, some p => some (k, p.length)
    | _, _ => none

/-- `_dispatch` after `recv_reset`. -/
def RecvResetVerdict.acts (v : RecvResetVerdict) : Acts where
  flags := v.flags
  stopped := [v.handle]

/-- `_dispatch`: the state the call leaves, and what to do or the exception it raises. -/
def Inner.dispatch (me : Inner) : Frame → Inner × Except Err Acts
  | .headers f =>
    let r := me.recvHeaders f (me.role = .server)
    (r.1, r.2.map RecvHeadersVerdict.acts)
  | .data f =>
    let r := me.recvData f
    (r.1, r.2.map RecvDataVerdict.acts)
  | .windowUpdate f =>
    let r := me.recvWindowUpdate f
    (r.1, r.2.map fun wake => { windowWakes := wake })
  | .settings f =>
    let r := me.recvSettings f
    (r.1, r.2.map fun v => { flags := v.flags, windowWakes := v.wake })
  | .ping f =>
    let r := me.recvPing f
    (r.1, .ok { flags := r.2 })
  | .goAway f =>
    let r := me.recvGoAway f
    (r.1, r.2.map fun v => { flags := v.2, stopped := v.1.map Prod.fst })
  | .rstStream f =>
    let r := me.recvReset f
    (r.1, r.2.map fun v => v.elim {} RecvResetVerdict.acts)
  | .priority _ => (me, .ok {})
  | .streamError sid code _ => (me, .error (streamErr sid code))

/-! ### Calls -/

/-- The calls into the state that do not come from the read pump. -/
inductive Call where
  | tryClaimSlot
  | releaseSlot
  | openStream (request : Except Err Block) (endStream isHead : Bool)
  | sendData (sid : Nat) (data : Bytes) (offset : Nat) (endStream : Bool)
  | sendTrailers (sid : Nat) (trailers : Fields)
  | sendResponseHead (sid status : Nat) (fields : Fields) (endStream : Bool) (date : String)
  | resetStream (sid : Nat) (reason : Reason) (initiator : Initiator)
  | acloseBody (sid : Nat)
  | releaseCapacity (sid n : Nat)
  | releaseDataFrame (sid n : Nat)
  | accepted (sid : Nat)
  | stopPump
  | writerStart
  | writerEnd
  | releaseWriters
  | creditWritten
  | nextCapacityWake
  | sendGoaway (reason : Reason) (debugData : Bytes)
  | fail (exc : Option Err) (message : String)
  | beginGracefulShutdown

/-- The acts after a reset verdict: the handle, if any, is notified. -/
def ResetVerdict.acts (v : ResetVerdict) : Acts where
  flags := v.flags
  stopped := v.handle.toList

/-- The acts after a send verdict: the reader whose unread body was reset is notified. -/
def SendVerdict.acts (v : SendVerdict) : Acts where
  flags := v.flags
  stopped := v.handle.toList

/-- The acts of a send that raises nothing. -/
def sendActs : Except Err SendVerdict → Acts
  | .ok v => v.acts
  | .error _ => {}

/-- The call, and the acts the driver performs after it. -/
def Inner.call (me : Inner) : Call → Inner × Acts
  | .tryClaimSlot => (me.tryClaimSlot.1, {})
  | .releaseSlot => (me.releaseSlotCount, {})
  | .openStream request endStream isHead => ((me.openStream request endStream isHead).1, {})
  | .sendData sid data offset endStream =>
    let r := me.sendData sid data offset endStream
    (r.1, sendActs r.2)
  | .sendTrailers sid trailers =>
    let r := me.sendTrailers sid trailers
    (r.1, sendActs r.2)
  | .sendResponseHead sid status fields endStream date =>
    let r := me.sendResponseHead sid status fields endStream date
    (r.1, sendActs r.2)
  | .resetStream sid reason initiator =>
    let r := me.resetStreamCall sid reason initiator
    (r.1, r.2.acts)
  | .acloseBody sid =>
    let r := me.acloseBody sid
    (r.1, r.2.acts)
  | .releaseCapacity sid n =>
    let r := me.releaseCapacity sid n
    (r.1, { flags := r.2 })
  | .releaseDataFrame sid n => (me.releaseDataFrame sid n, {})
  | .accepted sid => (me.accepted sid, {})
  | .stopPump => (me.stopPump, {})
  | .writerStart => (me.writerStart.1, {})
  | .writerEnd => (me.writerEnd.1, {})
  | .releaseWriters => (me.releaseWriters.1, {})
  | .creditWritten =>
    let r := me.creditWritten
    (r.1, { windowWakes := r.2 })
  | .nextCapacityWake =>
    let r := me.nextCapacityWake
    (r.1, { windowWakes := r.2.toList })
  | .sendGoaway reason debugData =>
    let r := me.sendGoaway reason debugData
    (r.1, { flags := r.2 })
  | .fail exc message =>
    let r := me.fail exc message
    (r.1, { stopped := r.2.map Prod.fst })
  | .beginGracefulShutdown =>
    let r := me.beginGracefulShutdown
    (r.1, { flags := r.2 })

/-! ### The read pump -/

/-- Where `_read_pump` stands. -/
inductive Pump where
  | running
  /-- A stream error was caught: `reset_on_error` is next. -/
  | resetting (sid : Nat) (reason : Reason)
  /-- A protocol violation was caught: `send_goaway` is next. -/
  | closing (reason : Reason) (debugData : Bytes) (exc : Err)
  /-- `_fail` is next. -/
  | failing (exc : Err)
  | done
  deriving DecidableEq

/-- The handlers of `_read_pump` around its loop.  Every `H2Error` is answered with a GOAWAY, under
its reason where it has one; any other exception fails the connection at once. -/
def Pump.raised (e : Err) : Pump :=
  match e with
  | .protocol reason _ debugData => .closing reason debugData.toUTF8.toList e
  | .flowControl reason => .closing reason [] e
  | .stream sid _ _ => .closing sid [] e
  | .user _ | .payloadTooBig _ _ => .closing .protocolError [] e
  | .value _ | .closed _ | .abort => .failing e

/-- The handler around `_dispatch`: a stream error resets its stream, unless the peer did. -/
def Pump.caught (e : Err) : Pump :=
  match e with
  | .stream sid reason initiator => if initiator = .remote then .running else .resetting sid reason
  | _ => .raised e

/-! ### The system -/

/-- The connection under its driver: the state, the read pump, the frames the writer has taken,
the frames dispatched so far, the payload bytes each reader was given and has not released, and
the handles told of a stop. -/
structure Sys where
  inner : Inner
  pump : Pump
  sent : List OutFrame
  received : List Frame
  owed : Nat → Nat
  notified : List Nat

namespace Sys

/-- The connection after its handshake. -/
def init (cfg : Config) : Sys where
  inner := (Inner.new cfg).begin
  pump := .running
  sent := []
  received := []
  owed := fun _ => 0
  notified := []

/-- Every frame queued so far, in order. -/
def log (s : Sys) : List OutFrame := s.sent ++ s.inner.pending

/-- What a step of the system is: the read pump dispatches a frame, meets an exception of the
transport or the decoder, makes its next step after an error, or asks for the GOAWAY reply; a
call is made; the writer takes what is pending; time passes; the map of streams is laid out
anew. -/
inductive Action where
  | recv (f : Frame)
  | raised (e : Err)
  | pump
  | reply
  | call (c : Call)
  | flush
  | tick (d : Nat)
  | rehash (m : Store Nat StreamEntry)

/-- The calls the driver makes: a client opens streams, and a reader releases what it was
given, once. -/
def allowed (s : Sys) : Call → Bool
  | .openStream _ _ _ => s.inner.role = .client
  | .releaseCapacity sid n => n ≤ s.owed sid
  | _ => true

/-- What is owed after a call. -/
def owedAfter (s : Sys) : Call → Nat → Nat
  | .releaseCapacity sid n => fun k => if k = sid then s.owed k - n else s.owed k
  | _ => s.owed

/-- A frame dispatched: its acts performed, or its exception caught. -/
def recv (s : Sys) (f : Frame) : Sys :=
  let r := s.inner.dispatch f
  let s := { s with inner := r.1, received := s.received ++ [f] }
  match r.2 with
  | .ok a => { s with
      owed := fun k => s.owed k + a.deliveredTo k
      notified := s.notified ++ a.stopped }
  | .error e => { s with pump := .caught e }

/-- The read pump's next step once it has caught an error. -/
def pumpStep (s : Sys) : Option Sys :=
  match s.pump with
  | .resetting sid reason =>
    let r := s.inner.resetOnError sid reason
    match r.2 with
    | .ok v => some { s with
        inner := r.1, pump := .running, notified := s.notified ++ v.handle.toList }
    | .error e => some { s with inner := r.1, pump := .raised e }
  | .closing reason debugData e =>
    some { s with inner := (s.inner.sendGoaway reason debugData).1, pump := .failing e }
  | .failing e =>
    let r := s.inner.fail (some e) ""
    some { s with inner := r.1, pump := .done, notified := s.notified ++ r.2.map Prod.fst }
  | .running | .done => none

/-- The `maybe_goaway_reply` of the read pump, which ends with the connection. -/
def reply (s : Sys) : Sys :=
  let r := s.inner.maybeGoawayReply
  { s with inner := r.1, pump := if r.2.connDone then .done else s.pump }

/-- A call with its acts performed. -/
def call (s : Sys) (c : Call) : Sys :=
  let r := s.inner.call c
  { s with inner := r.1, owed := s.owedAfter c, notified := s.notified ++ r.2.stopped }

/-- The writer takes the pending frames. -/
def flush (s : Sys) : Sys :=
  let r := s.inner.takePending
  { s with inner := r.1, sent := s.sent ++ r.2.1 }

/-- One step, where it can be taken. -/
def step (s : Sys) : Action → Option Sys
  | .recv f => if s.pump = .running then some (s.recv f) else none
  | .raised e => if s.pump = .running then some { s with pump := .raised e } else none
  | .pump => s.pumpStep
  | .reply => if s.pump = .running then some s.reply else none
  | .call c => if s.allowed c then some (s.call c) else none
  | .flush => some s.flush
  | .tick d => some { s with inner := { s.inner with now := s.inner.now + d } }
  | .rehash m =>
    if s.inner.streams.entries.Perm m.entries then
      some { s with inner := { s.inner with streams := m } }
    else none

/-- A step of the driver that fails the connection. -/
def fails (s : Sys) : Action → Bool
  | .call (.fail _ _) => true
  | .pump => match s.pump with
    | .failing _ => true
    | _ => false
  | _ => false

end Sys

end Httpunk.H2
