import Httpunk.Support.Mailbox
import Httpunk.H2.Driver.Connection

/-!
# H2 — Driver — Feed

What the readers see: the body queue of each stream and the event of its head, as the acts of
`httpunk/h2/connection.py` fill and set them (`_dispatch`, `_notify_stopped`, `_notify_reset`),
and beside them a record of what the peer sent.

* `Signal`: one act on a handle that a reader sees.  `Sys.signals` are those of one step.
* `Message`: what was taken, of the message the peer sends on a stream, without an error.
* `Feed.step`: a step of the driver, with its signals performed.
-/

namespace Httpunk.H2

open Mailbox

/-- An item of a body queue: a chunk and whether it is budgeted, or the terminal item, which is
`None` for a clean end. -/
abbrev BodyItem : Type := Item (Bytes × Bool) (Option Stopped)

/-! ### Signals -/

/-- What the driver does to a handle that its readers can see. -/
inductive Signal where
  /-- The handle is handed to the application: `_on_request`, or what `_open_stream` returns. -/
  | surfaced (sid : Nat)
  /-- `headers_evt.set()`. -/
  | head (sid : Nat)
  /-- `body_send.send(..)`. -/
  | item (sid : Nat) (i : BodyItem)
  deriving DecidableEq

/-- `_notify_stopped`. -/
def notifyStopped (handle : Nat) (stop : Stopped) (notifyBody : Bool) : List Signal :=
  if notifyBody then [.head handle, .item handle (.last (some stop))] else []

/-- `_notify_reset`, where there is a handle to notify. -/
def notifyReset (handle : Option Nat) (stop : Option Stopped) : List Signal :=
  match handle with
  | none => []
  | some sid => [.head sid, .item sid (.last stop)]

/-- `_notify_stopped` of each stream of a GOAWAY, or of a failure. -/
def notifyAll (aborted : List (Nat × Stopped)) : List Signal :=
  aborted.flatMap fun a => notifyStopped a.1 a.2 true

/-- The end of a body. -/
def eofSignal (sid : Nat) (eof : Bool) : List Signal := if eof then [.item sid (.last none)] else []

/-- `_dispatch` after `recv_headers`. -/
def RecvHeadersVerdict.signals (v : RecvHeadersVerdict) : List Signal :=
  match v.kind, v.handle with
  | .opened, some sid => .surfaced sid :: eofSignal sid v.eof
  | .head, some sid => .head sid :: eofSignal sid v.eof
  | .trailers, some sid => [.item sid (.last none)]
  | _, _ => []

/-- `_dispatch` after `recv_data`. -/
def RecvDataVerdict.signals (v : RecvDataVerdict) : List Signal :=
  match v.handle with
  | none => []
  | some sid =>
    (v.payload.map fun p => Signal.item sid (.chunk (p, v.budgeted))).toList ++ eofSignal sid v.eof

/-- The signals of a call that raises nothing. -/
def okSignals {α : Type} (signals : α → List Signal) : Except Err α → List Signal
  | .ok v => signals v
  | .error _ => []

namespace Inner

/-- The signals of `_dispatch`. -/
def dispatchSignals (me : Inner) : Frame → List Signal
  | .headers f => okSignals RecvHeadersVerdict.signals (me.recvHeaders f (me.role = .server)).2
  | .data f => okSignals RecvDataVerdict.signals (me.recvData f).2
  | .goAway f => okSignals (fun v => notifyAll v.1) (me.recvGoAway f).2
  | .rstStream f =>
    okSignals (fun v => v.elim [] fun v => notifyStopped v.handle v.stop v.notifyBody)
      (me.recvReset f).2
  | .windowUpdate _ | .settings _ | .ping _ | .priority _ | .streamError _ _ _ => []

/-- The signals after a send: the reader whose unread body was reset. -/
def sendSignals (r : Except Err SendVerdict) : List Signal :=
  okSignals (fun v => notifyReset v.handle v.readerStop) r

/-- The signals of a call. -/
def callSignals (me : Inner) : Call → List Signal
  | .openStream request endStream isHead =>
    okSignals (fun sid => (sid.map Signal.surfaced).toList)
      (me.openStream request endStream isHead).2
  | .sendData sid data offset endStream => sendSignals (me.sendData sid data offset endStream).2
  | .sendTrailers sid trailers => sendSignals (me.sendTrailers sid trailers).2
  | .sendResponseHead sid status fields endStream date =>
    sendSignals (me.sendResponseHead sid status fields endStream date).2
  | .resetStream sid reason initiator =>
    let v := (me.resetStreamCall sid reason initiator).2
    notifyReset v.handle v.stop
  | .acloseBody sid =>
    let v := (me.acloseBody sid).2
    notifyReset v.handle v.stop
  | .fail exc message => notifyAll (me.fail exc message).2
  | _ => []

end Inner

namespace Sys

/-- The signals of the read pump's step after an error. -/
def pumpSignals (s : Sys) : List Signal :=
  match s.pump with
  | .resetting sid reason =>
    okSignals (fun v => notifyReset v.handle v.stop) (s.inner.resetOnError sid reason).2
  | .failing e => notifyAll (s.inner.fail (some e) "").2
  | .running | .closing _ _ _ | .done => []

/-- The signals of a step. -/
def signals (s : Sys) : Action → List Signal
  | .recv f => s.inner.dispatchSignals f
  | .pump => s.pumpSignals
  | .call c => s.inner.callSignals c
  | .raised _ | .reply | .flush | .tick _ | .rehash _ => []

end Sys

/-- The items put on the queue of `k`. -/
def itemsOf (k : Nat) (signals : List Signal) : List BodyItem :=
  signals.filterMap fun
    | .item sid i => if sid = k then some i else none
    | .surfaced _ | .head _ => none

/-! ### What the peer sent -/

/-- What was taken of a message: the payloads of its DATA frames, empty ones only with
END_STREAM; the length last declared by a head; whether its head ended it and was a 204 or a 304
or declared no length of its own; and whether it was received to its end. -/
structure Message where
  payloads : List Bytes := []
  declared : Option Nat := none
  bare : Bool := false
  complete : Bool := false
  deriving DecidableEq

namespace Message

/-- The payload bytes taken. -/
def bytes (m : Message) : Nat := (m.payloads.map List.length).sum

/-- A head, interim or final. -/
def head (m : Message) (f : Headers) : Message :=
  { m with
    declared := f.contentLength.or m.declared
    bare := f.endStream &&
      (f.status == some 204 || f.status == some 304 || f.contentLength.isNone)
    complete := f.endStream }

/-- A DATA frame. -/
def data (m : Message) (f : Data) : Message :=
  { m with
    payloads := if f.data = [] ∧ f.endStream = false then m.payloads else m.payloads ++ [f.data]
    complete := f.endStream }

end Message

namespace Inner

/-- The receive side of a stored stream. -/
def side (me : Inner) (k : Nat) : Option RecvSide :=
  (me.streams.lookup k).map fun e => e.state.recvSide

/-- The message of `k` after the frame `f`, which raised nothing; `opened` says that it opened
the stream. -/
def taken (me : Inner) (f : Frame) (opened : Bool) (k : Nat) (m : Message) : Message :=
  match f with
  | .headers f =>
    if f.streamId ≠ k then m
    else
      match me.side k with
      | some (.receiving .awaitingHeaders) => m.head f
      | some (.receiving .streaming) => { m with complete := f.endStream }
      | _ => if opened then m.head f else m
  | .data f =>
    if f.streamId ≠ k then m
    else
      match me.side k with
      | some (.receiving .streaming) => m.data f
      | _ => m
  | _ => m

end Inner

/-! ### The system with its readers -/

/-- The driver with the body queues, the head events and the handles handed out; the messages
taken, the streams whose request was a HEAD, and those whose reader an error reset left untold. -/
structure Feed where
  sys : Sys
  queue : Nat → List BodyItem
  headSet : Nat → Bool
  surfaced : Nat → Bool
  message : Nat → Message
  toHead : Nat → Bool
  lost : Nat → Bool

namespace Feed

/-- Before anything is received. -/
def init (cfg : Config) : Feed where
  sys := .init cfg
  queue := fun _ => []
  headSet := fun _ => false
  surfaced := fun _ => false
  message := fun _ => {}
  toHead := fun _ => false
  lost := fun _ => false

/-- The message of `k` after a step. -/
def messageAfter (f : Feed) (a : Sys.Action) (k : Nat) : Message :=
  match a with
  | .recv fr =>
    match (f.sys.inner.dispatch fr).2 with
    | .ok _ => f.sys.inner.taken fr (.surfaced k ∈ f.sys.signals a) k (f.message k)
    | .error _ => f.message k
  | _ => f.message k

/-- Whether the request of `k` is a HEAD, after a step. -/
def toHeadAfter (f : Feed) (a : Sys.Action) (k : Nat) : Bool :=
  match a with
  | .call (.openStream _ _ isHead) =>
    if .surfaced k ∈ f.sys.signals a then isHead else f.toHead k
  | _ => f.toHead k

/-- The stream receives nothing more, and its queue has no terminal item. -/
def untold (side : Option RecvSide) (queue : List BodyItem) : Bool :=
  match side with
  | some (.receiving _) => false
  | _ => (Mailbox.ending queue).isNone

/-- Whether an error reset of a handle whose reader waits told nobody, after a step: it was
refused, or it found the stream gone. -/
def lostAfter (f : Feed) (a : Sys.Action) (k : Nat) : Bool :=
  match a, f.sys.pump with
  | .pump, .resetting sid _ =>
    f.lost k || (f.surfaced k && sid == k && (itemsOf k (f.sys.signals a)).isEmpty &&
      untold (f.sys.inner.side k) (f.queue k))
  | _, _ => f.lost k

/-- One step, its signals performed. -/
def step (f : Feed) (a : Sys.Action) : Option Feed :=
  (f.sys.step a).map fun s => {
    sys := s
    queue := fun k => f.queue k ++ itemsOf k (f.sys.signals a)
    headSet := fun k => f.headSet k || .head k ∈ f.sys.signals a
    surfaced := fun k => f.surfaced k || .surfaced k ∈ f.sys.signals a
    message := f.messageAfter a
    toHead := f.toHeadAfter a
    lost := f.lostAfter a }

/-- The step as a relation. -/
def Step (f : Feed) (a : Sys.Action) (f' : Feed) : Prop := f.step a = some f'

end Feed

end Httpunk.H2
