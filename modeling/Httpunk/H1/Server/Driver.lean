import Httpunk.H1.Server.State

/-!
# H1 — Server — Driver

The tasks of `httpunk/h1/server.py` over the connection state, each step of a task one call into
the state, one call on a body decoder, or one read of the transport that ends: the one task that
calls `next_request`, the tasks that read bodies, the mid-message watchers and the tasks that arm
them, the responders, and the tasks that close the connection.

* `Sys`: the state, where each task stands, and a record of what went through.
* `Sys.step`: one step, where it can be taken.

A read of the transport ends when its task takes the step, with any bytes, with the end of the
stream, or with an error (a cancellation among them).
-/

namespace Httpunk.H1

/-- How a read of the transport ends. -/
inductive Arrival where
  | bytes (data : Bytes) (some_ : data ≠ [])
  | eof
  | error
  deriving DecidableEq

/-- The data of a read that raised nothing. -/
def Arrival.data : Arrival → Bytes
  | .bytes data _ => data
  | .eof | .error => []

/-! ### The tasks -/

/-- A task in `aiter_bytes` of the request `seq`, by its next step. -/
inductive BodyTask where
  | idle
  /-- `decode()`: also where the consumer of the chunks may stop. -/
  | decoding (seq : Nat)
  /-- `is_complete`. -/
  | checking (seq : Nat)
  /-- `begin_body_read`. -/
  | beginning (seq : Nat)
  /-- `transport_ref` of `read_body_more`. -/
  | fetching (seq : Nat)
  | reading (seq : Nat)
  /-- `end_body_read(False)` after the read, which raised if it has nothing. -/
  | ending (seq : Nat) (data : Option Bytes)
  /-- `feed`, or `mark_eof` where the read was empty. -/
  | feeding (seq : Nat) (data : Bytes)
  /-- `end_body_read(True)`. -/
  | finishing (seq : Nat)
  /-- `mark_unusable`. -/
  | failing
  deriving DecidableEq

/-- `_drain_unread_body`, by its next step. -/
inductive DrainTask where
  /-- `current_decoder`. -/
  | fetching
  /-- `transport_ref`. -/
  | looking
  /-- The first `decode()`. -/
  | decoding
  /-- `is_complete` after it. -/
  | checking
  /-- `watcher_parked`. -/
  | asking
  /-- `receive_nowait`. -/
  | reading
  /-- `feed`. -/
  | feeding (data : Bytes)
  /-- The second `decode()`. -/
  | again
  /-- The last `is_complete`. -/
  | judging
  /-- `drain_done`. -/
  | done (complete : Bool)
  deriving DecidableEq

/-- The task in `next_request`, by its next step. -/
inductive HeadTask where
  | idle
  | draining (d : DrainTask)
  /-- `accept_head(b"")`. -/
  | parsing
  /-- The event of the watcher `w`. -/
  | waiting (w : Nat)
  /-- `take_watcher_handle`. -/
  | taking (w : Nat)
  /-- The join of the watcher `h`. -/
  | joining (w h : Nat)
  /-- `take_watcher_result`. -/
  | result (w : Nat)
  | reading
  /-- `accept_head(data)`; `src` is the watcher that read the bytes. -/
  | accepting (src : Option Nat) (data : Bytes)
  /-- `unpark_idle_read` after an error. -/
  | raised
  /-- `unpark_idle_read` after an empty read. -/
  | empty
  /-- `unpark_idle_read` after a cancellation. -/
  | cancelled
  /-- `watcher_done` of `_recv_head_bytes`. -/
  | more
  /-- `transport_ref` of `_recv_head_bytes`. -/
  | fetching
  /-- `fail_read`. -/
  | failed
  /-- `stop_serving`. -/
  | stopping
  /-- `next_request` returned `None`. -/
  | ended
  deriving DecidableEq

/-- The task that armed a watcher, by its next step. -/
inductive ArmTask where
  | idle
  /-- `spawn_without_results`. -/
  | spawning
  /-- `store_watcher_handle`. -/
  | storing
  /-- The join of the watcher whose handle was refused. -/
  | joining
  | ended
  deriving DecidableEq

/-- `_watch_mid_message`, by its next step. -/
inductive WatchTask where
  | idle
  /-- `transport_ref`. -/
  | starting
  | reading
  /-- `watcher_completed`. -/
  | completing (a : Arrival)
  /-- `watcher_aborted`. -/
  | aborting
  /-- `done.set()`. -/
  | setting
  | ended
  deriving DecidableEq

/-- A task in `close`, by its next step. -/
inductive CloseTask where
  | idle
  /-- The event of the watcher `w`. -/
  | waiting (w : Nat)
  /-- `take_watcher_handle`. -/
  | taking (w : Nat)
  /-- The join of the watcher `h`. -/
  | joining (w h : Nat)
  | ended
  deriving DecidableEq

/-- A task in `_respond_head`: it has not called yet, or it waits for the `100 Continue` of the
request before it calls again. -/
inductive Caller where
  | idle
  | waiting (seq : Nat)
  deriving DecidableEq

/-- The `100 Continue` of a request. -/
inductive Continue where
  | none
  | writing
  | written
  deriving DecidableEq

/-! ### The system -/

/-- The connection under its driver.  Of the record beside the tasks: the bytes the transport
gave; the heads of the requests; the bytes each body decoder gave out, to a reader or to the drain;
how often the bytes of a watcher went to the head parser; whether a read found the end of the
transport or an error; who first claimed the response of each request, and who was told to send
its head; and the bytes handed over with the transport. -/
structure Sys (W : Wire) where
  inner : Inner W
  head : HeadTask
  bodies : Nat → BodyTask
  arms : Nat → ArmTask
  watches : Nat → WatchTask
  closers : Nat → CloseTask
  callers : Nat → Caller
  continues : Nat → Continue
  received : Bytes
  requests : List RequestHead
  delivered : Nat → Bytes
  parsed : Nat → Nat
  ended : Bool
  claimant : Nat → Option Nat
  released : List (Nat × Nat)
  tunnel : Option Bytes

/-- The options of a server connection. -/
structure Config where
  lim : Limits := {}
  keepAlive : Bool := true
  halfClose : Bool := false
  prime : Bytes := []

namespace Sys

variable {W : Wire}

def init (W : Wire) (cfg : Config) : Sys W where
  inner := .new W cfg.lim cfg.keepAlive cfg.halfClose cfg.prime
  head := .idle
  bodies := fun _ => .idle
  arms := fun _ => .idle
  watches := fun _ => .idle
  closers := fun _ => .idle
  callers := fun _ => .idle
  continues := fun _ => .none
  received := cfg.prime
  requests := []
  delivered := fun _ => []
  parsed := fun _ => 0
  ended := false
  claimant := fun _ => none
  released := []
  tunnel := none

/-- What may happen. -/
inductive Action where
  /-- `next_request`, up to the verdict of `begin_read`. -/
  | nextRequest (now : Nat)
  /-- The next step of `next_request`. -/
  | head (a : Arrival) (now : Nat)
  /-- `next_request` is cancelled while it waits. -/
  | cancelHead
  /-- `t` iterates over the body of `seq`. -/
  | readBody (t seq : Nat)
  | body (t : Nat) (a : Arrival)
  /-- The consumer of the body leaves: for good, or with the generator closed. -/
  | leaveBody (t : Nat) (closed : Bool)
  /-- `_arm_watcher`, with `w` for its event. -/
  | arm (w seq : Nat) (want headNegotiated : Bool)
  | armer (w : Nat)
  | watch (w : Nat) (a : Arrival)
  /-- `respond_head` by the task `c`, with `w` for the event. -/
  | respond (c seq status : Nat) (encoded : Option Encoded) (w : Nat) (want : Bool)
  /-- The task `c` is cancelled while it waits for the `100 Continue`. -/
  | leaveCaller (c : Nat)
  | tryContinue (seq : Nat)
  | continueWritten (seq : Nat)
  | finishResponse (seq : Nat)
  | failResponse (seq : Nat)
  | detach (seq : Nat)
  /-- `close` by the task `t`. -/
  | close (t : Nat)
  | closer (t : Nat)
  | shutdown
  /-- The deadline watchdog wakes. -/
  | overdue (timeout now : Nat)
  deriving DecidableEq

/-- The end of a read: its bytes join those received. -/
def arrive (s : Sys W) (a : Arrival) : Sys W :=
  { s with received := s.received ++ a.data, ended := s.ended || a.data = [] }

/-- `decode()` of the decoder of `seq`, its chunk given out. -/
def decode (s : Sys W) (seq : Nat) (d : BodyDecoder W) : Sys W × Except Unit (Option Bytes) :=
  let r := d.decode
  let chunk := match r.2 with
    | .ok (some chunk) => chunk
    | _ => []
  ({ s with
    inner := s.inner.setDecoder seq r.1
    delivered := Function.update s.delivered seq (s.delivered seq ++ chunk) }, r.2)

/-! ### `next_request` -/

/-- What `next_request` does with the verdict of `begin_read` or `drain_done`, or raises. -/
def verdict (s : Sys W) (r : Inner W × Next) : Sys W :=
  let s := { s with inner := r.1 }
  match r.2 with
  | .raise => { s with head := .idle }
  | .none | .close => { s with head := .ended }
  | .drain => { s with head := .draining .fetching }
  | .parse => { s with head := .parsing }
  | .watcher w => { s with head := .waiting w }
  | .transport => { s with head := .reading }
  | .shutdown | .eof => { s with head := .stopping }

/-- `accept_head`: a request, more to read, or a parse error. -/
def accept (s : Sys W) (src : Option Nat) (data : Bytes) : Sys W :=
  let r := s.inner.acceptHead data
  let s := { s with inner := r.1, parsed := match src with
    | none => s.parsed
    | some w => if s.inner.closed then s.parsed else Function.update s.parsed w (s.parsed w + 1) }
  match r.2 with
  | .ok (some head) => { s with head := .idle, requests := s.requests ++ [head] }
  | .ok none => { s with head := .more }
  | .error _ => { s with head := .failed }

/-- The next step of the drain; an exception of the decoder ends it. -/
def drainStep (s : Sys W) (a : Arrival) (now : Nat) : DrainTask → Sys W
  | .fetching =>
    match s.inner.decoder with
    | none => { s with head := .draining (.done false) }
    | some _ => { s with head := .draining .looking }
  | .looking =>
    { s with head := .draining (if s.inner.transport then .decoding else .done false) }
  | .decoding =>
    match s.inner.decoder with
    | none => { s with head := .draining (.done false) }
    | some d =>
      let r := s.decode s.inner.current.seq d
      match r.2 with
      | .ok none => { r.1 with head := .draining .checking }
      | _ => { r.1 with head := .draining .judging }
  | .checking =>
    { s with head := .draining (if s.inner.decoder.any BodyDecoder.done then .judging else .asking) }
  | .asking =>
    { s with head := .draining (if s.inner.watcherParked then .done false else .reading) }
  | .reading =>
    -- `receive_nowait` gives nothing where nothing is ready
    match a with
    | .bytes data _ => { s.arrive a with head := .draining (.feeding data) }
    | .eof | .error => { s with head := .draining .judging }
  | .feeding data =>
    match s.inner.decoder with
    | none => { s with head := .draining .judging }
    | some d => { s with
        inner := s.inner.setDecoder s.inner.current.seq (d.feed data), head := .draining .again }
  | .again =>
    match s.inner.decoder with
    | none => { s with head := .draining .judging }
    | some d => { (s.decode s.inner.current.seq d).1 with head := .draining .judging }
  | .judging =>
    { s with head := .draining (.done (s.inner.decoder.any BodyDecoder.done)) }
  | .done complete => s.verdict (s.inner.drainDone complete now)

/-- The next step of `next_request`. -/
def headStep (s : Sys W) (a : Arrival) (now : Nat) : Option (Sys W) :=
  match s.head with
  | .idle | .ended => none
  | .draining d => some (s.drainStep a now d)
  | .parsing => some (s.accept none [])
  | .waiting w => if s.watches w = .ended then some { s with head := .taking w } else none
  | .taking w =>
    let r := s.inner.takeWatcherHandle
    some { s with inner := r.1, head := match r.2 with
      | none => .result w
      | some h => .joining w h }
  | .joining w h => if s.watches h = .ended then some { s with head := .result w } else none
  | .result w =>
    let r := s.inner.takeWatcherResult
    let s := { s with inner := r.1 }
    if r.2.2 then some { s with head := .raised }
    else
      match r.2.1.getD [] with
      | [] => some { s with head := .empty }
      | x :: data => some { s with head := .accepting (some w) (x :: data) }
  | .reading =>
    match a with
    | .bytes data _ => some { s.arrive a with head := .accepting none data }
    | .eof => some { s.arrive a with head := .empty }
    | .error => some { s.arrive a with head := .raised }
  | .accepting src data => some (s.accept src data)
  | .raised =>
    let r := s.inner.unparkIdleRead
    some { s with inner := r.1, head := if r.2 then .stopping else .failed }
  | .empty => some { s with inner := s.inner.unparkIdleRead.1, head := .stopping }
  | .cancelled => some { s with inner := s.inner.unparkIdleRead.1, head := .idle }
  | .more =>
    match s.inner.watcherDone with
    | some w => some { s with head := .waiting w }
    | none => some { s with head := .fetching }
  | .fetching => some { s with head := if s.inner.transport then .reading else .empty }
  | .failed => some { s with inner := s.inner.failRead, head := .ended }
  | .stopping => some { s with inner := s.inner.stopServing, head := .ended }

/-! ### Bodies -/

/-- The next step of a task in `aiter_bytes`. -/
def bodyStep (s : Sys W) (t : Nat) (a : Arrival) : Option (Sys W) :=
  let go (s : Sys W) (b : BodyTask) : Option (Sys W) :=
    some { s with bodies := Function.update s.bodies t b }
  match s.bodies t with
  | .idle => none
  | .decoding seq =>
    (s.inner.decoders seq).bind fun d =>
      let r := s.decode seq d
      match r.2 with
      | .ok (some _) => go r.1 (.decoding seq)
      | .ok none => go r.1 (.checking seq)
      | .error _ => go r.1 .failing
  | .checking seq =>
    (s.inner.decoders seq).bind fun d => go s (if d.done then .finishing seq else .beginning seq)
  | .beginning seq =>
    let r := s.inner.beginBodyRead seq
    go { s with inner := r.1 } (if r.2 then .fetching seq else .failing)
  | .fetching seq => go s (if s.inner.transport then .reading seq else .ending seq none)
  | .reading seq =>
    match a with
    | .bytes data _ => go (s.arrive a) (.ending seq (some data))
    | .eof => go (s.arrive a) (.ending seq (some []))
    | .error => go (s.arrive a) (.ending seq none)
  | .ending seq data =>
    go { s with inner := s.inner.endBodyRead seq false } (match data with
      | some data => .feeding seq data
      | none => .failing)
  | .feeding seq data =>
    (s.inner.decoders seq).bind fun d =>
      let d := if data = [] then d.markEof else d.feed data
      go { s with inner := s.inner.setDecoder seq d } (.decoding seq)
  | .finishing seq => go { s with inner := s.inner.endBodyRead seq true } .idle
  | .failing => go { s with inner := s.inner.markUnusable } .idle

/-! ### Watchers -/

/-- The arming task of `w` goes on to spawn it, once it is armed. -/
def armed (s : Sys W) (w : Nat) (r : Inner W × Bool) : Sys W :=
  { s with inner := r.1, arms := if r.2 then Function.update s.arms w .spawning else s.arms }

/-- The next step of the task that armed `w`. -/
def armStep (s : Sys W) (w : Nat) : Option (Sys W) :=
  match s.arms w with
  | .idle | .ended => none
  | .spawning => some { s with
      arms := Function.update s.arms w .storing
      watches := Function.update s.watches w .starting }
  | .storing =>
    let r := s.inner.storeWatcherHandle w
    some { s with
      inner := r.1
      arms := Function.update s.arms w (if r.2 then .joining else .ended) }
  | .joining =>
    if s.watches w = .ended then some { s with arms := Function.update s.arms w .ended } else none

/-- The next step of the watcher `w`. -/
def watchStep (s : Sys W) (w : Nat) (a : Arrival) : Option (Sys W) :=
  let go (s : Sys W) (t : WatchTask) : Option (Sys W) :=
    some { s with watches := Function.update s.watches w t }
  match s.watches w with
  | .idle | .ended => none
  | .starting => go s (if s.inner.transport then .reading else .aborting)
  | .reading => go (s.arrive a) (.completing a)
  | .completing a =>
    let r := match a with
      | .bytes data _ => s.inner.watcherCompleted (some data) false
      | .eof => s.inner.watcherCompleted (some []) false
      | .error => s.inner.watcherCompleted none true
    go { s with inner := r.1 } .setting
  | .aborting => go { s with inner := s.inner.watcherAborted } .setting
  | .setting => go s .ended

/-! ### Responses and the end -/

/-- The first call for the response of the current request is on record. -/
def called (s : Sys W) (c seq : Nat) : Sys W :=
  if s.inner.isCurrent seq then
    { s with claimant := Function.update s.claimant seq ((s.claimant seq).or (some c)) }
  else s

/-- What the task `c` does with the verdict of `respond_head`. -/
def told (s : Sys W) (c seq w : Nat) (r : Inner W × Except Unit (Req × Bool)) : Sys W :=
  match r.2 with
  | .ok (.ok, armed) =>
    { s.armed w (r.1, armed) with
      callers := Function.update s.callers c .idle
      released := s.released ++ [(seq, c)] }
  | .ok (.continue, _) =>
    { s with inner := r.1, callers := Function.update s.callers c (.waiting seq) }
  | _ => { s with inner := r.1, callers := Function.update s.callers c .idle }

/-- `respond_head` by the task `c`. -/
def respondStep (s : Sys W) (c seq status : Nat) (encoded : Option Encoded) (w : Nat)
    (want : Bool) : Sys W :=
  (s.called c seq).told c seq w (s.inner.respondHead seq status encoded w want)

/-- The transport is handed over with the bytes of the tunnel. -/
def handOver (s : Sys W) (me : Inner W) (leftover : Option Bytes) : Sys W :=
  { s with inner := me, tunnel := s.tunnel.or leftover }

/-- The next step of a task in `close`. -/
def closeStep (s : Sys W) (t : Nat) : Option (Sys W) :=
  let go (s : Sys W) (c : CloseTask) : Option (Sys W) :=
    some { s with closers := Function.update s.closers t c }
  match s.closers t with
  | .idle | .ended => none
  | .waiting w => if s.watches w = .ended then go s (.taking w) else none
  | .taking w =>
    let r := s.inner.takeWatcherHandle
    go { s with inner := r.1 } (match r.2 with
      | none => .ended
      | some h => .joining w h)
  | .joining _ h => if s.watches h = .ended then go s .ended else none

/-- One step, where it can be taken. -/
def step (s : Sys W) : Action → Option (Sys W)
  | .nextRequest now =>
    if s.head = .idle ∨ s.head = .ended then some (s.verdict (s.inner.beginRead now)) else none
  | .head a now => s.headStep a now
  | .cancelHead =>
    match s.head with
    | .waiting _ | .joining _ _ | .reading => some { s with head := .cancelled }
    | _ => none
  | .readBody t seq =>
    if s.bodies t = .idle ∧ (s.inner.decoders seq).any (fun d => !d.done) then
      some { s with bodies := Function.update s.bodies t (.decoding seq) }
    else none
  | .body t a => s.bodyStep t a
  | .leaveBody t closed =>
    match s.bodies t with
    | .decoding _ =>
      some { s with bodies := Function.update s.bodies t (if closed then .failing else .idle) }
    | _ => none
  | .arm w seq want negotiated =>
    if s.arms w = .idle then some (s.armed w (s.inner.armWatcher seq w want negotiated)) else none
  | .armer w => s.armStep w
  | .watch w a => s.watchStep w a
  | .respond c seq status encoded w want =>
    if s.arms w = .idle ∧ (s.callers c = .idle ∨
        s.callers c = .waiting seq ∧ s.continues seq = .written) then
      some (s.respondStep c seq status encoded w want)
    else none
  | .leaveCaller c =>
    match s.callers c with
    | .waiting _ => some { s with callers := Function.update s.callers c .idle }
    | .idle => none
  | .tryContinue seq =>
    let r := s.inner.trySendContinue seq
    some { s with
      inner := r.1
      continues := if r.2 then Function.update s.continues seq .writing else s.continues }
  | .continueWritten seq =>
    if s.continues seq = .writing then
      some { s with continues := Function.update s.continues seq .written }
    else none
  | .finishResponse seq =>
    let r := s.inner.finishResponse seq
    some (s.handOver r.1 r.2)
  | .failResponse seq => some { s with inner := s.inner.failResponse seq }
  | .detach seq =>
    let r := s.inner.detach seq
    some (s.handOver r.1 r.2.2)
  | .close t =>
    if s.closers t = .idle then
      let r := s.inner.markClosed
      some { s with inner := r.1, closers := Function.update s.closers t (match r.2 with
        | none => .ended
        | some w => .waiting w) }
    else none
  | .closer t => s.closeStep t
  | .shutdown => some { s with inner := s.inner.requestShutdown }
  | .overdue timeout now => some { s with inner := (s.inner.headReadOverdue timeout now).1 }

/-- The step as a relation. -/
def Step (s : Sys W) (a : Action) (s' : Sys W) : Prop := s.step a = some s'

end Sys

end Httpunk.H1
