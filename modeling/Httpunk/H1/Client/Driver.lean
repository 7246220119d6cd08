import Httpunk.H1.Client.State

/-!
# H1 — Client — Driver

The tasks of `httpunk/h1/client.py` over the connection state, each step of a task one call into the
state, or one call out of the driver that returns: the tasks in `send_request`, the writers of their
requests, the idle watchers, and the tasks that close the connection.

* `Sys`: the state, and where each task stands.
* `Sys.step`: one step, where it can be taken.

A call into the backend, the codec or the body returns when its task takes the step, with any
answer.
-/

namespace Httpunk.H1.Client

/-- How a call out of the driver returns. -/
inductive Answer where
  /-- It is done: nothing is pending, the head is encoded, or complete. -/
  | ok
  /-- There are bytes, or there is more to wait for. -/
  | more
  | eof
  /-- An exception. -/
  | raises (e : Exc)
  /-- A cancellation. -/
  | cancelled
  deriving DecidableEq

/-- A task in `send_request`, by its next step.  `w` is the event of the watcher that `begin_send`
found. -/
inductive SendTask where
  | idle
  /-- `try_begin_exchange` of `_acquire`. -/
  | acquiring
  /-- `begin_send`. -/
  | beginning
  /-- `receive_nowait`. -/
  | peeking (w : Option Nat)
  /-- `poison_unexpected`. -/
  | poisoning
  /-- `_unsent_error`. -/
  | givingBack
  /-- `_body_plan` and `serialize_request`. -/
  | serializing (w : Option Nat)
  /-- `_wait_writable`, where a watcher is armed. -/
  | polling (w : Nat)
  /-- The wait it returned. -/
  | waiting (w : Nat)
  /-- `done.is_set()`. -/
  | looking (w : Nat)
  /-- `exchange_started`. -/
  | starting (w : Option Nat)
  /-- The scope of an async body. -/
  | opening (w : Option Nat)
  /-- The writer is spawned: the request is handed to it. -/
  | spawning (w : Option Nat)
  /-- `store_writer`. -/
  | storing (w : Option Nat)
  /-- `refused.finish(True)`. -/
  | refused
  /-- The verdict on record is raised. -/
  | surfacing
  /-- The event of the watcher, in `_read_head`. -/
  | awaiting (w : Nat)
  /-- `take_watcher_handoff`. -/
  | taking
  | reading
  /-- `receive_head`. -/
  | parsing
  /-- The transport has ended, and there is no head. -/
  | headless
  /-- What is left once the head is read. -/
  | finishing
  /-- The response has the slot. -/
  | responded
  /-- What is left of `release_slot` once the reuse is decided. -/
  | settling
  /-- `_fail(exc)`. -/
  | failing (e : Exc)
  /-- `_teardown_writer` and `_join_watcher`. -/
  | tearing (e : Exc)
  /-- `_release`, and `exc` is raised. -/
  | releasing (e : Exc)
  | ended
  | raised (e : Exc)
  deriving DecidableEq

/-- `_write_request`, by its next step. -/
inductive WriteTask where
  | idle
  /-- `_send_head_and_body`. -/
  | writing
  /-- `writer_done`. -/
  | finishing
  /-- `_fail(exc)` of an error of the body. -/
  | failing (e : Exc)
  /-- `done.set()`. -/
  | setting
  | ended
  deriving DecidableEq

/-- `_watch_idle`, by its next step. -/
inductive WatchTask where
  | idle
  /-- `transport_ref`. -/
  | starting
  | reading
  /-- `watcher_completed`. -/
  | completing (data : Option Bytes) (error : Option Exc)
  /-- `watcher_aborted`. -/
  | aborting
  /-- `poison_unexpected`. -/
  | poisoning
  /-- `_fail(error)`. -/
  | failing (e : Exc)
  /-- `done.set()`. -/
  | setting
  | ended
  deriving DecidableEq

/-- The connection under its driver: the state, the tasks, the error that the writer of each request
left in `write_error`, and the requests handed to their writers. -/
structure Sys where
  inner : Inner
  sends : Nat → SendTask
  writes : Nat → WriteTask
  watches : Nat → WatchTask
  writeErrors : Nat → Option Exc
  handed : Nat → Bool

namespace Sys

def init : Sys where
  inner := .new
  sends := fun _ => .idle
  writes := fun _ => .idle
  watches := fun _ => .idle
  writeErrors := fun _ => none
  handed := fun _ => false

/-- What may happen. -/
inductive Action where
  /-- `t` calls `send_request`. -/
  | request (t : Nat)
  | send (t : Nat) (a : Answer)
  /-- The response of `t` is over: `release_slot`, or more bytes than it has (`poison_unexpected`). -/
  | release (t : Nat) (keepAlive : Bool)
  | surplus (t : Nat)
  | write (t : Nat) (a : Answer) (transport : Bool)
  /-- `_start_watcher`, with `w` for the event. -/
  | arm (w : Nat)
  | watch (w : Nat) (a : Answer) (data : Bytes)
  | close
  | abort
  deriving DecidableEq

/-- The task `t` goes on. -/
def go (s : Sys) (t : Nat) (k : SendTask) : Sys := { s with sends := Function.update s.sends t k }

/-- A call that returns one way, or raises into the handler of `send_request`. -/
def await (s : Sys) (t : Nat) (a : Answer) (k : SendTask) : Sys :=
  match a with
  | .raises e => s.go t (.failing e)
  | .cancelled => s.go t (.failing {})
  | _ => s.go t k

/-- The error of `_read_head`: the writer's failure is the cause, where there is one. -/
def cause (s : Sys) (t : Nat) (e : Exc) : Exc := (s.writeErrors t).getD e

/-- The next step of `t` in `send_request`. -/
def sendStep (s : Sys) (t : Nat) (a : Answer) : Option Sys :=
  match s.sends t with
  | .idle | .responded | .ended | .raised _ => none
  | .acquiring =>
    match a with
    | .raises e => some (s.go t (.raised e))
    | .cancelled => some (s.go t (.raised {}))
    | _ =>
      let r := s.inner.tryBeginExchange
      some ({ s with inner := r.1 }.go t (if r.2 then .beginning else .acquiring))
  | .beginning =>
    match s.inner.beginSend with
    | none => some (s.go t .givingBack)
    | some w => some (s.go t (.peeking w))
  | .peeking w => if a = .more then some (s.go t .poisoning) else some (s.await t a (.serializing w))
  | .poisoning => some ({ s with inner := s.inner.poisonUnexpected }.go t .givingBack)
  | .givingBack => some (s.go t (.failing s.inner.unsentError))
  | .serializing w =>
    some (s.await t a (match w with
      | none => .starting none
      | some w => .polling w))
  | .polling w =>
    if a = .more then some (s.go t (.waiting w)) else some (s.await t a (.starting (some w)))
  | .waiting w => some (s.await t a (.looking w))
  | .looking w =>
    some (s.go t (if s.watches w = .ended then .givingBack else .starting (some w)))
  | .starting w => some ({ s with inner := s.inner.exchangeStarted }.go t (.opening w))
  | .opening w => some (s.await t a (.spawning w))
  | .spawning w =>
    some ({ s with
      handed := Function.update s.handed t true
      writes := Function.update s.writes t .writing }.go t (.storing w))
  | .storing w =>
    let r := s.inner.storeWriter t
    some ({ s with inner := r.1 }.go t (if r.2 then .refused else match w with
      | none => .reading
      | some w => .awaiting w))
  | .refused => some (s.await t a .surfacing)
  | .surfacing => some (s.go t (.failing s.inner.recorded))
  | .awaiting w =>
    match a with
    | .raises _ | .cancelled => some (s.go t (.failing {}))
    | _ => if s.watches w = .ended then some (s.go t .taking) else none
  | .taking =>
    let r := s.inner.takeWatcherHandoff
    let s := { s with inner := r.1 }
    match r.2 with
    | (_, some e) => some (s.go t (.failing (s.cause t e)))
    | (none, none) => some (s.go t .surfacing)
    | (some [], none) => some (s.go t .headless)
    | (some (_ :: _), none) => some (s.go t .parsing)
  | .reading =>
    if s.inner.transport then
      match a with
      | .raises e => some (s.go t (.failing (s.cause t e)))
      | .cancelled => some (s.go t (.failing {}))
      | .eof => some (s.go t .headless)
      | .ok | .more => some (s.go t .parsing)
    else some (s.go t .headless)
  | .parsing => if a = .more then some (s.go t .reading) else some (s.await t a .finishing)
  | .headless => some (s.go t (.failing (s.cause t {})))
  | .finishing =>
    match a with
    -- a response that switches the protocol takes the transport, and frees the slot
    | .more => some ({ s with inner := s.inner.takeWriter.1.upgrade.endExchange }.go t .ended)
    | _ => some (s.await t a .responded)
  | .settling => some ({ s with inner := s.inner.takeWriter.1.endExchange }.go t .ended)
  | .failing e => some ({ s with inner := s.inner.failWith e }.go t (.tearing e))
  | .tearing e =>
    let s := { s with inner := s.inner.takeWriter.1 }
    match a with
    | .raises e => some (s.go t (.releasing e))
    | .cancelled => some (s.go t (.releasing {}))
    | _ => some (s.go t (.releasing e))
  | .releasing e => some ({ s with inner := s.inner.endExchange }.go t (.raised e))

/-- The next step of the writer of `t`; `transport`: an error is the transport's, not the body's. -/
def writeStep (s : Sys) (t : Nat) (a : Answer) (transport : Bool) : Option Sys :=
  let go (s : Sys) (k : WriteTask) : Option Sys :=
    some { s with writes := Function.update s.writes t k }
  let record (e : Exc) : Sys :=
    { s with writeErrors := Function.update s.writeErrors t (some e) }
  match s.writes t with
  | .idle | .ended => none
  | .writing =>
    match a with
    | .raises e => go (record e) (if transport then .setting else .failing e)
    | .cancelled => go s .setting
    | _ => go s .finishing
  | .finishing => go { s with inner := s.inner.writerDone } .setting
  | .failing e => go { s with inner := s.inner.failWith e } .setting
  | .setting => go s .ended

/-- The next step of the watcher `w`. -/
def watchStep (s : Sys) (w : Nat) (a : Answer) (data : Bytes) : Option Sys :=
  let go (s : Sys) (k : WatchTask) : Option Sys :=
    some { s with watches := Function.update s.watches w k }
  match s.watches w with
  | .idle | .ended => none
  | .starting => go s (if s.inner.transport then .reading else .aborting)
  | .reading =>
    match a with
    | .raises e => go s (.completing none (some e))
    | .eof => go s (.completing (some []) none)
    | .ok | .more => go s (.completing (some data) none)
    -- nothing cancels the read of a watcher
    | .cancelled => none
  | .completing data error =>
    let r := s.inner.watcherCompleted data error
    go { s with inner := r.1 } (match r.2 with
      | .idleBytes => .poisoning
      | .idleError => .failing (error.getD {})
      | .handoff | .idleEof | .ignored => .setting)
  | .aborting => go { s with inner := s.inner.watcherAborted } .setting
  | .poisoning => go { s with inner := s.inner.poisonUnexpected } .setting
  | .failing e => go { s with inner := s.inner.failWith e } .setting
  | .setting => go s .ended

/-- One step, where it can be taken. -/
def step (s : Sys) : Action → Option Sys
  | .request t => if s.sends t = .idle then some (s.go t .acquiring) else none
  | .send t a => s.sendStep t a
  | .release t keepAlive =>
    if s.sends t = .responded then
      some ({ s with inner := (s.inner.finishExchange keepAlive).1 }.go t .settling)
    else none
  | .surplus t =>
    if s.sends t = .responded then some { s with inner := s.inner.poisonUnexpected } else none
  | .write t a transport => s.writeStep t a transport
  | .arm w =>
    if s.watches w = .idle then
      let r := s.inner.armWatcher w
      some { s with
        inner := r.1
        watches := if r.2 then Function.update s.watches w .starting else s.watches }
    else none
  | .watch w a data => s.watchStep w a data
  | .close => some { s with inner := s.inner.markClosed }
  | .abort => some { s with inner := s.inner.fail none }

/-- The step as a relation. -/
def Step (s : Sys) (a : Action) (s' : Sys) : Prop := s.step a = some s'

end Sys

end Httpunk.H1.Client
