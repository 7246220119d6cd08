import Httpunk.H1.Wire

/-!
# H1 — Client — State

`H1ClientState` of `src/src/h1/conn.rs`: the connection of a client, each method one step on it.  Of
an exception only what `client.py` tells apart is kept, and a task or an event is named by a number.
-/

namespace Httpunk.H1.Client

/-- An exception: whether it carries `request_unsent`, and whether it is a `ConnectionClosedError`.
`fresh_exc` copies both. -/
structure Exc where
  requestUnsent : Bool := false
  isClosed : Bool := false
  deriving DecidableEq

/-- `ConnectionClosedError("connection closed")`. -/
def connectionClosed : Exc := { isClosed := true }

/-- `Watcher`: the idle watcher, named by the number of its `done` event. -/
structure Watcher where
  done : Nat
  data : Option Bytes := none
  error : Option Exc := none
  completed : Bool := false
  deriving DecidableEq

/-- `ClientInner`.  The writer is named by the exchange it writes for. -/
structure Inner where
  transport : Bool
  closed : Bool
  upgraded : Bool
  error : Option Exc
  busy : Bool
  exchangeActive : Bool
  writer : Option Nat
  writerFinished : Bool
  watcher : Option Watcher
  deriving DecidableEq

/-- The verdicts of `watcher_completed`: `WATCH_…`. -/
inductive Watch where
  | handoff
  | idleEof
  | idleBytes
  | idleError
  | ignored
  deriving DecidableEq

namespace Inner

/-- `H1ClientState::new`. -/
def new : Inner where
  transport := true
  closed := false
  upgraded := false
  error := none
  busy := false
  exchangeActive := false
  writer := none
  writerFinished := false
  watcher := none

variable (me : Inner)

/-- `close_now`. -/
def closeNow : Inner :=
  if me.upgraded then { me with closed := true }
  else { me with closed := true, transport := false }

/-- `fail`: the first error stored stays. -/
def fail (exc : Option Exc) : Inner := { me with error := me.error.or exc }.closeNow

/-- `begin_send`: whether there is a transport, and the event of the watcher. -/
def beginSend : Option (Option Nat) :=
  if me.error.isSome || !me.transport then none else some (me.watcher.map Watcher.done)

/-- `try_begin_exchange`. -/
def tryBeginExchange : Inner × Bool :=
  if me.busy then (me, false)
  else ({ me with busy := true, exchangeActive := false, writerFinished := false }, true)

/-- `end_exchange`. -/
def endExchange : Inner :=
  if me.busy then { me with busy := false, exchangeActive := false } else me

/-- `exchange_started`. -/
def exchangeStarted : Inner := { me with exchangeActive := true }

/-- `finish_exchange`: reuse, and whether the request was sent in full. -/
def finishExchange (keepAlive : Bool) : Inner × Bool × Bool :=
  if keepAlive && me.writerFinished then (me, true, true)
  else (me.closeNow, false, me.writerFinished)

/-- `mark_closed`. -/
def markClosed : Inner := { me.closeNow with writer := none }

/-- `upgrade`. -/
def upgrade : Inner := { me with upgraded := true, closed := true, transport := false }

/-- `store_writer`, and whether the writer was refused. -/
def storeWriter (writer : Nat) : Inner × Bool :=
  if me.closed then (me, true) else ({ me with writer := some writer }, false)

/-- `take_writer`. -/
def takeWriter : Inner × Option Nat := ({ me with writer := none }, me.writer)

/-- `writer_done`. -/
def writerDone : Inner := { me with writerFinished := true }

/-- `arm_watcher`, and whether the watcher `done` was armed. -/
def armWatcher (done : Nat) : Inner × Bool :=
  if me.closed || me.error.isSome || !me.transport || me.watcher.isSome then (me, false)
  else ({ me with exchangeActive := false, watcher := some { done := done } }, true)

/-- `watcher_aborted`. -/
def watcherAborted : Inner :=
  { me with watcher := me.watcher.map fun w => { w with completed := true } }

/-- `watcher_completed`. -/
def watcherCompleted (data : Option Bytes) (error : Option Exc) : Inner × Watch :=
  match me.watcher with
  | none => (me, .ignored)
  | some w =>
    let w := { w with completed := true }
    if me.exchangeActive then
      ({ me with watcher := some { w with data := data, error := error } }, .handoff)
    else
      let me := { me with watcher := some w }
      if error.isSome then (me, if me.closed then .ignored else .idleError)
      else if data.all (· = []) then (me.closeNow, .idleEof)
      else (me, .idleBytes)

/-- `watcher_done`. -/
def watcherDone : Option Nat := me.watcher.map Watcher.done

/-- `take_watcher_handoff`. -/
def takeWatcherHandoff : Inner × Option Bytes × Option Exc :=
  ({ me with watcher := none }, me.watcher.bind Watcher.data, me.watcher.bind Watcher.error)

/-! ### The state under `client.py` -/

/-- `_fail`: a `ConnectionClosedError` is not recorded. -/
def failWith (exc : Exc) : Inner := me.fail (if exc.isClosed then none else some exc)

/-- `poison_unexpected`: an `H1UnexpectedMessageError`. -/
def poisonUnexpected : Inner := me.failWith {}

/-- `_unsent_error`. -/
def unsentError : Exc := { me.error.getD connectionClosed with requestUnsent := true }

/-- The verdict on record: the error stored, or the clean close. -/
def recorded : Exc := me.error.getD connectionClosed

end Inner

end Httpunk.H1.Client
