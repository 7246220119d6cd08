import Httpunk.H2.Conn.SendQueue

/-!
# H2 — Conn — Store

Store maintenance of `conn.rs`: closing, resetting and aborting a stream, the receive ledger,
and the reset store.
-/

namespace Httpunk.H2

/-- What a reset leaves for the driver: the handle to notify, the stop its readers see, and the
flags (`H2ResetVerdict`). -/
structure ResetVerdict where
  handle : Option Nat := none
  stop : Option Stopped := none
  flags : Flags := .none
  deriving DecidableEq

namespace Inner

/-! ### The receive ledger -/

/-- `reclaim_conn`. -/
def reclaimConn (me : Inner) (n : Nat) : Inner :=
  if n = 0 then me
  else
    let fc := (me.connRecv.assignCapacity n).1
    match fc.unclaimedCapacity with
    | none => { me with connRecv := fc }
    | some unclaimed =>
      { me with connRecv := (fc.incWindow unclaimed).1 }.emit (.windowUpdate 0 unclaimed)

/-- `consume_conn_recv`. -/
def consumeConnRecv (me : Inner) (sz : Nat) : Inner × Option Err :=
  let r := fcSendData me.connRecv sz
  ({ me with connRecv := r.1 }, r.2.map mapReason)

/-- `maybe_remove_settled`. -/
def maybeRemoveSettled (me : Inner) (sid : Nat) : Inner :=
  match me.streams.lookup sid with
  | none => me
  | some e =>
    if e.finished && e.recvUnreleased == 0 && e.dataBudgetCharged == 0 then
      { me with streams := me.streams.erase sid }
    else me

/-- The entry's unread bytes and its framing charge go back in bulk. -/
def reclaimEntry (me : Inner) (sid : Nat) (e : StreamEntry) : Inner :=
  let charge := e.dataBudgetCharged
  let me := me.setStream sid
    { e with dataBudgetCharged := 0, recvUnreleased := 0, recvReclaimed := true }
  let me := { me with
    dataBudget := if charge ≠ 0 then me.dataBudget.release charge else me.dataBudget }
  me.reclaimConn e.recvUnreleased

/-- `reclaim_stream_accounting`. -/
def reclaimStreamAccounting (me : Inner) (sid : Nat) : Inner :=
  match me.streams.lookup sid with
  | none => me
  | some e => (me.reclaimEntry sid e).maybeRemoveSettled sid

/-! ### Closing a stream -/

/-- The idle-after-GOAWAY reply is due: `maybe_goaway_reply` goes past its guards. -/
def replyDue (me : Inner) : Bool :=
  !(me.goawayReplied || me.error.isSome || me.numActive != 0) && me.goaway.isSome

/-- `maybe_goaway_reply`. -/
def maybeGoawayReply (me : Inner) : Inner × Flags :=
  if me.replyDue then
    ({ me with
        goawayReplied := true
        pending := me.pending ++ [.goAway me.goawayLastStreamId .noError []]
        error := some (.closed "connection closed: GOAWAY exchanged") },
      { wake := true, connDone := true })
  else (me, .none)

/-- `on_stream_gone`. -/
def onStreamGone (me : Inner) : Inner × Flags :=
  let flags : Flags :=
    if me.role = .server ∧ me.shutdownFinal ∧ me.numActive = 0 then { stopAccepting := true }
    else .none
  let r := me.maybeGoawayReply
  (r.1, flags ||| r.2)

/-- The entry leaves the active set, its slot with it. -/
def finishEntry (me : Inner) (sid : Nat) (e : StreamEntry) : Inner :=
  { me.setStream sid { e with finished := true, holdsSlot := false } with
    numActive := me.numActive - 1
    numOpenStreams := if e.holdsSlot then me.numOpenStreams - 1 else me.numOpenStreams }

/-- `close_stream`. -/
def closeStream (me : Inner) (sid : Nat) : Inner × Flags :=
  match me.streams.lookup sid with
  | none => (me, .none)
  | some e =>
    if !e.state.isClosed || e.finished then (me, .none)
    else
      let slot : Flags := if e.holdsSlot then { slotFreed := true } else .none
      let dropEntry := e.recvUnreleased == 0 && e.dataBudgetCharged == 0
      let left := (me.finishEntry sid e).leaveSendQueue sid
      let idle := left.1.leaveCapacityQueue sid
      let me := if dropEntry then { idle.1 with streams := idle.1.streams.erase sid } else idle.1
      let gone := me.onStreamGone
      (gone.1, slot ||| (left.2 ||| idle.2) ||| gone.2)

/-- `drop_closed_stored`. -/
def dropClosedStored (me : Inner) (sid : Nat) : Inner × Flags :=
  (me.reclaimStreamAccounting sid).closeStream sid

/-! ### The reset store -/

/-- The entry of the reset store made at `at_` has not expired. -/
def isRecent (me : Inner) (at_ : Nat) : Bool := me.now - at_ ≤ me.resetStreamDuration

/-- `in_reset_store`: an expired entry is dropped. -/
def inResetStore (me : Inner) (sid : Nat) : Inner × Bool :=
  match me.resetStreams.lookup sid with
  | none => (me, false)
  | some at_ =>
    if me.isRecent at_ then (me, true)
    else ({ me with resetStreams := me.resetStreams.erase sid }, false)

/-- `clear_expired_reset_streams`. -/
def clearExpiredResetStreams (me : Inner) : Inner :=
  { me with resetStreams := Store.retain (fun _ at_ => me.isRecent at_) me.resetStreams }

/-- `enqueue_reset_expiration`: over the cap, the id is not kept. -/
def enqueueResetExpiration (me : Inner) (sid : Nat) : Inner :=
  let me := me.clearExpiredResetStreams
  if me.resetStreams.keys.length ≥ me.resetStreamMax then me
  else { me with resetStreams := me.resetStreams.insert sid me.now }

/-! ### Resetting and aborting a stream -/

/-- `reset_stream`. -/
def resetStream (me : Inner) (sid : Nat) (reason : Reason) (initiator : Initiator) :
    Inner × ResetVerdict :=
  match me.streams.lookup sid with
  | none => (me, {})
  | some e =>
    if e.state.isClosed then
      -- already closed: the waiters learn the reason, and no frame goes out
      let state := if e.state.isReset then e.state else e.state.setReset sid reason initiator
      let e := { e with state := state }
      let r := ((me.setStream sid e).reclaimStreamAccounting sid).closeStream sid
      let me := if state.isLocalError then r.1.enqueueResetExpiration sid else r.1
      (me, ⟨some sid, e.stopForReader, r.2⟩)
    else
      let e := { e with state := e.state.setReset sid reason initiator }
      let me := (me.setStream sid e).reclaimStreamAccounting sid
      let r := (me.emit (.rstStream sid reason)).closeStream sid
      (r.1.enqueueResetExpiration sid, ⟨some sid, e.stopForReader, r.2⟩)

/-- `finish_stream`. -/
def finishStream (me : Inner) (sid : Nat) : Inner × ResetVerdict :=
  let r := me.closeStream sid
  match r.1.role with
  | .client => (r.1, { flags := r.2 })
  | .server =>
    match r.1.streams.lookup sid with
    | none => (r.1, { flags := r.2 })
    | some e =>
      if !e.state.isClosed then
        let v := r.1.resetStream sid .noError .user
        (v.1, { v.2 with flags := r.2 ||| v.2.flags })
      else (r.1.reclaimStreamAccounting sid, { flags := r.2 })

/-- The state of a stream the connection's failure, or the peer's GOAWAY, ends. -/
def abortState (st : State) : Option Reason → State
  | some r => st.handleError (.goAway r .remote)
  | none => st.recvEof

/-- `abort_stream`. -/
def abortStream (me : Inner) (sid : Nat) (reason : Option Reason) :
    Inner × Option (Nat × Stopped) × Flags :=
  match me.streams.lookup sid with
  | none => (me, none, .none)
  | some e =>
    let ended := { e with state := abortState e.state reason }
    let out := if e.state.isClosed then none else some (sid, ended.stopped)
    let me := me.setStream sid
      { ended with recvUnreleased := 0, dataBudgetCharged := 0, recvReclaimed := true }
    let r := me.closeStream sid
    ({ r.1 with streams := r.1.streams.erase sid }, out, r.2)

/-- `abort_stream` of each stream in turn: the handles to notify and the flags. -/
def abortAll (me : Inner) (reason : Option Reason) : List Nat →
    Inner × List (Nat × Stopped) × Flags
  | [] => (me, [], .none)
  | sid :: ids =>
    let r := me.abortStream sid reason
    let rest := r.1.abortAll reason ids
    (rest.1, r.2.1.toList ++ rest.2.1, r.2.2 ||| rest.2.2)

/-- `fail_all`. -/
def failAll (me : Inner) : Inner × List (Nat × Stopped) :=
  let r := me.abortAll none me.streams.keys
  (r.1, r.2.1)

end Inner

end Httpunk.H2
