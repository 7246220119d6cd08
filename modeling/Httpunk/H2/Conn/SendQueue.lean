import Httpunk.H2.Conn.Inner

/-!
# H2 — Conn — SendQueue

The send rotation of `conn.rs`: `pending_send`, the streams with DATA to send in emission order,
and `pending_capacity`, the streams that wait for connection window.
-/

namespace Httpunk.H2.Inner

/-- A place in `pending_send` that is not stale. -/
def sendReady (me : Inner) (sid : Nat) : Bool :=
  match me.streams.lookup sid with
  | some e => e.isPendingSend && !e.finished && e.state.isSendStreaming
  | none => false

/-- A place in `pending_capacity` that is not stale. -/
def capacityReady (me : Inner) (sid : Nat) : Bool :=
  match me.streams.lookup sid with
  | some e => e.isPendingCapacity && !e.finished && e.state.isSendStreaming
  | none => false

/-- The places of `pending_send` from the first that is not stale. -/
def sendQueue (me : Inner) : List Nat := me.pendingSend.dropWhile fun sid => !me.sendReady sid

/-- The places of `pending_capacity` from the first that is not stale. -/
def capacityQueue (me : Inner) : List Nat :=
  me.pendingCapacity.dropWhile fun sid => !me.capacityReady sid

/-- `send_front`: stale places are dropped on the way. -/
def sendFront (me : Inner) : Inner × Option Nat :=
  ({ me with pendingSend := me.sendQueue }, me.sendQueue.head?)

/-- `capacity_front`. -/
def capacityFront (me : Inner) : Inner × Option Nat :=
  ({ me with pendingCapacity := me.capacityQueue }, me.capacityQueue.head?)

/-- `enqueue_send`. -/
def enqueueSend (me : Inner) (sid : Nat) : Inner :=
  match me.streams.lookup sid with
  | none => me
  | some e =>
    if e.isPendingSend then me
    else
      { me.setStream sid { e with isPendingSend := true, turnFrames := 0 } with
        pendingSend := me.pendingSend ++ [sid] }

/-- `enqueue_capacity`. -/
def enqueueCapacity (me : Inner) (sid : Nat) : Inner :=
  match me.streams.lookup sid with
  | none => me
  | some e =>
    if e.isPendingCapacity then me
    else
      { me.setStream sid { e with isPendingCapacity := true } with
        pendingCapacity := me.pendingCapacity ++ [sid] }

/-- `queue_wake_flag`. -/
def queueWakeFlag (me : Inner) : Flags :=
  if !me.pendingSend.isEmpty || (!me.pendingCapacity.isEmpty && me.connSend.size > 0) then
    { capacity := true }
  else .none

/-- `leave_send_queue`. -/
def leaveSendQueue (me : Inner) (sid : Nat) : Inner × Flags :=
  match me.streams.lookup sid with
  | none => (me, .none)
  | some e =>
    if !e.isPendingSend then (me, .none)
    else
      let me := me.setStream sid { e with isPendingSend := false, turnFrames := 0 }
      if me.pendingSend.head? = some sid then
        let me := { me with pendingSend := me.pendingSend.tail }
        (me, me.queueWakeFlag)
      else ({ me with pendingSend := me.pendingSend.filter (· ≠ sid) }, .none)

/-- `leave_capacity_queue`. -/
def leaveCapacityQueue (me : Inner) (sid : Nat) : Inner × Flags :=
  match me.streams.lookup sid with
  | none => (me, .none)
  | some e =>
    if !e.isPendingCapacity then (me, .none)
    else
      let me := me.setStream sid { e with isPendingCapacity := false }
      if me.pendingCapacity.head? = some sid then
        let me := { me with pendingCapacity := me.pendingCapacity.tail }
        (me, me.queueWakeFlag)
      else ({ me with pendingCapacity := me.pendingCapacity.filter (· ≠ sid) }, .none)

/-- `yield_send_turn`. -/
def yieldSendTurn (me : Inner) (sid : Nat) : Inner × Flags :=
  let me :=
    if me.pendingSend.head? = some sid then
      let me := { me with pendingSend := me.pendingSend.tail ++ [sid] }
      match me.streams.lookup sid with
      | none => me
      | some e => me.setStream sid { e with turnFrames := 0 }
    else me
  (me, me.queueWakeFlag)

/-- `admit_capacity_front`.  The entry of the front is stored, so the source's `expect` holds. -/
def admitCapacityFront (me : Inner) : Inner × Option Nat :=
  if me.connSend.size = 0 then (me, none)
  else
    let front := me.sendFront
    if front.2.isSome then (front.1, none)
    else
      let waiting := front.1.capacityFront
      match waiting.2 with
      | none => (waiting.1, none)
      | some sid =>
        let me := match waiting.1.streams.lookup sid with
          | some e => waiting.1.setStream sid { e with isPendingCapacity := false }
          | none => waiting.1
        let me := { me with pendingCapacity := me.pendingCapacity.tail }
        (me.enqueueSend sid, some sid)

end Httpunk.H2.Inner
