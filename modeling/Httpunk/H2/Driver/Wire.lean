import Mathlib
import Httpunk.H2.Frames
import Httpunk.Support.Runs

/-!
# H2 — Driver — Wire

The bytes on their way to the transport: the pending-send buffer and the batches it leaves in
(`take_pending` and `H2WriteBatch` of `conn.rs`), and the tasks that write them under the send lock
(`_write_pump`, `_flush` and `close` of `httpunk/h2/connection.py`).

* `Batches.take`, `Batches.drop`: a buffer leaves whole, and comes back as the spare.
* `Wire.step`: the write pump, the flushes and the calls of `close`, in any interleaving.
-/

namespace Httpunk.H2

/-! ### The buffers -/

/-- A `BytesMut`: the memory it owns, and its bytes. -/
structure Buffer where
  id : Nat
  data : Bytes
  deriving DecidableEq

/-- The buffers of a connection: `pending`, `spare`, and the batches that are still held.  A fresh
buffer gets the next identity. -/
structure Batches where
  pending : Buffer
  spare : Option Buffer
  out : List Buffer
  fresh : Nat
  stop : Bool

namespace Batches

/-- The buffers of a new connection. -/
def new : Batches := ⟨⟨0, []⟩, none, [], 1, false⟩

/-- Frames are queued. -/
def append (b : Batches) (bytes : Bytes) : Batches :=
  { b with pending := { b.pending with data := b.pending.data ++ bytes } }

/-- `take_pending`: the batch, and whether the pump is to stop. -/
def take (b : Batches) : Batches × Buffer × Bool :=
  let batch := b.pending
  match b.spare with
  | some next => ({ b with pending := next, spare := none, out := b.out ++ [batch] }, batch, b.stop)
  | none =>
    ({ b with pending := ⟨b.fresh, []⟩, out := b.out ++ [batch], fresh := b.fresh + 1 },
      batch, b.stop)

/-- `Drop` of an `H2WriteBatch`: its buffer, cleared, is the spare where there is none. -/
def drop (b : Batches) (id : Nat) : Batches :=
  { b with
    out := b.out.filter (·.id ≠ id)
    spare := match b.spare with | some next => some next | none => some ⟨id, []⟩ }

/-- `has_pending`. -/
def hasPending (b : Batches) : Bool := !b.pending.data.isEmpty

end Batches

/-! ### The tasks -/

/-- Where the write pump stands, when it does not hold the send lock. -/
inductive PumpTurn where
  | waiting
  /-- The event was cleared; it waits for the send lock. -/
  | taking
  | writing (stopping : Bool)
  | written (stopping failed : Bool)
  | done
  deriving DecidableEq

/-- Where a flush stands: of `close`, which joins the write pump first, or of another task. -/
inductive FlushStage where
  /-- `close` has stopped the pump; it awaits it if it took its handle. -/
  | joining (awaits : Bool)
  | flushing
  | writing
  /-- The flush has returned, or raised: `close` goes on to shut the transport down. -/
  | flushed
  deriving DecidableEq

/-- A task that flushes, and the bytes that were queued when its flush began. -/
structure Flusher where
  close : Bool
  stage : FlushStage
  mark : Nat
  deriving DecidableEq

/-- The task that holds the send lock. -/
inductive Holder where
  | pump
  | flusher (i : Nat)
  deriving DecidableEq

/-- The connection's output: its buffers, the send lock with the batch in its holder's hand, its
tasks, and whether `abort` closed the transport.  `appended`, `taken`, `cut` and `handed` record
what was queued, what was taken, how much was queued at the last take, and what the transport was
given. -/
structure Wire where
  bufs : Batches
  lock : Option (Holder × Buffer)
  event : Bool
  pump : PumpTurn
  pumpHandle : Bool
  flushers : List Flusher
  failed : Bool
  aborted : Bool
  appended : Bytes
  taken : List Bytes
  cut : Nat
  handed : Bytes

namespace Wire

/-- Nothing is queued, and the write pump is spawned. -/
def init : Wire where
  bufs := .new
  lock := none
  event := false
  pump := .waiting
  pumpHandle := true
  flushers := []
  failed := false
  aborted := false
  appended := []
  taken := []
  cut := 0
  handed := []

/-- What a step is: frames are queued, or the event is set; a batch that is in no hand is dropped;
the write pump wakes, takes, and ends its turn; a flush or a `close` begins, `close` has joined the
pump, a flush takes; the holder of the lock has written; and `abort`, after which no write
succeeds. -/
inductive Action where
  | append (bytes : Bytes)
  | wake
  | drop (id : Nat)
  | pumpWake
  | pumpTake
  | pumpTurn
  | startFlush
  | startClose
  | joined (i : Nat)
  | flushTake (i : Nat)
  | wrote (ok : Bool)
  | abort

/-- `take_pending` by the task that got the lock. -/
def takeFor (w : Wire) (h : Holder) : Wire :=
  let t := w.bufs.take
  { w with
    bufs := t.1
    lock := some (h, t.2.1)
    taken := w.taken ++ [t.2.1.data]
    cut := w.appended.length }

/-- The stage of a flush changes. -/
def setStage (w : Wire) (i : Nat) (f : Flusher) : Wire :=
  { w with flushers := w.flushers.set i f }

/-- The write has returned, or failed: the batch is released and the lock with it. -/
def afterWrite (w : Wire) (batch : Buffer) (ok : Bool) : Wire :=
  { w with
    lock := none
    handed := if ok then w.handed ++ batch.data else w.handed
    failed := w.failed || !ok }

/-- One step, where it can be taken. -/
def step (w : Wire) : Action → Option Wire
  | .append bytes => some { w with bufs := w.bufs.append bytes, appended := w.appended ++ bytes }
  | .wake => some { w with event := true }
  | .drop id =>
    if id ∈ w.bufs.out.map (·.id) ∧ ∀ l ∈ w.lock, l.2.id ≠ id then
      some { w with bufs := w.bufs.drop id }
    else none
  | .pumpWake =>
    if w.pump = .waiting ∧ w.event then some { w with pump := .taking, event := false } else none
  | .pumpTake =>
    if w.pump = .taking ∧ w.lock = none then
      some { w.takeFor .pump with pump := .writing w.bufs.take.2.2 }
    else none
  | .pumpTurn =>
    match w.pump with
    | .written stopping failed =>
      some { w with
        pump := if failed || stopping && !w.bufs.hasPending then .done else .waiting }
    | _ => none
  | .startFlush =>
    some { w with flushers := w.flushers ++ [⟨false, .flushing, w.appended.length⟩] }
  | .startClose =>
    some { w with
      bufs := { w.bufs with stop := true }
      event := true
      pumpHandle := false
      flushers := w.flushers ++ [⟨true, .joining w.pumpHandle, 0⟩] }
  | .joined i =>
    match w.flushers[i]? with
    | some ⟨close, .joining awaits, _⟩ =>
      if awaits = true → w.pump = .done then
        some (w.setStage i ⟨close, .flushing, w.appended.length⟩)
      else none
    | _ => none
  | .flushTake i =>
    match w.flushers[i]? with
    | some ⟨close, .flushing, mark⟩ =>
      if w.lock = none then some ((w.takeFor (.flusher i)).setStage i ⟨close, .writing, mark⟩)
      else none
    | _ => none
  | .wrote ok =>
    if w.aborted && ok then none
    else
      match w.lock with
      | none => none
      | some (.pump, batch) =>
        match w.pump with
        | .writing stopping => some { w.afterWrite batch ok with pump := .written stopping !ok }
        | _ => none
      | some (.flusher i, batch) =>
        match w.flushers[i]? with
        | some ⟨close, .writing, mark⟩ =>
          some ((w.afterWrite batch ok).setStage i ⟨close, .flushed, mark⟩)
        | _ => none
  | .abort => some { w with aborted := true, bufs := { w.bufs with stop := true }, event := true }

/-- A step, as a relation. -/
def Step (w : Wire) (a : Action) (w' : Wire) : Prop := w.step a = some w'

/-- The states the output reaches. -/
abbrev Reached (w : Wire) : Prop := Runs.Reach Step Runs.Any init w

end Wire

end Httpunk.H2
