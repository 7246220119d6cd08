import Httpunk.H2.Driver.Connection

/-!
# H2 — Driver — Writer

The way of a committed frame to the transport, as `httpunk/h2/connection.py` has it: the event of
the write pump, the send lock, the pump's loop (`_write_pump`), the inline flushes (`_flush`),
and the acts of the verdicts that the callers have not performed yet (`_after`).

* `Sys.verdicts`: the flags a step of the driver hands to its task.
* `Turn`: where the write pump stands.
* `Writer.step`: the system with the write path, its tasks in any interleaving.
-/

namespace Httpunk.H2

/-- The flags a call hands to its task.  `_open_stream` and `close` set the event themselves. -/
def Inner.callFlags (me : Inner) (c : Call) : Flags :=
  match c with
  | .openStream request endStream isHead =>
    match (me.openStream request endStream isHead).2 with
    | .ok (some _) => { wake := true }
    | _ => .none
  | .stopPump => { wake := true }
  | c => (me.call c).2.flags

/-- The flags a step hands to its task: those of a verdict, none with an exception. -/
def Sys.verdicts (s : Sys) : Sys.Action → List Flags
  | .recv f =>
    match (s.inner.dispatch f).2 with
    | .ok a => [a.flags]
    | .error _ => []
  | .pump =>
    match s.pump with
    | .resetting sid reason =>
      match (s.inner.resetOnError sid reason).2 with
      | .ok v => [v.flags]
      | .error _ => []
    | .closing reason debugData _ => [(s.inner.sendGoaway reason debugData).2]
    | .running | .failing _ | .done => []
  | .reply => [s.inner.maybeGoawayReply.2]
  | .call c => [s.inner.callFlags c]
  | .raised _ | .flush | .tick _ | .rehash _ => []

/-- Where the write pump stands.  The flush of `_begin`, before the pumps are spawned, is its
first turn. -/
inductive Turn where
  /-- `_begin` waits for the send lock, the handshake being queued. -/
  | starting
  | waiting
  /-- The event was cleared; it waits for the send lock. -/
  | taking
  | writing (stopping : Bool)
  /-- The batch is on the wire, or the write failed: `credit_written` is next. -/
  | written (stopping : Bool) (failed : Option Err)
  | failing (exc : Err)
  | done
  deriving DecidableEq

/-- The driver with its write path: `_write_evt`, the write pump, whether the send lock is held,
the tasks that wait for it in `_flush` and whether one of them holds it, the flushes that have
written and call `credit_written` next, the flags of the verdicts whose acts are still to be
performed, and whether `_fail` was called. -/
structure Writer where
  sys : Sys
  event : Bool
  turn : Turn
  locked : Bool
  flushing : Nat
  inFlush : Bool
  crediting : Nat
  due : List Flags
  failed : Bool

namespace Writer

/-- `_begin`, with the handshake queued. -/
def init (cfg : Config) : Writer where
  sys := .init cfg
  event := false
  turn := .starting
  locked := false
  flushing := 0
  inFlush := false
  crediting := 0
  due := []
  failed := false

/-- What a step is: a step of the driver, whose flags become due; the acts of one verdict; the
turns of the write pump; and those of a flush. -/
inductive Action where
  | sys (a : Sys.Action)
  | act (i : Nat)
  | wake
  | take
  | write (failed : Option Err)
  | credit
  | fail
  | enterFlush
  | leaveFlush
  | takeFlush
  | writeFlush (ok : Bool)
  | creditFlush

/-- The write pump, or `_begin`, is about to take the buffer. -/
def takes (w : Writer) : Bool := w.turn = .starting ∨ w.turn = .taking

/-- `_read_pump` flushes after its GOAWAY, `close` once it has stopped the write pump. -/
def mayFlush (w : Writer) : Bool :=
  w.sys.inner.stop || match w.sys.pump with
    | .failing _ => true
    | _ => false

/-- `_after`: the event is set, and the turn of the connection's window is handed on. -/
def after (w : Writer) (f : Flags) : Writer :=
  { w with
    event := w.event || f.wake
    sys := if f.capacity then w.sys.call .nextCapacityWake else w.sys }

/-- The write pump past `credit_written`. -/
def nextTurn (w : Writer) (stopping : Bool) : Option Err → Turn
  | some e => .failing e
  | none => if stopping && !w.sys.inner.hasPending then .done else .waiting

/-- One step, where it can be taken. -/
def step (w : Writer) : Action → Option Writer
  | .sys .flush => none
  | .sys a => (w.sys.step a).map fun s =>
    { w with sys := s, due := w.due ++ w.sys.verdicts a, failed := w.failed || w.sys.fails a }
  | .act i =>
    match w.due[i]? with
    | none => none
    | some f => some { w.after f with due := w.due.eraseIdx i }
  | .wake =>
    if w.turn = .waiting ∧ w.event then some { w with turn := .taking, event := false } else none
  | .take =>
    if w.takes ∧ !w.locked then
      some { w with sys := w.sys.flush, turn := .writing w.sys.inner.stop, locked := true }
    else none
  | .write failed =>
    match w.turn with
    | .writing stopping => some { w with turn := .written stopping failed, locked := false }
    | _ => none
  | .credit =>
    match w.turn with
    | .written stopping failed =>
      let w := { w with sys := w.sys.call .creditWritten }
      some { w with turn := w.nextTurn stopping failed }
    | _ => none
  | .fail =>
    match w.turn with
    | .failing e => some { w with
        sys := w.sys.call (.fail (some e) ""), turn := .done, failed := true }
    | _ => none
  | .enterFlush => if w.mayFlush then some { w with flushing := w.flushing + 1 } else none
  | .leaveFlush =>
    if w.sys.inner.stop ∧ 0 < w.flushing then some { w with flushing := w.flushing - 1 } else none
  | .takeFlush =>
    if 0 < w.flushing ∧ !w.locked then
      some { w with
        sys := w.sys.flush, flushing := w.flushing - 1, inFlush := true, locked := true }
    else none
  | .writeFlush ok =>
    -- an exception of the write skips `credit_written`
    if w.inFlush then
      some { w with inFlush := false, locked := false, crediting := w.crediting + ok.toNat }
    else none
  | .creditFlush =>
    if 0 < w.crediting then
      some { w with sys := w.sys.call .creditWritten, crediting := w.crediting - 1 }
    else none

/-- The step as a relation. -/
def Step (w : Writer) (a : Action) (w' : Writer) : Prop := w.step a = some w'

end Writer

end Httpunk.H2
