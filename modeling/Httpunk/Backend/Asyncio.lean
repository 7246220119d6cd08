import Mathlib.Data.List.Basic

/-!
# Backend — Asyncio

The stream of the asyncio backend (`_AsyncioStream` of `httpunk/_backend/asyncio.py`): the callbacks
of the protocol, the reads that wait, plain or until a deadline, and the read that does not.

* `Stream`: the fields of the adapter, with what the transport was last told about reading.
* `Sys`: the stream under its single reader, with a record of the bytes that went in and of what the
  reads came to.
* `Sys.step`: a callback of the event loop, or a step of the reader.
-/

namespace Httpunk.Backend

abbrev Bytes : Type := List UInt8

/-- `_READ_HIGH_WATER`, 64 KiB. -/
def readHighWater : Nat := 64 * 1024

/-- A future of the event loop, whose result is a `ρ`. -/
inductive Future (ρ E : Type) where
  | pending
  | result (r : ρ)
  | exception (e : E)
  | cancelled
  deriving DecidableEq

/-- `_AsyncioStream`.  A read's future has the marker of an expired deadline for its result.
`transportReads` is what the transport was last told. -/
structure Stream (E : Type) where
  chunks : List Bytes := []
  headOff : Nat := 0
  buffered : Nat := 0
  eof : Bool := false
  error : Option E := none
  readWaiter : Option (Future Bool E) := none
  readingPaused : Bool := false
  writingPaused : Bool := false
  drainWaiter : Option (Future Unit E) := none
  connLost : Bool := false
  transportReads : Bool := true
  deriving DecidableEq

namespace Stream

variable {E : Type}

/-- `_wake_reader`. -/
def wakeReader (s : Stream E) : Stream E :=
  match s.readWaiter with
  | some .pending => { s with readWaiter := some (.result false) }
  | _ => s

/-- The drain future is resolved, unless it is done. -/
def drain (s : Stream E) (f : Future Unit E) : Stream E :=
  match s.drainWaiter with
  | some .pending => { s with drainWaiter := some f }
  | _ => s

/-! ### The callbacks of the protocol -/

/-- `data_received`. -/
def dataReceived (s : Stream E) (data : Bytes) : Stream E :=
  if data.isEmpty then s
  else
    let s := { s with chunks := s.chunks ++ [data], buffered := s.buffered + data.length }.wakeReader
    if !s.readingPaused && readHighWater ≤ s.buffered then
      { s with transportReads := false, readingPaused := true }
    else s

/-- `eof_received`. -/
def eofReceived (s : Stream E) : Stream E := { s with eof := true }.wakeReader

/-- `connection_lost`. -/
def connectionLost (s : Stream E) (exc : Option E) : Stream E :=
  let s := { s with error := exc, eof := true, connLost := true }.wakeReader
  { s with writingPaused := false }.drain
    (match exc with
    | none => .result ()
    | some e => .exception e)

/-- `pause_writing`. -/
def pauseWriting (s : Stream E) : Stream E := { s with writingPaused := true }

/-- `resume_writing`. -/
def resumeWriting (s : Stream E) : Stream E :=
  { { s with writingPaused := false }.drain (.result ()) with drainWaiter := none }

/-- `drain_future`. -/
def drainFuture (s : Stream E) : Stream E :=
  if s.drainWaiter.isNone then { s with drainWaiter := some .pending } else s

/-! ### Reads -/

/-- The first chunk is taken whole, or up to its own end at most. -/
def takeHead (s : Stream E) (head : Bytes) (rest : List Bytes) (maxBytes : Nat) :
    Stream E × Bytes :=
  if s.headOff = 0 ∧ head.length ≤ maxBytes then ({ s with chunks := rest }, head)
  else
    let stop := min (s.headOff + maxBytes) head.length
    let data := (head.take stop).drop s.headOff
    if stop = head.length then ({ s with chunks := rest, headOff := 0 }, data)
    else ({ s with headOff := stop }, data)

/-- Reading goes on, once less is buffered than the mark. -/
def resumeReading (s : Stream E) : Stream E :=
  if s.readingPaused && s.buffered < readHighWater then
    { s with transportReads := true, readingPaused := false }
  else s

/-- `_take`.  It is called with something buffered: there is a first chunk. -/
def take (s : Stream E) (maxBytes : Nat) : Stream E × Bytes :=
  match s.chunks with
  | [] => (s, [])
  | head :: rest =>
    let r := s.takeHead head rest maxBytes
    ({ r.1 with buffered := r.1.buffered - r.2.length }.resumeReading, r.2)

end Stream

/-- What a read comes to: bytes, which are none at the end of the stream; nothing yet; the error the
connection was lost with; a second reader's error; or the cancellation of its task. -/
inductive Outcome (E : Type) where
  | bytes (data : Bytes)
  | nothing
  | raised (e : E)
  | concurrent
  | cancelled
  deriving DecidableEq

/-- The bytes of an outcome. -/
def Outcome.data {E : Type} : Outcome E → Bytes
  | .bytes data => data
  | _ => []

namespace Stream

variable {E : Type}

/-- `receive_some` and `receive_bounded` up to their `await`: the outcome, or none where they wait. -/
def receive (s : Stream E) (maxBytes : Nat) : Stream E × Option (Outcome E) :=
  if s.buffered ≠ 0 then
    let r := s.take maxBytes
    (r.1, some (.bytes r.2))
  else if s.eof then
    match s.error with
    | some e => (s, some (.raised e))
    | none => (s, some (.bytes []))
  else if s.readWaiter.isSome then (s, some .concurrent)
  else ({ s with readWaiter := some .pending }, none)

/-- The two of them after their `await`, with the marker its future was resolved with. -/
def received (s : Stream E) (bounded expired : Bool) (maxBytes : Nat) : Stream E × Outcome E :=
  let s := { s with readWaiter := none }
  if s.buffered ≠ 0 then
    let r := s.take maxBytes
    (r.1, .bytes r.2)
  else
    match s.error with
    | some e => (s, .raised e)
    | none => (s, if bounded && !s.eof && expired then .nothing else .bytes [])

/-- `read_nowait`. -/
def readNowait (s : Stream E) (maxBytes : Nat) : Stream E × Outcome E :=
  if s.buffered ≠ 0 then
    let r := s.take maxBytes
    (r.1, .bytes r.2)
  else (s, if s.eof then .bytes [] else .nothing)

/-- `_expire_reader`. -/
def expireReader (s : Stream E) : Stream E :=
  match s.readWaiter with
  | some .pending => { s with readWaiter := some (.result true) }
  | _ => s

end Stream

/-- The size limit of a read. -/
structure Limit where
  bytes : Nat
  pos : 1 ≤ bytes
  deriving DecidableEq

/-- A read that waits: `receive_bounded`, or `receive_some`.  `mustCancel` is the task's, which is
cancelled after its future was resolved. -/
structure Read where
  limit : Limit
  bounded : Bool
  mustCancel : Bool := false
  deriving DecidableEq

/-- The stream and its reader, what was received so far, and the outcomes of the reads. -/
structure Sys (E : Type) where
  stream : Stream E := {}
  reader : Option Read := none
  received : Bytes := []
  outcomes : List (Outcome E) := []
  deriving DecidableEq

namespace Sys

variable {E : Type}

/-- The bytes the reads returned. -/
def returned (s : Sys E) : Bytes := s.outcomes.flatMap Outcome.data

/-- A step: a callback, or a step of the reader.  `resume` is the event loop running the task of a
read whose future is done. -/
inductive Action (E : Type) where
  | dataReceived (data : Bytes)
  | eofReceived
  | connectionLost (exc : Option E)
  | pauseWriting
  | resumeWriting
  | drainFuture
  | receive (limit : Limit) (bounded : Bool)
  | readNowait (limit : Limit)
  | expire
  | cancel
  | resume
  deriving DecidableEq

/-- The task of a read is cancelled: its future with it, unless that is done. -/
def cancel (s : Sys E) (r : Read) : Sys E :=
  match s.stream.readWaiter with
  | some .pending => { s with stream := { s.stream with readWaiter := some .cancelled } }
  | _ => { s with reader := some { r with mustCancel := true } }

/-- The task of a read goes on. -/
def resume (s : Sys E) (r : Read) : Option (Sys E) :=
  match s.stream.readWaiter with
  | some (.result expired) =>
    if r.mustCancel then
      some { s with
        stream := { s.stream with readWaiter := none }
        reader := none
        outcomes := s.outcomes ++ [.cancelled] }
    else
      let v := s.stream.received r.bounded expired r.limit.bytes
      some { s with stream := v.1, reader := none, outcomes := s.outcomes ++ [v.2] }
  | some .cancelled =>
    some { s with
      stream := { s.stream with readWaiter := none }
      reader := none
      outcomes := s.outcomes ++ [.cancelled] }
  | _ => none

/-- One step, where it can be taken. -/
def step (s : Sys E) : Action E → Option (Sys E)
  | .dataReceived data =>
    some { s with stream := s.stream.dataReceived data, received := s.received ++ data }
  | .eofReceived => some { s with stream := s.stream.eofReceived }
  | .connectionLost exc => some { s with stream := s.stream.connectionLost exc }
  | .pauseWriting => some { s with stream := s.stream.pauseWriting }
  | .resumeWriting => some { s with stream := s.stream.resumeWriting }
  | .drainFuture => some { s with stream := s.stream.drainFuture }
  | .receive limit bounded =>
    if s.reader.isSome then none
    else
      let v := s.stream.receive limit.bytes
      match v.2 with
      | some o => some { s with stream := v.1, outcomes := s.outcomes ++ [o] }
      | none => some { s with stream := v.1, reader := some { limit := limit, bounded := bounded } }
  | .readNowait limit =>
    if s.reader.isSome then none
    else
      let v := s.stream.readNowait limit.bytes
      some { s with stream := v.1, outcomes := s.outcomes ++ [v.2] }
  | .expire =>
    match s.reader with
    | some r => if r.bounded then some { s with stream := s.stream.expireReader } else none
    | none => none
  | .cancel => s.reader.map s.cancel
  | .resume => s.reader.bind s.resume

/-- The step as a relation. -/
def Step (s : Sys E) (a : Action E) (s' : Sys E) : Prop := s.step a = some s'

end Sys

end Httpunk.Backend
