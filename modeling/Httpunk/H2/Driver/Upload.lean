import Httpunk.H2.Driver.Connection

/-!
# H2 — Driver — Upload

The writers of the request bodies: the inline attempt of `httpunk/h2/client.py`
(`_send_body_inline`), the task it is handed to (`_write_body`), and `_send_body` of
`httpunk/h2/connection.py` with its three shapes of a body.  A step of a writer is one locked call
into the state, or one chunk of the body's producer, at any time: a writer that waits for
`window_evt` is one whose turn has not come.

* `Body`, `Produced`: a body, and what its producer does when it is asked for a chunk.
* `Upload`: the writer of one stream, and where it stands.
* `Uploads.step`: the driver with its writers, in any interleaving.
-/

namespace Httpunk.H2

/-- What the writer tells of a body: bytes it has at once (none for `None`), what `aiter_body`
yields without parking, or an async iterable. -/
inductive Body where
  | bytes (data : Bytes)
  | iter
  | aiter
  deriving DecidableEq

/-- The bodies that go with END_STREAM on the request's HEADERS, when there are no trailers. -/
def Body.bodyless : Body → Bool
  | .bytes data => data.isEmpty
  | _ => false

/-- What the producer of a body does when it is asked for the next chunk.  A value `bytes` makes
nothing of is `chunk none`. -/
inductive Produced where
  | chunk (data : Option Bytes)
  | stop
  | raised
  deriving DecidableEq

/-- What a writer does once a chunk is queued. -/
inductive Next where
  /-- An async body is asked for its next chunk. -/
  | pull
  /-- A sync body has yielded a value, held back until the chunk before it was queued. -/
  | keep (chunk : Option Bytes)
  | trailers
  | finish
  deriving DecidableEq

/-- How a writer ended. -/
inductive Ending where
  | finished
  /-- The stopped error, or the reset that `select_events` saw. -/
  | stopped
  /-- `writer_start` refused the task. -/
  | refused
  /-- Any other exception, suppressed. -/
  | raised
  deriving DecidableEq

/-- Where a writer stands. -/
inductive Stage where
  /-- `_send_body_inline` is about to send from the offset. -/
  | inline (offset : Nat)
  /-- `writer_start` is next. -/
  | spawning (offset : Nat)
  | sending (data : Bytes) (offset : Nat) (last : Bool) (next : Next)
  /-- It waits for a chunk; a sync body's last one is held back. -/
  | pulling (pending : Option Bytes)
  | trailers
  | ended (how : Ending)
  deriving DecidableEq

/-- The writer of one request body. -/
structure Upload where
  body : Body
  trailers : Option Fields
  stage : Stage
  deriving DecidableEq

namespace Upload

/-- `_send_body_background`: a body of bytes is tried at once. -/
def start (body : Body) (trailers : Option Fields) : Upload where
  body := body
  trailers := trailers
  stage := match body with
    | .bytes data => if data.isEmpty then .trailers else .inline 0
    | .iter | .aiter => .spawning 0

/-- After the body: the trailers, or nothing. -/
def closing (u : Upload) : Next := if u.trailers.isSome then .trailers else .finish

/-- `_send_body`, from the offset the inline attempt left. -/
def begun (u : Upload) (offset : Nat) : Stage :=
  match u.body with
  | .bytes data => .sending data offset u.trailers.isNone u.closing
  | .iter | .aiter => .pulling none

/-- A sync body's value becomes the chunk that is held back. -/
def keeping : Option Bytes → Stage
  | some data => .pulling (some data)
  | none => .ended .raised

/-- What a writer does once a chunk is queued. -/
def after : Next → Stage
  | .pull => .pulling none
  | .keep chunk => keeping chunk
  | .trailers => .trailers
  | .finish => .ended .finished

/-- After one `send_data` from `offset`: the stopped error, the next thing to do, the rest of the
data, or no window now. -/
def afterSend (offset : Nat) (next parked : Stage) (more : Nat → Stage) :
    Except Err SendVerdict → Stage
  | .error _ => .ended .raised
  | .ok v =>
    if v.stopped.isSome then .ended .stopped
    else if v.done then next
    else if v.sent = 0 then parked
    else more (offset + v.sent)

/-- After `send_trailers`. -/
def afterTrailers : Except Err SendVerdict → Stage
  | .error _ => .ended .raised
  | .ok v => if v.stopped.isSome then .ended .stopped else .ended .finished

/-- The producer's answer. -/
def pulled (u : Upload) (pending : Option Bytes) : Produced → Stage
  | .raised => .ended .raised
  | .chunk chunk =>
    match u.body, pending with
    | .aiter, _ =>
      match chunk with
      | some data => .sending data 0 false .pull
      | none => .ended .raised
    | _, some data => .sending data 0 false (.keep chunk)
    | _, none => keeping chunk
  | .stop =>
    match u.trailers, pending with
    | some _, some data => if data.isEmpty then .trailers else .sending data 0 false .trailers
    | some _, none => .trailers
    | none, some data => .sending data 0 true .finish
    | none, none => .sending [] 0 true .finish

/-- The call a writer makes next, and where it stands after it.  One that waits for its producer
makes none. -/
def next (u : Upload) (me : Inner) (sid : Nat) : Option (Call × Stage) :=
  match u.stage with
  | .inline offset =>
    match u.body with
    | .bytes data =>
      let last := u.trailers.isNone
      some (.sendData sid data offset last,
        afterSend offset (after u.closing) (.spawning offset) .inline
          (me.sendData sid data offset last).2)
    | .iter | .aiter => none
  | .spawning offset =>
    some (.writerStart, if me.writerStart.2 then u.begun offset else .ended .refused)
  | .sending data offset last next =>
    some (.sendData sid data offset last,
      afterSend offset (after next) u.stage (fun n => .sending data n last next)
        (me.sendData sid data offset last).2)
  | .trailers =>
    let fields := u.trailers.getD []
    some (.sendTrailers sid fields, afterTrailers (me.sendTrailers sid fields).2)
  | .pulling _ | .ended _ => none

end Upload

/-- The driver of a client and the writers of its request bodies, by stream. -/
structure Uploads where
  sys : Sys
  writers : Nat → Option Upload

namespace Uploads

def init (cfg : Config) : Uploads := ⟨.init cfg, fun _ => none⟩

/-- What a step is: a step of the driver; a request with a body, opened and its writer started; a
writer's next call; a writer's producer; and a reset that cuts an async body off. -/
inductive Action where
  | sys (a : Sys.Action)
  | request (block : Except Err Block) (isHead : Bool) (body : Body) (trailers : Option Fields)
  | write (sid : Nat)
  | pull (sid : Nat) (p : Produced)
  | abandon (sid : Nat)

/-- The writer of `sid` goes on. -/
def put (u : Uploads) (sid : Nat) (w : Upload) (stage : Stage) : Uploads :=
  { u with writers := Function.update u.writers sid (some { w with stage := stage }) }

/-- `send_request` up to its writer. -/
def request (u : Uploads) (block : Except Err Block) (isHead : Bool) (body : Body)
    (trailers : Option Fields) : Uploads :=
  let s := u.sys.call (.openStream block false isHead)
  match (u.sys.inner.openStream block false isHead).2 with
  | .ok (some sid) => ⟨s, Function.update u.writers sid (some (.start body trailers))⟩
  | _ => ⟨s, u.writers⟩

/-- `close` asks for the writers last, once the connection has failed. -/
def mayStep (u : Uploads) : Sys.Action → Bool
  | .call .releaseWriters => u.sys.inner.error.isSome
  | _ => true

/-- One step, where it can be taken. -/
def step (u : Uploads) : Action → Option Uploads
  | .sys a => if u.mayStep a then (u.sys.step a).map fun s => { u with sys := s } else none
  | .request block isHead body trailers =>
    if u.sys.inner.role = .client ∧ (body.bodyless = false ∨ trailers.isSome) then
      some (u.request block isHead body trailers)
    else none
  | .write sid =>
    (u.writers sid).bind fun w => (w.next u.sys.inner sid).map fun r =>
      ({ u with sys := u.sys.call r.1 }).put sid w r.2
  | .pull sid p =>
    (u.writers sid).bind fun w =>
      match w.stage with
      | .pulling pending => some (u.put sid w (w.pulled pending p))
      | _ => none
  | .abandon sid =>
    (u.writers sid).bind fun w =>
      match w.body, w.stage with
      | .aiter, .sending _ _ _ _ | .aiter, .pulling _ | .aiter, .trailers =>
        if sid ∈ u.sys.notified then some (u.put sid w (.ended .stopped)) else none
      | _, _ => none

end Uploads

end Httpunk.H2
