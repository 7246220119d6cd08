import Httpunk.H2.Driver.Upload

/-!
# H2 — Driver — Bodies

The senders of message bodies of both ends: a client's request bodies (`Upload`), a response with
its body (`_send_response` of `httpunk/h2/server.py`), and the `SendStream` of a push-style
response, whose chunks the application hands over one at a time.  Nobody else sends on a stream.

* `BodySend`: the sender of one body, and what it has been handed of it.
* `Bodies.step`: the driver with its senders, in any interleaving.
-/

namespace Httpunk.H2

/-- The bytes that a sender is handed at once. -/
def Body.whole : Body → Bytes
  | .bytes data => data
  | .iter | .aiter => []

/-- The sender of one body. -/
structure BodySend where
  upload : Upload
  /-- A `SendStream`, whose application is the producer. -/
  push : Bool
  /-- The body, as far as it has been handed over.  What a cancelled `send_data` of a `SendStream`
  left unsent is not of it: the stream stays open for the next chunk. -/
  body : Bytes
  /-- How many frames were queued before its HEADERS. -/
  since : Nat
  deriving DecidableEq

namespace BodySend

/-- `_send_body_background` of a request whose HEADERS are queued. -/
def request (body : Body) (trailers : Option Fields) (since : Nat) : BodySend :=
  ⟨.start body trailers, false, body.whole, since⟩

/-- `_send_body` of a response whose HEADERS are queued: no DATA goes out for an empty body with
trailers. -/
def respond (body : Body) (trailers : Option Fields) (since : Nat) : BodySend where
  upload :=
    let u : Upload := ⟨body, trailers, .trailers⟩
    if body = .bytes [] ∧ trailers.isSome then u else { u with stage := u.begun 0 }
  push := false
  body := body.whole
  since := since

/-- Where a `SendStream` stands. -/
def pushing (stage : Stage) : Upload := ⟨.aiter, none, stage⟩

/-- A `SendStream` whose HEADERS are queued. -/
def pushed (since : Nat) : BodySend := ⟨pushing (.pulling none), true, [], since⟩

/-- What the producer hands over. -/
def handed : Produced → Bytes
  | .chunk (some data) => data
  | .chunk none | .stop | .raised => []

/-- The producer's answer. -/
def pulled (t : BodySend) (pending : Option Bytes) (p : Produced) : BodySend :=
  { t with
    upload := { t.upload with stage := t.upload.pulled pending p }
    body := t.body ++ handed p }

/-- `SendStream.send_data`. -/
def sendData (t : BodySend) (chunk : Bytes) (endStream : Bool) : BodySend :=
  { t with
    upload := pushing (.sending chunk 0 endStream (if endStream then .finish else .pull))
    body := t.body ++ chunk }

/-- `SendStream.send_data` is cancelled, with `unsent` of its chunk to go: `_done` is not set. -/
def cut (t : BodySend) (unsent : Bytes) : BodySend :=
  { t with
    upload := { t.upload with stage := .pulling none }
    body := t.body.take (t.body.length - unsent.length) }

/-- `SendStream.send_trailers`. -/
def sendTrailers (t : BodySend) (trailers : Fields) : BodySend :=
  { t with upload := { pushing .trailers with trailers := some trailers } }

/-- The sender goes on. -/
def goTo (t : BodySend) (stage : Stage) : BodySend :=
  { t with upload := { t.upload with stage := stage } }

end BodySend

/-- The driver and the senders of its bodies, by stream. -/
structure Bodies where
  sys : Sys
  senders : Nat → Option BodySend

namespace Bodies

def init (cfg : Config) : Bodies := ⟨.init cfg, fun _ => none⟩

/-- What a step is: a step of the driver that sends nothing on a stream; a request or a response
whose HEADERS are queued, and the sender of its body started; a sender's next call; what the
producer of its body does, or the application that pushes it; a reset that cuts an async body off;
and a sender that is cancelled. -/
inductive Action where
  | sys (a : Sys.Action)
  | request (block : Except Err Block) (isHead : Bool) (body : Body) (trailers : Option Fields)
  | respond (sid status : Nat) (fields : Fields) (date : String) (body : Body)
      (trailers : Option Fields)
  | sendResponse (sid status : Nat) (fields : Fields) (date : String)
  | write (sid : Nat)
  | pull (sid : Nat) (p : Produced)
  | sendData (sid : Nat) (chunk : Bytes) (endStream : Bool)
  | sendTrailers (sid : Nat) (trailers : Fields)
  | abandon (sid : Nat)
  | cancel (sid : Nat)

/-- A call that the senders make. -/
def isSend : Sys.Action → Bool
  | .call (.sendData _ _ _ _) | .call (.sendTrailers _ _) => true
  | _ => false

/-- The sender of `sid` becomes `t`. -/
def put (b : Bodies) (sid : Nat) (t : BodySend) : Bodies :=
  { b with senders := Function.update b.senders sid (some t) }

/-- `send_request` up to the sender of its body. -/
def request (b : Bodies) (block : Except Err Block) (isHead : Bool) (body : Body)
    (trailers : Option Fields) : Bodies :=
  let b' := { b with sys := b.sys.call (.openStream block false isHead) }
  match (b.sys.inner.openStream block false isHead).2 with
  | .ok (some sid) => b'.put sid (.request body trailers b.sys.log.length)
  | _ => b'

/-- `_send_response_head` of a response with a body, and the sender of that body. -/
def respond (b : Bodies) (sid status : Nat) (fields : Fields) (date : String)
    (start : Nat → BodySend) : Bodies :=
  let b' := { b with sys := b.sys.call (.sendResponseHead sid status fields false date) }
  match (b.sys.inner.sendResponseHead sid status fields false date).2 with
  | .ok v => if v.stopped.isSome then b' else b'.put sid (start b.sys.log.length)
  | .error _ => b'

/-- One step, where it can be taken. -/
def step (b : Bodies) : Action → Option Bodies
  | .sys a => if isSend a then none else (b.sys.step a).map fun s => { b with sys := s }
  | .request block isHead body trailers =>
    if b.sys.inner.role = .client ∧ (body.bodyless = false ∨ trailers.isSome) then
      some (b.request block isHead body trailers)
    else none
  | .respond sid status fields date body trailers =>
    if b.sys.inner.role = .server then
      some (b.respond sid status fields date (.respond body trailers))
    else none
  | .sendResponse sid status fields date =>
    if b.sys.inner.role = .server then some (b.respond sid status fields date .pushed) else none
  | .write sid =>
    (b.senders sid).bind fun t => (t.upload.next b.sys.inner sid).map fun r =>
      ({ b with sys := b.sys.call r.1 }).put sid (t.goTo r.2)
  | .pull sid p =>
    (b.senders sid).bind fun t =>
      match t.push, t.upload.stage with
      | false, .pulling pending => some (b.put sid (t.pulled pending p))
      | _, _ => none
  | .sendData sid chunk endStream =>
    (b.senders sid).bind fun t =>
      match t.push, t.upload.stage with
      | true, .pulling none => some (b.put sid (t.sendData chunk endStream))
      | _, _ => none
  | .sendTrailers sid trailers =>
    (b.senders sid).bind fun t =>
      match t.push, t.upload.stage with
      | true, .pulling none => some (b.put sid (t.sendTrailers trailers))
      | _, _ => none
  | .abandon sid =>
    (b.senders sid).bind fun t =>
      match t.push, t.upload.body, t.upload.stage with
      | false, .aiter, .sending _ _ _ _ | false, .aiter, .pulling _ | false, .aiter, .trailers =>
        if sid ∈ b.sys.notified then some (b.put sid (t.goTo (.ended .stopped))) else none
      | _, _, _ => none
  | .cancel sid =>
    (b.senders sid).bind fun t =>
      match t.push, t.upload.stage with
      -- a `SendStream` is done with `end_stream` alone, and between its calls nothing of it runs
      | true, .sending chunk offset false .pull => some (b.put sid (t.cut (chunk.drop offset)))
      | true, .sending _ _ true _ => some (b.put sid (t.goTo (.ended .raised)))
      | false, .sending _ _ _ _ | false, .pulling _ => some (b.put sid (t.goTo (.ended .raised)))
      | _, _ => none

/-- A step as a relation. -/
abbrev Step (b : Bodies) (a : Action) (b' : Bodies) : Prop := b.step a = some b'

end Bodies

end Httpunk.H2
