import Httpunk.H2.Conn.Send

/-!
# H2 — Conn — Output

The connection with the bytes it has queued: the buffer `pending` and the state of the HPACK
encoder, which is the vendored crate's and a parameter.  A frame is encoded as it is queued, under
the lock its call holds.
-/

namespace Httpunk.H2

/-- `Encoder` of `codec.rs`: how a frame is written.  `E` is the state of `hpack::Encoder`. -/
structure FrameEncoder (E : Type) where
  /-- `encode_headers`, under the peer's `max_frame_size`. -/
  headers : E → Nat → Nat → Block → Bool → E × Bytes
  /-- The frames that leave the HPACK encoder alone. -/
  plain : OutFrame → Bytes

/-- The frames written in turn. -/
def FrameEncoder.encode {E : Type} (v : FrameEncoder E) (maxFrameSize : Nat) :
    E → List OutFrame → E × Bytes
  | enc, [] => (enc, [])
  | enc, .headers sid block eos :: fs =>
    let w := v.headers enc maxFrameSize sid block eos
    let rest := v.encode maxFrameSize w.1 fs
    (rest.1, w.2 ++ rest.2)
  | enc, f :: fs =>
    let rest := v.encode maxFrameSize enc fs
    (rest.1, v.plain f ++ rest.2)

/-- The connection, its HPACK encoder and its queued bytes. -/
structure Output (E : Type) where
  inner : Inner
  enc : E
  bytes : Bytes

/-! ### The calls that send a head -/

/-- A call that sends a header block. -/
inductive HeadCall where
  | openStream (request : Except Err Block) (endStream isHead : Bool)
  | sendTrailers (sid : Nat) (trailers : Fields)
  | sendResponseHead (sid status : Nat) (fields : Fields) (endStream : Bool) (date : String)

/-- What such a call returns or raises. -/
inductive HeadResult where
  | opened (r : Except Err (Option Nat))
  | sent (r : Except Err SendVerdict)

/-- The call raised, or reported a stop. -/
def HeadResult.failed : HeadResult → Bool
  | .opened (.ok (some _)) => false
  | .sent (.ok v) => v.stopped.isSome
  | _ => true

namespace HeadCall

/-- The call on the connection's state. -/
def run (me : Inner) : HeadCall → Inner × HeadResult
  | .openStream request endStream isHead =>
    let r := me.openStream request endStream isHead
    (r.1, .opened r.2)
  | .sendTrailers sid trailers =>
    let r := me.sendTrailers sid trailers
    (r.1, .sent r.2)
  | .sendResponseHead sid status fields endStream date =>
    let r := me.sendResponseHead sid status fields endStream date
    (r.1, .sent r.2)

/-- What a failed call still does: `open_stream` gives its slot back. -/
def giveBack (me : Inner) : HeadCall → Inner
  | .openStream .. => me.releaseSlotCount
  | _ => me

end HeadCall

/-- The call, and the bytes of the frames it queues. -/
def Output.call {E : Type} (v : FrameEncoder E) (o : Output E) (c : HeadCall) :
    Output E × HeadResult :=
  let r := c.run o.inner
  let w := v.encode r.1.sendMaxFrameSize o.enc (r.1.pending.drop o.inner.pending.length)
  (⟨r.1, w.1, o.bytes ++ w.2⟩, r.2)

end Httpunk.H2
