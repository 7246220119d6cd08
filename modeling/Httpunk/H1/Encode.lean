import Httpunk.H1.Wire

/-!
# H1 — Encode

The sending half of the codec (`codec.rs`): the body encoder of the vendored crate (`Encoder` of
`encode.rs`, `BodyEncoder` of `httpunk.rs`), and the two ways a message is written
(`httpunk/h1/connection.py`): the head and the body in one buffer, or the head and then the body as
it is framed.

* `Codec.serializeHeadAndBody`: one buffer.
* `Codec.sendBody`: the writes of the streamed path.
-/

namespace Httpunk.H1

/-! ### The body encoder -/

/-- The fields of a trailer block, their names in lower case. -/
abbrev Trailers : Type := List (String × Bytes)

/-- `Kind` of `encode.rs`. -/
inductive EncodeKind where
  /-- With the fields that the message's `Trailer` header declared, if it has one. -/
  | chunked (allowedTrailerFields : Option (List String))
  | length (remaining : Nat)
  | closeDelimited
  deriving DecidableEq

/-- `H1UserError` of the kind `body_write_aborted`, and the `ValueError` of a call out of turn. -/
inductive EncodeError where
  | bodyWriteAborted
  | noRequestInFlight
  deriving DecidableEq

def crlf : Bytes := [13, 10]

/-- `ChunkSize`: the length in upper-case hexadecimal, and CRLF. -/
def chunkSize (len : Nat) : Bytes :=
  (Nat.toDigits 16 len).map (fun c => UInt8.ofNat c.toUpper.toNat) ++ crlf

/-- `CHUNKED_TERMINATOR`. -/
def chunkedTerminator : Bytes := [48, 13, 10, 13, 10]

/-- `is_valid_trailer_field`. -/
def isValidTrailerField (name : String) : Bool :=
  let banned := ["authorization", "cache-control", "content-encoding", "content-length",
    "content-range", "content-type", "host", "max-forwards", "set-cookie", "trailer",
    "transfer-encoding", "te"]
  !banned.contains name

/-- `title_case`. -/
def titleCase (prev : Char) : List Char → List Char
  | [] => []
  | c :: cs =>
    let c := if prev = '-' then c.toUpper else c
    c :: titleCase c cs

/-- `write_headers` and `write_headers_title_case`. -/
def writeHeaders (titleCaseHeaders : Bool) (fields : Trailers) : Bytes :=
  (fields.map fun f =>
    let name := if titleCaseHeaders then titleCase '-' f.1.toList else f.1.toList
    name.map (fun c => UInt8.ofNat c.toNat) ++ [58, 32] ++ f.2 ++ crlf).flatten

namespace EncodeKind

/-- `Encoder::is_eof`. -/
def isEof : EncodeKind → Bool
  | .length 0 => true
  | _ => false

/-- `Encoder::is_chunked`. -/
def isChunked : EncodeKind → Bool
  | .chunked _ => true
  | _ => false

/-- `Encoder::encode` of a chunk that is not empty. -/
def encode (k : EncodeKind) (chunk : Bytes) : EncodeKind × Bytes :=
  match k with
  | .chunked fields => (.chunked fields, chunkSize chunk.length ++ chunk ++ crlf)
  | .length remaining =>
    if remaining < chunk.length then (.length 0, chunk.take remaining)
    else (.length (remaining - chunk.length), chunk)
  | .closeDelimited => (.closeDelimited, chunk)

/-- `FramedChunk::is_verbatim`: the framing left the chunk as it is. -/
def isVerbatim (k : EncodeKind) (chunk : Bytes) : Bool :=
  !k.isChunked && (k.encode chunk).2.length == chunk.length

/-- `BodyEncoder::end`. -/
def finish : EncodeKind → Except EncodeError Bytes
  | .length 0 => .ok []
  | .chunked _ => .ok chunkedTerminator
  | .closeDelimited => .ok []
  | .length _ => .error .bodyWriteAborted

/-- `Encoder::encode_trailers`: the declared fields, or none where no field is left. -/
def encodeTrailers (k : EncodeKind) (trailers : Trailers) (titleCaseHeaders : Bool) :
    Option Bytes :=
  match k with
  | .chunked (some allowed) =>
    let fields := trailers.filter fun f => allowed.contains f.1 && isValidTrailerField f.1
    let buf := writeHeaders titleCaseHeaders fields
    if buf.isEmpty then none else some ([48, 13, 10] ++ buf ++ crlf)
  | _ => none

/-- `BodyEncoder::end_with_trailers`. -/
def finishWithTrailers (k : EncodeKind) (trailers : Trailers) (titleCaseHeaders : Bool) :
    Except EncodeError Bytes :=
  match k.encodeTrailers trailers titleCaseHeaders with
  | some buf => .ok buf
  | none => k.finish

/-- A single-buffer body, framed where there are bytes. -/
def framed (k : EncodeKind) : Option Bytes → EncodeKind × Bytes
  | some b => if b.isEmpty then (k, []) else k.encode b
  | none => (k, [])

end EncodeKind

/-! ### The codec -/

/-- What the codec keeps of the message it sends. -/
structure Codec where
  encoder : Option EncodeKind
  allowTrailerFields : Bool
  titleCaseHeaders : Bool
  deriving DecidableEq

namespace Codec

/-- `body_is_eof`. -/
def bodyIsEof (c : Codec) : Bool := c.encoder.all (·.isEof)

/-- `serialize_data`. -/
def serializeData (c : Codec) (chunk : Bytes) : Codec × Except EncodeError Bytes :=
  if chunk.isEmpty then (c, .ok chunk)
  else
    match c.encoder with
    | none => (c, .error .noRequestInFlight)
    | some k =>
      let r := k.encode chunk
      ({ c with encoder := some r.1 }, .ok (if k.isVerbatim chunk then chunk else r.2))

/-- `serialize_end`. -/
def serializeEnd (c : Codec) : Codec × Except EncodeError Bytes :=
  ({ c with encoder := none },
    match c.encoder with
    | some k => k.finish
    | none => .ok [])

/-- `serialize_trailers`. -/
def serializeTrailers (c : Codec) (trailers : Trailers) : Codec × Except EncodeError Bytes :=
  ({ c with encoder := none },
    match c.encoder with
    | some k =>
      if c.allowTrailerFields then k.finishWithTrailers trailers c.titleCaseHeaders else k.finish
    | none => .ok [])

/-- `serialize_head_and_body`. -/
def serializeHeadAndBody (c : Codec) (head : Bytes) (body : Option Bytes)
    (trailers : Option Trailers) : Codec × Except EncodeError Bytes :=
  ({ c with encoder := none },
    match c.encoder with
    | none => .ok head
    | some k =>
      if k.isEof then k.finish.map fun tail => head ++ tail
      else
        let framed := k.framed body
        let tail := match trailers with
          | some t =>
            if c.allowTrailerFields then framed.1.finishWithTrailers t c.titleCaseHeaders
            else framed.1.finish
          | none => framed.1.finish
        tail.map fun tail => head ++ framed.2 ++ tail)

/-! ### The streamed path -/

/-- What the streamed path has written, and the error it has raised. -/
structure Sent where
  writes : List Bytes
  raised : Option EncodeError
  deriving DecidableEq

/-- A write that is made only where there are bytes. -/
def Sent.write (s : Sent) (bytes : Bytes) : Sent :=
  if bytes.isEmpty then s else { s with writes := s.writes ++ [bytes] }

/-- What a serializer gave, written or raised. -/
def Sent.put (s : Sent) : Except EncodeError Bytes → Sent
  | .ok bytes => s.write bytes
  | .error err => { s with raised := some err }

/-- The chunks of a body, each framed and written, until one raises. -/
def sendChunks (c : Codec) (s : Sent) : List Bytes → Codec × Sent
  | [] => (c, s)
  | chunk :: rest =>
    let r := c.serializeData chunk
    let s := s.put r.2
    if s.raised.isSome then (r.1, s) else r.1.sendChunks s rest

/-- `_send_body` past the head: `chunks` is what `aiter_body` makes of the body, if there is one. -/
def sendBody (c : Codec) (s : Sent) (chunks : Option (List Bytes)) (trailers : Option Trailers) :
    Codec × Sent :=
  if c.bodyIsEof then
    let r := c.serializeEnd
    (r.1, s.put r.2)
  else
    let sent := c.sendChunks s (chunks.getD [])
    if sent.2.raised.isSome then sent
    else
      let r := match trailers with
        | some t => sent.1.serializeTrailers t
        | none => sent.1.serializeEnd
      (r.1, sent.2.put r.2)

/-- `aiter_body` of a single buffer. -/
def aiterBody (body : Option Bytes) : Option (List Bytes) := body.map fun b => [b]

/-- `_send_head_and_body` of a message with a single buffer: in one write, or the head first. -/
def sendHeadAndBody (c : Codec) (head : Bytes) (body : Option Bytes) (trailers : Option Trailers)
    (coalesce : Bool) : Codec × Sent :=
  if coalesce then
    let r := c.serializeHeadAndBody head body trailers
    (r.1, match r.2 with
      | .ok bytes => ⟨[bytes], none⟩
      | .error err => ⟨[], some err⟩)
  else c.sendBody ⟨[head], none⟩ (aiterBody body) trailers

end Codec

end Httpunk.H1
