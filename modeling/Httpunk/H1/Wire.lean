import Mathlib

/-!
# H1 — Wire

The bytes of one HTTP/1 connection: the read buffer of its codec (`codec.rs`), and the body
decoder of a message (`H1BodyDecoder`, the vendored `BodyDecoder`).  The vendored parser and
decoders themselves are a parameter, `Wire`.

* `Wire.parseHead`: the head parse over the read buffer, bounded as `H1Codec::parse_head` bounds it.
* `BodyDecoder`: the decoder of a body with the bytes it holds.
* `headEnd`: where a head ends.
-/

namespace Httpunk.H1

abbrev Bytes : Type := List UInt8

/-- The bytes of a text. -/
def ofText (s : String) : Bytes := s.toList.map fun c => UInt8.ofNat c.toNat

/-- The end of a head: behind the first empty line. -/
def headEnd : Bytes → Option Nat
  | [] => none
  | b :: rest =>
    if (b :: rest).take 4 = [13, 10, 13, 10] then some 4 else (headEnd rest).map (· + 1)

/-- The framing of a body: `body_kind`. -/
inductive BodyKind where
  | empty
  | length
  | chunked
  | close
  deriving DecidableEq

/-- `H1RequestHead`. -/
structure RequestHead where
  method : String
  target : String
  headers : List (String × Bytes) := []
  keepAlive : Bool := true
  kind : BodyKind := .empty
  contentLength : Option Nat := none
  expectContinue : Bool := false
  isUpgrade : Bool := false
  isConnect : Bool := false
  http10 : Bool := false
  deriving DecidableEq

/-- What a parse of the read buffer finds: too little, a head and the number of its bytes, or no
head. -/
inductive Parsed where
  | more
  | head (h : RequestHead) (n : Nat)
  | failed
  deriving DecidableEq

/-- What a parser finds that takes one head for a request. -/
def Parsed.ofHead (text : Bytes) (head : RequestHead) (buf : Bytes) : Parsed :=
  match headEnd buf with
  | none => .more
  | some n => if buf.take n = text then .head head n else .failed

/-- What one step of a body decoder finds: too little, a piece of the body (an empty one is its
end), the trailers, or no body. -/
inductive Decoded where
  | pending
  | data (chunk : Bytes)
  | trailers
  | failed
  deriving DecidableEq

/-- The vendored parser and body decoders. -/
structure Wire where
  Decoder : Type
  /-- `parse_request`, with the options of the connection. -/
  parseRequest : Bytes → Parsed
  /-- The decoder of a body: `Decoder::length`, `Decoder::chunked`, `Decoder::eof`. -/
  newDecoder : BodyKind → Nat → Decoder
  isEof : Decoder → Bool
  /-- `Decoder::decode`, over the bytes it is given and whether the transport has ended. -/
  decode : Decoder → Bytes → Bool → Decoder × Bytes × Decoded

/-- `MINIMUM_MAX_BUFFER_SIZE` and `DEFAULT_MAX_BUFFER_SIZE`. -/
def minimumMaxBufferSize : Nat := 8192
def defaultMaxBufferSize : Nat := 8192 + 4096 * 100

/-- The options of the codec that bound a head, with the check of its constructor. -/
structure Limits where
  maxHeaderSize : Option Nat := none
  maxBufSize : Nat := defaultMaxBufferSize
  checked : minimumMaxBufferSize ≤ maxBufSize := by decide
  deriving DecidableEq

namespace Wire

variable (W : Wire)

/-- The closure in `parse_head`: a head still incomplete at a limit is too large. -/
def parseCapped (lim : Limits) (buf : Bytes) : Parsed :=
  match W.parseRequest buf with
  | .more =>
    if lim.maxHeaderSize.any (fun m => m ≤ buf.length) || lim.maxBufSize ≤ buf.length then .failed
    else .more
  | parsed => parsed

/-- `parse_head` of a request: the parser sees no more than `max_buf_size` bytes.  At that many an
incomplete head has failed, so the loop of the source ends in its first turn. -/
def parseHead (lim : Limits) (buf : Bytes) : Parsed := W.parseCapped lim (buf.take lim.maxBufSize)

end Wire

/-! ### The body decoder -/

/-- `BodyDecoder`. -/
structure BodyDecoder (W : Wire) where
  decoder : W.Decoder
  buf : Bytes
  eof : Bool
  done : Bool

namespace BodyDecoder

variable {W : Wire}

/-- `BodyDecoder::new`, with the body bytes that came with the head (`accept_head`). -/
def new (W : Wire) (kind : BodyKind) (length : Nat) (body : Bytes) : BodyDecoder W where
  decoder := W.newDecoder kind length
  buf := body
  eof := false
  done := W.isEof (W.newDecoder kind length)

/-- `feed`. -/
def feed (d : BodyDecoder W) (data : Bytes) : BodyDecoder W := { d with buf := d.buf ++ data }

/-- `mark_eof`. -/
def markEof (d : BodyDecoder W) : BodyDecoder W := { d with eof := true }

/-- `take_buffered`: what is left behind. -/
def takeBuffered (d : BodyDecoder W) : BodyDecoder W := { d with buf := [] }

/-- `decode`: a chunk, nothing (at the end, or for want of bytes), or an error. -/
def decode (d : BodyDecoder W) : BodyDecoder W × Except Unit (Option Bytes) :=
  if d.done then (d, .ok none)
  else
    match W.decode d.decoder d.buf d.eof with
    | (decoder, buf, .pending) => ({ d with decoder := decoder, buf := buf }, .ok none)
    | (decoder, buf, .data chunk) =>
      if chunk = [] then ({ d with decoder := decoder, buf := buf, done := true }, .ok none)
      else ({ d with decoder := decoder, buf := buf, done := W.isEof decoder }, .ok (some chunk))
    | (decoder, buf, .trailers) =>
      ({ d with decoder := decoder, buf := buf, done := true }, .ok none)
    | (decoder, buf, .failed) => ({ d with decoder := decoder, buf := buf }, .error ())

end BodyDecoder

end Httpunk.H1
