import Httpunk.H1.Encode

/-!
# H1 — Decode

The body decoder of the vendored crate (`Decoder` of `decode.rs`), over the buffer that the facade
gives it (`SyncMemRead` and `BodyDecoder` of `httpunk.rs`).

* `Chunked.onByte`: what the chunked decoder makes of one byte outside a chunk's data.
* `Decoder.decode`: one frame of a body, of any of the three framings.
* `BodyDecoder.decode`: one step of the facade.

The vendored crate reads the bytes of a trailer section with `httparse` and the `http` crate; they
are the parameter `TrailerParser`.
-/

namespace Httpunk.H1.Decode

/-- `io::ErrorKind`. -/
inductive ErrorKind where
  | unexpectedEof
  | invalidInput
  | invalidData
  deriving DecidableEq

/-- An `io::Error`, or the panic of an `expect`. -/
inductive DecodeError where
  | io (kind : ErrorKind) (text : String)
  | panic (text : String)
  deriving DecidableEq

/-- What `httparse::parse_headers` says. -/
inductive ParsedHeaders where
  | complete (headers : List (Bytes × Bytes))
  | incomplete
  | failed (text : String)

/-- `httparse::parse_headers`, with the names and values of the `http` crate. -/
structure TrailerParser where
  parseHeaders : Bytes → Nat → ParsedHeaders
  headerName : Bytes → Option String
  headerValue : Bytes → Option Bytes
  /-- The text of a header that is no good. -/
  debug : Bytes × Bytes → String

/-- The range of a `u64`. -/
def u64Size : Nat := 18446744073709551616

/-- `CHUNKED_EXTENSIONS_LIMIT`, `TRAILER_LIMIT` and `DEFAULT_MAX_HEADERS`. -/
def chunkedExtensionsLimit : Nat := 16384
def trailerLimit : Nat := 16384
def defaultMaxHeaders : Nat := 100

/-! ### The buffer -/

inductive Poll (α : Type) where
  | pending
  | ready (a : α)
  deriving DecidableEq

/-- `SyncMemRead`. -/
structure SyncMemRead where
  buf : Bytes := []
  eof : Bool := false
  deriving DecidableEq

/-- `read_mem`. -/
def SyncMemRead.readMem (r : SyncMemRead) (len : Nat) : SyncMemRead × Poll Bytes :=
  if !r.buf.isEmpty then
    ({ r with buf := r.buf.drop len }, .ready (r.buf.take len))
  else if r.eof then (r, .ready [])
  else (r, .pending)

/-! ### The chunked decoder -/

/-- `ChunkedState`. -/
inductive ChunkedState where
  | start
  | size
  | sizeLws
  | extension
  | sizeLf
  | body
  | bodyCr
  | bodyLf
  | trailer
  | trailerLf
  | endCr
  | endLf
  | ended
  deriving DecidableEq

/-- `Kind::Chunked`. -/
@[ext]
structure Chunked where
  state : ChunkedState := .start
  chunkLen : Nat := 0
  extensionsCnt : Nat := 0
  trailersBuf : Option Bytes := none
  trailersCnt : Nat := 0
  h1MaxHeaders : Option Nat := none
  h1MaxHeaderSize : Option Nat := none
  deriving DecidableEq

/-- A read of the chunked decoder; an error leaves what was written before it. -/
abbrev Read : Type := Except (DecodeError × Chunked) Chunked

/-- The value of a hexadecimal digit. -/
def hexDigit (b : UInt8) : Option Nat :=
  if 48 ≤ b ∧ b ≤ 57 then some (b.toNat - 48)
  else if 97 ≤ b ∧ b ≤ 102 then some (b.toNat + 10 - 97)
  else if 65 ≤ b ∧ b ≤ 70 then some (b.toNat + 10 - 65)
  else none

def incompleteBody : DecodeError := .io .unexpectedEof "end of file before message length reached"

namespace Chunked

variable (c : Chunked)

def maxHeadersCnt : Nat := c.h1MaxHeaders.getD defaultMaxHeaders

def maxHeadersBytes : Nat := c.h1MaxHeaderSize.getD trailerLimit

def invalidInput (text : String) : Read := .error (.io .invalidInput text, c)

def invalidData (text : String) : Read := .error (.io .invalidData text, c)

/-- `checked_mul` and `checked_add` of one digit. -/
def pushDigit (digit : Nat) : Read :=
  if u64Size ≤ c.chunkLen * 16 then c.invalidData "invalid chunk size: overflow"
  else
    let c := { c with chunkLen := c.chunkLen * 16 }
    if u64Size ≤ c.chunkLen + digit then c.invalidData "invalid chunk size: overflow"
    else .ok { c with chunkLen := c.chunkLen + digit, state := .size }

/-- `put_u8!`, with the `expect` before it. -/
def putU8 (byte : UInt8) (next : ChunkedState) : Read :=
  match c.trailersBuf with
  | none => .error (.panic "trailers_buf is None", c)
  | some buf =>
    let c := { c with trailersBuf := some (buf ++ [byte]) }
    if c.maxHeadersBytes ≤ buf.length + 1 then c.invalidData "chunk trailers bytes over limit"
    else .ok { c with state := next }

def readStart (b : UInt8) : Read :=
  match hexDigit b with
  | some digit => c.pushDigit digit
  | none => c.invalidInput "Invalid chunk size line: missing size digit"

def readSize (b : UInt8) : Read :=
  match hexDigit b with
  | some digit => c.pushDigit digit
  | none =>
    if b = 9 ∨ b = 32 then .ok { c with state := .sizeLws }
    else if b = 59 then .ok { c with state := .extension }
    else if b = 13 then .ok { c with state := .sizeLf }
    else c.invalidInput "Invalid chunk size line: Invalid Size"

def readSizeLws (b : UInt8) : Read :=
  if b = 9 ∨ b = 32 then .ok { c with state := .sizeLws }
  else if b = 59 then .ok { c with state := .extension }
  else if b = 13 then .ok { c with state := .sizeLf }
  else c.invalidInput "Invalid chunk size linear white space"

def readExtension (b : UInt8) : Read :=
  if b = 13 then .ok { c with state := .sizeLf }
  else if b = 10 then c.invalidData "invalid chunk extension contains newline"
  else
    let c := { c with extensionsCnt := c.extensionsCnt + 1 }
    if chunkedExtensionsLimit ≤ c.extensionsCnt then c.invalidData "chunk extensions over limit"
    else .ok { c with state := .extension }

def readSizeLf (b : UInt8) : Read :=
  if b = 10 then
    if c.chunkLen = 0 then .ok { c with state := .endCr }
    else .ok { c with state := .body }
  else c.invalidInput "Invalid chunk size LF"

def readBodyCr (b : UInt8) : Read :=
  if b = 13 then .ok { c with state := .bodyLf } else c.invalidInput "Invalid chunk body CR"

def readBodyLf (b : UInt8) : Read :=
  if b = 10 then .ok { c with state := .start } else c.invalidInput "Invalid chunk body LF"

def readTrailer (b : UInt8) : Read := c.putU8 b (if b = 13 then .trailerLf else .trailer)

def readTrailerLf (b : UInt8) : Read :=
  if b = 10 then
    if c.maxHeadersCnt ≤ c.trailersCnt then c.invalidData "chunk trailers count overflow"
    else { c with trailersCnt := c.trailersCnt + 1 }.putU8 b .endCr
  else c.invalidInput "Invalid trailer end LF"

/-- The first byte of a trailer section is put without a look at the limit. -/
def readEndCr (b : UInt8) : Read :=
  if b = 13 then
    match c.trailersBuf with
    | none => .ok { c with state := .endLf }
    | some _ => c.putU8 b .endLf
  else
    match c.trailersBuf with
    | none => .ok { c with trailersBuf := some [b], state := .trailer }
    | some _ => c.putU8 b .trailer

def readEndLf (b : UInt8) : Read :=
  if b = 10 then
    match c.trailersBuf with
    | none => .ok { c with state := .ended }
    | some _ => c.putU8 b .ended
  else c.invalidInput "Invalid chunk end LF"

/-- The reads of one byte, by the state. -/
def onByte (b : UInt8) : Read :=
  match c.state with
  | .start => c.readStart b
  | .size => c.readSize b
  | .sizeLws => c.readSizeLws b
  | .extension => c.readExtension b
  | .sizeLf => c.readSizeLf b
  | .bodyCr => c.readBodyCr b
  | .bodyLf => c.readBodyLf b
  | .trailer => c.readTrailer b
  | .trailerLf => c.readTrailerLf b
  | .endCr => c.readEndCr b
  | .endLf => c.readEndLf b
  | .body => .ok c
  | .ended => .ok c

/-- `byte!`, and the read of that byte. -/
def readByte (r : SyncMemRead) : SyncMemRead × Poll Read :=
  match r.readMem 1 with
  | (r, .pending) => (r, .pending)
  | (r, .ready []) =>
    (r, .ready (.error (.io .unexpectedEof "unexpected EOF during chunk size line", c)))
  | (r, .ready (b :: _)) => (r, .ready (c.onByte b))

/-- `read_body`, with the piece of the chunk it has read. -/
def readBody (r : SyncMemRead) :
    SyncMemRead × Poll (Except (DecodeError × Chunked) (Chunked × Bytes)) :=
  match r.readMem c.chunkLen with
  | (r, .pending) => (r, .pending)
  | (r, .ready slice) =>
    if slice.isEmpty then (r, .ready (.error (incompleteBody, { c with chunkLen := 0 })))
    else
      let rem := c.chunkLen - slice.length
      (r, .ready (.ok
        ({ c with chunkLen := rem, state := if 0 < rem then .body else .bodyCr }, slice)))

/-- `ChunkedState::step`, with the piece of a chunk in `chunk_buf`. -/
def step (r : SyncMemRead) :
    SyncMemRead × Poll (Except (DecodeError × Chunked) (Chunked × Option Bytes)) :=
  match c.state with
  | .ended => (r, .ready (.ok (c, none)))
  | .body =>
    match c.readBody r with
    | (r, .pending) => (r, .pending)
    | (r, .ready read) => (r, .ready (read.map fun p => (p.1, some p.2)))
  | _ =>
    match c.readByte r with
    | (r, .pending) => (r, .pending)
    | (r, .ready read) => (r, .ready (read.map fun c => (c, none)))

end Chunked

/-! ### Trailers -/

/-- The fields of a trailer section, in their order. -/
abbrev Fields : Type := List (String × Bytes)

namespace TrailerParser

variable (P : TrailerParser)

/-- A header of the section, with its name and value checked. -/
def field (header : Bytes × Bytes) : Except DecodeError (String × Bytes) :=
  match P.headerName header.1 with
  | none => .error (.io .invalidInput ("Invalid header name: " ++ P.debug header))
  | some name =>
    match P.headerValue header.2 with
    | none => .error (.io .invalidInput ("Invalid header value: " ++ P.debug header))
    | some value => .ok (name, value)

/-- `decode_trailers`. -/
def decodeTrailers (buf : Bytes) (count : Nat) : Except DecodeError Fields :=
  match P.parseHeaders buf count with
  | .complete headers => headers.mapM P.field
  | .incomplete => .error (.io .invalidInput "Partial header")
  | .failed text => .error (.io .invalidInput text)

end TrailerParser

/-! ### The decoder -/

/-- `Kind`. -/
inductive Decoder where
  | length (remaining : Nat)
  | chunked (c : Chunked)
  | eof (isEof : Bool)
  deriving DecidableEq

/-- `Frame`: data, or the trailers. -/
inductive Frame where
  | data (chunk : Bytes)
  | trailers (fields : Fields)
  deriving DecidableEq

namespace Decoder

/-- `Decoder::new`, by the kind that `BodyDecoder::new` is given. -/
def new (kind : BodyKind) (length : Nat) (maxHeaders maxHeaderSize : Option Nat) : Decoder :=
  match kind with
  | .empty => .length 0
  | .length => .length length
  | .chunked => .chunked { h1MaxHeaders := maxHeaders, h1MaxHeaderSize := maxHeaderSize }
  | .close => .eof false

def isEof : Decoder → Bool
  | .length n => n = 0
  | .chunked c => c.state = .ended
  | .eof e => e

end Decoder

variable (P : TrailerParser)

/-- The loop of `decode` for a chunked body.  A turn that does not return takes a byte, so one turn
more than there are bytes is enough. -/
def Chunked.decodeLoop (c : Chunked) (r : SyncMemRead) :
    Nat → Chunked × SyncMemRead × Poll (Except DecodeError Frame)
  | 0 => (c, r, .pending)
  | k + 1 =>
    match c.step r with
    | (r, .pending) => (c, r, .pending)
    | (r, .ready (.error (e, c))) => (c, r, .ready (.error e))
    | (r, .ready (.ok (c, buf))) =>
      if c.state = .ended then
        match c.trailersBuf with
        | some trailers =>
          ({ c with trailersBuf := none }, r,
            .ready ((P.decodeTrailers trailers c.trailersCnt).map .trailers))
        | none => (c, r, .ready (.ok (.data [])))
      else
        match buf with
        | some buf => (c, r, .ready (.ok (.data buf)))
        | none => c.decodeLoop r k

/-- `Decoder::decode`. -/
def Decoder.decode (d : Decoder) (r : SyncMemRead) :
    Decoder × SyncMemRead × Poll (Except DecodeError Frame) :=
  match d with
  | .length remaining =>
    if remaining = 0 then (d, r, .ready (.ok (.data [])))
    else
      match r.readMem remaining with
      | (r, .pending) => (d, r, .pending)
      | (r, .ready buf) =>
        if remaining < buf.length then (.length 0, r, .ready (.ok (.data buf)))
        else if buf.length = 0 then (d, r, .ready (.error incompleteBody))
        else (.length (remaining - buf.length), r, .ready (.ok (.data buf)))
  | .chunked c =>
    match c.decodeLoop P r (r.buf.length + 1) with
    | (c, r, frame) => (.chunked c, r, frame)
  | .eof isEof =>
    if isEof then (d, r, .ready (.ok (.data [])))
    else
      match r.readMem 8192 with
      | (r, .pending) => (d, r, .pending)
      | (r, .ready slice) => (.eof slice.isEmpty, r, .ready (.ok (.data slice)))

/-! ### The facade -/

/-- `BodyDecoder` of `httpunk.rs`. -/
structure BodyDecoder where
  decoder : Decoder
  read : SyncMemRead := {}
  done : Bool
  trailers : Option Fields := none
  deriving DecidableEq

namespace BodyDecoder

/-- `BodyDecoder::new`. -/
def new (kind : BodyKind) (length : Nat) (maxHeaders maxHeaderSize : Option Nat) : BodyDecoder where
  decoder := .new kind length maxHeaders maxHeaderSize
  done := (Decoder.new kind length maxHeaders maxHeaderSize).isEof

/-- `feed`, and `feed_buf` of the bytes that came with the head. -/
def feed (d : BodyDecoder) (data : Bytes) : BodyDecoder :=
  { d with read := { d.read with buf := d.read.buf ++ data } }

/-- `mark_eof`. -/
def markEof (d : BodyDecoder) : BodyDecoder := { d with read := { d.read with eof := true } }

/-- `take_buffered`. -/
def takeBuffered (d : BodyDecoder) : BodyDecoder × Bytes :=
  ({ d with read := { d.read with buf := [] } }, d.read.buf)

/-- `H1BodyDecoder::finish`: the trailers are taken, and the bytes behind the body counted. -/
def finish (d : BodyDecoder) : BodyDecoder × Option Fields × Nat :=
  ({ d with trailers := none }, d.trailers, d.read.buf.length)

/-- `decode`: a chunk, nothing (at the end, or for want of bytes), or an error. -/
def decode (d : BodyDecoder) : BodyDecoder × Except DecodeError (Option Bytes) :=
  if d.done then (d, .ok none)
  else
    match d.decoder.decode P d.read with
    | (decoder, read, .pending) => ({ d with decoder := decoder, read := read }, .ok none)
    | (decoder, read, .ready (.ok (.data chunk))) =>
      if chunk.isEmpty then ({ d with decoder := decoder, read := read, done := true }, .ok none)
      else
        ({ d with decoder := decoder, read := read, done := decoder.isEof }, .ok (some chunk))
    | (decoder, read, .ready (.ok (.trailers fields))) =>
      ({ d with decoder := decoder, read := read, done := true, trailers := some fields }, .ok none)
    | (decoder, read, .ready (.error e)) =>
      ({ d with decoder := decoder, read := read }, .error e)

end BodyDecoder

end Httpunk.H1.Decode
