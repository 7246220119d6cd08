import Httpunk.H2.Hpack.Codec
import Httpunk.H2.Driver.Decoder

/-!
# H2 — Hpack — Block

A header block as it is loaded (`HeaderBlock::load` of `frame/headers.rs`), and the decoder of
frames over it.

* `HeaderBlock.take`: what the closure makes of a field.
* `HeaderBlock.load`: a fragment.
* `vendor`: the loader of header blocks that the decoder of frames is given.

The capacity of a `HeaderMap` is the parameter `full`: whether a field finds no room in it.
-/

namespace Httpunk.H2.Hpack

/-- `Pseudo`. -/
structure Pseudo where
  method : Option Bytes
  scheme : Option Bytes
  authority : Option Bytes
  path : Option Bytes
  protocol : Option Bytes
  status : Option Bytes

namespace Pseudo

/-- The field of a pseudo-header. -/
def get (p : Pseudo) : Name → Option Bytes
  | .field _ => none
  | .authority => p.authority
  | .method => p.method
  | .scheme => p.scheme
  | .path => p.path
  | .protocol => p.protocol
  | .status => p.status

def set (p : Pseudo) (n : Name) (v : Bytes) : Pseudo :=
  match n with
  | .field _ => p
  | .authority => { p with authority := some v }
  | .method => { p with method := some v }
  | .scheme => { p with scheme := some v }
  | .path => { p with path := some v }
  | .protocol => { p with protocol := some v }
  | .status => { p with status := some v }

end Pseudo

structure HeaderBlock where
  /-- The fields of the map, in the order they were appended. -/
  fields : List (Bytes × Bytes)
  fieldSize : Nat
  isOverSize : Bool
  pseudo : Pseudo

/-- `decoded_header_size`. -/
def decodedHeaderSize (name value : Nat) : Nat := name + value + 32

/-- The variables of `load` beside the block. -/
structure Loading where
  block : HeaderBlock
  reg : Bool
  malformed : Bool
  wayTooLarge : Bool
  headersSize : Nat

/-- The names that are refused, as they are of the connection. -/
def connectionLevel : List Bytes :=
  [ascii "connection", ascii "transfer-encoding", ascii "upgrade", ascii "keep-alive",
    ascii "proxy-connection"]

namespace HeaderBlock

/-- `pseudo_size`. -/
def pseudoSize (b : HeaderBlock) (n : Name) : Nat :=
  (b.pseudo.get n).elim 0 fun v => decodedHeaderSize n.asSlice.length v.length

/-- `calculate_header_list_size`, which leaves out `:protocol`. -/
def calculateHeaderListSize (b : HeaderBlock) : Nat :=
  b.pseudoSize .method + b.pseudoSize .scheme + b.pseudoSize .status + b.pseudoSize .authority +
    b.pseudoSize .path + b.fieldSize

/-- `load` before the first field. -/
def start (b : HeaderBlock) : Loading :=
  ⟨b, !b.fields.isEmpty, false, false, b.calculateHeaderListSize⟩

end HeaderBlock

namespace Loading

/-- `max_header_list_size.saturating_mul(MAX_HEADER_LIST_ABUSE_MULTIPLIER)`. -/
def abuseSize (maxSize : Nat) : Nat := min (maxSize * 4) (2 ^ 64 - 1)

/-- `check_size`, of a field that was added to the size; whether to break. -/
def checkSize (maxSize : Nat) (l : Loading) : Loading × Bool :=
  if abuseSize maxSize < l.headersSize then ({ l with wayTooLarge := true }, true)
  else
    ({ l with block := { l.block with
      isOverSize := l.block.isOverSize || decide (maxSize ≤ l.headersSize) } }, false)

/-- A field that is put in the map, unless there is no room for it. -/
def append (full : List (Bytes × Bytes) → Bytes → Bool) (l : Loading) (n v : Bytes) : Loading :=
  if full l.block.fields n then
    { l with block := { l.block with
      fieldSize := l.block.fieldSize + decodedHeaderSize n.length v.length, isOverSize := true } }
  else
    { l with block := { l.block with
      fieldSize := l.block.fieldSize + decodedHeaderSize n.length v.length
      fields := l.block.fields ++ [(n, v)] } }

/-- The size of the list with a field more, checked. -/
def counted (maxSize : Nat) (l : Loading) (n : Name) (v : Bytes) : Loading × Bool :=
  checkSize maxSize
    { l with headersSize := l.headersSize + decodedHeaderSize n.asSlice.length v.length }

/-- The arm of the closure for a regular field. -/
def takeField (full : List (Bytes × Bytes) → Bytes → Bool) (maxSize : Nat) (l : Loading)
    (n v : Bytes) : Loading × Bool :=
  if connectionLevel.contains n then ({ l with malformed := true }, false)
  else if n = ascii "te" ∧ v ≠ ascii "trailers" then ({ l with malformed := true }, false)
  else
    let r := counted maxSize { l with reg := true } (.field n) v
    if r.2 || r.1.block.isOverSize then r else (append full r.1 n v, false)

/-- `set_pseudo`. -/
def setPseudo (maxSize : Nat) (l : Loading) (n : Name) (v : Bytes) : Loading × Bool :=
  if l.reg || (l.block.pseudo.get n).isSome then ({ l with malformed := true }, false)
  else
    let r := counted maxSize l n v
    if r.2 || r.1.block.isOverSize then r
    else ({ r.1 with block := { r.1.block with pseudo := r.1.block.pseudo.set n v } }, false)

/-- The closure of `load`. -/
def take (full : List (Bytes × Bytes) → Bytes → Bool) (maxSize : Nat) (l : Loading) (h : Header) :
    Loading × Bool :=
  match h with
  | .field n v _ => takeField full maxSize l n v
  | h => setPseudo maxSize l h.name h.valueSlice

end Loading

section Load

variable (H : Http) (F : Huffman) (full : List (Bytes × Bytes) → Bytes → Bool)

/-- The end of `load`. -/
def Loading.result (l : Loading) (res : Except DecoderError Unit) : Loaded :=
  match res with
  | .error e => .hpack e
  | .ok () => if l.wayTooLarge then .wayTooLarge else if l.malformed then .malformed else .done

/-- `HeaderBlock::load`: the block, the decoder, what is left of the fragment, and how it ended. -/
def HeaderBlock.load (b : HeaderBlock) (maxSize : Nat) (d : Decoder) (src : Bytes) :
    HeaderBlock × Decoder × Bytes × Loaded :=
  let r := d.decode H F (Loading.take full maxSize) b.start src
  (r.2.2.1.block, r.2.1, r.2.2.2, r.2.2.1.result r.1)

/-- `Headers`: its stream, what else it came with, and its block. -/
structure Headers (R : Type) where
  streamId : Nat
  head : R
  headerBlock : HeaderBlock

/-- The vendored crate with the header blocks as they are; what is not HPACK is left open. -/
def vendor {R : Type} (load : H2.Bytes → Except Err (Headers R × H2.Bytes ⊕ Frame))
    (event : Headers R → Except Err Frame) (plain : H2.Bytes → Except Err (Option Frame)) :
    Vendor Table (Headers R) where
  setMaxSize := Table.setMaxSize
  load := load
  fields table p maxSize src :=
    let r := Decoder.decodeLoop H F (Loading.take full maxSize) src.length ⟨none, 0, table⟩ false
      p.headerBlock.start src
    (r.2.1.table, { p with headerBlock := r.2.2.1.block }, r.2.2.2, r.2.2.1.result r.1)
  streamId := Headers.streamId
  isOverSize p := p.headerBlock.isOverSize
  event := event
  plain := plain

end Load

end Httpunk.H2.Hpack
