import Httpunk.H2.Conn.Recv
import Httpunk.H2.Hpack.Header

/-!
# H2 — Driver — Decoder

The inbound half of the codec (`Decoder` of `codec.rs`): the read buffer, the header block that
awaits its CONTINUATION, and of HPACK the limit on the size of the dynamic table.  What the
vendored crate makes of the fields of a header block, and of a frame without one, is a parameter,
`Vendor`.

* `Decoder.next`: one turn of the loop of `receive_frames`.
* `Link.read`: a read as `_read_pump` takes it, all of it decoded and then dispatched.
* `Link.promptly`: the same read, each frame dispatched before the next is decoded.
* `Intake.read`: a read of a connection that may await the client's preface.
* `Link.dispatchAll_kept`: dispatching leaves the decoder but for its limit on HPACK's table.
-/

namespace Httpunk.H2

/-! ### HPACK -/

open Hpack (DecoderError)

/-- The `Debug` of `NeedMore`. -/
def Hpack.NeedMore.debug : Hpack.NeedMore → String
  | .unexpectedEndOfStream => "UnexpectedEndOfStream"
  | .integerUnderflow => "IntegerUnderflow"
  | .stringUnderflow => "StringUnderflow"

/-- The `Debug` of `DecoderError`. -/
def Hpack.DecoderError.debug : DecoderError → String
  | .invalidRepresentation => "InvalidRepresentation"
  | .invalidIntegerPrefix => "InvalidIntegerPrefix"
  | .invalidTableIndex => "InvalidTableIndex"
  | .invalidHuffmanCode => "InvalidHuffmanCode"
  | .invalidUtf8 => "InvalidUtf8"
  | .invalidStatusCode => "InvalidStatusCode"
  | .invalidPseudoheader => "InvalidPseudoheader"
  | .invalidMaxDynamicSize => "InvalidMaxDynamicSize"
  | .integerOverflow => "IntegerOverflow"
  | .needMore n => "NeedMore(" ++ n.debug ++ ")"

/-- The rest of `decode_int`, past the prefix: `read` bytes are read, `shift` bits known. -/
def decodeIntTail (read shift ret : Nat) : Bytes → Except DecoderError (Nat × Bytes)
  | [] => .error (.needMore .integerUnderflow)
  | b :: src =>
    let ret := ret + (b.toNat % 128) * 2 ^ shift
    if b.toNat < 128 then .ok (ret, src)
    else if read + 1 = 5 then .error .integerOverflow
    else decodeIntTail (read + 1) (shift + 7) ret src

/-- `decode_int` with a prefix of five bits. -/
def decodeInt : Bytes → Except DecoderError (Nat × Bytes)
  | [] => .error (.needMore .integerUnderflow)
  | b :: src =>
    let ret := b.toNat % 32
    if ret < 31 then .ok (ret, src) else decodeIntTail 1 0 ret src

/-- `Representation::SizeUpdate`. -/
def isSizeUpdate (b : UInt8) : Bool := b.toNat / 32 == 1

/-- What `HeaderBlock::load` reports: the fields are done, or an error. -/
inductive Loaded where
  | done
  | hpack (err : DecoderError)
  | malformed
  | wayTooLarge
  deriving DecidableEq

/-- The vendored crate: the dynamic table (`T`), a HEADERS frame that is being loaded (`P`), and
what it makes of them. -/
structure Vendor (T P : Type) where
  /-- `Table::set_max_size`. -/
  setMaxSize : T → Nat → T
  /-- `Headers::load` of a HEADERS frame: the frame and its fragment, or a frame in its place (the
  stream error of an invalid dependency), or its error. -/
  load : Bytes → Except Err (P × Bytes ⊕ Frame)
  /-- `HeaderBlock::load` past the size updates, under `max_header_list_size`. -/
  fields : T → P → Nat → Bytes → T × P × Bytes × Loaded
  streamId : P → Nat
  isOverSize : P → Bool
  /-- `headers_event`. -/
  event : P → Except Err Frame
  /-- `decode_one` of any other frame; none for an unknown kind. -/
  plain : Bytes → Except Err (Option Frame)

/-- `Partial`. -/
structure Partial (P : Type) where
  frame : P
  buf : Bytes
  count : Nat

/-- `Decoder`, past the connection preface.  `maxSizeUpdate` of the limits is HPACK's. -/
structure Decoder (T P : Type) where
  table : T
  lastMaxUpdate : Nat
  limits : RecvLimits
  buf : Bytes
  pending : Option (Partial P)

variable {T P : Type}

/-- The size updates at the start of a fragment, and what is left of it: the table, the rest, and
the error, or none where the fields begin.  Each update takes a byte at least, so as many turns as
there are bytes are enough. -/
def Vendor.sizeUpdates (v : Vendor T P) (last : Nat) :
    Nat → T → Bytes → T × Bytes × Option DecoderError
  | 0, table, src => (table, src, none)
  | _ + 1, table, [] => (table, [], none)
  | n + 1, table, b :: src =>
    if isSizeUpdate b then
      match decodeInt (b :: src) with
      | .error err => (table, b :: src, some err)
      | .ok (size, rest) =>
        if size > last then (table, b :: src, some .invalidMaxDynamicSize)
        else v.sizeUpdates last n (v.setMaxSize table size) rest
    else (table, b :: src, none)

/-- The error of a block that cannot be decoded, with the `Debug` of what `load` reports. -/
def hpackFailed (err : DecoderError) : Err :=
  protocolErr .protocolError ("HPACK decoding failed: Hpack(" ++ err.debug ++ ")")

/-- `classify_hpack`: whether the block needs more, or its stream is to be reset. -/
inductive Outcome where
  | done
  | needMore
  | streamReset
  deriving DecidableEq

def classifyHpack (res : Loaded) (isEndHeaders : Bool) : Except Err Outcome :=
  match res with
  | .done => .ok .done
  | .hpack (.needMore n) =>
    if isEndHeaders then .error (hpackFailed (.needMore n)) else .ok .needMore
  | .malformed => .ok .streamReset
  | .wayTooLarge => .error (protocolErrWithDebug .enhanceYourCalm
      "decoded header list size over abuse limit" "header_list_way_too_large")
  | .hpack err => .error (hpackFailed err)

namespace Decoder

/-- The frame's kind, its flags and its stream. -/
def kind (frame : Bytes) : Nat := (frame.getD 3 0).toNat
def isEndHeaders (frame : Bytes) : Bool := (frame.getD 4 0).toNat / 4 % 2 == 1
def frameStream (frame : Bytes) : Nat :=
  (frame.getD 5 0).toNat % 128 * 2 ^ 24 + (frame.getD 6 0).toNat * 2 ^ 16 +
    (frame.getD 7 0).toNat * 2 ^ 8 + (frame.getD 8 0).toNat

/-- `load_hpack` of a fragment: the update that is queued takes effect first. -/
def loadHpack (v : Vendor T P) (d : Decoder T P) (frame : P) (src : Bytes) :
    Decoder T P × P × Bytes × Loaded :=
  let last := d.limits.maxSizeUpdate.getD d.lastMaxUpdate
  let d := { d with lastMaxUpdate := last, limits := { d.limits with maxSizeUpdate := none } }
  match v.sizeUpdates last src.length d.table src with
  | (table, src, some err) => ({ d with table := table }, frame, src, .hpack err)
  | (table, src, none) =>
    let r := v.fields table frame d.limits.maxHeaderListSize src
    ({ d with table := r.1 }, r.2)

/-- The end of a HEADERS or CONTINUATION frame: the block is loaded, and awaits more or is done. -/
def loadBlock (v : Vendor T P) (d : Decoder T P) (part : Partial P) (sid : Nat) (last : Bool) :
    Except Err (Decoder T P × Option Frame) :=
  let r := d.loadHpack v part.frame part.buf
  match classifyHpack r.2.2.2 last with
  | .error err => .error err
  | .ok .streamReset => .ok (r.1, some (.streamError sid .protocolError true))
  | .ok _ =>
    if last then (v.event r.2.1).map fun f => (r.1, some f)
    else .ok ({ r.1 with pending := some ⟨r.2.1, r.2.2.1, part.count⟩ }, none)

/-- A CONTINUATION frame put to the block it continues. -/
def continued (v : Vendor T P) (limits : RecvLimits) (part : Partial P) (frame : Bytes) :
    Except Err (Partial P) :=
  if v.streamId part.frame ≠ frameStream frame then
    .error (protocolErr .protocolError
      "CONTINUATION frame stream ID does not match previous frame stream ID")
  else
    let count := if isEndHeaders frame then 0 else part.count + 1
    if isEndHeaders frame = false ∧ count > limits.maxContinuationFrames then
      .error (protocolErrWithDebug .enhanceYourCalm "too_many_continuations"
        "too_many_continuations")
    else if part.buf.isEmpty then .ok ⟨part.frame, frame.drop 9, count⟩
    else if v.isOverSize part.frame ∧ part.buf.length + frame.length > limits.maxHeaderListSize then
      .error (protocolErr .compressionError
        "CONTINUATION frame header block size over ignorable limit")
    else .ok ⟨part.frame, part.buf ++ frame.drop 9, count⟩

/-- `decode_one`. -/
def decodeOne (v : Vendor T P) (d : Decoder T P) (frame : Bytes) :
    Except Err (Decoder T P × Option Frame) :=
  if d.pending.isSome ∧ kind frame ≠ 9 then
    .error (protocolErr .protocolError "expected CONTINUATION frame")
  else if kind frame = 1 then
    match v.load frame with
    | .error err => .error err
    | .ok (.inr f) => .ok (d, some f)
    | .ok (.inl (p, src)) => d.loadBlock v ⟨p, src, 0⟩ (frameStream frame) (isEndHeaders frame)
  else if kind frame = 9 then
    match d.pending with
    | none =>
      .error (protocolErr .protocolError "received unexpected CONTINUATION frame")
    | some part =>
      match continued v d.limits part frame with
      | .error err => .error err
      | .ok part => { d with pending := none }.loadBlock v part (frameStream frame)
          (isEndHeaders frame)
  else (v.plain frame).map fun f => (d, f)

/-- The declared length of the frame at the front of the buffer. -/
def payloadLen (buf : Bytes) : Nat :=
  (buf.getD 0 0).toNat * 2 ^ 16 + (buf.getD 1 0).toNat * 2 ^ 8 + (buf.getD 2 0).toNat

/-- One turn of the loop of `receive_frames`; none when no frame is complete. -/
def next (v : Vendor T P) (d : Decoder T P) :
    Except Err (Option (Decoder T P × Option Frame)) :=
  if d.buf.length < 9 then .ok none
  else if payloadLen d.buf > d.limits.maxRecvFrameSize then
    .error (protocolErr .frameSizeError "frame length exceeds SETTINGS_MAX_FRAME_SIZE")
  else
    let total := 9 + payloadLen d.buf
    if d.buf.length < total then .ok none
    else
      (decodeOne v { d with buf := d.buf.drop total } (d.buf.take total)).map some

/-- The limit on the size of HPACK's table, as the next block will find it. -/
def limit (d : Decoder T P) : Nat := d.limits.maxSizeUpdate.getD d.lastMaxUpdate

/-- The limits that the handshake has set. -/
def fixed (d : Decoder T P) : RecvLimits := { d.limits with maxSizeUpdate := none }

end Decoder

/-! ### The reads -/

/-- The decoder, and the SETTINGS of ours that the peer is to acknowledge. -/
structure Link (T P : Type) where
  settings : Settings
  dec : Decoder T P

namespace Link

/-- What dispatching a frame does to the decoder: an acknowledgement applies our SETTINGS
(`recv_settings`), any other frame does nothing. -/
def dispatch (l : Link T P) : Frame → Except Err (Link T P)
  | .settings f =>
    if f.ack then
      match l.settings.recvAck with
      | .error err => .error err
      | .ok s =>
        match Inner.applyLocalLimits l.dec.limits s.values with
        | (_, some err) => .error err
        | (limits, none) => .ok ⟨s, { l.dec with limits := limits }⟩
    else .ok l
  | _ => .ok l

/-- The frames dispatched in turn. -/
def dispatchAll (l : Link T P) : List Frame → Except Err (Link T P)
  | [] => .ok l
  | f :: fs => (l.dispatch f).bind fun l => l.dispatchAll fs

/-- The loop of `receive_frames`: the frames decoded so far, and the rest of them.  Each turn takes
the header of a frame at least. -/
def receive (v : Vendor T P) : Nat → Decoder T P → Except Err (Decoder T P × List Frame)
  | 0, d => .ok (d, [])
  | n + 1, d =>
    match d.next v with
    | .error err => .error err
    | .ok none => .ok (d, [])
    | .ok (some (d, f)) => (receive v n d).map fun r => (r.1, f.toList ++ r.2)

/-- More bytes came in. -/
def feed (d : Decoder T P) (data : Bytes) : Decoder T P := { d with buf := d.buf ++ data }

/-- One read of `_read_pump`: all of it is decoded before any of it is dispatched. -/
def read (v : Vendor T P) (l : Link T P) (data : Bytes) : Except Err (Link T P) :=
  let d := feed l.dec data
  (receive v d.buf.length d).bind fun r => { l with dec := r.1 }.dispatchAll r.2

/-- The reads of a connection. -/
def reads (v : Vendor T P) : Link T P → List Bytes → Except Err (Link T P)
  | l, [] => .ok l
  | l, data :: rest => (l.read v data).bind fun l => l.reads v rest

/-- Each frame of a read dispatched before the next is decoded: what our SETTINGS say of the peer's
frames after its acknowledgement. -/
def prompt (v : Vendor T P) : Nat → Link T P → Except Err (Link T P)
  | 0, l => .ok l
  | n + 1, l =>
    match l.dec.next v with
    | .error err => .error err
    | .ok none => .ok l
    | .ok (some (d, f)) => ({ l with dec := d }.dispatchAll f.toList).bind (prompt v n)

/-- One read, promptly. -/
def promptly (v : Vendor T P) (l : Link T P) (data : Bytes) : Except Err (Link T P) :=
  let d := feed l.dec data
  prompt v d.buf.length { l with dec := d }

/-- The reads of a connection, promptly. -/
def promptReads (v : Vendor T P) : Link T P → List Bytes → Except Err (Link T P)
  | l, [] => .ok l
  | l, data :: rest => (l.promptly v data).bind fun l => l.promptReads v rest

/-- After the handshake: the limits the constructor set, and our SETTINGS sent. -/
def init (cfg : Config) (table : T) : Link T P where
  settings := (Settings.new cfg.settingsValues).markSent
  dec := ⟨table, 4096, cfg.recvLimits, [], none⟩

end Link

/-! ### The preface -/

/-- `H2_PREFACE`, of the client's connection. -/
def h2Preface : Bytes :=
  [80, 82, 73, 32, 42, 32, 72, 84, 84, 80, 47, 50, 46, 48, 13, 10, 13, 10, 83, 77, 13, 10, 13, 10]

/-- The link, and the bytes of the client's preface so far, where it is still awaited. -/
structure Intake (T P : Type) where
  preface : Option Bytes
  link : Link T P

namespace Intake

/-- `feed_preface`: the bytes past the preface, or none while it is not complete. -/
def feedPreface (buf : Bytes) : Except Err (Option Bytes) :=
  let n := min buf.length h2Preface.length
  if buf.take n ≠ h2Preface.take n then
    .error (protocolErr .protocolError "bad client connection preface")
  else if buf.length < h2Preface.length then .ok none
  else .ok (some (buf.drop h2Preface.length))

/-- `receive_frames` once the preface is behind: the loop. -/
def decode (v : Vendor T P) (i : Intake T P) (data : Bytes) :
    Except Err (Intake T P × List Frame) :=
  let d := Link.feed i.link.dec data
  (Link.receive v d.buf.length d).map fun r => (⟨none, { i.link with dec := r.1 }⟩, r.2)

/-- `receive_frames`. -/
def receiveFrames (v : Vendor T P) (i : Intake T P) (data : Bytes) :
    Except Err (Intake T P × List Frame) :=
  match i.preface with
  | none => i.decode v data
  | some buf =>
    match feedPreface (buf ++ data) with
    | .error err => .error err
    | .ok none => .ok ({ i with preface := some (buf ++ data) }, [])
    | .ok (some rest) => i.decode v rest

/-- One read: decoded, and then dispatched. -/
def read (v : Vendor T P) (i : Intake T P) (data : Bytes) : Except Err (Intake T P) :=
  (i.receiveFrames v data).bind fun r =>
    (r.1.link.dispatchAll r.2).map fun l => { r.1 with link := l }

/-- The reads of a connection. -/
def reads (v : Vendor T P) : Intake T P → List Bytes → Except Err (Intake T P)
  | i, [] => .ok i
  | i, data :: rest => (i.read v data).bind fun i => i.reads v rest

/-- A server awaits the preface of its client. -/
def init (cfg : Config) (table : T) : Intake T P :=
  ⟨match cfg.role with | .client => none | .server => some [], .init cfg table⟩

end Intake

/-! ### What dispatching leaves -/

namespace Link

/-- The limits of `cfg`, applied once more, are what they are. -/
theorem applyLocalLimits_recvLimits (cfg : Config) {l : RecvLimits}
    (h : { l with maxSizeUpdate := none } = cfg.recvLimits) :
    (Inner.applyLocalLimits l cfg.settingsValues).2 = none ∧
    { (Inner.applyLocalLimits l cfg.settingsValues).1 with maxSizeUpdate := none } =
      cfg.recvLimits ∧
    (Inner.applyLocalLimits l cfg.settingsValues).1.maxSizeUpdate =
      match cfg.headerTableSize with
      | some n => (l.setRecvHeaderTableSize n).maxSizeUpdate
      | none => l.maxSizeUpdate := by
  have hl : l = { cfg.recvLimits with maxSizeUpdate := l.maxSizeUpdate } := by rw [← h]
  generalize l.maxSizeUpdate = q at hl
  subst hl
  have hsize := cfg.frame_size_mem
  unfold Inner.applyLocalLimits Config.settingsValues Config.recvLimits
  rcases hm : cfg.maxFrameSize with _ | m
  · rcases ht : cfg.headerTableSize with _ | n
    · exact ⟨rfl, rfl, rfl⟩
    · exact ⟨rfl, rfl, rfl⟩
  · have hc : checkMaxFrameSize m = none := by
      unfold checkMaxFrameSize
      exact if_pos (hsize m (by rw [hm]; rfl))
    dsimp only
    rw [hc]
    rcases ht : cfg.headerTableSize with _ | n
    · exact ⟨rfl, rfl, rfl⟩
    · exact ⟨rfl, rfl, rfl⟩

/-- The link is one of `cfg`: our SETTINGS, and the limits of the handshake. -/
structure Of (cfg : Config) (l : Link T P) : Prop where
  values : l.settings.values = cfg.settingsValues
  fixed : l.dec.fixed = cfg.recvLimits

/-- What a dispatch keeps of the decoder: all but its limit on HPACK's table. -/
structure Kept (l l' : Link T P) : Prop where
  table : l'.dec.table = l.dec.table
  buf : l'.dec.buf = l.dec.buf
  pending : l'.dec.pending = l.dec.pending
  lastMaxUpdate : l'.dec.lastMaxUpdate = l.dec.lastMaxUpdate
  values : l'.settings.values = l.settings.values
  fixed : l'.dec.fixed = l.dec.fixed

theorem Kept.refl (l : Link T P) : Kept l l := ⟨rfl, rfl, rfl, rfl, rfl, rfl⟩

theorem Kept.trans {l₁ l₂ l₃ : Link T P} (h₁ : Kept l₁ l₂) (h₂ : Kept l₂ l₃) : Kept l₁ l₃ :=
  ⟨h₂.table.trans h₁.table, h₂.buf.trans h₁.buf, h₂.pending.trans h₁.pending,
    h₂.lastMaxUpdate.trans h₁.lastMaxUpdate, h₂.values.trans h₁.values, h₂.fixed.trans h₁.fixed⟩

theorem Kept.of {cfg : Config} {l l' : Link T P} (h : Kept l l') (ho : Of cfg l) : Of cfg l' :=
  ⟨h.values.trans ho.values, h.fixed.trans ho.fixed⟩

/-- **What dispatching a frame keeps.** -/
theorem dispatch_kept {cfg : Config} {l l' : Link T P} {f : Frame} (ho : Of cfg l)
    (h : l.dispatch f = .ok l') : Kept l l' := by
  cases f with
  | settings f =>
    unfold dispatch at h
    dsimp only at h
    by_cases ha : f.ack = true
    · rw [if_pos ha] at h
      rcases hs : l.settings.recvAck with err | s
      · rw [hs] at h
        cases h
      · rw [hs] at h
        have hv : s.values = l.settings.values := by
          unfold Settings.recvAck at hs
          split at hs
          · cases hs
            rfl
          · cases hs
        obtain ⟨hok, hfix, -⟩ := applyLocalLimits_recvLimits cfg (l := l.dec.limits) ho.fixed
        dsimp only at h
        rw [hv, ho.values] at h
        rcases hlim : Inner.applyLocalLimits l.dec.limits cfg.settingsValues with ⟨limits, _ | err⟩
        · rw [hlim] at h hfix
          cases h
          exact ⟨rfl, rfl, rfl, rfl, hv, hfix.trans ho.fixed.symm⟩
        · rw [hlim] at hok
          cases hok
    · rw [if_neg ha] at h
      cases h
      exact .refl _
  | _ =>
    cases h
    exact .refl _

/-- **What dispatching the frames of a read keeps.** -/
theorem dispatchAll_kept {cfg : Config} {l l' : Link T P} {fs : List Frame} (ho : Of cfg l)
    (h : l.dispatchAll fs = .ok l') : Kept l l' := by
  induction fs generalizing l with
  | nil =>
    cases h
    exact .refl _
  | cons f fs ih =>
    unfold dispatchAll at h
    rcases hd : l.dispatch f with err | l₁
    · rw [hd] at h
      cases h
    · rw [hd] at h
      have hk := dispatch_kept ho hd
      exact hk.trans (ih (hk.of ho) h)

theorem of_init (cfg : Config) (table : T) : Of cfg (init cfg table : Link T P) := by
  refine ⟨rfl, ?_⟩
  unfold init Decoder.fixed Config.recvLimits
  rcases cfg.maxFrameSize with _ | m
  · rfl
  · rfl

end Link

end Httpunk.H2
