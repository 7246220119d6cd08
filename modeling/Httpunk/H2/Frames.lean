import Httpunk.H2.Proto.State

/-!
# H2 — Frames

The frames the decoder hands to the connection (`codec.rs`, the `H2Frame…` classes) and the
frames the connection queues, the errors a dispatch raises (`errors.rs`), and the verdict flags
of `conn.rs`.

A received frame carries the ranges its loader has checked.  A queued frame is kept as a value:
its bytes are the encoder's business, and the pending buffer is a list of frames in wire order.
-/

namespace Httpunk.H2

abbrev Bytes : Type := List UInt8

/-! ### Received frames -/

/-- `StreamId` of a frame that belongs to a stream. -/
abbrev InRange (sid : Nat) : Prop := 0 < sid ∧ sid < 2 ^ 31

theorem inRange_one : InRange 1 := by decide
theorem inRange_three : InRange 3 := by decide
theorem inRange_five : InRange 5 := by decide

/-- `StreamId::is_client_initiated`: an odd id. -/
def isClientInitiated (sid : Nat) : Bool := sid != 0 && sid % 2 == 1

/-- `parse_u64`. -/
def parseU64 (src : Bytes) : Option Nat :=
  if src.length > 19 then none
  else src.foldlM (fun ret d => if d < 48 ∨ d > 57 then none else some (ret * 10 + (d.toNat - 48))) 0

/-- The loop of `headers_event` over the values of the `content-length` fields: the declared
length so far, and whether a value is no number or another number. -/
def contentLengthOf (length : Option Nat) : List Bytes → Option Nat × Bool
  | [] => (length, false)
  | v :: vs =>
    match parseU64 v with
    | some n =>
      if length.all fun first => first == n then contentLengthOf (some n) vs else (length, true)
    | none => (length, true)

/-- `H2FrameHeaders`, less the fields the connection hands through unread. -/
structure Headers where
  streamId : Nat
  endStream : Bool
  status : Option Nat := none
  contentLength : Option Nat := none
  contentLengthInvalid : Bool := false
  isInformational : Bool := false
  isOverSize : Bool := false
  inRange : InRange streamId := by decide
  deriving DecidableEq

/-- The fields of the frame hold these values of `content-length`. -/
def Headers.Carries (f : Headers) (values : List Bytes) : Prop :=
  (f.contentLength, f.contentLengthInvalid) = contentLengthOf none values

/-- `H2FrameData`: the payload, and the flow-controlled bytes that are not payload. -/
structure Data where
  streamId : Nat
  endStream : Bool
  data : Bytes
  padding : Nat := 0
  inRange : InRange streamId := by decide
  fits : data.length + padding < 2 ^ 24 := by decide
  deriving DecidableEq

/-- `flow_controlled_len`. -/
def Data.flowControlledLen (f : Data) : Nat := f.data.length + f.padding

/-- `H2FrameWindowUpdate`; the connection's has stream id 0. -/
structure WindowUpdate where
  streamId : Nat
  increment : Nat
  positive : 0 < increment := by decide
  bounded : increment ≤ maxWindowSize := by decide
  deriving DecidableEq

/-- The values a SETTINGS frame carries. -/
structure SettingsValues where
  headerTableSize : Option Nat := none
  enablePush : Option Bool := none
  maxConcurrentStreams : Option Nat := none
  initialWindowSize : Option Nat := none
  maxFrameSize : Option Nat := none
  maxHeaderListSize : Option Nat := none
  deriving DecidableEq

/-- `DEFAULT_MAX_FRAME_SIZE` and `MAX_MAX_FRAME_SIZE`. -/
def defaultMaxFrameSize : Nat := 16384
def maxMaxFrameSize : Nat := 2 ^ 24 - 1

/-- The ranges `frame::Settings::load` and the setters of `encode_settings` admit. -/
structure SettingsValues.Valid (v : SettingsValues) : Prop where
  window : ∀ w ∈ v.initialWindowSize, w ≤ maxWindowSize
  frame : ∀ m ∈ v.maxFrameSize, defaultMaxFrameSize ≤ m ∧ m ≤ maxMaxFrameSize

/-- `H2FrameSettings`. -/
structure SettingsFrame where
  ack : Bool
  values : SettingsValues := {}
  valid : values.Valid := by constructor <;> decide
  deriving DecidableEq

/-- `H2FramePing`. -/
structure Ping where
  ack : Bool
  data : Bytes
  length : data.length = 8 := by decide
  deriving DecidableEq

/-- `H2FrameGoAway`. -/
structure GoAway where
  lastStreamId : Nat
  errorCode : Reason
  debugData : Bytes := []
  deriving DecidableEq

/-- `H2FrameRstStream`. -/
structure RstStream where
  streamId : Nat
  errorCode : Reason
  deriving DecidableEq

/-- What one `receive` call yields: a frame, or the stream error of a frame the decoder
rejected (`H2FrameStreamError`); `head` says that it was a HEADERS, and not a PRIORITY. -/
inductive Frame where
  | headers (f : Headers)
  | data (f : Data)
  | windowUpdate (f : WindowUpdate)
  | settings (f : SettingsFrame)
  | ping (f : Ping)
  | goAway (f : GoAway)
  | rstStream (f : RstStream)
  | priority (streamId : Nat)
  | streamError (streamId : Nat) (errorCode : Reason) (head : Bool)
  deriving DecidableEq

/-! ### Queued frames -/

/-- The header block of a queued HEADERS frame: its pseudo-headers and fields, by kind. -/
inductive Block where
  | request (method target : String) (fields : List (String × String))
  | response (status : Nat) (fields : List (String × String))
  | trailers (fields : List (String × String))
  deriving DecidableEq

/-- A frame in the pending-send buffer. -/
inductive OutFrame where
  | preface
  | settings (values : SettingsValues)
  | settingsAck
  | ping (data : Bytes) (ack : Bool)
  | headers (streamId : Nat) (block : Block) (endStream : Bool)
  | data (streamId : Nat) (payload : Bytes) (endStream : Bool)
  | windowUpdate (streamId increment : Nat)
  | rstStream (streamId : Nat) (errorCode : Reason)
  | goAway (lastStreamId : Nat) (errorCode : Reason) (debugData : Bytes)
  deriving DecidableEq

/-! ### Errors -/

/-- The exceptions a call raises (`errors.rs`).  `protocol` keeps the opaque GOAWAY data apart
from the message. -/
inductive Err where
  | stream (streamId : Nat) (reason : Reason) (initiator : Initiator)
  | protocol (reason : Reason) (message : String) (debugData : String)
  | flowControl (reason : Reason)
  | user (e : UserError)
  /-- `user_payload_too_big`. -/
  | payloadTooBig (len max : Nat)
  | value (message : String)
  | closed (message : String)
  /-- A failed assertion or `expect`: the process aborts. -/
  | abort
  deriving DecidableEq

/-- `Reason::description`, for the reasons a transition raises. -/
def Reason.description : Reason → String
  | 0 => "not a result of an error"
  | 1 => "unspecific protocol error detected"
  | 2 => "unexpected internal error encountered"
  | 3 => "flow-control protocol violated"
  | 4 => "settings ACK not received in timely manner"
  | 5 => "received frame when stream half-closed"
  | 6 => "frame with invalid size"
  | 7 => "refused stream before processing any application logic"
  | 8 => "stream no longer needed"
  | 9 => "unable to maintain the header compression context"
  | 10 => "connection established in response to a CONNECT request was reset or abnormally closed"
  | 11 => "detected excessive load generating behavior"
  | 12 => "security properties do not meet minimum requirements"
  | 13 => "endpoint requires HTTP/1.1"
  | _ => "unknown reason"

/-- `map_proto_err`. -/
def mapProtoErr : ProtoError → Err
  | .reset sid reason initiator => .stream sid reason initiator
  | .goAway reason _ => .protocol reason (Reason.description reason) ""
  | .io => .closed "stream closed because of a broken pipe"

/-- `map_user_err`. -/
def mapUserErr (e : UserError) : Err := .user e

/-- `map_reason`. -/
def mapReason (r : Reason) : Err := .flowControl r

/-- `stream_err`. -/
def streamErr (sid : Nat) (reason : Reason) : Err := .stream sid reason .library

/-- An error of the connection, not of one stream. -/
def Err.ofConn : Err → Bool
  | .stream _ _ _ => false
  | _ => true

/-- `protocol_err`. -/
def protocolErr (reason : Reason) (message : String) : Err := .protocol reason message ""

/-- `protocol_err_with_debug`, where the data repeats the message or names the limit. -/
def protocolErrWithDebug (reason : Reason) (message debugData : String) : Err :=
  .protocol reason message debugData

/-! ### Verdict flags -/

/-- The `FLAG_…` bits of a verdict. -/
@[ext] structure Flags where
  wake : Bool := false
  slotFreed : Bool := false
  connDone : Bool := false
  stopAccepting : Bool := false
  capacity : Bool := false
  deriving DecidableEq

namespace Flags

/-- No bit set. -/
def none : Flags := {}

/-- The union of two sets of bits. -/
def union (a b : Flags) : Flags where
  wake := a.wake || b.wake
  slotFreed := a.slotFreed || b.slotFreed
  connDone := a.connDone || b.connDone
  stopAccepting := a.stopAccepting || b.stopAccepting
  capacity := a.capacity || b.capacity

instance : OrOp Flags := ⟨union⟩

@[simp] theorem or_capacity (a b : Flags) : (a ||| b).capacity = (a.capacity || b.capacity) := rfl

@[simp] theorem none_capacity : Flags.none.capacity = false := rfl

end Flags

end Httpunk.H2
