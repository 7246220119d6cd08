import Httpunk.H2.Frames

/-!
# H2 — Settings

`settings.rs`: our own SETTINGS handshake, the peer's values, and the receive limits of the
decoder that our values set when the peer acknowledges them.
-/

namespace Httpunk.H2

/-- The `Local` of `settings.rs`: where our own SETTINGS stand. -/
inductive Local where
  | toSend
  | waitingAck
  | synced
  deriving DecidableEq

/-- `Settings`: the handshake of the values we advertise. -/
structure Settings where
  values : SettingsValues
  state : Local
  hasReceivedRemoteInitial : Bool
  deriving DecidableEq

namespace Settings

def new (values : SettingsValues) : Settings := ⟨values, .toSend, false⟩

/-- `mark_sent`. -/
def markSent (s : Settings) : Settings := { s with state := .waitingAck }

/-- `recv_ack`: an acknowledgement with nothing outstanding is a connection error. -/
def recvAck (s : Settings) : Except Err Settings :=
  if s.state = .waitingAck then .ok { s with state := .synced }
  else .error (protocolErr .protocolError "received unexpected settings ack")

/-- `recv_remote`, with whether the frame is the peer's initial one. -/
def recvRemote (s : Settings) : Settings × Bool :=
  ({ s with hasReceivedRemoteInitial := true }, !s.hasReceivedRemoteInitial)

end Settings

/-- `PeerSettings`: the peer's values, with their defaults. -/
structure PeerSettings where
  headerTableSize : Nat := 4096
  initialWindowSize : Nat := defaultInitialWindowSize
  maxFrameSize : Nat := defaultMaxFrameSize
  maxConcurrentStreams : Option Nat := none
  deriving DecidableEq

/-- `calc_max_continuation_frames`. -/
def calcMaxContinuationFrames (headerMax frameMax : Nat) : Nat :=
  let minFramesForList := max (headerMax / frameMax) 1
  let padding := minFramesForList / 4
  max (minFramesForList + padding) 5

/-- The receive limits of the decoder, which our own SETTINGS set. -/
structure RecvLimits where
  maxHeaderListSize : Nat
  maxRecvFrameSize : Nat
  maxContinuationFrames : Nat
  maxSizeUpdate : Option Nat
  deriving DecidableEq

/-- `check_max_frame_size`. -/
def checkMaxFrameSize (val : Nat) : Option Err :=
  if defaultMaxFrameSize ≤ val ∧ val ≤ maxMaxFrameSize then none
  else some (.value s!"max_frame_size must be in [16384, 16777215], got {val}")

namespace RecvLimits

/-- The limits of a new `Decoder`. -/
def new : RecvLimits where
  maxHeaderListSize := 16 * 2 ^ 20
  maxRecvFrameSize := defaultMaxFrameSize
  maxContinuationFrames := calcMaxContinuationFrames (16 * 2 ^ 20) defaultMaxFrameSize
  maxSizeUpdate := none

/-- `set_recv_header_table_size`, which queues a table size update. -/
def setRecvHeaderTableSize (l : RecvLimits) (val : Nat) : RecvLimits :=
  { l with maxSizeUpdate := some (match l.maxSizeUpdate with | some v => max v val | none => val) }

/-- `set_max_recv_frame_size`, of a value `check_max_frame_size` admits. -/
def setMaxRecvFrameSize (l : RecvLimits) (val : Nat) : RecvLimits :=
  { l with
    maxRecvFrameSize := val
    maxContinuationFrames := calcMaxContinuationFrames l.maxHeaderListSize val }

/-- `set_max_header_list_size`. -/
def setMaxHeaderListSize (l : RecvLimits) (val : Nat) : RecvLimits :=
  { l with
    maxHeaderListSize := val
    maxContinuationFrames := calcMaxContinuationFrames val l.maxRecvFrameSize }

end RecvLimits

end Httpunk.H2
