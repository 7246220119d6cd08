import Mathlib
import Httpunk.Support.Store
import Httpunk.H2.Settings
import Httpunk.H2.Streams

/-!
# H2 — Conn — Inner

The state of one connection (`conn.rs`, `Inner`), its stream entries and its constructor.

A handle is the Python object of a stream; it is identified with the stream's id.  The clock is
a field: `now` moves only by the passing of time, and the reset store keeps the times at which
its entries were made.
-/

namespace Httpunk.H2

/-! ### Constants -/

/-- `RESET_STREAM_MAX`. -/
def resetStreamMaxDefault : Nat := 50

/-- `RESET_STREAM_SECS`, in nanoseconds. -/
def resetStreamSecs : Nat := 10 ^ 9

/-- `MAX_STREAM_ID`, `StreamId::MAX`. -/
def maxStreamIdValue : Nat := 2 ^ 31 - 1

/-- `SHUTDOWN_PING`. -/
def shutdownPing : Bytes := [83, 72, 85, 84, 68, 79, 87, 78]

theorem shutdownPing_length : shutdownPing.length = 8 := rfl

/-- `DEFAULT_SEND_BURST_FRAMES`. -/
def defaultSendBurstFrames : Nat := 4

/-- `usize::MAX`. -/
def usizeMax : Nat := 2 ^ 64 - 1

/-! ### Stops -/

/-- `H2Stopped`: why a stream stopped, for its senders and its readers. -/
structure Stopped where
  reason : Option Reason
  conn : Bool
  deriving DecidableEq

/-- `stop_from_proto`. -/
def stopFromProto : ProtoError → Stopped
  | .reset _ reason _ => ⟨some reason, false⟩
  | .goAway reason _ => ⟨some reason, true⟩
  | .io => ⟨none, true⟩

/-! ### Stream entries -/

/-- `StreamEntry`: one entry of the store. -/
structure StreamEntry where
  state : State
  sendFlow : FlowControl
  recvFlow : FlowControl
  contentLength : ContentLength
  recvUnreleased : Nat
  recvReclaimed : Bool
  sendBuffered : Nat
  dataBudgetCharged : Nat
  holdsSlot : Bool
  finished : Bool
  isPendingCapacity : Bool
  isPendingSend : Bool
  turnFrames : Nat
  deriving DecidableEq

namespace StreamEntry

/-- `StreamEntry::new`. -/
def new (sendWindow recvWindow : Nat) (isHead : Bool) : StreamEntry where
  state := .idle
  sendFlow := .opened sendWindow
  recvFlow := .opened recvWindow
  contentLength := .new isHead
  recvUnreleased := 0
  recvReclaimed := false
  sendBuffered := 0
  dataBudgetCharged := 0
  holdsSlot := false
  finished := false
  isPendingCapacity := false
  isPendingSend := false
  turnFrames := 0

/-- `StreamEntry::stopped`. -/
def stopped (e : StreamEntry) : Stopped :=
  match e.state.ensureRecvOpen with
  | .error err => stopFromProto err
  | .ok _ =>
    match e.state.ensureReason with
    | .ok (some reason) => ⟨some reason, false⟩
    | .ok none => ⟨none, false⟩
    | .error _ => ⟨none, true⟩

/-- `StreamEntry::stop_for_reader`. -/
def stopForReader (e : StreamEntry) : Option Stopped :=
  match e.state.ensureRecvOpen with
  | .error err => some (stopFromProto err)
  | .ok _ => none

end StreamEntry

/-! ### The connection state -/

inductive Role where
  | client
  | server
  deriving DecidableEq

/-- `ConnError`: an exception handed in by the driver, or a closure decided here. -/
inductive ConnError where
  | py (e : Err)
  | closed (message : String)
  deriving DecidableEq

/-- `GoAwayInfo`. -/
structure GoAwayInfo where
  lastStreamId : Nat
  reason : Reason
  debugData : Bytes
  deriving DecidableEq

/-- The arguments of the constructor that the connection keeps, with the checks it makes. -/
structure Config where
  role : Role
  initialWindowSize : Nat := defaultInitialWindowSize
  connectionWindow : Nat := defaultInitialWindowSize
  maxFrameSize : Option Nat := none
  maxHeaderListSize : Nat := 16384
  maxSendBufSize : Nat := 2 ^ 20
  maxConcurrentStreams : Option Nat := none
  maxPendingAcceptResetStreams : Nat := 20
  maxLocalErrorResetStreams : Option Nat := some 1024
  dataFrameBudget : Option Nat := none
  autoDateHeader : Bool := true
  enablePush : Option Bool := none
  headerTableSize : Option Nat := none
  maxConcurrentResetStreams : Option Nat := none
  resetStreamDuration : Option Nat := none
  stream_window_le : initialWindowSize ≤ maxWindowSize := by decide
  conn_window_le : connectionWindow ≤ maxWindowSize := by decide
  frame_size_mem : ∀ m ∈ maxFrameSize, defaultMaxFrameSize ≤ m ∧ m ≤ maxMaxFrameSize := by decide

/-- `Inner`.  `sendMaxFrameSize` is the encoder's; `limits` are the decoder's, which the same
critical section updates when our SETTINGS are acknowledged. -/
structure Inner where
  role : Role
  sendMaxFrameSize : Nat
  limits : RecvLimits
  pending : List OutFrame
  stop : Bool
  credit : List (Nat × Nat)
  inflightCredit : List (Nat × Nat)
  writers : Nat
  draining : Bool
  streams : Store Nat StreamEntry
  numActive : Nat
  resetStreams : Store Nat Nat
  resetStreamMax : Nat
  resetStreamDuration : Nat
  now : Nat
  peer : PeerSettings
  settings : Settings
  recvInit : Nat
  connSend : FlowControl
  pendingSend : List Nat
  pendingCapacity : List Nat
  burstFrames : Nat
  connRecv : FlowControl
  connRecvTarget : Nat
  maxSendBufSize : Nat
  goaway : Option GoAwayInfo
  goawayLastId : Option Nat
  goawayReplied : Bool
  error : Option ConnError
  localErrorResets : Nat
  maxLocalErrorResets : Option Nat
  dataBudget : DataFrameCounts
  nextId : Nat
  numOpenStreams : Nat
  streamLimit : Option Nat
  lastRecvId : Nat
  lastProcessedId : Nat
  maxConcurrent : Nat
  maxPendingAcceptReset : Nat
  graceful : Bool
  maxStreamId : Nat
  shutdownFinal : Bool
  pendingAccept : Finset Nat
  remoteResetPending : Finset Nat
  autoDate : Bool

/-- The values a configuration advertises. -/
def Config.settingsValues (cfg : Config) : SettingsValues where
  headerTableSize := cfg.headerTableSize
  enablePush := cfg.enablePush
  maxConcurrentStreams := cfg.maxConcurrentStreams
  initialWindowSize := some cfg.initialWindowSize
  maxFrameSize := cfg.maxFrameSize
  maxHeaderListSize := some cfg.maxHeaderListSize

/-- The receive limits the handshake sets on the decoder. -/
def Config.recvLimits (cfg : Config) : RecvLimits :=
  let limits := match cfg.maxFrameSize with
    | some max => RecvLimits.new.setMaxRecvFrameSize max
    | none => .new
  limits.setMaxHeaderListSize cfg.maxHeaderListSize

namespace Inner

/-- `H2Streams::new`. -/
def new (cfg : Config) : Inner where
  role := cfg.role
  sendMaxFrameSize := defaultMaxFrameSize
  limits := cfg.recvLimits
  pending := []
  stop := false
  credit := []
  inflightCredit := []
  writers := 0
  draining := false
  streams := ∅
  numActive := 0
  resetStreams := ∅
  resetStreamMax := cfg.maxConcurrentResetStreams.getD resetStreamMaxDefault
  resetStreamDuration := cfg.resetStreamDuration.getD resetStreamSecs
  now := 0
  peer := {}
  settings := .new cfg.settingsValues
  recvInit := max cfg.initialWindowSize defaultInitialWindowSize
  connSend := .opened defaultInitialWindowSize
  pendingSend := []
  pendingCapacity := []
  burstFrames := defaultSendBurstFrames
  connRecv := .opened defaultInitialWindowSize
  connRecvTarget := cfg.connectionWindow
  maxSendBufSize := cfg.maxSendBufSize
  goaway := none
  goawayLastId := none
  goawayReplied := false
  error := none
  localErrorResets := 0
  maxLocalErrorResets := cfg.maxLocalErrorResetStreams
  dataBudget := .new cfg.dataFrameBudget cfg.connectionWindow
  nextId := 1
  numOpenStreams := 0
  streamLimit := none
  lastRecvId := 0
  lastProcessedId := 0
  maxConcurrent := cfg.maxConcurrentStreams.getD usizeMax
  maxPendingAcceptReset := cfg.maxPendingAcceptResetStreams
  graceful := false
  maxStreamId := maxStreamIdValue
  shutdownFinal := false
  pendingAccept := ∅
  remoteResetPending := ∅
  autoDate := cfg.autoDateHeader

/-! ### Small updates and queries -/

/-- The entry of `sid` written back to the store. -/
def setStream (me : Inner) (sid : Nat) (e : StreamEntry) : Inner :=
  { me with streams := me.streams.insert sid e }

/-- A frame at the end of the pending-send buffer. -/
def emit (me : Inner) (f : OutFrame) : Inner := { me with pending := me.pending ++ [f] }

/-- `wake_flag`: bytes were queued since `before`.  Every frame has some. -/
def wakeFlag (me : Inner) (before : Nat) : Flags :=
  if me.pending.length > before then { wake := true } else .none

/-- `goaway_last_stream_id`. -/
def goawayLastStreamId (me : Inner) : Nat :=
  match me.role with
  | .client => 0
  | .server => me.lastProcessedId

/-- `is_dead`. -/
def isDead (me : Inner) : Bool := me.error.isSome || me.goaway.isSome

/-- `ensure_not_idle`. -/
def ensureNotIdle (me : Inner) (sid : Nat) : Except Err Unit :=
  let idle := match me.role with
    | .client => !isClientInitiated sid || sid ≥ me.nextId
    | .server => !isClientInitiated sid || sid > me.lastRecvId
  if idle then .error (protocolErr .protocolError s!"frame on idle stream {sid}") else .ok ()

/-- `above_goaway`. -/
def aboveGoaway (me : Inner) (sid : Nat) : Bool := me.role = .server ∧ sid > me.maxStreamId

/-- `apply_stream_limit`. -/
def applyStreamLimit (me : Inner) (limit : Option Nat) : Inner := { me with streamLimit := limit }

/-- `stream_room`. -/
def streamRoom (me : Inner) (e : StreamEntry) : Nat :=
  min e.sendFlow.size (me.maxSendBufSize - e.sendBuffered)

end Inner

end Httpunk.H2
