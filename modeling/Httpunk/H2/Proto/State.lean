import Httpunk.H2.Proto.FlowControl

/-!
# H2 — Proto — State

The vendored `proto/streams/state.rs`: the state of one stream, its transitions and its queries.

* `State.Later`: what every transition keeps.  A closed stream stays closed, a half that is
  closed stays closed, and a message that has begun to be sent stays so.
* `recvOpen_later`, `sendOpen_later` and the like: each transition is one.
-/

namespace Httpunk.H2

/-- Who caused a reset (`proto/mod.rs`). -/
inductive Initiator where
  | user
  | library
  | remote
  deriving DecidableEq, Repr

/-- `Initiator::is_local`. -/
def Initiator.isLocal : Initiator → Bool
  | .user | .library => true
  | .remote => false

/-- `proto::Error`: what closes a stream, or the connection. -/
inductive ProtoError where
  | reset (streamId : Nat) (reason : Reason) (initiator : Initiator)
  | goAway (reason : Reason) (initiator : Initiator)
  | io
  deriving DecidableEq, Repr

/-- `Error::is_local`. -/
def ProtoError.isLocal : ProtoError → Bool
  | .reset _ _ i => i.isLocal
  | .goAway _ i => i.isLocal
  | .io => true

/-- `codec::UserError`, as far as the connection raises it. -/
inductive UserError where
  | unexpectedFrameType
  | malformedHeaders
  deriving DecidableEq, Repr

/-- The `Peer` of `state.rs`: what one half of an open stream is doing. -/
inductive Half where
  | awaitingHeaders
  | streaming
  deriving DecidableEq, Repr

/-- The `Cause` of `state.rs`. -/
inductive Cause where
  | endStream
  | error (e : ProtoError)
  | errorAfterEndStream (e : ProtoError)
  | scheduledLibraryReset (reason : Reason)
  deriving DecidableEq, Repr

/-- The `Inner` of `state.rs`. -/
inductive State where
  | idle
  | reservedLocal
  | reservedRemote
  | open (local_ remote : Half)
  | halfClosedLocal (remote : Half)
  | halfClosedRemote (local_ : Half)
  | closed (cause : Cause)
  deriving DecidableEq, Repr

/-- What the receive side of a stream is doing, or how it came to its end. -/
inductive RecvSide where
  | receiving (half : Half)
  /-- The message was received to its end. -/
  | ended
  /-- It was, and the peer reset the stream after it. -/
  | endedReset
  | stopped
  deriving DecidableEq

namespace State

/-! ### Queries -/

def isLocalError : State → Bool
  | .closed (.error e) | .closed (.errorAfterEndStream e) => e.isLocal
  | .closed (.scheduledLibraryReset _) => true
  | _ => false

/-- `is_reset`: closed by anything but the end of the stream. -/
def isReset : State → Bool
  | .closed .endStream => false
  | .closed _ => true
  | _ => false

def isSendStreaming : State → Bool
  | .open .streaming _ | .halfClosedRemote .streaming => true
  | _ => false

def isRecvHeaders : State → Bool
  | .idle | .open _ .awaitingHeaders | .halfClosedLocal .awaitingHeaders | .reservedRemote => true
  | _ => false

def isRecvStreaming : State → Bool
  | .open _ .streaming | .halfClosedLocal .streaming => true
  | _ => false

/-- `is_recv_end_stream`: END_STREAM has been received. -/
def isRecvEndStream : State → Bool
  | .closed .endStream | .closed (.errorAfterEndStream _) | .halfClosedRemote _ => true
  | _ => false

def isClosed : State → Bool
  | .closed _ => true
  | _ => false

def isSendClosed : State → Bool
  | .closed _ | .halfClosedLocal _ | .reservedRemote => true
  | _ => false

/-- `ensure_recv_open`: the error a body reader sees, or whether more may come. -/
def ensureRecvOpen : State → Except ProtoError Bool
  | .closed (.error e) => .error e
  | .closed (.scheduledLibraryReset reason) => .error (.goAway reason .library)
  | .closed .endStream | .closed (.errorAfterEndStream _) | .halfClosedRemote _
  | .reservedLocal => .ok false
  | _ => .ok true

/-- `ensure_reason` at `PollReset::Streaming`. -/
def ensureReason : State → Except ProtoError (Option Reason)
  | .closed (.error (.reset _ reason _)) | .closed (.errorAfterEndStream (.reset _ reason _))
  | .closed (.error (.goAway reason _)) | .closed (.errorAfterEndStream (.goAway reason _))
  | .closed (.scheduledLibraryReset reason) => .ok (some reason)
  | .closed (.error e) | .closed (.errorAfterEndStream e) => .error e
  | _ => .ok none

/-! ### Transitions -/

/-- `send_open`. -/
def sendOpen (st : State) (eos : Bool) : Except UserError State :=
  match st with
  | .idle => .ok (if eos then .halfClosedLocal .awaitingHeaders else .open .streaming .awaitingHeaders)
  | .open .awaitingHeaders remote =>
    .ok (if eos then .halfClosedLocal remote else .open .streaming remote)
  | .halfClosedRemote .awaitingHeaders | .reservedLocal =>
    .ok (if eos then .closed .endStream else .halfClosedRemote .streaming)
  | _ => .error .unexpectedFrameType

/-- The receive half after a head: an interim (1xx) one leaves it waiting. -/
def afterHead (informational : Bool) : Half :=
  if informational then .awaitingHeaders else .streaming

/-- `recv_open`.  The caller reads only whether it failed, so the `initial` flag is left out. -/
def recvOpen (st : State) (eos informational : Bool) : Except ProtoError State :=
  match st with
  | .idle => .ok (if eos then .halfClosedRemote .awaitingHeaders
    else .open .awaitingHeaders (afterHead informational))
  | .reservedRemote =>
    .ok (if eos then .closed .endStream
      else if informational then .reservedRemote else .halfClosedLocal .streaming)
  | .open local_ .awaitingHeaders =>
    .ok (if eos then .halfClosedRemote local_ else .open local_ (afterHead informational))
  | .halfClosedLocal .awaitingHeaders =>
    .ok (if eos then .closed .endStream else .halfClosedLocal (afterHead informational))
  | _ => .error (.goAway .protocolError .library)

/-- `recv_close`. -/
def recvClose : State → Except ProtoError State
  | .open local_ _ => .ok (.halfClosedRemote local_)
  | .halfClosedLocal _ => .ok (.closed .endStream)
  | _ => .error (.goAway .protocolError .library)

/-- `recv_reset`, for a stream with nothing queued. -/
def recvReset (st : State) (streamId : Nat) (reason : Reason) : State :=
  match st with
  | .closed _ => st
  | _ =>
    let error : ProtoError := .reset streamId reason .remote
    .closed (if st.isRecvEndStream then .errorAfterEndStream error else .error error)

/-- `handle_error`. -/
def handleError (st : State) (err : ProtoError) : State :=
  match st with
  | .closed _ => st
  | _ => .closed (.error err)

/-- `recv_eof`: a broken pipe. -/
def recvEof (st : State) : State := st.handleError .io

/-- `send_close`.  `none` is the panic of a send half that is not open. -/
def sendClose : State → Option State
  | .open _ remote => some (.halfClosedLocal remote)
  | .halfClosedRemote _ => some (.closed .endStream)
  | _ => none

/-- `set_reset`. -/
def setReset (_ : State) (streamId : Nat) (reason : Reason) (initiator : Initiator) : State :=
  .closed (.error (.reset streamId reason initiator))

/-! ### What every transition keeps -/

/-- Nothing more can be received: the message stood, the stream is closed, or it is a pushed one. -/
def recvDone : State → Bool
  | .closed _ | .halfClosedRemote _ | .reservedLocal => true
  | _ => false

/-- The receive side of a state. -/
def recvSide : State → RecvSide
  | .idle | .reservedRemote => .receiving .awaitingHeaders
  | .open _ remote | .halfClosedLocal remote => .receiving remote
  | .halfClosedRemote _ | .reservedLocal | .closed .endStream => .ended
  | .closed (.errorAfterEndStream _) => .endedReset
  | .closed (.error _) | .closed (.scheduledLibraryReset _) => .stopped

theorem isClosed_of_endedReset {st : State} (h : st.recvSide = .endedReset) :
    st.isClosed = true := by
  cases st with
  | closed c => rfl
  | _ => cases h

/-- `recvDone` reads the receive side only. -/
theorem recvDone_iff {st : State} :
    st.recvDone = false ↔ ∃ half, st.recvSide = .receiving half := by
  rcases st with _ | _ | _ | _ | _ | _ | (_ | _ | _ | _) <;> simp [recvDone, recvSide]

theorem recvDone_of_recvSide {a b : State} (h : b.recvSide = a.recvSide) :
    b.recvDone = a.recvDone := by
  rw [Bool.eq_iff_iff, ← Bool.not_eq_false, ← Bool.not_eq_false, recvDone_iff, recvDone_iff, h]

theorem isRecvStreaming_iff {st : State} :
    st.isRecvStreaming = true ↔ st.recvSide = .receiving .streaming := by
  rcases st with _ | _ | _ | ⟨_, _ | _⟩ | ⟨_ | _⟩ | _ | (_ | _ | _ | _) <;>
    simp [isRecvStreaming, recvSide]

theorem isRecvHeaders_iff {st : State} :
    st.isRecvHeaders = true ↔ st.recvSide = .receiving .awaitingHeaders := by
  rcases st with _ | _ | _ | ⟨_, _ | _⟩ | ⟨_ | _⟩ | _ | (_ | _ | _ | _) <;>
    simp [isRecvHeaders, recvSide]

theorem isRecvStreaming_of_recvDone {st : State} (h : st.recvDone = true) :
    st.isRecvStreaming = false := by
  cases st with
  | closed c => rfl
  | halfClosedRemote l => rfl
  | reservedLocal => rfl
  | _ => cases h

theorem recvDone_of_isClosed {st : State} (h : st.isClosed = true) : st.recvDone = true := by
  cases st with
  | closed c => rfl
  | _ => cases h

/-- What can still receive is not closed. -/
theorem isClosed_of_recvDone {st : State} (h : st.recvDone = false) : st.isClosed = false := by
  cases st with
  | closed c => cases h
  | _ => rfl

theorem isSendClosed_of_isClosed {st : State} (h : st.isClosed = true) :
    st.isSendClosed = true := by
  cases st with
  | closed c => rfl
  | _ => cases h

/-- What has its sending half open is not closed. -/
theorem isClosed_of_isSendClosed {st : State} (h : st.isSendClosed = false) :
    st.isClosed = false := by
  cases st with
  | closed c => cases h
  | _ => rfl

theorem isSendStreaming_of_isSendClosed {st : State} (h : st.isSendClosed = true) :
    st.isSendStreaming = false := by
  cases st with
  | closed c => rfl
  | halfClosedLocal r => rfl
  | reservedRemote => rfl
  | _ => cases h

theorem recvDone_of_isRecvEndStream {st : State} (h : st.isRecvEndStream = true) :
    st.recvDone = true := by
  cases st with
  | closed c => rfl
  | halfClosedRemote l => rfl
  | _ => cases h

/-- The head of what we send is out: the send half streams or has closed. -/
def sendBegun (st : State) : Bool := st.isSendStreaming || st.isSendClosed

@[simp] theorem sendBegun_idle : State.idle.sendBegun = false := rfl

@[simp] theorem sendBegun_open (l r : Half) :
    (State.open l r).sendBegun = decide (l = .streaming) := by cases l <;> rfl

@[simp] theorem sendBegun_halfClosedRemote (l : Half) :
    (State.halfClosedRemote l).sendBegun = decide (l = .streaming) := by cases l <;> rfl

@[simp] theorem sendBegun_halfClosedLocal (r : Half) :
    (State.halfClosedLocal r).sendBegun = true := rfl

@[simp] theorem sendBegun_closed (c : Cause) : (State.closed c).sendBegun = true := rfl

/-- `b` may come after `a`: what is closed in `a` is closed in `b`, and what has begun in `a` has
begun in `b`. -/
structure Later (a b : State) : Prop where
  closed : a.isClosed = true → b.isClosed = true
  sendClosed : a.isSendClosed = true → b.isSendClosed = true
  recvDone : a.recvDone = true → b.recvDone = true
  sendBegun : a.sendBegun = true → b.sendBegun = true

namespace Later

theorem refl (a : State) : Later a a := ⟨id, id, id, id⟩

theorem trans {a b c : State} (h₁ : Later a b) (h₂ : Later b c) : Later a c :=
  ⟨h₂.closed ∘ h₁.closed, h₂.sendClosed ∘ h₁.sendClosed, h₂.recvDone ∘ h₁.recvDone,
    h₂.sendBegun ∘ h₁.sendBegun⟩

/-- Any state may be closed. -/
theorem of_isClosed {a b : State} (h : b.isClosed = true) : Later a b :=
  ⟨fun _ => h, fun _ => isSendClosed_of_isClosed h, fun _ => recvDone_of_isClosed h,
    fun _ => by rw [State.sendBegun, isSendClosed_of_isClosed h, Bool.or_true]⟩

end Later

/-- The four facts of `Later`, decided at two given states. -/
theorem later_iff {a b : State} : Later a b ↔
    (a.isClosed = true → b.isClosed = true) ∧
      (a.isSendClosed = true → b.isSendClosed = true) ∧
      (a.recvDone = true → b.recvDone = true) ∧
      (a.sendBegun = true → b.sendBegun = true) :=
  ⟨fun h => ⟨h.closed, h.sendClosed, h.recvDone, h.sendBegun⟩,
    fun ⟨h₁, h₂, h₃, h₄⟩ => ⟨h₁, h₂, h₃, h₄⟩⟩

theorem sendOpen_later {st st' : State} {eos : Bool} (h : st.sendOpen eos = .ok st') :
    Later st st' := by
  rw [later_iff]
  unfold sendOpen at h
  split at h <;> cases h <;> cases eos <;>
    simp [isClosed, isSendClosed, State.recvDone]

/-- `send_open` leaves the send half closed exactly when the message ends there. -/
theorem sendOpen_isSendClosed {st st' : State} {eos : Bool} (h : st.sendOpen eos = .ok st') :
    st.isSendClosed = false ∧ st'.isSendClosed = eos := by
  unfold sendOpen at h
  split at h <;> cases h <;> cases eos <;> exact ⟨rfl, rfl⟩

theorem recvOpen_later {st st' : State} {eos inf : Bool} (h : st.recvOpen eos inf = .ok st') :
    Later st st' := by
  rw [later_iff]
  unfold recvOpen at h
  split at h <;> cases h <;> cases eos <;> cases inf <;>
    simp [isClosed, isSendClosed, State.recvDone]

/-- A head that does not end the message leaves the receive half as open as it was. -/
theorem recvOpen_recvDone {st st' : State} {inf : Bool} (h : st.recvOpen false inf = .ok st') :
    st'.recvDone = st.recvDone ∧ st'.isClosed = st.isClosed := by
  unfold recvOpen at h
  split at h <;> cases h <;> cases inf <;> exact ⟨rfl, rfl⟩

/-- A frame in the wrong place is an error of the connection. -/
theorem recvOpen_error {st : State} {eos inf : Bool} {err : ProtoError}
    (h : st.recvOpen eos inf = .error err) : err = .goAway .protocolError .library := by
  unfold recvOpen at h
  split at h <;> cases h
  rfl

theorem recvClose_error {st : State} {err : ProtoError} (h : st.recvClose = .error err) :
    err = .goAway .protocolError .library := by
  unfold recvClose at h
  split at h <;> cases h
  rfl

/-- The receive side after a head that does not end the message. -/
theorem recvOpen_recvSide {st st' : State} {inf : Bool} (h : st.recvOpen false inf = .ok st') :
    st'.recvSide = .receiving (afterHead inf) := by
  unfold recvOpen at h
  split at h <;> cases h <;> cases inf <;> rfl

/-- A head that ends the message ends the receive side. -/
theorem recvOpen_eos {st st' : State} {inf : Bool} (h : st.recvOpen true inf = .ok st') :
    st'.recvSide = .ended := by
  unfold recvOpen at h
  split at h <;> cases h <;> rfl

/-- No head resets a stream. -/
theorem recvOpen_not_reset {st st' : State} {eos inf : Bool} (h : st.recvOpen eos inf = .ok st') :
    st'.recvSide ≠ .endedReset := by
  cases eos with
  | true => rw [recvOpen_eos h]; decide
  | false => rw [recvOpen_recvSide h]; nofun

/-- `send_open` leaves the receive side alone. -/
theorem sendOpen_recvSide {st st' : State} {eos : Bool} (h : st.sendOpen eos = .ok st') :
    st'.recvSide = st.recvSide := by
  unfold sendOpen at h
  split at h <;> cases h <;> cases eos <;> rfl

/-- A head that does not end the message leaves the stream open. -/
theorem sendOpen_isClosed {st st' : State} (h : st.sendOpen false = .ok st') :
    st'.isClosed = false := by
  unfold sendOpen at h
  split at h <;> cases h <;> rfl

theorem recvClose_later {st st' : State} (h : st.recvClose = .ok st') : Later st st' := by
  rw [later_iff]
  unfold recvClose at h
  split at h <;> cases h <;> simp [isClosed, isSendClosed, State.recvDone]

/-- The end of the message ends the receive side. -/
theorem recvClose_recvSide {st st' : State} (h : st.recvClose = .ok st') :
    st'.recvSide = .ended := by
  unfold recvClose at h
  split at h <;> cases h <;> rfl

/-- Past its head, what can be closed was streaming. -/
theorem recvClose_streaming {st st' : State} (h : st.recvClose = .ok st')
    (hw : st.isRecvHeaders = false) : st.recvSide = .receiving .streaming := by
  unfold recvClose at h
  split at h
  · next r => cases r <;> first | rfl | cases hw
  · next r => cases r <;> first | rfl | cases hw
  · cases h

/-- A receive half that streams can be closed. -/
theorem recvClose_of_isRecvStreaming {st : State} (h : st.isRecvStreaming = true) :
    ∃ st', st.recvClose = .ok st' := by
  unfold isRecvStreaming at h
  split at h
  · exact ⟨_, rfl⟩
  · exact ⟨_, rfl⟩
  · cases h

/-- The end of the message leaves an open sending half open. -/
theorem recvClose_isSendClosed {st st' : State} (h : st.recvClose = .ok st')
    (ho : st.isSendClosed = false) : st'.isSendClosed = false := by
  unfold recvClose at h
  split at h <;> cases h
  · rfl
  · cases ho

/-- So does a head. -/
theorem recvOpen_isSendClosed {st st' : State} {eos inf : Bool}
    (h : st.recvOpen eos inf = .ok st') (ho : st.isSendClosed = false) :
    st'.isSendClosed = false := by
  unfold recvOpen at h
  split at h <;> cases h <;> first | (cases eos <;> rfl) | cases ho

theorem sendClose_later {st st' : State} (h : st.sendClose = some st') : Later st st' := by
  rw [later_iff]
  unfold sendClose at h
  split at h <;> cases h <;> simp [isClosed, isSendClosed, State.recvDone]

theorem sendClose_isSendClosed {st st' : State} (h : st.sendClose = some st') :
    st'.isSendClosed = true := by
  unfold sendClose at h
  split at h <;> cases h <;> rfl

/-- `send_close` leaves the receive side alone. -/
theorem sendClose_recvSide {st st' : State} (h : st.sendClose = some st') :
    st'.recvSide = st.recvSide := by
  unfold sendClose at h
  split at h <;> cases h <;> rfl

/-- A send half that streams can be closed. -/
theorem sendClose_of_isSendStreaming {st : State} (h : st.isSendStreaming = true) :
    ∃ st', st.sendClose = some st' := by
  unfold isSendStreaming at h
  split at h
  · exact ⟨_, rfl⟩
  · exact ⟨_, rfl⟩
  · cases h

@[simp] theorem isClosed_setReset (st : State) (sid : Nat) (r : Reason) (i : Initiator) :
    (st.setReset sid r i).isClosed = true := rfl

@[simp] theorem isClosed_recvReset (st : State) (sid : Nat) (r : Reason) :
    (st.recvReset sid r).isClosed = true := by
  cases st <;> rfl

@[simp] theorem isClosed_handleError (st : State) (e : ProtoError) :
    (st.handleError e).isClosed = true := by
  cases st <;> rfl

@[simp] theorem isClosed_recvEof (st : State) : st.recvEof.isClosed = true :=
  isClosed_handleError st .io

end State

end Httpunk.H2
