import Httpunk.H2.Driver.Connection

/-!
# H2 — Driver — RecvFlow

The receive windows of the streams, and what leaves them alone.

* `Inner.Kin`: every entry has the receive window it had, or is new; its unread bytes are as they
  were, or went back in bulk.
* `Kin.…`: the methods that keep it: all but the receipt of DATA, the release of its bytes, and
  the acknowledgement of our own SETTINGS.
-/

namespace Httpunk.H2

/-- The receive window of an entry is where it was, and its unread bytes with it, or these went
back in bulk. -/
structure StreamEntry.SameWindow (e e' : StreamEntry) : Prop where
  recvFlow : e'.recvFlow = e.recvFlow
  unread : e'.recvUnreleased = e.recvUnreleased ∧ e'.recvReclaimed = e.recvReclaimed ∨
    e'.recvUnreleased = 0 ∧ e'.recvReclaimed = true

/-- An entry whose receive window is the initial one, and whole. -/
def StreamEntry.Untouched (init : Nat) (e : StreamEntry) : Prop :=
  e.recvFlow = .opened init ∧ e.recvUnreleased = 0

theorem StreamEntry.Untouched.fresh (sendWindow init : Nat) (isHead slot : Bool) (st : State) :
    { StreamEntry.new sendWindow init isHead with holdsSlot := slot, state := st }.Untouched
      init := ⟨rfl, rfl⟩

namespace StreamEntry.SameWindow

variable {e e₁ e₂ : StreamEntry}

theorem of_eq (hf : e₁.recvFlow = e.recvFlow) (hu : e₁.recvUnreleased = e.recvUnreleased)
    (hr : e₁.recvReclaimed = e.recvReclaimed) : e.SameWindow e₁ := ⟨hf, .inl ⟨hu, hr⟩⟩

theorem reclaimed (hf : e₁.recvFlow = e.recvFlow) (hu : e₁.recvUnreleased = 0)
    (hr : e₁.recvReclaimed = true) : e.SameWindow e₁ := ⟨hf, .inr ⟨hu, hr⟩⟩

theorem trans (h₁ : e.SameWindow e₁) (h₂ : e₁.SameWindow e₂) : e.SameWindow e₂ := by
  refine ⟨h₂.recvFlow.trans h₁.recvFlow, ?_⟩
  rcases h₂.unread with ⟨hu, hr⟩ | h
  · rw [hu, hr]
    exact h₁.unread
  · exact .inr h

theorem untouched {init : Nat} (h : e.SameWindow e₁) (hu : e.Untouched init) :
    e₁.Untouched init := by
  refine ⟨h.recvFlow.trans hu.1, ?_⟩
  rcases h.unread with ⟨h, -⟩ | ⟨h, -⟩
  · exact h.trans hu.2
  · exact h

end StreamEntry.SameWindow

namespace Inner

/-- The streams `t'` hold the receive windows of the streams `t`, and new ones. -/
def KinOn (init : Nat) (t t' : Store Nat StreamEntry) : Prop :=
  ∀ sid e', t'.lookup sid = some e' →
    e'.Untouched init ∨ ∃ e, t.lookup sid = some e ∧ e.SameWindow e'

/-- The receive windows of `s` stand in `me`, and the terms they were granted under. -/
def Kin (s me : Inner) : Prop :=
  me.recvInit = s.recvInit ∧ me.settings.values = s.settings.values ∧
    KinOn s.recvInit s.streams me.streams

variable {s me : Inner} {sid : Nat} {e e' : StreamEntry}

namespace Kin

theorem refl (me : Inner) : Kin me me :=
  ⟨rfl, rfl, fun _ e' h => .inr ⟨e', h, .of_eq rfl rfl rfl⟩⟩

/-- An entry written back with its window. -/
theorem set (h : Kin s me) (he : me.streams.lookup sid = some e) (hw : e.SameWindow e') :
    Kin s (me.setStream sid e') := by
  refine ⟨h.1, h.2.1, fun k a ha => ?_⟩
  by_cases hk : k = sid
  · subst hk
    obtain rfl : e' = a := Option.some.inj ((AList.lookup_insert _).symm.trans ha)
    rcases h.2.2 k e he with hu | ⟨e₀, h₀, hw₀⟩
    · exact .inl (hw.untouched hu)
    · exact .inr ⟨e₀, h₀, hw₀.trans hw⟩
  · exact h.2.2 k a ((AList.lookup_insert_ne hk).symm.trans ha)

/-- An entry written back twice. -/
theorem set' {e₁ : StreamEntry} (h : Kin s me) (he : me.streams.lookup sid = some e)
    (hw : e.SameWindow e₁) (hw' : e₁.SameWindow e') :
    Kin s ((me.setStream sid e₁).setStream sid e') :=
  (h.set he hw).set (AList.lookup_insert _) hw'

/-- An entry in another state. -/
theorem state (h : Kin s me) (he : me.streams.lookup sid = some e) (st : State) :
    Kin s (me.setStream sid { e with state := st }) := h.set he (.of_eq rfl rfl rfl)

/-- A new entry. -/
theorem insert (h : Kin s me) (hu : e'.Untouched me.recvInit) : Kin s (me.setStream sid e') := by
  refine ⟨h.1, h.2.1, fun k a ha => ?_⟩
  by_cases hk : k = sid
  · subst hk
    obtain rfl : e' = a := Option.some.inj ((AList.lookup_insert _).symm.trans ha)
    exact .inl (h.1 ▸ hu)
  · exact h.2.2 k a ((AList.lookup_insert_ne hk).symm.trans ha)

theorem erase (h : Kin s me) (sid : Nat) :
    Kin s { me with streams := me.streams.erase sid } := by
  refine ⟨h.1, h.2.1, fun k a ha => ?_⟩
  by_cases hk : k = sid
  · subst hk
    rw [AList.lookup_erase] at ha
    cases ha
  · exact h.2.2 k a ((AList.lookup_erase_ne hk).symm.trans ha)

/-! ### The rotation -/

theorem enqueueSend (h : Kin s me) (sid : Nat) : Kin s (me.enqueueSend sid) := by
  unfold Inner.enqueueSend
  split
  · exact h
  · next he =>
    split
    · exact h
    · exact h.set he (.of_eq rfl rfl rfl)

theorem enqueueCapacity (h : Kin s me) (sid : Nat) : Kin s (me.enqueueCapacity sid) := by
  unfold Inner.enqueueCapacity
  split
  · exact h
  · next he =>
    split
    · exact h
    · exact h.set he (.of_eq rfl rfl rfl)

theorem leaveSendQueue (h : Kin s me) (sid : Nat) : Kin s (me.leaveSendQueue sid).1 := by
  unfold Inner.leaveSendQueue
  dsimp only
  split
  · exact h
  · next he =>
    repeat' split
    all_goals first | exact h | exact h.set he (.of_eq rfl rfl rfl)

theorem leaveCapacityQueue (h : Kin s me) (sid : Nat) :
    Kin s (me.leaveCapacityQueue sid).1 := by
  unfold Inner.leaveCapacityQueue
  dsimp only
  split
  · exact h
  · next he =>
    repeat' split
    all_goals first | exact h | exact h.set he (.of_eq rfl rfl rfl)

theorem yieldSendTurn (h : Kin s me) (sid : Nat) : Kin s (me.yieldSendTurn sid).1 := by
  unfold Inner.yieldSendTurn
  dsimp only
  split
  · split
    · exact h
    · next he => exact h.set he (.of_eq rfl rfl rfl)
  · exact h

theorem admitCapacityFront (h : Kin s me) : Kin s me.admitCapacityFront.1 := by
  unfold Inner.admitCapacityFront
  dsimp only
  split
  · exact h
  · split
    · exact h
    · split
      · exact h
      · refine enqueueSend ?_ _
        split
        · next he => exact h.set he (.of_eq rfl rfl rfl)
        · exact h

/-! ### The store -/

theorem reclaimConn (h : Kin s me) (n : Nat) : Kin s (me.reclaimConn n) := by
  unfold Inner.reclaimConn
  dsimp only
  repeat' split
  all_goals exact h

theorem maybeRemoveSettled (h : Kin s me) (sid : Nat) : Kin s (me.maybeRemoveSettled sid) := by
  unfold Inner.maybeRemoveSettled
  split
  · exact h
  · split
    · exact h.erase sid
    · exact h

theorem reclaimEntry (h : Kin s me) (he : me.streams.lookup sid = some e) :
    Kin s (me.reclaimEntry sid e) := by
  have hs : Kin s (me.setStream sid
      { e with dataBudgetCharged := 0, recvUnreleased := 0, recvReclaimed := true }) :=
    h.set he (.reclaimed rfl rfl rfl)
  unfold Inner.reclaimEntry
  refine reclaimConn ?_ _
  exact hs

theorem reclaimStreamAccounting (h : Kin s me) (sid : Nat) :
    Kin s (me.reclaimStreamAccounting sid) := by
  unfold Inner.reclaimStreamAccounting
  split
  · exact h
  · next he => exact maybeRemoveSettled (h.reclaimEntry he) sid

theorem maybeGoawayReply (h : Kin s me) : Kin s me.maybeGoawayReply.1 := by
  unfold Inner.maybeGoawayReply
  split <;> exact h

theorem closeStream (h : Kin s me) (sid : Nat) : Kin s (me.closeStream sid).1 := by
  unfold Inner.closeStream
  split
  · exact h
  · next e he =>
    split
    · exact h
    · have hf : Kin s (me.finishEntry sid e) := h.set he (.of_eq rfl rfl rfl)
      have hq := (hf.leaveSendQueue sid).leaveCapacityQueue sid
      refine maybeGoawayReply ?_
      split
      · exact hq.erase sid
      · exact hq

theorem dropClosedStored (h : Kin s me) (sid : Nat) : Kin s (me.dropClosedStored sid).1 :=
  (h.reclaimStreamAccounting sid).closeStream sid

theorem inResetStore (h : Kin s me) (sid : Nat) : Kin s (me.inResetStore sid).1 := by
  unfold Inner.inResetStore
  split
  · exact h
  · split <;> exact h

theorem enqueueResetExpiration (h : Kin s me) (sid : Nat) :
    Kin s (me.enqueueResetExpiration sid) := by
  unfold Inner.enqueueResetExpiration
  dsimp only
  split <;> exact h

theorem resetStream (h : Kin s me) (sid : Nat) (reason : Reason) (initiator : Initiator) :
    Kin s (me.resetStream sid reason initiator).1 := by
  unfold Inner.resetStream
  dsimp only
  split
  · exact h
  · next e he =>
    split
    · have hr : ∀ st, Kin s (((me.setStream sid { e with state := st }).reclaimStreamAccounting
          sid).closeStream sid).1 := fun st =>
        ((h.state he st).reclaimStreamAccounting sid).closeStream sid
      repeat' split
      all_goals first | exact (hr _).enqueueResetExpiration sid | exact hr _
    · refine (closeStream ?_ sid).enqueueResetExpiration sid
      exact (h.state he _).reclaimStreamAccounting sid

theorem finishStream (h : Kin s me) (sid : Nat) : Kin s (me.finishStream sid).1 := by
  have hc := h.closeStream sid
  unfold Inner.finishStream
  dsimp only
  repeat' split
  all_goals first
    | exact hc
    | exact hc.resetStream sid _ _
    | exact hc.reclaimStreamAccounting sid

theorem abortStream (h : Kin s me) (sid : Nat) (reason : Option Reason) :
    Kin s (me.abortStream sid reason).1 := by
  unfold Inner.abortStream
  dsimp only
  split
  · exact h
  · next e he =>
    have hs : Kin s (me.setStream sid { e with
        state := abortState e.state reason
        recvUnreleased := 0, dataBudgetCharged := 0, recvReclaimed := true }) :=
      h.set he (.reclaimed rfl rfl rfl)
    exact (hs.closeStream sid).erase sid

theorem abortAll (h : Kin s me) (reason : Option Reason) (ids : List Nat) :
    Kin s (me.abortAll reason ids).1 := by
  induction ids generalizing me with
  | nil => exact h
  | cons sid ids ih => exact ih (h.abortStream sid reason)

/-! ### Frames -/

theorem recvLookup (h : Kin s me) (sid : Nat) : Kin s (me.recvLookup sid).1 := by
  have hr := h.inResetStore sid
  unfold Inner.recvLookup
  dsimp only
  repeat' split
  all_goals first | exact h | exact hr | exact h.dropClosedStored sid

theorem rejectOversizeRequest (h : Kin s me) (sid : Nat) :
    Kin s (me.rejectOversizeRequest sid).1 := by
  unfold Inner.rejectOversizeRequest
  dsimp only
  split
  · exact h
  · next e he =>
    split
    · exact h
    · next st _ =>
      have hs := h.state he st
      split
      · refine closeStream (enqueueResetExpiration ?_ sid) sid
        exact h.set' he (.of_eq rfl rfl rfl) (.of_eq rfl rfl rfl)
      · refine closeStream ?_ sid
        exact hs

theorem applyContentLength (h : Kin s me) (sid : Nat) (f : Headers) :
    Kin s (me.applyContentLength sid f).1 := by
  unfold Inner.applyContentLength
  dsimp only
  split
  · exact h
  · next he =>
    repeat' split
    all_goals first | exact h | exact h.set he (.of_eq rfl rfl rfl)

theorem insertRequest (h : Kin s me) (sid : Nat) (st : State) :
    Kin s ({ me with lastRecvId := sid }.insertRequest sid st) :=
  h.insert (.fresh _ _ _ _ _)

theorem recvRequest (h : Kin s me) (frame : Headers) (spare : Bool) (before : Nat)
    (flags : Flags) : Kin s (me.recvRequest frame spare before flags).1 := by
  unfold Inner.recvRequest
  dsimp only
  split
  · exact h
  split
  · exact h
  split
  · exact h
  split
  · exact h
  split
  · exact h
  next st _ =>
  have hi : Kin s ({ me with lastRecvId := frame.streamId }.insertRequest frame.streamId st) :=
    h.insertRequest frame.streamId st
  have hc := hi.applyContentLength frame.streamId frame
  split
  · next hr => rw [hr] at hc; exact hc
  · next hr =>
    rw [hr] at hc
    have ho := hc.rejectOversizeRequest frame.streamId
    repeat' split
    · next hr' => rw [hr'] at ho; exact ho
    · next hr' => rw [hr'] at ho; exact ho
    · exact hc

theorem recvHeadersUnknown (h : Kin s me) (frame : Headers) (spare : Bool) (before : Nat)
    (flags : Flags) : Kin s (me.recvHeadersUnknown frame spare before flags).1 := by
  have hr := h.inResetStore frame.streamId
  unfold Inner.recvHeadersUnknown
  dsimp only
  repeat' split
  all_goals first | exact hr | exact hr.recvRequest _ _ _ _

theorem recvHead (h : Kin s me) (frame : Headers) (before : Nat)
    (he : me.streams.lookup frame.streamId = some e) :
    Kin s (me.recvHead frame e before).1 := by
  unfold Inner.recvHead
  dsimp only
  split
  · exact h
  · split
    · exact h
    · next st _ =>
      have hc := (h.state he st).applyContentLength frame.streamId frame
      split
      · next hr => rw [hr] at hc; exact hc
      · next hr =>
        rw [hr] at hc
        repeat' split
        all_goals first | exact hc | exact hc.closeStream _

theorem recvTrailers (h : Kin s me) (frame : Headers) (before : Nat)
    (he : me.streams.lookup frame.streamId = some e) :
    Kin s (me.recvTrailers frame e before).1 := by
  unfold Inner.recvTrailers
  dsimp only
  repeat' split
  all_goals first | exact h | exact h.state he _ | exact (h.state he _).closeStream _

theorem recvHeaders (h : Kin s me) (frame : Headers) (spare : Bool) :
    Kin s (me.recvHeaders frame spare).1 := by
  have hd := h.dropClosedStored frame.streamId
  unfold Inner.recvHeaders
  dsimp only
  split
  · exact h.recvHeadersUnknown _ _ _ _
  · next he =>
    repeat' split
    all_goals first
      | exact h
      | exact hd
      | exact hd.recvHeadersUnknown _ _ _ _
      | exact h.recvHead _ _ he
      | exact h.recvTrailers _ _ he

theorem recordDataFrame (h : Kin s me) (sid n : Nat) : Kin s (me.recordDataFrame sid n).1 := by
  unfold Inner.recordDataFrame
  split
  · exact h
  · dsimp only
    split
    · exact h
    · next he => exact h.set he (.of_eq rfl rfl rfl)

theorem ignoreData (h : Kin s me) (n : Nat) : Kin s (me.ignoreData n).1 := by
  have hc : Kin s (me.consumeConnRecv n).1 := h
  unfold Inner.ignoreData
  split
  · next hr => rw [hr] at hc; exact hc
  · next hr => rw [hr] at hc; exact hc.reclaimConn n

theorem recvWindowUpdate (h : Kin s me) (frame : WindowUpdate) :
    Kin s (me.recvWindowUpdate frame).1 := by
  unfold Inner.recvWindowUpdate
  dsimp only
  split
  · split
    · exact h
    · next fc _ =>
      have hf : Kin s { me with connSend := fc } := h
      exact hf.admitCapacityFront
  · split
    · repeat' split
      all_goals exact h
    · next he => split <;> exact h.set he (.of_eq rfl rfl rfl)

theorem recvResetOn (h : Kin s me) (frame : RstStream)
    (he : me.streams.lookup frame.streamId = some e) : Kin s (me.recvResetOn frame e).1 := by
  unfold Inner.recvResetOn
  dsimp only
  split
  · exact h
  · exact ((h.state he _).reclaimStreamAccounting _).closeStream _

theorem recvReset (h : Kin s me) (frame : RstStream) : Kin s (me.recvReset frame).1 := by
  unfold Inner.recvReset
  dsimp only
  split
  · exact h
  · split
    · repeat' split
      all_goals exact h
    · next he =>
      have hm : ∀ m, Kin s { me with remoteResetPending := m } := fun _ => h
      repeat' split
      · exact h
      · exact (hm _).recvResetOn frame he
      · exact h.recvResetOn frame he

theorem applyRemoteLimits (h : Kin s me) (v : SettingsValues) :
    Kin s (me.applyRemoteLimits v).1 := by
  have hh : ∀ n, Kin s (me.applyHeaderTable n) := fun n => by cases n <;> exact h
  have hf : ∀ {m : Inner} n, Kin s m → Kin s (m.applyMaxFrame n).1 := fun {m} n hm => by
    unfold applyMaxFrame
    repeat' split
    all_goals exact hm
  have hs : ∀ {m : Inner} n, Kin s m → Kin s (m.applyMaxStreams n).1 := fun {m} n hm => by
    unfold applyMaxStreams
    dsimp only
    split
    · exact hm
    · split <;> exact hm
  have hb := hf v.maxFrameSize (hh v.headerTableSize)
  unfold Inner.applyRemoteLimits
  split
  · next hr => rw [hr] at hb; exact hb
  · next hr => rw [hr] at hb; exact hs _ hb

theorem resizeSend_sameWindow (old new sid : Nat) (e : StreamEntry) :
    e.SameWindow (resizeSend old new sid e).1 := by
  unfold resizeSend
  split <;> exact .of_eq rfl rfl rfl

theorem applyInitialWindow (h : Kin s me) (new : Nat) :
    Kin s (me.applyInitialWindow new).1 := by
  have hs : Kin s { me with
      peer := { me.peer with initialWindowSize := new }
      streams := (Store.scan (resizeSend me.peer.initialWindowSize new) me.streams).1 } := by
    refine ⟨h.1, h.2.1, fun k a ha => ?_⟩
    obtain ⟨e, he, hres⟩ := Store.lookup_scan ha
    have hw : e.SameWindow a := by
      rcases hres with rfl | rfl
      · exact resizeSend_sameWindow _ _ _ _
      · exact .of_eq rfl rfl rfl
    rcases h.2.2 k e he with hu | ⟨e₀, h₀, hw₀⟩
    · exact .inl (hw.untouched hu)
    · exact .inr ⟨e₀, h₀, hw₀.trans hw⟩
  unfold Inner.applyInitialWindow
  dsimp only
  repeat' split
  all_goals first | exact h | exact hs

theorem applyRemoteSettings (h : Kin s me) (v : SettingsValues) :
    Kin s (me.applyRemoteSettings v).1 := by
  have hl := h.applyRemoteLimits v
  unfold Inner.applyRemoteSettings
  split
  · next hr => rw [hr] at hl; exact hl
  · next hr =>
    rw [hr] at hl
    split
    · exact hl
    · next new _ =>
      have hw := hl.applyInitialWindow new
      split
      · next hr' => rw [hr'] at hw; exact hw
      · next hr' => rw [hr'] at hw; exact hw

theorem recvPing (h : Kin s me) (frame : Ping) : Kin s (me.recvPing frame).1 := by
  unfold Inner.recvPing
  dsimp only
  repeat' split
  all_goals exact h

theorem recvGoAway (h : Kin s me) (frame : GoAway) : Kin s (me.recvGoAway frame).1 := by
  unfold Inner.recvGoAway
  dsimp only
  split
  · exact h
  · split
    · exact h
    · have hg : Kin s { me with
          goawayLastId := some frame.lastStreamId
          goaway := some ⟨frame.lastStreamId, frame.errorCode, frame.debugData⟩ } := h
      exact hg.abortAll _ _

/-! ### Calls -/

theorem openStream (h : Kin s me) (request : Except Err Block) (endStream isHead : Bool) :
    Kin s (me.openStream request endStream isHead).1 := by
  unfold Inner.openStream
  repeat' split
  all_goals first | exact h | exact h.insert (.fresh _ _ _ _ _)

theorem sendEmpty (h : Kin s me) (endStream : Bool) (he : me.streams.lookup sid = some e) :
    Kin s (me.sendEmpty sid e endStream).1 := by
  unfold Inner.sendEmpty
  dsimp only
  repeat' split
  · exact h
  · next st _ =>
    have hs : Kin s ((me.emit (.data sid [] endStream)).setStream sid { e with state := st }) :=
      h.state he st
    exact hs.finishStream sid
  · exact h

theorem queueData (h : Kin s me) (sid : Nat) (chunk : Bytes) (last done : Bool) (before : Nat)
    (flags : Flags) : Kin s (me.queueData sid chunk last done before flags).1 := by
  unfold Inner.queueData
  dsimp only
  split
  · exact h
  · split
    · split
      · exact h
      · next e he =>
        split
        · exact h
        · next st _ =>
          refine finishStream ?_ sid
          exact h.state he st
    · exact h

theorem afterFrame (h : Kin s me) (sid : Nat) (e : StreamEntry) (n want : Nat) :
    Kin s (me.afterFrame sid e n want).1 := by
  unfold Inner.afterFrame
  repeat' split
  all_goals first
    | exact h
    | exact h.leaveSendQueue sid
    | exact (h.enqueueCapacity sid).leaveSendQueue sid

theorem frameData (h : Kin s me) (data : Bytes) (offset : Nat) (endStream : Bool)
    (budget before : Nat) (he : me.streams.lookup sid = some e) :
    Kin s (me.frameData sid e data offset endStream budget before).1 := by
  unfold Inner.frameData
  dsimp only
  repeat' split
  · exact h
  · exact h.set he (.of_eq rfl rfl rfl)
  · refine queueData (afterFrame ?_ _ _ _ _) _ _ _ _ _ _
    exact h.set he (.of_eq rfl rfl rfl)

theorem sendTurn (h : Kin s me) (sid : Nat) (data : Bytes) (offset : Nat) (endStream : Bool)
    (budget before : Nat) : Kin s (me.sendTurn sid data offset endStream budget before).1 := by
  unfold Inner.sendTurn
  split
  · exact h
  · next he =>
    repeat' split
    all_goals first | exact h | exact h.yieldSendTurn sid | exact h.frameData _ _ _ _ _ he

theorem leaveWaiting (h : Kin s me) (he : me.streams.lookup sid = some e) :
    Kin s (me.leaveWaiting sid e) := by
  unfold Inner.leaveWaiting
  split
  · exact h.set he (.of_eq rfl rfl rfl)
  · exact h

theorem sendChunk (h : Kin s me) (data : Bytes) (offset : Nat) (endStream : Bool)
    (he : me.streams.lookup sid = some e) :
    Kin s (me.sendChunk sid e data offset endStream).1 := by
  have hw : Kin s (me.leaveWaiting sid e).sendFront.1 := h.leaveWaiting he
  unfold Inner.sendChunk
  dsimp only
  split
  · refine leaveSendQueue ?_ sid
    split
    · exact h.enqueueCapacity sid
    · exact h
  · split
    · split
      · exact hw.enqueueSend sid
      · exact hw.sendTurn _ _ _ _ _ _
    · exact (hw.enqueueSend sid).sendTurn _ _ _ _ _ _

theorem sendData (h : Kin s me) (sid : Nat) (data : Bytes) (offset : Nat) (endStream : Bool) :
    Kin s (me.sendData sid data offset endStream).1 := by
  unfold Inner.sendData
  split
  · exact h
  · next he =>
    repeat' split
    all_goals first | exact h | exact h.sendEmpty _ he | exact h.sendChunk _ _ _ he

theorem sendTrailers (h : Kin s me) (sid : Nat) (trailers : Fields) :
    Kin s (me.sendTrailers sid trailers).1 := by
  unfold Inner.sendTrailers
  dsimp only
  split
  · exact h
  · next e he =>
    split
    · exact h
    · split
      · exact h
      · next st _ =>
        refine finishStream ?_ sid
        exact h.state he st

theorem sendResponseHead (h : Kin s me) (sid status : Nat) (fields : Fields)
    (endStream : Bool) (date : String) :
    Kin s (me.sendResponseHead sid status fields endStream date).1 := by
  unfold Inner.sendResponseHead
  dsimp only
  split
  · exact h
  split
  · exact h
  next e he =>
  split
  · exact h
  split
  · exact h
  split
  · exact h
  next st _ =>
  have hs := h.state he st
  split
  · refine finishStream ?_ sid
    exact hs
  · exact hs

theorem resetOnError (h : Kin s me) (sid : Nat) (reason : Reason) :
    Kin s (me.resetOnError sid reason).1 := by
  have hn : Kin s { me with localErrorResets := me.localErrorResets + 1 } := h
  unfold Inner.resetOnError
  dsimp only
  split
  · exact h
  · split
    · exact hn.resetStream sid reason .library
    · split
      · exact hn.enqueueResetExpiration sid
      · exact hn

theorem acloseBody (h : Kin s me) (sid : Nat) : Kin s (me.acloseBody sid).1 := by
  unfold Inner.acloseBody
  dsimp only
  repeat' split
  all_goals first
    | exact h
    | exact (h.reclaimStreamAccounting sid).closeStream sid
    | exact h.resetStream sid _ _

theorem releaseDataFrame (h : Kin s me) (sid n : Nat) : Kin s (me.releaseDataFrame sid n) := by
  unfold Inner.releaseDataFrame
  dsimp only
  split
  · exact h
  · next he =>
    split
    · exact h
    · refine maybeRemoveSettled ?_ sid
      exact h.set he (.of_eq rfl rfl rfl)

theorem creditAll (h : Kin s me) (woken : List Nat) (batch : List (Nat × Nat)) :
    Kin s (me.creditAll woken batch).1 := by
  induction batch generalizing me woken with
  | nil => exact h
  | cons p batch ih =>
      unfold Inner.creditAll
      split
      · exact ih h woken
      · next e he =>
        have hs : Kin s (me.setStream p.1
            { e with sendBuffered := e.sendBuffered - p.2, turnFrames := 0 }) :=
          h.set he (.of_eq rfl rfl rfl)
        exact ih hs _

theorem fail (h : Kin s me) (exc : Option Err) (message : String) :
    Kin s (me.fail exc message).1 := by
  unfold Inner.fail failAll
  refine abortAll ?_ none _
  exact h

/-- **The calls that keep the windows.** -/
theorem call (h : Kin s me) (c : Call) (hc : ∀ sid n, c ≠ .releaseCapacity sid n) :
    Kin s (me.call c).1 := by
  cases c with
  | tryClaimSlot =>
      simp only [Inner.call, tryClaimSlot]
      split <;> exact h
  | openStream request eos isHead => exact h.openStream request eos isHead
  | sendData sid data offset eos => exact h.sendData sid data offset eos
  | sendTrailers sid trailers => exact h.sendTrailers sid trailers
  | sendResponseHead sid status fields eos date =>
      exact h.sendResponseHead sid status fields eos date
  | resetStream sid reason initiator => exact h.resetStream sid reason initiator
  | acloseBody sid => exact h.acloseBody sid
  | releaseCapacity sid n => exact absurd rfl (hc sid n)
  | releaseDataFrame sid n => exact h.releaseDataFrame sid n
  | creditWritten =>
      have hi : Kin s { me with inflightCredit := [] } := h
      exact hi.creditAll [] me.inflightCredit
  | nextCapacityWake => exact h.admitCapacityFront
  | fail exc message => exact h.fail exc message
  | beginGracefulShutdown =>
      simp only [Inner.call, beginGracefulShutdown]
      split <;> exact h
  | writerStart =>
      simp only [Inner.call, writerStart]
      split <;> exact h
  | _ => exact h

end Kin

end Inner

end Httpunk.H2
