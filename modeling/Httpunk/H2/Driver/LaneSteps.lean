import Httpunk.H2.Driver.Places

/-!
# H2 — Driver — LaneSteps

The frames and the calls of a connection keep its lanes, and the places in them.

* `Stays.dispatch`: so does every frame, but for the stream that it admits.
* `Stays.call`: so does every call, where the streams that end in a lane are excepted, and but for the
  stream that it moves or admits.
-/

namespace Httpunk.H2

namespace Inner

variable {s me : Inner} {sid : Nat} {e e' : StreamEntry} {x y : Nat → Prop}

namespace Stays

/-! ### Frames -/

theorem recvLookup (h : Stays x y s me) (sid : Nat) : Stays x y s (me.recvLookup sid).1 := by
  have hr := h.inResetStore sid
  unfold Inner.recvLookup
  dsimp only
  repeat' split
  all_goals first | exact h | exact hr | exact h.dropClosedStored sid

theorem rejectOversizeRequest (h : Stays x y s me) (sid : Nat) :
    Stays x y s (me.rejectOversizeRequest sid).1 := by
  unfold Inner.rejectOversizeRequest
  dsimp only
  split
  · exact h
  · next e he =>
    split
    · exact h
    · next st hst =>
      have hs := h.state he (State.sendOpen_later hst) fun _ hsend => by
        rw [StreamEntry.sends, State.sendOpen_isSendStreaming hst] at hsend
        cases hsend
      split
      · refine closeStream (enqueueResetExpiration ?_ sid) sid
        refine hs.state (AList.lookup_insert _) (.of_isClosed (by simp)) fun _ hsend => ?_
        have hover := (State.sendOpen_isSendClosed hst).2
        rw [StreamEntry.sends, State.isSendStreaming_of_isSendClosed hover] at hsend
        cases hsend
      · refine closeStream ?_ sid
        exact hs

theorem applyContentLength (h : Stays x y s me) (sid : Nat) (f : Headers) :
    Stays x y s (me.applyContentLength sid f).1 := by
  unfold Inner.applyContentLength
  dsimp only
  split
  · exact h
  · next he =>
    repeat' split
    all_goals first | exact h | exact h.set he (.same rfl rfl rfl rfl rfl)

theorem recvRequest (h : Stays x y s me) (frame : Headers) (spare : Bool) (before : Nat)
    (flags : Flags)
    (hn : ∀ e, me.streams.lookup frame.streamId = some e → e.placed = false)
    (ho : ∀ e, s.streams.lookup frame.streamId = some e → e.SendOver) :
    Stays x y s (me.recvRequest frame spare before flags).1 := by
  unfold Inner.recvRequest
  dsimp only
  split
  · exact h
  split
  · exact h
  split
  · exact h
  split
  · exact h
  split
  · exact h
  next st hst =>
  have hi : Stays x y s ({ me with lastRecvId := frame.streamId }.insertRequest frame.streamId st) :=
    h.insert hn ho ((StreamEntry.Goes.state (x := False) (State.recvOpen_later hst) fun hp => by cases hp).fit
      (StreamEntry.fit_new _ _ _)) rfl
  have hc := hi.applyContentLength frame.streamId frame
  split
  · next hr => rw [hr] at hc; exact hc
  · next hr =>
    rw [hr] at hc
    have ho := hc.rejectOversizeRequest frame.streamId
    repeat' split
    · next hr' => rw [hr'] at ho; exact ho
    · next hr' => rw [hr'] at ho; exact ho
    · exact hc

theorem recvHeadersUnknown (h : Stays x y s me) (frame : Headers) (spare : Bool) (before : Nat)
    (flags : Flags)
    (hn : ∀ e, me.streams.lookup frame.streamId = some e → e.placed = false)
    (ho : ∀ e, s.streams.lookup frame.streamId = some e → e.SendOver) :
    Stays x y s (me.recvHeadersUnknown frame spare before flags).1 := by
  have hr := h.inResetStore frame.streamId
  have hsame : (me.inResetStore frame.streamId).1.streams = me.streams := by
    unfold Inner.inResetStore
    split
    · rfl
    · split <;> rfl
  unfold Inner.recvHeadersUnknown
  dsimp only
  repeat' split
  all_goals first | exact hr | exact hr.recvRequest _ _ _ _ (hsame ▸ hn) ho

theorem recvHead (h : Stays x y s me) (frame : Headers) (before : Nat)
    (he : me.streams.lookup frame.streamId = some e) :
    Stays x y s (me.recvHead frame e before).1 := by
  unfold Inner.recvHead
  dsimp only
  split
  · exact h
  · split
    · exact h
    · next st hst =>
      have hc := (h.state he (State.recvOpen_later hst) fun _ hs =>
        .inr (State.recvOpen_isSendStreaming hst hs)).applyContentLength frame.streamId frame
      split
      · next hr => rw [hr] at hc; exact hc
      · next hr =>
        rw [hr] at hc
        repeat' split
        all_goals first | exact hc | exact hc.closeStream _

theorem recvTrailers (h : Stays x y s me) (frame : Headers) (before : Nat)
    (he : me.streams.lookup frame.streamId = some e) :
    Stays x y s (me.recvTrailers frame e before).1 := by
  unfold Inner.recvTrailers
  dsimp only
  split
  · exact h
  · split
    · exact h
    · next st hst =>
      have hs := h.state he (State.recvClose_later hst) fun _ hs =>
        .inr (State.recvClose_isSendStreaming hst hs)
      split
      · exact hs
      · exact hs.closeStream _

theorem recvHeaders (h : Stays x y me me) (frame : Headers) (spare : Bool) :
    Stays x y me (me.recvHeaders frame spare).1 := by
  have hd := h.dropClosedStored frame.streamId
  unfold Inner.recvHeaders
  dsimp only
  split
  · next hn =>
    have hnone : ∀ e, me.streams.lookup frame.streamId ≠ some e := fun e he => by
      rw [hn] at he
      cases he
    exact h.recvHeadersUnknown _ _ _ _ (fun e he => absurd he (hnone e))
      fun e he => absurd he (hnone e)
  · next e he =>
    split
    · exact h
    · split
      · next hc =>
        split
        · exact hd
        · have hclosed : ∀ a, me.streams.lookup frame.streamId = some a → a.state.isClosed = true := by
            intro a ha
            obtain rfl := Option.some.inj (he.symm.trans ha)
            exact hc
          refine hd.recvHeadersUnknown _ _ _ _ ?_ fun a ha =>
            StreamEntry.sendOver_of_isClosed (hclosed a ha)
          exact ((h.reclaimStreamAccounting frame.streamId).closeStream_gone frame.streamId).2
            (reclaimed_closed hclosed)
      · split
        · exact h.recvHead _ _ he
        · exact h.recvTrailers _ _ he

/-! ### DATA -/

theorem releaseCapacityInner (h : Stays x y s me) (sid n : Nat) :
    Stays x y s (me.releaseCapacityInner sid n) := by
  unfold Inner.releaseCapacityInner
  dsimp only
  split
  · exact h
  · next e he =>
    split
    · exact h
    · refine maybeRemoveSettled (reclaimConn ?_ n) sid
      repeat' split
      all_goals exact h.set he (.same rfl rfl rfl rfl rfl)

theorem recordDataFrame (h : Stays x y s me) (sid n : Nat) : Stays x y s (me.recordDataFrame sid n).1 := by
  unfold Inner.recordDataFrame
  split
  · exact h
  · dsimp only
    split
    · exact h
    · next he => exact h.set he (.same rfl rfl rfl rfl rfl)

theorem ignoreData (h : Stays x y s me) (n : Nat) : Stays x y s (me.ignoreData n).1 := by
  have hc : Stays x y s (me.consumeConnRecv n).1 := h
  unfold Inner.ignoreData
  split
  · next hr => rw [hr] at hc; exact hc
  · next hr => rw [hr] at hc; exact hc.reclaimConn n

/-- `recv_data` past the windows. -/
theorem deliverData (h : Stays x y s me) (frame : Data) (before : Nat)
    (he : me.streams.lookup frame.streamId = some e) {e' : StreamEntry} (hp : e.Goes (x frame.streamId) e') :
    Stays x y s (me.deliverData frame e' before).1 := by
  unfold Inner.deliverData
  dsimp only
  generalize hmd : (if frame.padding > 0 then
    (me.setStream frame.streamId { e' with
      recvUnreleased := (e'.recvUnreleased + frame.flowControlledLen) % 2 ^ 32
    }).releaseCapacityInner frame.streamId frame.padding
    else me.setStream frame.streamId { e' with
      recvUnreleased := (e'.recvUnreleased + frame.flowControlledLen) % 2 ^ 32 }) = m
  have hm : Stays x y s m := by
    have hs : Stays x y s (me.setStream frame.streamId { e' with
        recvUnreleased := (e'.recvUnreleased + frame.flowControlledLen) % 2 ^ 32 }) :=
      h.set he ⟨hp.send, hp.capacity, hp.turn, hp.finished, hp.later, hp.sending⟩
    rw [← hmd]
    split
    · exact hs.releaseCapacityInner _ _
    · exact hs
  have hc : Stays x y s (if !frame.endStream then
      m.recordDataFrame frame.streamId frame.data.length else (m, none)).1 := by
    split
    · exact hm.recordDataFrame _ _
    · exact hm
  split
  · next hr => rw [hr] at hc; exact hc
  · next hr =>
    rw [hr] at hc
    split
    · exact hc
    · split
      · split
        · exact hc
        · next e₁ h₁ =>
          split
          · exact hc
          · next st hst =>
            have hs := hc.state h₁ (State.recvClose_later hst) fun _ hs =>
              .inr (State.recvClose_isSendStreaming hst hs)
            exact hs.closeStream _
      · exact hc

theorem recvDataOn (h : Stays x y s me) (frame : Data) (before : Nat)
    (he : me.streams.lookup frame.streamId = some e) :
    Stays x y s (me.recvDataOn frame e before).1 := by
  have hc : Stays x y s (me.consumeConnRecv frame.flowControlledLen).1 := h
  have hl : (me.consumeConnRecv frame.flowControlledLen).1.streams.lookup frame.streamId =
      some e := he
  unfold Inner.recvDataOn
  dsimp only
  split
  · next hr => rw [hr] at hc; exact hc
  · next hr =>
    rw [hr] at hc hl
    split
    · refine reclaimConn ?_ _
      exact hc.set hl (.same rfl rfl rfl rfl rfl)
    · split
      · refine reclaimConn ?_ _
        exact hc.set hl (.same rfl rfl rfl rfl rfl)
      · split
        · refine reclaimConn ?_ _
          exact hc.set hl (.same rfl rfl rfl rfl rfl)
        · exact hc.deliverData frame before hl (.same rfl rfl rfl rfl rfl)

theorem recvData (h : Stays x y s me) (frame : Data) : Stays x y s (me.recvData frame).1 := by
  have hl := h.recvLookup frame.streamId
  unfold Inner.recvData
  dsimp only
  split
  · next hr =>
    rw [hr] at hl
    have hi := hl.ignoreData frame.flowControlledLen
    split <;> (next hr' => rw [hr'] at hi; exact hi)
  · next hr =>
    rw [hr] at hl
    have hi := hl.ignoreData frame.flowControlledLen
    split <;> (next hr' => rw [hr'] at hi; exact hi)
  · next sid hr =>
    rw [hr] at hl
    split
    · exact hl
    · next e he =>
      split
      · exact hl
      · obtain ⟨-, rfl, -⟩ := recvLookup_found hr
        exact hl.recvDataOn frame _ he

/-! ### The other frames -/

theorem recvWindowUpdate (h : Stays x y s me) (frame : WindowUpdate)
    (hy : ∀ sid, Admitted me (me.recvWindowUpdate frame).1 sid → y sid) :
    Stays x y s (me.recvWindowUpdate frame).1 := by
  unfold Inner.recvWindowUpdate at hy ⊢
  dsimp only at hy ⊢
  split
  · next hconn =>
    rw [if_pos hconn] at hy
    split
    · exact h
    · next fc hfc =>
      rw [hfc] at hy
      have hc : Stays x y s { me with connSend := fc } := h
      exact (hc.admitCapacityFront hy).sendFront
  · split
    · repeat' split
      all_goals exact h
    · next e he =>
      split
      all_goals exact h.set he (.same rfl rfl rfl rfl rfl)

theorem recvResetOn (h : Stays x y s me) (frame : RstStream)
    (he : me.streams.lookup frame.streamId = some e) : Stays x y s (me.recvResetOn frame e).1 := by
  unfold Inner.recvResetOn
  dsimp only
  split
  · exact h
  · exact h.reclaims he (State.isClosed_recvReset _ _ _) ⟨rfl, rfl, rfl⟩

theorem recvReset (h : Stays x y s me) (frame : RstStream) : Stays x y s (me.recvReset frame).1 := by
  unfold Inner.recvReset
  dsimp only
  split
  · exact h
  · split
    · repeat' split
      all_goals exact h
    · next he =>
      have hm : ∀ m, Stays x y s { me with remoteResetPending := m } := fun _ => h
      repeat' split
      · exact h
      · exact (hm _).recvResetOn frame he
      · exact h.recvResetOn frame he

theorem applyRemoteLimits (h : Stays x y s me) (v : SettingsValues) :
    Stays x y s (me.applyRemoteLimits v).1 := by
  have hh : ∀ n, Stays x y s (me.applyHeaderTable n) := fun n => by cases n <;> exact h
  have hf : ∀ {m : Inner} n, Stays x y s m → Stays x y s (m.applyMaxFrame n).1 := fun {m} n hm => by
    unfold applyMaxFrame
    repeat' split
    all_goals exact hm
  have hs : ∀ {m : Inner} n, Stays x y s m → Stays x y s (m.applyMaxStreams n).1 := fun {m} n hm => by
    unfold applyMaxStreams
    dsimp only
    split
    · exact hm
    · split <;> exact hm
  have hb := hf v.maxFrameSize (hh v.headerTableSize)
  unfold Inner.applyRemoteLimits
  split
  · next hr => rw [hr] at hb; exact hb
  · next hr => rw [hr] at hb; exact hs _ hb

/-- The windows of the streams change, and their places do not. -/
theorem scan (h : Stays x y s me) {f : Nat → StreamEntry → StreamEntry × Option Err}
    (hf : ∀ (k : Nat) (e : StreamEntry), e.Goes (x k) (f k e).1) :
    Stays x y s { me with streams := (Store.scan f me.streams).1 } := by
  have hfrom : ∀ k a, (Store.scan f me.streams).1.lookup k = some a →
      ∃ e, me.streams.lookup k = some e ∧ e.Goes (x k) a := by
    intro k a ha
    obtain ⟨e, he, rfl | rfl⟩ := Store.lookup_scan ha
    · exact ⟨e, he, hf k e⟩
    · exact ⟨_, he, .same rfl rfl rfl rfl rfl⟩
  have hto : ∀ k e, me.streams.lookup k = some e →
      ∃ a, (Store.scan f me.streams).1.lookup k = some a ∧ e.Goes (x k) a := by
    intro k e he
    have hmem : k ∈ (Store.scanEntries f me.streams.entries).1.keys := by
      rw [Store.keys_scanEntries]
      exact Store.mem_of_lookup he
    obtain ⟨a, ha⟩ : ∃ a, (Store.scan f me.streams).1.lookup k = some a := Store.lookup_of_mem hmem
    obtain ⟨e', he', hg⟩ := hfrom k a ha
    rw [he] at he'
    cases he'
    exact ⟨a, ha, hg⟩
  have hm : Lanes x { me with streams := (Store.scan f me.streams).1 } := by
    refine ⟨h.send.carry (fun k e he hp => ?_) fun k a ha hp hs => ?_,
      h.capacity.carry (fun k e he hp => ?_) fun k a ha hp hs => ?_, fun k a ha => ?_,
      fun k a ha hp => ?_⟩
    · obtain ⟨a, ha, hg⟩ := hto k e he
      exact ⟨a, ha, hg.send.trans hp⟩
    · obtain ⟨e, he, hg⟩ := hfrom k a ha
      have hpe : e.isPendingSend = true := hg.send.symm.trans hp
      exact ⟨e, he, hpe, hg.sent (h.fits k e he) (StreamEntry.placed_of_send hpe) hs⟩
    · obtain ⟨a, ha, hg⟩ := hto k e he
      exact ⟨a, ha, hg.capacity.trans hp⟩
    · obtain ⟨e, he, hg⟩ := hfrom k a ha
      have hpe : e.isPendingCapacity = true := hg.capacity.symm.trans hp
      exact ⟨e, he, hpe, hg.sent (h.fits k e he) (StreamEntry.placed_of_capacity hpe) hs⟩
    · obtain ⟨e, he, hg⟩ := hfrom k a ha
      exact hg.fit (h.fits k e he)
    · obtain ⟨e, he, hg⟩ := hfrom k a ha
      rw [hg.placed] at hp
      rcases h.whole k e he hp with hx | hs
      · exact .inl hx
      · exact hg.sending hp hs
  refine { hm with stood := h.stood.restore fun k a ha => ?_, order := h.order.carry ?_ }
  · obtain ⟨e, he, hg⟩ := hfrom k a ha
    exact .inr (.inr ⟨e, he, hg.samePlaces⟩)
  · intro k a _ ha hp hs
    obtain ⟨e, he, hg⟩ := hfrom k a ha
    have hpe : e.isPendingCapacity = true := hg.capacity.symm.trans hp
    exact ⟨e, he, hpe, hg.sent (h.fits k e he) (StreamEntry.placed_of_capacity hpe) hs⟩

theorem resizeSend_goes {y : Prop} (old new sid : Nat) (e : StreamEntry) :
    e.Goes y (resizeSend old new sid e).1 := by
  unfold resizeSend
  split <;> exact .same rfl rfl rfl rfl rfl

theorem applyInitialWindow (h : Stays x y s me) (new : Nat) :
    Stays x y s (me.applyInitialWindow new).1 := by
  have hs : Stays x y s { me with
      peer := { me.peer with initialWindowSize := new }
      streams := (Store.scan (resizeSend me.peer.initialWindowSize new) me.streams).1 } :=
    h.scan fun k e => resizeSend_goes _ _ k e
  unfold Inner.applyInitialWindow
  dsimp only
  repeat' split
  all_goals first | exact h | exact hs

theorem applyRemoteSettings (h : Stays x y s me) (v : SettingsValues) :
    Stays x y s (me.applyRemoteSettings v).1 := by
  have hl := h.applyRemoteLimits v
  unfold Inner.applyRemoteSettings
  split
  · next hr => rw [hr] at hl; exact hl
  · next hr =>
    rw [hr] at hl
    split
    · exact hl
    · next new _ =>
      have hw := hl.applyInitialWindow new
      split
      · next hr' => rw [hr'] at hw; exact hw
      · next hr' => rw [hr'] at hw; exact hw

theorem recvPing (h : Stays x y s me) (frame : Ping) : Stays x y s (me.recvPing frame).1 := by
  unfold Inner.recvPing
  dsimp only
  repeat' split
  all_goals exact h

theorem recvGoAway (h : Stays x y s me) (frame : GoAway) : Stays x y s (me.recvGoAway frame).1 := by
  unfold Inner.recvGoAway
  dsimp only
  split
  · exact h
  · split
    · exact h
    · have hg : Stays x y s { me with
          goawayLastId := some frame.lastStreamId
          goaway := some ⟨frame.lastStreamId, frame.errorCode, frame.debugData⟩ } := h
      exact hg.abortAll _ _

theorem applyLocalSettings (h : Stays x y s me) : Stays x y s me.applyLocalSettings.1 := by
  have hresize : ∀ (old target k : Nat) (e : StreamEntry), e.Goes (x k) (resizeRecv old target k e).1 :=
    fun _ _ _ _ => .same rfl rfl rfl rfl rfl
  unfold Inner.applyLocalSettings
  split
  · exact h
  · next l _ =>
    dsimp only
    split
    · exact h
    · next target _ =>
      split
      · exact h
      · have hi : Stays x y s { me with limits := l, recvInit := target } := h
        exact hi.scan (hresize me.recvInit target)

theorem recvSettings (h : Stays x y s me) (frame : SettingsFrame) :
    Stays x y s (me.recvSettings frame).1 := by
  unfold Inner.recvSettings
  dsimp only
  split
  · split
    · exact h
    · next settings hs =>
      have hi : Stays x y s { me with settings := settings } := h
      have hl := hi.applyLocalSettings
      split
      · next hr => rw [hr] at hl; exact hl
      · next hr => rw [hr] at hl; exact hl
  · have hi : Stays x y s { me.emit .settingsAck with settings := (me.settings.recvRemote).1 } := h
    have hr := hi.applyRemoteSettings frame.values
    split
    · next h' => rw [h'] at hr; exact hr
    · next h' => rw [h'] at hr; exact hr

/-- **Every frame keeps the lanes**, and the places but of a stream that it admits. -/
theorem dispatch (h : Stays x y me me) (f : Frame)
    (hy : ∀ sid, Admitted me (me.dispatch f).1 sid → y sid) : Stays x y me (me.dispatch f).1 := by
  cases f with
  | headers f => exact h.recvHeaders f _
  | data f => exact h.recvData f
  | windowUpdate f => exact h.recvWindowUpdate f hy
  | settings f => exact h.recvSettings f
  | ping f => exact h.recvPing f
  | goAway f => exact h.recvGoAway f
  | rstStream f => exact h.recvReset f
  | priority => exact h
  | streamError sid code e => exact h

end Stays

/-! ### DATA -/

theorem lookup_leaveWaiting (he : me.streams.lookup sid = some e) :
    ∃ a, (me.leaveWaiting sid e).streams.lookup sid = some a ∧ a.isPendingCapacity = false ∧
      a.isPendingSend = e.isPendingSend ∧ a.state = e.state := by
  unfold leaveWaiting
  split
  · exact ⟨_, AList.lookup_insert _, rfl, rfl, rfl⟩
  · next hf => exact ⟨e, he, Bool.eq_false_iff.mpr hf, rfl, rfl⟩

namespace Stays

theorem sendEmpty (h : Stays x y s me) (he : me.streams.lookup sid = some e) (endStream : Bool)
    (hx : endStream = true → e.placed = true → x sid) :
    Stays x y s (me.sendEmpty sid e endStream).1 := by
  unfold Inner.sendEmpty
  dsimp only
  split
  · next hend =>
    split
    · exact h
    · next st hst =>
      have hs : Stays x y s ((me.emit (.data sid [] endStream)).setStream sid { e with state := st }) :=
        h.state he (State.sendClose_later hst) fun hp _ => .inl (hx hend hp)
      exact hs.finishStream sid
  · exact h

theorem queueData (h : Stays x y s me) (chunk : Bytes) {last : Bool} (done : Bool) (before : Nat)
    (flags : Flags)
    (hx : last = true → ∀ e, me.streams.lookup sid = some e → e.placed = true → x sid) :
    Stays x y s (me.queueData sid chunk last done before flags).1 := by
  unfold Inner.queueData
  dsimp only
  split
  · exact h
  · split
    · next hlast =>
      split
      · exact h
      · next e he =>
        split
        · exact h
        · next st hst =>
          refine finishStream ?_ sid
          exact h.state he (State.sendClose_later hst) fun hp _ => .inl (hx hlast e he hp)
    · exact h

/-- The frame is framed: the stream leaves the rotation, or lines up, or stays. -/
theorem afterFrame (h : Stays x y s me) (he : me.streams.lookup sid = some e) (hs : e.sends = true)
    (hy : y sid) (n want : Nat) : Stays x y s (me.afterFrame sid e n want).1 := by
  unfold Inner.afterFrame
  repeat' split
  · exact h.leaveSendQueue hy
  · exact h.lineUp he hs hy
  · exact h.leaveSendQueue hy
  · exact h

theorem frameData (h : Stays x y s me) (he : me.streams.lookup sid = some e) (hs : e.sends = true)
    (hf : e.isPendingSend = true) (hy : y sid) (data : Bytes) (offset : Nat) (endStream : Bool)
    (budget before : Nat) :
    Stays x y s (me.frameData sid e data offset endStream budget before).1 := by
  unfold Inner.frameData
  dsimp only
  split
  · exact h
  · split
    · exact h.set he (.same rfl rfl rfl rfl rfl)
    · next _ conn _ _ fc _ =>
      have hput : Stays x y s ({ me with connSend := conn }.setStream sid { e with
          sendFlow := fc
          sendBuffered := e.sendBuffered +
            min (min budget (data.length - offset)) me.peer.maxFrameSize
          turnFrames := e.turnFrames + 1 }) :=
        h.set he ⟨rfl, rfl, .inl hf, rfl, .refl _, fun _ hsend => .inr hsend⟩
      refine (hput.afterFrame (AList.lookup_insert _) hs hy _ _).queueData _ _ _ _ fun hlast a ha hp => ?_
      -- the last frame ends its chunk, so its stream has left the rotation
      rw [Bool.and_eq_true, beq_iff_eq] at hlast
      unfold Inner.afterFrame at ha
      rw [if_pos hlast.2, lookup_leaveSendQueue, if_pos rfl] at ha
      obtain ⟨b, hb, rfl⟩ := Option.map_eq_some_iff.mp ha
      have hbs : b.isPendingSend = true := by
        obtain rfl := Option.some.inj ((AList.lookup_insert _).symm.trans hb)
        exact hf
      rw [if_pos hbs, StreamEntry.placed, Bool.false_or] at hp
      rw [show b.isPendingCapacity = false from (hput.fits sid b hb).one hbs] at hp
      cases hp

theorem sendTurn (h : Stays x y s me)
    (hf : ∃ e, me.streams.lookup sid = some e ∧ e.isPendingSend = true ∧ e.sends = true)
    (hy : y sid) (data : Bytes) (offset : Nat) (endStream : Bool) (budget before : Nat) :
    Stays x y s (me.sendTurn sid data offset endStream budget before).1 := by
  obtain ⟨e, he, hf, hs⟩ := hf
  unfold Inner.sendTurn
  rw [he]
  dsimp only
  repeat' split
  · exact h.yieldSendTurn sid
  · exact h
  · exact h.frameData he hs hf hy _ _ _ _ _

theorem sendChunk (h : Stays x y s me) (he : me.streams.lookup sid = some e) (hs : e.sends = true)
    (hy : (e.isPendingCapacity = true → 0 < me.streamRoom e ∧ 0 < me.connSend.size) → y sid)
    (data : Bytes) (offset : Nat) (endStream : Bool) :
    Stays x y s (me.sendChunk sid e data offset endStream).1 := by
  unfold Inner.sendChunk
  dsimp only
  split
  · next hnone =>
    by_cases hc : e.isPendingCapacity = true
    · -- it waits in the line already, and goes on waiting
      have hf : e.isPendingSend = false := by
        rw [← Bool.not_eq_true]
        intro hf
        rw [(h.fits sid e he).one hf] at hc
        cases hc
      have hline : me.enqueueCapacity sid = me := by
        unfold Inner.enqueueCapacity
        rw [he]
        dsimp only
        rw [if_pos hc]
      have hleave : (me.leaveSendQueue sid).1 = me := by
        unfold Inner.leaveSendQueue
        rw [he]
        dsimp only
        rw [hf]
        rfl
      rw [hline, ite_self, hleave]
      exact h
    · have hy' := hy fun hc' => absurd hc' hc
      split
      · exact h.lineUp he hs hy'
      · exact h.leaveSendQueue hy'
  · next hsome =>
    have hy' := hy fun _ => lt_min_iff.mp (Nat.pos_of_ne_zero hsome)
    have hw : Stays x y s (me.leaveWaiting sid e).sendFront.1 := (h.leaveWaiting he hy').sendFront
    obtain ⟨a, ha, hac, -, hst⟩ := lookup_leaveWaiting he
    have has : a.sends = true := by rw [StreamEntry.sends, hst]; exact hs
    have hfronted : (me.leaveWaiting sid e).sendFront.1.streams.lookup sid = some a := ha
    have hentry : ∀ b, (me.leaveWaiting sid e).sendFront.1.streams.lookup sid = some b →
        b.isPendingCapacity = false ∧ b.sends = true := by
      intro b hb
      obtain rfl := Option.some.inj (hfronted.symm.trans hb)
      exact ⟨hac, has⟩
    split
    · next f hfront =>
      split
      · exact hw.enqueueSend hentry hy'
      · next hne =>
        rw [ne_eq, not_not] at hne
        subst hne
        exact hw.sendTurn ((h.leaveWaiting he hy').lanes.sendQueue_head hfront) hy' _ _ _ _ _
    · obtain ⟨b, hb, hbf, -, hbst⟩ := lookup_enqueueSend hfronted
      have hbs : b.sends = true := by rw [StreamEntry.sends, hbst]; exact has
      exact (hw.enqueueSend hentry hy').sendTurn ⟨b, hb, hbf, hbs⟩ hy' _ _ _ _ _

end Stays

/-- The stream that a call of `send_data` moves.  With nothing to send it moves none, nor one that
waits in the line and finds no window. -/
def moved (me : Inner) : Call → Option Nat
  | .sendData sid data _ _ =>
    if data.isEmpty then none
    else match me.streams.lookup sid with
      | none => none
      | some e =>
        if e.isPendingCapacity && !(0 < me.streamRoom e && 0 < me.connSend.size) then none
        else some sid
  | _ => none

namespace Stays

/-- `send_data` keeps the lanes, where a stream that it ends in a lane is excepted. -/
theorem sendData (h : Stays x y s me) (data : Bytes) (offset : Nat) (endStream : Bool)
    (hx : data = [] → endStream = true → ∀ e, me.streams.lookup sid = some e → e.placed = true →
      x sid)
    (hy : me.moved (.sendData sid data offset endStream) = some sid → y sid) :
    Stays x y s (me.sendData sid data offset endStream).1 := by
  unfold Inner.sendData
  split
  · exact h
  · next e he =>
    split
    · exact h
    · next hs =>
      rw [Bool.not_eq_true', Bool.not_eq_false] at hs
      split
      · next hempty =>
        exact h.sendEmpty he endStream fun hend hp => hx (List.isEmpty_iff.mp hempty) hend e he hp
      · next hempty =>
        refine h.sendChunk he hs (fun hready => hy ?_) data offset endStream
        unfold moved
        dsimp only
        rw [if_neg hempty, he]
        dsimp only
        rw [if_neg]
        intro hwait
        rw [Bool.and_eq_true, Bool.not_eq_true', Bool.and_eq_false_iff, decide_eq_false_iff_not,
          decide_eq_false_iff_not] at hwait
        obtain ⟨hroom, hconn⟩ := hready hwait.1
        exact hwait.2.elim (fun hn => hn hroom) fun hn => hn hconn

/-! ### The other calls -/

theorem sendTrailers (h : Stays x y s me) (trailers : Fields)
    (hx : ∀ e, me.streams.lookup sid = some e → e.placed = true → x sid) :
    Stays x y s (me.sendTrailers sid trailers).1 := by
  unfold Inner.sendTrailers
  dsimp only
  split
  · exact h
  · next e he =>
    split
    · exact h
    · split
      · exact h
      · next st hst =>
        refine finishStream ?_ sid
        exact h.state he (State.sendClose_later hst) fun hp _ => .inl (hx e he hp)

theorem sendResponseHead (h : Stays x y s me) (sid status : Nat) (fields : Fields)
    (endStream : Bool) (date : String) :
    Stays x y s (me.sendResponseHead sid status fields endStream date).1 := by
  unfold Inner.sendResponseHead
  dsimp only
  split
  · exact h
  split
  · exact h
  next e he =>
  split
  · exact h
  split
  · exact h
  split
  · exact h
  next st hst =>
  have hs := h.state he (State.sendOpen_later hst) fun _ hsend => by
    rw [StreamEntry.sends, State.sendOpen_isSendStreaming hst] at hsend
    cases hsend
  split
  · refine finishStream ?_ sid
    exact hs
  · exact hs

theorem openStream (h : Stays x y s me) (request : Except Err Block) (endStream isHead : Bool)
    (hn : me.streams.lookup me.nextId = none) (hs : s.streams.lookup me.nextId = none) :
    Stays x y s (me.openStream request endStream isHead).1 := by
  unfold Inner.openStream
  split
  · exact h
  split
  · exact h
  split
  · exact h
  split
  · exact h
  · next st hst =>
    refine h.insert (fun e he => ?_) (fun e he => ?_) ?_ rfl
    · rw [hn] at he
      cases he
    · rw [hs] at he
      cases he
    · have hnew := StreamEntry.fit_new me.peer.initialWindowSize me.recvInit isHead
      exact ⟨fun hp => (by cases hp), fun hp => (by cases hp), hnew.counted, fun hg => by cases hg⟩

theorem resetOnError (h : Stays x y s me) (sid : Nat) (reason : Reason) :
    Stays x y s (me.resetOnError sid reason).1 := by
  have hn : Stays x y s { me with localErrorResets := me.localErrorResets + 1 } := h
  unfold Inner.resetOnError
  dsimp only
  split
  · exact h
  · split
    · exact hn.resetStream sid reason .library
    · split
      · exact hn.enqueueResetExpiration sid
      · exact hn

theorem acloseBody (h : Stays x y s me) (sid : Nat) : Stays x y s (me.acloseBody sid).1 := by
  unfold Inner.acloseBody
  dsimp only
  repeat' split
  all_goals first
    | exact h
    | exact (h.reclaimStreamAccounting sid).closeStream sid
    | exact h.resetStream sid _ _

theorem releaseDataFrame (h : Stays x y s me) (sid n : Nat) : Stays x y s (me.releaseDataFrame sid n) := by
  unfold Inner.releaseDataFrame
  dsimp only
  split
  · exact h
  · next he =>
    split
    · exact h
    · refine maybeRemoveSettled ?_ sid
      exact h.set he (.same rfl rfl rfl rfl rfl)

theorem creditAll (h : Stays x y s me) (woken : List Nat) (batch : List (Nat × Nat)) :
    Stays x y s (me.creditAll woken batch).1 := by
  induction batch generalizing me woken with
  | nil => exact h
  | cons p batch ih =>
      unfold Inner.creditAll
      split
      · exact ih h woken
      · next e he =>
        have hs : Stays x y s (me.setStream p.1
            { e with sendBuffered := e.sendBuffered - p.2, turnFrames := 0 }) :=
          h.set he ⟨rfl, rfl, .inr (.inr rfl), rfl, .refl _, fun _ hsend => .inr hsend⟩
        exact ih hs _

theorem fail (h : Stays x y s me) (exc : Option Err) (message : String) :
    Stays x y s (me.fail exc message).1 := by
  unfold Inner.fail failAll
  refine abortAll ?_ none _
  exact h

end Stays

/-- The call ends the sending of the stream: with trailers, or with an empty DATA frame. -/
def endsSending (sid : Nat) : Call → Bool
  | .sendTrailers k _ => k = sid
  | .sendData k data _ endStream => k = sid && data.isEmpty && endStream
  | _ => false

namespace Stays

/-- **Every call keeps the lanes**, where a stream whose sending it ends has no place in one, or is
excepted, and the places but of a stream that it moves or admits. -/
theorem call (h : Stays x y me me) (hw : me.Wf) (c : Call)
    (hopen : ∀ request endStream isHead, c = .openStream request endStream isHead →
      me.role = .client)
    (hx : ∀ sid, endsSending sid c = true → ∀ e, me.streams.lookup sid = some e →
      e.placed = true → x sid)
    (hy : ∀ sid, me.moved c = some sid ∨ Admitted me (me.call c).1 sid → y sid) :
    Stays x y me (me.call c).1 := by
  cases c with
  | tryClaimSlot =>
    unfold Inner.call Inner.tryClaimSlot
    dsimp only
    split <;> exact h
  | openStream request eos isHead =>
    have hn : me.streams.lookup me.nextId = none := by
      rw [← Option.not_isSome_iff_eq_none, Option.isSome_iff_exists]
      rintro ⟨e, he⟩
      have hused := hw.used he
      unfold Used at hused
      rw [hopen request eos isHead rfl] at hused
      exact Nat.lt_irrefl _ hused
    exact h.openStream request eos isHead hn hn
  | sendData sid data offset eos =>
    refine h.sendData data offset eos (fun hd hend => hx sid ?_) fun hm => hy sid (.inl hm)
    rw [endsSending, hd, hend]
    simp
  | sendTrailers sid trailers => exact h.sendTrailers trailers (hx sid (decide_eq_true rfl))
  | sendResponseHead sid status fields eos date => exact h.sendResponseHead sid status fields eos date
  | resetStream sid reason initiator => exact h.resetStream sid reason initiator
  | acloseBody sid => exact h.acloseBody sid
  | releaseCapacity sid n => exact h.releaseCapacityInner sid n
  | releaseDataFrame sid n => exact h.releaseDataFrame sid n
  | creditWritten =>
    have hc : Stays x y me { me with inflightCredit := [] } := h
    exact hc.creditAll _ _
  | nextCapacityWake => exact (h.admitCapacityFront fun sid ha => hy sid (.inr ha)).sendFront
  | fail exc message => exact h.fail exc message
  | writerStart =>
    unfold Inner.call Inner.writerStart
    dsimp only
    split <;> exact h
  | beginGracefulShutdown =>
    unfold Inner.call Inner.beginGracefulShutdown
    dsimp only
    split <;> exact h
  | _ => exact h

end Stays

end Inner

namespace Sys

variable {σ σ' : Sys} {a : Action} {x y : Nat → Prop}

/-- The stream that the step moves by a `send_data`. -/
def moved (σ : Sys) : Action → Option Nat
  | .call c => σ.inner.moved c
  | _ => none

/-- **Each step keeps the lanes**, where a stream whose sending it ends has no place in one, or is
excepted, and the places but of a stream that it moves or admits. -/
theorem step_stays (h : σ.Ok) (hl : σ.inner.Lanes x) (hs : Step σ a σ')
    (hx : ∀ c, a = .call c → ∀ sid, Inner.endsSending sid c = true →
      ∀ e, σ.inner.streams.lookup sid = some e → e.placed = true → x sid)
    (hy : ∀ sid, σ.moved a = some sid ∨ Inner.Admitted σ.inner σ'.inner sid → y sid) :
    Inner.Stays x y σ.inner σ'.inner := by
  have hr := Inner.Stays.refl y hl
  unfold Step step at hs
  cases a with
  | recv f =>
      have hd := hr.dispatch f
      dsimp only at hs
      split at hs
      · cases hs
        unfold recv at hy ⊢
        dsimp only at hy ⊢
        split
        · next hok =>
          rw [hok] at hy
          exact hd fun sid ha => hy sid (.inr ha)
        · next hok =>
          rw [hok] at hy
          exact hd fun sid ha => hy sid (.inr ha)
      · cases hs
  | raised e =>
      dsimp only at hs
      split at hs <;> cases hs
      exact hr
  | pump =>
      dsimp only at hs
      unfold pumpStep at hs
      split at hs
      · next sid reason _ =>
        have hreset := hr.resetOnError sid reason
        dsimp only at hs
        split at hs <;> cases hs <;> exact hreset
      · cases hs
        exact hr
      · next e _ =>
        cases hs
        exact hr.fail (some e) ""
      · cases hs
      · cases hs
  | reply =>
      dsimp only at hs
      split at hs <;> cases hs
      exact hr.maybeGoawayReply
  | call c =>
      dsimp only at hs
      split at hs
      · next hallowed =>
        cases hs
        refine hr.call h.wf c ?_ (hx c rfl) hy
        rintro request endStream isHead rfl
        simpa [allowed] using hallowed
      · cases hs
  | flush =>
      cases hs
      exact hr
  | tick d =>
      cases hs
      exact hr
  | rehash m =>
      dsimp only at hs
      split at hs
      · next hm =>
        cases hs
        exact hr.rehash hm
      · cases hs

/-- Each step keeps the lanes, whatever becomes of the places in them. -/
theorem step_lanes (h : σ.Ok) (hl : σ.inner.Lanes x) (hs : Step σ a σ')
    (hx : ∀ c, a = .call c → ∀ sid, Inner.endsSending sid c = true →
      ∀ e, σ.inner.streams.lookup sid = some e → e.placed = true → x sid) : σ'.inner.Lanes x :=
  (step_stays (y := fun _ => True) h hl hs hx fun _ _ => trivial).lanes

end Sys

end Httpunk.H2
