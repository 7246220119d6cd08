import Httpunk.H2.Driver.Terms
import Httpunk.H2.Safety.Serving

/-!
# H2 — Safety — Wakes

What was queued is flagged.  Every verdict of a call that queued a frame asks for the write pump
to be woken; a call that queued one and then raised leaves the stream it raised the error of in
a state in which the error reset queues a frame of its own.

* `Woken`: nothing was queued, or the flags say so.
* `Inner.Hearing`: a stream that is not stored, or can still receive.
* `dispatch_answered`, `call_woken`, `resetOnError_woken`: what each entry point answers.
-/

namespace Httpunk.H2

open Runs (Reach)
open Httpunk.H2.Inner

/-- Nothing was queued between the two states, or the flags ask for the write pump. -/
def Woken (me s : Inner) (flags : Flags) : Prop :=
  s.pending.length ≤ me.pending.length ∨ flags.wake = true

/-- The stream is not stored, or it can still receive. -/
def Inner.Hearing (me : Inner) (k : Nat) : Prop :=
  ∀ e, me.streams.lookup k = some e → e.state.recvDone = false

/-- What was queued before the error was raised goes out with what answers the error. -/
def Excused (me s : Inner) (err : Err) : Prop :=
  s.pending.length ≤ me.pending.length ∨ err.ofConn = true ∨
    ∃ sid code, err = streamErr sid code ∧ s.Hearing sid

variable {s s' me : Inner} {m : Mark} {extra : Mark → Prop} {sid k before : Nat}
  {e e' : StreamEntry} {flags : Flags}

@[simp] theorem Flags.or_wake (a b : Flags) : (a ||| b).wake = (a.wake || b.wake) := rfl

/-- A verdict with the wake flag of the call. -/
theorem Woken.of_wakeFlag (me s : Inner) (flags : Flags) :
    Woken me s (flags ||| s.wakeFlag me.pending.length) := by
  unfold Woken wakeFlag
  split
  · exact .inr (by simp)
  · exact .inl (by omega)

theorem Woken.wakeFlag (me s : Inner) : Woken me s (s.wakeFlag me.pending.length) := by
  unfold Woken Inner.wakeFlag
  split
  · exact .inr rfl
  · exact .inl (by omega)

theorem Woken.or_left (h : Woken me s flags) (f : Flags) : Woken me s (flags ||| f) :=
  h.imp id fun h => by rw [Flags.or_wake, h, Bool.true_or]

theorem Woken.or_right (h : Woken me s flags) (f : Flags) : Woken me s (f ||| flags) :=
  h.imp id fun h => by rw [Flags.or_wake, h, Bool.or_true]

theorem Woken.same (h : s.pending = me.pending) : Woken me s flags := .inl (by rw [h])

/-! ### A stream that can still receive -/

theorem Touch.hearing (t : Touch s m s') (h : s.Hearing k) (hm : m ≠ .ends k)
    (ho : m ≠ .opened k) : s'.Hearing k := by
  intro e' he
  rcases t.entry he with ⟨e, hk, hv⟩ | ⟨rfl | rfl, -⟩
  · rw [hv.recvDone hm]
    exact h e hk
  · exact absurd rfl ho
  · cases t with
    | requested _ _ hc =>
        rcases lookup_setStream_cases he with ⟨-, rfl⟩ | ⟨hne, -⟩
        · exact hc
        · exact absurd rfl hne

theorem Touches.hearing (r : Touches extra s s') (h : s.Hearing k)
    (hm : ∀ m, extra m → m ≠ .ends k ∧ m ≠ .opened k) : s'.Hearing k := by
  refine Reach.invariant (I := fun t : Inner => t.Hearing k) r h fun {s m s'} hs t hk => ?_
  have hne : m ≠ .ends k ∧ m ≠ .opened k := by
    rcases hk with hk | hk
    · constructor <;> rintro rfl <;> cases hk
    · exact hm m hk
  exact t.hearing hs hne.1 hne.2

theorem Still.hearing (h : Still s s') (hs : s.Hearing k) : s'.Hearing k :=
  Touches.hearing (@Touches.still Mark.nothing _ _ h) hs fun _ hm => hm.elim

namespace Inner

theorem hearing_of_none (h : me.streams.lookup k = none) : me.Hearing k := fun e he => by
  rw [h] at he
  cases he

/-! ### Closing a stream -/

@[simp] theorem pending_inResetStore (me : Inner) (sid : Nat) :
    (me.inResetStore sid).1.pending = me.pending := by
  unfold inResetStore
  split
  · rfl
  · split <;> rfl

@[simp] theorem pending_enqueueResetExpiration (me : Inner) (sid : Nat) :
    (me.enqueueResetExpiration sid).pending = me.pending := by
  unfold enqueueResetExpiration
  dsimp only
  split <;> rfl

theorem pending_applyContentLength {f : Headers} {r : Option Err}
    (h : me.applyContentLength sid f = (s, r)) : s.pending = me.pending := by
  rw [← show (me.applyContentLength sid f).1 = s from congrArg Prod.fst h]
  unfold applyContentLength
  dsimp only
  repeat' split
  all_goals rfl

/-- The reply to the peer's GOAWAY is flagged. -/
theorem maybeGoawayReply_woken (me : Inner) :
    Woken me me.maybeGoawayReply.1 me.maybeGoawayReply.2 := by
  unfold maybeGoawayReply
  split
  · exact .inr rfl
  · exact .inl (Nat.le_refl _)

theorem closeStream_woken (me : Inner) (sid : Nat) :
    Woken me (me.closeStream sid).1 (me.closeStream sid).2 := by
  unfold closeStream
  split
  · exact .same rfl
  · next e he =>
    split
    · exact .same rfl
    · have hq : (((me.finishEntry sid e).leaveSendQueue sid).1.leaveCapacityQueue sid).1.pending =
          me.pending :=
        ((leaveSendQueue_alike _ sid).trans (leaveCapacityQueue_alike _ sid)).pending
      dsimp only
      refine Woken.or_right (Woken.or_right ?_ _) _
      generalize hm : (if (e.recvUnreleased == 0 && e.dataBudgetCharged == 0) = true then
        { (((me.finishEntry sid e).leaveSendQueue sid).1.leaveCapacityQueue sid).1 with
          streams := (((me.finishEntry sid e).leaveSendQueue
            sid).1.leaveCapacityQueue sid).1.streams.erase sid }
        else (((me.finishEntry sid e).leaveSendQueue sid).1.leaveCapacityQueue sid).1) = m
      have hmp : m.pending = me.pending := by
        rw [← hm]
        split <;> exact hq
      have hw := maybeGoawayReply_woken m
      exact hw.imp (fun h => by rw [← hmp]; exact h) id

/-! ### Frames -/

/-- What a frame is answered with. -/
def Answered {α : Type} (me : Inner) (flags : α → Flags) (r : Inner × Except Err α) : Prop :=
  match r.2 with
  | .ok v => Woken me r.1 (flags v)
  | .error err => Excused me r.1 err

theorem Answered.quiet {α : Type} {flags : α → Flags} {r : Inner × Except Err α}
    (h : r.1.pending.length ≤ me.pending.length) : Answered me flags r := by
  unfold Answered
  split
  · exact .inl h
  · exact .inl h

theorem recvRequest_answered (frame : Headers) (spare : Bool) (flags : Flags)
    (h : s.pending.length ≤ me.pending.length) :
    Answered me RecvHeadersVerdict.flags
      (s.recvRequest frame spare me.pending.length flags) := by
  unfold recvRequest
  dsimp only
  split
  · exact .quiet h
  · split
    · exact .quiet h
    · split
      · exact .quiet h
      · split
        · exact .quiet h
        · split
          · exact .quiet h
          · split
            · next hc => exact .quiet (by
                have hp := pending_applyContentLength hc
                rw [hp]
                exact h)
            · next m hc =>
              have hp : m.pending.length ≤ me.pending.length := by
                have hp := pending_applyContentLength hc
                rw [hp]
                exact h
              split
              · split
                · next m' err hr =>
                  refine .quiet ?_
                  obtain ⟨-, ⟨m₁, fl, hx, -⟩ | ⟨err', hx, -⟩⟩ :=
                    rejectOversizeRequest_spec m frame.streamId
                  · rw [hx] at hr
                    cases hr
                  · rw [hx] at hr
                    cases hr
                    exact hp
                · exact Woken.of_wakeFlag me _ _
              · exact Woken.of_wakeFlag me _ _

theorem recvHead_answered (frame : Headers) (e : StreamEntry) :
    Answered me RecvHeadersVerdict.flags (me.recvHead frame e me.pending.length) := by
  unfold recvHead
  dsimp only
  split
  · exact .quiet (Nat.le_refl _)
  · split
    · exact .quiet (Nat.le_refl _)
    · split
      · next hc => exact .quiet (by rw [pending_applyContentLength hc]; exact Nat.le_refl _)
      · next hc =>
        have hp := pending_applyContentLength hc
        split
        · exact .quiet (by rw [hp]; exact Nat.le_refl _)
        · split
          · exact .quiet (by rw [hp]; exact Nat.le_refl _)
          · split
            · exact .quiet (by rw [hp]; exact Nat.le_refl _)
            · exact Woken.of_wakeFlag me _ _

theorem recvTrailers_answered (frame : Headers) (e : StreamEntry) :
    Answered me RecvHeadersVerdict.flags (me.recvTrailers frame e me.pending.length) := by
  unfold recvTrailers
  dsimp only
  split
  · exact .quiet (Nat.le_refl _)
  · split
    · exact .quiet (Nat.le_refl _)
    · split
      · exact .quiet (Nat.le_refl _)
      · exact Woken.of_wakeFlag me _ _

theorem dropClosedStored_gone (he : me.streams.lookup sid = some e)
    (hc : e.state.isClosed = true) :
    (me.dropClosedStored sid).1.streams.lookup sid = none :=
  reclaim_close_gone rfl fun e' he' => by
    rw [he] at he'
    cases he'
    exact hc

/-- A HEADERS frame, where a server holds no closed stream under its id. -/
theorem recvHeaders_answered (frame : Headers) (spare : Bool)
    (hc : me.role = .server → ∀ e, me.streams.lookup frame.streamId = some e →
      e.state.isClosed = false) :
    Answered me RecvHeadersVerdict.flags (me.recvHeaders frame spare) := by
  unfold recvHeaders
  dsimp only
  split
  · unfold recvHeadersUnknown
    dsimp only
    split
    · exact .quiet (by rw [pending_inResetStore])
    · split
      · split <;> exact .quiet (by rw [pending_inResetStore])
      · exact recvRequest_answered frame spare _ (by rw [pending_inResetStore])
  · next e he =>
    split
    · exact .quiet (Nat.le_refl _)
    · split
      · next hcl =>
        split
        · exact .inr (.inr ⟨_, _, rfl, hearing_of_none (dropClosedStored_gone he hcl)⟩)
        · next hr =>
          rw [hc hr e he] at hcl
          cases hcl
      · split
        · exact recvHead_answered frame e
        · exact recvTrailers_answered frame e

/-- An error of a lookup is raised about a stream that is not stored any more. -/
theorem recvLookup_gone {err : Err} (h : me.recvLookup sid = (s, .error err)) :
    s.streams.lookup sid = none := by
  unfold recvLookup at h
  split at h
  · next e he =>
    split at h
    · cases h
    · split at h
      · next hc =>
        cases h
        exact dropClosedStored_gone he hc
      · cases h
  · next hn =>
    have hi : (me.inResetStore sid).1.streams.lookup sid = none := by
      obtain ⟨m, hm⟩ := inResetStore_eq me sid
      rw [hm]
      exact hn
    dsimp only at h
    repeat' split at h
    all_goals cases h
    all_goals exact hi

theorem streams_ignoreData {n : Nat} {r : Option Err} (h : me.ignoreData n = (s, r)) :
    s.streams = me.streams := by
  unfold ignoreData at h
  have hc : (me.consumeConnRecv n).1.streams = me.streams := rfl
  split at h
  · next h' => cases h; rw [h'] at hc; exact hc
  · next h' => cases h; rw [h'] at hc; rw [streams_reclaimConn]; exact hc

theorem ofConn_mapProtoErr {st : State} {err : ProtoError} (h : st.recvClose = .error err) :
    (mapProtoErr err).ofConn = true := by
  rw [State.recvClose_error h]
  rfl

theorem deliverData_answered (frame : Data) (e : StreamEntry) :
    Answered me RecvDataVerdict.flags (s.deliverData frame e me.pending.length) := by
  unfold deliverData
  dsimp only
  generalize (if frame.padding > 0 then
    (s.setStream frame.streamId { e with
      recvUnreleased := (e.recvUnreleased + frame.flowControlledLen) % 2 ^ 32
    }).releaseCapacityInner frame.streamId frame.padding
    else s.setStream frame.streamId { e with
      recvUnreleased := (e.recvUnreleased + frame.flowControlledLen) % 2 ^ 32 }) = m
  have herr : ∀ {c : Inner} {err : Err}, (if (!frame.endStream) = true then
      m.recordDataFrame frame.streamId frame.data.length else (m, none)) = (c, some err) →
      err.ofConn = true := fun {c err} hc => by
    split at hc
    · exact recordDataFrame_error (congrArg Prod.snd hc)
    · cases hc
  split
  · next hc => exact .inr (.inl (herr hc))
  · split
    · exact Woken.wakeFlag me _
    · split
      · split
        · exact .inr (.inl rfl)
        · split
          · next hst => exact .inr (.inl (ofConn_mapProtoErr hst))
          · exact Woken.of_wakeFlag me _ _
      · exact Woken.wakeFlag me _

theorem recvDataOn_answered (frame : Data) (hs : e.state.isRecvStreaming = true) :
    Answered me RecvDataVerdict.flags (me.recvDataOn frame e me.pending.length) := by
  have hd : e.state.recvDone = false := by
    by_contra hd
    rw [State.isRecvStreaming_of_recvDone (by simpa using hd)] at hs
    cases hs
  have hear : ∀ {m : Inner} {e' : StreamEntry} {n : Nat}, e'.state = e.state →
      ((m.setStream frame.streamId e').reclaimConn n).Hearing frame.streamId :=
    fun {m e' n} hst e₁ h₁ => by
      rw [streams_reclaimConn, lookup_setStream, if_pos rfl] at h₁
      cases h₁
      rw [hst]
      exact hd
  unfold recvDataOn
  dsimp only
  split
  · next h => exact .inr (.inl (consumeConnRecv_error (congrArg Prod.snd h)))
  · split
    · exact .inr (.inr ⟨_, _, rfl, hear rfl⟩)
    · split
      · exact .inr (.inr ⟨_, _, rfl, hear rfl⟩)
      · split
        · exact .inr (.inr ⟨_, _, rfl, hear rfl⟩)
        · exact deliverData_answered frame _

theorem recvData_answered (frame : Data) :
    Answered me RecvDataVerdict.flags (me.recvData frame) := by
  have hover : ∀ {m s : Inner} {n : Nat} {err : Err}, m.ignoreData n = (s, some err) →
      err.ofConn = true := fun h => ignoreData_error (congrArg Prod.snd h)
  unfold recvData
  dsimp only
  split
  · next err hl =>
    split
    · next hi => exact .inr (.inl (hover hi))
    · next hi =>
      rcases recvLookup_error hl with rfl | hconn
      · refine .inr (.inr ⟨_, _, rfl, hearing_of_none ?_⟩)
        rw [streams_ignoreData hi]
        exact recvLookup_gone hl
      · exact .inr (.inl hconn)
  · next hl =>
    split
    · next hi => exact .inr (.inl (hover hi))
    · exact Woken.wakeFlag me _
  · next hl =>
    obtain ⟨rfl, rfl, e, he, -⟩ := recvLookup_found hl
    rw [he]
    dsimp only
    split
    · exact .inr (.inl rfl)
    · next hs => exact recvDataOn_answered frame (by simpa using hs)

@[simp] theorem pending_admitCapacityFront (me : Inner) :
    me.admitCapacityFront.1.pending = me.pending := (admitCapacityFront_alike me).pending

theorem recvWindowUpdate_pending (me : Inner) (frame : WindowUpdate) :
    (me.recvWindowUpdate frame).1.pending = me.pending := by
  unfold recvWindowUpdate
  dsimp only
  split
  · split
    · rfl
    · exact pending_admitCapacityFront _
  · repeat' split
    all_goals rfl

theorem recvReset_answered (frame : RstStream) :
    Answered me (fun v => v.elim .none RecvResetVerdict.flags) (me.recvReset frame) := by
  have hon : ∀ (m : Inner) e, m.pending = me.pending →
      Answered me (fun v => v.elim .none RecvResetVerdict.flags) (m.recvResetOn frame e) :=
    fun m e hm => by
      unfold recvResetOn
      dsimp only
      split
      · exact .quiet (by rw [hm])
      · rw [hm]
        exact Woken.of_wakeFlag me _ _
  unfold recvReset
  dsimp only
  split
  · exact .quiet (Nat.le_refl _)
  · split
    · split
      · exact .quiet (Nat.le_refl _)
      · split <;> exact .quiet (Nat.le_refl _)
    · split
      · split
        · exact .quiet (Nat.le_refl _)
        · exact hon _ _ rfl
      · exact hon _ _ rfl

theorem resizeSend_ofConn {old new k : Nat} {err : Err} (h : (resizeSend old new k e).2 = some err) :
    err.ofConn = true := by
  unfold resizeSend at h
  split at h
  · cases h
  · obtain ⟨r, -, rfl⟩ := Option.map_eq_some_iff.mp h
    rfl

theorem checkMaxFrameSize_ofConn {n : Nat} {err : Err} (h : checkMaxFrameSize n = some err) :
    err.ofConn = true := by
  unfold checkMaxFrameSize at h
  split at h <;> cases h
  rfl

theorem applyRemoteSettings_ofConn {v : SettingsValues} {err : Err}
    (h : (me.applyRemoteSettings v).2 = .error err) : err.ofConn = true := by
  unfold applyRemoteSettings at h
  split at h
  · next hl =>
    cases h
    unfold applyRemoteLimits at hl
    split at hl
    · next hf =>
      cases hl
      unfold applyMaxFrame at hf
      split at hf
      · cases hf
      · split at hf
        · next hc =>
          cases hf
          exact checkMaxFrameSize_ofConn hc
        · cases hf
    · cases hl
  · split at h
    · cases h
    · split at h
      · next hw =>
        cases h
        unfold applyInitialWindow at hw
        dsimp only at hw
        split at hw
        · cases hw
        · split at hw
          · next hs =>
            injection hw with _ hw
            obtain ⟨k, e, -, he⟩ := Store.scan_error hs
            injection hw with hw
            exact resizeSend_ofConn (hw ▸ he)
          · cases hw
      · cases h

theorem recvSettings_answered (frame : SettingsFrame) :
    Answered me RecvSettingsVerdict.flags (me.recvSettings frame) := by
  unfold recvSettings
  dsimp only
  split
  · split
    · exact .quiet (Nat.le_refl _)
    · next s _ =>
      have hl : ({ me with settings := s }.applyLocalSettings).1.pending = me.pending :=
        (applyLocalSettings_alike { me with settings := s }).pending
      split
      · next h => exact .quiet (by rw [h] at hl; rw [hl])
      · next h => exact .quiet (by rw [h] at hl; rw [hl])
  · split
    · next h => exact .inr (.inl (applyRemoteSettings_ofConn (congrArg Prod.snd h)))
    · exact Woken.of_wakeFlag me _ _

theorem recvPing_woken (me : Inner) (frame : Ping) :
    Woken me (me.recvPing frame).1 (me.recvPing frame).2 := by
  unfold recvPing
  dsimp only
  split
  · exact Woken.wakeFlag me _
  · split
    · exact .same rfl
    · exact (Woken.wakeFlag me _).or_left _

theorem abortStream_woken (me : Inner) (sid : Nat) (reason : Option Reason) :
    Woken me (me.abortStream sid reason).1 (me.abortStream sid reason).2.2 := by
  unfold abortStream
  split
  · exact .same rfl
  · exact closeStream_woken _ sid

theorem abortAll_woken (me : Inner) (reason : Option Reason) (ids : List Nat) :
    Woken me (me.abortAll reason ids).1 (me.abortAll reason ids).2.2 := by
  induction ids generalizing me with
  | nil => exact .same rfl
  | cons sid ids ih =>
      rcases abortStream_woken me sid reason with h | h
      · have hw : Woken me ((me.abortStream sid reason).1.abortAll reason ids).1
            ((me.abortStream sid reason).1.abortAll reason ids).2.2 :=
          (ih (me.abortStream sid reason).1).imp (fun h' => h'.trans h) id
        exact hw.or_right _
      · exact Woken.or_left (.inr h) _

theorem recvGoAway_answered (frame : GoAway) :
    Answered me (fun v => v.2) (me.recvGoAway frame) := by
  unfold recvGoAway
  dsimp only
  split
  · exact .quiet (Nat.le_refl _)
  · split
    · exact .quiet (Nat.le_refl _)
    · exact (abortAll_woken _ _ _).or_left _

/-- **What a frame is answered with.** -/
theorem dispatch_answered (f : Frame)
    (hc : me.role = .server → ∀ k e, me.streams.lookup k = some e → e.state.isClosed = false) :
    Answered me Acts.flags (me.dispatch f) := by
  have hmap : ∀ {α : Type} {flags : α → Flags} {acts : α → Acts} {r : Inner × Except Err α},
      (∀ v, (acts v).flags = flags v) → Answered me flags r →
      Answered me Acts.flags (r.1, r.2.map acts) := fun {α flags acts r} ha h => by
    obtain ⟨m, _ | v⟩ := r
    · exact h
    · unfold Answered at h ⊢
      dsimp only [Except.map] at h ⊢
      rw [ha]
      exact h
  cases f with
  | headers f => exact hmap (fun _ => rfl) (recvHeaders_answered f _ fun hr => hc hr _)
  | data f => exact hmap (fun _ => rfl) (recvData_answered f)
  | windowUpdate f => exact .quiet (by
      change (me.recvWindowUpdate f).1.pending.length ≤ _
      rw [recvWindowUpdate_pending])
  | settings f => exact hmap (fun _ => rfl) (recvSettings_answered f)
  | ping f => exact recvPing_woken me f
  | goAway f => exact hmap (fun _ => rfl) (recvGoAway_answered f)
  | rstStream f => exact hmap (fun v => by cases v <;> rfl) (recvReset_answered f)
  | priority _ => exact .quiet (Nat.le_refl _)
  | streamError _ _ _ => exact .quiet (Nat.le_refl _)

/-! ### Calls -/

/-- What a send that raised nothing is answered with. -/
def Sent (me : Inner) (r : Inner × Except Err SendVerdict) : Prop :=
  ∀ v, r.2 = .ok v → Woken me r.1 v.flags

theorem Sent.quiet {r : Inner × Except Err SendVerdict}
    (h : r.1.pending.length ≤ me.pending.length) : Sent me r := fun _ _ => .inl h

theorem Sent.error (me s : Inner) (err : Err) : Sent me (s, .error err) := fun _ h => by cases h

/-- A send that carries the wake flag of the call. -/
theorem Sent.ok {v : SendVerdict} {f g : Flags}
    (hv : v.flags = (f ||| s.wakeFlag me.pending.length) ||| g) : Sent me (s, .ok v) := by
  intro _ h
  cases h
  rw [hv]
  exact (Woken.of_wakeFlag me s f).or_left g

theorem sendEmpty_sent (me : Inner) (sid : Nat) (e : StreamEntry) (endStream : Bool) :
    Sent me (me.sendEmpty sid e endStream) := by
  unfold sendEmpty
  dsimp only
  split
  · split
    · exact .error _ _ _
    · exact .ok (f := .none) rfl
  · exact .ok (f := .none) rfl

theorem queueData_sent (m : Inner) (sid : Nat) (chunk : Bytes) (last done : Bool)
    (flags : Flags) :
    Sent me (m.queueData sid chunk last done me.pending.length flags) := by
  unfold queueData
  dsimp only
  split
  · exact .error _ _ _
  · split
    · split
      · exact .error _ _ _
      · split
        · exact .error _ _ _
        · intro v h
          cases h
          exact ((Woken.of_wakeFlag me _ .none).or_left flags).or_left _
    · intro v h
      cases h
      exact (Woken.of_wakeFlag me _ .none).or_left flags

theorem frameData_sent (m : Inner) (sid : Nat) (e : StreamEntry) (data : Bytes) (offset : Nat)
    (endStream : Bool) (budget : Nat) :
    Sent me (m.frameData sid e data offset endStream budget me.pending.length) := by
  unfold frameData
  dsimp only
  split
  · exact .error _ _ _
  · split
    · exact .error _ _ _
    · exact queueData_sent _ _ _ _ _ _

theorem sendTurn_sent {m : Inner} (hm : m.pending = me.pending) (sid : Nat) (data : Bytes)
    (offset : Nat) (endStream : Bool) (budget : Nat) :
    Sent me (m.sendTurn sid data offset endStream budget me.pending.length) := by
  unfold sendTurn
  split
  · exact .error _ _ _
  · split
    · exact .quiet (by
        change (m.yieldSendTurn sid).1.pending.length ≤ _
        rw [(yieldSendTurn_alike m sid).pending, hm])
    · split
      · exact .quiet (by rw [hm])
      · exact frameData_sent m sid _ data offset endStream budget

theorem sendChunk_sent (he : me.streams.lookup sid = some e) (data : Bytes) (offset : Nat)
    (endStream : Bool) : Sent me (me.sendChunk sid e data offset endStream) := by
  have hfront : (me.leaveWaiting sid e).sendFront.1.pending = me.pending :=
    (leaveWaiting_alike he).pending
  unfold sendChunk
  dsimp only
  split
  · refine .quiet (Nat.le_of_eq (congrArg List.length ?_))
    refine (leaveSendQueue_alike _ sid).pending.trans ?_
    split
    · exact (enqueueCapacity_alike me sid).pending
    · rfl
  · split
    · split
      · exact .quiet (Nat.le_of_eq (congrArg List.length
          ((enqueueSend_alike _ sid).pending.trans hfront)))
      · exact sendTurn_sent hfront sid data offset endStream _
    · exact sendTurn_sent ((enqueueSend_alike _ sid).pending.trans hfront) sid data offset
        endStream _

theorem sendData_sent (me : Inner) (sid : Nat) (data : Bytes) (offset : Nat)
    (endStream : Bool) : Sent me (me.sendData sid data offset endStream) := by
  unfold sendData
  split
  · exact .quiet (Nat.le_refl _)
  · next e he =>
    split
    · exact .quiet (Nat.le_refl _)
    · split
      · exact sendEmpty_sent me sid e endStream
      · exact sendChunk_sent he data offset endStream

theorem sendTrailers_sent (me : Inner) (sid : Nat) (trailers : Fields) :
    Sent me (me.sendTrailers sid trailers) := by
  unfold sendTrailers
  dsimp only
  split
  · exact .quiet (Nat.le_refl _)
  · split
    · exact .quiet (Nat.le_refl _)
    · split
      · exact .quiet (Nat.le_refl _)
      · exact .ok (f := .none) rfl

theorem sendResponseHead_sent (me : Inner) (sid status : Nat) (fields : Fields)
    (endStream : Bool) (date : String) :
    Sent me (me.sendResponseHead sid status fields endStream date) := by
  unfold sendResponseHead
  dsimp only
  repeat' split
  all_goals first | exact .quiet (Nat.le_refl _) | exact .ok (f := .none) rfl

/-- A send that raised something queued nothing. -/
theorem Sent.acts {r : Inner × Except Err SendVerdict} (h : Sent me r)
    (he : ∀ err, r.2 = .error err → r.1 = me) : Woken me r.1 (sendActs r.2).flags := by
  rcases hr : r.2 with err | v
  · exact .inl (by rw [he err hr])
  · exact h v hr

theorem sendData_woken (h : me.Wf) (sid : Nat) (data : Bytes) (offset : Nat)
    (endStream : Bool) : Woken me (me.sendData sid data offset endStream).1
      (sendActs (me.sendData sid data offset endStream).2).flags := by
  refine (sendData_sent me sid data offset endStream).acts fun err he => ?_
  obtain ⟨v, m, hv, -⟩ := sendData_framed h sid data offset endStream
  rw [hv] at he
  cases he

theorem sendTrailers_woken (me : Inner) (sid : Nat) (trailers : Fields) :
    Woken me (me.sendTrailers sid trailers).1
      (sendActs (me.sendTrailers sid trailers).2).flags := by
  refine (sendTrailers_sent me sid trailers).acts fun err he => ?_
  unfold sendTrailers at he ⊢
  dsimp only at he ⊢
  split at he
  · cases he
  · split at he
    · cases he
    · next hs =>
      split at he
      · rw [if_neg hs]
      · cases he

theorem sendResponseHead_woken (me : Inner) (sid status : Nat) (fields : Fields)
    (endStream : Bool) (date : String) :
    Woken me (me.sendResponseHead sid status fields endStream date).1
      (sendActs (me.sendResponseHead sid status fields endStream date).2).flags := by
  refine (sendResponseHead_sent me sid status fields endStream date).acts fun err he => ?_
  unfold sendResponseHead at he ⊢
  dsimp only at he ⊢
  repeat' split at he
  all_goals cases he
  all_goals simp_all

theorem resetStreamCall_woken (me : Inner) (sid : Nat) (reason : Reason)
    (initiator : Initiator) :
    Woken me (me.resetStreamCall sid reason initiator).1
      (me.resetStreamCall sid reason initiator).2.flags := Woken.of_wakeFlag me _ _

theorem acloseBody_woken (me : Inner) (sid : Nat) :
    Woken me (me.acloseBody sid).1 (me.acloseBody sid).2.flags := by
  unfold acloseBody
  dsimp only
  split
  · exact .same rfl
  · split
    · exact Woken.of_wakeFlag me _ _
    · exact Woken.of_wakeFlag me _ _

theorem pending_maybeRemoveSettled (me : Inner) (sid : Nat) :
    (me.maybeRemoveSettled sid).pending = me.pending := by
  unfold maybeRemoveSettled
  split
  · rfl
  · split <;> rfl

theorem releaseDataFrame_pending (me : Inner) (sid n : Nat) :
    (me.releaseDataFrame sid n).pending = me.pending := by
  unfold releaseDataFrame
  dsimp only
  split
  · rfl
  · split
    · rfl
    · exact (pending_maybeRemoveSettled _ _).trans rfl

theorem creditAll_pending (me : Inner) (woken : List Nat) (batch : List (Nat × Nat)) :
    (me.creditAll woken batch).1.pending = me.pending := by
  obtain ⟨m, hm⟩ := creditAll_eq me woken batch
  rw [hm]

/-- An error reset that is made queues its frame, flagged. -/
theorem resetOnError_woken {reason : Reason} {v : ResetVerdict}
    (hv : (me.resetOnError sid reason).2 = .ok v) :
    Woken me (me.resetOnError sid reason).1 v.flags := by
  unfold resetOnError at hv ⊢
  dsimp only at hv ⊢
  split at hv
  · cases hv
  · next hlim =>
    rw [if_neg hlim]
    split at hv
    · cases hv
      exact Woken.of_wakeFlag me _ _
    · cases hv
      exact Woken.wakeFlag me _

theorem pending_le_of_moves {extra : Kind → Prop} (r : Moves extra me s) :
    me.pending.length ≤ s.pending.length := by
  obtain ⟨fs, hfs, -⟩ := r.frames (q := fun _ => false) fun _ _ _ _ _ _ _ => rfl
  rw [hfs, List.length_append]
  omega

/-- **The error reset of a stream that can still receive**, or that is gone, queues a RST_STREAM. -/
theorem resetOnError_heard {reason : Reason} {v : ResetVerdict} (hh : me.Hearing sid)
    (hv : (me.resetOnError sid reason).2 = .ok v) : v.flags.wake = true := by
  unfold resetOnError at hv
  dsimp only at hv
  split at hv
  · cases hv
  · split at hv
    · next e he =>
      have hc : e.state.isClosed = false := State.isClosed_of_recvDone (hh e he)
      cases hv
      rw [Flags.or_wake, Bool.or_eq_true]
      refine .inr ?_
      unfold Inner.wakeFlag
      rw [if_pos]
      -- the RST_STREAM stands between a reclaim and the close
      unfold resetStream
      rw [he]
      dsimp only
      rw [if_neg (by rw [hc]; decide), pending_enqueueResetExpiration]
      have hl : ({ me with
          localErrorResets := me.localErrorResets + 1 } : Inner).streams.lookup sid = some e := he
      have hcl : (e.state.setReset sid reason .library).isClosed = true := rfl
      have h₁ := @pending_le_of_moves _ _ Kind.nothing (closeWith_moves hl hcl)
      have h₂ := @pending_le_of_moves _ _ Kind.nothing (closeStream_moves
        (((({ me with localErrorResets := me.localErrorResets + 1 } : Inner).setStream sid
          { e with state := e.state.setReset sid reason .library }).reclaimStreamAccounting
            sid).emit (.rstStream sid reason)) sid)
      have h₃ : ((((({ me with localErrorResets := me.localErrorResets + 1 } : Inner).setStream sid
          { e with state := e.state.setReset sid reason .library }).reclaimStreamAccounting
            sid).emit (.rstStream sid reason)).pending).length = (((({ me with
          localErrorResets := me.localErrorResets + 1 } : Inner).setStream sid
          { e with state := e.state.setReset sid reason .library }).reclaimStreamAccounting
            sid).pending).length + 1 := List.length_append
      have h₀ : ({ me with localErrorResets := me.localErrorResets + 1 } : Inner).pending.length =
        me.pending.length := rfl
      omega
    · cases hv
      unfold Inner.wakeFlag
      rw [if_pos]
      have h₀ : ∀ m : Inner, (m.emit (.rstStream sid reason)).pending.length =
          m.pending.length + 1 := fun m => List.length_append
      rw [h₀]
      split
      · rw [pending_enqueueResetExpiration]
        exact Nat.lt_succ_self _
      · exact Nat.lt_succ_self _

/-- A run that ends one stream at most. -/
theorem Hearing.own (hh : me.Hearing k) (hr : Touches extra me s)
    (hm : ∀ m, extra m → (∀ j, m = .ends j → j = sid) ∧ ∀ j, m ≠ .opened j)
    (hat : k = sid → s.Hearing sid) : s.Hearing k := by
  by_cases hk : k = sid
  · rw [hk]
    exact hat hk
  · exact hr.hearing hh fun m hx => ⟨fun he => hk ((hm m hx).1 k he), (hm m hx).2 k⟩

theorem SendEnds.hearing {r : Inner × Except Err SendVerdict} (h : SendEnds sid me r)
    (hh : me.Hearing sid) : r.1.Hearing sid := by
  rcases h with ⟨h, -⟩ | ⟨m, n, flags, hm, rfl⟩
  · exact h.hearing hh
  · have hmh : m.Hearing sid := hm.hearing hh fun m hx => by
      subst hx
      exact ⟨nofun, nofun⟩
    cases hr : m.role with
    | server => exact hearing_of_none (finishStream_gone hr)
    | client =>
        have hrole : (m.closeStream sid).1.role = .client :=
          (@closeStream_touches Mark.nothing m sid).keeps.role.trans hr
        have hf : (m.finishStream sid).1 = (m.closeStream sid).1 := by
          unfold finishStream
          dsimp only
          rw [hrole]
        change (m.finishStream sid).1.Hearing sid
        rw [hf]
        exact (@closeStream_touches Mark.nothing m sid).hearing hmh fun _ hx => hx.elim

theorem Buffered.hearing {r : Inner × Except Err SendVerdict} (h : Buffered sid me r)
    (hh : me.Hearing sid) : r.1.Hearing sid := by
  rcases h with h | ⟨n, s₁, s₂, s₃, s₄, h₁, hb, h₂, hc, h₃⟩
  · exact h.hearing hh
  · exact h₃.hearing (hc.hearing (h₂.hearing (hb.hearing (h₁.hearing hh) nofun nofun))
      nofun nofun)

theorem endMarks_ends {handle : Option Nat} (hm : endMarks sid handle m) :
    (∀ j, m = .ends j → j = sid) ∧ ∀ j, m ≠ .opened j := by
  rcases hm with rfl | ⟨-, rfl⟩
  · exact ⟨nofun, nofun⟩
  · exact ⟨fun j hj => by cases hj; rfl, nofun⟩

theorem ends_ends (hm : m = .ends sid) : (∀ j, m = .ends j → j = sid) ∧ ∀ j, m ≠ .opened j :=
  endMarks_ends (.inr ⟨rfl, hm⟩)

/-- **A call leaves a stream able to receive**, or takes it. -/
theorem call_hearing (h : me.Wf) (hh : me.Hearing k) (c : Call)
    (hopen : ∀ request eos isHead, c = .openStream request eos isHead → me.role = .client) :
    (me.call c).1.Hearing k := by
  have calm : (∀ m, me.callMarks c m → m ≠ .ends k ∧ m ≠ .opened k) →
      (me.call c).1.Hearing k := fun hc => (call_touches h c hopen).hearing hh hc
  cases c with
  | tryClaimSlot | releaseSlot | creditWritten =>
      exact calm fun m hm => by
        cases hm
        exact ⟨nofun, nofun⟩
  | openStream _ _ _ =>
      exact calm fun m hm => by
        rcases hm with rfl | rfl <;> exact ⟨nofun, nofun⟩
  | sendData sid data offset eos =>
      have hb := sendData_buffered h sid data offset eos
      refine hh.own hb.touches (fun m hm => ?_) fun hk => hb.hearing (hk ▸ hh)
      rcases hm with ⟨n, rfl | rfl⟩ | hm
      · exact ⟨nofun, nofun⟩
      · exact ⟨nofun, nofun⟩
      · exact endMarks_ends hm
  | sendTrailers sid trailers =>
      have he := sendTrailers_ends me sid trailers
      exact hh.own he.touches (fun m => endMarks_ends) fun hk => he.hearing (hk ▸ hh)
  | sendResponseHead sid status fields eos date =>
      refine hh.own (sendResponseHead_touches me sid status fields eos date)
        (fun m => endMarks_ends) fun hk => ?_
      rcases sendResponseHead_ends me sid status fields eos date with
        he | ⟨⟨e, st, s, he, hst, hs, hx⟩, -⟩
      · exact he.hearing (hk ▸ hh)
      · change (me.sendResponseHead sid status fields eos date).1.Hearing sid
        rw [← hx]
        refine hs.hearing fun e' he' => ?_
        rw [lookup_setStream, if_pos rfl] at he'
        cases he'
        change st.recvDone = false
        rw [State.recvDone_of_recvSide (State.sendOpen_recvSide hst)]
        exact hh e (hk ▸ he)
  | resetStream sid reason initiator =>
      exact hh.own (resetStream_touches me sid reason initiator) (fun m => ends_ends) fun _ =>
        hearing_of_none (resetStream_gone me sid reason initiator)
  | acloseBody sid =>
      refine hh.own (acloseBody_touches me sid) (fun m => ends_ends) fun hk => ?_
      change (me.acloseBody sid).1.Hearing sid
      unfold acloseBody
      dsimp only
      split
      · next hn => exact hearing_of_none hn
      · next e he =>
        split
        · next hes =>
          have hd := hh e (hk ▸ he)
          rw [State.recvDone_of_isRecvEndStream hes] at hd
          cases hd
        · exact hearing_of_none (resetStream_gone me sid .cancel .user)
  | fail exc message => exact hearing_of_none ((me.fail_spec exc message).2 k)
  | _ => exact calm fun m hm => hm.elim

end Inner

end Httpunk.H2
