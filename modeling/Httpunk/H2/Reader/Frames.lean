import Httpunk.H2.Life.Side
import Httpunk.H2.Reader.Basic

/-!
# H2 — Reader — Frames

What a received frame does to a handle the application holds.

* `dispatch_error_side`: a frame that raises leaves the handle alone, or raises the error of its
  stream, or brings the connection down.
* `recvReset_told`, `recvGoAway_told`: the ends the peer makes.
-/

namespace Httpunk.H2

open Runs (Reach)
open Httpunk.H2.Inner

/-- What the read pump is doing, as far as `k` is concerned. -/
def Pump.phase (p : Pump) (k : Nat) : Phase :=
  match p with
  | .running => .serving
  | .resetting sid _ => if sid = k then .answering else .serving
  | .closing _ _ _ | .failing _ | .done => .ended

theorem Pump.phase_raised (err : Err) (k : Nat) : (Pump.raised err).phase k = .ended := by
  cases err <;> rfl

theorem Pump.phase_caught_of_conn {err : Err} (h : err.ofConn = true) (k : Nat) :
    (Pump.caught err).phase k = .ended := by
  cases err with
  | stream _ _ _ => cases h
  | _ => rfl

namespace Inner

variable {me s : Inner} {sid k : Nat} {e : StreamEntry} {extra : Mark → Prop}

/-! ### Frames that raise -/

/-- The readers of `k` after a frame that raised `err`. -/
def Raised (me s : Inner) (k : Nat) (err : Err) : Prop :=
  SideKept me s k ∧ ((Pump.caught err).phase k = .ended ∨
      (Pump.caught err).phase k = .serving ∧ (s.lengthOf k = me.lengthOf k ∨ s.side k = none)) ∨
    (Pump.caught err).phase k = .answering ∧ NoReset me s k ∧
      ∀ half, s.side k = some (.receiving half) → ∃ half, me.side k = some (.receiving half)

/-- A run that does not touch the receive side, whatever was raised. -/
theorem Raised.of_touches (h : me.Finite k) (hu : me.Used k) (r : Touches extra me s)
    (hm : ∀ m, extra m → ¬m.receives k) (err : Err) : Raised me s k err := by
  have hside : SideKept me s k := r.sideKept h hu fun m hx =>
    ⟨fun he => hm m hx (.inl he), fun he => hm m hx (.inr (.inl he))⟩
  rcases hp : (Pump.caught err).phase k with _ | _ | _
  · exact .inl ⟨hside, .inr ⟨hp, r.lengthKept hu hm⟩⟩
  · refine .inr ⟨hp, fun e' he' hreset => ?_, fun half hx => r.deaf hu hx⟩
    obtain ⟨e, he, hs, -⟩ := r.back hu (fun m hx =>
      ⟨fun he => hm m hx (.inl he), fun he => hm m hx (.inr (.inl he))⟩) he'
    exact ⟨e, he, hs.symm.trans hreset⟩
  · exact .inl ⟨hside, .inl hp⟩

theorem Raised.of_still (h : me.Finite k) (hu : me.Used k) (r : Still me s) (err : Err) :
    Raised me s k err := by
  have ht : Touches Mark.nothing me s := Touches.still r
  exact .of_touches h hu ht (fun _ hx => hx.elim) err

/-- A run of its own stream that raises an error of the connection. -/
theorem Raised.of_conn {err : Err} (h : me.Finite k) (hu : me.Used k) (r : Touches extra me s)
    (hm : ∀ m, extra m → m ≠ .ends k ∧ m ≠ .begins k) (herr : err.ofConn = true) :
    Raised me s k err :=
  .inl ⟨r.sideKept h hu hm, .inl (Pump.phase_caught_of_conn herr k)⟩

/-- The marks of a HEADERS frame on another stream. -/
theorem openMarks_not_receives {m : Mark} (hm : openMarks sid m) (hk : sid ≠ k) :
    ¬m.receives k := by
  rcases hm with rfl | (rfl | rfl) | rfl | rfl <;> rintro (hx | hx | hx) <;> cases hx <;>
    exact hk rfl

theorem dataMarks_not_receives {f : Data} {m : Mark} (hm : dataMarks f m)
    (hk : f.streamId ≠ k) : ¬m.receives k := by
  rcases hm with (rfl | rfl) | ⟨-, rfl⟩ <;> rintro (hx | hx | hx) <;> cases hx <;> exact hk rfl

theorem calmMarks_not_moved {m : Mark} (hm : calmMarks sid m) :
    m ≠ .ends k ∧ m ≠ .begins k := by
  rcases hm with rfl | rfl <;> exact ⟨nofun, nofun⟩

theorem fillMarks_not_moved {f : Data} {m : Mark} (hm : fillMarks f m) :
    m ≠ .ends k ∧ m ≠ .begins k := by
  rcases hm with rfl | rfl <;> exact ⟨nofun, nofun⟩

theorem recvReset_error (me : Inner) (f : RstStream) {err : Err}
    (h : (me.recvReset f).2 = .error err) : (me.recvReset f).1 = me := by
  unfold recvReset at h ⊢
  dsimp only at h ⊢
  split
  · rfl
  · next h0 =>
    rw [if_neg h0] at h
    split
    · split
      · rfl
      · split <;> rfl
    · next e he =>
      rw [he] at h
      dsimp only at h
      have hon : ∀ m : Inner, (m.recvResetOn f e).2 ≠ .error err := fun m => by
        unfold recvResetOn
        dsimp only
        split <;> nofun
      split
      · next hp =>
        rw [if_pos hp] at h
        split
        · rfl
        · next hlim =>
          rw [if_neg hlim] at h
          exact absurd h (hon _)
      · next hp =>
        rw [if_neg hp] at h
        exact absurd h (hon _)

/-- **A frame that raises.** -/
theorem dispatch_error_side (h : me.Wf) (hu : me.Used k) (f : Frame) {err : Err}
    (herr : (me.dispatch f).2 = .error err) : Raised me (me.dispatch f).1 k err := by
  have hf := h.finite k
  have same : Raised me me k err := .of_still hf hu (.refl me) err
  cases f with
  | headers f =>
      have ho := recvHeaders_outcome h f (me.role = .server)
      have herr' : (me.recvHeaders f (me.role = .server)).2 = .error err := by
        rcases hr : (me.recvHeaders f (me.role = .server)).2 with x | v
        · simpa [dispatch, hr, Except.map] using herr
        · simp [dispatch, hr, Except.map] at herr
      show Raised me (me.recvHeaders f (me.role = .server)).1 k err
      generalize me.recvHeaders f (me.role = .server) = r at ho herr'
      cases ho with
      | broken ht hc =>
          cases herr'
          exact .of_conn hf hu ht (fun m => calmMarks_not_moved) hc
      | @refused s code ht hr =>
          cases herr'
          by_cases hk : f.streamId = k
          · subst hk
            refine .inr ⟨if_pos rfl, hr.resolve_left fun hn => hn hu, fun half hx => ht.deaf hu hx⟩
          · exact .of_touches hf hu ht (fun m hm => openMarks_not_receives hm hk) _
      | _ => cases herr'
  | data f =>
      have ho := recvData_outcome h f
      have herr' : (me.recvData f).2 = .error err := by
        rcases hr : (me.recvData f).2 with x | v
        · simpa [dispatch, hr, Except.map] using herr
        · simp [dispatch, hr, Except.map] at herr
      show Raised me (me.recvData f).1 k err
      generalize me.recvData f = r at ho herr'
      cases ho with
      | broken ht hc =>
          cases herr'
          exact .of_conn hf hu ht (fun m => fillMarks_not_moved) hc
      | @refused s code ht =>
          cases herr'
          by_cases hk : f.streamId = k
          · subst hk
            refine .inr ⟨if_pos rfl, fun e' he' hreset => ?_, fun half hx => ht.deaf hu hx⟩
            obtain ⟨e, he, hs, -⟩ := ht.back hu (fun m => fillMarks_not_moved) he'
            exact ⟨e, he, hs.symm.trans hreset⟩
          · exact .of_touches hf hu ht (fun m hm => dataMarks_not_receives (.inl hm) hk) _
      | _ => cases herr'
  | windowUpdate f => exact .of_still hf hu (recvWindowUpdate_still me f) err
  | settings f => exact .of_still hf hu (recvSettings_still me f) err
  | ping f => cases herr
  | goAway f =>
      simp only [dispatch, recvGoAway] at herr ⊢
      split
      · exact same
      · next hn =>
        rw [if_neg hn] at herr
        split at herr <;> cases herr
  | rstStream f =>
      have herr' : (me.recvReset f).2 = .error err := by
        rcases hr : (me.recvReset f).2 with x | v
        · simpa [dispatch, hr, Except.map] using herr
        · simp [dispatch, hr, Except.map] at herr
      show Raised me (me.recvReset f).1 k err
      rw [recvReset_error me f herr']
      exact same
  | priority _ => cases herr
  | streamError _ _ _ => exact same

/-! ### The ends the peer makes -/

/-- The readers of `k` after its RST_STREAM: they see nothing, or they are told, or the message
had ended before. -/
def ResetTold (me s : Inner) (k : Nat) (signals : List Signal) : Prop :=
  Unseen me s k signals ∨ Ended me s k signals ∨
    Silent k signals ∧ me.side k = some .ended ∧
      (s.side k = some .endedReset ∨ s.side k = none)

/-- What RST_STREAM makes of a state, as its readers are told. -/
theorem recvReset_state (st : State) (sid : Nat) (code : Reason) :
    (st.isRecvEndStream = false ∧ (st.recvReset sid code).recvSide = .stopped) ∨
      st.isRecvEndStream = true ∧
        ((st.recvReset sid code).recvSide = st.recvSide ∧ st.recvDone = true ∨
          st.recvSide = .ended ∧ (st.recvReset sid code).recvSide = .endedReset) := by
  rcases st with _ | _ | _ | _ | _ | _ | (_ | _ | _ | _) <;>
    simp [State.isRecvEndStream, State.recvReset, State.recvSide, State.recvDone]

theorem recvResetOn_told (f : RstStream) (h : me.Finite f.streamId) (hu : me.Used f.streamId)
    (he : me.streams.lookup f.streamId = some e) {v : Option RecvResetVerdict}
    (hv : (me.recvResetOn f e).2 = .ok v) :
    ResetTold me (me.recvResetOn f e).1 f.streamId
      (v.elim [] fun v => notifyStopped v.handle v.stop v.notifyBody) := by
  unfold recvResetOn at hv ⊢
  dsimp only at hv ⊢
  split at hv
  · next hfin =>
    cases hv
    rw [if_pos hfin]
    exact .inl (.of_still h hu (.refl me) (silent_nil _))
  · next hfin =>
    cases hv
    rw [if_neg hfin]
    have hr : Touches Mark.nothing
        (me.setStream f.streamId { e with state := e.state.recvReset f.streamId f.errorCode })
        ((me.setStream f.streamId { e with
          state := e.state.recvReset f.streamId f.errorCode }).dropClosedStored f.streamId).1 :=
      dropClosedStored_touches _ _
    have hside := endWith_side hu
      (State.recvDone_of_isClosed (State.isClosed_recvReset e.state f.streamId f.errorCode)) hr
    rcases recvReset_state e.state f.streamId f.errorCode with
      ⟨hend, hs⟩ | ⟨hend, ⟨hs, hd⟩ | ⟨hb, hs⟩⟩ <;> rw [hs] at hside
    · simp only [hend, Option.elim_some, Bool.not_false]
      exact .inr (.inl (.inl ⟨_, notifyStopped_tells _ _, hside⟩))
    · simp only [hend, Option.elim_some, Bool.not_true]
      -- a closed stream that the driver has yet to reset
      refine .inl ⟨silent_nil _, ?_, ?_⟩
      · rcases hside with hx | hx
        · exact .inl (hx.trans (side_of he).symm)
        · refine .inr ⟨hx, fun half hy => ?_⟩
          obtain ⟨e', he', hy⟩ := side_eq_some hy
          rw [he] at he'
          cases he'
          rw [State.recvDone_iff.mpr ⟨half, hy⟩] at hd
          cases hd
      · have hl₀ : (me.setStream f.streamId { e with
            state := e.state.recvReset f.streamId f.errorCode }).lengthOf f.streamId =
            e.contentLength := lengthOf_of (e := { e with
              state := e.state.recvReset f.streamId f.errorCode }) (AList.lookup_insert _)
        exact (hr.lengthKept hu fun _ hx => hx.elim).imp
          (fun hl => hl.trans (hl₀.trans (lengthOf_of he).symm)) id
    · simp only [hend, Option.elim_some, Bool.not_true]
      exact .inr (.inr ⟨silent_nil _, (side_of he).trans (congrArg some hb), hside⟩)

/-- A lookup that finds the stream, or nothing at all. -/
theorem recvReset_cases (me : Inner) (f : RstStream) {v : Option RecvResetVerdict}
    (hv : (me.recvReset f).2 = .ok v) :
    (me.recvReset f).1 = me ∧ v = none ∨
      ∃ m e, Still me m ∧ m.streams.lookup f.streamId = some e ∧
        me.recvReset f = m.recvResetOn f e := by
  unfold recvReset at hv ⊢
  dsimp only at hv ⊢
  split at hv
  · cases hv
  · next h0 =>
    rw [if_neg h0]
    split at hv
    · have hsame : v = none := by
        split at hv
        · cases hv; rfl
        · split at hv <;> cases hv
          rfl
      refine .inl ⟨?_, hsame⟩
      split
      · rfl
      · split <;> rfl
    · next e he =>
      split at hv
      · next hp =>
        rw [if_pos hp]
        split at hv
        · cases hv
        · next hlim =>
          rw [if_neg hlim]
          exact .inr ⟨{ me with remoteResetPending := insert f.streamId me.remoteResetPending }, e,
            { Still.refl me with }, he, rfl⟩
      · next hp =>
        rw [if_neg hp]
        exact .inr ⟨me, e, .refl me, he, rfl⟩

/-- **RST_STREAM, for the readers of `k`.** -/
theorem recvReset_told (h : me.Wf) (hu : me.Used k) (f : RstStream)
    {v : Option RecvResetVerdict} (hv : (me.recvReset f).2 = .ok v) :
    ResetTold me (me.recvReset f).1 k
      (v.elim [] fun v => notifyStopped v.handle v.stop v.notifyBody) := by
  have hf := h.finite k
  rcases recvReset_cases me f hv with ⟨hs, rfl⟩ | ⟨m, e, hst, he, heq⟩
  · rw [hs]
    exact .inl (.of_still hf hu (.refl me) (silent_nil k))
  · have ht : Touches Mark.nothing me m := Touches.still hst
    rw [heq] at hv ⊢
    by_cases hk : f.streamId = k
    · subst hk
      rcases recvResetOn_told f (ht.finite hf) (ht.keeps.used hu) he hv with hn | hn | ⟨hn, hb, hs⟩
      · exact (told_after hf hu ht (fun _ hx => hx.elim) (.inl hn)).imp id .inl
      · exact (told_after hf hu ht (fun _ hx => hx.elim) (.inr hn)).imp id .inl
      · refine .inr (.inr ⟨hn, ?_, hs⟩)
        rcases ht.sideKept hf hu fun _ => Mark.nothing_calm with hx | ⟨hx, -⟩
        · exact hx.symm.trans hb
        · rw [hx] at hb; cases hb
    · refine .inl (.of_touches hf hu (ht.weaken.trans (recvResetOn_touches f he)) ?_ ?_)
      · rintro m rfl (hx | hx | hx)
        · cases hx
          exact hk rfl
        · cases hx
        · cases hx
      · unfold recvResetOn at hv
        dsimp only at hv
        split at hv <;> cases hv
        · exact silent_nil k
        · exact notifyStopped_silent _ _ hk

/-- **GOAWAY, for the readers of `k`.** -/
theorem recvGoAway_told (h : me.Wf) (hu : me.Used k) (f : GoAway)
    {v : List (Nat × Stopped) × Flags} (hv : (me.recvGoAway f).2 = .ok v) :
    Unseen me (me.recvGoAway f).1 k (notifyAll v.1) ∨
      Ended me (me.recvGoAway f).1 k (notifyAll v.1) := by
  have hf := h.finite k
  have hst : Still me { me with
      goawayLastId := some f.lastStreamId
      goaway := some ⟨f.lastStreamId, f.errorCode, f.debugData⟩ } := { Still.refl me with }
  have ht : Touches Mark.nothing me _ := Touches.still hst
  unfold recvGoAway at hv ⊢
  dsimp only at hv ⊢
  split at hv
  · cases hv
  · next hn =>
    rw [if_neg hn]
    split at hv
    · cases hv
      exact .inl (.of_still hf hu hst (silent_nil k))
    · cases hv
      exact told_after hf hu ht (fun _ hx => hx.elim) (abortAll_told (ht.finite hf)
        (ht.keeps.used hu) (some f.errorCode) (me.streams.keys_nodup.filter _))

end Inner

end Httpunk.H2
