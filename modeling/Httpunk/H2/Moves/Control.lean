import Httpunk.H2.Moves.Recv
import Httpunk.H2.Moves.Send

/-!
# H2 — Moves — Control

The rest of the connection's methods as runs of moves, and the state the handshake leaves: it
is well formed, and all the receive window is available.
-/

namespace Httpunk.H2.Inner

open Runs (Reach)

variable {extra : Kind → Prop} {me : Inner} {sid n : Nat}

/-! ### The handshake -/

theorem new_wf (cfg : Config) : (new cfg).Wf := by
  obtain ⟨w, hw, hv⟩ := FlowControl.opened_spec (n := defaultInitialWindowSize) (by decide)
  have hv' : w.val = 65535 := hv
  have hsend : (new cfg).connSend = ⟨w, w⟩ := hw
  have hrecv : (new cfg).connRecv = ⟨w, w⟩ := hw
  have hnone : ∀ k, (new cfg).streams.lookup k = none := fun k => AList.lookup_empty k
  exact {
    connSend := by rw [hsend]
    sendFlow := fun hk => by rw [hnone] at hk; cases hk
    frame := rfl
    frameSize := Nat.le_refl _
    window := show defaultInitialWindowSize ≤ maxWindowSize by decide
    recvWindow := by rw [hrecv]; exact ⟨by rw [hv']; decide, Int.le_refl _⟩
    ledger := by
      have hu : (new cfg).unreleased = 0 := rfl
      rw [hrecv, hu, hv']
      decide
    reclaimed := fun hk => by rw [hnone] at hk; cases hk
    active := rfl
    finished := fun hk => by rw [hnone] at hk; cases hk
    used := fun hk => by rw [hnone] at hk; cases hk
    processed := Nat.le_refl _ }

/-- The frames a connection opens with. -/
def isOpening : OutFrame → Bool
  | .preface | .settings _ => true
  | f => f.isCtrl

theorem handshake_isOpening {f : OutFrame} (h : f ∈ me.handshake) : isOpening f = true := by
  unfold handshake at h
  split at h
  · simp only [List.mem_cons, List.not_mem_nil, or_false] at h
    rcases h with rfl | rfl <;> rfl
  · rw [List.mem_singleton.mp h]
    rfl

theorem begin_eq (me : Inner) : me.begin = { me with
    pending := me.pending ++ me.handshake, settings := me.settings.markSent }.reclaimConn
      (me.connRecvTarget - defaultInitialWindowSize) := by
  unfold begin
  dsimp only
  split
  · rfl
  · rw [reclaimConn, if_pos (by omega)]

/-- **The handshake leaves a well-formed connection**, with the whole receive window available
and nothing else touched. -/
theorem begin_spec (cfg : Config) : ∃ fc fs,
    (new cfg).begin = { new cfg with
      connRecv := fc, pending := fs, settings := (new cfg).settings.markSent } ∧
    fc.available.val = max defaultInitialWindowSize cfg.connectionWindow ∧
    (∀ f ∈ fs, isOpening f = true) ∧ (new cfg).begin.Wf := by
  have hb := begin_eq (new cfg)
  obtain ⟨fs, hpend, hfs⟩ : ∃ fs, [] ++ (new cfg).handshake = fs ∧
      ∀ f ∈ fs, isOpening f = true := ⟨_, rfl, fun f hf => handshake_isOpening hf⟩
  rw [show (new cfg).pending = [] from rfl, hpend] at hb
  have hcw := cfg.conn_window_le
  obtain ⟨w, hw, hv⟩ := FlowControl.opened_spec (n := defaultInitialWindowSize) (by decide)
  have hrecv : (new cfg).connRecv = ⟨w, w⟩ := hw
  have h0 : ({ new cfg with pending := fs, settings := (new cfg).settings.markSent } : Inner).Wf :=
    { new_wf cfg with }
  have hu : (new cfg).unreleased = 0 := rfl
  have hsum : w.val + (cfg.connectionWindow - defaultInitialWindowSize : Nat) =
      max defaultInitialWindowSize cfg.connectionWindow := by
    rw [hv]
    omega
  have hle : max defaultInitialWindowSize cfg.connectionWindow ≤ maxWindowSize := by
    refine Nat.max_le.mpr ⟨by decide, hcw⟩
  have hfit : (new cfg).connRecv.available.val +
      (cfg.connectionWindow - defaultInitialWindowSize : Nat) ≤ maxWindowSize := by
    rw [hrecv]
    simp only
    omega
  obtain ⟨fc, gs, hr, ha, -, hg⟩ := reclaimConn_spec h0.recvWindow hfit
  have hwf := h0.reclaimConn (n := cfg.connectionWindow - defaultInitialWindowSize) (by
    change (new cfg).connRecv.available.val + _ + ((new cfg).unreleased : Int) ≤ _
    rw [hrecv, hu]
    simp only
    omega)
  refine ⟨fc, fs ++ gs, hb.trans hr, ?_, fun f hf => ?_, hb ▸ hwf⟩
  · rw [ha]
    change (new cfg).connRecv.available.val + _ = _
    rw [hrecv]
    simp only
    omega
  · rcases List.mem_append.mp hf with hm | hm
    · exact hfs f hm
    · have := hg f hm
      cases f <;> first | exact this | cases this

/-! ### The readers -/

theorem releaseCapacity_once
    (hn : ∀ e, me.streams.lookup sid = some e → e.recvReclaimed = false → n ≤ e.recvUnreleased) :
    Once (· = .settle sid n) me (me.releaseCapacity sid n).1 :=
  releaseCapacityInner_once hn

theorem releaseDataFrame_moves (me : Inner) (sid n : Nat) :
    Moves extra me (me.releaseDataFrame sid n) := by
  unfold releaseDataFrame
  split
  · exact .refl
  · next e he =>
    split
    · exact .refl
    · dsimp only
      generalize min (dataFrameOverheadThreshold - n) e.dataBudgetCharged = charge
      have h₁ : Alike me (me.setStream sid
          { e with dataBudgetCharged := e.dataBudgetCharged - charge }) :=
        .setStream he { SameEntry.refl e with }
      refine Reach.trans (Moves.admin (h₁.trans ?_)) (maybeRemoveSettled_moves _ sid)
      exact { Alike.refl (me.setStream sid
        { e with dataBudgetCharged := e.dataBudgetCharged - charge }) with }

theorem accepted_moves (me : Inner) (sid : Nat) : Moves extra me (me.accepted sid) :=
  Moves.admin { Alike.refl me with }

/-! ### The pumps and the writers -/

theorem creditAll_alike (me : Inner) (woken : List Nat) (batch : List (Nat × Nat)) :
    Alike me (me.creditAll woken batch).1 := by
  induction batch generalizing me woken with
  | nil => exact .refl _
  | cons p batch ih =>
      obtain ⟨sid, n⟩ := p
      unfold creditAll
      split
      · exact ih me woken
      · next e he =>
        have h : Alike me (me.setStream sid
            { e with sendBuffered := e.sendBuffered - n, turnFrames := 0 }) :=
          .setStream he { SameEntry.refl e with }
        exact h.trans (ih _ _)

theorem creditWritten_moves (me : Inner) : Moves extra me me.creditWritten.1 := by
  have h : Alike me { me with inflightCredit := [] } := { Alike.refl me with }
  exact Moves.admin (h.trans (creditAll_alike _ _ _))

theorem nextCapacityWake_moves (me : Inner) : Moves extra me me.nextCapacityWake.1 :=
  Moves.admin ((admitCapacityFront_alike me).trans (sendFront_alike _))

/-! ### Closing the connection -/

theorem sendGoaway_moves (me : Inner) (reason : Reason) (debugData : Bytes) :
    Moves (· = .goaway) me (me.sendGoaway reason debugData).1 := Moves.one .goaway rfl

/-- The kinds a failure can add: the error, recorded once, and the end of every stream. -/
def failKinds (me : Inner) (k : Kind) : Prop :=
  (k = .fail ∧ me.error = none) ∨ forgets me.streams.keys me k

theorem fail_moves (me : Inner) (exc : Option Err) (message : String) :
    Moves (failKinds me) me (me.fail exc message).1 := by
  unfold fail failAll
  rcases he : me.error with _ | err
  · dsimp only
    have hf : Moves (failKinds me) me { me with error := some (failError exc message) } :=
      Moves.one (.fail he) (.inl ⟨rfl, he⟩)
    have ha := abortAll_moves { me with error := some (failError exc message) } none
      me.streams.keys
    exact hf.trans (ha.mono fun k hk => .inr hk)
  · have hme : { me with error := some err } = me := by rw [← he]
    dsimp only
    rw [hme]
    exact (abortAll_moves me none me.streams.keys).mono fun k hk => .inr hk

theorem beginGracefulShutdown_moves (me : Inner) :
    Moves (· = .phase1) me me.beginGracefulShutdown.1 := by
  unfold beginGracefulShutdown
  split
  · exact .refl
  · next h =>
    have h₁ : Moves (· = .phase1) me
        ({ me with graceful := true }.emit (.goAway maxStreamIdValue .noError [])) :=
      Moves.one (.phase1 (by simpa using h)) rfl
    exact h₁.trans (Moves.common (.ctrl rfl) rfl)

end Httpunk.H2.Inner
