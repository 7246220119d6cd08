import Httpunk.H2.Safety.SendWindow

/-!
# H2 — Safety — SendCapacity

The two counters of a send window are one, and the frame limit of the encoder is the peer's: so a
send never fails half-way, and no counter leaves its range.

* `Moves.windows`: the common moves leave every send window.
* `sendData_debits`: a send takes the bytes it framed off both windows, and raises nothing.
* `Sys.send_capacity`: what holds of the send windows in every state a connection reaches.
-/

namespace Httpunk.H2

open Runs (Reach)
open Httpunk.H2.Inner

variable {me me' s s' : Inner} {sid : Nat} {e e' : StreamEntry}

/-- **The common moves leave every send window.** -/
theorem Moves.windows (r : Moves Kind.nothing s s') (h : s.Wf) :
    s'.connSend.windowSize.val = s.connSend.windowSize.val ∧
    ∀ sid e', s'.streams.lookup sid = some e' →
      ∃ e, s.streams.lookup sid = some e ∧ e'.sendFlow = e.sendFlow := by
  have hinv : s'.Wf ∧ s'.connSend.windowSize.val = s.connSend.windowSize.val ∧
      ∀ sid e', s'.streams.lookup sid = some e' →
        ∃ e, s.streams.lookup sid = some e ∧ e'.sendFlow = e.sendFlow := by
    refine Reach.invariant (I := fun t => t.Wf ∧
      t.connSend.windowSize.val = s.connSend.windowSize.val ∧
      ∀ sid e', t.streams.lookup sid = some e' →
        ∃ e, s.streams.lookup sid = some e ∧ e'.sendFlow = e.sendFlow) r
      ⟨h, rfl, fun sid e he => ⟨e, he, rfl⟩⟩ ?_
    rintro t k t' ⟨hw, hconn, hstr⟩ m (hk | hk)
    · obtain ⟨hflow, -, -⟩ := m.peer hw
      refine ⟨m.wf hw, ?_, fun sid e' he' => ?_⟩
      · cases k <;> first | (rw [← hconn]; exact hflow) | cases hk
      · rcases m.entry hw he' with ⟨e, he, hv⟩ | ho
        · obtain ⟨e₀, he₀, hf₀⟩ := hstr sid e he
          have hf := hv.flow
          refine ⟨e₀, he₀, ?_⟩
          cases k <;> first | (rw [← hf₀]; exact hf) | cases hk
        · have hopen := ho.kind_opens
          rw [Kind.opens_of_common hk] at hopen
          cases hopen
    · exact hk.elim
  exact hinv.2

/-- A send of no more bytes than there are. -/
theorem take_sent_length {data : Bytes} {offset n : Nat} (h : n ≤ data.length - offset) :
    ((data.drop offset).take n).length = n := by
  rw [List.length_take, List.length_drop]
  exact Nat.min_eq_left h

/-- **A send takes what it framed off both windows**, and raises nothing. -/
theorem sendData_debits (h : me.Wf) (sid : Nat) (data : Bytes) (offset : Nat) (endStream : Bool) :
    ∃ v me', me.sendData sid data offset endStream = (me', .ok v) ∧
      me'.connSend.windowSize.val = me.connSend.windowSize.val - v.sent ∧
      ∀ k e', me'.streams.lookup k = some e' → ∃ e, me.streams.lookup k = some e ∧
        e'.sendFlow.windowSize.val =
          e.sendFlow.windowSize.val - (if k = sid then (v.sent : Int) else 0) := by
  obtain ⟨v, me', hv, hf⟩ := sendData_framed h sid data offset endStream
  refine ⟨v, me', hv, ?_⟩
  rcases hf with hf | hf
  · obtain ⟨hconn, hstr⟩ := hf.moves.windows h
    rw [hf.sent]
    refine ⟨by rw [hconn]; omega, fun k e' he' => ?_⟩
    obtain ⟨e, he, heq⟩ := hstr k e' he'
    refine ⟨e, he, ?_⟩
    rw [heq]
    split <;> omega
  · obtain ⟨s₁, s₂, h₁, hm, h₂⟩ := hf.moved
    have hlen := take_sent_length hf.bounded
    have hw₁ : s₁.Wf := h₁.wf h
    have hw₂ : s₂.Wf := hm.wf hw₁
    obtain ⟨hconn₁, hstr₁⟩ := h₁.windows h
    obtain ⟨hconn₂, hstr₂⟩ := h₂.windows hw₂
    obtain ⟨⟨hconn, -⟩, -, -⟩ := hm.peer hw₁
    refine ⟨by rw [hconn₂, hconn, hlen, hconn₁], fun k e' he' => ?_⟩
    obtain ⟨e₂, he₂, heq₂⟩ := hstr₂ k e' he'
    rcases hm.entry hw₁ he₂ with ⟨e₁, he₁, hev⟩ | ho
    · obtain ⟨e, he, heq₁⟩ := hstr₁ k e₁ he₁
      refine ⟨e, he, ?_⟩
      have hflow := hev.flow
      simp only [Kind.flow] at hflow
      rw [heq₂]
      by_cases hk : k = sid
      · rw [if_pos hk.symm, hlen] at hflow
        rw [if_pos hk, hflow.1, heq₁]
      · rw [if_neg (Ne.symm hk)] at hflow
        rw [if_neg hk, hflow, heq₁]
        omega
    · rcases ho.kind with hk | ⟨_, hk⟩ <;> cases hk

/-- **Lowering the initial window is never refused**, and takes the difference off every window
that is open. -/
theorem applyInitialWindow_lowers (h : me.Wf) (hs : Shrinkable me) {new : Nat}
    (hn : new ≤ me.peer.initialWindowSize) :
    (∃ wake, (me.applyInitialWindow new).2 = .ok wake) ∧
    ∀ sid e', (me.applyInitialWindow new).1.streams.lookup sid = some e' →
      e'.state.isSendClosed = false → ∃ e, me.streams.lookup sid = some e ∧
        e'.sendFlow.windowSize.val = e.sendFlow.windowSize.val + new - me.peer.initialWindowSize := by
  have hwin := h.window
  have hnew : new ≤ maxWindowSize := hn.trans hwin
  unfold applyInitialWindow
  by_cases heq : new = me.peer.initialWindowSize
  · simp only [heq, if_true]
    exact ⟨⟨_, rfl⟩, fun sid e' he' _ => ⟨e', he', by omega⟩⟩
  simp only [heq, if_false]
  have hnone : (Store.scan (resizeSend me.peer.initialWindowSize new) me.streams).2 = none := by
    rcases herr : (Store.scan (resizeSend me.peer.initialWindowSize new) me.streams).2 with _ | err
    · rfl
    · obtain ⟨sid, e, hl, he⟩ := Store.scan_error herr
      rcases Wf.resizeSend_window (k := sid) (h.sendFlow hl) hwin hnew with
        ⟨-, hres⟩ | ⟨-, hres, -⟩ | ⟨ho, -, -, hlt | hlow⟩
      · rw [hres] at he; cases he
      · rw [hres] at he; cases he
      · omega
      · have hfloor := hs sid e hl ho
        unfold maxWindowSize at hfloor
        omega
  rw [hnone]
  refine ⟨⟨_, rfl⟩, fun sid e' he' ho => ?_⟩
  rw [Store.scan_ok hnone, Store.lookup_mapVals] at he'
  rcases hl : me.streams.lookup sid with _ | e
  · rw [hl] at he'
    cases he'
  · rw [hl] at he'
    have he' : (resizeSend me.peer.initialWindowSize new sid e).1 = e' := Option.some.inj he'
    rcases Wf.resizeSend_window (k := sid) (h.sendFlow hl) hwin hnew with
      ⟨hc, hres⟩ | ⟨-, -, hval⟩ | ⟨-, herr, -⟩
    · rw [hres] at he'
      subst he'
      rw [hc] at ho
      cases ho
    · exact ⟨e, rfl, by rw [← he']; exact hval⟩
    · rw [Store.scan_none hnone hl] at herr
      cases herr

namespace Sys

variable {σ : Sys} {cfg : Config}

/-- A grant of `n` goes to both counters of a window, or would take it out of range and is refused
with both as they were. -/
def GrantsWhole (fc : FlowControl) : Prop :=
  ∀ n ≤ maxWindowSize,
    (∃ w : Window, fc.grant n = (⟨w, w⟩, none) ∧ w.val = fc.windowSize.val + n) ∨
      (fc.grant n = (fc, some .flowControlError) ∧ 2 ^ 31 ≤ fc.windowSize.val + n)

/-- What holds of the send windows between two steps. -/
structure SendSound (σ : Sys) : Prop where
  conn : σ.inner.connSend.available = σ.inner.connSend.windowSize
  conn_nonneg : 0 ≤ σ.inner.connSend.windowSize.val
  stream : ∀ sid e, σ.inner.streams.lookup sid = some e →
    e.sendFlow.available = e.sendFlow.windowSize
  frame : σ.inner.sendMaxFrameSize = σ.inner.peer.maxFrameSize
  /-- No send raises, and what it frames comes off both windows. -/
  sends : ∀ sid data offset endStream, ∃ v me',
    σ.inner.sendData sid data offset endStream = (me', .ok v) ∧
      me'.connSend.windowSize.val = σ.inner.connSend.windowSize.val - v.sent ∧
      ∀ k e', me'.streams.lookup k = some e' → ∃ e, σ.inner.streams.lookup k = some e ∧
        e'.sendFlow.windowSize.val =
          e.sendFlow.windowSize.val - (if k = sid then (v.sent : Int) else 0)
  conn_grants : GrantsWhole σ.inner.connSend
  stream_grants : ∀ sid e, σ.inner.streams.lookup sid = some e → GrantsWhole e.sendFlow
  /-- While the connection has met no error, no open window is near the end of its range. -/
  floor : σ.pump.serving = true → ∀ sid e, σ.inner.streams.lookup sid = some e →
    e.state.isSendClosed = false → -(maxWindowSize : Int) ≤ e.sendFlow.windowSize.val
  /-- Nor is a lower initial window refused. -/
  lowers : σ.pump.serving = true → ∀ new ≤ σ.inner.peer.initialWindowSize,
    (∃ wake, (σ.inner.applyInitialWindow new).2 = .ok wake) ∧
    ∀ sid e', (σ.inner.applyInitialWindow new).1.streams.lookup sid = some e' →
      e'.state.isSendClosed = false → ∃ e, σ.inner.streams.lookup sid = some e ∧
        e'.sendFlow.windowSize.val =
          e.sendFlow.windowSize.val + new - σ.inner.peer.initialWindowSize

/-- **Send capacity is the send window**, in every state a connection reaches: no send fails, not
half-way either, and no counter leaves its range. -/
theorem send_capacity (cfg : Config) (σ : Sys) (r : Reached cfg σ) : SendSound σ := by
  have hwf := (ok_of_run r).wf
  have hpays := pays_of_reached r
  exact {
    conn := hwf.connSend
    conn_nonneg := hpays.within.nonneg
    stream := fun _ _ he => hwf.sendFlow he
    frame := hwf.frame
    sends := fun sid data offset endStream => sendData_debits hwf sid data offset endStream
    conn_grants := fun n hn => FlowControl.grant_spec hn hwf.connSend
    stream_grants := fun _ _ he n hn => FlowControl.grant_spec hn (hwf.sendFlow he)
    floor := fun hs sid e he ho => by
      have hfloor := hpays.shrinkable hs sid e he ho
      omega
    lowers := fun hs new hn => applyInitialWindow_lowers hwf (hpays.shrinkable hs) hn }

/-- A body past a stream's lowered window. -/
theorem send_capacity_lowered : ∃ σ, Reached clientConfig σ ∧
    σ.inner.peer.initialWindowSize = 50 ∧ SendSound σ := by
  obtain ⟨σ, r, hσ⟩ := reached_of_exec clientConfig lowered
    (fun σ => σ.inner.peer.initialWindowSize == 50) (by decide +kernel)
  exact ⟨σ, r, by simpa using hσ, send_capacity clientConfig σ r⟩

end Sys

end Httpunk.H2
