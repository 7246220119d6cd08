import Httpunk.H2.Driver.RecvFlow
import Httpunk.H2.Safety.Serving

/-!
# H2 — Safety — RecvWindows

The receive windows never stall and never overflow.

* `Granted`: what a release makes of a window: what is withheld of it is nothing, or less than half
  of what the peer sees, and an update is never empty and never too large.
* `RecvFits`, `Inner.RecvOk`: the window of a stream under the initial window it was granted.
* `Sys.windows_open`: both, in every state reached.
-/

namespace Httpunk.H2

open Runs (Reach)
open Httpunk.H2.Inner

/-! ### One window -/

/-- The window `fc` and the frames `fs` that `n` bytes given back to `old` end in. -/
structure Granted (old : FlowControl) (n : Nat) (fc : FlowControl) (sid : Nat)
    (fs : List OutFrame) : Prop where
  available : fc.available.val = old.available.val + n
  ordered : fc.windowSize.val ≤ fc.available.val
  withheld : fc.available.val = fc.windowSize.val ∨
    2 * (fc.available.val - fc.windowSize.val) < fc.windowSize.val
  frames : fs = [] ∧ fc.windowSize = old.windowSize ∨
    ∃ u : Nat, fs = [.windowUpdate sid u] ∧ 0 < u ∧
      fc.windowSize.val = old.windowSize.val + u ∧ fc.windowSize.val ≤ maxWindowSize

namespace FlowControl

/-- The announcement after `n` bytes given back: none, where it would be less than half of the
window, or the whole gap, which the window takes. -/
theorem release_spec {fc : FlowControl} {n : Nat} (ho : fc.windowSize.val ≤ fc.available.val)
    (hm : fc.available.val + n ≤ maxWindowSize)
    (hg : fc.available.val + n - fc.windowSize.val ≤ maxWindowSize) :
    ∃ a : Window, (fc.assignCapacity n).1 = { fc with available := a } ∧
      a.val = fc.available.val + n ∧
      ((({ fc with available := a } : FlowControl).unclaimedCapacity = none ∧
          (a.val = fc.windowSize.val ∨ 2 * (a.val - fc.windowSize.val) < fc.windowSize.val)) ∨
        ∃ u : Nat, ({ fc with available := a } : FlowControl).unclaimedCapacity = some u ∧
          (u : Int) = a.val - fc.windowSize.val ∧ 0 < u ∧
          ∃ w : Window, ({ fc with available := a } : FlowControl).incWindow u = (⟨w, a⟩, none) ∧
            w.val = a.val) := by
  unfold maxWindowSize at hm hg
  have hl := fc.windowSize.lower
  have hn : n ≤ maxWindowSize := by unfold maxWindowSize; omega
  obtain ⟨a, ha, hav⟩ := Window.increaseBy_of_le (w := fc.available) (n := n) (by omega) hn
  refine ⟨a, by rw [assignCapacity, ha], hav, ?_⟩
  have he : asI32 (a.val - fc.windowSize.val) = a.val - fc.windowSize.val :=
    asI32_of_mem (by omega) (by omega)
  unfold unclaimedCapacity
  dsimp only
  rw [he]
  split
  · exact .inl ⟨rfl, .inl (by omega)⟩
  · next hlt =>
    split
    · next ht =>
      refine .inl ⟨rfl, .inr ?_⟩
      -- below zero the threshold is not positive, and the gap is
      rw [Int.mul_one, Int.tdiv_eq_ediv] at ht
      split at ht
      · omega
      · next hneg =>
        have hs : Int.sign 2 = 1 := rfl
        rw [hs] at ht
        omega
    · have hu := asU32_of_mem (x := a.val - fc.windowSize.val) (by omega) (by omega)
      refine .inr ⟨_, rfl, hu, by omega, ?_⟩
      obtain ⟨w, hi, hw⟩ := @incWindow_of_lt { fc with available := a }
        (asU32 (a.val - fc.windowSize.val)) (by unfold maxWindowSize; omega)
        (by simp only; omega)
      exact ⟨w, hi, by simp only at hw; omega⟩

end FlowControl

/-! ### The connection's window -/

/-- **A release on the connection.** -/
theorem reclaimConn_granted {me : Inner} {n : Nat} (hn : n ≠ 0)
    (hw : 0 ≤ me.connRecv.windowSize.val ∧
      me.connRecv.windowSize.val ≤ me.connRecv.available.val)
    (hm : me.connRecv.available.val + n ≤ maxWindowSize) :
    ∃ fc fs, me.reclaimConn n = { me with connRecv := fc, pending := me.pending ++ fs } ∧
      Granted me.connRecv n fc 0 fs := by
  obtain ⟨a, ha, hav, hc⟩ := FlowControl.release_spec hw.2 hm (by omega)
  unfold reclaimConn
  rw [if_neg hn]
  dsimp only
  rw [ha]
  rcases hc with ⟨hu, hwh⟩ | ⟨u, hu, hue, hpos, w, hi, hwv⟩
  · rw [hu]
    exact ⟨{ me.connRecv with available := a }, [], by rw [List.append_nil], hav,
      by simp only; omega, hwh, .inl ⟨rfl, rfl⟩⟩
  · rw [hu]
    dsimp only
    rw [hi]
    exact ⟨⟨w, a⟩, [.windowUpdate 0 u], rfl, hav, hwv.le, .inl hwv.symm,
      .inr ⟨u, rfl, hpos, by simp only; omega, by simp only; omega⟩⟩

/-! ### The window of a stream -/

/-- The window of a stream under the initial window `init`: what is available of it and what is
unread are no more than it, and exactly as much, but for a stream that `x` excuses or whose bytes
went back in bulk; and the window is short of it by no more than `top`. -/
structure RecvFits (x : Prop) (top init : Nat) (e : StreamEntry) : Prop where
  ordered : e.recvFlow.windowSize.val ≤ e.recvFlow.available.val
  bound : e.recvFlow.available.val + e.recvUnreleased ≤ init
  exact : ¬x → e.recvReclaimed = false → e.recvFlow.available.val + e.recvUnreleased = init
  floor : init ≤ e.recvFlow.windowSize.val + top

/-- The windows of the streams fit, and no initial window is above `top`. -/
def Inner.RecvOk (me : Inner) (x : Nat → Prop) (top : Nat) : Prop :=
  me.recvInit ≤ top ∧ (∀ v ∈ me.settings.values.initialWindowSize, v ≤ top) ∧
    ∀ sid e, me.streams.lookup sid = some e → RecvFits (x sid) top me.recvInit e

/-- The outcome of a frame leaves the stream `sid` to be reset. -/
def Resets {α : Type} (r : Except Err α) (sid : Nat) : Prop :=
  ∃ reason, r = .error (streamErr sid reason)

variable {s me : Inner} {x : Nat → Prop} {top init sid n : Nat} {e e' : StreamEntry}

theorem RecvFits.untouched {q : Prop} (ht : init ≤ top) (hm : top ≤ maxWindowSize)
    (h : e.Untouched init) : RecvFits q top init e := by
  obtain ⟨w, hw, hv⟩ := FlowControl.opened_spec (ht.trans hm)
  have hf : e.recvFlow = ⟨w, w⟩ := h.1.trans hw
  constructor
  · rw [hf]
  · rw [hf, h.2]; simp only; omega
  · intro _ _
    rw [hf, h.2]; simp only; omega
  · rw [hf]; simp only; omega

theorem RecvFits.sameWindow {q : Prop} (hf : RecvFits q top init e) (h : e.SameWindow e') :
    RecvFits q top init e' := by
  have hb := hf.bound
  rcases h.unread with ⟨hu, hr⟩ | ⟨hu, hr⟩
  · exact ⟨h.recvFlow ▸ hf.ordered, by rw [h.recvFlow, hu]; exact hb,
      fun hq hr' => by rw [h.recvFlow, hu]; exact hf.exact hq (hr ▸ hr'), h.recvFlow ▸ hf.floor⟩
  · exact ⟨h.recvFlow ▸ hf.ordered, by rw [h.recvFlow, hu]; omega,
      fun _ hr' => Bool.noConfusion (hr.symm.trans hr'),
      h.recvFlow ▸ hf.floor⟩

/-- What the release of a stream's bytes makes of its window keeps the fit. -/
theorem RecvFits.granted {q : Prop} {fc : FlowControl} {fs : List OutFrame}
    (h : RecvFits q top init e) (hg : Granted e.recvFlow n fc sid fs) (hn : n ≤ e.recvUnreleased) :
    RecvFits q top init { e with recvUnreleased := e.recvUnreleased - n, recvFlow := fc } := by
  have hb := h.bound
  have hfl := h.floor
  have ha := hg.available
  constructor
  · exact hg.ordered
  · simp only; omega
  · intro hq hr
    have := h.exact hq hr
    simp only; omega
  · simp only
    rcases hg.frames with ⟨-, hw⟩ | ⟨u, -, -, hw, -⟩
    · rw [hw]; exact hfl
    · omega

/-- The connection once `n` bytes of `sid` went back: its window is `fc`, with the frames `fs`. -/
def Inner.released (me : Inner) (sid n : Nat) (e : StreamEntry) (fc : FlowControl)
    (fs : List OutFrame) : Inner :=
  (({ me.setStream sid { e with recvUnreleased := e.recvUnreleased - n, recvFlow := fc } with
      pending := me.pending ++ fs }).reclaimConn n).maybeRemoveSettled sid

/-- The count of the unread bytes does not wrap. -/
theorem RecvFits.received_mod {q : Prop} {fc : FlowControl} {sz : Nat}
    (h : RecvFits q top init e) (ht : init ≤ top) (hm : top ≤ maxWindowSize)
    (hs : fcSendData e.recvFlow sz = (fc, none)) :
    (e.recvUnreleased + sz) % 2 ^ 32 = e.recvUnreleased + sz := by
  obtain ⟨hw, ha, hle⟩ := fcSendData_ok hs
  have hb := h.bound
  have ho := h.ordered
  have hfl := h.floor
  exact Nat.mod_eq_of_lt (by unfold maxWindowSize at hm; omega)

namespace Inner.RecvOk

/-- What leaves the windows alone keeps the fit. -/
theorem kin (h : s.RecvOk x top) (hm : top ≤ maxWindowSize) (hk : Kin s me) :
    me.RecvOk x top := by
  refine ⟨hk.1 ▸ h.1, hk.2.1 ▸ h.2.1, fun sid e he => ?_⟩
  rw [hk.1]
  rcases hk.2.2 sid e he with hu | ⟨e₀, h₀, hw⟩
  · exact .untouched h.1 hm hu
  · exact (h.2.2 sid e₀ h₀).sameWindow hw

theorem set (h : me.RecvOk x top) (he : RecvFits (x sid) top me.recvInit e') :
    (me.setStream sid e').RecvOk x top := by
  refine ⟨h.1, h.2.1, fun k a ha => ?_⟩
  rw [lookup_setStream] at ha
  split at ha
  · next hk =>
    cases ha
    exact hk ▸ he
  · exact h.2.2 k a ha

/-- The excuse of a stream that is gone is not needed. -/
theorem narrow {y : Nat → Prop} (h : me.RecvOk x top)
    (hxy : ∀ k e, me.streams.lookup k = some e → x k → y k) : me.RecvOk y top :=
  ⟨h.1, h.2.1, fun sid e he => { h.2.2 sid e he with
    exact := fun hy => (h.2.2 sid e he).exact fun hx => hy (hxy sid e he hx) }⟩

theorem mono {y : Nat → Prop} (h : me.RecvOk x top) (hxy : ∀ k, x k → y k) :
    me.RecvOk y top := h.narrow fun k _ _ => hxy k

/-- **A release on a stream** that is stored, and whose bytes did not go back in bulk: its bytes
are added to what is available, and the gap is announced, unless the peer has ended the stream. -/
theorem release_granted (h : me.RecvOk x top) (hm : top ≤ maxWindowSize)
    (he : me.streams.lookup sid = some e) (hr : e.recvReclaimed = false)
    (hn : n ≤ e.recvUnreleased) :
    ∃ fc fs, me.releaseCapacityInner sid n = me.released sid n e fc fs ∧
      RecvFits (x sid) top me.recvInit
        { e with recvUnreleased := e.recvUnreleased - n, recvFlow := fc } ∧
      (e.state.isRecvEndStream = false → Granted e.recvFlow n fc sid fs) := by
  have hf := h.2.2 sid e he
  have hb := hf.bound
  have hfl := hf.floor
  have ht := h.1
  obtain ⟨a, ha, hav, hc⟩ := FlowControl.release_spec (n := n) hf.ordered (by omega) (by omega)
  have hout : RecvFits (x sid) top me.recvInit { e with
      recvUnreleased := e.recvUnreleased - n, recvFlow := { e.recvFlow with available := a } } := by
    have ho := hf.ordered
    constructor
    · simp only; omega
    · simp only; omega
    · intro hq hr'
      have := hf.exact hq hr'
      simp only; omega
    · exact hfl
  unfold releaseCapacityInner
  rw [he]
  dsimp only
  rw [if_neg (by rw [hr]; decide), ha]
  rcases hc with ⟨hu, hwh⟩ | ⟨u, hu, hue, hpos, w, hi, hwv⟩
  · rw [hu]
    refine ⟨{ e.recvFlow with available := a }, [], by rw [released, List.append_nil]; rfl, hout,
      fun _ => ?_⟩
    exact ⟨hav, by have := hf.ordered; simp only; omega, hwh, .inl ⟨rfl, rfl⟩⟩
  · rw [hu]
    dsimp only
    rw [hi]
    have hg : Granted e.recvFlow n ⟨w, a⟩ sid [.windowUpdate sid u] :=
      ⟨hav, hwv.le, .inl hwv.symm,
        .inr ⟨u, rfl, hpos, by simp only; omega, by simp only; omega⟩⟩
    cases hs : e.state.isRecvEndStream with
    | true => exact ⟨{ e.recvFlow with available := a }, [], by rw [released, List.append_nil]; rfl, hout,
        fun h => by cases h⟩
    | false => exact ⟨⟨w, a⟩, [.windowUpdate sid u], rfl, hf.granted hg hn, fun _ => hg⟩

theorem releaseCapacityInner (h : me.RecvOk x top) (hm : top ≤ maxWindowSize)
    (hn : ∀ e, me.streams.lookup sid = some e → e.recvReclaimed = false →
      n ≤ e.recvUnreleased) : (me.releaseCapacityInner sid n).RecvOk x top := by
  rcases he : me.streams.lookup sid with _ | e
  · unfold Inner.releaseCapacityInner
    rw [he]
    exact h
  · cases hr : e.recvReclaimed with
    | true =>
      unfold Inner.releaseCapacityInner
      rw [he]
      dsimp only
      rw [if_pos hr]
      exact h
    | false =>
      obtain ⟨fc, fs, heq, hf, -⟩ := h.release_granted hm he hr (hn e he hr)
      rw [heq]
      refine kin (s := me.setStream sid _) (h.set hf) hm ?_
      refine Kin.maybeRemoveSettled (Kin.reclaimConn ?_ n) sid
      exact Kin.refl (me.setStream sid _)

/-! ### DATA -/

/-- The window once a frame of `sz` bytes is taken off it: its bytes are unread, or nobody's. -/
theorem received_fits {q q' : Prop} {fc : FlowControl} {sz u : Nat} {cl : ContentLength}
    (h : RecvFits q top init e) (ht : init ≤ top)
    (hf : fcSendData e.recvFlow sz = (fc, none)) (hu : u ≤ e.recvUnreleased + sz)
    (hx : ¬q' → ¬q ∧ u = e.recvUnreleased + sz) :
    RecvFits q' top init
      { e with recvFlow := fc, contentLength := cl, recvUnreleased := u } := by
  obtain ⟨hw, ha, hle⟩ := fcSendData_ok hf
  have hb := h.bound
  have ho := h.ordered
  have hfl := h.floor
  constructor
  · simp only; omega
  · simp only; omega
  · intro hq hr
    obtain ⟨hq, hu⟩ := hx hq
    have := h.exact hq hr
    simp only; omega
  · simp only; omega

theorem deliverData (h : me.RecvOk x top) (hm : top ≤ maxWindowSize) (frame : Data)
    (before : Nat) (hf : RecvFits (x frame.streamId) top me.recvInit { e with
      recvUnreleased := (e.recvUnreleased + frame.flowControlledLen) % 2 ^ 32 })
    (hp : frame.padding ≤ (e.recvUnreleased + frame.flowControlledLen) % 2 ^ 32) :
    (me.deliverData frame e before).1.RecvOk x top := by
  have hs := @set _ _ _ frame.streamId _ h hf
  unfold Inner.deliverData
  dsimp only
  generalize hmd : (if frame.padding > 0 then
    (me.setStream frame.streamId { e with
      recvUnreleased := (e.recvUnreleased + frame.flowControlledLen) % 2 ^ 32
    }).releaseCapacityInner frame.streamId frame.padding
    else me.setStream frame.streamId { e with
      recvUnreleased := (e.recvUnreleased + frame.flowControlledLen) % 2 ^ 32 }) = m
  have hrm : m.RecvOk x top := by
    rw [← hmd]
    split
    · refine hs.releaseCapacityInner hm fun e' he' _ => ?_
      rw [lookup_setStream, if_pos rfl] at he'
      cases he'
      exact hp
    · exact hs
  generalize hc : (if (!frame.endStream) = true then
    m.recordDataFrame frame.streamId frame.data.length else (m, none)) = c
  have hk : Kin m c.1 := by
    rw [← hc]
    split
    · exact (Kin.refl m).recordDataFrame _ _
    · exact .refl m
  obtain ⟨c, r⟩ := c
  refine hrm.kin hm ?_
  cases r with
  | some err => exact hk
  | none =>
    dsimp only
    split
    · exact hk
    · split
      · split
        · exact hk
        · next e' he' =>
          split
          · exact hk
          · next st _ => exact Kin.closeStream (hk.state he' st) _
      · exact hk

theorem recvDataOn (h : me.RecvOk x top) (hm : top ≤ maxWindowSize) (frame : Data)
    (before : Nat) (he : me.streams.lookup frame.streamId = some e) :
    (me.recvDataOn frame e before).1.RecvOk
      (fun k => x k ∨ Resets (me.recvDataOn frame e before).2 k) top := by
  have hf := h.2.2 _ e he
  have ht := h.1
  unfold Inner.recvDataOn
  dsimp only
  split
  · next m err hc =>
    have hk : Kin me m := by
      have := Kin.refl me
      rw [show m = (me.consumeConnRecv frame.flowControlledLen).1 from congrArg Prod.fst hc.symm]
      exact this
    exact (h.kin hm hk).mono fun k => .inl
  · next m hc =>
    have hk : Kin me m := by
      have := Kin.refl me
      rw [show m = (me.consumeConnRecv frame.flowControlledLen).1 from congrArg Prod.fst hc.symm]
      exact this
    have hinit : m.recvInit = me.recvInit := hk.1
    have hmo := h.kin hm hk
    split
    · next fc r hs =>
      obtain ⟨rfl, -, -⟩ := fcSendData_error hf.ordered hs
      have hset := @set _ _ _ frame.streamId _ hmo (hinit.symm ▸ hf)
      refine (hset.kin hm ?_).mono fun k => .inl
      exact (Kin.refl _).reclaimConn _
    · next fc hs =>
      -- the declared length is exceeded, or not met: the bytes are nobody's
      have refused : ∀ cl : ContentLength,
          (m.setStream frame.streamId { e with recvFlow := fc, contentLength := cl }).RecvOk
            (fun k => x k ∨ k = frame.streamId) top := fun cl =>
        (hmo.mono fun k => .inl).set (hinit.symm ▸
          received_fits hf ht hs (Nat.le_add_right _ _) fun hq => absurd (.inr rfl) hq)
      have reset : ∀ cl : ContentLength, ((m.setStream frame.streamId
          { e with recvFlow := fc, contentLength := cl }).reclaimConn
            frame.flowControlledLen).RecvOk (fun k => x k ∨ Resets (α := RecvDataVerdict)
            (.error (streamErr frame.streamId .protocolError)) k) top := fun cl =>
        ((refused cl).kin hm ((Kin.refl _).reclaimConn _)).mono fun k hk =>
          hk.imp id fun hk => ⟨.protocolError, by rw [hk]⟩
      split
      · exact reset e.contentLength
      · next cl _ =>
        split
        · exact reset cl
        · have hmod := hf.received_mod ht hm hs
          refine (hmo.deliverData hm frame before (e := { e with
            recvFlow := fc, contentLength := cl }) ?_ ?_).mono fun k => .inl
          · rw [hinit]
            exact received_fits (e := e) hf ht hs hmod.le fun hq => ⟨hq, hmod⟩
          · change frame.padding ≤ (e.recvUnreleased + frame.flowControlledLen) % 2 ^ 32
            rw [hmod, Data.flowControlledLen]
            omega

theorem recvData (h : me.RecvOk x top) (hm : top ≤ maxWindowSize) (frame : Data) :
    (me.recvData frame).1.RecvOk (fun k => x k ∨ Resets (me.recvData frame).2 k) top := by
  have hl := (Kin.refl me).recvLookup frame.streamId
  unfold Inner.recvData
  dsimp only
  split
  · next m err hr =>
    rw [hr] at hl
    have hi := hl.ignoreData frame.flowControlledLen
    refine (h.kin hm ?_).mono fun k => .inl
    split
    · next hr' => rw [hr'] at hi; exact hi
    · next hr' => rw [hr'] at hi; exact hi
  · next m hr =>
    rw [hr] at hl
    have hi := hl.ignoreData frame.flowControlledLen
    refine (h.kin hm ?_).mono fun k => .inl
    split
    · next hr' => rw [hr'] at hi; exact hi
    · next hr' => rw [hr'] at hi; exact hi
  · next m sid hr =>
    rw [hr] at hl
    have hmo := h.kin hm hl
    have hsid := recvLookup_found hr
    split
    · exact hmo.mono fun k => .inl
    · next e he =>
      split
      · exact hmo.mono fun k => .inl
      · exact hmo.recvDataOn hm frame me.pending.length (hsid.2.1 ▸ he)

/-! ### SETTINGS -/

/-- A window that moves with the initial window: it does not overflow, since neither is above
`top`. -/
theorem resizeRecv_fits {q : Prop} {target : Nat} (h : RecvFits q top init e) (ht : init ≤ top)
    (ht' : target ≤ top) (hm : top ≤ maxWindowSize) :
    (resizeRecv init target sid e).2 = none ∧
      RecvFits q top target (resizeRecv init target sid e).1 := by
  have ho := h.ordered
  have hb := h.bound
  have hfl := h.floor
  unfold maxWindowSize at hm
  unfold resizeRecv
  dsimp only
  split
  · next hgt =>
    have hd : target - init ≤ maxWindowSize := by unfold maxWindowSize; omega
    obtain ⟨w, hi, hw⟩ := @FlowControl.incWindow_of_lt e.recvFlow _ hd (by omega)
    obtain ⟨a, ha, hav⟩ := Window.increaseBy_of_le (w := e.recvFlow.available)
      (n := target - init) (by omega) hd
    have hg : e.recvFlow.grant (target - init) = (⟨w, a⟩, none) := by
      unfold FlowControl.grant FlowControl.assignCapacity
      rw [hi]
      dsimp only
      rw [ha]
    rw [hg]
    refine ⟨rfl, ?_, ?_, fun hq hr => ?_, ?_⟩
    · simp only; omega
    · simp only; omega
    · have := h.exact hq hr
      simp only; omega
    · simp only; omega
  · next hle =>
    have hd : init - target ≤ maxWindowSize := by unfold maxWindowSize; omega
    obtain ⟨w, hw, hwv⟩ := Window.decreaseBy_of_le (w := e.recvFlow.windowSize)
      (n := init - target) (by omega) hd
    obtain ⟨a, ha, hav⟩ := Window.decreaseBy_of_le (w := e.recvFlow.available)
      (n := init - target) (by omega) hd
    have hg : e.recvFlow.decRecvWindow (init - target) = (⟨w, a⟩, none) := by
      unfold FlowControl.decRecvWindow
      rw [hw]
      dsimp only
      rw [ha]
    rw [hg]
    refine ⟨rfl, ?_, ?_, fun hq hr => ?_, ?_⟩
    · simp only; omega
    · simp only; omega
    · have := h.exact hq hr
      simp only; omega
    · simp only; omega

theorem applyLocalSettings (h : me.RecvOk x top) (hm : top ≤ maxWindowSize) :
    me.applyLocalSettings.1.RecvOk x top := by
  have hset : ∀ l, Inner.RecvOk { me with limits := l } x top := fun _ => h
  unfold Inner.applyLocalSettings
  dsimp only
  split
  · exact h
  · split
    · exact h
    · next target htarget =>
      have ht := h.2.1 target htarget
      split
      · next heq => exact ⟨heq ▸ h.1, h.2.1, heq ▸ h.2.2⟩
      · next hne =>
        have hok : (Store.scan (resizeRecv me.recvInit target) me.streams).2 = none := by
          by_contra hn
          obtain ⟨err, herr⟩ := Option.ne_none_iff_exists'.mp hn
          obtain ⟨k, e, he, hres⟩ := Store.scan_error herr
          rw [(resizeRecv_fits (h.2.2 k e he) h.1 ht hm).1] at hres
          cases hres
        refine ⟨ht, h.2.1, fun k a ha => ?_⟩
        change (Store.scan (resizeRecv me.recvInit target) me.streams).1.lookup k = some a at ha
        rw [Store.scan_ok hok, Store.lookup_mapVals] at ha
        obtain ⟨e, he, rfl⟩ := Option.map_eq_some_iff.mp ha
        exact (resizeRecv_fits (h.2.2 k e he) h.1 ht hm).2

theorem recvSettings (h : me.RecvOk x top) (hm : top ≤ maxWindowSize) (frame : SettingsFrame) :
    (me.recvSettings frame).1.RecvOk x top := by
  unfold Inner.recvSettings
  dsimp only
  split
  · split
    · exact h
    · next st hst =>
      have hs : Inner.RecvOk { me with settings := st } x top := by
        refine ⟨h.1, ?_, h.2.2⟩
        unfold Settings.recvAck at hst
        split at hst
        · cases hst
          exact h.2.1
        · cases hst
      have hl := hs.applyLocalSettings hm
      split
      · next hr => rw [hr] at hl; exact hl
      · next hr => rw [hr] at hl; exact hl
  · have hk : Kin me { me.emit .settingsAck with settings := (me.settings.recvRemote).1 } :=
      Kin.refl me
    have hr := h.kin hm (hk.applyRemoteSettings frame.values)
    split
    · next h' => rw [h'] at hr; exact hr
    · next h' => rw [h'] at hr; exact hr

/-- **Frames.**  A frame keeps the windows, but for the stream it leaves to be reset. -/
theorem dispatch (h : me.RecvOk x top) (hm : top ≤ maxWindowSize) (f : Frame) :
    (me.dispatch f).1.RecvOk (fun k => x k ∨ Resets (me.dispatch f).2 k) top := by
  have hr := Kin.refl me
  cases f with
  | data f =>
    refine (h.recvData hm f).mono fun k hk => hk.imp id fun hk => ?_
    obtain ⟨reason, hk⟩ := hk
    exact ⟨reason, by rw [Inner.dispatch, hk]; rfl⟩
  | settings f => exact (h.recvSettings hm f).mono fun k => .inl
  | headers f => exact (h.kin hm (hr.recvHeaders f _)).mono fun k => .inl
  | windowUpdate f => exact (h.kin hm (hr.recvWindowUpdate f)).mono fun k => .inl
  | ping f => exact (h.kin hm (hr.recvPing f)).mono fun k => .inl
  | goAway f => exact (h.kin hm (hr.recvGoAway f)).mono fun k => .inl
  | rstStream f => exact (h.kin hm (hr.recvReset f)).mono fun k => .inl
  | priority _ => exact h.mono fun k => .inl
  | streamError _ _ _ => exact h.mono fun k => .inl

/-- **Calls.** -/
theorem call (h : me.RecvOk x top) (hm : top ≤ maxWindowSize) (c : Call)
    (hheld : ∀ sid n, c = .releaseCapacity sid n → ∀ e, me.streams.lookup sid = some e →
      e.recvReclaimed = false → n ≤ e.recvUnreleased) : (me.call c).1.RecvOk x top := by
  cases c with
  | releaseCapacity sid n => exact h.releaseCapacityInner hm (hheld sid n rfl)
  | _ => exact h.kin hm ((Kin.refl me).call _ fun _ _ h => by cases h)

theorem begin (h : me.RecvOk x top) (hm : top ≤ maxWindowSize) : me.begin.RecvOk x top := by
  have hk : Kin me { me with
      pending := me.pending ++ me.handshake, settings := me.settings.markSent } := Kin.refl me
  unfold Inner.begin
  dsimp only
  split
  · exact h.kin hm (hk.reclaimConn _)
  · exact h.kin hm hk

end Inner.RecvOk

theorem resetOnError_gone {reason : Reason} {v : ResetVerdict}
    (h : (me.resetOnError sid reason).2 = .ok v) :
    (me.resetOnError sid reason).1.streams.lookup sid = none := by
  unfold resetOnError at h ⊢
  dsimp only at h ⊢
  split at h
  · cases h
  · next hmax =>
    rw [if_neg hmax]
    split
    · exact resetStream_gone _ sid reason .library
    · next hn =>
      split
      · have hs := enqueueResetExpiration_streams
          { me with localErrorResets := me.localErrorResets + 1 } sid
        exact (congrArg (AList.lookup sid) hs).trans hn
      · exact hn

/-! ### The driver -/

/-- The largest initial window of a run: the configured one, or the default that stands before
our SETTINGS are acknowledged. -/
def Config.topWindow (cfg : Config) : Nat := max cfg.initialWindowSize defaultInitialWindowSize

namespace Sys

variable {σ σ' : Sys} {a : Action} {cfg : Config}

/-- The streams whose windows are not accounted for: one the read pump is about to reset, and all
of them once it is about to end. -/
def Exempt (σ : Sys) (k : Nat) : Prop :=
  match σ.pump with
  | .running => False
  | .resetting sid _ => k = sid
  | _ => True

theorem excused_raised (inner : Inner) (e : Err) (k : Nat) :
    Exempt { σ with inner := inner, pump := .raised e } k := by
  cases e <;> trivial

theorem topWindow_le (cfg : Config) : cfg.topWindow ≤ maxWindowSize :=
  max_le cfg.stream_window_le (by unfold defaultInitialWindowSize maxWindowSize; omega)

theorem windows_init (cfg : Config) :
    (Sys.init cfg).inner.RecvOk (Sys.init cfg).Exempt cfg.topWindow := by
  rw [inner_init]
  have hn : (Inner.new cfg).RecvOk (Sys.init cfg).Exempt cfg.topWindow := by
    refine ⟨le_rfl, ?_, fun sid e he => ?_⟩
    · intro v hv
      cases hv
      exact le_max_left _ _
    · cases he
  exact hn.begin (topWindow_le cfg)

/-- **Step.** -/
theorem windows_step (h : σ.inner.RecvOk σ.Exempt top) (hm : top ≤ maxWindowSize) (ho : σ.Ok)
    (hs : Step σ a σ') : σ'.inner.RecvOk σ'.Exempt top := by
  unfold Step step at hs
  cases a with
  | recv f =>
    dsimp only at hs
    split at hs
    · next hp =>
      cases hs
      have hd := h.dispatch hm f
      unfold recv
      dsimp only
      split
      · next acts hr =>
        refine hd.mono fun k hk => ?_
        rcases hk with hk | ⟨reason, hk⟩
        · exact hk
        · rw [hr] at hk; cases hk
      · next err hr =>
        refine hd.mono fun k hk => ?_
        rcases hk with hk | ⟨reason, hk⟩
        · unfold Exempt at hk
          rw [hp] at hk
          exact hk.elim
        · rw [hr] at hk
          cases hk
          rfl
    · cases hs
  | raised e =>
    dsimp only at hs
    split at hs
    · cases hs
      exact h.mono fun k _ => excused_raised (σ := σ) σ.inner e k
    · cases hs
  | pump =>
    dsimp only at hs
    unfold pumpStep at hs
    split at hs
    · next sid reason hp =>
      have hr := h.kin hm ((Kin.refl σ.inner).resetOnError sid reason)
      dsimp only at hs
      split at hs
      · next v hv =>
        cases hs
        refine hr.narrow fun k e he hk => ?_
        unfold Exempt at hk
        rw [hp] at hk
        obtain rfl : k = sid := hk
        rw [resetOnError_gone hv] at he
        cases he
      · next err _ =>
        cases hs
        exact hr.mono fun k _ => excused_raised (σ := σ) _ err k
    · cases hs
      exact h.mono fun k _ => trivial
    · cases hs
      exact (h.kin hm ((Kin.refl σ.inner).fail _ _)).mono fun k _ => trivial
    · cases hs
    · cases hs
  | reply =>
    dsimp only at hs
    split at hs
    · next hp =>
      cases hs
      refine (h.kin hm (Kin.refl σ.inner).maybeGoawayReply).mono fun k hk => ?_
      unfold Exempt at hk
      rw [hp] at hk
      exact hk.elim
    · cases hs
  | call c =>
    dsimp only at hs
    split at hs
    · next hc =>
      cases hs
      refine h.call hm c ?_
      rintro sid n rfl e he hr
      exact (by simpa [allowed] using hc : n ≤ σ.owed sid).trans (ho.covers.held he hr)
    · cases hs
  | flush =>
    cases hs
    exact h
  | tick d =>
    cases hs
    exact h
  | rehash m =>
    dsimp only at hs
    split at hs
    · next hperm =>
      cases hs
      refine ⟨h.1, h.2.1, fun sid e he => h.2.2 sid e ?_⟩
      exact (AList.perm_lookup hperm).trans he
    · cases hs

/-- **Run.** -/
theorem windows (r : Reached cfg σ) : σ.inner.RecvOk σ.Exempt cfg.topWindow := by
  refine (Reach.invariant (I := fun σ => σ.Ok ∧ σ.inner.RecvOk σ.Exempt cfg.topWindow) r
    ⟨ok_init cfg, windows_init cfg⟩ fun {σ a σ'} hi hs _ => ?_).2
  exact ⟨hi.1.step hs, windows_step hi.2 (topWindow_le cfg) hi.1 hs⟩

theorem begin_granted {me : Inner} (he : me.connRecv.available = me.connRecv.windowSize)
    (hw : 0 ≤ me.connRecv.windowSize.val)
    (hm : me.connRecv.available.val + (me.connRecvTarget - defaultInitialWindowSize : Nat) ≤
      maxWindowSize) : ∃ fs, me.begin.pending = me.pending ++ me.handshake ++ fs ∧
      Granted me.connRecv (me.connRecvTarget - defaultInitialWindowSize)
        me.begin.connRecv 0 fs := by
  rw [Inner.begin_eq]
  by_cases hz : me.connRecvTarget - defaultInitialWindowSize = 0
  · rw [hz, reclaimConn, if_pos rfl]
    exact ⟨[], (List.append_nil _).symm, by simp, by simp only [he]; exact le_rfl,
      .inl (by simp only [he]), .inl ⟨rfl, rfl⟩⟩
  · obtain ⟨fc, fs, heq, hg⟩ := @reclaimConn_granted
      { me with pending := me.pending ++ me.handshake, settings := me.settings.markSent } _
      hz ⟨hw, by rw [he]⟩ hm
    rw [heq]
    exact ⟨fs, rfl, hg⟩

/-- The handshake raises the window of the connection to the configured one. -/
theorem handshake_granted (cfg : Config) : ∃ fs,
    (Sys.init cfg).inner.pending = (Inner.new cfg).handshake ++ fs ∧
      Granted (Inner.new cfg).connRecv (cfg.connectionWindow - defaultInitialWindowSize)
        (Sys.init cfg).inner.connRecv 0 fs := by
  have hle : cfg.connectionWindow ≤ maxWindowSize := cfg.conn_window_le
  have hd : defaultInitialWindowSize ≤ maxWindowSize := by decide
  obtain ⟨w, hw, hv⟩ := FlowControl.opened_spec (n := defaultInitialWindowSize) (by decide)
  have hconn : (Inner.new cfg).connRecv = ⟨w, w⟩ := hw
  have ht : (Inner.new cfg).connRecvTarget = cfg.connectionWindow := rfl
  have hsum : w.val + (cfg.connectionWindow - defaultInitialWindowSize : Nat) ≤ maxWindowSize := by
    omega
  have hb : ∃ fs, (Inner.new cfg).begin.pending =
      (Inner.new cfg).pending ++ (Inner.new cfg).handshake ++ fs ∧
      Granted (Inner.new cfg).connRecv
        ((Inner.new cfg).connRecvTarget - defaultInitialWindowSize)
        (Inner.new cfg).begin.connRecv 0 fs :=
    begin_granted (by rw [hconn]) (by rw [hconn, hv]; exact Int.natCast_nonneg _)
      (by rw [hconn, ht]; exact hsum)
  obtain ⟨fs, hp, hg⟩ := hb
  rw [show (Inner.new cfg).pending = [] from rfl, List.nil_append] at hp
  rw [ht] at hg
  rw [inner_init]
  exact ⟨fs, hp, hg⟩

/-- The bytes a call gives back to the connection fit its window: unread ones are in the ledger,
and those of a frame that is dropped have just been taken from it. -/
theorem returned_fits {s t : Inner} {n : Nat} (h : s.Wf)
    (hback : (t.connRecv = s.connRecv ∧ n ≤ s.unreleased) ∨
      fcSendData s.connRecv n = (t.connRecv, none)) :
    (0 ≤ t.connRecv.windowSize.val ∧ t.connRecv.windowSize.val ≤ t.connRecv.available.val) ∧
      t.connRecv.available.val + n ≤ maxWindowSize := by
  have hl := h.ledger
  rcases hback with ⟨hc, hn⟩ | hc
  · rw [hc]
    exact ⟨h.recvWindow, by omega⟩
  · obtain ⟨-, ha, -⟩ := fcSendData_ok hc
    exact ⟨(h.consume hc).recvWindow, by omega⟩

/-- **No stall and no overflow.**  In every state reached: the bytes a reader gives back on a
stream that can still receive, the padding of a DATA frame, and the bytes that go back to the
connection at any point, unread ones and those of a frame that is dropped, leave nothing withheld
or less than half of what the peer sees, and what is announced is never empty and never takes the
peer's window above its bound, from the handshake on; and while the read pump runs, what is
available of a stream and what is unread are the whole initial window. -/
theorem windows_open (cfg : Config) (σ : Sys) (r : Reached cfg σ) :
    (∃ fs, (Sys.init cfg).inner.pending = (Inner.new cfg).handshake ++ fs ∧
      Granted (Inner.new cfg).connRecv (cfg.connectionWindow - defaultInitialWindowSize)
        (Sys.init cfg).inner.connRecv 0 fs) ∧
    (∀ sid n e, σ.inner.streams.lookup sid = some e → e.recvReclaimed = false →
      e.state.isRecvEndStream = false → σ.allowed (.releaseCapacity sid n) = true →
        ∃ fc fs, (σ.inner.call (.releaseCapacity sid n)).1 = σ.inner.released sid n e fc fs ∧
          Granted e.recvFlow n fc sid fs) ∧
    (∀ (f : Data) e e₁ m m₁ fc cl, σ.inner.streams.lookup f.streamId = some e →
      e.recvReclaimed = false → e.state.isRecvEndStream = false →
      σ.inner.consumeConnRecv f.flowControlledLen = (m, none) →
      fcSendData e.recvFlow f.flowControlledLen = (fc, none) →
      e₁ = { e with
        recvFlow := fc
        contentLength := cl
        recvUnreleased := (e.recvUnreleased + f.flowControlledLen) % 2 ^ 32 } →
      m₁ = m.setStream f.streamId e₁ →
        ∃ fc' fs, m₁.releaseCapacityInner f.streamId f.padding =
            m₁.released f.streamId f.padding e₁ fc' fs ∧
          Granted fc f.padding fc' f.streamId fs) ∧
    (∀ (s t : Inner) (n : Nat), Moves (fun _ => True) σ.inner s → n ≠ 0 →
      ((t.connRecv = s.connRecv ∧ n ≤ s.unreleased) ∨
        fcSendData s.connRecv n = (t.connRecv, none)) →
          ∃ fc fs, t.reclaimConn n = { t with connRecv := fc, pending := t.pending ++ fs } ∧
            Granted t.connRecv n fc 0 fs) ∧
    (∀ (t : Inner) (n : Nat), Moves (fun _ => True) σ.inner t → n ≠ 0 →
      t.connRecv.available.val + n ≤ maxWindowSize →
        ∃ fc fs, t.reclaimConn n = { t with connRecv := fc, pending := t.pending ++ fs } ∧
          Granted t.connRecv n fc 0 fs) ∧
    ∀ sid e, σ.pump = .running → σ.inner.streams.lookup sid = some e →
      e.recvReclaimed = false →
        e.recvFlow.available.val + e.recvUnreleased = σ.inner.recvInit := by
  have hm := topWindow_le cfg
  have hw := windows r
  have hok := ok_of_run r
  refine ⟨handshake_granted cfg, ?_, ?_, ?_, ?_, ?_⟩
  · intro sid n e he hr hs ha
    have hn : n ≤ e.recvUnreleased :=
      (by simpa [allowed] using ha : n ≤ σ.owed sid).trans (hok.covers.held he hr)
    obtain ⟨fc, fs, heq, -, hg⟩ := hw.release_granted hm he hr hn
    exact ⟨fc, fs, heq, hg hs⟩
  · rintro f e e₁ m m₁ fc cl he hr hs hc hf rfl rfl
    have hfit := hw.2.2 _ e he
    have hmod := hfit.received_mod hw.1 hm hf
    have hk : Kin σ.inner m := by
      rw [show m = (σ.inner.consumeConnRecv f.flowControlledLen).1 from congrArg Prod.fst hc.symm]
      exact Kin.refl σ.inner
    have hset := @RecvOk.set _ _ _ f.streamId { e with
      recvFlow := fc
      contentLength := cl
      recvUnreleased := (e.recvUnreleased + f.flowControlledLen) % 2 ^ 32 } (hw.kin hm hk)
      (hk.1.symm ▸ RecvOk.received_fits (e := e) hfit hw.1 hf hmod.le fun hq => ⟨hq, hmod⟩)
    obtain ⟨fc', fs, heq, -, hg⟩ := hset.release_granted hm (AList.lookup_insert _) hr
      (n := f.padding) (by simp only; rw [hmod, Data.flowControlledLen]; omega)
    exact ⟨fc', fs, heq, hg hs⟩
  · intro s t n hs hn hback
    have hfits := returned_fits (hs.wf hok.wf) hback
    exact reclaimConn_granted hn hfits.1 hfits.2
  · intro t n ht hn hle
    exact reclaimConn_granted hn (ht.wf hok.wf).recvWindow hle
  · intro sid e hp he hr
    refine (hw.2.2 sid e he).exact ?_ hr
    unfold Exempt
    rw [hp]
    exact id

/-- A response whose three bytes its reader holds. -/
def threeHeld : List Action := openGet ++ [
  .recv (.headers { streamId := 1, inRange := inRange_one, endStream := false, status := some 200 }),
  .recv (.data { streamId := 1, inRange := inRange_one, endStream := false, data := [1, 2, 3] })]

theorem windows_open_held : ∃ σ e fc fs, Reached clientConfig σ ∧
    σ.inner.streams.lookup 1 = some e ∧
    (σ.inner.call (.releaseCapacity 1 3)).1 = σ.inner.released 1 3 e fc fs ∧
    Granted e.recvFlow 3 fc 1 fs := by
  obtain ⟨σ, r, hσ⟩ := reached_of_exec clientConfig threeHeld
    (fun σ => σ.allowed (.releaseCapacity 1 3) && (σ.inner.streams.lookup 1).any fun e =>
      !e.recvReclaimed && !e.state.isRecvEndStream) (by decide +kernel)
  simp only [Bool.and_eq_true, Option.any_eq_true, Bool.not_eq_true'] at hσ
  obtain ⟨ha, e, he, hr, hs⟩ := hσ
  obtain ⟨fc, fs, heq, hg⟩ := (windows_open clientConfig σ r).2.1 1 3 e he hr hs ha
  exact ⟨σ, e, fc, fs, r, he, heq, hg⟩

end Sys

end Httpunk.H2
