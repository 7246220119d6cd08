import Httpunk.H2.Driver.Invariant

/-!
# H2 — Safety — SendWindow

What the peer has granted bounds what is sent.  `Peer` is the peer's own account of its grants,
read off the frames it sent; the connection's windows never say more than it does.

* `Within`: the windows are covered by the grants, less the DATA queued so far.
* `Move.within`: each move keeps it, along with the account.
* `Sys.sends_within`: no DATA is queued beyond the grants, in any run.
-/

namespace Httpunk.H2

open Runs (Reach)
open Httpunk.H2.Inner

/-! ### What was queued -/

/-- The payload bytes of a DATA frame on `sid`. -/
def OutFrame.dataOn (sid : Nat) : OutFrame → Nat
  | .data k p _ => if k = sid then p.length else 0
  | _ => 0

/-- The payload bytes of a DATA frame. -/
def OutFrame.dataLen : OutFrame → Nat
  | .data _ p _ => p.length
  | _ => 0

/-- The payload bytes queued on `sid`. -/
def dataOn (sid : Nat) (log : List OutFrame) : Nat := (log.map (OutFrame.dataOn sid)).sum

/-- The payload bytes queued on all streams. -/
def dataTotal (log : List OutFrame) : Nat := (log.map OutFrame.dataLen).sum

theorem dataOn_append (sid : Nat) (l₁ l₂ : List OutFrame) :
    dataOn sid (l₁ ++ l₂) = dataOn sid l₁ + dataOn sid l₂ := by
  rw [dataOn, List.map_append, List.sum_append, dataOn, dataOn]

theorem dataTotal_append (l₁ l₂ : List OutFrame) :
    dataTotal (l₁ ++ l₂) = dataTotal l₁ + dataTotal l₂ := by
  rw [dataTotal, List.map_append, List.sum_append, dataTotal, dataTotal]

/-- The payload bytes a move of kind `k` queues. -/
def Kind.dataLen : Kind → Nat
  | .data _ p _ => p.length
  | _ => 0

/-- The payload bytes it queues on `sid`. -/
def Kind.dataOn (sid : Nat) : Kind → Nat
  | .data k p _ => if k = sid then p.length else 0
  | _ => 0

/-- A DATA frame. -/
def OutFrame.isData : OutFrame → Bool
  | .data _ _ _ => true
  | _ => false

/-- A move that queues DATA. -/
def Kind.isData : Kind → Bool
  | .data _ _ _ => true
  | _ => false

theorem Kind.queues_isData {me : Inner} {k : Kind} {fs : List OutFrame} (hk : k.isData = false)
    (h : k.queues me fs) : ∀ f ∈ fs, f.isData = false := by
  have ctrl : (∀ f ∈ fs, f.isCtrl = true) → ∀ f ∈ fs, f.isData = false := fun hc f hf => by
    have := hc f hf
    cases f <;> first | rfl | cases this
  cases k with
  | data _ _ _ => cases hk
  | ctrl => exact ctrl h
  | reclaim => exact ctrl h
  | swallow => exact ctrl h
  | settle _ _ => exact ctrl h
  | rst _ => obtain ⟨_, rfl⟩ := h; simp [OutFrame.isData]
  | head _ _ => obtain ⟨_, rfl⟩ := h; simp [OutFrame.isData]
  | request _ _ => obtain ⟨_, rfl⟩ := h; simp [OutFrame.isData]
  | reply => obtain ⟨_, _, rfl⟩ := h; simp [OutFrame.isData]
  | goaway => obtain ⟨_, _, rfl⟩ := h; simp [OutFrame.isData]
  | phase1 => rw [show fs = [_] from h]; simp [OutFrame.isData]
  | phase2 => rw [show fs = [_] from h]; simp [OutFrame.isData]
  | _ => rw [show fs = [] from h]; exact fun f hf => by cases hf

/-- A run of moves that queue no DATA. -/
theorem Moves.no_data {extra : Kind → Prop} {s s' : Inner} (r : Moves extra s s')
    (hk : ∀ k, extra k → k.isData = false) :
    ∃ fs, s'.pending = s.pending ++ fs ∧ ∀ f ∈ fs, f.isData = false :=
  r.frames fun k _ _ hm hq => Kind.queues_isData (hm.elim
    (fun hc => by cases k <;> first | rfl | cases hc) (hk k)) hq

theorem data_of_no_data {fs : List OutFrame} (h : ∀ f ∈ fs, f.isData = false) :
    dataTotal fs = 0 ∧ ∀ sid, dataOn sid fs = 0 := by
  have h0 : ∀ w : OutFrame → Nat, (∀ f, f.isData = false → w f = 0) → (fs.map w).sum = 0 := by
    intro w hw
    refine List.sum_eq_zero fun n hn => ?_
    obtain ⟨f, hf, rfl⟩ := List.mem_map.mp hn
    exact hw f (h f hf)
  refine ⟨h0 _ fun f hf => ?_, fun sid => h0 _ fun f hf => ?_⟩
  · cases f <;> first | rfl | cases hf
  · cases f <;> first | rfl | cases hf

theorem Kind.queues_data {me : Inner} {k : Kind} {fs : List OutFrame} (h : k.queues me fs) :
    dataTotal fs = k.dataLen ∧ ∀ sid, Httpunk.H2.dataOn sid fs = k.dataOn sid := by
  rcases hk : k.isData
  · obtain ⟨h₁, h₂⟩ := data_of_no_data (Kind.queues_isData hk h)
    have h0 : k.dataLen = 0 ∧ ∀ sid, k.dataOn sid = 0 := by
      cases k <;> first | exact ⟨rfl, fun _ => rfl⟩ | cases hk
    exact ⟨h₁.trans h0.1.symm, fun sid => (h₂ sid).trans (h0.2 sid).symm⟩
  · cases k with
    | data j p eos =>
        rw [show fs = [.data j p eos] from h]
        exact ⟨rfl, fun _ => rfl⟩
    | _ => cases hk

/-! ### What was granted -/

/-- The peer's account: its current initial window and frame size, and what it has granted the
connection and each stream since the handshake. -/
structure Peer where
  initial : Nat := defaultInitialWindowSize
  frame : Nat := defaultMaxFrameSize
  conn : Int := defaultInitialWindowSize
  stream : Nat → Int := fun _ => defaultInitialWindowSize

namespace Peer

/-- The connection's grant raised by `n`. -/
def grantConn (p : Peer) (n : Nat) : Peer := { p with conn := p.conn + n }

/-- The grant of `sid` raised by `n`. -/
def grantStream (p : Peer) (sid n : Nat) : Peer :=
  { p with stream := fun k => if k = sid then p.stream k + n else p.stream k }

/-- A new initial window: every stream's grant follows it, down as well as up. -/
def resize (p : Peer) (new : Nat) : Peer :=
  { p with initial := new, stream := fun k => p.stream k + (new - p.initial) }

/-- The account after one of the peer's frames. -/
def sent (p : Peer) : Frame → Peer
  | .windowUpdate f =>
    if f.streamId = 0 then p.grantConn f.increment else p.grantStream f.streamId f.increment
  | .settings f =>
    if f.ack then p
    else { p.resize (f.values.initialWindowSize.getD p.initial) with
      frame := f.values.maxFrameSize.getD p.frame }
  | _ => p

end Peer

/-- What a move of kind `k` books of the peer's grants. -/
def Kind.booked (k : Kind) (p : Peer) : Peer :=
  match k with
  | .connGrant n => p.grantConn n
  | .streamGrant sid n => p.grantStream sid n
  | .resize new _ => p.resize new
  | .peerFrame n => { p with frame := n }
  | _ => p

/-- The windows say no more than what was granted, less what was queued. -/
structure Within (p : Peer) (sent : List OutFrame) (me : Inner) : Prop where
  initial : me.peer.initialWindowSize = p.initial
  frame : me.peer.maxFrameSize = p.frame
  nonneg : 0 ≤ me.connSend.windowSize.val
  conn : me.connSend.windowSize.val + dataTotal (sent ++ me.pending) ≤ p.conn
  stream : ∀ {sid e}, me.streams.lookup sid = some e → e.state.isSendClosed = false →
    e.sendFlow.windowSize.val + dataOn sid (sent ++ me.pending) ≤ p.stream sid
  unused : ∀ {sid}, ¬me.Used sid →
    dataOn sid (sent ++ me.pending) = 0 ∧ p.initial ≤ p.stream sid

/-- No open window is so far below the initial one that the initial one cannot be lowered. -/
def Shrinkable (me : Inner) : Prop :=
  ∀ sid e, me.streams.lookup sid = some e → e.state.isSendClosed = false →
    me.peer.initialWindowSize ≤ e.sendFlow.windowSize.val + maxWindowSize

/-! ### What each move keeps -/

variable {p : Peer} {s s' : Inner} {k : Kind} {sent : List OutFrame} {extra : Kind → Prop}

/-- The kinds that book a grant. -/
def Kind.grants : Kind → Bool
  | .connGrant _ | .streamGrant _ _ | .resize _ _ | .peerFrame _ => true
  | _ => false

/-- An open window of a stream moves with what is booked and what is queued. -/
theorem Kind.flow_booked {sid : Nat} {e e' : StreamEntry} (h : k.flow s sid e e')
    (hi : s.peer.initialWindowSize = p.initial) (ho : e.state.isSendClosed = false)
    (hr : ∀ new, k = .resize new false → p.initial < new) :
    e'.sendFlow.windowSize.val + k.dataOn sid ≤
      e.sendFlow.windowSize.val + (k.booked p).stream sid - p.stream sid := by
  cases k with
  | data j q _ =>
      simp only [Kind.flow] at h
      simp only [Kind.dataOn, Kind.booked]
      split at h
      · next hj => rw [if_pos hj]; omega
      · next hj => rw [if_neg hj, h]; omega
  | streamGrant j n =>
      simp only [Kind.flow] at h
      simp only [Kind.dataOn, Kind.booked, Peer.grantStream]
      split at h
      · next hj => rw [if_pos hj.symm]; omega
      · next hj => rw [if_neg (Ne.symm hj), h]; omega
  | resize new ok =>
      simp only [Kind.dataOn, Kind.booked, Peer.resize]
      rw [Kind.flow, hi] at h
      rcases h with ⟨hf, hc | rfl⟩ | hw
      · rw [ho] at hc; cases hc
      · have := hr new rfl
        rw [hf]
        omega
      · omega
  | _ =>
      rw [show e'.sendFlow = e.sendFlow from h]
      simp only [Kind.dataOn, Kind.booked, Peer.grantConn]
      omega

/-- No grant of a stream is below the initial window before the stream is opened. -/
theorem Kind.booked_initial {sid : Nat} (h : p.initial ≤ p.stream sid) :
    (k.booked p).initial ≤ (k.booked p).stream sid := by
  cases k with
  | streamGrant j n =>
      simp only [Kind.booked, Peer.grantStream]
      split <;> omega
  | resize new ok =>
      simp only [Kind.booked, Peer.resize]
      omega
  | _ => exact h

/-- **What each move keeps.** -/
theorem Move.within (m : Move s k s') (hw : s.Wf) (h : Within p sent s)
    (hr : ∀ new, k = .resize new false → p.initial < new) : Within (k.booked p) sent s' := by
  obtain ⟨fs, hfs, hq⟩ := m.frames
  obtain ⟨htot, hon⟩ := Kind.queues_data hq
  obtain ⟨hconn, hwin, hfr⟩ := m.peer hw
  have hlog : sent ++ s'.pending = (sent ++ s.pending) ++ fs := by rw [hfs, List.append_assoc]
  have hfits := h.conn
  have hpos := h.nonneg
  refine ⟨?_, ?_, ?_, ?_, fun {sid e'} hl ho => ?_, fun {sid} hu => ?_⟩
  · rw [hwin, h.initial]
    cases k <;> rfl
  · rw [hfr, h.frame]
    cases k <;> rfl
  · cases k <;> simp only [Kind.connFlow] at hconn <;> omega
  · rw [hlog, dataTotal_append, htot]
    cases k <;> simp only [Kind.connFlow] at hconn <;>
      simp only [Kind.booked, Kind.dataLen, Peer.grantConn, Peer.grantStream, Peer.resize] <;> omega
  · rw [hlog, dataOn_append, hon]
    rcases m.entry hw hl with ⟨e, hl', hv⟩ | hopen
    · have ho' : e.state.isSendClosed = false := by
        by_contra hc
        rw [hv.later.sendClosed (by simpa using hc)] at ho
        cases ho
      have h₁ := h.stream hl' ho'
      have h₂ := Kind.flow_booked hv.flow h.initial ho' hr
      push_cast
      omega
    · -- a stream just opened has the initial window, and nothing queued
      obtain ⟨w, hopened, hval⟩ := FlowControl.opened_spec hw.window
      obtain ⟨h0, hle⟩ := h.unused hopen.unused
      have hk : k.dataOn sid = 0 ∧ k.booked p = p := by
        rcases hopen.kind with rfl | ⟨_, rfl⟩ <;> exact ⟨rfl, rfl⟩
      rw [hopen.flow, hopened, h0, hk.1, hk.2]
      simp only
      rw [hval, h.initial]
      omega
  · have hu' : ¬s.Used sid := fun h' => hu (m.grows.used h')
    obtain ⟨h0, hle⟩ := h.unused hu'
    refine ⟨?_, Kind.booked_initial hle⟩
    rw [hlog, dataOn_append, hon, h0, Nat.zero_add]
    unfold Kind.dataOn
    split
    · next j q eos =>
      have hj : j ≠ sid := by
        rintro rfl
        cases m with
        | data hl _ _ _ _ _ => exact hu' (hw.used hl)
      rw [if_neg hj]
    · rfl

/-- Lowering the initial window never fails. -/
theorem Move.resize_grows {new : Nat} (m : Move s k s') (hk : k = .resize new false)
    (hw : s.Wf) (hs : Shrinkable s) : s.peer.initialWindowSize < new := by
  cases m with
  | @resize new' r hn hr =>
      injection hk with hnew hok
      subst hnew
      obtain ⟨err, herr⟩ := Option.isSome_iff_exists.mp (by simpa using hok : r.2.isSome = true)
      obtain ⟨sid, e, hl, he⟩ := Store.scan_error (hr ▸ herr)
      rcases Wf.resizeSend_window (k := sid) (hw.sendFlow hl) hw.window hn with
        ⟨-, hres⟩ | ⟨-, hres, -⟩ | ⟨ho, -, -, hlt | hlow⟩
      · rw [hres] at he; cases he
      · rw [hres] at he; cases he
      · exact hlt
      · have := hs sid e hl ho
        unfold maxWindowSize at this
        omega
  | _ => cases hk

/-- A move other than a failing change of the initial window leaves it free to be lowered. -/
theorem Move.shrinkable (m : Move s k s') (hw : s.Wf) (h : Shrinkable s)
    (hr : ∀ new, k ≠ .resize new false) : Shrinkable s' := by
  intro sid e' hl ho
  obtain ⟨-, hwin, -⟩ := m.peer hw
  rw [hwin]
  rcases m.entry hw hl with ⟨e, hl', hv⟩ | hopen
  · have ho' : e.state.isSendClosed = false := by
      by_contra hc
      rw [hv.later.sendClosed (by simpa using hc)] at ho
      cases ho
    have h₁ := h sid e hl' ho'
    have h₂ := hw.window
    have hflow := hv.flow
    cases k with
    | data j q eos =>
        simp only [Kind.flow] at hflow
        simp only [Kind.peerWindow]
        split at hflow
        · omega
        · rw [hflow]; exact h₁
    | streamGrant j n =>
        simp only [Kind.flow] at hflow
        simp only [Kind.peerWindow]
        split at hflow
        · omega
        · rw [hflow]; exact h₁
    | resize new ok =>
        simp only [Kind.flow, ho', Bool.false_eq_true, false_or] at hflow
        simp only [Kind.peerWindow]
        rcases hflow with ⟨-, rfl⟩ | hflow
        · exact absurd rfl (hr new)
        · omega
    | _ => rw [show e'.sendFlow = e.sendFlow from hflow]; exact h₁
  · obtain ⟨w, hopened, hval⟩ := FlowControl.opened_spec hw.window
    have hk : ∀ n, k.peerWindow n = n := by
      rcases hopen.kind with rfl | ⟨_, rfl⟩ <;> exact fun _ => rfl
    rw [hopen.flow, hopened, hk]
    simp only
    rw [hval]
    omega

/-- Moves that book nothing. -/
theorem Moves.within (r : Moves extra s s') (hw : s.Wf) (h : Within p sent s)
    (hk : ∀ k, extra k → k.grants = false) : Within p sent s' := by
  have hinv : s'.Wf ∧ Within p sent s' := by
    refine Reach.invariant (I := fun t => t.Wf ∧ Within p sent t) r ⟨hw, h⟩ ?_
    intro t k t' ⟨htw, ht⟩ m hm
    have hg : k.grants = false := by
      rcases hm with hm | hm
      · cases k <;> first | rfl | cases hm
      · exact hk k hm
    have hb : k.booked p = p := by cases k <;> first | rfl | cases hg
    have ht' := m.within htw ht fun new hnew => by rw [hnew] at hg; cases hg
    exact ⟨m.wf htw, hb ▸ ht'⟩
  exact hinv.2

/-- Moves that do not change the initial window. -/
theorem Moves.shrinkable (r : Moves extra s s') (hw : s.Wf) (h : Shrinkable s)
    (hk : ∀ k, extra k → ∀ new, k ≠ .resize new false) : Shrinkable s' := by
  have hinv : s'.Wf ∧ Shrinkable s' := by
    refine Reach.invariant (I := fun t => t.Wf ∧ Shrinkable t) r ⟨hw, h⟩ ?_
    intro t k t' ⟨htw, ht⟩ m hm
    refine ⟨m.wf htw, m.shrinkable htw ht fun new hnew => ?_⟩
    rcases hm with hm | hm
    · rw [hnew] at hm; cases hm
    · exact hk k hm new hnew
  exact hinv.2

/-! ### Frames -/

namespace Within

/-- A grant that was not booked only widens the account. -/
theorem grantConn (h : Within p sent s) (n : Nat) : Within (p.grantConn n) sent s :=
  { h with conn := h.conn.trans (by simp only [Peer.grantConn]; omega) }

theorem grantStream (h : Within p sent s) (sid n : Nat) :
    Within (p.grantStream sid n) sent s where
  initial := h.initial
  frame := h.frame
  nonneg := h.nonneg
  conn := h.conn
  stream := fun {k e} hl ho => by
    have := h.stream hl ho
    simp only [Peer.grantStream]
    split <;> omega
  unused := fun {k} hu => by
    obtain ⟨h0, hle⟩ := h.unused hu
    refine ⟨h0, ?_⟩
    simp only [Peer.grantStream]
    split <;> omega

end Within

theorem Peer.resize_initial (p : Peer) : p.resize p.initial = p := by
  simp only [Peer.resize, Int.sub_self, Int.add_zero]

/-- The frame size of a SETTINGS frame is all its limits book. -/
theorem Moves.within_limits {v : SettingsValues} (r : Moves (· ∈ limitKinds v) s s')
    (hw : s.Wf) (h : Within p sent s) : ∃ n, Within { p with frame := n } sent s' := by
  have hinv : s'.Wf ∧ ∃ n, Within { p with frame := n } sent s' := by
    refine Reach.invariant (I := fun t => t.Wf ∧ ∃ n, Within { p with frame := n } sent t) r
      ⟨hw, p.frame, h⟩ ?_
    intro t k t' ⟨htw, n, ht⟩ m hm
    refine ⟨m.wf htw, ?_⟩
    rcases hm with hm | hm
    · have hone : Moves Kind.nothing t t' := Moves.common m hm
      exact ⟨n, hone.within htw ht fun _ hk => hk.elim⟩
    · simp only [limitKinds, Option.mem_toList, Option.map_eq_some_iff] at hm
      obtain ⟨n', -, rfl⟩ := hm
      have ht' := m.within htw ht fun new hnew => by cases hnew
      exact ⟨n', ht'⟩
  exact hinv.2

theorem Peer.sent_settings (p : Peer) (f : SettingsFrame) : p.sent (.settings f) =
    if f.ack then p
    else { p.resize (f.values.initialWindowSize.getD p.initial) with
      frame := f.values.maxFrameSize.getD p.frame } := rfl

theorem recvSettings_within (hw : s.Wf) (h : Within p sent s) (hs : Shrinkable s)
    (f : SettingsFrame) :
    Within (p.sent (.settings f)) sent (s.recvSettings f).1 ∧
      (Shrinkable (s.recvSettings f).1 ∨ ∃ r, (s.recvSettings f).2 = .error (mapReason r)) := by
  obtain ⟨m, hm, hres, hwin, hfr⟩ := recvSettings_moves s f
  have hmw := hm.wf hw
  obtain ⟨n, hn⟩ := hm.within_limits hw h
  have hms : Shrinkable m := hm.shrinkable hw hs fun k hk new hnew => by
    rw [hnew] at hk
    simp [limitKinds] at hk
  rw [h.initial] at hwin
  rw [h.frame] at hfr
  rcases hres with hres | ⟨new, ha, hv, hold, hmv, herr⟩
  · rw [hres] at hwin hfr ⊢
    rw [hn.initial] at hwin
    rw [hn.frame] at hfr
    refine ⟨?_, .inl hms⟩
    rw [Peer.sent_settings]
    split
    · next ha =>
      rw [if_pos ha] at hfr
      rw [show n = p.frame from hfr] at hn
      exact hn
    · next ha =>
      rw [if_neg ha] at hwin hfr
      rw [← hwin, ← hfr]
      dsimp only
      rw [p.resize_initial]
      exact hn
  · have hgrow : ∀ new', Kind.resize new (s.recvSettings f).2.isOk = .resize new' false →
        p.initial < new' := fun new' hk => by
      have := hmv.resize_grows hk hmw hms
      rwa [hold, h.initial] at this
    have hfin := hmv.within hmw hn hgrow
    refine ⟨?_, ?_⟩
    · have hfr' := hfin.frame
      rw [hfr, if_neg (by rw [ha]; decide)] at hfr'
      rw [Peer.sent_settings, if_neg (by rw [ha]; decide), hv, hfr']
      exact hfin
    · rcases hr : (s.recvSettings f).2 with err | v
      · obtain ⟨r, rfl⟩ := herr err hr
        exact .inr ⟨r, rfl⟩
      · refine .inl (hmv.shrinkable hmw hms fun new' hk => ?_)
        rw [hr] at hk
        injection hk with _ hk
        cases hk

/-- **What the dispatch of a frame books** is what the peer granted by it. -/
theorem dispatch_within (hw : s.Wf) (h : Within p sent s) (hs : Shrinkable s) (f : Frame) :
    Within (p.sent f) sent (s.dispatch f).1 ∧
      (Shrinkable (s.dispatch f).1 ∨ ∃ r, (s.dispatch f).2 = .error (mapReason r)) := by
  have hmoves := dispatch_moves hw f
  -- a frame of another kind than SETTINGS leaves the initial window
  have hshrink : (∀ g, f ≠ .settings g) → Shrinkable (s.dispatch f).1 := fun hf =>
    hmoves.shrinkable hw hs fun k hk new hnew => by
      subst hnew
      obtain ⟨g, hg, -⟩ := addedBy_of_frameKinds hk
      exact hf g hg
  -- and of another than WINDOW_UPDATE, too, grants nothing
  have other : (∀ g, f ≠ .settings g) → (∀ g, f ≠ .windowUpdate g) → p.sent f = p →
      Within (p.sent f) sent (s.dispatch f).1 ∧
        (Shrinkable (s.dispatch f).1 ∨ ∃ r, (s.dispatch f).2 = .error (mapReason r)) := by
    intro hset hwu hp
    rw [hp]
    refine ⟨hmoves.within hw h fun k hk => ?_, .inl (hshrink hset)⟩
    have ha := addedBy_of_frameKinds hk
    cases k with
    | connGrant _ => obtain ⟨g, hg, -⟩ := ha; exact absurd hg (hwu g)
    | streamGrant _ _ => obtain ⟨g, hg, -⟩ := ha; exact absurd hg (hwu g)
    | resize _ _ => obtain ⟨g, hg, -⟩ := ha; exact absurd hg (hset g)
    | peerFrame _ => obtain ⟨g, hg, -⟩ := ha; exact absurd hg (hset g)
    | _ => rfl
  cases f with
  | windowUpdate g =>
      refine ⟨?_, .inl (hshrink (by intro _ h; cases h))⟩
      have hp : p.sent (.windowUpdate g) = (grantKind g).booked p := by
        simp only [Peer.sent, grantKind]
        split <;> rfl
      rw [hp]
      rcases recvWindowUpdate_moves g hw with hm | ⟨s₁, k, s₂, h₁, rfl, hm, h₂⟩
      · have hsame := hm.within hw h fun _ hk => hk.elim
        unfold grantKind
        split
        · exact hsame.grantConn _
        · exact hsame.grantStream _ _
      · have hw₁ := h₁.wf hw
        have hgrant := hm.within hw₁ (h₁.within hw h fun _ hk => hk.elim) fun new hnew => by
          unfold grantKind at hnew
          split at hnew <;> cases hnew
        exact h₂.within (hm.wf hw₁) hgrant fun _ hk => hk.elim
  | settings g =>
      obtain ⟨hwi, hres⟩ := recvSettings_within hw h hs g
      refine ⟨hwi, hres.imp id fun hr => ?_⟩
      obtain ⟨r, hr⟩ := hr
      refine ⟨r, ?_⟩
      change (s.recvSettings g).2.map _ = _
      rw [hr]
      rfl
  | headers g => exact other (by intro _ h; cases h) (by intro _ h; cases h) rfl
  | data g => exact other (by intro _ h; cases h) (by intro _ h; cases h) rfl
  | ping g => exact other (by intro _ h; cases h) (by intro _ h; cases h) rfl
  | goAway g => exact other (by intro _ h; cases h) (by intro _ h; cases h) rfl
  | rstStream g => exact other (by intro _ h; cases h) (by intro _ h; cases h) rfl
  | priority _ => exact other (by intro _ h; cases h) (by intro _ h; cases h) rfl
  | streamError _ _ _ => exact other (by intro _ h; cases h) (by intro _ h; cases h) rfl

/-! ### Runs -/

/-- A pump that may dispatch a frame yet. -/
def Pump.serving : Pump → Bool
  | .running | .resetting _ _ => true
  | _ => false

@[simp] theorem Pump.serving_raised (e : Err) : (Pump.raised e).serving = false := by
  cases e <;> rfl

namespace Sys

variable {σ σ' : Sys} {a : Action} {cfg : Config}

/-- The peer's account of what it has granted so far. -/
def granted (σ : Sys) : Peer := σ.received.foldl Peer.sent {}

/-- What the sending of a connection keeps between two steps. -/
structure Pays (σ : Sys) : Prop where
  within : Within σ.granted σ.sent σ.inner
  shrinkable : σ.pump.serving = true → Shrinkable σ.inner

theorem no_data_init (cfg : Config) : ∀ f ∈ (init cfg).log, f.isData = false := by
  obtain ⟨fc, fs, hb, -, hfs, -⟩ := Inner.begin_spec cfg
  intro f hf
  rw [log, inner_init, hb] at hf
  have := hfs f hf
  cases f <;> first | rfl | cases this

theorem pays_init (cfg : Config) : (init cfg).Pays := by
  obtain ⟨fc, fs, hb, -, -, -⟩ := Inner.begin_spec cfg
  obtain ⟨w, hw, hv⟩ := FlowControl.opened_spec (n := defaultInitialWindowSize) (by decide)
  obtain ⟨htot, hon⟩ := data_of_no_data (no_data_init cfg)
  have hnone : ∀ k, (init cfg).inner.streams.lookup k = none := fun k => by
    rw [inner_init, hb]
    exact AList.lookup_empty k
  have hconn : (init cfg).inner.connSend = ⟨w, w⟩ := by
    rw [inner_init, hb]
    exact hw
  refine ⟨⟨?_, ?_, ?_, ?_, fun hl _ => ?_, fun {sid} _ => ⟨hon sid, Int.le_refl _⟩⟩, fun _ => ?_⟩
  · rw [inner_init, hb]; rfl
  · rw [inner_init, hb]; rfl
  · rw [hconn, hv]; decide
  · rw [log] at htot
    rw [htot, hconn]
    change w.val + (0 : Nat) ≤ defaultInitialWindowSize
    rw [hv]
    decide
  · rw [hnone] at hl; cases hl
  · intro sid e hl
    rw [hnone] at hl
    cases hl

theorem granted_recv (σ : Sys) (f : Frame) : (σ.recv f).granted = σ.granted.sent f := by
  rw [granted, received_recv, List.foldl_append]
  rfl

/-- No step but a dispatch adds a grant. -/
theorem kinds_grants (ha : ∀ f, a ≠ .recv f) {k : Kind} (h : σ.kinds a k) : k.grants = false := by
  cases a with
  | recv f => exact absurd rfl (ha f)
  | call c =>
      have hc := Inner.calledBy_of_callKinds h
      cases k <;> first | rfl | cases hc
  | pump =>
      rcases kinds_pump h with rfl | ⟨-, ⟨rfl, -⟩ | hf⟩
      · rfl
      · rfl
      · cases k <;> first | rfl | cases hf
  | _ => exact h.elim

theorem kinds_resize (ha : ∀ f, a ≠ .recv f) {k : Kind} (h : σ.kinds a k) (new : Nat) :
    k ≠ .resize new false := by
  intro hk
  subst hk
  have := kinds_grants ha h
  cases this

/-- A pump that serves after a step other than a dispatch served before it. -/
theorem Step.serving (hs : Step σ a σ') (ha : ∀ f, a ≠ .recv f)
    (h : σ'.pump.serving = true) : σ.pump.serving = true := by
  unfold Step step at hs
  cases a with
  | recv f => exact absurd rfl (ha f)
  | pump =>
      dsimp only at hs
      unfold pumpStep at hs
      split at hs
      · next hp => rw [hp]; rfl
      all_goals cases hs
      all_goals cases h
  | flush => cases hs; exact h
  | tick d => cases hs; exact h
  | raised e =>
      dsimp only at hs
      split at hs <;> cases hs
      rw [Pump.serving_raised] at h
      cases h
  | reply =>
      dsimp only at hs
      split at hs
      · next hp => rw [hp]; rfl
      · cases hs
  | _ =>
      dsimp only at hs
      split at hs <;> cases hs
      exact h

/-- **Each step keeps the windows covered.** -/
theorem Pays.step (hp : σ.Pays) (h : σ.Ok) (hs : Step σ a σ') : σ'.Pays := by
  by_cases hr : ∃ f, a = .recv f
  · obtain ⟨f, rfl⟩ := hr
    obtain ⟨hrun, rfl⟩ := hs.recv
    obtain ⟨hw, hsh⟩ := dispatch_within h.wf hp.within
      (hp.shrinkable (by rw [hrun]; rfl)) f
    have hsent : (σ.recv f).sent = σ.sent := hs.sent (by intro h; cases h)
    refine ⟨by rw [granted_recv, hsent, inner_recv]; exact hw, fun hserv => ?_⟩
    rw [inner_recv]
    rcases hsh with hsh | ⟨r, hres⟩
    · exact hsh
    · -- a window that overflowed ends the serving
      unfold recv at hserv
      dsimp only at hserv
      rw [hres] at hserv
      cases hserv
  · have ha : ∀ f, a ≠ .recv f := fun f hf => hr ⟨f, hf⟩
    have hg : σ'.granted = σ.granted := by rw [granted, hs.received ha, granted]
    by_cases hf : a = .flush
    · subst hf
      cases hs
      have hlog : σ.flush.sent ++ σ.flush.inner.pending = σ.sent ++ σ.inner.pending :=
        List.append_nil _
      have hw := hp.within
      exact ⟨⟨hw.initial, hw.frame, hw.nonneg, hlog ▸ hw.conn, hlog ▸ hw.stream,
        hlog ▸ hw.unused⟩, hp.shrinkable⟩
    · have hm := h.step_moves hs hf
      refine ⟨?_, fun hserv => ?_⟩
      · rw [hg, hs.sent hf]
        exact hm.within h.wf hp.within fun k hk => kinds_grants ha hk
      · exact hm.shrinkable h.wf (hp.shrinkable (hs.serving ha hserv))
          fun k hk => kinds_resize ha hk

theorem pays_of_reached (r : Reached cfg σ) : σ.Pays := by
  have hinv : σ.Ok ∧ σ.Pays :=
    Reach.invariant (I := fun σ : Sys => σ.Ok ∧ σ.Pays) r ⟨ok_init cfg, pays_init cfg⟩
      fun ⟨hok, hp⟩ hs _ => ⟨hok.step hs, hp.step hok hs⟩
  exact hinv.2

/-! ### What a step sends -/

/-- What a step may queue: DATA frames that fit the peer's frame size, the non-empty ones
within what the peer has granted their stream.  A stream is past its grant after a step only
if it was so before, or if the step is a SETTINGS frame that lowers the initial window. -/
structure SendsWithin (σ : Sys) (a : Action) (σ' : Sys) : Prop where
  queued : ∃ fs, σ'.log = σ.log ++ fs ∧ ∀ sid payload eos, .data sid payload eos ∈ fs →
    payload.length ≤ σ'.granted.frame ∧ (payload ≠ [] →
      dataOn sid σ.log < σ.granted.stream sid ∧ dataOn sid σ'.log ≤ σ'.granted.stream sid)
  overdrawn : ∀ sid, σ'.granted.stream sid < dataOn sid σ'.log →
    σ.granted.stream sid < dataOn sid σ.log ∨
      ∃ f new, a = .recv (.settings f) ∧ f.ack = false ∧
        f.values.initialWindowSize = some new ∧ new < σ.granted.initial

/-- A step that queues no DATA and takes back no grant. -/
theorem SendsWithin.of_no_data {fs : List OutFrame} (hlog : σ'.log = σ.log ++ fs)
    (hfs : ∀ f ∈ fs, f.isData = false)
    (hg : ∀ sid, σ'.granted.stream sid < σ.granted.stream sid →
      ∃ f new, a = .recv (.settings f) ∧ f.ack = false ∧
        f.values.initialWindowSize = some new ∧ new < σ.granted.initial) :
    SendsWithin σ a σ' where
  queued := ⟨fs, hlog, fun sid payload eos hmem => by have := hfs _ hmem; cases this⟩
  overdrawn := fun sid ho => by
    rw [hlog, dataOn_append, (data_of_no_data hfs).2, Nat.add_zero] at ho
    by_cases hlt : σ'.granted.stream sid < σ.granted.stream sid
    · exact .inr (hg sid hlt)
    · exact .inl (by omega)

/-- Only a SETTINGS frame that lowers the initial window takes back a grant. -/
theorem Peer.sent_lt {p : Peer} {f : Frame} {sid : Nat}
    (h : (p.sent f).stream sid < p.stream sid) : ∃ g new, f = .settings g ∧ g.ack = false ∧
      g.values.initialWindowSize = some new ∧ new < p.initial := by
  cases f with
  | windowUpdate g =>
      simp only [Peer.sent, Peer.grantConn, Peer.grantStream] at h
      split at h
      · exact absurd h (Int.lt_irrefl _)
      · dsimp only at h
        split at h <;> omega
  | settings g =>
      rw [Peer.sent_settings] at h
      split at h
      · exact absurd h (Int.lt_irrefl _)
      · next ha =>
        simp only [Peer.resize] at h
        rcases hv : g.values.initialWindowSize with _ | new
        · rw [hv] at h
          simp only [Option.getD_none] at h
          omega
        · rw [hv] at h
          simp only [Option.getD_some] at h
          exact ⟨g, new, rfl, by simpa using ha, hv, by omega⟩
  | _ => exact absurd h (Int.lt_irrefl _)

/-- What a call queues is sent, later. -/
theorem log_call {c : Call} {fs : List OutFrame}
    (h : (σ.inner.call c).1.pending = σ.inner.pending ++ fs) : (σ.call c).log = σ.log ++ fs := by
  rw [log, log, List.append_assoc, ← h]
  rfl

/-- What one DATA frame among others sends. -/
theorem dataOn_one {sid : Nat} {p : Bytes} {last : Bool} {fs₁ fs₂ : List OutFrame}
    (h₁ : ∀ f ∈ fs₁, f.isData = false) (h₂ : ∀ f ∈ fs₂, f.isData = false) (k : Nat) :
    dataOn k (fs₁ ++ ([.data sid p last] ++ fs₂)) = if sid = k then p.length else 0 := by
  rw [dataOn_append, dataOn_append, (data_of_no_data h₁).2, (data_of_no_data h₂).2, Nat.zero_add,
    Nat.add_zero]
  exact Nat.add_zero _

/-- The one DATA frame of a send. -/
theorem sendsWithin_sendData {sid : Nat} {data : Bytes} {offset : Nat} {eos : Bool}
    (hp : σ.Pays) (h : σ.Ok) :
    SendsWithin σ (.call (.sendData sid data offset eos)) (σ.call (.sendData sid data offset eos)) := by
  have hgr : (σ.call (.sendData sid data offset eos)).granted = σ.granted := rfl
  obtain ⟨v, me', hv, hf⟩ := sendData_framed h.wf sid data offset eos
  obtain rfl : (σ.inner.call (.sendData sid data offset eos)).1 = me' := congrArg Prod.fst hv
  rcases hf with hf | hf
  · obtain ⟨fs, hfs, hnd⟩ := hf.moves.no_data fun _ hk => hk.elim
    exact .of_no_data (log_call hfs) hnd fun k hk => absurd hk (Int.lt_irrefl _)
  · obtain ⟨s₁, s₂, h₁, hm, h₂⟩ := hf.moved
    obtain ⟨fs₁, hfs₁, hnd₁⟩ := h₁.no_data fun _ hk => hk.elim
    obtain ⟨fs₂, hfs₂, hnd₂⟩ := h₂.no_data fun _ hk => hk.elim
    obtain ⟨fs, hfs, hq⟩ := hm.frames
    generalize (data.drop offset).take v.sent = p at hm hq
    generalize (eos && v.done) = last at hm hq
    have hq' : fs = [.data sid p last] := hq
    subst hq'
    have hw₁ := h₁.within h.wf hp.within fun _ hk => hk.elim
    have hlog₁ : dataOn sid (σ.sent ++ s₁.pending) = dataOn sid σ.log := by
      rw [hfs₁, ← List.append_assoc, dataOn_append, (data_of_no_data hnd₁).2, Nat.add_zero, log]
    have hall : (σ.call (.sendData sid data offset eos)).log =
        σ.log ++ (fs₁ ++ ([.data sid p last] ++ fs₂)) := by
      refine log_call ?_
      rw [hfs₂, hfs, hfs₁]
      simp only [List.append_assoc]
    -- the frame was within its stream's window, and the window within the grant
    have hstream : p.length ≤ s₁.peer.maxFrameSize ∧
        (p ≠ [] → (dataOn sid σ.log + p.length : Nat) ≤ σ.granted.stream sid) := by
      cases hm with
      | data hl hs _ hf hm' _ =>
          refine ⟨hm', fun hne => ?_⟩
          have ho := hw₁.stream hl (by
            by_contra hc
            rw [State.isSendStreaming_of_isSendClosed (by simpa using hc)] at hs
            cases hs)
          obtain ⟨-, -, hle⟩ := fcSendData_ok hf
          rcases hle with h0 | hle
          · exact absurd (List.length_eq_zero_iff.mp h0) hne
          · rw [hlog₁] at ho
            omega
    refine ⟨⟨_, hall, fun k q last' hmem => ?_⟩, fun k ho => .inl ?_⟩
    · have hin : OutFrame.data k q last' = .data sid p last := by
        rcases List.mem_append.mp hmem with hmem | hmem
        · have := hnd₁ _ hmem; cases this
        · rcases List.mem_append.mp hmem with hmem | hmem
          · exact List.mem_singleton.mp hmem
          · have := hnd₂ _ hmem; cases this
      cases hin
      refine ⟨by rw [hgr, ← hw₁.frame]; exact hstream.1, fun hne => ?_⟩
      have := hstream.2 hne
      have hpos := List.length_pos_iff.mpr hne
      rw [hall, dataOn_append, dataOn_one hnd₁ hnd₂, if_pos rfl, hgr]
      omega
    · rw [hall, dataOn_append, dataOn_one hnd₁ hnd₂, hgr] at ho
      split at ho
      · next hk =>
        subst hk
        by_cases hne : p = []
        · subst hne; exact ho
        · have := hstream.2 hne
          omega
      · exact ho

/-- Only a send queues DATA. -/
theorem step_no_data (h : σ.Ok) (hs : Step σ a σ')
    (hsend : ¬∃ sid data offset eos, a = .call (.sendData sid data offset eos)) :
    ∃ fs, σ'.log = σ.log ++ fs ∧ ∀ f ∈ fs, f.isData = false := by
  by_cases hf : a = .flush
  · subst hf
    cases hs
    refine ⟨[], ?_, fun f hf => by cases hf⟩
    rw [List.append_nil]
    exact List.append_nil _
  · have hk : ∀ k, σ.kinds a k → k.isData = false := fun k hk => by
      cases k with
      | data sid p last =>
          cases a with
          | recv f => exact (Inner.addedBy_of_frameKinds hk).elim
          | call c =>
              obtain ⟨data, offset, eos, rfl⟩ := Inner.calledBy_of_callKinds hk
              exact absurd ⟨sid, data, offset, eos, rfl⟩ hsend
          | pump => rcases kinds_pump hk with h | ⟨-, ⟨h, -⟩ | h⟩ <;> cases h
          | _ => exact hk.elim
      | _ => rfl
    obtain ⟨fs, hfs, hnd⟩ := (h.step_moves hs hf).no_data hk
    refine ⟨fs, ?_, hnd⟩
    rw [log, hfs, hs.sent hf, log, List.append_assoc]

/-- **What every step sends.** -/
theorem Pays.sendsWithin (hp : σ.Pays) (h : σ.Ok) (hs : Step σ a σ') : SendsWithin σ a σ' := by
  by_cases hsend : ∃ sid data offset eos, a = .call (.sendData sid data offset eos)
  · obtain ⟨sid, data, offset, eos, rfl⟩ := hsend
    obtain ⟨-, rfl⟩ := hs.call
    exact sendsWithin_sendData hp h
  have hg : ∀ sid, σ'.granted.stream sid < σ.granted.stream sid →
      ∃ f new, a = .recv (.settings f) ∧ f.ack = false ∧
        f.values.initialWindowSize = some new ∧ new < σ.granted.initial := by
    intro sid hlt
    by_cases hr : ∃ f, a = .recv f
    · obtain ⟨f, rfl⟩ := hr
      obtain ⟨-, rfl⟩ := hs.recv
      rw [granted_recv] at hlt
      obtain ⟨g, new, rfl, hres⟩ := Peer.sent_lt hlt
      exact ⟨g, new, rfl, hres⟩
    · rw [granted, hs.received fun f hf => hr ⟨f, hf⟩] at hlt
      exact absurd hlt (Int.lt_irrefl _)
  obtain ⟨fs, hlog, hnd⟩ := step_no_data h hs hsend
  exact .of_no_data hlog hnd hg

/-- **The DATA queued stays within what the peer has granted.**  On the connection always; on a
stream at every frame with a payload, so that only a lowered initial window leaves a stream past
its grant, and nothing is sent on it until it is within. -/
theorem sends_within (cfg : Config) : (∀ sid, dataOn sid (init cfg).log = 0) ∧
    ∀ σ, Reached cfg σ → (dataTotal σ.log : Int) ≤ σ.granted.conn ∧
      ∀ a σ', Step σ a σ' → SendsWithin σ a σ' := by
  refine ⟨(data_of_no_data (no_data_init cfg)).2, fun σ r => ?_⟩
  have hp := pays_of_reached r
  refine ⟨?_, fun a σ' hs => hp.sendsWithin (ok_of_run r) hs⟩
  have h₁ := hp.within.conn
  have h₂ := hp.within.nonneg
  rw [log]
  omega

/-- A hundred bytes of a body, and then the initial window lowered to fifty. -/
def lowered : List Action := openPost ++ [
  .call (.sendData 1 (List.replicate 100 0) 0 false),
  .recv (.settings { ack := false, values := { initialWindowSize := some 50 } })]

theorem sends_within_lowered : ∃ σ, Reached clientConfig σ ∧ dataOn 1 σ.log = 100 ∧
    σ.granted.stream 1 = 50 ∧ ∀ a σ', Step σ a σ' → SendsWithin σ a σ' := by
  obtain ⟨σ, r, hσ⟩ := reached_of_exec clientConfig lowered
    (fun σ => dataOn 1 σ.log == 100 && σ.granted.stream 1 == 50) (by decide +kernel)
  simp only [Bool.and_eq_true, beq_iff_eq] at hσ
  exact ⟨σ, r, hσ.1, hσ.2, ((sends_within clientConfig).2 σ r).2⟩

end Sys

end Httpunk.H2
