import Httpunk.H2.Safety.SendWindow
import Httpunk.H2.Life.Recv

/-!
# H2 — Safety — Grants

When the windows a peer grants draw a FLOW_CONTROL_ERROR.  A change of the initial window is not
applied to a stream whose sending side has finished, but a WINDOW_UPDATE still is; so the window
such a stream is taken to have can be larger than the one the peer keeps.

* `Viewed`: the driver with the account of each stream as the connection keeps it.
* `Tracked`: what it has to do with the peer's own account.
* `Viewed.grants_fit`: an error is drawn only by a window past the maximum, unless a stream that
  has finished sending has been taken to keep a window that was lowered since.
-/

namespace Httpunk.H2

open Runs (Reach)
open Httpunk.H2.Inner

variable {p : Peer} {s s' : Inner} {k : Kind} {sent : List OutFrame} {extra : Kind → Prop}
  {sid : Nat}

/-- The stream is stored, and its sending side has finished. -/
def Inner.sendDone (me : Inner) (sid : Nat) : Bool :=
  (me.streams.lookup sid).any fun e => e.state.isSendClosed

theorem Inner.sendDone_eq {me : Inner} {e : StreamEntry} (h : me.streams.lookup sid = some e) :
    me.sendDone sid = e.state.isSendClosed := by
  unfold sendDone
  rw [h]
  rfl

/-! ### What each stream is taken to have been granted -/

/-- What a move other than a change of the initial window books of the streams' grants. -/
def Kind.granting (k : Kind) (q : Nat → Int) : Nat → Int :=
  match k with
  | .streamGrant sid n => fun j => if j = sid then q j + n else q j
  | _ => q

/-- The account of a stream after a frame: a change of the initial window passes a stream by whose
sending side has finished. -/
def Inner.viewAfter (me : Inner) (p : Peer) (q : Nat → Int) : Frame → Nat → Int
  | .windowUpdate f, j =>
    if f.streamId ≠ 0 ∧ j = f.streamId then q j + f.increment else q j
  | .settings f, j =>
    if f.ack ∨ me.sendDone j then q j
    else q j + ((f.values.initialWindowSize.getD p.initial : Nat) - p.initial)
  | _, j => q j

theorem Inner.viewAfter_settings (me : Inner) (p : Peer) (q : Nat → Int) (f : SettingsFrame)
    (j : Nat) : me.viewAfter p q (.settings f) j = if f.ack ∨ me.sendDone j then q j
      else q j + ((f.values.initialWindowSize.getD p.initial : Nat) - p.initial) := rfl

/-- The account covers the window of every stream, and is the peer's own but for the streams
whose sending side has finished. -/
structure Tracked (p : Peer) (q : Nat → Int) (sent : List OutFrame) (me : Inner) : Prop where
  stream : ∀ {sid e}, me.streams.lookup sid = some e →
    e.sendFlow.windowSize.val + dataOn sid (sent ++ me.pending) ≤ q sid
  open_ : ∀ {sid e}, me.streams.lookup sid = some e → e.state.isSendClosed = false →
    q sid = p.stream sid
  unused : ∀ {sid}, ¬me.Used sid → q sid = p.stream sid

/-- The window of a stream moves with what is granted and what is queued. -/
theorem Kind.flow_granting {e e' : StreamEntry} {q : Nat → Int} (h : k.flow s sid e e')
    (hr : ∀ new ok, k ≠ .resize new ok) :
    e'.sendFlow.windowSize.val + k.dataOn sid =
      e.sendFlow.windowSize.val + k.granting q sid - q sid := by
  cases k with
  | data j b _ =>
      simp only [Kind.flow] at h
      simp only [Kind.dataOn, Kind.granting]
      split at h
      · next hj => rw [if_pos hj]; omega
      · next hj => rw [if_neg hj, h]; omega
  | streamGrant j n =>
      simp only [Kind.flow] at h
      simp only [Kind.dataOn, Kind.granting]
      split at h
      · next hj => rw [if_pos hj.symm]; omega
      · next hj => rw [if_neg (Ne.symm hj), h]; omega
  | resize new ok => exact absurd rfl (hr new ok)
  | _ =>
      rw [show e'.sendFlow = e.sendFlow from h]
      simp only [Kind.dataOn, Kind.granting]
      omega

/-- What a grant books on both accounts. -/
theorem Kind.granting_booked {q : Nat → Int} (h : q sid = p.stream sid)
    (hr : ∀ new ok, k ≠ .resize new ok) : k.granting q sid = (k.booked p).stream sid := by
  cases k with
  | streamGrant j n =>
      simp only [Kind.granting, Kind.booked, Peer.grantStream]
      rw [h]
  | resize new ok => exact absurd rfl (hr new ok)
  | _ => exact h

theorem Move.tracked {q : Nat → Int} (m : Move s k s') (hw : s.Wf) (hp : Within p sent s)
    (h : Tracked p q sent s) (hr : ∀ new ok, k ≠ .resize new ok) :
    Tracked (k.booked p) (k.granting q) sent s' := by
  obtain ⟨fs, hfs, hq⟩ := m.frames
  obtain ⟨-, hon⟩ := Kind.queues_data hq
  have hlog : sent ++ s'.pending = (sent ++ s.pending) ++ fs := by rw [hfs, List.append_assoc]
  refine ⟨fun {j e'} hl => ?_, fun {j e'} hl ho => ?_, fun {j} hu => ?_⟩
  · rw [hlog, dataOn_append, hon]
    rcases m.entry hw hl with ⟨e, hl', hv⟩ | hopen
    · have h₁ := h.stream hl'
      have h₂ := Kind.flow_granting (q := q) hv.flow hr
      push_cast
      omega
    · obtain ⟨w, hopened, hval⟩ := FlowControl.opened_spec hw.window
      obtain ⟨h0, hle⟩ := hp.unused hopen.unused
      have hk : k.dataOn j = 0 ∧ k.granting q = q := by
        rcases hopen.kind with rfl | ⟨_, rfl⟩ <;> exact ⟨rfl, rfl⟩
      rw [hopen.flow, hopened, h0, hk.1, hk.2, h.unused hopen.unused]
      simp only
      rw [hval, hp.initial]
      omega
  · refine Kind.granting_booked ?_ hr
    rcases m.entry hw hl with ⟨e, hl', hv⟩ | hopen
    · refine h.open_ hl' ?_
      by_contra hc
      rw [hv.later.sendClosed (by simpa using hc)] at ho
      cases ho
    · exact h.unused hopen.unused
  · exact Kind.granting_booked (h.unused fun h' => hu (m.grows.used h')) hr

/-- Moves that grant no stream anything. -/
theorem Moves.tracked {q : Nat → Int} (r : Moves extra s s') (hw : s.Wf) (hp : Within p sent s)
    (h : Tracked p q sent s) (hk : ∀ k, extra k → k.grants = false) : Tracked p q sent s' := by
  have hinv : s'.Wf ∧ Within p sent s' ∧ Tracked p q sent s' := by
    refine Reach.invariant (I := fun t => t.Wf ∧ Within p sent t ∧ Tracked p q sent t) r
      ⟨hw, hp, h⟩ ?_
    intro t k t' ⟨htw, htp, ht⟩ m hm
    have hg : k.grants = false := by
      rcases hm with hm | hm
      · cases k <;> first | rfl | cases hm
      · exact hk k hm
    have hb : k.booked p = p ∧ k.granting q = q := by
      cases k <;> first | exact ⟨rfl, rfl⟩ | cases hg
    have hr : ∀ new ok, k ≠ .resize new ok := fun new ok hn => by rw [hn] at hg; cases hg
    have hp' := m.within htw htp fun new hnew => absurd hnew (hr new false)
    have ht' := m.tracked htw htp ht hr
    rw [hb.1] at hp' ht'
    rw [hb.2] at ht'
    exact ⟨m.wf htw, hp', ht'⟩
  exact hinv.2.2

/-! ### SETTINGS -/

/-- Every stream is in the state it was, and has the window it had if its sending side has
finished. -/
def Spared (s s' : Inner) : Prop :=
  ∀ k e', s'.streams.lookup k = some e' → ∃ e, s.streams.lookup k = some e ∧
    e'.state = e.state ∧ (e.state.isSendClosed = true → e'.sendFlow = e.sendFlow)

theorem Spared.refl (s : Inner) : Spared s s := fun _ e he => ⟨e, he, rfl, fun _ => rfl⟩

theorem Spared.of_streams {m : Inner} (h : m.streams = s.streams) : Spared s m :=
  fun _ e he => ⟨e, h ▸ he, rfl, fun _ => rfl⟩

theorem Spared.trans {s₁ s₂ s₃ : Inner} (h₁ : Spared s₁ s₂) (h₂ : Spared s₂ s₃) :
    Spared s₁ s₃ := fun k e₃ hk => by
  obtain ⟨e₂, hk₂, hs₂, hf₂⟩ := h₂ k e₃ hk
  obtain ⟨e₁, hk₁, hs₁, hf₁⟩ := h₁ k e₂ hk₂
  exact ⟨e₁, hk₁, hs₂.trans hs₁, fun hc => (hf₂ (hs₁ ▸ hc)).trans (hf₁ hc)⟩

theorem Spared.scan {f : Nat → StreamEntry → StreamEntry × Option Err} {m : Inner}
    (hm : m.streams = (Store.scan f s.streams).1)
    (hf : ∀ k e, (f k e).1.state = e.state ∧
      (e.state.isSendClosed = true → (f k e).1.sendFlow = e.sendFlow)) : Spared s m := by
  intro k e' he
  obtain ⟨e, hl, rfl | rfl⟩ := Store.lookup_scan (hm ▸ he)
  · exact ⟨e, hl, hf k e⟩
  · exact ⟨_, hl, rfl, fun _ => rfl⟩

namespace Inner

/-- The streams and the initial window of the peer. -/
def opening (me : Inner) : Store Nat StreamEntry × Nat := (me.streams, me.peer.initialWindowSize)

theorem applyRemoteLimits_opening (me : Inner) (v : SettingsValues) :
    (me.applyRemoteLimits v).1.opening = me.opening := by
  have h₁ : (me.applyHeaderTable v.headerTableSize).opening = me.opening := by
    cases v.headerTableSize <;> rfl
  have h₂ : ∀ m : Inner, (m.applyMaxFrame v.maxFrameSize).1.opening = m.opening := fun m => by
    unfold applyMaxFrame
    repeat' split
    all_goals rfl
  have h₃ : ∀ m : Inner, (m.applyMaxStreams v.maxConcurrentStreams).1.opening = m.opening :=
    fun m => by
      unfold applyMaxStreams
      dsimp only
      repeat' split
      all_goals rfl
  have h := (h₂ (me.applyHeaderTable v.headerTableSize)).trans h₁
  unfold applyRemoteLimits
  split
  · next hx => rw [hx] at h; exact h
  · next hx => rw [hx] at h; exact (h₃ _).trans h

theorem applyInitialWindow_spared (me : Inner) (new : Nat) :
    Spared me (me.applyInitialWindow new).1 := by
  have hf : ∀ k e, (resizeSend me.peer.initialWindowSize new k e).1.state = e.state ∧
      (e.state.isSendClosed = true →
        (resizeSend me.peer.initialWindowSize new k e).1.sendFlow = e.sendFlow) := fun k e => by
    refine ⟨(resizeSend_same _ new k e).state, fun hc => ?_⟩
    unfold resizeSend
    rw [if_pos hc]
  unfold applyInitialWindow
  dsimp only
  split
  · exact .refl _
  · split <;> exact .scan rfl hf

theorem applyLocalSettings_spared (me : Inner) : Spared me me.applyLocalSettings.1 := by
  unfold applyLocalSettings
  split
  · exact .of_streams rfl
  · dsimp only
    split
    · exact .of_streams rfl
    · split
      · exact .of_streams rfl
      · exact .scan rfl fun k e => ⟨rfl, fun _ => rfl⟩

theorem recvSettings_spared (me : Inner) (f : SettingsFrame) :
    Spared me (me.recvSettings f).1 := by
  unfold recvSettings
  dsimp only
  split
  · split
    · exact .refl _
    · next t _ =>
      have hs : Spared me { me with settings := t } := .of_streams rfl
      have h := hs.trans (applyLocalSettings_spared { me with settings := t })
      split <;> next hx => rw [hx] at h; exact h
  · generalize me.settings.recvRemote = t
    have h : Spared me
        ({ me.emit .settingsAck with settings := t.1 }.applyRemoteSettings f.values).1 := by
      have h₁ : Spared me
          ({ me.emit .settingsAck with settings := t.1 }.applyRemoteLimits f.values).1 :=
        .of_streams (congrArg Prod.fst (applyRemoteLimits_opening _ f.values))
      unfold applyRemoteSettings
      split
      · next hx => rw [hx] at h₁; exact h₁
      · next m flags hx =>
        rw [hx] at h₁
        split
        · exact h₁
        · next new _ =>
          have h₂ := h₁.trans (applyInitialWindow_spared m new)
          split <;> next hy => rw [hy] at h₂; exact h₂
    split <;> next hx => rw [hx] at h; exact h

/-- A change of the initial window fails on a stream whose sending side is open. -/
theorem applyInitialWindow_error {me : Inner} {new : Nat} {err : Err}
    (h : (me.applyInitialWindow new).2 = .error err) : ∃ k e,
    me.streams.lookup k = some e ∧ (resizeSend me.peer.initialWindowSize new k e).2 = some err := by
  unfold applyInitialWindow at h
  dsimp only at h
  split at h
  · cases h
  · split at h
    · next herr =>
      rw [← Except.error.inj h]
      exact Store.scan_error herr
    · cases h

theorem applyRemoteLimits_error {me : Inner} {v : SettingsValues} {err : Err}
    (h : (me.applyRemoteLimits v).2 = .error err) : ∃ message, err = .value message := by
  have hm : ∀ m m' : Inner, m.applyMaxFrame v.maxFrameSize = (m', some err) →
      ∃ message, err = .value message := fun m m' hx => by
    unfold applyMaxFrame at hx
    split at hx
    · cases hx
    · split at hx
      · next herr =>
        unfold checkMaxFrameSize at herr
        split at herr
        · cases herr
        · cases herr
          cases hx
          exact ⟨_, rfl⟩
      · cases hx
  unfold applyRemoteLimits at h
  split at h
  · next hx =>
    rw [← Except.error.inj h]
    rw [Except.error.inj h] at hx
    rw [Except.error.inj h]
    exact hm _ _ hx
  · cases h

/-- A SETTINGS frame that is no acknowledgement draws an error by a value of it, or by a stream
whose window the new initial window does not fit. -/
theorem recvSettings_error {me : Inner} {f : SettingsFrame} {err : Err} (ha : f.ack = false)
    (h : (me.recvSettings f).2 = .error err) : (∃ message, err = .value message) ∨ ∃ new k e,
    f.values.initialWindowSize = some new ∧ me.streams.lookup k = some e ∧
      (resizeSend me.peer.initialWindowSize new k e).2 ≠ none := by
  unfold recvSettings at h
  dsimp only at h
  rw [if_neg (by rw [ha]; decide)] at h
  generalize me.settings.recvRemote = t at h
  unfold applyRemoteSettings at h
  rcases hl : { me.emit .settingsAck with settings := t.1 }.applyRemoteLimits f.values with
    ⟨m, err' | flags⟩
  · rw [hl] at h
    rw [← Except.error.inj h]
    exact .inl (applyRemoteLimits_error (congrArg Prod.snd hl))
  · rw [hl] at h
    dsimp only at h
    have ho : m.opening = me.opening := by
      have ho := applyRemoteLimits_opening { me.emit .settingsAck with settings := t.1 } f.values
      rw [hl] at ho
      exact ho
    cases hv : f.values.initialWindowSize with
    | none =>
        rw [hv] at h
        cases h
    | some new =>
        rw [hv] at h
        dsimp only at h
        rcases hw : m.applyInitialWindow new with ⟨m', err' | wake⟩
        · rw [hw] at h
          obtain ⟨k, e, he, herr⟩ := applyInitialWindow_error (congrArg Prod.snd hw)
          have hstreams : m.streams = me.streams := congrArg Prod.fst ho
          have hinit : m.peer.initialWindowSize = me.peer.initialWindowSize := congrArg Prod.snd ho
          rw [hstreams] at he
          rw [hinit] at herr
          exact .inr ⟨new, k, e, rfl, he, by rw [herr]; exact Option.some_ne_none err'⟩
        · rw [hw] at h
          cases h

end Inner

/-! ### Frames -/

theorem Tracked.grantConn {q : Nat → Int} (h : Tracked p q sent s) (n : Nat) :
    Tracked (p.grantConn n) q sent s := { h with }

/-- A grant that was not booked on a window only widens both accounts. -/
theorem Tracked.grantStream {q : Nat → Int} (h : Tracked p q sent s) (sid n : Nat) :
    Tracked (p.grantStream sid n) ((Kind.streamGrant sid n).granting q) sent s where
  stream := fun {k e} hl => by
    have := h.stream hl
    simp only [Kind.granting]
    split <;> omega
  open_ := fun hl ho => by
    simp only [Kind.granting, Peer.grantStream]
    rw [h.open_ hl ho]
  unused := fun hu => by
    simp only [Kind.granting, Peer.grantStream]
    rw [h.unused hu]

theorem recvSettings_tracked {q : Nat → Int} (hw : s.Wf) (hp : Within p sent s)
    (hs : Shrinkable s) (h : Tracked p q sent s) (f : SettingsFrame) :
    Tracked (p.sent (.settings f)) (s.viewAfter p q (.settings f)) sent (s.recvSettings f).1 := by
  have hsp := s.recvSettings_spared f
  have hp' := (recvSettings_within hw hp hs f).1
  have hmv := dispatch_moves hw (.settings f)
  have hlog : ∀ k, dataOn k (sent ++ (s.recvSettings f).1.pending) =
      dataOn k (sent ++ s.pending) := fun k => by
    obtain ⟨fs, hfs, hq⟩ := hmv.frames (q := OutFrame.isData) fun j me gs hj hq =>
      Kind.queues_isData (hj.elim (fun hj => by cases j <;> first | rfl | cases hj) fun hj => by
        have ha := addedBy_of_frameKinds hj
        cases j <;> first | rfl | exact ha.elim) hq
    have hfs' : (s.recvSettings f).1.pending = s.pending ++ fs := hfs
    rw [hfs', ← List.append_assoc, dataOn_append, (data_of_no_data hq).2, Nat.add_zero]
  -- both accounts move alike, but for the streams that are passed by
  have hview : ∀ k, q k = p.stream k → s.sendDone k = false →
      s.viewAfter p q (.settings f) k = (p.sent (.settings f)).stream k := fun k hk hd => by
    rw [Peer.sent_settings, Inner.viewAfter_settings, hd]
    cases f.ack with
    | true => rw [if_pos (.inl rfl), if_pos rfl]; exact hk
    | false =>
      rw [if_neg (by decide), if_neg (by decide), hk]
      dsimp only [Peer.resize]
  have hopen : ∀ {k e'}, (s.recvSettings f).1.streams.lookup k = some e' →
      e'.state.isSendClosed = false →
        s.viewAfter p q (.settings f) k = (p.sent (.settings f)).stream k := by
    intro k e' hl ho
    obtain ⟨e, he, hst, -⟩ := hsp k e' hl
    rw [hst] at ho
    exact hview k (h.open_ he ho) (by rw [Inner.sendDone_eq he, ho])
  refine ⟨fun {k e'} hl => ?_, hopen, fun {k} hu => ?_⟩
  · obtain ⟨e, he, hst, hfl⟩ := hsp k e' hl
    cases ho : e'.state.isSendClosed with
    | false =>
        rw [hopen hl ho]
        exact hp'.stream hl ho
    | true =>
        have hd : s.sendDone k = true := by rw [Inner.sendDone_eq he, ← hst, ho]
        rw [hfl (hst ▸ ho), hlog]
        rw [Inner.viewAfter_settings, if_pos (.inr hd)]
        exact h.stream he
  · have hu' : ¬s.Used k := fun h' => hu (hmv.grows.used h')
    refine hview k (h.unused hu') ?_
    unfold Inner.sendDone
    cases hl : s.streams.lookup k with
    | none => rfl
    | some e => exact absurd (hw.used hl) hu'

/-- **What the dispatch of a frame makes of the accounts.** -/
theorem dispatch_tracked {q : Nat → Int} (hw : s.Wf) (hp : Within p sent s) (hs : Shrinkable s)
    (h : Tracked p q sent s) (f : Frame) :
    Tracked (p.sent f) (s.viewAfter p q f) sent (s.dispatch f).1 := by
  have other : (∀ g, f ≠ .settings g) → (∀ g, f ≠ .windowUpdate g) →
      Tracked p q sent (s.dispatch f).1 := by
    intro hset hwu
    refine (dispatch_moves hw f).tracked hw hp h fun k hk => ?_
    have ha := addedBy_of_frameKinds hk
    cases k with
    | connGrant _ => obtain ⟨g, hg, -⟩ := ha; exact absurd hg (hwu g)
    | streamGrant _ _ => obtain ⟨g, hg, -⟩ := ha; exact absurd hg (hwu g)
    | resize _ _ => obtain ⟨g, hg, -⟩ := ha; exact absurd hg (hset g)
    | peerFrame _ => obtain ⟨g, hg, -⟩ := ha; exact absurd hg (hset g)
    | _ => rfl
  cases f with
  | windowUpdate g =>
      have hb : p.sent (.windowUpdate g) = (grantKind g).booked p ∧
          s.viewAfter p q (.windowUpdate g) = (grantKind g).granting q := by
        unfold Inner.viewAfter Peer.sent grantKind
        by_cases h0 : g.streamId = 0
        · simp only [h0, if_true, ne_eq, not_true_eq_false, false_and, if_false]
          exact ⟨rfl, rfl⟩
        · simp only [h0, if_false, ne_eq, not_false_eq_true, true_and]
          exact ⟨rfl, rfl⟩
      rw [hb.1, hb.2]
      have hr : ∀ new ok, grantKind g ≠ .resize new ok := fun new ok hn => by
        unfold grantKind at hn
        split at hn <;> cases hn
      rcases recvWindowUpdate_moves g hw with hm | ⟨s₁, k, s₂, h₁, rfl, hm, h₂⟩
      · have hsame : Tracked p q sent (s.dispatch (.windowUpdate g)).1 :=
          hm.tracked hw hp h fun _ hk => hk.elim
        unfold grantKind
        split
        · exact hsame.grantConn _
        · exact hsame.grantStream _ _
      · have hw₁ := h₁.wf hw
        have hp₁ := h₁.within hw hp fun _ hk => hk.elim
        have ht := hm.tracked hw₁ hp₁ (h₁.tracked hw hp h fun _ hk => hk.elim) hr
        exact h₂.tracked (hm.wf hw₁) (hm.within hw₁ hp₁ fun new hn => absurd hn (hr new false)) ht
          fun _ hk => hk.elim
  | settings g => exact recvSettings_tracked hw hp hs h g
  | headers g => exact other (by intro _ h; cases h) (by intro _ h; cases h)
  | data g => exact other (by intro _ h; cases h) (by intro _ h; cases h)
  | ping g => exact other (by intro _ h; cases h) (by intro _ h; cases h)
  | goAway g => exact other (by intro _ h; cases h) (by intro _ h; cases h)
  | rstStream g => exact other (by intro _ h; cases h) (by intro _ h; cases h)
  | priority _ => exact other (by intro _ h; cases h) (by intro _ h; cases h)
  | streamError _ _ _ => exact other (by intro _ h; cases h) (by intro _ h; cases h)

/-! ### The driver and the accounts -/

/-- The driver, with the account of each stream as the connection keeps it. -/
structure Viewed where
  sys : Sys
  view : Nat → Int

namespace Viewed

open Sys (clientConfig openGet openPost)

/-- The connection after its handshake. -/
def init (cfg : Config) : Viewed := ⟨.init cfg, fun _ => defaultInitialWindowSize⟩

def step (v : Viewed) (a : Sys.Action) : Option Viewed :=
  (v.sys.step a).map fun s => ⟨s, match a with
    | .recv f => v.sys.inner.viewAfter v.sys.granted v.view f
    | _ => v.view⟩

/-- A step, as a relation. -/
def Step (v : Viewed) (a : Sys.Action) (v' : Viewed) : Prop := v.step a = some v'

/-- The states the driver reaches, accounts and all. -/
abbrev Reached (cfg : Config) (v : Viewed) : Prop := Reach Step Runs.Any (init cfg) v

/-- A WINDOW_UPDATE on a stream whose sending side has finished comes after no change of the
initial window that the stream was passed by and that, all told, lowers its window; or the window
the stream is taken to have still fits. -/
def Level (v : Viewed) : Frame → Prop
  | .windowUpdate f => f.streamId ≠ 0 → ∀ e, v.sys.inner.streams.lookup f.streamId = some e →
      e.state.isSendClosed = true → v.view f.streamId ≤ v.sys.granted.stream f.streamId ∨
        e.sendFlow.windowSize.val + f.increment ≤ maxWindowSize
  | _ => True

/-- By the peer's own account, the frame makes a window larger than a window may be. -/
def Overflows (σ : Sys) (f : Frame) : Prop :=
  match f with
  | .windowUpdate g =>
    if g.streamId = 0 then (maxWindowSize : Int) < (σ.granted.sent f).conn - dataTotal σ.log
    else (maxWindowSize : Int) < (σ.granted.sent f).stream g.streamId - dataOn g.streamId σ.log
  | _ => ∃ sid, σ.inner.sendDone sid = false ∧ (σ.inner.streams.lookup sid).isSome = true ∧
      (maxWindowSize : Int) < (σ.granted.sent f).stream sid - dataOn sid σ.log

/-- The frames that grant or take back a window. -/
def grants : Frame → Bool
  | .windowUpdate _ => true
  | .settings f => !f.ack
  | _ => false

/-- A FLOW_CONTROL_ERROR, of the connection or of a stream. -/
def isFlowError : Err → Bool
  | .flowControl r | .stream _ r _ => r = .flowControlError
  | _ => false

variable {v v' : Viewed} {a : Sys.Action} {cfg : Config}

/-- What holds between two steps. -/
structure Ok (v : Viewed) : Prop where
  sys : v.sys.Ok
  pays : v.sys.Pays
  tracked : Tracked v.sys.granted v.view v.sys.sent v.sys.inner

theorem ok_init (cfg : Config) : (init cfg).Ok where
  sys := Sys.ok_init cfg
  pays := Sys.pays_init cfg
  tracked := by
    have hnone : ∀ k, (Sys.init cfg).inner.streams.lookup k = none := fun k => by
      obtain ⟨fc, fs, hb, -, -, -⟩ := Inner.begin_spec cfg
      rw [Sys.inner_init, hb]
      exact AList.lookup_empty k
    refine ⟨fun {k e} hl => ?_, fun {k e} hl _ => ?_, fun _ => rfl⟩
    all_goals
      rw [show (init cfg).sys.inner.streams.lookup k = none from hnone k] at hl
      cases hl

theorem ok_step (h : v.Ok) (hs : Step v a v') : v'.Ok := by
  obtain ⟨σ', hsys, rfl⟩ := Option.map_eq_some_iff.mp hs
  have hst : Sys.Step v.sys a σ' := hsys
  refine ⟨h.sys.step hst, h.pays.step h.sys hst, ?_⟩
  by_cases hr : ∃ f, a = .recv f
  · obtain ⟨f, rfl⟩ := hr
    obtain ⟨hrun, rfl⟩ := hst.recv
    have ht := dispatch_tracked h.sys.wf h.pays.within
      (h.pays.shrinkable (by rw [hrun]; rfl)) h.tracked f
    dsimp only
    rw [Sys.granted_recv, hst.sent (by intro h; cases h), Sys.inner_recv]
    exact ht
  · have ha : ∀ f, a ≠ .recv f := fun f hf => hr ⟨f, hf⟩
    have hg : σ'.granted = v.sys.granted := by
      rw [Sys.granted, hst.received ha, Sys.granted]
    have ht : Tracked v.sys.granted v.view σ'.sent σ'.inner := by
      by_cases hf : a = .flush
      · subst hf
        cases hsys
        have hlog : v.sys.flush.sent ++ v.sys.flush.inner.pending =
            v.sys.sent ++ v.sys.inner.pending := List.append_nil _
        have ht := h.tracked
        exact ⟨hlog ▸ ht.stream, ht.open_, ht.unused⟩
      · rw [hst.sent hf]
        exact (h.sys.step_moves hst hf).tracked h.sys.wf h.pays.within h.tracked
          fun k hk => Sys.kinds_grants ha hk
    cases a with
    | recv f => exact absurd rfl (ha f)
    | _ =>
      dsimp only
      rw [hg]
      exact ht

theorem ok_of_reached (r : Reached cfg v) : v.Ok :=
  Reach.invariant (I := Ok) r (ok_init cfg) fun {_ _ _} h hs _ => ok_step h hs

/-- A grant fails only where the window is too large for it. -/
theorem grant_error {fc fc' : FlowControl} {n : Nat} {r : Reason} (hn : n ≤ maxWindowSize)
    (hp : fc.available = fc.windowSize) (h : fc.grant n = (fc', some r)) :
    (maxWindowSize : Int) < fc.windowSize.val + n := by
  rcases FlowControl.grant_spec hn hp with ⟨w, hg, -⟩ | ⟨-, hv⟩
  · rw [hg] at h
    cases h
  · unfold maxWindowSize
    omega

theorem idle_isFlowError {me : Inner} {sid : Nat} {err : Err}
    (h : me.ensureNotIdle sid = .error err) : isFlowError err = false := by
  unfold ensureNotIdle at h
  dsimp only at h
  split at h <;> split at h <;> cases h <;> rfl

/-- **A WINDOW_UPDATE that draws an error** is too large for the window it is added to. -/
theorem windowUpdate_error {me : Inner} (hw : me.Wf) {f : WindowUpdate} {err : Err}
    (h : (me.recvWindowUpdate f).2 = .error err) (hf : isFlowError err = true) :
    f.streamId = 0 ∧ (maxWindowSize : Int) < me.connSend.windowSize.val + f.increment ∨
      f.streamId ≠ 0 ∧ ∃ e, me.streams.lookup f.streamId = some e ∧
        (maxWindowSize : Int) < e.sendFlow.windowSize.val + f.increment := by
  unfold recvWindowUpdate at h
  dsimp only at h
  split at h
  · next h0 =>
    split at h
    · next hg => exact .inl ⟨h0, grant_error f.bounded hw.connSend hg⟩
    · cases h
  · next h0 =>
    refine .inr ⟨h0, ?_⟩
    split at h
    · split at h
      · cases h
      · split at h
        · next herr =>
          rw [← Except.error.inj h, idle_isFlowError herr] at hf
          cases hf
        · cases h
    · next e he =>
      split at h
      · next hg => exact ⟨e, he, grant_error f.bounded (hw.sendFlow he) hg⟩
      · cases h

/-- **A new initial window that draws an error** is too large for a stream that still sends. -/
theorem resizeSend_overflows {me : Inner} (hw : me.Wf) (hsh : Shrinkable me) {v : SettingsValues}
    {new k : Nat} {e : StreamEntry} (hv : v.Valid) (hn : v.initialWindowSize = some new)
    (hs : me.streams.lookup k = some e)
    (hne : (resizeSend me.peer.initialWindowSize new k e).2 ≠ none) :
    e.state.isSendClosed = false ∧ (maxWindowSize : Int) <
      e.sendFlow.windowSize.val + new - me.peer.initialWindowSize := by
  have hle : new ≤ maxWindowSize := hv.window new hn
  rcases Wf.resizeSend_window (k := k) (hw.sendFlow hs) hw.window hle with
    ⟨-, hr⟩ | ⟨-, hr, -⟩ | ⟨hd, -, -, hlt⟩
  · rw [hr] at hne
    exact absurd rfl hne
  · exact absurd hr hne
  · have hup : me.peer.initialWindowSize < new := by
      rcases hlt with hlt | hlow
      · exact hlt
      · have := hsh k e hs hd
        unfold maxWindowSize at this
        omega
    refine ⟨hd, ?_⟩
    unfold resizeSend at hne
    rw [if_neg (by rw [hd]; decide), if_pos (Nat.le_of_lt hup)] at hne
    dsimp only at hne
    cases hg : e.sendFlow.grant (new - me.peer.initialWindowSize) with
    | mk fc o =>
      cases o with
      | none => rw [hg] at hne; exact absurd rfl hne
      | some r =>
        have := grant_error (by omega) (hw.sendFlow hs) hg
        omega

/-- **A window that the peer keeps within its bounds draws no error.**  In every state reached, a
WINDOW_UPDATE or a SETTINGS frame draws a FLOW_CONTROL_ERROR only if it makes a window larger than
a window may be, by the peer's own account; as long as a WINDOW_UPDATE on a stream whose sending
side has finished comes after no lowering that the stream was passed by, or still fits. -/
theorem grants_fit (cfg : Config) (v : Viewed) (f : Frame) (err : Err) (r : Reached cfg v)
    (hrun : v.sys.pump = .running) (hf : grants f = true) (hl : v.Level f)
    (h : (v.sys.inner.dispatch f).2 = .error err) (he : isFlowError err = true) :
    Overflows v.sys f := by
  have hok := ok_of_reached r
  have hw := hok.sys.wf
  have hlog : v.sys.log = v.sys.sent ++ v.sys.inner.pending := rfl
  cases f with
  | windowUpdate g =>
      have herr : (v.sys.inner.recvWindowUpdate g).2 = .error err := by
        unfold dispatch at h
        dsimp only at h
        cases hr : (v.sys.inner.recvWindowUpdate g).2 with
        | error e' => rw [hr] at h; exact congrArg _ (Except.error.inj h)
        | ok wake => rw [hr] at h; cases h
      unfold Overflows
      dsimp only
      rcases windowUpdate_error hw herr he with ⟨h0, ho⟩ | ⟨h0, e, hs, ho⟩
      · have hc := hok.pays.within.conn
        rw [if_pos h0, hlog]
        simp only [Peer.sent, h0, if_true, Peer.grantConn]
        omega
      · have hc := hok.tracked.stream hs
        rw [if_neg h0, hlog]
        simp only [Peer.sent, h0, if_false, Peer.grantStream, if_true]
        -- the window the connection keeps is covered by the account of the peer
        have hle : v.view g.streamId ≤ v.sys.granted.stream g.streamId := by
          cases hd : e.state.isSendClosed with
          | false => exact Int.le_of_eq (hok.tracked.open_ hs hd)
          | true =>
            rcases hl h0 e hs hd with hle | hfit
            · exact hle
            · omega
        omega
  | settings g =>
      have ha : g.ack = false := by simpa [grants] using hf
      have herr : (v.sys.inner.recvSettings g).2 = .error err := by
        unfold dispatch at h
        dsimp only at h
        cases hr : (v.sys.inner.recvSettings g).2 with
        | error e' => rw [hr] at h; exact congrArg _ (Except.error.inj h)
        | ok w => rw [hr] at h; cases h
      rcases recvSettings_error ha herr with ⟨message, rfl⟩ | ⟨new, k, e, hv, hs, hne⟩
      · cases he
      · obtain ⟨hd, ho⟩ := resizeSend_overflows hw (hok.pays.shrinkable (by rw [hrun]; rfl)) g.valid
          hv hs hne
        have hc := hok.pays.within.stream hs hd
        have hi := hok.pays.within.initial
        refine ⟨k, by rw [sendDone_eq hs, hd], by rw [hs]; rfl, ?_⟩
        rw [Peer.sent_settings, if_neg (by rw [ha]; decide), hv, hlog]
        simp only [Peer.resize, Option.getD_some]
        omega
  | _ => cases hf

theorem reached_of_exec (cfg : Config) (as : List Sys.Action) (p : Viewed → Bool)
    (h : (Runs.exec step (fun _ _ => true) (init cfg) as).any p = true) :
    ∃ v, Reached cfg v ∧ p v = true := by
  obtain ⟨v, r, hp⟩ := Reach.of_exec_any h
  exact ⟨v, r.mono fun _ _ _ => trivial, hp⟩

/-- A WINDOW_UPDATE of the largest increment. -/
def largest (sid : Nat) : Frame := .windowUpdate { streamId := sid, increment := maxWindowSize }

/-- A stream that still sends has its initial window: the largest increment overflows it. -/
theorem grants_fit_open : ∃ v, Reached clientConfig v ∧
    (v.sys.inner.dispatch (largest 1)).2 = .error (streamErr 1 .flowControlError) ∧
    Overflows v.sys (largest 1) := by
  obtain ⟨v, r, hv⟩ := reached_of_exec clientConfig openPost (fun v =>
    decide (v.sys.pump = .running) &&
    (v.sys.inner.streams.lookup 1).all (fun e => !e.state.isSendClosed) &&
    decide ((v.sys.inner.dispatch (largest 1)).2 = .error (streamErr 1 .flowControlError)))
    (by decide +kernel)
  simp only [Bool.and_eq_true, decide_eq_true_eq] at hv
  obtain ⟨⟨hp, ho⟩, hd⟩ := hv
  refine ⟨v, r, hd, grants_fit clientConfig v (largest 1) _ r hp rfl (fun _ e he hc => ?_) hd rfl⟩
  rw [show v.sys.inner.streams.lookup 1 = some e from he] at ho
  simp only [Option.all_some, hc, Bool.not_true, Bool.false_eq_true] at ho

/-- A request without a body, and the initial window lowered to nothing. -/
def loweredAfterEnd : List Sys.Action := openGet ++ [
  .recv (.settings { ack := false, values := { initialWindowSize := some 0 } })]

/-- **A legal grant resets a stream.**  The peer keeps a window of nothing for the stream and grants
the most a window holds; the connection still keeps the initial window. -/
theorem legal_grant_resets : ¬∀ (cfg : Config) (v : Viewed) (f : Frame) (err : Err),
    Reached cfg v → v.sys.pump = .running → grants f = true →
      (v.sys.inner.dispatch f).2 = .error err → isFlowError err = true → Overflows v.sys f := by
  intro h
  obtain ⟨v, r, hv⟩ := reached_of_exec clientConfig loweredAfterEnd (fun v =>
    decide (v.sys.pump = .running) &&
    decide ((v.sys.inner.dispatch (largest 1)).2 = .error (streamErr 1 .flowControlError)) &&
    decide ((v.sys.granted.sent (largest 1)).stream 1 - dataOn 1 v.sys.log ≤ maxWindowSize))
    (by decide +kernel)
  simp only [Bool.and_eq_true, decide_eq_true_eq] at hv
  obtain ⟨⟨hp, hd⟩, hle⟩ := hv
  have ho := h clientConfig v (largest 1) _ r hp rfl hd rfl
  unfold Overflows largest at ho
  dsimp only at ho
  rw [if_neg (by decide)] at ho
  exact absurd ho (Int.not_lt.mpr hle)

end Viewed

end Httpunk.H2
