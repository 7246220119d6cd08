import Httpunk.H2.Driver.Connection
import Httpunk.H2.Moves.Control
import Httpunk.H2.Moves.Effect

/-!
# H2 — Driver — Invariant

The runs of the driver, and what holds in all of them.

* `Inner.dispatch_moves`, `Inner.call_moves`: each frame and each call is a run of moves, of the
  kinds the frame or the call can add.
* `Sys.Ok`: the connection is well formed, and covers what its readers still owe.
* `Sys.Reached.ok`: it holds in every state a run reaches.
-/

namespace Httpunk.H2

open Runs (Reach)

namespace Inner

/-! ### Frames and calls as moves -/

/-- The kinds a frame can add to the common ones. -/
def frameKinds (me : Inner) : Frame → Kind → Prop
  | .headers f => (· ∈ headersKinds f.streamId)
  | .data f => (· ∈ dataKinds f)
  | .windowUpdate f => (· = grantKind f)
  | .settings f => fun k => k ∈ limitKinds f.values ∨
      ∃ new ok, f.values.initialWindowSize = some new ∧ k = .resize new ok
  | .ping _ => (· = .phase2)
  | .goAway f => goAwayKinds f me
  | .rstStream _ | .priority _ | .streamError _ _ _ => Kind.nothing

/-- The kinds a call can add to the common ones. -/
def callKinds (me : Inner) : Call → Kind → Prop
  | .openStream _ endStream _ => (· = .request me.nextId endStream)
  | .sendData sid _ _ _ => fun k => ∃ payload endStream, k = .data sid payload endStream
  | .sendTrailers sid _ => (· = .head sid true)
  | .sendResponseHead sid _ _ endStream _ => (· = .head sid endStream)
  | .releaseCapacity sid n => (· = .settle sid n)
  | .sendGoaway _ _ => (· = .goaway)
  | .fail _ _ => failKinds me
  | .beginGracefulShutdown => (· = .phase1)
  | _ => Kind.nothing

variable {me : Inner}

theorem dispatch_moves (h : me.Wf) (f : Frame) :
    Moves (frameKinds me f) me (me.dispatch f).1 := by
  cases f with
  | headers f => exact recvHeaders_moves h f _
  | data f => exact recvData_moves f h
  | windowUpdate f => exact (recvWindowUpdate_moves f h).moves
  | settings f =>
      obtain ⟨m, hm, hs, -⟩ := recvSettings_moves me f
      have hm' : Moves (frameKinds me (.settings f)) me m := hm.mono fun k hk => Or.inl hk
      rcases hs with hs | ⟨new, -, hv, -, hs, -⟩
      · exact Eq.mp (congrArg _ hs.symm) hm'
      · exact hm'.trans (Moves.one hs (Or.inr ⟨new, _, hv, rfl⟩))
  | ping f => exact recvPing_moves me f
  | goAway f => exact recvGoAway_moves me f
  | rstStream f => exact recvReset_moves me f
  | priority _ => exact .refl
  | streamError _ _ _ => exact .refl

theorem call_moves (h : me.Wf) (c : Call)
    (hopen : ∀ request eos isHead, c = .openStream request eos isHead → me.role = .client)
    (hheld : ∀ sid n, c = .releaseCapacity sid n → ∀ e, me.streams.lookup sid = some e →
      e.recvReclaimed = false → n ≤ e.recvUnreleased) :
    Moves (callKinds me c) me (me.call c).1 := by
  cases c with
  | tryClaimSlot =>
      unfold call tryClaimSlot
      dsimp only
      split
      · exact Moves.admin { Alike.refl me with }
      · exact .refl
  | releaseSlot => exact Moves.admin { Alike.refl me with }
  | openStream request eos isHead =>
      exact (openStream_moves me request eos isHead (hopen _ _ _ rfl)).moves
  | sendData sid data offset eos =>
      obtain ⟨v, me', hv, hf⟩ := sendData_framed h sid data offset eos
      have hfst : (me.call (.sendData sid data offset eos)).1 = me' := congrArg Prod.fst hv
      rw [hfst]
      rcases hf with hf | hf
      · exact hf.moves.weaken
      · obtain ⟨s₁, s₂, h₁, hm, h₂⟩ := hf.moved
        exact (h₁.weaken.trans (Moves.one hm ⟨_, _, rfl⟩)).trans h₂.weaken
  | sendTrailers sid trailers =>
      obtain ⟨v, me', hv, hf⟩ := sendTrailers_moves me sid trailers
      have hfst : (me.call (.sendTrailers sid trailers)).1 = me' := congrArg Prod.fst hv
      rw [hfst]
      rcases hf with ⟨-, rfl⟩ | ⟨-, s, hm, h₂⟩
      · exact .refl
      · have hk : callKinds me (.sendTrailers sid trailers) (.head sid true) := rfl
        exact (Moves.one hm hk).trans h₂.weaken
  | sendResponseHead sid status fields eos date =>
      exact (sendResponseHead_moves me sid status fields eos date).moves
  | resetStream sid reason initiator => exact resetStreamCall_moves me sid reason initiator
  | acloseBody sid => exact acloseBody_moves me sid
  | releaseCapacity sid n => exact (releaseCapacity_once (hheld sid n rfl)).moves
  | releaseDataFrame sid n => exact releaseDataFrame_moves me sid n
  | accepted sid => exact accepted_moves me sid
  | stopPump => exact Moves.admin { Alike.refl me with }
  | writerStart =>
      unfold call writerStart
      dsimp only
      split
      · exact .refl
      · exact Moves.admin { Alike.refl me with }
  | writerEnd => exact Moves.admin { Alike.refl me with }
  | releaseWriters => exact Moves.admin { Alike.refl me with }
  | creditWritten => exact creditWritten_moves me
  | nextCapacityWake => exact nextCapacityWake_moves me
  | sendGoaway reason debugData => exact sendGoaway_moves me reason debugData
  | fail exc message => exact fail_moves me exc message
  | beginGracefulShutdown => exact beginGracefulShutdown_moves me

/-- The frames that can add a kind. -/
def AddedBy (me : Inner) (k : Kind) (f : Frame) : Prop :=
  match k with
  | .seen sid | .accept sid => ∃ g, f = .headers g ∧ g.streamId = sid
  | .head sid endStream => ∃ g, f = .headers g ∧ g.streamId = sid ∧ endStream = true
  | .swallow => ∃ g, f = .data g
  | .receive sid n => ∃ g, f = .data g ∧ g.streamId = sid ∧ g.flowControlledLen = n
  | .settle sid n => ∃ g, f = .data g ∧ g.streamId = sid ∧ g.padding = n
  | .connGrant n => ∃ g, f = .windowUpdate g ∧ g.streamId = 0 ∧ g.increment = n
  | .streamGrant sid n =>
    ∃ g, f = .windowUpdate g ∧ g.streamId ≠ 0 ∧ g.streamId = sid ∧ g.increment = n
  | .peerFrame n => ∃ g, f = .settings g ∧ g.values.maxFrameSize = some n
  | .resize new _ => ∃ g, f = .settings g ∧ g.values.initialWindowSize = some new
  | .phase2 => ∃ g, f = .ping g
  | .peerGoaway => ∃ g, f = .goAway g
  | .forget n => ∃ g, f = .goAway g ∧ forgets (me.dropped g) me (.forget n)
  | _ => False

/-- **Which frame adds a kind.** -/
theorem addedBy_of_frameKinds {f : Frame} {k : Kind} (h : me.frameKinds f k) :
    me.AddedBy k f := by
  cases f with
  | headers g =>
      simp only [frameKinds, headersKinds, List.mem_cons, List.not_mem_nil, or_false] at h
      rcases h with rfl | rfl | rfl
      · exact ⟨g, rfl, rfl⟩
      · exact ⟨g, rfl, rfl⟩
      · exact ⟨g, rfl, rfl, rfl⟩
  | data g =>
      simp only [frameKinds, dataKinds, List.mem_cons, List.not_mem_nil, or_false] at h
      rcases h with rfl | rfl | rfl
      · exact ⟨g, rfl⟩
      · exact ⟨g, rfl, rfl, rfl⟩
      · exact ⟨g, rfl, rfl, rfl⟩
  | windowUpdate g =>
      have hk : k = grantKind g := h
      unfold grantKind at hk
      split at hk
      · next h0 => subst hk; exact ⟨g, rfl, h0, rfl⟩
      · next h0 => subst hk; exact ⟨g, rfl, h0, rfl, rfl⟩
  | settings g =>
      rcases h with h | ⟨new, ok, hv, rfl⟩
      · simp only [limitKinds, Option.mem_toList, Option.map_eq_some_iff] at h
        obtain ⟨n, hn, rfl⟩ := h
        exact ⟨g, rfl, hn⟩
      · exact ⟨g, rfl, hv⟩
  | ping g =>
      have hk : k = .phase2 := h
      subst hk
      exact ⟨g, rfl⟩
  | goAway g =>
      rcases h with rfl | h
      · exact ⟨g, rfl⟩
      · cases k <;> first | exact ⟨g, rfl, h⟩ | cases h
  | _ => exact h.elim

/-- The calls that can add a kind. -/
def CalledBy (me : Inner) (k : Kind) (c : Call) : Prop :=
  match k with
  | .request sid endStream =>
    sid = me.nextId ∧ ∃ request isHead, c = .openStream request endStream isHead
  | .data sid _ _ => ∃ data offset endStream, c = .sendData sid data offset endStream
  | .head sid endStream => (∃ trailers, c = .sendTrailers sid trailers ∧ endStream = true) ∨
      ∃ status fields date, c = .sendResponseHead sid status fields endStream date
  | .settle sid n => c = .releaseCapacity sid n
  | .goaway => ∃ reason debugData, c = .sendGoaway reason debugData
  | .fail => ∃ exc message, c = .fail exc message
  | .forget n => (∃ exc message, c = .fail exc message) ∧ forgets me.streams.keys me (.forget n)
  | .phase1 => c = .beginGracefulShutdown
  | _ => False

/-- **Which call adds a kind.** -/
theorem calledBy_of_callKinds {c : Call} {k : Kind} (h : me.callKinds c k) :
    me.CalledBy k c := by
  cases c with
  | openStream request eos isHead =>
      have hk : k = .request me.nextId eos := h
      subst hk
      exact ⟨rfl, request, isHead, rfl⟩
  | sendData sid data offset eos =>
      obtain ⟨_, _, rfl⟩ := h
      exact ⟨data, offset, eos, rfl⟩
  | sendTrailers sid trailers =>
      have hk : k = .head sid true := h
      subst hk
      exact .inl ⟨trailers, rfl, rfl⟩
  | sendResponseHead sid status fields eos date =>
      have hk : k = .head sid eos := h
      subst hk
      exact .inr ⟨status, fields, date, rfl⟩
  | releaseCapacity sid n =>
      have hk : k = .settle sid n := h
      subst hk
      rfl
  | sendGoaway reason debugData =>
      have hk : k = .goaway := h
      subst hk
      exact ⟨reason, debugData, rfl⟩
  | fail exc message =>
      rcases h with ⟨rfl, -⟩ | h
      · exact ⟨exc, message, rfl⟩
      · cases k <;> first | exact ⟨⟨exc, message, rfl⟩, h⟩ | cases h
  | beginGracefulShutdown =>
      have hk : k = .phase1 := h
      subst hk
      rfl
  | _ => exact h.elim

/-! ### What the readers owe -/

/-- Each stream that still counts its unread bytes holds what its reader owes. -/
structure Covers (me : Inner) (owed : Nat → Nat) : Prop where
  held : ∀ {sid e}, me.streams.lookup sid = some e → e.recvReclaimed = false →
    owed sid ≤ e.recvUnreleased
  unused : ∀ {sid}, ¬ me.Used sid → owed sid = 0

end Inner

/-- What is owed after a move. -/
def Kind.owes (k : Kind) (owed : Nat → Nat) (sid : Nat) : Nat :=
  match k with
  | .receive j n => if j = sid then owed sid + n else owed sid
  | .settle j n => if j = sid then owed sid - n else owed sid
  | _ => owed sid

namespace Inner.Covers

variable {s s' : Inner} {owed owed' : Nat → Nat} {k : Kind} {extra : Kind → Prop}

/-- Owing less is covered. -/
theorem less (h : s.Covers owed) (hle : ∀ sid, owed' sid ≤ owed sid) : s.Covers owed' where
  held := fun hl hr => (hle _).trans (h.held hl hr)
  unused := fun hu => Nat.le_zero.mp ((hle _).trans_eq (h.unused hu))

theorem move (h : s.Covers owed) (hw : s.Wf) (m : Move s k s') : s'.Covers (k.owes owed) where
  held := fun {sid e'} hl hr => by
    rcases m.entry hw hl with ⟨e, hl', hv⟩ | ho
    · obtain ⟨hr', hu⟩ := hv.held hr
      have hc := h.held hl' hr'
      unfold Kind.owes
      unfold Kind.unread at hu
      split <;> simp only at hu <;> rw [hu] <;> (try split) <;> omega
    · have h0 := h.unused ho.unused
      have hk' : k.owes owed sid = owed sid := by
        rcases ho.kind with rfl | ⟨eos, rfl⟩ <;> rfl
      rw [hk', h0]
      exact Nat.zero_le _
  unused := fun {sid} hu => by
    have hu' : ¬ s.Used sid := fun h' => hu (m.grows.used h')
    have h0 := h.unused hu'
    unfold Kind.owes
    split
    · next j n =>
      have hj : j ≠ sid := by
        rintro rfl
        cases m with
        | receive hl _ _ => exact hu' (hw.used hl)
      rw [if_neg hj, h0]
    · rw [h0]; split <;> omega
    · exact h0

/-- Moves of other kinds than a receipt and a release leave what is owed covered. -/
theorem moves (h : s.Covers owed) (hw : s.Wf) (r : Moves extra s s')
    (hk : ∀ k, extra k → k.owes owed = owed) : s'.Covers owed := by
  have hinv : s'.Wf ∧ s'.Covers owed := by
    refine Reach.invariant (I := fun t => t.Wf ∧ t.Covers owed) r ⟨hw, h⟩ ?_
    intro t k t' ⟨htw, htc⟩ m hm
    have ho : k.owes owed = owed := by
      rcases hm with hm | hm
      · cases k <;> first | rfl | cases hm
      · exact hk k hm
    exact ⟨m.wf htw, ho ▸ htc.move htw m⟩
  exact hinv.2

theorem nothing (h : s.Covers owed) (hw : s.Wf) (r : Moves Kind.nothing s s') :
    s'.Covers owed := h.moves hw r fun _ hk => hk.elim

/-- A release of `n` bytes, where it is counted, is owed no more. -/
theorem settle {sid n : Nat} (h : s.Covers owed) (hw : s.Wf)
    (r : Once (· = .settle sid n) s s') : s'.Covers ((Kind.settle sid n).owes owed) := by
  rcases r with r | ⟨s₁, k, s₂, r₁, rfl, m, r₂⟩
  · refine (h.nothing hw r).less fun j => ?_
    unfold Kind.owes
    dsimp only
    split <;> omega
  · have h₁ := (h.nothing hw r₁).move (r₁.wf hw) m
    exact h₁.nothing (m.wf (r₁.wf hw)) r₂

/-- A DATA frame adds its payload to what its reader owes, where it was put before the
reader. -/
theorem received {f : Data} {r : Inner × Except Err RecvDataVerdict} (h : s.Covers owed)
    (hw : s.Wf) (hr : Received s f r) :
    r.1.Covers owed ∧ ∀ v, r.2 = .ok v → r.1.Covers fun k => owed k + v.acts.deliveredTo k := by
  rcases hr with ⟨r, hv⟩ | ⟨m₁, m₂, r₁, m, r₂, hv⟩
  · have hc := h.moves hw r fun k hk => by rw [hk]; rfl
    refine ⟨hc, fun v hok => hc.less fun k => ?_⟩
    unfold RecvDataVerdict.acts Acts.deliveredTo
    rw [hv v hok]
    cases v.handle <;> exact Nat.le_refl _
  · have hw₁ := r₁.wf hw
    have hc := ((h.nothing hw r₁).move hw₁ m).settle (m.wf hw₁) r₂
    have hlen : f.flowControlledLen = f.data.length + f.padding := rfl
    unfold Kind.owes at hc
    dsimp only at hc
    refine ⟨hc.less fun k => ?_, fun v hok => hc.less fun k => ?_⟩
    · split <;> omega
    · unfold RecvDataVerdict.acts Acts.deliveredTo
      rcases hv v hok with hp | ⟨hh, hp⟩
      · rw [hp]
        cases v.handle <;> dsimp only <;> split <;> omega
      · rw [hh, hp]
        dsimp only
        split <;> omega

end Inner.Covers

/-! ### The system -/

namespace Sys

variable {s s' : Sys} {a : Action}

/-- What holds between any two steps of the driver. -/
structure Ok (s : Sys) : Prop where
  wf : s.inner.Wf
  covers : s.inner.Covers s.owed

/-- A step, as a relation. -/
def Step (s : Sys) (a : Action) (s' : Sys) : Prop := s.step a = some s'

/-- The runs of a connection, each of its steps under a condition. -/
abbrev Run (ok : Sys → Action → Prop) (cfg : Config) (s : Sys) : Prop :=
  Reach Step ok (init cfg) s

/-- The states a connection reaches. -/
abbrev Reached (cfg : Config) (s : Sys) : Prop := Run Runs.Any cfg s

theorem inner_init (cfg : Config) : (init cfg).inner = (Inner.new cfg).begin := by
  simp only [init]

theorem ok_init (cfg : Config) : (init cfg).Ok where
  wf := by
    obtain ⟨fc, fs, -, -, -, hw⟩ := Inner.begin_spec cfg
    rw [inner_init]
    exact hw
  covers := ⟨fun _ _ => Nat.zero_le _, fun _ => rfl⟩

/-- The kinds a step can add to the common ones. -/
def kinds (s : Sys) : Action → Kind → Prop
  | .recv f => s.inner.frameKinds f
  | .call c => s.inner.callKinds c
  | .pump =>
    match s.pump with
    | .closing _ _ _ => (· = .goaway)
    | .failing _ => s.inner.failKinds
    | _ => Kind.nothing
  | _ => Kind.nothing

/-- What is owed is held, for a call that is allowed. -/
theorem Ok.call_moves (h : s.Ok) {c : Call} (hc : s.allowed c = true) :
    Moves (s.inner.callKinds c) s.inner (s.inner.call c).1 := by
  refine Inner.call_moves h.wf c ?_ ?_
  · rintro request eos isHead rfl
    simpa [allowed] using hc
  · rintro sid n rfl e he hr
    have hle : n ≤ s.owed sid := by simpa [allowed] using hc
    exact hle.trans (h.covers.held he hr)

/-- **A step of the driver is a run of moves**, but for the writer's, which only takes the
pending frames. -/
theorem Ok.step_moves (h : s.Ok) (hs : Step s a s') (ha : a ≠ .flush) :
    Moves (s.kinds a) s.inner s'.inner := by
  unfold Step step at hs
  cases a with
  | recv f =>
      dsimp only at hs
      split at hs
      · cases hs
        have hm := Inner.dispatch_moves h.wf f
        unfold recv
        dsimp only
        split <;> exact hm
      · cases hs
  | raised e =>
      dsimp only at hs
      split at hs
      · cases hs; exact .refl
      · cases hs
  | pump =>
      dsimp only at hs
      unfold pumpStep at hs
      unfold kinds
      split at hs
      · next hp =>
        dsimp only at hs
        split at hs <;> cases hs <;> exact Inner.resetOnError_moves _ _ _
      · next hp =>
        cases hs
        rw [hp]
        exact Inner.sendGoaway_moves _ _ _
      · next hp =>
        cases hs
        rw [hp]
        exact Inner.fail_moves _ _ _
      · cases hs
      · cases hs
  | reply =>
      dsimp only at hs
      split at hs
      · cases hs; exact Inner.maybeGoawayReply_moves _
      · cases hs
  | call c =>
      dsimp only at hs
      split at hs
      · next hc => cases hs; exact h.call_moves hc
      · cases hs
  | flush => exact absurd rfl ha
  | tick d =>
      cases hs
      exact Moves.admin { Alike.refl s.inner with }
  | rehash m =>
      dsimp only at hs
      split at hs
      · next hm => cases hs; exact Moves.admin (.perm _ hm)
      · cases hs

/-- Only the writer moves frames out of the pending buffer. -/
theorem Step.sent (hs : Step s a s') (ha : a ≠ .flush) : s'.sent = s.sent := by
  unfold Step step at hs
  cases a with
  | recv f =>
      dsimp only at hs
      split at hs
      · cases hs
        unfold recv
        dsimp only
        split <;> rfl
      · cases hs
  | pump =>
      dsimp only at hs
      unfold pumpStep at hs
      split at hs
      · dsimp only at hs
        split at hs <;> cases hs <;> rfl
      all_goals cases hs
      all_goals rfl
  | flush => exact absurd rfl ha
  | tick d => cases hs; rfl
  | _ =>
      dsimp only at hs
      split at hs <;> cases hs
      rfl

/-- A dispatch happens under a running pump. -/
theorem Step.recv {f : Frame} (hs : Step s (.recv f) s') :
    s.pump = .running ∧ s' = s.recv f := by
  unfold Step step at hs
  dsimp only at hs
  split at hs
  · next hp => exact ⟨hp, (Option.some.inj hs).symm⟩
  · cases hs

theorem Step.call {c : Call} (hs : Step s (.call c) s') :
    s.allowed c = true ∧ s' = s.call c := by
  unfold Step step at hs
  dsimp only at hs
  split at hs
  · next hc => exact ⟨hc, (Option.some.inj hs).symm⟩
  · cases hs

theorem inner_recv (s : Sys) (f : Frame) : (s.recv f).inner = (s.inner.dispatch f).1 := by
  unfold Sys.recv
  dsimp only
  split <;> rfl

theorem received_recv (s : Sys) (f : Frame) : (s.recv f).received = s.received ++ [f] := by
  unfold Sys.recv
  dsimp only
  split <;> rfl

/-- Only a dispatch reads a frame. -/
theorem Step.received (hs : Step s a s') (ha : ∀ f, a ≠ .recv f) : s'.received = s.received := by
  unfold Step step at hs
  cases a with
  | recv f => exact absurd rfl (ha f)
  | pump =>
      dsimp only at hs
      unfold pumpStep at hs
      split at hs
      · dsimp only at hs
        split at hs <;> cases hs <;> rfl
      all_goals cases hs
      all_goals rfl
  | flush => cases hs; rfl
  | tick d => cases hs; rfl
  | _ =>
      dsimp only at hs
      split at hs <;> cases hs
      rfl

/-- What a step of the read pump after an error can add. -/
theorem kinds_pump {k : Kind} (h : s.kinds .pump k) :
    k = .goaway ∨ (∃ e, s.pump = .failing e) ∧ s.inner.failKinds k := by
  unfold kinds at h
  cases hp : s.pump with
  | closing _ _ _ => rw [hp] at h; exact .inl h
  | failing e => rw [hp] at h; exact .inr ⟨⟨e, rfl⟩, h⟩
  | _ => rw [hp] at h; exact h.elim

/-- No step takes back an id, or the error recorded. -/
theorem Ok.grows (h : s.Ok) (hs : Step s a s') : Grows s.inner s'.inner := by
  by_cases ha : a = .flush
  · subst ha
    cases hs
    exact ⟨rfl, Nat.le_refl _, Nat.le_refl _, fun _ => rfl, id, id⟩
  · exact (h.step_moves hs ha).grows

/-- The acts of a dispatch that raises nothing are those of its verdict. -/
theorem acts_of_ok {α β : Type} {x : Except Err α} {g : α → β} {b : β} (h : x.map g = .ok b) :
    ∃ v, x = .ok v ∧ g v = b := by
  cases x with
  | error _ => cases h
  | ok v => exact ⟨v, rfl, Except.ok.inj h⟩

/-- Only a DATA frame touches what is owed. -/
theorem owes_of_not_data {me : Inner} {f : Frame} {k : Kind} {owed : Nat → Nat}
    (hf : ∀ g, f ≠ .data g) (hk : me.frameKinds f k) : k.owes owed = owed := by
  have ha := Inner.addedBy_of_frameKinds hk
  cases k with
  | receive sid n => obtain ⟨g, rfl, -⟩ := ha; exact absurd rfl (hf g)
  | settle sid n => obtain ⟨g, rfl, -⟩ := ha; exact absurd rfl (hf g)
  | _ => rfl

/-- Only a DATA frame gives a reader bytes. -/
theorem Ok.dispatch_covers (h : s.Ok) (f : Frame) :
    (s.inner.dispatch f).1.Covers s.owed ∧ ∀ a, (s.inner.dispatch f).2 = .ok a →
      (s.inner.dispatch f).1.Covers fun k => s.owed k + a.deliveredTo k := by
  -- a frame of another kind: nothing is delivered, and nothing owed is touched
  have other : (∀ k, s.inner.frameKinds f k → k.owes s.owed = s.owed) →
      (∀ a, (s.inner.dispatch f).2 = .ok a → a.delivered = none) →
      (s.inner.dispatch f).1.Covers s.owed ∧ ∀ a, (s.inner.dispatch f).2 = .ok a →
        (s.inner.dispatch f).1.Covers fun k => s.owed k + a.deliveredTo k := by
    intro hk ha
    have hc := h.covers.moves h.wf (Inner.dispatch_moves h.wf f) hk
    refine ⟨hc, fun a hok => hc.less fun k => ?_⟩
    rw [Acts.deliveredTo, ha a hok]
    exact Nat.le_refl _
  cases f with
  | data f =>
      obtain ⟨hc, hv⟩ := h.covers.received h.wf (Inner.recvData_received f h.wf)
      refine ⟨hc, fun a ha => ?_⟩
      obtain ⟨v, hok, rfl⟩ := acts_of_ok ha
      exact hv v hok
  | headers f =>
      refine other (fun k hk => owes_of_not_data (by intro g h; cases h) hk) fun a ha => ?_
      obtain ⟨v, -, rfl⟩ := acts_of_ok ha
      rfl
  | windowUpdate f =>
      refine other (fun k hk => owes_of_not_data (by intro g h; cases h) hk) fun a ha => ?_
      obtain ⟨v, -, rfl⟩ := acts_of_ok ha
      rfl
  | settings f =>
      refine other (fun k hk => owes_of_not_data (by intro g h; cases h) hk) fun a ha => ?_
      obtain ⟨v, -, rfl⟩ := acts_of_ok ha
      rfl
  | ping f =>
      refine other (fun k hk => owes_of_not_data (by intro g h; cases h) hk) fun a ha => ?_
      cases ha
      rfl
  | goAway f =>
      refine other (fun k hk => owes_of_not_data (by intro g h; cases h) hk) fun a ha => ?_
      obtain ⟨v, -, rfl⟩ := acts_of_ok ha
      rfl
  | rstStream f =>
      refine other (fun k hk => hk.elim) fun a ha => ?_
      obtain ⟨v, -, rfl⟩ := acts_of_ok ha
      cases v <;> rfl
  | priority _ => exact other (fun k hk => hk.elim) fun a ha => by cases ha; rfl
  | streamError _ _ _ => exact other (fun k hk => hk.elim) fun a ha => by cases ha

theorem Ok.call_covers (h : s.Ok) {c : Call} (hc : s.allowed c = true) :
    (s.inner.call c).1.Covers (s.owedAfter c) := by
  have other : (∀ k, s.inner.callKinds c k → k.owes s.owed = s.owed) →
      (s.inner.call c).1.Covers s.owed := fun hk => h.covers.moves h.wf (h.call_moves hc) hk
  cases c with
  | releaseCapacity sid n =>
      have hle : n ≤ s.owed sid := by simpa [allowed] using hc
      have hr := h.covers.settle h.wf (Inner.releaseCapacity_once (n := n)
        fun e he hr => hle.trans (h.covers.held he hr))
      refine hr.less fun k => ?_
      unfold owedAfter Kind.owes
      dsimp only
      split <;> split <;> omega
  | _ =>
      refine other fun k hk => ?_
      have hc := Inner.calledBy_of_callKinds hk
      cases k <;> first | rfl | cases hc

theorem Ok.step (h : s.Ok) (hs : Step s a s') : s'.Ok := by
  by_cases ha : a = .flush
  · subst ha
    cases hs
    exact ⟨{ h.wf with }, { h.covers with }⟩
  refine ⟨(h.step_moves hs ha).wf h.wf, ?_⟩
  unfold Step Sys.step at hs
  cases a with
  | recv f =>
      obtain ⟨hc, hok⟩ := h.dispatch_covers f
      dsimp only at hs
      split at hs
      · cases hs
        unfold recv
        dsimp only
        split
        · next a ha => exact hok a ha
        · exact hc
      · cases hs
  | raised e =>
      dsimp only at hs
      split at hs
      · cases hs; exact h.covers
      · cases hs
  | pump =>
      dsimp only at hs
      unfold pumpStep at hs
      split at hs
      · dsimp only at hs
        split at hs <;> cases hs <;>
          exact h.covers.nothing h.wf (Inner.resetOnError_moves _ _ _)
      · cases hs
        exact h.covers.moves h.wf (Inner.sendGoaway_moves _ _ _) fun k hk => by rw [hk]; rfl
      · cases hs
        refine h.covers.moves h.wf (Inner.fail_moves _ _ _) fun k hk => ?_
        rcases hk with ⟨rfl, -⟩ | hk
        · rfl
        · cases k <;> first | rfl | cases hk
      · cases hs
      · cases hs
  | reply =>
      dsimp only at hs
      split at hs
      · cases hs; exact h.covers.nothing h.wf (Inner.maybeGoawayReply_moves _)
      · cases hs
  | call c =>
      dsimp only at hs
      split at hs
      · next hc => cases hs; exact h.call_covers hc
      · cases hs
  | flush => exact absurd rfl ha
  | tick d => cases hs; exact { h.covers with }
  | rehash m =>
      dsimp only at hs
      split at hs
      · next hm =>
        cases hs
        exact h.covers.nothing h.wf (Moves.admin (.perm _ hm))
      · cases hs

/-- **The invariant of the driver** holds in every state it reaches, and the states of any run
from there keep it. -/
theorem Ok.run {ok : Sys → Action → Prop} (h : s.Ok) (r : Reach Step ok s s') : s'.Ok :=
  r.invariant h fun hs hstep _ => hs.step hstep

theorem ok_of_run {ok : Sys → Action → Prop} {cfg : Config} (r : Run ok cfg s) : s.Ok :=
  (ok_init cfg).run r

theorem role_init (cfg : Config) : (init cfg).inner.role = cfg.role := by
  obtain ⟨fc, fs, hb, -, -, -⟩ := Inner.begin_spec cfg
  rw [inner_init, hb]
  rfl

/-- No run changes the role, or takes back an id. -/
theorem Ok.grows_run {ok : Sys → Action → Prop} (h : s.Ok) (r : Reach Step ok s s') :
    Grows s.inner s'.inner := by
  have hinv : s'.Ok ∧ Grows s.inner s'.inner :=
    Reach.invariant (I := fun t : Sys => t.Ok ∧ Grows s.inner t.inner) r ⟨h, .refl _⟩
      fun ⟨hok, hg⟩ hs _ => ⟨hok.step hs, hg.trans (hok.grows hs)⟩
  exact hinv.2

/-! ### Concrete runs -/

/-- A client and a server with the default options. -/
def clientConfig : Config := { role := .client }
def serverConfig : Config := { role := .server }

/-- The actions taken in turn from the handshake, each where its condition holds. -/
def exec (ok : Sys → Action → Bool) (cfg : Config) (as : List Action) : Option Sys :=
  Runs.exec step ok (init cfg) as

/-- A client opens a stream for a GET without a body. -/
def openGet : List Action :=
  [.call .tryClaimSlot, .call (.openStream (.ok (.request "GET" "/" [])) true false)]

/-- A client opens a stream for a POST whose body is to follow. -/
def openPost : List Action :=
  [.call .tryClaimSlot, .call (.openStream (.ok (.request "POST" "/" [])) false false)]

theorem reach_of_exec (ok : Sys → Action → Bool) (s : Sys) (as : List Action) (p : Sys → Bool)
    (h : (Runs.exec step ok s as).any p = true) :
    ∃ t, Reach Step (fun s a => ok s a = true) s t ∧ p t = true := Reach.of_exec_any h

theorem run_of_exec (ok : Sys → Action → Bool) (cfg : Config) (as : List Action)
    (p : Sys → Bool) (h : (exec ok cfg as).any p = true) :
    ∃ s, Run (fun s a => ok s a = true) cfg s ∧ p s = true := reach_of_exec ok _ as p h

theorem reached_of_exec (cfg : Config) (as : List Action) (p : Sys → Bool)
    (h : (exec (fun _ _ => true) cfg as).any p = true) : ∃ s, Reached cfg s ∧ p s = true := by
  obtain ⟨s, r, hp⟩ := run_of_exec _ cfg as p h
  exact ⟨s, r.mono fun _ _ _ => trivial, hp⟩

end Sys

end Httpunk.H2
