import Httpunk.H2.Driver.Invariant

/-!
# H2 — Safety — StreamIds

A server uses a stream id at most once.  The highest id seen is what tells a used id from an
idle one, and it is raised by every HEADERS frame that reaches the connection; a head that the
decoder rejects never does.

* `Inner.UsedUp`: no HEADERS opens a stream at or below the id, and none is idle.
* `Sys.ids_used_once`: an id once seen is used up for good, in every run in which the decoder
  rejects heads on known ids only.
-/

namespace Httpunk.H2

open Runs (Reach)

namespace Inner

variable {me me' : Inner} {sid n : Nat}

/-- A HEADERS frame that opens no stream: none is stored that was not, none is counted among
the processed ones, and none is handed to the application. -/
structure OpensNothing (me : Inner) (f : Headers) : Prop where
  stored : ∀ sid e, (me.recvHeaders f true).1.streams.lookup sid = some e →
    ∃ e₀, me.streams.lookup sid = some e₀
  processed : (me.recvHeaders f true).1.lastProcessedId = me.lastProcessedId
  verdict : OpensNone (me.recvHeaders f true).2

/-- The ids up to `n` are used up: no HEADERS frame opens a stream there, and no stream of the
client's is idle. -/
structure UsedUp (me : Inner) (n : Nat) : Prop where
  opens : ∀ f : Headers, f.streamId ≤ n → me.OpensNothing f
  idle : ∀ sid, isClientInitiated sid = true → sid ≤ n → me.ensureNotIdle sid = .ok ()

/-- A HEADERS frame on a stream that is not stored is ignored: the stream was reset a moment
ago, or the final GOAWAY shuts it out. -/
def ignoresHead (me : Inner) (sid : Nat) : Bool :=
  (me.streams.lookup sid).isNone && ((me.inResetStore sid).2 || me.aboveGoaway sid)

/-- The client-initiated id on which a head is received, by the connection or, malformed, by
the decoder. -/
def headSeen (me : Inner) : Frame → Option Nat
  | .headers f =>
    if isClientInitiated f.streamId && !me.ignoresHead f.streamId then some f.streamId else none
  | .streamError sid _ head => if head && isClientInitiated sid then some sid else none
  | _ => none

/-! ### Opening nothing -/

/-- A run of moves that opens no stream leaves the last stream processed. -/
theorem lastProcessedId_of_moves (r : Moves (· = .seen n) me me') :
    me'.lastProcessedId = me.lastProcessedId := by
  refine Reach.invariant (I := fun t => t.lastProcessedId = me.lastProcessedId) r rfl ?_
  intro t k t' hp m hm
  rw [m.ids.2.1, ← hp]
  rcases hm with hm | rfl
  · cases k <;> first | rfl | cases hm
  · rfl

theorem opensNothing_of_le (h : me.Wf) {f : Headers} (hle : f.streamId ≤ me.lastRecvId) :
    me.OpensNothing f := by
  rcases recvHeaders_effect h f true with ⟨hm, hv⟩ | ⟨⟨-, ho, -⟩, -⟩
  · exact ⟨fun sid e he => hm.stored h (fun k hk => by rw [hk]; rfl) he,
      lastProcessedId_of_moves hm, hv⟩
  · simp only [opensRequest, Bool.and_eq_true, decide_eq_true_eq] at ho
    omega

/-- **What has been seen is used up.** -/
theorem usedUp_of_le (h : me.Wf) (hr : me.role = .server) (hle : n ≤ me.lastRecvId) :
    me.UsedUp n where
  opens := fun _ hf => opensNothing_of_le h (hf.trans hle)
  idle := fun sid hc hs => by
    have hn : ¬(!isClientInitiated sid || decide (sid > me.lastRecvId)) = true := by
      rw [hc]
      simp only [Bool.not_true, Bool.false_or, decide_eq_true_eq]
      omega
    unfold ensureNotIdle
    rw [hr]
    exact if_neg hn

/-! ### Seeing a head -/

/-- A request raises the highest id seen, or is at most that. -/
theorem recvRequest_seen (frame : Headers) (before : Nat) (flags : Flags)
    (hr : me.role = .server) (hc : isClientInitiated frame.streamId = true)
    (hm : frame.streamId ≤ me.maxStreamId) :
    frame.streamId ≤ (me.recvRequest frame true before flags).1.lastRecvId := by
  rcases recvRequest_opens me frame true before flags hr with ⟨-, -, hs⟩ | ⟨-, m, hm', hr'⟩
  · exact hs hc hm
  · rw [← show m.lastRecvId = frame.streamId from hm'.ids.1]
    exact hr'.grows.lastRecvId

theorem recvHeadersUnknown_seen (frame : Headers) (before : Nat) (flags : Flags)
    (hr : me.role = .server) (hc : isClientInitiated frame.streamId = true)
    (hi : (me.inResetStore frame.streamId).2 = false) (hm : frame.streamId ≤ me.maxStreamId) :
    frame.streamId ≤ (me.recvHeadersUnknown frame true before flags).1.lastRecvId := by
  have ha := me.inResetStore_alike frame.streamId
  unfold recvHeadersUnknown
  dsimp only
  rw [hi, if_neg Bool.false_ne_true]
  rw [← ha.role] at hr
  rw [← ha.maxStreamId] at hm
  rw [hr]
  exact recvRequest_seen frame before flags hr hc hm

/-- **A head that is not ignored is seen.** -/
theorem recvHeaders_seen (h : me.Wf) (frame : Headers) (hr : me.role = .server)
    (hc : isClientInitiated frame.streamId = true)
    (hi : me.ignoresHead frame.streamId = false) :
    frame.streamId ≤ (me.recvHeaders frame true).1.lastRecvId := by
  rcases hl : me.streams.lookup frame.streamId with _ | e
  · simp only [ignoresHead, hl, Option.isNone_none, Bool.true_and, Bool.or_eq_false_iff,
      aboveGoaway, hr, true_and, decide_eq_false_iff_not, Nat.not_lt, gt_iff_lt] at hi
    unfold recvHeaders
    dsimp only
    rw [hl]
    exact recvHeadersUnknown_seen frame _ _ hr hc hi.1 hi.2
  · -- a stream that is stored has been seen before
    have hu := h.used hl
    simp only [Used, hr] at hu
    exact hu.trans ((recvHeaders_moves h frame true).grows.lastRecvId)

end Inner

/-! ### Runs -/

namespace Sys

variable {σ σ' σ'' : Sys} {a : Action} {cfg : Config} {f : Frame} {n : Nat}

/-- The condition on a step: the decoder rejects a head of the client's only on an id the
connection has seen. -/
def headsKnown (σ : Sys) : Action → Bool
  | .recv (.streamError sid _ true) => !isClientInitiated sid || sid ≤ σ.inner.lastRecvId
  | _ => true

/-- A head seen in a step is seen for good. -/
theorem seen_step (h : σ.Ok) (hr : σ.inner.role = .server) (hs : Step σ (.recv f) σ')
    (hc : σ.headsKnown (.recv f) = true) (hn : σ.inner.headSeen f = some n) :
    n ≤ σ'.inner.lastRecvId := by
  obtain ⟨-, rfl⟩ := hs.recv
  rw [inner_recv]
  cases f with
  | headers g =>
      simp only [Inner.headSeen, Bool.and_eq_true, Bool.not_eq_true', Option.ite_none_right_eq_some,
        Option.some.injEq] at hn
      obtain ⟨⟨hci, hig⟩, rfl⟩ := hn
      have := Inner.recvHeaders_seen h.wf g hr hci hig
      unfold Inner.dispatch
      dsimp only
      rw [hr]
      exact this
  | streamError sid code head =>
      simp only [Inner.headSeen, Bool.and_eq_true, Option.ite_none_right_eq_some,
        Option.some.injEq] at hn
      obtain ⟨⟨rfl, hci⟩, rfl⟩ := hn
      have hle : sid ≤ σ.inner.lastRecvId := by simpa [headsKnown, hci] using hc
      exact hle
  | _ => cases hn

/-- **A stream id is used at most once**, in every run of a server in which the decoder rejects
no head on an id not seen yet: from the dispatch of a head on, whatever else is dispatched,
called or forgotten, the ids up to its own are used up. -/
theorem ids_used_once (hrole : cfg.role = .server)
    (r : Run (fun σ a => σ.headsKnown a = true) cfg σ) (hs : Step σ (.recv f) σ')
    (hc : σ.headsKnown (.recv f) = true) (hn : σ.inner.headSeen f = some n)
    (r' : Reach Step (fun σ a => σ.headsKnown a = true) σ' σ'') : σ''.inner.UsedUp n := by
  have hok := ok_of_run r
  have hr : σ.inner.role = .server := by
    rw [((ok_init cfg).grows_run r).role, role_init, hrole]
  have hok' := hok.step hs
  have hg := hok'.grows_run r'
  refine Inner.usedUp_of_le (hok'.run r').wf ?_ ((seen_step hok hr hs hc hn).trans hg.lastRecvId)
  rw [hg.role, (hok.grows hs).role, hr]

/-- The decoder rejects a request on stream 5, which is answered with RST_STREAM; two seconds
later the reset is forgotten. -/
def rejectedHead : List Action := [.pump, .tick (2 * 10 ^ 9)]

/-- A second request on stream 5 is accepted. -/
def reopens (σ : Sys) : Bool :=
  match (σ.inner.recvHeaders { streamId := 5, inRange := inRange_five, endStream := true } true).2 with
  | .ok v => v.kind = .opened
  | .error _ => false

theorem ids_reused : ¬ ∀ (cfg : Config) (σ σ' σ'' : Sys) (f : Frame) (n : Nat),
    cfg.role = .server → Reached cfg σ → Step σ (.recv f) σ' → σ.inner.headSeen f = some n →
      Reach Step Runs.Any σ' σ'' → σ''.inner.UsedUp n := by
  intro h
  obtain ⟨σ'', r, hσ⟩ := reach_of_exec (fun _ _ => true)
    ((init serverConfig).recv (.streamError 5 .protocolError true)) rejectedHead
    (fun σ => (.rstStream 5 .protocolError ∈ σ.log) && reopens σ) (by decide +kernel)
  have hu := h serverConfig (init serverConfig) _ σ'' (.streamError 5 .protocolError true) 5 rfl
    .refl rfl rfl (r.mono fun _ _ _ => trivial)
  have hv := (hu.opens { streamId := 5, endStream := true } (Nat.le_refl 5)).verdict
  simp only [Bool.and_eq_true, reopens] at hσ
  split at hσ
  · next v hok => exact hv v hok (by simpa using hσ.2)
  · cases hσ.2

/-- A request on stream 5, refused heads below it, and the end of stream 5. -/
def knownHeads : List Action :=
  [.recv (.streamError 3 .protocolError true), .pump,
    .recv (.rstStream { streamId := 5, errorCode := .cancel }), .tick (2 * 10 ^ 9)]

theorem ids_used_once_known : ∃ σ'',
    Reach Step (fun σ a => σ.headsKnown a = true)
      ((init serverConfig).recv (.headers { streamId := 5, endStream := true })) σ'' ∧
    σ''.inner.streams.lookup 5 = none ∧ σ''.inner.UsedUp 5 := by
  obtain ⟨σ'', r, hσ⟩ := reach_of_exec headsKnown
    ((init serverConfig).recv (.headers { streamId := 5, endStream := true })) knownHeads
    (fun σ => σ.inner.streams.lookup 5 = none) (by decide +kernel)
  exact ⟨σ'', r, by simpa using hσ, ids_used_once (σ := init serverConfig)
    (f := .headers { streamId := 5, endStream := true }) rfl .refl rfl rfl (by decide +kernel) r⟩

end Sys

end Httpunk.H2
