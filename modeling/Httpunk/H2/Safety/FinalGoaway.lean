import Httpunk.H2.Safety.RecvLedger

/-!
# H2 — Safety — FinalGoaway

Frames above the id of the final GOAWAY.  A client that has not read it yet may have any number
of them under way.  HEADERS and DATA are ignored; WINDOW_UPDATE and RST_STREAM are checked for
an idle stream first, and draw a connection error on an id never seen.

* `Final`: once the shutdown is final, no stream above the id it names is stored.
* `Inner.ignoresAll_iff`: a sequence of such frames is ignored just when no WINDOW_UPDATE and
  no RST_STREAM in it is on an id neither seen nor held by the reset store.
-/

namespace Httpunk.H2

open Runs (Reach)
open Httpunk.H2.Inner

/-! ### The invariant of the final phase -/

/-- The streams of a server are processed ones, and the final GOAWAY has named the last. -/
structure Final (sent : List OutFrame) (me : Inner) : Prop where
  stored : ∀ {sid e}, me.streams.lookup sid = some e → sid ≤ me.lastProcessedId
  limit : me.shutdownFinal = true → me.maxStreamId = me.lastProcessedId
  queued : me.shutdownFinal = true →
    .goAway me.maxStreamId .noError [] ∈ sent ++ me.pending

variable {s s' : Inner} {k : Kind} {sent : List OutFrame} {extra : Kind → Prop}

theorem Move.finalKept (m : Move s k s') (hw : s.Wf) (hr : s.role = .server)
    (h : Final sent s) : Final sent s' := by
  obtain ⟨fs, hfs, hq⟩ := m.frames
  obtain ⟨-, hp, hm⟩ := m.ids
  have hlog : sent ++ s'.pending = (sent ++ s.pending) ++ fs := by rw [hfs, List.append_assoc]
  refine ⟨fun {sid e'} hl => ?_, fun hf => ?_, fun hf => ?_⟩
  · rcases m.entry hw hl with ⟨e, hl', -⟩ | ho
    · have hle := h.stored hl'
      rw [hp]
      cases m with
      | accept _ hlt _ _ =>
          have := hw.processed
          simp only [Kind.processedId]
          omega
      | _ => exact hle
    · rw [hp]
      rcases ho.kind with rfl | ⟨eos, rfl⟩
      · exact Nat.le_refl _
      · cases m with
        | request hc _ _ _ => rw [hr] at hc; cases hc
  · by_cases hk : k = .phase2
    · subst hk
      rw [hm, hp]
      rfl
    · rw [m.final hk] at hf
      have hlim := h.limit hf
      rw [hm, hp]
      cases m with
      | phase2 _ _ => exact absurd rfl hk
      | accept _ hlt hle _ =>
          have := hw.processed
          omega
      | _ => exact hlim
  · rw [hlog, hm]
    by_cases hk : k = .phase2
    · subst hk
      rw [show fs = [.goAway s.lastProcessedId .noError []] from hq]
      exact List.mem_append_right _ (List.mem_singleton.mpr rfl)
    · rw [m.final hk] at hf
      have hmem := List.mem_append_left fs (h.queued hf)
      cases m with
      | phase2 _ _ => exact absurd rfl hk
      | _ => exact hmem

theorem Moves.finalKept (r : Moves extra s s') (hw : s.Wf) (hr : s.role = .server)
    (h : Final sent s) : Final sent s' := by
  have hinv : (s'.Wf ∧ s'.role = .server) ∧ Final sent s' :=
    Reach.invariant (I := fun t => (t.Wf ∧ t.role = .server) ∧ Final sent t) r ⟨⟨hw, hr⟩, h⟩
      fun ⟨⟨htw, htr⟩, ht⟩ m _ =>
        ⟨⟨m.wf htw, m.grows.role.trans htr⟩, m.finalKept htw htr ht⟩
  exact hinv.2

/-! ### Late frames -/

namespace Inner

variable {me me' : Inner} {f : Frame} {fs : List Frame} {sid : Nat}

/-- A HEADERS, DATA, RST_STREAM or WINDOW_UPDATE frame on a client-initiated id above the one
the connection takes streams up to. -/
def isLate (me : Inner) (f : Frame) : Bool :=
  let late sid := isClientInitiated sid && me.maxStreamId < sid
  match f with
  | .headers g => late g.streamId
  | .data g => late g.streamId
  | .rstStream g => late g.streamId
  | .windowUpdate g => late g.streamId
  | _ => false

/-- Each DATA frame fits the connection's window when it arrives. -/
def fitsWindow : Inner → List Frame → Bool
  | _, [] => true
  | me, f :: fs =>
    (match f with
      | .data g => g.flowControlledLen ≤ me.connRecv.size
      | _ => true) && fitsWindow (me.dispatch f).1 fs

/-- The frame is ignored: no connection error, no stream opened or touched, and the receive
ledger as it was. -/
structure Ignores (me : Inner) (f : Frame) : Prop where
  raised : ∀ err, (me.dispatch f).2 = .error err → ∃ sid r i, err = .stream sid r i
  opened : ∀ a, (me.dispatch f).2 = .ok a → a.opened = none
  streams : (me.dispatch f).1.streams = me.streams
  ledger : (me.dispatch f).1.ledger = me.ledger

/-- The frames are ignored one after the other. -/
def IgnoresAll : Inner → List Frame → Prop
  | _, [] => True
  | me, f :: fs => me.Ignores f ∧ IgnoresAll (me.dispatch f).1 fs

/-- What a WINDOW_UPDATE or a RST_STREAM on a stream that is not stored needs: its id has been
seen, or the reset store holds it. -/
def tolerates (me : Inner) (f : Frame) : Bool :=
  match f with
  | .rstStream g => g.streamId ≤ me.lastRecvId || (me.resetStreams.lookup g.streamId).isSome
  | .windowUpdate g => g.streamId ≤ me.lastRecvId || (me.resetStreams.lookup g.streamId).isSome
  | _ => true

/-- The reset store after a late frame: HEADERS and DATA drop their id once it has expired. -/
def afterLate (me : Inner) (f : Frame) : Inner :=
  match f with
  | .headers g => (me.inResetStore g.streamId).1
  | .data g => (me.inResetStore g.streamId).1
  | _ => me

/-- Every WINDOW_UPDATE and RST_STREAM of the sequence is on a known id when its turn comes. -/
def toleratesAll : Inner → List Frame → Bool
  | _, [] => true
  | me, f :: fs => me.tolerates f && toleratesAll (me.afterLate f) fs

/-- Two states with the same reset store and the same highest id seen. -/
structure SameResets (me me' : Inner) : Prop where
  resetStreams : me'.resetStreams = me.resetStreams
  duration : me'.resetStreamDuration = me.resetStreamDuration
  now : me'.now = me.now
  lastRecvId : me'.lastRecvId = me.lastRecvId

namespace SameResets

theorem refl (me : Inner) : SameResets me me := ⟨rfl, rfl, rfl, rfl⟩

theorem inResetStore (h : SameResets me me') (sid : Nat) :
    SameResets (me.inResetStore sid).1 (me'.inResetStore sid).1 := by
  unfold Inner.inResetStore isRecent
  rw [h.resetStreams, h.duration, h.now]
  split
  · exact h
  · split
    · exact h
    · exact ⟨rfl, rfl, rfl, h.lastRecvId⟩

theorem reclaimConn (h : SameResets me me') (n : Nat) : SameResets me (me'.reclaimConn n) := by
  obtain ⟨fc, fs, hs, -⟩ := reclaimConn_eq me' n
  rw [hs]
  exact { h with }

theorem toleratesAll (h : SameResets me me') (fs : List Frame) :
    me'.toleratesAll fs = me.toleratesAll fs := by
  induction fs generalizing me me' with
  | nil => rfl
  | cons f fs ih =>
      have ht : me'.tolerates f = me.tolerates f := by
        unfold tolerates
        rw [h.resetStreams, h.lastRecvId]
      have ha : SameResets (me.afterLate f) (me'.afterLate f) := by
        unfold afterLate
        split
        · exact h.inResetStore _
        · exact h.inResetStore _
        · exact h
      unfold Inner.toleratesAll
      rw [ht, ih ha]

end SameResets

/-- A server in its final phase. -/
structure AtEnd (me : Inner) : Prop where
  wf : me.Wf
  role : me.role = .server
  stored : ∀ {sid e}, me.streams.lookup sid = some e → sid ≤ me.maxStreamId

theorem AtEnd.lookup_none (h : me.AtEnd) (hs : me.maxStreamId < sid) :
    me.streams.lookup sid = none := by
  rcases hl : me.streams.lookup sid with _ | e
  · rfl
  · exact absurd (h.stored hl) (Nat.not_le.mpr hs)

/-- What the dispatch of a late frame leaves, when it is ignored. -/
structure Ignored (me : Inner) (f : Frame) : Prop extends Ignores me f where
  atEnd : (me.dispatch f).1.AtEnd
  limit : (me.dispatch f).1.maxStreamId = me.maxStreamId
  resets : SameResets (me.afterLate f) (me.dispatch f).1

/-- A late HEADERS frame is ignored. -/
theorem dispatch_headers_late (h : me.AtEnd) (g : Headers) (hs : me.maxStreamId < g.streamId) :
    me.Ignored (.headers g) := by
  have hn := h.lookup_none hs
  have ha := me.inResetStore_alike g.streamId
  have hres : me.recvHeaders g true =
      ((me.inResetStore g.streamId).1, .ok (.ignored g.streamId)) := by
    unfold recvHeaders recvHeadersUnknown
    dsimp only
    rw [hn]
    dsimp only
    split
    · rfl
    · rw [ha.role, h.role]
      dsimp only
      unfold recvRequest
      dsimp only
      rw [ha.maxStreamId, if_pos hs]
  have hd : me.dispatch (.headers g) =
      ((me.inResetStore g.streamId).1, .ok (RecvHeadersVerdict.ignored g.streamId).acts) := by
    unfold dispatch
    dsimp only
    rw [h.role, decide_eq_true rfl, hres]
    rfl
  obtain ⟨t, ht⟩ := inResetStore_eq me g.streamId
  refine ⟨⟨fun err he => ?_, fun a he => ?_, ?_, ?_⟩, ?_, ?_, ?_⟩
  · rw [hd] at he; cases he
  · rw [hd] at he; cases he; rfl
  · rw [hd, ht]
  · rw [hd, ht]; rfl
  · rw [hd]
    exact ⟨h.wf.alike ha, ha.role.trans h.role, by rw [ht]; exact h.stored⟩
  · rw [hd]; exact ha.maxStreamId
  · rw [hd]; exact .refl _

/-- A late DATA frame is swallowed, and its bytes go back to the connection's window. -/
theorem dispatch_data_late (h : me.AtEnd) (g : Data) (hs : me.maxStreamId < g.streamId)
    (hfit : g.flowControlledLen ≤ me.connRecv.size) : me.Ignored (.data g) := by
  have hn := h.lookup_none hs
  have ha := me.inResetStore_alike g.streamId
  have hlook : me.recvLookup g.streamId = ((me.inResetStore g.streamId).1, .ok none) := by
    unfold recvLookup
    rw [hn]
    dsimp only
    split
    · rfl
    · have habove : (me.inResetStore g.streamId).1.aboveGoaway g.streamId = true := by
        unfold aboveGoaway
        rw [ha.role, ha.maxStreamId, h.role]
        exact decide_eq_true ⟨rfl, hs⟩
      rw [habove]
      rfl
  obtain ⟨t, ht⟩ := inResetStore_eq me g.streamId
  have hsame : SameResets (me.inResetStore g.streamId).1 (me.inResetStore g.streamId).1 := .refl _
  rw [ht] at ha hlook hsame
  obtain ⟨fc, hfc⟩ := fcSendData_of_le h.wf.recvWindow.2 hfit
  have hd : me.dispatch (.data g) =
      (({ me with resetStreams := t, connRecv := fc } : Inner).reclaimConn g.flowControlledLen,
        .ok (RecvDataVerdict.swallowed (Inner.wakeFlag (({ me with
          resetStreams := t, connRecv := fc } : Inner).reclaimConn g.flowControlledLen)
            me.pending.length)).acts) := by
    unfold dispatch recvData ignoreData consumeConnRecv
    dsimp only
    rw [hlook]
    dsimp only
    rw [hfc]
    rfl
  have hw := h.wf.alike ha
  have hm : Move { me with resetStreams := t } .swallow (me.dispatch (.data g)).1 := by
    rw [hd]
    exact .swallow hfc
  have hst : (me.dispatch (.data g)).1.streams = me.streams := by
    rw [hd]
    exact streams_reclaimConn _ _
  have hlim : (me.dispatch (.data g)).1.maxStreamId = me.maxStreamId := hm.ids.2.2
  refine ⟨⟨fun err he => ?_, fun a he => ?_, hst, ?_⟩,
    ⟨hm.wf hw, hm.grows.role.trans h.role, ?_⟩, hlim, ?_⟩
  · rw [hd] at he; cases he
  · rw [hd] at he; cases he; rfl
  · exact (Int.add_zero _).symm.trans (hm.ledger hw)
  · rw [hst, hlim]; exact h.stored
  · rw [hd]
    unfold afterLate
    dsimp only
    rw [ht]
    refine SameResets.reclaimConn ?_ _
    exact ⟨rfl, rfl, rfl, rfl⟩

/-- What the idle check says of a late id of the client's. -/
theorem ensureNotIdle_late (h : me.AtEnd) (hc : isClientInitiated sid = true) :
    (me.ensureNotIdle sid = .ok () ↔ sid ≤ me.lastRecvId) ∧
      ∀ err, me.ensureNotIdle sid = .error err → ∃ r m d, err = .protocol r m d := by
  have hidle : (!isClientInitiated sid || decide (sid > me.lastRecvId)) =
      decide (sid > me.lastRecvId) := by rw [hc]; rfl
  unfold ensureNotIdle
  rw [h.role]
  dsimp only
  rw [hidle]
  refine ⟨?_, fun err he => ?_⟩
  · by_cases hs : sid > me.lastRecvId
    · rw [if_pos (decide_eq_true hs)]
      exact ⟨fun h => (by cases h), fun hle => by omega⟩
    · rw [if_neg (by simpa using hs)]
      exact ⟨fun _ => Nat.le_of_not_lt hs, fun _ => rfl⟩
  · split at he
    · cases he; exact ⟨_, _, _, rfl⟩
    · cases he

/-- A late WINDOW_UPDATE or RST_STREAM, on a stream that is not stored: nothing happens, or the
idle check raises its error. -/
theorem dispatch_known_late {g : Frame} (h : me.AtEnd) (hc : isClientInitiated sid = true)
    (hres : me.dispatch g = (me, if (me.resetStreams.lookup sid).isSome then .ok {}
      else (me.ensureNotIdle sid).map fun _ => {}))
    (ht : me.tolerates g = (decide (sid ≤ me.lastRecvId) || (me.resetStreams.lookup sid).isSome))
    (hafter : me.afterLate g = me) :
    if me.tolerates g then me.Ignored g else ¬me.Ignores g := by
  obtain ⟨hidle, herr⟩ := ensureNotIdle_late h hc
  split
  · next htol =>
    rw [ht, Bool.or_eq_true, decide_eq_true_eq] at htol
    have hok : me.dispatch g = (me, .ok {}) := by
      rw [hres]
      split
      · rfl
      · next hr =>
        rw [hidle.mpr (htol.resolve_right hr)]
        rfl
    refine ⟨⟨fun err he => ?_, fun a he => ?_, ?_, ?_⟩, ?_, ?_, ?_⟩
    · rw [hok] at he; cases he
    · rw [hok] at he; cases he; rfl
    · rw [hok]
    · rw [hok]
    · rw [hok]; exact h
    · rw [hok]
    · rw [hok, hafter]; exact .refl _
  · next htol =>
    rw [ht, Bool.or_eq_true, decide_eq_true_eq, not_or] at htol
    intro hi
    rcases he : me.ensureNotIdle sid with err | _
    · have hraise : (me.dispatch g).2 = .error err := by
        rw [hres, if_neg htol.2, he]
        rfl
      obtain ⟨r, m, d, rfl⟩ := herr err he
      obtain ⟨_, _, _, h'⟩ := hi.raised _ hraise
      cases h'
    · exact htol.1 (hidle.mp he)

/-- **A late frame is ignored just when it is tolerated.** -/
theorem dispatch_late (h : me.AtEnd) (hl : me.isLate f = true)
    (hfit : ∀ g, f = .data g → g.flowControlledLen ≤ me.connRecv.size) :
    if me.tolerates f then me.Ignored f else ¬me.Ignores f := by
  cases f with
  | headers g =>
      simp only [isLate, Bool.and_eq_true, decide_eq_true_eq] at hl
      exact dispatch_headers_late h g hl.2
  | data g =>
      simp only [isLate, Bool.and_eq_true, decide_eq_true_eq] at hl
      exact dispatch_data_late h g hl.2 (hfit g rfl)
  | rstStream g =>
      simp only [isLate, Bool.and_eq_true, decide_eq_true_eq] at hl
      refine dispatch_known_late h hl.1 ?_ rfl rfl
      have h0 : g.streamId ≠ 0 := by omega
      unfold dispatch recvReset
      dsimp only
      rw [if_neg h0, h.lookup_none hl.2]
      dsimp only
      split
      · rfl
      · cases me.ensureNotIdle g.streamId <;> rfl
  | windowUpdate g =>
      simp only [isLate, Bool.and_eq_true, decide_eq_true_eq] at hl
      refine dispatch_known_late h hl.1 ?_ rfl rfl
      have h0 : g.streamId ≠ 0 := by omega
      unfold dispatch recvWindowUpdate
      dsimp only
      rw [if_neg h0, h.lookup_none hl.2]
      dsimp only
      split
      · rfl
      · cases me.ensureNotIdle g.streamId <;> rfl
  | _ => cases hl

/-- **A sequence of late frames is ignored just when it is tolerated.** -/
theorem ignoresAll_iff (h : me.AtEnd) (hl : ∀ f ∈ fs, me.isLate f = true)
    (hfit : me.fitsWindow fs = true) : me.IgnoresAll fs ↔ me.toleratesAll fs = true := by
  induction fs generalizing me with
  | nil => exact ⟨fun _ => rfl, fun _ => trivial⟩
  | cons f fs ih =>
      unfold fitsWindow at hfit
      rw [Bool.and_eq_true] at hfit
      have hd := dispatch_late h (hl f (.head _)) fun g hg => by
        subst hg
        simpa using hfit.1
      unfold IgnoresAll toleratesAll
      rw [Bool.and_eq_true]
      split at hd
      · next ht =>
        have hl' : ∀ g ∈ fs, (me.dispatch f).1.isLate g = true := fun g hg => by
          have := hl g (.tail _ hg)
          unfold isLate at this ⊢
          rw [hd.limit]
          exact this
        rw [ih hd.atEnd hl' hfit.2, hd.resets.toleratesAll]
        exact ⟨fun h => ⟨ht, h.2⟩, fun h => ⟨hd.toIgnores, h.2⟩⟩
      · next ht => exact ⟨fun h => absurd h.1 hd, fun h => absurd h.1 ht⟩

end Inner

/-! ### Runs -/

namespace Sys

variable {σ σ' : Sys} {a : Action} {cfg : Config}

theorem final_init (cfg : Config) : Final (init cfg).sent (init cfg).inner := by
  obtain ⟨fc, fs, hb, -, -, -⟩ := Inner.begin_spec cfg
  have hnone : ∀ k, (init cfg).inner.streams.lookup k = none := fun k => by
    rw [inner_init, hb]
    exact AList.lookup_empty k
  have hfinal : (init cfg).inner.shutdownFinal = false := by
    rw [inner_init, hb]
    rfl
  refine ⟨fun hl => ?_, fun hf => ?_, fun hf => ?_⟩
  · rw [hnone] at hl; cases hl
  · rw [hfinal] at hf; cases hf
  · rw [hfinal] at hf; cases hf

/-- **What holds of a server in every state it reaches.** -/
theorem final_of_reached (hr : cfg.role = .server) (r : Reached cfg σ) :
    σ.inner.role = .server ∧ Final σ.sent σ.inner := by
  have hinv : σ.Ok ∧ σ.inner.role = .server ∧ Final σ.sent σ.inner := by
    refine Reach.invariant
      (I := fun σ : Sys => σ.Ok ∧ σ.inner.role = .server ∧ Final σ.sent σ.inner) r
      ⟨ok_init cfg, (role_init cfg).trans hr, final_init cfg⟩ ?_
    intro σ a σ' ⟨hok, hrole, hf⟩ hs _
    refine ⟨hok.step hs, (hok.grows hs).role.trans hrole, ?_⟩
    by_cases ha : a = .flush
    · subst ha
      cases hs
      have hlog : σ.flush.sent ++ σ.flush.inner.pending = σ.sent ++ σ.inner.pending :=
        List.append_nil _
      exact ⟨hf.stored, hf.limit, hlog ▸ hf.queued⟩
    · rw [hs.sent ha]
      exact (hok.step_moves hs ha).finalKept hok.wf hrole hf
  exact hinv.2

/-- **After the final GOAWAY, late frames are ignored** just when every WINDOW_UPDATE and
RST_STREAM among them is on an id that was seen, or that the reset store holds when it comes. -/
theorem late_frames_ignored (hr : cfg.role = .server) (r : Reached cfg σ)
    (hf : σ.inner.shutdownFinal = true) (fs : List Frame)
    (hl : ∀ f ∈ fs, σ.inner.isLate f = true) (hfit : σ.inner.fitsWindow fs = true) :
    .goAway σ.inner.maxStreamId .noError [] ∈ σ.log ∧
      (σ.inner.IgnoresAll fs ↔ σ.inner.toleratesAll fs = true) := by
  obtain ⟨hrole, hfin⟩ := final_of_reached hr r
  have hend : σ.inner.AtEnd :=
    ⟨(ok_of_run r).wf, hrole, fun hl => by rw [hfin.limit hf]; exact hfin.stored hl⟩
  exact ⟨hfin.queued hf, Inner.ignoresAll_iff hend hl hfit⟩

/-- A request on stream 1, and a graceful shutdown that ends with it. -/
def finalGoaway : List Action :=
  [.recv (.headers { streamId := 1, inRange := inRange_one, endStream := true }), .call .beginGracefulShutdown,
    .recv (.ping { ack := true, data := shutdownPing, length := shutdownPing_length })]

/-- A WINDOW_UPDATE that crosses the final GOAWAY is a connection error. -/
theorem late_frame_kills : ¬ ∀ (cfg : Config) (σ : Sys) (fs : List Frame), cfg.role = .server →
    Reached cfg σ → σ.inner.shutdownFinal = true → (∀ f ∈ fs, σ.inner.isLate f = true) →
      σ.inner.fitsWindow fs = true → σ.inner.IgnoresAll fs := by
  intro h
  obtain ⟨σ, r, hσ⟩ := reached_of_exec serverConfig finalGoaway
    (fun σ => σ.inner.shutdownFinal && σ.inner.maxStreamId == 1 && σ.inner.isLate
      (.windowUpdate { streamId := 3, increment := 1 }) && !σ.inner.toleratesAll
        [.windowUpdate { streamId := 3, increment := 1 }]) (by decide +kernel)
  simp only [Bool.and_eq_true, Bool.not_eq_true'] at hσ
  have hl : ∀ f ∈ [Frame.windowUpdate { streamId := 3, increment := 1 }],
      σ.inner.isLate f = true := fun f hf => by rw [List.mem_singleton.mp hf]; exact hσ.1.2
  have hi := h serverConfig σ [.windowUpdate { streamId := 3, increment := 1 }] rfl r hσ.1.1.1
    hl rfl
  obtain ⟨hrole, hfin⟩ := final_of_reached rfl r
  have hend : σ.inner.AtEnd :=
    ⟨(ok_of_run r).wf, hrole, fun hl => by rw [hfin.limit hσ.1.1.1]; exact hfin.stored hl⟩
  rw [Inner.ignoresAll_iff hend hl rfl, hσ.2] at hi
  cases hi

/-- A request and its body, which were under way. -/
def lateRequest : List Frame :=
  [.headers { streamId := 3, inRange := inRange_three, endStream := false },
    .data { streamId := 3, inRange := inRange_three, endStream := true, data := [1, 2, 3], padding := 2 }]

theorem late_request_ignored : ∃ σ, Reached serverConfig σ ∧ σ.inner.shutdownFinal = true ∧
    σ.inner.maxStreamId = 1 ∧ σ.inner.IgnoresAll lateRequest := by
  obtain ⟨σ, r, hσ⟩ := reached_of_exec serverConfig finalGoaway
    (fun σ => σ.inner.shutdownFinal && σ.inner.maxStreamId == 1 &&
      lateRequest.all σ.inner.isLate && σ.inner.fitsWindow lateRequest &&
        σ.inner.toleratesAll lateRequest) (by decide +kernel)
  simp only [Bool.and_eq_true, beq_iff_eq, List.all_eq_true] at hσ
  exact ⟨σ, r, hσ.1.1.1.1, hσ.1.1.1.2,
    (late_frames_ignored rfl r hσ.1.1.1.1 lateRequest hσ.1.1.2 hσ.1.2).2.mpr hσ.2⟩

end Sys

end Httpunk.H2
