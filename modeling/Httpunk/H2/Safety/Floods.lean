import Httpunk.H2.Driver.Backlog
import Httpunk.H2.Driver.Terms
import Httpunk.H2.Safety.Failure
import Httpunk.H2.Safety.RecvLedger
import Httpunk.H2.Safety.Serving

/-!
# H2 — Safety — Floods

A server against floods of requests and resets.  A stream leaves the concurrency limit the moment
it is reset, and stays in the accept queue; so the resets of the peer, and those its errors draw,
are counted apart, and one past a cap ends the connection.

* `Touches.live`: a run that closes no half of a stream keeps it.
* `recvReset_floods`: what an RST_STREAM frame does on a server.
* `Flood`: the driver, with the streams the peer has reset.
* `Flood.backlog_bounded`: the bounds, while no request is opened after the connection failed.
* `Flood.backlog_unbounded`: they fail where one is opened after that.
-/

namespace Httpunk.H2

open Runs (Reach)
open Httpunk.H2.Inner

variable {s s' me : Inner} {m : Mark} {extra : Mark → Prop} {extra' : Kind → Prop} {sid k : Nat}
  {e e' : StreamEntry}

/-! ### Streams that stay -/

/-- A stream that has neither closed nor finished. -/
def StreamEntry.Live (e : StreamEntry) : Prop := e.state.isClosed = false ∧ e.finished = false

theorem Touch.live (t : Touch s m s') (he : s.streams.lookup k = some e) (hl : e.Live)
    (hm : ¬m.closes k) : ∃ e', s'.streams.lookup k = some e' ∧ e'.Live := by
  obtain ⟨e', he'⟩ := t.kept he hl.2 hl.1
  refine ⟨e', he', ?_⟩
  rcases t.entry he' with ⟨e₀, h₀, hv⟩ | ⟨-, hf⟩
  · rw [he] at h₀
    cases h₀
    have hends : m ≠ .ends k := fun h => hm (.inl h)
    refine ⟨(hv.closed hends fun h => hm (.inr h)).trans hl.1, ?_⟩
    rcases hv.finished with ⟨hf, -⟩ | ⟨rfl, -, -⟩
    · exact hf.trans hl.2
    · cases t with
      | finish h hc _ =>
          rw [he] at h
          cases h
          rw [hl.1] at hc
          cases hc
  · rw [hf.absent] at he
    cases he

/-- **A stream stays** as long as neither of its halves is closed. -/
theorem Touches.live (r : Touches extra s s') (he : s.streams.lookup k = some e) (hl : e.Live)
    (hm : ∀ m, extra m → ¬m.closes k) : ∃ e', s'.streams.lookup k = some e' ∧ e'.Live :=
  Reach.invariant (I := fun t : Inner => ∃ e', t.streams.lookup k = some e' ∧ e'.Live) r
    ⟨e, he, hl⟩ fun {_ m _} ⟨_, h, hl⟩ t hk => t.live h hl (hk.elim
      (fun hc h => by rcases h with rfl | rfl <;> cases hc) (hm m))

namespace Inner

/-- Every stream a server stores is live. -/
theorem live_of_serving (h : me.Wf) (hs : me.Serving fun _ => False)
    (he : me.streams.lookup k = some e) : e.Live := by
  have hc : e.state.isClosed = false :=
    State.isClosed_of_isSendClosed ((hs k e he).resolve_right id)
  refine ⟨hc, ?_⟩
  by_contra hf
  rw [h.finished he (by simpa using hf)] at hc
  cases hc

theorem closeStream_of_live (he : me.streams.lookup sid = some e) (hc : e.state.isClosed = false) :
    me.closeStream sid = (me, .none) := by
  simp only [closeStream, he, hc, Bool.not_false, Bool.true_or, if_true]

theorem stored_of_lookup (h : s.streams.lookup k = some e) : s.streams.lookup k ≠ none := by
  rw [h]
  nofun

theorem recvHead_kept (f : Headers) (before : Nat) (he : me.streams.lookup f.streamId = some e)
    (ho : e.state.isSendClosed = false) (hf : e.finished = false) :
    (me.recvHead f e before).1.streams.lookup f.streamId ≠ none := by
  unfold recvHead
  dsimp only
  split
  · exact stored_of_lookup he
  · split
    · exact stored_of_lookup he
    · next st hst =>
      have hl : (me.setStream f.streamId { e with state := st }).streams.lookup f.streamId =
          some { e with state := st } := AList.lookup_insert _
      have hlive : StreamEntry.Live { e with state := st } :=
        ⟨State.isClosed_of_isSendClosed (State.recvOpen_isSendClosed hst ho), hf⟩
      obtain ⟨s, r, hr, hd, -, -⟩ := applyContentLength_spec f hl
      obtain ⟨e', he', hl'⟩ := hd.live hl hlive (by rintro m rfl (h | h) <;> cases h)
      rw [hr]
      rcases r with _ | err
      · dsimp only
        repeat' split
        all_goals
          first
          | rw [closeStream_of_live he' hl'.1]; exact stored_of_lookup he'
          | exact stored_of_lookup he'
      · exact stored_of_lookup he'

theorem recvTrailers_kept (f : Headers) (before : Nat)
    (he : me.streams.lookup f.streamId = some e) (ho : e.state.isSendClosed = false) :
    (me.recvTrailers f e before).1.streams.lookup f.streamId ≠ none := by
  unfold recvTrailers
  dsimp only
  split
  · exact stored_of_lookup he
  · split
    · exact stored_of_lookup he
    · next st hst =>
      have hl : (me.setStream f.streamId { e with state := st }).streams.lookup f.streamId =
          some { e with state := st } := AList.lookup_insert _
      have hc := State.isClosed_of_isSendClosed (State.recvClose_isSendClosed hst ho)
      split
      · exact stored_of_lookup hl
      · rw [closeStream_of_live hl hc]
        exact stored_of_lookup hl

/-- A HEADERS frame keeps the stream it is for. -/
theorem recvHeaders_kept (h : me.Wf) (hs : me.Serving fun _ => False) (f : Headers) (spare : Bool)
    (he : me.streams.lookup f.streamId = some e) :
    (me.recvHeaders f spare).1.streams.lookup f.streamId ≠ none := by
  have hl := live_of_serving h hs he
  have ho := (hs _ e he).resolve_right id
  unfold recvHeaders
  dsimp only
  rw [he]
  dsimp only
  rw [hl.1]
  repeat' split
  all_goals first
    | exact stored_of_lookup he
    | exact recvHead_kept f _ he ho hl.2
    | exact recvTrailers_kept f _ he ho
    | contradiction

/-- A DATA frame keeps the stream it is for. -/
theorem DataOutcome.kept {f : Data} {r : Inner × Except Err RecvDataVerdict} (h : me.Wf)
    (hs : me.Serving fun _ => False) (ho : DataOutcome me f r)
    (he : me.streams.lookup f.streamId = some e) : r.1.streams.lookup f.streamId ≠ none := by
  have hl := live_of_serving h hs he
  have calm : ∀ {s}, Touches (fillMarks f) me s → s.streams.lookup f.streamId ≠ none := fun ht => by
    obtain ⟨e', he', -⟩ := ht.live he hl fun m hm => fillMarks_calm hm
    exact stored_of_lookup he'
  cases ho with
  | broken ht _ => exact calm ht
  | refused ht => exact calm ht
  | ignored ht _ => exact calm ht.weaken
  | empty ht _ _ => exact calm ht.touches
  | taken ht _ _ => exact calm ht.touches
  | @ended m e₁ st _ ht _ he₁ _ hst =>
      have hset : (m.setStream f.streamId { e₁ with state := st }).streams.lookup f.streamId =
          some { e₁ with state := st } := AList.lookup_insert _
      have hm : m.Serving fun _ => False :=
        ht.touches.serving hs fun m hm k hc => absurd hc (fillMarks_still hm)
      have hc := State.isClosed_of_isSendClosed
        (State.recvClose_isSendClosed hst ((hm _ e₁ he₁).resolve_right id))
      rw [closeStream_of_live hset hc]
      exact stored_of_lookup hset

/-! ### Resets of the peer -/

/-- **What an RST_STREAM frame does on a server.**  It is for no stream; or it would pass the cap;
or it ends its stream, and is counted where the stream has not been accepted. -/
theorem recvReset_floods (h : me.Wf) (hr : me.role = .server) (hs : me.Serving fun _ => False)
    (f : RstStream) :
    ((f.streamId = 0 ∨ me.streams.lookup f.streamId = none) ∧ (me.recvReset f).1 = me ∧
      ∀ v, (me.recvReset f).2 ≠ .ok (some v)) ∨
    (me.streams.lookup f.streamId ≠ none ∧ f.streamId ∈ me.pendingAccept ∧
      me.maxPendingAcceptReset ≤ me.remoteResetPending.card ∧
      me.recvReset f = (me, .error (protocolErrWithDebug .enhanceYourCalm "too_many_resets"
        "too_many_resets"))) ∨
    me.streams.lookup f.streamId ≠ none ∧
      (f.streamId ∈ me.pendingAccept → me.remoteResetPending.card < me.maxPendingAcceptReset) ∧
      (∃ v, (me.recvReset f).2 = .ok (some v) ∧ v.handle = f.streamId) ∧
      (me.recvReset f).1.backlog = { me.backlog with
        remoteResetPending := if f.streamId ∈ me.pendingAccept
          then insert f.streamId me.remoteResetPending else me.remoteResetPending } := by
  unfold recvReset
  dsimp only
  split
  · next h0 => exact .inl ⟨.inl h0, rfl, nofun⟩
  · split
    · next hn =>
      refine .inl ⟨.inr hn, ?_⟩
      split
      · exact ⟨rfl, by rintro v hv; cases hv⟩
      · split
        · exact ⟨rfl, nofun⟩
        · exact ⟨rfl, by rintro v hv; cases hv⟩
    · next e he =>
      have hf := (live_of_serving h hs he).2
      have hon : ∀ m : Inner, ∃ v, (m.recvResetOn f e).2 = .ok (some v) ∧ v.handle = f.streamId :=
        fun m => by
          unfold recvResetOn
          rw [if_neg (by simp [hf])]
          exact ⟨_, rfl, rfl⟩
      split
      · next hp =>
        split
        · next hcap => exact .inr (.inl ⟨stored_of_lookup he, hp.2, hcap, rfl⟩)
        · next hcap =>
          refine .inr (.inr ⟨stored_of_lookup he, fun _ => Nat.lt_of_not_le hcap, hon _, ?_⟩)
          rw [backlog_recvResetOn, if_pos hp.2]
          rfl
      · next hp =>
        have hp' : f.streamId ∉ me.pendingAccept := fun h => hp ⟨hr, h⟩
        refine .inr (.inr ⟨stored_of_lookup he, fun h => absurd h hp', hon _, ?_⟩)
        rw [backlog_recvResetOn, if_neg hp']
        rfl

end Inner

/-! ### The system -/

/-- The stream a call of the application is about. -/
def Call.stream : Call → Option Nat
  | .sendData sid _ _ _ | .sendTrailers sid _ | .sendResponseHead sid _ _ _ _
  | .resetStream sid _ _ | .acloseBody sid | .releaseCapacity sid _ | .releaseDataFrame sid _ =>
    some sid
  | _ => none

namespace Sys

/-- The application has no handle on a request it has not accepted. -/
def holds (σ : Sys) : Action → Bool
  | .call c => c.stream.all fun sid => sid ∉ σ.inner.pendingAccept
  | _ => true

/-- The stream a frame of the peer resets. -/
def resetBy (σ : Sys) : Action → Option Nat
  | .recv (.rstStream f) =>
    match (σ.inner.recvReset f).2 with
    | .ok v => v.map RecvResetVerdict.handle
    | .error _ => none
  | _ => none

end Sys

/-- The driver of a server, with the streams the peer has reset. -/
structure Flood where
  sys : Sys
  resets : Finset Nat

namespace Flood

/-- The connection after its handshake. -/
def init (cfg : Config) : Flood := ⟨.init cfg, ∅⟩

/-- One step, where the driver can take it. -/
def step (w : Flood) (a : Sys.Action) : Option Flood :=
  if w.sys.holds a then
    (w.sys.step a).map fun σ => ⟨σ, (w.sys.resetBy a).elim w.resets (insert · w.resets)⟩
  else none

/-- The step relation. -/
def Step (w : Flood) (a : Sys.Action) (w' : Flood) : Prop := w.step a = some w'

/-- The states reached. -/
abbrev Reached (cfg : Config) : Flood → Prop := Reach Step Runs.Any (init cfg)

/-- No request is opened after the connection failed. -/
def Connected (w : Flood) : Sys.Action → Prop
  | .recv (.headers f) => w.sys.inner.error = none ∨ w.sys.opens f = false
  | _ => True

/-- The states reached without a request opened after the connection failed. -/
abbrev ReachedLive (cfg : Config) : Flood → Prop := Reach Step Connected (init cfg)

/-- The requests that left the store unaccepted, and not by the peer's reset. -/
def lost (w : Flood) : Finset Nat :=
  w.sys.inner.pendingAccept.filter fun k => w.sys.inner.streams.lookup k = none ∧ k ∉ w.resets

variable {w w' : Flood} {a : Sys.Action} {cfg : Config} {σ σ' : Sys}

theorem Step.sys (hs : Step w a w') : Sys.Step w.sys a w'.sys ∧ w.sys.holds a = true ∧
    w'.resets = (w.sys.resetBy a).elim w.resets (insert · w.resets) := by
  unfold Step step at hs
  split at hs
  · next h =>
    obtain ⟨σ, hσ, rfl⟩ := Option.map_eq_some_iff.mp hs
    exact ⟨hσ, h, rfl⟩
  · cases hs

theorem mem_lost : k ∈ w.lost ↔ k ∈ w.sys.inner.pendingAccept ∧
    w.sys.inner.streams.lookup k = none ∧ k ∉ w.resets := by
  unfold lost
  rw [Finset.mem_filter]

/-! ### The active streams -/

theorem active_le_of_move {k : Kind} (m : Move s k s') (ha : ∀ sid, k ≠ .accept sid)
    (hq : ∀ sid eos, k ≠ .request sid eos) : s'.numActive ≤ s.numActive := by
  have hcounts : ∀ {t u : Inner}, t.counts = u.counts → t.numActive ≤ u.numActive :=
    fun {t u} h => (congrArg Counts.numActive h).le
  cases m with
  | admin h => exact h.numActive.le
  | finish _ _ _ => exact Nat.sub_le _ _
  | reclaim _ _ => exact (congrArg Counts.numActive (counts_reclaimEntry _ _ _)).le
  | reply _ => exact hcounts (counts_maybeGoawayReply _)
  | swallow _ => exact hcounts (counts_reclaimConn _ _)
  | settle _ _ _ => exact hcounts (counts_reclaimConn _ _)
  | accept _ _ _ _ => exact absurd rfl (ha _)
  | request _ _ _ _ => exact absurd rfl (hq _ _)
  | _ => exact Nat.le_refl _

/-- Moves that open no stream leave no more of them active. -/
theorem active_le_of_moves (r : Moves extra' s s') (ha : ∀ sid, ¬extra' (.accept sid))
    (hq : ∀ sid eos, ¬extra' (.request sid eos)) : s'.numActive ≤ s.numActive :=
  Reach.invariant (I := fun t : Inner => t.numActive ≤ s.numActive) r (Nat.le_refl _)
    fun {_ _ _} ih m hk => (active_le_of_move m
      (fun sid h => hk.elim (fun hc => by rw [h] at hc; cases hc) fun hx => ha sid (h ▸ hx))
      fun sid eos h => hk.elim (fun hc => by rw [h] at hc; cases hc)
        fun hx => hq sid eos (h ▸ hx)).trans ih

/-- A server requests nothing. -/
theorem no_request_kind (h : σ.Server) (hs : Sys.Step σ a σ') (sid : Nat) (eos : Bool) :
    ¬σ.kinds a (.request sid eos) := by
  intro hk
  cases a with
  | recv f => exact (Inner.addedBy_of_frameKinds hk).elim
  | call c =>
      obtain ⟨-, request, isHead, rfl⟩ := Inner.calledBy_of_callKinds hk
      have hal := hs.call.1
      rw [Sys.allowed, h.role] at hal
      cases hal
  | pump =>
      rcases Sys.kinds_pump hk with h | ⟨-, h | h⟩
      · cases h
      · cases h.1
      · cases h
  | _ => exact hk.elim

/-- **A server has no more streams active than it allows.** -/
theorem step_active (h : σ.Server) (hs : Sys.Step σ a σ')
    (hl : σ.inner.numActive ≤ σ.inner.maxConcurrent) :
    σ'.inner.numActive ≤ σ.inner.maxConcurrent := by
  by_cases hf : a = .flush
  · subst hf
    cases hs
    exact hl
  · by_cases hh : ∃ f, a = .recv (.headers f)
    · obtain ⟨f, rfl⟩ := hh
      obtain ⟨-, rfl⟩ := hs.recv
      rw [Sys.recv_inner]
      rcases recvHeaders_effect h.ok.wf f (σ.inner.role = .server) with
        ⟨hm, -⟩ | ⟨⟨-, hopen, -⟩, m₁, m₂, ha, hm, hm'⟩
      · exact (active_le_of_moves hm (by intro _ h; cases h) (by intro _ _ h; cases h)).trans hl
      · have hlt : σ.inner.numActive < σ.inner.maxConcurrent := by
          simp only [opensRequest, Bool.and_eq_true, decide_eq_true_eq] at hopen
          exact hopen.2
        have h₂ : m₂.numActive = m₁.numActive + 1 := by
          cases hm
          rfl
        have h₃ := active_le_of_moves hm' (by intro _ h; cases h) (by intro _ _ h; cases h)
        have h₁ := ha.numActive
        change (σ.inner.recvHeaders f (σ.inner.role = .server)).1.numActive ≤ _
        omega
    · exact (active_le_of_moves (h.ok.step_moves hs hf) (Sys.no_accept_kind hh)
        (no_request_kind h hs)).trans hl

/-! ### The backlog of a step -/

/-- What a step adds to the accept queue. -/
def opened (σ : Sys) : Sys.Action → Option Nat
  | .recv f => σ.inner.opensOn f
  | _ => none

/-- **What a step makes of the backlog.** -/
inductive Charges (σ : Sys) : Sys.Action → Sys → Prop where
  /-- It keeps the backlog, but for the request it opens. -/
  | opens {a : Sys.Action} {σ' : Sys} (ha : σ.resetBy a = none)
      (h : σ'.inner.backlog = σ.inner.backlog.opens (opened σ a))
      (hq : a = .pump → ∀ sid reason, σ.pump = .resetting sid reason → σ'.inner = σ.inner) :
      Charges σ a σ'
  /-- The peer resets a stream. -/
  | resets {f : RstStream} {σ' : Sys} (ha : σ.resetBy (.recv (.rstStream f)) = some f.streamId)
      (hl : σ.inner.streams.lookup f.streamId ≠ none)
      (hcap : f.streamId ∈ σ.inner.pendingAccept →
        σ.inner.remoteResetPending.card < σ.inner.maxPendingAcceptReset)
      (h : σ'.inner.backlog = { σ.inner.backlog with
        remoteResetPending := if f.streamId ∈ σ.inner.pendingAccept
          then insert f.streamId σ.inner.remoteResetPending
          else σ.inner.remoteResetPending }) : Charges σ (.recv (.rstStream f)) σ'
  /-- An error of a stream is answered. -/
  | errs {sid : Nat} {reason : Reason} {σ' : Sys} (hp : σ.pump = .resetting sid reason)
      (hcap : ∀ max ∈ σ.inner.maxLocalErrorResets, σ.inner.localErrorResets < max)
      (h : σ'.inner.backlog = { σ.inner.backlog with
        localErrorResets := σ.inner.localErrorResets + 1 }) : Charges σ .pump σ'
  /-- The application accepts a request. -/
  | accepts {sid : Nat} {σ' : Sys} (h : σ'.inner.backlog = { σ.inner.backlog with
      pendingAccept := σ.inner.pendingAccept.erase sid
      remoteResetPending := σ.inner.remoteResetPending.erase sid }) :
      Charges σ (.call (.accepted sid)) σ'

theorem step_charges (h : σ.Server) (hs : Sys.Step σ a σ') : Charges σ a σ' := by
  cases a with
  | recv f =>
      obtain ⟨-, rfl⟩ := hs.recv
      have hb : (σ.recv f).inner.backlog = (σ.inner.dispatch f).1.backlog := by rw [Sys.recv_inner]
      by_cases hf : ∃ r, f = .rstStream r
      · obtain ⟨f, rfl⟩ := hf
        rcases recvReset_floods h.ok.wf h.role h.serves f with
          ⟨-, hsame, hno⟩ | ⟨-, -, -, hr⟩ | ⟨hst, hcap, ⟨v, hv, hh⟩, hbl⟩
        · refine .opens ?_ (hb.trans (congrArg Inner.backlog hsame)) nofun
          rcases hr : (σ.inner.recvReset f).2 with err | _ | v
          · simp only [Sys.resetBy, hr]
          · simp only [Sys.resetBy, hr, Option.map_none]
          · exact absurd hr (hno v)
        · refine .opens ?_ (hb.trans (congrArg (fun r => r.1.backlog) hr)) nofun
          simp only [Sys.resetBy, hr]
        · refine .resets ?_ hst hcap (hb.trans hbl)
          simp only [Sys.resetBy, hv, Option.map_some, hh]
      · refine .opens ?_ (hb.trans (dispatch_backlog _ fun r hr => hf ⟨r, hr⟩)) nofun
        cases f with
        | rstStream r => exact absurd ⟨r, rfl⟩ hf
        | _ => rfl
  | pump =>
      unfold Sys.Step Sys.step Sys.pumpStep at hs
      dsimp only at hs
      cases hp : σ.pump with
      | resetting sid reason =>
          rw [hp] at hs
          dsimp only at hs
          rcases resetOnError_backlog σ.inner sid reason with ⟨v, hv, hcap, hb⟩ | ⟨-, hr⟩
          · rw [hv] at hs
            cases hs
            exact .errs hp hcap hb
          · rw [hr] at hs
            cases hs
            exact .opens rfl rfl fun _ _ _ _ => rfl
      | closing reason debugData e =>
          rw [hp] at hs
          cases hs
          exact .opens rfl rfl fun _ _ _ h => by rw [hp] at h; cases h
      | failing e =>
          rw [hp] at hs
          cases hs
          exact .opens rfl (backlog_fail _ _ _) fun _ _ _ h => by rw [hp] at h; cases h
      | running => rw [hp] at hs; cases hs
      | done => rw [hp] at hs; cases hs
  | reply =>
      unfold Sys.Step Sys.step at hs
      dsimp only at hs
      split at hs <;> cases hs
      exact .opens rfl (backlog_of_counts (counts_maybeGoawayReply _)) nofun
  | call c =>
      obtain ⟨-, rfl⟩ := hs.call
      have hb := call_backlog σ.inner c
      cases c with
      | accepted sid => exact .accepts hb
      | _ => exact .opens rfl hb nofun
  | raised e =>
      unfold Sys.Step Sys.step at hs
      dsimp only at hs
      split at hs <;> cases hs
      exact .opens rfl rfl nofun
  | rehash m =>
      unfold Sys.Step Sys.step at hs
      dsimp only at hs
      split at hs <;> cases hs
      exact .opens rfl rfl nofun
  | flush =>
      cases hs
      exact .opens rfl rfl nofun
  | tick d =>
      cases hs
      exact .opens rfl rfl nofun

/-! ### The streams of a step -/

/-- A call closes the stream it is about, unless it fails the connection. -/
theorem callMarks_own {c : Call} (hm : me.callMarks c m) (hc : m.closes k) :
    c.stream = some k ∨ ∃ exc message, c = .fail exc message := by
  have hend : ∀ {sid} {handle : Option Nat}, endMarks sid handle m → some sid = some k :=
    fun h => congrArg some (endMarks_shift h (.inl hc)).symm
  have none_ : m = .claim ∨ m = .unclaim ∨ m = .written ∨ (∃ n, m = .requested n) → False := by
    rintro (rfl | rfl | rfl | ⟨n, rfl⟩) <;> rcases hc with h | h <;> cases h
  cases c with
  | tryClaimSlot => exact (none_ (.inl hm)).elim
  | releaseSlot => exact (none_ (.inr (.inl hm))).elim
  | openStream _ _ _ =>
      rcases hm with hm | hm
      · exact (none_ (.inr (.inl hm))).elim
      · exact (none_ (.inr (.inr (.inr ⟨_, hm⟩)))).elim
  | sendData sid data offset eos =>
      rcases hm with ⟨n, rfl | rfl⟩ | hm
      · rcases hc with h | h <;> cases h
      · rcases hc with h | h <;> cases h
      · exact .inl (hend hm)
  | sendTrailers sid trailers => exact .inl (hend hm)
  | sendResponseHead sid status fields eos date => exact .inl (hend hm)
  | resetStream sid reason initiator =>
      subst hm
      rcases hc with h | h <;> cases h
      exact .inl rfl
  | acloseBody sid =>
      subst hm
      rcases hc with h | h <;> cases h
      exact .inl rfl
  | creditWritten => exact (none_ (.inr (.inr (.inl hm)))).elim
  | fail exc message => exact .inr ⟨_, _, rfl⟩
  | _ => exact hm.elim

/-- **A request that is not accepted stays** until the peer resets it or it has an error. -/
theorem step_stored (h : σ.Server) (hs : Sys.Step σ a σ') (hf : σ.fails a = false)
    (hh : σ.holds a = true) (hk : k ∈ σ.inner.pendingAccept)
    (hl : σ.inner.streams.lookup k ≠ none) (hr : σ.resetBy a ≠ some k)
    (hp : ∀ reason, σ.pump = .resetting k reason → a ≠ .pump) :
    σ'.inner.streams.lookup k ≠ none := by
  obtain ⟨e, he⟩ := Option.ne_none_iff_exists'.mp hl
  have hlive := live_of_serving h.ok.wf h.serves he
  have run : ∀ {extra : Mark → Prop} {s : Inner}, Touches extra σ.inner s →
      (∀ m, extra m → ¬m.closes k) → s.streams.lookup k ≠ none := fun ht hm => by
    obtain ⟨e', h', -⟩ := ht.live he hlive hm
    exact stored_of_lookup h'
  have calm : ∀ {s : Inner}, Still σ.inner s → s.streams.lookup k ≠ none := fun hs =>
    run (@Touches.still Mark.nothing _ _ hs) fun _ hm => hm.elim
  cases a with
  | recv f =>
      obtain ⟨-, rfl⟩ := hs.recv
      rw [Sys.recv_inner]
      cases f with
      | headers f =>
          by_cases hks : k = f.streamId
          · subst hks
            exact recvHeaders_kept h.ok.wf h.serves f _ he
          · exact run (dispatch_touches h.ok.wf (.headers f)) fun m hm hc =>
              hks (openMarks_shift hm (.inl hc))
      | data f =>
          by_cases hks : k = f.streamId
          · subst hks
            exact DataOutcome.kept h.ok.wf h.serves (recvData_outcome h.ok.wf f) he
          · exact run (dispatch_touches h.ok.wf (.data f)) fun m hm hc =>
              hks (dataMarks_shift hm (.inl hc))
      | rstStream f =>
          by_cases hks : k = f.streamId
          · subst hks
            change (σ.inner.recvReset f).1.streams.lookup f.streamId ≠ none
            rcases recvReset_floods h.ok.wf h.role h.serves f with
              ⟨-, hsame, -⟩ | ⟨-, -, -, hsame⟩ | ⟨-, -, ⟨v, hv, hh⟩, -⟩
            · rw [hsame]
              exact hl
            · rw [hsame]
              exact hl
            · refine absurd ?_ hr
              simp only [Sys.resetBy, hv, Option.map_some, hh]
          · refine run (dispatch_touches h.ok.wf (.rstStream f)) ?_
            rintro m rfl (h | h) <;> cases h
            exact hks rfl
      | goAway f =>
          simp only [dispatch, recvGoAway]
          split
          · exact hl
          · rw [h.role]
            exact hl
      | windowUpdate f => exact calm (recvWindowUpdate_still _ f)
      | settings f => exact calm (recvSettings_still _ f)
      | ping f => exact calm (recvPing_still _ f)
      | priority _ => exact hl
      | streamError _ _ _ => exact hl
  | pump =>
      unfold Sys.Step Sys.step Sys.pumpStep at hs
      dsimp only at hs
      cases hp' : σ.pump with
      | resetting sid reason =>
          have hks : k ≠ sid := fun hks => hp reason (hks ▸ hp') rfl
          have ht : (σ.inner.resetOnError sid reason).1.streams.lookup k ≠ none := by
            refine run (resetOnError_touches σ.inner sid reason) ?_
            rintro m rfl (h | h) <;> cases h
            exact hks rfl
          rw [hp'] at hs
          dsimp only at hs
          split at hs <;> cases hs <;> exact ht
      | closing reason debugData e =>
          rw [hp'] at hs
          cases hs
          exact hl
      | failing e =>
          rw [hp'] at hs
          cases hs
          simp only [Sys.fails, hp'] at hf
          cases hf
      | running => rw [hp'] at hs; cases hs
      | done => rw [hp'] at hs; cases hs
  | reply =>
      unfold Sys.Step Sys.step at hs
      dsimp only at hs
      split at hs <;> cases hs
      exact calm (maybeGoawayReply_still σ.inner)
  | call c =>
      obtain ⟨hal, rfl⟩ := hs.call
      refine run (call_touches h.ok.wf c ?_) fun m hm hc => ?_
      · rintro request eos isHead rfl
        simpa [Sys.allowed] using hal
      · rcases callMarks_own hm hc with hown | ⟨exc, message, rfl⟩
        · simp only [Sys.holds, hown, Option.all_some, decide_eq_true_eq] at hh
          exact hh hk
        · cases hf
  | raised e =>
      unfold Sys.Step Sys.step at hs
      dsimp only at hs
      split at hs <;> cases hs
      exact hl
  | rehash m =>
      unfold Sys.Step Sys.step at hs
      dsimp only at hs
      split at hs
      · next hm =>
        cases hs
        exact calm (Still.perm σ.inner hm)
      · cases hs
  | flush =>
      cases hs
      exact hl
  | tick d =>
      cases hs
      exact hl

/-- A request opened is stored, under an id above those seen. -/
theorem opened_stored (h : σ.Server) (hs : Sys.Step σ a σ') (ho : opened σ a = some sid) :
    σ.inner.lastRecvId < sid ∧ σ'.inner.streams.lookup sid ≠ none := by
  cases a with
  | recv f =>
      obtain ⟨-, rfl⟩ := hs.recv
      rw [Sys.recv_inner]
      cases f with
      | headers f =>
          simp only [opened, opensOn] at ho
          have hout := recvHeaders_outcome h.ok.wf f (σ.inner.role = .server)
          change _ ∧ (σ.inner.recvHeaders f (σ.inner.role = .server)).1.streams.lookup sid ≠ none
          generalize σ.inner.recvHeaders f (σ.inner.role = .server) = r at ho hout ⊢
          cases hout with
          | opened _ hr hn _ _ he _ =>
              obtain rfl : f.streamId = sid := Option.some.inj ho
              simp only [Used, hr] at hn
              exact ⟨by omega, stored_of_lookup he⟩
          | _ => cases ho
      | _ => cases ho
  | _ => cases ho

/-- A verdict that opens no stream names none. -/
theorem openedBy_of_opensNone {r : Except Err RecvHeadersVerdict} (h : OpensNone r) :
    openedBy r = none := by
  cases r with
  | error err => rfl
  | ok v => exact if_neg (h v rfl)

/-- A head the server opens no stream for adds nothing to the accept queue. -/
theorem opened_of_not_opens (h : σ.Server) {f : Headers} (ho : σ.opens f = false) :
    opened σ (.recv (.headers f)) = none := by
  change openedBy (σ.inner.recvHeaders f (σ.inner.role = .server)).2 = none
  rcases recvHeaders_effect h.ok.wf f (σ.inner.role = .server) with ⟨-, hnone⟩ | ⟨hopen, -⟩
  · exact openedBy_of_opensNone hnone
  · simp [Sys.opens, hopen.1, hopen.2.1, hopen.2.2] at ho

/-! ### The invariant -/

/-- The caps of the configuration, as the connection holds them. -/
def Capped (cfg : Config) (me : Inner) : Prop :=
  me.maxConcurrent = cfg.maxConcurrentStreams.getD usizeMax ∧
    me.maxPendingAcceptReset = cfg.maxPendingAcceptResetStreams ∧
    me.maxLocalErrorResets = cfg.maxLocalErrorResetStreams

theorem Capped.step (h : Capped cfg σ.inner) (hs : Sys.Step σ a σ') : Capped cfg σ'.inner := by
  have hw : σ'.inner.maxConcurrent = σ.inner.maxConcurrent ∧
      σ'.inner.maxPendingAcceptReset = σ.inner.maxPendingAcceptReset ∧
      σ'.inner.maxLocalErrorResets = σ.inner.maxLocalErrorResets := by
    have of : ∀ t : Terms, σ'.inner.terms = t → t.maxConcurrent = σ.inner.maxConcurrent →
        t.maxPendingAcceptReset = σ.inner.maxPendingAcceptReset →
        t.maxLocalErrorResets = σ.inner.maxLocalErrorResets → _ ∧ _ ∧ _ := fun t ht h₁ h₂ h₃ =>
      ⟨(congrArg Terms.maxConcurrent ht).trans h₁,
        (congrArg Terms.maxPendingAcceptReset ht).trans h₂,
        (congrArg Terms.maxLocalErrorResets ht).trans h₃⟩
    have ht := Sys.step_terms hs
    cases a with
    | call c =>
        cases c with
        | writerStart =>
            refine of _ ht ?_ ?_ ?_ <;> simp only [termsAfter, writerStart] <;> split <;> rfl
        | _ => exact of _ ht rfl rfl rfl
    | _ => exact of _ ht rfl rfl rfl
  exact ⟨hw.1.trans h.1, hw.2.1.trans h.2.1, hw.2.2.trans h.2.2⟩

/-- What holds of a server while no request is opened after the connection failed. -/
structure Inv (cfg : Config) (w : Flood) : Prop where
  server : w.sys.Server
  capped : Capped cfg w.sys.inner
  active : w.sys.inner.numActive ≤ w.sys.inner.maxConcurrent
  seen : ∀ k ∈ w.sys.inner.pendingAccept, 0 < k ∧ k ≤ w.sys.inner.lastRecvId
  past : ∀ k ∈ w.resets, k ≤ w.sys.inner.lastRecvId
  resets : w.sys.inner.remoteResetPending = w.sys.inner.pendingAccept ∩ w.resets
  cap : w.sys.inner.remoteResetPending.card ≤ w.sys.inner.maxPendingAcceptReset
  errors : ∀ max ∈ w.sys.inner.maxLocalErrorResets, w.sys.inner.localErrorResets ≤ max
  left : w.sys.inner.error = none → w.lost.card ≤ w.sys.inner.localErrorResets
  bound : w.sys.inner.pendingAccept.card ≤ w.sys.inner.maxConcurrent +
    w.sys.inner.maxPendingAcceptReset + w.sys.inner.localErrorResets

/-- The accept queue is of streams still stored, of streams the peer reset, and of those lost. -/
theorem card_pendingAccept (h : w.sys.Server)
    (ha : w.sys.inner.numActive ≤ w.sys.inner.maxConcurrent)
    (hr : w.sys.inner.remoteResetPending = w.sys.inner.pendingAccept ∩ w.resets)
    (hc : w.sys.inner.remoteResetPending.card ≤ w.sys.inner.maxPendingAcceptReset)
    (hl : w.lost.card ≤ w.sys.inner.localErrorResets) :
    w.sys.inner.pendingAccept.card ≤ w.sys.inner.maxConcurrent +
      w.sys.inner.maxPendingAcceptReset + w.sys.inner.localErrorResets := by
  have hstored : (w.sys.inner.pendingAccept.filter
      fun k => w.sys.inner.streams.lookup k ≠ none).card ≤ w.sys.inner.numActive := by
    rw [h.ok.wf.active]
    refine Store.card_le_total fun k hk => ?_
    obtain ⟨e, he⟩ := Option.ne_none_iff_exists'.mp (Finset.mem_filter.mp hk).2
    refine ⟨e, he, ?_⟩
    simp [activeOf, (live_of_serving h.ok.wf h.serves he).2]
  have hsub : w.sys.inner.pendingAccept ⊆ (w.sys.inner.pendingAccept.filter
      fun k => w.sys.inner.streams.lookup k ≠ none) ∪
        (w.sys.inner.remoteResetPending ∪ w.lost) := fun k hk => by
    simp only [Finset.mem_union, Finset.mem_filter, mem_lost, hr, Finset.mem_inter]
    by_cases hn : w.sys.inner.streams.lookup k = none
    · by_cases hm : k ∈ w.resets
      · exact .inr (.inl ⟨hk, hm⟩)
      · exact .inr (.inr ⟨hk, hn, hm⟩)
    · exact .inl ⟨hk, hn⟩
  have h₁ := Finset.card_le_card hsub
  have h₂ := Finset.card_union_le (w.sys.inner.pendingAccept.filter
    fun k => w.sys.inner.streams.lookup k ≠ none) (w.sys.inner.remoteResetPending ∪ w.lost)
  have h₃ := Finset.card_union_le w.sys.inner.remoteResetPending w.lost
  omega

/-- **A request is lost only to an error of its own**, which is counted. -/
theorem Inv.lost_step (h : Inv cfg w) (hs : Step w a w') (hf : w.sys.fails a = false)
    (he : w.sys.inner.error = none) : w'.lost.card ≤ w'.sys.inner.localErrorResets := by
  obtain ⟨hsys, hh, hres⟩ := hs.sys
  have hlost := h.left he
  have hkept : ∀ k ∈ w.sys.inner.pendingAccept, w.sys.inner.streams.lookup k ≠ none →
      w.sys.resetBy a ≠ some k → (∀ reason, w.sys.pump = .resetting k reason → a ≠ .pump) →
      w'.sys.inner.streams.lookup k ≠ none := fun k hk hl hr hp =>
    step_stored h.server hsys hf hh hk hl hr hp
  have hsame : w'.sys.inner.localErrorResets = w.sys.inner.localErrorResets →
      (∀ k ∈ w'.lost, k ∈ w.lost) → w'.lost.card ≤ w'.sys.inner.localErrorResets :=
    fun hl hsub => (Finset.card_le_card hsub).trans (hlost.trans hl.ge)
  have hch := step_charges h.server hsys
  cases hch with
  | opens ha hb hq =>
      rw [ha] at hres
      refine hsame ?_ fun k hk => ?_
      · rw [show w'.sys.inner.localErrorResets = w'.sys.inner.backlog.localErrorResets from rfl, hb]
        cases opened w.sys a <;> rfl
      · obtain ⟨hkp, hn, hkr⟩ := mem_lost.mp hk
        have hmem : k ∈ w.sys.inner.pendingAccept := by
          rw [show w'.sys.inner.pendingAccept = w'.sys.inner.backlog.pendingAccept from rfl,
            hb] at hkp
          rcases ho : opened w.sys a with _ | sid
          · rw [ho] at hkp
            exact hkp
          · rw [ho] at hkp
            rcases Finset.mem_insert.mp hkp with rfl | hkp
            · exact absurd hn (opened_stored h.server hsys ho).2
            · exact hkp
        refine mem_lost.mpr ⟨hmem, ?_, by rw [hres] at hkr; exact hkr⟩
        by_contra hl
        refine hkept k hmem hl (by rw [ha]; nofun) (fun reason hp hpump => hl ?_) hn
        rw [← hq hpump k reason hp]
        exact hn
  | @resets f _ ha hl hcap hb =>
      rw [ha] at hres
      refine hsame (congrArg Backlog.localErrorResets hb) fun k hk => ?_
      obtain ⟨hkp, hn, hkr⟩ := mem_lost.mp hk
      have hmem : k ∈ w.sys.inner.pendingAccept := by
        rw [show w'.sys.inner.pendingAccept = w'.sys.inner.backlog.pendingAccept from rfl,
          hb] at hkp
        exact hkp
      rw [hres] at hkr
      simp only [Option.elim_some, Finset.mem_insert, not_or] at hkr
      refine mem_lost.mpr ⟨hmem, ?_, hkr.2⟩
      by_contra hl
      refine hkept k hmem hl ?_ nofun hn
      rw [ha]
      exact fun hk => hkr.1 (Option.some.inj hk).symm
  | @errs sid reason _ hp hcap hb =>
      have hsub : w'.lost ⊆ insert sid w.lost := fun k hk => by
        obtain ⟨hkp, hn, hkr⟩ := mem_lost.mp hk
        rw [show w'.sys.inner.pendingAccept = w'.sys.inner.backlog.pendingAccept from rfl,
          hb] at hkp
        by_cases hks : k = sid
        · exact Finset.mem_insert.mpr (.inl hks)
        · refine Finset.mem_insert_of_mem (mem_lost.mpr ⟨hkp, ?_, by rw [hres] at hkr; exact hkr⟩)
          by_contra hl
          refine hkept k hkp hl nofun (fun r hp' _ => hks ?_) hn
          rw [hp] at hp'
          cases hp'
          rfl
      have h₁ := Finset.card_le_card hsub
      have h₂ := Finset.card_insert_le sid w.lost
      have h₃ : w'.sys.inner.localErrorResets = w.sys.inner.localErrorResets + 1 :=
        congrArg Backlog.localErrorResets hb
      omega
  | @accepts sid _ hb =>
      refine hsame (congrArg Backlog.localErrorResets hb) fun k hk => ?_
      obtain ⟨hkp, hn, hkr⟩ := mem_lost.mp hk
      rw [show w'.sys.inner.pendingAccept = w'.sys.inner.backlog.pendingAccept from rfl,
        hb] at hkp
      have hmem := Finset.mem_of_mem_erase hkp
      refine mem_lost.mpr ⟨hmem, ?_, by rw [hres] at hkr; exact hkr⟩
      by_contra hl
      exact hkept k hmem hl nofun nofun hn

/-- What the backlog is after a step, against the ids seen and the caps. -/
structure Kept (w w' : Flood) : Prop where
  seen : ∀ k ∈ w'.sys.inner.pendingAccept, 0 < k ∧ k ≤ w'.sys.inner.lastRecvId
  past : ∀ k ∈ w'.resets, k ≤ w'.sys.inner.lastRecvId
  resets : w'.sys.inner.remoteResetPending = w'.sys.inner.pendingAccept ∩ w'.resets
  cap : w'.sys.inner.remoteResetPending.card ≤ w.sys.inner.maxPendingAcceptReset
  errors : ∀ max ∈ w.sys.inner.maxLocalErrorResets, w'.sys.inner.localErrorResets ≤ max

theorem used_of_stored (h : σ.Server) (hl : σ.inner.streams.lookup k ≠ none) :
    k ≤ σ.inner.lastRecvId := by
  obtain ⟨e, he⟩ := Option.ne_none_iff_exists'.mp hl
  have hu := h.ok.wf.used he
  simpa only [Used, h.role] using hu

theorem Inv.kept (h : Inv cfg w) (hs : Step w a w') : Kept w w' := by
  obtain ⟨hsys, -, hres⟩ := hs.sys
  have hgrow := (h.server.ok.grows hsys).lastRecvId
  have hseen : ∀ k ∈ w.sys.inner.pendingAccept, 0 < k ∧ k ≤ w'.sys.inner.lastRecvId :=
    fun k hk => ⟨(h.seen k hk).1, (h.seen k hk).2.trans hgrow⟩
  have hpast : ∀ k ∈ w.resets, k ≤ w'.sys.inner.lastRecvId := fun k hk => (h.past k hk).trans hgrow
  have hch := step_charges h.server hsys
  cases hch with
  | opens ha hb _ =>
      rw [ha] at hres
      have hres' : w'.resets = w.resets := hres
      have hp : w'.sys.inner.pendingAccept = _ := congrArg Backlog.pendingAccept hb
      have hr : w'.sys.inner.remoteResetPending = _ := congrArg Backlog.remoteResetPending hb
      have hl : w'.sys.inner.localErrorResets = _ := congrArg Backlog.localErrorResets hb
      rcases ho : opened w.sys a with _ | sid
      · rw [ho] at hp hr hl
        have hp' : w'.sys.inner.pendingAccept = w.sys.inner.pendingAccept := hp
        exact ⟨fun k hk => hseen k (hp' ▸ hk), fun k hk => hpast k (hres' ▸ hk),
          by rw [hr, hp, hres]; exact h.resets, by rw [hr]; exact h.cap,
          fun max hm => by rw [hl]; exact h.errors max hm⟩
      · obtain ⟨hnew, hst⟩ := opened_stored h.server hsys ho
        have hsid := used_of_stored (h.server.step hsys) hst
        rw [ho] at hp hr hl
        refine ⟨fun k hk => ?_, fun k hk => hpast k (hres' ▸ hk), ?_, by rw [hr]; exact h.cap,
          fun max hm => by rw [hl]; exact h.errors max hm⟩
        · rw [hp] at hk
          rcases Finset.mem_insert.mp hk with rfl | hk
          · exact ⟨by omega, hsid⟩
          · exact hseen k hk
        · -- the id is new: the peer cannot have reset it
          have hnot : sid ∉ w.resets := fun hm => by
            have := h.past sid hm
            omega
          rw [hr, hp, hres]
          exact h.resets.trans (Finset.insert_inter_of_notMem hnot).symm
  | @resets f _ ha hst hcap hb =>
      rw [ha] at hres
      have hp : w'.sys.inner.pendingAccept = w.sys.inner.pendingAccept :=
        congrArg Backlog.pendingAccept hb
      have hr : w'.sys.inner.remoteResetPending = _ := congrArg Backlog.remoteResetPending hb
      have hl : w'.sys.inner.localErrorResets = w.sys.inner.localErrorResets :=
        congrArg Backlog.localErrorResets hb
      have hres' : w'.resets = insert f.streamId w.resets := hres
      refine ⟨fun k hk => hseen k (hp ▸ hk), fun k hk => ?_, ?_, ?_,
        fun max hm => by rw [hl]; exact h.errors max hm⟩
      · rw [hres'] at hk
        rcases Finset.mem_insert.mp hk with rfl | hk
        · exact (used_of_stored h.server hst).trans hgrow
        · exact hpast k hk
      · rw [hr, hp, hres']
        dsimp only
        split
        · next hm => rw [Finset.inter_insert_of_mem hm, h.resets]
        · next hm => rw [Finset.inter_insert_of_notMem hm, h.resets]
      · rw [hr]
        dsimp only
        split
        · next hm =>
          have := Finset.card_insert_le f.streamId w.sys.inner.remoteResetPending
          have := hcap hm
          omega
        · exact h.cap
  | errs hp' hcap hb =>
      have hp : w'.sys.inner.pendingAccept = w.sys.inner.pendingAccept :=
        congrArg Backlog.pendingAccept hb
      have hr : w'.sys.inner.remoteResetPending = w.sys.inner.remoteResetPending :=
        congrArg Backlog.remoteResetPending hb
      have hl : w'.sys.inner.localErrorResets = w.sys.inner.localErrorResets + 1 :=
        congrArg Backlog.localErrorResets hb
      have hres' : w'.resets = w.resets := hres
      refine ⟨fun k hk => hseen k (hp ▸ hk), fun k hk => hpast k (hres' ▸ hk),
        by rw [hr, hp, hres]; exact h.resets, by rw [hr]; exact h.cap, fun max hm => ?_⟩
      have := hcap max hm
      omega
  | @accepts sid _ hb =>
      have hp : w'.sys.inner.pendingAccept = w.sys.inner.pendingAccept.erase sid :=
        congrArg Backlog.pendingAccept hb
      have hr : w'.sys.inner.remoteResetPending = w.sys.inner.remoteResetPending.erase sid :=
        congrArg Backlog.remoteResetPending hb
      have hl : w'.sys.inner.localErrorResets = w.sys.inner.localErrorResets :=
        congrArg Backlog.localErrorResets hb
      have hres' : w'.resets = w.resets := hres
      refine ⟨fun k hk => hseen k (Finset.mem_of_mem_erase (hp ▸ hk)),
        fun k hk => hpast k (hres' ▸ hk), ?_, ?_, fun max hm => by rw [hl]; exact h.errors max hm⟩
      · rw [hr, hp, hres, h.resets]
        exact (Finset.erase_inter _ _ _).symm
      · rw [hr]
        exact Finset.card_erase_le.trans h.cap

/-- A step that opens no request adds none, and takes no error back. -/
theorem Inv.no_more (h : Inv cfg w) (hs : Step w a w') (ha : opened w.sys a = none) :
    w'.sys.inner.pendingAccept.card ≤ w.sys.inner.pendingAccept.card ∧
      w.sys.inner.localErrorResets ≤ w'.sys.inner.localErrorResets := by
  have hch := step_charges h.server hs.sys.1
  cases hch with
  | opens _ hb _ =>
      rw [ha] at hb
      exact ⟨(congrArg (fun b : Backlog => b.pendingAccept.card) hb).le,
        (congrArg Backlog.localErrorResets hb).ge⟩
  | resets _ _ _ hb =>
      exact ⟨(congrArg (fun b : Backlog => b.pendingAccept.card) hb).le,
        (congrArg Backlog.localErrorResets hb).ge⟩
  | errs _ _ hb =>
      refine ⟨(congrArg (fun b : Backlog => b.pendingAccept.card) hb).le, ?_⟩
      have : w'.sys.inner.localErrorResets = w.sys.inner.localErrorResets + 1 :=
        congrArg Backlog.localErrorResets hb
      omega
  | accepts hb =>
      exact ⟨(congrArg (fun b : Backlog => b.pendingAccept.card) hb).le.trans
        Finset.card_erase_le, (congrArg Backlog.localErrorResets hb).ge⟩

/-- A step opens a request while the connection lives, or it opens none. -/
theorem Inv.connected_cases (h : Inv cfg w) (hc : Connected w a) :
    w.sys.inner.error = none ∧ w.sys.fails a = false ∨ opened w.sys a = none := by
  cases a with
  | recv f =>
      cases f with
      | headers f =>
          exact hc.imp (fun he => ⟨he, rfl⟩) fun ho => opened_of_not_opens h.server ho
      | _ => exact .inr rfl
  | _ => exact .inr rfl

/-- **One step keeps the invariant**, where it opens no request after a failure. -/
theorem Inv.step (h : Inv cfg w) (hs : Step w a w') (hc : Connected w a) : Inv cfg w' := by
  obtain ⟨hsys, -, -⟩ := hs.sys
  have hserver := h.server.step hsys
  have hcapped := h.capped.step hsys
  have hmax : w'.sys.inner.maxConcurrent = w.sys.inner.maxConcurrent :=
    hcapped.1.trans h.capped.1.symm
  have hmaxr : w'.sys.inner.maxPendingAcceptReset = w.sys.inner.maxPendingAcceptReset :=
    hcapped.2.1.trans h.capped.2.1.symm
  have hmaxe : w'.sys.inner.maxLocalErrorResets = w.sys.inner.maxLocalErrorResets :=
    hcapped.2.2.trans h.capped.2.2.symm
  have hactive : w'.sys.inner.numActive ≤ w'.sys.inner.maxConcurrent := by
    rw [hmax]
    exact step_active h.server hsys h.active
  have hk := h.kept hs
  have hcap : w'.sys.inner.remoteResetPending.card ≤ w'.sys.inner.maxPendingAcceptReset := by
    rw [hmaxr]
    exact hk.cap
  refine ⟨hserver, hcapped, hactive, hk.seen, hk.past, hk.resets, hcap, ?_, fun he' => ?_, ?_⟩
  · rw [hmaxe]
    exact hk.errors
  · have he : w.sys.inner.error = none := by
      rcases he : w.sys.inner.error with _ | err
      · rfl
      · have hsome : w.sys.inner.error.isSome = true := by
          rw [he]
          rfl
        have hkeep := (h.server.ok.grows hsys).error hsome
        rw [he', he] at hkeep
        cases hkeep
    refine h.lost_step hs ?_ he
    by_contra hf
    exact Sys.error_of_fails hsys (by simpa using hf) he'
  · rcases h.connected_cases hc with ⟨he, hf⟩ | ho
    · exact card_pendingAccept hserver hactive hk.resets hcap (h.lost_step hs hf he)
    · obtain ⟨h₁, h₂⟩ := h.no_more hs ho
      have := h.bound
      rw [hmax, hmaxr]
      omega

theorem inv_init (hr : cfg.role = .server) : Inv cfg (init cfg) := by
  obtain ⟨fc, fs, hb, -, -, -⟩ := Inner.begin_spec cfg
  have hinner : (init cfg).sys.inner = _ := (Sys.inner_init cfg).trans hb
  refine ⟨Sys.server_init hr, ?_, ?_, ?_, nofun, ?_, ?_, ?_, fun _ => ?_, ?_⟩
  · rw [hinner]
    exact ⟨rfl, rfl, rfl⟩
  · rw [hinner]
    exact Nat.zero_le _
  · rw [hinner]
    exact fun k hk => by cases hk
  · rw [hinner]
    rfl
  · rw [hinner]
    exact Nat.zero_le _
  · rw [hinner]
    exact fun max _ => Nat.zero_le _
  · unfold lost
    rw [hinner]
    exact Nat.zero_le _
  · rw [hinner]
    exact Nat.zero_le _

theorem inv_of_reached (r : ReachedLive cfg w) (hr : cfg.role = .server) : Inv cfg w :=
  Reach.invariant (I := Inv cfg) r (inv_init hr) fun h hs hc => h.step hs hc

/-! ### The bounds -/

/-- The read pump is about to close the connection with ENHANCE_YOUR_CALM. -/
def calming : Pump → Bool
  | .closing reason _ _ => reason = .enhanceYourCalm
  | _ => false

/-- **An RST_STREAM frame for a request not yet accepted** is counted, or ends the connection. -/
theorem reset_capped (h : Inv cfg w) {f : RstStream} (hs : Step w (.recv (.rstStream f)) w')
    (hp : f.streamId ∈ w.sys.inner.pendingAccept)
    (hl : w.sys.inner.streams.lookup f.streamId ≠ none) :
    (w.sys.inner.remoteResetPending.card < w.sys.inner.maxPendingAcceptReset →
      f.streamId ∈ w'.resets ∧ w'.sys.pump = .running) ∧
    (w.sys.inner.remoteResetPending.card = w.sys.inner.maxPendingAcceptReset →
      calming w'.sys.pump = true ∧ w'.sys.inner = w.sys.inner ∧ w'.resets = w.resets) := by
  obtain ⟨hsys, -, hres⟩ := hs.sys
  obtain ⟨hrun, hw⟩ := hsys.recv
  have h0 := (h.seen _ hp).1
  rcases recvReset_floods h.server.ok.wf h.server.role h.server.serves f with
    ⟨hno, -⟩ | ⟨-, -, hcap, hr⟩ | ⟨-, hcap, ⟨v, hv, hh⟩, -⟩
  · exact absurd hno (by rintro (h | h) <;> [omega; exact hl h])
  · have hby : w.sys.resetBy (.recv (.rstStream f)) = none := by simp only [Sys.resetBy, hr]
    have hd : w.sys.inner.dispatch (.rstStream f) = (w.sys.inner, .error (protocolErrWithDebug
        .enhanceYourCalm "too_many_resets" "too_many_resets")) := by
      simp only [dispatch, hr, Except.map]
    rw [hby] at hres
    refine ⟨fun hlt => by omega, fun _ => ⟨?_, ?_, hres⟩⟩
    · rw [hw]
      simp only [Sys.recv, hd]
      rfl
    · rw [hw, Sys.recv_inner, hd]
  · have hby : w.sys.resetBy (.recv (.rstStream f)) = some f.streamId := by
      simp only [Sys.resetBy, hv, Option.map_some, hh]
    have hd : (w.sys.inner.dispatch (.rstStream f)).2 = .ok v.acts := by
      simp only [dispatch, hv, Except.map, Option.elim_some]
    rw [hby] at hres
    refine ⟨fun _ => ⟨?_, ?_⟩, fun heq => ?_⟩
    · rw [hres]
      exact Finset.mem_insert_self _ _
    · rw [hw]
      simp only [Sys.recv, hd]
      exact hrun
    · have := hcap hp
      omega

/-- **An error of a stream** is counted, or ends the connection. -/
theorem error_capped {sid : Nat} {reason : Reason} (hs : Step w .pump w')
    (hp : w.sys.pump = .resetting sid reason) :
    ((∀ max ∈ w.sys.inner.maxLocalErrorResets, w.sys.inner.localErrorResets < max) →
      w'.sys.inner.localErrorResets = w.sys.inner.localErrorResets + 1 ∧
        w'.sys.pump = .running) ∧
    (w.sys.inner.localErrorResets ∈ w.sys.inner.maxLocalErrorResets →
      calming w'.sys.pump = true ∧ w'.sys.inner = w.sys.inner) := by
  have hsys := hs.sys.1
  unfold Sys.Step Sys.step Sys.pumpStep at hsys
  dsimp only at hsys
  rw [hp] at hsys
  dsimp only at hsys
  rcases resetOnError_backlog w.sys.inner sid reason with ⟨v, hv, hlt, hb⟩ | ⟨⟨max, hm, hle⟩, hr⟩
  · rw [hv] at hsys
    have hw := (Option.some.inj hsys).symm
    refine ⟨fun _ => ⟨?_, by rw [hw]⟩, fun hm => absurd (hlt _ hm) (Nat.lt_irrefl _)⟩
    rw [hw]
    exact congrArg Backlog.localErrorResets hb
  · rw [hr] at hsys
    have hw := (Option.some.inj hsys).symm
    refine ⟨fun hlt => absurd (hlt max hm) (by omega), fun _ => ⟨by rw [hw]; rfl, by rw [hw]⟩⟩

/-- **What a peer can pile up on a server**, while no request is opened after the connection
failed.  The requests not accepted are no more than the streams allowed, the resets of the peer
and those its errors drew; the peer's resets are counted exactly, and both counts stay within
their caps; and the frame that would pass a cap ends the connection. -/
theorem backlog_bounded (hr : cfg.role = .server) (r : ReachedLive cfg w) :
    w.sys.inner.pendingAccept.card ≤ cfg.maxConcurrentStreams.getD usizeMax +
      cfg.maxPendingAcceptResetStreams + w.sys.inner.localErrorResets ∧
    w.sys.inner.remoteResetPending = w.sys.inner.pendingAccept ∩ w.resets ∧
    w.sys.inner.remoteResetPending.card ≤ cfg.maxPendingAcceptResetStreams ∧
    (∀ max ∈ cfg.maxLocalErrorResetStreams, w.sys.inner.localErrorResets ≤ max) ∧
    (∀ (f : RstStream) (w' : Flood), Step w (.recv (.rstStream f)) w' →
      f.streamId ∈ w.sys.inner.pendingAccept → w.sys.inner.streams.lookup f.streamId ≠ none →
      (w.sys.inner.remoteResetPending.card < cfg.maxPendingAcceptResetStreams →
        f.streamId ∈ w'.resets ∧ w'.sys.pump = .running) ∧
      (w.sys.inner.remoteResetPending.card = cfg.maxPendingAcceptResetStreams →
        calming w'.sys.pump = true ∧ w'.sys.inner = w.sys.inner ∧ w'.resets = w.resets)) ∧
    ∀ (sid : Nat) (reason : Reason) (w' : Flood), w.sys.pump = .resetting sid reason →
      Step w .pump w' →
      ((∀ max ∈ cfg.maxLocalErrorResetStreams, w.sys.inner.localErrorResets < max) →
        w'.sys.inner.localErrorResets = w.sys.inner.localErrorResets + 1 ∧
          w'.sys.pump = .running) ∧
      (w.sys.inner.localErrorResets ∈ cfg.maxLocalErrorResetStreams →
        calming w'.sys.pump = true ∧ w'.sys.inner = w.sys.inner) := by
  have h := inv_of_reached r hr
  have hc := h.capped
  refine ⟨?_, h.resets, ?_, ?_, fun f w' hs hp hl => ?_, fun sid reason w' hp hs => ?_⟩
  · rw [← hc.1, ← hc.2.1]
    exact h.bound
  · rw [← hc.2.1]
    exact h.cap
  · rw [← hc.2.2]
    exact h.errors
  · rw [← hc.2.1]
    exact reset_capped h hs hp hl
  · rw [← hc.2.2]
    exact error_capped hs hp

/-- A server of one stream that tolerates no reset. -/
def strictConfig : Config :=
  { Sys.serverConfig with maxConcurrentStreams := some 1, maxPendingAcceptResetStreams := 0 }

/-- A request, a write error, and another request that was read before it was noticed. -/
def requestAfterFailure : List Sys.Action :=
  [.recv (.headers { streamId := 1, inRange := inRange_one, endStream := true }), .call (.fail none ""),
    .recv (.headers { streamId := 3, inRange := inRange_three, endStream := true })]

theorem reached_of_exec (cfg : Config) (ok : Flood → Sys.Action → Bool) (as : List Sys.Action)
    (p : Flood → Bool) (h : (Runs.exec step ok (init cfg) as).any p = true) :
    ∃ w, Reach Step (fun w a => ok w a = true) (init cfg) w ∧ p w = true :=
  Reach.of_exec_any h

/-- The failure of the connection frees the streams and not the accept queue: a server that goes
on reading after it holds more requests than its limits allow. -/
theorem backlog_unbounded : ¬ ∀ (cfg : Config) (w : Flood), cfg.role = .server → Reached cfg w →
    w.sys.inner.pendingAccept.card ≤ cfg.maxConcurrentStreams.getD usizeMax +
      cfg.maxPendingAcceptResetStreams + w.sys.inner.localErrorResets := by
  intro h
  obtain ⟨w, r, hw⟩ := reached_of_exec strictConfig (fun _ _ => true) requestAfterFailure
    (fun w => 1 + w.sys.inner.localErrorResets < w.sys.inner.pendingAccept.card)
    (by decide +kernel)
  have hle := h strictConfig w rfl (r.mono fun _ _ _ => trivial)
  have hlt : 1 + w.sys.inner.localErrorResets < w.sys.inner.pendingAccept.card := by simpa using hw
  change _ ≤ 1 + 0 + _ at hle
  omega

/-- Two requests, the first reset before it is accepted. -/
def resetBeforeAccept : List Sys.Action :=
  [.recv (.headers { streamId := 1, inRange := inRange_one, endStream := true }),
    .recv (.rstStream { streamId := 1, errorCode := .cancel }),
    .recv (.headers { streamId := 3, inRange := inRange_three, endStream := true })]

/-- One reset is counted, and two requests are queued. -/
theorem backlog_bounded_reset : ∃ w : Flood, w.sys.inner.pendingAccept.card = 2 ∧
    w.sys.inner.remoteResetPending = w.sys.inner.pendingAccept ∩ w.resets ∧
    w.sys.inner.remoteResetPending.card ≤ 20 := by
  obtain ⟨w, r, hw⟩ := reached_of_exec Sys.serverConfig
    (fun w _ => w.sys.inner.error.isNone) resetBeforeAccept
    (fun w => w.sys.inner.pendingAccept.card = 2) (by decide +kernel)
  have hlive : ReachedLive Sys.serverConfig w := r.mono fun w a h => by
    cases a with
    | recv f =>
        cases f with
        | headers f => exact .inl (Option.isNone_iff_eq_none.mp h)
        | _ => trivial
    | _ => trivial
  obtain ⟨-, hx, hcap, -⟩ := backlog_bounded rfl hlive
  exact ⟨w, by simpa using hw, hx, hcap⟩

end Flood

end Httpunk.H2
