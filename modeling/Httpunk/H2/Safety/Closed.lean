import Httpunk.H2.Safety.Failure
import Httpunk.H2.Life.Driver

/-!
# H2 — Safety — Closed

A stored stream that has closed has finished, but for one that a stream error closed and whose
error reset is still to come.

* `Inner.Tight p`: every closed stream has finished, or is one of `p`.
* `Inner.Answered`: a frame leaves its own stream so, or raises that stream's error.
* `dispatch_tight`, `call_tight`: what a frame and a call leave.
-/

namespace Httpunk.H2

open Runs (Reach)
open Httpunk.H2.Inner

/-- Every stored stream that has closed has finished, but for those in `p`. -/
def Inner.Tight (me : Inner) (p : Nat → Prop) : Prop :=
  ∀ k e, me.streams.lookup k = some e → e.state.isClosed = true → e.finished = true ∨ p k

variable {s s' : Inner} {m : Mark} {extra : Mark → Prop} {sid k : Nat} {p q : Nat → Prop}
  {e : StreamEntry}

theorem Inner.Tight.mono (h : s.Tight p) (hpq : ∀ k, p k → q k) : s.Tight q :=
  fun _ _ hk hc => (h _ _ hk hc).imp id (hpq _)

/-- Tight at one stream, and tight but for it. -/
theorem Inner.Tight.at (h : s.Tight fun k => p k ∨ k = sid) (ha : s.Tight (· ≠ sid)) :
    s.Tight p := by
  intro k e hk hc
  rcases h k e hk hc with hf | hp | rfl
  · exact .inl hf
  · exact .inr hp
  · exact .inl ((ha k e hk hc).resolve_right fun hne => hne rfl)

theorem Touch.tight (t : Touch s m s') (h : s.Tight p) (hm : ∀ k, m.closes k → p k) :
    s'.Tight p := by
  intro k e' hk hc
  by_cases hmk : m.closes k
  · exact .inr (hm k hmk)
  · rcases t.entry hk with ⟨e, he, hv⟩ | ⟨-, hnew⟩
    · rw [hv.closed (fun h => hmk (.inl h)) fun h => hmk (.inr h)] at hc
      rcases h k e he hc with hf | hp
      · rcases hv.finished with ⟨hf', -⟩ | ⟨-, hf', -⟩
        · exact .inl (hf'.trans hf)
        · exact .inl hf'
      · exact .inr hp
    · rw [hnew.open_] at hc
      cases hc

theorem Touches.tight (r : Touches extra s s') (h : s.Tight p)
    (hm : ∀ m, extra m → ∀ k, m.closes k → p k) : s'.Tight p := by
  refine Reach.invariant (I := fun t : Inner => t.Tight p) r h fun {s m s'} hs t hk => ?_
  refine t.tight hs fun k hc => hk.elim (fun hcom => ?_) fun he => hm m he k hc
  rcases hc with rfl | rfl <;> cases hcom

/-- A run that closes nothing. -/
theorem Touches.tight_nothing (r : Touches Mark.nothing s s') (h : s.Tight p) : s'.Tight p :=
  r.tight h fun _ hm => hm.elim

theorem Still.tight (h : Still s s') (ht : s.Tight p) : s'.Tight p :=
  Touches.tight_nothing (Touches.still h) ht

/-- A stream that is not live is no exception. -/
theorem Inner.tight_of_dead (h : ¬s.Live sid) : s.Tight (· ≠ sid) := by
  intro k e hk hc
  by_cases hks : k = sid
  · subst hks
    refine .inl ?_
    by_contra hf
    exact h ⟨e, hk, by simpa using hf⟩
  · exact .inr hks

/-- A stream that is open is none either. -/
theorem Inner.tight_of_open (h : ∀ e, s.streams.lookup sid = some e → e.state.isClosed = false) :
    s.Tight (· ≠ sid) := by
  intro k e hk hc
  by_cases hks : k = sid
  · subst hks
    rw [h e hk] at hc
    cases hc
  · exact .inr hks

namespace Inner

variable {me : Inner}

/-! ### The end of a stream -/

/-- **A stream that was given to `close_stream`** has finished if it has closed. -/
theorem closeStream_tight (me : Inner) (sid : Nat) : (me.closeStream sid).1.Tight (· ≠ sid) := by
  by_cases hc : ∀ e, me.streams.lookup sid = some e → e.state.isClosed = true
  · exact tight_of_dead (closeStream_dead hc)
  · simp only [not_forall] at hc
    obtain ⟨e, he, hc⟩ := hc
    have hs : me.closeStream sid = (me, .none) := by
      simp only [closeStream, he, hc, Bool.not_false, Bool.true_or, if_true]
    rw [hs]
    refine tight_of_open fun e' he' => ?_
    rw [he] at he'
    cases he'
    simpa using hc

theorem resetStream_tight (me : Inner) (sid : Nat) (reason : Reason) (initiator : Initiator) :
    (me.resetStream sid reason initiator).1.Tight (· ≠ sid) :=
  tight_of_dead (resetStream_dead me sid reason initiator).1

theorem finishStream_tight (me : Inner) (sid : Nat) :
    (me.finishStream sid).1.Tight (· ≠ sid) := by
  have hc := closeStream_tight me sid
  unfold finishStream
  dsimp only
  split
  · exact hc
  · split
    · exact hc
    · split
      · exact resetStream_tight _ _ _ _
      · exact Touches.tight_nothing (reclaimStreamAccounting_touches _ sid) hc

/-- The end of a send leaves its stream tight. -/
theorem SendEnds.tight {r : Inner × Except Err SendVerdict} (h : SendEnds sid me r)
    (ht : me.Tight (· ≠ sid)) : r.1.Tight (· ≠ sid) := by
  rcases h with ⟨h, -⟩ | ⟨m, n, flags, -, rfl⟩
  · exact h.tight ht
  · exact finishStream_tight m sid

theorem Buffered.tight {r : Inner × Except Err SendVerdict} (h : Buffered sid me r)
    (ht : me.Tight (· ≠ sid)) : r.1.Tight (· ≠ sid) := by
  rcases h with h | ⟨n, s₁, s₂, s₃, s₄, h₁, hb, h₂, hc, h₃⟩
  · exact h.tight ht
  · have t₂ := hb.tight (h₁.tight ht) fun k hm => by rcases hm with hm | hm <;> cases hm
    exact h₃.tight (hc.tight (h₂.tight t₂) fun k hm => by rcases hm with hm | hm <;> cases hm)

theorem sendResponseHead_tight (me : Inner) (sid status : Nat) (fields : Fields)
    (endStream : Bool) (date : String) (ht : me.Tight (· ≠ sid)) :
    (me.sendResponseHead sid status fields endStream date).1.Tight (· ≠ sid) := by
  rcases sendResponseHead_ends me sid status fields endStream date with
    h | ⟨⟨e, st, s, he, hst, hs, rfl⟩, -⟩
  · exact h.tight ht
  · refine hs.tight (tight_of_open fun e' he' => ?_)
    rw [lookup_setStream, if_pos rfl] at he'
    cases he'
    exact State.sendOpen_isClosed hst

theorem abortStream_tight (me : Inner) (sid : Nat) (reason : Option Reason) :
    (me.abortStream sid reason).1.Tight (· ≠ sid) :=
  tight_of_dead (not_live_of_none (by rw [lookup_abortStream, if_pos rfl]))

/-- The streams aborted are no exception. -/
theorem abortAll_tight (me : Inner) (reason : Option Reason) (ids : List Nat)
    (h : me.Tight fun k => p k ∨ k ∈ ids) : (me.abortAll reason ids).1.Tight p := by
  induction ids generalizing me with
  | nil => exact h.mono fun k hk => hk.elim id fun hk => by cases hk
  | cons sid ids ih =>
      refine ih (me.abortStream sid reason).1 (@Tight.at _ sid _ ?_ ?_)
      · refine (abortStream_touches me sid reason).tight (h.mono fun k hk => ?_) ?_
        · rcases hk with hk | hk
          · exact .inl (.inl hk)
          · exact (List.mem_cons.mp hk).elim .inr fun hk => .inl (.inr hk)
        · rintro m rfl k (hk | hk)
          · cases hk
            exact .inr rfl
          · cases hk
      · exact (abortStream_tight me sid reason).mono fun k hk => hk

/-- A run that closes one stream at most, and leaves that one as tight as it was. -/
theorem Tight.own (ht : me.Tight p) (hr : Touches extra me s)
    (hm : ∀ m, extra m → ∀ k, m.closes k → k = sid)
    (hat : me.Tight (· ≠ sid) → s.Tight (· ≠ sid)) : s.Tight p := by
  have hall : s.Tight fun k => p k ∨ k = sid :=
    hr.tight (ht.mono fun _ => .inl) fun m hx k hc => .inr (hm m hx k hc)
  by_cases hp : p sid
  · exact hall.mono fun k hk => hk.elim id fun h => h ▸ hp
  · refine hall.at (hat fun k e hk hc => ?_)
    exact (ht k e hk hc).imp id fun hpk hks => hp (hks ▸ hpk)

/-! ### Frames -/

theorem closes_own {m : Mark} (hm : m = .turn sid ∨ m = .ends sid) (hc : m.closes k) :
    k = sid := by
  rcases hm with rfl | rfl <;> rcases hc with h | h <;> cases h <;> rfl

theorem openMarks_own (hm : openMarks sid m) (hc : m.closes k) : k = sid := by
  rcases hm with rfl | (rfl | rfl) | hm
  · rcases hc with h | h <;> cases h
  · rcases hc with h | h <;> cases h
  · rcases hc with h | h <;> cases h
  · exact closes_own hm hc

theorem dataMarks_own {f : Data} (hm : dataMarks f m) (hc : m.closes k) : k = f.streamId := by
  rcases hm with hm | ⟨-, rfl⟩
  · exact absurd hc (fillMarks_calm hm)
  · exact closes_own (.inr rfl) hc

/-- A frame leaves its own stream tight, or raises that stream's error. -/
theorem HeadersOutcome.tight {f : Headers} {r : Inner × Except Err RecvHeadersVerdict}
    (h : HeadersOutcome me f r) (ht : me.Tight (· ≠ f.streamId)) :
    r.1.Tight (· ≠ f.streamId) ∨ ∃ code, r.2 = .error (streamErr f.streamId code) := by
  cases h with
  | broken h _ => exact .inl (h.tight ht fun m hm k hc => absurd hc (calmMarks_calm hm))
  | refused _ _ => exact .inr ⟨_, rfl⟩
  | ignored h _ => exact .inl (h.tight_nothing ht)
  | rejected _ _ _ _ => exact .inl (closeStream_tight _ _)
  | opened h _ _ _ _ _ _ => exact .inl (h.tight ht fun m hm k hc => absurd hc (calmMarks_calm hm))
  | interim he hw hc hst hes h hl =>
      refine .inl (tight_of_open fun e' he' => ?_)
      rw [hl] at he'
      cases he'
      exact (State.recvOpen_recvDone hst).2.trans hc
  | @head m st e flags he hw hc hst h hok hl =>
      dsimp only
      refine .inl ?_
      split
      · exact closeStream_tight _ _
      · next hes =>
        rw [Bool.not_eq_true] at hes
        rw [hes] at hst
        refine tight_of_open fun e' he' => ?_
        rw [hl] at he'
        cases he'
        exact (State.recvOpen_recvDone hst).2.trans hc
  | trailers _ _ _ _ _ _ => exact .inl (closeStream_tight _ _)

theorem DataOutcome.tight {f : Data} {r : Inner × Except Err RecvDataVerdict}
    (h : DataOutcome me f r) (ht : me.Tight (· ≠ f.streamId)) : r.1.Tight (· ≠ f.streamId) := by
  have calm : ∀ {s}, Touches (fillMarks f) me s → s.Tight (· ≠ f.streamId) := fun h =>
    h.tight ht fun m hm k hc => absurd hc (fillMarks_calm hm)
  cases h with
  | broken h _ => exact calm h
  | refused h => exact calm h
  | ignored h _ => exact h.tight_nothing ht
  | empty h _ _ => exact calm h.touches
  | taken h _ _ => exact calm h.touches
  | ended _ _ _ _ _ => exact closeStream_tight _ _

theorem recvReset_tight (me : Inner) (f : RstStream) (ht : me.Tight (· ≠ f.streamId)) :
    (me.recvReset f).1.Tight (· ≠ f.streamId) := by
  have hon : ∀ (m : Inner) e, m.Tight (· ≠ f.streamId) →
      (m.recvResetOn f e).1.Tight (· ≠ f.streamId) := fun m e hm => by
    unfold recvResetOn
    dsimp only
    split
    · exact hm
    · exact closeStream_tight _ _
  unfold recvReset
  dsimp only
  split
  · exact ht
  · split
    · split
      · exact ht
      · split <;> exact ht
    · split
      · split
        · exact ht
        · exact hon _ _ ht
      · exact hon _ _ ht

/-- **What a frame leaves**: no closed stream unfinished that was not before, but for the one
whose error it raises. -/
theorem dispatch_tight (h : me.Wf) (ht : me.Tight p) (f : Frame) :
    (me.dispatch f).1.Tight p ∨
      ∃ sid code, (me.dispatch f).2 = .error (streamErr sid code) ∧
        (me.dispatch f).1.Tight fun k => p k ∨ k = sid := by
  cases f with
  | headers f =>
      have ho := recvHeaders_outcome h f (me.role = .server)
      by_cases herr : ∃ code, (me.recvHeaders f (me.role = .server)).2 =
          .error (streamErr f.streamId code)
      · obtain ⟨code, hc⟩ := herr
        refine .inr ⟨f.streamId, code, ?_, ?_⟩
        · simp only [dispatch, hc]
          rfl
        · exact ho.touches.tight (ht.mono fun _ => .inl) fun m hm k hc =>
            .inr (openMarks_own hm hc)
      · exact .inl (ht.own ho.touches (fun m hm k => openMarks_own hm) fun hat =>
          (ho.tight hat).resolve_right herr)
  | data f =>
      have ho := recvData_outcome h f
      exact .inl (ht.own ho.touches (fun m hm k => dataMarks_own hm) ho.tight)
  | windowUpdate f => exact .inl ((recvWindowUpdate_still me f).tight ht)
  | settings f => exact .inl ((recvSettings_still me f).tight ht)
  | ping f => exact .inl ((recvPing_still me f).tight ht)
  | goAway f =>
      refine .inl ?_
      simp only [dispatch, recvGoAway]
      split
      · exact ht
      · split
        · exact ht
        · exact abortAll_tight _ _ _ fun k e hk hc => (ht k e hk hc).imp id .inl
  | rstStream f =>
      refine .inl (ht.own (recvReset_touches me f) ?_ (recvReset_tight me f))
      rintro m rfl k hc
      exact closes_own (.inr rfl) hc
  | priority _ => exact .inl ht
  | streamError _ _ _ => exact .inl ht

/-! ### Calls -/

theorem endMarks_own {handle : Option Nat} (hm : endMarks sid handle m) (hc : m.closes k) :
    k = sid := closes_own (hm.imp id And.right) hc

theorem acloseBody_tight (me : Inner) (sid : Nat) (ht : me.Tight (· ≠ sid)) :
    (me.acloseBody sid).1.Tight (· ≠ sid) := by
  unfold acloseBody
  dsimp only
  split
  · exact ht
  · split
    · exact closeStream_tight _ _
    · exact resetStream_tight _ _ _ _

theorem fail_tight (me : Inner) (exc : Option Err) (message : String) (p : Nat → Prop) :
    (me.fail exc message).1.Tight p := by
  unfold fail failAll
  dsimp only
  refine abortAll_tight _ none me.streams.keys fun k e hk _ => .inr (.inr ?_)
  exact AList.mem_keys.mpr (AList.lookup_isSome.mp (by
    rw [show me.streams.lookup k = some e from hk]
    rfl))

/-- **A call leaves no closed stream unfinished** that was not before. -/
theorem call_tight (h : me.Wf) (ht : me.Tight p) (c : Call)
    (hopen : ∀ request eos isHead, c = .openStream request eos isHead → me.role = .client) :
    (me.call c).1.Tight p := by
  have calm : (∀ m, me.callMarks c m → ∀ k, ¬m.closes k) → (me.call c).1.Tight p := fun hc =>
    (call_touches h c hopen).tight ht fun m hm k hk => absurd hk (hc m hm k)
  cases c with
  | tryClaimSlot | releaseSlot | creditWritten =>
      exact calm fun m hm k hk => by
        cases hm
        rcases hk with hk | hk <;> cases hk
  | openStream _ _ _ =>
      exact calm fun m hm k hk => by
        rcases hm with rfl | rfl <;> rcases hk with hk | hk <;> cases hk
  | sendData sid data offset eos =>
      have hb := sendData_buffered h sid data offset eos
      refine ht.own hb.touches (fun m hm k hc => ?_) hb.tight
      rcases hm with ⟨n, rfl | rfl⟩ | hm
      · rcases hc with hc | hc <;> cases hc
      · rcases hc with hc | hc <;> cases hc
      · exact endMarks_own hm hc
  | sendTrailers sid trailers =>
      have he := sendTrailers_ends me sid trailers
      exact ht.own he.touches (fun m hm k => endMarks_own hm) he.tight
  | sendResponseHead sid status fields eos date =>
      exact ht.own (sendResponseHead_touches me sid status fields eos date)
        (fun m hm k => endMarks_own hm) (sendResponseHead_tight me sid status fields eos date)
  | resetStream sid reason initiator =>
      refine ht.own (resetStream_touches me sid reason initiator) ?_ fun _ =>
        resetStream_tight me sid reason initiator
      rintro m rfl k hc
      exact closes_own (.inr rfl) hc
  | acloseBody sid =>
      refine ht.own (acloseBody_touches me sid) ?_ (acloseBody_tight me sid)
      rintro m rfl k hc
      exact closes_own (.inr rfl) hc
  | fail exc message => exact fail_tight me exc message p
  | _ => exact calm fun m hm => hm.elim

/-- The error reset that is made leaves its stream tight. -/
theorem resetOnError_tight {v : ResetVerdict} {reason : Reason}
    (hv : (me.resetOnError sid reason).2 = .ok v) :
    (me.resetOnError sid reason).1.Tight (· ≠ sid) := by
  unfold resetOnError at hv ⊢
  dsimp only at hv ⊢
  split at hv
  · cases hv
  · next hlim =>
    rw [if_neg hlim]
    split
    · exact resetStream_tight _ _ _ _
    · next hn =>
      have hs : Still { me with localErrorResets := me.localErrorResets + 1 }
          ((if reason ≠ Reason.refusedStream then
            { me with localErrorResets := me.localErrorResets + 1 }.enqueueResetExpiration sid
          else { me with localErrorResets := me.localErrorResets + 1 }).emit
            (.rstStream sid reason)) := by
        refine Still.trans ?_ (.emit _ _)
        split
        · exact enqueueResetExpiration_still _ sid
        · exact .refl _
      refine tight_of_open fun e he => ?_
      rw [hs.absent hn] at he
      cases he

/-- The error of a reset that is refused. -/
def tooManyResets : Err :=
  protocolErrWithDebug .enhanceYourCalm "too many stream resets" "too_many_internal_resets"

theorem resetOnError_refused {reason : Reason} {err : Err}
    (hv : (me.resetOnError sid reason).2 = .error err) :
    (me.resetOnError sid reason).1 = me ∧ err = tooManyResets := by
  unfold resetOnError at hv ⊢
  dsimp only at hv ⊢
  split at hv
  · next hlim =>
    cases hv
    rw [if_pos hlim]
    exact ⟨rfl, rfl⟩
  · split at hv <;> cases hv

end Inner

/-! ### The driver -/

/-- The read pump's error reset was refused, and the connection has not failed for it yet. -/
def Pump.refusing : Pump → Prop
  | .closing _ _ e | .failing e => e = tooManyResets
  | _ => False

namespace Sys

variable {σ σ' : Sys} {a : Action} {cfg : Config}

/-- The error reset of `k` is still to come, or was refused. -/
def AwaitsReset (σ : Sys) (k : Nat) : Prop :=
  (∃ reason, σ.pump = .resetting k reason) ∨ σ.pump.refusing

/-- At most one stream is closed and not finished: the one that awaits its error reset. -/
def Closes (σ : Sys) : Prop :=
  ∃ p : Option Nat, (σ.inner.Tight fun k => p = some k) ∧ ∀ k, p = some k → σ.AwaitsReset k

theorem closes_init (cfg : Config) : (init cfg).Closes := by
  obtain ⟨fc, fs, hb, -, -, -⟩ := Inner.begin_spec cfg
  refine ⟨none, ?_, by nofun⟩
  rw [inner_init, hb]
  intro k e hk
  cases hk

theorem closes_recv (h : σ.Ok) (hc : σ.Closes) (hp : σ.pump = .running) (f : Frame) :
    (σ.recv f).Closes := by
  obtain ⟨p, ht, hw⟩ := hc
  have hp0 : p = none := by
    rcases p with _ | k
    · rfl
    · rcases hw k rfl with ⟨r, hr⟩ | hr
      · rw [hp] at hr
        cases hr
      · rw [hp] at hr
        exact hr.elim
  subst hp0
  have hin := recv_inner σ f
  rcases dispatch_tight h.wf ht f with ht' | ⟨sid, code, herr, ht'⟩
  · exact ⟨none, by rw [hin]; exact ht', by nofun⟩
  · refine ⟨some sid, ?_, fun k hk => .inl ⟨code, ?_⟩⟩
    · rw [hin]
      exact ht'.mono fun k hk => hk.elim (fun h => by cases h) fun h => by rw [h]
    · cases hk
      simp only [recv, herr]
      rfl

theorem closes_step (h : σ.Ok) (hc : σ.Closes) (hs : Step σ a σ') : σ'.Closes := by
  have hsame : ∀ {τ : Sys}, τ.pump = σ.pump → (∀ p, σ.inner.Tight p → τ.inner.Tight p) →
      τ.Closes := fun {τ} hp ht => by
    obtain ⟨p, htp, hw⟩ := hc
    exact ⟨p, ht _ htp, fun k hk => by
      rw [AwaitsReset, hp]
      exact hw k hk⟩
  unfold Step step at hs
  cases a with
  | recv f =>
      dsimp only at hs
      split at hs
      · next hp =>
        cases hs
        exact closes_recv h hc hp f
      · cases hs
  | raised e =>
      dsimp only at hs
      split at hs
      · next hp =>
        cases hs
        obtain ⟨p, ht, hw⟩ := hc
        refine ⟨p, ht, fun k hk => ?_⟩
        rcases hw k hk with ⟨r, hr⟩ | hr
        · rw [hp] at hr
          cases hr
        · rw [hp] at hr
          exact hr.elim
      · cases hs
  | pump =>
      dsimp only at hs
      unfold pumpStep at hs
      obtain ⟨p, ht, hw⟩ := hc
      cases hp : σ.pump with
      | resetting sid reason =>
          rw [hp] at hs
          dsimp only at hs
          -- the stream that awaits its reset is the one that is reset
          have hsid : ∀ k, p = some k → k = sid := fun k hk => by
            rcases hw k hk with ⟨r, hr⟩ | hr
            · rw [hp] at hr
              cases hr
              rfl
            · rw [hp] at hr
              exact hr.elim
          split at hs
          · next v hv =>
            cases hs
            refine ⟨none, ?_, by nofun⟩
            refine Inner.Tight.at ?_ (resetOnError_tight hv)
            refine (resetOnError_touches σ.inner sid reason).tight
              (ht.mono fun k hk => .inr (hsid k hk)) ?_
            rintro m rfl k hk
            exact .inr (closes_own (.inr rfl) hk)
          · next err hv =>
            cases hs
            obtain ⟨hsame, rfl⟩ := resetOnError_refused hv
            exact ⟨p, by rw [hsame]; exact ht, fun k _ => .inr rfl⟩
      | closing reason debugData e =>
          rw [hp] at hs
          cases hs
          refine ⟨p, (Still.emit σ.inner _).tight ht, fun k hk => .inr ?_⟩
          rcases hw k hk with ⟨r, hr⟩ | hr
          · rw [hp] at hr
            cases hr
          · rw [hp] at hr
            exact hr
      | failing e =>
          rw [hp] at hs
          cases hs
          exact ⟨none, fail_tight _ _ _ _, by nofun⟩
      | running => rw [hp] at hs; cases hs
      | done => rw [hp] at hs; cases hs
  | reply =>
      dsimp only at hs
      split at hs
      · next hp =>
        cases hs
        obtain ⟨p, ht, hw⟩ := hc
        refine ⟨p, (maybeGoawayReply_still σ.inner).tight ht, fun k hk => ?_⟩
        rcases hw k hk with ⟨r, hr⟩ | hr
        · rw [hp] at hr
          cases hr
        · rw [hp] at hr
          exact hr.elim
      · cases hs
  | call c =>
      dsimp only at hs
      split at hs
      · next hal =>
        cases hs
        refine hsame rfl fun p ht => call_tight h.wf ht c ?_
        rintro request eos isHead rfl
        simpa [allowed] using hal
      · cases hs
  | flush =>
      cases hs
      exact hsame rfl fun p ht => ht
  | tick d =>
      cases hs
      exact hsame rfl fun p ht => ht
  | rehash m =>
      dsimp only at hs
      split at hs
      · next hm =>
        cases hs
        exact hsame rfl fun p ht => (Still.perm σ.inner hm).tight ht
      · cases hs

end Sys

end Httpunk.H2
