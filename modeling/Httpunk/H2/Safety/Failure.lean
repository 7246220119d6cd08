import Httpunk.H2.Safety.Goaway

/-!
# H2 — Safety — Failure

A connection that has failed has no live stream.  The error is recorded by the driver's `fail`,
which ends every stream and hands each to the driver, or by the GOAWAY reply, when no stream is
left; and a stream once ended is never handed over again.

* `Inner.Live`: a stored stream that has not finished.
* `Step.notified`: what a step hands to the driver was live and is so no more.
* `Sys.failed_is_quiet`: no live stream after an error, in every run in which a server opens
  none then, and in which the failure meets no stream that is closed and has not finished.
-/

namespace Httpunk.H2

open Runs (Reach)
open Httpunk.H2.Inner

/-- A stream is live as long as it is stored and has not finished. -/
def Inner.Live (me : Inner) (sid : Nat) : Prop :=
  ∃ e, me.streams.lookup sid = some e ∧ e.finished = false

variable {s s' : Inner} {k : Kind} {extra : Kind → Prop} {sid : Nat}

/-! ### Streams that are not live -/

/-- A stream that was used and is not live stays so. -/
theorem Moves.dead (r : Moves extra s s') (h : s.Wf) (hu : s.Used sid) (hd : ¬s.Live sid) :
    ¬s'.Live sid := by
  have hinv : s'.Wf ∧ s'.Used sid ∧ ¬s'.Live sid := by
    refine Reach.invariant (I := fun t => t.Wf ∧ t.Used sid ∧ ¬t.Live sid) r ⟨h, hu, hd⟩ ?_
    rintro t k t' ⟨htw, htu, htd⟩ m -
    refine ⟨m.wf htw, m.grows.used htu, fun ⟨e', hl, hf⟩ => ?_⟩
    rcases m.entry htw hl with ⟨e, hl', hv⟩ | ho
    · refine htd ⟨e, hl', ?_⟩
      by_contra hfin
      rw [hv.finished (by simpa using hfin)] at hf
      cases hf
    · exact ho.unused htu
  exact hinv.2.2

/-- A stream that was used and is not stored is never stored again. -/
theorem Moves.gone (r : Moves extra s s') (h : s.Wf) (hu : s.Used sid)
    (hn : s.streams.lookup sid = none) : s'.streams.lookup sid = none := by
  have hinv : s'.Wf ∧ s'.Used sid ∧ s'.streams.lookup sid = none := by
    refine Reach.invariant (I := fun t => t.Wf ∧ t.Used sid ∧ t.streams.lookup sid = none) r
      ⟨h, hu, hn⟩ ?_
    rintro t k t' ⟨htw, htu, htn⟩ m -
    refine ⟨m.wf htw, m.grows.used htu, ?_⟩
    rcases hl : t'.streams.lookup sid with _ | e'
    · rfl
    · rcases m.entry htw hl with ⟨e, hl', -⟩ | ho
      · rw [htn] at hl'; cases hl'
      · exact absurd htu ho.unused
  exact hinv.2.2

theorem Alike.live (h : Alike s s') (hl : s'.Live sid) : s.Live sid := by
  obtain ⟨e', he', hf⟩ := hl
  obtain ⟨e, he, hs⟩ := h.back he'
  exact ⟨e, he, hs.finished ▸ hf⟩

namespace Inner

variable {me : Inner}

theorem not_live_of_none (h : me.streams.lookup sid = none) : ¬me.Live sid := by
  rintro ⟨e, hl, -⟩
  rw [h] at hl
  cases hl

/-- Closing a closed stream finishes it. -/
theorem closeStream_dead (hc : ∀ e, me.streams.lookup sid = some e → e.state.isClosed = true) :
    ¬(me.closeStream sid).1.Live sid := by
  unfold closeStream
  split
  · next hn => exact not_live_of_none hn
  · next e he =>
    split
    · next hf =>
      rw [hc e he, Bool.not_true, Bool.false_or] at hf
      rintro ⟨e', hl, hf'⟩
      rw [he] at hl
      cases hl
      rw [hf] at hf'
      cases hf'
    · have hq : Alike (me.finishEntry sid e)
          (((me.finishEntry sid e).leaveSendQueue sid).1.leaveCapacityQueue sid).1 :=
        (leaveSendQueue_alike _ sid).trans (leaveCapacityQueue_alike _ sid)
      have hdead : ¬(((me.finishEntry sid e).leaveSendQueue sid).1.leaveCapacityQueue
          sid).1.Live sid := fun hl => by
        obtain ⟨e', he', hf'⟩ := hq.live hl
        rw [show (me.finishEntry sid e).streams.lookup sid =
          some { e with finished := true, holdsSlot := false } from AList.lookup_insert _] at he'
        cases he'
        cases hf'
      dsimp only
      intro hl
      unfold Live at hl
      rw [streams_onStreamGone] at hl
      split at hl
      · rw [show AList.lookup sid (AList.erase sid _) = none from AList.lookup_erase _ _] at hl
        obtain ⟨_, h, -⟩ := hl
        cases h
      · exact hdead hl

/-- A reset ends its stream, and hands over that stream at most. -/
theorem resetStream_dead (me : Inner) (sid : Nat) (reason : Reason) (initiator : Initiator) :
    ¬(me.resetStream sid reason initiator).1.Live sid ∧
      ∀ k, (me.resetStream sid reason initiator).2.handle = some k →
        k = sid ∧ ∃ e, me.streams.lookup sid = some e := by
  unfold resetStream
  split
  · next hn => exact ⟨not_live_of_none hn, fun k hk => by cases hk⟩
  · next e he =>
    have hclosed : ∀ (st : State), st.isClosed = true →
        ∀ e', ((me.setStream sid { e with state := st }).reclaimStreamAccounting
          sid).streams.lookup sid = some e' → e'.state.isClosed = true := fun st hst e' he' =>
      closed_of_lookup_reclaim hst he'
    split
    · next hc =>
      have hst : (if e.state.isReset then e.state
          else e.state.setReset sid reason initiator).isClosed = true := by
        split
        · exact hc
        · rfl
      generalize (if e.state.isReset then e.state
        else e.state.setReset sid reason initiator) = st at hst ⊢
      dsimp only
      refine ⟨?_, fun k hk => by cases hk; exact ⟨rfl, e, he⟩⟩
      split
      · exact fun hl => closeStream_dead (hclosed _ hst)
          ((enqueueResetExpiration_alike _ sid).live hl)
      · exact closeStream_dead (hclosed _ hst)
    · dsimp only
      refine ⟨fun hl => ?_, fun k hk => by cases hk; exact ⟨rfl, e, he⟩⟩
      refine closeStream_dead (fun e' he' => ?_) ((enqueueResetExpiration_alike _ sid).live hl)
      exact hclosed _ (State.isClosed_setReset e.state sid reason initiator) e' he'

/-- What the end of a send hands over is no longer live. -/
theorem finishStream_handle (me : Inner) (sid : Nat) {k : Nat}
    (h : (me.finishStream sid).2.handle = some k) :
    k = sid ∧ ¬(me.finishStream sid).1.Live sid := by
  unfold finishStream at h ⊢
  dsimp only at h ⊢
  split at h
  · cases h
  · split at h
    · cases h
    · next e he =>
      split at h
      · next hc =>
        rw [if_pos hc]
        obtain ⟨hd, hh⟩ := resetStream_dead (me.closeStream sid).1 sid .noError .user
        exact ⟨(hh k h).1, hd⟩
      · cases h

/-- What a send leaves: it hands over its own stream at most, no longer live. -/
def EndsOwn (sid : Nat) (r : Inner × Except Err SendVerdict) : Prop :=
  ∀ v k, r.2 = .ok v → v.handle = some k → k = sid ∧ ¬r.1.Live sid

theorem EndsOwn.error (me : Inner) (err : Err) : EndsOwn sid (me, .error err) :=
  fun _ _ h => by cases h

theorem EndsOwn.silent {v : SendVerdict} (me : Inner) (h : v.handle = .none) :
    EndsOwn sid (me, .ok v) := fun _ _ hv hk => by cases hv; rw [h] at hk; cases hk

theorem EndsOwn.completed (me : Inner) (n : Nat) (flags : Flags) :
    EndsOwn sid ((me.finishStream sid).1, .ok (.completed n flags (me.finishStream sid).2)) :=
  fun _ _ hv hk => by cases hv; exact finishStream_handle me sid hk

theorem queueData_endsOwn (me : Inner) (sid : Nat) (chunk : Bytes) (last done : Bool)
    (before : Nat) (flags : Flags) :
    EndsOwn sid (me.queueData sid chunk last done before flags) := by
  unfold queueData
  dsimp only
  split
  · exact .error _ _
  · split
    · split
      · exact .error _ _
      · split
        · exact .error _ _
        · exact .completed _ _ _
    · exact .silent _ rfl

theorem sendTurn_endsOwn (me : Inner) (sid : Nat) (data : Bytes) (offset : Nat)
    (endStream : Bool) (budget before : Nat) :
    EndsOwn sid (me.sendTurn sid data offset endStream budget before) := by
  unfold sendTurn
  split
  · exact .error _ _
  · split
    · exact .silent _ rfl
    · split
      · exact .silent _ rfl
      · unfold frameData
        dsimp only
        split
        · exact .error _ _
        · split
          · exact .error _ _
          · exact queueData_endsOwn _ _ _ _ _ _ _

theorem sendData_endsOwn (me : Inner) (sid : Nat) (data : Bytes) (offset : Nat)
    (endStream : Bool) : EndsOwn sid (me.sendData sid data offset endStream) := by
  unfold sendData
  split
  · exact .silent _ rfl
  · split
    · exact .silent _ rfl
    · split
      · unfold sendEmpty
        dsimp only
        split
        · split
          · exact .error _ _
          · exact .completed _ _ _
        · exact .silent _ rfl
      · unfold sendChunk
        dsimp only
        split
        · exact .silent _ rfl
        · split
          · split
            · exact .silent _ rfl
            · exact sendTurn_endsOwn _ _ _ _ _ _ _
          · exact sendTurn_endsOwn _ _ _ _ _ _ _

theorem sendTrailers_endsOwn (me : Inner) (sid : Nat) (trailers : Fields) :
    EndsOwn sid (me.sendTrailers sid trailers) := by
  unfold sendTrailers
  dsimp only
  split
  · exact .silent _ rfl
  · split
    · exact .silent _ rfl
    · split
      · exact .error _ _
      · exact .completed _ _ _

theorem sendResponseHead_endsOwn (me : Inner) (sid status : Nat) (fields : Fields)
    (endStream : Bool) (date : String) :
    EndsOwn sid (me.sendResponseHead sid status fields endStream date) := by
  unfold sendResponseHead
  dsimp only
  split
  · exact .error _ _
  · split
    · exact .silent _ rfl
    · split
      · exact .silent _ rfl
      · split
        · exact .error _ _
        · split
          · exact .error _ _
          · split
            · exact .completed _ _ _
            · exact .silent _ rfl

/-! ### What a frame, a call and a failure hand over -/

/-- The handles `ns` told of a stop: each was of a stored stream, and the stream is live no
more. -/
def Ends (me me' : Inner) (ns : List Nat) : Prop :=
  ∀ k ∈ ns, (∃ e, me.streams.lookup k = some e) ∧ ¬me'.Live k

theorem Ends.nil (me me' : Inner) : Ends me me' [] := fun _ h => by cases h

/-- A send to a stream that is not stored hands over nothing. -/
theorem EndsOwn.ends {r : Inner × Except Err SendVerdict} (h : EndsOwn sid r)
    (hs : me.streams.lookup sid = none → (sendActs r.2).stopped = []) :
    Ends me r.1 (sendActs r.2).stopped := by
  intro k hk
  rcases hl : me.streams.lookup sid with _ | e
  · rw [hs hl] at hk; cases hk
  · unfold sendActs SendVerdict.acts at hk
    split at hk
    · next v hv =>
      obtain ⟨rfl, hd⟩ := h v k hv (Option.mem_toList.mp hk)
      exact ⟨⟨e, hl⟩, hd⟩
    · cases hk

theorem resetStream_ends (me : Inner) (sid : Nat) (reason : Reason) (initiator : Initiator) :
    Ends me (me.resetStream sid reason initiator).1
      (me.resetStream sid reason initiator).2.handle.toList := by
  intro k hk
  obtain ⟨hd, hh⟩ := resetStream_dead me sid reason initiator
  obtain ⟨rfl, he⟩ := hh k (Option.mem_toList.mp hk)
  exact ⟨he, hd⟩

theorem acloseBody_ends (me : Inner) (sid : Nat) :
    Ends me (me.acloseBody sid).1 (me.acloseBody sid).2.acts.stopped := by
  unfold acloseBody
  dsimp only
  split
  · exact .nil _ _
  · split
    · exact .nil _ _
    · exact resetStream_ends me sid .cancel .user

theorem resetOnError_ends (me : Inner) (sid : Nat) (reason : Reason) {v : ResetVerdict}
    (h : (me.resetOnError sid reason).2 = .ok v) :
    Ends me (me.resetOnError sid reason).1 v.handle.toList := by
  unfold resetOnError at h ⊢
  dsimp only at h ⊢
  split at h
  · cases h
  · next hlim =>
    rw [if_neg hlim]
    split at h
    · next e he =>
      cases h
      exact resetStream_ends { me with localErrorResets := me.localErrorResets + 1 } sid reason
        .library
    · cases h
      exact .nil _ _

theorem abortAll_ends (me : Inner) (reason : Option Reason) {ids : List Nat} (hn : ids.Nodup) :
    Ends me (me.abortAll reason ids).1 ((me.abortAll reason ids).2.1.map Prod.fst) := by
  intro k hk
  obtain ⟨hout, hlook⟩ := abortAll_spec me reason hn
  rw [hout] at hk
  obtain ⟨hmem, hc⟩ := List.mem_filter.mp hk
  refine ⟨?_, not_live_of_none (by rw [hlook, if_pos hmem])⟩
  rcases hl : me.streams.lookup k with _ | e
  · rw [hl] at hc; cases hc
  · exact ⟨e, rfl⟩

theorem recvResetOn_ends (me : Inner) (f : RstStream) {e : StreamEntry}
    (he : me.streams.lookup f.streamId = some e) {v : Option RecvResetVerdict}
    (h : (me.recvResetOn f e).2 = .ok v) :
    Ends me (me.recvResetOn f e).1 (v.elim {} RecvResetVerdict.acts).stopped := by
  unfold recvResetOn at h ⊢
  dsimp only at h ⊢
  split at h
  · cases h
    exact .nil _ _
  · next hf =>
    cases h
    rw [if_neg hf]
    intro k hk
    rw [show k = f.streamId from List.mem_singleton.mp hk]
    exact ⟨⟨e, he⟩, closeStream_dead fun e' he' =>
      closed_of_lookup_reclaim (State.isClosed_recvReset e.state f.streamId f.errorCode) he'⟩

theorem recvReset_ends (me : Inner) (f : RstStream) {v : Option RecvResetVerdict}
    (h : (me.recvReset f).2 = .ok v) :
    Ends me (me.recvReset f).1 (v.elim {} RecvResetVerdict.acts).stopped := by
  unfold recvReset at h ⊢
  dsimp only at h ⊢
  split
  · next h0 => rw [if_pos h0] at h; cases h
  · next h0 =>
    rw [if_neg h0] at h
    split
    · next hn =>
      rw [hn] at h
      dsimp only at h
      split
      · next hr => rw [if_pos hr] at h; cases h; exact .nil _ _
      · next hr =>
        rw [if_neg hr] at h
        split
        · next hi => rw [hi] at h; cases h
        · next hi => rw [hi] at h; cases h; exact .nil _ _
    · next e he =>
      rw [he] at h
      dsimp only at h
      split
      · next hp =>
        rw [if_pos hp] at h
        split
        · next hm => rw [if_pos hm] at h; cases h
        · next hm =>
          rw [if_neg hm] at h
          exact recvResetOn_ends { me with
            remoteResetPending := insert f.streamId me.remoteResetPending } f he h
      · next hp =>
        rw [if_neg hp] at h
        exact recvResetOn_ends me f he h

theorem recvGoAway_ends (me : Inner) (f : GoAway) {v : List (Nat × Stopped) × Flags}
    (h : (me.recvGoAway f).2 = .ok v) : Ends me (me.recvGoAway f).1 (v.1.map Prod.fst) := by
  unfold recvGoAway at h ⊢
  dsimp only at h ⊢
  split
  · next hl => rw [if_pos hl] at h; cases h
  · next hl =>
    rw [if_neg hl] at h
    generalize hm : ({ me with
      goawayLastId := some f.lastStreamId
      goaway := some ⟨f.lastStreamId, f.errorCode, f.debugData⟩ } : Inner) = m at h ⊢
    have hs : me.streams = m.streams := by rw [← hm]
    have hn : (m.streamsAbove f.lastStreamId).Nodup := m.streams.nodupKeys.filter _
    have ha := abortAll_ends m (some f.errorCode) hn
    unfold Ends at ha ⊢
    rw [hs]
    split
    · next hr => rw [hr] at h; cases h; exact Ends.nil m m
    · next hr => rw [hr] at h; cases h; exact ha

/-- **What a frame hands over.** -/
theorem dispatch_ends (me : Inner) (f : Frame) {a : Acts} (h : (me.dispatch f).2 = .ok a) :
    Ends me (me.dispatch f).1 a.stopped := by
  cases f with
  | rstStream f =>
      obtain ⟨v, hv, rfl⟩ := Sys.acts_of_ok h
      exact recvReset_ends me f hv
  | goAway f =>
      obtain ⟨v, hv, rfl⟩ := Sys.acts_of_ok h
      exact recvGoAway_ends me f hv
  | ping f => cases h; exact .nil _ _
  | priority f => cases h; exact .nil _ _
  | streamError sid code detail => cases h
  | _ =>
      obtain ⟨v, -, rfl⟩ := Sys.acts_of_ok h
      exact .nil _ _

theorem fail_ends (me : Inner) (exc : Option Err) (message : String) :
    Ends me (me.fail exc message).1 ((me.fail exc message).2.map Prod.fst) :=
  abortAll_ends { me with error := _ } none me.streams.nodupKeys

/-- **What a call hands over.** -/
theorem call_ends (me : Inner) (c : Call) : Ends me (me.call c).1 (me.call c).2.stopped := by
  cases c with
  | sendData sid data offset eos =>
      refine (sendData_endsOwn me sid data offset eos).ends fun hn => ?_
      rw [sendData, hn]
      rfl
  | sendTrailers sid trailers =>
      refine (sendTrailers_endsOwn me sid trailers).ends fun hn => ?_
      rw [sendTrailers, hn]
      rfl
  | sendResponseHead sid status fields eos date =>
      refine (sendResponseHead_endsOwn me sid status fields eos date).ends fun hn => ?_
      rw [sendResponseHead, hn]
      dsimp only
      split <;> rfl
  | resetStream sid reason initiator => exact resetStream_ends me sid reason initiator
  | acloseBody sid => exact acloseBody_ends me sid
  | fail exc message => exact fail_ends me exc message
  | _ => exact .nil _ _

end Inner

/-! ### A failed connection -/

/-- No stream is live. -/
def Inner.Quiet (me : Inner) : Prop := ∀ sid, ¬me.Live sid

/-- A well-formed connection is quiet as soon as it counts no active stream. -/
theorem Inner.Wf.quiet_iff {me : Inner} (h : me.Wf) :
    me.Quiet ↔ me.numActive = 0 ∧
      ∀ sid e, me.streams.lookup sid = some e → e.finished = true := by
  have hone : ∀ {sid e}, activeOf sid e = 0 ↔ e.finished = true := fun {sid e} => by
    unfold activeOf
    split <;> simp_all
  rw [h.active, Store.total_eq_zero]
  constructor
  · intro hq
    have hall : ∀ sid e, me.streams.lookup sid = some e → e.finished = true := by
      intro sid e he
      by_contra hf
      exact hq sid ⟨e, he, by simpa using hf⟩
    exact ⟨fun sid e he => hone.mpr (hall sid e he), hall⟩
  · rintro ⟨-, hall⟩ sid ⟨e, he, hf⟩
    rw [hall sid e he] at hf
    cases hf

/-- Once an error is recorded, no stream is live. -/
def Inner.Sealed (me : Inner) : Prop := me.error.isSome = true → me.Quiet

/-- The GOAWAY reply is due when no stream is live. -/
theorem Inner.Wf.quiet_of_due {me : Inner} (h : me.Wf) (hd : me.replyDue = true) : me.Quiet := by
  have h0 : me.numActive = 0 := by
    simp only [replyDue, Bool.and_eq_true, Bool.not_eq_true', Bool.or_eq_false_iff,
      bne_eq_false_iff_eq] at hd
    exact hd.1.2
  rw [h.active, Store.total_eq_zero] at h0
  rintro sid ⟨e, he, hf⟩
  have := h0 sid e he
  rw [activeOf, hf] at this
  cases this

/-- A move that records no failure, and stores a request on no failed connection. -/
theorem Move.sealed (m : Move s k s') (h : s.Wf) (hq : s.Sealed) (hf : k ≠ .fail)
    (ho : ∀ sid, k = .accept sid → s.error = none) : s'.Sealed := by
  intro he' sid ⟨e', hl, hfin⟩
  by_cases he : s.error.isSome = true
  · rcases m.entry h hl with ⟨e, hl', hv⟩ | hopen
    · refine hq he sid ⟨e, hl', ?_⟩
      by_contra hc
      rw [hv.finished (by simpa using hc)] at hfin
      cases hfin
    · cases m with
      | accept _ _ _ _ => rw [ho _ rfl] at he; cases he
      | request _ hd _ _ =>
          rw [isDead, Bool.or_eq_false_iff] at hd
          rw [hd.1] at he
          cases he
      | _ => rcases hopen.kind with hk | ⟨_, hk⟩ <;> cases hk
  · by_cases hk : k = .reply
    · subst hk
      cases m with
      | reply hd =>
        rw [streams_maybeGoawayReply] at hl
        exact h.quiet_of_due hd sid ⟨e', hl, hfin⟩
    · rw [m.error hk hf] at he'
      exact he he'

theorem Moves.sealed (r : Moves extra s s') (h : s.Wf) (hq : s.Sealed) (hf : ¬extra .fail)
    (ho : ∀ sid, ¬extra (.accept sid)) : s'.Sealed := by
  have hinv : s'.Wf ∧ s'.Sealed := by
    refine Reach.invariant (I := fun t => t.Wf ∧ t.Sealed) r ⟨h, hq⟩ ?_
    rintro t k t' ⟨htw, htq⟩ m hk
    refine ⟨m.wf htw, m.sealed htw htq (fun h1 => ?_) fun sid h1 => ?_⟩
    · subst h1
      exact hk.elim (fun hc => by cases hc) hf
    · subst h1
      exact hk.elim (fun hc => by cases hc) fun he => absurd he (ho sid)
  exact hinv.2

/-- On a failed connection, a run of moves that accepts no request stores no stream anew. -/
theorem Moves.stored_failed (r : Moves extra s s') (h : s.Wf) (he : s.error.isSome = true)
    (ho : ∀ sid, ¬extra (.accept sid)) {e' : StreamEntry}
    (hl : s'.streams.lookup sid = some e') : ∃ e, s.streams.lookup sid = some e := by
  have hinv : s'.Wf ∧ s'.error.isSome = true ∧ ∀ e', s'.streams.lookup sid = some e' →
      ∃ e, s.streams.lookup sid = some e := by
    refine Reach.invariant (I := fun t => t.Wf ∧ t.error.isSome = true ∧
      ∀ e', t.streams.lookup sid = some e' → ∃ e, s.streams.lookup sid = some e) r
      ⟨h, he, fun e he => ⟨e, he⟩⟩ ?_
    rintro t k t' ⟨htw, hte, ht⟩ m hk
    refine ⟨m.wf htw, (m.grows.error hte).symm ▸ hte, fun e' hl => ?_⟩
    rcases m.entry htw hl with ⟨e, hl', -⟩ | hopen
    · exact ht e hl'
    · cases m with
      | accept _ _ _ _ => exact hk.elim (fun hc => by cases hc) fun he => absurd he (ho _)
      | request _ hd _ _ =>
          rw [isDead, Bool.or_eq_false_iff] at hd
          rw [hd.1] at hte
          cases hte
      | _ => rcases hopen.kind with hk | ⟨_, hk⟩ <;> cases hk
  exact hinv.2.2 e' hl

/-- A run of moves that made the GOAWAY reply, the one that records an error. -/
def Replied (extra : Kind → Prop) (s s' : Inner) : Prop :=
  ∃ t, Moves extra s t ∧ t.replyDue = true ∧ Moves extra t.maybeGoawayReply.1 s'

/-- Where a run of moves records an error and is no failure, it made the GOAWAY reply. -/
theorem Moves.replied (r : Moves extra s s') (hn : s.error = none)
    (he : s'.error.isSome = true) (hf : ¬extra .fail) : Replied extra s s' := by
  have hinv : Moves extra s s' ∧ (s'.error = none ∨ Replied extra s s') := by
    refine Reach.invariant
      (I := fun t => Moves extra s t ∧ (t.error = none ∨ Replied extra s t)) r ⟨.refl, .inl hn⟩ ?_
    rintro t k t' ⟨htr, ht⟩ m hk
    refine ⟨htr.tail m hk, ?_⟩
    rcases ht with ht | ⟨u, h₁, hd, h₂⟩
    · by_cases hr : k = .reply
      · subst hr
        cases m with
        | reply hd => exact .inr ⟨t, htr, hd, .refl⟩
      · refine .inl ((m.error hr ?_).trans ht)
        rintro rfl
        exact hk.elim (fun hc => by cases hc) hf
    · exact .inr ⟨u, h₁, hd, h₂.tail m hk⟩
  rcases hinv.2 with h0 | h1
  · rw [h0] at he; cases he
  · exact h1

/-- **A failure hands over every stream not closed yet, each once, and leaves none stored.** -/
theorem Inner.fail_spec (me : Inner) (exc : Option Err) (message : String) :
    (me.fail exc message).2.map Prod.fst =
        me.streams.keys.filter (fun k => (me.streams.lookup k).any (!·.state.isClosed)) ∧
      ∀ k, (me.fail exc message).1.streams.lookup k = none := by
  have hall : ∀ m : Inner, m.streams = me.streams →
      m.failAll.2.map Prod.fst =
          me.streams.keys.filter (fun k => (me.streams.lookup k).any (!·.state.isClosed)) ∧
        ∀ k, m.failAll.1.streams.lookup k = none := by
    intro m hm
    obtain ⟨hout, hlook⟩ := abortAll_spec m none m.streams.nodupKeys
    refine ⟨hm ▸ hout, fun k => (hlook k).trans ?_⟩
    split
    · rfl
    · next hk => exact AList.lookup_eq_none.mpr fun hmem => hk (AList.mem_keys.mpr hmem)
  exact hall _ rfl

/-! ### Runs -/

namespace Sys

variable {σ σ' : Sys} {a : Action} {cfg : Config}

/-- A stored stream is closed, and its end is still to come. -/
def endsPending (σ : Sys) : Bool :=
  σ.inner.streams.entries.any fun p => p.2.state.isClosed && !p.2.finished

/-- The condition on a step: a server that has failed is sent no new request, and the failure
finds no stream between its stream error and the reset that answers it. -/
def failsCleanly (σ : Sys) : Action → Bool
  | .recv (.headers f) => σ.inner.error.isNone || !σ.opens f
  | a => !σ.fails a || σ.inner.error.isSome || !σ.endsPending

/-! ### What a step keeps -/

/-- **What a step hands over.** -/
theorem Step.ends (hs : Step σ a σ') :
    ∃ ns, σ'.notified = σ.notified ++ ns ∧ Inner.Ends σ.inner σ'.inner ns := by
  have same : σ'.notified = σ.notified →
      ∃ ns, σ'.notified = σ.notified ++ ns ∧ Inner.Ends σ.inner σ'.inner ns := fun h =>
    ⟨[], by rw [h, List.append_nil], .nil _ _⟩
  unfold Step step at hs
  cases a with
  | recv f =>
      dsimp only at hs
      split at hs
      · cases hs
        rcases hd : (σ.inner.dispatch f).2 with e | acts
        · refine same ?_
          simp only [Sys.recv, hd]
        · refine ⟨acts.stopped, ?_, ?_⟩
          · simp only [Sys.recv, hd]
          · rw [inner_recv]
            exact dispatch_ends σ.inner f hd
      · cases hs
  | pump =>
      dsimp only at hs
      unfold pumpStep at hs
      split at hs
      · dsimp only at hs
        split at hs
        · next v hv => cases hs; exact ⟨_, rfl, resetOnError_ends σ.inner _ _ hv⟩
        · cases hs; exact same rfl
      · cases hs; exact same rfl
      · cases hs; exact ⟨_, rfl, fail_ends σ.inner _ _⟩
      · cases hs
      · cases hs
  | call c =>
      dsimp only at hs
      split at hs
      · cases hs; exact ⟨_, rfl, call_ends σ.inner c⟩
      · cases hs
  | flush => cases hs; exact same rfl
  | tick d => cases hs; exact same rfl
  | _ =>
      dsimp only at hs
      split at hs <;> cases hs
      exact same rfl

/-- A failure leaves nothing stored. -/
theorem Step.lookup_fails (hs : Step σ a σ') (hf : σ.fails a = true) (sid : Nat) :
    σ'.inner.streams.lookup sid = none := by
  unfold Step step at hs
  cases a with
  | call c =>
      dsimp only at hs
      split at hs
      · cases hs
        cases c with
        | fail exc message => exact (Inner.fail_spec σ.inner exc message).2 sid
        | _ => cases hf
      · cases hs
  | pump =>
      dsimp only at hs
      unfold pumpStep at hs
      unfold fails at hf
      cases hp : σ.pump with
      | failing e =>
        rw [hp] at hs
        cases hs
        exact (Inner.fail_spec σ.inner (some e) "").2 sid
      | _ => rw [hp] at hf; cases hf
  | _ => cases hf

/-- A step that is no failure records no failure. -/
theorem no_fail_kind (hf : σ.fails a = false) : ¬σ.kinds a .fail := by
  intro hk
  cases a with
  | recv f => exact (Inner.addedBy_of_frameKinds hk).elim
  | call c =>
      obtain ⟨exc, message, rfl⟩ := Inner.calledBy_of_callKinds hk
      cases hf
  | pump =>
      rcases kinds_pump hk with h | ⟨⟨e, he⟩, -⟩
      · cases h
      · rw [fails, he] at hf; cases hf
  | _ => exact hk.elim

/-- Only a HEADERS frame stores a request. -/
theorem no_accept_kind (hh : ¬∃ f, a = .recv (.headers f)) (sid : Nat) :
    ¬σ.kinds a (.accept sid) := by
  intro hk
  cases a with
  | recv f =>
      obtain ⟨g, rfl, -⟩ := Inner.addedBy_of_frameKinds hk
      exact hh ⟨g, rfl⟩
  | call c => exact Inner.calledBy_of_callKinds hk
  | pump =>
      rcases kinds_pump hk with h | ⟨-, h | h⟩
      · cases h
      · cases h.1
      · cases h
  | _ => exact hk.elim

/-- A HEADERS frame that opens nothing is a run of moves that stores no request. -/
theorem headers_moves (h : σ.Ok) {f : Headers} (ho : σ.opens f = false) :
    Moves (· = .seen f.streamId) σ.inner (σ.inner.dispatch (.headers f)).1 ∧
      OpensNone (σ.inner.recvHeaders f (σ.inner.role = .server)).2 := by
  rcases recvHeaders_effect h.wf f (σ.inner.role = .server) with hm | ⟨⟨hr, hop, hn⟩, -⟩
  · exact hm
  · simp [opens, hr, hop, hn] at ho

/-- **No stream is live once an error is recorded**: what a step keeps. -/
theorem Ok.step_sealed (h : σ.Ok) (hq : σ.inner.Sealed) (hs : Step σ a σ')
    (hc : ∀ f, a = .recv (.headers f) → σ.opens f = true → σ.inner.error = none) :
    σ'.inner.Sealed := by
  by_cases ha : a = .flush
  · subst ha
    cases hs
    exact hq
  by_cases hh : ∃ f, a = .recv (.headers f)
  · obtain ⟨f, rfl⟩ := hh
    rw [(hs.recv).2, inner_recv]
    have hw := h.wf
    rcases recvHeaders_effect hw f (σ.inner.role = .server) with
      ⟨hm, -⟩ | ⟨⟨hr, ho, hn⟩, m₁, m₂, ha₁, hm, hm'⟩
    · exact hm.sealed hw hq (fun h => by cases h) (fun _ h => by cases h)
    · have hopen : σ.opens f = true := by simp [opens, hr, ho, hn]
      have he : σ.inner.error = none := hc f rfl hopen
      have hw₁ := hw.alike ha₁
      have h₁ : m₁.Sealed := (Move.admin ha₁).sealed hw hq (fun h => by cases h)
        (fun _ h => by cases h)
      have h₂ : m₂.Sealed := hm.sealed hw₁ h₁ (fun h => by cases h)
        (fun _ _ => ha₁.error.trans he)
      exact hm'.sealed (hm.wf hw₁) h₂ (fun h => by cases h) (fun _ h => by cases h)
  by_cases hf : σ.fails a = true
  · exact fun _ sid => not_live_of_none (hs.lookup_fails hf sid)
  · exact (h.step_moves hs ha).sealed h.wf hq (no_fail_kind (by simpa using hf))
      (no_accept_kind hh)

/-- The streams told of a stop have ended. -/
def Told (σ : Sys) : Prop := ∀ k ∈ σ.notified, σ.inner.Used k ∧ ¬σ.inner.Live k

theorem Ok.step_told (h : σ.Ok) (ht : σ.Told) (hs : Step σ a σ') : σ'.Told := by
  obtain ⟨ns, hns, hends⟩ := hs.ends
  intro k hk
  rw [hns] at hk
  rcases List.mem_append.mp hk with hk | hk
  · obtain ⟨hu, hd⟩ := ht k hk
    refine ⟨(h.grows hs).used hu, ?_⟩
    by_cases ha : a = .flush
    · subst ha; cases hs; exact hd
    · exact (h.step_moves hs ha).dead h.wf hu hd
  · obtain ⟨⟨e, he⟩, hd⟩ := hends k hk
    exact ⟨(h.grows hs).used (h.wf.used he), hd⟩

/-- The runs in which a failure is clean. -/
abbrev CleanRun (σ σ' : Sys) : Prop := Reach Step (fun σ a => σ.failsCleanly a = true) σ σ'

/-- What holds in every state of such a run. -/
structure Failing (σ : Sys) : Prop where
  ok : σ.Ok
  sealed : σ.inner.Sealed
  told : σ.Told

theorem failing_init (cfg : Config) : (init cfg).Failing where
  ok := ok_init cfg
  sealed := by
    obtain ⟨fc, fs, hb, -, -, -⟩ := Inner.begin_spec cfg
    intro he
    rw [inner_init, hb] at he
    cases he
  told := fun k hk => by cases hk

theorem Failing.run (h : σ.Failing) (r : CleanRun σ σ') : σ'.Failing :=
  Reach.invariant (I := Failing) r h fun hf hs hc =>
    ⟨hf.ok.step hs, hf.ok.step_sealed hf.sealed hs fun f ha hopen => by
      subst ha
      simpa [failsCleanly, hopen] using hc, hf.ok.step_told hf.told hs⟩

/-! ### After the error -/

/-- After an error, nothing is stored that was not. -/
theorem Ok.stored_after (h : σ.Ok) (he : σ.inner.error.isSome = true) (hs : Step σ a σ')
    (hc : σ.failsCleanly a = true) {sid : Nat} {e' : StreamEntry}
    (hl : σ'.inner.streams.lookup sid = some e') :
    ∃ e, σ.inner.streams.lookup sid = some e := by
  by_cases ha : a = .flush
  · subst ha; cases hs; exact ⟨e', hl⟩
  by_cases hh : ∃ f, a = .recv (.headers f)
  · obtain ⟨f, rfl⟩ := hh
    have ho : σ.opens f = false := by
      cases hn : σ.inner.error with
      | none => rw [hn] at he; cases he
      | some err => simpa [failsCleanly, hn] using hc
    rw [(hs.recv).2, inner_recv] at hl
    exact (headers_moves h ho).1.stored h.wf (fun k hk => by rw [hk]; rfl) hl
  by_cases hf : σ.fails a = true
  · rw [hs.lookup_fails hf sid] at hl; cases hl
  · exact (h.step_moves hs ha).stored_failed h.wf he (no_accept_kind hh) hl

/-- After an error, no request is published. -/
theorem Ok.opened_none (h : σ.Ok) (he : σ.inner.error.isSome = true) {f : Frame} {acts : Acts}
    (hc : σ.failsCleanly (.recv f) = true) (hd : (σ.inner.dispatch f).2 = .ok acts) :
    acts.opened = none := by
  cases f with
  | headers f =>
      have ho : σ.opens f = false := by
        cases hn : σ.inner.error with
        | none => rw [hn] at he; cases he
        | some err => simpa [failsCleanly, hn] using hc
      obtain ⟨v, hv, rfl⟩ := acts_of_ok hd
      exact if_neg ((headers_moves h ho).2 v hv)
  | ping f => cases hd; rfl
  | priority f => cases hd; rfl
  | streamError sid code detail => cases hd
  | rstStream f =>
      obtain ⟨v, -, rfl⟩ := acts_of_ok hd
      cases v <;> rfl
  | _ =>
      obtain ⟨v, -, rfl⟩ := acts_of_ok hd
      rfl

/-- A stream that is stored no more is told of nothing more. -/
theorem count_after {n : Nat} (h : σ.Failing) (r : CleanRun σ σ') {sid : Nat}
    (hu : σ.inner.Used sid) (hn : σ.inner.streams.lookup sid = none)
    (hk : σ.notified.count sid = n) : σ'.notified.count sid = n := by
  have hinv : σ'.Ok ∧ σ'.inner.Used sid ∧ σ'.inner.streams.lookup sid = none ∧
      σ'.notified.count sid = n := by
    refine Reach.invariant (I := fun τ : Sys => τ.Ok ∧ τ.inner.Used sid ∧
      τ.inner.streams.lookup sid = none ∧ τ.notified.count sid = n) r ⟨h.ok, hu, hn, hk⟩ ?_
    rintro τ a τ' ⟨hok, hu, hn, hk⟩ hs -
    have hgone : τ'.inner.streams.lookup sid = none := by
      by_cases ha : a = .flush
      · subst ha; cases hs; exact hn
      · exact (hok.step_moves hs ha).gone hok.wf hu hn
    refine ⟨hok.step hs, (hok.grows hs).used hu, hgone, ?_⟩
    obtain ⟨ns, hns, hends⟩ := hs.ends
    have h0 : ns.count sid = 0 := by
      refine List.count_eq_zero.mpr fun hmem => ?_
      obtain ⟨⟨e, he⟩, -⟩ := hends sid hmem
      rw [hn] at he
      cases he
    rw [hns, List.count_append, h0, hk, Nat.add_zero]
  exact hinv.2.2.2

/-- What a failure hands over, at the step that is one. -/
theorem Step.notified_fails (hs : Step σ a σ') (hf : σ.fails a = true) :
    σ'.notified = σ.notified ++ σ.inner.streams.keys.filter
      (fun k => (σ.inner.streams.lookup k).any (!·.state.isClosed)) := by
  unfold Step step at hs
  cases a with
  | call c =>
      dsimp only at hs
      split at hs
      · cases hs
        cases c with
        | fail exc message =>
          exact congrArg (σ.notified ++ ·) (Inner.fail_spec σ.inner exc message).1
        | _ => cases hf
      · cases hs
  | pump =>
      dsimp only at hs
      unfold pumpStep at hs
      unfold fails at hf
      cases hp : σ.pump with
      | failing e =>
        rw [hp] at hs
        cases hs
        exact congrArg (σ.notified ++ ·) (Inner.fail_spec σ.inner (some e) "").1
      | _ => rw [hp] at hf; cases hf
  | _ => cases hf

/-- A failure tells each live stream once. -/
theorem Failing.count_fails (h : σ.Failing) (hs : Step σ a σ') (hf : σ.fails a = true)
    (hn : σ.inner.error = none) (hc : σ.failsCleanly a = true) {sid : Nat}
    (hl : σ.inner.Live sid) : σ'.notified.count sid = 1 := by
  have hbefore : σ.notified.count sid = 0 :=
    List.count_eq_zero.mpr fun hm => (h.told sid hm).2 hl
  obtain ⟨e, he, hfin⟩ := hl
  have hpend : σ.endsPending = false := by
    cases a with
    | recv f => cases hf
    | _ => simpa [failsCleanly, hf, hn] using hc
  have hopen : e.state.isClosed = false := by
    have hmem := AList.mem_lookup_iff.mp he
    by_contra hcl
    have := List.any_eq_false.mp hpend _ hmem
    simp [hfin] at this
    exact hcl (by simpa using this)
  have hmem : sid ∈ σ.inner.streams.keys.filter
      (fun k => (σ.inner.streams.lookup k).any (!·.state.isClosed)) := by
    refine List.mem_filter.mpr ⟨AList.mem_keys.mp (Store.mem_of_lookup he), ?_⟩
    simp [he, hopen]
  have hnodup := σ.inner.streams.nodupKeys.filter
    (fun k => (σ.inner.streams.lookup k).any (!·.state.isClosed))
  rw [hs.notified_fails hf, List.count_append, hbefore, Nat.zero_add]
  exact List.count_eq_one_of_mem hnodup hmem

/-- **A failed connection is quiet.**  In every run whose failures are clean, from the step that
records an error on: no stream is live, none is stored anew, no request is published, and a
failure has told each stream live before it, once; an error recorded by no failure comes from
the GOAWAY reply, at a moment with no live stream. -/
theorem failed_is_quiet {σ₀ σ₁ : Sys} (r₀ : CleanRun (init cfg) σ₀) (hs : Step σ₀ a σ₁)
    (hc : σ₀.failsCleanly a = true) (hn : σ₀.inner.error = none)
    (he : σ₁.inner.error.isSome = true) (r : CleanRun σ₁ σ) :
    (σ.inner.numActive = 0 ∧
        ∀ sid e, σ.inner.streams.lookup sid = some e → e.finished = true) ∧
      (∀ sid e, σ.inner.streams.lookup sid = some e →
        ∃ e₁, σ₁.inner.streams.lookup sid = some e₁) ∧
      (∀ f acts, σ.failsCleanly (.recv f) = true → (σ.inner.dispatch f).2 = .ok acts →
        acts.opened = none) ∧
      if σ₀.fails a then ∀ sid, σ₀.inner.Live sid → σ.notified.count sid = 1
      else ∃ t : Inner, Moves (σ₀.kinds a) σ₀.inner t ∧ t.Quiet ∧ t.replyDue = true ∧
        Moves (σ₀.kinds a) t.maybeGoawayReply.1 σ₁.inner := by
  have h₀ := (failing_init cfg).run r₀
  have h₁ : σ₁.Failing := h₀.run (.single hs hc)
  have hlater : σ.Failing ∧ σ.inner.error.isSome = true ∧
      ∀ sid e, σ.inner.streams.lookup sid = some e →
        ∃ e₁, σ₁.inner.streams.lookup sid = some e₁ := by
    refine Reach.invariant (I := fun τ : Sys => τ.Failing ∧ τ.inner.error.isSome = true ∧
      ∀ sid e, τ.inner.streams.lookup sid = some e →
        ∃ e₁, σ₁.inner.streams.lookup sid = some e₁) r ⟨h₁, he, fun sid e he => ⟨e, he⟩⟩ ?_
    rintro τ b τ' ⟨hτ, heτ, hst⟩ hsτ hcτ
    refine ⟨hτ.run (.single hsτ hcτ), ((hτ.ok.grows hsτ).error heτ).symm ▸ heτ,
      fun sid e hl => ?_⟩
    obtain ⟨e', hl'⟩ := hτ.ok.stored_after heτ hsτ hcτ hl
    exact hst sid e' hl'
  obtain ⟨h, heσ, hstored⟩ := hlater
  refine ⟨h.ok.wf.quiet_iff.mp (h.sealed heσ), hstored, fun f acts hf hd => ?_, ?_⟩
  · exact h.ok.opened_none heσ hf hd
  · split
    · next hf =>
      intro sid hl
      have hu : σ₀.inner.Used sid := let ⟨_, he', _⟩ := hl; h₀.ok.wf.used he'
      exact count_after h₁ r ((h₀.ok.grows hs).used hu)
        (hs.lookup_fails hf sid) (h₀.count_fails hs hf hn hc hl)
    · next hf =>
      have ha : a ≠ .flush := by
        rintro rfl
        cases hs
        rw [show σ₀.flush.inner.error = σ₀.inner.error from rfl, hn] at he
        cases he
      have hk := no_fail_kind (a := a) (by simpa using hf)
      obtain ⟨t, hr, hd, hr'⟩ := (h₀.ok.step_moves hs ha).replied hn he hk
      exact ⟨t, hr, (hr.wf h₀.ok.wf).quiet_of_due hd, hd, hr'⟩

/-- The driver fails the connection, and the read pump dispatches a request. -/
def requestAfterFailure : List Action :=
  [.call (.fail none "closed"), .recv (.headers { streamId := 1, inRange := inRange_one, endStream := true })]

/-- A server that has failed takes a request. -/
theorem failed_takes_request : ¬ ∀ (cfg : Config) (σ : Sys), Reached cfg σ →
    σ.inner.error.isSome = true → σ.inner.numActive = 0 := by
  intro h
  obtain ⟨σ, r, hσ⟩ := reached_of_exec serverConfig requestAfterFailure
    (fun σ => σ.inner.error.isSome && σ.inner.numActive == 1) (by decide +kernel)
  simp only [Bool.and_eq_true, beq_iff_eq] at hσ
  have := h serverConfig σ r hσ.1
  omega

theorem failed_is_quiet_server : ∃ σ₀ σ₁ : Sys, CleanRun (init serverConfig) σ₀ ∧
    σ₀.inner.Live 1 ∧ Step σ₀ (.call (.fail none "closed")) σ₁ ∧
    σ₁.inner.numActive = 0 ∧ σ₁.notified.count 1 = 1 := by
  obtain ⟨σ₀, r, hσ⟩ := run_of_exec failsCleanly serverConfig
    [.recv (.headers { streamId := 1, endStream := true })]
    (fun σ => (σ.inner.streams.lookup 1).any (!·.finished) && σ.inner.error == none &&
      !σ.endsPending && (σ.call (.fail none "closed")).inner.error.isSome) (by decide +kernel)
  simp only [Bool.and_eq_true, beq_iff_eq, Bool.not_eq_true'] at hσ
  obtain ⟨⟨⟨hlive, hn⟩, hp⟩, he⟩ := hσ
  have hl : σ₀.inner.Live 1 := by
    rcases hs : σ₀.inner.streams.lookup 1 with _ | e
    · rw [hs] at hlive; cases hlive
    · rw [hs] at hlive
      exact ⟨e, hs, by simpa using hlive⟩
  have hs : Step σ₀ (.call (.fail none "closed")) (σ₀.call (.fail none "closed")) := rfl
  have hq := failed_is_quiet r hs (by simp [failsCleanly, hp]) hn he .refl
  rw [if_pos (show σ₀.fails (.call (.fail none "closed")) = true from rfl)] at hq
  exact ⟨σ₀, _, r, hl, rfl, hq.1.1, hq.2.2.2 1 hl⟩

end Sys

end Httpunk.H2
