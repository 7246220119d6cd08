import Httpunk.H2.Safety.Closed

/-!
# H2 — Safety — Serving

A server keeps no stream whose sending half has closed: the end of the response takes the
stream with it, an unread request included, and a reset takes it too.

* `Inner.Serving`: the sending half of every stored stream is open, but for those in `p`.
* `finishStream_gone`, `resetStream_gone`: what ends on a server leaves the store.
* `Sys.server_of_reached`: the invariant, in every state reached by a server.
-/

namespace Httpunk.H2

open Runs (Reach)
open Httpunk.H2.Inner

/-- The sending half of every stored stream is open, but for those in `p`. -/
def Inner.Serving (me : Inner) (p : Nat → Prop) : Prop :=
  ∀ k e, me.streams.lookup k = some e → e.state.isSendClosed = false ∨ p k

/-- The mark is one that moves the state of `k`. -/
def Mark.shifts (m : Mark) (k : Nat) : Prop :=
  m.closes k ∨ m = .begins k ∨ m = .requested k

variable {s s' : Inner} {m : Mark} {extra : Mark → Prop} {sid k : Nat} {p q : Nat → Prop}
  {e e' : StreamEntry}

theorem Inner.Serving.mono (h : s.Serving p) (hpq : ∀ k, p k → q k) : s.Serving q :=
  fun _ _ hk => (h _ _ hk).imp id (hpq _)

/-- Serving at one stream, and serving but for it. -/
theorem Inner.Serving.at (h : s.Serving fun k => p k ∨ k = sid) (ha : s.Serving (· ≠ sid)) :
    s.Serving p := by
  intro k e hk
  rcases h k e hk with hf | hp | rfl
  · exact .inl hf
  · exact .inr hp
  · exact .inl ((ha k e hk).resolve_right fun hne => hne rfl)

/-- One entry rewritten, its state kept. -/
theorem Inner.Serving.write (h : s.Serving p) (he : s.streams.lookup sid = some e)
    (hs : e'.state = e.state) : (s.setStream sid e').Serving p := by
  intro k e₁ hk
  rcases lookup_setStream_cases hk with ⟨rfl, rfl⟩ | ⟨-, hj⟩
  · rw [hs]
    exact h k e he
  · exact h k e₁ hj

/-- One entry rewritten, which is an exception. -/
theorem Inner.Serving.except (h : s.Serving p) (hp : p sid) : (s.setStream sid e').Serving p := by
  intro k e₁ hk
  rcases lookup_setStream_cases hk with ⟨rfl, -⟩ | ⟨-, hj⟩
  · exact .inr hp
  · exact h k e₁ hj

/-- A stream that is gone is no exception. -/
theorem Inner.serving_of_none (h : s.streams.lookup sid = none) : s.Serving (· ≠ sid) := by
  intro k e hk
  refine .inr ?_
  rintro rfl
  rw [h] at hk
  cases hk

/-- A stream whose sending half is open is none either. -/
theorem Inner.serving_of_open (h : s.streams.lookup sid = some e)
    (ho : e.state.isSendClosed = false) : s.Serving (· ≠ sid) := by
  intro k e' hk
  by_cases hks : k = sid
  · subst hks
    rw [h] at hk
    cases hk
    exact .inl ho
  · exact .inr hks

theorem Touch.serving (t : Touch s m s') (h : s.Serving p) (hm : ∀ k, m.shifts k → p k) :
    s'.Serving p := by
  cases t with
  | still ht =>
      intro k e' hk
      obtain ⟨e, he, hs⟩ := ht.back hk
      rw [hs.state]
      exact h k e he
  | turn _ _ _ => exact h.except (hm _ (.inl (.inr rfl)))
  | begins _ _ _ _ => exact h.except (hm _ (.inr (.inl rfl)))
  | ends _ _ => exact h.except (hm _ (.inl (.inl rfl)))
  | @finish sid e he hc hf =>
      intro k e' hk
      rw [lookup_finishSettled] at hk
      split at hk
      · next hks =>
        split at hk
        · cases hk
        · cases hk
          exact hks ▸ h sid e he
      · exact h k e' hk
  | @settle sid e n c r he =>
      intro k e' hk
      rw [lookup_keepStream] at hk
      split at hk
      · next hks =>
        split at hk
        · cases hk
        · cases hk
          exact hks ▸ h sid e he
      · exact h k e' hk
  | fill he _ => exact h.write he rfl
  | declare he => exact h.write he rfl
  | buffer he _ => exact h.write he rfl
  | written =>
      intro k e' hk
      obtain ⟨t, ht⟩ := lookup_creditAll { s with inflightCredit := [] } [] s.inflightCredit k
      obtain ⟨e, he, rfl⟩ := Option.map_eq_some_iff.mp (ht.symm.trans hk)
      exact h k e he
  | accepted _ _ _ hc =>
      intro k e' hk
      rcases lookup_setStream_cases (s := { s with lastRecvId := _ }) hk with
        ⟨rfl, rfl⟩ | ⟨-, hj⟩
      · exact .inl hc
      · exact h k e' hj
  | requested _ _ _ => exact h.except (hm _ (.inr (.inr rfl)))
  | _ => exact h

theorem Touches.serving (r : Touches extra s s') (h : s.Serving p)
    (hm : ∀ m, extra m → ∀ k, m.shifts k → p k) : s'.Serving p := by
  refine Reach.invariant (I := fun t : Inner => t.Serving p) r h fun {s m s'} hs t hk => ?_
  refine t.serving hs fun k hc => hk.elim (fun hcom => ?_) fun he => hm m he k hc
  rcases hc with (rfl | rfl) | rfl | rfl <;> cases hcom

/-- A run that moves no state. -/
theorem Touches.serving_nothing (r : Touches Mark.nothing s s') (h : s.Serving p) :
    s'.Serving p :=
  r.serving h fun _ hm => hm.elim

theorem Still.serving (h : Still s s') (hs : s.Serving p) : s'.Serving p :=
  Touches.serving_nothing (Touches.still h) hs

namespace Inner

variable {me : Inner}

/-! ### What ends is gone -/

/-- A stream that has finished leaves when it is reclaimed. -/
theorem reclaim_gone (hf : ∀ e, me.streams.lookup sid = some e → e.finished = true) :
    (me.reclaimStreamAccounting sid).streams.lookup sid = none := by
  unfold reclaimStreamAccounting
  split
  · next hn => exact hn
  · next e he =>
    have hl : (me.reclaimEntry sid e).streams.lookup sid =
        some { e with dataBudgetCharged := 0, recvUnreleased := 0, recvReclaimed := true } := by
      rw [lookup_reclaimEntry, if_pos rfl]
    rw [maybeRemoveSettled_of hl, if_pos (by simp [hf e he])]
    exact AList.lookup_erase _ _

/-- A closed stream that is reclaimed and given to `close_stream` is gone. -/
theorem reclaim_close_gone {m : Inner} (hs : m.streams = (me.reclaimStreamAccounting sid).streams)
    (hc : ∀ e, me.streams.lookup sid = some e → e.state.isClosed = true) :
    (m.closeStream sid).1.streams.lookup sid = none := by
  rcases hr : (me.reclaimStreamAccounting sid).streams.lookup sid with _ | e'
  · unfold closeStream
    rw [hs, hr]
    dsimp only
    rw [hs, hr]
  · obtain ⟨e, he, rfl⟩ := lookup_reclaimStreamAccounting hr
    refine lookup_closeStream (e := { e with
      dataBudgetCharged := 0, recvUnreleased := 0, recvReclaimed := true })
      (by rw [hs]; exact hr) (hc e he) ?_ rfl rfl
    by_contra hf
    rw [reclaim_gone fun e₁ h₁ => by rw [he] at h₁; cases h₁; simpa using hf] at hr
    cases hr

/-- **A stream that is reset is gone.** -/
theorem resetStream_gone (me : Inner) (sid : Nat) (reason : Reason) (initiator : Initiator) :
    (me.resetStream sid reason initiator).1.streams.lookup sid = none := by
  unfold resetStream
  split
  · next hn => exact hn
  · next e he =>
    have hset : ∀ st : State, st.isClosed = true → ∀ e',
        (me.setStream sid { e with state := st }).streams.lookup sid = some e' →
        e'.state.isClosed = true := fun st hst e' h' => by
      rw [lookup_setStream, if_pos rfl] at h'
      cases h'
      exact hst
    split
    · next hc =>
      have hst : (if e.state.isReset then e.state
          else e.state.setReset sid reason initiator).isClosed = true := by
        split
        · exact hc
        · rfl
      generalize (if e.state.isReset then e.state
        else e.state.setReset sid reason initiator) = st at hst ⊢
      dsimp only
      split
      · rw [enqueueResetExpiration_streams]
        exact reclaim_close_gone rfl (hset st hst)
      · exact reclaim_close_gone rfl (hset st hst)
    · dsimp only
      rw [enqueueResetExpiration_streams]
      exact reclaim_close_gone rfl (hset _ rfl)

/-- **A stream whose sending half ends on a server is gone.** -/
theorem finishStream_gone (hr : me.role = .server) :
    (me.finishStream sid).1.streams.lookup sid = none := by
  have hrole : (me.closeStream sid).1.role = .server :=
    (@closeStream_touches Mark.nothing me sid).keeps.role.trans hr
  unfold finishStream
  dsimp only
  rw [hrole]
  dsimp only
  split
  · next hn => exact hn
  · next e he =>
    split
    · exact resetStream_gone _ sid .noError .user
    · next hc =>
      refine reclaim_gone fun e' he' => ?_
      rw [he] at he'
      cases he'
      exact (closeStream_tight me sid sid e he (by simpa using hc)).resolve_right fun h => h rfl

/-! ### Frames -/

/-- A stream whose sending half is open is not touched by `close_stream`. -/
theorem closeStream_of_open (he : me.streams.lookup sid = some e)
    (ho : e.state.isSendClosed = false) : me.closeStream sid = (me, .none) := by
  have hc : e.state.isClosed = false := by
    by_contra hc
    rw [State.isSendClosed_of_isClosed (by simpa using hc)] at ho
    cases ho
  simp only [closeStream, he, hc, Bool.not_false, Bool.true_or, if_true]

theorem closeStream_serving (me : Inner) (sid : Nat) (hs : me.Serving p) :
    (me.closeStream sid).1.Serving p :=
  Touches.serving_nothing (closeStream_touches me sid) hs

/-- A run that moves the state of one stream at most, and leaves that one as open as it was. -/
theorem Serving.own (hs : me.Serving p) (hr : Touches extra me s)
    (hm : ∀ m, extra m → ∀ k, m.shifts k → k = sid)
    (hat : me.Serving (· ≠ sid) → s.Serving (· ≠ sid)) : s.Serving p := by
  have hall : s.Serving fun k => p k ∨ k = sid :=
    hr.serving (hs.mono fun _ => .inl) fun m hx k hc => .inr (hm m hx k hc)
  by_cases hp : p sid
  · exact hall.mono fun k hk => hk.elim id fun h => h ▸ hp
  · refine hall.at (hat fun k e hk => ?_)
    exact (hs k e hk).imp id fun hpk hks => hp (hks ▸ hpk)

theorem Serving.open_ (hs : me.Serving (· ≠ sid)) (he : me.streams.lookup sid = some e) :
    e.state.isSendClosed = false := (hs sid e he).resolve_right fun h => h rfl

theorem shifts_own {m : Mark} (hm : m = .turn sid ∨ m = .ends sid ∨ m = .begins sid)
    (hc : m.shifts k) : k = sid := by
  rcases hm with rfl | rfl | rfl <;> rcases hc with (h | h) | h | h <;> cases h <;> rfl

theorem fillMarks_still {f : Data} {m : Mark} (hm : fillMarks f m) : ¬m.shifts k := by
  rcases hm with rfl | rfl <;> rintro ((h | h) | h | h) <;> cases h

theorem openMarks_shift (hm : openMarks sid m) (hc : m.shifts k) : k = sid := by
  rcases hm with rfl | (rfl | rfl) | (rfl | rfl)
  · rcases hc with (h | h) | h | h <;> cases h
  · rcases hc with (h | h) | h | h <;> cases h
  · exact shifts_own (.inr (.inr rfl)) hc
  · exact shifts_own (.inl rfl) hc
  · exact shifts_own (.inr (.inl rfl)) hc

theorem dataMarks_shift {f : Data} (hm : dataMarks f m) (hc : m.shifts k) : k = f.streamId := by
  rcases hm with hm | ⟨-, rfl⟩
  · exact absurd hc (fillMarks_still hm)
  · exact shifts_own (.inr (.inl rfl)) hc

/-- The end of a message received leaves the sending half as it was. -/
theorem closeReceived_serving {m : Inner} {st : State} (_he : m.streams.lookup sid = some e)
    (ho : e.state.isSendClosed = false) (hst : e.state.recvClose = .ok st) :
    ((m.setStream sid { e with state := st }).closeStream sid).1.Serving (· ≠ sid) := by
  have hopen : st.isSendClosed = false := State.recvClose_isSendClosed hst ho
  have hl : (m.setStream sid { e with state := st }).streams.lookup sid =
      some { e with state := st } := AList.lookup_insert _
  rw [closeStream_of_open hl hopen]
  exact serving_of_open hl hopen

theorem applyContentLength_serving {f : Headers} {r : Option Err}
    (h : me.applyContentLength sid f = (s, r)) (hs : me.Serving p) : s.Serving p := by
  rw [← show (me.applyContentLength sid f).1 = s from congrArg Prod.fst h]
  unfold applyContentLength
  split
  · exact hs
  · next e he =>
    dsimp only
    repeat' split
    all_goals first | exact hs | exact hs.write he rfl

/-- A new request can be answered, or is gone. -/
theorem recvRequest_serving {f : Headers} (hn : me.streams.lookup f.streamId = none)
    (spare : Bool) (before : Nat) (flags : Flags) :
    (me.recvRequest f spare before flags).1.Serving (· ≠ f.streamId) := by
  have hnone : me.Serving (· ≠ f.streamId) := serving_of_none hn
  unfold recvRequest
  dsimp only
  split
  · exact hnone
  · split
    · exact hnone
    · split
      · exact hnone
      · split
        · exact hnone
        · split
          · exact hnone
          · next st hst =>
            have ho : st.isSendClosed = false := State.recvOpen_isSendClosed hst rfl
            have hl : (({ me with lastRecvId := f.streamId }).insertRequest f.streamId
                st).streams.lookup f.streamId = some { StreamEntry.new me.peer.initialWindowSize
                  me.recvInit false with state := st } := AList.lookup_insert _
            have hins : (({ me with lastRecvId := f.streamId }).insertRequest f.streamId
                st).Serving (· ≠ f.streamId) := serving_of_open hl ho
            split
            · next h => exact applyContentLength_serving h hins
            · next m h =>
              have hm := applyContentLength_serving h hins
              obtain ⟨m', r, hr, -, hok, -⟩ := applyContentLength_spec f hl
              rw [h] at hr
              cases hr
              have hlm := (hok rfl).2
              split
              · rcases (rejectOversizeRequest_spec m f.streamId).2 with
                  ⟨m₁, fl, he, hgone⟩ | ⟨err, he, -⟩
                · rw [he]
                  exact serving_of_none (hgone _ hlm rfl rfl rfl)
                · rw [he]
                  exact hm
              · exact hm

theorem recvHead_serving (f : Headers) (before : Nat) (he : me.streams.lookup f.streamId = some e)
    (ho : e.state.isSendClosed = false) :
    (me.recvHead f e before).1.Serving (· ≠ f.streamId) := by
  unfold recvHead
  dsimp only
  split
  · exact serving_of_open he ho
  · split
    · exact serving_of_open he ho
    · next st hst =>
      have hl : (me.setStream f.streamId { e with state := st }).streams.lookup f.streamId =
          some { e with state := st } := AList.lookup_insert _
      have hset := serving_of_open hl (State.recvOpen_isSendClosed hst ho)
      split
      · next h => exact applyContentLength_serving h hset
      · next m h =>
        have hm := applyContentLength_serving h hset
        repeat' split
        all_goals first | exact hm | exact closeStream_serving m f.streamId hm

theorem recvTrailers_serving (f : Headers) (before : Nat)
    (he : me.streams.lookup f.streamId = some e) (ho : e.state.isSendClosed = false) :
    (me.recvTrailers f e before).1.Serving (· ≠ f.streamId) := by
  unfold recvTrailers
  dsimp only
  split
  · exact serving_of_open he ho
  · split
    · exact serving_of_open he ho
    · next st hst =>
      split
      · exact serving_of_open (AList.lookup_insert _) (State.recvClose_isSendClosed hst ho)
      · exact closeReceived_serving he ho hst

/-- A HEADERS frame leaves its own stream open to send. -/
theorem recvHeaders_serving (hr : me.role = .server) (f : Headers) (spare : Bool)
    (hs : me.Serving (· ≠ f.streamId)) :
    (me.recvHeaders f spare).1.Serving (· ≠ f.streamId) := by
  unfold recvHeaders
  dsimp only
  split
  · next hn =>
    have hin := inResetStore_still me f.streamId
    unfold recvHeadersUnknown
    dsimp only
    split
    · exact hin.serving hs
    · rw [hin.role, hr]
      exact recvRequest_serving (hin.absent hn) spare _ _
  · next e he =>
    have ho := hs.open_ he
    split
    · exact hs
    · split
      · next hc =>
        rw [State.isSendClosed_of_isClosed hc] at ho
        cases ho
      · split
        · exact recvHead_serving f _ he ho
        · exact recvTrailers_serving f _ he ho

theorem DataOutcome.serving {f : Data} {r : Inner × Except Err RecvDataVerdict}
    (h : DataOutcome me f r) (hs : me.Serving (· ≠ f.streamId)) :
    r.1.Serving (· ≠ f.streamId) := by
  have calm : ∀ {s}, Touches (fillMarks f) me s → s.Serving (· ≠ f.streamId) := fun h =>
    h.serving hs fun m hm k hc => absurd hc (fillMarks_still hm)
  cases h with
  | broken h _ => exact calm h
  | refused h => exact calm h
  | ignored h _ => exact h.serving_nothing hs
  | empty h _ _ => exact calm h.touches
  | taken h _ _ => exact calm h.touches
  | ended h _ he _ hst => exact closeReceived_serving he ((calm h.touches).open_ he) hst

theorem recvReset_serving (me : Inner) (f : RstStream) (hs : me.Serving (· ≠ f.streamId)) :
    (me.recvReset f).1.Serving (· ≠ f.streamId) := by
  have hon : ∀ (m : Inner) e, m.Serving (· ≠ f.streamId) →
      (m.recvResetOn f e).1.Serving (· ≠ f.streamId) := fun m e hm => by
    unfold recvResetOn
    dsimp only
    split
    · exact hm
    · refine serving_of_none (reclaim_close_gone rfl fun e' he' => ?_)
      rw [lookup_setStream, if_pos rfl] at he'
      cases he'
      exact State.isClosed_recvReset _ _ _
  unfold recvReset
  dsimp only
  split
  · exact hs
  · split
    · split
      · exact hs
      · split <;> exact hs
    · split
      · split
        · exact hs
        · exact hon _ _ hs
      · exact hon _ _ hs

/-- **A frame leaves every sending half open** that was. -/
theorem dispatch_serving (h : me.Wf) (hr : me.role = .server) (hs : me.Serving p) (f : Frame) :
    (me.dispatch f).1.Serving p := by
  cases f with
  | headers f =>
      exact hs.own (recvHeaders_outcome h f (me.role = .server)).touches
        (fun m hm k => openMarks_shift hm) (recvHeaders_serving hr f _)
  | data f =>
      have ho := recvData_outcome h f
      exact hs.own ho.touches (fun m hm k => dataMarks_shift hm) ho.serving
  | windowUpdate f => exact (recvWindowUpdate_still me f).serving hs
  | settings f => exact (recvSettings_still me f).serving hs
  | ping f => exact (recvPing_still me f).serving hs
  | goAway f =>
      simp only [dispatch, recvGoAway]
      split
      · exact hs
      · rw [hr]
        exact hs
  | rstStream f =>
      refine hs.own (recvReset_touches me f) ?_ (recvReset_serving me f)
      rintro m rfl k hc
      exact shifts_own (.inr (.inl rfl)) hc
  | priority _ => exact hs
  | streamError _ _ _ => exact hs

/-! ### Calls -/

theorem endMarks_shift {handle : Option Nat} (hm : endMarks sid handle m) (hc : m.shifts k) :
    k = sid := shifts_own (hm.imp id fun h => .inl h.2) hc

/-- The end of a send on a server takes its stream. -/
theorem SendEnds.serving {r : Inner × Except Err SendVerdict} (h : SendEnds sid me r)
    (hr : me.role = .server) (hs : me.Serving (· ≠ sid)) : r.1.Serving (· ≠ sid) := by
  rcases h with ⟨h, -⟩ | ⟨m, n, flags, hm, rfl⟩
  · exact h.serving hs
  · exact serving_of_none (finishStream_gone (hm.keeps.role.trans hr))

theorem Buffered.serving {r : Inner × Except Err SendVerdict} (h : Buffered sid me r)
    (hr : me.role = .server) (hs : me.Serving (· ≠ sid)) : r.1.Serving (· ≠ sid) := by
  rcases h with h | ⟨n, s₁, s₂, s₃, s₄, h₁, hb, h₂, hc, h₃⟩
  · exact h.serving hr hs
  · have hbuf : ∀ k, ¬(Mark.buffer sid n).shifts k := fun k hk => by
      rcases hk with (hk | hk) | hk | hk <;> cases hk
    have hcred : ∀ k, ¬(Mark.credit sid n).shifts k := fun k hk => by
      rcases hk with (hk | hk) | hk | hk <;> cases hk
    have t₂ := hb.serving (h₁.serving hs) fun k hm => absurd hm (hbuf k)
    refine h₃.serving ?_ (hc.serving (h₂.serving t₂) fun k hm => absurd hm (hcred k))
    exact hc.keeps.role.trans (h₂.role.trans (hb.keeps.role.trans (h₁.role.trans hr)))

theorem sendResponseHead_serving (sid status : Nat) (fields : Fields) (endStream : Bool)
    (date : String) (hr : me.role = .server) (hs : me.Serving (· ≠ sid)) :
    (me.sendResponseHead sid status fields endStream date).1.Serving (· ≠ sid) := by
  rcases sendResponseHead_ends me sid status fields endStream date with
    h | ⟨⟨e, st, s, he, hst, hs', rfl⟩, -⟩
  · exact h.serving hr hs
  · exact hs'.serving (serving_of_open (AList.lookup_insert _) (State.sendOpen_isSendClosed hst).2)

theorem acloseBody_serving (me : Inner) (sid : Nat) (hs : me.Serving (· ≠ sid)) :
    (me.acloseBody sid).1.Serving (· ≠ sid) := by
  unfold acloseBody
  dsimp only
  split
  · exact hs
  · split
    · exact closeStream_serving _ sid
        (Touches.serving_nothing (reclaimStreamAccounting_touches me sid) hs)
    · exact serving_of_none (resetStream_gone _ _ _ _)

/-- **A call leaves every sending half open** that was, or takes its stream. -/
theorem call_serving (h : me.Wf) (hr : me.role = .server) (hs : me.Serving p) (c : Call)
    (hopen : ∀ request eos isHead, c = .openStream request eos isHead → me.role = .client) :
    (me.call c).1.Serving p := by
  have calm : (∀ m, me.callMarks c m → ∀ k, ¬m.shifts k) → (me.call c).1.Serving p := fun hc =>
    (call_touches h c hopen).serving hs fun m hm k hk => absurd hk (hc m hm k)
  cases c with
  | tryClaimSlot | releaseSlot | creditWritten =>
      exact calm fun m hm k hk => by
        cases hm
        rcases hk with (hk | hk) | hk | hk <;> cases hk
  | openStream _ _ _ =>
      have := hopen _ _ _ rfl
      rw [hr] at this
      cases this
  | sendData sid data offset eos =>
      have hb := sendData_buffered h sid data offset eos
      refine hs.own hb.touches (fun m hm k hc => ?_) (hb.serving hr)
      rcases hm with ⟨n, rfl | rfl⟩ | hm
      · rcases hc with (hc | hc) | hc | hc <;> cases hc
      · rcases hc with (hc | hc) | hc | hc <;> cases hc
      · exact endMarks_shift hm hc
  | sendTrailers sid trailers =>
      have he := sendTrailers_ends me sid trailers
      exact hs.own he.touches (fun m hm k => endMarks_shift hm) (he.serving hr)
  | sendResponseHead sid status fields eos date =>
      exact hs.own (sendResponseHead_touches me sid status fields eos date)
        (fun m hm k => endMarks_shift hm) (sendResponseHead_serving sid status fields eos date hr)
  | resetStream sid reason initiator =>
      refine hs.own (resetStream_touches me sid reason initiator) ?_ fun _ =>
        serving_of_none (resetStream_gone me sid reason initiator)
      rintro m rfl k hc
      exact shifts_own (.inr (.inl rfl)) hc
  | acloseBody sid =>
      refine hs.own (acloseBody_touches me sid) ?_ (acloseBody_serving me sid)
      rintro m rfl k hc
      exact shifts_own (.inr (.inl rfl)) hc
  | fail exc message =>
      intro k e hk
      rw [show (me.call (.fail exc message)).1.streams.lookup k = none from
        (me.fail_spec exc message).2 k] at hk
      cases hk
  | _ => exact calm fun m hm => hm.elim

/-- The error reset that is made takes its stream. -/
theorem resetOnError_gone {v : ResetVerdict} {reason : Reason}
    (hv : (me.resetOnError sid reason).2 = .ok v) :
    (me.resetOnError sid reason).1.streams.lookup sid = none := by
  unfold resetOnError at hv ⊢
  dsimp only at hv ⊢
  split at hv
  · cases hv
  · next hlim =>
    rw [if_neg hlim]
    split
    · exact resetStream_gone _ _ _ _
    · next hn =>
      dsimp only
      split
      · rw [streams_emit, enqueueResetExpiration_streams]
        exact hn
      · exact hn

end Inner

/-! ### The driver -/

namespace Sys

variable {σ σ' : Sys} {a : Action} {cfg : Config}

/-- A server stores streams it can still send on. -/
def Serves (σ : Sys) : Prop := σ.inner.Serving fun _ => False

theorem serves_init (cfg : Config) : (init cfg).Serves := by
  obtain ⟨fc, fs, hb, -, -, -⟩ := Inner.begin_spec cfg
  unfold Serves
  rw [inner_init, hb]
  intro k e hk
  cases hk

theorem serves_step (h : σ.Ok) (hr : σ.inner.role = .server) (hv : σ.Serves)
    (hs : Step σ a σ') : σ'.Serves := by
  have hfail : ∀ exc message, (σ.inner.fail exc message).1.Serving fun _ => False :=
    fun exc message k e hk => by
      rw [show (σ.inner.fail exc message).1.streams.lookup k = none from
        (σ.inner.fail_spec exc message).2 k] at hk
      cases hk
  unfold Step step at hs
  cases a with
  | recv f =>
      dsimp only at hs
      split at hs
      · cases hs
        unfold Serves
        rw [recv_inner]
        exact dispatch_serving h.wf hr hv f
      · cases hs
  | raised e =>
      dsimp only at hs
      split at hs <;> cases hs
      exact hv
  | pump =>
      dsimp only at hs
      unfold pumpStep at hs
      cases hp : σ.pump with
      | resetting sid reason =>
          rw [hp] at hs
          dsimp only at hs
          split at hs
          · next v hok =>
            cases hs
            refine Inner.Serving.own hv (resetOnError_touches σ.inner sid reason) ?_ fun _ =>
              serving_of_none (resetOnError_gone hok)
            rintro m rfl k hk
            exact shifts_own (.inr (.inl rfl)) hk
          · next err hno =>
            cases hs
            obtain ⟨hsame, -⟩ := resetOnError_refused hno
            change (σ.inner.resetOnError sid reason).1.Serving fun _ => False
            rw [hsame]
            exact hv
      | closing reason debugData e =>
          rw [hp] at hs
          cases hs
          exact (Still.emit σ.inner _).serving hv
      | failing e =>
          rw [hp] at hs
          cases hs
          exact hfail _ _
      | running => rw [hp] at hs; cases hs
      | done => rw [hp] at hs; cases hs
  | reply =>
      dsimp only at hs
      split at hs <;> cases hs
      exact (maybeGoawayReply_still σ.inner).serving hv
  | call c =>
      dsimp only at hs
      split at hs
      · next hal =>
        cases hs
        refine call_serving h.wf hr hv c ?_
        rintro request eos isHead rfl
        simpa [allowed] using hal
      · cases hs
  | flush =>
      cases hs
      exact hv
  | tick d =>
      cases hs
      exact hv
  | rehash m =>
      dsimp only at hs
      split at hs
      · next hm =>
        cases hs
        exact (Still.perm σ.inner hm).serving hv
      · cases hs

/-- What holds of a server between any two steps. -/
structure Server (σ : Sys) : Prop where
  ok : σ.Ok
  role : σ.inner.role = .server
  serves : σ.Serves

theorem Server.step (h : σ.Server) (hs : Step σ a σ') : σ'.Server where
  ok := h.ok.step hs
  role := (h.ok.grows hs).role.trans h.role
  serves := serves_step h.ok h.role h.serves hs

theorem server_init (hr : cfg.role = .server) : (init cfg).Server :=
  ⟨ok_init cfg, (role_init cfg).trans hr, serves_init cfg⟩

/-- **A server's streams can be sent on** in every state reached. -/
theorem server_of_reached (r : Reached cfg σ) (hr : cfg.role = .server) : σ.Server :=
  Reach.invariant (I := Server) r (server_init hr) fun h hs _ => h.step hs

end Sys

end Httpunk.H2
