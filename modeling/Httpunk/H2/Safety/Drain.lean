import Httpunk.H2.Driver.Counts
import Httpunk.H2.Driver.Terms
import Httpunk.H2.Safety.Wakes

/-!
# H2 — Safety — Drain

The end of a graceful shutdown.  A server asks its accept loop to stop once the final GOAWAY has
been queued and no stream is live, whichever comes last; and it answers a peer's GOAWAY once,
when it is idle.

* `Drains`: a call raises the signal just when it is the one that drains the connection.
* `closeStream_drains`: every end of a stream passes through the same check.
-/

namespace Httpunk.H2

open Runs (Reach)
open Httpunk.H2.Inner

/-- The final GOAWAY has been queued, and no stream is counted as live. -/
def Inner.Drained (me : Inner) : Prop := me.shutdownFinal = true ∧ me.numActive = 0

instance (me : Inner) : Decidable me.Drained := by unfold Inner.Drained; infer_instance

/-- The signal is raised just when the connection is drained and was not, and it stays so. -/
structure Drains (me s : Inner) (stop : Bool) : Prop where
  stops : stop = true ↔ s.Drained ∧ ¬me.Drained
  kept : me.Drained → s.Drained

variable {me s t : Inner} {a b : Bool} {sid : Nat} {e : StreamEntry} {flags : Flags}

theorem drained_iff (hf : s.shutdownFinal = me.shutdownFinal) (hn : s.numActive = me.numActive) :
    s.Drained ↔ me.Drained := by rw [Inner.Drained, Inner.Drained, hf, hn]

theorem Drains.same (hf : s.shutdownFinal = me.shutdownFinal) (hn : s.numActive = me.numActive) :
    Drains me s false := by
  have hd := drained_iff hf hn
  exact ⟨by simp [hd], hd.mpr⟩

theorem Drains.still (h : s.counts = me.counts) : Drains me s false :=
  .same (congrArg Counts.shutdownFinal h) (congrArg Counts.numActive h)

theorem Drains.refl (me : Inner) : Drains me me false := .same rfl rfl

theorem Drains.trans (h₁ : Drains me s a) (h₂ : Drains s t b) : Drains me t (a || b) := by
  refine ⟨?_, fun h => h₂.kept (h₁.kept h)⟩
  rw [Bool.or_eq_true, h₁.stops, h₂.stops]
  constructor
  · rintro (⟨hs, hm⟩ | ⟨ht, hs⟩)
    · exact ⟨h₂.kept hs, hm⟩
    · exact ⟨ht, fun hm => hs (h₁.kept hm)⟩
  · rintro ⟨ht, hm⟩
    by_cases hs : s.Drained
    · exact .inl ⟨hs, hm⟩
    · exact .inr ⟨ht, hs⟩

theorem Drains.after (h : Drains me s a) (hf : t.shutdownFinal = s.shutdownFinal)
    (hn : t.numActive = s.numActive) : Drains me t a := by
  have := h.trans (.same hf hn)
  rwa [Bool.or_false] at this

theorem Drains.before (h : Drains s t b) (hf : s.shutdownFinal = me.shutdownFinal)
    (hn : s.numActive = me.numActive) : Drains me t b := by
  have := (Drains.same hf hn).trans h
  rwa [Bool.false_or] at this

/-- A connection that is not final drains nothing. -/
theorem Drains.early (hm : me.shutdownFinal = false) (hs : s.shutdownFinal = false) :
    Drains me s false := by
  refine ⟨by simp [Inner.Drained, hs], fun h => ?_⟩
  rw [Inner.Drained, hm] at h
  cases h.1

@[simp] theorem Flags.or_stopAccepting (f g : Flags) :
    (f ||| g).stopAccepting = (f.stopAccepting || g.stopAccepting) := rfl

@[simp] theorem Flags.none_stopAccepting : Flags.none.stopAccepting = false := rfl

namespace Inner

@[simp] theorem stopAccepting_wakeFlag (me : Inner) (before : Nat) :
    (me.wakeFlag before).stopAccepting = false := by
  unfold wakeFlag
  split <;> rfl

@[simp] theorem stopAccepting_queueWakeFlag (me : Inner) :
    me.queueWakeFlag.stopAccepting = false := by
  unfold queueWakeFlag
  split <;> rfl

@[simp] theorem stopAccepting_leaveSendQueue (me : Inner) (sid : Nat) :
    (me.leaveSendQueue sid).2.stopAccepting = false := by
  unfold leaveSendQueue
  dsimp only
  repeat' split
  all_goals first | rfl | exact stopAccepting_queueWakeFlag _

@[simp] theorem stopAccepting_leaveCapacityQueue (me : Inner) (sid : Nat) :
    (me.leaveCapacityQueue sid).2.stopAccepting = false := by
  unfold leaveCapacityQueue
  dsimp only
  repeat' split
  all_goals first | rfl | exact stopAccepting_queueWakeFlag _

@[simp] theorem stopAccepting_yieldSendTurn (me : Inner) (sid : Nat) :
    (me.yieldSendTurn sid).2.stopAccepting = false := stopAccepting_queueWakeFlag _

@[simp] theorem stopAccepting_afterFrame (me : Inner) (sid : Nat) (e : StreamEntry)
    (n want : Nat) : (me.afterFrame sid e n want).2.stopAccepting = false := by
  unfold afterFrame
  repeat' split
  all_goals first | rfl | exact stopAccepting_leaveSendQueue _ _

@[simp] theorem stopAccepting_maybeGoawayReply (me : Inner) :
    me.maybeGoawayReply.2.stopAccepting = false := by
  unfold maybeGoawayReply
  split <;> rfl

theorem stopAccepting_onStreamGone (hr : me.role = .server) :
    me.onStreamGone.2.stopAccepting = true ↔ me.Drained := by
  unfold onStreamGone Drained
  dsimp only
  rw [Flags.or_stopAccepting, stopAccepting_maybeGoawayReply, Bool.or_false]
  split
  · next h => exact ⟨fun _ => h.2, fun _ => rfl⟩
  · next h => exact ⟨fun hf => (by cases hf), fun hd => absurd ⟨hr, hd⟩ h⟩

/-! ### The end of a stream -/

/-- A stream that has not finished is counted. -/
def Tallied (me : Inner) : Prop :=
  ∀ k e, me.streams.lookup k = some e → e.finished = false → 1 ≤ me.numActive

theorem Wf.tallied (h : me.Wf) : me.Tallied := fun k e he hf => by
  have hle := Store.weight_le_total (w := activeOf) he
  rw [h.active]
  simpa [activeOf, hf] using hle

theorem Tallied.alike (h : me.Tallied) (ha : Alike me s) : s.Tallied := fun k e' he hf => by
  obtain ⟨e, hk, hs⟩ := ha.back he
  rw [ha.numActive]
  exact h k e hk (hs.finished.symm.trans hf)

theorem Tallied.set {e' : StreamEntry} (h : me.Tallied) (he : me.streams.lookup sid = some e)
    (hf : e'.finished = e.finished) : (me.setStream sid e').Tallied := fun k e₁ hk h₁ => by
  rcases lookup_setStream_cases hk with ⟨rfl, rfl⟩ | ⟨-, hj⟩
  · exact h k e he (hf.symm.trans h₁)
  · exact h k e₁ hj h₁

/-- **The end of a stream raises the signal just when it was the last**, and the final GOAWAY
has been queued. -/
theorem closeStream_drains (hr : me.role = .server) (ha : me.Tallied) (sid : Nat) :
    Drains me (me.closeStream sid).1 (me.closeStream sid).2.stopAccepting := by
  rcases he : me.streams.lookup sid with _ | e
  · simp only [closeStream, he]
    exact .refl me
  · by_cases h : e.state.isClosed = true ∧ e.finished = false
    · have hc := counts_finished he h.1 h.2
      have hf : (me.closeStream sid).1.shutdownFinal = me.shutdownFinal :=
        congrArg Counts.shutdownFinal hc
      have hn : (me.closeStream sid).1.numActive = me.numActive - 1 :=
        congrArg Counts.numActive hc
      have hpos := ha sid e he h.2
      have hflag : (me.closeStream sid).2.stopAccepting = true ↔
          (me.closeStream sid).1.Drained := by
        have hq : ∀ m : Inner, m.onStreamGone.1.Drained ↔ m.Drained := fun m =>
          drained_iff (congrArg Counts.shutdownFinal (counts_onStreamGone m))
            (congrArg Counts.numActive (counts_onStreamGone m))
        have hrole : (((me.finishEntry sid e).leaveSendQueue sid).1.leaveCapacityQueue sid).1.role =
            .server := by
          rw [(leaveCapacityQueue_alike _ sid).role, (leaveSendQueue_alike _ sid).role]
          exact hr
        simp only [closeStream, he, h.1, h.2, Bool.not_true, Bool.or_false, Bool.false_eq_true,
          if_false, Flags.or_stopAccepting, stopAccepting_leaveSendQueue,
          stopAccepting_leaveCapacityQueue]
        rw [hq, show (if e.holdsSlot = true then ({ slotFreed := true } : Flags)
          else .none).stopAccepting = false by split <;> rfl, Bool.false_or]
        refine stopAccepting_onStreamGone ?_
        split <;> exact hrole
      have hlive : ¬me.Drained := fun hd => by
        have := hd.2
        omega
      exact ⟨by rw [hflag]; exact ⟨fun hd => ⟨hd, hlive⟩, And.left⟩, fun hd => absurd hd hlive⟩
    · have hs : (!e.state.isClosed || e.finished) = true := by
        rw [Bool.or_eq_true, Bool.not_eq_true']
        by_contra hn
        simp only [not_or, Bool.not_eq_false, Bool.not_eq_true] at hn
        exact h hn
      simp only [closeStream, he, hs, if_true]
      exact .refl me

theorem role_reclaim (me : Inner) (sid : Nat) :
    (me.reclaimStreamAccounting sid).role = me.role :=
  congrArg Terms.role (terms_reclaimStreamAccounting me sid)

theorem numActive_reclaim (me : Inner) (sid : Nat) :
    (me.reclaimStreamAccounting sid).numActive = me.numActive :=
  congrArg Counts.numActive (counts_reclaimStreamAccounting me sid)

theorem shutdownFinal_reclaim (me : Inner) (sid : Nat) :
    (me.reclaimStreamAccounting sid).shutdownFinal = me.shutdownFinal :=
  congrArg Counts.shutdownFinal (counts_reclaimStreamAccounting me sid)

/-- Where an entry comes from, over a run of common touches. -/
theorem origin {k : Nat} {e' : StreamEntry} (r : Touches Mark.nothing me s)
    (he : s.streams.lookup k = some e') : ∃ e, me.streams.lookup k = some e ∧
      e'.state.isClosed = e.state.isClosed ∧ (e'.finished = false → e.finished = false) := by
  refine Reach.invariant (I := fun t : Inner => ∀ e', t.streams.lookup k = some e' →
    ∃ e, me.streams.lookup k = some e ∧ e'.state.isClosed = e.state.isClosed ∧
      (e'.finished = false → e.finished = false)) r (fun e he => ⟨e, he, rfl, id⟩) ?_ e' he
  intro t m t' ih h hm e₂ h₂
  have hm : m.common = true := hm.elim id fun h => h.elim
  rcases h.entry h₂ with ⟨e₁, h₁, hv⟩ | ⟨rfl | rfl, -⟩
  · obtain ⟨e, hk, hc, hf⟩ := ih e₁ h₁
    refine ⟨e, hk, (hv.closed ?_ ?_).trans hc, fun h2 => hf ?_⟩
    · rintro rfl
      cases hm
    · rintro rfl
      cases hm
    · rcases hv.finished with ⟨h, -⟩ | ⟨-, h, -⟩
      · exact h.symm.trans h2
      · rw [h] at h2
        cases h2
  · cases hm
  · cases hm

theorem Tallied.reclaim (h : me.Tallied) (sid : Nat) :
    (me.reclaimStreamAccounting sid).Tallied := fun k e' he hf => by
  obtain ⟨e, hk, -, hv⟩ := origin (reclaimStreamAccounting_touches me sid) he
  rw [numActive_reclaim]
  exact h k e hk (hv hf)

/-- A stream reclaimed, then closed. -/
theorem reclaimClose_drains (hr : me.role = .server) (ha : me.Tallied) (sid : Nat) :
    Drains me ((me.reclaimStreamAccounting sid).closeStream sid).1
      ((me.reclaimStreamAccounting sid).closeStream sid).2.stopAccepting :=
  (closeStream_drains ((role_reclaim me sid).trans hr) (ha.reclaim sid) sid).before
    (shutdownFinal_reclaim me sid) (numActive_reclaim me sid)

theorem resetStream_drains (hr : me.role = .server) (ha : me.Tallied) (sid : Nat)
    (reason : Reason) (initiator : Initiator) :
    Drains me (me.resetStream sid reason initiator).1
      (me.resetStream sid reason initiator).2.flags.stopAccepting := by
  unfold resetStream
  split
  · exact .refl me
  · next e he =>
    have hset : ∀ st : State, Drains me
        (((me.setStream sid { e with state := st }).reclaimStreamAccounting sid).closeStream sid).1
        (((me.setStream sid { e with state := st }).reclaimStreamAccounting sid).closeStream
          sid).2.stopAccepting := fun st => by
      have hrole : (me.setStream sid { e with state := st }).role = .server := hr
      have hset : (me.setStream sid { e with state := st }).Tallied := ha.set he rfl
      exact (reclaimClose_drains hrole hset sid).before rfl rfl
    have hreset : ∀ m : Inner, Drains m (m.enqueueResetExpiration sid) false := fun m =>
      .still (counts_enqueueResetExpiration m sid)
    split
    · generalize (if e.state.isReset then e.state
        else e.state.setReset sid reason initiator) = st
      dsimp only
      split
      · have hd := (hset st).trans (hreset _)
        rwa [Bool.or_false] at hd
      · exact hset st
    · dsimp only
      generalize hm : (me.setStream sid { e with
        state := e.state.setReset sid reason initiator }).reclaimStreamAccounting sid = m
      have hset : (me.setStream sid { e with
          state := e.state.setReset sid reason initiator }).Tallied := ha.set he rfl
      have hta : m.Tallied := hm ▸ hset.reclaim sid
      have hrole : (m.emit (.rstStream sid reason)).role = .server := by
        rw [← hm]
        exact (role_reclaim _ _).trans hr
      have htal : (m.emit (.rstStream sid reason)).Tallied := hta
      have hd := closeStream_drains hrole htal sid
      have hf : m.shutdownFinal = me.shutdownFinal := by
        rw [← hm]
        exact shutdownFinal_reclaim _ sid
      have hn : m.numActive = me.numActive := by
        rw [← hm]
        exact numActive_reclaim _ sid
      have hs := (hd.before hf hn).trans (hreset _)
      rwa [Bool.or_false] at hs

theorem finishStream_drains (hr : me.role = .server) (ha : me.Tallied) (sid : Nat) :
    Drains me (me.finishStream sid).1 (me.finishStream sid).2.flags.stopAccepting := by
  have hrole : (me.closeStream sid).1.role = .server :=
    (congrArg Terms.role (terms_closeStream me sid)).trans hr
  have hc := closeStream_drains hr ha sid
  unfold finishStream
  dsimp only
  rw [hrole]
  dsimp only
  split
  · exact hc
  · next e he =>
    split
    · next hopen =>
      -- the stream is not closed: `close_stream` left it alone
      have hid : me.closeStream sid = (me, .none) := by
        obtain ⟨e₀, he₀, hcl, -⟩ := origin (closeStream_touches me sid) he
        have h0 : e₀.state.isClosed = false := by
          rw [← hcl]
          simpa using hopen
        simp only [closeStream, he₀, h0, Bool.not_false, Bool.true_or, if_true]
      rw [hid]
      exact resetStream_drains hr ha sid .noError .user
    · have hd := hc.trans (Drains.same (shutdownFinal_reclaim (me.closeStream sid).1 sid)
        (numActive_reclaim (me.closeStream sid).1 sid))
      rwa [Bool.or_false] at hd

/-! ### Frames -/

/-- The signal of a verdict; an exception has none. -/
def stopsOf {α : Type} (flags : α → Flags) : Except Err α → Bool
  | .ok v => (flags v).stopAccepting
  | .error _ => false

theorem shutdownFinal_closeStream (me : Inner) (sid : Nat) :
    (me.closeStream sid).1.shutdownFinal = me.shutdownFinal :=
  congrArg Counts.shutdownFinal (counts_closeStream me sid)

/-- Before the final GOAWAY the end of a stream raises nothing. -/
theorem closeStream_early (hf : me.shutdownFinal = false) (sid : Nat) :
    (me.closeStream sid).2.stopAccepting = false := by
  unfold closeStream
  split
  · rfl
  · next e he =>
    split
    · rfl
    · have hq : (((me.finishEntry sid e).leaveSendQueue sid).1.leaveCapacityQueue
          sid).1.shutdownFinal = false := by
        rw [(leaveCapacityQueue_alike _ sid).shutdownFinal,
          (leaveSendQueue_alike _ sid).shutdownFinal]
        exact hf
      simp only [Flags.or_stopAccepting, stopAccepting_leaveSendQueue,
        stopAccepting_leaveCapacityQueue, Bool.or_false, onStreamGone,
        stopAccepting_maybeGoawayReply]
      split
      · next hslot =>
        split <;> simp_all
      · split <;> simp_all

theorem rejectOversizeRequest_early {r : Except Err Flags} (hf : me.shutdownFinal = false)
    (h : me.rejectOversizeRequest sid = (s, r)) :
    s.shutdownFinal = false ∧ ∀ f, r = .ok f → f.stopAccepting = false := by
  have hclose : ∀ m : Inner, m.shutdownFinal = false →
      ((m.closeStream sid).1, (.ok (m.closeStream sid).2 : Except Err Flags)) = (s, r) →
      s.shutdownFinal = false ∧ ∀ f, r = .ok f → f.stopAccepting = false := fun m hm h => by
    cases h
    refine ⟨(shutdownFinal_closeStream m sid).trans hm, fun f hv => ?_⟩
    cases hv
    exact closeStream_early hm sid
  unfold rejectOversizeRequest at h
  dsimp only at h
  split at h
  · cases h
    exact ⟨hf, by nofun⟩
  · split at h
    · cases h
      exact ⟨hf, by nofun⟩
    · refine hclose _ ?_ h
      split
      · exact (congrArg Counts.shutdownFinal (counts_enqueueResetExpiration _ sid)).trans hf
      · exact hf

theorem recvRequest_early (hf : me.shutdownFinal = false) (frame : Headers) (spare : Bool)
    (before : Nat) :
    (me.recvRequest frame spare before .none).1.shutdownFinal = false ∧
      stopsOf RecvHeadersVerdict.flags (me.recvRequest frame spare before .none).2 = false := by
  unfold recvRequest
  dsimp only
  split
  · exact ⟨hf, rfl⟩
  · split
    · exact ⟨hf, rfl⟩
    · split
      · exact ⟨hf, rfl⟩
      · split
        · exact ⟨hf, rfl⟩
        · split
          · exact ⟨hf, rfl⟩
          · split
            · next h =>
              have hc := congrArg Counts.shutdownFinal (counts_applyContentLength h)
              exact ⟨hc.trans hf, rfl⟩
            · next m h =>
              have hm : m.shutdownFinal = false :=
                (congrArg Counts.shutdownFinal (counts_applyContentLength h)).trans hf
              split
              · split
                · next h' => exact ⟨(rejectOversizeRequest_early hm h').1, rfl⟩
                · next more h' =>
                  have hr := rejectOversizeRequest_early hm h'
                  exact ⟨hr.1, by simp [stopsOf, hr.2 more rfl]⟩
              · exact ⟨hm, by simp [stopsOf]⟩

/-- Once the shutdown is final no request is taken. -/
theorem recvRequest_drains (hp : me.lastProcessedId ≤ me.lastRecvId)
    (hlim : me.shutdownFinal = true → me.maxStreamId = me.lastProcessedId) (frame : Headers)
    (spare : Bool) (before : Nat) : Drains me (me.recvRequest frame spare before .none).1
      (stopsOf RecvHeadersVerdict.flags (me.recvRequest frame spare before .none).2) := by
  by_cases hf : me.shutdownFinal = true
  · have hl := hlim hf
    unfold recvRequest
    dsimp only
    split
    · exact .refl me
    · rw [if_pos (by simp; omega)]
      exact .refl me
  · have hf : me.shutdownFinal = false := by simpa using hf
    obtain ⟨hs, hv⟩ := recvRequest_early hf frame spare before
    rw [hv]
    exact .early hf hs

theorem recvHead_drains (frame : Headers) (before : Nat) (ho : e.state.isSendClosed = false) :
    Drains me (me.recvHead frame e before).1
      (stopsOf RecvHeadersVerdict.flags (me.recvHead frame e before).2) := by
  unfold recvHead
  dsimp only
  split
  · exact .refl me
  · split
    · exact .refl me
    · next st hst =>
      have hopen : st.isSendClosed = false := State.recvOpen_isSendClosed hst ho
      split
      · next h =>
        have hc := counts_applyContentLength h
        exact .still hc
      · next m h =>
        have hc := counts_applyContentLength h
        have hm : Drains me m false := .still hc
        split
        · exact hm
        · split
          · exact hm
          · split
            · exact hm
            · have hl : ∃ e', m.streams.lookup frame.streamId = some e' ∧
                  e'.state.isSendClosed = false := by
                have hset : (me.setStream frame.streamId { e with state := st }).streams.lookup
                    frame.streamId = some { e with state := st } := AList.lookup_insert _
                obtain ⟨m', r, hc', -, hl, -⟩ := applyContentLength_spec frame hset
                rw [h] at hc'
                cases hc'
                exact ⟨_, (hl rfl).2, hopen⟩
              obtain ⟨e', hl, hs⟩ := hl
              rw [closeStream_of_open hl hs]
              split <;> simpa [stopsOf] using hm

theorem recvTrailers_drains (frame : Headers) (before : Nat) (ho : e.state.isSendClosed = false) :
    Drains me (me.recvTrailers frame e before).1
      (stopsOf RecvHeadersVerdict.flags (me.recvTrailers frame e before).2) := by
  unfold recvTrailers
  dsimp only
  split
  · exact .refl me
  · split
    · exact .refl me
    · next st hst =>
      split
      · exact .same rfl rfl
      · have hl : (me.setStream frame.streamId { e with state := st }).streams.lookup
            frame.streamId = some { e with state := st } := AList.lookup_insert _
        rw [closeStream_of_open hl (State.recvClose_isSendClosed hst ho)]
        have hd : Drains me (me.setStream frame.streamId { e with state := st }) false :=
          .same rfl rfl
        simpa [stopsOf] using hd

theorem recvHeaders_drains (hr : me.role = .server) (hp : me.lastProcessedId ≤ me.lastRecvId)
    (hlim : me.shutdownFinal = true → me.maxStreamId = me.lastProcessedId)
    (hs : me.Serving fun _ => False) (frame : Headers) (spare : Bool) :
    Drains me (me.recvHeaders frame spare).1
      (stopsOf RecvHeadersVerdict.flags (me.recvHeaders frame spare).2) := by
  unfold recvHeaders
  dsimp only
  split
  · unfold recvHeadersUnknown
    have ha := inResetStore_alike me frame.streamId
    dsimp only
    split
    · exact .same ha.shutdownFinal ha.numActive
    · rw [ha.role, hr]
      refine (recvRequest_drains ?_ (fun hf => ?_) frame spare _).before ha.shutdownFinal
        ha.numActive
      · rw [ha.lastProcessedId, ha.lastRecvId]
        exact hp
      · rw [ha.maxStreamId, ha.lastProcessedId]
        exact hlim (ha.shutdownFinal ▸ hf)
  · next e he =>
    have ho : e.state.isSendClosed = false := (hs _ e he).resolve_right id
    split
    · exact .refl me
    · split
      · next hc =>
        rw [State.isSendClosed_of_isClosed hc] at ho
        cases ho
      · split
        · exact recvHead_drains frame _ ho
        · exact recvTrailers_drains frame _ ho

theorem recordDataFrame_serving {p : Nat → Prop} (hs : me.Serving p) (sid n : Nat) :
    (me.recordDataFrame sid n).1.Serving p := by
  unfold recordDataFrame
  split
  · exact hs
  · dsimp only
    split
    · exact hs
    · next he => exact Serving.write hs he rfl

theorem deliverData_drains {p : Nat → Prop} (hs : me.Serving p) (frame : Data)
    (he : me.streams.lookup frame.streamId = some e) {e' : StreamEntry}
    (hst : e'.state = e.state) (hp : ¬p frame.streamId) (before : Nat) :
    Drains me (me.deliverData frame e' before).1
      (stopsOf RecvDataVerdict.flags (me.deliverData frame e' before).2) := by
  unfold deliverData
  dsimp only
  generalize hm : (if frame.padding > 0 then
    (me.setStream frame.streamId { e' with
      recvUnreleased := (e'.recvUnreleased + frame.flowControlledLen) % 2 ^ 32
    }).releaseCapacityInner frame.streamId frame.padding
    else me.setStream frame.streamId { e' with
      recvUnreleased := (e'.recvUnreleased + frame.flowControlledLen) % 2 ^ 32 }) = m
  have hset : (me.setStream frame.streamId { e' with
      recvUnreleased := (e'.recvUnreleased + frame.flowControlledLen) % 2 ^ 32 }).Serving p :=
    hs.write he hst
  have hmc : m.counts = me.counts := by
    rw [← hm]
    split
    · rw [counts_releaseCapacityInner]
      rfl
    · rfl
  have hms : m.Serving p := by
    rw [← hm]
    split
    · exact Touches.serving_nothing (releaseCapacityInner_touches _ _ _) hset
    · exact hset
  generalize hc : (if (!frame.endStream) = true then
    m.recordDataFrame frame.streamId frame.data.length else (m, none)) = c
  have hd : Drains me c.1 false := by
    refine (Drains.same ?_ ?_).before (congrArg Counts.shutdownFinal hmc)
      (congrArg Counts.numActive hmc)
    all_goals
      rw [← hc]
      split
      · first
          | exact congrArg Counts.shutdownFinal (counts_recordDataFrame m _ _)
          | exact congrArg Counts.numActive (counts_recordDataFrame m _ _)
      · rfl
  have hcs : c.1.Serving p := by
    rw [← hc]
    split
    · exact recordDataFrame_serving hms _ _
    · exact hms
  obtain ⟨m₂, _ | err⟩ := c
  · dsimp only at hd hcs ⊢
    split
    · simpa [stopsOf, RecvDataVerdict.swallowed] using hd
    · split
      · split
        · exact hd
        · next e₂ he₂ =>
          split
          · exact hd
          · next st hcl =>
            have ho := (hcs _ e₂ he₂).resolve_right hp
            have hl : (m₂.setStream frame.streamId { e₂ with state := st }).streams.lookup
                frame.streamId = some { e₂ with state := st } := AList.lookup_insert _
            rw [closeStream_of_open hl (State.recvClose_isSendClosed hcl ho)]
            have hd₂ := hd.after (t := m₂.setStream frame.streamId { e₂ with state := st }) rfl rfl
            simpa [stopsOf] using hd₂
      · simpa [stopsOf] using hd
  · exact hd

theorem recvDataOn_drains {p : Nat → Prop} (hs : me.Serving p) (frame : Data)
    (he : me.streams.lookup frame.streamId = some e) (hp : ¬p frame.streamId) (before : Nat) :
    Drains me (me.recvDataOn frame e before).1
      (stopsOf RecvDataVerdict.flags (me.recvDataOn frame e before).2) := by
  unfold recvDataOn
  dsimp only
  have hgive : ∀ (m : Inner), m.counts = me.counts →
      Drains me (m.reclaimConn frame.flowControlledLen) false := fun m hm =>
    .still ((counts_reclaimConn m _).trans hm)
  split
  · next m _ h =>
    obtain rfl : (me.consumeConnRecv frame.flowControlledLen).1 = m := congrArg Prod.fst h
    exact .same rfl rfl
  · next m h =>
    obtain rfl : (me.consumeConnRecv frame.flowControlledLen).1 = m := congrArg Prod.fst h
    split
    · exact hgive _ (by rfl)
    · split
      · exact hgive _ (by rfl)
      · split
        · exact hgive _ (by rfl)
        · have hs' : (me.consumeConnRecv frame.flowControlledLen).1.Serving p := hs
          exact (deliverData_drains hs' frame he (by rfl) hp before).before rfl rfl

theorem recvData_drains (hs : me.Serving fun _ => False) (frame : Data) :
    Drains me (me.recvData frame).1
      (stopsOf RecvDataVerdict.flags (me.recvData frame).2) := by
  have hig : ∀ {m s : Inner} {r : Option Err}, m.counts = me.counts →
      m.ignoreData frame.flowControlledLen = (s, r) → Drains me s false := fun {m s r} hm h => by
    refine .still (Eq.trans ?_ hm)
    rw [← counts_ignoreData m, h]
  have hlook : ∀ {m : Inner} {r : Except Err (Option Nat)},
      me.recvLookup frame.streamId = (m, r) → m.counts = me.counts := fun {m r} h => by
    rw [← show (me.recvLookup frame.streamId).1 = m from congrArg Prod.fst h]
    unfold recvLookup
    split
    · next e he =>
      have ho := (hs _ e he).resolve_right id
      split
      · rfl
      · split
        · next hc =>
          rw [State.isSendClosed_of_isClosed hc] at ho
          cases ho
        · rfl
    · dsimp only
      repeat' split
      all_goals exact counts_inResetStore me _
  unfold recvData
  dsimp only
  split
  · next h =>
    have hl := hlook h
    split
    · next h' => exact hig hl h'
    · next h' => exact hig hl h'
  · next h =>
    have hl := hlook h
    split
    · next h' => exact hig hl h'
    · next h' => simpa [stopsOf, RecvDataVerdict.swallowed] using hig hl h'
  · next h =>
    obtain ⟨rfl, rfl, e, he, -⟩ := recvLookup_found h
    rw [he]
    dsimp only
    split
    · exact .refl _
    · exact recvDataOn_drains hs frame he id _

theorem recvResetOn_drains (hr : me.role = .server) (ha : me.Tallied) (frame : RstStream)
    (he : me.streams.lookup frame.streamId = some e) :
    Drains me (me.recvResetOn frame e).1
      (stopsOf (fun v : Option RecvResetVerdict => (v.elim {} RecvResetVerdict.acts).flags)
        (me.recvResetOn frame e).2) := by
  unfold recvResetOn
  dsimp only
  split
  · exact .refl me
  · have hset : (me.setStream frame.streamId { e with
        state := e.state.recvReset frame.streamId frame.errorCode }).Tallied := ha.set he rfl
    have hrole : (me.setStream frame.streamId { e with
        state := e.state.recvReset frame.streamId frame.errorCode }).role = .server := hr
    have hd : Drains me _ _ := (reclaimClose_drains hrole hset frame.streamId).before rfl rfl
    simpa [stopsOf, RecvResetVerdict.acts] using hd

theorem recvReset_drains (hr : me.role = .server) (ha : me.Tallied) (frame : RstStream) :
    Drains me (me.recvReset frame).1
      (stopsOf (fun v : Option RecvResetVerdict => (v.elim {} RecvResetVerdict.acts).flags)
        (me.recvReset frame).2) := by
  unfold recvReset
  dsimp only
  split
  · exact .refl me
  · split
    · split
      · exact .refl me
      · split <;> exact .refl me
    · next e he =>
      split
      · split
        · exact .refl me
        · have hrole : ({ me with
              remoteResetPending := insert frame.streamId me.remoteResetPending
              } : Inner).role = .server := hr
          exact (recvResetOn_drains hrole ha frame he).before rfl rfl
      · exact recvResetOn_drains hr ha frame he

/-- **The final GOAWAY raises the signal just when it finds no stream live.** -/
theorem recvPing_drains (me : Inner) (frame : Ping) :
    Drains me (me.recvPing frame).1 (me.recvPing frame).2.stopAccepting := by
  unfold recvPing
  dsimp only
  split
  · rw [stopAccepting_wakeFlag]
    exact .same rfl rfl
  · split
    · exact .refl me
    · next h =>
      have hf : me.shutdownFinal = false := by
        simp only [not_or, Bool.not_eq_true] at h
        exact h.2.2.2
      have hm : ¬me.Drained := fun hd => by
        rw [hd.1] at hf
        cases hf
      rw [Flags.or_stopAccepting, stopAccepting_wakeFlag, Bool.false_or]
      refine ⟨?_, fun hd => absurd hd hm⟩
      split
      · next h0 => exact ⟨fun _ => ⟨⟨rfl, h0⟩, hm⟩, fun _ => rfl⟩
      · next h0 => exact ⟨fun h => (by cases h), fun hd => absurd hd.1.2 h0⟩

theorem recvSettings_early {frame : SettingsFrame} {v : RecvSettingsVerdict}
    (h : (me.recvSettings frame).2 = .ok v) : v.flags.stopAccepting = false := by
  have hmax : ∀ (m : Inner) n, (m.applyMaxStreams n).2.stopAccepting = false := fun m n => by
    unfold applyMaxStreams
    dsimp only
    split
    · rfl
    · split <;> rfl
  have hremote : ∀ (m m' : Inner) w flags, m.applyRemoteSettings frame.values = (m', .ok (w, flags)) →
      flags.stopAccepting = false := fun m m' w flags h => by
    unfold applyRemoteSettings applyRemoteLimits at h
    split at h
    · cases h
    · next hl =>
      split at hl
      · cases hl
      · cases hl
        split at h
        · cases h
          exact hmax _ _
        · split at h
          · cases h
          · cases h
            exact hmax _ _
  unfold recvSettings at h
  dsimp only at h
  split at h
  · split at h
    · cases h
    · split at h
      · cases h
      · cases h
        rfl
  · split at h
    · cases h
    · next hr =>
      cases h
      simp [hremote _ _ _ _ hr]

/-- **What a frame drains**, on a server whose streams can all be sent on. -/
theorem dispatch_drains (h : me.Wf) (hr : me.role = .server)
    (hlim : me.shutdownFinal = true → me.maxStreamId = me.lastProcessedId)
    (hs : me.Serving fun _ => False) (f : Frame) :
    Drains me (me.dispatch f).1 (stopsOf Acts.flags (me.dispatch f).2) := by
  have hmap : ∀ {α : Type} (flags : α → Flags) (g : α → Acts) {r : Inner × Except Err α},
      (∀ v, (g v).flags = flags v) → Drains me r.1 (stopsOf flags r.2) →
      Drains me r.1 (stopsOf Acts.flags (r.2.map g)) := fun {α} flags g {r} hg hd => by
    obtain ⟨s, _ | v⟩ := r
    · exact hd
    · simpa [stopsOf, Except.map, hg] using hd
  have hstill : ∀ {α : Type} (g : α → Acts) {r : Inner × Except Err α},
      (∀ v, r.2 = .ok v → (g v).flags.stopAccepting = false) → r.1.counts = me.counts →
      Drains me r.1 (stopsOf Acts.flags (r.2.map g)) := fun {α} g {r} hg hd => by
    obtain ⟨s, _ | v⟩ := r
    · exact .still hd
    · simpa [stopsOf, Except.map, hg v rfl] using Drains.still hd
  cases f with
  | headers f =>
      exact hmap RecvHeadersVerdict.flags RecvHeadersVerdict.acts (fun _ => rfl)
        (recvHeaders_drains hr h.processed hlim hs f _)
  | data f =>
      exact hmap RecvDataVerdict.flags RecvDataVerdict.acts (fun _ => rfl) (recvData_drains hs f)
  | windowUpdate f => exact hstill _ (fun _ _ => rfl) (counts_recvWindowUpdate me f)
  | settings f => exact hstill _ (fun v hv => recvSettings_early hv) (counts_recvSettings me f)
  | ping f => exact recvPing_drains me f
  | goAway f =>
      simp only [dispatch, recvGoAway]
      split
      · exact .refl me
      · rw [hr]
        exact .same rfl rfl
  | rstStream f =>
      exact hmap (fun v : Option RecvResetVerdict => (v.elim {} RecvResetVerdict.acts).flags) _
        (fun _ => rfl) (recvReset_drains hr h.tallied f)
  | priority _ => exact .refl me
  | streamError _ _ _ => exact .refl me

/-! ### Calls -/

theorem resetOnError_drains (hr : me.role = .server) (ha : me.Tallied) (sid : Nat)
    (reason : Reason) : Drains me (me.resetOnError sid reason).1
      (stopsOf ResetVerdict.flags (me.resetOnError sid reason).2) := by
  unfold resetOnError
  dsimp only
  split
  · exact .refl me
  · split
    · have hrole : ({ me with
        localErrorResets := me.localErrorResets + 1 } : Inner).role = .server := hr
      have hd : Drains me _ _ := (resetStream_drains hrole ha sid reason .library).before rfl rfl
      simpa [stopsOf] using hd
    · have hd : Drains me ((if reason ≠ Reason.refusedStream then
          ({ me with localErrorResets := me.localErrorResets + 1 }).enqueueResetExpiration sid
          else { me with localErrorResets := me.localErrorResets + 1 }).emit
            (.rstStream sid reason)) false := by
        split
        · have hc := counts_enqueueResetExpiration
            { me with localErrorResets := me.localErrorResets + 1 } sid
          exact .same (congrArg Counts.shutdownFinal hc) (congrArg Counts.numActive hc)
        · exact .same rfl rfl
      simpa [stopsOf] using hd

theorem acloseBody_drains (hr : me.role = .server) (ha : me.Tallied) (sid : Nat) :
    Drains me (me.acloseBody sid).1 (me.acloseBody sid).2.flags.stopAccepting := by
  unfold acloseBody
  dsimp only
  split
  · exact .refl me
  · split
    · simpa using reclaimClose_drains hr ha sid
    · simpa using resetStream_drains hr ha sid .cancel .user

/-- The end of a message on a stream whose state has been moved. -/
theorem finished_drains (me : Inner) {m : Inner} (ha : m.Tallied) (hr : m.role = .server)
    (hf : m.shutdownFinal = me.shutdownFinal) (hn : m.numActive = me.numActive) (sid n : Nat)
    (hfl : flags.stopAccepting = false) :
    Drains me (m.finishStream sid).1 (stopsOf SendVerdict.flags
      (.ok (.completed n flags (m.finishStream sid).2))) := by
  have hd := (finishStream_drains hr ha sid).before hf hn
  simpa [stopsOf, SendVerdict.completed, hfl] using hd

theorem sendEmpty_drains (hr : me.role = .server) (ha : me.Tallied)
    (he : me.streams.lookup sid = some e) (endStream : Bool) :
    Drains me (me.sendEmpty sid e endStream).1
      (stopsOf SendVerdict.flags (me.sendEmpty sid e endStream).2) := by
  unfold sendEmpty
  dsimp only
  split
  · split
    · exact .same rfl rfl
    · next st _ =>
      have hset : (me.setStream sid { e with state := st }).Tallied := ha.set he rfl
      exact finished_drains me (m := (me.emit (.data sid [] endStream)).setStream sid
        { e with state := st }) hset hr rfl rfl sid 0
          (stopAccepting_wakeFlag _ _)
  · have hd : Drains me (me.emit (.data sid [] endStream)) false := .same rfl rfl
    simpa [stopsOf, SendVerdict.completed] using hd

theorem queueData_drains {m : Inner} (hr : m.role = .server) (ha : m.Tallied)
    (hf : m.shutdownFinal = me.shutdownFinal) (hn : m.numActive = me.numActive)
    (chunk : Bytes) (last done : Bool) (before : Nat) (hfl : flags.stopAccepting = false) :
    Drains me (m.queueData sid chunk last done before flags).1
      (stopsOf SendVerdict.flags (m.queueData sid chunk last done before flags).2) := by
  unfold queueData
  dsimp only
  split
  · exact .same hf hn
  · split
    · split
      · exact .same hf hn
      · next e he =>
        split
        · exact .same hf hn
        · next st _ =>
          have hset : (m.setStream sid { e with state := st }).Tallied := ha.set he rfl
          exact finished_drains me (m := ({ m.emit (.data sid chunk last) with
            credit := addCredit m.credit sid chunk.length } : Inner).setStream sid
            { e with state := st }) hset hr hf hn sid _ (by simp [hfl])
    · have hd : Drains me { m.emit (.data sid chunk last) with
          credit := addCredit m.credit sid chunk.length } false := .same hf hn
      simpa [stopsOf, hfl] using hd

theorem frameData_drains {m : Inner} (hr : m.role = .server) (ha : m.Tallied)
    (hf : m.shutdownFinal = me.shutdownFinal) (hn : m.numActive = me.numActive)
    (he : m.streams.lookup sid = some e) (data : Bytes) (offset : Nat) (endStream : Bool)
    (budget before : Nat) :
    Drains me (m.frameData sid e data offset endStream budget before).1
      (stopsOf SendVerdict.flags (m.frameData sid e data offset endStream budget before).2) := by
  unfold frameData
  dsimp only
  split
  · exact .same hf hn
  · next conn _ =>
    split
    · exact .same hf hn
    · next fc _ =>
      have hq := afterFrame_alike
      generalize hm : ({ m with connSend := conn } : Inner).setStream sid { e with
        sendFlow := fc
        sendBuffered := e.sendBuffered + min (min budget (data.length - offset)) m.peer.maxFrameSize
        turnFrames := e.turnFrames + 1 } = m₁
      have htal : ({ m with connSend := conn } : Inner).Tallied := ha
      have hset : m₁.Tallied := hm ▸ htal.set he rfl
      have hq := hq m₁ sid { e with
        sendFlow := fc
        sendBuffered := e.sendBuffered + min (min budget (data.length - offset)) m.peer.maxFrameSize
        turnFrames := e.turnFrames + 1 } (min (min budget (data.length - offset)) m.peer.maxFrameSize)
        (data.length - offset)
      refine queueData_drains ?_ (hset.alike hq) ?_ ?_ _ _ _ _ (by simp)
      · rw [hq.role, ← hm]
        exact hr
      · rw [hq.shutdownFinal, ← hm]
        exact hf
      · rw [hq.numActive, ← hm]
        exact hn

theorem sendTurn_drains {m : Inner} (hr : m.role = .server) (ha : m.Tallied)
    (hf : m.shutdownFinal = me.shutdownFinal) (hn : m.numActive = me.numActive) (data : Bytes)
    (offset : Nat) (endStream : Bool) (budget before : Nat) :
    Drains me (m.sendTurn sid data offset endStream budget before).1
      (stopsOf SendVerdict.flags (m.sendTurn sid data offset endStream budget before).2) := by
  unfold sendTurn
  split
  · exact .same hf hn
  · next e he =>
    split
    · have hy := yieldSendTurn_alike m sid
      have hd : Drains me (m.yieldSendTurn sid).1 false :=
        .same (hy.shutdownFinal.trans hf) (hy.numActive.trans hn)
      simpa [stopsOf, SendVerdict.noWindow] using hd
    · split
      · exact .same hf hn
      · exact frameData_drains hr ha hf hn he data offset endStream budget before

theorem sendChunk_drains (hr : me.role = .server) (ha : me.Tallied)
    (he : me.streams.lookup sid = some e) (data : Bytes) (offset : Nat) (endStream : Bool) :
    Drains me (me.sendChunk sid e data offset endStream).1
      (stopsOf SendVerdict.flags (me.sendChunk sid e data offset endStream).2) := by
  have hfront : Alike me (me.leaveWaiting sid e).sendFront.1 :=
    (leaveWaiting_alike he).trans (sendFront_alike _)
  have turn : ∀ m, Alike me m → ∀ budget, Drains me
      (m.sendTurn sid data offset endStream budget me.pending.length).1
      (stopsOf SendVerdict.flags
        (m.sendTurn sid data offset endStream budget me.pending.length).2) := fun m hm budget =>
    sendTurn_drains (hm.role.trans hr) (ha.alike hm) hm.shutdownFinal hm.numActive data offset
      endStream budget _
  unfold sendChunk
  dsimp only
  split
  · generalize hm : (if me.connSend.size = 0 ∧ me.streamRoom e > 0 then me.enqueueCapacity sid
      else me) = m
    have hma : Alike me m := by
      rw [← hm]
      split
      · exact enqueueCapacity_alike me sid
      · exact .refl me
    have hl := hma.trans (leaveSendQueue_alike m sid)
    have hd : Drains me (m.leaveSendQueue sid).1 false := .same hl.shutdownFinal hl.numActive
    simpa [stopsOf, SendVerdict.noWindow] using hd
  · split
    · split
      · have hl := hfront.trans (enqueueSend_alike _ sid)
        exact .same hl.shutdownFinal hl.numActive
      · exact turn _ hfront _
    · exact turn _ (hfront.trans (enqueueSend_alike _ sid)) _

theorem sendData_drains (hr : me.role = .server) (ha : me.Tallied) (sid : Nat) (data : Bytes)
    (offset : Nat) (endStream : Bool) :
    Drains me (me.sendData sid data offset endStream).1
      (stopsOf SendVerdict.flags (me.sendData sid data offset endStream).2) := by
  unfold sendData
  split
  · exact .refl me
  · next e he =>
    split
    · exact .refl me
    · split
      · exact sendEmpty_drains hr ha he endStream
      · exact sendChunk_drains hr ha he data offset endStream

theorem sendTrailers_drains (hr : me.role = .server) (ha : me.Tallied) (sid : Nat)
    (trailers : Fields) : Drains me (me.sendTrailers sid trailers).1
      (stopsOf SendVerdict.flags (me.sendTrailers sid trailers).2) := by
  unfold sendTrailers
  dsimp only
  split
  · exact .refl me
  · next e he =>
    split
    · exact .refl me
    · split
      · exact .refl me
      · next st _ =>
        have hset : (me.setStream sid { e with state := st }).Tallied := ha.set he rfl
        exact finished_drains me (m := (me.setStream sid { e with state := st }).emit
          (.headers sid (.trailers trailers) true)) hset hr rfl rfl sid 0
          (stopAccepting_wakeFlag _ _)

theorem sendResponseHead_drains (hr : me.role = .server) (ha : me.Tallied) (sid status : Nat)
    (fields : Fields) (endStream : Bool) (date : String) :
    Drains me (me.sendResponseHead sid status fields endStream date).1
      (stopsOf SendVerdict.flags
        (me.sendResponseHead sid status fields endStream date).2) := by
  unfold sendResponseHead
  dsimp only
  split
  · exact .refl me
  · split
    · exact .refl me
    · next e he =>
      split
      · exact .refl me
      · split
        · exact .refl me
        · split
          · exact .refl me
          · next st _ =>
            have hset : (me.setStream sid { e with state := st }).Tallied := ha.set he rfl
            split
            · exact finished_drains me (m := (me.setStream sid { e with state := st }).emit
                (.headers sid _ endStream)) hset hr rfl rfl sid 0
                (stopAccepting_wakeFlag _ _)
            · have hd : ∀ f, Drains me ((me.setStream sid { e with state := st }).emit f) false :=
                fun _ => .same rfl rfl
              simpa [stopsOf, SendVerdict.completed] using hd _

theorem creditWritten_counts (me : Inner) : me.creditWritten.1.counts = me.counts :=
  counts_creditAll { me with inflightCredit := [] } _ _

/-- **What a call drains**, but the failure of the connection. -/
theorem call_drains (h : me.Wf) (hr : me.role = .server) (c : Call)
    (hfail : ∀ exc message, c ≠ .fail exc message)
    (hopen : ∀ request eos isHead, c = .openStream request eos isHead → me.role = .client) :
    Drains me (me.call c).1 (me.call c).2.flags.stopAccepting := by
  have hacts : ∀ {r : Inner × Except Err SendVerdict},
      Drains me r.1 (stopsOf SendVerdict.flags r.2) →
      Drains me r.1 (sendActs r.2).flags.stopAccepting := fun {r} hd => by
    obtain ⟨s, _ | v⟩ := r
    · exact hd
    · exact hd
  cases c with
  | openStream request eos isHead =>
      have := hopen request eos isHead rfl
      rw [hr] at this
      cases this
  | fail exc message => exact absurd rfl (hfail exc message)
  | sendData sid data offset eos => exact hacts (sendData_drains hr h.tallied sid data offset eos)
  | sendTrailers sid trailers => exact hacts (sendTrailers_drains hr h.tallied sid trailers)
  | sendResponseHead sid status fields eos date =>
      exact hacts (sendResponseHead_drains hr h.tallied sid status fields eos date)
  | resetStream sid reason initiator =>
      have hd := resetStream_drains hr h.tallied sid reason initiator
      simpa [call, resetStreamCall, ResetVerdict.acts] using hd
  | acloseBody sid =>
      simpa [call, ResetVerdict.acts] using acloseBody_drains hr h.tallied sid
  | releaseCapacity sid n =>
      have hd : Drains me (me.releaseCapacityInner sid n) false :=
        .still (counts_releaseCapacityInner me sid n)
      simpa [call, releaseCapacity] using hd
  | releaseDataFrame sid n =>
      simp only [call, releaseDataFrame]
      split
      · exact .refl me
      · split
        · exact .refl me
        · have hc := counts_maybeRemoveSettled
          exact .same (congrArg Counts.shutdownFinal (hc _ sid))
            (congrArg Counts.numActive (hc _ sid))
  | creditWritten => exact .still (creditWritten_counts me)
  | nextCapacityWake => exact .still (counts_nextCapacityWake me)
  | sendGoaway reason debugData =>
      have hd : Drains me (me.emit (.goAway me.goawayLastStreamId reason debugData)) false :=
        .same rfl rfl
      simpa [call, sendGoaway] using hd
  | beginGracefulShutdown =>
      simp only [call, beginGracefulShutdown]
      split
      · exact .refl me
      · rw [stopAccepting_wakeFlag]
        exact .same rfl rfl
  | tryClaimSlot =>
      simp only [call, tryClaimSlot]
      split <;> exact .same rfl rfl
  | writerStart =>
      simp only [call, writerStart]
      split <;> exact .same rfl rfl
  | _ => exact .same rfl rfl

end Inner

end Httpunk.H2
