import Httpunk.H2.Moves.Basic

/-!
# H2 — Moves — Store

The helpers of the connection as moves.  The rotation and the reset store are bookkeeping
(`Alike`); closing, resetting and aborting a stream are runs of moves.

* `closeStream_moves`, `resetStream_moves`, `finishStream_moves`: only common kinds.
* `abortAll_moves`: with the bytes each abort forgets.
-/

namespace Httpunk.H2.Inner

open Runs (Reach)

variable {extra : Kind → Prop}

/-! ### Lookups after an update -/

@[simp] theorem lookup_setStream (me : Inner) (sid k : Nat) (e : StreamEntry) :
    (me.setStream sid e).streams.lookup k = if k = sid then some e else me.streams.lookup k :=
  Store.lookup_insert' _ _ _ _

@[simp] theorem setStream_setStream (me : Inner) (sid : Nat) (e e' : StreamEntry) :
    (me.setStream sid e).setStream sid e' = me.setStream sid e' :=
  congrArg (fun m => { me with streams := m }) (AList.insert_insert me.streams)

theorem setStream_emit (me : Inner) (sid : Nat) (e : StreamEntry) (f : OutFrame) :
    (me.emit f).setStream sid e = (me.setStream sid e).emit f := rfl

@[simp] theorem streams_emit (me : Inner) (f : OutFrame) : (me.emit f).streams = me.streams := rfl

/-- A reclaim moves the receive window of the connection, and may announce it. -/
theorem reclaimConn_eq (me : Inner) (n : Nat) :
    ∃ fc fs, me.reclaimConn n = { me with connRecv := fc, pending := me.pending ++ fs } ∧
      ∀ f ∈ fs, OutFrame.isCtrl f = true := by
  unfold reclaimConn
  split
  · exact ⟨me.connRecv, [], by rw [List.append_nil], fun f hf => by cases hf⟩
  · dsimp only
    split
    · exact ⟨_, [], by rw [List.append_nil], fun f hf => by cases hf⟩
    · exact ⟨_, [_], rfl, fun f hf => by rw [List.mem_singleton.mp hf]; rfl⟩

@[simp] theorem streams_reclaimConn (me : Inner) (n : Nat) :
    (me.reclaimConn n).streams = me.streams := by
  obtain ⟨fc, fs, h, -⟩ := reclaimConn_eq me n
  rw [h]

theorem lookup_reclaimEntry (me : Inner) (sid k : Nat) (e : StreamEntry) :
    (me.reclaimEntry sid e).streams.lookup k = if k = sid then
      some { e with dataBudgetCharged := 0, recvUnreleased := 0, recvReclaimed := true }
    else me.streams.lookup k := by
  unfold reclaimEntry
  rw [streams_reclaimConn]
  exact lookup_setStream me sid k _

/-! ### Bookkeeping -/

theorem sendFront_alike (me : Inner) : Alike me me.sendFront.1 :=
  .rotation me _ _

theorem capacityFront_alike (me : Inner) : Alike me me.capacityFront.1 := .rotation me _ _

theorem enqueueSend_alike (me : Inner) (sid : Nat) : Alike me (me.enqueueSend sid) := by
  unfold enqueueSend
  split
  · exact .refl _
  · next e he =>
    have h : Alike me (me.setStream sid { e with isPendingSend := true, turnFrames := 0 }) :=
      .setStream he { SameEntry.refl e with }
    split
    · exact .refl _
    · exact h.trans (.rotation _ _ _)

theorem enqueueCapacity_alike (me : Inner) (sid : Nat) : Alike me (me.enqueueCapacity sid) := by
  unfold enqueueCapacity
  split
  · exact .refl _
  · next e he =>
    have h : Alike me (me.setStream sid { e with isPendingCapacity := true }) :=
      .setStream he { SameEntry.refl e with }
    split
    · exact .refl _
    · exact h.trans (.rotation _ _ _)

theorem leaveSendQueue_alike (me : Inner) (sid : Nat) : Alike me (me.leaveSendQueue sid).1 := by
  unfold leaveSendQueue
  split
  · exact .refl _
  · next e he =>
    have h : Alike me (me.setStream sid { e with isPendingSend := false, turnFrames := 0 }) :=
      .setStream he { SameEntry.refl e with }
    split
    · exact .refl _
    · dsimp only
      split
      · exact h.trans (.rotation _ _ _)
      · exact h.trans (.rotation _ _ _)

theorem leaveCapacityQueue_alike (me : Inner) (sid : Nat) :
    Alike me (me.leaveCapacityQueue sid).1 := by
  unfold leaveCapacityQueue
  split
  · exact .refl _
  · next e he =>
    have h : Alike me (me.setStream sid { e with isPendingCapacity := false }) :=
      .setStream he { SameEntry.refl e with }
    split
    · exact .refl _
    · dsimp only
      split
      · exact h.trans (.rotation _ _ _)
      · exact h.trans (.rotation _ _ _)

theorem yieldSendTurn_alike (me : Inner) (sid : Nat) : Alike me (me.yieldSendTurn sid).1 := by
  unfold yieldSendTurn
  dsimp only
  split
  · have h : Alike me { me with pendingSend := me.pendingSend.tail ++ [sid] } :=
      .rotation me _ _
    split
    · exact h
    · next e he =>
      exact h.trans (.setStream (s := { me with pendingSend := me.pendingSend.tail ++ [sid] }) he
        { SameEntry.refl e with })
  · exact .refl _

theorem admitCapacityFront_alike (me : Inner) : Alike me me.admitCapacityFront.1 := by
  unfold admitCapacityFront
  split
  · exact .refl _
  · dsimp only
    split
    · exact me.sendFront_alike
    · have h := me.sendFront_alike.trans me.sendFront.1.capacityFront_alike
      split
      · exact h
      · next sid _ =>
        refine Alike.trans ?_ (enqueueSend_alike _ sid)
        split
        · next e he =>
          have hw : Alike me.sendFront.1.capacityFront.1
              (me.sendFront.1.capacityFront.1.setStream sid { e with isPendingCapacity := false }) :=
            .setStream he { SameEntry.refl e with }
          exact (h.trans hw).trans (.rotation _ _ _)
        · exact h.trans (.rotation _ _ _)

theorem inResetStore_eq (me : Inner) (sid : Nat) :
    ∃ m, (me.inResetStore sid).1 = { me with resetStreams := m } := by
  unfold inResetStore
  split
  · exact ⟨_, rfl⟩
  · split
    · exact ⟨_, rfl⟩
    · exact ⟨_, rfl⟩

theorem inResetStore_alike (me : Inner) (sid : Nat) : Alike me (me.inResetStore sid).1 := by
  unfold inResetStore
  split
  · exact .refl _
  · split
    · exact .refl _
    · exact { Alike.refl me with }

theorem enqueueResetExpiration_alike (me : Inner) (sid : Nat) :
    Alike me (me.enqueueResetExpiration sid) := by
  unfold enqueueResetExpiration
  dsimp only
  split
  · exact { Alike.refl me with }
  · exact { Alike.refl me with }

/-! ### Closing a stream -/

theorem maybeRemoveSettled_moves (me : Inner) (sid : Nat) :
    Moves extra me (me.maybeRemoveSettled sid) := by
  unfold maybeRemoveSettled
  split
  · exact .refl
  · next e he =>
    split
    · next hc =>
      simp only [Bool.and_eq_true, beq_iff_eq] at hc
      exact Moves.common (.remove he hc.1.1 hc.1.2) rfl
    · exact .refl

theorem reclaimStreamAccounting_moves {me : Inner} {sid : Nat}
    (hd : ∀ e, me.streams.lookup sid = some e → e.state.recvDone = true) :
    Moves extra me (me.reclaimStreamAccounting sid) := by
  unfold reclaimStreamAccounting
  split
  · exact .refl
  · next e he =>
    exact (Moves.common (.reclaim he (hd e he)) rfl).trans (maybeRemoveSettled_moves _ sid)

/-- The GOAWAY reply, where it is due. -/
theorem maybeGoawayReply_of_due {me : Inner} (h : me.replyDue = true) :
    me.maybeGoawayReply.1 = { me with
      goawayReplied := true
      pending := me.pending ++ [.goAway me.goawayLastStreamId .noError []]
      error := some (.closed "connection closed: GOAWAY exchanged") } := by
  rw [maybeGoawayReply, if_pos h]

theorem maybeGoawayReply_moves (me : Inner) : Moves extra me me.maybeGoawayReply.1 := by
  by_cases h : me.replyDue = true
  · exact Moves.common (.reply h) rfl
  · rw [maybeGoawayReply, if_neg h]
    exact .refl

theorem onStreamGone_moves (me : Inner) : Moves extra me me.onStreamGone.1 :=
  maybeGoawayReply_moves me

theorem closeStream_moves (me : Inner) (sid : Nat) : Moves extra me (me.closeStream sid).1 := by
  unfold closeStream
  split
  · exact .refl
  · next e he =>
    split
    · exact .refl
    · next hc =>
      simp only [Bool.or_eq_true, Bool.not_eq_true', not_or, Bool.not_eq_false,
        Bool.not_eq_true] at hc
      refine Reach.trans ?_ (onStreamGone_moves _)
      have hq : Alike (me.finishEntry sid e)
          (((me.finishEntry sid e).leaveSendQueue sid).1.leaveCapacityQueue sid).1 :=
        (leaveSendQueue_alike _ sid).trans (leaveCapacityQueue_alike _ sid)
      have hm : Moves extra me
          (((me.finishEntry sid e).leaveSendQueue sid).1.leaveCapacityQueue sid).1 :=
        (Moves.common (.finish he hc.1 hc.2) rfl).trans (Moves.admin hq)
      split
      · next hd =>
        simp only [Bool.and_eq_true, beq_iff_eq] at hd
        obtain ⟨e', he', hs⟩ := hq.stored (k := sid)
          (e := { e with finished := true, holdsSlot := false }) (AList.lookup_insert _)
        exact hm.trans (Moves.common (.remove he' hs.finished
          (hs.recvUnreleased.trans hd.1)) rfl)
      · exact hm

@[simp] theorem streams_maybeGoawayReply (me : Inner) :
    me.maybeGoawayReply.1.streams = me.streams := by
  unfold maybeGoawayReply
  split <;> rfl

@[simp] theorem streams_onStreamGone (me : Inner) : me.onStreamGone.1.streams = me.streams :=
  streams_maybeGoawayReply me

/-- A closed stream that owes nothing leaves the store when it finishes. -/
theorem lookup_closeStream {me : Inner} {sid : Nat} {e : StreamEntry}
    (he : me.streams.lookup sid = some e) (hc : e.state.isClosed = true)
    (hf : e.finished = false) (hu : e.recvUnreleased = 0) (hd : e.dataBudgetCharged = 0) :
    (me.closeStream sid).1.streams.lookup sid = none := by
  simp only [closeStream, he, hc, hf, hu, hd, Bool.not_true, Bool.or_false, Bool.false_eq_true,
    if_false, beq_self_eq_true, Bool.and_true, if_true, streams_onStreamGone]
  exact AList.lookup_erase _ _

/-- A stream already finished is left alone. -/
theorem closeStream_of_finished {me : Inner} {sid : Nat} {e : StreamEntry}
    (he : me.streams.lookup sid = some e) (hf : e.finished = true) :
    me.closeStream sid = (me, .none) := by
  simp only [closeStream, he, hf, Bool.or_true, if_true]

/-- What a reclaim leaves of a stream is its state. -/
theorem lookup_reclaimStreamAccounting {me : Inner} {sid : Nat} {e' : StreamEntry}
    (h : (me.reclaimStreamAccounting sid).streams.lookup sid = some e') :
    ∃ e, me.streams.lookup sid = some e ∧ e' =
      { e with dataBudgetCharged := 0, recvUnreleased := 0, recvReclaimed := true } := by
  unfold reclaimStreamAccounting at h
  split at h
  · next hn => rw [hn] at h; cases h
  · next e he =>
    unfold maybeRemoveSettled at h
    split at h
    · next hn => rw [hn] at h; cases h
    · split at h
      · rw [show AList.lookup sid (AList.erase sid _) = none from AList.lookup_erase _ _] at h
        cases h
      · rw [lookup_reclaimEntry, if_pos rfl] at h
        cases h
        exact ⟨e, he, rfl⟩

theorem dropClosedStored_moves {me : Inner} {sid : Nat}
    (hd : ∀ e, me.streams.lookup sid = some e → e.state.recvDone = true) :
    Moves extra me (me.dropClosedStored sid).1 :=
  (reclaimStreamAccounting_moves hd).trans (closeStream_moves _ sid)

/-! ### Resetting a stream -/

/-- A stream closed by `st`, reclaimed and finished. -/
theorem closeWith_moves {me : Inner} {sid : Nat} {e : StreamEntry} {st : State}
    (he : me.streams.lookup sid = some e) (hc : st.isClosed = true) :
    Moves extra me ((me.setStream sid { e with state := st }).reclaimStreamAccounting sid) := by
  refine (Moves.common (.state he (.of_isClosed hc)) rfl).trans
    (reclaimStreamAccounting_moves fun e' h' => ?_)
  rw [lookup_setStream, if_pos rfl] at h'
  cases h'
  exact State.recvDone_of_isClosed hc

/-- Once closed and reclaimed, the stream may be answered with a RST_STREAM. -/
theorem closed_of_lookup_reclaim {me : Inner} {sid : Nat} {e : StreamEntry} {st : State}
    (hc : st.isClosed = true) {e' : StreamEntry}
    (h' : ((me.setStream sid { e with state := st }).reclaimStreamAccounting sid).streams.lookup
      sid = some e') : e'.state.isClosed = true := by
  obtain ⟨e₁, h₁, rfl⟩ := lookup_reclaimStreamAccounting h'
  rw [lookup_setStream, if_pos rfl] at h₁
  cases h₁
  exact hc

theorem resetStream_moves (me : Inner) (sid : Nat) (reason : Reason) (initiator : Initiator) :
    Moves extra me (me.resetStream sid reason initiator).1 := by
  unfold resetStream
  split
  · exact .refl
  · next e he =>
    split
    · next hc =>
      have hst : (if e.state.isReset then e.state
          else e.state.setReset sid reason initiator).isClosed = true := by
        split
        · exact hc
        · rfl
      generalize (if e.state.isReset then e.state
        else e.state.setReset sid reason initiator) = st at hst
      have hm : Moves extra me _ :=
        (closeWith_moves he hst).trans (closeStream_moves _ sid)
      dsimp only
      split
      · exact hm.trans (Moves.admin (enqueueResetExpiration_alike _ sid))
      · exact hm
    · have hm : Moves extra me _ :=
        closeWith_moves he (State.isClosed_setReset e.state sid reason initiator)
      refine ((hm.trans (Moves.common (.rst fun e' h' => ?_) rfl)).trans
        (closeStream_moves _ sid)).trans (Moves.admin (enqueueResetExpiration_alike _ sid))
      exact closed_of_lookup_reclaim (State.isClosed_setReset e.state sid reason initiator) h'

theorem finishStream_moves (me : Inner) (sid : Nat) : Moves extra me (me.finishStream sid).1 := by
  have hc : Moves extra me (me.closeStream sid).1 := closeStream_moves me sid
  unfold finishStream
  dsimp only
  split
  · exact hc
  · split
    · exact hc
    · next e he =>
      split
      · exact hc.trans (resetStream_moves _ sid _ _)
      · next hn =>
        refine hc.trans (reclaimStreamAccounting_moves fun e' h' => ?_)
        rw [he] at h'
        cases h'
        exact State.recvDone_of_isClosed (by simpa using hn)

/-! ### Aborting streams -/

/-- The moves of an abort: the unread bytes of the stream are forgotten. -/
def forgets (ids : List Nat) (me : Inner) : Kind → Prop
  | .forget n => ∃ sid ∈ ids, ∃ e, me.streams.lookup sid = some e ∧ n = e.recvUnreleased
  | _ => False

@[simp] theorem isClosed_abortState (st : State) (reason : Option Reason) :
    (abortState st reason).isClosed = true := by
  cases reason with
  | none => exact State.isClosed_recvEof st
  | some r => exact State.isClosed_handleError st _

theorem lookup_leaveSendQueue_ne {me : Inner} {sid k : Nat} (hk : k ≠ sid) :
    (me.leaveSendQueue sid).1.streams.lookup k = me.streams.lookup k := by
  unfold leaveSendQueue
  split
  · rfl
  · split
    · rfl
    · dsimp only
      split <;> exact AList.lookup_insert_ne hk

theorem lookup_leaveCapacityQueue_ne {me : Inner} {sid k : Nat} (hk : k ≠ sid) :
    (me.leaveCapacityQueue sid).1.streams.lookup k = me.streams.lookup k := by
  unfold leaveCapacityQueue
  split
  · rfl
  · split
    · rfl
    · dsimp only
      split <;> exact AList.lookup_insert_ne hk

/-- Closing a stream touches no other entry. -/
theorem lookup_closeStream_ne {me : Inner} {sid k : Nat} (hk : k ≠ sid) :
    (me.closeStream sid).1.streams.lookup k = me.streams.lookup k := by
  unfold closeStream
  split
  · rfl
  · next e he =>
    split
    · rfl
    · have hq : (((me.finishEntry sid e).leaveSendQueue sid).1.leaveCapacityQueue
          sid).1.streams.lookup k = me.streams.lookup k := by
        rw [lookup_leaveCapacityQueue_ne hk, lookup_leaveSendQueue_ne hk]
        exact AList.lookup_insert_ne hk
      simp only [streams_onStreamGone]
      split
      · exact (AList.lookup_erase_ne hk).trans hq
      · exact hq

theorem lookup_abortStream (me : Inner) (sid k : Nat) (reason : Option Reason) :
    (me.abortStream sid reason).1.streams.lookup k =
      if k = sid then none else me.streams.lookup k := by
  unfold abortStream
  by_cases hk : k = sid
  · subst hk
    rw [if_pos rfl]
    split
    · assumption
    · exact AList.lookup_erase _ _
  · rw [if_neg hk]
    split
    · rfl
    · exact (AList.lookup_erase_ne hk).trans
        ((lookup_closeStream_ne hk).trans (AList.lookup_insert_ne hk))

/-- The end of several streams: those not closed before are handed over, each once, and none is
left in the store. -/
theorem abortAll_spec (me : Inner) (reason : Option Reason) {ids : List Nat} (hn : ids.Nodup) :
    (me.abortAll reason ids).2.1.map Prod.fst =
        ids.filter (fun k => (me.streams.lookup k).any (!·.state.isClosed)) ∧
      ∀ k, (me.abortAll reason ids).1.streams.lookup k =
        if k ∈ ids then none else me.streams.lookup k := by
  induction ids generalizing me with
  | nil => exact ⟨rfl, fun k => by rw [if_neg List.not_mem_nil]; rfl⟩
  | cons sid ids ih =>
      obtain ⟨hsid, hids⟩ := List.nodup_cons.mp hn
      obtain ⟨hout, hlook⟩ := ih (me.abortStream sid reason).1 hids
      have hfirst : (me.abortStream sid reason).2.1.toList.map Prod.fst =
          [sid].filter (fun k => (me.streams.lookup k).any (!·.state.isClosed)) := by
        unfold abortStream
        split
        · next hnone => simp [hnone]
        · next e he => by_cases hc : e.state.isClosed = true <;> simp [he, hc]
      have hrest : ids.filter
            (fun k => ((me.abortStream sid reason).1.streams.lookup k).any (!·.state.isClosed)) =
          ids.filter (fun k => (me.streams.lookup k).any (!·.state.isClosed)) := by
        refine List.filter_congr fun k hk => ?_
        rw [lookup_abortStream, if_neg fun h : k = sid => hsid (h ▸ hk)]
      refine ⟨?_, fun k => ?_⟩
      · have hsplit : (me.abortAll reason (sid :: ids)).2.1.map Prod.fst =
            (me.abortStream sid reason).2.1.toList.map Prod.fst ++
              ((me.abortStream sid reason).1.abortAll reason ids).2.1.map Prod.fst :=
          List.map_append
        rw [hsplit, hfirst, hout, hrest, ← List.filter_append, List.singleton_append]
      · refine (hlook k).trans ?_
        rw [lookup_abortStream]
        by_cases hk : k = sid
        · simp [hk]
        · simp [hk]

theorem abortStream_moves (me : Inner) (sid : Nat) (reason : Option Reason) :
    Moves (forgets [sid] me) me (me.abortStream sid reason).1 := by
  unfold abortStream
  split
  · exact .refl
  · next e he =>
    dsimp only
    generalize hst : abortState e.state reason = st
    have hc : st.isClosed = true := hst ▸ isClosed_abortState e.state reason
    have hs : Moves (forgets [sid] me) me (me.setStream sid { e with state := st }) :=
      Moves.common (.state he (.of_isClosed hc)) rfl
    have hf : Moves (forgets [sid] me) (me.setStream sid { e with state := st }) _ :=
      Moves.one (.forget (AList.lookup_insert _) hc) ⟨sid, .head _, e, he, rfl⟩
    rw [setStream_setStream] at hf
    refine ((hs.trans hf).trans (closeStream_moves _ sid)).trans ?_
    generalize hm : me.setStream sid { e with
      state := st, recvUnreleased := 0, dataBudgetCharged := 0, recvReclaimed := true } = m
    have hl : m.streams.lookup sid = some { e with
        state := st, recvUnreleased := 0, dataBudgetCharged := 0, recvReclaimed := true } :=
      hm ▸ AList.lookup_insert _
    by_cases hfin : e.finished = true
    · rw [closeStream_of_finished hl hfin]
      exact Moves.common (.remove hl hfin rfl) rfl
    · have hn := lookup_closeStream hl hc (by simpa using hfin) rfl rfl
      exact Moves.admin (.perm _ (.of_eq (congrArg AList.entries
        (Store.erase_of_lookup_none hn).symm)))

theorem abortAll_moves (me : Inner) (reason : Option Reason) (ids : List Nat) :
    Moves (forgets ids me) me (me.abortAll reason ids).1 := by
  induction ids generalizing me with
  | nil => exact .refl
  | cons sid ids ih =>
      refine Reach.trans ((abortStream_moves me sid reason).mono ?_)
        ((ih (me.abortStream sid reason).1).mono ?_)
      · intro k hk
        cases k with
        | forget n =>
            obtain ⟨sid', hm, e, he, hn⟩ := hk
            rw [List.mem_singleton.mp hm] at he
            exact ⟨sid, .head _, e, he, hn⟩
        | _ => exact hk
      · intro k hk
        cases k with
        | forget n =>
            obtain ⟨sid', hm, e, he, hn⟩ := hk
            rw [lookup_abortStream] at he
            split at he
            · cases he
            · exact ⟨sid', .tail _ hm, e, he, hn⟩
        | _ => exact hk

end Httpunk.H2.Inner
