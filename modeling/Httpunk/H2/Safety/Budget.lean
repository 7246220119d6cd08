import Httpunk.H2.Safety.Drain
import Httpunk.H2.Safety.RecvLedger

/-!
# H2 — Safety — Budget

The DATA-framing budget of a server.  A small frame is charged to the budget and to its stream;
what a stream was charged goes back one frame at a time, or in bulk when its body is closed, it
is reset or it completes.  So what is left and what the streams carry is at least the maximum.

* `Funds`: a call that keeps this, and charges no stream whose body was closed.
* `dispatch_funds`, `call_funds`: every frame and every call is one.
* `Sys.budget_exact`: the budget of a server, in every state reached without an error.
-/

namespace Httpunk.H2

open Runs (Reach)
open Httpunk.H2.Inner

/-! ### Charges -/

/-- What a stream was charged and has not given back. -/
def chargeOf (_ : Nat) (e : StreamEntry) : Nat := e.dataBudgetCharged

namespace Inner

/-- The remaining budget. -/
def budgetLeft (me : Inner) : Nat := me.dataBudget.dataFrameBudget.current

/-- The budget's maximum. -/
def budgetMax (me : Inner) : Nat := me.dataBudget.dataFrameBudget.max

/-- The charges of the stored streams. -/
def charges (me : Inner) : Nat := me.streams.total chargeOf

/-- What is left and what is outstanding is the whole budget, at least. -/
def Funded (me : Inner) : Prop := me.budgetMax ≤ me.budgetLeft + me.charges

/-- A stream whose body was closed carries no charge. -/
def Settled (me : Inner) : Prop :=
  ∀ k e, me.streams.lookup k = some e → e.recvReclaimed = true → e.dataBudgetCharged = 0

end Inner

/-- A call that keeps the budget whole. -/
structure Funds (me s : Inner) : Prop where
  max : s.budgetMax = me.budgetMax
  funded : me.Funded → s.Funded
  settled : me.Settled → s.Settled

/-- `s'` is `s` as far as the charges go. -/
structure Bills (s s' : Inner) : Prop where
  stored : ∀ {k e}, s.streams.lookup k = some e → ∃ e', s'.streams.lookup k = some e' ∧
    e'.dataBudgetCharged = e.dataBudgetCharged ∧ e'.recvReclaimed = e.recvReclaimed
  absent : ∀ {k}, s.streams.lookup k = none → s'.streams.lookup k = none

variable {me s s' t : Inner} {sid : Nat} {e e' : StreamEntry}

theorem Still.bills (h : Still s s') : Bills s s' where
  stored := fun hk => by
    obtain ⟨e', he, hs⟩ := h.stored hk
    exact ⟨e', he, hs.dataBudgetCharged, hs.recvReclaimed⟩
  absent := h.absent

/-- One entry rewritten, its charge kept. -/
theorem Bills.write (he : s.streams.lookup sid = some e)
    (hc : e'.dataBudgetCharged = e.dataBudgetCharged) (hr : e'.recvReclaimed = e.recvReclaimed) :
    Bills s (s.setStream sid e') where
  stored := fun {k e₁} hk => by
    rw [lookup_setStream]
    split
    · next hks =>
      subst hks
      rw [he] at hk
      cases hk
      exact ⟨e', rfl, hc, hr⟩
    · exact ⟨e₁, hk, rfl, rfl⟩
  absent := fun {k} hk => by
    rw [lookup_setStream]
    split
    · next hks =>
      subst hks
      rw [he] at hk
      cases hk
    · exact hk

theorem Bills.back {k : Nat} (h : Bills s s') (hk : s'.streams.lookup k = some e') :
    ∃ e, s.streams.lookup k = some e ∧
      e'.dataBudgetCharged = e.dataBudgetCharged ∧ e'.recvReclaimed = e.recvReclaimed := by
  rcases hs : s.streams.lookup k with _ | e
  · rw [h.absent hs] at hk
    cases hk
  · obtain ⟨e₁, h₁, hc, hr⟩ := h.stored hs
    rw [hk] at h₁
    cases h₁
    exact ⟨e, rfl, hc, hr⟩

namespace Funds

theorem refl (me : Inner) : Funds me me := ⟨rfl, id, id⟩

theorem trans (h₁ : Funds me s) (h₂ : Funds s t) : Funds me t :=
  ⟨h₂.max.trans h₁.max, fun h => h₂.funded (h₁.funded h), fun h => h₂.settled (h₁.settled h)⟩

theorem bills (h : Bills me s) (hb : s.dataBudget = me.dataBudget) : Funds me s where
  max := by rw [Inner.budgetMax, hb]; rfl
  funded := fun hf => by
    have ht : s.charges = me.charges := Store.total_of_lookup
      (fun _ _ hk => let ⟨e', he, hc, _⟩ := h.stored hk; ⟨e', he, hc⟩) (fun _ => h.absent)
    unfold Inner.Funded Inner.budgetMax Inner.budgetLeft at hf ⊢
    rw [hb, ht]
    exact hf
  settled := fun hs k e' hk hr => by
    obtain ⟨e, he, hc, hr'⟩ := h.back hk
    rw [hc]
    exact hs k e he (hr'.symm.trans hr)

theorem still (h : Still me s) (hc : s.counts = me.counts) : Funds me s :=
  bills h.bills (congrArg Counts.dataBudget hc)

/-- One entry rewritten, its charge kept. -/
theorem write (he : me.streams.lookup sid = some e)
    (hc : e'.dataBudgetCharged = e.dataBudgetCharged) (hr : e'.recvReclaimed = e.recvReclaimed) :
    Funds me (me.setStream sid e') := bills (.write he hc hr) rfl

/-- A stream that carries no charge is dropped. -/
theorem erase (he : me.streams.lookup sid = some e) (h0 : e.dataBudgetCharged = 0) :
    Funds me { me with streams := me.streams.erase sid } where
  max := rfl
  funded := fun hf => by
    have ht := Store.total_erase (w := chargeOf) he
    unfold Inner.Funded Inner.charges at hf ⊢
    have hz : chargeOf sid e = 0 := h0
    change me.budgetMax ≤ me.budgetLeft + Store.total chargeOf (me.streams.erase sid)
    omega
  settled := fun hs k e₁ hk => by
    refine hs k e₁ ?_
    rw [Store.lookup_erase'] at hk
    split at hk
    · cases hk
    · exact hk

/-- A charge that goes back, from its stream to the budget. -/
theorem release {n : Nat} (he : me.streams.lookup sid = some e)
    (hc : e'.dataBudgetCharged + n = e.dataBudgetCharged)
    (hr : e'.recvReclaimed = true → e.recvReclaimed = true ∨ e'.dataBudgetCharged = 0) :
    Funds me { me.setStream sid e' with dataBudget := me.dataBudget.release n } where
  max := rfl
  funded := fun hf => by
    have ht := Store.total_insert (w := chargeOf) (u := e') he
    have hz : chargeOf sid e = e'.dataBudgetCharged + n := hc.symm
    have hz' : chargeOf sid e' = e'.dataBudgetCharged := rfl
    unfold Inner.Funded Inner.charges Inner.budgetMax Inner.budgetLeft at hf ⊢
    change me.dataBudget.dataFrameBudget.max ≤ min (me.dataBudget.dataFrameBudget.current + n)
      me.dataBudget.dataFrameBudget.max + Store.total chargeOf (me.streams.insert sid e')
    omega
  settled := fun hs k e₁ hk hrec => by
    rcases lookup_setStream_cases (s := me) hk with ⟨rfl, rfl⟩ | ⟨-, hj⟩
    · rcases hr hrec with h | h
      · have := hs _ e he h
        omega
      · exact h
    · exact hs k e₁ hj hrec

/-- A stream that carries no charge is rewritten, and carries none. -/
theorem settle (he : me.streams.lookup sid = some e) (h0 : e.dataBudgetCharged = 0)
    (h0' : e'.dataBudgetCharged = 0) : Funds me (me.setStream sid e') where
  max := rfl
  funded := fun hf => by
    have ht := Store.total_insert_same (w := chargeOf) (u := e') he (h0'.trans h0.symm)
    unfold Inner.Funded Inner.charges at hf ⊢
    change me.budgetMax ≤ me.budgetLeft + Store.total chargeOf (me.streams.insert sid e')
    omega
  settled := fun hs k e₁ hk hr => by
    rcases lookup_setStream_cases (s := me) hk with ⟨rfl, rfl⟩ | ⟨-, hj⟩
    · exact h0'
    · exact hs k e₁ hj hr

/-- A new stream carries no charge. -/
theorem insert (hn : me.streams.lookup sid = none) (h0 : e.dataBudgetCharged = 0) :
    Funds me (me.setStream sid e) where
  max := rfl
  funded := fun hf => by
    have ht := Store.total_insert_new (w := chargeOf) (v := e) hn
    unfold Inner.Funded Inner.charges at hf ⊢
    change me.budgetMax ≤ me.budgetLeft + Store.total chargeOf (me.streams.insert sid e)
    omega
  settled := fun hs k e₁ hk hr => by
    rcases lookup_setStream_cases (s := me) hk with ⟨rfl, rfl⟩ | ⟨-, hj⟩
    · exact h0
    · exact hs k e₁ hj hr

/-- The same budget and the same streams, under other fields. -/
theorem cast (h : Funds me s) (hs : t.streams = s.streams) (hb : t.dataBudget = s.dataBudget) :
    Funds me t := by
  refine h.trans (bills ⟨fun {k e} hk => ⟨e, by rw [hs]; exact hk, rfl, rfl⟩, fun {k} hk => ?_⟩ hb)
  rw [hs]
  exact hk

end Funds

namespace Inner

/-! ### The store -/

theorem maybeRemoveSettled_funds (me : Inner) (sid : Nat) : Funds me (me.maybeRemoveSettled sid) := by
  unfold maybeRemoveSettled
  split
  · exact .refl me
  · next e he =>
    split
    · next h =>
      simp only [Bool.and_eq_true, beq_iff_eq] at h
      exact .erase he h.2
    · exact .refl me

theorem reclaimConn_funds (me : Inner) (n : Nat) : Funds me (me.reclaimConn n) :=
  .still (.reclaimConn me n) (counts_reclaimConn me n)

/-- **The charge of a stream goes back in bulk.** -/
theorem reclaimStreamAccounting_funds (me : Inner) (sid : Nat) :
    Funds me (me.reclaimStreamAccounting sid) := by
  unfold reclaimStreamAccounting
  split
  · exact .refl me
  · next e he =>
    refine Funds.trans ?_ (maybeRemoveSettled_funds _ sid)
    unfold reclaimEntry
    dsimp only
    refine Funds.trans ?_ (reclaimConn_funds _ _)
    split
    · exact .release he (Nat.zero_add _) fun _ => .inr rfl
    · next h0 =>
      exact (Funds.settle he (by simpa using h0) rfl).cast rfl rfl

theorem closeStream_funds (me : Inner) (sid : Nat) : Funds me (me.closeStream sid).1 := by
  unfold closeStream
  split
  · exact .refl me
  · next e he =>
    split
    · exact .refl me
    · have hw : Funds me (me.setStream sid { e with finished := true, holdsSlot := false }) :=
        .write he rfl rfl
      have hfin : Funds me (me.finishEntry sid e) := hw.cast rfl rfl
      have hq : Still (me.finishEntry sid e)
          (((me.finishEntry sid e).leaveSendQueue sid).1.leaveCapacityQueue sid).1 :=
        (leaveSendQueue_still _ sid).trans (leaveCapacityQueue_still _ sid)
      have hc : (((me.finishEntry sid e).leaveSendQueue sid).1.leaveCapacityQueue sid).1.counts =
          (me.finishEntry sid e).counts := by
        rw [counts_leaveCapacityQueue, counts_leaveSendQueue]
      obtain ⟨e₁, h₁, hs₁⟩ := hq.stored (k := sid) (AList.lookup_insert _)
      have hidle := hfin.trans (.still hq hc)
      dsimp only
      refine Funds.trans ?_ (.still (onStreamGone_still _) (counts_onStreamGone _))
      split
      · next hd =>
        simp only [Bool.and_eq_true, beq_iff_eq] at hd
        exact hidle.trans (.erase h₁ (hs₁.dataBudgetCharged.trans hd.2))
      · exact hidle

theorem reclaimClose_funds (me : Inner) (sid : Nat) :
    Funds me ((me.reclaimStreamAccounting sid).closeStream sid).1 :=
  (reclaimStreamAccounting_funds me sid).trans (closeStream_funds _ sid)

theorem enqueueResetExpiration_funds (me : Inner) (sid : Nat) :
    Funds me (me.enqueueResetExpiration sid) :=
  .still (enqueueResetExpiration_still me sid) (counts_enqueueResetExpiration me sid)

theorem inResetStore_funds (me : Inner) (sid : Nat) : Funds me (me.inResetStore sid).1 :=
  .still (inResetStore_still me sid) (counts_inResetStore me sid)

theorem emit_funds (me : Inner) (f : OutFrame) : Funds me (me.emit f) := .still (.emit me f) rfl

theorem resetStream_funds (me : Inner) (sid : Nat) (reason : Reason) (initiator : Initiator) :
    Funds me (me.resetStream sid reason initiator).1 := by
  unfold resetStream
  split
  · exact .refl me
  · next e he =>
    have hset : ∀ st : State, Funds me (me.setStream sid { e with state := st }) := fun st =>
      .write he rfl rfl
    split
    · generalize (if e.state.isReset then e.state
        else e.state.setReset sid reason initiator) = st
      have hd := (hset st).trans (reclaimClose_funds _ sid)
      dsimp only
      split
      · exact hd.trans (enqueueResetExpiration_funds _ sid)
      · exact hd
    · have hd := ((hset (e.state.setReset sid reason initiator)).trans
        (reclaimStreamAccounting_funds _ sid)).trans (emit_funds _ (.rstStream sid reason))
      exact (hd.trans (closeStream_funds _ sid)).trans (enqueueResetExpiration_funds _ sid)

theorem finishStream_funds (me : Inner) (sid : Nat) : Funds me (me.finishStream sid).1 := by
  have hc := closeStream_funds me sid
  unfold finishStream
  dsimp only
  split
  · exact hc
  · split
    · exact hc
    · split
      · exact hc.trans (resetStream_funds _ sid .noError .user)
      · exact hc.trans (reclaimStreamAccounting_funds _ sid)

/-! ### Frames -/

theorem recvLookup_funds (me : Inner) (sid : Nat) : Funds me (me.recvLookup sid).1 := by
  unfold recvLookup
  split
  · split
    · exact .refl me
    · split
      · exact reclaimClose_funds me sid
      · exact .refl me
  · dsimp only
    repeat' split
    all_goals exact inResetStore_funds me sid

theorem applyContentLength_funds {f : Headers} {r : Option Err}
    (h : me.applyContentLength sid f = (s, r)) : Funds me s := by
  rw [← show (me.applyContentLength sid f).1 = s from congrArg Prod.fst h]
  unfold applyContentLength
  split
  · exact .refl me
  · next e he =>
    have hw : ∀ cl, Funds me (me.setStream sid { e with contentLength := cl }) := fun cl =>
      .write he rfl rfl
    dsimp only
    repeat' split
    all_goals first | exact .refl me | exact hw _

theorem rejectOversizeRequest_funds {r : Except Err Flags}
    (h : me.rejectOversizeRequest sid = (s, r)) : Funds me s := by
  rw [← show (me.rejectOversizeRequest sid).1 = s from congrArg Prod.fst h]
  unfold rejectOversizeRequest
  split
  · exact .refl me
  · next e he =>
    split
    · exact .refl me
    · next st _ =>
      have hset : Funds me (me.setStream sid { e with state := st }) := .write he rfl rfl
      have hhead := hset.trans (emit_funds _ (.headers sid (.response 431 []) true))
      dsimp only
      refine Funds.trans ?_ (closeStream_funds _ sid)
      split
      · refine Funds.trans (hhead.trans ?_) (enqueueResetExpiration_funds _ sid)
        have hl : ((me.setStream sid { e with state := st }).emit
            (.headers sid (.response 431 []) true)).streams.lookup sid =
            some { e with state := st } := AList.lookup_insert _
        refine Funds.trans ?_ (emit_funds _ _)
        exact .write hl rfl rfl
      · exact hhead

theorem recvRequest_funds {frame : Headers} (hn : me.streams.lookup frame.streamId = none)
    (spare : Bool) (before : Nat) (flags : Flags) :
    Funds me (me.recvRequest frame spare before flags).1 := by
  have hseen : Funds me { me with lastRecvId := frame.streamId } := (Funds.refl me).cast rfl rfl
  unfold recvRequest
  dsimp only
  split
  · exact .refl me
  · split
    · exact .refl me
    · split
      · exact hseen
      · split
        · exact hseen
        · split
          · exact hseen
          · next st _ =>
            have hnew : Funds me (me.setStream frame.streamId
                { StreamEntry.new me.peer.initialWindowSize me.recvInit false with
                  state := st }) := .insert hn rfl
            have hins : Funds me (({ me with lastRecvId := frame.streamId }).insertRequest
                frame.streamId st) := hnew.cast rfl rfl
            split
            · next h => exact hins.trans (applyContentLength_funds h)
            · next h =>
              have hcl := hins.trans (applyContentLength_funds h)
              split
              · split
                · next h' => exact hcl.trans (rejectOversizeRequest_funds h')
                · next h' => exact hcl.trans (rejectOversizeRequest_funds h')
              · exact hcl.cast rfl rfl

theorem recvHead_funds (frame : Headers) (before : Nat)
    (he : me.streams.lookup frame.streamId = some e) :
    Funds me (me.recvHead frame e before).1 := by
  unfold recvHead
  dsimp only
  split
  · exact .refl me
  · split
    · exact .refl me
    · next st _ =>
      have hset : Funds me (me.setStream frame.streamId { e with state := st }) :=
        .write he rfl rfl
      split
      · next h => exact hset.trans (applyContentLength_funds h)
      · next h =>
        have hcl := hset.trans (applyContentLength_funds h)
        repeat' split
        all_goals first | exact hcl | exact hcl.trans (closeStream_funds _ _)

theorem recvTrailers_funds (frame : Headers) (before : Nat)
    (he : me.streams.lookup frame.streamId = some e) :
    Funds me (me.recvTrailers frame e before).1 := by
  unfold recvTrailers
  dsimp only
  split
  · exact .refl me
  · split
    · exact .refl me
    · next st _ =>
      have hset : Funds me (me.setStream frame.streamId { e with state := st }) :=
        .write he rfl rfl
      split
      · exact hset
      · exact hset.trans (closeStream_funds _ _)

theorem recvHeadersUnknown_funds {frame : Headers}
    (hn : me.streams.lookup frame.streamId = none) (spare : Bool) (before : Nat) (flags : Flags) :
    Funds me (me.recvHeadersUnknown frame spare before flags).1 := by
  have hin := inResetStore_funds me frame.streamId
  unfold recvHeadersUnknown
  dsimp only
  split
  · exact hin
  · split
    · split <;> exact hin
    · exact hin.trans (recvRequest_funds ((inResetStore_still me _).absent hn) spare _ _)

theorem recvHeaders_funds (me : Inner) (frame : Headers) (spare : Bool) :
    Funds me (me.recvHeaders frame spare).1 := by
  unfold recvHeaders
  dsimp only
  split
  · next hn => exact recvHeadersUnknown_funds hn spare _ _
  · next e he =>
    split
    · exact .refl me
    · split
      · next hc =>
        have hd : Funds me (me.dropClosedStored frame.streamId).1 := reclaimClose_funds me _
        split
        · exact hd
        · exact hd.trans (recvHeadersUnknown_funds (dropClosedStored_gone he hc) spare _ _)
      · split
        · exact recvHead_funds frame _ he
        · exact recvTrailers_funds frame _ he

theorem releaseCapacityInner_funds (me : Inner) (sid n : Nat) :
    Funds me (me.releaseCapacityInner sid n) := by
  unfold releaseCapacityInner
  split
  · exact .refl me
  · next e he =>
    split
    · exact .refl me
    · have hw : ∀ fc, Funds me (me.setStream sid
          { e with recvUnreleased := e.recvUnreleased - n, recvFlow := fc }) := fun fc =>
        .write he rfl rfl
      dsimp only
      refine Funds.trans (Funds.trans ?_ (reclaimConn_funds _ n)) (maybeRemoveSettled_funds _ sid)
      split
      · exact hw _
      · split
        · exact (hw _).trans (emit_funds _ _)
        · exact hw _

theorem replenish_max (b : Budget) (n : Nat) : (b.replenish n).max = b.max := rfl

/-- A large frame takes nothing. -/
theorem le_replenish (b : Budget) (n : Nat) : b.current ≤ (b.replenish n).current + 0 :=
  Nat.le_min.mpr ⟨Nat.le_add_right _ _, b.bounded⟩

/-- What a frame is charged is taken from the budget. -/
theorem record_spec {c b : DataFrameCounts} {n : Nat} {r : Except Err Nat}
    (h : c.record n = (b, r)) : b.dataFrameBudget.max = c.dataFrameBudget.max ∧
      match r with
      | .ok charge => c.dataFrameBudget.current ≤ b.dataFrameBudget.current + charge
      | .error _ => b.dataFrameBudget = c.dataFrameBudget := by
  have hle := c.dataFrameBudget.bounded
  unfold DataFrameCounts.record at h
  split at h
  · dsimp only at h
    split at h
    · cases h
      exact ⟨rfl, rfl⟩
    · cases h
      exact ⟨rfl, Nat.le_add_right _ _⟩
  · split at h
    · dsimp only at h
      split at h
      · cases h
        exact ⟨rfl, rfl⟩
      · next b' hb =>
        cases h
        unfold Budget.consume at hb
        split at hb
        · cases hb
        · cases hb
          refine ⟨rfl, ?_⟩
          dsimp only
          omega
    · obtain ⟨rfl, rfl⟩ := Prod.mk.inj h
      exact ⟨replenish_max _ _, le_replenish _ _⟩

/-- **A frame is charged to the budget and to its stream**, whose body is open. -/
theorem recordDataFrame_funds {n : Nat} (he : me.streams.lookup sid = some e)
    (hr : e.recvReclaimed = false) : Funds me (me.recordDataFrame sid n).1 := by
  unfold recordDataFrame
  split
  · next b err hb =>
    obtain ⟨-, hcur⟩ := record_spec hb
    dsimp only at hcur
    refine ⟨congrArg Budget.max hcur, fun hf => ?_, id⟩
    unfold Funded budgetMax budgetLeft at hf ⊢
    rw [hcur]
    exact hf
  · next b charge hb =>
    obtain ⟨hmax, hcur⟩ := record_spec hb
    dsimp only at hcur ⊢
    rw [he]
    refine ⟨hmax, fun hf => ?_, fun hs k e₁ hk hrec => ?_⟩
    · have ht := Store.total_insert (w := chargeOf)
        (u := { e with dataBudgetCharged := e.dataBudgetCharged + charge }) he
      have hz : chargeOf sid { e with dataBudgetCharged := e.dataBudgetCharged + charge } =
          chargeOf sid e + charge := rfl
      unfold Funded charges budgetMax budgetLeft at hf ⊢
      change b.dataFrameBudget.max ≤ b.dataFrameBudget.current + Store.total chargeOf
        (me.streams.insert sid { e with dataBudgetCharged := e.dataBudgetCharged + charge })
      omega
    · rcases lookup_setStream_cases (s := me) hk with ⟨rfl, rfl⟩ | ⟨-, hj⟩
      · rw [show e.recvReclaimed = true from hrec] at hr
        cases hr
      · exact hs k e₁ hj hrec

/-- An entry that has not finished is still there after a release. -/
theorem lookup_releaseCapacityInner {n : Nat} (he : me.streams.lookup sid = some e)
    (hf : e.finished = false) : ∃ e', (me.releaseCapacityInner sid n).streams.lookup sid = some e' ∧
      e'.recvReclaimed = e.recvReclaimed := by
  have hr := @releaseCapacityInner_touches Mark.nothing me sid n
  unfold releaseCapacityInner
  rw [he]
  dsimp only
  split
  · exact ⟨e, he, rfl⟩
  · have hkeep : ∀ (m : Inner) (e₁ : StreamEntry), m.streams.lookup sid = some e₁ →
        e₁.finished = false → e₁.recvReclaimed = e.recvReclaimed →
        ∃ e', ((m.reclaimConn n).maybeRemoveSettled sid).streams.lookup sid = some e' ∧
          e'.recvReclaimed = e.recvReclaimed := fun m e₁ h₁ hf₁ hr₁ => by
      have h₂ : (m.reclaimConn n).streams.lookup sid = some e₁ := by
        rw [streams_reclaimConn]
        exact h₁
      rw [maybeRemoveSettled_of h₂, hf₁]
      exact ⟨e₁, h₂, hr₁⟩
    split
    · exact hkeep _ _ (AList.lookup_insert _) hf rfl
    · split
      · have hl : ∀ e₁ f, ((me.setStream sid e₁).emit f).streams.lookup sid = some e₁ :=
          fun _ _ => AList.lookup_insert _
        exact hkeep _ _ (hl _ _) hf rfl
      · exact hkeep _ _ (AList.lookup_insert _) hf rfl

theorem deliverData_funds (frame : Data) (he : me.streams.lookup frame.streamId = some e)
    (hc : e'.dataBudgetCharged = e.dataBudgetCharged) (hr : e'.recvReclaimed = e.recvReclaimed)
    (hr0 : e.recvReclaimed = false) (hf : e'.finished = false) (before : Nat) :
    Funds me (me.deliverData frame e' before).1 := by
  unfold deliverData
  dsimp only
  have hset : Funds me (me.setStream frame.streamId { e' with
      recvUnreleased := (e'.recvUnreleased + frame.flowControlledLen) % 2 ^ 32 }) :=
    .write he hc hr
  have hl : (me.setStream frame.streamId { e' with
      recvUnreleased := (e'.recvUnreleased + frame.flowControlledLen) % 2 ^ 32 }).streams.lookup
        frame.streamId = some { e' with
          recvUnreleased := (e'.recvUnreleased + frame.flowControlledLen) % 2 ^ 32 } :=
    AList.lookup_insert _
  generalize hm : (if frame.padding > 0 then
    (me.setStream frame.streamId { e' with
      recvUnreleased := (e'.recvUnreleased + frame.flowControlledLen) % 2 ^ 32
    }).releaseCapacityInner frame.streamId frame.padding
    else me.setStream frame.streamId { e' with
      recvUnreleased := (e'.recvUnreleased + frame.flowControlledLen) % 2 ^ 32 }) = m
  have hmf : Funds me m := by
    rw [← hm]
    split
    · exact hset.trans (releaseCapacityInner_funds _ _ _)
    · exact hset
  have hml : ∃ e₁, m.streams.lookup frame.streamId = some e₁ ∧ e₁.recvReclaimed = false := by
    rw [← hm]
    split
    · obtain ⟨e₁, h₁, h₂⟩ := lookup_releaseCapacityInner (n := frame.padding) hl hf
      exact ⟨e₁, h₁, h₂.trans (hr.trans hr0)⟩
    · exact ⟨_, hl, hr.trans hr0⟩
  obtain ⟨e₁, h₁, hrec⟩ := hml
  generalize hcd : (if (!frame.endStream) = true then
    m.recordDataFrame frame.streamId frame.data.length else (m, none)) = c
  have hcf : Funds me c.1 := by
    rw [← hcd]
    split
    · exact hmf.trans (recordDataFrame_funds h₁ hrec)
    · exact hmf
  obtain ⟨m₂, _ | err⟩ := c
  · dsimp only at hcf ⊢
    split
    · exact hcf
    · split
      · split
        · exact hcf
        · next e₂ he₂ =>
          split
          · exact hcf
          · next st _ =>
            have hst : Funds m₂ (m₂.setStream frame.streamId { e₂ with state := st }) :=
              .write he₂ rfl rfl
            exact (hcf.trans hst).trans (closeStream_funds _ _)
      · exact hcf
  · exact hcf

theorem consumeConnRecv_funds (me : Inner) (n : Nat) : Funds me (me.consumeConnRecv n).1 :=
  .still (consumeConnRecv_still me n) rfl

theorem recvDataOn_funds (frame : Data) (he : me.streams.lookup frame.streamId = some e)
    (hr : e.recvReclaimed = false) (hf : e.finished = false) (before : Nat) :
    Funds me (me.recvDataOn frame e before).1 := by
  unfold recvDataOn
  dsimp only
  have hcons := consumeConnRecv_funds me frame.flowControlledLen
  have hl : (me.consumeConnRecv frame.flowControlledLen).1.streams.lookup frame.streamId =
      some e := he
  split
  · next h =>
    rw [h] at hcons
    exact hcons
  · next m h =>
    rw [h] at hcons hl
    have hwrite : ∀ e', e'.dataBudgetCharged = e.dataBudgetCharged →
        e'.recvReclaimed = e.recvReclaimed → Funds me
          ((m.setStream frame.streamId e').reclaimConn frame.flowControlledLen) :=
      fun e' hc hr => (hcons.trans (.write hl hc hr)).trans (reclaimConn_funds _ _)
    split
    · exact hwrite _ rfl rfl
    · split
      · exact hwrite _ rfl rfl
      · split
        · exact hwrite _ rfl rfl
        · refine hcons.trans (deliverData_funds frame hl ?_ ?_ hr ?_ before)
          · rfl
          · rfl
          · exact hf

theorem ignoreData_funds {n : Nat} {r : Option Err} (h : me.ignoreData n = (s, r)) :
    Funds me s := by
  rw [← show (me.ignoreData n).1 = s from congrArg Prod.fst h]
  exact .still (ignoreData_still me n) (counts_ignoreData me n)

theorem recvData_funds (h : me.Wf) (frame : Data) : Funds me (me.recvData frame).1 := by
  have hl := recvLookup_funds me frame.streamId
  unfold recvData
  dsimp only
  split
  · next heq =>
    rw [heq] at hl
    split
    · next h' => exact hl.trans (ignoreData_funds h')
    · next h' => exact hl.trans (ignoreData_funds h')
  · next heq =>
    rw [heq] at hl
    split
    · next h' => exact hl.trans (ignoreData_funds h')
    · next h' => exact hl.trans (ignoreData_funds h')
  · next heq =>
    obtain ⟨rfl, rfl, e, he, hc⟩ := recvLookup_found heq
    rw [he]
    dsimp only
    split
    · exact .refl _
    · next hs =>
      have hopen : e.state.isRecvStreaming = true := by simpa using hs
      refine recvDataOn_funds frame he ?_ ?_ _
      · by_contra hr
        have hd := (h.reclaimed he (by simpa using hr)).1
        rw [State.isRecvStreaming_of_recvDone hd] at hopen
        cases hopen
      · by_contra hf
        rw [h.finished he (by simpa using hf)] at hc
        cases hc

theorem recvReset_funds (me : Inner) (frame : RstStream) : Funds me (me.recvReset frame).1 := by
  have hon : ∀ (m : Inner) e, m.streams.lookup frame.streamId = some e →
      Funds m (m.recvResetOn frame e).1 := fun m e he => by
    unfold recvResetOn
    dsimp only
    split
    · exact .refl m
    · refine Funds.trans ?_ (reclaimClose_funds _ frame.streamId)
      exact .write he rfl rfl
  unfold recvReset
  dsimp only
  split
  · exact .refl me
  · split
    · split
      · exact .refl me
      · split <;> exact .refl me
    · next e he =>
      split
      · split
        · exact .refl me
        · have hins : Funds me { me with
              remoteResetPending := insert frame.streamId me.remoteResetPending } :=
            (Funds.refl me).cast rfl rfl
          refine hins.trans (hon _ e ?_)
          exact he
      · exact hon me e he

/-- **Every frame keeps the budget whole.** -/
theorem dispatch_funds (h : me.Wf) (hr : me.role = .server) (f : Frame) :
    Funds me (me.dispatch f).1 := by
  cases f with
  | headers f => exact recvHeaders_funds me f _
  | data f => exact recvData_funds h f
  | windowUpdate f => exact .still (recvWindowUpdate_still me f) (counts_recvWindowUpdate me f)
  | settings f => exact .still (recvSettings_still me f) (counts_recvSettings me f)
  | ping f =>
      have hc : (me.recvPing f).1.dataBudget = me.dataBudget := by
        unfold recvPing
        dsimp only
        repeat' split
        all_goals rfl
      exact .bills (recvPing_still me f).bills hc
  | goAway f =>
      simp only [dispatch, recvGoAway]
      split
      · exact .refl me
      · rw [hr]
        exact (Funds.refl me).cast rfl rfl
  | rstStream f => exact recvReset_funds me f
  | priority _ => exact .refl me
  | streamError _ _ _ => exact .refl me

/-! ### Calls -/

theorem sendEmpty_funds (he : me.streams.lookup sid = some e) (endStream : Bool) :
    Funds me (me.sendEmpty sid e endStream).1 := by
  have hem := emit_funds me (.data sid [] endStream)
  unfold sendEmpty
  dsimp only
  split
  · split
    · exact hem
    · next st _ =>
      have hset : Funds (me.emit (.data sid [] endStream))
          ((me.emit (.data sid [] endStream)).setStream sid { e with state := st }) :=
        .write he rfl rfl
      exact (hem.trans hset).trans (finishStream_funds _ sid)
  · exact hem

theorem queueData_funds (me : Inner) (sid : Nat) (chunk : Bytes) (last done : Bool)
    (before : Nat) (flags : Flags) :
    Funds me (me.queueData sid chunk last done before flags).1 := by
  have hem : Funds me { me.emit (.data sid chunk last) with
      credit := addCredit me.credit sid chunk.length } := (Funds.refl me).cast rfl rfl
  unfold queueData
  dsimp only
  split
  · exact .refl me
  · split
    · split
      · exact hem
      · next e he =>
        split
        · exact hem
        · next st _ =>
          refine (hem.trans ?_).trans (finishStream_funds _ sid)
          exact .write he rfl rfl
    · exact hem

theorem afterFrame_funds (me : Inner) (sid : Nat) (e : StreamEntry) (n want : Nat) :
    Funds me (me.afterFrame sid e n want).1 :=
  .still (afterFrame_still me sid e n want) (counts_afterFrame me sid e n want)

theorem frameData_funds (he : me.streams.lookup sid = some e) (data : Bytes) (offset : Nat)
    (endStream : Bool) (budget before : Nat) :
    Funds me (me.frameData sid e data offset endStream budget before).1 := by
  unfold frameData
  dsimp only
  split
  · exact (Funds.refl me).cast rfl rfl
  · next conn _ =>
    have hw : ∀ e', e'.dataBudgetCharged = e.dataBudgetCharged →
        e'.recvReclaimed = e.recvReclaimed →
        Funds me (({ me with connSend := conn } : Inner).setStream sid e') := fun e' hc hr => by
      have hset : Funds me (me.setStream sid e') := .write he hc hr
      exact hset.cast rfl rfl
    split
    · exact hw _ rfl rfl
    · refine ((hw _ ?_ ?_).trans (afterFrame_funds _ _ _ _ _)).trans
        (queueData_funds _ _ _ _ _ _ _)
      · rfl
      · rfl

theorem sendTurn_funds (me : Inner) (sid : Nat) (data : Bytes) (offset : Nat) (endStream : Bool)
    (budget before : Nat) : Funds me (me.sendTurn sid data offset endStream budget before).1 := by
  unfold sendTurn
  split
  · exact .refl me
  · next e he =>
    split
    · exact .still (yieldSendTurn_still me sid) (counts_yieldSendTurn me sid)
    · split
      · exact .refl me
      · exact frameData_funds he data offset endStream budget before

theorem sendChunk_funds (he : me.streams.lookup sid = some e) (data : Bytes) (offset : Nat)
    (endStream : Bool) : Funds me (me.sendChunk sid e data offset endStream).1 := by
  have hfront : Funds me (me.leaveWaiting sid e).sendFront.1 :=
    (Funds.still (leaveWaiting_still he) (counts_leaveWaiting me sid e)).trans
      ((Funds.refl _).cast rfl rfl)
  have henq : ∀ m : Inner, Funds m (m.enqueueSend sid) := fun m =>
    .still (enqueueSend_still m sid) (counts_enqueueSend m sid)
  unfold sendChunk
  dsimp only
  split
  · refine Funds.trans ?_ (.still (leaveSendQueue_still _ sid) (counts_leaveSendQueue _ sid))
    split
    · exact .still (enqueueCapacity_still me sid) (counts_enqueueCapacity me sid)
    · exact .refl me
  · split
    · split
      · exact hfront.trans (henq _)
      · exact hfront.trans (sendTurn_funds _ _ _ _ _ _ _)
    · exact (hfront.trans (henq _)).trans (sendTurn_funds _ _ _ _ _ _ _)

theorem sendData_funds (me : Inner) (sid : Nat) (data : Bytes) (offset : Nat)
    (endStream : Bool) : Funds me (me.sendData sid data offset endStream).1 := by
  unfold sendData
  split
  · exact .refl me
  · next e he =>
    split
    · exact .refl me
    · split
      · exact sendEmpty_funds he endStream
      · exact sendChunk_funds he data offset endStream

theorem sendTrailers_funds (me : Inner) (sid : Nat) (trailers : Fields) :
    Funds me (me.sendTrailers sid trailers).1 := by
  unfold sendTrailers
  dsimp only
  split
  · exact .refl me
  · next e he =>
    split
    · exact .refl me
    · split
      · exact .refl me
      · next st _ =>
        have hset : Funds me (me.setStream sid { e with state := st }) := .write he rfl rfl
        exact (hset.trans (emit_funds _ _)).trans (finishStream_funds _ sid)

theorem sendResponseHead_funds (me : Inner) (sid status : Nat) (fields : Fields)
    (endStream : Bool) (date : String) :
    Funds me (me.sendResponseHead sid status fields endStream date).1 := by
  unfold sendResponseHead
  dsimp only
  split
  · exact .refl me
  · split
    · exact .refl me
    · next e he =>
      split
      · exact .refl me
      · split
        · exact .refl me
        · split
          · exact .refl me
          · next st _ =>
            have hset : Funds me (me.setStream sid { e with state := st }) := .write he rfl rfl
            have hem := fun f => hset.trans (emit_funds _ f)
            split
            · exact (hem _).trans (finishStream_funds _ sid)
            · exact hem _

theorem resetOnError_funds (me : Inner) (sid : Nat) (reason : Reason) :
    Funds me (me.resetOnError sid reason).1 := by
  have hcount : Funds me { me with localErrorResets := me.localErrorResets + 1 } :=
    (Funds.refl me).cast rfl rfl
  unfold resetOnError
  dsimp only
  split
  · exact .refl me
  · split
    · exact hcount.trans (resetStream_funds _ sid reason .library)
    · refine Funds.trans ?_ (emit_funds _ _)
      split
      · exact hcount.trans (enqueueResetExpiration_funds _ sid)
      · exact hcount

theorem acloseBody_funds (me : Inner) (sid : Nat) : Funds me (me.acloseBody sid).1 := by
  unfold acloseBody
  dsimp only
  split
  · exact .refl me
  · split
    · exact reclaimClose_funds me sid
    · exact resetStream_funds me sid .cancel .user

/-- **The charge of one frame goes back when its chunk leaves the buffer**, and no more than the
stream still carries. -/
theorem releaseDataFrame_funds (me : Inner) (sid n : Nat) : Funds me (me.releaseDataFrame sid n) := by
  unfold releaseDataFrame
  split
  · exact .refl me
  · next e he =>
    split
    · exact .refl me
    · refine Funds.trans ?_ (maybeRemoveSettled_funds _ sid)
      exact .release he (Nat.sub_add_cancel (Nat.min_le_right _ _)) .inl

theorem creditAll_funds (me : Inner) (woken : List Nat) (batch : List (Nat × Nat)) :
    Funds me (me.creditAll woken batch).1 := by
  induction batch generalizing me woken with
  | nil => exact .refl me
  | cons p batch ih =>
      unfold creditAll
      split
      · exact ih me woken
      · next e he =>
        have hw : Funds me (me.setStream p.1
            { e with sendBuffered := e.sendBuffered - p.2, turnFrames := 0 }) := .write he rfl rfl
        exact hw.trans (ih _ _)

/-- **Every call keeps the budget whole**, but the failure of the connection. -/
theorem call_funds (hr : me.role = .server) (c : Call)
    (hfail : ∀ exc message, c ≠ .fail exc message)
    (hopen : ∀ request eos isHead, c = .openStream request eos isHead → me.role = .client) :
    Funds me (me.call c).1 := by
  have hfields : ∀ t : Inner, t.streams = me.streams → t.dataBudget = me.dataBudget → Funds me t :=
    fun t hs hb => (Funds.refl me).cast hs hb
  cases c with
  | openStream request eos isHead =>
      have := hopen request eos isHead rfl
      rw [hr] at this
      cases this
  | fail exc message => exact absurd rfl (hfail exc message)
  | sendData sid data offset eos => exact sendData_funds me sid data offset eos
  | sendTrailers sid trailers => exact sendTrailers_funds me sid trailers
  | sendResponseHead sid status fields eos date =>
      exact sendResponseHead_funds me sid status fields eos date
  | resetStream sid reason initiator => exact resetStream_funds me sid reason initiator
  | acloseBody sid => exact acloseBody_funds me sid
  | releaseCapacity sid n => exact releaseCapacityInner_funds me sid n
  | releaseDataFrame sid n => exact releaseDataFrame_funds me sid n
  | creditWritten =>
      exact (hfields { me with inflightCredit := [] } rfl rfl).trans (creditAll_funds _ _ _)
  | nextCapacityWake =>
      exact (Funds.still (admitCapacityFront_still me) (counts_admitCapacityFront me)).trans
        ((Funds.refl _).cast rfl rfl)
  | tryClaimSlot =>
      refine hfields _ ?_ ?_ <;> simp only [call, tryClaimSlot] <;> split <;> rfl
  | writerStart =>
      refine hfields _ ?_ ?_ <;> simp only [call, writerStart] <;> split <;> rfl
  | beginGracefulShutdown =>
      refine hfields _ ?_ ?_ <;> simp only [call, beginGracefulShutdown] <;> split <;> rfl
  | _ => exact hfields _ rfl rfl

end Inner

/-! ### The driver -/

namespace Sys

variable {σ σ' : Sys} {a : Action} {cfg : Config}

/-- **Every step keeps the budget whole**, where it leaves no error. -/
theorem step_funds (h : σ.Server) (hs : Step σ a σ') (he : σ'.inner.error = none) :
    Funds σ.inner σ'.inner := by
  cases a with
  | recv f =>
      obtain ⟨-, rfl⟩ := hs.recv
      rw [inner_recv]
      exact dispatch_funds h.ok.wf h.role f
  | call c =>
      obtain ⟨hal, rfl⟩ := hs.call
      refine call_funds h.role c ?_ ?_
      · rintro exc message rfl
        exact Inner.failed_error σ.inner exc message he
      · rintro request eos isHead rfl
        simpa [allowed] using hal
  | pump =>
      unfold Step step pumpStep at hs
      cases hp : σ.pump with
      | resetting sid reason =>
          simp only [hp] at hs
          split at hs <;> cases hs <;> exact resetOnError_funds _ _ _
      | closing reason debugData e =>
          simp only [hp] at hs
          cases hs
          exact emit_funds _ _
      | failing e =>
          simp only [hp] at hs
          cases hs
          exact absurd he (Inner.failed_error σ.inner (some e) "")
      | running => simp only [hp] at hs; cases hs
      | done => simp only [hp] at hs; cases hs
  | reply =>
      unfold Step step at hs
      dsimp only at hs
      split at hs <;> cases hs
      exact .still (maybeGoawayReply_still _) (counts_maybeGoawayReply _)
  | raised e =>
      unfold Step step at hs
      dsimp only at hs
      split at hs <;> cases hs
      exact .refl _
  | rehash m =>
      unfold Step step at hs
      dsimp only at hs
      split at hs
      · next hm =>
        cases hs
        exact .still (Still.perm σ.inner hm) rfl
      · cases hs
  | flush =>
      cases hs
      exact (Funds.refl _).cast rfl rfl
  | tick d =>
      cases hs
      exact (Funds.refl _).cast rfl rfl

/-- The budget of a server without an error: its maximum is the configured one, it is whole, and
no stream whose body was closed carries a charge. -/
structure Budgeted (cfg : Config) (σ : Sys) : Prop where
  max : σ.inner.budgetMax =
    (DataFrameCounts.new cfg.dataFrameBudget cfg.connectionWindow).dataFrameBudget.max
  funded : σ.inner.Funded
  settled : σ.inner.Settled

theorem budgeted_init (cfg : Config) : Budgeted cfg (init cfg) := by
  obtain ⟨fc, fs, hb, -, -, -⟩ := Inner.begin_spec cfg
  refine ⟨?_, ?_, ?_⟩
  · rw [inner_init, hb]
    rfl
  · rw [inner_init, hb]
    exact Nat.le_refl _
  · rw [inner_init, hb]
    intro k e hk
    cases hk

theorem Budgeted.step (h : σ.Server) (hb : σ.inner.error = none → Budgeted cfg σ)
    (hs : Step σ a σ') (he : σ'.inner.error = none) : Budgeted cfg σ' := by
  have hprev : σ.inner.error = none := by
    rcases hw : σ.inner.error with _ | err
    · rfl
    · rw [(h.ok.grows hs).error (by rw [hw]; rfl), hw] at he
      cases he
  have hf := step_funds h hs he
  have hb := hb hprev
  exact ⟨hf.max.trans hb.max, hf.funded hb.funded, hf.settled hb.settled⟩

/-- **The DATA-framing budget neither leaks nor is credited twice.**  In every state a server
reaches without an error, what remains is at most the configured maximum, and with the charges
of the stored streams at least that; so it is restored when no stream carries a charge, and a
stream that has ended, or whose body was closed, carries none. -/
theorem budget_exact (hr : cfg.role = .server) (r : Reached cfg σ) (he : σ.inner.error = none) :
    σ.inner.budgetMax =
        (DataFrameCounts.new cfg.dataFrameBudget cfg.connectionWindow).dataFrameBudget.max ∧
      σ.inner.budgetLeft ≤ σ.inner.budgetMax ∧
      σ.inner.budgetMax ≤ σ.inner.budgetLeft + σ.inner.charges ∧
      ((∀ k e, σ.inner.streams.lookup k = some e → e.dataBudgetCharged = 0) →
        σ.inner.budgetLeft = σ.inner.budgetMax) ∧
      ∀ k e, σ.inner.streams.lookup k = some e →
        e.state.isClosed = true ∨ e.finished = true ∨ e.recvReclaimed = true →
        e.dataBudgetCharged = 0 := by
  have hinv : σ.Server ∧ (σ.inner.error = none → Budgeted cfg σ) :=
    Reach.invariant (I := fun σ : Sys => σ.Server ∧ (σ.inner.error = none → Budgeted cfg σ)) r
      ⟨server_init hr, fun _ => budgeted_init cfg⟩ fun ⟨hsv, hb⟩ hs _ =>
        ⟨hsv.step hs, Budgeted.step hsv hb hs⟩
  obtain ⟨hsv, hb⟩ := hinv
  have hb := hb he
  have hle : σ.inner.budgetLeft ≤ σ.inner.budgetMax :=
    σ.inner.dataBudget.dataFrameBudget.bounded
  refine ⟨hb.max, hle, hb.funded, fun h0 => ?_, fun k e hk hend => ?_⟩
  · have hz : σ.inner.charges = 0 := Store.total_eq_zero.mpr h0
    have hf : σ.inner.budgetMax ≤ σ.inner.budgetLeft + σ.inner.charges := hb.funded
    omega
  · rcases hend with hc | hf | hrec
    · -- a server stores no stream that is closed
      have ho := (hsv.serves k e hk).resolve_right id
      rw [State.isSendClosed_of_isClosed hc] at ho
      cases ho
    · have ho := (hsv.serves k e hk).resolve_right id
      rw [State.isSendClosed_of_isClosed (hsv.ok.wf.finished hk hf)] at ho
      cases ho
    · exact hb.settled k e hk hrec

/-- A request with two small DATA frames, of which one is read. -/
def smallFrames : List Action :=
  [.recv (.headers { streamId := 1, inRange := inRange_one, endStream := false }),
    .recv (.data { streamId := 1, inRange := inRange_one, endStream := false, data := [9, 8], padding := 0 }),
    .recv (.data { streamId := 1, inRange := inRange_one, endStream := false, data := [5], padding := 0 }),
    .call (.releaseDataFrame 1 2)]

/-- Between the frames the budget is short by what the stream was charged. -/
theorem budget_exact_frames : ∃ σ, Reached serverConfig σ ∧
    σ.inner.budgetLeft + 255 = σ.inner.budgetMax ∧ σ.inner.budgetMax ≤
      σ.inner.budgetLeft + σ.inner.charges := by
  obtain ⟨σ, r, hσ⟩ := reached_of_exec serverConfig smallFrames (fun σ =>
    σ.inner.error = none ∧ σ.inner.budgetLeft + 255 = σ.inner.budgetMax) (by decide +kernel)
  simp only [decide_eq_true_eq] at hσ
  exact ⟨σ, r, hσ.2, (budget_exact rfl r hσ.1).2.2.1⟩

end Sys

end Httpunk.H2
