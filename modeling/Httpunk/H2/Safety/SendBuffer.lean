import Httpunk.H2.Life.Driver

/-!
# H2 — Safety — SendBuffer

What a stream has buffered for sending is what is credited to it: the bytes pending, and those
taken with a batch that is not yet reported written.  The bytes go back with the batch, to the
stream if it is still stored, and to nobody otherwise.

* `Inner.CreditExact`: the books of every stream, up to a debt that a send runs up within its
  own call.
* `Inner.creditsExactly`: no subtraction of `credit_written` saturates.
* `Sys.send_buffer_exact`: both hold in every state a connection reaches, and no stream buffers
  more than it is configured to.
-/

namespace Httpunk.H2

open Runs (Reach)

/-! ### Credit ledgers -/

/-- The bytes of one stream in a credit ledger add up. -/
theorem creditOf_append (k : Nat) (a b : List (Nat × Nat)) :
    creditOf k (a ++ b) = creditOf k a + creditOf k b := by
  induction a with
  | nil => exact (Nat.zero_add _).symm
  | cons p a ih =>
      obtain ⟨sid, n⟩ := p
      simp only [List.cons_append, creditOf, ih, Nat.add_assoc]

/-- Merged with the last entry or not, the bytes are added. -/
theorem creditOf_addCredit (credit : List (Nat × Nat)) (sid n k : Nat) :
    creditOf k (Inner.addCredit credit sid n) =
      creditOf k credit + if sid = k then n else 0 := by
  unfold Inner.addCredit
  split
  · next last m hl =>
    obtain ⟨init, rfl⟩ : ∃ init, credit = init ++ [(last, m)] :=
      ⟨_, (List.dropLast_append_getLast? _ hl).symm⟩
    split
    · next h =>
      subst h
      rw [List.dropLast_concat, creditOf_append, creditOf_append]
      simp only [creditOf]
      split <;> omega
    · rw [creditOf_append]
      simp only [creditOf, Nat.add_zero]
  · next hl =>
    rw [List.getLast?_eq_none_iff.mp hl]
    simp only [creditOf, Nat.add_zero, Nat.zero_add]

namespace Inner

/-- The bytes of a stream not yet reported written. -/
def creditDue (me : Inner) (k : Nat) : Nat := creditOf k me.credit + creditOf k me.inflightCredit

/-- Every subtraction in the loop of `credit_written` is exact. -/
def creditsExactly : Inner → List (Nat × Nat) → Prop
  | _, [] => True
  | me, (sid, n) :: batch =>
    match me.streams.lookup sid with
    | none => me.creditsExactly batch
    | some e => n ≤ e.sendBuffered ∧
      (me.setStream sid
        { e with sendBuffered := e.sendBuffered - n, turnFrames := 0 }).creditsExactly batch

/-- A batch within what each stream has buffered is subtracted exactly. -/
theorem creditsExactly_of_le {me : Inner} {batch : List (Nat × Nat)}
    (h : ∀ {k e}, me.streams.lookup k = some e → creditOf k batch ≤ e.sendBuffered) :
    me.creditsExactly batch := by
  induction batch generalizing me with
  | nil => trivial
  | cons p batch ih =>
      obtain ⟨sid, n⟩ := p
      unfold creditsExactly
      split
      · next hn =>
        refine ih fun {k e} hk => ?_
        have hle := h hk
        unfold creditOf at hle
        omega
      · next e he =>
        have hsid := h he
        rw [creditOf, if_pos rfl] at hsid
        refine ⟨by omega, ih fun {k e₁} hk => ?_⟩
        rcases lookup_setStream_cases hk with ⟨rfl, rfl⟩ | ⟨-, hk'⟩
        · change creditOf k batch ≤ e.sendBuffered - n
          omega
        · have hle := h hk'
          unfold creditOf at hle
          omega

/-! ### The books of a connection -/

/-- Each stream has buffered what is due to it, and `debt` that a send has not credited yet. -/
structure CreditExact (me : Inner) (debt : Nat → Nat) : Prop where
  buffered : ∀ {k e}, me.streams.lookup k = some e → e.sendBuffered = me.creditDue k + debt k
  bounded : ∀ {k e}, me.streams.lookup k = some e → e.sendBuffered ≤ me.maxSendBufSize
  unused : ∀ {k}, ¬me.Used k → me.creditDue k + debt k = 0
  stored : me.StoredUsed

/-- No debt. -/
def settled : Nat → Nat := fun _ => 0

end Inner

open Httpunk.H2.Inner

/-- The debt a touch leaves: a send buffers first and credits after. -/
def Mark.debt (m : Mark) (debt : Nat → Nat) (k : Nat) : Nat :=
  match m with
  | .buffer sid n => if sid = k then debt k + n else debt k
  | .credit sid n => if sid = k then debt k - n else debt k
  | _ => debt k

/-- A credit pays a debt there is. -/
def Mark.Owed (debt : Nat → Nat) : Mark → Prop
  | .credit sid n => n ≤ debt sid
  | _ => True

variable {s s' : Inner} {m : Mark} {k : Nat} {debt : Nat → Nat}

/-- What is due to a stream after a touch. -/
theorem Touch.creditDue (t : Touch s m s') :
    m = .written ∧ s'.creditDue k = creditOf k s.credit ∨
      m ≠ .written ∧ s'.creditDue k = s.creditDue k + match m with
        | .credit sid n => if sid = k then n else 0
        | _ => 0 := by
  -- an entry settled and kept, or removed, leaves the ledgers
  have kept : ∀ (t : Inner) sid, (t.maybeRemoveSettled sid).creditDue k = t.creditDue k :=
    fun t sid => by
      obtain ⟨m, hm⟩ := maybeRemoveSettled_eq t sid
      rw [hm]
      rfl
  cases t with
  | still h => exact .inr ⟨(by intro h; cases h), by rw [creditDue, h.credit, h.inflightCredit]; rfl⟩
  | finish _ _ _ => exact .inr ⟨(by intro h; cases h), kept _ _⟩
  | settle _ => exact .inr ⟨(by intro h; cases h), kept _ _⟩
  | credit =>
      refine .inr ⟨(by intro h; cases h), ?_⟩
      change creditOf k (addCredit s.credit _ _) + creditOf k s.inflightCredit = _
      rw [creditOf_addCredit, creditDue]
      dsimp only
      omega
  | take =>
      refine .inr ⟨(by intro h; cases h), ?_⟩
      change 0 + creditOf k (s.inflightCredit ++ s.credit) = _
      rw [creditOf_append, creditDue]
      dsimp only
      omega
  | written =>
      obtain ⟨m, hm⟩ := creditAll_eq { s with inflightCredit := [] } [] s.inflightCredit
      refine .inl ⟨rfl, ?_⟩
      rw [creditWritten, creditDue, hm]
      rfl
  | _ => exact .inr ⟨(by intro h; cases h), rfl⟩

/-- What is due and the debt, together, move only with a batch written or bytes buffered. -/
theorem Touch.due_debt (t : Touch s m s') (hm : m.Owed debt) (hw : m ≠ .written)
    (hb : ∀ n, m ≠ .buffer k n) :
    s'.creditDue k + m.debt debt k = s.creditDue k + debt k := by
  rcases t.creditDue (k := k) with ⟨rfl, -⟩ | ⟨-, hd⟩
  · exact absurd rfl hw
  · rw [hd]
    unfold Mark.debt
    cases m with
    | buffer sid n =>
        dsimp only
        rw [if_neg (fun hk => hb n (by rw [hk]))]
        rfl
    | credit sid n =>
        dsimp only
        have hn : n ≤ debt sid := hm
        split
        · next hk => subst hk; omega
        · rfl
    | _ => rfl

/-- The books after a batch is reported written: each stream gets its bytes back, those of a
stream that has left are nobody's. -/
theorem Inner.CreditExact.written (h : s.CreditExact debt) :
    s.creditWritten.1.CreditExact debt := by
  have hk := (Touch.written (s := s)).keeps
  have hdue : ∀ k, s.creditWritten.1.creditDue k = creditOf k s.credit := fun k => by
    rcases (Touch.written (s := s)).creditDue (k := k) with ⟨-, hd⟩ | ⟨hw, -⟩
    · exact hd
    · exact absurd rfl hw
  have back : ∀ {k e'}, s.creditWritten.1.streams.lookup k = some e' →
      ∃ e, s.streams.lookup k = some e ∧
        e'.sendBuffered = e.sendBuffered - creditOf k s.inflightCredit := fun {k e'} he => by
    obtain ⟨t, ht⟩ := lookup_creditAll { s with inflightCredit := [] } [] s.inflightCredit k
    obtain ⟨e, hl, rfl⟩ := Option.map_eq_some_iff.mp (ht.symm.trans he)
    exact ⟨e, hl, rfl⟩
  constructor
  · intro k e' he
    obtain ⟨e, hl, hb⟩ := back he
    have hsum := h.buffered hl
    rw [creditDue] at hsum
    rw [hdue, hb]
    omega
  · intro k e' he
    obtain ⟨e, hl, hb⟩ := back he
    have hle := h.bounded hl
    rw [hk.maxSendBufSize, hb]
    omega
  · intro k hu
    have h0 := h.unused fun hs => hu (hk.used hs)
    rw [creditDue] at h0
    rw [hdue]
    omega
  · exact Touch.written.storedUsed h.stored

/-- The books while a send has buffered its bytes and not yet credited them. -/
theorem Inner.CreditExact.buffer {sid n : Nat} {e : StreamEntry} (h : s.CreditExact debt)
    (he : s.streams.lookup sid = some e) (hn : e.sendBuffered + n ≤ s.maxSendBufSize) :
    (s.setStream sid { e with sendBuffered := e.sendBuffered + n }).CreditExact
      ((Mark.buffer sid n).debt debt) := by
  have hbuf := h.buffered he
  constructor
  · intro k e' hl
    rcases lookup_setStream_cases hl with ⟨rfl, rfl⟩ | ⟨hne, hl'⟩
    · simp only [Mark.debt, if_pos]
      change e.sendBuffered + n = s.creditDue k + (debt k + n)
      omega
    · simp only [Mark.debt, if_neg (Ne.symm hne)]
      exact h.buffered hl'
  · intro k e' hl
    rcases lookup_setStream_cases hl with ⟨rfl, rfl⟩ | ⟨-, hl'⟩
    · exact hn
    · exact h.bounded hl'
  · intro k hu
    have hne : sid ≠ k := by
      rintro rfl
      exact hu (h.stored he)
    simp only [Mark.debt, if_neg hne]
    exact h.unused hu
  · exact (Touch.buffer he hn).storedUsed h.stored

/-- **A touch keeps the books**, where a credit pays what was buffered before it. -/
theorem Touch.creditExact (t : Touch s m s') (h : s.CreditExact debt) (hm : m.Owed debt) :
    s'.CreditExact (m.debt debt) := by
  by_cases hw : m = .written
  · subst hw
    cases t
    exact h.written
  by_cases hbuf : ∃ sid n, m = .buffer sid n
  · obtain ⟨sid, n, rfl⟩ := hbuf
    cases t with
    | buffer he hn => exact h.buffer he hn
  have hb : ∀ k n, m ≠ .buffer k n := fun k n hk => hbuf ⟨k, n, hk⟩
  have hk := t.keeps
  constructor
  · intro k e' he
    rw [t.due_debt hm hw (hb k)]
    rcases t.entry he with ⟨e, hl, hv⟩ | ⟨-, hnew⟩
    · rcases hv.buffered with hs | hs | ⟨n, hs, -⟩
      · exact hs.trans (h.buffered hl)
      · exact absurd hs hw
      · exact absurd hs (hb k n)
    · exact hnew.buffered.trans (h.unused hnew.unused).symm
  · intro k e' he
    rw [hk.maxSendBufSize]
    rcases t.entry he with ⟨e, hl, hv⟩ | ⟨-, hnew⟩
    · rcases hv.buffered with hs | hs | ⟨n, hs, -⟩
      · exact hs.trans_le (h.bounded hl)
      · exact absurd hs hw
      · exact absurd hs (hb k n)
    · exact hnew.buffered.trans_le (Nat.zero_le _)
  · intro k hu
    rw [t.due_debt hm hw (hb k)]
    exact h.unused fun hs => hu (hk.used hs)
  · exact t.storedUsed h.stored

/-! ### Calls and steps -/

/-- A mark that neither buffers nor credits. -/
def Mark.settled : Mark → Prop
  | .buffer _ _ | .credit _ _ => False
  | _ => True

theorem Mark.settled_of_common (h : m.common = true) : m.settled := by
  cases m <;> trivial

/-- A run that frames nothing keeps the books. -/
theorem Touches.creditExact {extra : Mark → Prop} (r : Touches extra s s')
    (h : s.CreditExact debt) (hm : ∀ m, extra m → m.settled) : s'.CreditExact debt := by
  refine Reach.invariant (I := fun t : Inner => t.CreditExact debt) r h
    fun {s m s'} hs t hk => ?_
  have hset : m.settled := hk.elim Mark.settled_of_common (hm m)
  have hd : m.debt debt = debt := by
    funext k
    cases m <;> first | rfl | exact hset.elim
  have ho : m.Owed debt := by
    cases m <;> trivial
  exact hd ▸ t.creditExact hs ho

theorem endMarks_settled {sid : Nat} {handle : Option Nat} (hm : endMarks sid handle m) :
    m.settled := by
  rcases hm with rfl | ⟨-, rfl⟩ <;> trivial

/-- A send keeps the books: the bytes it buffers are credited before it returns. -/
theorem Inner.Buffered.creditExact {sid : Nat} {r : Inner × Except Err SendVerdict}
    (h : Buffered sid s r) (hs : s.CreditExact debt) : r.1.CreditExact debt := by
  rcases h with h | ⟨n, s₁, s₂, s₃, s₄, h₁, hb, h₂, hc, h₃⟩
  · exact h.touches.creditExact hs fun m => endMarks_settled
  · have hd : (Mark.credit sid n).debt ((Mark.buffer sid n).debt debt) = debt := by
      funext k
      simp only [Mark.debt]
      split <;> omega
    have e₁ := (Touch.still h₁).creditExact hs trivial
    have e₂ := hb.creditExact e₁ trivial
    have e₃ := (Touch.still h₂).creditExact e₂ trivial
    have e₄ := hc.creditExact e₃ (by simp [Mark.Owed, Mark.debt])
    have e₅ := h₃.touches.creditExact e₄ fun m => endMarks_settled
    exact hd ▸ e₅

namespace Sys

variable {σ σ' : Sys} {a : Action} {cfg : Config}

/-- The marks of any step but a send frame nothing. -/
theorem marks_settled (ha : ∀ sid data offset eos, a ≠ .call (.sendData sid data offset eos))
    (hm : σ.marks a m) : m.settled := by
  cases a with
  | recv f =>
      cases f with
      | headers f => rcases hm with rfl | (rfl | rfl) | rfl | rfl <;> trivial
      | data f => rcases hm with (rfl | rfl) | ⟨-, rfl⟩ <;> trivial
      | goAway f =>
          obtain ⟨_, -, rfl⟩ := hm
          trivial
      | rstStream f =>
          cases hm
          trivial
      | _ => exact hm.elim
  | call c =>
      cases c with
      | sendData sid data offset eos => exact absurd rfl (ha sid data offset eos)
      | openStream _ _ _ => rcases hm with rfl | rfl <;> trivial
      | sendTrailers _ _ => exact endMarks_settled hm
      | sendResponseHead _ _ _ _ _ => exact endMarks_settled hm
      | fail _ _ =>
          obtain ⟨_, -, rfl⟩ := hm
          trivial
      | tryClaimSlot | releaseSlot | resetStream _ _ _ | acloseBody _ | creditWritten =>
          cases hm
          trivial
      | _ => exact hm.elim
  | pump =>
      unfold marks at hm
      cases hp : σ.pump <;> rw [hp] at hm
      case resetting sid reason =>
        cases hm
        trivial
      case failing e =>
        obtain ⟨_, -, rfl⟩ := hm
        trivial
      all_goals exact hm.elim
  | flush =>
      cases hm
      trivial
  | _ => exact hm.elim

theorem creditExact_init (cfg : Config) : (init cfg).inner.CreditExact settled := by
  obtain ⟨fc, fs, hb, -, -, -⟩ := Inner.begin_spec cfg
  rw [inner_init, hb]
  constructor
  · intro k e hk
    cases hk
  · intro k e hk
    cases hk
  · intro k _
    rfl
  · intro k e hk
    cases hk

theorem creditExact_step (h : σ.Ok) (hc : σ.inner.CreditExact settled) (hs : Step σ a σ') :
    σ'.inner.CreditExact settled := by
  by_cases ha : ∃ sid data offset eos, a = .call (.sendData sid data offset eos)
  · obtain ⟨sid, data, offset, eos, rfl⟩ := ha
    cases hs
    exact (sendData_buffered h.wf sid data offset eos).creditExact hc
  · exact (h.step_touches hs).creditExact hc fun m => marks_settled
      fun sid data offset eos he => ha ⟨sid, data, offset, eos, he⟩

theorem maxSendBufSize_step (h : σ.Ok) (hs : Step σ a σ') :
    σ'.inner.maxSendBufSize = σ.inner.maxSendBufSize :=
  (h.step_touches hs).keeps.maxSendBufSize

/-- **Send buffering is bounded and its credit exact.**  In every state a connection reaches,
each stored stream has buffered the bytes credited to it and not yet reported written, no more
than it is configured to; and a report of the batches taken so far subtracts exactly. -/
theorem send_buffer_exact (r : Reached cfg σ) :
    (∀ {sid e}, σ.inner.streams.lookup sid = some e →
      e.sendBuffered = creditOf sid σ.inner.credit + creditOf sid σ.inner.inflightCredit ∧
        e.sendBuffered ≤ cfg.maxSendBufSize) ∧
      { σ.inner with inflightCredit := [] }.creditsExactly σ.inner.inflightCredit := by
  have hinv : σ.Ok ∧ σ.inner.CreditExact settled ∧
      σ.inner.maxSendBufSize = cfg.maxSendBufSize := by
    refine Reach.invariant (I := fun σ : Sys => σ.Ok ∧ σ.inner.CreditExact settled ∧
      σ.inner.maxSendBufSize = cfg.maxSendBufSize) r
      ⟨ok_init cfg, creditExact_init cfg, ?_⟩ fun ⟨hok, hc, hm⟩ hs _ =>
        ⟨hok.step hs, creditExact_step hok hc hs, (maxSendBufSize_step hok hs).trans hm⟩
    obtain ⟨fc, fs, hb, -, -, -⟩ := Inner.begin_spec cfg
    rw [inner_init, hb]
    rfl
  obtain ⟨-, hc, hm⟩ := hinv
  refine ⟨fun {sid e} he => ⟨hc.buffered he, hm ▸ hc.bounded he⟩, ?_⟩
  refine creditsExactly_of_le fun {k e} hk => ?_
  have hsum := hc.buffered hk
  rw [creditDue, settled] at hsum
  omega

/-- A request body in two frames, the first taken by the writer; the response is complete, and
its body unread, before the batch is reported written. -/
def closedUnread : List Action := openPost ++ [
  .call (.sendData 1 [1, 2, 3] 0 false), .flush,
  .call (.sendData 1 [4] 0 true),
  .recv (.headers { streamId := 1, inRange := inRange_one, endStream := false, status := some 200 }),
  .recv (.data { streamId := 1, inRange := inRange_one, endStream := true, data := [6] })]

/-- The stream has ended and its four bytes are due, three of them in flight. -/
theorem send_buffer_exact_closed : ∃ σ, Reached clientConfig σ ∧
    σ.inner.credit = [(1, 1)] ∧ σ.inner.inflightCredit = [(1, 3)] ∧
      (∃ e, σ.inner.streams.lookup 1 = some e ∧ e.finished = true ∧ e.sendBuffered = 4) ∧
      { σ.inner with inflightCredit := [] }.creditsExactly [(1, 3)] := by
  obtain ⟨σ, r, hσ⟩ := reached_of_exec clientConfig closedUnread
    (fun σ => decide (σ.inner.credit = [(1, 1)] ∧ σ.inner.inflightCredit = [(1, 3)]) &&
      (σ.inner.streams.lookup 1).any fun e => e.finished) (by decide +kernel)
  simp only [Bool.and_eq_true, decide_eq_true_eq, Option.any_eq_true] at hσ
  obtain ⟨⟨hc, hi⟩, e, he, hf⟩ := hσ
  obtain ⟨hb, hx⟩ := send_buffer_exact r
  refine ⟨σ, r, hc, hi, ⟨e, he, hf, ?_⟩, hi ▸ hx⟩
  rw [(hb he).1, hc, hi]
  rfl

end Sys

end Httpunk.H2
