import Httpunk.H2.Life.Store

/-!
# H2 — Life — Effect

What a touch does to one stream, said once.

* `Touch.entry`: an entry found after a touch lived on from the entry found before it, or the
  touch opened the stream.
* `Touch.kept`: an entry found before a touch is still there, unless it had ended.
* `Touch.keeps`: the role, the bound of the buffers and the ids used.
* `Receiving`: a stream whose receive half goes on, which only `.ends` stops.
-/

namespace Httpunk.H2

open Runs (Reach)
open Httpunk.H2.Inner

variable {s s' : Inner} {m : Mark} {sid k : Nat} {e e' : StreamEntry}

/-! ### Lookups -/

/-- The entry kept under `sid`, or nothing. -/
theorem Inner.lookup_keepStream (me : Inner) (sid k : Nat) (e : StreamEntry) :
    (me.keepStream sid e).streams.lookup k =
      if k = sid then
        if e.finished && e.recvUnreleased == 0 && e.dataBudgetCharged == 0 then none else some e
      else me.streams.lookup k := by
  have hl : (me.setStream sid e).streams.lookup sid = some e := AList.lookup_insert _
  rw [keepStream, maybeRemoveSettled_of hl]
  by_cases hk : k = sid
  · subst hk
    rw [if_pos rfl]
    split
    · exact AList.lookup_erase _ _
    · exact hl
  · rw [if_neg hk]
    split
    · exact (AList.lookup_erase_ne hk).trans (AList.lookup_insert_ne hk)
    · exact AList.lookup_insert_ne hk

/-- A stream that finishes. -/
theorem Inner.lookup_finishSettled (me : Inner) (sid k : Nat) (e : StreamEntry) :
    ((me.finishEntry sid e).maybeRemoveSettled sid).streams.lookup k =
      if k = sid then
        if e.recvUnreleased == 0 && e.dataBudgetCharged == 0 then none
        else some { e with finished := true, holdsSlot := false }
      else me.streams.lookup k := by
  have hl : (me.finishEntry sid e).streams.lookup sid =
      some { e with finished := true, holdsSlot := false } := AList.lookup_insert _
  have hk := lookup_keepStream me sid k { e with finished := true, holdsSlot := false }
  rw [keepStream, maybeRemoveSettled_of (AList.lookup_insert _)] at hk
  rw [maybeRemoveSettled_of hl]
  simp only [Bool.true_and] at hk ⊢
  rw [← hk]
  split <;> rfl

/-- The bytes of `k` in a credit ledger. -/
def creditOf (k : Nat) : List (Nat × Nat) → Nat
  | [] => 0
  | (sid, n) :: batch => (if sid = k then n else 0) + creditOf k batch

/-- What was written lowers the buffers of the streams it was of. -/
theorem Inner.lookup_creditAll (me : Inner) (woken : List Nat) (batch : List (Nat × Nat))
    (k : Nat) : ∃ t : StreamEntry → Nat, (me.creditAll woken batch).1.streams.lookup k =
      (me.streams.lookup k).map fun e => { e with
        sendBuffered := e.sendBuffered - creditOf k batch
        turnFrames := t e } := by
  induction batch generalizing me woken with
  | nil => exact ⟨fun e => e.turnFrames, by simp [creditAll, creditOf]⟩
  | cons p batch ih =>
      obtain ⟨sid, n⟩ := p
      unfold creditAll creditOf
      split
      · next hn =>
        obtain ⟨t, ht⟩ := ih me woken
        refine ⟨t, ht.trans ?_⟩
        by_cases hk : sid = k
        · rw [← hk, hn]; rfl
        · rw [if_neg hk, Nat.zero_add]
      · next e he =>
        obtain ⟨t, ht⟩ := ih (me.setStream sid
          { e with sendBuffered := e.sendBuffered - n, turnFrames := 0 })
          (if sid ∈ woken then woken else woken ++ [sid])
        by_cases hk : k = sid
        · subst hk
          refine ⟨fun e => t { e with sendBuffered := e.sendBuffered - n, turnFrames := 0 }, ?_⟩
          refine ht.trans ?_
          rw [lookup_setStream, if_pos rfl, he, if_pos rfl]
          simp [Nat.sub_add_eq]
        · refine ⟨t, ht.trans ?_⟩
          rw [lookup_setStream, if_neg hk, if_neg (Ne.symm hk), Nat.zero_add]

/-! ### One stream -/

/-- Something of the stream is still to be released. -/
def StreamEntry.Held (e : StreamEntry) : Prop := e.recvUnreleased ≠ 0 ∨ e.dataBudgetCharged ≠ 0

/-- `e'` is what a touch with mark `m` leaves of the entry `e` of `k`. -/
structure Lives (m : Mark) (k : Nat) (e e' : StreamEntry) : Prop where
  later : State.Later e.state e'.state
  recvDone : m ≠ .ends k → e'.state.recvDone = e.state.recvDone
  recvSide : m ≠ .ends k → m ≠ .begins k → e'.state.recvSide = e.state.recvSide
  closed : m ≠ .ends k → m ≠ .turn k → e'.state.isClosed = e.state.isClosed
  contentLength : m ≠ .declare k → e'.contentLength = e.contentLength
  finished : e'.finished = e.finished ∧ e'.holdsSlot = e.holdsSlot ∨
    m = .finish k ∧ e'.finished = true ∧ e'.holdsSlot = false
  buffered : e'.sendBuffered = e.sendBuffered ∨ m = .written ∨
    ∃ n, m = .buffer k n ∧ e'.sendBuffered = e.sendBuffered + n
  held : (e.finished = true → e.Held) → e'.finished = true → e'.Held

theorem Lives.same (h : SameLife e e') : Lives m k e e' where
  later := by rw [h.state]; exact .refl _
  recvDone := fun _ => by rw [h.state]
  recvSide := fun _ _ => by rw [h.state]
  closed := fun _ _ => by rw [h.state]
  contentLength := fun _ => h.contentLength
  finished := .inl ⟨h.finished, h.holdsSlot⟩
  buffered := .inl h.sendBuffered
  held := by
    rw [StreamEntry.Held, StreamEntry.Held, h.recvUnreleased, h.dataBudgetCharged, h.finished]
    exact id

/-- An entry of another stream than the one written stays. -/
theorem Lives.write {e₁ : StreamEntry} (he : s.streams.lookup sid = some e)
    (h : (s.setStream sid e').streams.lookup k = some e₁) (hw : Lives m sid e e') :
    ∃ e₀, s.streams.lookup k = some e₀ ∧ Lives m k e₀ e₁ := by
  rcases lookup_setStream_cases h with ⟨rfl, rfl⟩ | ⟨-, hj⟩
  · exact ⟨e, he, hw⟩
  · exact ⟨e₁, hj, .same (.refl e₁)⟩

/-- A stream the touch opened: it waits for what it is to receive or to send, and counts
nothing yet. -/
structure Fresh (s : Inner) (k : Nat) (e' : StreamEntry) : Prop where
  absent : s.streams.lookup k = none
  unused : ¬s.Used k
  open_ : e'.state.isClosed = false
  active : e'.finished = false
  slot : e'.holdsSlot = decide (s.role = .client)
  buffered : e'.sendBuffered = 0

/-- **What a touch does to a stream.** -/
theorem Touch.entry (t : Touch s m s') (he : s'.streams.lookup k = some e') :
    (∃ e, s.streams.lookup k = some e ∧ Lives m k e e') ∨
      (m = .opened k ∨ m = .requested k) ∧ Fresh s k e' := by
  cases t with
  | still h =>
      obtain ⟨e, hl, hs⟩ := h.back he
      exact .inl ⟨e, hl, .same hs⟩
  | turn h hl hr =>
      exact .inl (Lives.write h he ⟨hl, fun _ => State.recvDone_of_recvSide hr,
        fun _ _ => hr, fun _ hne => absurd rfl hne, fun _ => rfl, .inl ⟨rfl, rfl⟩, .inl rfl, id⟩)
  | begins h hl hr hc =>
      exact .inl (Lives.write h he ⟨hl, fun _ => hr, fun _ hne => absurd rfl hne, fun _ _ => hc,
        fun _ => rfl, .inl ⟨rfl, rfl⟩, .inl rfl, id⟩)
  | ends h hl =>
      exact .inl (Lives.write h he ⟨hl, fun hne => absurd rfl hne, fun hne => absurd rfl hne,
        fun hne => absurd rfl hne, fun _ => rfl, .inl ⟨rfl, rfl⟩, .inl rfl, id⟩)
  | @finish sid e h hc hf =>
      rw [lookup_finishSettled] at he
      split at he
      · next hk =>
        subst hk
        split at he
        · cases he
        · next hd =>
          cases he
          refine .inl ⟨e, h, .refl _, fun _ => rfl, fun _ _ => rfl, fun _ _ => rfl, fun _ => rfl,
            .inr ⟨rfl, rfl, rfl⟩, .inl rfl, fun _ _ => ?_⟩
          simpa [StreamEntry.Held, Decidable.imp_iff_not_or] using hd
      · exact .inl ⟨e', he, .same (.refl e')⟩
  | @settle sid e n c r h =>
      rw [lookup_keepStream] at he
      split at he
      · next hk =>
        subst hk
        split at he
        · cases he
        · next hd =>
          cases he
          refine .inl ⟨e, h, .refl _, fun _ => rfl, fun _ _ => rfl, fun _ _ => rfl, fun _ => rfl,
            .inl ⟨rfl, rfl⟩, .inl rfl, fun _ hf => ?_⟩
          have hfin : e.finished = true := hf
          simpa [StreamEntry.Held, hfin, Decidable.imp_iff_not_or] using hd
      · exact .inl ⟨e', he, .same (.refl e')⟩
  | fill h hf =>
      exact .inl (Lives.write h he ⟨.refl _, fun _ => rfl, fun _ _ => rfl, fun _ _ => rfl, fun _ => rfl,
        .inl ⟨rfl, rfl⟩, .inl rfl, fun _ hf' => absurd hf' (by rw [hf]; decide)⟩)
  | declare h =>
      exact .inl (Lives.write h he ⟨.refl _, fun _ => rfl, fun _ _ => rfl, fun _ _ => rfl,
        fun hne => absurd rfl hne, .inl ⟨rfl, rfl⟩, .inl rfl, id⟩)
  | buffer h hn =>
      exact .inl (Lives.write h he ⟨.refl _, fun _ => rfl, fun _ _ => rfl, fun _ _ => rfl, fun _ => rfl,
        .inl ⟨rfl, rfl⟩, .inr (.inr ⟨_, rfl, rfl⟩), id⟩)
  | credit => exact .inl ⟨e', he, .same (.refl e')⟩
  | take => exact .inl ⟨e', he, .same (.refl e')⟩
  | written =>
      obtain ⟨t, ht⟩ := lookup_creditAll { s with inflightCredit := [] } [] s.inflightCredit k
      obtain ⟨e, hk, rfl⟩ := Option.map_eq_some_iff.mp (ht.symm.trans he)
      exact .inl ⟨e, hk, .refl _, fun _ => rfl, fun _ _ => rfl, fun _ _ => rfl, fun _ => rfl,
        .inl ⟨rfl, rfl⟩, .inr (.inl rfl), id⟩
  | @accepted sid st hr h hn hc =>
      rcases lookup_setStream_cases (s := { s with lastRecvId := sid }) he with
        ⟨rfl, rfl⟩ | ⟨hj, hl'⟩
      · refine .inr ⟨.inl rfl, hn, ?_, State.isClosed_of_isSendClosed hc, rfl,
          by rw [hr]; rfl, rfl⟩
        simp only [Used, hr]
        omega
      · exact .inl ⟨e', hl', .same (.refl e')⟩
  | @requested isHead eos block st hr hn hc =>
      rcases lookup_setStream_cases he with ⟨rfl, rfl⟩ | ⟨hj, hl'⟩
      · refine .inr ⟨.inr rfl, hn, ?_, State.isClosed_of_recvDone hc, rfl, by rw [hr]; rfl, rfl⟩
        simp only [Used, hr]
        omega
      · exact .inl ⟨e', hl', .same (.refl e')⟩
  | claim => exact .inl ⟨e', he, .same (.refl e')⟩
  | unclaim => exact .inl ⟨e', he, .same (.refl e')⟩

/-- **A stream stays stored** as long as it has not finished, and does not finish. -/
theorem Touch.kept (t : Touch s m s') (he : s.streams.lookup k = some e)
    (hf : e.finished = false) (hc : e.state.isClosed = false) :
    ∃ e', s'.streams.lookup k = some e' := by
  have write : ∀ (t : Inner) sid (e₁ : StreamEntry), t.streams.lookup k = some e →
      ∃ e', (t.setStream sid e₁).streams.lookup k = some e' := fun t sid e₁ ht => by
    rw [lookup_setStream]
    split
    · exact ⟨e₁, rfl⟩
    · exact ⟨e, ht⟩
  cases t with
  | still h =>
      obtain ⟨e', hl, -⟩ := h.stored he
      exact ⟨e', hl⟩
  | turn h hl hr => exact write s _ _ he
  | begins h hl hr hc => exact write s _ _ he
  | ends h hl => exact write s _ _ he
  | finish h hc' hf' =>
      rw [lookup_finishSettled]
      split
      · next hk =>
        subst hk
        rw [h] at he
        cases he
        rw [hc] at hc'
        cases hc'
      · exact ⟨e, he⟩
  | settle h =>
      rw [lookup_keepStream]
      split
      · next hk =>
        subst hk
        rw [h] at he
        cases he
        exact ⟨_, by rw [hf]; rfl⟩
      · exact ⟨e, he⟩
  | fill h hf' => exact write s _ _ he
  | declare h => exact write s _ _ he
  | buffer h hn => exact write s _ _ he
  | written =>
      obtain ⟨t, ht⟩ := lookup_creditAll { s with inflightCredit := [] } [] s.inflightCredit k
      exact ⟨_, ht.trans (by
        rw [show ({ s with inflightCredit := [] } : Inner).streams.lookup k = some e from he]
        rfl)⟩
  | accepted hr h hn hc' => exact write { s with lastRecvId := _ } _ _ he
  | requested hr hn hc' => exact write s _ _ he
  | _ => exact ⟨e, he⟩

/-! ### The connection -/

/-- A settled entry kept or removed: only the store may change. -/
theorem Inner.maybeRemoveSettled_eq (me : Inner) (sid : Nat) :
    ∃ m, me.maybeRemoveSettled sid = { me with streams := m } := by
  unfold maybeRemoveSettled
  split
  · exact ⟨_, rfl⟩
  · split <;> exact ⟨_, rfl⟩

/-- What was written changes the store only. -/
theorem Inner.creditAll_eq (me : Inner) (woken : List Nat) (batch : List (Nat × Nat)) :
    ∃ m, (me.creditAll woken batch).1 = { me with streams := m } := by
  induction batch generalizing me woken with
  | nil => exact ⟨_, rfl⟩
  | cons p batch ih =>
      unfold creditAll
      split
      · exact ih me woken
      · next e _ =>
        obtain ⟨m, hm⟩ := ih (me.setStream p.1
          { e with sendBuffered := e.sendBuffered - p.2, turnFrames := 0 })
          (if p.1 ∈ woken then woken else woken ++ [p.1])
        exact ⟨m, hm⟩

/-- What no touch changes, or takes back. -/
structure Keeps (s s' : Inner) : Prop where
  role : s'.role = s.role
  maxSendBufSize : s'.maxSendBufSize = s.maxSendBufSize
  used : ∀ {k}, s.Used k → s'.Used k

theorem Keeps.refl (s : Inner) : Keeps s s := ⟨rfl, rfl, id⟩

/-- **What a touch leaves of the connection.** -/
theorem Touch.keeps (t : Touch s m s') : Keeps s s' := by
  have kept : ∀ (t : Inner) sid, Keeps s t → Keeps s (t.maybeRemoveSettled sid) :=
    fun t sid ht => by
      obtain ⟨m, hm⟩ := maybeRemoveSettled_eq t sid
      rw [hm]
      exact { ht with }
  cases t with
  | still h => exact ⟨h.role, h.maxSendBufSize, h.used⟩
  | finish _ _ _ => exact kept _ _ { Keeps.refl s with }
  | settle _ => exact kept _ _ { Keeps.refl s with }
  | written =>
      obtain ⟨m, hm⟩ := creditAll_eq { s with inflightCredit := [] } [] s.inflightCredit
      rw [creditWritten, hm]
      exact { Keeps.refl s with }
  | @accepted sid st hr h hn hc =>
      refine { Keeps.refl s with used := fun {k} hk => ?_ }
      simp only [Used, hr, insertRequest, setStream] at hk ⊢
      omega
  | @requested isHead eos block st hr hn hc =>
      refine { Keeps.refl s with used := fun {k} hk => ?_ }
      simp only [Used, hr, insertOpened, setStream] at hk ⊢
      omega
  | _ => exact { Keeps.refl s with }

theorem Keeps.trans {s₁ s₂ s₃ : Inner} (h₁ : Keeps s₁ s₂) (h₂ : Keeps s₂ s₃) : Keeps s₁ s₃ where
  role := h₂.role.trans h₁.role
  maxSendBufSize := h₂.maxSendBufSize.trans h₁.maxSendBufSize
  used := fun h => h₂.used (h₁.used h)

theorem Touches.keeps {extra : Mark → Prop} (r : Touches extra s s') : Keeps s s' :=
  r.relation Keeps.refl Keeps.trans fun t _ => t.keeps

/-- Every stored stream has an id that is used. -/
def Inner.StoredUsed (me : Inner) : Prop := ∀ {k e}, me.streams.lookup k = some e → me.Used k

theorem Touch.storedUsed (t : Touch s m s') (h : s.StoredUsed) : s'.StoredUsed := by
  intro k e' he
  rcases t.entry he with ⟨e, hk, -⟩ | ⟨rfl | rfl, -⟩
  · exact t.keeps.used (h hk)
  · cases t with
    | accepted hr _ _ _ => simp only [Used, insertRequest, setStream, hr]; omega
  · cases t with
    | requested hr _ _ => simp only [Used, insertOpened, setStream, hr]; omega

/-! ### A stream that receives -/

/-- A mark that may close a stream. -/
def Mark.closes (m : Mark) (k : Nat) : Prop := m = .ends k ∨ m = .turn k

/-- The receive half of a stored stream goes on. -/
def Inner.Receiving (me : Inner) (sid : Nat) : Prop :=
  ∃ e, me.streams.lookup sid = some e ∧ e.state.recvDone = false ∧ e.finished = false

/-- **Only an end ends what is received.** -/
theorem Touch.receiving (t : Touch s m s') (h : s.Receiving k) (hm : m ≠ .ends k) :
    s'.Receiving k := by
  obtain ⟨e, he, hr, hf⟩ := h
  have hc : e.state.isClosed = false := by
    by_contra hc
    rw [State.recvDone_of_isClosed (by simpa using hc)] at hr
    cases hr
  obtain ⟨e', he'⟩ := t.kept he hf hc
  rcases t.entry he' with ⟨e₀, he₀, hv⟩ | ⟨-, hnew⟩
  · rw [he] at he₀
    cases he₀
    refine ⟨e', he', (hv.recvDone hm).trans hr, ?_⟩
    rcases hv.finished with ⟨h, -⟩ | ⟨rfl, -, -⟩
    · exact h.trans hf
    · cases t with
      | finish hl hc' hf' =>
        rw [he] at hl
        cases hl
        rw [hc] at hc'
        cases hc'
  · rw [hnew.absent] at he
    cases he

/-- A mark that may move the receive half of a stream, or its declared length. -/
def Mark.receives (m : Mark) (k : Nat) : Prop := m = .ends k ∨ m = .begins k ∨ m = .declare k

theorem Mark.not_receives_of_common {m : Mark} {k : Nat} (h : m.common = true) :
    ¬m.receives k := by
  rintro (rfl | rfl | rfl) <;> cases h

/-- A run that neither moves the receive half of a stream nor declares its length. -/
theorem Touches.steady {extra : Mark → Prop} (r : Touches extra s s')
    (he : s.streams.lookup k = some e) (hr : e.state.recvDone = false) (hf : e.finished = false)
    (hm : ∀ m, extra m → ¬m.receives k) :
    ∃ e', s'.streams.lookup k = some e' ∧ e'.state.recvSide = e.state.recvSide ∧
      e'.finished = false ∧ e'.contentLength = e.contentLength := by
  refine Reach.invariant (I := fun t : Inner => ∃ e', t.streams.lookup k = some e' ∧
    e'.state.recvSide = e.state.recvSide ∧ e'.finished = false ∧
      e'.contentLength = e.contentLength) r
    ⟨e, he, rfl, hf, rfl⟩ fun {s m s'} ⟨e₁, h₁, hst, hfin, hcl⟩ t hk => ?_
  have hm' : ¬m.receives k := hk.elim Mark.not_receives_of_common (hm m)
  rw [← State.recvDone_of_recvSide hst] at hr
  obtain ⟨e₂, h₂, hr₂, hf₂⟩ := t.receiving ⟨e₁, h₁, hr, hfin⟩ fun h => hm' (.inl h)
  rcases t.entry h₂ with ⟨e₀, h₀, hv⟩ | ⟨-, hnew⟩
  · rw [h₁] at h₀
    cases h₀
    exact ⟨e₂, h₂, (hv.recvSide (fun h => hm' (.inl h)) fun h => hm' (.inr (.inl h))).trans hst,
      hf₂, (hv.contentLength fun h => hm' (.inr (.inr h))).trans hcl⟩
  · rw [hnew.absent] at h₁
    cases h₁

/-- `k` is reset after its end only where it was before. -/
def NoReset (s s' : Inner) (k : Nat) : Prop :=
  ∀ e', s'.streams.lookup k = some e' → e'.state.recvSide = .endedReset →
    ∃ e, s.streams.lookup k = some e ∧ e.state.recvSide = .endedReset

theorem NoReset.refl (s : Inner) (k : Nat) : NoReset s s k := fun e' he' hs => ⟨e', he', hs⟩

/-- A run that neither opens a stream nor moves its receive side. -/
theorem Touches.noReset {extra : Mark → Prop} (r : Touches extra s s')
    (hm : ∀ m, extra m → m ≠ .ends k ∧ m ≠ .begins k ∧ m ≠ .opened k ∧ m ≠ .requested k) :
    NoReset s s' k := by
  refine Reach.invariant (I := fun t : Inner => NoReset s t k) r (.refl s k)
    fun {a m b} hb t hk e' he' hs => ?_
  have hne : m ≠ .ends k ∧ m ≠ .begins k ∧ m ≠ .opened k ∧ m ≠ .requested k := by
    rcases hk with hc | hx
    · refine ⟨?_, ?_, ?_, ?_⟩ <;> (rintro rfl; cases hc)
    · exact hm m hx
  rcases t.entry he' with ⟨e, hae, hv⟩ | ⟨hopen, -⟩
  · exact hb e hae ((hv.recvSide hne.1 hne.2.1).symm.trans hs)
  · exact hopen.elim (fun h => absurd h hne.2.2.1) fun h => absurd h hne.2.2.2

theorem Touches.noReset_nothing (r : Touches Mark.nothing s s') : NoReset s s' k :=
  r.noReset fun _ h => h.elim

/-- A run that leaves no end on a stream leaves it receiving. -/
theorem Touches.receiving {extra : Mark → Prop} (r : Touches extra s s') (h : s.Receiving k)
    (hm : ¬extra (.ends k)) : s'.Receiving k :=
  r.invariant h fun hr t hk => t.receiving hr fun hmk => by
    subst hmk
    exact hk.elim (fun hc => by cases hc) hm

end Httpunk.H2
