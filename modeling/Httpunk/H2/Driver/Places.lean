import Httpunk.H2.Driver.Lanes

/-!
# H2 — Driver — Places

What becomes of the lanes while a connection works on.  `Inner.Stays x y s me` says of `me`, reached
from `s` within a frame or a call, that its lanes go with the flags, and that every stream has the
place it had in `s`, but for the streams `y` excepts and those whose send half is over.

* `Stood`: the places of the entries, `InOrder`: the order of the line for connection window.
* `Stays.move`: one stream is moved, and the others stay.
* `Stays.had`, `Stays.waits`, `Stays.ahead`: who has a place had it before, and who waits in the
  line goes on waiting in its place.
* `Stays.…`: the methods of the store keep it.
-/

namespace Httpunk.H2

open Queue (Ahead)

/-! ### Entries -/

/-- The send half of the stream is over. -/
def StreamEntry.SendOver (e : StreamEntry) : Prop :=
  e.finished = true ∨ e.state.isSendClosed = true

/-- The entry has the places it had, and is over if it was. -/
structure StreamEntry.SamePlaces (e e' : StreamEntry) : Prop where
  send : e'.isPendingSend = e.isPendingSend
  capacity : e'.isPendingCapacity = e.isPendingCapacity
  ended : e.SendOver → e'.SendOver

namespace StreamEntry

variable {x : Prop} {e e₁ e₂ : StreamEntry}

namespace SamePlaces

theorem refl (e : StreamEntry) : e.SamePlaces e := ⟨rfl, rfl, id⟩

theorem trans (h₁ : e.SamePlaces e₁) (h₂ : e₁.SamePlaces e₂) : e.SamePlaces e₂ :=
  ⟨h₂.send.trans h₁.send, h₂.capacity.trans h₁.capacity, fun h => h₂.ended (h₁.ended h)⟩

theorem placed (h : e.SamePlaces e₁) : e₁.placed = e.placed := by
  rw [StreamEntry.placed, h.send, h.capacity, StreamEntry.placed]

end SamePlaces

theorem Goes.samePlaces (h : e.Goes x e₁) : e.SamePlaces e₁ :=
  ⟨h.send, h.capacity, Or.imp (fun hf => h.finished.trans hf) h.later.sendClosed⟩

theorem sendOver_of_isClosed (h : e.state.isClosed = true) : e.SendOver :=
  .inr (State.isSendClosed_of_isClosed h)

/-- What is over sends nothing. -/
theorem Fit.not_sendOver (h : e.Fit) (hs : e.sends = true) : ¬e.SendOver := by
  rintro (hf | hc)
  · rw [h.not_finished hs] at hf
    cases hf
  · rw [sends, State.isSendStreaming_of_isSendClosed hc] at hs
    cases hs

/-- Who has a place and is not over sends. -/
theorem Fit.sends (h : e.Fit) (hp : e.placed = true) (ho : ¬e.SendOver) : e.sends = true := by
  have hb := h.begun hp
  rw [State.sendBegun, Bool.or_eq_true] at hb
  exact hb.resolve_right fun hc => ho (.inr hc)

end StreamEntry

/-! ### The store and the line -/

/-- What is left of the places of `t` in `t'`, but for the streams `y` excepts. -/
def Stood (y : Nat → Prop) (t t' : Store Nat StreamEntry) : Prop :=
  ∀ sid e', t'.lookup sid = some e' → y sid ∨ e'.SendOver ∨
    ((∀ e, t.lookup sid = some e → e.SendOver) ∧ e'.placed = false) ∨
    ∃ e, t.lookup sid = some e ∧ e.SamePlaces e'

/-- Who waits in the line `c` is still ahead of those it was ahead of in `c₀`, but for the streams
`y` excepts. -/
def InOrder (y : Nat → Prop) (c₀ : List Nat) (t : Store Nat StreamEntry) (c : List Nat) : Prop :=
  ∀ a b, ¬y a → (∃ e, t.lookup a = some e ∧ e.isPendingCapacity = true ∧ e.sends = true) →
    Ahead a b c₀ → Ahead a b c

variable {y : Nat → Prop} {t t₁ t₂ : Store Nat StreamEntry} {c₀ c c' : List Nat} {sid : Nat}
  {e e' : StreamEntry}

namespace Stood

theorem refl (y : Nat → Prop) (t : Store Nat StreamEntry) : Stood y t t :=
  fun _ e h => .inr (.inr (.inr ⟨e, h, .refl e⟩))

/-- Entries that have the places they had. -/
theorem restore (h : Stood y t t₁)
    (hs : ∀ k e', t₂.lookup k = some e' → y k ∨ e'.SendOver ∨
      ∃ e, t₁.lookup k = some e ∧ e.SamePlaces e') : Stood y t t₂ := by
  intro k a ha
  rcases hs k a ha with hy | ho | ⟨e, he, hp⟩
  · exact .inl hy
  · exact .inr (.inl ho)
  · rcases h k e he with hy | ho | ⟨hn, hf⟩ | ⟨e₀, h₀, hp₀⟩
    · exact .inl hy
    · exact .inr (.inl (hp.ended ho))
    · exact .inr (.inr (.inl ⟨hn, hp.placed.trans hf⟩))
    · exact .inr (.inr (.inr ⟨e₀, h₀, hp₀.trans hp⟩))

theorem put (h : Stood y t t₁) (he : t₁.lookup sid = some e) (hp : e.SamePlaces e') :
    Stood y t (t₁.insert sid e') := by
  refine h.restore fun k a ha => ?_
  rw [Store.lookup_insert'] at ha
  split at ha
  · next hk =>
    cases ha
    subst hk
    exact .inr (.inr ⟨e, he, hp⟩)
  · exact .inr (.inr ⟨a, ha, .refl a⟩)

/-- A new entry has no place. -/
theorem insert (h : Stood y t t₁) (hn : ∀ e, t.lookup sid = some e → e.SendOver)
    (hp : e'.placed = false) : Stood y t (t₁.insert sid e') := by
  intro k a ha
  rw [Store.lookup_insert'] at ha
  split at ha
  · next hk =>
    cases ha
    subst hk
    exact .inr (.inr (.inl ⟨hn, hp⟩))
  · exact h k a ha

theorem erase (h : Stood y t t₁) (sid : Nat) : Stood y t (t₁.erase sid) := by
  refine h.restore fun k a ha => ?_
  rw [Store.lookup_erase'] at ha
  split at ha
  · cases ha
  · exact .inr (.inr ⟨a, ha, .refl a⟩)

end Stood

namespace InOrder

/-- Who waits in the line waited there. -/
theorem carry (h : InOrder y c₀ t c)
    (hs : ∀ a e', ¬y a → t₁.lookup a = some e' → e'.isPendingCapacity = true → e'.sends = true →
      ∃ e, t.lookup a = some e ∧ e.isPendingCapacity = true ∧ e.sends = true) :
    InOrder y c₀ t₁ c := by
  rintro a b hy ⟨e', he', hf, hsend⟩ ha
  exact h a b hy (hs a e' hy he' hf hsend) ha

end InOrder

/-- The lanes of a connection, beside the places of `t₀` and the line `c₀`. -/
structure StaysOn (x y : Nat → Prop) (t₀ : Store Nat StreamEntry) (c₀ : List Nat)
    (t : Store Nat StreamEntry) (rotation line : List Nat) : Prop extends
    LanesOn x t rotation line where
  stood : Stood y t₀ t
  order : InOrder y c₀ t line

namespace Inner

/-- The lanes of `me`, reached from `s`. -/
abbrev Stays (x y : Nat → Prop) (s me : Inner) : Prop :=
  StaysOn x y s.streams s.pendingCapacity me.streams me.pendingSend me.pendingCapacity

variable {s me m : Inner} {x : Nat → Prop}

namespace Stays

theorem lanes (h : Stays x y s me) : Lanes x me := h.toLanesOn

theorem refl (y : Nat → Prop) (h : Lanes x me) : Stays x y me me :=
  { h with stood := .refl y _, order := fun _ _ _ _ ha => ha }

/-- More streams are excepted. -/
theorem mono {x' : Nat → Prop} (h : Stays x y s me) (hx : ∀ k, x k → x' k) : Stays x' y s me :=
  { h.lanes.mono hx with stood := h.stood, order := h.order }

/-- A stream that has no place needs no exception. -/
theorem narrow (h : Stays (fun k => x k ∨ k = sid) y s me)
    (hn : ∀ e, me.streams.lookup sid = some e → e.placed = false) : Stays x y s me :=
  { h.lanes.narrow hn with stood := h.stood, order := h.order }

/-! ### The store -/

/-- An entry goes on with its flags. -/
theorem set (h : Stays x y s me) (he : me.streams.lookup sid = some e) (hk : e.Goes (x sid) e') :
    Stays x y s (me.setStream sid e') := by
  refine { h.lanes.set he hk with stood := h.stood.put he hk.samePlaces, order := ?_ }
  refine h.order.carry fun a b _ hb hf hs => ?_
  rw [setStream, Store.lookup_insert'] at hb
  split at hb
  · next ha =>
    cases hb
    subst ha
    have hfe : e.isPendingCapacity = true := hk.capacity.symm.trans hf
    exact ⟨e, he, hfe, hk.sent (h.fits a e he) (StreamEntry.placed_of_capacity hfe) hs⟩
  · exact ⟨b, hb, hf, hs⟩

/-- An entry in another state. -/
theorem state (h : Stays x y s me) (he : me.streams.lookup sid = some e) {st : State}
    (hl : State.Later e.state st)
    (hs : e.placed = true → e.sends = true → x sid ∨ st.isSendStreaming = true) :
    Stays x y s (me.setStream sid { e with state := st }) :=
  h.set he (.state hl hs)

/-- A new entry has no place. -/
theorem insert (h : Stays x y s me) (hn : ∀ e, me.streams.lookup sid = some e → e.placed = false)
    (ho : ∀ e, s.streams.lookup sid = some e → e.SendOver) (hf : e'.Fit)
    (hp : e'.placed = false) : Stays x y s (me.setStream sid e') := by
  refine { h.lanes.insert hn hf hp with stood := h.stood.insert ho hp, order := ?_ }
  refine h.order.carry fun a b _ hb hfb hs => ?_
  rw [setStream, Store.lookup_insert'] at hb
  split at hb
  · cases hb
    rw [(StreamEntry.placed_eq_false.mp hp).2] at hfb
    cases hfb
  · exact ⟨b, hb, hfb, hs⟩

/-- An entry that has no place is removed. -/
theorem erase (h : Stays x y s me) (hn : ∀ e, me.streams.lookup sid = some e → e.placed = false) :
    Stays x y s { me with streams := me.streams.erase sid } := by
  refine { h.lanes.erase hn with stood := h.stood.erase sid, order := ?_ }
  refine h.order.carry fun a b _ hb hf hs => ?_
  rw [Store.lookup_erase'] at hb
  split at hb
  · cases hb
  · exact ⟨b, hb, hf, hs⟩

/-! ### The queues -/

/-- **One stream is moved**, excepted or over, and the others stay. -/
theorem move (h : Stays x y s me) (sid : Nat) (hm : Lanes x m)
    (hk : ∀ k, k ≠ sid → m.streams.lookup k = me.streams.lookup k)
    (hs : y sid ∨ ∀ e, m.streams.lookup sid = some e → e.SendOver)
    (hq : ∀ a b, a ≠ sid → Ahead a b me.pendingCapacity → Ahead a b m.pendingCapacity) :
    Stays x y s m := by
  refine { hm with stood := h.stood.restore fun k a ha => ?_, order := ?_ }
  · by_cases hks : k = sid
    · subst hks
      exact hs.imp id fun ho => .inl (ho a ha)
    · exact .inr (.inr ⟨a, (hk k hks).symm.trans ha, .refl a⟩)
  · rintro a b hy ⟨e, he, hf, hsend⟩ ha
    have hne : a ≠ sid := by
      rintro rfl
      exact (hm.fits a e he).not_sendOver hsend (hs.resolve_left hy e he)
    exact hq a b hne (h.order a b hy ⟨e, (hk a hne).symm.trans he, hf, hsend⟩ ha)

/-- The map of streams is laid out anew. -/
theorem rehash (h : Stays x y s me) {t : Store Nat StreamEntry}
    (ht : me.streams.entries.Perm t.entries) : Stays x y s { me with streams := t } := by
  have hl : ∀ k, t.lookup k = me.streams.lookup k := fun _ => (AList.perm_lookup ht).symm
  refine { h.lanes.rehash ht with stood := h.stood.restore fun k a ha => ?_, order := ?_ }
  · exact .inr (.inr ⟨a, (hl k).symm.trans ha, .refl a⟩)
  · exact h.order.carry fun a e _ he hf hs => ⟨e, (hl a).symm.trans he, hf, hs⟩

/-! ### What stays -/

/-- Who has a place and sends had that place, and sent, before. -/
theorem had {x' : Nat → Prop} (h : Stays x y s me) (hs : Lanes x' s) (hy : ¬y sid)
    (he : me.streams.lookup sid = some e) (hp : e.placed = true) (hsend : e.sends = true) :
    ∃ e₀, s.streams.lookup sid = some e₀ ∧ e₀.sends = true ∧
      e.isPendingSend = e₀.isPendingSend ∧ e.isPendingCapacity = e₀.isPendingCapacity := by
  have hover := (h.fits sid e he).not_sendOver hsend
  rcases h.stood sid e he with hy' | ho | ⟨-, hn⟩ | ⟨e₀, h₀, hsame⟩
  · exact absurd hy' hy
  · exact absurd ho hover
  · rw [hp] at hn
    cases hn
  · refine ⟨e₀, h₀, ?_, hsame.send, hsame.capacity⟩
    exact (hs.fits sid e₀ h₀).sends (hsame.placed.symm.trans hp) fun ho => hover (hsame.ended ho)

/-- Who waits in the line, and sends, goes on waiting there. -/
theorem waits {x' : Nat → Prop} (h : Stays x y s me) (hs : Lanes x' s) (hy : ¬y sid)
    (hr : s.capacityReady sid = true) (he : me.streams.lookup sid = some e)
    (hsend : e.sends = true) : me.capacityReady sid = true := by
  obtain ⟨e₀, h₀, hf₀, hs₀⟩ := hs.capacityReady_iff.mp hr
  refine h.lanes.capacityReady_iff.mpr ⟨e, he, ?_, hsend⟩
  rcases h.stood sid e he with hy' | ho | ⟨hn, -⟩ | ⟨e₁, h₁, hsame⟩
  · exact absurd hy' hy
  · exact absurd ho ((h.fits sid e he).not_sendOver hsend)
  · exact absurd (hn e₀ h₀) ((hs.fits sid e₀ h₀).not_sendOver hs₀)
  · obtain rfl := Option.some.inj (h₀.symm.trans h₁)
    exact hsame.capacity.trans hf₀

/-- Who is ahead of another in the line, and still waits, is ahead of it still. -/
theorem ahead {a b : Nat} (h : Stays x y s me) (hy : ¬y a) (hr : me.capacityReady a = true)
    (ha : Ahead a b s.pendingCapacity) : Ahead a b me.pendingCapacity :=
  h.order a b hy (h.lanes.capacityReady_iff.mp hr) ha

end Stays

/-- A line that a stream leaves keeps its order. -/
theorem ahead_leaveCapacityQueue (hq : me.pendingCapacity.Nodup) (a b : Nat) (hne : a ≠ sid)
    (ha : Ahead a b me.pendingCapacity) : Ahead a b (me.leaveCapacityQueue sid).1.pendingCapacity := by
  have hleft := ha.filter (k := sid) hne.symm
  unfold leaveCapacityQueue
  dsimp only
  split
  · exact ha
  · split
    · exact ha
    · split
      · next hd =>
        rw [← Queue.tail_eq_filter hq hd] at hleft
        exact hleft
      · exact hleft

@[simp] theorem pendingCapacity_leaveSendQueue (me : Inner) (sid : Nat) :
    (me.leaveSendQueue sid).1.pendingCapacity = me.pendingCapacity := by
  unfold leaveSendQueue
  dsimp only
  repeat' split
  all_goals rfl

@[simp] theorem pendingCapacity_enqueueSend (me : Inner) (sid : Nat) :
    (me.enqueueSend sid).pendingCapacity = me.pendingCapacity := by
  unfold enqueueSend
  repeat' split
  all_goals rfl

/-- A stream that joins the line is behind. -/
theorem ahead_enqueueCapacity (a b : Nat) (ha : Ahead a b me.pendingCapacity) :
    Ahead a b (me.enqueueCapacity sid).pendingCapacity := by
  unfold enqueueCapacity
  split
  · exact ha
  · split
    · exact ha
    · exact ha.append [sid]

theorem lookup_enqueueSend_ne {k : Nat} (hk : k ≠ sid) :
    (me.enqueueSend sid).streams.lookup k = me.streams.lookup k := by
  unfold enqueueSend
  repeat' split
  · rfl
  · rfl
  · exact AList.lookup_insert_ne hk

namespace Stays

theorem enqueueSend (h : Stays x y s me)
    (hs : ∀ e, me.streams.lookup sid = some e → e.isPendingCapacity = false ∧ e.sends = true)
    (hy : y sid) : Stays x y s (me.enqueueSend sid) :=
  h.move sid (h.lanes.enqueueSend hs) (fun _ hk => lookup_enqueueSend_ne hk) (.inl hy)
    fun _ _ _ ha => by rwa [pendingCapacity_enqueueSend]

theorem leaveSendQueue (h : Stays x y s me) (hy : y sid) : Stays x y s (me.leaveSendQueue sid).1 :=
  h.move sid (h.lanes.leaveSendQueue sid) (fun k hk => by rw [lookup_leaveSendQueue, if_neg hk])
    (.inl hy) fun _ _ _ ha => by rwa [pendingCapacity_leaveSendQueue]

/-- A stream that sends leaves the rotation to join the line. -/
theorem lineUp (h : Stays x y s me) (he : me.streams.lookup sid = some e) (hs : e.sends = true)
    (hy : y sid) : Stays x y s ((me.enqueueCapacity sid).leaveSendQueue sid).1 := by
  refine h.move sid (h.lanes.lineUp he hs) (fun k hk => ?_) (.inl hy) fun a b _ ha => ?_
  · rw [lookup_leaveSendQueue, if_neg hk, lookup_enqueueCapacity, if_neg hk]
  · rw [pendingCapacity_leaveSendQueue]
    exact ahead_enqueueCapacity a b ha

theorem leaveWaiting (h : Stays x y s me) (he : me.streams.lookup sid = some e) (hy : y sid) :
    Stays x y s (me.leaveWaiting sid e) := by
  have hm := h.lanes.leaveWaiting he
  unfold Inner.leaveWaiting at hm ⊢
  split
  · next hf =>
    rw [if_pos hf] at hm
    exact h.move sid hm (fun k hk => AList.lookup_insert_ne hk) (.inl hy)
      fun _ _ hne ha => ha.filter hne.symm
  · exact h

/-- The front's turn is over: it goes to the back. -/
theorem yieldSendTurn (h : Stays x y s me) (sid : Nat) : Stays x y s (me.yieldSendTurn sid).1 := by
  unfold Inner.yieldSendTurn
  dsimp only
  split
  · next hd =>
    have hq : Stays x y s { me with pendingSend := me.pendingSend.tail ++ [sid] } :=
      { h with send := h.send.rotate hd }
    split
    · exact hq
    · next he => exact hq.set he ⟨rfl, rfl, .inr (.inr rfl), rfl, .refl _, fun _ hs => .inr hs⟩
  · exact h

theorem sendFront (h : Stays x y s me) : Stays x y s me.sendFront.1 :=
  { h with send := h.lanes.sendFront.send }

theorem capacityFront (h : Stays x y s me) : Stays x y s me.capacityFront.1 := by
  refine { h with capacity := h.lanes.capacityFront.capacity, order := ?_ }
  rintro a b hy ⟨e, he, hf, hs⟩ ha
  have hr : me.capacityReady a = true := h.lanes.capacityReady_iff.mpr ⟨e, he, hf, hs⟩
  refine (h.order a b hy ⟨e, he, hf, hs⟩ ha).dropWhile ?_
  rw [hr]
  rfl

end Stays

/-- `sid` was the first in line, and has its place in the rotation instead. -/
def Admitted (s me : Inner) (sid : Nat) : Prop :=
  s.capacityQueue.head? = some sid ∧ ∃ e, me.streams.lookup sid = some e ∧
    e.isPendingCapacity = false ∧ e.isPendingSend = true

theorem lookup_enqueueSend (he : me.streams.lookup sid = some e) :
    ∃ a, (me.enqueueSend sid).streams.lookup sid = some a ∧ a.isPendingSend = true ∧
      a.isPendingCapacity = e.isPendingCapacity ∧ a.state = e.state := by
  unfold enqueueSend
  rw [he]
  dsimp only
  split
  · next hf => exact ⟨e, he, hf, rfl, rfl⟩
  · exact ⟨_, AList.lookup_insert _, rfl, rfl, rfl⟩

namespace Stays

/-- The first of the line joins the rotation, excepted. -/
theorem admitCapacityFront (h : Stays x y s me)
    (hy : ∀ sid, Admitted me me.admitCapacityFront.1 sid → y sid) :
    Stays x y s me.admitCapacityFront.1 := by
  have hm := h.lanes.admitCapacityFront
  unfold Inner.admitCapacityFront at hy hm ⊢
  dsimp only at hy hm ⊢
  split
  · exact h
  · next hw =>
    rw [if_neg hw] at hy hm
    split
    · exact h.sendFront
    · next hf =>
      rw [if_neg hf] at hy hm
      have hwait : Stays x y s me.sendFront.1.capacityFront.1 := h.sendFront.capacityFront
      split
      · exact hwait
      · next sid hd =>
        have hd' : me.capacityQueue.head? = some sid := hd
        obtain ⟨e, he, -, -⟩ := h.lanes.capacityQueue_head hd'
        have he' : me.sendFront.1.capacityFront.1.streams.lookup sid = some e := he
        rw [hd] at hy hm
        dsimp only at hy hm
        rw [he'] at hy hm ⊢
        dsimp only at hy hm ⊢
        have hleft : ({ me.sendFront.1.capacityFront.1.setStream sid
            { e with isPendingCapacity := false } with
              pendingCapacity := me.capacityQueue.tail } : Inner).streams.lookup sid =
            some { e with isPendingCapacity := false } := AList.lookup_insert _
        obtain ⟨a, ha, hs, hc, -⟩ := lookup_enqueueSend hleft
        have hsid : y sid := hy sid ⟨hd', a, ha, hc, hs⟩
        refine hwait.move sid hm (fun k hk => ?_) (.inl hsid) fun a b hne ha => ?_
        · exact (lookup_enqueueSend_ne hk).trans (AList.lookup_insert_ne hk)
        · rw [pendingCapacity_enqueueSend]
          exact ha.tail fun hh => hne (Option.some.inj (hh.symm.trans hd))

/-! ### The store -/

theorem reclaimConn (h : Stays x y s me) (n : Nat) : Stays x y s (me.reclaimConn n) := by
  unfold Inner.reclaimConn
  dsimp only
  repeat' split
  all_goals exact h

theorem maybeRemoveSettled (h : Stays x y s me) (sid : Nat) : Stays x y s (me.maybeRemoveSettled sid) := by
  unfold Inner.maybeRemoveSettled
  split
  · exact h
  · next e he =>
    split
    · next hf =>
      rw [Bool.and_eq_true, Bool.and_eq_true] at hf
      exact h.erase (h.lanes.gone he hf.1.1)
    · exact h

theorem reclaimEntry (h : Stays x y s me) (he : me.streams.lookup sid = some e) :
    Stays x y s (me.reclaimEntry sid e) := by
  have hs : Stays x y s (me.setStream sid
      { e with dataBudgetCharged := 0, recvUnreleased := 0, recvReclaimed := true }) :=
    h.set he (.same rfl rfl rfl rfl rfl)
  unfold Inner.reclaimEntry
  refine reclaimConn ?_ _
  exact hs

theorem reclaimStreamAccounting (h : Stays x y s me) (sid : Nat) :
    Stays x y s (me.reclaimStreamAccounting sid) := by
  unfold Inner.reclaimStreamAccounting
  split
  · exact h
  · next he => exact maybeRemoveSettled (h.reclaimEntry he) sid

theorem maybeGoawayReply (h : Stays x y s me) : Stays x y s me.maybeGoawayReply.1 := by
  unfold Inner.maybeGoawayReply
  split <;> exact h

/-- What is left of an entry that finishes has no place. -/
theorem finished (h : Stays x y s me) (he : me.streams.lookup sid = some e)
    (hc : e.state.isClosed = true) :
    Stays x y s (((me.finishEntry sid e).leaveSendQueue sid).1.leaveCapacityQueue sid).1 ∧
      ∀ a, (((me.finishEntry sid e).leaveSendQueue sid).1.leaveCapacityQueue sid).1.streams.lookup
        sid = some a → a.placed = false := by
  obtain ⟨hm, hn⟩ := h.lanes.finished he hc
  have hfin : (me.finishEntry sid e).streams.lookup sid =
      some { e with finished := true, holdsSlot := false } := AList.lookup_insert _
  refine ⟨h.move sid hm (fun k hk => ?_) (.inr fun a ha => ?_) fun a b hne ha => ?_, hn⟩
  · rw [lookup_leaveCapacityQueue, if_neg hk, lookup_leaveSendQueue, if_neg hk]
    exact AList.lookup_insert_ne hk
  · rw [lookup_leaveCapacityQueue, if_pos rfl, lookup_leaveSendQueue, if_pos rfl, hfin] at ha
    rw [Option.map_some, Option.map_some] at ha
    obtain rfl := Option.some.inj ha
    split <;> exact .inl rfl
  · have hq : ((me.finishEntry sid e).leaveSendQueue sid).1.pendingCapacity = me.pendingCapacity :=
      pendingCapacity_leaveSendQueue _ _
    refine ahead_leaveCapacityQueue ?_ a b hne ?_
    · rw [hq]
      exact h.capacity.nodup
    · rwa [hq]

/-- A stream closes, and what is left of it has no place. -/
theorem closeStream_gone (h : Stays x y s me) (sid : Nat) : Stays x y s (me.closeStream sid).1 ∧
    ((∀ e, me.streams.lookup sid = some e → e.state.isClosed = true) →
      ∀ a, (me.closeStream sid).1.streams.lookup sid = some a → a.placed = false) := by
  have hreply : ∀ {m : Inner}, Stays x y s m → (∀ a, m.streams.lookup sid = some a → a.placed = false) →
      Stays x y s m.onStreamGone.1 ∧
        ∀ a, m.onStreamGone.1.streams.lookup sid = some a → a.placed = false := by
    intro m hm hn
    refine ⟨hm.maybeGoawayReply, fun a ha => hn a ?_⟩
    rw [← ha]
    unfold onStreamGone Inner.maybeGoawayReply
    dsimp only
    split <;> rfl
  unfold Inner.closeStream
  split
  · next hn =>
    refine ⟨h, fun _ a ha => ?_⟩
    rw [hn] at ha
    cases ha
  · next e he =>
    split
    · next hf =>
      refine ⟨h, fun hc a ha => ?_⟩
      rw [hc e he, Bool.not_true, Bool.false_or] at hf
      exact h.lanes.gone he hf a ha
    · next hf =>
      rw [Bool.not_eq_true, Bool.or_eq_false_iff, Bool.not_eq_false'] at hf
      obtain ⟨hq, hn⟩ := h.finished he hf.1
      dsimp only
      split
      · have herase := hreply (hq.erase hn) fun a ha => by
          change ((((me.finishEntry sid e).leaveSendQueue sid).1.leaveCapacityQueue
            sid).1.streams.erase sid).lookup sid = some a at ha
          rw [AList.lookup_erase] at ha
          cases ha
        exact ⟨herase.1, fun _ => herase.2⟩
      · exact ⟨(hreply hq hn).1, fun _ => (hreply hq hn).2⟩

theorem closeStream (h : Stays x y s me) (sid : Nat) : Stays x y s (me.closeStream sid).1 :=
  (h.closeStream_gone sid).1

/-- A closed stream that is being closed was excepted only until then. -/
theorem closes (h : Stays (fun k => x k ∨ k = sid) y s me)
    (hc : ∀ e, me.streams.lookup sid = some e → e.state.isClosed = true) :
    Stays x y s (me.closeStream sid).1 :=
  (h.closeStream sid).narrow ((h.closeStream_gone sid).2 hc)

end Stays

/-- What of a stream is closed stays so, as its accounting goes back. -/
theorem reclaimed_closed
    (hc : ∀ e, me.streams.lookup sid = some e → e.state.isClosed = true) :
    ∀ e, (me.reclaimStreamAccounting sid).streams.lookup sid = some e → e.state.isClosed = true := by
  have hconn : ∀ (m : Inner) (n : Nat), (m.reclaimConn n).streams = m.streams := by
    intro m n
    unfold reclaimConn
    dsimp only
    repeat' split
    all_goals rfl
  unfold reclaimStreamAccounting
  split
  · exact hc
  · next e he =>
    have hentry : ∀ a, (me.reclaimEntry sid e).streams.lookup sid = some a → a.state.isClosed = true := by
      intro a ha
      unfold reclaimEntry at ha
      dsimp only at ha
      rw [hconn] at ha
      obtain rfl := Option.some.inj ((AList.lookup_insert _).symm.trans ha)
      exact hc e he
    unfold maybeRemoveSettled
    split
    · exact hentry
    · split
      · intro a ha
        change ((me.reclaimEntry sid e).streams.erase sid).lookup sid = some a at ha
        rw [AList.lookup_erase] at ha
        cases ha
      · exact hentry

namespace Stays

/-- A stream in a closed state, its accounting given back, then closed. -/
theorem reclaims (h : Stays x y s me) (he : me.streams.lookup sid = some e) {st : State}
    (hc : st.isClosed = true) {m : Inner}
    (hm : m.streams = ((me.setStream sid { e with state := st }).reclaimStreamAccounting sid).streams ∧
      m.pendingSend =
        ((me.setStream sid { e with state := st }).reclaimStreamAccounting sid).pendingSend ∧
      m.pendingCapacity =
        ((me.setStream sid { e with state := st }).reclaimStreamAccounting sid).pendingCapacity) :
    Stays x y s (m.closeStream sid).1 := by
  have hs : Stays (fun k => x k ∨ k = sid) y s (me.setStream sid { e with state := st }) :=
    (h.mono fun _ => .inl).state he (.of_isClosed hc) fun _ _ => .inl (.inr rfl)
  have hr := hs.reclaimStreamAccounting sid
  have hput : ∀ a, (me.setStream sid { e with state := st }).streams.lookup sid = some a →
      a.state.isClosed = true := by
    intro a ha
    obtain rfl := Option.some.inj ((AList.lookup_insert _).symm.trans ha)
    exact hc
  refine closes ?_ ?_
  · rw [Stays, hm.1, hm.2.1, hm.2.2]
    exact hr
  · rw [hm.1]
    exact reclaimed_closed hput

theorem dropClosedStored (h : Stays x y s me) (sid : Nat) : Stays x y s (me.dropClosedStored sid).1 :=
  (h.reclaimStreamAccounting sid).closeStream sid

theorem inResetStore (h : Stays x y s me) (sid : Nat) : Stays x y s (me.inResetStore sid).1 := by
  unfold Inner.inResetStore
  split
  · exact h
  · split <;> exact h

theorem enqueueResetExpiration (h : Stays x y s me) (sid : Nat) :
    Stays x y s (me.enqueueResetExpiration sid) := by
  unfold Inner.enqueueResetExpiration
  dsimp only
  split <;> exact h

theorem resetStream (h : Stays x y s me) (sid : Nat) (reason : Reason) (initiator : Initiator) :
    Stays x y s (me.resetStream sid reason initiator).1 := by
  unfold Inner.resetStream
  dsimp only
  split
  · exact h
  · next e he =>
    split
    · next hclosed =>
      have hr : ∀ st : State, st.isClosed = true → Stays x y s
          (((me.setStream sid { e with state := st }).reclaimStreamAccounting sid).closeStream
            sid).1 := fun st hst => h.reclaims he hst ⟨rfl, rfl, rfl⟩
      repeat' split
      all_goals first
        | exact (hr _ hclosed).enqueueResetExpiration sid
        | exact (hr _ (by simp)).enqueueResetExpiration sid
        | exact hr _ hclosed
        | exact hr _ (by simp)
    · refine enqueueResetExpiration ?_ sid
      exact h.reclaims he (State.isClosed_setReset _ _ _ _) ⟨rfl, rfl, rfl⟩

theorem finishStream (h : Stays x y s me) (sid : Nat) : Stays x y s (me.finishStream sid).1 := by
  have hc := h.closeStream sid
  unfold Inner.finishStream
  dsimp only
  repeat' split
  all_goals first
    | exact hc
    | exact hc.resetStream sid _ _
    | exact hc.reclaimStreamAccounting sid

theorem abortStream (h : Stays x y s me) (sid : Nat) (reason : Option Reason) :
    Stays x y s (me.abortStream sid reason).1 := by
  unfold Inner.abortStream
  dsimp only
  split
  · exact h
  · next e he =>
    have hc : (abortState e.state reason).isClosed = true := by
      cases reason <;> simp [abortState]
    have hs : Stays (fun k => x k ∨ k = sid) y s (me.setStream sid { e with
        state := abortState e.state reason
        recvUnreleased := 0, dataBudgetCharged := 0, recvReclaimed := true }) :=
      (h.mono fun _ => .inl).set he
        ⟨rfl, rfl, .inr (.inl rfl), rfl, .of_isClosed hc, fun _ _ => .inl (.inr rfl)⟩
    have hclosed : ∀ a, (me.setStream sid { e with
        state := abortState e.state reason
        recvUnreleased := 0, dataBudgetCharged := 0, recvReclaimed := true }).streams.lookup sid =
          some a → a.state.isClosed = true := by
      intro a ha
      obtain rfl := Option.some.inj ((AList.lookup_insert _).symm.trans ha)
      exact hc
    exact (hs.closes hclosed).erase ((hs.closeStream_gone sid).2 hclosed)

theorem abortAll (h : Stays x y s me) (reason : Option Reason) (ids : List Nat) :
    Stays x y s (me.abortAll reason ids).1 := by
  induction ids generalizing me with
  | nil => exact h
  | cons sid ids ih => exact ih (h.abortStream sid reason)

end Stays

end Inner

end Httpunk.H2
