import Httpunk.H2.Driver.Invariant
import Httpunk.Data.Queue

/-!
# H2 — Driver — Lanes

The two lanes of sending: the send rotation, and the line for connection window.  Who is in them is
kept twice, in the queues and in the flags of the entries.

* `StreamEntry.Fit`: the flags of an entry go with each other and with its state.
* `Inner.Lanes`: both queues go with the flags.  The streams `x` excepts may be in a lane though
  their send half is over.
* `Lanes.set`, `Lanes.insert`, `Lanes.erase`: the store beside the queues.
* `Lanes.enqueueSend`, `Lanes.lineUp`, `Lanes.leaveSendQueue` and the like: the methods of the queues.
* `Lanes.finished`: what is left of a stream that finishes has no place.
-/

namespace Httpunk.H2

open Queue (Marked)

/-! ### What transitions do to a send half that streams -/

namespace State

/-- What streams has sent its head. -/
theorem sendOpen_isSendStreaming {st st' : State} {eos : Bool} (h : st.sendOpen eos = .ok st') :
    st.isSendStreaming = false := by
  unfold sendOpen at h
  split at h <;> cases h <;> rfl

/-- A head that is received leaves a send half that streams alone. -/
theorem recvOpen_isSendStreaming {st st' : State} {eos inf : Bool}
    (h : st.recvOpen eos inf = .ok st') (hs : st.isSendStreaming = true) :
    st'.isSendStreaming = true := by
  unfold recvOpen at h
  split at h <;> cases h
  · cases hs
  · cases hs
  · next l => cases l <;> cases eos <;> first | rfl | cases hs
  · cases hs

/-- So does the end of the message. -/
theorem recvClose_isSendStreaming {st st' : State} (h : st.recvClose = .ok st')
    (hs : st.isSendStreaming = true) : st'.isSendStreaming = true := by
  unfold recvClose at h
  split at h <;> cases h
  · next l r => cases l <;> first | rfl | cases hs
  · cases hs

end State

/-! ### Entries -/

/-- The stream has a place in one of the lanes. -/
def StreamEntry.placed (e : StreamEntry) : Bool := e.isPendingSend || e.isPendingCapacity

/-- The stream can send. -/
def StreamEntry.sends (e : StreamEntry) : Bool := e.state.isSendStreaming

/-- The flags of an entry go with each other and with its state. -/
structure StreamEntry.Fit (e : StreamEntry) : Prop where
  one : e.isPendingSend = true → e.isPendingCapacity = false
  begun : e.placed = true → e.state.sendBegun = true
  counted : e.isPendingSend = false → e.turnFrames = 0
  gone : e.finished = true → e.state.isClosed = true ∧ e.placed = false

/-- An entry that has the flags it had, and goes on sending unless it is excepted. -/
structure StreamEntry.Goes (x : Prop) (e e' : StreamEntry) : Prop where
  send : e'.isPendingSend = e.isPendingSend
  capacity : e'.isPendingCapacity = e.isPendingCapacity
  turn : e.isPendingSend = true ∨ e'.turnFrames = e.turnFrames ∨ e'.turnFrames = 0
  finished : e'.finished = e.finished
  later : State.Later e.state e'.state
  sending : e.placed = true → e.sends = true → x ∨ e'.sends = true

namespace StreamEntry

variable {x : Prop} {e e' : StreamEntry}

theorem placed_of_send (h : e.isPendingSend = true) : e.placed = true := by
  rw [placed, h, Bool.true_or]

theorem placed_of_capacity (h : e.isPendingCapacity = true) : e.placed = true := by
  rw [placed, h, Bool.or_true]

theorem placed_eq_false : e.placed = false ↔ e.isPendingSend = false ∧ e.isPendingCapacity = false :=
  Bool.or_eq_false_iff

/-- What is finished sends nothing. -/
theorem Fit.not_finished (h : e.Fit) (hs : e.sends = true) : e.finished = false := by
  cases hf : e.finished with
  | false => rfl
  | true =>
    have hc := State.isSendStreaming_of_isSendClosed
      (State.isSendClosed_of_isClosed (h.gone hf).1)
    rw [sends, hc] at hs
    cases hs

theorem fit_new (sendWindow recvWindow : Nat) (isHead : Bool) :
    (new sendWindow recvWindow isHead).Fit where
  one := fun h => by cases h
  begun := fun h => by cases h
  counted := fun _ => rfl
  gone := fun h => by cases h

/-- The state stays, with the flags. -/
theorem Goes.same (hs : e'.isPendingSend = e.isPendingSend)
    (hc : e'.isPendingCapacity = e.isPendingCapacity) (ht : e'.turnFrames = e.turnFrames)
    (hf : e'.finished = e.finished) (hst : e'.state = e.state) : e.Goes x e' where
  send := hs
  capacity := hc
  turn := .inr (.inl ht)
  finished := hf
  later := hst ▸ .refl _
  sending := fun _ h => .inr (by rw [sends, hst]; exact h)

/-- Another state, and nothing else. -/
theorem Goes.state {st : State} (hl : State.Later e.state st)
    (hs : e.placed = true → e.sends = true → x ∨ st.isSendStreaming = true) :
    e.Goes x { e with state := st } :=
  ⟨rfl, rfl, .inr (.inl rfl), rfl, hl, hs⟩

theorem Goes.placed (h : e.Goes x e') : e'.placed = e.placed := by
  rw [StreamEntry.placed, h.send, h.capacity, StreamEntry.placed]

theorem Goes.fit (h : e.Goes x e') (hf : e.Fit) : e'.Fit where
  one := by
    rw [h.send, h.capacity]
    exact hf.one
  begun := fun hp => h.later.sendBegun (hf.begun (h.placed ▸ hp))
  counted := by
    intro hs
    rw [h.send] at hs
    rcases h.turn with hp | ht | ht
    · rw [hs] at hp
      cases hp
    · rw [ht]
      exact hf.counted hs
    · exact ht
  gone := by
    rw [h.finished, h.placed]
    exact fun hg => ⟨h.later.closed (hf.gone hg).1, (hf.gone hg).2⟩

/-- Who sends and has a place did so before: a message that has begun does not begin anew. -/
theorem Goes.sent (h : e.Goes x e') (hf : e.Fit) (hp : e.placed = true) (hs : e'.sends = true) :
    e.sends = true := by
  have hb := hf.begun hp
  rw [State.sendBegun, Bool.or_eq_true] at hb
  refine hb.resolve_right fun hc => ?_
  have hn := State.isSendStreaming_of_isSendClosed (h.later.sendClosed hc)
  rw [StreamEntry.sends, hn] at hs
  cases hs

end StreamEntry

/-- The queues go with the flags of the entries. -/
structure LanesOn (x : Nat → Prop) (t : Store Nat StreamEntry) (send capacity : List Nat) :
    Prop where
  send : Marked StreamEntry.isPendingSend StreamEntry.sends t send
  capacity : Marked StreamEntry.isPendingCapacity StreamEntry.sends t capacity
  fits : ∀ k e, t.lookup k = some e → e.Fit
  whole : ∀ k e, t.lookup k = some e → e.placed = true → x k ∨ e.sends = true

namespace Inner

/-- The lanes of the connection go with the flags; `x` excepts streams whose send half may be
over. -/
abbrev Lanes (x : Nat → Prop) (me : Inner) : Prop :=
  LanesOn x me.streams me.pendingSend me.pendingCapacity

variable {me : Inner} {sid : Nat} {e e' : StreamEntry} {x : Nat → Prop}

namespace Lanes

/-- More streams are excepted. -/
theorem mono {y : Nat → Prop} (h : Lanes x me) (hxy : ∀ k, x k → y k) : Lanes y me :=
  ⟨h.send, h.capacity, h.fits, fun k e he hp => (h.whole k e he hp).imp (hxy k) id⟩

/-- A stream that has no place needs no exception. -/
theorem narrow (h : Lanes (fun k => x k ∨ k = sid) me)
    (hn : ∀ e, me.streams.lookup sid = some e → e.placed = false) : Lanes x me := by
  refine ⟨h.send, h.capacity, h.fits, fun k e he hp => ?_⟩
  rcases h.whole k e he hp with (hx | rfl) | hs
  · exact .inl hx
  · rw [hn e he] at hp
    cases hp
  · exact .inr hs

/-! ### The store -/

/-- An entry goes on with its flags. -/
theorem set (h : Lanes x me) (he : me.streams.lookup sid = some e) (hk : e.Goes (x sid) e') :
    Lanes x (me.setStream sid e') where
  send := h.send.put he hk.send fun hf hs =>
    hk.sent (h.fits sid e he) (StreamEntry.placed_of_send (hk.send ▸ hf)) hs
  capacity := h.capacity.put he hk.capacity fun hf hs =>
    hk.sent (h.fits sid e he) (StreamEntry.placed_of_capacity (hk.capacity ▸ hf)) hs
  fits := by
    intro k a ha
    rw [setStream, Store.lookup_insert'] at ha
    split at ha
    · cases ha
      exact hk.fit (h.fits sid e he)
    · exact h.fits k a ha
  whole := by
    intro k a ha hp
    rw [setStream, Store.lookup_insert'] at ha
    split at ha
    · next hks =>
      cases ha
      subst hks
      rw [hk.placed] at hp
      rcases h.whole k e he hp with hx | hs
      · exact .inl hx
      · exact hk.sending hp hs
    · exact h.whole k a ha hp

/-- A new entry has no place. -/
theorem insert (h : Lanes x me) (hn : ∀ e, me.streams.lookup sid = some e → e.placed = false)
    (hf : e'.Fit) (hp : e'.placed = false) : Lanes x (me.setStream sid e') := by
  have hflags := StreamEntry.placed_eq_false.mp hp
  refine ⟨h.send.insert (fun e he => (StreamEntry.placed_eq_false.mp (hn e he)).1) hflags.1,
    h.capacity.insert (fun e he => (StreamEntry.placed_eq_false.mp (hn e he)).2) hflags.2,
    fun k a ha => ?_, fun k a ha hpa => ?_⟩
  · rw [setStream, Store.lookup_insert'] at ha
    split at ha
    · cases ha
      exact hf
    · exact h.fits k a ha
  · rw [setStream, Store.lookup_insert'] at ha
    split at ha
    · cases ha
      rw [hp] at hpa
      cases hpa
    · exact h.whole k a ha hpa

/-- An entry that has no place is removed. -/
theorem erase (h : Lanes x me) (hn : ∀ e, me.streams.lookup sid = some e → e.placed = false) :
    Lanes x { me with streams := me.streams.erase sid } := by
  refine ⟨h.send.erase fun e he => (StreamEntry.placed_eq_false.mp (hn e he)).1,
    h.capacity.erase fun e he => (StreamEntry.placed_eq_false.mp (hn e he)).2,
    fun k a ha => ?_, fun k a ha => ?_⟩
  · change (me.streams.erase sid).lookup k = some a at ha
    rw [Store.lookup_erase'] at ha
    split at ha
    · cases ha
    · exact h.fits k a ha
  · change (me.streams.erase sid).lookup k = some a at ha
    rw [Store.lookup_erase'] at ha
    split at ha
    · cases ha
    · exact h.whole k a ha

/-! ### The queues -/

/-- A stream that sends joins the rotation. -/
theorem enqueueSend (h : Lanes x me)
    (hs : ∀ e, me.streams.lookup sid = some e → e.isPendingCapacity = false ∧ e.sends = true) :
    Lanes x (me.enqueueSend sid) := by
  unfold Inner.enqueueSend
  split
  · exact h
  · next e he =>
    split
    · exact h
    · next hf =>
      rw [Bool.not_eq_true] at hf
      obtain ⟨hc, hsend⟩ := hs e he
      have hfit := h.fits sid e he
      refine ⟨h.send.join he hf rfl, h.capacity.put he rfl fun _ _ => hsend, fun k a ha => ?_,
        fun k a ha hp => ?_⟩
      · rw [setStream, Store.lookup_insert'] at ha
        split at ha
        · cases ha
          refine ⟨fun _ => hc, fun _ => ?_, fun hn => (by cases hn), fun hg => ?_⟩
          · rw [State.sendBegun, show e.state.isSendStreaming = true from hsend, Bool.true_or]
          · rw [show e.finished = false from hfit.not_finished hsend] at hg
            cases hg
        · exact h.fits k a ha
      · rw [setStream, Store.lookup_insert'] at ha
        split at ha
        · cases ha
          exact .inr hsend
        · exact h.whole k a ha hp

end Lanes

/-- The entry of a stream that leaves the rotation. -/
theorem lookup_leaveSendQueue (me : Inner) (sid k : Nat) :
    (me.leaveSendQueue sid).1.streams.lookup k = if k = sid then (me.streams.lookup sid).map
      fun e => if e.isPendingSend then { e with isPendingSend := false, turnFrames := 0 } else e
    else me.streams.lookup k := by
  unfold Inner.leaveSendQueue
  dsimp only
  split
  · next hn =>
    split
    · next hk => rw [hk, hn]; rfl
    · rfl
  · next e he =>
    rw [he]
    split
    · next hf =>
      rw [Bool.not_eq_true'] at hf
      split
      · next hk => rw [hk, he, Option.map_some, hf]; rfl
      · rfl
    · next hf =>
      rw [Bool.not_eq_true', Bool.not_eq_false] at hf
      rw [Option.map_some, hf]
      split <;> exact Store.lookup_insert' _ _ _ _

/-- The entry of a stream that leaves the line. -/
theorem lookup_leaveCapacityQueue (me : Inner) (sid k : Nat) :
    (me.leaveCapacityQueue sid).1.streams.lookup k = if k = sid then (me.streams.lookup sid).map
      fun e => { e with isPendingCapacity := false }
    else me.streams.lookup k := by
  unfold Inner.leaveCapacityQueue
  dsimp only
  split
  · next hn =>
    split
    · next hk => rw [hk, hn]; rfl
    · rfl
  · next e he =>
    rw [he]
    split
    · next hf =>
      rw [Bool.not_eq_true'] at hf
      split
      · next hk => rw [hk, he, Option.map_some, ← hf]
      · rfl
    · rw [Option.map_some]
      split <;> exact Store.lookup_insert' _ _ _ _

/-- Both queues still go with the flags where a stream leaves the rotation. -/
theorem marked_leaveSendQueue (sid : Nat)
    (hs : Marked StreamEntry.isPendingSend StreamEntry.sends me.streams me.pendingSend)
    (hc : Marked StreamEntry.isPendingCapacity StreamEntry.sends me.streams me.pendingCapacity) :
    Marked StreamEntry.isPendingSend StreamEntry.sends (me.leaveSendQueue sid).1.streams
        (me.leaveSendQueue sid).1.pendingSend ∧
      Marked StreamEntry.isPendingCapacity StreamEntry.sends (me.leaveSendQueue sid).1.streams
        (me.leaveSendQueue sid).1.pendingCapacity := by
  unfold Inner.leaveSendQueue
  dsimp only
  split
  · exact ⟨hs, hc⟩
  · next e he =>
    split
    · exact ⟨hs, hc⟩
    · have hother : Marked StreamEntry.isPendingCapacity StreamEntry.sends
          (me.streams.insert sid { e with isPendingSend := false, turnFrames := 0 })
          me.pendingCapacity := hc.put he rfl fun _ h => h
      have hleft : Marked StreamEntry.isPendingSend StreamEntry.sends
          (me.streams.insert sid { e with isPendingSend := false, turnFrames := 0 })
          (me.pendingSend.filter (· ≠ sid)) := hs.leave rfl
      split
      · next hd =>
        refine ⟨?_, hother⟩
        rw [← Queue.tail_eq_filter hs.nodup hd] at hleft
        exact hleft
      · exact ⟨hleft, hother⟩

/-- Both queues still go with the flags where a stream leaves the line. -/
theorem marked_leaveCapacityQueue (sid : Nat)
    (hs : Marked StreamEntry.isPendingSend StreamEntry.sends me.streams me.pendingSend)
    (hc : Marked StreamEntry.isPendingCapacity StreamEntry.sends me.streams me.pendingCapacity) :
    Marked StreamEntry.isPendingSend StreamEntry.sends (me.leaveCapacityQueue sid).1.streams
        (me.leaveCapacityQueue sid).1.pendingSend ∧
      Marked StreamEntry.isPendingCapacity StreamEntry.sends
        (me.leaveCapacityQueue sid).1.streams (me.leaveCapacityQueue sid).1.pendingCapacity := by
  unfold Inner.leaveCapacityQueue
  dsimp only
  split
  · exact ⟨hs, hc⟩
  · next e he =>
    split
    · exact ⟨hs, hc⟩
    · have hother : Marked StreamEntry.isPendingSend StreamEntry.sends
          (me.streams.insert sid { e with isPendingCapacity := false }) me.pendingSend :=
        hs.put he rfl fun _ h => h
      have hleft : Marked StreamEntry.isPendingCapacity StreamEntry.sends
          (me.streams.insert sid { e with isPendingCapacity := false })
          (me.pendingCapacity.filter (· ≠ sid)) := hc.leave rfl
      split
      · next hd =>
        refine ⟨hother, ?_⟩
        rw [← Queue.tail_eq_filter hc.nodup hd] at hleft
        exact hleft
      · exact ⟨hother, hleft⟩

/-- The entry of a stream that joins the line. -/
theorem lookup_enqueueCapacity (me : Inner) (sid k : Nat) :
    (me.enqueueCapacity sid).streams.lookup k = if k = sid then (me.streams.lookup sid).map
      fun e => { e with isPendingCapacity := true }
    else me.streams.lookup k := by
  unfold Inner.enqueueCapacity
  split
  · next hn =>
    split
    · next hk => rw [hk, hn]; rfl
    · rfl
  · next e he =>
    rw [he]
    split
    · next hf =>
      split
      · next hk => rw [hk, he, Option.map_some, ← hf]
      · rfl
    · rw [Option.map_some]
      exact Store.lookup_insert' _ _ _ _

/-- Both queues still go with the flags where a stream joins the line. -/
theorem marked_enqueueCapacity (sid : Nat)
    (hs : Marked StreamEntry.isPendingSend StreamEntry.sends me.streams me.pendingSend)
    (hc : Marked StreamEntry.isPendingCapacity StreamEntry.sends me.streams me.pendingCapacity) :
    Marked StreamEntry.isPendingSend StreamEntry.sends (me.enqueueCapacity sid).streams
        (me.enqueueCapacity sid).pendingSend ∧
      Marked StreamEntry.isPendingCapacity StreamEntry.sends (me.enqueueCapacity sid).streams
        (me.enqueueCapacity sid).pendingCapacity := by
  unfold Inner.enqueueCapacity
  split
  · exact ⟨hs, hc⟩
  · next e he =>
    split
    · exact ⟨hs, hc⟩
    · next hf =>
      rw [Bool.not_eq_true] at hf
      exact ⟨hs.put he rfl fun _ h => h, hc.join he hf rfl⟩

namespace Lanes

/-- A stream that sends leaves the rotation to join the line. -/
theorem lineUp (h : Lanes x me) (he : me.streams.lookup sid = some e) (hs : e.sends = true) :
    Lanes x ((me.enqueueCapacity sid).leaveSendQueue sid).1 := by
  have hfit := h.fits sid e he
  obtain ⟨hs₁, hc₁⟩ := marked_enqueueCapacity sid h.send h.capacity
  obtain ⟨hs₂, hc₂⟩ := marked_leaveSendQueue sid hs₁ hc₁
  have hlook : ∀ k a, ((me.enqueueCapacity sid).leaveSendQueue sid).1.streams.lookup k = some a →
      k = sid ∧ a.Fit ∧ a.sends = true ∨ me.streams.lookup k = some a := by
    intro k a ha
    rw [lookup_leaveSendQueue, lookup_enqueueCapacity, lookup_enqueueCapacity, if_pos rfl, he] at ha
    split at ha
    · next hk =>
      rw [Option.map_some, Option.map_some] at ha
      obtain rfl := Option.some.inj ha
      have hbegun : e.state.sendBegun = true := by
        rw [State.sendBegun, show e.state.isSendStreaming = true from hs, Bool.true_or]
      have hlive : e.finished ≠ true := by rw [hfit.not_finished hs]; decide
      refine .inl ⟨hk, ?_⟩
      split
      · exact ⟨⟨fun hn => (by cases hn), fun _ => hbegun, fun _ => rfl, fun hg => absurd hg hlive⟩, hs⟩
      · next hf =>
        have hnot : e.isPendingSend ≠ true := hf
        exact ⟨⟨fun hn => absurd hn hnot, fun _ => hbegun, hfit.counted,
          fun hg => absurd hg hlive⟩, hs⟩
    · exact .inr ha
  refine ⟨hs₂, hc₂, fun k a ha => ?_, fun k a ha hp => ?_⟩
  · rcases hlook k a ha with ⟨-, hf, -⟩ | ha
    · exact hf
    · exact h.fits k a ha
  · rcases hlook k a ha with ⟨-, -, hsend⟩ | ha
    · exact .inr hsend
    · exact h.whole k a ha hp

theorem leaveSendQueue (h : Lanes x me) (sid : Nat) : Lanes x (me.leaveSendQueue sid).1 := by
  obtain ⟨hs, hc⟩ := marked_leaveSendQueue sid h.send h.capacity
  refine ⟨hs, hc, fun k a ha => ?_, fun k a ha hp => ?_⟩
  · rw [lookup_leaveSendQueue] at ha
    split at ha
    · obtain ⟨e, he, rfl⟩ := Option.map_eq_some_iff.mp ha
      have hf := h.fits sid e he
      split
      · refine ⟨fun hn => (by cases hn), fun hp => hf.begun ?_, fun _ => rfl, fun hg => ?_⟩
        · have hcap : e.isPendingCapacity = true := hp
          exact StreamEntry.placed_of_capacity hcap
        · obtain ⟨hclosed, hp⟩ := hf.gone hg
          exact ⟨hclosed, StreamEntry.placed_eq_false.mpr ⟨rfl, (StreamEntry.placed_eq_false.mp hp).2⟩⟩
      · exact hf
    · exact h.fits k a ha
  · rw [lookup_leaveSendQueue] at ha
    split at ha
    · next hk =>
      obtain ⟨e, he, rfl⟩ := Option.map_eq_some_iff.mp ha
      subst hk
      have hcap : e.placed = true → x k ∨ e.sends = true := h.whole k e he
      split at hp
      · next hf =>
        rw [if_pos hf]
        exact hcap (StreamEntry.placed_of_send hf)
      · next hf =>
        rw [if_neg hf]
        exact hcap hp
    · exact h.whole k a ha hp

/-- What is ready is flagged, and sends. -/
theorem sendReady_iff {k : Nat} (h : Lanes x me) : me.sendReady k = true ↔
    ∃ e, me.streams.lookup k = some e ∧ e.isPendingSend = true ∧ e.sends = true := by
  unfold Inner.sendReady
  split
  · next e he =>
    simp only [Bool.and_eq_true, Bool.not_eq_true']
    constructor
    · intro hr
      exact ⟨e, he, hr.1.1, hr.2⟩
    · rintro ⟨e', he', hf, hs⟩
      rw [he] at he'
      cases he'
      exact ⟨⟨hf, (h.fits k e he).not_finished hs⟩, hs⟩
  · next hn =>
    refine iff_of_false (by decide) ?_
    rintro ⟨e, he, -⟩
    rw [hn] at he
    cases he

theorem capacityReady_iff {k : Nat} (h : Lanes x me) : me.capacityReady k = true ↔
    ∃ e, me.streams.lookup k = some e ∧ e.isPendingCapacity = true ∧ e.sends = true := by
  unfold Inner.capacityReady
  split
  · next e he =>
    simp only [Bool.and_eq_true, Bool.not_eq_true']
    constructor
    · intro hr
      exact ⟨e, he, hr.1.1, hr.2⟩
    · rintro ⟨e', he', hf, hs⟩
      rw [he] at he'
      cases he'
      exact ⟨⟨hf, (h.fits k e he).not_finished hs⟩, hs⟩
  · next hn =>
    refine iff_of_false (by decide) ?_
    rintro ⟨e, he, -⟩
    rw [hn] at he
    cases he

theorem sendFront (h : Lanes x me) : Lanes x me.sendFront.1 := by
  refine ⟨h.send.skip fun k e he hf hs => ?_, h.capacity, h.fits, h.whole⟩
  rw [Bool.not_eq_false']
  exact h.sendReady_iff.mpr ⟨e, he, hf, hs⟩

theorem capacityFront (h : Lanes x me) : Lanes x me.capacityFront.1 := by
  refine ⟨h.send, h.capacity.skip fun k e he hf hs => ?_, h.fits, h.whole⟩
  rw [Bool.not_eq_false']
  exact h.capacityReady_iff.mpr ⟨e, he, hf, hs⟩

theorem sendQueue_head {k : Nat} (h : Lanes x me) (hd : me.sendQueue.head? = some k) :
    ∃ e, me.streams.lookup k = some e ∧ e.isPendingSend = true ∧ e.sends = true :=
  h.sendReady_iff.mp (Queue.head_dropWhile hd)

theorem capacityQueue_head {k : Nat} (h : Lanes x me) (hd : me.capacityQueue.head? = some k) :
    ∃ e, me.streams.lookup k = some e ∧ e.isPendingCapacity = true ∧ e.sends = true :=
  h.capacityReady_iff.mp (Queue.head_dropWhile hd)

/-- A stream leaves the line, by any way. -/
theorem leaveLine (h : Lanes x me) (he : me.streams.lookup sid = some e) {q : List Nat}
    (hq : q = me.pendingCapacity.filter (· ≠ sid)) :
    Lanes x { me.setStream sid { e with isPendingCapacity := false } with pendingCapacity := q } := by
  have hfit := h.fits sid e he
  subst hq
  refine ⟨h.send.put he rfl fun _ hs => hs, h.capacity.leave rfl, fun k a ha => ?_,
    fun k a ha hp => ?_⟩
  · rw [setStream, Store.lookup_insert'] at ha
    split at ha
    · cases ha
      refine ⟨fun _ => rfl, fun hp => hfit.begun ?_, hfit.counted, fun hg => ?_⟩
      · rw [StreamEntry.placed, Bool.or_false] at hp
        exact StreamEntry.placed_of_send hp
      · obtain ⟨hclosed, hp⟩ := hfit.gone hg
        exact ⟨hclosed, StreamEntry.placed_eq_false.mpr ⟨(StreamEntry.placed_eq_false.mp hp).1, rfl⟩⟩
    · exact h.fits k a ha
  · rw [setStream, Store.lookup_insert'] at ha
    split at ha
    · next hk =>
      cases ha
      subst hk
      rw [StreamEntry.placed, Bool.or_false] at hp
      exact h.whole k e he (StreamEntry.placed_of_send hp)
    · exact h.whole k a ha hp

/-- The first of the line joins the rotation. -/
theorem admitCapacityFront (h : Lanes x me) : Lanes x me.admitCapacityFront.1 := by
  unfold Inner.admitCapacityFront
  dsimp only
  split
  · exact h
  · split
    · exact h.sendFront
    · have hw : Lanes x me.sendFront.1.capacityFront.1 := h.sendFront.capacityFront
      split
      · exact hw
      · next sid hd =>
        obtain ⟨e, he, hc, hs⟩ := capacityQueue_head h hd
        have he' : me.sendFront.1.capacityFront.1.streams.lookup sid = some e := he
        rw [he']
        refine enqueueSend (hw.leaveLine he' (Queue.tail_eq_filter hw.capacity.nodup hd)) ?_
        intro a ha
        obtain rfl := Option.some.inj ((AList.lookup_insert _).symm.trans ha)
        exact ⟨rfl, hs⟩

theorem leaveWaiting (h : Lanes x me) (he : me.streams.lookup sid = some e) :
    Lanes x (me.leaveWaiting sid e) := by
  unfold Inner.leaveWaiting
  split
  · exact h.leaveLine he rfl
  · exact h

/-! ### The start, and the map of streams -/

theorem begin (cfg : Config) : Lanes x (Inner.new cfg).begin := by
  obtain ⟨fc, fs, hb, -, -, -⟩ := Inner.begin_spec cfg
  have hnew : Lanes x (Inner.new cfg) :=
    ⟨.empty, .empty, fun _ _ h => (by cases h), fun _ _ h => by cases h⟩
  rw [hb]
  exact hnew

/-- The map of streams is laid out anew. -/
theorem rehash (h : Lanes x me) {m : Store Nat StreamEntry}
    (hm : me.streams.entries.Perm m.entries) : Lanes x { me with streams := m } := by
  have hl : ∀ k, me.streams.lookup k = m.lookup k := fun _ => AList.perm_lookup hm
  refine ⟨h.send.carry (fun k e he hf => ⟨e, (hl k).symm.trans he, hf⟩)
      fun k e he hf hs => ⟨e, (hl k).trans he, hf, hs⟩,
    h.capacity.carry (fun k e he hf => ⟨e, (hl k).symm.trans he, hf⟩)
      fun k e he hf hs => ⟨e, (hl k).trans he, hf, hs⟩,
    fun k e he => h.fits k e ((hl k).trans he), fun k e he => h.whole k e ((hl k).trans he)⟩

/-! ### The end of a stream -/

/-- An entry that is finished has no place. -/
theorem gone (h : Lanes x me) (he : me.streams.lookup sid = some e) (hf : e.finished = true) :
    ∀ a, me.streams.lookup sid = some a → a.placed = false := by
  intro a ha
  rw [he] at ha
  cases ha
  exact ((h.fits sid e he).gone hf).2

/-- What is left of an entry that finishes has no place. -/
theorem finished (h : Lanes x me) (he : me.streams.lookup sid = some e)
    (hc : e.state.isClosed = true) :
    Lanes x (((me.finishEntry sid e).leaveSendQueue sid).1.leaveCapacityQueue sid).1 ∧
      ∀ a, (((me.finishEntry sid e).leaveSendQueue sid).1.leaveCapacityQueue sid).1.streams.lookup
        sid = some a → a.placed = false := by
  have hfit := h.fits sid e he
  have hs : Marked StreamEntry.isPendingSend StreamEntry.sends (me.finishEntry sid e).streams
      (me.finishEntry sid e).pendingSend := h.send.put he rfl fun _ hs => hs
  have hcap : Marked StreamEntry.isPendingCapacity StreamEntry.sends (me.finishEntry sid e).streams
      (me.finishEntry sid e).pendingCapacity := h.capacity.put he rfl fun _ hs => hs
  obtain ⟨hs₁, hc₁⟩ := marked_leaveSendQueue sid hs hcap
  obtain ⟨hs₂, hc₂⟩ := marked_leaveCapacityQueue sid hs₁ hc₁
  have hfin : (me.finishEntry sid e).streams.lookup sid =
      some { e with finished := true, holdsSlot := false } := AList.lookup_insert _
  have hlook : ∀ k a,
      (((me.finishEntry sid e).leaveSendQueue sid).1.leaveCapacityQueue sid).1.streams.lookup k =
        some a → k = sid ∧ a.Fit ∧ a.placed = false ∨ me.streams.lookup k = some a := by
    intro k a ha
    rw [lookup_leaveCapacityQueue, lookup_leaveSendQueue, if_pos rfl, hfin] at ha
    split at ha
    · next hk =>
      refine .inl ⟨hk, ?_⟩
      rw [Option.map_some, Option.map_some] at ha
      obtain rfl := Option.some.inj ha
      split
      · exact ⟨⟨fun hn => (by cases hn), fun hp => (by cases hp), fun _ => rfl, fun _ => ⟨hc, rfl⟩⟩, rfl⟩
      · next hf =>
        rw [Bool.not_eq_true] at hf
        have hnone : StreamEntry.placed
            { e with finished := true, holdsSlot := false, isPendingCapacity := false } = false :=
          StreamEntry.placed_eq_false.mpr ⟨hf, rfl⟩
        refine ⟨⟨fun _ => rfl, fun hp => ?_, fun _ => hfit.counted hf, fun _ => ⟨hc, hnone⟩⟩, hnone⟩
        rw [hnone] at hp
        cases hp
    · next hk =>
      rw [lookup_leaveSendQueue, if_neg hk] at ha
      exact .inr ((AList.lookup_insert_ne hk).symm.trans ha)
  refine ⟨⟨hs₂, hc₂, fun k a ha => ?_, fun k a ha hp => ?_⟩, fun a ha => ?_⟩
  · rcases hlook k a ha with ⟨-, hf, -⟩ | ha
    · exact hf
    · exact h.fits k a ha
  · rcases hlook k a ha with ⟨-, -, hn⟩ | ha
    · rw [hn] at hp
      cases hp
    · exact h.whole k a ha hp
  · rw [lookup_leaveCapacityQueue, lookup_leaveSendQueue, if_pos rfl, if_pos rfl, hfin] at ha
    rw [Option.map_some, Option.map_some] at ha
    obtain rfl := Option.some.inj ha
    split
    · rfl
    · next hf =>
      rw [Bool.not_eq_true] at hf
      exact StreamEntry.placed_eq_false.mpr ⟨hf, rfl⟩

end Lanes

end Inner

end Httpunk.H2
