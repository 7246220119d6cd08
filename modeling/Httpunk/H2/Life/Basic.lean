import Httpunk.H2.Moves.Control

/-!
# H2 — Life — Basic

The life of the stream entries in finer steps than the moves: what an entry counts (its slot, its
unread bytes, its framing charge, its send buffer, its declared length), and the counters of the
connection that go with it.  A call of the connection is a run of touches, each with its mark,
and an invariant over what the entries count is a fact that each touch keeps.

* `Still`: two states whose entries count the same.  It is transitive, and one kind of touch.
* `Mark`: what a touch changes, with the stream it is about.  `Mark.common` are the marks that
  any call may leave.
* `Touches extra s s'`: a run of touches of a common mark, or of a mark in `extra`.
-/

namespace Httpunk.H2

open Runs (Reach)
open Httpunk.H2.Inner

/-! ### States and entries that count the same -/

/-- `e'` is `e` but for its windows and its place in the rotation. -/
structure SameLife (e e' : StreamEntry) : Prop where
  state : e'.state = e.state
  contentLength : e'.contentLength = e.contentLength
  recvUnreleased : e'.recvUnreleased = e.recvUnreleased
  recvReclaimed : e'.recvReclaimed = e.recvReclaimed
  sendBuffered : e'.sendBuffered = e.sendBuffered
  dataBudgetCharged : e'.dataBudgetCharged = e.dataBudgetCharged
  holdsSlot : e'.holdsSlot = e.holdsSlot
  finished : e'.finished = e.finished

theorem SameLife.refl (e : StreamEntry) : SameLife e e := ⟨rfl, rfl, rfl, rfl, rfl, rfl, rfl, rfl⟩

theorem SameLife.trans {e₁ e₂ e₃ : StreamEntry} (h₁ : SameLife e₁ e₂) (h₂ : SameLife e₂ e₃) :
    SameLife e₁ e₃ where
  state := h₂.state.trans h₁.state
  contentLength := h₂.contentLength.trans h₁.contentLength
  recvUnreleased := h₂.recvUnreleased.trans h₁.recvUnreleased
  recvReclaimed := h₂.recvReclaimed.trans h₁.recvReclaimed
  sendBuffered := h₂.sendBuffered.trans h₁.sendBuffered
  dataBudgetCharged := h₂.dataBudgetCharged.trans h₁.dataBudgetCharged
  holdsSlot := h₂.holdsSlot.trans h₁.holdsSlot
  finished := h₂.finished.trans h₁.finished

/-- `s'` is `s` up to what no entry counts. -/
structure Still (s s' : Inner) : Prop where
  role : s'.role = s.role
  stored : ∀ {k e}, s.streams.lookup k = some e →
    ∃ e', s'.streams.lookup k = some e' ∧ SameLife e e'
  absent : ∀ {k}, s.streams.lookup k = none → s'.streams.lookup k = none
  used : ∀ {k}, s.Used k → s'.Used k
  numOpenStreams : s'.numOpenStreams = s.numOpenStreams
  credit : s'.credit = s.credit
  inflightCredit : s'.inflightCredit = s.inflightCredit
  maxSendBufSize : s'.maxSendBufSize = s.maxSendBufSize

namespace Still

variable {s s' s₁ s₂ s₃ : Inner} {sid k : Nat} {e e' : StreamEntry}

theorem refl (s : Inner) : Still s s where
  role := rfl
  stored := fun h => ⟨_, h, .refl _⟩
  absent := id
  used := id
  numOpenStreams := rfl
  credit := rfl
  inflightCredit := rfl
  maxSendBufSize := rfl

theorem trans (h₁ : Still s₁ s₂) (h₂ : Still s₂ s₃) : Still s₁ s₃ where
  role := h₂.role.trans h₁.role
  stored := fun h => by
    obtain ⟨e₂, l₂, he₂⟩ := h₁.stored h
    obtain ⟨e₃, l₃, he₃⟩ := h₂.stored l₂
    exact ⟨e₃, l₃, he₂.trans he₃⟩
  absent := fun h => h₂.absent (h₁.absent h)
  used := fun h => h₂.used (h₁.used h)
  numOpenStreams := h₂.numOpenStreams.trans h₁.numOpenStreams
  credit := h₂.credit.trans h₁.credit
  inflightCredit := h₂.inflightCredit.trans h₁.inflightCredit
  maxSendBufSize := h₂.maxSendBufSize.trans h₁.maxSendBufSize

/-- A change of the store that keeps its keys and what each entry counts. -/
theorem streams (s : Inner) {m : Store Nat StreamEntry}
    (stored : ∀ {k e}, s.streams.lookup k = some e → ∃ e', m.lookup k = some e' ∧ SameLife e e')
    (absent : ∀ {k}, s.streams.lookup k = none → m.lookup k = none) :
    Still s { s with streams := m } :=
  { refl s with stored := stored, absent := absent }

/-- Two stores with the same entries. -/
theorem lookups (s : Inner) {m : Store Nat StreamEntry}
    (h : ∀ k, m.lookup k = s.streams.lookup k) : Still s { s with streams := m } :=
  streams s (fun hk => ⟨_, (h _).trans hk, .refl _⟩) (fun hk => (h _).trans hk)

theorem setStream (h : s.streams.lookup sid = some e) (he : SameLife e e') :
    Still s (s.setStream sid e') := by
  refine streams s (fun {k f} hk => ?_) (fun {k} hk => ?_)
  · by_cases ek : k = sid
    · subst ek
      rw [h] at hk
      cases hk
      exact ⟨e', AList.lookup_insert _, he⟩
    · exact ⟨f, by rw [AList.lookup_insert_ne ek]; exact hk, .refl f⟩
  · have ek : k ≠ sid := fun ek => by rw [ek, h] at hk; cases hk
    rw [AList.lookup_insert_ne ek]
    exact hk

theorem perm (s : Inner) {m : Store Nat StreamEntry} (h : s.streams.entries.Perm m.entries) :
    Still s { s with streams := m } := lookups s fun _ => (AList.perm_lookup h).symm

/-- The rotation is not counted. -/
theorem rotation (s : Inner) (a b : List Nat) :
    Still s { s with pendingSend := a, pendingCapacity := b } := { refl s with }

theorem emit (s : Inner) (f : OutFrame) : Still s (s.emit f) := { refl s with }

theorem reclaimConn (s : Inner) (n : Nat) : Still s (s.reclaimConn n) := by
  obtain ⟨fc, fs, h, -⟩ := reclaimConn_eq s n
  rw [h]
  exact { refl s with }

/-- One stream removed from both. -/
theorem erase (h : Still s s') (sid : Nat) :
    Still { s with streams := s.streams.erase sid } { s' with streams := s'.streams.erase sid } := by
  refine { h with stored := fun {k e} hk => ?_, absent := fun {k} hk => ?_ }
  all_goals rw [Store.lookup_erase'] at hk
  · split at hk
    · cases hk
    · next hne =>
      obtain ⟨e', he', hs⟩ := h.stored hk
      exact ⟨e', by rw [Store.lookup_erase', if_neg hne]; exact he', hs⟩
  · rw [Store.lookup_erase']
    split
    · rfl
    · next hne => rw [if_neg hne] at hk; exact h.absent hk

/-- A measure of what the entries count has the same total. -/
theorem total (h : Still s s') {w : Nat → StreamEntry → Nat}
    (hw : ∀ {k e e'}, SameLife e e' → w k e' = w k e) :
    s'.streams.total w = s.streams.total w :=
  Store.total_of_lookup
    (fun _ _ hk => let ⟨e', he', hs⟩ := h.stored hk; ⟨e', he', hw hs⟩) (fun _ => h.absent)

/-- An entry of the later state counts what one of the earlier did. -/
theorem back (h : Still s s') (hk : s'.streams.lookup sid = some e') :
    ∃ e, s.streams.lookup sid = some e ∧ SameLife e e' := by
  rcases hs : s.streams.lookup sid with _ | e
  · rw [h.absent hs] at hk; cases hk
  · obtain ⟨e₁, h₁, he⟩ := h.stored hs
    rw [hk] at h₁
    cases h₁
    exact ⟨e, rfl, he⟩

end Still

/-! ### Marks -/

/-- What a touch changes. -/
inductive Mark where
  | still
  /-- The state of a stream, its receive side as it was. -/
  | turn (sid : Nat)
  /-- The state of a stream that receives a head, and goes on. -/
  | begins (sid : Nat)
  /-- The state of a stream. -/
  | ends (sid : Nat)
  | finish (sid : Nat)
  /-- The unread bytes and the framing charge of a stream, which may leave with them. -/
  | settle (sid : Nat)
  /-- The unread bytes and the framing charge of a stream that has not finished. -/
  | fill (sid : Nat)
  | declare (sid : Nat)
  | buffer (sid n : Nat)
  | credit (sid n : Nat)
  | take
  | written
  | opened (sid : Nat)
  | requested (sid : Nat)
  | claim
  | unclaim
  deriving DecidableEq

/-- The marks any call may leave. -/
def Mark.common : Mark → Bool
  | .still | .finish _ | .settle _ => true
  | _ => false

/-- The entry written back, or removed when it has finished and nothing of it is to be
released. -/
def Inner.keepStream (me : Inner) (sid : Nat) (e : StreamEntry) : Inner :=
  (me.setStream sid e).maybeRemoveSettled sid

/-- One touch, with its mark. -/
inductive Touch : Inner → Mark → Inner → Prop where
  | still {s s' : Inner} (h : Still s s') : Touch s .still s'
  | turn {s : Inner} {sid : Nat} {e : StreamEntry} {st : State}
      (h : s.streams.lookup sid = some e) (hl : State.Later e.state st)
      (hr : st.recvSide = e.state.recvSide) :
      Touch s (.turn sid) (s.setStream sid { e with state := st })
  | begins {s : Inner} {sid : Nat} {e : StreamEntry} {st : State}
      (h : s.streams.lookup sid = some e) (hl : State.Later e.state st)
      (hr : st.recvDone = e.state.recvDone) (hc : st.isClosed = e.state.isClosed) :
      Touch s (.begins sid) (s.setStream sid { e with state := st })
  | ends {s : Inner} {sid : Nat} {e : StreamEntry} {st : State}
      (h : s.streams.lookup sid = some e) (hl : State.Later e.state st) :
      Touch s (.ends sid) (s.setStream sid { e with state := st })
  | finish {s : Inner} {sid : Nat} {e : StreamEntry} (h : s.streams.lookup sid = some e)
      (hc : e.state.isClosed = true) (hf : e.finished = false) :
      Touch s (.finish sid) ((s.finishEntry sid e).maybeRemoveSettled sid)
  | settle {s : Inner} {sid : Nat} {e : StreamEntry} {n c : Nat} {r : Bool}
      (h : s.streams.lookup sid = some e) : Touch s (.settle sid) (s.keepStream sid
        { e with recvUnreleased := n, dataBudgetCharged := c, recvReclaimed := r })
  | fill {s : Inner} {sid : Nat} {e : StreamEntry} {n c : Nat}
      (h : s.streams.lookup sid = some e) (hf : e.finished = false) :
      Touch s (.fill sid)
        (s.setStream sid { e with recvUnreleased := n, dataBudgetCharged := c })
  | declare {s : Inner} {sid : Nat} {e : StreamEntry} {cl : ContentLength}
      (h : s.streams.lookup sid = some e) :
      Touch s (.declare sid) (s.setStream sid { e with contentLength := cl })
  | buffer {s : Inner} {sid n : Nat} {e : StreamEntry} (h : s.streams.lookup sid = some e)
      (hn : e.sendBuffered + n ≤ s.maxSendBufSize) :
      Touch s (.buffer sid n) (s.setStream sid { e with sendBuffered := e.sendBuffered + n })
  | credit {s : Inner} {sid n : Nat} :
      Touch s (.credit sid n) { s with credit := addCredit s.credit sid n }
  | take {s : Inner} :
      Touch s .take { s with credit := [], inflightCredit := s.inflightCredit ++ s.credit }
  | written {s : Inner} : Touch s .written s.creditWritten.1
  | accepted {s : Inner} {sid : Nat} {st : State} (hr : s.role = .server) (h : s.lastRecvId < sid)
      (hn : s.streams.lookup sid = none) (hc : st.isSendClosed = false) :
      Touch s (.opened sid) ({ s with lastRecvId := sid }.insertRequest sid st)
  | requested {s : Inner} {isHead endStream : Bool} {block : Block} {st : State}
      (hr : s.role = .client) (hn : s.streams.lookup s.nextId = none) (hc : st.recvDone = false) :
      Touch s (.requested s.nextId) (s.insertOpened isHead endStream block st)
  | claim {s : Inner} : Touch s .claim { s with numOpenStreams := s.numOpenStreams + 1 }
  | unclaim {s : Inner} : Touch s .unclaim s.releaseSlotCount

/-- The touches of a common mark, or of a mark in `extra`. -/
abbrev Touches (extra : Mark → Prop) : Inner → Inner → Prop :=
  Reach Touch fun _ m => m.common = true ∨ extra m

/-- No mark but the common ones. -/
def Mark.nothing : Mark → Prop := fun _ => False

namespace Touches

variable {extra extra' : Mark → Prop} {s s' : Inner} {m : Mark}

theorem common (h : Touch s m s') (hm : m.common = true) : Touches extra s s' :=
  Reach.single h (.inl hm)

theorem one (h : Touch s m s') (hm : extra m) : Touches extra s s' := Reach.single h (.inr hm)

theorem weaken (r : Touches Mark.nothing s s') : Touches extra s s' :=
  r.mono fun _ _ h => h.elim .inl fun h => h.elim

theorem mono (h : ∀ m, extra m → extra' m) (r : Touches extra s s') : Touches extra' s s' :=
  Reach.mono (fun _ m hm => hm.imp id (h m)) r

theorem still (h : Still s s') : Touches extra s s' := common (.still h) rfl

end Touches

end Httpunk.H2
