import Httpunk.Support.Runs
import Httpunk.H2.Conn.Send
import Httpunk.H2.Conn.Control

/-!
# H2 — Moves — Basic

What one critical section can do to the connection, said once.  A `Move` is a change that no
other call can observe halfway: one ledger operation, one transition of a stream, one frame
queued together with the state it announces.  Every call of the connection is a run of moves
(`Httpunk.H2.Moves.Calls`), and an invariant of the connection is a fact that each move keeps.

* `Alike`: two states that differ at most in bookkeeping.  It is transitive, it keeps every
  total over the core of the entries, and it is one kind of move.
* `Kind`: the kinds of moves, with the stream and the amount where an invariant needs them.
  `Kind.common` are the kinds that any call may make.
* `Moves extra s s'`: a run of moves of a common kind, or of a kind in `extra`.
-/

namespace Httpunk.H2

open Runs (Reach)

/-! ### States and entries that differ in nothing of interest -/

/-- `e'` is `e` but for its receive window, its declared length, its place in the rotation, its
send buffer, its framing charge and its slot. -/
structure SameEntry (e e' : StreamEntry) : Prop where
  state : e'.state = e.state
  sendFlow : e'.sendFlow = e.sendFlow
  recvUnreleased : e'.recvUnreleased = e.recvUnreleased
  recvReclaimed : e'.recvReclaimed = e.recvReclaimed
  finished : e'.finished = e.finished

theorem SameEntry.refl (e : StreamEntry) : SameEntry e e := ⟨rfl, rfl, rfl, rfl, rfl⟩

theorem SameEntry.trans {e₁ e₂ e₃ : StreamEntry} (h₁ : SameEntry e₁ e₂) (h₂ : SameEntry e₂ e₃) :
    SameEntry e₁ e₃ :=
  ⟨h₂.state.trans h₁.state, h₂.sendFlow.trans h₁.sendFlow,
    h₂.recvUnreleased.trans h₁.recvUnreleased, h₂.recvReclaimed.trans h₁.recvReclaimed,
    h₂.finished.trans h₁.finished⟩

/-- `s'` is `s` up to bookkeeping: the send rotation, the budget, the slots, the reset store, the
credit ledger and the like, the order of the store, and what `SameEntry` leaves free. -/
structure Alike (s s' : Inner) : Prop where
  role : s'.role = s.role
  pending : s'.pending = s.pending
  stored : ∀ {k e}, s.streams.lookup k = some e →
    ∃ e', s'.streams.lookup k = some e' ∧ SameEntry e e'
  absent : ∀ {k}, s.streams.lookup k = none → s'.streams.lookup k = none
  numActive : s'.numActive = s.numActive
  peerWindow : s'.peer.initialWindowSize = s.peer.initialWindowSize
  peerFrame : s'.peer.maxFrameSize = s.peer.maxFrameSize
  sendMaxFrameSize : s'.sendMaxFrameSize = s.sendMaxFrameSize
  connSend : s'.connSend = s.connSend
  connRecv : s'.connRecv = s.connRecv
  goaway : s'.goaway = s.goaway
  goawayReplied : s'.goawayReplied = s.goawayReplied
  error : s'.error = s.error
  nextId : s'.nextId = s.nextId
  lastRecvId : s'.lastRecvId = s.lastRecvId
  lastProcessedId : s'.lastProcessedId = s.lastProcessedId
  maxStreamId : s'.maxStreamId = s.maxStreamId
  graceful : s'.graceful = s.graceful
  shutdownFinal : s'.shutdownFinal = s.shutdownFinal

namespace Alike

variable {s s' s₁ s₂ s₃ : Inner} {sid : Nat} {e e' : StreamEntry}

theorem refl (s : Inner) : Alike s s where
  role := rfl
  pending := rfl
  stored := fun h => ⟨_, h, .refl _⟩
  absent := id
  numActive := rfl
  peerWindow := rfl
  peerFrame := rfl
  sendMaxFrameSize := rfl
  connSend := rfl
  connRecv := rfl
  goaway := rfl
  goawayReplied := rfl
  error := rfl
  nextId := rfl
  lastRecvId := rfl
  lastProcessedId := rfl
  maxStreamId := rfl
  graceful := rfl
  shutdownFinal := rfl

theorem trans (h₁ : Alike s₁ s₂) (h₂ : Alike s₂ s₃) : Alike s₁ s₃ where
  role := h₂.role.trans h₁.role
  pending := h₂.pending.trans h₁.pending
  stored := fun h => by
    obtain ⟨e₂, l₂, he₂⟩ := h₁.stored h
    obtain ⟨e₃, l₃, he₃⟩ := h₂.stored l₂
    exact ⟨e₃, l₃, he₂.trans he₃⟩
  absent := fun h => h₂.absent (h₁.absent h)
  numActive := h₂.numActive.trans h₁.numActive
  peerWindow := h₂.peerWindow.trans h₁.peerWindow
  peerFrame := h₂.peerFrame.trans h₁.peerFrame
  sendMaxFrameSize := h₂.sendMaxFrameSize.trans h₁.sendMaxFrameSize
  connSend := h₂.connSend.trans h₁.connSend
  connRecv := h₂.connRecv.trans h₁.connRecv
  goaway := h₂.goaway.trans h₁.goaway
  goawayReplied := h₂.goawayReplied.trans h₁.goawayReplied
  error := h₂.error.trans h₁.error
  nextId := h₂.nextId.trans h₁.nextId
  lastRecvId := h₂.lastRecvId.trans h₁.lastRecvId
  lastProcessedId := h₂.lastProcessedId.trans h₁.lastProcessedId
  maxStreamId := h₂.maxStreamId.trans h₁.maxStreamId
  graceful := h₂.graceful.trans h₁.graceful
  shutdownFinal := h₂.shutdownFinal.trans h₁.shutdownFinal

/-- A change of the store that keeps its keys and the core of each entry. -/
theorem streams (s : Inner) {m : Store Nat StreamEntry}
    (stored : ∀ {k e}, s.streams.lookup k = some e → ∃ e', m.lookup k = some e' ∧ SameEntry e e')
    (absent : ∀ {k}, s.streams.lookup k = none → m.lookup k = none) :
    Alike s { s with streams := m } :=
  { refl s with stored := stored, absent := absent }

theorem setStream (h : s.streams.lookup sid = some e) (he : SameEntry e e') :
    Alike s (s.setStream sid e') := by
  refine streams s (fun {k f} hk => ?_) (fun {k} hk => ?_)
  · by_cases ek : k = sid
    · subst ek
      rw [h] at hk
      cases hk
      exact ⟨e', AList.lookup_insert _, he⟩
    · exact ⟨f, by rw [AList.lookup_insert_ne ek]; exact hk, .refl f⟩
  · have ek : k ≠ sid := fun ek => by rw [ek, h] at hk; cases hk
    rw [AList.lookup_insert_ne ek]
    exact hk

theorem emit (h : Alike s s') (f : OutFrame) : Alike (s.emit f) (s'.emit f) :=
  { h with pending := congrArg (· ++ [f]) h.pending }

/-- An entry written back as it was. -/
theorem setStream_self (h : s.streams.lookup sid = some e) : Alike (s.setStream sid e) s := by
  refine { refl s with stored := fun {k f} hk => ?_, absent := fun {k} hk => ?_ }
  all_goals rw [Inner.setStream, Store.lookup_insert'] at hk
  · by_cases ek : k = sid
    · rw [if_pos ek] at hk
      cases hk
      exact ⟨e, ek ▸ h, .refl e⟩
    · rw [if_neg ek] at hk
      exact ⟨f, hk, .refl f⟩
  · by_cases ek : k = sid
    · rw [if_pos ek] at hk
      cases hk
    · rw [if_neg ek] at hk
      exact hk

/-- The same entry set in both. -/
theorem set (h : Alike s s') (sid : Nat) (he : SameEntry e e') :
    Alike (s.setStream sid e) (s'.setStream sid e') :=
  { h with
    stored := fun {k f} hk => by
      rw [Inner.setStream, Store.lookup_insert'] at hk ⊢
      by_cases ek : k = sid
      · rw [if_pos ek] at hk ⊢
        cases hk
        exact ⟨e', rfl, he⟩
      · rw [if_neg ek] at hk ⊢
        exact h.stored hk
    absent := fun {k} hk => by
      rw [Inner.setStream, Store.lookup_insert'] at hk ⊢
      by_cases ek : k = sid
      · rw [if_pos ek] at hk
        cases hk
      · rw [if_neg ek] at hk ⊢
        exact h.absent hk }

theorem perm (s : Inner) {m : Store Nat StreamEntry} (h : s.streams.entries.Perm m.entries) :
    Alike s { s with streams := m } :=
  streams s (fun hk => ⟨_, (AList.perm_lookup h).symm.trans hk, .refl _⟩)
    (fun hk => (AList.perm_lookup h).symm.trans hk)

/-- The rotation is bookkeeping. -/
theorem rotation (s : Inner) (a b : List Nat) :
    Alike s { s with pendingSend := a, pendingCapacity := b } := { refl s with }

/-- A measure of the core of the entries has the same total. -/
theorem total (h : Alike s s') {w : Nat → StreamEntry → Nat}
    (hw : ∀ {k e e'}, SameEntry e e' → w k e' = w k e) :
    s'.streams.total w = s.streams.total w :=
  Store.total_of_lookup
    (fun _ _ hk => let ⟨e', he', hs⟩ := h.stored hk; ⟨e', he', hw hs⟩) (fun _ => h.absent)

/-- An entry of the later state is the core of one of the earlier. -/
theorem back (h : Alike s s') (hk : s'.streams.lookup sid = some e') :
    ∃ e, s.streams.lookup sid = some e ∧ SameEntry e e' := by
  rcases hs : s.streams.lookup sid with _ | e
  · rw [h.absent hs] at hk; cases hk
  · obtain ⟨e₁, h₁, he⟩ := h.stored hs
    rw [hk] at h₁
    cases h₁
    exact ⟨e, rfl, he⟩

end Alike

/-! ### Kinds of moves -/

/-- The kinds of moves. -/
inductive Kind where
  | admin
  | ctrl
  | rst (sid : Nat)
  | state
  | finish
  | remove
  | reclaim
  | reply
  | head (sid : Nat) (endStream : Bool)
  | data (sid : Nat) (payload : Bytes) (endStream : Bool)
  | forget (n : Nat)
  | swallow
  | receive (sid n : Nat)
  | settle (sid n : Nat)
  | seen (sid : Nat)
  | accept (sid : Nat)
  | request (sid : Nat) (endStream : Bool)
  | connGrant (n : Nat)
  | streamGrant (sid n : Nat)
  | peerFrame (n : Nat)
  | resize (new : Nat) (ok : Bool)
  | goaway
  | phase1
  | phase2
  | fail
  | peerGoaway

/-- The kinds any call may make: bookkeeping, control frames, and the end of a stream with all
it brings about. -/
def Kind.common : Kind → Bool
  | .admin | .ctrl | .rst _ | .state | .finish | .remove | .reclaim | .reply => true
  | _ => false

/-- The frames that only speak for the connection or for a receive window. -/
def OutFrame.isCtrl : OutFrame → Bool
  | .settingsAck | .ping _ _ | .windowUpdate _ _ => true
  | _ => false

/-- One DATA frame of `sid`: both windows at what the debits left, the frame queued, the
stream in the state that follows. -/
def Inner.queueFrame (me : Inner) (sid : Nat) (e : StreamEntry) (conn fc : FlowControl)
    (payload : Bytes) (endStream : Bool) (st : State) : Inner :=
  { me with connSend := conn }.setStream sid { e with sendFlow := fc, state := st }
    |>.emit (.data sid payload endStream)

/-! ### Moves -/

/-- One move, with its kind. -/
inductive Move : Inner → Kind → Inner → Prop where
  | admin {s s' : Inner} (h : Alike s s') : Move s .admin s'
  | ctrl {s : Inner} {f : OutFrame} (h : f.isCtrl = true) : Move s .ctrl (s.emit f)
  | rst {s : Inner} {sid : Nat} {reason : Reason}
      (h : ∀ e, s.streams.lookup sid = some e → e.state.isClosed = true) :
      Move s (.rst sid) (s.emit (.rstStream sid reason))
  | state {s : Inner} {sid : Nat} {e : StreamEntry} {st : State}
      (h : s.streams.lookup sid = some e) (hl : State.Later e.state st) :
      Move s .state (s.setStream sid { e with state := st })
  | finish {s : Inner} {sid : Nat} {e : StreamEntry} (h : s.streams.lookup sid = some e)
      (hc : e.state.isClosed = true) (hf : e.finished = false) :
      Move s .finish (s.finishEntry sid e)
  | remove {s : Inner} {sid : Nat} {e : StreamEntry} (h : s.streams.lookup sid = some e)
      (hf : e.finished = true) (hu : e.recvUnreleased = 0) :
      Move s .remove { s with streams := s.streams.erase sid }
  | reclaim {s : Inner} {sid : Nat} {e : StreamEntry} (h : s.streams.lookup sid = some e)
      (hd : e.state.recvDone = true) : Move s .reclaim (s.reclaimEntry sid e)
  | reply {s : Inner} (h : s.replyDue = true) : Move s .reply s.maybeGoawayReply.1
  | head {s : Inner} {sid : Nat} {e : StreamEntry} {block : Block} {endStream : Bool} {st : State}
      (h : s.streams.lookup sid = some e) (ho : e.state.isSendClosed = false)
      (hl : State.Later e.state st) (he : endStream = true → st.isSendClosed = true) :
      Move s (.head sid endStream)
        ((s.setStream sid { e with state := st }).emit (.headers sid block endStream))
  | data {s : Inner} {sid : Nat} {payload : Bytes} {endStream : Bool} {e : StreamEntry}
      {conn fc : FlowControl} {st : State} (h : s.streams.lookup sid = some e)
      (hs : e.state.isSendStreaming = true)
      (hc : fcSendData s.connSend payload.length = (conn, none))
      (hf : fcSendData e.sendFlow payload.length = (fc, none))
      (hm : payload.length ≤ s.peer.maxFrameSize)
      (he : if endStream then e.state.sendClose = some st else e.state = st) :
      Move s (.data sid payload endStream) (s.queueFrame sid e conn fc payload endStream st)
  | forget {s : Inner} {sid : Nat} {e : StreamEntry} (h : s.streams.lookup sid = some e)
      (hc : e.state.isClosed = true) :
      Move s (.forget e.recvUnreleased) (s.setStream sid
        { e with recvUnreleased := 0, dataBudgetCharged := 0, recvReclaimed := true })
  | swallow {s : Inner} {sz : Nat} {fc : FlowControl} (h : fcSendData s.connRecv sz = (fc, none)) :
      Move s .swallow ({ s with connRecv := fc }.reclaimConn sz)
  | receive {s : Inner} {sid sz : Nat} {fc : FlowControl} {e : StreamEntry}
      (h : s.streams.lookup sid = some e) (hr : e.state.isRecvStreaming = true)
      (hc : fcSendData s.connRecv sz = (fc, none)) :
      Move s (.receive sid sz) ({ s with connRecv := fc }.setStream sid
        { e with recvUnreleased := (e.recvUnreleased + sz) % 2 ^ 32 })
  | settle {s : Inner} {sid n : Nat} {e : StreamEntry} (h : s.streams.lookup sid = some e)
      (hr : e.recvReclaimed = false) (hn : n ≤ e.recvUnreleased) :
      Move s (.settle sid n)
        ((s.setStream sid { e with recvUnreleased := e.recvUnreleased - n }).reclaimConn n)
  | seen {s : Inner} {sid : Nat} (hr : s.role = .server) (h : s.lastRecvId < sid)
      (hm : sid ≤ s.maxStreamId) : Move s (.seen sid) { s with lastRecvId := sid }
  | accept {s : Inner} {sid : Nat} {st : State} {eos : Bool} (hr : s.role = .server)
      (h : s.lastRecvId < sid) (hm : sid ≤ s.maxStreamId)
      (hs : State.idle.recvOpen eos false = .ok st) :
      Move s (.accept sid) ({ s with lastRecvId := sid }.insertRequest sid st)
  | request {s : Inner} {isHead endStream : Bool} {block : Block} {st : State}
      (hr : s.role = .client) (hd : s.isDead = false) (hm : s.nextId ≤ maxStreamIdValue)
      (hs : State.idle.sendOpen endStream = .ok st) :
      Move s (.request s.nextId endStream) (s.insertOpened isHead endStream block st)
  | connGrant {s : Inner} {n : Nat} {fc : FlowControl} (hn : n ≤ maxWindowSize)
      (h : s.connSend.grant n = (fc, none)) : Move s (.connGrant n) { s with connSend := fc }
  | streamGrant {s : Inner} {sid n : Nat} {e : StreamEntry} {fc : FlowControl}
      (hl : s.streams.lookup sid = some e) (hn : n ≤ maxWindowSize)
      (h : e.sendFlow.grant n = (fc, none)) :
      Move s (.streamGrant sid n) (s.setStream sid { e with sendFlow := fc })
  | peerFrame {s : Inner} {n : Nat} (hn : defaultMaxFrameSize ≤ n) : Move s (.peerFrame n)
      { s with sendMaxFrameSize := n, peer := { s.peer with maxFrameSize := n } }
  | resize {s : Inner} {new : Nat} {r : Store Nat StreamEntry × Option Err}
      (hn : new ≤ maxWindowSize)
      (h : Store.scan (Inner.resizeSend s.peer.initialWindowSize new) s.streams = r) :
      Move s (.resize new r.2.isNone) { s with
        peer := { s.peer with initialWindowSize := new }, streams := r.1 }
  | goaway {s : Inner} {reason : Reason} {debugData : Bytes} :
      Move s .goaway (s.emit (.goAway s.goawayLastStreamId reason debugData))
  | phase1 {s : Inner} (h : s.graceful = false) :
      Move s .phase1 ({ s with graceful := true }.emit (.goAway maxStreamIdValue .noError []))
  | phase2 {s : Inner} (hr : s.role = .server) (h : s.shutdownFinal = false) :
      Move s .phase2 ({ s with shutdownFinal := true, maxStreamId := s.lastProcessedId }.emit
        (.goAway s.lastProcessedId .noError []))
  | fail {s : Inner} {err : ConnError} (h : s.error = none) :
      Move s .fail { s with error := some err }
  | peerGoaway {s : Inner} {last : Nat} {info : GoAwayInfo} :
      Move s .peerGoaway { s with goawayLastId := some last, goaway := some info }

/-- The moves of a common kind, or of a kind in `extra`. -/
def Only (extra : Kind → Prop) : Inner → Kind → Prop := fun _ k => k.common = true ∨ extra k

/-- A run of moves of a common kind, or of a kind in `extra`. -/
abbrev Moves (extra : Kind → Prop) : Inner → Inner → Prop := Reach Move (Only extra)

/-- No kind but the common ones. -/
def Kind.nothing : Kind → Prop := fun _ => False

namespace Moves

variable {extra extra' : Kind → Prop} {s s' : Inner} {k : Kind}

theorem common (h : Move s k s') (hk : k.common = true) : Moves extra s s' :=
  Reach.single h (.inl hk)

theorem one (h : Move s k s') (hk : extra k) : Moves extra s s' := Reach.single h (.inr hk)

theorem weaken (r : Moves Kind.nothing s s') : Moves extra s s' :=
  r.mono fun _ _ h => h.elim .inl fun h => h.elim

theorem mono (h : ∀ k, extra k → extra' k) (r : Moves extra s s') : Moves extra' s s' :=
  Reach.mono (fun _ k hk => hk.imp id (h k)) r

theorem admin (h : Alike s s') : Moves extra s s' := common (.admin h) rfl

end Moves

/-- A run of common moves with at most one move of a kind in `extra`. -/
def Once (extra : Kind → Prop) (s s' : Inner) : Prop :=
  Moves Kind.nothing s s' ∨ ∃ s₁ k s₂, Moves Kind.nothing s s₁ ∧ extra k ∧ Move s₁ k s₂ ∧
    Moves Kind.nothing s₂ s'

namespace Once

variable {extra : Kind → Prop} {s s₁ s₂ s' : Inner} {k : Kind}

theorem none (r : Moves Kind.nothing s s') : Once extra s s' := .inl r

theorem one (h : Move s k s₁) (hk : extra k) (r : Moves Kind.nothing s₁ s') : Once extra s s' :=
  .inr ⟨s, k, s₁, .refl, hk, h, r⟩

theorem before (r : Moves Kind.nothing s s₁) (h : Once extra s₁ s') : Once extra s s' := by
  rcases h with h | ⟨t, k, t', h₁, hk, h, h₂⟩
  · exact .inl (r.trans h)
  · exact .inr ⟨t, k, t', r.trans h₁, hk, h, h₂⟩

theorem after (h : Once extra s s₁) (r : Moves Kind.nothing s₁ s') : Once extra s s' := by
  rcases h with h | ⟨t, k, t', h₁, hk, h, h₂⟩
  · exact .inl (h.trans r)
  · exact .inr ⟨t, k, t', h₁, hk, h, h₂.trans r⟩

theorem moves (h : Once extra s s') : Moves extra s s' := by
  rcases h with h | ⟨t, k, t', h₁, hk, h, h₂⟩
  · exact h.weaken
  · exact (h₁.weaken.trans (Moves.one h hk)).trans h₂.weaken

end Once

end Httpunk.H2
