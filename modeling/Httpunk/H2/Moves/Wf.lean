import Httpunk.H2.Moves.Store

/-!
# H2 — Moves — Wf

The invariant every call relies on.  `Inner.Wf` collects the facts about windows, counters and
ids that hold between any two critical sections, and `Moves.wf` says that a run of moves, of
whatever kinds, keeps them.

The two that matter most: a send window's capacity is kept equal to the window, and what the
connection may still be sent, added to what its streams hold unread, fits a window.
-/

namespace Httpunk.H2

open Runs (Reach)

/-- The unread bytes of an entry. -/
def unreleasedOf (_ : Nat) (e : StreamEntry) : Nat := e.recvUnreleased

/-- One for an entry still in the active set. -/
def activeOf (_ : Nat) (e : StreamEntry) : Nat := if e.finished then 0 else 1

namespace Inner

/-- The received bytes that the streams hold unread. -/
def unreleased (me : Inner) : Nat := me.streams.total unreleasedOf

/-- `sid` has been used: an id the peer opened on a server, or this client allocated. -/
def Used (me : Inner) (sid : Nat) : Prop :=
  match me.role with
  | .client => sid < me.nextId
  | .server => sid ≤ me.lastRecvId

/-- **The connection is well formed.** -/
structure Wf (me : Inner) : Prop where
  connSend : me.connSend.available = me.connSend.windowSize
  sendFlow : ∀ {sid e}, me.streams.lookup sid = some e →
    e.sendFlow.available = e.sendFlow.windowSize
  frame : me.sendMaxFrameSize = me.peer.maxFrameSize
  frameSize : defaultMaxFrameSize ≤ me.peer.maxFrameSize
  window : me.peer.initialWindowSize ≤ maxWindowSize
  recvWindow : 0 ≤ me.connRecv.windowSize.val ∧
    me.connRecv.windowSize.val ≤ me.connRecv.available.val
  ledger : me.connRecv.available.val + me.unreleased ≤ maxWindowSize
  reclaimed : ∀ {sid e}, me.streams.lookup sid = some e → e.recvReclaimed = true →
    e.state.recvDone = true ∧ e.recvUnreleased = 0
  active : me.numActive = me.streams.total activeOf
  finished : ∀ {sid e}, me.streams.lookup sid = some e → e.finished = true →
    e.state.isClosed = true
  used : ∀ {sid e}, me.streams.lookup sid = some e → me.Used sid
  processed : me.lastProcessedId ≤ me.lastRecvId

/-! ### The receive ledger -/

/-- **Bytes that go back are added to what is available**, and what is announced of them is
within it. -/
theorem reclaimConn_spec {me : Inner} {n : Nat}
    (hw : 0 ≤ me.connRecv.windowSize.val ∧
      me.connRecv.windowSize.val ≤ me.connRecv.available.val)
    (hn : me.connRecv.available.val + n ≤ maxWindowSize) :
    ∃ fc fs, me.reclaimConn n = { me with connRecv := fc, pending := me.pending ++ fs } ∧
      fc.available.val = me.connRecv.available.val + n ∧
      (0 ≤ fc.windowSize.val ∧ fc.windowSize.val ≤ fc.available.val) ∧
      ∀ f ∈ fs, OutFrame.isCtrl f = true := by
  unfold maxWindowSize at hn
  unfold reclaimConn
  split
  · next h0 =>
    exact ⟨me.connRecv, [], by rw [List.append_nil], by omega, hw, fun f hf => by cases hf⟩
  · obtain ⟨a, ha, hav⟩ := Window.increaseBy_of_le
      (show me.connRecv.available.val + n < 2 ^ 31 by omega) (by unfold maxWindowSize; omega)
    obtain ⟨fc, hfc, hfa, hfw⟩ : ∃ fc, (me.connRecv.assignCapacity n).1 = fc ∧
        fc.available.val = me.connRecv.available.val + n ∧
        fc.windowSize = me.connRecv.windowSize :=
      ⟨_, rfl, by rw [FlowControl.assignCapacity, ha]; exact hav, rfl⟩
    simp only [hfc]
    rcases hu : fc.unclaimedCapacity with _ | u
    · exact ⟨fc, [], by rw [List.append_nil], hfa, by rw [hfw]; omega, fun f hf => by cases hf⟩
    · obtain ⟨hue, -, hum⟩ := FlowControl.unclaimedCapacity_eq_some (by rw [hfw]; exact hw.1) hu
      obtain ⟨w, hi, hwv⟩ := FlowControl.incWindow_of_lt hum
        (show fc.windowSize.val + u < 2 ^ 31 by omega)
      simp only [hi]
      exact ⟨{ fc with windowSize := w }, [_], rfl, hfa, by simp only; omega,
        fun f hf => by rw [List.mem_singleton.mp hf]; rfl⟩

/-! ### What each move keeps -/

variable {s s' : Inner} {sid n : Nat} {e e' : StreamEntry}

namespace Wf

theorem emit (h : Wf s) (f : OutFrame) : Wf (s.emit f) := { h with }

theorem alike (h : Wf s) (ha : Alike s s') : Wf s' where
  connSend := by rw [ha.connSend]; exact h.connSend
  sendFlow := fun hk => by
    obtain ⟨e₀, h₀, he⟩ := ha.back hk
    rw [he.sendFlow]
    exact h.sendFlow h₀
  frame := by rw [ha.sendMaxFrameSize, ha.peerFrame]; exact h.frame
  frameSize := by rw [ha.peerFrame]; exact h.frameSize
  window := by rw [ha.peerWindow]; exact h.window
  recvWindow := by rw [ha.connRecv]; exact h.recvWindow
  ledger := by
    have ht : s'.unreleased = s.unreleased := ha.total fun he => he.recvUnreleased
    rw [ha.connRecv, ht]
    exact h.ledger
  reclaimed := fun hk hr => by
    obtain ⟨e₀, h₀, he⟩ := ha.back hk
    rw [he.state, he.recvUnreleased]
    exact h.reclaimed h₀ (he.recvReclaimed ▸ hr)
  active := by
    rw [ha.numActive, h.active]
    exact (ha.total fun he => by rw [activeOf, activeOf, he.finished]).symm
  finished := fun hk hf => by
    obtain ⟨e₀, h₀, he⟩ := ha.back hk
    rw [he.state]
    exact h.finished h₀ (he.finished ▸ hf)
  used := fun hk => by
    obtain ⟨e₀, h₀, -⟩ := ha.back hk
    have := h.used h₀
    rw [Used, ha.role, ha.nextId, ha.lastRecvId]
    exact this
  processed := by rw [ha.lastProcessedId, ha.lastRecvId]; exact h.processed

/-- One entry rewritten, its unread bytes within what the ledger has room for, and the active
streams counted anew. -/
theorem rewrite {m : Nat} (h : Wf s) (he : s.streams.lookup sid = some e)
    (hf : e'.sendFlow.available = e'.sendFlow.windowSize)
    (hu : s.connRecv.available.val + s.unreleased + e'.recvUnreleased ≤
      maxWindowSize + e.recvUnreleased)
    (hr : e'.recvReclaimed = true → e'.state.recvDone = true ∧ e'.recvUnreleased = 0)
    (hc : e'.finished = true → e'.state.isClosed = true)
    (hn : n + activeOf sid e = s.numActive + activeOf sid e') :
    Wf { s.setStream sid e' with numActive := n, numOpenStreams := m } where
  connSend := h.connSend
  sendFlow := fun {k e₁} hk => by
    rw [lookup_setStream s sid k e'] at hk
    split at hk
    · cases hk; exact hf
    · exact h.sendFlow hk
  frame := h.frame
  frameSize := h.frameSize
  window := h.window
  recvWindow := h.recvWindow
  ledger := by
    have ht := Store.total_insert (w := unreleasedOf) (u := e') he
    change s.connRecv.available.val + Store.total unreleasedOf (s.streams.insert sid e') ≤ _
    unfold unreleased at hu
    unfold unreleasedOf at ht hu
    unfold unreleasedOf
    omega
  reclaimed := fun {k e₁} hk => by
    rw [lookup_setStream s sid k e'] at hk
    split at hk
    · cases hk; exact hr
    · exact h.reclaimed hk
  active := by
    have ht := Store.total_insert (w := activeOf) (u := e') he
    have ha := h.active
    change n = Store.total activeOf (s.streams.insert sid e')
    omega
  finished := fun {k e₁} hk => by
    rw [lookup_setStream s sid k e'] at hk
    split at hk
    · cases hk; exact hc
    · exact h.finished hk
  used := fun {k e₁} hk => by
    rw [lookup_setStream s sid k e'] at hk
    split at hk
    · next hs => subst hs; exact h.used he
    · exact h.used hk
  processed := h.processed

/-- One entry rewritten, its unread bytes and its marks kept. -/
theorem setStream (h : Wf s) (he : s.streams.lookup sid = some e)
    (hf : e'.sendFlow.available = e'.sendFlow.windowSize)
    (hl : State.Later e.state e'.state) (hu : e'.recvUnreleased = e.recvUnreleased)
    (hr : e'.recvReclaimed = e.recvReclaimed) (ha : e'.finished = e.finished) :
    Wf (s.setStream sid e') := by
  refine h.rewrite he hf ?_ (fun hr' => ?_) (fun hf' => ?_) (by rw [activeOf, activeOf, ha])
  · have := h.ledger
    rw [hu]
    omega
  · obtain ⟨hd, h0⟩ := h.reclaimed he (hr ▸ hr')
    exact ⟨hl.recvDone hd, hu.trans h0⟩
  · exact hl.closed (h.finished he (ha ▸ hf'))

theorem setState {st : State} (h : Wf s) (he : s.streams.lookup sid = some e)
    (hl : State.Later e.state st) : Wf (s.setStream sid { e with state := st }) := by
  have hw := h.sendFlow he
  exact h.setStream he hw hl rfl rfl rfl

theorem reclaimConn (h : Wf s)
    (hn : s.connRecv.available.val + n + s.unreleased ≤ maxWindowSize) :
    Wf (s.reclaimConn n) := by
  obtain ⟨fc, fs, hs, ha, hw, -⟩ := reclaimConn_spec h.recvWindow
    (show s.connRecv.available.val + n ≤ maxWindowSize by omega)
  rw [hs]
  exact { h with
    recvWindow := hw
    ledger := by
      change fc.available.val + (s.unreleased : Int) ≤ _
      omega }

theorem consume {fc : FlowControl} (h : Wf s) (hc : fcSendData s.connRecv n = (fc, none)) :
    Wf { s with connRecv := fc } := by
  obtain ⟨hw, ha, hn⟩ := fcSendData_ok hc
  have h₁ := h.recvWindow
  have h₂ := h.ledger
  exact { h with
    recvWindow := by simp only; omega
    ledger := by
      change fc.available.val + (s.unreleased : Int) ≤ _
      omega }

theorem finish (h : Wf s) (he : s.streams.lookup sid = some e) (hc : e.state.isClosed = true)
    (hf : e.finished = false) : Wf (s.finishEntry sid e) := by
  have h₁ : activeOf sid e = 1 := by rw [activeOf, hf]; rfl
  have h₂ : activeOf sid { e with finished := true, holdsSlot := false } = 0 := rfl
  have hle := Store.weight_le_total (w := activeOf) he
  have ha := h.active
  have hs := h.sendFlow he
  have hr := h.reclaimed he
  have hl := h.ledger
  exact h.rewrite he hs (by simp only; omega) hr (fun _ => hc) (by omega)

theorem remove (h : Wf s) (he : s.streams.lookup sid = some e) (hf : e.finished = true)
    (hu : e.recvUnreleased = 0) : Wf { s with streams := s.streams.erase sid } := by
  have ht := Store.total_erase (w := activeOf) he
  have hr := Store.total_erase (w := unreleasedOf) he
  have back : ∀ {k e'}, (s.streams.erase sid).lookup k = some e' →
      s.streams.lookup k = some e' := fun {k e'} hk => by
    rw [Store.lookup_erase'] at hk
    split at hk
    · cases hk
    · exact hk
  exact { h with
    sendFlow := fun hk => h.sendFlow (back hk)
    ledger := by
      have hl := h.ledger
      have hs : Store.total unreleasedOf (s.streams.erase sid) = s.unreleased := by
        rw [unreleased, ← hr, unreleasedOf, hu, Nat.add_zero]
      change s.connRecv.available.val + (Store.total unreleasedOf (s.streams.erase sid) : Nat) ≤ _
      rw [hs]
      exact hl
    reclaimed := fun hk => h.reclaimed (back hk)
    active := by
      refine h.active.trans ?_
      rw [← ht, activeOf, hf, if_pos rfl, Nat.add_zero]
    finished := fun hk => h.finished (back hk)
    used := fun hk => h.used (back hk) }

theorem reclaim (h : Wf s) (he : s.streams.lookup sid = some e) (hd : e.state.recvDone = true) :
    Wf (s.reclaimEntry sid e) := by
  have hl := h.ledger
  have hf := h.finished he
  have hw := h.sendFlow he
  have ht := Store.total_insert (w := unreleasedOf) (u := { e with
    dataBudgetCharged := 0, recvUnreleased := 0, recvReclaimed := true }) he
  have hs : Wf (s.setStream sid { e with
      dataBudgetCharged := 0, recvUnreleased := 0, recvReclaimed := true }) :=
    h.rewrite he hw (by simp only; omega) (fun _ => ⟨hd, rfl⟩) hf rfl
  refine Wf.reclaimConn { hs with } ?_
  change s.connRecv.available.val + e.recvUnreleased +
    (Store.total unreleasedOf (s.streams.insert sid _) : Nat) ≤ _
  unfold unreleased at hl
  unfold unreleasedOf at ht hl ⊢
  simp only at ht
  omega

theorem forget (h : Wf s) (he : s.streams.lookup sid = some e) (hc : e.state.isClosed = true) :
    Wf (s.setStream sid
      { e with recvUnreleased := 0, dataBudgetCharged := 0, recvReclaimed := true }) := by
  have hl := h.ledger
  have hw := h.sendFlow he
  exact h.rewrite he hw (by simp only; omega)
    (fun _ => ⟨State.recvDone_of_isClosed hc, rfl⟩) (fun _ => hc) rfl

theorem settle (h : Wf s) (he : s.streams.lookup sid = some e) (hr : e.recvReclaimed = false)
    (hn : n ≤ e.recvUnreleased) :
    Wf ((s.setStream sid { e with recvUnreleased := e.recvUnreleased - n }).reclaimConn n) := by
  have hl := h.ledger
  have hf := h.finished he
  have hw := h.sendFlow he
  have ht := Store.total_insert (w := unreleasedOf)
    (u := { e with recvUnreleased := e.recvUnreleased - n }) he
  have hs : Wf (s.setStream sid { e with recvUnreleased := e.recvUnreleased - n }) :=
    h.rewrite he hw (by simp only; omega) (fun h' => by simp only [hr] at h'; cases h') hf rfl
  refine hs.reclaimConn ?_
  change s.connRecv.available.val + n +
    (Store.total unreleasedOf (s.streams.insert sid _) : Nat) ≤ _
  unfold unreleased at hl
  unfold unreleasedOf at ht hl ⊢
  simp only at ht
  omega

/-- Received bytes fit the count of a stream. -/
theorem receive_fits {fc : FlowControl} (h : s.Wf)
    (he : s.streams.lookup sid = some e) (hc : fcSendData s.connRecv n = (fc, none)) :
    e.recvUnreleased + n ≤ maxWindowSize := by
  obtain ⟨-, -, hn⟩ := fcSendData_ok hc
  have hw := h.recvWindow
  have hl := h.ledger
  have hle : unreleasedOf sid e ≤ s.unreleased := Store.weight_le_total he
  unfold unreleasedOf at hle
  omega

theorem receive {fc : FlowControl} (h : Wf s) (he : s.streams.lookup sid = some e)
    (hr : e.state.isRecvStreaming = true) (hc : fcSendData s.connRecv n = (fc, none)) :
    Wf ({ s with connRecv := fc }.setStream sid
      { e with recvUnreleased := (e.recvUnreleased + n) % 2 ^ 32 }) := by
  obtain ⟨-, ha, -⟩ := fcSendData_ok hc
  have hl := h.ledger
  have hf := h.finished he
  have hw := h.sendFlow he
  have hd : e.recvReclaimed = false := by
    by_contra hr'
    have := State.isRecvStreaming_of_recvDone (h.reclaimed he (by simpa using hr')).1
    rw [hr] at this
    cases this
  refine (h.consume hc).rewrite he hw ?_ (fun h' => by simp only [hd] at h'; cases h') hf rfl
  have := Nat.mod_le (e.recvUnreleased + n) (2 ^ 32)
  change fc.available.val + (s.unreleased : Int) + _ ≤ _
  simp only
  omega

theorem seen (h : Wf s) (hr : s.role = .server) (hlt : s.lastRecvId < sid) :
    Wf { s with lastRecvId := sid } :=
  { h with
    used := fun hk => by
      have := h.used hk
      simp only [Used, hr] at this ⊢
      omega
    processed := Nat.le_trans h.processed (Nat.le_of_lt hlt) }

theorem lookup_none_of_not_used (h : Wf s) (hn : ¬ s.Used sid) : s.streams.lookup sid = none := by
  rcases hk : s.streams.lookup sid with _ | e
  · rfl
  · exact absurd (h.used hk) hn

/-- A new entry, counted: its windows are in order, and it holds nothing. -/
theorem insertNew (h : Wf s) (hn : s.streams.lookup sid = none) (hs : s.Used sid)
    (hf : e.sendFlow.available = e.sendFlow.windowSize) (hu : e.recvUnreleased = 0)
    (hr : e.recvReclaimed = false) (hd : e.finished = false) :
    Wf { s.setStream sid e with numActive := s.numActive + 1 } where
  connSend := h.connSend
  sendFlow := fun {k e₁} hk => by
    rw [lookup_setStream s sid k e] at hk
    split at hk
    · cases hk; exact hf
    · exact h.sendFlow hk
  frame := h.frame
  frameSize := h.frameSize
  window := h.window
  recvWindow := h.recvWindow
  ledger := by
    have hl := h.ledger
    change s.connRecv.available.val + (Store.total unreleasedOf (s.streams.insert sid e) : Nat) ≤ _
    rw [Store.total_insert_new hn, unreleasedOf, hu]
    exact hl
  reclaimed := fun {k e₁} hk hr' => by
    rw [lookup_setStream s sid k e] at hk
    split at hk
    · cases hk; rw [hr] at hr'; cases hr'
    · exact h.reclaimed hk hr'
  active := by
    change s.numActive + 1 = Store.total activeOf (s.streams.insert sid e)
    rw [Store.total_insert_new hn, activeOf, hd, h.active]
    rfl
  finished := fun {k e₁} hk hf' => by
    rw [lookup_setStream s sid k e] at hk
    split at hk
    · cases hk; rw [hd] at hf'; cases hf'
    · exact h.finished hk hf'
  used := fun {k e₁} hk => by
    rw [lookup_setStream s sid k e] at hk
    split at hk
    · next hks => rw [hks]; exact hs
    · exact h.used hk
  processed := h.processed

theorem opened_paired {w : Nat} (hw : w ≤ maxWindowSize) :
    (FlowControl.opened w).available = (FlowControl.opened w).windowSize := by
  obtain ⟨v, hv, -⟩ := FlowControl.opened_spec hw
  rw [hv]

theorem accept {st : State} (h : Wf s) (hr : s.role = .server) (hlt : s.lastRecvId < sid) :
    Wf ({ s with lastRecvId := sid }.insertRequest sid st) := by
  have hn : s.streams.lookup sid = none := h.lookup_none_of_not_used (by
    simp only [Used, hr]; omega)
  have hi := (h.seen hr hlt).insertNew (e :=
      { StreamEntry.new s.peer.initialWindowSize s.recvInit false with state := st }) hn
    (by simp only [Used, hr]; omega) (opened_paired h.window) rfl rfl rfl
  exact { hi with processed := Nat.le_refl _ }

theorem request {isHead eos : Bool} {block : Block} {st : State} (h : Wf s)
    (hr : s.role = .client) : Wf (s.insertOpened isHead eos block st) := by
  have hn : s.streams.lookup s.nextId = none := h.lookup_none_of_not_used (by
    simp only [Used, hr]; omega)
  have hs : Wf { s with nextId := s.nextId + 2 } := { h with
    used := fun hk => by
      have := h.used hk
      simp only [Used, hr] at this ⊢
      omega }
  have hi := hs.insertNew (e :=
      { StreamEntry.new s.peer.initialWindowSize s.recvInit isHead with
        holdsSlot := true, state := st }) hn
    (by simp only [Used, hr]; omega) (opened_paired h.window) rfl rfl rfl
  exact { hi with }

theorem data {conn fc : FlowControl} {payload : Bytes} {eos : Bool} {st : State} (h : Wf s)
    (he : s.streams.lookup sid = some e) (hc : fcSendData s.connSend payload.length = (conn, none))
    (hf : fcSendData e.sendFlow payload.length = (fc, none)) (hl : State.Later e.state st) :
    Wf (s.queueFrame sid e conn fc payload eos st) := by
  have hs : Wf (s.setStream sid { e with sendFlow := fc, state := st }) :=
    h.setStream he (fcSendData_paired (h.sendFlow he) hf) hl rfl rfl rfl
  exact { hs with connSend := fcSendData_paired h.connSend hc }

theorem connGrant {fc : FlowControl} (h : Wf s) (hn : n ≤ maxWindowSize)
    (hg : s.connSend.grant n = (fc, none)) : Wf { s with connSend := fc } :=
  { h with connSend := (FlowControl.grant_ok hn h.connSend hg).1 }

theorem streamGrant {fc : FlowControl} (h : Wf s) (he : s.streams.lookup sid = some e)
    (hn : n ≤ maxWindowSize) (hg : e.sendFlow.grant n = (fc, none)) :
    Wf (s.setStream sid { e with sendFlow := fc }) :=
  h.setStream he (FlowControl.grant_ok hn (h.sendFlow he) hg).1 (.refl _) rfl rfl rfl

/-- What a change of the peer's initial window leaves of an entry: all but its send window,
which stays in order. -/
theorem resizeSend_spec {old new k : Nat} {e : StreamEntry}
    (hf : e.sendFlow.available = e.sendFlow.windowSize) (ho : old ≤ maxWindowSize)
    (hn : new ≤ maxWindowSize) :
    ∃ fc : FlowControl, (resizeSend old new k e).1 = { e with sendFlow := fc } ∧
      fc.available = fc.windowSize := by
  unfold resizeSend
  split
  · exact ⟨e.sendFlow, rfl, hf⟩
  · refine ⟨_, rfl, ?_⟩
    split
    · rcases FlowControl.grant_spec (n := new - old) (by omega) hf with ⟨w, hg, -⟩ | ⟨hg, -⟩
      · rw [hg]
      · rw [hg]; exact hf
    · rcases FlowControl.shrink_spec (n := old - new) (by omega) hf with ⟨w, hg, -⟩ | ⟨hg, -⟩
      · rw [hg]
      · rw [hg]; exact hf

/-- What it does to the send window: it leaves that of a closed send half, moves that of an
open one by the difference, or fails to. -/
theorem resizeSend_window {old new k : Nat} {e : StreamEntry}
    (hf : e.sendFlow.available = e.sendFlow.windowSize) (ho : old ≤ maxWindowSize)
    (hn : new ≤ maxWindowSize) :
    e.state.isSendClosed = true ∧ resizeSend old new k e = (e, none) ∨
      e.state.isSendClosed = false ∧ (resizeSend old new k e).2 = none ∧
        (resizeSend old new k e).1.sendFlow.windowSize.val =
          e.sendFlow.windowSize.val + new - old ∨
      e.state.isSendClosed = false ∧
        (resizeSend old new k e).2 = some (mapReason .flowControlError) ∧
        (resizeSend old new k e).1.sendFlow = e.sendFlow ∧
        (old < new ∨ e.sendFlow.windowSize.val + new - old < -2 ^ 31) := by
  unfold resizeSend
  rcases hc : e.state.isSendClosed
  · simp only [Bool.false_eq_true, if_false]
    refine .inr ?_
    split
    · next hle =>
      rcases FlowControl.grant_spec (n := new - old) (by omega) hf with ⟨w, hg, hw⟩ | ⟨hg, ho'⟩
      · rw [hg]
        exact .inl ⟨trivial, rfl, by simp only; omega⟩
      · rw [hg]
        have := e.sendFlow.windowSize.upper
        exact .inr ⟨trivial, rfl, rfl, .inl (by omega)⟩
    · next hlt =>
      rcases FlowControl.shrink_spec (n := old - new) (by omega) hf with ⟨w, hg, hw⟩ | ⟨hg, ho'⟩
      · rw [hg]
        exact .inl ⟨trivial, rfl, by simp only; omega⟩
      · rw [hg]
        exact .inr ⟨trivial, rfl, rfl, .inr (by omega)⟩
  · exact .inl ⟨rfl, rfl⟩

theorem resize {new : Nat} {r : Store Nat StreamEntry × Option Err} (h : Wf s)
    (hn : new ≤ maxWindowSize)
    (hr : Store.scan (resizeSend s.peer.initialWindowSize new) s.streams = r) :
    Wf { s with peer := { s.peer with initialWindowSize := new }, streams := r.1 } := by
  -- each entry of the result is an entry of `s` up to its send window
  have hb : ∀ {k e'}, r.1.lookup k = some e' → ∃ e fc, s.streams.lookup k = some e ∧
      e' = { e with sendFlow := fc } ∧ fc.available = fc.windowSize := by
    intro k e' hk
    rw [← hr] at hk
    obtain ⟨e, hs, he⟩ := Store.lookup_scan hk
    have hp := h.sendFlow hs
    obtain ⟨fc, hfc, hav⟩ := resizeSend_spec (k := k) hp h.window hn
    rcases he with rfl | rfl
    · exact ⟨e, fc, hs, hfc, hav⟩
    · exact ⟨e', e'.sendFlow, hs, rfl, hp⟩
  have ht : ∀ w : Nat → StreamEntry → Nat,
      (∀ k e fc, w k { e with sendFlow := fc } = w k e) →
      Store.total w r.1 = s.streams.total w := by
    intro w hw
    rw [← hr]
    refine Store.total_scan fun k e hk => ?_
    obtain ⟨fc, hfc, -⟩ := resizeSend_spec (k := k) (h.sendFlow hk) h.window hn
    rw [hfc, hw]
  exact {
    connSend := h.connSend
    sendFlow := fun hk => by
      obtain ⟨e, fc, -, rfl, hav⟩ := hb hk
      exact hav
    frame := h.frame
    frameSize := h.frameSize
    window := hn
    recvWindow := h.recvWindow
    ledger := by
      have hl := h.ledger
      change s.connRecv.available.val + (Store.total unreleasedOf r.1 : Nat) ≤ _
      rw [ht unreleasedOf fun _ _ _ => rfl]
      exact hl
    reclaimed := fun hk => by
      obtain ⟨e, fc, hs, rfl, -⟩ := hb hk
      have := h.reclaimed hs
      exact this
    active := h.active.trans (ht activeOf fun _ _ _ => rfl).symm
    finished := fun hk => by
      obtain ⟨e, fc, hs, rfl, -⟩ := hb hk
      have := h.finished hs
      exact this
    used := fun hk => by
      obtain ⟨e, fc, hs, -, -⟩ := hb hk
      exact h.used hs
    processed := h.processed }

end Wf

end Inner

/-! ### Runs of moves -/

variable {s s' : Inner} {k : Kind}

theorem Move.wf (m : Move s k s') (h : s.Wf) : s'.Wf := by
  cases m with
  | admin ha => exact h.alike ha
  | ctrl _ => exact h.emit _
  | rst _ => exact h.emit _
  | state he hl => exact h.setState he hl
  | finish he hc hf => exact h.finish he hc hf
  | remove he hf hu => exact h.remove he hf hu
  | reclaim he hd => exact h.reclaim he hd
  | reply hd => rw [Inner.maybeGoawayReply_of_due hd]; exact { h with }
  | head he _ hl _ => exact (h.setState he hl).emit _
  | data he _ hc hf _ hst =>
      refine h.data he hc hf ?_
      split at hst
      · exact State.sendClose_later hst
      · exact hst ▸ .refl _
  | forget he hc => exact h.forget he hc
  | swallow hc =>
      refine (h.consume hc).reclaimConn ?_
      have hl := h.ledger
      obtain ⟨-, ha, -⟩ := fcSendData_ok hc
      simp only [Inner.unreleased] at hl ⊢
      omega
  | receive he hr hc => exact h.receive he hr hc
  | settle he hr hn => exact h.settle he hr hn
  | seen hr hlt _ => exact h.seen hr hlt
  | accept hr hlt _ _ => exact h.accept hr hlt
  | request hr _ _ _ => exact h.request hr
  | connGrant hn hg => exact h.connGrant hn hg
  | streamGrant he hn hg => exact h.streamGrant he hn hg
  | peerFrame hn => exact { h with frame := rfl, frameSize := hn }
  | resize hn hr => exact h.resize hn hr
  | goaway => exact h.emit _
  | phase1 _ => exact { h with }
  | phase2 _ _ => exact { h with }
  | fail _ => exact { h with }
  | peerGoaway => exact { h with }

/-- **A run of moves keeps the connection well formed.** -/
theorem Moves.wf {extra : Kind → Prop} (r : Moves extra s s') (h : s.Wf) : s'.Wf :=
  r.invariant h fun hs m _ => m.wf hs

end Httpunk.H2
