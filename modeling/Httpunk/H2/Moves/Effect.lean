import Httpunk.H2.Moves.Wf

/-!
# H2 — Moves — Effect

What a move does, said once, for the invariants to be read off.

* `Move.entry`: to a stream.  An entry found after a move evolved from the entry found before
  it, or the move opened the stream.
* `Move.frames`: to the pending frames, which only grow, by frames the kind tells.
* `Move.peer`, `Move.ids`: to the connection's send window, the peer's values and the ids.
* `Move.grows`: to the ids and the recorded error, which are never taken back.
-/

namespace Httpunk.H2

open Httpunk.H2.Inner

/-! ### Streams -/

/-- What a move of kind `k` makes of the send window of `sid`. -/
def Kind.flow (s : Inner) (k : Kind) (sid : Nat) (e e' : StreamEntry) : Prop :=
  match k with
  | .data j p _ =>
    if j = sid then e'.sendFlow.windowSize.val = e.sendFlow.windowSize.val - p.length ∧
      (p.length = 0 ∨ (p.length : Int) ≤ e.sendFlow.windowSize.val)
    else e'.sendFlow = e.sendFlow
  | .streamGrant j n =>
    if j = sid then e'.sendFlow.windowSize.val = e.sendFlow.windowSize.val + n
    else e'.sendFlow = e.sendFlow
  | .resize new ok =>
    e'.sendFlow = e.sendFlow ∧ (e.state.isSendClosed = true ∨ ok = false) ∨
      e'.sendFlow.windowSize.val =
        e.sendFlow.windowSize.val + new - s.peer.initialWindowSize
  | _ => e'.sendFlow = e.sendFlow

/-- What a move of kind `k` makes of the unread bytes of `sid`. -/
def Kind.unread (k : Kind) (sid : Nat) (e e' : StreamEntry) : Prop :=
  match k with
  | .receive j n =>
    e'.recvUnreleased = if j = sid then e.recvUnreleased + n else e.recvUnreleased
  | .settle j n =>
    e'.recvUnreleased = if j = sid then e.recvUnreleased - n else e.recvUnreleased
  | _ => e'.recvUnreleased = e.recvUnreleased

/-- `e'` is what a move of kind `k` leaves of the entry `e` of `sid`. -/
structure Evolves (s : Inner) (k : Kind) (sid : Nat) (e e' : StreamEntry) : Prop where
  later : State.Later e.state e'.state
  flow : k.flow s sid e e'
  held : e'.recvReclaimed = false → e.recvReclaimed = false ∧ k.unread sid e e'
  finished : e.finished = true → e'.finished = true

/-- `e'` is an entry the move opened. -/
structure Opens (s : Inner) (k : Kind) (sid : Nat) (e' : StreamEntry) : Prop where
  kind : k = .accept sid ∨ ∃ endStream, k = .request sid endStream
  unused : ¬ s.Used sid
  flow : e'.sendFlow = .opened s.peer.initialWindowSize
  unread : e'.recvUnreleased = 0
  active : e'.finished = false

variable {s s' : Inner} {k : Kind} {sid j : Nat} {e e' : StreamEntry}

/-- A move of a kind that touches no window and no count. -/
def Kind.plain : Kind → Bool
  | .data _ _ _ | .streamGrant _ _ | .resize _ _ | .receive _ _ | .settle _ _ => false
  | _ => true

theorem Kind.flow_plain (hk : k.plain = true) (h : e'.sendFlow = e.sendFlow) :
    k.flow s sid e e' := by
  cases k <;> first | exact h | cases hk

theorem Kind.unread_plain (hk : k.plain = true) (h : e'.recvUnreleased = e.recvUnreleased) :
    k.unread sid e e' := by
  cases k <;> first | exact h | cases hk

theorem Evolves.plain (hk : k.plain = true) (hl : State.Later e.state e'.state)
    (hf : e'.sendFlow = e.sendFlow)
    (hu : e'.recvReclaimed = false →
      e.recvReclaimed = false ∧ e'.recvUnreleased = e.recvUnreleased)
    (hd : e.finished = true → e'.finished = true) : Evolves s k sid e e' where
  later := hl
  flow := Kind.flow_plain hk hf
  held := fun hr => ⟨(hu hr).1, Kind.unread_plain hk (hu hr).2⟩
  finished := hd

theorem Evolves.same (hk : k.plain = true) (h : SameEntry e e') : Evolves s k sid e e' :=
  .plain hk (by rw [h.state]; exact .refl _) h.sendFlow
    (fun hr => ⟨h.recvReclaimed ▸ hr, h.recvUnreleased⟩) (fun hf => h.finished.trans hf)

/-- An entry of another stream than the one written stays. -/
theorem lookup_setStream_cases (h : (s.setStream sid e).streams.lookup j = some e') :
    j = sid ∧ e' = e ∨ j ≠ sid ∧ s.streams.lookup j = some e' := by
  rw [lookup_setStream] at h
  split at h
  · next hj => cases h; exact .inl ⟨hj, rfl⟩
  · next hj => exact .inr ⟨hj, h⟩

/-- A plain move that writes one entry. -/
theorem Evolves.write (hk : k.plain = true) (he : s.streams.lookup sid = some e)
    {e₁ : StreamEntry} (h : (s.setStream sid e').streams.lookup j = some e₁)
    (hw : Evolves s k sid e e') :
    ∃ e₀, s.streams.lookup j = some e₀ ∧ Evolves s k j e₀ e₁ := by
  rcases lookup_setStream_cases h with ⟨rfl, rfl⟩ | ⟨-, hj⟩
  · exact ⟨e, he, hw⟩
  · exact ⟨e₁, hj, .same hk (.refl e₁)⟩

/-- **What a move does to a stream.** -/
theorem Move.entry (m : Move s k s') (h : s.Wf) (he : s'.streams.lookup j = some e') :
    (∃ e, s.streams.lookup j = some e ∧ Evolves s k j e e') ∨ Opens s k j e' := by
  cases m with
  | admin ha =>
      obtain ⟨e, hj, hs⟩ := ha.back he
      exact .inl ⟨e, hj, .same rfl hs⟩
  | ctrl _ => exact .inl ⟨e', he, .same rfl (.refl e')⟩
  | rst _ => exact .inl ⟨e', he, .same rfl (.refl e')⟩
  | state hl ht =>
      exact .inl (Evolves.write rfl hl he (.plain rfl ht rfl (fun hr => ⟨hr, rfl⟩) id))
  | finish hl _ _ =>
      exact .inl (Evolves.write rfl hl he
        (.plain rfl (.refl _) rfl (fun hr => ⟨hr, rfl⟩) (fun _ => rfl)))
  | remove _ _ _ =>
      rw [Store.lookup_erase'] at he
      split at he
      · cases he
      · exact .inl ⟨e', he, .same rfl (.refl e')⟩
  | reclaim hl hd =>
      rw [lookup_reclaimEntry, ← lookup_setStream] at he
      exact .inl (Evolves.write rfl hl he (.plain rfl (.refl _) rfl (fun hr => by cases hr) id))
  | reply _ =>
      rw [streams_maybeGoawayReply] at he
      exact .inl ⟨e', he, .same rfl (.refl e')⟩
  | head hl _ ht _ =>
      exact .inl (Evolves.write rfl hl he (.plain rfl ht rfl (fun hr => ⟨hr, rfl⟩) id))
  | @data sid p eos e conn fc st hl hs hc hf hm hst =>
      obtain ⟨hw, -, hle⟩ := fcSendData_ok hf
      rcases lookup_setStream_cases (s := { s with connSend := conn }) he with
        ⟨rfl, rfl⟩ | ⟨hj, hl'⟩
      · refine .inl ⟨e, hl, ?_, ?_, fun hr => ⟨hr, rfl⟩, id⟩
        · split at hst
          · exact State.sendClose_later hst
          · exact hst ▸ .refl _
        · rw [Kind.flow, if_pos rfl]
          exact ⟨hw, hle⟩
      · refine .inl ⟨e', hl', .refl _, ?_, fun hr => ⟨hr, rfl⟩, id⟩
        rw [Kind.flow, if_neg (Ne.symm hj)]
  | forget hl _ =>
      exact .inl (Evolves.write rfl hl he (.plain rfl (.refl _) rfl (fun hr => by cases hr) id))
  | swallow _ =>
      rw [streams_reclaimConn] at he
      exact .inl ⟨e', he, .same rfl (.refl e')⟩
  | @receive sid sz fc e hl hr hc =>
      have hfit := h.receive_fits hl hc
      unfold maxWindowSize at hfit
      rcases lookup_setStream_cases (s := { s with connRecv := fc }) he with
        ⟨rfl, rfl⟩ | ⟨hj, hl'⟩
      · refine .inl ⟨e, hl, .refl _, rfl, fun hr => ⟨hr, ?_⟩, id⟩
        rw [Kind.unread, if_pos rfl]
        exact Nat.mod_eq_of_lt (by omega)
      · refine .inl ⟨e', hl', .refl _, rfl, fun hr => ⟨hr, ?_⟩, id⟩
        rw [Kind.unread, if_neg (Ne.symm hj)]
  | @settle sid n e hl hr hn =>
      rw [streams_reclaimConn] at he
      rcases lookup_setStream_cases he with ⟨rfl, rfl⟩ | ⟨hj, hl'⟩
      · refine .inl ⟨e, hl, .refl _, rfl, fun hr => ⟨hr, ?_⟩, id⟩
        rw [Kind.unread, if_pos rfl]
      · refine .inl ⟨e', hl', .refl _, rfl, fun hr => ⟨hr, ?_⟩, id⟩
        rw [Kind.unread, if_neg (Ne.symm hj)]
  | seen _ _ _ => exact .inl ⟨e', he, .same rfl (.refl e')⟩
  | @accept sid st eos hr hlt hm hs =>
      rcases lookup_setStream_cases (s := { s with lastRecvId := sid }) he with
        ⟨rfl, rfl⟩ | ⟨hj, hl'⟩
      · refine .inr ⟨.inl rfl, ?_, by simp only [StreamEntry.new], rfl, rfl⟩
        simp only [Used, hr]
        omega
      · exact .inl ⟨e', hl', .same rfl (.refl e')⟩
  | @request isHead eos block st hr hd hm hs =>
      rcases lookup_setStream_cases he with ⟨rfl, rfl⟩ | ⟨hj, hl'⟩
      · refine .inr ⟨.inr ⟨eos, rfl⟩, ?_, by simp only [StreamEntry.new], rfl, rfl⟩
        simp only [Used, hr]
        omega
      · exact .inl ⟨e', hl', .same rfl (.refl e')⟩
  | connGrant _ _ => exact .inl ⟨e', he, .same rfl (.refl e')⟩
  | @streamGrant sid n e fc hl hn hg =>
      rcases lookup_setStream_cases he with ⟨rfl, rfl⟩ | ⟨hj, hl'⟩
      · refine .inl ⟨e, hl, .refl _, ?_, fun hr => ⟨hr, rfl⟩, id⟩
        rw [Kind.flow, if_pos rfl]
        exact (FlowControl.grant_ok hn (h.sendFlow hl) hg).2
      · refine .inl ⟨e', hl', .refl _, ?_, fun hr => ⟨hr, rfl⟩, id⟩
        rw [Kind.flow, if_neg (Ne.symm hj)]
  | peerFrame _ => exact .inl ⟨e', he, .same rfl (.refl e')⟩
  | @resize new r hn hr =>
      obtain ⟨e, hl, hres⟩ := Store.lookup_scan (hr ▸ he)
      obtain ⟨fc, hfc, -⟩ := Wf.resizeSend_spec (k := j) (h.sendFlow hl) h.window hn
      -- an entry whose window could not be moved: the scan reports it
      have hnone : r.2.isNone = true →
          (resizeSend s.peer.initialWindowSize new j e).2 = none := fun hok =>
        Store.scan_none (hr ▸ Option.isNone_iff_eq_none.mp hok) hl
      rcases hres with rfl | rfl
      · refine .inl ⟨e, hl, by rw [hfc]; exact .refl _, ?_, fun hr => ?_, fun hf => ?_⟩
        · rcases Wf.resizeSend_window (k := j) (h.sendFlow hl) h.window hn with
            ⟨hc, hres⟩ | ⟨-, -, hw⟩ | ⟨-, herr, hw, -⟩
          · exact .inl ⟨by rw [hres], .inl hc⟩
          · exact .inr hw
          · refine .inl ⟨hw, .inr ?_⟩
            by_contra hok
            rw [hnone (by simpa using hok)] at herr
            cases herr
        · rw [hfc] at hr ⊢; exact ⟨hr, rfl⟩
        · rw [hfc]; exact hf
      · refine .inl ⟨e', hl, .refl _, ?_, fun hr => ⟨hr, rfl⟩, id⟩
        rcases hok : r.2.isNone
        · exact .inl ⟨rfl, .inr rfl⟩
        · have hall := Store.scan_ok (hr ▸ Option.isNone_iff_eq_none.mp hok)
          rw [← hr, hall, Store.lookup_mapVals, hl] at he
          have he' : (resizeSend s.peer.initialWindowSize new j e').1 = e' := Option.some.inj he
          rcases Wf.resizeSend_window (k := j) (h.sendFlow hl) h.window hn with
            ⟨hc, -⟩ | ⟨-, -, hw⟩ | ⟨-, herr, -⟩
          · exact .inl ⟨rfl, .inl hc⟩
          · exact .inr (by rw [he'] at hw; exact hw)
          · rw [hnone hok] at herr
            cases herr
  | goaway => exact .inl ⟨e', he, .same rfl (.refl e')⟩
  | phase1 _ => exact .inl ⟨e', he, .same rfl (.refl e')⟩
  | phase2 _ _ => exact .inl ⟨e', he, .same rfl (.refl e')⟩
  | fail _ => exact .inl ⟨e', he, .same rfl (.refl e')⟩
  | peerGoaway => exact .inl ⟨e', he, .same rfl (.refl e')⟩

/-- A move that opens a stream. -/
def Kind.opens : Kind → Bool
  | .accept _ | .request _ _ => true
  | _ => false

theorem Opens.kind_opens (h : Opens s k sid e') : k.opens = true := by
  rcases h.kind with rfl | ⟨_, rfl⟩ <;> rfl

theorem Kind.opens_of_common (h : k.common = true) : k.opens = false := by
  cases k <;> first | rfl | cases h

/-- A run of moves that open no stream stores none anew. -/
theorem Moves.stored {extra : Kind → Prop} (r : Moves extra s s') (h : s.Wf)
    (hk : ∀ k, extra k → k.opens = false) (he : s'.streams.lookup sid = some e') :
    ∃ e, s.streams.lookup sid = some e := by
  have hinv : s'.Wf ∧ ∀ e', s'.streams.lookup sid = some e' →
      ∃ e, s.streams.lookup sid = some e := by
    refine Runs.Reach.invariant (I := fun t => t.Wf ∧ ∀ e', t.streams.lookup sid = some e' →
      ∃ e, s.streams.lookup sid = some e) r ⟨h, fun e he => ⟨e, he⟩⟩ ?_
    intro t k t' ⟨htw, ht⟩ m hm
    refine ⟨m.wf htw, fun e' he => ?_⟩
    rcases m.entry htw he with ⟨e, hl, -⟩ | ho
    · exact ht e hl
    · have hopen := ho.kind_opens
      rcases hm with hm | hm
      · rw [Kind.opens_of_common hm] at hopen; cases hopen
      · rw [hk k hm] at hopen; cases hopen
  exact hinv.2 e' he

/-! ### Frames -/

/-- The frames a move of kind `k` queues. -/
def Kind.queues (s : Inner) (k : Kind) (fs : List OutFrame) : Prop :=
  match k with
  | .rst sid => ∃ reason, fs = [.rstStream sid reason]
  | .head sid eos | .request sid eos => ∃ block, fs = [.headers sid block eos]
  | .data sid p eos => fs = [.data sid p eos]
  | .reply | .goaway => ∃ reason debugData, fs = [.goAway s.goawayLastStreamId reason debugData]
  | .phase1 => fs = [.goAway maxStreamIdValue .noError []]
  | .phase2 => fs = [.goAway s.lastProcessedId .noError []]
  | .ctrl | .reclaim | .swallow | .settle _ _ => ∀ f ∈ fs, f.isCtrl = true
  | _ => fs = []

/-- **What a move queues.** -/
theorem Move.frames (m : Move s k s') :
    ∃ fs, s'.pending = s.pending ++ fs ∧ k.queues s fs := by
  cases m with
  | admin ha => exact ⟨[], by rw [ha.pending, List.append_nil], rfl⟩
  | @ctrl f hf => exact ⟨[f], rfl, fun g hg => by rw [List.mem_singleton.mp hg]; exact hf⟩
  | rst _ => exact ⟨_, rfl, _, rfl⟩
  | reclaim _ _ =>
      obtain ⟨fc, fs, hs, hc⟩ := reclaimConn_eq _ _
      exact ⟨fs, congrArg Inner.pending hs, hc⟩
  | reply hd =>
      rw [maybeGoawayReply_of_due hd]
      exact ⟨_, rfl, _, _, rfl⟩
  | head _ _ _ _ => exact ⟨_, rfl, _, rfl⟩
  | data _ _ _ _ _ _ => exact ⟨_, rfl, rfl⟩
  | swallow _ =>
      obtain ⟨fc, fs, hs, hc⟩ := reclaimConn_eq _ _
      exact ⟨fs, congrArg Inner.pending hs, hc⟩
  | settle _ _ _ =>
      obtain ⟨fc, fs, hs, hc⟩ := reclaimConn_eq _ _
      exact ⟨fs, congrArg Inner.pending hs, hc⟩
  | request _ _ _ _ => exact ⟨_, rfl, _, rfl⟩
  | goaway => exact ⟨_, rfl, _, _, rfl⟩
  | phase1 _ => exact ⟨_, rfl, rfl⟩
  | phase2 _ _ => exact ⟨_, rfl, rfl⟩
  | _ => exact ⟨[], (List.append_nil _).symm, rfl⟩

/-- Where no move of a run queues a frame with `q`, the run queues none. -/
theorem Moves.frames {extra : Kind → Prop} {q : OutFrame → Bool} (r : Moves extra s s')
    (hk : ∀ k me fs, k.common = true ∨ extra k → k.queues me fs → ∀ f ∈ fs, q f = false) :
    ∃ fs, s'.pending = s.pending ++ fs ∧ ∀ f ∈ fs, q f = false := by
  refine Runs.Reach.invariant
    (I := fun t => ∃ fs, t.pending = s.pending ++ fs ∧ ∀ f ∈ fs, q f = false) r
    ⟨[], (List.append_nil _).symm, fun f hf => by cases hf⟩ ?_
  intro t k t' ⟨fs, hfs, hq⟩ m hm
  obtain ⟨gs, hgs, hqueue⟩ := m.frames
  refine ⟨fs ++ gs, by rw [hgs, hfs, List.append_assoc], fun f hf => ?_⟩
  rcases List.mem_append.mp hf with hf | hf
  · exact hq f hf
  · exact hk k t gs hm hqueue f hf

/-! ### The connection -/

/-- What a move of kind `k` makes of the connection's send window. -/
def Kind.connFlow (k : Kind) (w w' : Int) : Prop :=
  match k with
  | .data _ p _ => w' = w - p.length ∧ (p.length = 0 ∨ (p.length : Int) ≤ w)
  | .connGrant n => w' = w + n
  | _ => w' = w

/-- The peer's initial window after a move of kind `k`. -/
def Kind.peerWindow (k : Kind) (window : Nat) : Nat :=
  match k with
  | .resize new _ => new
  | _ => window

/-- The peer's frame size after a move of kind `k`. -/
def Kind.frameSize (k : Kind) (size : Nat) : Nat :=
  match k with
  | .peerFrame n => n
  | _ => size

/-- Two states that agree in what belongs to the connection as a whole. -/
structure Steady (s s' : Inner) : Prop where
  role : s'.role = s.role
  connSend : s'.connSend = s.connSend
  peerWindow : s'.peer.initialWindowSize = s.peer.initialWindowSize
  peerFrame : s'.peer.maxFrameSize = s.peer.maxFrameSize
  goaway : s'.goaway = s.goaway
  error : s'.error = s.error
  nextId : s'.nextId = s.nextId
  lastRecvId : s'.lastRecvId = s.lastRecvId
  lastProcessedId : s'.lastProcessedId = s.lastProcessedId
  maxStreamId : s'.maxStreamId = s.maxStreamId
  graceful : s'.graceful = s.graceful
  shutdownFinal : s'.shutdownFinal = s.shutdownFinal

theorem Steady.refl (s : Inner) : Steady s s :=
  ⟨rfl, rfl, rfl, rfl, rfl, rfl, rfl, rfl, rfl, rfl, rfl, rfl⟩

theorem Steady.reclaimConn {t : Inner} (h : Steady s t) (n : Nat) :
    Steady s (t.reclaimConn n) := by
  obtain ⟨fc, fs, hs, -⟩ := reclaimConn_eq t n
  rw [hs]
  exact { h with }

theorem Alike.steady (h : Alike s s') : Steady s s' := { h with }

/-- A move of a kind that touches streams and frames only. -/
def Kind.steady : Kind → Bool
  | .reply | .data _ _ _ | .seen _ | .accept _ | .request _ _ | .connGrant _ | .peerFrame _
  | .resize _ _ | .phase1 | .phase2 | .fail | .peerGoaway => false
  | _ => true

theorem Move.steady (m : Move s k s') (hk : k.steady = true) : Steady s s' := by
  cases m with
  | admin ha => exact ha.steady
  | reclaim _ _ =>
      unfold reclaimEntry
      refine Steady.reclaimConn ?_ _
      exact { Steady.refl s with }
  | swallow _ =>
      refine Steady.reclaimConn ?_ _
      exact { Steady.refl s with }
  | settle _ _ _ =>
      refine Steady.reclaimConn ?_ _
      exact { Steady.refl s with }
  | _ => first | exact { Steady.refl s with } | cases hk

/-- **What a move does to the connection's send window and the peer's values.** -/
theorem Move.peer (m : Move s k s') (h : s.Wf) :
    k.connFlow s.connSend.windowSize.val s'.connSend.windowSize.val ∧
      s'.peer.initialWindowSize = k.peerWindow s.peer.initialWindowSize ∧
      s'.peer.maxFrameSize = k.frameSize s.peer.maxFrameSize := by
  have steady : k.steady = true → s'.connSend.windowSize.val = s.connSend.windowSize.val ∧
      s'.peer.initialWindowSize = s.peer.initialWindowSize ∧
      s'.peer.maxFrameSize = s.peer.maxFrameSize := fun hk =>
    have hs := m.steady hk
    ⟨by rw [hs.connSend], hs.peerWindow, hs.peerFrame⟩
  cases m with
  | reply hd =>
      rw [maybeGoawayReply_of_due hd]
      exact ⟨rfl, rfl, rfl⟩
  | data _ _ hc _ _ _ =>
      obtain ⟨hw, -, hle⟩ := fcSendData_ok hc
      exact ⟨⟨hw, hle⟩, rfl, rfl⟩
  | connGrant hn hg => exact ⟨(FlowControl.grant_ok hn h.connSend hg).2, rfl, rfl⟩
  | _ => first | exact steady rfl | exact ⟨rfl, rfl, rfl⟩

/-! ### Ids -/

/-- The highest id seen, after a move of kind `k`. -/
def Kind.seenId (k : Kind) (last : Nat) : Nat :=
  match k with
  | .seen sid | .accept sid => sid
  | _ => last

/-- The last stream processed, after a move of kind `k`. -/
def Kind.processedId (k : Kind) (last : Nat) : Nat :=
  match k with
  | .accept sid => sid
  | _ => last

/-- The last stream the connection takes, after a move of kind `k`. -/
def Kind.limitId (k : Kind) (s : Inner) : Nat :=
  match k with
  | .phase2 => s.lastProcessedId
  | _ => s.maxStreamId

/-- Only the GOAWAY reply and a failure record an error. -/
theorem Move.error (m : Move s k s') (h₁ : k ≠ .reply) (h₂ : k ≠ .fail) :
    s'.error = s.error := by
  have steady : k.steady = true → s'.error = s.error := fun hk => (m.steady hk).error
  cases m with
  | reply _ => exact absurd rfl h₁
  | fail _ => exact absurd rfl h₂
  | _ => first | exact steady rfl | rfl

/-- Only the second phase of a graceful shutdown makes it final. -/
theorem Move.final (m : Move s k s') (hk : k ≠ .phase2) : s'.shutdownFinal = s.shutdownFinal := by
  have steady : k.steady = true → s'.shutdownFinal = s.shutdownFinal := fun hk =>
    (m.steady hk).shutdownFinal
  cases m with
  | reply hd =>
      rw [maybeGoawayReply_of_due hd]
  | phase2 _ _ => exact absurd rfl hk
  | _ => first | exact steady rfl | rfl

/-- **What a move does to the ids of a server.** -/
theorem Move.ids (m : Move s k s') :
    s'.lastRecvId = k.seenId s.lastRecvId ∧
      s'.lastProcessedId = k.processedId s.lastProcessedId ∧ s'.maxStreamId = k.limitId s := by
  have steady : k.steady = true → s'.lastRecvId = s.lastRecvId ∧
      s'.lastProcessedId = s.lastProcessedId ∧ s'.maxStreamId = s.maxStreamId := fun hk =>
    have hs := m.steady hk
    ⟨hs.lastRecvId, hs.lastProcessedId, hs.maxStreamId⟩
  cases m with
  | reply hd =>
      rw [maybeGoawayReply_of_due hd]
      exact ⟨rfl, rfl, rfl⟩
  | _ => first | exact steady rfl | exact ⟨rfl, rfl, rfl⟩

/-! ### Counters -/

/-- What no move takes back: the role, the ids used, the error recorded. -/
structure Grows (s s' : Inner) : Prop where
  role : s'.role = s.role
  nextId : s.nextId ≤ s'.nextId
  lastRecvId : s.lastRecvId ≤ s'.lastRecvId
  error : s.error.isSome = true → s'.error = s.error
  graceful : s.graceful = true → s'.graceful = true
  shutdownFinal : s.shutdownFinal = true → s'.shutdownFinal = true

namespace Grows

theorem refl (s : Inner) : Grows s s :=
  ⟨rfl, Nat.le_refl _, Nat.le_refl _, fun _ => rfl, id, id⟩

theorem trans {s₁ s₂ s₃ : Inner} (h₁ : Grows s₁ s₂) (h₂ : Grows s₂ s₃) : Grows s₁ s₃ where
  role := h₂.role.trans h₁.role
  nextId := h₁.nextId.trans h₂.nextId
  lastRecvId := h₁.lastRecvId.trans h₂.lastRecvId
  error := fun h => (h₂.error (by rw [h₁.error h]; exact h)).trans (h₁.error h)
  graceful := fun h => h₂.graceful (h₁.graceful h)
  shutdownFinal := fun h => h₂.shutdownFinal (h₁.shutdownFinal h)

/-- An id once used stays used. -/
theorem used (h : Grows s s') (hu : s.Used sid) : s'.Used sid := by
  have hn := h.nextId
  have hl := h.lastRecvId
  unfold Used at hu ⊢
  rw [h.role]
  split <;> rename_i hr <;> rw [hr] at hu <;> simp only at hu
  · exact Nat.lt_of_lt_of_le hu hn
  · exact hu.trans hl

end Grows

/-- **What a move never takes back.** -/
theorem Move.grows (m : Move s k s') : Grows s s' := by
  have steady : k.steady = true → Grows s s' := fun hk =>
    have hs := m.steady hk
    ⟨hs.role, hs.nextId.symm.le, hs.lastRecvId.symm.le, fun _ => hs.error,
      fun h => hs.graceful.trans h, fun h => hs.shutdownFinal.trans h⟩
  cases m with
  | reply hd =>
      rw [maybeGoawayReply_of_due hd]
      simp only [replyDue, Bool.and_eq_true, Bool.not_eq_true', Bool.or_eq_false_iff] at hd
      exact ⟨rfl, Nat.le_refl _, Nat.le_refl _, fun h => (by rw [hd.1.1.2] at h; cases h),
        id, id⟩
  | seen _ h _ => exact ⟨rfl, Nat.le_refl _, h.le, fun _ => rfl, id, id⟩
  | accept _ h _ _ => exact ⟨rfl, Nat.le_refl _, h.le, fun _ => rfl, id, id⟩
  | request _ _ _ _ =>
      exact ⟨rfl, Nat.le_add_right _ 2, Nat.le_refl _, fun _ => rfl, id, id⟩
  | phase1 _ => exact ⟨rfl, Nat.le_refl _, Nat.le_refl _, fun _ => rfl, fun _ => rfl, id⟩
  | phase2 _ _ => exact ⟨rfl, Nat.le_refl _, Nat.le_refl _, fun _ => rfl, id, fun _ => rfl⟩
  | fail h =>
      exact ⟨rfl, Nat.le_refl _, Nat.le_refl _, fun h' => (by rw [h] at h'; cases h'),
        id, id⟩
  | _ => first | exact steady rfl | exact ⟨rfl, Nat.le_refl _, Nat.le_refl _, fun _ => rfl, id, id⟩

theorem Moves.grows {extra : Kind → Prop} (r : Moves extra s s') : Grows s s' :=
  r.relation Grows.refl Grows.trans fun m _ => m.grows

end Httpunk.H2
