import Httpunk.H2.Moves.Effect

/-!
# H2 — Moves — Recv

The dispatch entry points as runs of moves.  Each lemma names the kinds a frame can add to the
common ones: a HEADERS frame may open its stream, a DATA frame charges its bytes once, and so
on.  An error keeps what came before it, so the lemmas are about the state left behind whatever
the verdict.
-/

namespace Httpunk.H2.Inner

open Runs (Reach)

variable {extra : Kind → Prop} {me : Inner} {sid : Nat} {e : StreamEntry}

/-! ### Target resolution -/

theorem recvLookup_moves (me : Inner) (sid : Nat) : Moves extra me (me.recvLookup sid).1 := by
  unfold recvLookup
  split
  · next e he =>
    split
    · exact .refl
    · split
      · next hc =>
        refine dropClosedStored_moves fun e' h' => ?_
        rw [he] at h'
        cases h'
        exact State.recvDone_of_isClosed hc
      · exact .refl
  · have hr : Moves extra me (me.inResetStore sid).1 := Moves.admin (me.inResetStore_alike sid)
    dsimp only
    split
    · exact hr
    · split
      · exact hr
      · split <;> exact hr

/-- A stream that is found is live, and nothing was touched to find it. -/
theorem recvLookup_found {k : Nat} {me' : Inner} (h : me.recvLookup sid = (me', .ok (some k))) :
    me' = me ∧ k = sid ∧ ∃ e, me.streams.lookup sid = some e ∧ e.state.isClosed = false := by
  unfold recvLookup at h
  split at h
  · next e he =>
    split at h
    · cases h
    · split at h
      · cases h
      · next hc =>
        cases h
        exact ⟨rfl, rfl, e, he, by simpa using hc⟩
  · dsimp only at h
    split at h
    · cases h
    · split at h
      · cases h
      · split at h <;> cases h

/-! ### HEADERS -/

theorem applyContentLength_alike (me : Inner) (sid : Nat) (f : Headers) :
    Alike me (me.applyContentLength sid f).1 := by
  unfold applyContentLength
  split
  · exact .refl _
  · next e he =>
    split
    · exact .refl _
    · split
      · exact .refl _
      · split
        · exact .refl _
        · next cl _ =>
          have h : Alike me (me.setStream sid { e with contentLength := e.contentLength.set cl }) :=
            .setStream he { SameEntry.refl e with }
          dsimp only
          split <;> exact h

/-- The entry of a stream is not moved by a declared length. -/
theorem applyContentLength_fst {me me' : Inner} {f : Headers} {r : Option Err}
    (h : me.applyContentLength sid f = (me', r)) : Alike me me' := by
  have := applyContentLength_alike me sid f
  rwa [h] at this

/-- The 431 answer: the response head ends the send half, and a request whose body is still to
come is reset. -/
theorem rejectOversizeRequest_moves (me : Inner) (sid : Nat)
    (hk : extra (.head sid true)) : Moves extra me (me.rejectOversizeRequest sid).1 := by
  unfold rejectOversizeRequest
  split
  · exact .refl
  · next e he =>
    split
    · exact .refl
    · next st hst =>
      obtain ⟨ho, hc⟩ := State.sendOpen_isSendClosed hst
      have hm : Moves extra me ((me.setStream sid { e with state := st }).emit
          (.headers sid (.response 431 []) true)) :=
        Moves.one (.head he ho (State.sendOpen_later hst) fun _ => hc) hk
      dsimp only
      refine Reach.trans ?_ (closeStream_moves _ sid)
      split
      · generalize hm₁ : (me.setStream sid { e with state := st }).emit
          (.headers sid (.response 431 []) true) = m at hm ⊢
        have hl : m.streams.lookup sid = some { e with state := st } :=
          hm₁ ▸ AList.lookup_insert _
        have hs : Move m .state
            (m.setStream sid { e with state := st.setReset sid .protocolError .library }) :=
          .state (e := { e with state := st }) hl (.of_isClosed rfl)
        refine ((hm.trans (Moves.common hs rfl)).trans (Moves.common (.rst fun e' h' => ?_) rfl)).trans
          (Moves.admin (enqueueResetExpiration_alike _ sid))
        rw [lookup_setStream, if_pos rfl] at h'
        cases h'
        rfl
      · exact hm

/-- A HEADERS frame on an id the server would open a stream for. -/
def opensRequest (me : Inner) (sid : Nat) : Bool :=
  isClientInitiated sid && me.lastRecvId < sid && sid ≤ me.maxStreamId &&
    me.numActive < me.maxConcurrent

/-- A verdict that opens no stream. -/
def OpensNone (r : Except Err RecvHeadersVerdict) : Prop := ∀ v, r = .ok v → v.kind ≠ .opened

theorem OpensNone.error (err : Err) : OpensNone (.error err) := fun _ h => by cases h

theorem OpensNone.ok {v : RecvHeadersVerdict} (h : v.kind ≠ .opened) : OpensNone (.ok v) :=
  fun _ hv => by cases hv; exact h

theorem OpensNone.ignored (sid : Nat) : OpensNone (.ok (.ignored sid)) :=
  .ok (by intro h; cases h)

/-- A request opens its stream first of all, or it opens none; its id has been seen then. -/
theorem recvRequest_opens (me : Inner) (frame : Headers) (spare : Bool) (before : Nat)
    (flags : Flags) (hr : me.role = .server) :
    Moves (· = .seen frame.streamId) me (me.recvRequest frame spare before flags).1 ∧
        OpensNone (me.recvRequest frame spare before flags).2 ∧
        (isClientInitiated frame.streamId = true → frame.streamId ≤ me.maxStreamId →
          frame.streamId ≤ (me.recvRequest frame spare before flags).1.lastRecvId) ∨
      me.opensRequest frame.streamId = true ∧ ∃ m, Move me (.accept frame.streamId) m ∧
        Moves (· = .head frame.streamId true) m (me.recvRequest frame spare before flags).1 := by
  unfold recvRequest
  dsimp only
  split
  · next hm => exact .inl ⟨.refl, .ignored _, fun _ h => absurd h (Nat.not_le.mpr hm)⟩
  · split
    · next hs =>
      refine .inl ⟨.refl, .error _, fun hc _ => ?_⟩
      simpa [hc] using hs
    · next hm hs =>
      simp only [Bool.or_eq_true, Bool.not_eq_true', decide_eq_true_eq, not_or, Nat.not_le,
        Bool.not_eq_false] at hs
      have hseen : Moves (· = .seen frame.streamId) me { me with lastRecvId := frame.streamId } :=
        Moves.one (.seen hr hs.2 (Nat.le_of_not_lt hm)) rfl
      split
      · exact .inl ⟨hseen, .error _, fun _ _ => Nat.le_refl _⟩
      · next hmax =>
        have hopen : me.opensRequest frame.streamId = true := by
          simp only [opensRequest, Bool.and_eq_true, decide_eq_true_eq]
          exact ⟨⟨⟨hs.1, hs.2⟩, Nat.le_of_not_lt hm⟩, Nat.lt_of_not_le hmax⟩
        split
        · exact .inl ⟨hseen, .error _, fun _ _ => Nat.le_refl _⟩
        · split
          · exact .inl ⟨hseen, .error _, fun _ _ => Nat.le_refl _⟩
          · next st hst =>
            refine .inr ⟨hopen, _, .accept hr hs.2 (Nat.le_of_not_lt hm) hst, ?_⟩
            split
            · next me' err hcl => exact Moves.admin (applyContentLength_fst hcl)
            · next me' hcl =>
              have hcl' : Moves (· = .head frame.streamId true) _ me' :=
                Moves.admin (applyContentLength_fst hcl)
              split
              · have hrej := hcl'.trans (rejectOversizeRequest_moves me' frame.streamId rfl)
                split <;> next hx => rw [hx] at hrej; exact hrej
              · exact hcl'.trans (Moves.admin { Alike.refl me' with })

/-- What a HEADERS frame does: it opens no stream, or it opens its own, first of all. -/
def HeadersEffect (me : Inner) (r : Inner × Except Err RecvHeadersVerdict) (sid : Nat) : Prop :=
  Moves (· = .seen sid) me r.1 ∧ OpensNone r.2 ∨
    (me.role = .server ∧ me.opensRequest sid = true ∧ (me.inResetStore sid).2 = false) ∧
      ∃ m₁ m₂, Alike me m₁ ∧ Move m₁ (.accept sid) m₂ ∧ Moves (· = .head sid true) m₂ r.1

theorem recvHeadersUnknown_effect (me : Inner) (frame : Headers) (spare : Bool) (before : Nat)
    (flags : Flags) :
    HeadersEffect me (me.recvHeadersUnknown frame spare before flags) frame.streamId := by
  have ha := me.inResetStore_alike frame.streamId
  have hr : Moves (· = .seen frame.streamId) me (me.inResetStore frame.streamId).1 :=
    Moves.admin ha
  unfold recvHeadersUnknown
  dsimp only
  split
  · exact .inl ⟨hr, .ignored _⟩
  · next hnot =>
    split
    · split <;> exact .inl ⟨hr, .error _⟩
    · next hs =>
      rcases recvRequest_opens _ frame spare before flags hs with ⟨h, hv, -⟩ | ⟨ho, m, hm, hm'⟩
      · exact .inl ⟨hr.trans h, hv⟩
      · refine .inr ⟨⟨ha.role ▸ hs, ?_, by simpa using hnot⟩, _, m, ha, hm, hm'⟩
        obtain ⟨t, ht⟩ := inResetStore_eq me frame.streamId
        rw [ht] at ho
        exact ho

theorem recvHead_moves (frame : Headers) (before : Nat)
    (he : me.streams.lookup frame.streamId = some e) :
    Moves extra me (me.recvHead frame e before).1 ∧ OpensNone (me.recvHead frame e before).2 := by
  unfold recvHead
  dsimp only
  split
  · exact ⟨.refl, .error _⟩
  · split
    · exact ⟨.refl, .error _⟩
    · next st hst =>
      have hs : Moves extra me (me.setStream frame.streamId { e with state := st }) :=
        Moves.common (.state he (State.recvOpen_later hst)) rfl
      split
      · next me' err hcl =>
        exact ⟨hs.trans (Moves.admin (applyContentLength_fst hcl)), .error _⟩
      · next me' hcl =>
        have hcl' := hs.trans (Moves.admin (applyContentLength_fst hcl))
        split
        · exact ⟨hcl', .error _⟩
        · split
          · exact ⟨hcl', .ignored _⟩
          · split
            · exact ⟨hcl', .error _⟩
            · refine ⟨?_, .ok (by intro h; cases h)⟩
              dsimp only
              split
              · exact hcl'.trans (closeStream_moves _ _)
              · exact hcl'

theorem recvTrailers_moves (frame : Headers) (before : Nat)
    (he : me.streams.lookup frame.streamId = some e) :
    Moves extra me (me.recvTrailers frame e before).1 ∧
      OpensNone (me.recvTrailers frame e before).2 := by
  unfold recvTrailers
  dsimp only
  split
  · exact ⟨.refl, .error _⟩
  · split
    · exact ⟨.refl, .error _⟩
    · next st hst =>
      have hs : Moves extra me (me.setStream frame.streamId { e with state := st }) :=
        Moves.common (.state he (State.recvClose_later hst)) rfl
      split
      · exact ⟨hs, .error _⟩
      · exact ⟨hs.trans (closeStream_moves _ _), .ok (by intro h; cases h)⟩

/-- **What a HEADERS frame does.** -/
theorem recvHeaders_effect (h : me.Wf) (frame : Headers) (spare : Bool) :
    HeadersEffect me (me.recvHeaders frame spare) frame.streamId := by
  unfold recvHeaders
  dsimp only
  split
  · exact recvHeadersUnknown_effect me frame spare _ _
  · next e he =>
    split
    · exact .inl ⟨.refl, .ignored _⟩
    · split
      · next hc =>
        have hd : Moves (· = .seen frame.streamId) me (me.dropClosedStored frame.streamId).1 :=
          dropClosedStored_moves fun e' h' => by
            rw [he] at h'
            cases h'
            exact State.recvDone_of_isClosed hc
        split
        · exact .inl ⟨hd, .error _⟩
        · rcases recvHeadersUnknown_effect (me.dropClosedStored frame.streamId).1 frame spare
            me.pending.length (me.dropClosedStored frame.streamId).2 with
            ⟨hu, hv⟩ | ⟨⟨hr, ho, -⟩, -⟩
          · exact .inl ⟨hd.trans hu, hv⟩
          · -- the id has been used: it opens nothing again
            have hused := hd.grows.used (h.used he)
            simp only [Used, hr] at hused
            simp only [opensRequest, Bool.and_eq_true, decide_eq_true_eq] at ho
            omega
      · split
        · exact .inl (recvHead_moves frame _ he)
        · exact .inl (recvTrailers_moves frame _ he)

/-- The kinds a HEADERS frame on `sid` can add. -/
def headersKinds (sid : Nat) : List Kind := [.seen sid, .accept sid, .head sid true]

theorem recvHeaders_moves (h : me.Wf) (frame : Headers) (spare : Bool) :
    Moves (· ∈ headersKinds frame.streamId) me (me.recvHeaders frame spare).1 := by
  rcases recvHeaders_effect h frame spare with ⟨hm, -⟩ | ⟨-, m₁, m₂, ha, hm, hm'⟩
  · exact hm.mono fun k hk => by rw [hk]; simp [headersKinds]
  · refine ((Moves.admin ha).trans (Moves.one hm (by simp [headersKinds]))).trans (hm'.mono ?_)
    exact fun k hk => by rw [hk]; simp [headersKinds]

/-! ### DATA -/

theorem recordDataFrame_alike (me : Inner) (sid n : Nat) :
    Alike me (me.recordDataFrame sid n).1 := by
  unfold recordDataFrame
  split
  · exact { Alike.refl me with }
  · next b charge _ =>
    have hb : Alike me { me with dataBudget := b } := { Alike.refl me with }
    dsimp only
    split
    · exact hb
    · next e he =>
      exact hb.trans (.setStream (s := { me with dataBudget := b }) he { SameEntry.refl e with })

/-- Bytes nobody reads: charged and given back at once, or over the window and refused. -/
theorem ignoreData_moves (h : me.Wf) (sz : Nat) (hk : extra .swallow) :
    Moves extra me (me.ignoreData sz).1 := by
  unfold ignoreData consumeConnRecv
  rcases hs : fcSendData me.connRecv sz with ⟨fc, _ | r⟩
  · exact Moves.one (.swallow hs) hk
  · obtain ⟨rfl, -, -⟩ := fcSendData_error h.recvWindow.2 hs
    exact .refl

/-- A release of bytes the stream holds: they go back to the connection's ledger once, and the
stream's own window is announced where it is due. -/
theorem releaseCapacityInner_once {n : Nat}
    (hn : ∀ e, me.streams.lookup sid = some e → e.recvReclaimed = false → n ≤ e.recvUnreleased) :
    Once (· = .settle sid n) me (me.releaseCapacityInner sid n) := by
  unfold releaseCapacityInner
  split
  · exact .none .refl
  · next e he =>
    split
    · exact .none .refl
    · next hr =>
      have hr' : e.recvReclaimed = false := by simpa using hr
      dsimp only
      refine Once.after ?_ (maybeRemoveSettled_moves _ sid)
      -- the entry with its receive window moved, and then its bytes
      have settled : ∀ fc : FlowControl, Once (· = .settle sid n) me
          ((me.setStream sid { e with recvUnreleased := e.recvUnreleased - n, recvFlow := fc
            }).reclaimConn n) := fun fc => by
        have ha : Alike me (me.setStream sid { e with recvFlow := fc }) :=
          .setStream he { SameEntry.refl e with }
        have hl : (me.setStream sid { e with recvFlow := fc }).streams.lookup sid =
            some { e with recvFlow := fc } := AList.lookup_insert _
        have hs := Move.settle hl hr' (hn e he hr')
        rw [setStream_setStream] at hs
        exact Once.before (Moves.admin ha) (.one hs rfl .refl)
      have announced : ∀ (fc : FlowControl) (u : Nat), Once (· = .settle sid n) me
          (((me.setStream sid { e with recvUnreleased := e.recvUnreleased - n, recvFlow := fc
            }).emit (.windowUpdate sid u)).reclaimConn n) := fun fc u => by
        have ha : Alike me (me.setStream sid { e with recvFlow := fc }) :=
          .setStream he { SameEntry.refl e with }
        have hc : Move (me.setStream sid { e with recvFlow := fc }) .ctrl
            ((me.setStream sid { e with recvFlow := fc }).emit (.windowUpdate sid u)) := .ctrl rfl
        have hl : ((me.setStream sid { e with recvFlow := fc }).emit
            (.windowUpdate sid u)).streams.lookup sid = some { e with recvFlow := fc } :=
          AList.lookup_insert _
        have hs := Move.settle hl hr' (hn e he hr')
        rw [setStream_emit, setStream_setStream] at hs
        exact Once.before ((Moves.admin ha).trans (Moves.common hc rfl)) (.one hs rfl .refl)
      split
      · exact settled _
      · split
        · exact announced _ _
        · exact settled _

/-- A delivery: the padding goes back at once, and the payload is the reader's. -/
theorem deliverData_once (me : Inner) (e : StreamEntry) (frame : Data) (before : Nat)
    (hp : frame.padding ≤ (e.recvUnreleased + frame.flowControlledLen) % 2 ^ 32) :
    Once (· = .settle frame.streamId frame.padding) (me.setStream frame.streamId
        { e with recvUnreleased := (e.recvUnreleased + frame.flowControlledLen) % 2 ^ 32 })
      (me.deliverData frame e before).1 ∧
    ∀ v, (me.deliverData frame e before).2 = .ok v →
      v.payload = none ∨ v.handle = some frame.streamId ∧ v.payload = some frame.data := by
  unfold deliverData
  dsimp only
  generalize hm : me.setStream frame.streamId
    { e with recvUnreleased := (e.recvUnreleased + frame.flowControlledLen) % 2 ^ 32 } = m
  have hl : m.streams.lookup frame.streamId = some
      { e with recvUnreleased := (e.recvUnreleased + frame.flowControlledLen) % 2 ^ 32 } :=
    hm ▸ AList.lookup_insert _
  have hpad : Once (· = .settle frame.streamId frame.padding) m
      (if frame.padding > 0 then m.releaseCapacityInner frame.streamId frame.padding else m) := by
    split
    · refine releaseCapacityInner_once fun e' h' _ => ?_
      rw [hl] at h'
      cases h'
      exact hp
    · exact .none .refl
  generalize (if frame.padding > 0 then m.releaseCapacityInner frame.streamId frame.padding
    else m) = m₁ at hpad ⊢
  have hrec : Alike m₁ (if (!frame.endStream) = true then
      m₁.recordDataFrame frame.streamId frame.data.length else (m₁, none)).1 := by
    split
    · exact recordDataFrame_alike _ _ _
    · exact .refl _
  generalize (if (!frame.endStream) = true then
    m₁.recordDataFrame frame.streamId frame.data.length else (m₁, none)) = charged at hrec ⊢
  obtain ⟨m₂, _ | err⟩ := charged
  · have hm₂ := hpad.after (Moves.admin hrec)
    dsimp only
    split
    · exact ⟨hm₂, fun v hv => by cases hv; exact .inl rfl⟩
    · split
      · split
        · exact ⟨hm₂, fun v hv => by cases hv⟩
        · next e' he' =>
          split
          · exact ⟨hm₂, fun v hv => by cases hv⟩
          · next st hst =>
            exact ⟨(hm₂.after (Moves.common (.state he' (State.recvClose_later hst)) rfl)).after
              (closeStream_moves _ _), fun v hv => by cases hv; exact .inr ⟨rfl, rfl⟩⟩
      · exact ⟨hm₂, fun v hv => by cases hv; exact .inr ⟨rfl, rfl⟩⟩
  · exact ⟨hpad.after (Moves.admin hrec), fun v hv => by cases hv⟩

/-- What a DATA frame does: its bytes are swallowed, or they are charged and counted once, the
padding is settled, and only the payload is put before a reader. -/
def Received (me : Inner) (frame : Data) (r : Inner × Except Err RecvDataVerdict) : Prop :=
  (Moves (· = .swallow) me r.1 ∧ ∀ v, r.2 = .ok v → v.payload = none) ∨
    ∃ m₁ m₂, Moves Kind.nothing me m₁ ∧
      Move m₁ (.receive frame.streamId frame.flowControlledLen) m₂ ∧
      Once (· = .settle frame.streamId frame.padding) m₂ r.1 ∧
      ∀ v, r.2 = .ok v →
        v.payload = none ∨ v.handle = some frame.streamId ∧ v.payload = some frame.data

theorem recvDataOn_received (frame : Data) (before : Nat) (h : me.Wf)
    (he : me.streams.lookup frame.streamId = some e) (hs : e.state.isRecvStreaming = true) :
    Received me frame (me.recvDataOn frame e before) := by
  unfold recvDataOn consumeConnRecv
  dsimp only
  rcases hc : fcSendData me.connRecv frame.flowControlledLen with ⟨fc, _ | r⟩
  · -- a frame that is refused past the connection's window goes back to it
    have refused : ∀ (e' : StreamEntry) (err : Err), SameEntry e e' → Received me frame
        (({ me with connRecv := fc }.setStream frame.streamId e').reclaimConn
          frame.flowControlledLen, .error err) := fun e' err hs' =>
      .inl ⟨(Moves.admin (.setStream he hs')).trans
        (Moves.one (.swallow (s := me.setStream frame.streamId e') hc) rfl), fun v hv => by cases hv⟩
    dsimp only [Option.map_none]
    split
    · exact refused _ _ { SameEntry.refl e with }
    · next fc' _ =>
      split
      · exact refused _ _ { SameEntry.refl e with }
      · next cl _ =>
        split
        · exact refused _ _ { SameEntry.refl e with }
        · have hfit := h.receive_fits he hc
          have ha : Alike me (me.setStream frame.streamId
              { e with recvFlow := fc', contentLength := cl }) :=
            .setStream he { SameEntry.refl e with }
          have hl : (me.setStream frame.streamId { e with recvFlow := fc', contentLength := cl
              }).streams.lookup frame.streamId =
              some { e with recvFlow := fc', contentLength := cl } := AList.lookup_insert _
          have hr := Move.receive hl hs hc
          have heq := setStream_setStream { me with connRecv := fc } frame.streamId
            { e with recvFlow := fc', contentLength := cl }
            { e with recvFlow := fc', contentLength := cl,
                     recvUnreleased := (e.recvUnreleased + frame.flowControlledLen) % 2 ^ 32 }
          obtain ⟨honce, hv⟩ := deliverData_once { me with connRecv := fc }
            { e with recvFlow := fc', contentLength := cl } frame before (by
              unfold maxWindowSize at hfit
              simp only
              rw [Nat.mod_eq_of_lt (by omega), Data.flowControlledLen]
              omega)
          exact .inr ⟨_, _, Moves.admin ha, Eq.mp (congrArg _ heq) hr, honce, hv⟩
  · obtain ⟨rfl, -, -⟩ := fcSendData_error h.recvWindow.2 hc
    exact .inl ⟨.refl, fun v hv => by cases hv⟩

theorem recvData_received (frame : Data) (h : me.Wf) :
    Received me frame (me.recvData frame) := by
  have hlook : Moves (· = .swallow) me (me.recvLookup frame.streamId).1 :=
    recvLookup_moves me frame.streamId
  unfold recvData
  dsimp only
  split
  · next me' err hr =>
    rw [hr] at hlook
    have hi := hlook.trans (ignoreData_moves (hlook.wf h) frame.flowControlledLen rfl)
    split <;> next hx => rw [hx] at hi; exact .inl ⟨hi, fun v hv => by cases hv⟩
  · next me' hr =>
    rw [hr] at hlook
    have hi := hlook.trans (ignoreData_moves (hlook.wf h) frame.flowControlledLen rfl)
    split
    · next hx => rw [hx] at hi; exact .inl ⟨hi, fun v hv => by cases hv⟩
    · next hx => rw [hx] at hi; exact .inl ⟨hi, fun v hv => by cases hv; rfl⟩
  · next me' k hr =>
    obtain ⟨rfl, rfl, e, he, -⟩ := recvLookup_found hr
    rw [he]
    dsimp only
    split
    · exact .inl ⟨.refl, fun v hv => by cases hv⟩
    · next hs => exact recvDataOn_received frame _ h he (by simpa using hs)

/-- The kinds a DATA frame can add. -/
def dataKinds (frame : Data) : List Kind :=
  [.swallow, .receive frame.streamId frame.flowControlledLen,
    .settle frame.streamId frame.padding]

theorem recvData_moves (frame : Data) (h : me.Wf) :
    Moves (· ∈ dataKinds frame) me (me.recvData frame).1 := by
  rcases recvData_received frame h with ⟨hm, -⟩ | ⟨m₁, m₂, h₁, hm, h₂, -⟩
  · exact hm.mono fun k hk => by rw [hk]; simp [dataKinds]
  · refine (h₁.weaken.trans (Moves.one hm (by simp [dataKinds]))).trans (h₂.moves.mono ?_)
    exact fun k hk => by rw [hk]; simp [dataKinds]

/-! ### WINDOW_UPDATE and RST_STREAM -/

/-- The window a WINDOW_UPDATE opens. -/
def grantKind (frame : WindowUpdate) : Kind :=
  if frame.streamId = 0 then .connGrant frame.increment
  else .streamGrant frame.streamId frame.increment

/-- A WINDOW_UPDATE opens its window at most once. -/
theorem recvWindowUpdate_moves (frame : WindowUpdate) (h : me.Wf) :
    Once (· = grantKind frame) me (me.recvWindowUpdate frame).1 := by
  have hb := frame.bounded
  unfold recvWindowUpdate
  dsimp only
  split
  · next h0 =>
    rcases hg : me.connSend.grant frame.increment with ⟨fc, _ | r⟩
    · refine Once.one (.connGrant hb hg) (by rw [grantKind, if_pos h0]) (Moves.admin ?_)
      exact (admitCapacityFront_alike _).trans (sendFront_alike _)
    · rcases FlowControl.grant_spec hb h.connSend with ⟨w, hw, -⟩ | ⟨hw, -⟩
      · rw [hg] at hw; cases hw
      · rw [hg] at hw; cases hw; exact .none .refl
  · next h0 =>
    split
    · split
      · exact .none .refl
      · split <;> exact .none .refl
    · next e he =>
      rcases hg : e.sendFlow.grant frame.increment with ⟨fc, _ | r⟩
      · exact Once.one (.streamGrant he hb hg) (by rw [grantKind, if_neg h0]) .refl
      · rcases FlowControl.grant_spec hb (h.sendFlow he) with ⟨w, hw, -⟩ | ⟨hw, -⟩
        · rw [hg] at hw; cases hw
        · rw [hg] at hw
          cases hw
          exact .none (Moves.admin (.setStream he { SameEntry.refl e with }))

theorem recvResetOn_moves (me : Inner) (frame : RstStream)
    (he : me.streams.lookup frame.streamId = some e) :
    Moves extra me (me.recvResetOn frame e).1 := by
  unfold recvResetOn
  dsimp only
  split
  · exact .refl
  · exact (closeWith_moves he (State.isClosed_recvReset _ _ _)).trans (closeStream_moves _ _)

theorem recvReset_moves (me : Inner) (frame : RstStream) :
    Moves extra me (me.recvReset frame).1 := by
  unfold recvReset
  dsimp only
  split
  · exact .refl
  · split
    · split
      · exact .refl
      · split <;> exact .refl
    · next e he =>
      split
      · split
        · exact .refl
        · have ha : Alike me
              { me with remoteResetPending := insert frame.streamId me.remoteResetPending } :=
            { Alike.refl me with }
          refine (Moves.admin ha).trans ?_
          exact recvResetOn_moves { me with
            remoteResetPending := insert frame.streamId me.remoteResetPending } frame he
      · exact recvResetOn_moves me frame he

/-! ### SETTINGS -/

theorem scan_resizeRecv_alike (me : Inner) (old target : Nat) :
    Alike me { me with streams := (Store.scan (resizeRecv old target) me.streams).1 } := by
  refine .streams me (fun {k e} hk => ?_) (fun {k} hk => ?_)
  · rw [Store.scan_eq, Store.lookup_mapVals, hk, Option.map_some]
    refine ⟨_, rfl, ?_⟩
    split
    · exact { SameEntry.refl e with }
    · exact .refl e
  · rw [Store.scan_eq, Store.lookup_mapVals, hk]
    rfl

theorem applyLocalSettings_alike (me : Inner) : Alike me me.applyLocalSettings.1 := by
  unfold applyLocalSettings
  split
  · exact { Alike.refl me with }
  · next l _ =>
    have hl : Alike me { me with limits := l } := { Alike.refl me with }
    dsimp only
    split
    · exact hl
    · next target _ =>
      have ht : Alike me { me with limits := l, recvInit := target } := { Alike.refl me with }
      split
      · exact ht
      · exact ht.trans (scan_resizeRecv_alike { me with limits := l, recvInit := target } _ _)

/-- The kinds the limits of a SETTINGS frame can add. -/
def limitKinds (v : SettingsValues) : List Kind := (v.maxFrameSize.map .peerFrame).toList

theorem applyHeaderTable_alike (me : Inner) (n : Option Nat) :
    Alike me (me.applyHeaderTable n) := by
  cases n with
  | none => exact .refl _
  | some n => exact { Alike.refl me with }

theorem applyMaxStreams_alike (me : Inner) (n : Option Nat) :
    Alike me (me.applyMaxStreams n).1 := by
  unfold applyMaxStreams
  split
  · exact .refl _
  · dsimp only
    split
    · exact { Alike.refl me with }
    · exact { Alike.refl me with }

/-- The frame size of a valid SETTINGS frame is taken. -/
theorem applyMaxFrame_moves (me : Inner) {v : SettingsValues} (hv : v.Valid) :
    ∃ m, me.applyMaxFrame v.maxFrameSize = (m, none) ∧ Moves (· ∈ limitKinds v) me m ∧
      m.peer.initialWindowSize = me.peer.initialWindowSize ∧
      m.peer.maxFrameSize = v.maxFrameSize.getD me.peer.maxFrameSize := by
  rcases hf : v.maxFrameSize with _ | n
  · exact ⟨me, rfl, .refl, rfl, rfl⟩
  · have hn := hv.frame n (by rw [hf]; rfl)
    have hc : checkMaxFrameSize n = none := by rw [checkMaxFrameSize, if_pos hn]
    refine ⟨{ me with sendMaxFrameSize := n, peer := { me.peer with maxFrameSize := n } },
      by simp only [applyMaxFrame, hc], Moves.one (.peerFrame hn.1) ?_, rfl, rfl⟩
    simp [limitKinds, hf]

/-- The limits of a valid SETTINGS frame are taken; the peer's initial window not yet. -/
theorem applyRemoteLimits_moves (me : Inner) {v : SettingsValues} (hv : v.Valid) :
    ∃ m flags, me.applyRemoteLimits v = (m, .ok flags) ∧ Moves (· ∈ limitKinds v) me m ∧
      m.peer.initialWindowSize = me.peer.initialWindowSize ∧
      m.peer.maxFrameSize = v.maxFrameSize.getD me.peer.maxFrameSize := by
  have h₁ := applyHeaderTable_alike me v.headerTableSize
  obtain ⟨m, hm, h₂, hw, hf⟩ := applyMaxFrame_moves (me.applyHeaderTable v.headerTableSize) hv
  have h₃ := applyMaxStreams_alike m v.maxConcurrentStreams
  rw [h₁.peerWindow] at hw
  rw [h₁.peerFrame] at hf
  refine ⟨_, (m.applyMaxStreams v.maxConcurrentStreams).2, by simp only [applyRemoteLimits, hm],
    ((Moves.admin h₁).trans h₂).trans (Moves.admin h₃), ?_, ?_⟩
  · rw [h₃.peerWindow, hw]
  · rw [h₃.peerFrame, hf]

theorem resizeSend_error {old new k : Nat} {e : StreamEntry} {err : Err}
    (h : (resizeSend old new k e).2 = some err) : ∃ r, err = mapReason r := by
  unfold resizeSend at h
  split at h
  · cases h
  · obtain ⟨r, -, rfl⟩ := Option.map_eq_some_iff.mp h
    exact ⟨r, rfl⟩

/-- **What a SETTINGS frame does.**  The limits first, then, unless it stays as it was, the
peer's initial window, and with it the window of each stream: of all when the call goes through,
up to one that overflows when it does not. -/
theorem recvSettings_moves (me : Inner) (frame : SettingsFrame) :
    ∃ m, Moves (· ∈ limitKinds frame.values) me m ∧
      ((me.recvSettings frame).1 = m ∨
        ∃ new, frame.ack = false ∧ frame.values.initialWindowSize = some new ∧
          m.peer.initialWindowSize = me.peer.initialWindowSize ∧
          Move m (.resize new (me.recvSettings frame).2.isOk) (me.recvSettings frame).1 ∧
          ∀ err, (me.recvSettings frame).2 = .error err → ∃ r, err = mapReason r) ∧
      (me.recvSettings frame).1.peer.initialWindowSize =
        (if frame.ack then none else frame.values.initialWindowSize).getD
          me.peer.initialWindowSize ∧
      (me.recvSettings frame).1.peer.maxFrameSize =
        (if frame.ack then none else frame.values.maxFrameSize).getD me.peer.maxFrameSize := by
  unfold recvSettings
  dsimp only
  rcases ha : frame.ack
  · simp only [Bool.false_eq_true, if_false]
    -- the acknowledgement is queued, and the handshake noted
    generalize hs : me.settings.recvRemote = s
    have h₀ : Moves (· ∈ limitKinds frame.values) me
        { me.emit .settingsAck with settings := s.1 } :=
      (Moves.common (.ctrl rfl) rfl).trans (Moves.admin { Alike.refl (me.emit .settingsAck) with })
    obtain ⟨m, flags, hm, h₁, hw, hf⟩ :=
      applyRemoteLimits_moves { me.emit .settingsAck with settings := s.1 } frame.valid
    have h₀₁ := h₀.trans h₁
    simp only [applyRemoteSettings, hm]
    rcases hi : frame.values.initialWindowSize with _ | new
    · exact ⟨m, h₀₁, .inl rfl, hw, hf⟩
    · have hn : new ≤ maxWindowSize := frame.valid.window new (by rw [hi]; rfl)
      unfold applyInitialWindow
      dsimp only
      by_cases he : new = m.peer.initialWindowSize
      · rw [if_pos he]
        exact ⟨m, h₀₁, .inl rfl, he.symm, hf⟩
      · rw [if_neg he]
        rcases hr : Store.scan (resizeSend m.peer.initialWindowSize new) m.streams with ⟨t, _ | err⟩
        · exact ⟨m, h₀₁, .inr ⟨new, trivial, rfl, hw, .resize hn hr, fun _ h => by cases h⟩, rfl, hf⟩
        · refine ⟨m, h₀₁, .inr ⟨new, trivial, rfl, hw, .resize hn hr, fun err' h => ?_⟩, rfl, hf⟩
          cases h
          obtain ⟨k, e, -, he⟩ := Store.scan_error (congrArg Prod.snd hr)
          exact resizeSend_error he
  · simp only [if_true]
    rcases me.settings.recvAck with err | t
    · exact ⟨me, .refl, .inl rfl, rfl, rfl⟩
    · have hs : Alike me { me with settings := t } := { Alike.refl me with }
      have ha := hs.trans (applyLocalSettings_alike { me with settings := t })
      dsimp only
      rcases hx : ({ me with settings := t } : Inner).applyLocalSettings with ⟨u, _ | err⟩
      all_goals
        rw [hx] at ha
        exact ⟨u, Moves.admin ha, .inl rfl, ha.peerWindow, ha.peerFrame⟩

/-! ### PING and GOAWAY -/

theorem recvPing_moves (me : Inner) (frame : Ping) :
    Moves (· = .phase2) me (me.recvPing frame).1 := by
  unfold recvPing
  dsimp only
  split
  · exact Moves.common (.ctrl rfl) rfl
  · split
    · exact .refl
    · next h =>
      simp only [ne_eq, Bool.not_eq_true', Bool.not_eq_true, not_or, Decidable.not_not,
        Bool.not_eq_false] at h
      exact Moves.one (.phase2 h.1 h.2.2.2) rfl

/-- The streams a GOAWAY drops: a client's, above the id it names, when it does not raise the
id of an earlier one. -/
def dropped (me : Inner) (frame : GoAway) : List Nat :=
  if me.role = .client ∧ ¬me.goawayLastId.any (frame.lastStreamId > ·) then
    me.streamsAbove frame.lastStreamId
  else []

/-- The kinds a GOAWAY can add. -/
def goAwayKinds (frame : GoAway) (me : Inner) (k : Kind) : Prop :=
  k = .peerGoaway ∨ forgets (me.dropped frame) me k

theorem recvGoAway_moves (me : Inner) (frame : GoAway) :
    Moves (goAwayKinds frame me) me (me.recvGoAway frame).1 := by
  unfold recvGoAway
  dsimp only
  split
  · exact .refl
  · next hn =>
    have hg : Moves (goAwayKinds frame me) me { me with
        goawayLastId := some frame.lastStreamId
        goaway := some ⟨frame.lastStreamId, frame.errorCode, frame.debugData⟩ } :=
      Moves.one .peerGoaway (.inl rfl)
    split
    · exact hg
    · next hr =>
      have hd : me.dropped frame = me.streamsAbove frame.lastStreamId := if_pos ⟨hr, hn⟩
      have ha := abortAll_moves { me with
        goawayLastId := some frame.lastStreamId
        goaway := some ⟨frame.lastStreamId, frame.errorCode, frame.debugData⟩ }
        (some frame.errorCode) (me.streamsAbove frame.lastStreamId)
      exact hg.trans (ha.mono fun k hk => .inr (hd ▸ hk))

end Httpunk.H2.Inner
