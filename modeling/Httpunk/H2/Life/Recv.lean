import Httpunk.H2.Life.Effect

/-!
# H2 — Life — Recv

The dispatch entry points as touches, with the marks each frame can add to the common ones.  The
receive half of a stream ends by a frame with END_STREAM, a reset, or a GOAWAY that drops it.
-/

namespace Httpunk.H2.Inner

open Runs (Reach)

variable {extra : Mark → Prop} {me : Inner} {sid : Nat} {e : StreamEntry}

/-! ### Target resolution -/

theorem recvLookup_touches (me : Inner) (sid : Nat) :
    Touches extra me (me.recvLookup sid).1 := by
  unfold recvLookup
  split
  · split
    · exact .refl
    · split
      · exact dropClosedStored_touches me sid
      · exact .refl
  · have hr : Touches extra me (me.inResetStore sid).1 := Touches.still (me.inResetStore_still sid)
    dsimp only
    split
    · exact hr
    · split
      · exact hr
      · split <;> exact hr

theorem not_receiving_of_closed {c : StreamEntry} (hc : c.state.recvDone = true)
    (he : me.streams.lookup sid = some c) : ¬me.Receiving sid := by
  rintro ⟨e', he', hr, -⟩
  rw [he] at he'
  cases he'
  rw [hc] at hr
  cases hr

theorem not_receiving_of_none (hn : me.streams.lookup sid = none) : ¬me.Receiving sid := by
  rintro ⟨e', he', -, -⟩
  rw [hn] at he'
  cases he'

theorem ensureNotIdle_error {err : Err} (h : me.ensureNotIdle sid = .error err) :
    err.ofConn = true := by
  unfold ensureNotIdle at h
  dsimp only at h
  split at h <;> split at h <;> cases h <;> rfl

/-! ### HEADERS -/

/-- The length known after the head `f`. -/
def lengthAfter (f : Headers) (c : ContentLength) : ContentLength :=
  match f.contentLength with
  | none => c
  | some n => c.set n

/-- The declared length of the head `f` stands: it is a number, and where the head ends the
message too, a length above zero comes with a status that allows it. -/
def LengthOk (f : Headers) (c : ContentLength) : Prop :=
  f.contentLengthInvalid = false ∧ ∀ n, f.contentLength = some n → c.isHead = false →
    f.endStream = true → 0 < n → f.status = some 204 ∨ f.status = some 304

theorem lengthAfter_of_isHead {f : Headers} {c : ContentLength} (h : c.isHead = true) :
    lengthAfter f c = c := by
  cases c <;> cases h
  unfold lengthAfter
  split <;> rfl

/-- The declared length is checked and stored. -/
theorem applyContentLength_spec (f : Headers) (he : me.streams.lookup sid = some e) :
    ∃ s r, me.applyContentLength sid f = (s, r) ∧ Touches (· = .declare sid) me s ∧
      (r = none → LengthOk f e.contentLength ∧
        s.streams.lookup sid = some { e with contentLength := lengthAfter f e.contentLength }) ∧
      ∀ err, r = some err → err = streamErr sid .protocolError := by
  unfold applyContentLength LengthOk
  rw [he]
  dsimp only
  split
  · exact ⟨_, _, rfl, .refl, by nofun, fun err h => by cases h; rfl⟩
  · next hinv =>
    have hinv' : f.contentLengthInvalid = false := by simpa using hinv
    split
    · next hh =>
      refine ⟨_, _, rfl, .refl, fun _ => ⟨⟨hinv', fun n _ hn => ?_⟩, ?_⟩, by nofun⟩
      · rw [hh] at hn
        cases hn
      · rw [lengthAfter_of_isHead hh]
        exact he
    · split
      · next hn =>
        refine ⟨_, _, rfl, .refl, fun _ => ⟨⟨hinv', fun n h => ?_⟩, ?_⟩, by nofun⟩
        · rw [hn] at h
          cases h
        · rw [lengthAfter, hn]
          exact he
      · next cl hcl =>
        have h : Touches (· = .declare sid) me
            (me.setStream sid { e with contentLength := e.contentLength.set cl }) :=
          Touches.one (.declare he) rfl
        split
        · exact ⟨_, _, rfl, h, by nofun, fun err h => by cases h; rfl⟩
        · next hok =>
          refine ⟨_, _, rfl, h, fun _ => ⟨⟨hinv', fun n h _ hes h0 => ?_⟩, ?_⟩, by nofun⟩
          · rw [hcl] at h
            cases h
            simpa [hes, h0, or_iff_not_imp_left] using hok
          · rw [lengthAfter, hcl]
            exact AList.lookup_insert _

/-- The marks of a stream that is answered and ended at once. -/
def rejectMarks (sid : Nat) (m : Mark) : Prop := m = .turn sid ∨ m = .ends sid

/-- An over-size request is answered and ended, or not touched. -/
theorem rejectOversizeRequest_spec (me : Inner) (sid : Nat) :
    Touches (rejectMarks sid) me (me.rejectOversizeRequest sid).1 ∧
      ((∃ (m : Inner) (flags : Flags),
        me.rejectOversizeRequest sid = ((m.closeStream sid).1, .ok flags) ∧
          ∀ e, me.streams.lookup sid = some e → e.finished = false → e.recvUnreleased = 0 →
            e.dataBudgetCharged = 0 → (m.closeStream sid).1.streams.lookup sid = none) ∨
        ∃ err, me.rejectOversizeRequest sid = (me, .error err) ∧ err.ofConn = true) := by
  unfold rejectOversizeRequest
  split
  · exact ⟨.refl, .inr ⟨_, rfl, rfl⟩⟩
  · next e he =>
    split
    · exact ⟨.refl, .inr ⟨_, rfl, rfl⟩⟩
    · next st hst =>
      have hm : Touches (rejectMarks sid) me ((me.setStream sid { e with state := st }).emit
          (.headers sid (.response 431 []) true)) :=
        (Touches.one (.turn he (State.sendOpen_later hst) (State.sendOpen_recvSide hst))
          (.inl rfl)).trans (Touches.still (.emit _ _))
      dsimp only
      refine ⟨Reach.trans ?_ (closeStream_touches _ sid), .inl ⟨_, _, rfl, fun e₁ h₁ hf hu hd => ?_⟩⟩
      rotate_left
      · rw [he] at h₁
        cases h₁
        -- answered in full, or reset
        split
        · refine lookup_closeStream (e := { e with
            state := st.setReset sid .protocolError .library }) ?_ rfl hf hu hd
          rw [enqueueResetExpiration_streams]
          exact AList.lookup_insert _
        · next hc =>
          exact lookup_closeStream (e := { e with state := st }) (AList.lookup_insert _)
            (by simpa using hc) hf hu hd
      split
      · generalize hm₁ : (me.setStream sid { e with state := st }).emit
          (.headers sid (.response 431 []) true) = m at hm ⊢
        have hl : m.streams.lookup sid = some { e with state := st } :=
          hm₁ ▸ AList.lookup_insert _
        have hs : Touch m (.ends sid)
            (m.setStream sid { e with state := st.setReset sid .protocolError .library }) :=
          .ends (e := { e with state := st }) hl (.of_isClosed rfl)
        exact ((hm.trans (Touches.one hs (.inr rfl))).trans (Touches.still (.emit _ _))).trans
          (Touches.still (enqueueResetExpiration_still _ sid))
      · exact hm

/-- The marks of a head received on a live stream. -/
def headMarks (sid : Nat) (m : Mark) : Prop := m = .declare sid ∨ m = .begins sid

/-- The marks of a HEADERS frame. -/
def openMarks (sid : Nat) (m : Mark) : Prop :=
  m = .opened sid ∨ headMarks sid m ∨ rejectMarks sid m

/-- Those of them that close nothing. -/
def calmMarks (sid : Nat) (m : Mark) : Prop := m = .opened sid ∨ m = .declare sid

theorem calmMarks_calm {m : Mark} {k : Nat} (hm : calmMarks sid m) : ¬m.closes k := by
  rcases hm with rfl | rfl <;> rintro (h | h) <;> cases h

theorem openMarks_of_calm {m : Mark} (hm : calmMarks sid m) : openMarks sid m :=
  hm.imp id fun h => .inl (.inl h)

/-- **What a HEADERS frame leaves.** -/
inductive HeadersOutcome (me : Inner) (f : Headers) :
    Inner × Except Err RecvHeadersVerdict → Prop where
  /-- An error of the connection. -/
  | broken {s : Inner} {err : Err} (h : Touches (calmMarks f.streamId) me s)
      (he : err.ofConn = true) : HeadersOutcome me f (s, .error err)
  /-- An error of the stream. -/
  | refused {s : Inner} {code : Reason} (h : Touches (openMarks f.streamId) me s)
      (hr : ¬me.Used f.streamId ∨ NoReset me s f.streamId) :
      HeadersOutcome me f (s, .error (streamErr f.streamId code))
  /-- Nobody reads it. -/
  | ignored {s : Inner} {flags : Flags} (h : Touches Mark.nothing me s)
      (hn : ¬me.Receiving f.streamId) :
      HeadersOutcome me f (s, .ok ⟨.ignored, none, f.streamId, false, flags⟩)
  /-- An over-size request, answered and ended. -/
  | rejected {m : Inner} {flags : Flags}
      (h : Touches (openMarks f.streamId) me (m.closeStream f.streamId).1)
      (hr : me.role = .server) (hn : ¬me.Used f.streamId)
      (hl : (m.closeStream f.streamId).1.streams.lookup f.streamId = none) :
      HeadersOutcome me f ((m.closeStream f.streamId).1,
        .ok ⟨.ignored, none, f.streamId, false, flags⟩)
  /-- A new request. -/
  | opened {s : Inner} {st : State} {e : StreamEntry} {flags : Flags}
      (h : Touches (calmMarks f.streamId) me s) (hr : me.role = .server)
      (hn : ¬me.Used f.streamId) (hst : State.idle.recvOpen f.endStream false = .ok st)
      (hok : LengthOk f .omitted) (he : s.streams.lookup f.streamId = some e)
      (hs : e.state = st ∧ e.finished = false ∧ e.contentLength = lengthAfter f .omitted) :
      HeadersOutcome me f (s, .ok ⟨.opened, some f.streamId, f.streamId, f.endStream, flags⟩)
  /-- An interim head. -/
  | interim {m : Inner} {st : State} {e : StreamEntry} {flags : Flags}
      (he : me.streams.lookup f.streamId = some e) (hw : e.state.isRecvHeaders = true)
      (hc : e.state.isClosed = false) (hst : e.state.recvOpen false true = .ok st)
      (hes : f.endStream = false) (h : Touches (headMarks f.streamId) me m)
      (hl : m.streams.lookup f.streamId = some
        { e with state := st, contentLength := lengthAfter f e.contentLength }) :
      HeadersOutcome me f (m, .ok ⟨.ignored, none, f.streamId, false, flags⟩)
  /-- The head of the response. -/
  | head {m : Inner} {st : State} {e : StreamEntry} {flags : Flags}
      (he : me.streams.lookup f.streamId = some e) (hw : e.state.isRecvHeaders = true)
      (hc : e.state.isClosed = false) (hst : e.state.recvOpen f.endStream false = .ok st)
      (h : Touches (fun k => headMarks f.streamId k ∨
        f.endStream = true ∧ k = .ends f.streamId) me m)
      (hok : LengthOk f e.contentLength)
      (hl : m.streams.lookup f.streamId = some
        { e with state := st, contentLength := lengthAfter f e.contentLength }) :
      HeadersOutcome me f ((if f.endStream then m.closeStream f.streamId else (m, .none)).1,
        .ok ⟨.head, some f.streamId, f.streamId, f.endStream, flags⟩)
  /-- The trailers, which end the message. -/
  | trailers {st : State} {e : StreamEntry} {flags : Flags}
      (he : me.streams.lookup f.streamId = some e) (hw : e.state.isRecvHeaders = false)
      (hc : e.state.isClosed = false) (hst : e.state.recvClose = .ok st)
      (hes : f.endStream = true) (hl : e.contentLength.isSatisfied = true) :
      HeadersOutcome me f
        (((me.setStream f.streamId { e with state := st }).closeStream f.streamId).1,
          .ok ⟨.trailers, some f.streamId, f.streamId, true, flags⟩)

theorem HeadersOutcome.touches {f : Headers} {r : Inner × Except Err RecvHeadersVerdict}
    (h : HeadersOutcome me f r) : Touches (openMarks f.streamId) me r.1 := by
  cases h with
  | broken h _ => exact h.mono fun _ => openMarks_of_calm
  | refused h _ => exact h
  | ignored h _ => exact h.weaken
  | rejected h _ _ _ => exact h
  | opened h _ _ _ _ _ _ => exact h.mono fun _ => openMarks_of_calm
  | interim _ _ _ _ _ h _ => exact h.mono fun m hm => .inr (.inl hm)
  | @head m st e flags he hw hc hst h hok hl =>
      have hm : Touches (openMarks f.streamId) me m := h.mono fun m hm =>
        hm.elim (fun hm => .inr (.inl hm)) fun hm => .inr (.inr (.inr hm.2))
      dsimp only
      split
      · exact hm.trans (closeStream_touches _ _)
      · exact hm
  | trailers he _ _ hst _ _ =>
      have hends : Touches (openMarks f.streamId) _ _ :=
        Touches.one (.ends he (State.recvClose_later hst)) (.inr (.inr (.inr rfl)))
      exact hends.trans (closeStream_touches _ _)

/-- A HEADERS frame of a stream the server does not hold, after what only tidied up. -/
theorem recvRequest_outcome {me₀ : Inner} (h : me.Wf) (h₀ : Touches Mark.nothing me₀ me)
    (frame : Headers) (spare : Bool) (before : Nat) (flags : Flags) (hr : me.role = .server)
    (hnr : ¬me₀.Receiving frame.streamId) :
    HeadersOutcome me₀ frame (me.recvRequest frame spare before flags) := by
  have hr₀ : me₀.role = .server := h₀.keeps.role.symm.trans hr
  unfold recvRequest
  dsimp only
  split
  · exact .ignored h₀ hnr
  · split
    · exact .broken h₀.weaken rfl
    · next hs =>
      simp only [Bool.or_eq_true, Bool.not_eq_true', decide_eq_true_eq, not_or, Nat.not_le,
        Bool.not_eq_false] at hs
      have hnew : ¬me.Used frame.streamId := by
        simp only [Used, hr]
        omega
      have hnew₀ : ¬me₀.Used frame.streamId := fun hu => hnew (h₀.keeps.used hu)
      have hup : ∀ {k}, me.Used k → ({ me with lastRecvId := frame.streamId } : Inner).Used k := by
        intro k hk
        simp only [Used, hr] at hk ⊢
        omega
      have hseen : ∀ {x}, Touches x me₀ { me with lastRecvId := frame.streamId } := fun {x} =>
        h₀.weaken.trans (Touches.still { Still.refl me with used := hup })
      split
      · exact .refused hseen (.inl hnew₀)
      · split
        · exact .broken hseen rfl
        · split
          · next err hst => cases hes : frame.endStream <;> rw [hes] at hst <;> cases hst
          · next st hst =>
            have hc : st.isSendClosed = false := by
              rw [State.recvOpen] at hst
              cases hst
              cases frame.endStream <;> rfl
            have ho : Touches (calmMarks frame.streamId) me
                ({ me with lastRecvId := frame.streamId }.insertRequest frame.streamId st) :=
              Touches.one (.accepted hr hs.2 (h.lookup_none_of_not_used hnew) hc) (.inl rfl)
            have hl : ({ me with
                lastRecvId := frame.streamId }.insertRequest frame.streamId st).streams.lookup
                  frame.streamId = some _ := AList.lookup_insert _
            obtain ⟨s, r, hx, hd, hok, herr⟩ := applyContentLength_spec frame hl
            have hd' : Touches (calmMarks frame.streamId) me₀ s :=
              (h₀.weaken.trans ho).trans (hd.mono fun m hm => .inr hm)
            rw [hx]
            cases r with
            | some err =>
                dsimp only
                rw [herr err rfl]
                exact .refused (hd'.mono fun _ => openMarks_of_calm) (.inl hnew₀)
            | none =>
                obtain ⟨hok, hl⟩ := hok rfl
                dsimp only
                split
                · obtain ⟨hrej, ⟨m, flags', hy, hgone⟩ | ⟨err, hy, hconn⟩⟩ :=
                    rejectOversizeRequest_spec s frame.streamId
                  · rw [hy] at hrej ⊢
                    exact .rejected ((hd'.mono fun _ => openMarks_of_calm).trans
                      (hrej.mono fun m hm => .inr (.inr hm))) hr₀ hnew₀
                      (hgone _ hl rfl rfl rfl)
                  · rw [hy]
                    exact .broken hd' hconn
                · exact .opened (hd'.trans (Touches.still { Still.refl s with })) hr₀ hnew₀ hst
                    hok hl ⟨rfl, rfl, rfl⟩

theorem recvHeadersUnknown_outcome {me₀ : Inner} (h : me.Wf) (h₀ : Touches Mark.nothing me₀ me)
    (frame : Headers) (spare : Bool) (before : Nat) (flags : Flags)
    (hnr : ¬me₀.Receiving frame.streamId) :
    HeadersOutcome me₀ frame (me.recvHeadersUnknown frame spare before flags) := by
  have hr : Touches Mark.nothing me₀ (me.inResetStore frame.streamId).1 :=
    h₀.trans (Touches.still (me.inResetStore_still frame.streamId))
  unfold recvHeadersUnknown
  dsimp only
  split
  · exact .ignored hr hnr
  · split
    · split
      · next hi => exact .broken hr.weaken (ensureNotIdle_error hi)
      · exact .refused hr.weaken (.inr hr.noReset_nothing)
    · next hrole =>
      exact recvRequest_outcome (h.alike (me.inResetStore_alike _)) hr frame spare before flags
        hrole hnr

theorem recvHead_outcome (frame : Headers) (before : Nat)
    (he : me.streams.lookup frame.streamId = some e) (hw : e.state.isRecvHeaders = true)
    (hc : e.state.isClosed = false) : HeadersOutcome me frame (me.recvHead frame e before) := by
  unfold recvHead
  dsimp only
  split
  · exact .refused .refl (.inr (.refl _ _))
  · next hinf =>
    split
    · next err hst => exact .broken .refl (by rw [State.recvOpen_error hst]; rfl)
    · next st hst =>
      -- only a frame that ends the message ends the receive half
      have hs : Touches (fun k => headMarks frame.streamId k ∨
          frame.endStream = true ∧ k = .ends frame.streamId) me
          (me.setStream frame.streamId { e with state := st }) := by
        rcases hes : frame.endStream
        · rw [hes] at hst
          obtain ⟨hr, hcl⟩ := State.recvOpen_recvDone hst
          exact Touches.one (.begins he (State.recvOpen_later hst) hr hcl) (.inl (.inr rfl))
        · exact Touches.one (.ends he (State.recvOpen_later hst)) (.inr ⟨rfl, rfl⟩)
      have hl : (me.setStream frame.streamId { e with state := st }).streams.lookup
          frame.streamId = some { e with state := st } := AList.lookup_insert _
      obtain ⟨s, r, hx, hd, hok, herr⟩ := applyContentLength_spec frame hl
      have hall : Touches (fun k => headMarks frame.streamId k ∨
          frame.endStream = true ∧ k = .ends frame.streamId) me s :=
        hs.trans (hd.mono fun m hm => .inl (.inl hm))
      have hopen : Touches (openMarks frame.streamId) me s := hall.mono fun m hm =>
        hm.elim (fun hm => .inr (.inl hm)) fun hm => .inr (.inr (.inr hm.2))
      have hnr : NoReset me s frame.streamId := fun e' he' hreset => by
        obtain ⟨e₁, he₁, hreset⟩ := hd.noReset (k := frame.streamId)
          (by rintro m rfl; exact ⟨nofun, nofun, nofun, nofun⟩) e' he' hreset
        rw [lookup_setStream, if_pos rfl] at he₁
        cases he₁
        exact absurd hreset (State.recvOpen_not_reset hst)
      rw [hx]
      cases r with
      | some err =>
          dsimp only
          rw [herr err rfl]
          exact .refused hopen (.inr hnr)
      | none =>
          obtain ⟨hok, hl⟩ := hok rfl
          dsimp only
          split
          · exact .refused hopen (.inr hnr)
          · split
            · next hi =>
              have hes : frame.endStream = false := by simpa [hi] using hinf
              rw [hi, hes] at hst
              refine .interim he hw hc hst hes (hall.mono fun m hm => ?_) hl
              rcases hm with hm | ⟨hm, -⟩
              · exact hm
              · rw [hes] at hm
                cases hm
            · next hi =>
              rw [Bool.not_eq_true] at hi
              rw [hi] at hst
              split
              · exact .refused hopen (.inr hnr)
              · exact .head he hw hc hst hall hok hl

theorem recvTrailers_outcome (frame : Headers) (before : Nat)
    (he : me.streams.lookup frame.streamId = some e) (hw : e.state.isRecvHeaders = false)
    (hc : e.state.isClosed = false) :
    HeadersOutcome me frame (me.recvTrailers frame e before) := by
  unfold recvTrailers
  dsimp only
  split
  · exact .refused .refl (.inr (.refl _ _))
  · next hes =>
    split
    · next err hst => exact .broken .refl (by rw [State.recvClose_error hst]; rfl)
    · next st hst =>
      split
      · refine .refused (Touches.one (.ends he (State.recvClose_later hst))
          (.inr (.inr (.inr rfl)))) (.inr fun e' he' hreset => ?_)
        rw [lookup_setStream, if_pos rfl] at he'
        cases he'
        rw [State.recvClose_recvSide hst] at hreset
        cases hreset
      · next hl => exact .trailers he hw hc hst (by simpa using hes) (by simpa using hl)

theorem recvHeaders_outcome (h : me.Wf) (frame : Headers) (spare : Bool) :
    HeadersOutcome me frame (me.recvHeaders frame spare) := by
  unfold recvHeaders
  dsimp only
  split
  · next hn => exact recvHeadersUnknown_outcome h .refl frame spare _ _ (not_receiving_of_none hn)
  · next e he =>
    split
    · next hle =>
      refine .ignored .refl (not_receiving_of_closed (c := e) (State.recvDone_of_isClosed ?_) he)
      cases hst : e.state <;> rw [hst] at hle <;> first | rfl | cases hle
    · split
      · next hc =>
        have hnr := not_receiving_of_closed (State.recvDone_of_isClosed hc) he
        have hd : Touches Mark.nothing me (me.dropClosedStored frame.streamId).1 :=
          dropClosedStored_touches me _
        have hw : (me.dropClosedStored frame.streamId).1.Wf := by
          have hm : Moves Kind.nothing me (me.dropClosedStored frame.streamId).1 :=
            dropClosedStored_moves fun e' h' => by
              rw [he] at h'
              cases h'
              exact State.recvDone_of_isClosed hc
          exact hm.wf h
        split
        · exact .refused hd.weaken (.inr hd.noReset_nothing)
        · exact recvHeadersUnknown_outcome hw hd frame spare _ _ hnr
      · next hc =>
        rw [Bool.not_eq_true] at hc
        split
        · next hw => exact recvHead_outcome frame _ he hw hc
        · next hw => exact recvTrailers_outcome frame _ he (by simpa using hw) hc

/-! ### DATA -/

theorem ignoreData_still (me : Inner) (sz : Nat) : Still me (me.ignoreData sz).1 := by
  unfold ignoreData consumeConnRecv
  rcases fcSendData me.connRecv sz with ⟨fc, _ | r⟩
  · dsimp only [Option.map_none]
    refine Still.trans ?_ (.reclaimConn _ _)
    exact { Still.refl me with }
  · exact { Still.refl me with }

theorem releaseCapacityInner_touches (me : Inner) (sid n : Nat) :
    Touches extra me (me.releaseCapacityInner sid n) := by
  unfold releaseCapacityInner
  split
  · exact .refl
  · next e he =>
    split
    · exact .refl
    · dsimp only
      -- the entry with its receive window moved, kept or removed with its bytes settled
      have settled : ∀ (fc : FlowControl) (m : Inner),
          Still (me.setStream sid
            { e with recvUnreleased := e.recvUnreleased - n, recvFlow := fc }) m →
          Touches extra me ((m.reclaimConn n).maybeRemoveSettled sid) := fun fc m hm => by
        have ha : Still me (me.setStream sid { e with recvFlow := fc }) :=
          .setStream he { SameLife.refl e with }
        have hk := Touch.settle (s := me.setStream sid { e with recvFlow := fc })
          (n := e.recvUnreleased - n) (c := e.dataBudgetCharged) (r := e.recvReclaimed)
          (AList.lookup_insert _)
        rw [keepStream, setStream_setStream, maybeRemoveSettled_of (AList.lookup_insert _)] at hk
        have hm' := hm.trans (.reclaimConn m n)
        obtain ⟨e', he', hs⟩ := hm'.stored (k := sid) (AList.lookup_insert _)
        refine ((Touches.still ha).trans (Touches.common hk rfl)).trans (Touches.still ?_)
        rw [maybeRemoveSettled_of he', hs.finished, hs.recvUnreleased, hs.dataBudgetCharged]
        dsimp only
        split
        · exact hm'.erase sid
        · exact hm'
      split
      · exact settled _ _ (.refl _)
      · next u _ =>
        split
        · exact settled ((e.recvFlow.assignCapacity n).1.incWindow u).1 _ (.emit _ _)
        · exact settled _ _ (.refl _)

theorem recordDataFrame_touches (me : Inner) (sid n : Nat)
    (hf : ∀ e, me.streams.lookup sid = some e → e.finished = false) :
    Touches (· = .fill sid) me (me.recordDataFrame sid n).1 := by
  unfold recordDataFrame
  split
  · exact Touches.still { Still.refl me with }
  · next b charge _ =>
    have hb : Still me { me with dataBudget := b } := { Still.refl me with }
    dsimp only
    split
    · exact Touches.still hb
    · next e he =>
      have ht := Touch.fill (s := { me with dataBudget := b }) (n := e.recvUnreleased)
        (c := e.dataBudgetCharged + charge) he (hf e he)
      exact (Touches.still hb).trans (Touches.one ht rfl)

/-- The marks of a DATA frame that is counted. -/
def fillMarks (f : Data) (m : Mark) : Prop := m = .fill f.streamId ∨ m = .declare f.streamId

theorem fillMarks_calm {f : Data} {m : Mark} {k : Nat} (hm : fillMarks f m) : ¬m.closes k := by
  rcases hm with rfl | rfl <;> rintro (h | h) <;> cases h

/-- The marks of a DATA frame. -/
def dataMarks (f : Data) (m : Mark) : Prop :=
  fillMarks f m ∨ f.endStream = true ∧ m = .ends f.streamId

/-- A DATA frame counted on its stream: its payload is within the declared length, and the
stream `m` leaves receives as before. -/
structure Counted (me : Inner) (f : Data) (m : Inner) : Prop where
  touches : Touches (fillMarks f) me m
  entry : ∃ e e', me.streams.lookup f.streamId = some e ∧
    m.streams.lookup f.streamId = some e' ∧ e.state.isRecvStreaming = true ∧
    e.finished = false ∧ e'.state.recvSide = e.state.recvSide ∧ e'.finished = false ∧
    e.contentLength.dec f.data.length = some e'.contentLength

/-- **What a DATA frame leaves.** -/
inductive DataOutcome (me : Inner) (f : Data) : Inner × Except Err RecvDataVerdict → Prop where
  /-- An error of the connection. -/
  | broken {s : Inner} {err : Err} (h : Touches (fillMarks f) me s) (he : err.ofConn = true) :
      DataOutcome me f (s, .error err)
  /-- An error of the stream. -/
  | refused {s : Inner} {code : Reason} (h : Touches (fillMarks f) me s) :
      DataOutcome me f (s, .error (streamErr f.streamId code))
  /-- Nobody reads it. -/
  | ignored {s : Inner} {flags : Flags} (h : Touches Mark.nothing me s)
      (hn : ¬me.Receiving f.streamId) : DataOutcome me f (s, .ok (.swallowed flags))
  | empty {s : Inner} {flags : Flags} (h : Counted me f s) (hd : f.data = [])
      (hes : f.endStream = false) : DataOutcome me f (s, .ok (.swallowed flags))
  | taken {s : Inner} {flags : Flags} (h : Counted me f s) (hd : f.data ≠ [])
      (hes : f.endStream = false) :
      DataOutcome me f (s, .ok ⟨some f.streamId, some f.data, true, false, flags⟩)
  | ended {m : Inner} {e : StreamEntry} {st : State} {flags : Flags} (h : Counted me f m)
      (hes : f.endStream = true) (he : m.streams.lookup f.streamId = some e)
      (hl : e.contentLength.isSatisfied = true) (hst : e.state.recvClose = .ok st) :
      DataOutcome me f (((m.setStream f.streamId { e with state := st }).closeStream f.streamId).1,
        .ok ⟨some f.streamId, some f.data, false, true, flags⟩)

theorem DataOutcome.touches {f : Data} {r : Inner × Except Err RecvDataVerdict}
    (h : DataOutcome me f r) : Touches (dataMarks f) me r.1 := by
  cases h with
  | broken h _ => exact h.mono fun _ hm => .inl hm
  | refused h => exact h.mono fun _ hm => .inl hm
  | ignored h _ => exact h.weaken
  | empty h _ _ => exact h.touches.mono fun _ hm => .inl hm
  | taken h _ _ => exact h.touches.mono fun _ hm => .inl hm
  | ended h hes he _ hst =>
      have hends : Touches (dataMarks f) _ _ :=
        Touches.one (.ends he (State.recvClose_later hst)) (.inr ⟨hes, rfl⟩)
      exact ((h.touches.mono fun _ hm => .inl hm).trans hends).trans (closeStream_touches _ _)

theorem record_error {c : DataFrameCounts} {n : Nat} {b : DataFrameCounts} {err : Err}
    (h : c.record n = (b, .error err)) : err.ofConn = true := by
  unfold DataFrameCounts.record at h
  split at h
  · dsimp only at h
    split at h <;> cases h
    rfl
  · split at h
    · dsimp only at h
      split at h <;> cases h
      rfl
    · exact absurd (congrArg Prod.snd h) (by nofun)

theorem recordDataFrame_error {n : Nat} {err : Err}
    (h : (me.recordDataFrame sid n).2 = some err) : err.ofConn = true := by
  unfold recordDataFrame at h
  split at h
  · next hb =>
    cases h
    exact record_error hb
  · dsimp only at h
    split at h <;> cases h

/-- The delivery of a payload that is within the windows and the declared length. -/
theorem deliverData_outcome (frame : Data) (e' : StreamEntry) (before : Nat)
    (he : me.streams.lookup frame.streamId = some e) (hf : e.finished = false)
    (hs : e.state.isRecvStreaming = true) (hl : SameLife e e')
    (hsat : frame.endStream = true → e.contentLength.isSatisfied = true) {s : Inner}
    (hcount : ∀ m e₂, Touches (· = .fill frame.streamId) me m →
      m.streams.lookup frame.streamId = some e₂ → e₂.state.recvSide = e.state.recvSide →
      e₂.finished = false → e₂.contentLength = e.contentLength → Counted s frame m) :
    DataOutcome s frame (me.deliverData frame e' before) := by
  have hr : e.state.recvDone = false := by
    by_contra hd
    rw [State.isRecvStreaming_of_recvDone (by simpa using hd)] at hs
    cases hs
  have hfillMark : ∀ m, m = Mark.fill frame.streamId → ¬m.receives frame.streamId := by
    rintro m rfl
    rintro (h | h | h) <;> cases h
  unfold deliverData
  dsimp only
  -- the unread bytes are counted, then the padding goes back
  have hstill : Still me (me.setStream frame.streamId e') := .setStream he hl
  have hfill := Touch.fill (s := me.setStream frame.streamId e')
    (n := (e'.recvUnreleased + frame.flowControlledLen) % 2 ^ 32) (c := e'.dataBudgetCharged)
    (AList.lookup_insert _) (hl.finished.trans hf)
  rw [setStream_setStream] at hfill
  generalize me.setStream frame.streamId
    { e' with recvUnreleased := (e'.recvUnreleased + frame.flowControlledLen) % 2 ^ 32 } = m
    at hfill ⊢
  have h₀ : Touches (· = .fill frame.streamId) me m :=
    (Touches.still hstill).trans (Touches.one hfill rfl)
  have h₁ : Touches (· = .fill frame.streamId) me
      (if frame.padding > 0 then m.releaseCapacityInner frame.streamId frame.padding else m) := by
    split
    · exact h₀.trans (releaseCapacityInner_touches m _ _)
    · exact h₀
  generalize (if frame.padding > 0 then m.releaseCapacityInner frame.streamId frame.padding
    else m) = m₁ at h₁ ⊢
  obtain ⟨e₁, he₁, -, hf₁, -⟩ := h₁.steady he hr hf hfillMark
  -- the framing budget is charged
  have h₂ : Touches (· = .fill frame.streamId) me (if (!frame.endStream) = true then
      m₁.recordDataFrame frame.streamId frame.data.length else (m₁, none)).1 := by
    split
    · refine h₁.trans (recordDataFrame_touches m₁ _ _ fun e'' h'' => ?_)
      rw [h''] at he₁
      cases he₁
      exact hf₁
    · exact h₁
  have hbudget : ∀ err, (if (!frame.endStream) = true then
      m₁.recordDataFrame frame.streamId frame.data.length else (m₁, none)).2 = some err →
      err.ofConn = true := by
    intro err herr
    split at herr
    · exact recordDataFrame_error herr
    · cases herr
  generalize (if (!frame.endStream) = true then
    m₁.recordDataFrame frame.streamId frame.data.length else (m₁, none)) = charged
    at h₂ hbudget ⊢
  obtain ⟨m₂, err⟩ := charged
  obtain ⟨e₂, he₂, hst₂, hf₂, hl₂⟩ := h₂.steady he hr hf hfillMark
  have hc := hcount m₂ e₂ h₂ he₂ hst₂ hf₂ hl₂
  cases err with
  | some err => exact .broken hc.touches (hbudget err rfl)
  | none =>
    dsimp only
    cases hes : frame.endStream with
    | false =>
      rcases hd : frame.data.isEmpty
      · exact .taken hc (by simpa using hd) hes
      · exact .empty hc (by simpa using hd) hes
    | true =>
      have hs₂ : e₂.state.isRecvStreaming = true := by
        rw [State.isRecvStreaming_iff, hst₂]
        exact State.isRecvStreaming_iff.mp hs
      obtain ⟨st, hst⟩ := State.recvClose_of_isRecvStreaming hs₂
      simp only [Bool.not_true, Bool.false_and, Bool.false_eq_true, if_false, if_true, he₂, hst]
      exact .ended hc hes he₂ (hl₂ ▸ hsat hes) hst

theorem consumeConnRecv_still (me : Inner) (sz : Nat) : Still me (me.consumeConnRecv sz).1 :=
  { Still.refl me with }

theorem consumeConnRecv_error {sz : Nat} {err : Err}
    (h : (me.consumeConnRecv sz).2 = some err) : err.ofConn = true := by
  obtain ⟨r, -, rfl⟩ := Option.map_eq_some_iff.mp h
  rfl

theorem recvDataOn_outcome (frame : Data) (before : Nat)
    (he : me.streams.lookup frame.streamId = some e) (hf : e.finished = false)
    (hs : e.state.isRecvStreaming = true) :
    DataOutcome me frame (me.recvDataOn frame e before) := by
  unfold recvDataOn
  dsimp only
  have hc := consumeConnRecv_still me frame.flowControlledLen
  split
  · next s err hx =>
    rw [hx] at hc
    exact .broken (Touches.still hc) (consumeConnRecv_error (by rw [hx]))
  · next s hx =>
    rw [hx] at hc
    have hs₀ : s.streams.lookup frame.streamId = some e := by
      have hstr : s.streams = me.streams := congrArg (fun r => r.1.streams) hx.symm
      rw [hstr]
      exact he
    -- a frame that is refused past the connection's window goes back to it
    have refused : ∀ m code, Touches (fillMarks frame) me m →
        DataOutcome me frame (m.reclaimConn frame.flowControlledLen,
          .error (streamErr frame.streamId code)) := fun m code hm =>
      .refused (hm.trans (Touches.still (.reclaimConn _ _)))
    have flow : ∀ fc : FlowControl, Still me (s.setStream frame.streamId
        { e with recvFlow := fc }) := fun fc =>
      hc.trans (.setStream hs₀ { SameLife.refl e with })
    split
    · exact refused _ _ (Touches.still (flow _))
    · next fc _ =>
      split
      · exact refused _ _ (Touches.still (flow _))
      · next cl hcl =>
        have hdec : Touches (fillMarks frame) me (s.setStream frame.streamId
            { e with recvFlow := fc, contentLength := cl }) := by
          have hl : (s.setStream frame.streamId { e with recvFlow := fc }).streams.lookup
              frame.streamId = some { e with recvFlow := fc } := AList.lookup_insert _
          have hd := @Touch.declare _ _ _ cl hl
          rw [setStream_setStream] at hd
          exact (Touches.still (flow _)).trans (Touches.one hd (.inr rfl))
        split
        · exact refused _ _ hdec
        · next hend =>
          have heq : (s.setStream frame.streamId
              { e with recvFlow := fc, contentLength := cl }).deliverData frame
                { e with recvFlow := fc, contentLength := cl } before =
              s.deliverData frame { e with recvFlow := fc, contentLength := cl } before := by
            unfold deliverData
            dsimp only
            rw [setStream_setStream]
          rw [← heq]
          refine deliverData_outcome frame _ before
            (e := { e with recvFlow := fc, contentLength := cl }) (AList.lookup_insert _) hf hs
            (.refl _) (fun hes => ?_) fun m e₂ hm he₂ hst hf₂ hl₂ => ?_
          · simpa [hes] using hend
          · exact ⟨hdec.trans (hm.mono fun _ h => .inl h), e, e₂, he, he₂, hs, hf, hst, hf₂,
              by rw [hcl, hl₂]⟩

/-- A frame on a stream that is not received. -/
theorem recvLookup_not {me' : Inner} {r : Except Err (Option Nat)}
    (h : me.recvLookup sid = (me', r)) (hr : r = .ok none ∨ ∃ err, r = .error err) :
    ¬me.Receiving sid := by
  unfold recvLookup at h
  split at h
  · next e he =>
    refine not_receiving_of_closed (c := e) ?_ he
    by_contra hd
    have hcl : e.state.isClosed = false := by
      by_contra hcl
      exact hd (State.recvDone_of_isClosed (by simpa using hcl))
    have hle : e.state.isLocalError = false := by
      cases hst : e.state <;> rw [hst] at hcl <;> first | rfl | cases hcl
    rw [if_neg (by rw [hle]; decide), if_neg (by rw [hcl]; decide)] at h
    cases h
    rcases hr with hr | ⟨_, hr⟩ <;> cases hr
  · next hn => exact not_receiving_of_none hn

/-- The errors of a lookup. -/
theorem recvLookup_error {me' : Inner} {err : Err}
    (h : me.recvLookup sid = (me', .error err)) :
    err = streamErr sid .streamClosed ∨ err.ofConn = true := by
  unfold recvLookup at h
  split at h
  · split at h
    · cases h
    · split at h <;> cases h
      exact .inl rfl
  · dsimp only at h
    split at h
    · cases h
    · split at h
      · cases h
      · split at h
        · next hi =>
          cases h
          exact .inr (ensureNotIdle_error hi)
        · cases h
          exact .inl rfl

theorem ignoreData_error {sz : Nat} {err : Err} (h : (me.ignoreData sz).2 = some err) :
    err.ofConn = true := by
  unfold ignoreData at h
  split at h
  · next hx =>
    cases h
    exact consumeConnRecv_error (by rw [hx])
  · cases h

theorem recvData_outcome (h : me.Wf) (frame : Data) :
    DataOutcome me frame (me.recvData frame) := by
  have hlook : Touches Mark.nothing me (me.recvLookup frame.streamId).1 :=
    recvLookup_touches me frame.streamId
  unfold recvData
  dsimp only
  split
  · next me' err hr =>
    rw [hr] at hlook
    have hi : Touches Mark.nothing me (me'.ignoreData frame.flowControlledLen).1 :=
      hlook.trans (Touches.still (me'.ignoreData_still frame.flowControlledLen))
    split
    · next hx =>
      rw [hx] at hi
      exact .broken hi.weaken (ignoreData_error (by rw [hx]))
    · next hx =>
      rw [hx] at hi
      rcases recvLookup_error hr with rfl | he
      · exact .refused hi.weaken
      · exact .broken hi.weaken he
  · next me' hr =>
    rw [hr] at hlook
    have hi : Touches Mark.nothing me (me'.ignoreData frame.flowControlledLen).1 :=
      hlook.trans (Touches.still (me'.ignoreData_still frame.flowControlledLen))
    split
    · next hx =>
      rw [hx] at hi
      exact .broken hi.weaken (ignoreData_error (by rw [hx]))
    · next hx =>
      rw [hx] at hi
      exact .ignored hi (recvLookup_not hr (.inl rfl))
  · next me' k hr =>
    obtain ⟨rfl, rfl, e, he, hc⟩ := recvLookup_found hr
    rw [he]
    dsimp only
    split
    · exact .broken .refl rfl
    · next hs =>
      have hs' : e.state.isRecvStreaming = true := by simpa using hs
      refine recvDataOn_outcome frame _ he ?_ hs'
      by_contra hf
      rw [h.finished he (by simpa using hf)] at hc
      cases hc

/-! ### WINDOW_UPDATE and RST_STREAM -/

theorem recvWindowUpdate_still (me : Inner) (frame : WindowUpdate) :
    Still me (me.recvWindowUpdate frame).1 := by
  unfold recvWindowUpdate
  dsimp only
  split
  · rcases me.connSend.grant frame.increment with ⟨fc, _ | r⟩
    · have hc : Still me { me with connSend := fc } := { Still.refl me with }
      exact (hc.trans (admitCapacityFront_still _)).trans (sendFront_still _)
    · exact { Still.refl me with }
  · split
    · split
      · exact .refl _
      · split <;> exact .refl _
    · next e he =>
      split <;> exact .setStream he { SameLife.refl e with }

theorem recvResetOn_touches (frame : RstStream)
    (he : me.streams.lookup frame.streamId = some e) :
    Touches (· = .ends frame.streamId) me (me.recvResetOn frame e).1 := by
  unfold recvResetOn
  dsimp only
  split
  · exact .refl
  · exact (endWith_touches he (State.isClosed_recvReset _ _ _)).trans (closeStream_touches _ _)

theorem recvReset_touches (me : Inner) (frame : RstStream) :
    Touches (· = .ends frame.streamId) me (me.recvReset frame).1 := by
  unfold recvReset
  dsimp only
  split
  · exact .refl
  · split
    · split
      · exact .refl
      · split <;> exact .refl
    · next e he =>
      split
      · split
        · exact .refl
        · have ha : Still me
              { me with remoteResetPending := insert frame.streamId me.remoteResetPending } :=
            { Still.refl me with }
          have hl : ({ me with
              remoteResetPending := insert frame.streamId me.remoteResetPending
              } : Inner).streams.lookup frame.streamId = some e := he
          exact (Touches.still ha).trans (recvResetOn_touches frame hl)
      · exact recvResetOn_touches frame he

/-! ### SETTINGS, PING and GOAWAY -/

theorem scan_still (me : Inner) {f : Nat → StreamEntry → StreamEntry × Option Err}
    (hf : ∀ k e, SameLife e (f k e).1) :
    Still me { me with streams := (Store.scan f me.streams).1 } := by
  refine .streams me (fun {k e} hk => ?_) (fun {k} hk => ?_)
  · rw [Store.scan_eq, Store.lookup_mapVals, hk, Option.map_some]
    refine ⟨_, rfl, ?_⟩
    split
    · exact hf k e
    · exact .refl e
  · rw [Store.scan_eq, Store.lookup_mapVals, hk]
    rfl

theorem applyLocalSettings_still (me : Inner) : Still me me.applyLocalSettings.1 := by
  unfold applyLocalSettings
  split
  · exact { Still.refl me with }
  · next l _ =>
    dsimp only
    split
    · exact { Still.refl me with }
    · next target _ =>
      have ht : Still me { me with limits := l, recvInit := target } := { Still.refl me with }
      split
      · exact ht
      · exact ht.trans (scan_still { me with limits := l, recvInit := target } fun k e =>
          { SameLife.refl e with })

theorem applyRemoteLimits_still (me : Inner) (v : SettingsValues) :
    Still me (me.applyRemoteLimits v).1 := by
  have h₁ : Still me (me.applyHeaderTable v.headerTableSize) := by
    cases v.headerTableSize with
    | none => exact .refl _
    | some n => exact { Still.refl me with }
  have h₂ : ∀ m : Inner, Still m (m.applyMaxFrame v.maxFrameSize).1 := fun m => by
    cases v.maxFrameSize with
    | none => exact .refl _
    | some n =>
      unfold applyMaxFrame
      dsimp only
      split
      · exact .refl _
      · exact { Still.refl m with }
  have h₃ : ∀ m : Inner, Still m (m.applyMaxStreams v.maxConcurrentStreams).1 := fun m => by
    unfold applyMaxStreams
    split
    · exact .refl _
    · dsimp only
      split
      · exact { Still.refl m with }
      · exact { Still.refl m with }
  have h := h₁.trans (h₂ _)
  unfold applyRemoteLimits
  split
  · next hx => rw [hx] at h; exact h
  · next hx => rw [hx] at h; exact h.trans (h₃ _)

theorem resizeSend_same (old new k : Nat) (e : StreamEntry) :
    SameLife e (resizeSend old new k e).1 := by
  unfold resizeSend
  split
  · exact .refl e
  · exact { SameLife.refl e with }

theorem applyInitialWindow_still (me : Inner) (new : Nat) :
    Still me (me.applyInitialWindow new).1 := by
  unfold applyInitialWindow
  dsimp only
  split
  · exact .refl _
  · have hp : Still me { me with peer := { me.peer with initialWindowSize := new } } :=
      { Still.refl me with }
    have h := hp.trans (scan_still { me with peer := { me.peer with initialWindowSize := new } }
      (resizeSend_same me.peer.initialWindowSize new))
    split <;> exact h

theorem recvSettings_still (me : Inner) (frame : SettingsFrame) :
    Still me (me.recvSettings frame).1 := by
  unfold recvSettings
  dsimp only
  split
  · split
    · exact .refl _
    · next t _ =>
      have hs : Still me { me with settings := t } := { Still.refl me with }
      have h := hs.trans (applyLocalSettings_still { me with settings := t })
      split <;> next hx => rw [hx] at h; exact h
  · generalize me.settings.recvRemote = s
    have h₀ : Still me { me.emit .settingsAck with settings := s.1 } :=
      (Still.emit me .settingsAck).trans { Still.refl (me.emit .settingsAck) with }
    have h : Still me
        ({ me.emit .settingsAck with settings := s.1 }.applyRemoteSettings frame.values).1 := by
      have h₁ := h₀.trans
        (applyRemoteLimits_still { me.emit .settingsAck with settings := s.1 } frame.values)
      unfold applyRemoteSettings
      split
      · next hx => rw [hx] at h₁; exact h₁
      · next m flags hx =>
        rw [hx] at h₁
        split
        · exact h₁
        · next new _ =>
          have h₂ := h₁.trans (applyInitialWindow_still m new)
          split <;> next hy => rw [hy] at h₂; exact h₂
    split <;> next hx => rw [hx] at h; exact h

theorem recvPing_still (me : Inner) (frame : Ping) : Still me (me.recvPing frame).1 := by
  unfold recvPing
  dsimp only
  split
  · exact .emit _ _
  · split
    · exact .refl _
    · exact { Still.refl me with }

theorem recvGoAway_touches (me : Inner) (frame : GoAway) :
    Touches (endsOf (me.dropped frame)) me (me.recvGoAway frame).1 := by
  unfold recvGoAway
  dsimp only
  split
  · exact .refl
  · next hn =>
    have hg : Touches (endsOf (me.dropped frame)) me { me with
        goawayLastId := some frame.lastStreamId
        goaway := some ⟨frame.lastStreamId, frame.errorCode, frame.debugData⟩ } :=
      Touches.still { Still.refl me with }
    split
    · exact hg
    · next hr =>
      have hd : me.dropped frame = me.streamsAbove frame.lastStreamId := if_pos ⟨hr, hn⟩
      rw [hd] at hg ⊢
      exact hg.trans (abortAll_touches { me with
        goawayLastId := some frame.lastStreamId
        goaway := some ⟨frame.lastStreamId, frame.errorCode, frame.debugData⟩ }
        (some frame.errorCode) (me.streamsAbove frame.lastStreamId))

end Httpunk.H2.Inner
