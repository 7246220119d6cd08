import Httpunk.H2.Reader.Frames
import Httpunk.H2.Safety.Closed

/-!
# H2 — Reader — Simulation

The driver refines the reader: what a step does to a handle that the application holds is a step
of `Reader`.

* `Feed.reader f k`: the reader of `k`.
* `Feed.reader_step`: a step of the driver is a step of the reader of each surfaced stream.
-/

namespace Httpunk.H2

open Mailbox
open Runs (Reach)
open Httpunk.H2.Inner

namespace Feed

variable {f f' : Feed} {a : Sys.Action} {k : Nat}

/-- The reader of `k`.  The head of a request is handed over with its handle. -/
def reader (f : Feed) (k : Nat) : Reader where
  phase := f.sys.pump.phase k
  side := f.sys.inner.side k
  length := f.sys.inner.lengthOf k
  queue := f.queue k
  head := f.headSet k || f.sys.inner.role = .server
  message := f.message k
  toHead := f.toHead k
  lost := f.lost k

theorem step_sys (h : Step f a f') : Sys.Step f.sys a f'.sys := by
  obtain ⟨s, hs, rfl⟩ := Option.map_eq_some_iff.mp h
  exact hs

/-- The reader of `k` after a step. -/
theorem reader_after (hok : f.sys.Ok) (h : Step f a f') (k : Nat) : f'.reader k = {
    phase := f'.sys.pump.phase k
    side := f'.sys.inner.side k
    length := f'.sys.inner.lengthOf k
    queue := f.queue k ++ itemsOf k (f.sys.signals a)
    head := (f.headSet k || .head k ∈ f.sys.signals a) || f.sys.inner.role = .server
    message := f.messageAfter a k
    toHead := f.toHeadAfter a k
    lost := f.lostAfter a k } := by
  have hrole : f'.sys.inner.role = f.sys.inner.role :=
    (hok.step_touches (step_sys h)).keeps.role
  obtain ⟨s, hs, rfl⟩ := Option.map_eq_some_iff.mp h
  unfold reader
  simp only [← hrole]

theorem toHeadAfter_of (hs : .surfaced k ∉ f.sys.signals a) : f.toHeadAfter a k = f.toHead k := by
  unfold toHeadAfter
  split
  · rw [if_neg hs]
  · rfl

/-- The readers of `k` see nothing. -/
theorem reader_unseen (hok : f.sys.Ok) (h : Step f a f')
    (hu : Unseen f.sys.inner f'.sys.inner k (f.sys.signals a))
    (hm : f.messageAfter a k = f.message k) (hl : f.lostAfter a k = f.lost k)
    (hp : f'.sys.pump.phase k = f.sys.pump.phase k ∨
      f.sys.pump.phase k = .serving ∧ f'.sys.pump.phase k = .ended) :
    Reader.Step (f.reader k) (f'.reader k) := by
  rw [reader_after hok h k, hu.silent.1, decide_eq_false hu.silent.2.1, hm, hl,
    toHeadAfter_of hu.silent.2.2, List.append_nil, Bool.or_false]
  refine Reader.Step.quiet (r := f.reader k) hp ?_ (.inr hu.length)
  rcases hu.side with hs | ⟨hs, hn⟩
  · exact .inl hs
  · exact .inr ⟨hs, fun ⟨half, hx⟩ => hn half hx⟩

/-- The readers of `k` are told. -/
theorem reader_ended (hok : f.sys.Ok) (h : Step f a f')
    (hu : Ended f.sys.inner f'.sys.inner k (f.sys.signals a))
    (hm : f.messageAfter a k = f.message k) (hl : f.lostAfter a k = f.lost k)
    (hp : f'.sys.pump.phase k = f.sys.pump.phase k ∨ f.sys.pump.phase k = .answering) :
    Reader.Step (f.reader k) (f'.reader k) := by
  rw [reader_after hok h k, hm, hl]
  rcases hu with ⟨stop, ⟨hi, hh, hs⟩, hside⟩ | ⟨⟨hi, hh, hs⟩, hb, hside⟩
  · rw [hi, decide_eq_true hh, toHeadAfter_of hs, Bool.or_true, Bool.true_or]
    exact Reader.Step.stopped (r := f.reader k) stop hp hside
  · rw [hi, decide_eq_true hh, toHeadAfter_of hs, Bool.or_true, Bool.true_or]
    exact Reader.Step.again (r := f.reader k) hp hb hside

theorem reader_told (hok : f.sys.Ok) (h : Step f a f')
    (hu : Unseen f.sys.inner f'.sys.inner k (f.sys.signals a) ∨
      Ended f.sys.inner f'.sys.inner k (f.sys.signals a))
    (hm : f.messageAfter a k = f.message k) (hl : f.lostAfter a k = f.lost k)
    (hp : f'.sys.pump.phase k = f.sys.pump.phase k) :
    Reader.Step (f.reader k) (f'.reader k) :=
  hu.elim (fun hu => reader_unseen hok h hu hm hl (.inl hp))
    fun hu => reader_ended hok h hu hm hl (.inl hp)

/-! ### Frames -/

theorem dispatchSignals_error {me : Inner} {fr : Frame} {err : Err}
    (herr : (me.dispatch fr).2 = .error err) : me.dispatchSignals fr = [] := by
  have raised : ∀ {α β : Type} {r : Except Err α} {g : α → β} {sg : α → List Signal},
      r.map g = .error err → okSignals sg r = [] := fun {α β r g sg} h => by
    cases r with
    | error _ => rfl
    | ok _ => cases h
  cases fr with
  | headers f => exact raised herr
  | data f => exact raised herr
  | goAway f => exact raised herr
  | rstStream f => exact raised herr
  | _ => rfl

/-- What a step that dispatches a frame leaves. -/
theorem step_recv {fr : Frame} (h : Step f (.recv fr) f') :
    f.sys.pump = .running ∧ f'.sys.inner = (f.sys.inner.dispatch fr).1 ∧
      ((∃ v, (f.sys.inner.dispatch fr).2 = .ok v) ∧ f'.sys.pump = .running ∨
        ∃ err, (f.sys.inner.dispatch fr).2 = .error err ∧ f'.sys.pump = .caught err) := by
  have hs := step_sys h
  unfold Sys.Step Sys.step at hs
  dsimp only at hs
  split at hs
  · next hp =>
    rw [← Option.some.inj hs]
    refine ⟨hp, Sys.recv_inner _ _, ?_⟩
    unfold Sys.recv
    dsimp only
    rcases hd : (f.sys.inner.dispatch fr).2 with err | v
    · exact .inr ⟨err, rfl, rfl⟩
    · exact .inl ⟨⟨v, rfl⟩, hp⟩
  · cases hs

/-- A frame that raised. -/
theorem reader_raised {fr : Frame} {err : Err} (hok : f.sys.Ok) (h : Step f (.recv fr) f')
    (hu : f.sys.inner.Used k) (herr : (f.sys.inner.dispatch fr).2 = .error err)
    (hpump : f'.sys.pump = .caught err) : Reader.Step (f.reader k) (f'.reader k) := by
  obtain ⟨hp, hin, -⟩ := step_recv h
  have hserve : (f.reader k).phase = .serving := by
    show f.sys.pump.phase k = .serving
    rw [hp]
    rfl
  have hsig : f.sys.signals (.recv fr) = [] := dispatchSignals_error herr
  have hmsg : f.messageAfter (.recv fr) k = f.message k := by
    unfold messageAfter
    dsimp only
    rw [herr]
  have hr := dispatch_error_side hok.wf hu fr herr
  unfold Raised at hr
  rw [← hin, ← hpump] at hr
  rw [reader_after hok h k, hsig, hmsg, show itemsOf k [] = [] from rfl, List.append_nil,
    decide_eq_false (List.not_mem_nil), Bool.or_false, toHeadAfter_of (by rw [hsig]; simp)]
  rcases hr with ⟨hs, hph⟩ | ⟨hph, hreset, hdeaf⟩
  · refine Reader.Step.quiet (r := f.reader k) ?_ ?_ ?_
    · rcases hph with hph | ⟨hph, -⟩
      · exact .inr ⟨hserve, hph⟩
      · exact .inl (hph.trans hserve.symm)
    · exact hs.imp id fun hs => ⟨hs.1, fun ⟨half, hx⟩ => hs.2 half hx⟩
    · exact hph.imp id fun hph => hph.2
  · rw [hph]
    refine Reader.Step.fault (r := f.reader k) hserve (fun ⟨half, hx⟩ => hdeaf half hx) fun hx => ?_
    obtain ⟨e', he', hx⟩ := side_eq_some hx
    obtain ⟨e, he, hx⟩ := hreset e' he' hx
    exact (side_of he).trans (congrArg some hx)

/-- A frame that says nothing of the message of `k`. -/
theorem messageAfter_of {fr : Frame}
    (ht : ∀ b m, f.sys.inner.taken fr b k m = m) : f.messageAfter (.recv fr) k = f.message k := by
  unfold messageAfter
  dsimp only
  split
  · exact ht _ _
  · rfl

theorem itemsOf_eofSignal (k : Nat) (eof : Bool) :
    itemsOf k (eofSignal k eof) = if eof then [.last none] else [] := by
  cases eof <;> simp [eofSignal, itemsOf]

theorem silent_eofSignal {sid : Nat} (eof : Bool) (h : sid ≠ k) :
    Silent k (eofSignal sid eof) := by
  cases eof <;> simp [eofSignal, Silent, itemsOf, h]

/-- A HEADERS frame on another stream. -/
theorem headersSignals_silent {fr : Headers} {r : Inner × Except Err RecvHeadersVerdict}
    {me : Inner} (ho : HeadersOutcome me fr r) (hk : fr.streamId ≠ k) :
    Silent k (okSignals RecvHeadersVerdict.signals r.2) := by
  cases ho with
  | opened _ _ _ _ _ _ _ =>
      obtain ⟨h₁, h₂, h₃⟩ := silent_eofSignal (k := k) fr.endStream hk
      simp [okSignals, RecvHeadersVerdict.signals, Silent, itemsOf] at h₁ h₂ h₃ ⊢
      exact ⟨h₁, h₂, hk.symm, h₃⟩
  | head _ _ _ _ _ _ _ =>
      obtain ⟨h₁, h₂, h₃⟩ := silent_eofSignal (k := k) fr.endStream hk
      simp [okSignals, RecvHeadersVerdict.signals, Silent, itemsOf] at h₁ h₂ h₃ ⊢
      exact ⟨h₁, ⟨hk.symm, h₂⟩, h₃⟩
  | trailers _ _ _ _ _ _ => simp [okSignals, RecvHeadersVerdict.signals, Silent, itemsOf, hk]
  | _ => exact silent_nil k

/-- A step that dispatched a frame without an error. -/
theorem phase_running (hp : f.sys.pump = .running) : (f.reader k).phase = .serving := by
  show f.sys.pump.phase k = .serving
  rw [hp]
  rfl

theorem messageAfter_ok {fr : Frame} {v : Acts} (hv : (f.sys.inner.dispatch fr).2 = .ok v) :
    f.messageAfter (.recv fr) k =
      f.sys.inner.taken fr (.surfaced k ∈ f.sys.signals (.recv fr)) k (f.message k) := by
  unfold messageAfter
  dsimp only
  rw [hv]

/-- The receive side of a stream after `close_stream`, which its message has ended. -/
theorem over_closeStream {m : Inner} {e : StreamEntry} {sid : Nat} (hu : m.Used sid)
    (he : m.streams.lookup sid = some e) (hs : e.state.recvSide = .ended) :
    Reader.Over ((m.closeStream sid).1.side sid) := by
  have hc : Touches Mark.nothing m (m.closeStream sid).1 := closeStream_touches m sid
  have hd : e.state.recvDone = true := by
    by_contra hd
    obtain ⟨half, hx⟩ := State.recvDone_iff.mp (by simpa using hd)
    rw [hs] at hx
    cases hx
  rcases hc.sideOver he hu hd fun _ => Mark.nothing_calm with h | h
  · exact .inl (h.trans (congrArg some hs))
  · exact .inr h

theorem taken_head {me : Inner} {fr : Headers} {b : Bool} {m : Message}
    (hs : me.side fr.streamId = some (.receiving .awaitingHeaders)) :
    me.taken (.headers fr) b fr.streamId m = m.head fr := by
  simp only [taken, ne_eq, not_true_eq_false, if_false, hs]

theorem taken_trailers {me : Inner} {fr : Headers} {b : Bool} {m : Message}
    (hs : me.side fr.streamId = some (.receiving .streaming)) :
    me.taken (.headers fr) b fr.streamId m = { m with complete := fr.endStream } := by
  simp only [taken, ne_eq, not_true_eq_false, if_false, hs]

/-- **HEADERS.** -/
theorem reader_headers {fr : Headers} (hok : f.sys.Ok) (h : Step f (.recv (.headers fr)) f')
    (hu : f.sys.inner.Used k) {v : Acts} (hv : (f.sys.inner.dispatch (.headers fr)).2 = .ok v)
    (hpump : f'.sys.pump = .running) : Reader.Step (f.reader k) (f'.reader k) := by
  obtain ⟨hp, hin, -⟩ := step_recv h
  have hserve := phase_running (k := k) hp
  have hserve' := phase_running (k := k) hpump
  have ho := recvHeaders_outcome hok.wf fr (f.sys.inner.role = .server)
  have hsig : f.sys.signals (.recv (.headers fr)) = okSignals RecvHeadersVerdict.signals
    (f.sys.inner.recvHeaders fr (f.sys.inner.role = .server)).2 := rfl
  have hin' : f'.sys.inner =
    (f.sys.inner.recvHeaders fr (f.sys.inner.role = .server)).1 := hin
  have hv' : ∃ w, (f.sys.inner.recvHeaders fr (f.sys.inner.role = .server)).2 = .ok w := by
    rcases hr : (f.sys.inner.recvHeaders fr (f.sys.inner.role = .server)).2 with x | w
    · simp [dispatch, hr, Except.map] at hv
    · exact ⟨w, rfl⟩
  have hmsg := messageAfter_ok (k := k) hv
  generalize f.sys.inner.recvHeaders fr (f.sys.inner.role = .server) = r at ho hsig hin' hv'
  by_cases hk : fr.streamId = k
  · subst hk
    cases ho with
    | broken _ _ => obtain ⟨w, hw⟩ := hv'; cases hw
    | refused _ _ => obtain ⟨w, hw⟩ := hv'; cases hw
    | rejected _ _ hn _ => exact absurd hu hn
    | opened _ _ hn _ _ _ _ => exact absurd hu hn
    | ignored ht hn =>
        have hnil : f.sys.signals (.recv (.headers fr)) = [] := hsig
        refine reader_unseen hok h ?_ ?_ rfl (.inl (hserve'.trans hserve.symm))
        · rw [hin', hnil]
          exact .of_touches (hok.wf.finite _) hu ht (fun _ hx => hx.elim) (silent_nil _)
        · rw [hmsg, hnil]
          have hnr : ∀ half, f.sys.inner.side fr.streamId ≠ some (.receiving half) :=
            fun half hx => hn ((side_receiving_iff (hok.wf.finite _)).mp ⟨half, hx⟩)
          simp only [taken, ne_eq, not_true_eq_false, if_false, List.not_mem_nil, decide_false,
            Bool.false_eq_true]
          split
          · next hx => exact absurd hx (hnr _)
          · next hx => exact absurd hx (hnr _)
          · rfl
    | @interim m st e flags he hw hc hst hes ht hl =>
        have hnil : f.sys.signals (.recv (.headers fr)) = [] := hsig
        have hside : f.sys.inner.side fr.streamId = some (.receiving .awaitingHeaders) :=
          (side_of he).trans (congrArg some (State.isRecvHeaders_iff.mp hw))
        have hside' : f'.sys.inner.side fr.streamId = f.sys.inner.side fr.streamId := by
          rw [hin', side_of hl, hside]
          exact congrArg some (State.recvOpen_recvSide hst)
        have hlen : f'.sys.inner.lengthOf fr.streamId =
            lengthAfter fr (f.sys.inner.lengthOf fr.streamId) := by
          rw [hin', lengthOf_of hl, lengthOf_of he]
        rw [reader_after hok h, hmsg, taken_head hside, hside', hlen,
          toHeadAfter_of (by rw [hnil]; exact List.not_mem_nil), hnil,
          decide_eq_false List.not_mem_nil, Bool.or_false,
          show f'.sys.pump.phase fr.streamId = (f.reader fr.streamId).phase from
            hserve'.trans hserve.symm,
          show itemsOf fr.streamId [] = [] from rfl, List.append_nil]
        exact Reader.Step.interim (r := f.reader fr.streamId) hserve hside hes
    | @head m st e flags he hw hc hst ht hok' hl =>
        have hside : f.sys.inner.side fr.streamId = some (.receiving .awaitingHeaders) :=
          (side_of he).trans (congrArg some (State.isRecvHeaders_iff.mp hw))
        have hsig' : f.sys.signals (.recv (.headers fr)) =
            .head fr.streamId :: eofSignal fr.streamId fr.endStream := hsig
        have hitems : itemsOf fr.streamId (f.sys.signals (.recv (.headers fr))) =
            if fr.endStream then [.last none] else [] := by
          rw [hsig', ← itemsOf_eofSignal fr.streamId]
          rfl
        have hhead : .head fr.streamId ∈ f.sys.signals (.recv (.headers fr)) := by
          rw [hsig']
          exact List.mem_cons_self
        have hsurf : .surfaced fr.streamId ∉ f.sys.signals (.recv (.headers fr)) := by
          rw [hsig']
          cases fr.endStream <;> simp [eofSignal]
        rw [reader_after hok h, hmsg, taken_head hside, hitems, toHeadAfter_of hsurf,
          decide_eq_true hhead, Bool.or_true, Bool.true_or,
          show f'.sys.pump.phase fr.streamId = (f.reader fr.streamId).phase from
            hserve'.trans hserve.symm]
        have hokr : LengthOk fr (f.reader fr.streamId).length := by
          rw [show (f.reader fr.streamId).length = _ from lengthOf_of he]
          exact hok'
        refine Reader.Step.head (r := f.reader fr.streamId) hserve hside hokr (fun hes => ?_)
          fun hes => ?_
        · rw [hin', if_pos hes]
          rw [hes] at hst
          exact over_closeStream (ht.keeps.used hu) hl (State.recvOpen_eos hst)
        · rw [hin', if_neg (by rw [hes]; decide)]
          rw [hes] at hst
          refine ⟨(side_of hl).trans (congrArg some (State.recvOpen_recvSide hst)), ?_⟩
          rw [lengthOf_of hl, show (f.reader fr.streamId).length = _ from lengthOf_of he]
    | @trailers st e flags he hw hc hst hes hl =>
        have hside : f.sys.inner.side fr.streamId = some (.receiving .streaming) :=
          (side_of he).trans (congrArg some (State.recvClose_streaming hst hw))
        have hsig' : f.sys.signals (.recv (.headers fr)) =
            [.item fr.streamId (.last none)] := hsig
        have hitems : itemsOf fr.streamId (f.sys.signals (.recv (.headers fr))) =
            [.last none] := by
          rw [hsig']
          simp [itemsOf]
        have hhead : .head fr.streamId ∉ f.sys.signals (.recv (.headers fr)) := by
          rw [hsig']
          simp
        have hsurf : .surfaced fr.streamId ∉ f.sys.signals (.recv (.headers fr)) := by
          rw [hsig']
          simp
        rw [reader_after hok h, hmsg, taken_trailers hside, hitems, toHeadAfter_of hsurf,
          decide_eq_false hhead, Bool.or_false, hes,
          show f'.sys.pump.phase fr.streamId = (f.reader fr.streamId).phase from
            hserve'.trans hserve.symm]
        have hlr : (f.reader fr.streamId).length.isSatisfied = true := by
          rw [show (f.reader fr.streamId).length = _ from lengthOf_of he]
          exact hl
        refine Reader.Step.trailers (r := f.reader fr.streamId) hserve hside hlr ?_
        rw [hin']
        exact over_closeStream (e := { e with state := st }) hu (AList.lookup_insert _)
          (State.recvClose_recvSide hst)
  · refine reader_unseen hok h ?_ ?_ rfl (.inl (hserve'.trans hserve.symm))
    · rw [hin', hsig]
      exact .of_touches (hok.wf.finite k) hu ho.touches
        (fun m hm => openMarks_not_receives hm hk) (headersSignals_silent ho hk)
    · rw [hmsg]
      simp only [taken, ne_eq, hk, not_false_eq_true, if_true]

/-- The receive side of a stream that takes a DATA frame. -/
theorem counted_sides {me m : Inner} {fr : Data} (h : Counted me fr m) :
    me.side fr.streamId = some (.receiving .streaming) ∧
      m.side fr.streamId = some (.receiving .streaming) ∧
      (me.lengthOf fr.streamId).dec fr.data.length = some (m.lengthOf fr.streamId) := by
  obtain ⟨e, e', he, he', hs, -, hside, -, hl⟩ := h.entry
  have hx := State.isRecvStreaming_iff.mp hs
  refine ⟨(side_of he).trans (congrArg some hx), ?_, ?_⟩
  · exact (side_of he').trans (congrArg some (hside.trans hx))
  · rw [lengthOf_of he, lengthOf_of he']
    exact hl

theorem taken_data {me : Inner} {fr : Data} {b : Bool} {m : Message}
    (hs : me.side fr.streamId = some (.receiving .streaming)) :
    me.taken (.data fr) b fr.streamId m = m.data fr := by
  simp only [taken, ne_eq, not_true_eq_false, if_false, hs]

/-- The signals of a DATA frame of `k` are its items. -/
theorem reader_counted {fr : Data} (hok : f.sys.Ok) (h : Step f (.recv (.data fr)) f')
    (hpump : f'.sys.pump = .running) {m : Inner} (hc : Counted f.sys.inner fr m)
    (hsig : f.sys.signals (.recv (.data fr)) =
      (Reader.dataItems fr).map (Signal.item fr.streamId))
    (hmsg : f.messageAfter (.recv (.data fr)) fr.streamId =
      (f.message fr.streamId).data fr)
    (hend : fr.endStream = true → Reader.Over (f'.sys.inner.side fr.streamId) ∧
      (m.lengthOf fr.streamId).isSatisfied = true)
    (hgo : fr.endStream = false → f'.sys.inner = m) :
    Reader.Step (f.reader fr.streamId) (f'.reader fr.streamId) := by
  obtain ⟨hp, -, -⟩ := step_recv h
  have hserve := phase_running (k := fr.streamId) hp
  obtain ⟨hside, hside', hlen⟩ := counted_sides hc
  have hitems : itemsOf fr.streamId (f.sys.signals (.recv (.data fr))) =
      Reader.dataItems fr := by
    rw [hsig, itemsOf, List.filterMap_map]
    simp
  have hhead : .head fr.streamId ∉ f.sys.signals (.recv (.data fr)) := by
    rw [hsig]
    simp
  have hsurf : .surfaced fr.streamId ∉ f.sys.signals (.recv (.data fr)) := by
    rw [hsig]
    simp
  rw [reader_after hok h, hmsg, hitems, toHeadAfter_of hsurf, decide_eq_false hhead,
    Bool.or_false, show f'.sys.pump.phase fr.streamId = (f.reader fr.streamId).phase from
      (phase_running hpump).trans hserve.symm]
  refine Reader.Step.data (r := f.reader fr.streamId) hserve hside hlen hend fun hes => ?_
  rw [hgo hes]
  exact ⟨hside'.trans hside.symm, rfl⟩

/-- **DATA.** -/
theorem reader_data {fr : Data} (hok : f.sys.Ok) (h : Step f (.recv (.data fr)) f')
    (hu : f.sys.inner.Used k) {v : Acts} (hv : (f.sys.inner.dispatch (.data fr)).2 = .ok v)
    (hpump : f'.sys.pump = .running) : Reader.Step (f.reader k) (f'.reader k) := by
  obtain ⟨hp, hin, -⟩ := step_recv h
  have hphase := (phase_running (k := k) hpump).trans (phase_running (k := k) hp).symm
  have ho := recvData_outcome hok.wf fr
  have hsig : f.sys.signals (.recv (.data fr)) =
    okSignals RecvDataVerdict.signals (f.sys.inner.recvData fr).2 := rfl
  have hin' : f'.sys.inner = (f.sys.inner.recvData fr).1 := hin
  have hv' : ∃ w, (f.sys.inner.recvData fr).2 = .ok w := by
    rcases hr : (f.sys.inner.recvData fr).2 with x | w
    · simp [dispatch, hr, Except.map] at hv
    · exact ⟨w, rfl⟩
  have hmsg := messageAfter_ok (k := k) hv
  generalize f.sys.inner.recvData fr = r at ho hsig hin' hv'
  by_cases hk : fr.streamId = k
  · subst hk
    have hcounted : ∀ {m}, Counted f.sys.inner fr m →
        f.messageAfter (.recv (.data fr)) fr.streamId = (f.message fr.streamId).data fr :=
      fun hc => hmsg.trans (taken_data (counted_sides hc).1)
    cases ho with
    | broken _ _ => obtain ⟨w, hw⟩ := hv'; cases hw
    | refused _ => obtain ⟨w, hw⟩ := hv'; cases hw
    | ignored ht hn =>
        refine reader_unseen hok h ?_ ?_ rfl (.inl hphase)
        · rw [hin', hsig]
          exact .of_touches (hok.wf.finite _) hu ht (fun _ hx => hx.elim) (silent_nil _)
        · rw [hmsg]
          simp only [taken, ne_eq, not_true_eq_false, if_false]
          split
          · next hx =>
            exact absurd ((side_receiving_iff (hok.wf.finite _)).mp ⟨_, hx⟩) hn
          · rfl
    | empty hc hd hes =>
        refine reader_counted hok h hpump hc ?_ (hcounted hc) (fun h => ?_) fun _ => hin'
        · rw [hsig]
          simp [okSignals, RecvDataVerdict.signals, RecvDataVerdict.swallowed, Reader.dataItems, hd,
            hes]
        · rw [hes] at h
          cases h
    | taken hc hd hes =>
        refine reader_counted hok h hpump hc ?_ (hcounted hc) (fun h => ?_) fun _ => hin'
        · rw [hsig]
          simp [okSignals, RecvDataVerdict.signals, Reader.dataItems, eofSignal, hd, hes]
        · rw [hes] at h
          cases h
    | @ended m e st flags hc hes he hl hst =>
        refine reader_counted hok h hpump hc ?_ (hcounted hc) (fun _ => ⟨?_, ?_⟩) fun hg => ?_
        · rw [hsig]
          simp [okSignals, RecvDataVerdict.signals, Reader.dataItems, eofSignal, hes]
        · rw [hin']
          exact over_closeStream (e := { e with state := st }) (hc.touches.keeps.used hu)
            (AList.lookup_insert _) (State.recvClose_recvSide hst)
        · rw [lengthOf_of he]
          exact hl
        · rw [hes] at hg
          cases hg
  · refine reader_unseen hok h ?_ ?_ rfl (.inl hphase)
    · rw [hin', hsig]
      refine .of_touches (hok.wf.finite k) hu ho.touches
        (fun m hm => dataMarks_not_receives hm hk) ?_
      cases ho with
      | taken _ _ hes =>
          simp [okSignals, RecvDataVerdict.signals, eofSignal, Silent, itemsOf, hk]
      | ended _ hes _ _ _ =>
          simp [okSignals, RecvDataVerdict.signals, eofSignal, Silent, itemsOf, hk]
      | _ => exact silent_nil k
    · rw [hmsg]
      simp only [taken, ne_eq, hk, not_false_eq_true, if_true]

/-! ### Steps -/

/-- **A frame**, for the readers of `k`. -/
theorem reader_recv {fr : Frame} (hok : f.sys.Ok) (h : Step f (.recv fr) f')
    (hu : f.sys.inner.Used k) : Reader.Step (f.reader k) (f'.reader k) := by
  obtain ⟨hp, hin, ⟨⟨v, hv⟩, hpump⟩ | ⟨err, herr, hpump⟩⟩ := step_recv h
  · have hserve := phase_running (k := k) hp
    have hphase := (phase_running (k := k) hpump).trans hserve.symm
    have hf := hok.wf.finite k
    have still : Still f.sys.inner (f.sys.inner.dispatch fr).1 →
        f.sys.signals (.recv fr) = [] → (∀ b m, f.sys.inner.taken fr b k m = m) →
        Reader.Step (f.reader k) (f'.reader k) := fun hst hs ht => by
      refine reader_unseen hok h ?_ (messageAfter_of ht) rfl (.inl hphase)
      rw [hin, hs]
      exact .of_still hf hu hst (silent_nil k)
    cases fr with
    | headers fr => exact reader_headers hok h hu hv hpump
    | data fr => exact reader_data hok h hu hv hpump
    | windowUpdate fr => exact still (recvWindowUpdate_still _ fr) rfl fun _ _ => rfl
    | settings fr => exact still (recvSettings_still _ fr) rfl fun _ _ => rfl
    | ping fr => exact still (recvPing_still _ fr) rfl fun _ _ => rfl
    | priority _ => exact still (.refl _) rfl fun _ _ => rfl
    | streamError _ _ _ => exact still (.refl _) rfl fun _ _ => rfl
    | goAway fr =>
        refine reader_told hok h ?_ (messageAfter_of fun _ _ => rfl) rfl hphase
        rcases hr : (f.sys.inner.recvGoAway fr).2 with x | w
        · simp [dispatch, hr, Except.map] at hv
        · have ht := recvGoAway_told hok.wf hu fr hr
          rw [hin]
          show Unseen _ _ k (okSignals (fun v => notifyAll v.1) (f.sys.inner.recvGoAway fr).2) ∨
            Ended _ _ k (okSignals (fun v => notifyAll v.1) (f.sys.inner.recvGoAway fr).2)
          rw [hr]
          exact ht
    | rstStream fr =>
        rcases hr : (f.sys.inner.recvReset fr).2 with x | w
        · simp [dispatch, hr, Except.map] at hv
        · have hsig : f.sys.signals (.recv (.rstStream fr)) =
              w.elim [] fun v => notifyStopped v.handle v.stop v.notifyBody := by
            show okSignals _ (f.sys.inner.recvReset fr).2 = _
            rw [hr]
            rfl
          have hin' : f'.sys.inner = (f.sys.inner.recvReset fr).1 := hin
          have hmsg : f.messageAfter (.recv (.rstStream fr)) k = f.message k :=
            messageAfter_of fun _ _ => rfl
          rcases recvReset_told hok.wf hu fr hr with ht | ht | ⟨hs, hb, ha⟩
          · exact reader_told hok h (.inl (by rw [hin', hsig]; exact ht)) hmsg rfl hphase
          · exact reader_told hok h (.inr (by rw [hin', hsig]; exact ht)) hmsg rfl hphase
          · rw [reader_after hok h k, hmsg, hsig, hs.1, decide_eq_false hs.2.1, List.append_nil,
              Bool.or_false, toHeadAfter_of (by rw [hsig]; exact hs.2.2),
              show f'.sys.pump.phase k = (f.reader k).phase from hphase]
            refine Reader.Step.peerReset (r := f.reader k) hserve hb ?_
            rw [hin']
            exact ha
  · exact reader_raised hok h hu herr hpump

theorem resetOnError_told {me : Inner} {sid : Nat} {reason : Reason} {v : ResetVerdict}
    (h : me.Finite k) (hu : me.Used k) (hv : (me.resetOnError sid reason).2 = .ok v) :
    (Unseen me (me.resetOnError sid reason).1 k (notifyReset v.handle v.stop) ∧
        (sid = k → me.side k = none)) ∨
      Ended me (me.resetOnError sid reason).1 k (notifyReset v.handle v.stop) := by
  have ht : Touches Mark.nothing me { me with localErrorResets := me.localErrorResets + 1 } :=
    Touches.still { Still.refl me with }
  unfold resetOnError at hv ⊢
  dsimp only at hv ⊢
  split at hv
  · cases hv
  · next hlim =>
    rw [if_neg hlim]
    split at hv
    · next e he =>
      cases hv
      have hr := resetStream_told (ht.finite h) (ht.keeps.used hu) sid reason .library
      by_cases hk : sid = k
      · subst hk
        have hside := resetStream_side (ht.keeps.used hu) he reason .library
        exact .inr ((told_after h hu ht (fun _ hx => hx.elim) (.inr hside.ended)).resolve_left
          fun hn => absurd hn.silent.2.1 (by simp [hside.1, notifyReset]))
      · exact (told_after h hu ht (fun _ hx => hx.elim) hr).imp
          (fun hn => ⟨hn, fun hs => absurd hs hk⟩) id
    · next hn =>
      cases hv
      have hst : Still me ((if reason ≠ Reason.refusedStream then
          { me with localErrorResets := me.localErrorResets + 1 }.enqueueResetExpiration sid
        else { me with localErrorResets := me.localErrorResets + 1 }).emit
          (.rstStream sid reason)) := by
        refine Still.trans ?_ (.emit _ _)
        have hc : Still me { me with localErrorResets := me.localErrorResets + 1 } :=
          { Still.refl me with }
        split
        · exact hc.trans (enqueueResetExpiration_still _ sid)
        · exact hc
      exact .inl ⟨.of_still h hu hst (silent_nil k), fun hs => side_none (hs ▸ hn)⟩

theorem lostAfter_of (hp : ∀ sid reason, f.sys.pump = .resetting sid reason → sid ≠ k) :
    f.lostAfter a k = f.lost k := by
  unfold lostAfter
  split
  · next sid reason hr => simp [hp sid reason hr]
  · rfl

/-- The reset that was to answer an error of `k` told nobody. -/
theorem lostAfter_silent {reason : Reason} (hp : f.sys.pump = .resetting k reason)
    (hsf : f.surfaced k = true) (hs : itemsOf k (f.sys.signals .pump) = []) :
    f.lostAfter .pump k = (f.lost k || untold (f.sys.inner.side k) (f.queue k)) := by
  unfold lostAfter
  rw [hp]
  simp [hs, hsf]

theorem lostAfter_told {reason : Reason} (hp : f.sys.pump = .resetting k reason)
    (hs : itemsOf k (f.sys.signals .pump) ≠ []) : f.lostAfter .pump k = f.lost k := by
  unfold lostAfter
  rw [hp]
  simp [hs]

theorem itemsOf_ended {me s : Inner} {signals : List Signal} (h : Ended me s k signals) :
    itemsOf k signals ≠ [] := by
  rcases h with ⟨stop, ⟨hi, -⟩, -⟩ | ⟨⟨hi, -⟩, -⟩
  · rw [hi]; nofun
  · rw [hi]; nofun

/-- The reset of `k` told nobody: it was refused, or the stream had gone. -/
theorem reader_missed {reason : Reason} (hok : f.sys.Ok) (h : Step f .pump f')
    (hp : f.sys.pump = .resetting k reason) (hsf : f.surfaced k = true)
    (hu : Unseen f.sys.inner f'.sys.inner k (f.sys.signals .pump))
    (hs : f'.sys.pump.phase k = .ended ∧ f'.sys.inner = f.sys.inner ∨
      f.sys.inner.side k = none) : Reader.Step (f.reader k) (f'.reader k) := by
  have hphase : (f.reader k).phase = .answering := by
    show f.sys.pump.phase k = .answering
    rw [hp]
    exact if_pos rfl
  have hsame : f'.sys.inner.side k = f.sys.inner.side k ∧
      f'.sys.inner.lengthOf k = f.sys.inner.lengthOf k := by
    rcases hs with ⟨-, hs⟩ | hs
    · rw [hs]
      exact ⟨rfl, rfl⟩
    · have hnone : f'.sys.inner.side k = none := by
        rcases hu.side with hx | ⟨hx, -⟩
        · exact hx.trans hs
        · exact hx
      rw [lengthOf_none (Option.map_eq_none_iff.mp hnone),
        lengthOf_none (Option.map_eq_none_iff.mp hs)]
      exact ⟨hnone.trans hs.symm, rfl⟩
  rw [reader_after hok h k, lostAfter_silent hp hsf hu.silent.1, hu.silent.1,
    decide_eq_false hu.silent.2.1, List.append_nil, Bool.or_false,
    toHeadAfter_of hu.silent.2.2, hsame.1, hsame.2]
  exact Reader.Step.missed (r := f.reader k) hphase (hs.imp And.left id)

/-- The error reset of `sid`, for the readers of `k`. -/
theorem reader_resetting {sid : Nat} {reason : Reason} (hok : f.sys.Ok) (h : Step f .pump f')
    (hu : f.sys.inner.Used k) (hsf : f.surfaced k = true)
    (hp : f.sys.pump = .resetting sid reason) : Reader.Step (f.reader k) (f'.reader k) := by
  have hs := step_sys h
  have hf := hok.wf.finite k
  have hsig : f.sys.signals .pump =
      okSignals (fun v => notifyReset v.handle v.stop) (f.sys.inner.resetOnError sid reason).2 := by
    show f.sys.pumpSignals = _
    unfold Sys.pumpSignals
    rw [hp]
  have hne : sid ≠ k → f.sys.pump.phase k = .serving ∧
      f.lostAfter .pump k = f.lost k := fun hk => by
    refine ⟨by rw [hp]; exact if_neg hk, lostAfter_of fun sid' reason' hr => ?_⟩
    rw [hp] at hr
    cases hr
    exact hk
  unfold Sys.Step Sys.step Sys.pumpStep at hs
  rw [hp] at hs
  dsimp only at hs
  split at hs
  · next v hv =>
    have hsys := Option.some.inj hs
    have hin : f'.sys.inner = (f.sys.inner.resetOnError sid reason).1 := by rw [← hsys]
    have hpump : f'.sys.pump = .running := by rw [← hsys]
    rw [hv] at hsig
    have hserve' : f'.sys.pump.phase k = .serving := by rw [hpump]; rfl
    rcases resetOnError_told hf hu hv with ⟨hn, hgone⟩ | he
    · rw [← hin, show notifyReset v.handle v.stop = f.sys.signals .pump from hsig.symm] at hn
      by_cases hk : sid = k
      · subst hk
        exact reader_missed hok h hp hsf hn (.inr (hgone rfl))
      · obtain ⟨hserve, hlost⟩ := hne hk
        exact reader_unseen hok h hn rfl hlost (.inl (hserve'.trans hserve.symm))
    · rw [← hin, show notifyReset v.handle v.stop = f.sys.signals .pump from hsig.symm] at he
      by_cases hk : sid = k
      · subst hk
        exact reader_ended hok h he rfl (lostAfter_told hp (itemsOf_ended he))
          (.inr (by rw [hp]; exact if_pos rfl))
      · obtain ⟨hserve, hlost⟩ := hne hk
        exact reader_ended hok h he rfl hlost (.inl (hserve'.trans hserve.symm))
  · next err herr =>
    have hsys := Option.some.inj hs
    have hin : f'.sys.inner = f.sys.inner := by
      rw [← hsys]
      exact (resetOnError_refused herr).1
    have hover : f'.sys.pump.phase k = .ended := by
      rw [← hsys]
      exact Pump.phase_raised err k
    rw [herr] at hsig
    have hn : Unseen f.sys.inner f'.sys.inner k (f.sys.signals .pump) := by
      rw [hin, hsig]
      exact .of_still hf hu (.refl _) (silent_nil k)
    by_cases hk : sid = k
    · subst hk
      exact reader_missed hok h hp hsf hn (.inl ⟨hover, hin⟩)
    · obtain ⟨hserve, hlost⟩ := hne hk
      exact reader_unseen hok h hn rfl hlost (.inr ⟨hserve, hover⟩)

/-- **The read pump's step after an error**, for the readers of `k`. -/
theorem reader_pump (hok : f.sys.Ok) (h : Step f .pump f') (hu : f.sys.inner.Used k)
    (hsf : f.surfaced k = true) : Reader.Step (f.reader k) (f'.reader k) := by
  have hs := step_sys h
  have hf := hok.wf.finite k
  unfold Sys.Step Sys.step Sys.pumpStep at hs
  cases hp : f.sys.pump with
  | resetting sid reason => exact reader_resetting hok h hu hsf hp
  | closing reason debugData e =>
      rw [hp] at hs
      have hsys := Option.some.inj hs
      have hsig : f.sys.signals .pump = [] := by
        show f.sys.pumpSignals = _
        unfold Sys.pumpSignals
        rw [hp]
      refine reader_unseen hok h ?_ rfl (lostAfter_of (by rw [hp]; nofun)) (.inl ?_)
      · rw [hsig, ← hsys]
        exact .of_still hf hu (.emit _ _) (silent_nil k)
      · rw [← hsys, hp]
        rfl
  | failing e =>
      rw [hp] at hs
      have hsys := Option.some.inj hs
      have hsig : f.sys.signals .pump = notifyAll (f.sys.inner.fail (some e) "").2 := by
        show f.sys.pumpSignals = _
        unfold Sys.pumpSignals
        rw [hp]
      refine reader_told hok h ?_ rfl (lostAfter_of (by rw [hp]; nofun)) ?_
      · rw [hsig, ← hsys]
        exact fail_told hf hu (some e) ""
      · rw [← hsys, hp]
        rfl
  | running => rw [hp] at hs; cases hs
  | done => rw [hp] at hs; cases hs

/-- **The driver refines the reader.** -/
theorem reader_step (hok : f.sys.Ok) (h : Step f a f') (hu : f.sys.inner.Used k)
    (hsf : f.surfaced k = true) : Reader.Step (f.reader k) (f'.reader k) := by
  have hs := step_sys h
  have hf := hok.wf.finite k
  -- the steps that say nothing to a reader
  have quiet : (∀ m, f.sys.marks a m → ¬m.receives k) → f.sys.signals a = [] →
      f.messageAfter a k = f.message k → f.lostAfter a k = f.lost k →
      (f'.sys.pump.phase k = f.sys.pump.phase k ∨
        f.sys.pump.phase k = .serving ∧ f'.sys.pump.phase k = .ended) →
      Reader.Step (f.reader k) (f'.reader k) := fun hm hsig hmsg hlost hp => by
    refine reader_unseen hok h ?_ hmsg hlost hp
    rw [hsig]
    exact .of_touches hf hu (hok.step_touches hs) hm (silent_nil k)
  have running : f.sys.pump = .running → f.sys.pump.phase k = .serving := fun hp => by
    rw [hp]
    rfl
  cases a with
  | recv fr => exact reader_recv hok h hu
  | pump => exact reader_pump hok h hu hsf
  | raised e =>
      unfold Sys.Step Sys.step at hs
      dsimp only at hs
      split at hs
      · next hp =>
        refine quiet (fun _ hx => hx.elim) rfl rfl rfl (.inr ⟨running hp, ?_⟩)
        rw [← Option.some.inj hs]
        exact Pump.phase_raised e k
      · cases hs
  | reply =>
      unfold Sys.Step Sys.step at hs
      dsimp only at hs
      split at hs
      · next hp =>
        refine quiet (fun _ hx => hx.elim) rfl rfl rfl ?_
        rw [← Option.some.inj hs]
        unfold Sys.reply
        dsimp only
        split
        · exact .inr ⟨running hp, rfl⟩
        · exact .inl rfl
      · cases hs
  | call c =>
      unfold Sys.Step Sys.step at hs
      dsimp only at hs
      split at hs
      · next hal =>
        have hsys := Option.some.inj hs
        refine reader_told hok h ?_ rfl rfl (by rw [← hsys]; rfl)
        rw [← hsys]
        refine call_told hok.wf hu c ?_
        rintro request eos isHead rfl
        simpa [Sys.allowed] using hal
      · cases hs
  | flush =>
      refine quiet ?_ rfl rfl rfl (.inl (by rw [← Option.some.inj hs]; rfl))
      rintro m rfl (hx | hx | hx) <;> cases hx
  | tick d => exact quiet (fun _ hx => hx.elim) rfl rfl rfl (.inl (by rw [← Option.some.inj hs]))
  | rehash m =>
      unfold Sys.Step Sys.step at hs
      dsimp only at hs
      split at hs
      · exact quiet (fun _ hx => hx.elim) rfl rfl rfl (.inl (by rw [← Option.some.inj hs]))
      · cases hs

end Feed

end Httpunk.H2
