import Httpunk.H2.Driver.Terms
import Httpunk.H2.Driver.Upload
import Httpunk.H2.Safety.Failure

/-!
# H2 — Safety — HalfOpen

No half-open stream is abandoned by the writer of its body, unless the body's producer fails.

* `Inner.Stands`: a fact about the state of one stream that its transitions keep.
* `sendData_running`, `sendData_closes`, `sendTrailers_closes`: what a send makes of its stream.
* `Upload.Fine`: where a writer may stand over the state, kept by every step.
* `Uploads.writer_ends_closed`: an ended writer leaves a closed send half, in every run in which
  no producer fails on a stream that still streams.
-/

namespace Httpunk.H2

open Runs (Reach)
open Httpunk.H2.Inner

/-! ### The state of one stream -/

/-- The state of the stream, where it is stored, is one of `P`. -/
def Inner.Stands (me : Inner) (sid : Nat) (P : State → Prop) : Prop :=
  ∀ e, me.streams.lookup sid = some e → P e.state

/-- The send half of the stream has closed, or the stream is gone. -/
def Inner.SendOver (me : Inner) (sid : Nat) : Prop := me.Stands sid (·.isSendClosed = true)

/-- The head of what is sent on the stream is out. -/
def Inner.SendBegun (me : Inner) (sid : Nat) : Prop := me.Stands sid (·.sendBegun = true)

variable {s s' me me' : Inner} {extra : Kind → Prop} {P : State → Prop} {sid : Nat}

/-- **What the transitions keep stays so**, on a stream that has been used. -/
theorem Moves.stands (r : Moves extra s s') (h : s.Wf) (hu : s.Used sid)
    (hP : ∀ a b, State.Later a b → P a → P b) (hs : s.Stands sid P) : s'.Stands sid P := by
  have hinv : s'.Wf ∧ s'.Used sid ∧ s'.Stands sid P := by
    refine Reach.invariant (I := fun t => t.Wf ∧ t.Used sid ∧ t.Stands sid P) r ⟨h, hu, hs⟩ ?_
    rintro t k t' ⟨hw, hut, hst⟩ m -
    refine ⟨m.wf hw, m.grows.used hut, fun e' he' => ?_⟩
    rcases m.entry hw he' with ⟨e, he, hv⟩ | ho
    · exact hP _ _ hv.later (hst e he)
    · exact absurd hut ho.unused
  exact hinv.2.2

theorem Moves.sendOver (r : Moves extra s s') (h : s.Wf) (hu : s.Used sid)
    (hs : s.SendOver sid) : s'.SendOver sid :=
  r.stands h hu (fun _ _ hl => hl.sendClosed) hs

theorem Moves.sendBegun (r : Moves extra s s') (h : s.Wf) (hu : s.Used sid)
    (hs : s.SendBegun sid) : s'.SendBegun sid :=
  r.stands h hu (fun _ _ hl => hl.sendBegun) hs

/-- A send half that has begun, and streams no more, has closed. -/
theorem Inner.SendBegun.over (h : me.SendBegun sid)
    (hn : ∀ e, me.streams.lookup sid = some e → e.state.isSendStreaming = false) :
    me.SendOver sid := by
  intro e he
  have hb : e.state.sendBegun = true := h e he
  rw [State.sendBegun, hn e he, Bool.false_or] at hb
  exact hb

/-- Where no stream is live, every send half has closed. -/
theorem Inner.Quiet.sendOver (h : s.Quiet) (hw : s.Wf) : s.SendOver sid := by
  intro e he
  refine State.isSendClosed_of_isClosed (hw.finished he ?_)
  by_contra hf
  exact h sid ⟨e, he, by simpa using hf⟩

/-- A stream that was told of a stop has a closed send half. -/
theorem Inner.sendOver_of_dead (hw : s.Wf) (hd : ¬s.Live sid) : s.SendOver sid := by
  intro e he
  refine State.isSendClosed_of_isClosed (hw.finished he ?_)
  by_contra hf
  exact hd ⟨e, he, by simpa using hf⟩

/-- A send to a stream whose send half has closed is answered with what the stream recorded. -/
theorem Inner.SendOver.sendData (h : me.SendOver sid) (data : Bytes) (offset : Nat)
    (endStream : Bool) : me.sendData sid data offset endStream =
      (me, .ok (.stoppedSend ((me.streams.lookup sid).elim ⟨none, false⟩
        StreamEntry.stopped))) := by
  unfold Inner.sendData
  rcases hl : me.streams.lookup sid with _ | e
  · rfl
  · have hs : e.state.isSendStreaming = false :=
      State.isSendStreaming_of_isSendClosed (h e hl)
    simp [hs]

/-- An opened stream is the next one, inserted. -/
theorem Inner.openStream_opened {request : Except Err Block} {endStream isHead : Bool}
    (h : (me.openStream request endStream isHead).2 = .ok (some sid)) :
    sid = me.nextId ∧ ∃ b st, State.idle.sendOpen endStream = .ok st ∧
      (me.openStream request endStream isHead).1 = me.insertOpened isHead endStream b st := by
  unfold openStream at h ⊢
  split at h
  · cases h
  · next hd =>
    split at h
    · cases h
    · next hm =>
      split at h
      · cases h
      · next b =>
        split at h
        · cases h
        · next st hst =>
          cases h
          refine ⟨rfl, b, st, hst, ?_⟩
          simp only [hd, hm, if_false, Bool.false_eq_true]

/-! ### What a send makes of its stream -/

/-- The frame ends what is sent on the stream. -/
def OutFrame.endsStream (sid : Nat) : OutFrame → Bool
  | .headers k _ eos | .data k _ eos => k == sid && eos
  | _ => false

namespace Inner

/-- A verdict that reports no stop. -/
def Running (r : Inner × Except Err SendVerdict) : Prop :=
  ∀ v, r.2 = .ok v → v.stopped = none

theorem Running.ok {v : SendVerdict} (me : Inner) (h : v.stopped = none) : Running (me, .ok v) :=
  fun _ hv => by cases hv; exact h

theorem Running.error (me : Inner) (err : Err) : Running (me, .error err) :=
  fun _ hv => by cases hv

theorem queueData_running (me : Inner) (sid : Nat) (chunk : Bytes) (last done : Bool)
    (before : Nat) (flags : Flags) : Running (me.queueData sid chunk last done before flags) := by
  unfold queueData
  dsimp only
  split
  · exact .error _ _
  · split
    · split
      · exact .error _ _
      · split
        · exact .error _ _
        · exact .ok _ rfl
    · exact .ok _ rfl

theorem sendTurn_running (me : Inner) (sid : Nat) (data : Bytes) (offset : Nat)
    (endStream : Bool) (budget before : Nat) :
    Running (me.sendTurn sid data offset endStream budget before) := by
  unfold sendTurn
  split
  · exact .error _ _
  · split
    · exact .ok _ rfl
    · split
      · exact .ok _ rfl
      · unfold frameData
        dsimp only
        split
        · exact .error _ _
        · split
          · exact .error _ _
          · exact queueData_running _ _ _ _ _ _ _

/-- A send on a stream that streams reports no stop. -/
theorem sendData_running {e : StreamEntry} (he : me.streams.lookup sid = some e)
    (hs : e.state.isSendStreaming = true) (data : Bytes) (offset : Nat) (endStream : Bool) :
    Running (me.sendData sid data offset endStream) := by
  unfold sendData
  rw [he]
  dsimp only
  rw [hs]
  simp only [Bool.not_true, Bool.false_eq_true, if_false]
  split
  · unfold sendEmpty
    dsimp only
    split
    · split
      · exact .error _ _
      · exact .ok _ rfl
    · exact .ok _ rfl
  · unfold sendChunk
    dsimp only
    split
    · exact .ok _ rfl
    · split
      · split
        · exact .ok _ rfl
        · exact sendTurn_running _ _ _ _ _ _ _
      · exact sendTurn_running _ _ _ _ _ _ _

/-- A send that reports a stop changed nothing, and found no stream that streams. -/
theorem sendData_stopped {v : SendVerdict} {data : Bytes} {offset : Nat} {endStream : Bool}
    (hv : (me.sendData sid data offset endStream).2 = .ok v) (hs : v.stopped.isSome = true)
    (e : StreamEntry) (he : me.streams.lookup sid = some e) : e.state.isSendStreaming = false := by
  by_contra hc
  rw [sendData_running he (by simpa using hc) data offset endStream v hv] at hs
  cases hs

/-- **A send with END_STREAM that is done** queued the end of the stream and closed its half. -/
theorem sendData_closes (h : me.Wf) {v : SendVerdict} {data : Bytes} {offset : Nat}
    (hv : (me.sendData sid data offset true).2 = .ok v) (hd : v.done = true) :
    (me.sendData sid data offset true).1.SendOver sid ∧
      ∃ f ∈ (me.sendData sid data offset true).1.pending, f.endsStream sid = true := by
  obtain ⟨v', me', heq, hf⟩ := sendData_framed h sid data offset true
  rw [heq] at hv ⊢
  cases hv
  rcases hf with hu | hf
  · rw [hu.running] at hd
    cases hd
  · obtain ⟨s₁, s₂, h₁, hm, h₂⟩ := hf.moved
    rw [hd] at hm
    have hw₁ := h₁.wf h
    have hw₂ := hm.wf hw₁
    have hover : s₂.SendOver sid := by
      cases hm with
      | data _ _ _ _ _ he =>
        intro e' he'
        rw [Inner.queueFrame, Inner.streams_emit, Inner.lookup_setStream, if_pos rfl] at he'
        cases he'
        exact State.sendClose_isSendClosed he
    have hused : s₂.Used sid := by
      cases hm with
      | data hl _ _ _ _ _ => exact hw₁.used hl
    obtain ⟨fs, hfs, hq⟩ := hm.frames
    obtain ⟨gs, hgs, -⟩ : ∃ gs, me'.pending = s₂.pending ++ gs ∧ ∀ f ∈ gs, (fun _ => false) f =
        false := h₂.frames fun _ _ _ _ _ _ _ => rfl
    refine ⟨h₂.sendOver hw₂ hused hover,
      .data sid ((data.drop offset).take v.sent) true, ?_, ?_⟩
    · rw [hgs, hfs, hq]
      simp
    · simp [OutFrame.endsStream]

/-- Trailers find no stream that streams, or end theirs. -/
theorem sendTrailers_closes (h : me.Wf) (sid : Nat) (trailers : Fields) :
    ∃ v me', me.sendTrailers sid trailers = (me', .ok v) ∧
      (v.stopped.isSome = true ∧ me' = me ∨
        v.stopped = none ∧ me'.SendOver sid ∧ ∃ f ∈ me'.pending, f.endsStream sid = true) := by
  obtain ⟨v, me', heq, hs | ⟨hn, s₂, hm, h₂⟩⟩ := sendTrailers_moves me sid trailers
  · exact ⟨v, me', heq, .inl hs⟩
  · refine ⟨v, me', heq, .inr ⟨hn, ?_⟩⟩
    have hw₂ := hm.wf h
    obtain ⟨gs, hgs, -⟩ : ∃ gs, me'.pending = s₂.pending ++ gs ∧ ∀ f ∈ gs, (fun _ => false) f =
        false := h₂.frames fun _ _ _ _ _ _ _ => rfl
    obtain ⟨fs, hfs, block, hq⟩ := hm.frames
    have hover : s₂.SendOver sid ∧ s₂.Used sid := by
      cases hm with
      | head hl _ _ he =>
        refine ⟨fun e' he' => ?_, hw₂.used (by
          rw [Inner.streams_emit, Inner.lookup_setStream, if_pos rfl])⟩
        rw [Inner.streams_emit, Inner.lookup_setStream, if_pos rfl] at he'
        cases he'
        exact he rfl
    refine ⟨h₂.sendOver hw₂ hover.2 hover.1, .headers sid block true, ?_, ?_⟩
    · rw [hgs, hfs, hq]
      simp
    · simp [OutFrame.endsStream]

/-- Trailers that report a stop found no stream that streams. -/
theorem sendTrailers_stopped {v : SendVerdict} {trailers : Fields}
    (hv : me.sendTrailers sid trailers = (me', .ok v)) (hs : v.stopped.isSome = true)
    (e : StreamEntry) (he : me.streams.lookup sid = some e) : e.state.isSendStreaming = false := by
  by_contra hc
  have hc : e.state.isSendStreaming = true := by simpa using hc
  obtain ⟨st, hst⟩ := State.sendClose_of_isSendStreaming hc
  unfold sendTrailers at hv
  simp only [he, hc, hst, Bool.not_true, Bool.false_eq_true, if_false] at hv
  cases hv
  cases hs

end Inner

/-! ### Where a writer may stand -/

/-- The writer has ended, or will once its chunk is queued: it holds a value that is no chunk. -/
def Stage.spent : Stage → Bool
  | .ended _ | .sending _ _ _ (.keep none) => true
  | _ => false

/-- Where a writer may stand over the state. -/
structure Upload.Fine (w : Upload) (σ : Sys) (sid : Nat) : Prop where
  used : σ.inner.Used sid
  begun : σ.inner.SendBegun sid
  last : ∀ data offset last, w.stage = .sending data offset last .finish → last = true
  spent : w.stage.spent = true → σ.inner.SendOver sid
  finished : w.stage = .ended .finished → ∃ f ∈ σ.log, f.endsStream sid = true
  refused : w.stage = .ended .refused → σ.inner.error.isSome = true

namespace Upload

open Sys (Action Step)

variable {w : Upload} {σ σ' : Sys} {a : Action}

/-- What is queued stays queued or is sent. -/
theorem log_step (hok : σ.Ok) (hs : Step σ a σ') {f : OutFrame} (hf : f ∈ σ.log) :
    f ∈ σ'.log := by
  by_cases ha : a = .flush
  · subst ha
    cases hs
    exact List.mem_append_left _ hf
  · obtain ⟨gs, hgs, -⟩ : ∃ gs, σ'.inner.pending = σ.inner.pending ++ gs ∧
        ∀ f ∈ gs, (fun _ => false) f = false :=
      (hok.step_moves hs ha).frames fun _ _ _ _ _ _ _ => rfl
    rw [Sys.log, hs.sent ha, hgs, ← List.append_assoc]
    exact List.mem_append_left _ hf

/-- A step of the driver keeps what is over, over. -/
theorem sendOver_step (hok : σ.Ok) (hs : Step σ a σ') (hu : σ.inner.Used sid)
    (h : σ.inner.SendOver sid) : σ'.inner.SendOver sid := by
  by_cases ha : a = .flush
  · subst ha
    cases hs
    exact h
  · exact (hok.step_moves hs ha).sendOver hok.wf hu h

/-- **A step of the driver leaves a writer where it may stand.** -/
theorem Fine.step (h : w.Fine σ sid) (hok : σ.Ok) (hs : Step σ a σ') : w.Fine σ' sid where
  used := (hok.grows hs).used h.used
  begun := by
    by_cases ha : a = .flush
    · subst ha
      cases hs
      exact h.begun
    · exact (hok.step_moves hs ha).sendBegun hok.wf h.used h.begun
  last := h.last
  spent := fun hx => sendOver_step hok hs h.used (h.spent hx)
  finished := fun hx => by
    obtain ⟨f, hf, he⟩ := h.finished hx
    exact ⟨f, log_step hok hs hf, he⟩
  refused := fun hx => ((hok.grows hs).error (h.refused hx)).symm ▸ h.refused hx

/-- The end of the stream is queued, and its send half closed. -/
def Closes (σ : Sys) (sid : Nat) : Prop :=
  σ.inner.SendOver sid ∧ ∃ f ∈ σ.log, f.endsStream sid = true

/-- A stage that follows the data: the writer is not spent unless the stream is over, and it has
finished only where it closed the stream. -/
structure Ready (σ : Sys) (sid : Nat) (stage : Stage) : Prop where
  last : ∀ data offset last, stage = .sending data offset last .finish → last = true
  spent : stage.spent = true → σ.inner.SendOver sid
  finished : stage = .ended .finished → ∃ f ∈ σ.log, f.endsStream sid = true
  refused : stage = .ended .refused → σ.inner.error.isSome = true

theorem Fine.to (h : w.Fine σ sid) {stage : Stage} (hr : Ready σ sid stage) :
    { w with stage := stage }.Fine σ sid where
  used := h.used
  begun := h.begun
  last := hr.last
  spent := hr.spent
  finished := hr.finished
  refused := hr.refused

/-- A stage that neither ends the writer nor sends. -/
theorem Ready.idle {stage : Stage} (hs : stage.spent = false)
    (hn : ∀ data offset last next, stage ≠ .sending data offset last next) :
    Ready σ sid stage where
  last := fun _ _ _ he => absurd he (hn _ _ _ _)
  spent := fun hx => by rw [hs] at hx; cases hx
  finished := fun he => by rw [he] at hs; cases hs
  refused := fun he => by rw [he] at hs; cases hs

theorem Ready.ended {how : Ending} (hs : σ.inner.SendOver sid) (hn : how ≠ .finished)
    (hr : how = .refused → σ.inner.error.isSome = true) : Ready σ sid (.ended how) where
  last := fun _ _ _ he => by cases he
  spent := fun _ => hs
  finished := fun he => by cases he; exact absurd rfl hn
  refused := fun he => hr (by cases he; rfl)

theorem Ready.closed (h : Closes σ sid) : Ready σ sid (.ended .finished) where
  last := fun _ _ _ he => by cases he
  spent := fun _ => h.1
  finished := fun _ => h.2
  refused := fun he => by cases he

theorem Ready.sending {data : Bytes} {offset : Nat} {last : Bool} {next : Next}
    (hl : next = .finish → last = true) (hk : next = .keep none → σ.inner.SendOver sid) :
    Ready σ sid (.sending data offset last next) where
  last := fun _ _ _ he => by
    cases he
    exact hl rfl
  spent := fun hx => by
    cases next with
    | keep chunk =>
      cases chunk with
      | none => exact hk rfl
      | some _ => cases hx
    | _ => cases hx
  finished := fun he => by cases he
  refused := fun he => by cases he

/-- A held value becomes a chunk, or ends the writer. -/
theorem Ready.keeping {chunk : Option Bytes} (h : chunk = none → σ.inner.SendOver sid) :
    Ready σ sid (keeping chunk) := by
  cases chunk with
  | some _ => exact .idle rfl fun _ _ _ _ he => by cases he
  | none => exact .ended (h rfl) (fun he => by cases he) fun he => by cases he

/-- Once a chunk is queued. -/
theorem Ready.after {next : Next} (hl : next = .finish → Closes σ sid)
    (hk : next = .keep none → σ.inner.SendOver sid) : Ready σ sid (after next) := by
  cases next with
  | pull => exact .idle rfl fun _ _ _ _ he => by cases he
  | keep chunk => exact .keeping fun hc => hk (hc ▸ rfl)
  | trailers => exact .idle rfl fun _ _ _ _ he => by cases he
  | finish => exact .closed (hl rfl)

/-- **After one `send_data`.**  Where it leaves the writer is ready, if what follows each verdict
is. -/
theorem ready_afterSend (h : w.Fine σ sid) (hok : σ.Ok) {data : Bytes} {offset : Nat}
    {last : Bool} {next parked : Stage} {more : Nat → Stage}
    (hs : Step σ (.call (.sendData sid data offset last)) σ')
    (hnext : (last = true → Closes σ' sid) → Ready σ' sid next) (hparked : Ready σ' sid parked)
    (hmore : ∀ n, Ready σ' sid (more n)) :
    Ready σ' sid (afterSend offset next parked more
      (σ.inner.sendData sid data offset last).2) := by
  have hin : σ'.inner = (σ.inner.sendData sid data offset last).1 := by
    obtain ⟨-, rfl⟩ := hs.call
    rfl
  obtain ⟨v, me', heq, -⟩ := sendData_framed hok.wf sid data offset last
  have hv : (σ.inner.sendData sid data offset last).2 = .ok v := by rw [heq]
  rw [hv]
  unfold afterSend
  dsimp only
  split
  · next hstop =>
    refine .ended (sendOver_step hok hs h.used (h.begun.over ?_)) (fun he => by cases he)
      fun he => by cases he
    exact sendData_stopped hv hstop
  · split
    · next hdone =>
      refine hnext fun hlast => ?_
      subst hlast
      obtain ⟨hover, f, hf, he⟩ := sendData_closes hok.wf hv hdone
      rw [← hin] at hover hf
      exact ⟨hover, f, List.mem_append_right _ hf, he⟩
    · split
      · exact hparked
      · exact hmore _

/-- **The next call of a writer leaves it where it may stand.** -/
theorem Fine.next (h : w.Fine σ sid) (hok : σ.Ok)
    (hrefused : σ.inner.writerStart.2 = false →
      σ.inner.SendOver sid ∧ σ.inner.error.isSome = true) {c : Call} {stage : Stage}
    (hn : w.next σ.inner sid = some (c, stage)) (hs : Step σ (.call c) σ') :
    { w with stage := stage }.Fine σ' sid := by
  have h' := h.step hok hs
  have hclosing : w.closing = .finish → w.trailers.isNone = true := fun hc => by
    unfold closing at hc
    split at hc
    · cases hc
    · next ht => simpa using ht
  have hheld : w.closing = .keep none → σ'.inner.SendOver sid := fun hc => by
    unfold closing at hc
    split at hc <;> cases hc
  refine h'.to ?_
  unfold Upload.next at hn
  split at hn
  · next offset hst =>
    split at hn
    · next data hb =>
      cases hn
      refine ready_afterSend h hok hs (fun hlast => ?_) (.idle rfl fun _ _ _ _ he => by cases he)
        fun _ => .idle rfl fun _ _ _ _ he => by cases he
      exact .after (fun hc => hlast (hclosing hc)) hheld
    · cases hn
    · cases hn
  · next offset hst =>
    cases hn
    split
    · unfold Upload.begun
      split
      · exact .sending hclosing hheld
      · exact .idle rfl fun _ _ _ _ he => by cases he
      · exact .idle rfl fun _ _ _ _ he => by cases he
    · next hw =>
      obtain ⟨hover, herr⟩ := hrefused (by simpa using hw)
      exact .ended (sendOver_step hok hs h.used hover) (fun he => by cases he)
        fun _ => ((hok.grows hs).error herr).symm ▸ herr
  · next data offset last next hst =>
    cases hn
    have hkeep : next = .keep none → σ'.inner.SendOver sid := fun he =>
      sendOver_step hok hs h.used (h.spent (by rw [hst, he]; rfl))
    have hlast : next = .finish → last = true := fun he => h.last data offset last (he ▸ hst)
    refine ready_afterSend h hok hs (fun hl => .after (fun he => hl (hlast he)) hkeep) ?_
      fun _ => .sending hlast hkeep
    rw [hst]
    exact .sending hlast hkeep
  · cases hn
    obtain ⟨v, me', heq, hv⟩ := sendTrailers_closes hok.wf sid (w.trailers.getD [])
    have hin : σ'.inner = me' := by
      obtain ⟨-, rfl⟩ := hs.call
      exact congrArg Prod.fst heq
    rw [heq]
    unfold afterTrailers
    dsimp only
    rcases hv with ⟨hstop, rfl⟩ | ⟨hstop, hover, f, hf, he⟩
    · rw [if_pos hstop]
      refine .ended (sendOver_step hok hs h.used (h.begun.over fun e hl => ?_))
        (fun he => by cases he) fun he => by cases he
      exact sendTrailers_stopped heq hstop e hl
    · rw [hstop, if_neg (by simp)]
      rw [← hin] at hover hf
      exact .closed ⟨hover, f, List.mem_append_right _ hf, he⟩
  · cases hn
  · cases hn

end Upload

/-! ### The producers -/

/-- The producer keeps its side: it yields chunks of bytes, or stops. -/
def Produced.sound : Produced → Bool
  | .chunk (some _) | .stop => true
  | .chunk none | .raised => false

namespace Upload

open Sys (Action Step)

variable {w : Upload} {σ : Sys}

/-- **A producer that keeps its side**, or whose stream is over anyway, leaves its writer where it
may stand. -/
theorem Fine.pulled (h : w.Fine σ sid) {pending : Option Bytes} {p : Produced}
    (hp : p.sound = false → σ.inner.SendOver sid) :
    { w with stage := w.pulled pending p }.Fine σ sid := by
  refine h.to ?_
  unfold Upload.pulled
  split
  · exact .ended (hp rfl) (fun he => by cases he) fun he => by cases he
  · next chunk =>
    have hnone : chunk = none → σ.inner.SendOver sid := fun hc => hp (by rw [hc]; rfl)
    split
    · split
      · exact .sending (fun he => by cases he) fun he => by cases he
      · exact .ended (hnone rfl) (fun he => by cases he) fun he => by cases he
    · exact .sending (fun he => by cases he) fun he => hnone (by cases he; rfl)
    · exact .keeping hnone
  · split
    · split
      · exact .idle rfl fun _ _ _ _ he => by cases he
      · exact .sending (fun he => by cases he) fun he => by cases he
    · exact .idle rfl fun _ _ _ _ he => by cases he
    · exact .sending (fun _ => rfl) fun he => by cases he
    · exact .sending (fun _ => rfl) fun he => by cases he

end Upload

/-! ### Runs -/

namespace Uploads

open Sys (Failing)

variable {u u' : Uploads} {a : Action} {cfg : Config}

/-- A step, as a relation. -/
def Step (u : Uploads) (a : Action) (u' : Uploads) : Prop := u.step a = some u'

/-- The send half of the stream streams. -/
def streams (u : Uploads) (sid : Nat) : Bool :=
  (u.sys.inner.streams.lookup sid).any (·.state.isSendStreaming)

/-- The condition on a step: a producer that raises, or yields what is not bytes, belongs to a
stream that is over. -/
def produces (u : Uploads) : Action → Bool
  | .pull sid p => p.sound || !u.streams sid
  | _ => true

/-- What holds in every state of a run in which the producers keep their side. -/
structure Inv (u : Uploads) : Prop where
  failing : u.sys.Failing
  client : u.sys.inner.role = .client
  draining : u.sys.inner.draining = true → u.sys.inner.error.isSome = true
  fine : ∀ sid w, u.writers sid = some w → w.Fine u.sys sid

theorem inv_init (hc : cfg.role = .client) : (init cfg).Inv where
  failing := Sys.failing_init cfg
  client := (Sys.role_init cfg).trans hc
  draining := fun hd => by
    obtain ⟨fc, fs, hb, -, -, -⟩ := Inner.begin_spec cfg
    have hd' : (Sys.init cfg).inner.draining = true := hd
    rw [Sys.inner_init, hb] at hd'
    cases hd'
  fine := fun _ _ hw => by cases hw

/-- **A step of the driver keeps the invariant**, where it may be taken. -/
theorem Inv.sys (h : u.Inv) {b : Sys.Action} {σ : Sys} (hs : Sys.Step u.sys b σ)
    (hm : u.mayStep b = true) : ({ u with sys := σ } : Uploads).Inv := by
  have hok := h.failing.ok
  refine ⟨⟨hok.step hs, hok.step_sealed h.failing.sealed hs fun f _ ho => ?_,
    hok.step_told h.failing.told hs⟩, (hok.grows hs).role.trans h.client, fun hd => ?_,
    fun sid w hw => (h.fine sid w hw).step hok hs⟩
  · simp [Sys.opens, h.client] at ho
  · have hkeep : u.sys.inner.draining = true → σ.inner.error.isSome = true := fun hx =>
      ((hok.grows hs).error (h.draining hx)).symm ▸ h.draining hx
    have ht := Sys.step_terms hs
    cases b with
    | call c =>
      have hd' : (u.sys.inner.termsAfter c).draining = true :=
        (congrArg Terms.draining ht).symm.trans hd
      cases c with
      | releaseWriters =>
        have he : u.sys.inner.error.isSome = true := hm
        exact ((hok.grows hs).error he).symm ▸ he
      | writerStart =>
        refine hkeep ?_
        have hterms : u.sys.inner.writerStart.1.terms.draining = true := hd'
        unfold Inner.writerStart at hterms
        split at hterms <;> exact hterms
      | _ => exact hkeep hd'
    | _ =>
      have ht' : σ.inner.terms = u.sys.inner.terms := ht
      exact hkeep ((congrArg Terms.draining ht').symm.trans hd)

/-- One writer goes on, the others stay where they stand. -/
theorem Inv.put (h : u.Inv) {sid : Nat} {w : Upload} {stage : Stage}
    (hw : { w with stage := stage }.Fine u.sys sid) : (u.put sid w stage).Inv where
  failing := h.failing
  client := h.client
  draining := h.draining
  fine := fun k w' hk => by
    have hk' : Function.update u.writers sid (some { w with stage := stage }) k = some w' := hk
    by_cases hks : k = sid
    · subst hks
      rw [Function.update_self] at hk'
      cases hk'
      exact hw
    · rw [Function.update_of_ne hks] at hk'
      exact h.fine k w' hk'

/-- `writer_start` refuses a writer only once the connection has failed. -/
theorem Inv.refused (h : u.Inv) {sid : Nat} (hr : u.sys.inner.writerStart.2 = false) :
    u.sys.inner.SendOver sid ∧ u.sys.inner.error.isSome = true := by
  have he : u.sys.inner.error.isSome = true := by
    unfold Inner.writerStart at hr
    split at hr
    · next hc =>
      rcases Bool.or_eq_true_iff.mp hc with he | hd
      · exact he
      · exact h.draining hd
    · cases hr
  exact ⟨Inner.Quiet.sendOver (h.failing.sealed he) h.failing.ok.wf, he⟩

/-- The writer of an opened request is where it may stand: its stream has begun. -/
theorem fine_start {σ : Sys} {b : Block} {st : State} {isHead : Bool} {sid : Nat}
    (hr : σ.inner.role = .client) (hst : State.idle.sendOpen false = .ok st)
    (hs : σ.inner = me.insertOpened isHead false b st) (hsid : sid = me.nextId) (body : Body)
    (trailers : Option Fields) : (Upload.start body trailers).Fine σ sid := by
  subst hsid
  refine ⟨?_, fun e he => ?_, fun _ _ _ he => ?_, fun hx => ?_, fun he => ?_, fun he => ?_⟩
  · simp only [Inner.Used, hr]
    rw [hs]
    simp [Inner.insertOpened]
  · rw [hs] at he
    have he' : (me.setStream me.nextId
        { StreamEntry.new me.peer.initialWindowSize me.recvInit isHead with
          holdsSlot := true, state := st }).streams.lookup me.nextId = some e := he
    rw [Inner.lookup_setStream, if_pos rfl] at he'
    cases he'
    cases hst
    rfl
  all_goals
    simp only [Upload.start] at *
    split at * <;> first | contradiction | (split at * <;> contradiction)

theorem Inv.request (h : u.Inv) (block : Except Err Block) (isHead : Bool) (body : Body)
    (trailers : Option Fields) : (u.request block isHead body trailers).Inv := by
  have hs : Sys.Step u.sys (.call (.openStream block false isHead))
      (u.sys.call (.openStream block false isHead)) := by
    simp [Sys.Step, Sys.step, Sys.allowed, h.client]
  have hinv := h.sys hs rfl
  unfold Uploads.request
  dsimp only
  split
  · next sid hsid =>
    refine ⟨hinv.failing, hinv.client, hinv.draining, fun k w hk => ?_⟩
    have hk' : Function.update u.writers sid (some (.start body trailers)) k = some w := hk
    by_cases hks : k = sid
    · subst hks
      rw [Function.update_self] at hk'
      cases hk'
      obtain ⟨hsid, b, st, hst, hin⟩ := Inner.openStream_opened hsid
      exact fine_start hinv.client hst hin hsid body trailers
    · rw [Function.update_of_ne hks] at hk'
      exact hinv.fine k w hk'
  · exact hinv

/-- **A step in which the producers keep their side keeps the invariant.** -/
theorem Inv.step (h : u.Inv) (hs : Step u a u') (hp : u.produces a = true) : u'.Inv := by
  unfold Step Uploads.step at hs
  cases a with
  | sys b =>
    dsimp only at hs
    split at hs
    · next hm =>
      obtain ⟨σ, hσ, rfl⟩ := Option.map_eq_some_iff.mp hs
      exact h.sys hσ hm
    · cases hs
  | request block isHead body trailers =>
    dsimp only at hs
    split at hs
    · cases hs
      exact h.request block isHead body trailers
    · cases hs
  | write sid =>
    obtain ⟨w, hw, hs⟩ := Option.bind_eq_some_iff.mp hs
    obtain ⟨⟨c, stage⟩, hn, rfl⟩ := Option.map_eq_some_iff.mp hs
    have hallowed : u.sys.allowed c = true ∧ u.mayStep (.call c) = true := by
      unfold Upload.next at hn
      split at hn
      · split at hn <;> cases hn
        exact ⟨rfl, rfl⟩
      all_goals cases hn
      all_goals exact ⟨rfl, rfl⟩
    have hstep : Sys.Step u.sys (.call c) (u.sys.call c) := by
      simp [Sys.Step, Sys.step, hallowed.1]
    have hfine := (h.fine sid w hw).next h.failing.ok h.refused hn hstep
    exact (h.sys hstep hallowed.2).put hfine
  | pull sid p =>
    obtain ⟨w, hw, hs⟩ := Option.bind_eq_some_iff.mp hs
    split at hs
    · next pending hst =>
      cases hs
      have hf := h.fine sid w hw
      refine h.put (hf.pulled fun hsound => hf.begun.over fun e he => ?_)
      simpa [produces, hsound, streams, he] using hp
    · cases hs
  | abandon sid =>
    obtain ⟨w, hw, hs⟩ := Option.bind_eq_some_iff.mp hs
    have hput : sid ∈ u.sys.notified → (u.put sid w (.ended .stopped)).Inv := fun hm => by
      have hover := Inner.sendOver_of_dead h.failing.ok.wf (h.failing.told sid hm).2
      exact h.put ((h.fine sid w hw).to
        (.ended hover (fun he => by cases he) fun he => by cases he))
    split at hs
    all_goals first
      | (split at hs
         · next hm =>
           cases hs
           exact hput hm
         · cases hs)
      | cases hs

/-- The runs of a client with its writers. -/
abbrev Run (cfg : Config) (u : Uploads) : Prop :=
  Reach Step (fun u a => u.produces a = true) (init cfg) u

end Uploads

end Httpunk.H2
