import Httpunk.H2.Driver.Invariant
import Httpunk.H2.Life.Recv
import Httpunk.H2.Life.Send

/-!
# H2 — Life — Driver

The steps of the driver as touches, each with the marks its frame or its call can leave.

* `Inner.dispatch_touches`, `Inner.call_touches`: one frame, one call.
* `Sys.Ok.step_touches`: one step.
-/

namespace Httpunk.H2

open Runs (Reach)

namespace Inner

variable {me : Inner}

/-- The marks a frame can add to the common ones. -/
def frameMarks (me : Inner) : Frame → Mark → Prop
  | .headers f => openMarks f.streamId
  | .data f => dataMarks f
  | .goAway f => endsOf (me.dropped f)
  | .rstStream f => (· = .ends f.streamId)
  | .windowUpdate _ | .settings _ | .ping _ | .priority _ | .streamError _ _ _ => Mark.nothing

/-- The marks of a send: what it buffers, and the end that hands the stream over. -/
def sendMarks (sid : Nat) (v : Except Err SendVerdict) (m : Mark) : Prop :=
  (∃ n, m = .buffer sid n ∨ m = .credit sid n) ∨ endMarks sid (sendHandle v) m

/-- The marks a call can add to the common ones. -/
def callMarks (me : Inner) : Call → Mark → Prop
  | .tryClaimSlot => (· = .claim)
  | .releaseSlot => (· = .unclaim)
  | .openStream _ _ _ => fun m => m = .unclaim ∨ m = .requested me.nextId
  | .sendData sid data offset endStream => sendMarks sid (me.sendData sid data offset endStream).2
  | .sendTrailers sid trailers => endMarks sid (sendHandle (me.sendTrailers sid trailers).2)
  | .sendResponseHead sid status fields endStream date =>
    endMarks sid (sendHandle (me.sendResponseHead sid status fields endStream date).2)
  | .resetStream sid _ _ | .acloseBody sid => (· = .ends sid)
  | .creditWritten => (· = .written)
  | .fail _ _ => endsOf me.streams.keys
  | _ => Mark.nothing

theorem dispatch_touches (h : me.Wf) (f : Frame) :
    Touches (frameMarks me f) me (me.dispatch f).1 := by
  cases f with
  | headers f => exact (recvHeaders_outcome h f _).touches
  | data f => exact (recvData_outcome h f).touches
  | windowUpdate f => exact Touches.still (recvWindowUpdate_still me f)
  | settings f => exact Touches.still (recvSettings_still me f)
  | ping f => exact Touches.still (recvPing_still me f)
  | goAway f => exact recvGoAway_touches me f
  | rstStream f => exact recvReset_touches me f
  | priority _ => exact .refl
  | streamError _ _ _ => exact .refl

theorem Buffered.touches {sid : Nat} {r : Inner × Except Err SendVerdict}
    (h : Buffered sid me r) : Touches (sendMarks sid r.2) me r.1 := by
  rcases h with h | ⟨n, s₁, s₂, s₃, s₄, h₁, hb, h₂, hc, h₃⟩
  · exact h.touches.mono fun m hm => .inr hm
  · have hbuf : Touches (sendMarks sid r.2) s₁ s₂ := Touches.one hb (.inl ⟨n, .inl rfl⟩)
    have hcr : Touches (sendMarks sid r.2) s₃ s₄ := Touches.one hc (.inl ⟨n, .inr rfl⟩)
    exact ((((Touches.still h₁).trans hbuf).trans (Touches.still h₂)).trans hcr).trans
      (h₃.touches.mono fun m hm => .inr hm)

theorem call_touches (h : me.Wf) (c : Call)
    (hopen : ∀ request eos isHead, c = .openStream request eos isHead → me.role = .client) :
    Touches (callMarks me c) me (me.call c).1 := by
  cases c with
  | tryClaimSlot =>
      unfold call tryClaimSlot
      dsimp only
      split
      · exact Touches.one .claim rfl
      · exact .refl
  | releaseSlot => exact Touches.one .unclaim rfl
  | openStream request eos isHead =>
      rcases openStream_touch h request eos isHead (hopen _ _ _ rfl) with ht | ht
      · exact Touches.one ht (.inl rfl)
      · exact Touches.one ht (.inr rfl)
  | sendData sid data offset eos => exact (sendData_buffered h sid data offset eos).touches
  | sendTrailers sid trailers => exact (sendTrailers_ends me sid trailers).touches
  | sendResponseHead sid status fields eos date =>
      exact sendResponseHead_touches me sid status fields eos date
  | resetStream sid reason initiator => exact resetStream_touches me sid reason initiator
  | acloseBody sid => exact acloseBody_touches me sid
  | releaseCapacity sid n => exact releaseCapacityInner_touches me sid n
  | releaseDataFrame sid n => exact releaseDataFrame_touches me sid n
  | accepted sid => exact Touches.still { Still.refl me with }
  | stopPump => exact Touches.still { Still.refl me with }
  | writerStart =>
      unfold call writerStart
      dsimp only
      split
      · exact .refl
      · exact Touches.still { Still.refl me with }
  | writerEnd => exact Touches.still { Still.refl me with }
  | releaseWriters => exact Touches.still { Still.refl me with }
  | creditWritten => exact Touches.one .written rfl
  | nextCapacityWake => exact Touches.still (nextCapacityWake_still me)
  | sendGoaway reason debugData => exact Touches.still (.emit _ _)
  | fail exc message => exact fail_touches me exc message
  | beginGracefulShutdown => exact Touches.still (beginGracefulShutdown_still me)

end Inner

namespace Sys

variable {s s' : Sys} {a : Action}

/-- The marks a step can add to the common ones. -/
def marks (s : Sys) : Action → Mark → Prop
  | .recv f => s.inner.frameMarks f
  | .call c => s.inner.callMarks c
  | .pump =>
    match s.pump with
    | .resetting sid _ => (· = .ends sid)
    | .failing _ => Inner.endsOf s.inner.streams.keys
    | _ => Mark.nothing
  | .flush => (· = .take)
  | _ => Mark.nothing

theorem recv_inner (s : Sys) (f : Frame) : (s.recv f).inner = (s.inner.dispatch f).1 := by
  unfold recv
  dsimp only
  split <;> rfl

/-- **A step of the driver is a run of touches.** -/
theorem Ok.step_touches (h : s.Ok) (hs : Step s a s') :
    Touches (s.marks a) s.inner s'.inner := by
  unfold Step Sys.step at hs
  cases a with
  | recv f =>
      dsimp only at hs
      split at hs
      · cases hs
        rw [recv_inner]
        exact Inner.dispatch_touches h.wf f
      · cases hs
  | raised e =>
      dsimp only at hs
      split at hs
      · cases hs; exact .refl
      · cases hs
  | pump =>
      dsimp only at hs
      unfold pumpStep at hs
      unfold marks
      cases hp : s.pump with
      | resetting sid reason =>
          rw [hp] at hs
          dsimp only at hs
          split at hs <;> cases hs <;> exact Inner.resetOnError_touches _ _ _
      | closing reason debugData e =>
          rw [hp] at hs
          cases hs
          exact Touches.still (.emit _ _)
      | failing e =>
          rw [hp] at hs
          cases hs
          exact Inner.fail_touches _ _ _
      | running => rw [hp] at hs; cases hs
      | done => rw [hp] at hs; cases hs
  | reply =>
      dsimp only at hs
      split at hs
      · cases hs; exact Touches.still (Inner.maybeGoawayReply_still _)
      · cases hs
  | call c =>
      dsimp only at hs
      split at hs
      · next hc =>
        cases hs
        refine Inner.call_touches h.wf c ?_
        rintro request eos isHead rfl
        simpa [allowed] using hc
      · cases hs
  | flush =>
      cases hs
      have ht : Touches (· = .take) s.inner
          { s.inner with credit := [], inflightCredit := s.inner.inflightCredit ++ s.inner.credit } :=
        Touches.one .take rfl
      exact ht.trans (Touches.still { Still.refl _ with })
  | tick d =>
      cases hs
      exact Touches.still { Still.refl s.inner with }
  | rehash m =>
      dsimp only at hs
      split at hs
      · next hm => cases hs; exact Touches.still (.perm _ hm)
      · cases hs

end Sys

end Httpunk.H2
