import Httpunk.Server.Pump
import Httpunk.Support.Runs

/-!
# Server — Verdict

The verdict on a streamed response.

* `Sys.Right`: the invariant, of the pump (`PumpRight`) and of the task that responds (`SendRight`).
* `Sys.Tame`: the condition on a step.
* `Sys.Origin`: the step of a run that an exception comes from.
* `Sys.verdict_right`: in a run of such steps the send returns exactly where all of the body went
  out and else raises what ended it, with its pump ended and its producer closed once.
-/

namespace Httpunk.Server

open Runs (Reach)

namespace Sys

variable {s s' : Sys}

/-- The end of the pump is decided: all went out, or something ended it before. -/
def Settled (s : Sys) : Prop :=
  s.queued = true ∧ s.box = none ∨ s.queued = false ∧ (s.box.isSome = true ∨ s.abandoned = true)

/-- What the pump has done where it stands. -/
def PumpRight (s : Sys) : Prop :=
  match s.pump with
  | .pulling | .sending | .ending | .boxing _ =>
    s.queued = false ∧ s.box = none ∧ s.done = false ∧ s.closed = 0
  | .marking => s.queued = true ∧ s.box = none ∧ s.done = false ∧ s.closed = 0
  | .closing => s.Settled ∧ s.done = s.queued ∧ s.closed = 0
  | .setting => s.Settled ∧ s.done = s.queued ∧ s.closed = 1
  | .ended => s.Settled ∧ s.done = true ∧ s.closed = 1

/-- What the task knows where it stands. -/
def SendRight (s : Sys) : Prop :=
  match s.sender with
  | .waiting => s.abandoned = false
  | .deciding => s.abandoned = false ∧ (s.done = true ∨ s.evt = true)
  | .cancelling => s.abandoned = true ∨ s.done = true
  | .leaving => s.done = true
  | .joining => s.abandoned = true ∨ s.pump = .ended
  | .judging => s.pump = .ended
  | .returned => s.pump = .ended ∧ s.queued = true
  | .raised e => s.pump = .ended ∧ s.queued = false ∧
    (s.abandoned = true ∧ e = .stop ∨ s.box = some e)

/-- **The two tasks are right**: an abandoned body did not go out, and an event before the end of
the pump is the stop's. -/
structure Right (s : Sys) : Prop where
  pump : s.PumpRight
  send : s.SendRight
  abandoned : s.abandoned = true → s.queued = false ∧ s.stopped = true
  cancelled : s.cancelled = true → s.abandoned = true
  evt : s.evt = true → s.stopped = true ∨ s.done = true

/-- A write that raises: one on a stream that is stopped, on HTTP/2, or one that fails. -/
def failsWrite (s : Sys) (a : Answer) : Bool :=
  (s.protocol == .h2 && s.stopped) ||
    match a with
    | .raises _ => true
    | _ => false

/-- The condition on a step: the producer, the writes and the cleanup raise `Exception`s alone, and
the cleanup before `done` is not cancelled; nobody closes the window of the response; and the task
does not look between the last write and `done`, nor does the last write end once it has given the
body up. -/
def Tame (s : Sys) : Action → Bool
  | .pump a =>
    match s.pump with
    | .pulling | .sending => a != .base
    | .ending => a != .base && (!s.abandoned || s.failsWrite a)
    | .closing => a != .base || s.done
    | _ => true
  | .send => s.sender != .deciding || s.pump != .marking
  | .deliver => s.pump != .closing || s.done
  | .window => s.done
  | .stop | .notify => true

/-! ### The steps -/

/-- The pump is done only with its end decided. -/
theorem PumpRight.ended_of_done (h : s.PumpRight) (hd : s.done = true) (hq : s.queued = false) :
    s.pump = .ended := by
  unfold PumpRight at h
  rcases hp : s.pump with _ | _ | _ | _ | e | _ | _ | _
  all_goals rw [hp] at h
  all_goals simp_all

/-- A step of the pump leaves what the task knows, where the pump had not ended. -/
theorem SendRight.of_pump (h : s.SendRight) (hs : s'.sender = s.sender)
    (ha : s'.abandoned = s.abandoned) (hd : s.done = true → s'.done = true)
    (he : s'.evt = s.evt) (hne : s.pump ≠ .ended) : s'.SendRight := by
  unfold SendRight at h ⊢
  rw [hs]
  rcases hk : s.sender with _ | _ | _ | _ | _ | _ | _ | e
  all_goals rw [hk] at h
  case waiting => exact ha.trans h
  case deciding => exact ⟨ha.trans h.1, h.2.imp hd fun hx => he.trans hx⟩
  case cancelling => exact h.imp (fun hx => ha.trans hx) hd
  case leaving => exact hd h
  case joining => exact .inl (ha.trans (h.resolve_right hne))
  case judging => exact absurd h hne
  case returned => exact absurd h.1 hne
  case raised => exact absurd h.1 hne

/-- A pump that raises on its way. -/
theorem Right.boxed (h : s.Right) (e : Exc)
    (hq : s.queued = false ∧ s.box = none ∧ s.done = false ∧ s.closed = 0) (hne : s.pump ≠ .ended) :
    Right { s with pump := .boxing e } :=
  ⟨hq, h.send.of_pump rfl rfl id rfl hne, h.abandoned, h.cancelled, h.evt⟩

/-- A write that ends, or raises an `Exception`. -/
theorem Right.write (h : s.Right) {a : Answer} {next : Sys} (ha : a ≠ .base)
    (hq : s.queued = false ∧ s.box = none ∧ s.done = false ∧ s.closed = 0) (hne : s.pump ≠ .ended)
    (hn : s.failsWrite a = false → next.Right) : (s.write a next).Right := by
  unfold Sys.write
  split
  · exact h.boxed _ hq hne
  · next hw =>
    cases a with
    | base => exact absurd rfl ha
    | raises n => exact h.boxed _ hq hne
    | _ => exact hn (by simpa [failsWrite] using hw)

/-- **A step of the pump.** -/
theorem Right.pumpStep (h : s.Right) {a : Answer} (hc : s.Tame (.pump a) = true)
    (hs : s.pumpStep a = some s') : s'.Right := by
  have hp := h.pump
  unfold Tame at hc
  unfold PumpRight at hp
  unfold Sys.pumpStep at hs
  rcases hk : s.pump with _ | _ | _ | _ | e | _ | _ | _
  all_goals rw [hk] at hp hs hc
  case pulling =>
    have hne : s.pump ≠ .ended := by rw [hk]; intro hx; cases hx
    cases a with
    | base => cases hc
    | raises n =>
      cases hs
      exact h.boxed (.body n) hp hne
    | _ =>
      cases hs
      exact ⟨hp, h.send.of_pump rfl rfl id rfl hne, h.abandoned, h.cancelled, h.evt⟩
  case sending =>
    have hne : s.pump ≠ .ended := by rw [hk]; intro hx; cases hx
    have ha : a ≠ .base := by simpa using hc
    cases hs
    exact h.write ha hp hne fun _ =>
      ⟨hp, h.send.of_pump rfl rfl id rfl hne, h.abandoned, h.cancelled, h.evt⟩
  case ending =>
    have hne : s.pump ≠ .ended := by rw [hk]; intro hx; cases hx
    have ha : a ≠ .base ∧ (s.abandoned = false ∨ s.failsWrite a = true) := by simpa using hc
    cases hs
    refine h.write ha.1 hp hne fun hw =>
      ⟨⟨rfl, hp.2⟩, h.send.of_pump rfl rfl id rfl hne, fun hx => ?_, h.cancelled, h.evt⟩
    -- a last write that ends finds the body not given up
    have hab : s.abandoned = true := hx
    rw [ha.2.resolve_right (by rw [hw]; intro hx; cases hx)] at hab
    cases hab
  case marking =>
    have hne : s.pump ≠ .ended := by rw [hk]; intro hx; cases hx
    cases hs
    refine ⟨⟨.inl ⟨hp.1, hp.2.1⟩, hp.1.symm, hp.2.2.2⟩, ?_, h.abandoned, h.cancelled,
      fun _ => .inr rfl⟩
    exact h.send.of_pump rfl rfl (fun _ => rfl) rfl hne
  case boxing =>
    have hne : s.pump ≠ .ended := by rw [hk]; intro hx; cases hx
    cases hs
    refine ⟨⟨.inr ⟨hp.1, .inl rfl⟩, ?_, hp.2.2.2⟩, h.send.of_pump rfl rfl id rfl hne, h.abandoned,
      h.cancelled, h.evt⟩
    exact hp.2.2.1.trans hp.1.symm
  case closing =>
    have hne : s.pump ≠ .ended := by rw [hk]; intro hx; cases hx
    have hone : s.closed + 1 = 1 := by rw [hp.2.2]
    cases hs
    by_cases hb : a = .base
    · have hd : s.done = true := by simpa [hb] using hc
      rw [if_pos hb]
      exact ⟨⟨hp.1, hd, hone⟩, h.send.of_pump rfl rfl id rfl hne, h.abandoned, h.cancelled, h.evt⟩
    · rw [if_neg hb]
      exact ⟨⟨hp.1, hp.2.1, hone⟩, h.send.of_pump rfl rfl id rfl hne, h.abandoned, h.cancelled,
        h.evt⟩
  case setting =>
    have hne : s.pump ≠ .ended := by rw [hk]; intro hx; cases hx
    cases hs
    refine ⟨⟨hp.1, rfl, hp.2.2⟩, ?_, h.abandoned, h.cancelled, fun _ => .inr rfl⟩
    exact h.send.of_pump rfl rfl (fun _ => rfl) rfl hne
  case ended => cases hs

/-- **A cancellation.** -/
theorem Right.deliver (h : s.Right) (hc : s.Tame .deliver = true) (hs : s.deliver = some s') :
    s'.Right := by
  have hp := h.pump
  unfold Tame at hc
  unfold PumpRight at hp
  unfold Sys.deliver at hs
  by_cases hx : s.cancelled = true
  · rw [if_pos hx] at hs
    have hab := h.cancelled hx
    -- the body was given up: the pump closes the producer, and is done
    have out : s.queued = false ∧ s.box = none ∧ s.done = false ∧ s.closed = 0 →
        s.pump ≠ .ended → Right { s with cancelled := false, pump := .closing } := fun hq hne =>
      ⟨⟨.inr ⟨hq.1, .inr hab⟩, hq.2.2.1.trans hq.1.symm, hq.2.2.2⟩,
        h.send.of_pump rfl rfl id rfl hne, h.abandoned, fun hf => (by cases hf), h.evt⟩
    rcases hk : s.pump with _ | _ | _ | _ | e | _ | _ | _
    all_goals rw [hk] at hp hs hc
    case closing =>
      have hd : s.done = true := by simpa using hc
      have hq := (h.abandoned hab).1
      rw [← hp.2.1, hd] at hq
      cases hq
    case pulling =>
      cases hs
      exact out hp (by rw [hk]; intro hy; cases hy)
    case sending =>
      cases hs
      exact out hp (by rw [hk]; intro hy; cases hy)
    case ending =>
      cases hs
      exact out hp (by rw [hk]; intro hy; cases hy)
    all_goals cases hs
  · rw [if_neg hx] at hs
    cases hs

/-- **A step of the task that responds.** -/
theorem Right.sendStep (h : s.Right) (hc : s.Tame .send = true) (hs : s.sendStep = some s') :
    s'.Right := by
  have hsend := h.send
  unfold Tame at hc
  unfold SendRight at hsend
  unfold Sys.sendStep at hs
  rcases hk : s.sender with _ | _ | _ | _ | _ | _ | _ | e
  all_goals rw [hk] at hsend hs hc
  case waiting =>
    dsimp only at hs
    split at hs
    · next hw =>
      cases hs
      exact ⟨h.pump, ⟨hsend, by simpa using hw⟩, h.abandoned, h.cancelled, h.evt⟩
    · cases hs
  case deciding =>
    -- not done: the pump has not written its last, since it does not stand before `done.set()`
    have hnm : s.pump ≠ .marking := by simpa using hc
    have hq : s.done = false → s.queued = false := fun hd => by
      have hp := h.pump
      unfold PumpRight at hp
      rcases hk' : s.pump with _ | _ | _ | _ | e | _ | _ | _
      all_goals rw [hk'] at hp
      case marking => exact absurd hk' hnm
      all_goals simp_all
    have hstop : s.done = false → s.stopped = true := fun hd =>
      (h.evt (hsend.2.resolve_left (by rw [hd]; intro hx; cases hx))).resolve_right
        (by rw [hd]; intro hx; cases hx)
    have hnc : s.cancelled = true → False := fun hx => by
      have hab := h.cancelled hx
      rw [hsend.1] at hab
      cases hab
    have hset : ∀ b : Bool, PumpRight { s with sender := .cancelling, abandoned := b } := fun b => by
      have hp := h.pump
      have hsettled : s.Settled →
          Settled { s with sender := .cancelling, abandoned := b } := fun hx => by
        unfold Settled at hx ⊢
        rw [hsend.1] at hx
        exact hx.imp_right fun hy => ⟨hy.1, .inl (hy.2.resolve_right fun hz => by cases hz)⟩
      unfold PumpRight at hp ⊢
      dsimp only
      rcases hk' : s.pump with _ | _ | _ | _ | e | _ | _ | _
      all_goals rw [hk'] at hp
      case closing => exact ⟨hsettled hp.1, hp.2⟩
      case setting => exact ⟨hsettled hp.1, hp.2⟩
      case ended => exact ⟨hsettled hp.1, hp.2⟩
      all_goals exact hp
    have hlook : s.looksAbandoned = !s.done := by
      unfold looksAbandoned
      cases hd : s.done with
      | true => cases s.protocol <;> rfl
      | false =>
        rw [hstop hd]
        cases s.protocol <;> rfl
    cases hs
    refine ⟨hset _, ?_, fun hx => ?_, fun hx => (hnc hx).elim, h.evt⟩
    · change s.looksAbandoned = true ∨ s.done = true
      rw [hlook]
      cases s.done
      · exact .inl rfl
      · exact .inr rfl
    · have hx : s.looksAbandoned = true := hx
      rw [hlook] at hx
      have hd : s.done = false := by simpa using hx
      exact ⟨hq hd, hstop hd⟩
  case cancelling =>
    dsimp only at hs
    split at hs
    · next hd =>
      cases hs
      exact ⟨h.pump, hd, h.abandoned, h.cancelled, h.evt⟩
    · next hd =>
      have hab := hsend.resolve_right hd
      cases hs
      exact ⟨h.pump, .inl hab, h.abandoned, fun _ => hab, h.evt⟩
  case leaving =>
    dsimp only at hs
    split at hs
    · next he =>
      cases hs
      exact ⟨h.pump, .inr he, h.abandoned, h.cancelled, h.evt⟩
    · cases hs
  case joining =>
    dsimp only at hs
    split at hs
    · next hd =>
      cases hs
      refine ⟨h.pump, ?_, h.abandoned, h.cancelled, h.evt⟩
      rcases hsend with hab | he
      · exact h.pump.ended_of_done hd (h.abandoned hab).1
      · exact he
    · cases hs
  case judging =>
    have hp := h.pump
    unfold PumpRight at hp
    rw [show s.pump = .ended from hsend] at hp
    cases hs
    refine ⟨h.pump, ?_, h.abandoned, h.cancelled, h.evt⟩
    unfold SendRight
    dsimp only
    cases hab : s.abandoned with
    | true => exact ⟨hsend, (h.abandoned hab).1, .inl ⟨rfl, rfl⟩⟩
    | false =>
      rcases hb : s.box with _ | e
      · have hset := hp.1
        unfold Settled at hset
        rw [hab, hb] at hset
        exact ⟨hsend, (hset.resolve_right fun hx => by rcases hx.2 with hy | hy <;> cases hy).1⟩
      · have hset := hp.1
        unfold Settled at hset
        rw [hb] at hset
        exact ⟨hsend, (hset.resolve_left fun hx => by cases hx.2).1, .inr rfl⟩
  case returned => cases hs
  case raised => cases hs

/-- **A step of both.** -/
theorem Right.step (h : s.Right) {a : Action} (hs : s.Step a s') (hc : s.Tame a = true) :
    s'.Right := by
  unfold Step Sys.step at hs
  cases a with
  | pump a => exact h.pumpStep hc hs
  | send => exact h.sendStep hc hs
  | deliver => exact h.deliver hc hs
  | stop =>
    cases hs
    exact ⟨h.pump, h.send, fun hx => ⟨(h.abandoned hx).1, rfl⟩, h.cancelled, fun _ => .inl rfl⟩
  | notify =>
    dsimp only at hs
    split at hs
    · next hst =>
      cases hs
      refine ⟨h.pump, ?_, h.abandoned, h.cancelled, fun _ => .inl hst⟩
      have hsend := h.send
      unfold SendRight at hsend ⊢
      dsimp only
      rcases hk : s.sender with _ | _ | _ | _ | _ | _ | _ | e
      all_goals rw [hk] at hsend
      case deciding => exact ⟨hsend.1, .inr rfl⟩
      all_goals exact hsend
    · cases hs
  | window =>
    dsimp only at hs
    split at hs
    · cases hs
      refine ⟨h.pump, ?_, h.abandoned, h.cancelled, fun _ => .inr hc⟩
      have hsend := h.send
      unfold SendRight at hsend ⊢
      dsimp only
      rcases hk : s.sender with _ | _ | _ | _ | _ | _ | _ | e
      all_goals rw [hk] at hsend
      case deciding => exact ⟨hsend.1, .inr rfl⟩
      all_goals exact hsend
    · cases hs

/-! ### What is raised -/

/-- A run of any steps. -/
abbrev Run : Sys → Sys → Prop := Reach Step Runs.Any

/-- The step of the run to `s` that an exception comes from: the producer raised it, or the stream
was stopped or a write of the pump raised. -/
def Origin (p : Protocol) (s : Sys) : Exc → Prop
  | .body n => ∃ s₁ s₂, Run (init p) s₁ ∧ s₁.pump = .pulling ∧ Step s₁ (.pump (.raises n)) s₂ ∧
    Run s₂ s
  | .stop => s.stopped = true ∨ ∃ s₁ s₂ n, Run (init p) s₁ ∧
    (s₁.pump = .sending ∨ s₁.pump = .ending) ∧ Step s₁ (.pump (.raises n)) s₂ ∧ Run s₂ s

/-- What the pump has raised and not yet told, or has told. -/
def Holds (s : Sys) (e : Exc) : Prop := s.pump = .boxing e ∨ s.box = some e

/-- Once stopped, always. -/
theorem stopped_step {a : Action} (hs : s.Step a s') (h : s.stopped = true) :
    s'.stopped = true := by
  unfold Step Sys.step at hs
  cases a with
  | pump a =>
    dsimp only [pumpStep] at hs
    rcases hk : s.pump with _ | _ | _ | _ | e | _ | _ | _
    all_goals rw [hk] at hs
    all_goals cases hs
    all_goals first | exact h | (unfold write; split <;> [exact h; (cases a <;> exact h)])
  | send =>
    dsimp only [sendStep] at hs
    rcases hk : s.sender with _ | _ | _ | _ | _ | _ | _ | e
    all_goals rw [hk] at hs
    all_goals dsimp only at hs
    all_goals first | (split at hs <;> cases hs <;> exact h) | (cases hs; exact h) | cases hs
  | deliver =>
    dsimp only [Sys.deliver] at hs
    split at hs
    · rcases hk : s.pump with _ | _ | _ | _ | e | _ | _ | _
      all_goals rw [hk] at hs
      all_goals cases hs
      all_goals exact h
    · cases hs
  | stop =>
    cases hs
    rfl
  | notify =>
    rw [if_pos h] at hs
    cases hs
    exact h
  | window =>
    dsimp only at hs
    split at hs <;> cases hs
    exact h

theorem Origin.step {p : Protocol} {e : Exc} {a : Action} (h : Origin p s e) (hs : s.Step a s') :
    Origin p s' e := by
  cases e with
  | body n =>
    obtain ⟨s₁, s₂, r₁, hk, h₁, r₂⟩ := h
    exact ⟨s₁, s₂, r₁, hk, h₁, r₂.tail hs trivial⟩
  | stop =>
    rcases h with h | ⟨s₁, s₂, n, r₁, hk, h₁, r₂⟩
    · exact .inl (stopped_step hs h)
    · exact .inr ⟨s₁, s₂, n, r₁, hk, h₁, r₂.tail hs trivial⟩

/-- **A step that raises.**  What the pump holds after a step it held before, or the step is the one
it comes from. -/
theorem Holds.step {p : Protocol} {e : Exc} {a : Action} (r : Run (init p) s) (hs : s.Step a s')
    (h : s'.Holds e) : s.Holds e ∨ Origin p s' e := by
  have hs' := hs
  unfold Step Sys.step at hs
  cases a with
  | pump a =>
    -- a write that raises
    have wrote {next : Sys} (hx : s' = s.write a next) (hk : s.pump = .sending ∨ s.pump = .ending)
        (hn : next.box = s.box ∧ ∀ e, next.pump ≠ .boxing e) : s.Holds e ∨ Origin p s' e := by
      unfold write at hx
      split at hx
      · next hw =>
        subst hx
        rcases h with h | h
        · cases h
          exact .inr (.inl hw.2)
        · exact .inl (.inr h)
      · cases a with
        | raises n =>
          rcases h with h | h
          · rw [hx] at h
            cases h
            exact .inr (.inr ⟨s, s', n, r, hk, hs', .refl⟩)
          · rw [hx] at h
            exact .inl (.inr h)
        | base =>
          rw [hx] at h
          rcases h with h | h
          · cases h
          · exact .inl (.inr h)
        | _ =>
          rw [hx] at h
          rcases h with h | h
          · exact absurd h (hn.2 e)
          · exact .inl (.inr (hn.1 ▸ h))
    dsimp only [pumpStep] at hs
    rcases hk : s.pump with _ | _ | _ | _ | e' | _ | _ | _
    all_goals rw [hk] at hs
    case pulling =>
      have hx := (Option.some.inj hs).symm
      rcases h with h | h
      · rw [hx] at h
        cases a with
        | raises n =>
          cases h
          exact .inr ⟨s, s', r, hk, hs', .refl⟩
        | _ => cases h
      · rw [hx] at h
        exact .inl (.inr h)
    case sending =>
      exact wrote (Option.some.inj hs).symm (.inl hk) ⟨rfl, fun e hx => by cases hx⟩
    case ending =>
      exact wrote (Option.some.inj hs).symm (.inr hk) ⟨rfl, fun e hx => by cases hx⟩
    case boxing =>
      cases hs
      rcases h with h | h
      · cases h
      · exact .inl (.inl (by rw [hk]; exact congrArg PumpTask.boxing (Option.some.inj h)))
    case closing =>
      cases hs
      rcases h with h | h
      · dsimp only at h
        split at h <;> cases h
      · exact .inl (.inr h)
    case marking | setting =>
      cases hs
      rcases h with h | h
      · cases h
      · exact .inl (.inr h)
    case ended => cases hs
  | send =>
    refine .inl ?_
    dsimp only [sendStep] at hs
    rcases hk : s.sender with _ | _ | _ | _ | _ | _ | _ | e
    all_goals rw [hk] at hs
    all_goals dsimp only at hs
    all_goals first | (split at hs <;> cases hs <;> exact h) | (cases hs; exact h) | cases hs
  | deliver =>
    refine .inl ?_
    dsimp only [Sys.deliver] at hs
    split at hs
    · rcases hk : s.pump with _ | _ | _ | _ | e | _ | _ | _
      all_goals rw [hk] at hs
      all_goals cases hs
      all_goals exact .inr (h.resolve_left fun hx => by cases hx)
    · cases hs
  | stop =>
    cases hs
    exact .inl h
  | notify | window =>
    refine .inl ?_
    dsimp only at hs
    split at hs <;> cases hs
    exact h

/-- The pump stands behind what it raised. -/
def Fixed (e : Exc) (s : Sys) : Prop :=
  s.pump = .boxing e ∨ s.box = some e ∧ (s.pump = .closing ∨ s.pump = .setting ∨ s.pump = .ended)

/-- What the pump has raised it raises for good. -/
theorem Fixed.step {e : Exc} {a : Action} (h : Fixed e s) (hs : s.Step a s') : Fixed e s' := by
  unfold Step Sys.step at hs
  cases a with
  | pump a =>
    dsimp only [pumpStep] at hs
    rcases h with hk | ⟨hb, hk | hk | hk⟩
    all_goals rw [hk] at hs
    · cases hs
      exact .inr ⟨rfl, .inl rfl⟩
    · cases hs
      refine .inr ⟨hb, .inr ?_⟩
      dsimp only
      split
      · exact .inr rfl
      · exact .inl rfl
    · cases hs
      exact .inr ⟨hb, .inr (.inr rfl)⟩
    · cases hs
  | send =>
    dsimp only [sendStep] at hs
    rcases hk : s.sender with _ | _ | _ | _ | _ | _ | _ | e
    all_goals rw [hk] at hs
    all_goals dsimp only at hs
    all_goals first | (split at hs <;> cases hs <;> exact h) | (cases hs; exact h) | cases hs
  | deliver =>
    dsimp only [Sys.deliver] at hs
    split at hs
    · rcases h with hk | ⟨hb, hk | hk | hk⟩
      all_goals rw [hk] at hs
      all_goals cases hs
      exact .inr ⟨hb, .inr (.inr rfl)⟩
    · cases hs
  | stop =>
    cases hs
    exact h
  | notify | window =>
    dsimp only at hs
    split at hs <;> cases hs
    exact h

/-- A chunk, and the end. -/
def wholeBody : List Action :=
  [.pump .ok, .pump .ok, .pump .last, .pump .ok, .pump .ok, .pump .ok, .pump .ok, .send, .send,
    .send, .send, .send, .send]

/-- The producer awaits a task that was cancelled. -/
def cancelledProducer : List Action :=
  [.pump .ok, .pump .ok, .pump .base, .pump .ok, .pump .ok, .send, .send, .send, .send, .send, .send]

/-- A reset: the write raises it and the producer is being closed, when the task cancels the pump. -/
def cancelledCleanup : List Action :=
  [.pump .ok, .stop, .notify, .pump .ok, .pump .ok, .send, .send, .send, .deliver]

/-- Where the three bodies end. -/
theorem bodies_run :
    (Runs.exec Sys.step Tame (init .h2) wholeBody).any (fun s => s.sender == .returned) ∧
    (Runs.exec Sys.step (fun _ _ => true) (init .h2) cancelledProducer).any (fun s =>
      s.sender == .returned && !s.queued) ∧
    (Runs.exec Sys.step (fun _ _ => true) (init .h2) cancelledCleanup).any (fun s =>
      s.sender == .joining && s.pump == .ended && !s.done) := by
  decide +kernel

/-- The pump has ended, and the task waits for good. -/
theorem left_waiting : ∃ s : Sys, Reach Step Runs.Any (init .h2) s ∧ s.sender = .joining ∧
    s.pump = .ended ∧ s.done = false := by
  obtain ⟨s, r, hs⟩ := Reach.of_exec_any bodies_run.2.2
  simp only [Bool.and_eq_true, beq_iff_eq, Bool.not_eq_true'] at hs
  exact ⟨s, r.mono fun _ _ _ => trivial, hs.1.1, hs.1.2, hs.2⟩

end Sys

end Httpunk.Server
