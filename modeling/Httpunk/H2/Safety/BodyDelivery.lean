import Httpunk.H2.Reader.Handles

/-!
# H2 — Safety — Body delivery

What the driver puts on a body queue is the message the peer sent, and its end.

* `Feed.AnswersError f k`: the driver is about to answer an error of the stream `k`.
* `Feed.body_delivered`: the payloads read are those taken; the queue is ended when the stream can
  receive nothing more; and cleanly just where the message was received to its end.
* `Feed.empty_item`: the last payload of a message may be empty.
-/

namespace Httpunk.H2

open Mailbox
open Runs (Reach)

namespace Feed

variable {cfg : Config} {f : Feed} {k : Nat}

/-- The read pump has caught an error of `k`, and resets the stream next. -/
def AnswersError (f : Feed) (k : Nat) : Prop := ∃ reason, f.sys.pump = .resetting k reason

theorem phase_answering (h : (f.reader k).phase = .answering) : f.AnswersError k := by
  have hp : f.sys.pump.phase k = .answering := h
  unfold Pump.phase at hp
  split at hp
  · cases hp
  · next sid reason hs =>
    split at hp
    · next hk => exact ⟨reason, hk ▸ hs⟩
    · cases hp
  all_goals cases hp

/-- **Bodies are delivered.**  In every state the driver reaches, for every stream handed to the
application: the payloads up to the first terminal item are those taken from the peer, in order,
each with bytes but for the last of a complete message; the first terminal item is a clean end
just if the message was received to its end; and once the stream can receive nothing more the
terminal item is there, with the event of the head, but while an error of the stream is still to be
answered, and where the reset that was to answer it told nobody. -/
theorem body_delivered (r : Reach Step Runs.Any (init cfg) f) (hk : f.surfaced k = true) :
    (chunks (f.queue k)).map Prod.fst = (f.message k).payloads ∧
      Reader.Solid (f.message k) ∧
      (ending (f.queue k) = some none ↔ (f.message k).complete = true) ∧
      (¬f.sys.inner.Receiving k →
        (ending (f.queue k)).isSome = true ∧
            (f.sys.inner.role = .client → f.headSet k = true) ∨
          f.AnswersError k ∨ f.lost k = true) := by
  have hok := reader_ok r hk
  refine ⟨hok.payloads, hok.solid, hok.clean, fun hn => ?_⟩
  have hfinite := (ok_run r).sys.wf.finite k
  have hnr : ¬(f.reader k).Receiving := fun hr => hn ((Inner.side_receiving_iff hfinite).mp hr)
  rcases hok.told with hr | he | ha | hl
  · exact absurd hr hnr
  · refine .inl ⟨he, fun hc => ?_⟩
    have hh : (f.headSet k || decide (f.sys.inner.role = .server)) = true := hok.head he
    rw [hc] at hh
    simpa using hh
  · exact .inr (.inl (phase_answering ha))
  · exact .inr (.inr hl)

theorem reached_of_exec (cfg : Config) (as : List Sys.Action) (p : Feed → Bool)
    (h : (Runs.exec step (fun _ _ => true) (init cfg) as).any p = true) :
    ∃ f, Reach Step Runs.Any (init cfg) f ∧ p f = true := by
  obtain ⟨f, r, hp⟩ := Reach.of_exec_any h
  exact ⟨f, r.mono fun _ _ _ => trivial, hp⟩

/-- A request with a body of two frames, and the peer's reset before its end. -/
def cutShort : List Sys.Action := [
  .recv (.headers { streamId := 1, inRange := inRange_one, endStream := false }),
  .recv (.data { streamId := 1, inRange := inRange_one, endStream := false, data := [1, 2] }),
  .recv (.data { streamId := 1, inRange := inRange_one, endStream := false, data := [3] }),
  .recv (.rstStream { streamId := 1, errorCode := .cancel })]

/-- The reader reads both payloads, and no clean end. -/
theorem body_delivered_cut : ∃ f, Reach Step Runs.Any (init Sys.serverConfig) f ∧
    (chunks (f.queue 1)).map Prod.fst = [[1, 2], [3]] ∧
      (ending (f.queue 1)).isSome = true ∧ ending (f.queue 1) ≠ some none := by
  obtain ⟨f, r, hf⟩ := reached_of_exec Sys.serverConfig cutShort
    (fun f => f.surfaced 1 && decide ((f.message 1).payloads = [[1, 2], [3]] ∧
      (f.message 1).complete = false ∧ f.lost 1 = false ∧ f.sys.inner.side 1 = none ∧
        f.sys.pump = .running)) (by decide +kernel)
  simp only [Bool.and_eq_true, decide_eq_true_eq] at hf
  obtain ⟨hs, hm, hc, hl, hn, hp⟩ := hf
  obtain ⟨hq, -, hclean, hend⟩ := body_delivered r hs
  have hnr : ¬f.sys.inner.Receiving 1 := fun hr => by
    obtain ⟨half, hx⟩ := (Inner.side_receiving_iff ((ok_run r).sys.wf.finite 1)).mpr hr
    rw [hn] at hx
    cases hx
  refine ⟨f, r, hq.trans hm, ?_, fun hx => ?_⟩
  · rcases hend hnr with ⟨he, -⟩ | ⟨reason, hr⟩ | hl'
    · exact he
    · rw [hp] at hr
      cases hr
    · rw [hl] at hl'
      cases hl'
  · rw [hclean, hc] at hx
    cases hx

/-- A request with an empty body, ended by an empty DATA frame. -/
def emptyBody : List Sys.Action := [
  .recv (.headers { streamId := 1, inRange := inRange_one, endStream := false }),
  .recv (.data { streamId := 1, inRange := inRange_one, endStream := true, data := [] })]

/-- An empty payload is read, which is none of the payloads that have bytes. -/
theorem empty_item : ¬∀ (cfg : Config) (f : Feed), Reach Step Runs.Any (init cfg) f → ∀ k,
    f.surfaced k = true → (chunks (f.queue k)).map Prod.fst =
      (f.message k).payloads.filter fun p => !p.isEmpty := by
  intro h
  obtain ⟨f, r, hf⟩ := reached_of_exec Sys.serverConfig emptyBody
    (fun f => f.surfaced 1 && decide ((chunks (f.queue 1)).map Prod.fst = [[]] ∧
      (f.message 1).payloads = [[]])) (by decide +kernel)
  simp only [Bool.and_eq_true, decide_eq_true_eq] at hf
  obtain ⟨hs, hq, hm⟩ := hf
  have hk := h Sys.serverConfig f r 1 hs
  rw [hq, hm] at hk
  cases hk

end Feed

end Httpunk.H2
