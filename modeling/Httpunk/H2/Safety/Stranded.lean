import Httpunk.H2.Driver.Writer
import Httpunk.H2.Safety.Wakes

/-!
# H2 — Safety — Stranded

No committed frame is stranded.  Whatever is queued is flagged to the task that queued it, or
what answers its exception is; and a wake that comes after the pump has cleared its event stays.

* `Sys.step_answered`, `Sys.step_excused`: one step of the driver.
* `Writer.Attended`: the frames that are queued will be taken.
* `Writer.nothing_stranded`: the result, in every state reached.
-/

namespace Httpunk.H2

open Runs (Reach)
open Httpunk.H2.Inner

/-- The connection is about to fail. -/
def Pump.ending : Pump → Prop
  | .closing _ _ _ | .failing _ => True
  | .running | .resetting _ _ | .done => False

theorem Pump.ending_caught {e : Err} (h : e.ofConn = true) : (Pump.caught e).ending := by
  cases e <;> trivial

/-- One of the flags asks for the write pump. -/
def Flagged (flags : List Flags) : Prop := ∃ f ∈ flags, f.wake = true

theorem flagged_one {f : Flags} (h : f.wake = true) : Flagged [f] := ⟨f, .head _, h⟩

theorem Flagged.append_left {a : List Flags} (h : Flagged a) (b : List Flags) :
    Flagged (a ++ b) := by
  obtain ⟨f, hf, hw⟩ := h
  exact ⟨f, List.mem_append_left _ hf, hw⟩

theorem Flagged.append_right {b : List Flags} (h : Flagged b) (a : List Flags) :
    Flagged (a ++ b) := by
  obtain ⟨f, hf, hw⟩ := h
  exact ⟨f, List.mem_append_right _ hf, hw⟩

namespace Inner

variable {me s : Inner}

/-- A call that does not fail the connection is flagged. -/
theorem call_woken (h : me.Wf) (c : Call) (hc : ∀ exc message, c ≠ .fail exc message) :
    Woken me (me.call c).1 (me.callFlags c) := by
  cases c with
  | tryClaimSlot =>
      simp only [call, tryClaimSlot]
      split <;> exact .same rfl
  | openStream request eos isHead =>
      simp only [call, callFlags, openStream]
      repeat' split
      all_goals first | exact .inr rfl | exact .same rfl
  | sendData sid data offset eos => exact sendData_woken h sid data offset eos
  | sendTrailers sid trailers => exact sendTrailers_woken me sid trailers
  | sendResponseHead sid status fields eos date =>
      exact sendResponseHead_woken me sid status fields eos date
  | resetStream sid reason initiator => exact resetStreamCall_woken me sid reason initiator
  | acloseBody sid => exact acloseBody_woken me sid
  | releaseCapacity sid n => exact Woken.wakeFlag me _
  | releaseDataFrame sid n => exact .same (releaseDataFrame_pending me sid n)
  | writerStart =>
      simp only [call, writerStart]
      split <;> exact .same rfl
  | creditWritten => exact .same (creditAll_pending _ _ _)
  | nextCapacityWake => exact .same (pending_admitCapacityFront me)
  | sendGoaway reason debugData => exact Woken.wakeFlag me _
  | fail exc message => exact absurd rfl (hc exc message)
  | beginGracefulShutdown =>
      simp only [call, callFlags, beginGracefulShutdown]
      split
      · exact .same rfl
      · exact Woken.wakeFlag me _
  | _ => exact .same rfl

theorem pending_eq_of_moves {extra : Kind → Prop} (r : Moves extra me s)
    (hle : s.pending.length ≤ me.pending.length) : s.pending = me.pending := by
  obtain ⟨fs, hfs, -⟩ := r.frames (q := fun _ => false) fun _ _ _ _ _ _ _ => rfl
  rw [hfs, List.length_append] at hle
  have hnil : fs = [] := List.eq_nil_of_length_eq_zero (by omega)
  rw [hfs, hnil, List.append_nil]

end Inner

/-! ### One step of the driver -/

namespace Sys

variable {σ σ' : Sys} {a : Action} {cfg : Config}

/-- What is queued needs no flag: the connection is about to fail, or an error reset is to come
that queues a frame of its own. -/
def Excused (σ : Sys) : Prop :=
  σ.pump.ending ∨ ∃ sid reason, σ.pump = .resetting sid reason ∧ σ.inner.Hearing sid

/-- What the steps of the driver keep, on either side. -/
structure Sound (σ : Sys) : Prop where
  ok : σ.Ok
  serves : σ.inner.role = .server → σ.Serves

theorem sound_init (cfg : Config) : (init cfg).Sound := ⟨ok_init cfg, fun _ => serves_init cfg⟩

theorem Sound.step (h : σ.Sound) (hs : Step σ a σ') : σ'.Sound where
  ok := h.ok.step hs
  serves := fun hr =>
    have hr' : σ.inner.role = .server := (h.ok.grows hs).role.symm.trans hr
    serves_step h.ok hr' (h.serves hr') hs

/-- A server holds no closed stream. -/
theorem Sound.unclosed (h : σ.Sound) (hr : σ.inner.role = .server)
    (k : Nat) (e : StreamEntry) (he : σ.inner.streams.lookup k = some e) :
    e.state.isClosed = false :=
  State.isClosed_of_isSendClosed ((h.serves hr k e he).resolve_right id)

/-- **What a step queued** is flagged, or excused. -/
theorem step_answered (h : σ.Sound) (hs : Step σ a σ') (ha : a ≠ .flush) :
    σ'.inner.pending = σ.inner.pending ∨ Flagged (σ.verdicts a) ∨ σ.fails a = true ∨
      σ'.Excused := by
  have hsame : σ'.inner.pending.length ≤ σ.inner.pending.length →
      σ'.inner.pending = σ.inner.pending := pending_eq_of_moves (h.ok.step_moves hs ha)
  have hwoken : ∀ {f : Flags}, Woken σ.inner σ'.inner f → σ.verdicts a = [f] →
      σ'.inner.pending = σ.inner.pending ∨ Flagged (σ.verdicts a) ∨ σ.fails a = true ∨
        σ'.Excused := fun {f} hw hv =>
    hw.imp hsame fun hf => .inl (by rw [hv]; exact flagged_one hf)
  cases a with
  | recv f =>
      obtain ⟨hp, rfl⟩ := hs.recv
      have han := dispatch_answered f fun hr => h.unclosed hr
      unfold Answered at han
      rcases hd : (σ.inner.dispatch f).2 with err | v
      · rw [hd] at han
        have hin : (σ.recv f).inner = (σ.inner.dispatch f).1 := recv_inner σ f
        have hpump : (σ.recv f).pump = .caught err := by
          unfold recv
          dsimp only
          rw [hd]
        rcases han with hle | hconn | ⟨sid, code, rfl, hh⟩
        · exact .inl (hsame (by rw [hin]; exact hle))
        · exact .inr (.inr (.inr (.inl (hpump ▸ Pump.ending_caught hconn))))
        · exact .inr (.inr (.inr (.inr ⟨sid, code, hpump, by rw [hin]; exact hh⟩)))
      · rw [hd] at han
        refine hwoken (f := v.flags) (by rw [recv_inner]; exact han) ?_
        unfold verdicts
        dsimp only
        rw [hd]
  | raised e =>
      unfold Step step at hs
      dsimp only at hs
      split at hs <;> cases hs
      exact .inl rfl
  | pump =>
      unfold Step step pumpStep at hs
      dsimp only at hs
      cases hp : σ.pump with
      | resetting sid reason =>
          rw [hp] at hs
          dsimp only at hs
          split at hs
          · next v hv =>
            cases hs
            refine hwoken (f := v.flags) (resetOnError_woken hv) ?_
            unfold verdicts
            dsimp only
            rw [hp]
            dsimp only
            rw [hv]
          · next err hv =>
            cases hs
            exact .inl (congrArg Inner.pending (resetOnError_refused hv).1)
      | closing reason debugData e =>
          rw [hp] at hs
          cases hs
          exact .inr (.inr (.inr (.inl trivial)))
      | failing e =>
          refine .inr (.inr (.inl ?_))
          unfold fails
          dsimp only
          rw [hp]
      | running => rw [hp] at hs; cases hs
      | done => rw [hp] at hs; cases hs
  | reply =>
      unfold Step step at hs
      dsimp only at hs
      split at hs <;> cases hs
      exact hwoken (maybeGoawayReply_woken σ.inner) rfl
  | call c =>
      obtain ⟨-, rfl⟩ := hs.call
      by_cases hc : ∀ exc message, c ≠ .fail exc message
      · exact hwoken (call_woken h.ok.wf c hc) rfl
      · simp only [not_forall, not_not] at hc
        obtain ⟨exc, message, rfl⟩ := hc
        exact .inr (.inr (.inl rfl))
  | flush => exact absurd rfl ha
  | tick d =>
      cases hs
      exact .inl rfl
  | rehash m =>
      unfold Step step at hs
      dsimp only at hs
      split at hs <;> cases hs
      exact .inl rfl

/-- **What is excused stays so** until the connection fails, or the error reset is made. -/
theorem step_excused (h : σ.Sound) (hx : σ.Excused) (hs : Step σ a σ') :
    Flagged (σ.verdicts a) ∨ σ.fails a = true ∨ σ'.Excused := by
  have hrun : σ.pump ≠ .running := fun hp => by
    rcases hx with hx | ⟨sid, reason, hx, -⟩
    · rw [hp] at hx
      exact hx
    · rw [hp] at hx
      cases hx
  have hsame : σ'.pump = σ.pump → (∀ k, σ.inner.Hearing k → σ'.inner.Hearing k) →
      σ'.Excused := fun hp hh =>
    hx.imp (fun h => hp ▸ h) fun ⟨sid, reason, hr, hk⟩ => ⟨sid, reason, hp.trans hr, hh sid hk⟩
  unfold Step at hs
  cases a with
  | recv f => exact absurd (Step.recv hs).1 hrun
  | raised e =>
      unfold step at hs
      dsimp only at hs
      rw [if_neg hrun] at hs
      cases hs
  | pump =>
      unfold step pumpStep at hs
      dsimp only at hs
      cases hp : σ.pump with
      | resetting sid reason =>
          rw [hp] at hs
          dsimp only at hs
          split at hs
          · next v hv =>
            cases hs
            refine .inl ?_
            unfold verdicts
            dsimp only
            rw [hp]
            dsimp only
            rw [hv]
            refine flagged_one (resetOnError_heard ?_ hv)
            rcases hx with hx | ⟨sid', reason', hx, hh⟩
            · rw [hp] at hx
              exact hx.elim
            · rw [hp] at hx
              cases hx
              exact hh
          · next err hv =>
            cases hs
            rw [(resetOnError_refused hv).2]
            exact .inr (.inr (.inl trivial))
      | closing reason debugData e =>
          rw [hp] at hs
          cases hs
          exact .inr (.inr (.inl trivial))
      | failing e =>
          refine .inr (.inl ?_)
          unfold fails
          dsimp only
          rw [hp]
      | running => rw [hp] at hs; cases hs
      | done => rw [hp] at hs; cases hs
  | reply =>
      unfold step at hs
      dsimp only at hs
      rw [if_neg hrun] at hs
      cases hs
  | call c =>
      obtain ⟨hal, rfl⟩ := Step.call hs
      refine .inr (.inr (hsame rfl fun k hk => call_hearing h.ok.wf hk c ?_))
      rintro request eos isHead rfl
      simpa [allowed] using hal
  | flush =>
      cases hs
      exact .inr (.inr (hsame rfl fun k hk => hk))
  | tick d =>
      cases hs
      exact .inr (.inr (hsame rfl fun k hk => hk))
  | rehash m =>
      unfold step at hs
      dsimp only at hs
      split at hs
      · next hm =>
        cases hs
        exact .inr (.inr (hsame rfl fun k => (Still.perm σ.inner hm).hearing))
      · cases hs

/-- A call under which the terms stay. -/
theorem stop_of_step (hs : Step σ a σ') (h : σ.inner.stop = true) : σ'.inner.stop = true := by
  have ht := congrArg Terms.stop (step_terms hs)
  cases a with
  | call c =>
      dsimp only at ht
      refine ht.trans ?_
      cases c with
      | stopPump => rfl
      | writerStart =>
          simp only [termsAfter, writerStart]
          split <;> exact h
      | _ => exact h
  | _ => exact ht.trans h

end Sys

/-! ### The write path -/

namespace Writer

variable {w w' : Writer} {a : Action} {cfg : Config}

/-- What is queued will be taken: the write pump was woken and has not taken it, it or a flush is
about to, or a task is still to wake it. -/
def Attended (w : Writer) : Prop :=
  w.event = true ∨ w.takes = true ∨ 0 < w.flushing ∨ Flagged w.due

/-- What holds between any two steps. -/
structure Inv (w : Writer) : Prop where
  sound : w.sys.Sound
  attended : w.sys.inner.pending = [] ∨ w.Attended ∨ w.sys.Excused ∨ w.failed = true ∨
    w.sys.inner.stop = true
  /-- The write pump ends with the connection. -/
  exited : w.turn = .done → w.failed = true ∨ w.sys.inner.stop = true
  stopping : ∀ failed, w.turn = .writing true ∨ w.turn = .written true failed →
    w.sys.inner.stop = true

theorem inv_init (cfg : Config) : (init cfg).Inv where
  sound := Sys.sound_init cfg
  attended := .inr (.inl (.inr (.inl rfl)))
  exited := nofun
  stopping := fun _ h => by rcases h with h | h <;> cases h

/-- A step of the driver, its flags due. -/
theorem Inv.driven {s : Sys} {b : Sys.Action} (h : w.Inv) (hs : Sys.Step w.sys b s)
    (hb : b ≠ .flush) : s.inner.pending = [] ∨ (w.Attended ∨ Flagged (w.sys.verdicts b)) ∨
      s.Excused ∨ (w.failed || w.sys.fails b) = true ∨ s.inner.stop = true := by
  have hfail : w.sys.fails b = true → (w.failed || w.sys.fails b) = true := fun hf => by
    rw [hf, Bool.or_true]
  rcases Sys.step_answered h.sound hs hb with hp | hf | hf | hx
  · rcases h.attended with ha | ha | hx | hf | hst
    · exact .inl (hp.trans ha)
    · exact .inr (.inl (.inl ha))
    · rcases Sys.step_excused h.sound hx hs with hf | hf | hx
      · exact .inr (.inl (.inr hf))
      · exact .inr (.inr (.inr (.inl (hfail hf))))
      · exact .inr (.inr (.inl hx))
    · exact .inr (.inr (.inr (.inl (by rw [hf, Bool.true_or]))))
    · exact .inr (.inr (.inr (.inr (Sys.stop_of_step hs hst))))
  · exact .inr (.inl (.inr hf))
  · exact .inr (.inr (.inr (.inl (hfail hf))))
  · exact .inr (.inr (.inl hx))

/-- A call of the write path, which is never flagged. -/
theorem Inv.called {c : Call} (h : w.Inv) (hc : w.sys.allowed c = true)
    (hf : (w.sys.inner.callFlags c).wake = false) (hfail : w.sys.fails (.call c) = false) :
    (w.sys.call c).inner.pending = [] ∨ w.Attended ∨ (w.sys.call c).Excused ∨
      w.failed = true ∨ (w.sys.call c).inner.stop = true := by
  have hs : Sys.Step w.sys (.call c) (w.sys.call c) := by
    unfold Sys.Step Sys.step
    dsimp only
    rw [if_pos hc]
  rcases h.driven hs nofun with hp | (ha | ⟨f, hm, hw⟩) | hx | hfl | hst
  · exact .inl hp
  · exact .inr (.inl ha)
  · rw [show w.sys.verdicts (.call c) = [w.sys.inner.callFlags c] from rfl,
      List.mem_singleton] at hm
    rw [hm, hf] at hw
    cases hw
  · exact .inr (.inr (.inl hx))
  · rw [hfail, Bool.or_false] at hfl
    exact .inr (.inr (.inr (.inl hfl)))
  · exact .inr (.inr (.inr (.inr hst)))

theorem step_call {c : Call} (hc : w.sys.allowed c = true) :
    Sys.Step w.sys (.call c) (w.sys.call c) := by
  unfold Sys.Step Sys.step
  dsimp only
  rw [if_pos hc]

theorem step_flush (w : Writer) : Sys.Step w.sys .flush w.sys.flush := rfl

/-- The acts of one verdict. -/
theorem Inv.act (h : w.Inv) {i : Nat} {f : Flags} (hi : w.due[i]? = some f) :
    ({ w.after f with due := w.due.eraseIdx i } : Writer).Inv := by
  have hstep : ∀ {s : Sys}, s = (if f.capacity then w.sys.call .nextCapacityWake else w.sys) →
      s.Sound ∧ (s.inner.pending = [] ∨ w.Attended ∨ s.Excused ∨ w.failed = true ∨
        s.inner.stop = true) ∧ (w.sys.inner.stop = true → s.inner.stop = true) := fun {s} hs => by
    subst hs
    split
    · have hst := step_call (w := w) (c := .nextCapacityWake) rfl
      exact ⟨h.sound.step hst, h.called rfl rfl rfl, Sys.stop_of_step hst⟩
    · exact ⟨h.sound, h.attended, id⟩
  obtain ⟨hsound, hat, hstop⟩ := hstep (s := (w.after f).sys) rfl
  refine ⟨hsound, ?_, fun hd => (h.exited hd).imp id hstop, fun fl hd => hstop (h.stopping fl hd)⟩
  refine hat.imp id (Or.imp ?_ id)
  rintro (he | ht | hfl | ⟨g, hg, hw⟩)
  · exact .inl (by
      change (w.event || f.wake) = true
      rw [he, Bool.true_or])
  · exact .inr (.inl ht)
  · exact .inr (.inr (.inl hfl))
  · obtain ⟨j, hj⟩ := List.mem_iff_getElem?.mp hg
    by_cases hij : j = i
    · rw [hij, hi] at hj
      cases hj
      exact .inl (by
        change (w.event || f.wake) = true
        rw [hw, Bool.or_true])
    · exact .inr (.inr (.inr ⟨g, List.mem_eraseIdx_iff_getElem?.mpr ⟨j, hij, hj⟩, hw⟩))

theorem Inv.step (h : w.Inv) (hs : Step w a w') : w'.Inv := by
  unfold Step Writer.step at hs
  cases a with
  | sys b =>
      by_cases hb : b = .flush
      · subst hb
        cases hs
      · have hs' : (w.sys.step b).map (fun s => { w with
            sys := s, due := w.due ++ w.sys.verdicts b, failed := w.failed || w.sys.fails b }) =
            some w' := by
          cases b <;> first | exact absurd rfl hb | exact hs
        obtain ⟨s, hst, rfl⟩ := Option.map_eq_some_iff.mp hs'
        have hstop := Sys.stop_of_step hst
        refine ⟨h.sound.step hst, ?_, fun hd => ?_, fun fl hd => hstop (h.stopping fl hd)⟩
        · refine (h.driven hst hb).imp id (Or.imp ?_ id)
          rintro ((he | ht | hfl | hdue) | hv)
          · exact .inl he
          · exact .inr (.inl ht)
          · exact .inr (.inr (.inl hfl))
          · exact .inr (.inr (.inr (hdue.append_left _)))
          · exact .inr (.inr (.inr (hv.append_right _)))
        · refine (h.exited hd).imp (fun hf => ?_) hstop
          change (w.failed || w.sys.fails b) = true
          rw [hf, Bool.true_or]
  | act i =>
      dsimp only at hs
      split at hs
      · cases hs
      · next f hf =>
        cases hs
        exact h.act hf
  | wake =>
      dsimp only at hs
      split at hs
      · cases hs
        refine ⟨h.sound, .inr (.inl (.inr (.inl rfl))), nofun, fun fl hd => ?_⟩
        rcases hd with hd | hd <;> cases hd
      · cases hs
  | take =>
      dsimp only at hs
      split at hs
      · cases hs
        refine ⟨h.sound.step w.step_flush, .inl rfl, nofun, fun fl hd => ?_⟩
        rcases hd with hd | hd
        · exact (Turn.writing.inj hd)
        · cases hd
      · cases hs
  | write failed =>
      dsimp only at hs
      split at hs
      · next stopping ht =>
        cases hs
        refine ⟨h.sound, ?_, nofun, fun fl hd => h.stopping fl (.inl ?_)⟩
        · refine h.attended.imp id (Or.imp ?_ id)
          rintro (he | htk | hfl | hdue)
          · exact .inl he
          · simp only [takes, ht, decide_eq_true_eq] at htk
            rcases htk with htk | htk <;> cases htk
          · exact .inr (.inr (.inl hfl))
          · exact .inr (.inr (.inr hdue))
        · rcases hd with hd | hd
          · cases hd
          · rw [ht, (Turn.written.inj hd).1]
      · cases hs
  | credit =>
      dsimp only at hs
      split at hs
      · next stopping failed ht =>
        cases hs
        have hst := step_call (w := w) (c := .creditWritten) rfl
        have hstop := Sys.stop_of_step hst
        refine ⟨h.sound.step hst, ?_, fun hd => ?_, fun fl hd => ?_⟩
        · refine (h.called (c := .creditWritten) rfl rfl rfl).imp id (Or.imp ?_ id)
          rintro (he | htk | hfl | hdue)
          · exact .inl he
          · simp only [takes, ht, decide_eq_true_eq] at htk
            rcases htk with htk | htk <;> cases htk
          · exact .inr (.inr (.inl hfl))
          · exact .inr (.inr (.inr hdue))
        · refine .inr (hstop (h.stopping failed (.inr ?_)))
          cases failed with
          | some e => cases hd
          | none =>
              cases stopping with
              | true => exact ht
              | false => cases hd
        · unfold nextTurn at hd
          cases failed with
          | some e => rcases hd with hd | hd <;> cases hd
          | none =>
              dsimp only at hd
              split at hd <;> rcases hd with hd | hd <;> cases hd
      · cases hs
  | fail =>
      dsimp only at hs
      split at hs
      · next e ht =>
        cases hs
        have hst := step_call (w := w) (c := .fail (some e) "") rfl
        refine ⟨h.sound.step hst, .inr (.inr (.inr (.inl rfl))), fun _ => .inl rfl,
          fun fl hd => ?_⟩
        rcases hd with hd | hd <;> cases hd
      · cases hs
  | enterFlush =>
      dsimp only at hs
      split at hs
      · cases hs
        exact ⟨h.sound, .inr (.inl (.inr (.inr (.inl (Nat.succ_pos _))))), h.exited, h.stopping⟩
      · cases hs
  | leaveFlush =>
      dsimp only at hs
      split at hs
      · next hc =>
        cases hs
        exact ⟨h.sound, .inr (.inr (.inr (.inr hc.1))), h.exited, h.stopping⟩
      · cases hs
  | takeFlush =>
      dsimp only at hs
      split at hs
      · cases hs
        exact ⟨h.sound.step w.step_flush, .inl rfl, h.exited, h.stopping⟩
      · cases hs
  | writeFlush ok =>
      dsimp only at hs
      split at hs
      · cases hs
        exact ⟨h.sound, h.attended, h.exited, h.stopping⟩
      · cases hs
  | creditFlush =>
      dsimp only at hs
      split at hs
      · cases hs
        have hst := step_call (w := w) (c := .creditWritten) rfl
        have hstop := Sys.stop_of_step hst
        exact ⟨h.sound.step hst, h.called (c := .creditWritten) rfl rfl rfl,
          fun hd => (h.exited hd).imp id hstop, fun fl hd => hstop (h.stopping fl hd)⟩
      · cases hs

/-- The states reached from the handshake on. -/
abbrev Reached (cfg : Config) (w : Writer) : Prop := Reach Step Runs.Any (init cfg) w

theorem inv_of_reached (r : Reached cfg w) : w.Inv :=
  Reach.invariant (I := Inv) r (inv_init cfg) fun h hs _ => h.step hs

/-- **No committed frame is stranded.**  Where every task has performed the acts of its verdict,
and the read pump those of its exception, what is queued on a connection that has neither failed
nor begun to close will be taken: the write pump runs and was woken since its last take, or it,
or a flush, is about to take the buffer. -/
theorem nothing_stranded (r : Reached cfg w) (hdue : w.due = [])
    (hpump : w.sys.pump = .running ∨ w.sys.pump = .done) (hfail : w.failed = false)
    (hstop : w.sys.inner.stop = false) (hne : w.sys.inner.pending ≠ []) :
    w.event = true ∧ w.turn ≠ .done ∨ w.takes = true ∨ 0 < w.flushing := by
  have h := inv_of_reached r
  have hlive : w.turn ≠ .done := fun hd => by
    rcases h.exited hd with hf | hs
    · rw [hfail] at hf
      cases hf
    · rw [hstop] at hs
      cases hs
  rcases h.attended with hp | (he | ht | hf | ⟨f, hm, -⟩) | hx | hf | hs
  · exact absurd hp hne
  · exact .inl ⟨he, hlive⟩
  · exact .inr (.inl ht)
  · exact .inr (.inr hf)
  · rw [hdue] at hm
    cases hm
  · rcases hx with hx | ⟨sid, reason, hx, -⟩
    · rcases hpump with hp | hp <;> rw [hp] at hx <;> exact hx.elim
    · rcases hpump with hp | hp <;> rw [hp] at hx <;> cases hx
  · rw [hfail] at hf
    cases hf
  · rw [hstop] at hs
    cases hs

theorem reached_of_exec (cfg : Config) (as : List Action) (p : Writer → Bool)
    (h : (Runs.exec step (fun _ _ => true) (init cfg) as).any p = true) :
    ∃ w, Reached cfg w ∧ p w = true := by
  obtain ⟨w, r, hp⟩ := Reach.of_exec_any h
  exact ⟨w, r.mono fun _ _ _ => trivial, hp⟩

/-- The handshake is written, a PING is answered, and the answer's flag is acted on. -/
def answeredPing : List Action :=
  [.take, .write none, .credit, .sys (.recv (.ping { ack := false, data := [1, 2, 3, 4, 5, 6, 7, 8] })), .act 0]

/-- The answer to a PING waits for the write pump, which was woken. -/
theorem nothing_stranded_ping : ∃ w, Reached Sys.serverConfig w ∧ w.sys.inner.pending ≠ [] ∧
    (w.event = true ∧ w.turn ≠ .done ∨ w.takes = true ∨ 0 < w.flushing) := by
  obtain ⟨w, hr, hw⟩ := reached_of_exec Sys.serverConfig answeredPing (fun w =>
    w.due = [] ∧ w.sys.pump = .running ∧ w.failed = false ∧ w.sys.inner.stop = false ∧
      w.sys.inner.pending ≠ []) (by decide +kernel)
  simp only [decide_eq_true_eq] at hw
  obtain ⟨hd, hp, hf, hs, hne⟩ := hw
  exact ⟨w, hr, hne, nothing_stranded hr hd (.inl hp) hf hs hne⟩

end Writer

end Httpunk.H2
