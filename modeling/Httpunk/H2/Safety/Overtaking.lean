import Httpunk.H2.Safety.Rotation
import Httpunk.H2.Safety.SendWindow

/-!
# H2 — Safety — Overtaking

The line for connection window (`pending_capacity`): who asked first is served first.

* `Inner.Waiting`: a stream waits in the line, with window and room of its own.
* `Sys.Overtakes`: a stream of the line is let past the one that waits ahead of it.
* `Sys.dataOn_step`: a stream that no `send_data` moves queues no byte.
* `Sys.served_in_order`: who waits behind another, and does not overtake it, frames nothing.
-/

namespace Httpunk.H2

open Runs (Reach)
open Queue (Ahead)

namespace Inner

variable {me : Inner} {sid : Nat} {e : StreamEntry}

/-- The stream can send, with window and buffer room of its own. -/
def Roomy (me : Inner) (sid : Nat) : Prop :=
  (me.streams.lookup sid).any fun e => e.sends && decide (0 < me.streamRoom e)

/-- The stream waits in the line for connection window, with room of its own. -/
def Waiting (me : Inner) (sid : Nat) : Prop := me.capacityReady sid = true ∧ me.Roomy sid

instance (me : Inner) (sid : Nat) : Decidable (me.Roomy sid) :=
  inferInstanceAs (Decidable (_ = true))

instance (me : Inner) (sid : Nat) : Decidable (me.Waiting sid) :=
  inferInstanceAs (Decidable (_ ∧ _))

theorem Roomy.sends (h : me.Roomy sid) : (me.streams.lookup sid).any StreamEntry.sends := by
  rw [Roomy, Option.any_eq_true] at h
  obtain ⟨e, he, hroom⟩ := h
  rw [Bool.and_eq_true] at hroom
  rw [he]
  exact hroom.1

/-- A stream of the line that a `send_data` does not move gets nothing queued. -/
theorem sent_of_not_moved {data : Bytes} {offset : Nat} {endStream : Bool} {v : SendVerdict}
    (hm : me.moved (.sendData sid data offset endStream) ≠ some sid)
    (hv : (me.sendData sid data offset endStream).2 = .ok v) : v.sent = 0 := by
  unfold moved at hm
  unfold sendData at hv
  dsimp only at hm
  split at hv
  · cases hv
    rfl
  · next e he =>
    split at hv
    · cases hv
      rfl
    · split at hv
      · unfold sendEmpty at hv
        dsimp only at hv
        repeat' split at hv
        all_goals cases hv
        all_goals rfl
      · next hd =>
        rw [if_neg hd, he] at hm
        dsimp only at hm
        have hwait : (e.isPendingCapacity &&
            !(decide (0 < me.streamRoom e) && decide (0 < me.connSend.size))) = true := by
          by_contra hn
          rw [if_neg hn] at hm
          exact hm rfl
        have hbudget : min (me.streamRoom e) me.connSend.size = 0 := by
          simp only [Bool.and_eq_true, Bool.not_eq_true', Bool.and_eq_false_iff,
            decide_eq_false_iff_not] at hwait
          omega
        unfold sendChunk at hv
        dsimp only at hv
        rw [if_pos hbudget] at hv
        cases hv
        rfl

end Inner

namespace Sys

variable {σ σ' σ₀ : Sys} {a : Action} {cfg : Config} {k A B : Nat}

/-- A `send_data` of `B` takes it out of the line, while `A` waits ahead of it. -/
def Overtakes (A B : Nat) (σ : Sys) (a : Action) : Prop :=
  σ.moved a = some B ∧ σ.inner.capacityReady B = true ∧ σ.inner.Waiting A ∧
    Ahead A B σ.inner.pendingCapacity

instance (A B : Nat) (σ : Sys) (a : Action) : Decidable (Overtakes A B σ a) :=
  inferInstanceAs (Decidable (_ ∧ _))

/-- What a `send_data` queues. -/
theorem sendData_log (h : σ.Ok) (sid : Nat) (data : Bytes) (offset : Nat) (eos : Bool) :
    ∃ v fs, (σ.inner.sendData sid data offset eos).2 = .ok v ∧
      (σ.call (.sendData sid data offset eos)).log = σ.log ++ fs ∧
      ∀ k, dataOn k fs ≤ if sid = k then v.sent else 0 := by
  obtain ⟨v, me', hv, hf⟩ := Inner.sendData_framed h.wf sid data offset eos
  obtain rfl : (σ.inner.call (.sendData sid data offset eos)).1 = me' := congrArg Prod.fst hv
  rcases hf with hf | hf
  · obtain ⟨fs, hfs, hnd⟩ := hf.moves.no_data fun _ hk => hk.elim
    refine ⟨v, fs, congrArg Prod.snd hv, log_call hfs, fun k => ?_⟩
    rw [(data_of_no_data hnd).2]
    exact Nat.zero_le _
  · obtain ⟨s₁, s₂, h₁, hm, h₂⟩ := hf.moved
    obtain ⟨fs₁, hfs₁, hnd₁⟩ := h₁.no_data fun _ hk => hk.elim
    obtain ⟨fs₂, hfs₂, hnd₂⟩ := h₂.no_data fun _ hk => hk.elim
    obtain ⟨fs, hfs, hq⟩ := hm.frames
    have hq' : fs = [.data sid ((data.drop offset).take v.sent) (eos && v.done)] := hq
    subst hq'
    refine ⟨v, fs₁ ++ ([.data sid ((data.drop offset).take v.sent) (eos && v.done)] ++ fs₂),
      congrArg Prod.snd hv, log_call ?_, fun k => ?_⟩
    · rw [hfs₂, hfs, hfs₁]
      simp only [List.append_assoc]
    · rw [dataOn_one hnd₁ hnd₂]
      split
      · exact List.length_take_le _ _
      · exact Nat.le_refl _

/-- A step that does not move the stream queues no byte on it. -/
theorem dataOn_step (h : σ.Ok) (hs : Step σ a σ') (hm : σ.moved a ≠ some k) :
    dataOn k σ'.log = dataOn k σ.log := by
  by_cases hsend : ∃ sid data offset eos, a = .call (.sendData sid data offset eos)
  · obtain ⟨sid, data, offset, eos, rfl⟩ := hsend
    obtain ⟨-, rfl⟩ := hs.call
    obtain ⟨v, fs, hv, hlog, hon⟩ := sendData_log h sid data offset eos
    have hzero : dataOn k fs = 0 := by
      have hle := hon k
      split at hle
      · next hk =>
        subst hk
        rw [Inner.sent_of_not_moved hm hv] at hle
        exact Nat.le_zero.mp hle
      · exact Nat.le_zero.mp hle
    rw [hlog, dataOn_append, hzero, Nat.add_zero]
  · obtain ⟨fs, hlog, hnd⟩ := step_no_data h hs hsend
    rw [hlog, dataOn_append, (data_of_no_data hnd).2, Nat.add_zero]

/-- `A` waits as the step is taken, and is not let into the rotation by a `send_data` of its own; and
`B` can send. -/
def Yet (A B : Nat) (σ : Sys) (a : Action) : Prop :=
  σ.inner.Waiting A ∧ σ.moved a ≠ some A ∧ σ.inner.Roomy B

instance (A B : Nat) (σ : Sys) (a : Action) : Decidable (Yet A B σ a) :=
  inferInstanceAs (Decidable (_ ∧ _))

/-- Where `A` waits, and `B` can send, `B` waits behind it. -/
structure Behind (A B : Nat) (σ : Sys) : Prop where
  ok : σ.Ok
  lanes : σ.inner.Lanes fun _ => True
  waits : σ.inner.capacityReady A = true → (σ.inner.streams.lookup B).any StreamEntry.sends →
    σ.inner.capacityReady B = true ∧ Ahead A B σ.inner.pendingCapacity

/-- No step moves `B` while it waits behind `A`, unless `B` overtakes. -/
theorem Behind.not_moved (h : Behind A B σ) (hy : Yet A B σ a) (ho : ¬Overtakes A B σ a) :
    σ.moved a ≠ some B := by
  intro hm
  obtain ⟨hready, hahead⟩ := h.waits hy.1.1 hy.2.2.sends
  exact ho ⟨hm, hready, hy.1, hahead⟩

/-- **Each step keeps the order**, unless `B` overtakes. -/
theorem Behind.step (h : Behind A B σ) (hs : Step σ a σ') (hy : Yet A B σ a)
    (ho : ¬Overtakes A B σ a) : Behind A B σ' := by
  have hstay := step_stays (y := fun k => σ.moved a = some k ∨ Inner.Admitted σ.inner σ'.inner k)
    h.ok h.lanes hs (fun _ _ _ _ _ _ _ => trivial) fun _ hk => hk
  obtain ⟨hready, hahead⟩ := h.waits hy.1.1 hy.2.2.sends
  have hB : ¬(σ.moved a = some B ∨ Inner.Admitted σ.inner σ'.inner B) := by
    rintro (hm | had)
    · exact h.not_moved hy ho hm
    · -- the first of the line is admitted, and `A` is ahead of `B`
      refine (hahead.dropWhile ?_).head_ne had.1
      rw [hy.1.1]
      rfl
  refine ⟨h.ok.step hs, hstay.lanes, fun hA hsends => ?_⟩
  rw [Option.any_eq_true] at hsends
  obtain ⟨e, he, hsend⟩ := hsends
  have hA' : ¬(σ.moved a = some A ∨ Inner.Admitted σ.inner σ'.inner A) := by
    rintro (hm | ⟨-, b, hb, hbf, -⟩)
    · exact hy.2.1 hm
    · obtain ⟨b', hb', hbf', -⟩ := hstay.lanes.capacityReady_iff.mp hA
      obtain rfl := Option.some.inj (hb.symm.trans hb')
      rw [hbf] at hbf'
      cases hbf'
  exact ⟨hstay.waits h.lanes hB hready he hsend, hstay.ahead hA' hA hahead⟩

/-- **Streams that wait for connection window are served in the order they asked**, in every run in
which `B` is not let past `A`: while `A` waits, ahead of `B`, no byte is framed on `B`. -/
theorem served_in_order (cfg : Config) (σ₀ : Sys) (r₀ : Reached cfg σ₀) (A B : Nat)
    (hB : σ₀.inner.capacityReady B = true) (hab : Ahead A B σ₀.inner.pendingCapacity) (σ : Sys)
    (r : Reach Step (fun s a => Yet A B s a ∧ ¬Overtakes A B s a) σ₀ σ) :
    dataOn B σ.log = dataOn B σ₀.log := by
  have hstart : Behind A B σ₀ := ⟨ok_of_run r₀, lanes_of_reached r₀, fun _ _ => ⟨hB, hab⟩⟩
  have hinv : Behind A B σ ∧ dataOn B σ.log = dataOn B σ₀.log := by
    refine r.invariant (I := fun s : Sys => Behind A B s ∧ dataOn B s.log = dataOn B σ₀.log)
      ⟨hstart, rfl⟩ ?_
    rintro s a s' ⟨hb, hd⟩ hs ⟨hy, ho⟩
    exact ⟨hb.step hs hy ho, (dataOn_step hb.ok hs (hb.not_moved hy ho)).trans hd⟩
  exact hinv.2

/-- The connection window runs out as the third request waits for its turn; the fifth and the
seventh ask for more, and then there is some. -/
def lined : List Action := openPost ++ openPost ++ openPost ++ openPost ++ [
  .call (.sendData 1 (List.replicate 16384 0) 0 false),
  .call (.sendData 1 (List.replicate 16384 0) 0 false),
  .call (.sendData 1 (List.replicate 16382 0) 0 false),
  .call (.sendData 1 (List.replicate 16385 0) 0 false),
  .call (.sendData 3 [1] 0 false),
  .call (.sendData 1 (List.replicate 16385 0) 16384 false),
  .call (.sendData 5 [1] 0 false),
  .call (.sendData 7 [1] 0 false),
  .recv (.windowUpdate { streamId := 0, increment := 100 })]

/-- The seventh is woken first, by a WINDOW_UPDATE of its own. -/
def wokenFirst : List Action := [
  .recv (.windowUpdate { streamId := 7, increment := 1 }), .call (.sendData 7 [1] 0 false),
  .call (.sendData 3 [1] 0 false), .call (.sendData 7 [1] 0 false)]

/-- Where the fifth and the seventh are in line: what the third sends, and what comes of a wake. -/
theorem lined_reached : ∃ σ₀, Reached clientConfig σ₀ ∧ σ₀.inner.capacityReady 7 = true ∧
    Ahead 5 7 σ₀.inner.pendingCapacity ∧ dataOn 7 σ₀.log = 0 ∧
    (∃ σ, Reach Step (fun s a => Yet 5 7 s a ∧ ¬Overtakes 5 7 s a) σ₀ σ ∧ σ.inner.Waiting 5 ∧
      dataOn 3 σ.log = 1) ∧
    ∃ σ, Reach Step (Yet 5 7) σ₀ σ ∧ σ.inner.Waiting 5 ∧ dataOn 7 σ.log = 1 := by
  -- one evaluation for both runs
  obtain ⟨σ₀, r₀, h₀⟩ := reached_of_exec clientConfig lined (fun σ₀ : Sys =>
    σ₀.inner.capacityReady 7 && decide (Ahead 5 7 σ₀.inner.pendingCapacity) &&
      dataOn 7 σ₀.log == 0 &&
        (Runs.exec step (fun s a => decide (Yet 5 7 s a ∧ ¬Overtakes 5 7 s a)) σ₀
          [.call (.sendData 3 [1] 0 false)]).any
            (fun σ : Sys => decide (σ.inner.Waiting 5) && dataOn 3 σ.log == 1) &&
        (Runs.exec step (fun s a => decide (Yet 5 7 s a)) σ₀ wokenFirst).any
          fun σ : Sys => decide (σ.inner.Waiting 5) && dataOn 7 σ.log == 1) (by decide +kernel)
  simp only [Bool.and_eq_true, beq_iff_eq, decide_eq_true_eq] at h₀
  obtain ⟨⟨⟨⟨hready, hahead⟩, hnone⟩, hthird⟩, hwoken⟩ := h₀
  obtain ⟨σ, r, hσ⟩ := reach_of_exec _ σ₀ [.call (.sendData 3 [1] 0 false)] _ hthird
  obtain ⟨τ, t, hτ⟩ := reach_of_exec _ σ₀ wokenFirst _ hwoken
  rw [Bool.and_eq_true, decide_eq_true_eq, beq_iff_eq] at hσ hτ
  exact ⟨σ₀, r₀, hready, hahead, hnone, ⟨σ, r.mono fun _ _ hy => of_decide_eq_true hy, hσ⟩,
    τ, t.mono fun _ _ hy => of_decide_eq_true hy, hτ⟩

theorem served_in_order_third : ∃ σ, Reached clientConfig σ ∧ σ.inner.Waiting 5 ∧
    dataOn 3 σ.log = 1 ∧ dataOn 7 σ.log = 0 := by
  obtain ⟨σ₀, r₀, hready, hahead, hnone, ⟨σ, r, hwait, hdata⟩, -⟩ := lined_reached
  exact ⟨σ, r₀.trans (r.mono fun _ _ _ => trivial), hwait, hdata,
    (served_in_order clientConfig σ₀ r₀ 5 7 hready hahead σ r).trans hnone⟩

/-- **The order can be broken**: of two that wait, the second is woken while another stream has the
turn, joins the rotation behind it, and is served as the first still waits. -/
theorem served_out_of_order : ∃ σ₀ σ, Reached clientConfig σ₀ ∧
    σ₀.inner.capacityReady 7 = true ∧ Ahead 5 7 σ₀.inner.pendingCapacity ∧
    Reach Step (Yet 5 7) σ₀ σ ∧ σ.inner.Waiting 5 ∧ dataOn 7 σ₀.log = 0 ∧ dataOn 7 σ.log = 1 := by
  obtain ⟨σ₀, r₀, hready, hahead, hnone, -, σ, r, hwait, hdata⟩ := lined_reached
  exact ⟨σ₀, σ, r₀, hready, hahead, r, hwait, hnone, hdata⟩

end Sys

end Httpunk.H2
