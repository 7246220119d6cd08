import Httpunk.H2.Driver.LaneSteps

/-!
# H2 — Safety — Rotation

The send rotation and the line for connection window, in the states a connection reaches.

* `Sys.step_lanes`: each step keeps the lanes, where the streams it ends in one are excepted.
* `Sys.lanes_of_run`: so the lanes go with the flags in every state a run reaches, and a lane holds
  only streams that can send where every stream has one sender.
* `Inner.Lanes.yields`: a front that yields is behind all others.
* `Sys.send_rotation`: the queues, the flags and the counters of the rotation, in every run.
-/

namespace Httpunk.H2

open Runs (Reach)
open Queue (Marked)

namespace Inner

variable {me : Inner} {sid k : Nat} {e : StreamEntry} {x : Nat → Prop}

/-- The front that yields goes to the back. -/
theorem pendingSend_yieldSendTurn (hd : me.pendingSend.head? = some sid) :
    (me.yieldSendTurn sid).1.pendingSend = me.pendingSend.tail ++ [sid] := by
  unfold yieldSendTurn
  rw [if_pos hd]
  dsimp only
  split <;> rfl

namespace Lanes

/-- A stream that sends is in the rotation exactly when its flag says so. -/
theorem mem_send (h : Lanes x me) (he : me.streams.lookup sid = some e) (hs : e.sends = true) :
    sid ∈ me.pendingSend ↔ e.isPendingSend = true :=
  (h.send.mem_iff he hs).symm

theorem mem_capacity (h : Lanes x me) (he : me.streams.lookup sid = some e)
    (hs : e.sends = true) : sid ∈ me.pendingCapacity ↔ e.isPendingCapacity = true :=
  (h.capacity.mem_iff he hs).symm

/-- No stream is in both lanes. -/
theorem apart (h : Lanes x me) (hs : sid ∈ me.pendingSend) : sid ∉ me.pendingCapacity := by
  intro hc
  obtain ⟨e, he, hf⟩ := h.send.flagged sid hs
  obtain ⟨e', he', hf'⟩ := h.capacity.flagged sid hc
  rw [he] at he'
  cases he'
  rw [(h.fits sid e he).one hf] at hf'
  cases hf'

/-- A front whose turn is over goes behind every other stream of the rotation that can send. -/
theorem yields (h : Lanes x me) (he : me.streams.lookup sid = some e)
    (hfront : me.sendFront.2 = some sid) (hturn : me.burstFrames ≤ e.turnFrames)
    (hroom : 0 < me.streamRoom e) (hconn : 0 < me.connSend.size)
    (hothers : ∃ g ∈ me.sendFront.1.pendingSend, g ≠ sid) {data : Bytes} (hdata : data ≠ [])
    (offset : Nat) (endStream : Bool) :
    ∃ l, (me.sendData sid data offset endStream).1.pendingSend = l ++ [sid] ∧
      ∀ g ∈ me.sendFront.1.pendingSend, g ≠ sid → g ∈ l := by
  obtain ⟨a, ha, hf, hs⟩ := h.sendQueue_head hfront
  obtain rfl := Option.some.inj (he.symm.trans ha)
  -- a member of the rotation is not in the line, so nothing happens there
  have hnot : e.isPendingCapacity = false := (h.fits sid e he).one hf
  have hwait : me.leaveWaiting sid e = me := by
    rw [Inner.leaveWaiting, hnot]
    rfl
  have hbudget : min (me.streamRoom e) me.connSend.size ≠ 0 := by omega
  obtain ⟨t, hq⟩ := List.head?_eq_some_iff.mp hfront
  obtain ⟨g, hg, hne⟩ := hothers
  have hrest : ∀ g ∈ me.sendFront.1.pendingSend, g ≠ sid → g ∈ t := by
    intro g hg hne
    have hmem : g ∈ sid :: t := hq ▸ hg
    exact (List.mem_cons.mp hmem).resolve_left hne
  have hlen : me.sendFront.1.pendingSend.length > 1 := by
    change me.sendQueue.length > 1
    rw [hq, List.length_cons]
    have := List.length_pos_of_mem (hrest g hg hne)
    omega
  have hyield : (me.sendFront.1.yieldSendTurn sid).1.pendingSend = t ++ [sid] := by
    have hhead : me.sendFront.1.pendingSend.head? = some sid := hfront
    refine (pendingSend_yieldSendTurn hhead).trans ?_
    change me.sendQueue.tail ++ [sid] = t ++ [sid]
    rw [hq, List.tail_cons]
  refine ⟨t, ?_, hrest⟩
  have hsend : (!e.state.isSendStreaming) = false := by
    rw [show e.state.isSendStreaming = true from hs]
    rfl
  have hempty : data.isEmpty = false := by
    rw [List.isEmpty_eq_false_iff]
    exact hdata
  unfold Inner.sendData
  rw [he]
  dsimp only
  rw [hsend, hempty]
  unfold Inner.sendChunk
  dsimp only
  rw [if_neg Bool.false_ne_true, if_neg Bool.false_ne_true, if_neg hbudget, hwait, hfront]
  dsimp only
  rw [if_neg (fun hn => hn rfl)]
  unfold Inner.sendTurn
  rw [show me.sendFront.1.streams.lookup sid = some e from he]
  dsimp only
  rw [if_pos ⟨hturn, hlen⟩]
  exact hyield

end Lanes

end Inner

namespace Sys

variable {σ σ' : Sys} {a : Action} {cfg : Config} {x : Nat → Prop}

/-- Each stream has one sender: it waits until its chunk is queued, and only then ends the
stream. -/
def OneSender (σ : Sys) : Action → Prop
  | .call c => ∀ sid, Inner.endsSending sid c = true →
      ∀ e, σ.inner.streams.lookup sid = some e → e.placed = false
  | _ => True

/-- The lanes go with the flags in every run whose steps end a stream in a lane only if it is
excepted. -/
theorem lanes_of_run {ok : Sys → Action → Prop} (r : Run ok cfg σ)
    (hok : ∀ s c, ok s (.call c) → ∀ sid, Inner.endsSending sid c = true →
      ∀ e, s.inner.streams.lookup sid = some e → e.placed = true → x sid) : σ.inner.Lanes x := by
  have hstart : (init cfg).inner.Lanes x := by
    rw [inner_init]
    exact Inner.Lanes.begin cfg
  have hinv : σ.Ok ∧ σ.inner.Lanes x := by
    refine r.invariant (I := fun s : Sys => s.Ok ∧ s.inner.Lanes x) ⟨ok_init cfg, hstart⟩ ?_
    intro s a s' hs hstep ha
    refine ⟨hs.1.step hstep, step_lanes hs.1 hs.2 hstep ?_⟩
    rintro c rfl
    exact hok s c ha
  exact hinv.2

theorem lanes_of_reached (r : Reached cfg σ) : σ.inner.Lanes fun _ => True :=
  lanes_of_run r fun _ _ _ _ _ _ _ _ => trivial

/-- With one sender a stream, all in a lane can send. -/
theorem lanes_of_oneSender (r : Run OneSender cfg σ) : σ.inner.Lanes fun _ => False := by
  refine lanes_of_run r fun s c hc sid hend e he hp => ?_
  have hn := hc sid hend e he
  rw [hp] at hn
  cases hn

end Sys

/-- What the two queues say of the streams that can send. -/
structure Inner.Rotation (me : Inner) : Prop where
  sendNodup : me.pendingSend.Nodup
  capacityNodup : me.pendingCapacity.Nodup
  send : ∀ sid e, me.streams.lookup sid = some e → e.sends = true →
    (sid ∈ me.pendingSend ↔ e.isPendingSend = true)
  capacity : ∀ sid e, me.streams.lookup sid = some e → e.sends = true →
    (sid ∈ me.pendingCapacity ↔ e.isPendingCapacity = true)
  apart : ∀ sid, ¬(sid ∈ me.pendingSend ∧ sid ∈ me.pendingCapacity)
  flagsApart : ∀ sid e, me.streams.lookup sid = some e →
    ¬(e.isPendingSend = true ∧ e.isPendingCapacity = true)
  /-- Skipping dead places discards no live one. -/
  sendSkips : ∀ sid e, me.streams.lookup sid = some e → e.sends = true →
    sid ∈ me.pendingSend → sid ∈ me.sendFront.1.pendingSend
  capacitySkips : ∀ sid e, me.streams.lookup sid = some e → e.sends = true →
    sid ∈ me.pendingCapacity → sid ∈ me.capacityFront.1.pendingCapacity
  turn : ∀ sid e, me.streams.lookup sid = some e → sid ∉ me.pendingSend →
    e.sends = true ∨ e.isPendingSend = false → e.turnFrames = 0
  /-- A front that yields its turn is then behind every live member. -/
  yields : ∀ sid e, me.streams.lookup sid = some e → me.sendFront.2 = some sid →
    me.burstFrames ≤ e.turnFrames → 0 < me.streamRoom e → 0 < me.connSend.size →
    (∃ g b, g ≠ sid ∧ me.streams.lookup g = some b ∧ b.sends = true ∧ g ∈ me.pendingSend) →
    ∀ data offset endStream, data ≠ [] →
      ∃ l, (me.sendData sid data offset endStream).1.pendingSend = l ++ [sid] ∧
        ∀ g b, g ≠ sid → me.streams.lookup g = some b → b.sends = true → g ∈ me.pendingSend → g ∈ l

/-- The lanes, read off. -/
theorem Inner.Lanes.rotates {me : Inner} {x : Nat → Prop} (h : me.Lanes x) : me.Rotation where
  sendNodup := h.send.nodup
  capacityNodup := h.capacity.nodup
  send := fun _ _ he hs => h.mem_send he hs
  capacity := fun _ _ he hs => h.mem_capacity he hs
  apart := fun _ ⟨hs, hc⟩ => h.apart hs hc
  flagsApart := by
    rintro sid e he ⟨hs, hc⟩
    rw [(h.fits sid e he).one hs] at hc
    cases hc
  sendSkips := fun sid e he hs hm =>
    (h.sendFront.mem_send he hs).mpr ((h.mem_send he hs).mp hm)
  capacitySkips := fun sid e he hs hm =>
    (h.capacityFront.mem_capacity he hs).mpr ((h.mem_capacity he hs).mp hm)
  turn := by
    intro sid e he hn hs
    refine (h.fits sid e he).counted (hs.elim (fun hs => ?_) id)
    rw [← Bool.not_eq_true]
    exact fun hf => hn ((h.mem_send he hs).mpr hf)
  yields := by
    rintro sid e he hfront hturn hroom hconn ⟨g, b, hne, hg, hs, hm⟩ data offset endStream hdata
    have hstay : ∀ g b, me.streams.lookup g = some b → b.sends = true → g ∈ me.pendingSend →
        g ∈ me.sendFront.1.pendingSend := fun _ _ hg hs hm =>
      (h.sendFront.mem_send hg hs).mpr ((h.mem_send hg hs).mp hm)
    obtain ⟨l, hl, hbehind⟩ := h.yields he hfront hturn hroom hconn
      ⟨g, hstay g b hg hs hm, hne⟩ hdata offset endStream
    exact ⟨l, hl, fun g b hne hg hs hm => hbehind g (hstay g b hg hs hm) hne⟩

namespace Sys

/-- **In every state reached the rotation and the line hold no stream twice and go with the flags**
of the streams that can send, and with one sender a stream no counter runs outside the rotation. -/
theorem send_rotation (cfg : Config) (σ : Sys) (r : Reached cfg σ) :
    σ.inner.Rotation ∧
      (Run OneSender cfg σ → ∀ sid e, σ.inner.streams.lookup sid = some e →
        sid ∉ σ.inner.pendingSend → e.turnFrames = 0) := by
  refine ⟨(lanes_of_reached r).rotates, fun hone sid e he hn => ?_⟩
  have hl := lanes_of_oneSender hone
  refine (hl.fits sid e he).counted ?_
  rw [← Bool.not_eq_true]
  intro hf
  have hs := (hl.whole sid e he (StreamEntry.placed_of_send hf)).resolve_left id
  exact hn ((hl.mem_send he hs).mpr hf)

/-- Two requests whose bodies are under way: the first has more to send than a frame takes. -/
def twoSenders : List Action := openPost ++ openPost ++ [
  .call (.sendData 1 (List.replicate 16385 0) 0 false),
  .call (.sendData 3 [1] 0 false)]

/-- No step ends a stream. -/
def endsNone (_ : Sys) : Action → Bool
  | .call (.sendTrailers _ _) => false
  | .call (.sendData _ data _ _) => !data.isEmpty
  | _ => true

theorem oneSender_of_endsNone (σ : Sys) (a : Action) (h : endsNone σ a = true) : OneSender σ a := by
  cases a with
  | call c =>
      intro sid hend
      cases c with
      | sendTrailers k t => cases h
      | sendData k data offset endStream =>
          have hd : data.isEmpty = false := by simpa [endsNone] using h
          rw [Inner.endsSending, hd, Bool.and_false, Bool.false_and] at hend
          cases hend
      | _ => cases hend
  | _ => trivial

theorem send_rotation_two : ∃ σ, Run OneSender clientConfig σ ∧ σ.inner.pendingSend = [1, 3] ∧
    σ.inner.Rotation ∧ ∀ sid e, σ.inner.streams.lookup sid = some e →
      sid ∉ σ.inner.pendingSend → e.turnFrames = 0 := by
  obtain ⟨σ, r, hσ⟩ := run_of_exec endsNone clientConfig twoSenders
    (fun σ => σ.inner.pendingSend == [1, 3]) (by decide +kernel)
  rw [beq_iff_eq] at hσ
  have hone : Run OneSender clientConfig σ := r.mono oneSender_of_endsNone
  obtain ⟨hrot, hturn⟩ := send_rotation clientConfig σ (r.mono fun _ _ _ => trivial)
  exact ⟨σ, hone, hσ, hrot, hturn hone⟩

end Sys

end Httpunk.H2
