import Httpunk.H2.Driver.Invariant

/-!
# H2 — Safety — Goaway

The last-stream-ids of the GOAWAY frames a connection queues.  Four places queue one; each names
the last stream processed but the first of a graceful shutdown, which names the largest id.  So
the ids never rise as long as the graceful shutdown begins before any lower GOAWAY, and no
stream is opened above a GOAWAY.

* `Move.descends`: what each move keeps.
* `Sys.goaways_descend`: the ids never rise, in every run under that condition.
-/

namespace Httpunk.H2

open Runs (Reach)
open Httpunk.H2.Inner

/-- The last-stream-id of a queued GOAWAY. -/
def OutFrame.goawayId : OutFrame → Option Nat
  | .goAway last _ _ => some last
  | _ => none

/-- The last-stream-ids of the GOAWAY frames of a log, in order. -/
def goawayIds (log : List OutFrame) : List Nat := log.filterMap OutFrame.goawayId

theorem goawayIds_append (l₁ l₂ : List OutFrame) :
    goawayIds (l₁ ++ l₂) = goawayIds l₁ ++ goawayIds l₂ := List.filterMap_append

/-- Control frames are no GOAWAY. -/
theorem goawayIds_ctrl {fs : List OutFrame} (h : ∀ f ∈ fs, f.isCtrl = true) :
    goawayIds fs = [] := by
  rw [goawayIds, List.filterMap_eq_nil_iff]
  intro f hf
  have := h f hf
  cases f <;> first | rfl | cases this

/-- The GOAWAY frames queued so far descend, down to the last stream processed at most. -/
structure Descends (sent : List OutFrame) (me : Inner) : Prop where
  sorted : (goawayIds (sent ++ me.pending)).Pairwise (· ≥ ·)
  bound : ∀ v ∈ goawayIds (sent ++ me.pending), me.goawayLastStreamId ≤ v
  processed : me.goawayLastStreamId ≤ maxStreamIdValue
  limit : me.maxStreamId ≤ maxStreamIdValue

variable {s s' : Inner} {k : Kind} {extra : Kind → Prop} {sent : List OutFrame}

/-- The id the next GOAWAY names moves only when a stream is opened. -/
theorem Move.goawayLastStreamId (m : Move s k s') :
    s'.goawayLastStreamId = k.processedId s.goawayLastStreamId := by
  have hids := m.ids.2.1
  have hrole := m.grows.role
  unfold Inner.goawayLastStreamId
  rw [hrole, hids]
  cases m with
  | accept hr _ _ _ => rw [hr]
  | _ => rfl

theorem Move.maxStreamId_le (m : Move s k s') (h : s.maxStreamId ≤ maxStreamIdValue)
    (hp : s.goawayLastStreamId ≤ maxStreamIdValue) : s'.maxStreamId ≤ maxStreamIdValue := by
  rw [m.ids.2.2]
  cases m with
  | phase2 hr _ =>
      unfold Inner.goawayLastStreamId at hp
      rw [hr] at hp
      exact hp
  | _ => exact h

/-- **What a move makes of the GOAWAY frames.**  The two moves that could break the order are
the first GOAWAY of a graceful shutdown and the opening of a stream. -/
theorem Move.descends (m : Move s k s') (h : Descends sent s)
    (hphase : k = .phase1 → ∀ v ∈ goawayIds (sent ++ s.pending), maxStreamIdValue ≤ v)
    (hopen : ∀ sid, k = .accept sid → ∀ v ∈ goawayIds (sent ++ s.pending), sid ≤ v) :
    Descends sent s' := by
  obtain ⟨fs, hfs, hk⟩ := m.frames
  have hlast := m.goawayLastStreamId
  have hids : goawayIds (sent ++ s'.pending) =
      goawayIds (sent ++ s.pending) ++ goawayIds fs := by
    rw [hfs, ← List.append_assoc, goawayIds_append]
  have hlimit := m.maxStreamId_le h.limit h.processed
  -- a move that queues no GOAWAY, and leaves the id the next one names
  have quiet : goawayIds fs = [] → s'.goawayLastStreamId = s.goawayLastStreamId →
      Descends sent s' := fun h0 hl => by
    rw [h0, List.append_nil] at hids
    exact ⟨hids ▸ h.sorted, by rw [hids, hl]; exact h.bound, hl ▸ h.processed, hlimit⟩
  -- one that queues a GOAWAY with an id no larger than those before it
  have queued : ∀ v, goawayIds fs = [v] → (∀ w ∈ goawayIds (sent ++ s.pending), v ≤ w) →
      s'.goawayLastStreamId = s.goawayLastStreamId → s.goawayLastStreamId ≤ v →
      Descends sent s' := fun v h1 hv hl hle => by
    rw [h1] at hids
    refine ⟨?_, ?_, hl ▸ h.processed, hlimit⟩
    · rw [hids, List.pairwise_append]
      exact ⟨h.sorted, List.pairwise_singleton _ _,
        fun w hw u hu => by rw [List.mem_singleton.mp hu]; exact hv w hw⟩
    · rw [hids, hl]
      intro w hw
      rcases List.mem_append.mp hw with hw | hw
      · exact h.bound w hw
      · rw [List.mem_singleton.mp hw]; exact hle
  cases k with
  | phase1 =>
      subst hk
      exact queued _ rfl (hphase rfl) hlast h.processed
  | phase2 =>
      subst hk
      have hl : s.goawayLastStreamId = s.lastProcessedId := by
        cases m with
        | phase2 hr _ => unfold Inner.goawayLastStreamId; rw [hr]
      exact queued _ rfl (fun w hw => hl ▸ h.bound w hw) hlast hl.le
  | reply =>
      obtain ⟨reason, debugData, rfl⟩ := hk
      exact queued _ rfl h.bound hlast (Nat.le_refl _)
  | goaway =>
      obtain ⟨reason, debugData, rfl⟩ := hk
      exact queued _ rfl h.bound hlast (Nat.le_refl _)
  | accept sid =>
      rw [show fs = [] from hk, show goawayIds [] = [] from rfl, List.append_nil] at hids
      have hle : sid ≤ maxStreamIdValue := by
        cases m with
        | accept _ _ hm _ => exact hm.trans h.limit
      exact ⟨hids ▸ h.sorted, by rw [hids, hlast]; exact hopen sid rfl, hlast ▸ hle, hlimit⟩
  | ctrl => exact quiet (goawayIds_ctrl hk) hlast
  | reclaim => exact quiet (goawayIds_ctrl hk) hlast
  | swallow => exact quiet (goawayIds_ctrl hk) hlast
  | settle _ _ => exact quiet (goawayIds_ctrl hk) hlast
  | rst _ => obtain ⟨_, rfl⟩ := hk; exact quiet rfl hlast
  | head _ _ => obtain ⟨_, rfl⟩ := hk; exact quiet rfl hlast
  | request _ _ => obtain ⟨_, rfl⟩ := hk; exact quiet rfl hlast
  | data _ _ _ => subst hk; exact quiet rfl hlast
  | _ => subst hk; exact quiet rfl hlast

/-- A run of moves that opens no stream and begins no shutdown. -/
theorem Moves.descends (r : Moves extra s s') (h : Descends sent s)
    (hphase : ¬extra .phase1) (hopen : ∀ sid, ¬extra (.accept sid)) : Descends sent s' :=
  r.invariant h fun hd m hk => m.descends hd
    (fun h1 => by
      subst h1
      exact hk.elim (fun hc => by cases hc) fun he => absurd he hphase)
    (fun sid h1 => by
      subst h1
      exact hk.elim (fun hc => by cases hc) fun he => absurd he (hopen sid))

/-! ### Runs -/

namespace Sys

variable {σ σ' : Sys} {a : Action} {cfg : Config}

/-- A HEADERS frame for which the connection opens a stream. -/
def opens (σ : Sys) (f : Headers) : Bool :=
  σ.inner.role = .server && σ.inner.opensRequest f.streamId &&
    !(σ.inner.inResetStore f.streamId).2

/-- The condition on a step: no stream is opened above a GOAWAY queued before, and a graceful
shutdown begins before any GOAWAY with a lower id. -/
def goawayInOrder (σ : Sys) : Action → Bool
  | .recv (.headers f) => !σ.opens f || (goawayIds σ.log).all (f.streamId ≤ ·)
  | .call .beginGracefulShutdown =>
      σ.inner.graceful || (goawayIds σ.log).all (maxStreamIdValue ≤ ·)
  | _ => true

theorem descends_init (cfg : Config) : Descends (init cfg).sent (init cfg).inner := by
  obtain ⟨fc, fs, hb, -, hfs, -⟩ := Inner.begin_spec cfg
  have h0 : goawayIds fs = [] := by
    rw [goawayIds, List.filterMap_eq_nil_iff]
    intro f hf
    have := hfs f hf
    cases f <;> first | rfl | cases this
  have hids : goawayIds ((init cfg).sent ++ (init cfg).inner.pending) = [] := by
    rw [inner_init, hb]
    exact h0
  have hlast : (init cfg).inner.goawayLastStreamId = 0 := by
    rw [inner_init, hb]
    unfold Inner.goawayLastStreamId
    split <;> rfl
  refine ⟨by rw [hids]; exact .nil, fun v hv => ?_, ?_, ?_⟩
  · rw [hids] at hv; cases hv
  · rw [hlast]; exact Nat.zero_le _
  · rw [inner_init, hb]; exact Nat.le_refl _

theorem descends_step (h : σ.Ok) (hd : Descends σ.sent σ.inner) (hs : Step σ a σ')
    (hc : σ.goawayInOrder a = true) : Descends σ'.sent σ'.inner := by
  -- a step that opens no stream and begins no shutdown
  have other : a ≠ .flush → ¬σ.kinds a .phase1 → (∀ sid, ¬σ.kinds a (.accept sid)) →
      σ'.sent = σ.sent → Descends σ'.sent σ'.inner := fun ha hp ho hsent =>
    hsent ▸ (h.step_moves hs ha).descends hd hp ho
  cases a with
  | flush =>
      cases hs
      have hlog : σ.flush.sent ++ σ.flush.inner.pending = σ.sent ++ σ.inner.pending :=
        List.append_nil _
      exact ⟨hlog ▸ hd.sorted, hlog ▸ hd.bound, hd.processed, hd.limit⟩
  | recv f =>
      have hsent := hs.sent (by intro h; cases h)
      by_cases hf : ∃ g, f = .headers g
      · obtain ⟨g, rfl⟩ := hf
        have hinner : σ'.inner = (σ.inner.recvHeaders g (σ.inner.role = .server)).1 := by
          obtain ⟨-, rfl⟩ := hs.recv
          exact inner_recv σ _
        rw [hsent, hinner]
        rcases Inner.recvHeaders_effect h.wf g (σ.inner.role = .server) with
          ⟨hm, -⟩ | ⟨⟨hr, ho, hn⟩, m₁, m₂, ha, hm, hm'⟩
        · exact hm.descends hd (fun h => by cases h) (fun _ h => by cases h)
        · have hopen : σ.opens g = true := by
            simp [opens, hr, ho, hn]
          have hle : ∀ v ∈ goawayIds (σ.sent ++ σ.inner.pending), g.streamId ≤ v := by
            simpa [goawayInOrder, hopen, log] using hc
          have h₁ : Descends σ.sent m₁ := (Move.admin ha).descends hd
            (fun h => by cases h) (fun _ h => by cases h)
          have h₂ : Descends σ.sent m₂ := hm.descends h₁ (fun h => by cases h) fun sid hk => by
            cases hk
            rw [ha.pending]
            exact hle
          exact hm'.descends h₂ (fun h => by cases h) (fun _ h => by cases h)
      · refine other (by intro h; cases h) (fun hk => ?_) (fun _ hk => ?_) hsent
        · exact (Inner.addedBy_of_frameKinds hk).elim
        · obtain ⟨g, rfl, -⟩ := Inner.addedBy_of_frameKinds hk
          exact hf ⟨g, rfl⟩
  | call c =>
      have hsent := hs.sent (by intro h; cases h)
      by_cases hb : c = .beginGracefulShutdown
      · subst hb
        cases hs
        unfold goawayInOrder at hc
        change Descends σ.sent σ.inner.beginGracefulShutdown.1
        unfold Inner.beginGracefulShutdown
        split
        · exact hd
        · next hg =>
          have hle : ∀ v ∈ goawayIds (σ.sent ++ σ.inner.pending), maxStreamIdValue ≤ v := by
            simpa [hg, log] using hc
          have h₁ := (Move.phase1 (by simpa using hg)).descends hd (fun _ => hle)
            (fun _ h => by cases h)
          exact (Move.ctrl rfl).descends h₁ (fun h => by cases h) (fun _ h => by cases h)
      · exact other (by intro h; cases h) (fun hk => hb (Inner.calledBy_of_callKinds hk))
          (fun _ hk => (Inner.calledBy_of_callKinds hk).elim) hsent
  | pump =>
      refine other (by intro h; cases h) (fun hk => ?_) (fun sid hk => ?_)
        (hs.sent (by intro h; cases h))
      all_goals
        unfold kinds at hk
        cases hp : σ.pump <;> rw [hp] at hk
        case failing e => rcases hk with ⟨h, -⟩ | h <;> cases h
        all_goals cases hk
  | _ =>
      exact other (by intro h; cases h) (fun hk => hk.elim) (fun _ hk => hk.elim)
        (hs.sent (by intro h; cases h))

/-- **The last-stream-ids of the GOAWAY frames never rise**, in every run that opens no stream
above a GOAWAY and begins its graceful shutdown before any lower one. -/
theorem goaways_descend (r : Run (fun σ a => σ.goawayInOrder a = true) cfg σ) :
    (goawayIds σ.log).Pairwise (· ≥ ·) := by
  have hinv : σ.Ok ∧ Descends σ.sent σ.inner :=
    Reach.invariant (I := fun σ : Sys => σ.Ok ∧ Descends σ.sent σ.inner) r
      ⟨ok_init cfg, descends_init cfg⟩ fun ⟨hok, hd⟩ hs hc =>
        ⟨hok.step hs, descends_step hok hd hs hc⟩
  exact hinv.2.sorted

/-- An error path's GOAWAY, and then a graceful shutdown. -/
def shutdownAfterError : List Action :=
  [.call (.sendGoaway .protocolError []), .call .beginGracefulShutdown]

/-- The graceful shutdown raises the id from 0 to the largest. -/
theorem goaways_rise : ¬ ∀ (cfg : Config) (σ : Sys), cfg.role = .server → Reached cfg σ →
    (goawayIds σ.log).Pairwise (· ≥ ·) := by
  intro h
  obtain ⟨σ, r, hσ⟩ := reached_of_exec serverConfig shutdownAfterError
    (fun σ => goawayIds σ.log == [0, maxStreamIdValue]) (by decide +kernel)
  have := h serverConfig σ rfl r
  rw [beq_iff_eq.mp hσ] at this
  exact absurd this (by decide)

/-- A graceful shutdown with its PING answered, after a request. -/
def gracefulShutdown : List Action :=
  [.recv (.headers { streamId := 1, inRange := inRange_one, endStream := true }), .call .beginGracefulShutdown,
    .recv (.headers { streamId := 3, inRange := inRange_three, endStream := true }),
    .recv (.ping { ack := true, data := shutdownPing, length := shutdownPing_length }),
    .recv (.headers { streamId := 5, inRange := inRange_five, endStream := true }),
    .call (.sendGoaway .protocolError [])]

theorem goaways_descend_graceful : ∃ σ,
    Run (fun σ a => σ.goawayInOrder a = true) serverConfig σ ∧
      goawayIds σ.log = [maxStreamIdValue, 3, 3] ∧ (goawayIds σ.log).Pairwise (· ≥ ·) := by
  obtain ⟨σ, r, hσ⟩ := run_of_exec goawayInOrder serverConfig gracefulShutdown
    (fun σ => goawayIds σ.log == [maxStreamIdValue, 3, 3]) (by decide +kernel)
  exact ⟨σ, r, beq_iff_eq.mp hσ, goaways_descend r⟩

end Sys

end Httpunk.H2
