import Httpunk.H2.Driver.Writer
import Httpunk.H2.Safety.Drain
import Httpunk.H2.Safety.FinalGoaway
import Httpunk.H2.Safety.Goaway

/-!
# H2 — Safety — Accepting

The server's accept loop (`httpunk/h2/server.py`): the queue the read pump and the verdicts feed,
and the end of a graceful drain.

* `Accept.step`: a step of the driver, with what it puts on the queue.
* `Move.goaways`: each GOAWAY of the log is a phase of the shutdown, the reply, or was asked for.
* `Accept.drain_exact`: the signal, the queue and the reply, in every run.
-/

namespace Httpunk.H2

open Runs (Reach)
open Httpunk.H2.Inner

/-! ### The queue -/

namespace Sys

/-- The request a step publishes (`_on_request`). -/
def opened (s : Sys) : Action → Option Nat
  | .recv f =>
    match (s.inner.dispatch f).2 with
    | .ok a => a.opened
    | .error _ => none
  | _ => none

/-- A verdict of the step asks the server to stop accepting (`_on_stop_accepting`). -/
def stops (s : Sys) (a : Action) : Bool := (s.verdicts a).any fun f => f.stopAccepting

/-- What the step puts on the queue of the accept loop: a request, then the end. -/
def offers (s : Sys) (a : Action) : List (Option Nat) :=
  (s.opened a).toList.map some ++ if s.stops a then [none] else []

/-- The step queues a GOAWAY because the driver asks for one. -/
def asks (s : Sys) : Action → Bool
  | .call (.sendGoaway _ _) => true
  | .pump => match s.pump with
    | .closing _ _ _ => true
    | _ => false
  | _ => false

end Sys

/-- The driver of a server, with all it has put on the queue of its accept loop, the requests
it has opened, in order, and the GOAWAY frames it has asked for. -/
structure Accept where
  sys : Sys
  incoming : List (Option Nat)
  requests : List Nat
  asked : Nat

namespace Accept

def init (cfg : Config) : Accept := ⟨.init cfg, [], [], 0⟩

def step (w : Accept) (a : Sys.Action) : Option Accept :=
  (w.sys.step a).map fun s =>
    { sys := s
      incoming := w.incoming ++ w.sys.offers a
      requests := w.requests ++ (w.sys.opened a).toList
      asked := w.asked + if w.sys.asks a then 1 else 0 }

/-- A step, as a relation. -/
def Step (w : Accept) (a : Sys.Action) (w' : Accept) : Prop := w.step a = some w'

/-- The states reached from the handshake on. -/
abbrev Reached (cfg : Config) (w : Accept) : Prop := Reach Step Runs.Any (init cfg) w

/-- The graceful drain is complete: the final GOAWAY has been queued, and no stream is live. -/
def Done (w : Accept) : Prop := w.sys.inner.shutdownFinal = true ∧ w.sys.inner.Quiet

end Accept

/-! ### The GOAWAY frames of a log -/

variable {s s' : Inner} {k : Kind} {extra : Kind → Prop} {sent : List OutFrame}

/-- The phases of a shutdown that have been announced, and the reply. -/
def Inner.announced (me : Inner) : Nat :=
  me.graceful.toNat + me.shutdownFinal.toNat + me.goawayReplied.toNat

theorem goawayIds_goAway (last : Nat) (reason : Reason) (debugData : Bytes) :
    (goawayIds [.goAway last reason debugData]).length = 1 := rfl

theorem Move.replied (m : Move s k s') (hk : k ≠ .reply) : s'.goawayReplied = s.goawayReplied := by
  have hgive : ∀ (t : Inner) n, (t.reclaimConn n).goawayReplied = t.goawayReplied := fun t n => by
    obtain ⟨fc, fs, hs, -⟩ := reclaimConn_eq t n
    rw [hs]
  cases m with
  | admin h => exact h.goawayReplied
  | reclaim _ _ | swallow _ | settle _ _ _ => exact hgive _ _
  | reply _ => exact absurd rfl hk
  | _ => rfl

theorem Move.gracefulKept (m : Move s k s') (hk : k ≠ .phase1) : s'.graceful = s.graceful := by
  have steady : k.steady = true → s'.graceful = s.graceful := fun hk => (m.steady hk).graceful
  cases m with
  | reply hd => rw [maybeGoawayReply_of_due hd]
  | phase1 _ => exact absurd rfl hk
  | _ => first | exact steady rfl | rfl

/-- **Each GOAWAY of the log is a phase of the shutdown, or the reply**, or was asked for. -/
theorem Move.goaways (m : Move s k s') (sent : List OutFrame) (hk : k ≠ .goaway) :
    (goawayIds (sent ++ s'.pending)).length + s.announced =
      (goawayIds (sent ++ s.pending)).length + s'.announced := by
  obtain ⟨fs, hfs, hq⟩ := m.frames
  have hids : (goawayIds (sent ++ s'.pending)).length =
      (goawayIds (sent ++ s.pending)).length + (goawayIds fs).length := by
    rw [hfs, ← List.append_assoc, goawayIds_append, List.length_append]
  -- a move that queues no GOAWAY and announces nothing
  have quiet : goawayIds fs = [] → k ≠ .reply → k ≠ .phase1 → k ≠ .phase2 →
      (goawayIds (sent ++ s'.pending)).length + s.announced =
        (goawayIds (sent ++ s.pending)).length + s'.announced := fun h0 h₁ h₂ h₃ => by
    rw [hids, h0, announced, announced, m.replied h₁, m.gracefulKept h₂, m.final h₃]
    rfl
  cases k with
  | goaway => exact absurd rfl hk
  | phase1 =>
      have h₁ := m.replied (by nofun)
      have h₂ := m.final (by nofun)
      obtain rfl : fs = _ := hq
      cases m with
      | phase1 hg =>
          rw [hids, announced, announced, hg, goawayIds_goAway]
          simp only [Bool.toNat_false, Bool.toNat_true, emit]
          omega
  | phase2 =>
      obtain rfl : fs = _ := hq
      cases m with
      | phase2 _ hg =>
          rw [hids, announced, announced, hg, goawayIds_goAway]
          simp only [Bool.toNat_false, Bool.toNat_true, emit]
          omega
  | reply =>
      obtain ⟨reason, debugData, rfl⟩ := hq
      cases m with
      | reply hd =>
          have hr : s.goawayReplied = false := by
            unfold replyDue at hd
            rcases hg : s.goawayReplied
            · rfl
            · rw [hg] at hd
              simp at hd
          rw [hids, maybeGoawayReply_of_due hd, announced, announced, hr, goawayIds_goAway]
          simp only [Bool.toNat_false, Bool.toNat_true]
          omega
  | ctrl => exact quiet (goawayIds_ctrl hq) (by nofun) (by nofun) (by nofun)
  | reclaim => exact quiet (goawayIds_ctrl hq) (by nofun) (by nofun) (by nofun)
  | swallow => exact quiet (goawayIds_ctrl hq) (by nofun) (by nofun) (by nofun)
  | settle _ _ => exact quiet (goawayIds_ctrl hq) (by nofun) (by nofun) (by nofun)
  | rst _ => obtain ⟨_, rfl⟩ := hq; exact quiet rfl (by nofun) (by nofun) (by nofun)
  | head _ _ => obtain ⟨_, rfl⟩ := hq; exact quiet rfl (by nofun) (by nofun) (by nofun)
  | request _ _ => obtain ⟨_, rfl⟩ := hq; exact quiet rfl (by nofun) (by nofun) (by nofun)
  | data _ _ _ => subst hq; exact quiet rfl (by nofun) (by nofun) (by nofun)
  | _ => subst hq; exact quiet rfl (by nofun) (by nofun) (by nofun)

theorem Moves.goaways (r : Moves extra s s') (sent : List OutFrame) (hk : ¬extra .goaway) :
    (goawayIds (sent ++ s'.pending)).length + s.announced =
      (goawayIds (sent ++ s.pending)).length + s'.announced := by
  refine Reach.invariant (I := fun t : Inner =>
    (goawayIds (sent ++ t.pending)).length + s.announced =
      (goawayIds (sent ++ s.pending)).length + t.announced) r rfl fun {t k t'} ih m hm => ?_
  have := m.goaways sent (by
    rintro rfl
    exact hm.elim (fun h => by cases h) hk)
  omega

/-! ### The reply -/

/-- A run that opens no stream replies only when none is left. -/
theorem Moves.replies (r : Moves extra s s') (ha : ∀ sid, ¬extra (.accept sid))
    (hq : ∀ sid eos, ¬extra (.request sid eos)) :
    s'.goawayReplied = true → s.goawayReplied = true ∨ s'.numActive = 0 := by
  refine Reach.invariant (I := fun t : Inner => t.goawayReplied = true →
    s.goawayReplied = true ∨ t.numActive = 0) r .inl fun {t k t'} ih m hm h => ?_
  by_cases hk : k = .reply
  · subst hk
    cases m with
    | reply hd =>
        refine .inr ?_
        rw [maybeGoawayReply_of_due hd]
        unfold replyDue at hd
        by_contra h0
        simp [show t.numActive ≠ 0 from h0] at hd
  · rw [m.replied hk] at h
    refine (ih h).imp id fun h0 => ?_
    cases m with
    | admin h => exact h.numActive.trans h0
    | reclaim _ _ | swallow _ | settle _ _ _ =>
        exact (congrArg Counts.numActive (counts_reclaimConn _ _)).trans h0
    | reply _ => exact absurd rfl hk
    | finish _ _ _ =>
        change t.numActive - 1 = 0
        omega
    | accept _ _ _ _ => exact (hm.elim (fun h => by cases h) (ha _)).elim
    | request _ _ _ _ => exact (hm.elim (fun h => by cases h) (hq _ _)).elim
    | _ => exact h0

/-! ### Runs -/

namespace Sys

variable {σ σ' : Sys} {a : Action}

/-- A step that replies leaves no stream. -/
theorem step_replies (h : σ.Ok) (hr : σ.inner.role = .server) (hs : Step σ a σ')
    (hrep : σ'.inner.goawayReplied = true) :
    σ.inner.goawayReplied = true ∨ σ'.inner.numActive = 0 := by
  have other : a ≠ .flush → (∀ sid, ¬σ.kinds a (.accept sid)) →
      (∀ sid eos, ¬σ.kinds a (.request sid eos)) →
      σ.inner.goawayReplied = true ∨ σ'.inner.numActive = 0 := fun ha h₁ h₂ =>
    (h.step_moves hs ha).replies h₁ h₂ hrep
  cases a with
  | flush =>
      cases hs
      exact .inl hrep
  | recv f =>
      by_cases hf : ∃ g, f = .headers g
      · obtain ⟨g, rfl⟩ := hf
        have hinner : σ'.inner = (σ.inner.recvHeaders g (σ.inner.role = .server)).1 := by
          obtain ⟨-, rfl⟩ := hs.recv
          exact inner_recv σ _
        rw [hinner] at hrep ⊢
        rcases Inner.recvHeaders_effect h.wf g (σ.inner.role = .server) with
          ⟨hm, -⟩ | ⟨-, m₁, m₂, ha, hm, hm'⟩
        · exact hm.replies (fun _ h => by cases h) (fun _ _ h => by cases h) hrep
        · refine (hm'.replies (fun _ h => by cases h) (fun _ _ h => by cases h) hrep).imp
            (fun h₂ => ?_) id
          rw [hm.replied (by intro h; cases h), ha.goawayReplied] at h₂
          exact h₂
      · refine other (by intro h; cases h) (fun sid hk => ?_) (fun _ _ hk => ?_)
        · obtain ⟨g, rfl, -⟩ := Inner.addedBy_of_frameKinds hk
          exact hf ⟨g, rfl⟩
        · exact (Inner.addedBy_of_frameKinds hk).elim
  | call c =>
      refine other (by intro h; cases h) (fun _ hk => (Inner.calledBy_of_callKinds hk).elim)
        fun sid eos hk => ?_
      obtain ⟨-, request, isHead, rfl⟩ := Inner.calledBy_of_callKinds hk
      have hal := (hs.call).1
      rw [allowed, hr] at hal
      simp at hal
  | pump =>
      refine other (by intro h; cases h) (fun sid hk => ?_) (fun _ _ hk => ?_)
      all_goals
        rcases kinds_pump hk with h | ⟨-, ⟨h, -⟩ | h⟩ <;> cases h
  | _ => exact other (by intro h; cases h) (fun _ hk => hk.elim) (fun _ _ hk => hk.elim)

/-- **The GOAWAY frames of a step**: the phases it announces, and what it asks for. -/
theorem step_goaways (h : σ.Ok) (hs : Step σ a σ') :
    (goawayIds σ'.log).length + σ.inner.announced =
      (goawayIds σ.log).length + σ'.inner.announced + if σ.asks a then 1 else 0 := by
  have asked : ∀ (me : Inner) (sent : List OutFrame) reason debugData,
      (goawayIds (sent ++ (me.sendGoaway reason debugData).1.pending)).length + me.announced =
        (goawayIds (sent ++ me.pending)).length + me.announced + 1 :=
    fun me sent reason debugData => by
      simp only [sendGoaway, emit]
      rw [← List.append_assoc, goawayIds_append, List.length_append, goawayIds_goAway]
      omega
  have other : a ≠ .flush → ¬σ.kinds a .goaway →
      (goawayIds σ'.log).length + σ.inner.announced =
        (goawayIds σ.log).length + σ'.inner.announced := fun ha hk => by
    have := (h.step_moves hs ha).goaways σ.sent hk
    rw [log, log, hs.sent ha]
    exact this
  cases a with
  | flush =>
      cases hs
      have hlog : σ.flush.log = σ.log := List.append_nil _
      rw [hlog]
      rfl
  | recv f =>
      refine other (by intro h; cases h) fun hk => ?_
      exact (Inner.addedBy_of_frameKinds hk).elim
  | call c =>
      by_cases hc : ∃ reason debugData, c = .sendGoaway reason debugData
      · obtain ⟨reason, debugData, rfl⟩ := hc
        cases hs
        exact asked σ.inner σ.sent reason debugData
      · have ha : σ.asks (.call c) = false := by
          cases c <;> first | rfl | exact absurd ⟨_, _, rfl⟩ hc
        rw [ha]
        exact other (by intro h; cases h) fun hk => hc (Inner.calledBy_of_callKinds hk)
  | pump =>
      by_cases hp : ∃ reason debugData e, σ.pump = .closing reason debugData e
      · obtain ⟨reason, debugData, e, hp⟩ := hp
        unfold Step step pumpStep at hs
        simp only [hp] at hs
        cases hs
        simp only [asks, hp, if_true]
        exact asked σ.inner σ.sent reason debugData
      · have ha : σ.asks .pump = false := by
          unfold asks
          cases hp' : σ.pump <;> first | rfl | exact absurd ⟨_, _, _, hp'⟩ hp
        rw [ha]
        refine other (by intro h; cases h) fun hk => ?_
        unfold kinds at hk
        cases hp' : σ.pump <;> rw [hp'] at hk
        case closing => exact hp ⟨_, _, _, hp'⟩
        case failing => rcases hk with ⟨h, -⟩ | h <;> cases h
        all_goals cases hk
  | _ => exact other (by intro h; cases h) fun hk => hk.elim

/-- **What a step drains**, where it does not fail the connection. -/
theorem step_drains (h : σ.Server) (hf : Final σ.sent σ.inner) (hs : Step σ a σ')
    (hn : σ.fails a = false) : Drains σ.inner σ'.inner (σ.stops a) := by
  cases a with
  | recv f =>
      obtain ⟨-, rfl⟩ := hs.recv
      have hd := dispatch_drains h.ok.wf h.role hf.limit h.serves f
      rw [inner_recv]
      unfold stops verdicts
      rcases hr : (σ.inner.dispatch f).2 with err | acts
      · rw [hr] at hd
        simpa [stopsOf, hr] using hd
      · rw [hr] at hd
        simpa [stopsOf, hr] using hd
  | call c =>
      obtain ⟨hal, rfl⟩ := hs.call
      have hopen : ∀ request eos isHead, c = .openStream request eos isHead →
          σ.inner.role = .client := by
        rintro request eos isHead rfl
        simpa [allowed] using hal
      have hfail : ∀ exc message, c ≠ .fail exc message := by
        rintro exc message rfl
        cases hn
      have hd := call_drains h.ok.wf h.role c hfail hopen
      have hflag : (σ.inner.call c).2.flags.stopAccepting = σ.stops (.call c) := by
        unfold stops verdicts callFlags
        cases c with
        | openStream request eos isHead =>
            have := hopen request eos isHead rfl
            rw [h.role] at this
            cases this
        | stopPump => rfl
        | _ => simp
      rw [← hflag]
      exact hd
  | pump =>
      unfold Step step pumpStep at hs
      unfold stops verdicts
      cases hp : σ.pump with
      | resetting sid reason =>
          simp only [hp] at hs
          have hd := resetOnError_drains h.role h.ok.wf.tallied sid reason
          split at hs
          · next v hv =>
            cases hs
            simpa [stopsOf, hv] using hd
          · next err hv =>
            cases hs
            simpa [stopsOf, hv] using hd
      | closing reason debugData e =>
          simp only [hp] at hs
          cases hs
          have hd : Drains σ.inner (σ.inner.sendGoaway reason debugData).1 false := .same rfl rfl
          simpa [sendGoaway] using hd
      | failing e =>
          simp [fails, hp] at hn
      | running => simp only [hp] at hs; cases hs
      | done => simp only [hp] at hs; cases hs
  | reply =>
      unfold Step step at hs
      dsimp only at hs
      split at hs <;> cases hs
      have hd : Drains σ.inner σ.inner.maybeGoawayReply.1 false :=
        .still (counts_maybeGoawayReply σ.inner)
      simpa [stops, verdicts, reply] using hd
  | raised e =>
      unfold Step step at hs
      dsimp only at hs
      split at hs <;> cases hs
      exact .same rfl rfl
  | rehash m =>
      unfold Step step at hs
      dsimp only at hs
      split at hs <;> cases hs
      exact .same rfl rfl
  | flush =>
      cases hs
      exact .same rfl rfl
  | tick d =>
      cases hs
      exact .same rfl rfl

/-- A request is opened only before the final GOAWAY. -/
theorem opened_early {sid : Nat} (h : σ.Server) (hf : Final σ.sent σ.inner) (hs : Step σ a σ')
    (ho : σ.opened a = some sid) :
    σ.inner.shutdownFinal = false ∧ σ'.inner.shutdownFinal = false := by
  have hfinal : ∀ {s s' : Inner} {extra : Kind → Prop}, Moves extra s s' → ¬extra .phase2 →
      s'.shutdownFinal = s.shutdownFinal := fun {s s' extra} r hk =>
    Reach.invariant (I := fun t : Inner => t.shutdownFinal = s.shutdownFinal) r rfl
      fun {t k t'} ih m hm => (m.final (by
        rintro rfl
        exact hm.elim (fun h => by cases h) hk)).trans ih
  -- the verdicts of the other frames open nothing
  have hno : ∀ {α : Type} (g : α → Acts) {r : Except Err α}, (∀ v, (g v).opened = none) →
      (match r.map g with
        | .ok a => a.opened
        | .error _ => none) = some sid →
      σ.inner.shutdownFinal = false ∧ σ'.inner.shutdownFinal = false := fun {α} g {r} hg h => by
    cases r with
    | error _ => cases h
    | ok v =>
        rw [show (match (Except.ok v : Except Err _).map g with
          | .ok a => a.opened
          | .error _ => none) = none from hg v] at h
        cases h
  cases a with
  | recv f =>
      unfold opened at ho
      cases f with
      | headers f =>
          obtain ⟨-, rfl⟩ := hs.recv
          rw [inner_recv]
          simp only [dispatch] at ho ⊢
          rcases Inner.recvHeaders_effect h.ok.wf f (σ.inner.role = .server) with
            ⟨-, hn⟩ | ⟨⟨-, hopen, -⟩, m₁, m₂, ha, hm, hm'⟩
          · rcases hr : (σ.inner.recvHeaders f (σ.inner.role = .server)).2 with err | v
            · rw [hr] at ho
              cases ho
            · rw [hr] at ho
              have hk := hn v hr
              simp only [Except.map, RecvHeadersVerdict.acts, if_neg hk] at ho
              cases ho
          · have hearly : σ.inner.shutdownFinal = false := by
              by_contra hfin
              have hlim := hf.limit (by simpa using hfin)
              have hle := h.ok.wf.processed
              simp only [opensRequest, Bool.and_eq_true, decide_eq_true_eq] at hopen
              omega
            refine ⟨hearly, ?_⟩
            rw [hfinal hm' (by intro h; cases h), hm.final (by intro h; cases h), ha.shutdownFinal]
            exact hearly
      | data f => exact hno _ (fun _ => rfl) ho
      | windowUpdate f => exact hno _ (fun _ => rfl) ho
      | settings f => exact hno _ (fun _ => rfl) ho
      | goAway f => exact hno _ (fun _ => rfl) ho
      | rstStream f => exact hno _ (fun v => by cases v <;> rfl) ho
      | _ => cases ho
  | _ => cases ho

end Sys

namespace Accept

variable {w w' : Accept} {a : Sys.Action} {cfg : Config}

/-- What holds of the accept loop of a server. -/
structure Inv (w : Accept) : Prop where
  server : w.sys.Server
  final : Final w.sys.sent w.sys.inner
  queue : w.sys.inner.error = none →
    w.incoming = w.requests.map some ++ if w.sys.inner.Drained then [none] else []
  goaways : (goawayIds w.sys.log).length = w.sys.inner.announced + w.asked

theorem Step.sys (hs : Step w a w') : Sys.Step w.sys a w'.sys ∧
    w'.incoming = w.incoming ++ w.sys.offers a ∧
    w'.requests = w.requests ++ (w.sys.opened a).toList ∧
    w'.asked = w.asked + if w.sys.asks a then 1 else 0 := by
  unfold Step step at hs
  obtain ⟨s, h, rfl⟩ := Option.map_eq_some_iff.mp hs
  exact ⟨h, rfl, rfl, rfl⟩

theorem error_back (h : w.Inv) (hs : Step w a w') (he : w'.sys.inner.error = none) :
    w.sys.inner.error = none := by
  rcases hw : w.sys.inner.error with _ | err
  · rfl
  · rw [(h.server.ok.grows hs.sys.1).error (by rw [hw]; rfl), hw] at he
    cases he

/-- **What a step puts on the queue.** -/
theorem Inv.queue_step (h : w.Inv) (hs : Step w a w') (he : w'.sys.inner.error = none) :
    w'.incoming = w'.requests.map some ++ if w'.sys.inner.Drained then [none] else [] := by
  obtain ⟨hsys, hin, hreq, -⟩ := hs.sys
  have hd := Sys.step_drains h.server h.final hsys (Sys.not_fails_of_error hsys he)
  rw [hin, hreq, h.queue (error_back h hs he), List.map_append, Sys.offers]
  rcases ho : w.sys.opened a with _ | sid
  · by_cases hb : w.sys.inner.Drained
    · have hstop : w.sys.stops a = false := by
        by_contra hst
        exact (hd.stops.mp (by simpa using hst)).2 hb
      simp [hstop, hb, hd.kept hb]
    · by_cases hw : w'.sys.inner.Drained
      · simp [hd.stops.mpr ⟨hw, hb⟩, hb, hw]
      · have hstop : w.sys.stops a = false := by
          by_contra hst
          exact hw (hd.stops.mp (by simpa using hst)).1
        simp [hstop, hb, hw]
  · obtain ⟨h₁, h₂⟩ := Sys.opened_early h.server h.final hsys ho
    have hb : ¬w.sys.inner.Drained := fun hb => by
      rw [hb.1] at h₁
      cases h₁
    have hw : ¬w'.sys.inner.Drained := fun hw => by
      rw [hw.1] at h₂
      cases h₂
    have hstop : w.sys.stops a = false := by
      by_contra hst
      exact hw (hd.stops.mp (by simpa using hst)).1
    simp [hstop, hb, hw]

theorem Inv.step (h : w.Inv) (hs : Step w a w') : w'.Inv := by
  obtain ⟨hsys, -, -, hask⟩ := hs.sys
  refine ⟨h.server.step hsys, ?_, h.queue_step hs, ?_⟩
  · by_cases ha : a = .flush
    · subst ha
      rw [← Option.some.inj hsys]
      have hlog : w.sys.flush.sent ++ w.sys.flush.inner.pending =
          w.sys.sent ++ w.sys.inner.pending := List.append_nil _
      exact ⟨h.final.stored, h.final.limit, hlog ▸ h.final.queued⟩
    · rw [hsys.sent ha]
      exact (h.server.ok.step_moves hsys ha).finalKept h.server.ok.wf h.server.role h.final
  · have hg := Sys.step_goaways h.server.ok hsys
    have := h.goaways
    rw [hask]
    omega

theorem inv_init (hr : cfg.role = .server) : (init cfg).Inv := by
  obtain ⟨fc, fs, hb, -, hfs, -⟩ := Inner.begin_spec cfg
  have h0 : goawayIds fs = [] := by
    rw [goawayIds, List.filterMap_eq_nil_iff]
    intro f hf
    have := hfs f hf
    cases f <;> first | rfl | cases this
  refine ⟨Sys.server_init hr, Sys.final_init cfg, fun _ => ?_, ?_⟩
  · have hn : ¬(init cfg).sys.inner.Drained := fun hd => by
      have := hd.1
      rw [show (init cfg).sys.inner = _ from (Sys.inner_init cfg).trans hb] at this
      cases this
    rw [if_neg hn]
    rfl
  · have hids : goawayIds (init cfg).sys.log = [] := by
      change goawayIds ((Sys.init cfg).sent ++ (Sys.init cfg).inner.pending) = []
      rw [Sys.inner_init, hb]
      exact h0
    rw [hids, show (init cfg).sys.inner = _ from (Sys.inner_init cfg).trans hb]
    rfl

theorem inv_of_reached (r : Reached cfg w) (hr : cfg.role = .server) : w.Inv :=
  Reach.invariant (I := Inv) r (inv_init hr) fun h hs _ => h.step hs

theorem done_iff (h : w.Inv) : w.Done ↔ w.sys.inner.Drained := by
  refine and_congr_right fun _ => ⟨fun hq => (h.server.ok.wf.quiet_iff.mp hq).1, fun h0 => ?_⟩
  rintro k ⟨e, he, hf⟩
  have := h.server.ok.wf.tallied k e he hf
  omega

/-- **The drain of a server completes exactly when it should.**  In every step that does not fail
the connection the signal is raised just when the step is the one after which the final GOAWAY
has been queued and no stream is live, which stays so; and while no error is recorded the queue
of the accept loop holds every request opened, in order, then the end once the drain is complete.
In every step the connection replies to a peer's GOAWAY only when no stream is left, and the
GOAWAY frames of the log are the phases announced, one reply at most, and those the driver asked
for. -/
theorem drain_exact (hr : cfg.role = .server) (r : Reached cfg w) (hs : Step w a w') :
    (w.sys.fails a = false →
      (w.sys.stops a = true ↔ w'.Done ∧ ¬w.Done) ∧ (w.Done → w'.Done)) ∧
    (w'.Done → .goAway w'.sys.inner.maxStreamId .noError [] ∈ w'.sys.log) ∧
    (w'.sys.inner.error = none → w.sys.fails a = false ∧
      ((w'.Done ∧ w'.incoming = w'.requests.map some ++ [none]) ∨
        (¬w'.Done ∧ w'.incoming = w'.requests.map some))) ∧
    (w'.sys.inner.goawayReplied = true → w.sys.inner.goawayReplied = false →
      w'.sys.inner.Quiet) ∧
    (goawayIds w'.sys.log).length = w'.sys.inner.graceful.toNat +
      w'.sys.inner.shutdownFinal.toNat + w'.sys.inner.goawayReplied.toNat + w'.asked := by
  have h := inv_of_reached r hr
  have h' := h.step hs
  have hsys := hs.sys.1
  refine ⟨fun hn => ?_, fun hdone => h'.final.queued hdone.1, fun he => ?_, fun hrep hno => ?_,
    h'.goaways⟩
  · have hd := Sys.step_drains h.server h.final hsys hn
    rw [done_iff h, done_iff h']
    exact ⟨hd.stops, hd.kept⟩
  · refine ⟨Sys.not_fails_of_error hsys he, ?_⟩
    have hq := h'.queue he
    rw [done_iff h']
    split at hq
    · next hdr => exact .inl ⟨hdr, hq⟩
    · next hdr => exact .inr ⟨hdr, by simpa using hq⟩
  · have h0 := (Sys.step_replies h.server.ok h.server.role hsys hrep).resolve_left (by simp [hno])
    rintro k ⟨e, he, hf⟩
    have := h'.server.ok.wf.tallied k e he hf
    omega

theorem reached_of_exec (cfg : Config) (as : List Sys.Action) (p : Accept → Bool)
    (h : (Runs.exec step (fun _ _ => true) (init cfg) as).any p = true) :
    ∃ w, Reached cfg w ∧ p w = true := by
  obtain ⟨w, r, hp⟩ := Reach.of_exec_any h
  exact ⟨w, r.mono fun _ _ _ => trivial, hp⟩

/-- A request, and a graceful shutdown with its PING answered. -/
def shutdownWithRequest : List Sys.Action :=
  [.recv (.headers { streamId := 1, inRange := inRange_one, endStream := true }), .call .beginGracefulShutdown,
    .recv (.ping { ack := true, data := shutdownPing, length := shutdownPing_length })]

/-- The response that ends the last stream. -/
def lastResponse : Sys.Action := .call (.sendResponseHead 1 200 [] true "")

/-- The end of the last response raises the signal, and the accept loop ends after its only
request. -/
theorem drain_exact_response : ∃ w w', Reached Sys.serverConfig w ∧ Step w lastResponse w' ∧
    w'.Done ∧ ¬w.Done ∧ w'.incoming = w'.requests.map some ++ [none] := by
  obtain ⟨w, r, hw⟩ := reached_of_exec Sys.serverConfig shutdownWithRequest (fun w =>
    (w.step lastResponse).any fun w' => w.sys.stops lastResponse && w'.sys.inner.error.isNone)
    (by decide +kernel)
  rcases hs : w.step lastResponse with _ | w'
  · rw [hs] at hw
    cases hw
  · rw [hs, Option.any_some, Bool.and_eq_true, Option.isNone_iff_eq_none] at hw
    obtain ⟨hdrain, -, hqueue, -⟩ := drain_exact rfl r hs
    obtain ⟨hd, hn⟩ := (hdrain rfl).1.mp hw.1
    exact ⟨w, w', r, hs, hd, hn, ((hqueue hw.2).2.resolve_right fun h => h.1 hd).2⟩

end Accept

end Httpunk.H2
