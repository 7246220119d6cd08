import Httpunk.H2.Safety.HalfOpen

/-!
# H2 — Safety — Silence

What is queued on a stream once it has been ended, or reset.

* `OutFrame.speaks`, `OutFrame.stops`: HEADERS or DATA of a stream; what ends it.
* `Speech`: what a move, a run of moves and a step of the driver queue on a stream in use.
* `Sys.step_unspoken`: on a stream whose head is out only its own sends speak.
* `Sys.EndsOver`: where END_STREAM is queued the send half is over.
-/

namespace Httpunk.H2

open Runs (Reach)

/-- HEADERS or DATA of the stream. -/
def OutFrame.speaks (sid : Nat) : OutFrame → Bool
  | .headers k _ _ | .data k _ _ => k == sid
  | _ => false

/-- END_STREAM or RST_STREAM of the stream. -/
def OutFrame.stops (sid : Nat) : OutFrame → Bool
  | .headers k _ eos | .data k _ eos => k == sid && eos
  | .rstStream k _ => k == sid
  | _ => false

/-- No frame speaks for the stream once one has stopped it. -/
def Silent (sid : Nat) (fs : List OutFrame) : Prop :=
  fs.Pairwise fun f g => f.stops sid = true → g.speaks sid = false

variable {s s' s₁ : Inner} {k : Kind} {extra : Kind → Prop} {sid : Nat} {fs gs : List OutFrame}
  {f : OutFrame}

theorem OutFrame.ends_speaks (h : f.speaks sid = false) : f.endsStream sid = false := by
  cases f with
  | headers | data =>
      simp only [OutFrame.speaks] at h
      rw [OutFrame.endsStream, h, Bool.false_and]
  | _ => rfl

/-- The frames that a change of the connection queues, as the stream takes them. -/
structure Speech (sid : Nat) (s s' : Inner) (fs : List OutFrame) : Prop where
  silent : Silent sid fs
  mute : s.SendOver sid → ∀ f ∈ fs, f.speaks sid = false
  stopped : (∃ f ∈ fs, f.stops sid = true) → s'.SendOver sid

namespace Speech

/-- Nothing is queued on the stream. -/
theorem calm (h : ∀ f ∈ fs, f.speaks sid = false ∧ f.stops sid = false) : Speech sid s s' fs where
  silent := List.Pairwise.imp_of_mem (fun _ hg _ _ => (h _ hg).1) (List.pairwise_of_forall fun _ _ => trivial)
  mute := fun _ f hf => (h f hf).1
  stopped := fun ⟨f, hf, hs⟩ => by
    rw [(h f hf).2] at hs
    cases hs

/-- One frame is queued. -/
theorem one (ho : s.SendOver sid → f.speaks sid = false)
    (hs : f.stops sid = true → s'.SendOver sid) : Speech sid s s' [f] where
  silent := List.pairwise_singleton _ _
  mute := fun h _ hg => List.mem_singleton.mp hg ▸ ho h
  stopped := fun ⟨_, hg, hst⟩ => hs (List.mem_singleton.mp hg ▸ hst)

theorem trans (h : Speech sid s s₁ fs) (h' : Speech sid s₁ s' gs)
    (ho : s.SendOver sid → s₁.SendOver sid) (ho' : s₁.SendOver sid → s'.SendOver sid) :
    Speech sid s s' (fs ++ gs) where
  silent := by
    refine List.pairwise_append.mpr ⟨h.silent, h'.silent, fun f hf g hg hst => ?_⟩
    exact h'.mute (h.stopped ⟨f, hf, hst⟩) g hg
  mute := by
    intro hs f hf
    rcases List.mem_append.mp hf with hf | hf
    · exact h.mute hs f hf
    · exact h'.mute (ho hs) f hf
  stopped := by
    rintro ⟨f, hf, hst⟩
    rcases List.mem_append.mp hf with hf | hf
    · exact ho' (h.stopped ⟨f, hf, hst⟩)
    · exact h'.stopped ⟨f, hf, hst⟩

end Speech

/-- The kinds of moves that queue a frame on a stream. -/
def Kind.voiced : Kind → Bool
  | .rst _ | .head _ _ | .request _ _ | .data _ _ _ => true
  | _ => false

theorem Kind.calm_of_queues (hk : k.voiced = false) (h : k.queues s fs) :
    ∀ f ∈ fs, f.speaks sid = false ∧ f.stops sid = false := by
  have hctrl : ∀ f : OutFrame, f.isCtrl = true → f.speaks sid = false ∧ f.stops sid = false := by
    intro f hf
    cases f <;> first | exact ⟨rfl, rfl⟩ | cases hf
  cases k with
  | rst | head | request | data => cases hk
  | ctrl | reclaim | swallow | settle => exact fun f hf => hctrl f (h f hf)
  | reply | goaway =>
      obtain ⟨reason, debugData, rfl⟩ := h
      intro f hf
      rw [List.mem_singleton.mp hf]
      exact ⟨rfl, rfl⟩
  | phase1 | phase2 =>
      obtain rfl := h
      intro f hf
      rw [List.mem_singleton.mp hf]
      exact ⟨rfl, rfl⟩
  | _ =>
      obtain rfl := h
      intro f hf
      cases hf

/-- A stored stream's send half is over as its state says. -/
theorem Inner.sendOver_iff {e : StreamEntry} (he : s.streams.lookup sid = some e) :
    s.SendOver sid ↔ e.state.isSendClosed = true := by
  refine ⟨fun h => h e he, fun h e' he' => ?_⟩
  obtain rfl := Option.some.inj (he.symm.trans he')
  exact h

/-- **What a move queues on a stream in use.** -/
theorem Move.speech (m : Move s k s') (h : s.Wf) (hu : s.Used sid) :
    ∃ fs, s'.pending = s.pending ++ fs ∧ Speech sid s s' fs := by
  obtain ⟨fs, hfs, hq⟩ := m.frames
  refine ⟨fs, hfs, ?_⟩
  have hw := m.wf h
  cases hk : k.voiced with
  | false => exact .calm (Kind.calm_of_queues hk hq)
  | true =>
      cases m with
      | @rst sid' _ hc =>
          obtain ⟨reason, rfl⟩ := hq
          refine .one (fun _ => rfl) fun hs e he => ?_
          obtain rfl : sid' = sid := beq_iff_eq.mp hs
          exact State.isSendClosed_of_isClosed (hc e he)
      | @head sid' e _ eos st he ho hl hend =>
          obtain ⟨block, rfl⟩ := hq
          refine .one (fun hov => ?_) fun hs => ?_
          · refine beq_eq_false_iff_ne.mpr fun hne => ?_
            subst hne
            rw [Inner.sendOver_iff he, ho] at hov
            cases hov
          · obtain ⟨heq, heos⟩ := Bool.and_eq_true_iff.mp hs
            obtain rfl : sid' = sid := beq_iff_eq.mp heq
            exact (Inner.sendOver_iff (AList.lookup_insert _)).mpr (hend heos)
      | @data sid' _ eos e _ _ st he hs _ _ _ hend =>
          obtain rfl := hq
          refine .one (fun hov => ?_) fun hst => ?_
          · refine beq_eq_false_iff_ne.mpr fun hne => ?_
            subst hne
            rw [Inner.sendOver_iff he] at hov
            rw [State.isSendStreaming_of_isSendClosed hov] at hs
            cases hs
          · obtain ⟨heq, heos⟩ := Bool.and_eq_true_iff.mp hst
            obtain rfl : sid' = sid := beq_iff_eq.mp heq
            rw [if_pos heos] at hend
            exact (Inner.sendOver_iff (AList.lookup_insert _)).mpr
              (State.sendClose_isSendClosed hend)
      | request hr hd hm hs =>
          obtain ⟨block, rfl⟩ := hq
          have hne : s.nextId ≠ sid := by
            rw [Inner.Used, hr] at hu
            exact Nat.ne_of_gt hu
          have hbeq : (s.nextId == sid) = false := beq_eq_false_iff_ne.mpr hne
          refine .one (fun _ => hbeq) fun hst => ?_
          rw [OutFrame.stops, hbeq, Bool.false_and] at hst
          cases hst
      | _ => cases hk

/-- **What a run of moves queues on a stream in use.** -/
theorem Moves.speech (r : Moves extra s s') (h : s.Wf) (hu : s.Used sid) :
    ∃ fs, s'.pending = s.pending ++ fs ∧ Speech sid s s' fs := by
  have hinv : s'.Wf ∧ s'.Used sid ∧ (s.SendOver sid → s'.SendOver sid) ∧
      ∃ fs, s'.pending = s.pending ++ fs ∧ Speech sid s s' fs := by
    refine Reach.invariant (I := fun t => t.Wf ∧ t.Used sid ∧ (s.SendOver sid → t.SendOver sid) ∧
      ∃ fs, t.pending = s.pending ++ fs ∧ Speech sid s t fs) r
      ⟨h, hu, id, [], (List.append_nil _).symm, .calm fun f hf => by cases hf⟩ ?_
    rintro t k t' ⟨hw, hut, hov, fs, hfs, hsp⟩ m hk
    obtain ⟨gs, hgs, hsp'⟩ := m.speech hw hut
    have hov' : t.SendOver sid → t'.SendOver sid :=
      Moves.sendOver (Reach.single m hk : Moves extra t t') hw hut
    refine ⟨m.wf hw, m.grows.used hut, fun ho => hov' (hov ho), fs ++ gs, ?_, hsp.trans hsp' hov hov'⟩
    rw [hgs, hfs, List.append_assoc]
  exact hinv.2.2.2

/-- A stream that the peer resets is over. -/
theorem Inner.recvReset_over (h : s.Wf) (f : RstStream) {v : Option RecvResetVerdict}
    (hv : (s.recvReset f).2 = .ok v) : (s.recvReset f).1.SendOver f.streamId := by
  have hon : ∀ (me : Inner) {e : StreamEntry}, me.streams.lookup f.streamId = some e →
      ¬(me.recvResetOn f e).1.Live f.streamId := fun me e he => by
    unfold recvResetOn
    dsimp only
    split
    · next hf =>
      rintro ⟨e', he', hlive⟩
      obtain rfl := Option.some.inj (he.symm.trans he')
      rw [hf] at hlive
      cases hlive
    · exact closeStream_dead fun e' he' =>
        closed_of_lookup_reclaim (State.isClosed_recvReset e.state f.streamId f.errorCode) he'
  have hm : Moves Kind.nothing s (s.recvReset f).1 := recvReset_moves s f
  refine sendOver_of_dead (hm.wf h) ?_
  unfold recvReset at hv ⊢
  dsimp only at hv ⊢
  split
  · next h0 => rw [if_pos h0] at hv; cases hv
  · next h0 =>
    rw [if_neg h0] at hv
    split
    · next hn =>
      split
      · exact not_live_of_none hn
      · split <;> exact not_live_of_none hn
    · next e he =>
      rw [he] at hv
      dsimp only at hv
      split
      · next hp =>
        rw [if_pos hp] at hv
        split
        · next hmax => rw [if_pos hmax] at hv; cases hv
        · exact hon { s with remoteResetPending := insert f.streamId s.remoteResetPending } he
      · exact hon s he

/-! ### END_STREAM -/

/-- Where END_STREAM is queued, the stream is in use and its send half over. -/
def Inner.EndsOver (me : Inner) (fs : List OutFrame) : Prop :=
  ∀ sid, (∃ f ∈ fs, f.endsStream sid = true) → me.Used sid ∧ me.SendOver sid

theorem not_ends (h : ∀ f ∈ fs, f.endsStream sid = false) :
    ¬∃ f ∈ fs, f.endsStream sid = true := by
  rintro ⟨f, hf, he⟩
  rw [h f hf] at he
  cases he

/-- One frame, which ends no stream but one whose send half has closed. -/
theorem Inner.EndsOver.one (hw : s.Wf) {k : Nat} (hk : ∀ sid, f.endsStream sid = true → k = sid)
    (hs : f.endsStream k = true →
      ∃ e, s.streams.lookup k = some e ∧ e.state.isSendClosed = true) : s.EndsOver [f] := by
  rintro sid ⟨g, hg, he⟩
  obtain rfl := List.mem_singleton.mp hg
  obtain rfl := hk sid he
  obtain ⟨e, hl, hc⟩ := hs he
  exact ⟨hw.used hl, (sendOver_iff hl).mpr hc⟩

theorem Move.endsOver (m : Move s k s') (h : s.Wf) :
    ∃ fs, s'.pending = s.pending ++ fs ∧ s'.EndsOver fs := by
  obtain ⟨fs, hfs, hq⟩ := m.frames
  refine ⟨fs, hfs, ?_⟩
  have hw := m.wf h
  have heq : ∀ {k sid : Nat} {eos : Bool}, (k == sid && eos) = true → k = sid ∧ eos = true :=
    fun hb => (Bool.and_eq_true_iff.mp hb).imp_left beq_iff_eq.mp
  cases hk : k.voiced with
  | false =>
      intro sid hf
      exact absurd hf (not_ends fun f hf => OutFrame.ends_speaks (Kind.calm_of_queues hk hq f hf).1)
  | true =>
      cases m with
      | rst _ =>
          obtain ⟨reason, rfl⟩ := hq
          rintro sid ⟨f, hf, he⟩
          rw [List.mem_singleton.mp hf] at he
          cases he
      | head he ho hl hend =>
          obtain ⟨block, rfl⟩ := hq
          refine .one hw (fun sid hf => (heq hf).1) fun hf => ?_
          exact ⟨_, AList.lookup_insert _, hend (heq hf).2⟩
      | data he hs _ _ _ hend =>
          obtain rfl := hq
          refine .one hw (fun sid hf => (heq hf).1) fun hf => ?_
          rw [if_pos (heq hf).2] at hend
          exact ⟨_, AList.lookup_insert _, State.sendClose_isSendClosed hend⟩
      | request hr hd hm hs =>
          obtain ⟨block, rfl⟩ := hq
          refine .one hw (fun sid hf => (heq hf).1) fun hf => ?_
          exact ⟨_, AList.lookup_insert _, (State.sendOpen_isSendClosed hs).2.trans (heq hf).2⟩
      | _ => cases hk

theorem Moves.endsOver (r : Moves extra s s') (h : s.Wf) :
    ∃ fs, s'.pending = s.pending ++ fs ∧ s'.EndsOver fs := by
  have hinv : s'.Wf ∧ ∃ fs, s'.pending = s.pending ++ fs ∧ s'.EndsOver fs := by
    refine Reach.invariant (I := fun t => t.Wf ∧ ∃ fs, t.pending = s.pending ++ fs ∧ t.EndsOver fs) r
      ⟨h, [], (List.append_nil _).symm, fun sid hf => absurd hf (not_ends fun f hf => by cases hf)⟩ ?_
    rintro t k t' ⟨hw, fs, hfs, he⟩ m hk
    obtain ⟨gs, hgs, he'⟩ := m.endsOver hw
    refine ⟨m.wf hw, fs ++ gs, by rw [hgs, hfs, List.append_assoc], ?_⟩
    rintro sid ⟨f, hf, hend⟩
    rcases List.mem_append.mp hf with hf | hf
    · obtain ⟨hu, ho⟩ := he sid ⟨f, hf, hend⟩
      exact ⟨m.grows.used hu, Moves.sendOver (Reach.single m hk : Moves extra t t') hw hu ho⟩
    · exact he' sid ⟨f, hf, hend⟩
  exact hinv.2

/-! ### Who speaks -/

/-- The kinds of moves that queue nothing of the stream's own. -/
def Kind.mutes (sid : Nat) : Kind → Bool
  | .head k _ | .request k _ | .data k _ _ => k != sid
  | _ => true

theorem Kind.mutes_of_common (h : k.common = true) : k.mutes sid = true := by
  cases k <;> first | rfl | cases h

theorem Kind.unspoken (hk : k.mutes sid = true) (h : k.queues s fs) :
    ∀ f ∈ fs, f.speaks sid = false := by
  cases hv : k.voiced with
  | false => exact fun f hf => (Kind.calm_of_queues hv h f hf).1
  | true =>
      have hne : ∀ {k : Nat}, (k != sid) = true → (k == sid) = false := fun hb => by
        simpa using hb
      cases k with
      | rst =>
          obtain ⟨reason, rfl⟩ := h
          intro f hf
          rw [List.mem_singleton.mp hf]
          rfl
      | head | request =>
          obtain ⟨block, rfl⟩ := h
          intro f hf
          rw [List.mem_singleton.mp hf]
          exact hne hk
      | data =>
          obtain rfl := h
          intro f hf
          rw [List.mem_singleton.mp hf]
          exact hne hk
      | _ => cases hv

/-- A run of moves none of which is the stream's own speaks not for it. -/
theorem Moves.unspoken (sid : Nat) (r : Moves extra s s')
    (hk : ∀ k, extra k → k.mutes sid = true) :
    ∃ fs, s'.pending = s.pending ++ fs ∧ ∀ f ∈ fs, f.speaks sid = false :=
  r.frames fun k _ _ hc hq => Kind.unspoken (hc.elim Kind.mutes_of_common (hk k)) hq

/-- A stream's head goes out once. -/
theorem State.not_begun_of_sendOpen {st st' : State} {eos : Bool} (h : st.sendOpen eos = .ok st') :
    st.sendBegun = false := by
  unfold sendOpen at h
  split at h <;> cases h <;> rfl

theorem State.begun_of_sendOpen {st st' : State} {eos : Bool} (h : st.sendOpen eos = .ok st') :
    st'.sendBegun = true := by
  unfold sendOpen at h
  split at h <;> cases h <;> cases eos <;> simp

/-- A response head on a stream whose head is out is refused. -/
theorem Inner.SendBegun.sendResponseHead (h : s.SendBegun sid) (status : Nat) (fields : Fields)
    (endStream : Bool) (date : String) :
    (s.sendResponseHead sid status fields endStream date).1 = s := by
  unfold Inner.sendResponseHead
  dsimp only
  split
  · rfl
  · split
    · rfl
    · next e he =>
      split
      · rfl
      · split
        · rfl
        · split
          · rfl
          · next st hst =>
            have hb : e.state.sendBegun = true := h e he
            rw [State.not_begun_of_sendOpen hst] at hb
            cases hb

/-- HEADERS on a stream in use open nothing, and are answered with none. -/
theorem Inner.recvHeaders_unspoken (h : s.Wf) (hu : s.Used sid) (f : Headers) (spare : Bool) :
    ∃ fs, (s.recvHeaders f spare).1.pending = s.pending ++ fs ∧
      ∀ f ∈ fs, f.speaks sid = false := by
  by_cases hk : f.streamId = sid
  · rcases recvHeaders_effect h f spare with ⟨hm, -⟩ | ⟨⟨hr, ho, -⟩, -⟩
    · exact hm.unspoken _ fun k hk => by rw [hk]; rfl
    · subst hk
      rw [Used, hr] at hu
      simp only [opensRequest, Bool.and_eq_true, decide_eq_true_eq] at ho
      omega
  · refine (recvHeaders_moves h f spare).unspoken _ fun k hmem => ?_
    simp only [headersKinds, List.mem_cons, List.not_mem_nil, or_false] at hmem
    rcases hmem with rfl | rfl | rfl
    · rfl
    · rfl
    · exact bne_iff_ne.mpr hk

namespace Sys

variable {σ σ' : Sys} {a : Action} {cfg : Config}

/-- What the writer takes stays in the log. -/
theorem log_flush (σ : Sys) : σ.flush.log = σ.log := List.append_nil _

/-- **What a step queues**, as every stream in use takes it. -/
theorem step_speech (h : σ.Ok) (hs : Step σ a σ') (hu : σ.inner.Used sid) :
    ∃ fs, σ'.log = σ.log ++ fs ∧ Speech sid σ.inner σ'.inner fs := by
  by_cases ha : a = .flush
  · subst ha
    cases hs
    exact ⟨[], (log_flush σ).trans (List.append_nil _).symm, .calm fun f hf => by cases hf⟩
  · obtain ⟨fs, hfs, hsp⟩ := (h.step_moves hs ha).speech h.wf hu
    refine ⟨fs, ?_, hsp⟩
    rw [log, log, hs.sent ha, hfs, List.append_assoc]

/-- A stream whose reset by the peer is taken is over. -/
theorem sendOver_recv_reset (h : σ.Ok) {f : RstStream} {v : Option RecvResetVerdict}
    (hs : Step σ (.recv (.rstStream f)) σ') (hv : (σ.inner.recvReset f).2 = .ok v) :
    σ'.inner.SendOver f.streamId := by
  obtain ⟨-, rfl⟩ := hs.recv
  rw [inner_recv]
  exact Inner.recvReset_over h.wf f hv

/-- The step is a send on the stream. -/
def sendsOn (sid : Nat) : Action → Bool
  | .call (.sendData k _ _ _) | .call (.sendTrailers k _) => k == sid
  | _ => false

/-- **On a stream whose head is out only its own sends speak.** -/
theorem step_unspoken (h : σ.Ok) (hs : Step σ a σ') (hu : σ.inner.Used sid)
    (hb : σ.inner.SendBegun sid) (ha : sendsOn sid a = false) :
    ∃ fs, σ'.log = σ.log ++ fs ∧ ∀ f ∈ fs, f.speaks sid = false := by
  by_cases hf : a = .flush
  · subst hf
    cases hs
    exact ⟨[], (log_flush σ).trans (List.append_nil _).symm, fun f hf => by cases hf⟩
  · have hin : ∃ fs, σ'.inner.pending = σ.inner.pending ++ fs ∧ ∀ f ∈ fs, f.speaks sid = false := by
      have hm := h.step_moves hs hf
      cases a with
      | recv f =>
          obtain ⟨-, rfl⟩ := hs.recv
          rw [inner_recv]
          cases f with
          | headers f =>
              obtain ⟨fs, hfs, hn⟩ := Inner.recvHeaders_unspoken h.wf hu f (σ.inner.role = .server)
              exact ⟨fs, hfs, hn⟩
          | _ =>
              refine (Inner.dispatch_moves h.wf _).unspoken _ fun k hk => ?_
              have hadded := Inner.addedBy_of_frameKinds hk
              cases k with
              | head => obtain ⟨g, hg, -⟩ := hadded; cases hg
              | request | data => exact hadded.elim
              | _ => rfl
      | call c =>
          obtain ⟨hc, rfl⟩ := hs.call
          have hmc := h.call_moves hc
          cases c with
          | sendResponseHead k status fields eos date =>
              by_cases hk : k = sid
              · subst hk
                refine ⟨[], ?_, fun f hf => by cases hf⟩
                rw [List.append_nil]
                exact congrArg Inner.pending (hb.sendResponseHead status fields eos date)
              · exact hmc.unspoken _ fun _ hkind => by rw [hkind]; exact bne_iff_ne.mpr hk
          | openStream request eos isHead =>
              refine hmc.unspoken _ fun _ hkind => ?_
              rw [hkind]
              refine bne_iff_ne.mpr fun hne => ?_
              have hrole : σ.inner.role = .client := by simpa [allowed] using hc
              rw [Inner.Used, hrole, ← hne] at hu
              exact Nat.lt_irrefl _ hu
          | sendData k data offset eos =>
              refine hmc.unspoken _ fun _ hadded => ?_
              obtain ⟨p, last, hkind⟩ := hadded
              rw [hkind]
              exact bne_iff_ne.mpr (beq_eq_false_iff_ne.mp ha)
          | sendTrailers k trailers =>
              refine hmc.unspoken _ fun _ hkind => ?_
              rw [hkind]
              exact bne_iff_ne.mpr (beq_eq_false_iff_ne.mp ha)
          | _ =>
              refine hmc.unspoken _ fun k hk => ?_
              have hcalled := Inner.calledBy_of_callKinds hk
              cases k with
              | head => rcases hcalled with ⟨_, h, -⟩ | ⟨_, _, _, h⟩ <;> cases h
              | request => obtain ⟨-, _, _, h⟩ := hcalled; cases h
              | data => obtain ⟨_, _, _, h⟩ := hcalled; cases h
              | _ => rfl
      | pump =>
          refine hm.unspoken _ fun k hk => ?_
          cases k with
          | head | request | data => rcases kinds_pump hk with h | ⟨-, ⟨h, -⟩ | h⟩ <;> cases h
          | _ => rfl
      | flush => exact absurd rfl hf
      | _ => exact hm.unspoken _ fun k hk => hk.elim
    obtain ⟨fs, hfs, hn⟩ := hin
    refine ⟨fs, ?_, hn⟩
    rw [log, log, hs.sent hf, hfs, List.append_assoc]

theorem unspoken_init (cfg : Config) (sid : Nat) : ∀ f ∈ (init cfg).log, f.speaks sid = false := by
  obtain ⟨fc, fs, hb, -, hfs, -⟩ := Inner.begin_spec cfg
  intro f hf
  rw [log, inner_init, hb] at hf
  have hopening := hfs f hf
  cases f <;> first | rfl | cases hopening

/-- END_STREAM is queued only where the send half is over. -/
def EndsOver (σ : Sys) : Prop := σ.inner.EndsOver σ.log

theorem EndsOver.step (he : σ.EndsOver) (h : σ.Ok) (hs : Step σ a σ') : σ'.EndsOver := by
  by_cases ha : a = .flush
  · subst ha
    cases hs
    intro sid hf
    rw [log_flush] at hf
    exact he sid hf
  · obtain ⟨fs, hfs, hnew⟩ := (h.step_moves hs ha).endsOver h.wf
    have hlog : σ'.log = σ.log ++ fs := by
      rw [log, log, hs.sent ha, hfs, List.append_assoc]
    rintro sid ⟨f, hf, hend⟩
    rw [hlog] at hf
    rcases List.mem_append.mp hf with hf | hf
    · obtain ⟨hu, ho⟩ := he sid ⟨f, hf, hend⟩
      exact ⟨(h.grows hs).used hu, Upload.sendOver_step h hs hu ho⟩
    · exact hnew sid ⟨f, hf, hend⟩

end Sys

end Httpunk.H2
