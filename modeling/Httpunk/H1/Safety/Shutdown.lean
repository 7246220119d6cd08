import Httpunk.H1.Server.Shut
import Httpunk.Support.Runs

/-!
# H1 — Safety — Shutdown

A graceful shutdown of a server connection cuts no request.

* `Sys.Calm`: while the idle read is parked, the state holds no byte and no request.
* `Sys.Mirrors`: two connections that differ in nothing but what a shutdown request decides.
* `Sys.shutdown_serves`: what a shutdown request closes at once, what is served after it, and what
  the heads after it announce.
-/

namespace Httpunk.H1

open Runs (Reach)

/-! ### The task in the accept loop -/

namespace HeadTask

/-- `next_request` has begun and not ended. -/
def Busy (h : HeadTask) : Prop := h ≠ .idle ∧ h ≠ .ended

/-- Where the idle read may be parked. -/
def Parks : HeadTask → Prop
  | .waiting _ | .taking _ | .joining _ _ | .result _ | .reading | .accepting _ _ | .raised
  | .empty | .cancelled => True
  | _ => False

/-- A head is in the reading. -/
def MidHead : HeadTask → Prop
  | .idle | .ended | .draining _ => False
  | _ => True

/-- Where the task stands, whether or not it is called again. -/
def last : HeadTask → HeadTask
  | .idle => .ended
  | h => h

@[simp] theorem last_last (h : HeadTask) : h.last.last = h.last := by
  cases h <;> rfl

theorem midHead_last (h : HeadTask) : h.last.MidHead ↔ h.MidHead := by
  cases h <;> exact .rfl

theorem not_busy {h : HeadTask} (hb : ¬h.Busy) : h = .idle ∨ h = .ended := by
  by_contra hn
  exact hb (not_or.mp hn)

theorem Parks.busy {h : HeadTask} (hp : h.Parks) : h.Busy := by
  constructor <;> rintro rfl <;> exact hp

end HeadTask

namespace Inner

variable {W : Wire} {me : Inner W}

/-- The read verdict: bytes to parse, the end, or an idle read over an empty buffer. -/
theorem readVerdict_cases (me : Inner W) (now : Nat) :
    ((me.readVerdict now).2 = .parse ∨ (me.readVerdict now).2 = .shutdown ∨
        (me.readVerdict now).2 = .eof) ∧
      (me.readVerdict now).1.idleReadParked = me.idleReadParked ∧
      (me.readVerdict now).1.current = me.current ∨
    ((∃ w, (me.readVerdict now).2 = .watcher w) ∨ (me.readVerdict now).2 = .transport) ∧
      (me.readVerdict now).1.buf = [] ∧ (me.readVerdict now).1.current = me.current := by
  unfold readVerdict
  dsimp only
  repeat' split
  · exact .inl ⟨.inl rfl, rfl, rfl⟩
  · exact .inl ⟨.inr (.inl rfl), rfl, rfl⟩
  · next hb _ _ _ _ => exact .inr ⟨.inl ⟨_, rfl⟩, not_not.mp hb, rfl⟩
  · next hb _ _ _ _ => exact .inr ⟨.inr rfl, not_not.mp hb, rfl⟩
  · exact .inl ⟨.inr (.inr rfl), rfl, rfl⟩

/-- The flags of the connection, kept by the verdicts. -/
structure Kept (me me' : Inner W) : Prop where
  reusable : me.reusable = false → me'.reusable = false
  shut : me.shutdownRequested = true → me'.shutdownRequested = true

theorem Tame.kept {me' : Inner W} (h : Tame me me') : Kept me me' := ⟨h.reusable, h.shut⟩

theorem Kept.trans {me₁ me₂ : Inner W} (h : Kept me me₁) (h' : Kept me₁ me₂) : Kept me me₂ :=
  ⟨h'.reusable ∘ h.reusable, h'.shut ∘ h.shut⟩

theorem kept_readVerdict (me : Inner W) (now : Nat) : Kept me (me.readVerdict now).1 := by
  unfold readVerdict
  dsimp only
  repeat' split
  all_goals exact ⟨id, id⟩

theorem kept_readyForNext : Kept me me.readyForNext :=
  (show Tame me me.feedDecoderLeftover from .feedDecoderLeftover).kept.trans ⟨id, id⟩

/-- What the loop finds when it goes for the next head: the state holds no decoder, and the
current request has its response. -/
theorem readyForNext_current (me : Inner W) :
    me.readyForNext.current.hasDecoder = false ∧ me.readyForNext.current.responseDone = true ∧
      me.readyForNext.idleReadParked = me.idleReadParked :=
  ⟨rfl, rfl, (show Tame me me.feedDecoderLeftover from .feedDecoderLeftover).parked⟩

theorem Answered.of_current {me' : Inner W} (h : me'.current = me.current) (ha : me.Answered) :
    me'.Answered := by
  unfold Answered
  rw [h]
  exact ha

/-- The head that ends the read is the next request; any other outcome leaves the current one. -/
theorem acceptHead_spec (me : Inner W) (data : Bytes) :
    Kept me (me.acceptHead data).1 ∧ (me.acceptHead data).1.idleReadParked = false ∧
      ((me.acceptHead data).1.current = me.current ∨
        ∃ head, (me.acceptHead data).2 = .ok (some head)) := by
  unfold acceptHead
  dsimp only
  repeat' split
  · exact ⟨⟨id, id⟩, rfl, .inl rfl⟩
  · exact ⟨⟨id, id⟩, rfl, .inl rfl⟩
  · exact ⟨⟨id, id⟩, rfl, .inl rfl⟩
  · exact ⟨⟨id, id⟩, rfl, .inr ⟨_, rfl⟩⟩

end Inner

namespace Sys

variable {W : Wire} {s s' : Sys W}

/-! ### The idle read -/

/-- While the idle read is parked the state holds no byte, and while the loop goes for a head no
request is without its response. -/
structure Calm (s : Sys W) : Prop where
  parked : s.inner.idleReadParked = true → s.head.Parks ∧ s.inner.Emptied
  busy : s.head.Busy → s.inner.Answered

theorem calm_init (W : Wire) (cfg : Config) : (init W cfg).Calm :=
  ⟨fun h => Bool.noConfusion h, fun h => absurd rfl h.1⟩

/-- While a request is without its response the loop is not called. -/
theorem Calm.idle_of_unanswered (hc : s.Calm) (hu : ¬s.inner.Answered) :
    s.head = .idle ∨ s.head = .ended :=
  HeadTask.not_busy fun hb => hu (hc.busy hb)

/-- A step beside the accept loop. -/
structure Beside (s s' : Sys W) : Prop where
  head : s'.head = s.head
  requests : s'.requests = s.requests
  tame : s.inner.Tame s'.inner

theorem Calm.beside (hc : s.Calm) (h : s.Beside s') : s'.Calm where
  parked hp := by
    rw [h.tame.parked] at hp
    rw [h.head]
    exact ⟨(hc.parked hp).1, h.tame.emptied (hc.parked hp).2⟩
  busy hb := h.tame.answered (hc.busy (h.head ▸ hb))

/-- The actions of the accept loop. -/
def Action.OfLoop : Action → Prop
  | .nextRequest _ | .head _ _ | .cancelHead => True
  | _ => False

open Httpunk.H1.Inner (Tame Kept)

theorem beside_bodyStep {t : Nat} {a : Arrival} (h : s.bodyStep t a = some s') : s.Beside s' := by
  unfold bodyStep at h
  dsimp only at h
  split at h
  · cases h
  · obtain ⟨d, -, h⟩ := Option.bind_eq_some_iff.mp h
    split at h <;> exact Option.some.inj h ▸ ⟨rfl, rfl, .setDecoder _ _⟩
  · obtain ⟨d, -, h⟩ := Option.bind_eq_some_iff.mp h
    exact Option.some.inj h ▸ ⟨rfl, rfl, .refl _⟩
  · exact Option.some.inj h ▸ ⟨rfl, rfl, .beginBodyRead _⟩
  · exact Option.some.inj h ▸ ⟨rfl, rfl, .refl _⟩
  · split at h <;> exact Option.some.inj h ▸ ⟨rfl, rfl, .refl _⟩
  · exact Option.some.inj h ▸ ⟨rfl, rfl, .endBodyRead _ _⟩
  · obtain ⟨d, -, h⟩ := Option.bind_eq_some_iff.mp h
    exact Option.some.inj h ▸ ⟨rfl, rfl, .setDecoder _ _⟩
  · exact Option.some.inj h ▸ ⟨rfl, rfl, .endBodyRead _ _⟩
  · exact Option.some.inj h ▸ ⟨rfl, rfl, .markUnusable⟩

theorem beside_armStep {w : Nat} (h : s.armStep w = some s') : s.Beside s' := by
  unfold armStep at h
  split at h
  · cases h
  · cases h
  · exact Option.some.inj h ▸ ⟨rfl, rfl, .refl _⟩
  · exact Option.some.inj h ▸ ⟨rfl, rfl, .storeWatcherHandle _⟩
  · split at h
    · exact Option.some.inj h ▸ ⟨rfl, rfl, .refl _⟩
    · cases h

theorem beside_watchStep {w : Nat} {a : Arrival} (h : s.watchStep w a = some s') :
    s.Beside s' := by
  unfold watchStep at h
  dsimp only at h
  split at h
  · cases h
  · cases h
  · exact Option.some.inj h ▸ ⟨rfl, rfl, .refl _⟩
  · exact Option.some.inj h ▸ ⟨rfl, rfl, .refl _⟩
  · refine Option.some.inj h ▸ ⟨rfl, rfl, ?_⟩
    dsimp only
    split <;> exact .watcherCompleted _ _
  · exact Option.some.inj h ▸ ⟨rfl, rfl, .watcherAborted⟩
  · exact Option.some.inj h ▸ ⟨rfl, rfl, .refl _⟩

theorem beside_closeStep {t : Nat} (h : s.closeStep t = some s') : s.Beside s' := by
  unfold closeStep at h
  dsimp only at h
  split at h
  · cases h
  · cases h
  · split at h
    · exact Option.some.inj h ▸ ⟨rfl, rfl, .refl _⟩
    · cases h
  · exact Option.some.inj h ▸ ⟨rfl, rfl, .takeWatcherHandle⟩
  · split at h
    · exact Option.some.inj h ▸ ⟨rfl, rfl, .refl _⟩
    · cases h

theorem beside_told {c seq w : Nat} {r : Inner W × Except Unit (Req × Bool)}
    (h : s.inner.Tame r.1) : s.Beside (s.told c seq w r) := by
  unfold told
  split <;> exact ⟨rfl, rfl, h⟩

theorem beside_called (c seq : Nat) : s.Beside (s.called c seq) := by
  unfold called
  split <;> exact ⟨rfl, rfl, .refl _⟩

theorem inner_called (c seq : Nat) : (s.called c seq).inner = s.inner := by
  unfold called
  split <;> rfl

/-- The steps beside the loop. -/
theorem beside_of_step {a : Action} (h : s.step a = some s') (ha : ¬a.OfLoop) : s.Beside s' := by
  unfold step at h
  cases a with
  | nextRequest now => exact absurd trivial ha
  | head a now => exact absurd trivial ha
  | cancelHead => exact absurd trivial ha
  | readBody t seq =>
    dsimp only at h
    split at h
    · exact Option.some.inj h ▸ ⟨rfl, rfl, .refl _⟩
    · cases h
  | body t a => exact beside_bodyStep h
  | leaveBody t closed =>
    dsimp only at h
    split at h
    · exact Option.some.inj h ▸ ⟨rfl, rfl, .refl _⟩
    · cases h
  | arm w seq want negotiated =>
    dsimp only at h
    split at h
    · exact Option.some.inj h ▸ ⟨rfl, rfl, .armWatcher _ _ _ _⟩
    · cases h
  | armer w => exact beside_armStep h
  | watch w a => exact beside_watchStep h
  | respond c seq status encoded w want =>
    dsimp only at h
    split at h
    · have hc := beside_called (s := s) c seq
      have hr : (s.called c seq).inner.Tame (s.inner.respondHead seq status encoded w want).1 :=
        inner_called (s := s) c seq ▸ Tame.respondHead seq status encoded w want
      have ht := @beside_told _ _ c seq w _ hr
      exact Option.some.inj h ▸ ⟨ht.head.trans hc.head, ht.requests.trans hc.requests,
        hc.tame.trans ht.tame⟩
    · cases h
  | leaveCaller c =>
    dsimp only at h
    split at h
    · exact Option.some.inj h ▸ ⟨rfl, rfl, .refl _⟩
    · cases h
  | tryContinue seq => exact Option.some.inj h ▸ ⟨rfl, rfl, .trySendContinue seq⟩
  | continueWritten seq =>
    dsimp only at h
    split at h
    · exact Option.some.inj h ▸ ⟨rfl, rfl, .refl _⟩
    · cases h
  | finishResponse seq => exact Option.some.inj h ▸ ⟨rfl, rfl, .finishResponse seq⟩
  | failResponse seq => exact Option.some.inj h ▸ ⟨rfl, rfl, .failResponse seq⟩
  | detach seq => exact Option.some.inj h ▸ ⟨rfl, rfl, .detach seq⟩
  | close t =>
    dsimp only at h
    split at h
    · exact Option.some.inj h ▸ ⟨rfl, rfl, .closeNow⟩
    · cases h
  | closer t => exact beside_closeStep h
  | shutdown => exact Option.some.inj h ▸ ⟨rfl, rfl, .requestShutdown⟩
  | overdue timeout now => exact Option.some.inj h ▸ ⟨rfl, rfl, .headReadOverdue timeout now⟩

/-! ### The accept loop -/

/-- What a step of the loop does: no flag comes back, and the loop goes on, or ends its call with
a request at the most. -/
structure Advance (s s' : Sys W) : Prop where
  kept : s.inner.Kept s'.inner
  calm : s'.Calm
  requests : s'.requests = s.requests ∨
    ∃ head, s'.requests = s.requests ++ [head] ∧ s'.head = .idle

theorem Calm.of_unparked (hp : s.inner.idleReadParked = false)
    (ha : s.head.Busy → s.inner.Answered) : s.Calm :=
  ⟨fun h => absurd (hp.symm.trans h) Bool.false_ne_true, ha⟩

/-- A step of the loop that leaves the state to itself. -/
theorem Advance.of_tame (hc : s.Calm) (hb : s.head.Busy) (ht : Tame s.inner s'.inner)
    (hr : s'.requests = s.requests) (hh : s.head.Parks → s'.head.Parks) : s.Advance s' where
  kept := ht.kept
  calm :=
    { parked := fun hp => by
        rw [ht.parked] at hp
        exact ⟨hh (hc.parked hp).1, ht.emptied (hc.parked hp).2⟩
      busy := fun _ => ht.answered (hc.busy hb) }
  requests := .inl hr

/-- A step of the loop after which no read is parked. -/
theorem Advance.of_unparked (hk : Kept s.inner s'.inner) (hr : s'.requests = s.requests)
    (hp : s'.inner.idleReadParked = false) (ha : s'.head.Busy → s'.inner.Answered) :
    s.Advance s' :=
  ⟨hk, .of_unparked hp ha, .inl hr⟩

theorem inner_verdict (r : Inner W × Next) : (s.verdict r).inner = r.1 := by
  unfold verdict
  dsimp only
  split <;> rfl

theorem requests_verdict (r : Inner W × Next) : (s.verdict r).requests = s.requests := by
  unfold verdict
  dsimp only
  split <;> rfl

/-- The read verdict on a state that holds no decoder, the current request answered and no read
parked. -/
theorem Advance.readVerdict {me : Inner W} {now : Nat} (hk : Kept s.inner me)
    (hd : me.current.hasDecoder = false) (ha : me.current.responseDone = true)
    (hp : me.idleReadParked = false) : s.Advance (s.verdict (me.readVerdict now)) where
  kept := inner_verdict (s := s) _ ▸ hk.trans (Inner.kept_readVerdict me now)
  requests := .inl (requests_verdict _)
  calm := by
    constructor
    · intro h
      rw [inner_verdict] at h ⊢
      rcases me.readVerdict_cases now with ⟨-, hs, -⟩ | ⟨hv, hb, hcur⟩
      · exact absurd (hp.symm.trans (hs.symm.trans h)) Bool.false_ne_true
      · refine ⟨?_, hb, hcur ▸ hd⟩
        unfold verdict
        rcases hv with ⟨w, hv⟩ | hv <;> rw [hv] <;> trivial
    · intro _
      rw [inner_verdict]
      refine .inr ?_
      rcases me.readVerdict_cases now with ⟨-, -, hcur⟩ | ⟨-, -, hcur⟩ <;> exact hcur ▸ ha

theorem advance_nextRequest (hc : s.Calm) (hi : ¬s.head.Busy) (now : Nat) :
    s.Advance (s.verdict (s.inner.beginRead now)) := by
  have hp : s.inner.idleReadParked = false :=
    Bool.eq_false_iff.mpr fun h => hi (hc.parked h).1.busy
  unfold Inner.beginRead
  split
  · exact .of_unparked (Tame.refl _).kept rfl hp fun h => absurd rfl h.2
  split
  · exact .of_unparked (Tame.refl _).kept rfl hp fun h => absurd rfl h.1
  next ha =>
  split
  · split
    · exact .of_unparked Tame.closeNow.kept rfl (Tame.closeNow.parked.trans hp)
        fun h => absurd rfl h.2
    · refine .of_unparked ⟨id, id⟩ rfl hp fun _ => ?_
      simpa [Inner.Answered, verdict, imp_iff_not_or] using ha
  · obtain ⟨hd, hr, hq⟩ := s.inner.readyForNext_current
    exact .readVerdict Inner.kept_readyForNext hd hr (hq.trans hp)

theorem advance_drainDone (hp : s.inner.idleReadParked = false) (complete : Bool)
    (now : Nat) : s.Advance (s.verdict (s.inner.drainDone complete now)) := by
  unfold Inner.drainDone
  dsimp only
  split
  · have ht : Tame s.inner
        { s.inner with current := { s.inner.current with readingBody := false } } :=
      ⟨rfl, id, id, id, id⟩
    exact .of_unparked (ht.trans Tame.closeNow).kept rfl
      ((ht.trans Tame.closeNow).parked.trans hp) fun h => absurd rfl h.2
  · have hk : Kept s.inner { s.inner with
        current := { s.inner.current with readingBody := false, bodyDone := true } } := ⟨id, id⟩
    obtain ⟨hd, hr, hq⟩ := Inner.readyForNext_current (W := W) { s.inner with
      current := { s.inner.current with readingBody := false, bodyDone := true } }
    exact .readVerdict (hk.trans Inner.kept_readyForNext) hd hr (hq.trans hp)

theorem advance_accept (hc : s.Calm) (hb : s.head.Busy) (src : Option Nat) (data : Bytes) :
    s.Advance (s.accept src data) := by
  obtain ⟨hk, hp, hcur⟩ := s.inner.acceptHead_spec data
  have ha := hc.busy hb
  unfold accept
  dsimp only
  split
  · next head _ => exact ⟨hk, .of_unparked hp fun h => absurd rfl h.1, .inr ⟨head, rfl, rfl⟩⟩
  · next h =>
    refine .of_unparked hk rfl hp fun _ => ?_
    rcases hcur with hcur | ⟨head, he⟩
    · exact .of_current hcur ha
    · rw [he] at h; cases h
  · next h =>
    refine .of_unparked hk rfl hp fun _ => ?_
    rcases hcur with hcur | ⟨head, he⟩
    · exact .of_current hcur ha
    · rw [he] at h; cases h

theorem advance_drainStep {d : DrainTask} (hc : s.Calm) (hh : s.head = .draining d) (a : Arrival)
    (now : Nat) : s.Advance (s.drainStep a now d) := by
  have hb : s.head.Busy := by rw [hh]; exact ⟨by simp, by simp⟩
  have hn : ¬s.head.Parks := by rw [hh]; exact id
  have hp : s.inner.idleReadParked = false :=
    Bool.eq_false_iff.mpr fun h => hn (hc.parked h).1
  unfold drainStep decode
  split
  all_goals try dsimp only
  all_goals repeat' split
  all_goals first
    | exact advance_drainDone hp _ now
    | exact .of_tame hc hb (.refl _) rfl fun h => absurd h hn
    | exact .of_tame hc hb (.setDecoder _ _) rfl fun h => absurd h hn

theorem advance_headStep {a : Arrival} {now : Nat} (hc : s.Calm)
    (h : s.headStep a now = some s') : s.Advance s' := by
  unfold headStep at h
  split at h
  · cases h
  · cases h
  · next d hh => exact Option.some.inj h ▸ advance_drainStep hc hh a now
  all_goals
    rename_i hh
    have hb : s.head.Busy := by rw [hh]; exact ⟨by simp, by simp⟩
    have ha := hc.busy hb
  · exact Option.some.inj h ▸ advance_accept hc hb none []
  · split at h
    · exact Option.some.inj h ▸ .of_tame hc hb (.refl _) rfl fun _ => trivial
    · cases h
  · refine Option.some.inj h ▸ .of_tame hc hb .takeWatcherHandle rfl fun _ => ?_
    dsimp only
    split <;> trivial
  · split at h
    · exact Option.some.inj h ▸ .of_tame hc hb (.refl _) rfl fun _ => trivial
    · cases h
  · dsimp only at h
    repeat' split at h
    all_goals exact Option.some.inj h ▸ .of_tame hc hb .takeWatcherResult rfl fun _ => trivial
  · split at h
    all_goals exact Option.some.inj h ▸ .of_tame hc hb (.refl _) rfl fun _ => trivial
  · exact Option.some.inj h ▸ advance_accept hc hb _ _
  · exact Option.some.inj h ▸ .of_unparked ⟨id, id⟩ rfl rfl fun _ => ha
  · exact Option.some.inj h ▸ .of_unparked ⟨id, id⟩ rfl rfl fun _ => ha
  · exact Option.some.inj h ▸ .of_unparked ⟨id, id⟩ rfl rfl fun _ => ha
  · have hn : ¬s.head.Parks := by rw [hh]; exact id
    split at h
    all_goals exact Option.some.inj h ▸ .of_tame hc hb (.refl _) rfl fun hp => absurd hp hn
  · refine Option.some.inj h ▸ .of_tame hc hb (.refl _) rfl fun hp => ?_
    rw [hh] at hp
    exact hp.elim
  · refine Option.some.inj h ▸ .of_tame hc hb .closeNow rfl fun hp => ?_
    rw [hh] at hp
    exact hp.elim
  · refine Option.some.inj h ▸ .of_tame hc hb .stopServing rfl fun hp => ?_
    rw [hh] at hp
    exact hp.elim

theorem Advance.cancel (hc : s.Calm) (hb : s.head.Busy) :
    s.Advance { s with head := .cancelled } :=
  .of_tame hc hb (.refl _) rfl fun _ => trivial

/-- **Step.**  The loop advances. -/
theorem advance_of_step {a : Action} (hc : s.Calm) (h : s.step a = some s') (ha : a.OfLoop) :
    s.Advance s' := by
  cases a with
  | nextRequest now =>
    dsimp only [step] at h
    split at h
    · next hi =>
      refine Option.some.inj h ▸ advance_nextRequest hc (fun hb => ?_) now
      exact hi.elim hb.1 hb.2
    · cases h
  | head a now => exact advance_headStep hc h
  | cancelHead =>
    dsimp only [step] at h
    split at h
    all_goals try rename_i hh
    · exact Option.some.inj h ▸ .cancel hc (by rw [hh]; exact ⟨by simp, by simp⟩)
    · exact Option.some.inj h ▸ .cancel hc (by rw [hh]; exact ⟨by simp, by simp⟩)
    · exact Option.some.inj h ▸ .cancel hc (by rw [hh]; exact ⟨by simp, by simp⟩)
    · cases h
  | _ => exact ha.elim

/-- **Run.**  Every state reached is calm. -/
theorem calm {cfg : Config} (r : Reach Step Runs.Any (init W cfg) s) : s.Calm :=
  r.invariant (calm_init W cfg) fun {s a s'} hc h _ => by
    by_cases ha : a.OfLoop
    · exact (advance_of_step hc h ha).calm
    · exact hc.beside (beside_of_step h ha)

/-! ### Two connections side by side -/

/-- The connection but for what a shutdown request decides: whether it is used again, and so
whether the loop is called again. -/
def ending (s : Sys W) : Sys W := { s with inner := s.inner.ending, head := s.head.last }

@[simp] theorem ending_ending : s.ending.ending = s.ending := by
  unfold ending
  rw [HeadTask.last_last]
  rfl

/-- The same action, but for the head that is encoded. -/
def Action.Alike : Action → Action → Prop
  | .respond c seq status encoded w want, a => ∃ encoded', encoded.isSome = encoded'.isSome ∧
      a = .respond c seq status encoded' w want
  | a, a' => a' = a

/-- A request is under way, without its response or with its head in the reading, and the action
does not end it. -/
def Serves (s : Sys W) (a : Action) : Prop :=
  (¬s.inner.Answered ∨ s.head.MidHead) ∧
    ∀ seq, a = .finishResponse seq → s.inner.isCurrent seq = false

theorem ending_decode (seq : Nat) (d : BodyDecoder W) :
    s.ending.decode seq d = ((s.decode seq d).1.ending, (s.decode seq d).2) := rfl

theorem ending_bodyStep (t : Nat) (a : Arrival) :
    (s.ending.bodyStep t a).map ending = (s.bodyStep t a).map ending := by
  unfold bodyStep
  rw [show s.ending.bodies t = s.bodies t from rfl,
    show s.ending.inner.decoders = s.inner.decoders from rfl]
  cases s.bodies t with
  | idle => rfl
  | decoding seq =>
    dsimp only
    cases s.inner.decoders seq with
    | none => rfl
    | some d =>
      simp only [Option.bind_some, ending_decode]
      split <;> simp [ending]
  | checking seq =>
    dsimp only
    cases s.inner.decoders seq <;> simp [ending]
  | beginning seq =>
    obtain ⟨h₁, h₂⟩ := Inner.outcome_iff.mp (s.inner.beginBodyRead_ending seq)
    simp [ending, h₁, h₂]
  | fetching seq => simp [ending, Inner.ending]; rfl
  | reading seq => cases a <;> simp [ending, arrive]
  | ending seq data => simp [ending, Inner.endBodyRead_ending]
  | feeding seq data =>
    dsimp only
    cases s.inner.decoders seq with
    | none => rfl
    | some d => simp [ending]; rfl
  | finishing seq => simp [ending, Inner.endBodyRead_ending]
  | failing => simp [ending]; rfl

theorem ending_armed (w : Nat) {r r' : Inner W × Bool} (h : Inner.Outcome r = Inner.Outcome r') :
    (s.ending.armed w r).ending = (s.armed w r').ending := by
  obtain ⟨h₁, h₂⟩ := Inner.outcome_iff.mp h
  simp [armed, ending, h₁, h₂]

theorem ending_armStep (w : Nat) : (s.ending.armStep w).map ending = (s.armStep w).map ending := by
  unfold armStep
  rw [show s.ending.arms w = s.arms w from rfl, show s.ending.watches = s.watches from rfl]
  cases s.arms w with
  | storing =>
    obtain ⟨h₁, h₂⟩ := Inner.outcome_iff.mp (s.inner.storeWatcherHandle_ending w)
    simp [ending, h₁, h₂]
  | joining =>
    dsimp only
    split <;> simp [ending]
  | _ => simp [ending]

theorem ending_watchStep (w : Nat) (a : Arrival) :
    (s.ending.watchStep w a).map ending = (s.watchStep w a).map ending := by
  unfold watchStep
  rw [show s.ending.watches w = s.watches w from rfl]
  cases s.watches w with
  | completing a =>
    cases a with
    | bytes data _ =>
      have h := (Inner.outcome_iff.mp (s.inner.watcherCompleted_ending (some data) false)).1
      simp [ending, h]
    | eof =>
      have h := (Inner.outcome_iff.mp (s.inner.watcherCompleted_ending (some []) false)).1
      simp [ending, h]
    | error =>
      have h := (Inner.outcome_iff.mp (s.inner.watcherCompleted_ending none true)).1
      simp [ending, h]
  | aborting => simp [ending]; rfl
  | starting => simp [ending, Inner.ending]; rfl
  | reading => cases a <;> simp [ending, arrive]
  | _ => simp [ending]

theorem ending_closeStep (t : Nat) :
    (s.ending.closeStep t).map ending = (s.closeStep t).map ending := by
  unfold closeStep
  rw [show s.ending.closers t = s.closers t from rfl, show s.ending.watches = s.watches from rfl]
  cases s.closers t with
  | taking w => simp [ending]; exact ⟨rfl, rfl⟩
  | waiting w =>
    dsimp only
    split <;> simp [ending]
  | joining w h =>
    dsimp only
    split <;> simp [ending]
  | _ => rfl

theorem ending_called (c seq : Nat) : s.ending.called c seq = (s.called c seq).ending := by
  unfold called
  rw [show s.ending.inner.isCurrent seq = s.inner.isCurrent seq from rfl]
  split <;> rfl

theorem ending_told (c seq w : Nat) {r r' : Inner W × Except Unit (Req × Bool)}
    (h : Inner.Outcome r = Inner.Outcome r') :
    (s.ending.told c seq w r).ending = (s.told c seq w r').ending := by
  obtain ⟨h₁, h₂⟩ := Inner.outcome_iff.mp h
  unfold told
  rw [h₂]
  split <;> simp [ending, armed, h₁]

theorem ending_respondStep (c seq status : Nat) {encoded encoded' : Option Encoded}
    (he : encoded.isSome = encoded'.isSome) (w : Nat) (want : Bool) :
    (s.ending.respondStep c seq status encoded' w want).ending =
      (s.respondStep c seq status encoded w want).ending := by
  unfold respondStep
  rw [ending_called]
  exact ending_told c seq w (s.inner.respondHead_ending seq status he w want)

theorem ending_accept (src : Option Nat) (data : Bytes) :
    (s.ending.accept src data).ending = (s.accept src data).ending := by
  obtain ⟨h₁, h₂⟩ := Inner.outcome_iff.mp (s.inner.acceptHead_ending data)
  unfold accept
  rw [show s.ending.inner.acceptHead data = s.inner.ending.acceptHead data from rfl]
  dsimp only
  rw [h₂]
  split <;> simp [ending, h₁] <;> rfl

theorem ending_head (hm : s.head.MidHead) : s.ending.head = s.head := by
  change s.head.last = s.head
  cases hh : s.head with
  | idle => rw [hh] at hm; exact hm.elim
  | _ => rfl

theorem ending_headStep (hm : s.head.MidHead) (a : Arrival) (now : Nat) :
    (s.ending.headStep a now).map ending = (s.headStep a now).map ending := by
  unfold headStep
  rw [ending_head hm, show s.ending.watches = s.watches from rfl]
  cases hh : s.head with
  | idle => rfl
  | ended => rfl
  | draining d => rw [hh] at hm; exact hm.elim
  | parsing => exact congrArg some (ending_accept none [])
  | accepting src data => exact congrArg some (ending_accept src data)
  | waiting w =>
    dsimp only
    split <;> rfl
  | joining w h =>
    dsimp only
    split <;> rfl
  | taking w => rfl
  | result w =>
    obtain ⟨h₁, h₂⟩ := Inner.outcome_iff.mp s.inner.takeWatcherResult_ending
    dsimp only
    rw [show s.ending.inner.takeWatcherResult = s.inner.ending.takeWatcherResult from rfl, h₂]
    repeat' split
    all_goals simp [ending, h₁]
  | reading => cases a <;> simp [ending, arrive]
  | raised => rfl
  | empty => rfl
  | cancelled => rfl
  | more =>
    dsimp only
    rw [show s.ending.inner.watcherDone = s.inner.watcherDone from rfl]
    split <;> rfl
  | fetching => rfl
  | failed =>
    have h := (Inner.outcome_iff.mp s.inner.closeNow_ending).1
    simp [ending, Inner.failRead, h]
  | stopping => rfl

/-- **Step.**  While a request is served, what a shutdown request decides makes no difference. -/
theorem ending_step {a a' : Action} (hc : s.Calm) (hs : s.Serves a) (ha : a.Alike a') :
    (s.ending.step a').map ending = (s.step a).map ending := by
  cases a with
  | respond c seq status encoded w want =>
    obtain ⟨encoded', he, rfl⟩ := ha
    unfold step
    dsimp only
    rw [show s.ending.arms = s.arms from rfl, show s.ending.callers = s.callers from rfl,
      show s.ending.continues = s.continues from rfl]
    split
    · exact congrArg some (ending_respondStep c seq status he w want)
    · rfl
  | nextRequest now =>
    obtain rfl := ha
    rcases hs.1 with hu | hm
    · rcases hc.idle_of_unanswered hu with hh | hh
      all_goals
        have he : s.ending.head = .ended := by
          rw [show s.ending.head = s.head.last from rfl, hh]
          rfl
        unfold step
        dsimp only
        rw [if_pos (.inr he), if_pos (by simp [hh]),
          @Inner.beginRead_of_not_reusable _ s.ending.inner rfl]
        rcases Inner.beginRead_of_unanswered hu now with hb | hb
        all_goals
          rw [hb]
          rfl
    · have hn : ¬(s.head = .idle ∨ s.head = .ended) := by
        rintro (hh | hh) <;> (rw [hh] at hm; exact hm)
      unfold step
      dsimp only
      rw [ending_head hm, if_neg hn, if_neg hn]
  | head a now =>
    obtain rfl := ha
    rcases hs.1 with hu | hm
    · change (s.ending.headStep a now).map ending = (s.headStep a now).map ending
      unfold headStep
      rw [show s.ending.head = s.head.last from rfl]
      rcases hc.idle_of_unanswered hu with hh | hh <;> rw [hh] <;> rfl
    · exact ending_headStep hm a now
  | cancelHead =>
    obtain rfl := ha
    unfold step
    dsimp only
    rcases hs.1 with hu | hm
    · rw [show s.ending.head = s.head.last from rfl]
      rcases hc.idle_of_unanswered hu with hh | hh <;> rw [hh] <;> rfl
    · rw [ending_head hm]
      split <;> rfl
  | finishResponse seq =>
    obtain rfl := ha
    have hcur := hs.2 seq rfl
    unfold step
    dsimp only
    rw [Inner.finishResponse_of_not_current hcur,
      @Inner.finishResponse_of_not_current _ s.ending.inner _ hcur]
    simp [ending, handOver]
  | readBody t seq =>
    obtain rfl := ha
    unfold step
    dsimp only
    rw [show s.ending.bodies = s.bodies from rfl,
      show s.ending.inner.decoders = s.inner.decoders from rfl]
    split <;> simp [ending]
  | body t a =>
    obtain rfl := ha
    exact ending_bodyStep t a
  | leaveBody t closed =>
    obtain rfl := ha
    unfold step
    dsimp only
    rw [show s.ending.bodies = s.bodies from rfl]
    split <;> simp [ending]
  | arm w seq want negotiated =>
    obtain rfl := ha
    unfold step
    dsimp only
    rw [show s.ending.arms = s.arms from rfl]
    split
    · exact congrArg some (ending_armed w (s.inner.armWatcher_ending seq w want negotiated))
    · rfl
  | armer w =>
    obtain rfl := ha
    exact ending_armStep w
  | watch w a =>
    obtain rfl := ha
    exact ending_watchStep w a
  | leaveCaller c =>
    obtain rfl := ha
    unfold step
    dsimp only
    rw [show s.ending.callers = s.callers from rfl]
    split <;> simp [ending]
  | tryContinue seq =>
    obtain rfl := ha
    obtain ⟨h₁, h₂⟩ := Inner.outcome_iff.mp (s.inner.trySendContinue_ending seq)
    simp [step, ending, h₁, h₂]
  | continueWritten seq =>
    obtain rfl := ha
    unfold step
    dsimp only
    rw [show s.ending.continues = s.continues from rfl]
    split <;> simp [ending]
  | failResponse seq =>
    obtain rfl := ha
    simp [step, ending, Inner.failResponse_ending]
  | detach seq =>
    obtain rfl := ha
    obtain ⟨h₁, h₂⟩ := Inner.outcome_iff.mp (s.inner.detach_ending seq)
    simp [step, ending, handOver, h₁, h₂]
  | close t =>
    obtain rfl := ha
    unfold step
    dsimp only
    rw [show s.ending.closers = s.closers from rfl]
    have h := (Inner.outcome_iff.mp s.inner.closeNow_ending).1
    split
    · simp only [Option.map_some, ending, Inner.markClosed, h, HeadTask.last_last]
      rfl
    · rfl
  | closer t =>
    obtain rfl := ha
    exact ending_closeStep t
  | shutdown =>
    obtain rfl := ha
    simp [step, ending, Inner.requestShutdown_ending]
  | overdue timeout now =>
    obtain rfl := ha
    have h := (Inner.outcome_iff.mp (s.inner.headReadOverdue_ending timeout now)).1
    simp [step, ending, h]

/-- The connection after `s'`, as it would be without the request: it differs in nothing but what
the request decides. -/
def Mirrors (s s' : Sys W) : Prop := s'.ending = s.ending

theorem Mirrors.inner (h : s.Mirrors s') : s'.inner.ending = s.inner.ending :=
  congrArg Sys.inner h

theorem Action.Alike.refl (a : Action) : a.Alike a := by
  cases a with
  | respond c seq status encoded w want => exact ⟨encoded, rfl, rfl⟩
  | _ => rfl

theorem Serves.alike {a a' : Action} (hs : s.Serves a) (h : s.Mirrors s') (ha : a.Alike a') :
    s'.Serves a' := by
  have hseq : s'.inner.current.seq = s.inner.current.seq :=
    (congrArg (fun me => me.current.seq) h.inner :)
  have hdone : s'.inner.current.responseDone = s.inner.current.responseDone :=
    (congrArg (fun me => me.current.responseDone) h.inner :)
  have hlast : s'.head.last = s.head.last := congrArg head h
  refine ⟨hs.1.imp ?_ ?_, ?_⟩
  · unfold Inner.Answered
    rw [hseq, hdone]
    exact id
  · rw [← HeadTask.midHead_last, ← HeadTask.midHead_last s'.head, hlast]
    exact id
  · rintro seq rfl
    have hn : s.inner.isCurrent seq = false := by
      refine hs.2 seq ?_
      cases a with
      | respond c k status encoded w want =>
        obtain ⟨_, -, he⟩ := ha
        cases he
      | _ => exact ha.symm
    unfold Inner.isCurrent at hn ⊢
    rw [hseq]
    exact hn

/-- **Simulation.**  While a request is served, the two connections take the same steps. -/
theorem Mirrors.step {a a' : Action} {u : Sys W} (h : s.Mirrors s') (hc : s.Calm) (hc' : s'.Calm)
    (hs : s.Serves a) (ha : a.Alike a') (hu : s.step a = some u) :
    ∃ u', s'.step a' = some u' ∧ u.Mirrors u' := by
  have h₁ := ending_step hc hs ha
  have h₂ := ending_step hc' (hs.alike h ha) (.refl a')
  rw [hu] at h₁
  obtain ⟨u', hu', he⟩ := Option.map_eq_some_iff.mp (h₂.symm.trans ((congrArg
    (fun t => (Sys.step t a').map ending) h).trans h₁))
  exact ⟨u', hu', he⟩

/-! ### After the request -/

/-- Since the shutdown request taken in `s` no head is begun, and the one head that was being
gone for then is accepted at the most. -/
structure Late (s t : Sys W) : Prop where
  reusable : t.inner.reusable = false
  shut : t.inner.shutdownRequested = true
  requests : t.requests = s.requests ∧ (t.head.Busy → s.head.Busy) ∨
    (s.head.Busy ∧ ¬t.head.Busy) ∧ ∃ head, t.requests = s.requests ++ [head]

theorem Late.of_shutdown (h : s.step .shutdown = some s') : s.Late s' := by
  obtain rfl := Option.some.inj h
  refine ⟨?_, ?_, .inl ⟨rfl, id⟩⟩
  · unfold Inner.requestShutdown
    dsimp only
    split
    · exact Tame.closeNow.reusable rfl
    · rfl
  · unfold Inner.requestShutdown
    dsimp only
    split
    · exact Tame.closeNow.shut rfl
    · rfl

theorem Late.kept {t t' : Sys W} (h : s.Late t) (hk : Kept t.inner t'.inner)
    (hr : t'.requests = t.requests) (hb : t'.head.Busy → t.head.Busy) : s.Late t' where
  reusable := hk.reusable h.reusable
  shut := hk.shut h.shut
  requests := by
    rw [hr]
    exact h.requests.imp (fun ⟨he, hs⟩ => ⟨he, hs ∘ hb⟩)
      fun ⟨⟨hs, ht⟩, he⟩ => ⟨⟨hs, ht ∘ hb⟩, he⟩

theorem Late.step {a : Action} {t t' : Sys W} (h : s.Late t) (hc : t.Calm)
    (ht : t.step a = some t') : s.Late t' := by
  by_cases ha : a.OfLoop
  case neg =>
    have hb := beside_of_step ht ha
    exact h.kept hb.tame.kept hb.requests fun hb' => hb.head ▸ hb'
  have hadv := advance_of_step hc ht ha
  by_cases hb : t.head.Busy
  · rcases hadv.requests with hr | ⟨head, hr, hh⟩
    · exact h.kept hadv.kept hr fun _ => hb
    · rcases h.requests with ⟨he, hs⟩ | ⟨⟨-, hn⟩, -⟩
      · exact ⟨hadv.kept.reusable h.reusable, hadv.kept.shut h.shut,
          .inr ⟨⟨hs hb, fun hb' => hb'.1 hh⟩, head, he ▸ hr⟩⟩
      · exact absurd hb hn
  -- the loop is called: it finds the connection no longer reusable
  cases a with
  | nextRequest now =>
    dsimp only [Sys.step] at ht
    split at ht
    · rw [Inner.beginRead_of_not_reusable h.reusable] at ht
      exact Option.some.inj ht ▸ h.kept ⟨id, id⟩ rfl fun hb' => absurd rfl hb'.2
    · cases ht
  | head a now =>
    dsimp only [Sys.step] at ht
    unfold headStep at ht
    rcases HeadTask.not_busy hb with hh | hh <;> (rw [hh] at ht; cases ht)
  | cancelHead =>
    dsimp only [Sys.step] at ht
    rcases HeadTask.not_busy hb with hh | hh <;> (rw [hh] at ht; cases ht)
  | _ => exact ha.elim

/-- Where no idle read is parked, a shutdown request writes its flags, and nothing else. -/
theorem mirrors_of_shutdown (h : s.step .shutdown = some s')
    (hp : s.inner.idleReadParked = false) : s.Mirrors s' := by
  obtain rfl := Option.some.inj h
  unfold Mirrors Inner.requestShutdown
  dsimp only
  rw [if_neg (by rw [hp]; decide)]
  rfl

/-- **Shutdown.**  A shutdown request closes the connection at once where the idle read is parked,
and there no request is without its response, and neither the read buffer nor the decoder holds a
byte; anywhere else it closes nothing, and from there on, as long as a request is served, the
connection takes the steps it would take without it.  After it no keep-alive is wanted: an
HTTP/1.1 head announces the close whatever lines the caller gave, an HTTP/1.0 head keeps the
caller's lines; and one request more is accepted at the most, where the loop had been called. -/
theorem shutdown_serves (W : Wire) (cfg : Config) (s s' : Sys W)
    (r : Reach Step Runs.Any (init W cfg) s) (h : s.Step .shutdown s') :
    (s.inner.idleReadParked = true ∧ s.inner.Answered ∧ s.inner.buf = [] ∧
        s.inner.decoder = none ∨
      s'.inner.closed = s.inner.closed ∧ s'.inner.transport = s.inner.transport ∧
        s.Mirrors s') ∧
    (∀ (t t' u : Sys W) (a a' : Action), Reach Step Runs.Any (init W cfg) t →
      Reach Step Runs.Any s' t' → t.Mirrors t' → t.Serves a → a.Alike a' → t.Step a u →
        ∃ u', t'.Step a' u' ∧ u.Mirrors u') ∧
    ∀ t, Reach Step Runs.Any s' t →
      (∀ lines, (t.inner.current.http10 = false →
          (t.inner.responseLines lines).announcesClose = true) ∧
        (t.inner.current.http10 = true →
          t.inner.responseLines lines = { http10 := true, connection := lines })) ∧
      (t.requests = s.requests ∨
        s.head.Busy ∧ ∃ head, t.requests = s.requests ++ [head]) := by
  have hc := calm r
  have r' : Reach Step Runs.Any (init W cfg) s' := r.tail h trivial
  refine ⟨?_, ?_, ?_⟩
  · cases hp : s.inner.idleReadParked with
    | true =>
      obtain ⟨hparks, he⟩ := hc.parked hp
      exact .inl ⟨rfl, hc.busy hparks.busy, he.1, he.decoder⟩
    | false =>
      have hm := mirrors_of_shutdown h hp
      exact .inr ⟨(congrArg Inner.closed hm.inner :), (congrArg Inner.transport hm.inner :), hm⟩
  · intro t t' u a a' rt rt' hm hs ha hu
    exact hm.step (calm rt) (calm (r'.trans rt')) hs ha hu
  · intro t rt
    have hl : s.Late t ∧ t.Calm := rt.invariant (I := fun t => s.Late t ∧ t.Calm)
      ⟨.of_shutdown h, calm r'⟩ fun {t a t'} hi ht _ => by
        refine ⟨hi.1.step hi.2 ht, ?_⟩
        by_cases ha : a.OfLoop
        · exact (advance_of_step hi.2 ht ha).calm
        · exact hi.2.beside (beside_of_step ht ha)
    have hw : t.inner.wantsKeepAlive = false := by
      unfold Inner.wantsKeepAlive
      rw [hl.1.shut]
      exact Bool.and_false _
    refine ⟨fun lines => ⟨fun h₁ => ?_, fun h₁ => ?_⟩, ?_⟩
    · unfold Inner.responseLines
      rw [h₁, hw]
      exact Lines.announcesClose_of_http11 lines
    · unfold Inner.responseLines
      rw [h₁, hw]
      exact Lines.enforceVersion_http10 lines
    · exact hl.1.requests.imp And.left fun h => ⟨h.1.1, h.2⟩

/-- The head of an HTTP/1.0 request with a body of one byte, on a connection to be kept. -/
def oldHead : Bytes :=
  ofText "POST / HTTP/1.0\r\nConnection: keep-alive\r\nContent-Length: 1\r\n\r\n"

theorem oldHead_ne : oldHead ≠ [] := by simp [oldHead, ofText]

/-- A wire whose requests are of this head. -/
def pipeWire : Wire where
  Decoder := Bool
  parseRequest := Parsed.ofHead oldHead
    { method := "POST", target := "/", kind := .length, contentLength := some 1, http10 := true,
      headers := [("connection", ofText "keep-alive"), ("content-length", ofText "1")] }
  newDecoder := fun _ _ => false
  isEof := fun d => d
  decode := fun d buf _ =>
    match buf with
    | [] => (d, [], .pending)
    | x :: rest => (true, rest, .data [x])

/-- A request is read. -/
def oneRequest : List Action :=
  [.nextRequest 0, .head (.bytes oldHead oldHead_ne) 0, .head .eof 0]

/-- Its response head. -/
def answer : Action :=
  .respond 1 1 200 (some { head := [], isLast := false, closeDelimited := false }) 0 false

/-- What is reached by `oneRequest`, and from there by a shutdown request. -/
theorem shut_oneRequest {p : Sys pipeWire → Sys pipeWire → Bool}
    (h : (Runs.exec Sys.step (fun _ _ => true) (init pipeWire {}) oneRequest).any (fun s =>
      (s.step .shutdown).any (p s)) = true) :
    ∃ s s' : Sys pipeWire, Reach Step Runs.Any (init pipeWire {}) s ∧ s.Step .shutdown s' ∧
      p s s' = true := by
  obtain ⟨s, r, hs⟩ := Reach.of_exec_any h
  obtain ⟨s', hs', hp⟩ := (Option.any_eq_true _ _).mp hs
  exact ⟨s, s', r.mono fun _ _ _ => trivial, hs', hp⟩

/-- Where the shutdown finds the request, and what it leaves of the head that answers it. -/
theorem oneRequest_runs :
    (Runs.exec Sys.step (fun _ _ => true) (init pipeWire {}) oneRequest).any (fun s =>
      (s.step .shutdown).any fun _ => s.requests.length == 1 && !s.inner.idleReadParked &&
        decide (s.inner.current.seq ≠ 0 ∧ s.inner.current.responseDone = false ∧
          s.head = .idle) && (s.step answer).isSome) ∧
    (Runs.exec Sys.step (fun _ _ => true) (init pipeWire {}) oneRequest).any (fun s =>
      (s.step .shutdown).any fun s' => decide (s.requests.length = 1 ∧ s'.inner.closed = false ∧
        (s'.step answer).isSome = true ∧
        (s'.inner.responseLines [ofText "keep-alive"]).announcesClose = false)) := by
  decide +kernel

/-- The request is answered after the shutdown as it would be without it, and no other is
accepted. -/
theorem shutdown_serves_pipeWire : ∃ s s' u u' : Sys pipeWire,
    Reach Step Runs.Any (init pipeWire {}) s ∧ s.Step .shutdown s' ∧ s.requests.length = 1 ∧
    s.Step answer u ∧ s'.Step answer u' ∧ u.Mirrors u' ∧ u'.requests = s.requests := by
  obtain ⟨s, s', r, h, hp⟩ := shut_oneRequest oneRequest_runs.1
  simp only [Bool.and_eq_true, beq_iff_eq, Bool.not_eq_true', decide_eq_true_eq] at hp
  obtain ⟨⟨⟨hone, hparked⟩, hseq, hdone, hidle⟩, hsome⟩ := hp
  obtain ⟨u, hu⟩ := Option.isSome_iff_exists.mp hsome
  obtain ⟨hnow, hsim, hlate⟩ := shutdown_serves pipeWire {} s s' r h
  have hm : s.Mirrors s' := by
    rcases hnow with ⟨hp, -⟩ | ⟨-, -, hm⟩
    · rw [hparked] at hp
      cases hp
    · exact hm
  have hserves : s.Serves answer := by
    refine ⟨.inl ?_, fun seq hseq => by cases hseq⟩
    rintro (h | h)
    · exact hseq h
    · rw [hdone] at h
      cases h
  obtain ⟨u', hu', hmu⟩ := hsim s s' u answer answer r .refl hm hserves (Action.Alike.refl _) hu
  refine ⟨s, s', u, u', r, h, hone, hu, hu', hmu, ?_⟩
  exact (hlate u' (.single hu' trivial)).2.resolve_right fun hx => hx.1.1 hidle

/-- **An HTTP/1.0 head keeps what its caller gave.**  A shutdown request comes while an HTTP/1.0
request is served: its head, with the caller's `keep-alive`, does not announce the close. -/
theorem shutdown_keeps_lines : ∃ s s' : Sys pipeWire,
    Reach Step Runs.Any (init pipeWire {}) s ∧ s.Step .shutdown s' ∧ s.requests.length = 1 ∧
    s'.inner.closed = false ∧ (s'.step answer).isSome = true ∧
    (s'.inner.responseLines [ofText "keep-alive"]).announcesClose = false := by
  obtain ⟨s, s', r, h, hp⟩ := shut_oneRequest oneRequest_runs.2
  exact ⟨s, s', r, h, of_decide_eq_true hp⟩

end Sys

end Httpunk.H1
