import Httpunk.H1.Server.Frame
import Httpunk.Support.Runs

/-!
# H1 — Safety — Response

One response a request, told to its first claimant, and in the order of the requests.

* `Turns`: what the responses of a connection depend on, and `Turns.Move`, how it moves.
* `Sys.turns_of_step`: a step of the connection leaves it alone or is such a move.
* `Turns.Orderly`: the invariant.
* `Sys.responses_exclusive`: what a run keeps in which a claim that waits for its `100 Continue`
  is taken up by nobody else.
-/

namespace Httpunk.H1

open Runs (Reach)

/-- What the responses depend on, of the state and of its driver. -/
structure Turns where
  turn : Inner.Turn
  callers : Nat → Caller
  continues : Nat → Continue
  claimant : Nat → Option Nat
  released : List (Nat × Nat)

namespace Turns

/-- The first claimant of the current request stands. -/
def claim (t : Turns) (c : Nat) : Turns :=
  { t with claimant :=
      Function.update t.claimant t.turn.seq ((t.claimant t.turn.seq).or (some c)) }

/-- The task `c` is told, and goes on. -/
def reply (t : Turns) (c : Nat) (caller : Caller) : Turns :=
  { t with callers := Function.update t.callers c caller }

/-- How the responses move. -/
inductive Move : Turns → Turns → Prop where
  /-- The next request. -/
  | begin (t : Turns) : Move t { t with turn := t.turn.next }
  /-- A claim by a stale handle. -/
  | stale (t : Turns) (c : Nat) : Move t (t.reply c .idle)
  /-- A second claim. -/
  | already (t : Turns) (c : Nat) (h : t.turn.responded = true) :
      Move t ((t.claim c).reply c .idle)
  /-- The first claim, and a `100 Continue` before it. -/
  | defer (t : Turns) (c : Nat) (h : t.turn.responded = false) :
      Move t { (t.claim c).reply c (.waiting t.turn.seq) with
        turn := { t.turn with responded := true, headPending := true } }
  /-- The claim stands: the task `c` is told to send the head, or of an error. -/
  | answer (t : Turns) (c : Nat) (told : Bool)
      (h : t.turn.headPending = true ∧ t.callers c = .waiting t.turn.seq ∧
          t.continues t.turn.seq = .written ∨
        t.turn.headPending = false ∧ t.turn.responded = false ∧ t.turn.continueSent = false) :
      Move t { (t.claim c).reply c .idle with
        turn := { t.turn with
          responded := t.turn.responded || !t.turn.headPending, headPending := false }
        released := if told then t.released ++ [(t.turn.seq, c)] else t.released }
  /-- A waiting task is cancelled. -/
  | leave (t : Turns) (c : Nat) : Move t (t.reply c .idle)
  /-- The `100 Continue` of the current request starts. -/
  | start (t : Turns) (hr : t.turn.responded = false) (hc : t.turn.continueSent = false) :
      Move t { t with
        turn := { t.turn with continueSent := true }
        continues := Function.update t.continues t.turn.seq .writing }
  | written (t : Turns) (k : Nat) (h : t.continues k = .writing) :
      Move t { t with continues := Function.update t.continues k .written }
  /-- `detach` answers the request. -/
  | detach (t : Turns) : Move t { t with turn := { t.turn with responded := true } }

/-! ### The invariant -/

/-- The responses are in order. -/
structure Orderly (t : Turns) : Prop where
  seq_lt : t.turn.seq < t.turn.nextSeq
  /-- Nothing is known of a request yet to come. -/
  fresh : ∀ k, t.turn.seq < k → t.claimant k = none ∧ t.continues k = .none
  /-- A claim marks the request. -/
  claimed : t.turn.responded = false → t.claimant t.turn.seq = none
  pending : t.turn.headPending = true →
    t.turn.responded = true ∧ ∀ c, (t.turn.seq, c) ∉ t.released
  /-- A task that waits is the first claimant. -/
  waiting : ∀ c k, t.callers c = .waiting k → t.claimant k = some c
  sent : t.continues t.turn.seq = .writing → t.turn.continueSent = true
  first : ∀ p ∈ t.released, t.claimant p.1 = some p.2
  order : t.released.Pairwise fun p q => p.1 < q.1

variable {t t' : Turns}

/-- No request yet to come is claimed. -/
theorem Orderly.le_of_claimant (h : t.Orderly) {k c : Nat} (hc : t.claimant k = some c) :
    k ≤ t.turn.seq := by
  by_contra hk
  rw [(h.fresh k (by omega)).1] at hc
  cases hc

theorem Orderly.le_of_released (h : t.Orderly) {p : Nat × Nat} (hp : p ∈ t.released) :
    p.1 ≤ t.turn.seq := h.le_of_claimant (h.first p hp)

theorem claim_eq_of_some {c d k : Nat} (h : t.claimant k = some d) :
    (t.claim c).claimant k = some d := by
  unfold claim
  dsimp only
  by_cases hk : k = t.turn.seq
  · subst hk
    rw [Function.update_self, h]
    rfl
  · rw [Function.update_of_ne hk, h]

theorem claim_eq_of_ne {c k : Nat} (h : k ≠ t.turn.seq) :
    (t.claim c).claimant k = t.claimant k := Function.update_of_ne h _ _

theorem claim_seq_of_none {c : Nat} (h : t.claimant t.turn.seq = none) :
    (t.claim c).claimant t.turn.seq = some c := by
  unfold claim
  dsimp only
  rw [Function.update_self, h]
  rfl

/-- A task that waited before, or one that is left to wait. -/
theorem waiting_of_reply {c d k : Nat} {caller : Caller}
    (h : (t.reply c caller).callers d = .waiting k) :
    t.callers d = .waiting k ∨ d = c ∧ caller = .waiting k := by
  unfold reply at h
  dsimp only at h
  by_cases hd : d = c
  · subst hd
    rw [Function.update_self] at h
    exact .inr ⟨rfl, h⟩
  · rw [Function.update_of_ne hd] at h
    exact .inl h

/-- A reply that lets the task go. -/
theorem Orderly.reply (h : t.Orderly) (c : Nat) : (t.reply c .idle).Orderly := by
  refine { h with waiting := fun d k hd => ?_ }
  rcases waiting_of_reply hd with hd | ⟨-, hd⟩
  · exact h.waiting d k hd
  · cases hd

theorem Orderly.fresh_claim (h : t.Orderly) {k c : Nat} (hk : t.turn.seq < k) :
    (t.claim c).claimant k = none ∧ t.continues k = .none :=
  ⟨(claim_eq_of_ne (Nat.ne_of_gt hk)).trans (h.fresh k hk).1, (h.fresh k hk).2⟩

/-- A claim of a request already answered. -/
theorem Orderly.claim (h : t.Orderly) (hr : t.turn.responded = true) (c : Nat) :
    (t.claim c).Orderly where
  seq_lt := h.seq_lt
  fresh := fun k hk => h.fresh_claim hk
  claimed := fun hf => by
    rw [show (t.claim c).turn = t.turn from rfl, hr] at hf
    cases hf
  pending := h.pending
  waiting := fun d k hd => claim_eq_of_some (h.waiting d k hd)
  sent := h.sent
  first := fun p hp => claim_eq_of_some (h.first p hp)
  order := h.order

/-- The first claim of the current request, which is now answered. -/
theorem Orderly.answer (h : t.Orderly) (c : Nat) (pending : Bool)
    (hn : ∀ d, (t.turn.seq, d) ∉ t.released) :
    Orderly { t.claim c with
      turn := { t.turn with responded := true, headPending := pending } } where
  seq_lt := h.seq_lt
  fresh := fun k hk => h.fresh_claim hk
  claimed := fun hf => by cases hf
  pending := fun _ => ⟨rfl, hn⟩
  waiting := fun d k hd => claim_eq_of_some (h.waiting d k hd)
  sent := h.sent
  first := fun p hp => claim_eq_of_some (h.first p hp)
  order := h.order

/-- The head is released to the first claimant. -/
theorem Orderly.release (h : t.Orderly) {c : Nat} (hc : t.claimant t.turn.seq = some c)
    (hp : t.turn.headPending = false) (hn : ∀ d, (t.turn.seq, d) ∉ t.released) :
    Orderly { t with released := t.released ++ [(t.turn.seq, c)] } where
  seq_lt := h.seq_lt
  fresh := h.fresh
  claimed := h.claimed
  pending := fun hf => by
    rw [show t.turn.headPending = true from hf] at hp
    cases hp
  waiting := h.waiting
  sent := h.sent
  first := fun p hm => by
    rcases List.mem_append.mp hm with hm | hm
    · exact h.first p hm
    · rw [List.mem_singleton.mp hm]
      exact hc
  order := by
    refine List.pairwise_append.mpr ⟨h.order, List.pairwise_singleton _ _, ?_⟩
    intro p hm q hq
    rw [List.mem_singleton.mp hq]
    refine Nat.lt_of_le_of_ne (h.le_of_released hm) fun he => hn p.2 ?_
    have hs : p.1 = t.turn.seq := he
    rw [← hs]
    exact hm

/-- Nothing is released for a request that is not answered. -/
theorem Orderly.not_released (h : t.Orderly) (hr : t.turn.responded = false) (c : Nat) :
    (t.turn.seq, c) ∉ t.released := by
  intro hm
  have hc := h.first _ hm
  rw [h.claimed hr] at hc
  cases hc

/-- **The step.**  Every move keeps the responses in order. -/
theorem Orderly.move (h : t.Orderly) (m : t.Move t') : t'.Orderly := by
  cases m with
  | begin =>
    have hn := h.fresh _ h.seq_lt
    exact { h with
      seq_lt := Nat.lt_succ_self _
      fresh := fun k hk => h.fresh k (Nat.lt_trans h.seq_lt hk)
      claimed := fun _ => hn.1
      pending := fun hf => by cases hf
      sent := fun hw => by
        rw [show t.continues t.turn.nextSeq = .writing from hw] at hn
        cases hn.2 }
  | stale c => exact h.reply c
  | already c hr => exact (h.claim hr c).reply c
  | defer c hr =>
    have ha := h.answer c true (h.not_released hr)
    refine { ha with waiting := fun d k hd => ?_ }
    rcases waiting_of_reply (t := t.claim c) hd with hd | ⟨rfl, hw⟩
    · exact ha.waiting d k hd
    · rw [← Caller.waiting.inj hw]
      exact claim_seq_of_none (h.claimed hr)
  | answer c told hw =>
    have hn : ∀ d, (t.turn.seq, d) ∉ t.released := by
      rcases hw with ⟨hp, -⟩ | ⟨-, hr, -⟩
      · exact (h.pending hp).2
      · exact h.not_released hr
    have hb : (t.turn.responded || !t.turn.headPending) = true := by
      rcases hw with ⟨hp, -⟩ | ⟨hp, -, -⟩
      · rw [(h.pending hp).1]
        rfl
      · rw [hp]
        exact Bool.or_true _
    have hc : (t.claim c).claimant t.turn.seq = some c := by
      rcases hw with ⟨-, hw, -⟩ | ⟨-, hr, -⟩
      · exact claim_eq_of_some (h.waiting c _ hw)
      · exact claim_seq_of_none (h.claimed hr)
    have ha := (h.answer c false hn).reply c
    rw [hb]
    cases told with
    | false => exact ha
    | true => exact ha.release hc rfl hn
  | leave c => exact h.reply c
  | start hr hc =>
    refine { h with
      fresh := fun k hk => ⟨(h.fresh k hk).1, ?_⟩
      sent := fun _ => rfl }
    exact (Function.update_of_ne (Nat.ne_of_gt hk) _ _).trans (h.fresh k hk).2
  | written k hw =>
    have hle : ∀ j, t.turn.seq < j → j ≠ k := by
      rintro j hj rfl
      rw [(h.fresh j hj).2] at hw
      cases hw
    refine { h with
      fresh := fun j hj => ⟨(h.fresh j hj).1, ?_⟩
      sent := fun hs => ?_ }
    · exact (Function.update_of_ne (hle j hj) _ _).trans (h.fresh j hj).2
    · refine h.sent ?_
      dsimp only at hs
      by_cases hk : t.turn.seq = k
      · rw [hk]
        exact hw
      · rw [Function.update_of_ne hk] at hs
        exact hs
  | detach =>
    exact { h with
      claimed := fun hf => by cases hf
      pending := fun hp => ⟨rfl, (h.pending hp).2⟩ }

/-- What one move does in the open: it writes for the current request alone, the final head only
where no `100 Continue` is being written, and a `100 Continue` only before the first claim. -/
structure Exclusive (t t' : Turns) : Prop where
  released : ∃ l, t'.released = t.released ++ l ∧ l.length ≤ 1 ∧
    ∀ p ∈ l, p.1 = t.turn.seq ∧ t.continues p.1 ≠ .writing
  started : ∀ k, t'.continues k = .writing → t.continues k ≠ .writing →
    k = t.turn.seq ∧ t.claimant k = none

/-- A move that writes nothing. -/
theorem Exclusive.of_eq (hr : t'.released = t.released) (hc : t'.continues = t.continues) :
    t.Exclusive t' where
  released := ⟨[], by rw [hr, List.append_nil], Nat.zero_le _, fun p hp => by cases hp⟩
  started := fun k hw hn => absurd (hc ▸ hw) hn

theorem Orderly.exclusive (h : t.Orderly) (m : t.Move t') : t.Exclusive t' := by
  cases m with
  | begin | stale | already | defer | leave | detach => exact .of_eq rfl rfl
  | answer c told hw =>
    cases told with
    | false => exact .of_eq rfl rfl
    | true =>
      refine ⟨⟨[(t.turn.seq, c)], rfl, Nat.le_refl 1, fun p hp => ?_⟩,
        fun k hw hn => absurd hw hn⟩
      rw [List.mem_singleton.mp hp]
      refine ⟨rfl, fun hs => ?_⟩
      rcases hw with ⟨-, -, hd⟩ | ⟨-, -, hc⟩
      · rw [hd] at hs
        cases hs
      · rw [h.sent hs] at hc
        cases hc
  | start hr hc =>
    refine ⟨⟨[], (List.append_nil _).symm, Nat.zero_le _, fun p hp => by cases hp⟩,
      fun k hw hn => ?_⟩
    by_cases hk : k = t.turn.seq
    · subst hk
      exact ⟨rfl, h.claimed hr⟩
    · exact absurd ((Function.update_of_ne hk _ _).symm.trans hw) hn
  | written k hk =>
    refine ⟨⟨[], (List.append_nil _).symm, Nat.zero_le _, fun p hp => by cases hp⟩,
      fun j hw hn => ?_⟩
    by_cases hj : j = k
    · subst hj
      exact absurd hk hn
    · exact absurd ((Function.update_of_ne hj _ _).symm.trans hw) hn

end Turns

/-! ### The connection -/

namespace Sys

variable {W : Wire} {s s' : Sys W}

def turns (s : Sys W) : Turns where
  turn := s.inner.turn
  callers := s.callers
  continues := s.continues
  claimant := s.claimant
  released := s.released

/-- What leaves the turn of the state, and the record of the responses, alone. -/
theorem turns_eq {me : Inner W} (h : me.turn = s.inner.turn) :
    { s with inner := me }.turns = s.turns :=
  congrArg (fun t => { s.turns with turn := t }) h

@[simp] theorem turns_arrive (a : Arrival) : (s.arrive a).turns = s.turns := rfl

@[simp] theorem turns_decode (seq : Nat) (d : BodyDecoder W) :
    (s.decode seq d).1.turns = s.turns := rfl

theorem turns_verdict {r : Inner W × Next} (h : r.1.turn = s.inner.turn) :
    (s.verdict r).turns = s.turns := by
  obtain ⟨me, v⟩ := r
  cases v <;> exact turns_eq h

theorem turns_drainStep (a : Arrival) (now : Nat) (d : DrainTask) :
    (s.drainStep a now d).turns = s.turns := by
  cases d with
  | done complete => exact turns_verdict (Inner.turn_drainDone _ _ _)
  | looking | checking | asking | judging => rfl
  | fetching | feeding data | again =>
    unfold drainStep
    dsimp only
    split <;> rfl
  | decoding =>
    unfold drainStep
    dsimp only
    repeat' split
    all_goals rfl
  | reading => cases a <;> rfl

theorem turns_accept (src : Option Nat) (data : Bytes) :
    (s.accept src data).turns = { s.turns with turn := (s.inner.acceptHead data).1.turn } := by
  unfold accept
  dsimp only
  split <;> rfl

/-- The next step of `next_request` changes nothing, or begins the next request. -/
theorem turns_headStep {a : Arrival} {now : Nat} (h : s.headStep a now = some s') :
    s'.turns = s.turns ∨ s.turns.Move s'.turns := by
  have hacc : ∀ src data, (s.accept src data).turns = s.turns ∨
      s.turns.Move (s.accept src data).turns := by
    intro src data
    rw [turns_accept]
    rcases s.inner.turn_acceptHead data with ht | ht
    · exact .inl (turns_eq ht)
    · rw [ht]
      exact .inr (.begin s.turns)
  unfold headStep at h
  dsimp only at h
  cases hh : s.head with
  | idle | ended =>
    rw [hh] at h
    cases h
  | draining d =>
    rw [hh] at h
    rw [← Option.some.inj h]
    exact .inl (turns_drainStep a now d)
  | parsing =>
    rw [hh] at h
    rw [← Option.some.inj h]
    exact hacc none []
  | accepting src data =>
    rw [hh] at h
    rw [← Option.some.inj h]
    exact hacc src data
  | waiting w | joining w j =>
    rw [hh] at h
    dsimp only at h
    split at h
    · rw [← Option.some.inj h]
      exact .inl rfl
    · cases h
  | result w =>
    rw [hh] at h
    dsimp only at h
    repeat' split at h
    all_goals
      rw [← Option.some.inj h]
      exact .inl (turns_eq (s.inner.turn_takeWatcherResult))
  | reading | more | fetching =>
    rw [hh] at h
    dsimp only at h
    repeat' split at h
    all_goals
      rw [← Option.some.inj h]
      exact .inl rfl
  | failed =>
    rw [hh] at h
    rw [← Option.some.inj h]
    exact .inl (turns_eq s.inner.turn_failRead)
  | taking w | raised | empty | cancelled | stopping =>
    rw [hh] at h
    rw [← Option.some.inj h]
    exact .inl rfl

theorem turns_bodyStep {t : Nat} {a : Arrival} (h : s.bodyStep t a = some s') :
    s'.turns = s.turns := by
  unfold bodyStep at h
  dsimp only at h
  cases hb : s.bodies t with
  | idle =>
    rw [hb] at h
    cases h
  | decoding seq =>
    rw [hb] at h
    obtain ⟨d, -, hd⟩ := Option.bind_eq_some_iff.mp h
    split at hd <;> exact Option.some.inj hd ▸ rfl
  | checking seq | feeding seq data =>
    rw [hb] at h
    obtain ⟨d, -, hd⟩ := Option.bind_eq_some_iff.mp h
    exact Option.some.inj hd ▸ rfl
  | beginning seq =>
    rw [hb] at h
    exact Option.some.inj h ▸ turns_eq (s.inner.turn_beginBodyRead seq)
  | ending seq data =>
    rw [hb] at h
    exact Option.some.inj h ▸ turns_eq (s.inner.turn_endBodyRead seq false)
  | finishing seq =>
    rw [hb] at h
    exact Option.some.inj h ▸ turns_eq (s.inner.turn_endBodyRead seq true)
  | reading seq =>
    rw [hb] at h
    cases a <;> exact Option.some.inj h ▸ rfl
  | fetching seq | failing =>
    rw [hb] at h
    exact Option.some.inj h ▸ rfl

theorem turns_armed {w : Nat} {r : Inner W × Bool} (h : r.1.turn = s.inner.turn) :
    (s.armed w r).turns = s.turns := turns_eq h

theorem turns_armStep {w : Nat} (h : s.armStep w = some s') : s'.turns = s.turns := by
  unfold armStep at h
  cases ha : s.arms w with
  | idle | ended =>
    rw [ha] at h
    cases h
  | spawning =>
    rw [ha] at h
    exact Option.some.inj h ▸ rfl
  | storing =>
    rw [ha] at h
    exact Option.some.inj h ▸ turns_eq (s.inner.turn_storeWatcherHandle w)
  | joining =>
    rw [ha] at h
    dsimp only at h
    split at h
    · exact Option.some.inj h ▸ rfl
    · cases h

theorem turns_watchStep {w : Nat} {a : Arrival} (h : s.watchStep w a = some s') :
    s'.turns = s.turns := by
  unfold watchStep at h
  dsimp only at h
  cases hw : s.watches w with
  | idle | ended =>
    rw [hw] at h
    cases h
  | completing b =>
    rw [hw] at h
    cases b <;> exact Option.some.inj h ▸ turns_eq (s.inner.turn_watcherCompleted _ _)
  | starting | reading | aborting | setting =>
    rw [hw] at h
    exact Option.some.inj h ▸ rfl

theorem turns_closeStep {t : Nat} (h : s.closeStep t = some s') : s'.turns = s.turns := by
  unfold closeStep at h
  dsimp only at h
  cases hc : s.closers t with
  | idle | ended =>
    rw [hc] at h
    cases h
  | taking w =>
    rw [hc] at h
    exact Option.some.inj h ▸ rfl
  | waiting w | joining w j =>
    rw [hc] at h
    dsimp only at h
    split at h
    · exact Option.some.inj h ▸ rfl
    · cases h

/-- No call finds a claim that waits for its `100 Continue`, but the call of the task that
waits. -/
def KeepsTurn (s : Sys W) : Action → Prop
  | .respond c seq _ _ _ _ => s.inner.isCurrent seq = true → s.inner.current.headPending = true →
      s.callers c = .waiting seq
  | _ => True

/-- A verdict of `respond_head` but `REQ_CONTINUE`. -/
theorem turns_told {c seq w : Nat} {r : Inner W × Except Unit (Req × Bool)}
    (h : ∀ b, r.2 ≠ .ok (.continue, b)) : ∃ told : Bool,
    (s.told c seq w r).turns = { s.turns.reply c .idle with
      turn := r.1.turn, released := if told then s.released ++ [(seq, c)] else s.released } := by
  obtain ⟨me, v⟩ := r
  unfold Sys.told
  match v with
  | .error _ => exact ⟨false, rfl⟩
  | .ok (.ok, b) => exact ⟨true, rfl⟩
  | .ok (.continue, b) => exact absurd rfl (h b)
  | .ok (.already, b) | .ok (.stale, b) | .ok (.parked, b) | .ok (.peerClosed, b) =>
    exact ⟨false, rfl⟩

theorem turns_called {c seq : Nat} (h : s.inner.isCurrent seq = true) :
    (s.called c seq).turns = s.turns.claim c ∧ seq = s.turns.turn.seq := by
  have hs : s.inner.current.seq = seq := by
    unfold Inner.isCurrent at h
    simp only [Bool.and_eq_true, beq_iff_eq] at h
    exact h.1
  subst hs
  unfold called
  rw [if_pos h]
  exact ⟨rfl, rfl⟩

theorem turns_respondStep {c seq status : Nat} {encoded : Option Encoded} {w : Nat} {want : Bool}
    (hc : s.callers c = .idle ∨ s.callers c = .waiting seq ∧ s.continues seq = .written)
    (hk : s.KeepsTurn (.respond c seq status encoded w want)) :
    s.turns.Move (s.respondStep c seq status encoded w want).turns := by
  unfold respondStep
  rcases s.inner.respondHead_cases seq status encoded w want with
    ⟨hcur, hr⟩ | ⟨hcur, -, hd, hr⟩ | ⟨hcur, hd, ht, hr⟩ | ⟨hcur, hw, ht, hr⟩
  · rw [hr]
    unfold called
    rw [if_neg (by rw [hcur]; decide)]
    exact .stale s.turns c
  · rw [hr]
    have hm : ((s.called c seq).told c seq w (s.inner, .ok (.already, false))).turns =
        (s.called c seq).turns.reply c .idle := by
      unfold called
      rw [if_pos hcur]
      rfl
    rw [hm, (turns_called hcur).1]
    exact .already s.turns c hd
  · obtain ⟨hcl, rfl⟩ := turns_called (c := c) hcur
    have hm : ((s.called c s.turns.turn.seq).told c s.turns.turn.seq w
          (s.inner.respondHead s.turns.turn.seq status encoded w want)).turns =
        { (s.called c s.turns.turn.seq).turns.reply c (.waiting s.turns.turn.seq) with
          turn := (s.inner.respondHead s.turns.turn.seq status encoded w want).1.turn } := by
      unfold told
      rw [hr]
      rfl
    rw [hm, hcl, ht]
    exact .defer s.turns c hd
  · obtain ⟨hcl, rfl⟩ := turns_called (c := c) hcur
    obtain ⟨told, hm⟩ := turns_told (s := s.called c s.turns.turn.seq) (c := c)
      (w := w) hr
    have hrel : (s.called c s.turns.turn.seq).released = s.turns.released :=
      congrArg Turns.released hcl
    rw [hm, hcl, ht, hrel]
    refine .answer s.turns c told ?_
    rcases hw with hw | ⟨h₁, h₂, h₃⟩
    · have hwait := hk hcur hw
      rcases hc with hi | ⟨-, hd⟩
      · rw [hi] at hwait
        cases hwait
      · exact .inl ⟨hw, hwait, hd⟩
    · exact .inr ⟨h₁, h₂, h₃⟩

/-- The `100 Continue` is claimed only before the first claim of the response, and once. -/
theorem turns_tryContinue (seq : Nat) :
    let r := s.inner.trySendContinue seq
    let s' : Sys W := { s with
      inner := r.1
      continues := if r.2 then Function.update s.continues seq .writing else s.continues }
    s'.turns = s.turns ∨ s.turns.Move s'.turns := by
  dsimp only
  unfold Inner.trySendContinue
  dsimp only
  split
  · exact .inl rfl
  · next hcur =>
    rw [Bool.not_eq_true, Bool.not_eq_false'] at hcur
    have hseq := (turns_called (c := 0) hcur).2
    split
    · exact .inl rfl
    · next hc =>
      simp only [Bool.or_eq_true, not_or, Bool.not_eq_true] at hc
      subst hseq
      exact .inr (.start s.turns hc.1.2 hc.1.1.2)

theorem turns_handOver {me : Inner W} {leftover : Option Bytes} :
    (s.handOver me leftover).turns = { s.turns with turn := me.turn } := rfl

/-- **The simulation.**  A step leaves the responses alone, or is a move of theirs. -/
theorem turns_of_step {a : Action} (h : s.step a = some s') (hk : s.KeepsTurn a) :
    s'.turns = s.turns ∨ s.turns.Move s'.turns := by
  unfold step at h
  cases a with
  | nextRequest now =>
    dsimp only at h
    split at h
    · exact Option.some.inj h ▸ .inl (turns_verdict (s.inner.turn_beginRead now))
    · cases h
  | head a now => exact turns_headStep h
  | cancelHead =>
    dsimp only at h
    split at h
    all_goals first | exact Option.some.inj h ▸ .inl rfl | cases h
  | readBody t seq =>
    dsimp only at h
    split at h
    · exact Option.some.inj h ▸ .inl rfl
    · cases h
  | body t a => exact .inl (turns_bodyStep h)
  | leaveBody t closed =>
    dsimp only at h
    split at h
    · exact Option.some.inj h ▸ .inl rfl
    · cases h
  | arm w seq want negotiated =>
    dsimp only at h
    split at h
    · exact Option.some.inj h ▸ .inl (turns_armed (s.inner.turn_armWatcher _ _ _ _))
    · cases h
  | armer w => exact .inl (turns_armStep h)
  | watch w a => exact .inl (turns_watchStep h)
  | respond c seq status encoded w want =>
    dsimp only at h
    split at h
    · next hc => exact Option.some.inj h ▸ .inr (turns_respondStep hc.2 hk)
    · cases h
  | leaveCaller c =>
    dsimp only at h
    split at h
    · exact Option.some.inj h ▸ .inr (.leave s.turns c)
    · cases h
  | tryContinue seq => exact Option.some.inj h ▸ turns_tryContinue seq
  | continueWritten seq =>
    dsimp only at h
    split at h
    · next hw => exact Option.some.inj h ▸ .inr (.written s.turns seq hw)
    · cases h
  | finishResponse seq =>
    exact Option.some.inj h ▸ .inl (turns_eq (s.inner.turn_finishResponse seq))
  | failResponse seq => exact Option.some.inj h ▸ .inl (turns_eq (s.inner.turn_failResponse seq))
  | detach seq =>
    rw [← Option.some.inj h, turns_handOver]
    rcases s.inner.turn_detach seq with hd | hd
    · exact .inl (turns_eq hd)
    · rw [hd]
      exact .inr (.detach s.turns)
  | close t =>
    dsimp only at h
    split at h
    · exact Option.some.inj h ▸ .inl (turns_eq s.inner.turn_markClosed)
    · cases h
  | closer t => exact .inl (turns_closeStep h)
  | shutdown => exact Option.some.inj h ▸ .inl (turns_eq s.inner.turn_requestShutdown)
  | overdue timeout now =>
    exact Option.some.inj h ▸ .inl (turns_eq (s.inner.turn_headReadOverdue timeout now))

theorem orderly_init (W : Wire) (cfg : Config) : (init W cfg).turns.Orderly where
  seq_lt := Nat.zero_lt_one
  fresh := fun _ _ => ⟨rfl, rfl⟩
  claimed := fun _ => rfl
  pending := fun h => by cases h
  waiting := fun _ _ h => by cases h
  sent := fun h => by cases h
  first := fun _ h => by cases h
  order := .nil

/-- The responses of every run are in order. -/
theorem orderly {cfg : Config} (r : Reach Step KeepsTurn (init W cfg) s) : s.turns.Orderly :=
  Reach.invariant (I := fun s => s.turns.Orderly) r (orderly_init W cfg)
    fun {_ _ _} ho h hk => (turns_of_step h hk).elim (fun he => he ▸ ho) ho.move

/-- **One response a request.**  In a run in which nobody but the waiting claimant calls for a
response that waits for its `100 Continue`, final heads are released in the order of the
requests, one each and to its first claimant; and a step writes for the current request alone,
its final head only where no `100 Continue` of it is being written, and its `100 Continue` only
before the first claim. -/
theorem responses_exclusive (W : Wire) (cfg : Config) (s s' : Sys W) (a : Action)
    (r : Reach Step KeepsTurn (init W cfg) s) (h : s.Step a s') (hk : s.KeepsTurn a) :
    s'.released.Pairwise (fun p q => p.1 < q.1) ∧
    (∀ p ∈ s'.released, s'.claimant p.1 = some p.2) ∧
    (∃ l, s'.released = s.released ++ l ∧ l.length ≤ 1 ∧
      ∀ p ∈ l, p.1 = s.inner.current.seq ∧ s.continues p.1 ≠ .writing) ∧
    ∀ k, s'.continues k = .writing → s.continues k ≠ .writing →
      k = s.inner.current.seq ∧ s.claimant k = none := by
  have ho := orderly r
  have ho' := orderly (r.tail h hk)
  have he : s.turns.Exclusive s'.turns := by
    rcases turns_of_step h hk with he | hm
    · exact .of_eq (congrArg Turns.released he) (congrArg Turns.continues he)
    · exact ho.exclusive hm
  exact ⟨ho'.order, ho'.first, he.released, he.started⟩

instance (s : Sys W) (a : Action) : Decidable (s.KeepsTurn a) := by
  unfold KeepsTurn
  split <;> infer_instance

/-- The head of a request that expects a `100 Continue`. -/
def expectingHead : Bytes :=
  ofText "POST / HTTP/1.1\r\nContent-Length: 1\r\nExpect: 100-continue\r\n\r\n"

theorem expectingHead_ne : expectingHead ≠ [] := by simp [expectingHead, ofText]

/-- A wire whose requests are of this head, and a body of one byte. -/
def headWire : Wire where
  Decoder := Bool
  parseRequest := Parsed.ofHead expectingHead
    { method := "POST", target := "/", expectContinue := true, kind := .length,
      contentLength := some 1,
      headers := [("content-length", ofText "1"), ("expect", ofText "100-continue")] }
  newDecoder := fun _ _ => false
  isEof := fun d => d
  decode := fun d buf _ =>
    match buf with
    | [] => (d, [], .pending)
    | x :: rest => (true, rest, .data [x])

/-- The first request of `headWire` is read, and its `100 Continue` started. -/
def firstRequest : List Action :=
  [.nextRequest 0, .head (.bytes expectingHead expectingHead_ne) 0, .head .eof 0, .tryContinue 1]

def okHead : Option Encoded := some { head := [], isLast := false, closeDelimited := false }

/-- The request, answered by its claimant, and by a second caller. -/
theorem firstRequest_runs :
    (Runs.exec Sys.step (fun s a => decide (s.KeepsTurn a)) (init headWire {})
      (firstRequest ++ [.respond 1 1 200 okHead 0 false, .continueWritten 1])).any
      (fun s => decide (s.KeepsTurn (.respond 1 1 200 okHead 0 false)) &&
        (s.step (.respond 1 1 200 okHead 0 false)).any (fun s' => s'.released == [(1, 1)])) ∧
    (Runs.exec Sys.step (fun _ _ => true) (init headWire {})
      (firstRequest ++ [.respond 1 1 200 okHead 0 false, .respond 2 1 200 okHead 1 false])).any
      (fun s => decide (s.released = [(1, 2)] ∧ s.claimant 1 = some 1 ∧
        s.continues 1 = .writing)) := by
  decide +kernel

theorem responses_exclusive_headWire : ∃ s s' : Sys headWire,
    Reach Step KeepsTurn (init headWire {}) s ∧ s.Step (.respond 1 1 200 okHead 0 false) s' ∧
    s'.released = [(1, 1)] ∧ s'.released.Pairwise (fun p q => p.1 < q.1) ∧
    ∀ p ∈ s'.released, s'.claimant p.1 = some p.2 := by
  obtain ⟨s, r, hs⟩ := Reach.of_exec_any firstRequest_runs.1
  simp only [Bool.and_eq_true, decide_eq_true_eq, Option.any_eq_true, beq_iff_eq] at hs
  obtain ⟨hk, s', h, he⟩ := hs
  have r' := r.mono fun _ _ => of_decide_eq_true
  have hx := responses_exclusive headWire {} s s' _ r' h hk
  exact ⟨s, s', r', h, he, hx.1, hx.2.1⟩

/-- **Two callers for one pending claim.**  While the first claimant waits for its `100 Continue`,
a second caller is taken for it, and told to send the final head while the `100 Continue` is still
being written. -/
theorem responses_not_exclusive : ∃ s : Sys headWire,
    Reach Step Runs.Any (init headWire {}) s ∧ s.released = [(1, 2)] ∧ s.claimant 1 = some 1 ∧
    s.continues 1 = .writing := by
  obtain ⟨s, r, hs⟩ := Reach.of_exec_any firstRequest_runs.2
  exact ⟨s, r.mono fun _ _ _ => trivial, of_decide_eq_true hs⟩

end Sys

end Httpunk.H1
