import Httpunk.H2.Safety.Closed

/-!
# H2 — Safety — Counters

The counters of the stream store are exact.  The active count is what the store holds
unfinished, a finished stream stays for what is still to be released of it, and the count of
open slots is the slots that streams hold and those claimed for a stream that is not yet opened.

* `Inner.Counts`: what holds of the slots and of the finished streams, kept by each touch.
* `Claims`: the driver with the slots claimed and not yet turned into a stream or given back.
* `Claims.counters_exact`: the counters in every state reached.
-/

namespace Httpunk.H2

open Runs (Reach)
open Httpunk.H2.Inner

/-- One for an entry that holds a slot. -/
def slotOf (_ : Nat) (e : StreamEntry) : Nat := if e.holdsSlot then 1 else 0

/-- The slots are those of the streams and those claimed; a finished stream holds none, and
stays for what is to be released of it. -/
structure Inner.Counts (me : Inner) (claims : Nat) : Prop where
  slots : me.numOpenStreams = me.streams.total slotOf + claims
  free : ∀ {k e}, me.streams.lookup k = some e → e.finished = true → e.holdsSlot = false
  held : ∀ {k e}, me.streams.lookup k = some e → e.finished = true → e.Held

/-- The claims after a touch. -/
def Mark.claims (m : Mark) (claims : Nat) : Nat :=
  match m with
  | .claim => claims + 1
  | .unclaim | .requested _ => claims - 1
  | _ => claims

/-- A claim is used up only where there is one. -/
def Mark.Claimed (claims : Nat) : Mark → Prop
  | .unclaim | .requested _ => 0 < claims
  | _ => True

variable {s s' : Inner} {m : Mark} {sid k c : Nat} {e e' : StreamEntry} {extra : Mark → Prop}

/-! ### The slots of the streams -/

/-- A settled entry that leaves holds no slot. -/
theorem Inner.total_maybeRemoveSettled {me : Inner} (he : me.streams.lookup sid = some e)
    (hf : e.finished = true → e.holdsSlot = false) :
    (me.maybeRemoveSettled sid).streams.total slotOf = me.streams.total slotOf := by
  rw [maybeRemoveSettled_of he]
  split
  · next hs =>
    simp only [Bool.and_eq_true] at hs
    have ht := Store.total_erase (w := slotOf) he
    have h0 : slotOf sid e = 0 := by rw [slotOf, hf hs.1.1]; rfl
    change Store.total slotOf (me.streams.erase sid) = _
    omega
  · rfl

/-- One entry rewritten, its slot kept. -/
theorem Inner.total_setStream {me : Inner} (he : me.streams.lookup sid = some e)
    (hs : e'.holdsSlot = e.holdsSlot) :
    (me.setStream sid e').streams.total slotOf = me.streams.total slotOf :=
  Store.total_insert_same he (by rw [slotOf, slotOf, hs])

theorem Inner.numOpenStreams_maybeRemoveSettled (me : Inner) (sid : Nat) :
    (me.maybeRemoveSettled sid).numOpenStreams = me.numOpenStreams := by
  obtain ⟨m, hm⟩ := maybeRemoveSettled_eq me sid
  rw [hm]

/-- **The slots after a touch.** -/
theorem Touch.slots (t : Touch s m s') (h : s.Counts c) (hm : m.Claimed c) :
    s'.numOpenStreams = s'.streams.total slotOf + m.claims c := by
  have hs := h.slots
  have write : ∀ {sid e e'}, s.streams.lookup sid = some e → e'.holdsSlot = e.holdsSlot →
      s.numOpenStreams = (s.setStream sid e').streams.total slotOf + c := fun he hh => by
    rw [total_setStream he hh]
    exact hs
  cases t with
  | still ht =>
      rw [ht.numOpenStreams, ht.total fun hl => by rw [slotOf, slotOf, hl.holdsSlot]]
      exact hs
  | turn he _ _ => exact write he rfl
  | begins he _ _ _ => exact write he rfl
  | ends he _ => exact write he rfl
  | @finish sid e he hc hf =>
      have hl : (s.finishEntry sid e).streams.lookup sid =
          some { e with finished := true, holdsSlot := false } := AList.lookup_insert _
      rw [numOpenStreams_maybeRemoveSettled, total_maybeRemoveSettled hl fun _ => rfl]
      have ht := Store.total_insert (w := slotOf)
        (u := { e with finished := true, holdsSlot := false }) he
      have hle := Store.weight_le_total (w := slotOf) he
      change (if e.holdsSlot = true then s.numOpenStreams - 1 else s.numOpenStreams) =
        Store.total slotOf (s.streams.insert sid _) + c
      unfold slotOf at ht hle hs ⊢
      cases hh : e.holdsSlot <;> simp only [hh, Bool.false_eq_true, if_false, if_true] at ht hle ⊢
      all_goals omega
  | @settle sid e n c' r he =>
      have hl : (s.setStream sid { e with
          recvUnreleased := n, dataBudgetCharged := c', recvReclaimed := r }).streams.lookup sid =
          some { e with recvUnreleased := n, dataBudgetCharged := c', recvReclaimed := r } :=
        AList.lookup_insert _
      rw [keepStream, numOpenStreams_maybeRemoveSettled,
        total_maybeRemoveSettled hl (show e.finished = true → e.holdsSlot = false from h.free he)]
      exact write he rfl
  | fill he _ => exact write he rfl
  | declare he => exact write he rfl
  | buffer he _ => exact write he rfl
  | written =>
      obtain ⟨m, hm'⟩ := creditAll_eq { s with inflightCredit := [] } [] s.inflightCredit
      have hlook := lookup_creditAll { s with inflightCredit := [] } [] s.inflightCredit
      have ht : s.creditWritten.1.streams.total slotOf = s.streams.total slotOf := by
        refine Store.total_of_lookup (fun k e hk => ?_) fun k hk => ?_
        · obtain ⟨t, hl⟩ := hlook k
          exact ⟨_, hl.trans (congrArg (Option.map _) hk), rfl⟩
        · obtain ⟨t, hl⟩ := hlook k
          exact hl.trans (congrArg (Option.map _) hk)
      rw [ht, creditWritten, hm']
      exact hs
  | @accepted sid st hr hlt hn hc =>
      have ht := Store.total_insert_new (w := slotOf) (v :=
        { StreamEntry.new s.peer.initialWindowSize s.recvInit false with state := st }) hn
      change s.numOpenStreams = Store.total slotOf (s.streams.insert sid _) + c
      rw [ht]
      exact hs
  | @requested isHead eos block st hr hn hc =>
      have ht := Store.total_insert_new (w := slotOf) (v :=
        { StreamEntry.new s.peer.initialWindowSize s.recvInit isHead with
          holdsSlot := true, state := st }) hn
      have hpos : 0 < c := hm
      change s.numOpenStreams = Store.total slotOf (s.streams.insert s.nextId _) + (c - 1)
      rw [ht, slotOf, if_pos rfl]
      omega
  | claim =>
      change s.numOpenStreams + 1 = s.streams.total slotOf + (c + 1)
      omega
  | unclaim =>
      have hpos : 0 < c := hm
      change s.numOpenStreams - 1 = s.streams.total slotOf + (c - 1)
      omega
  | _ => exact hs

/-- **A touch keeps the counts.** -/
theorem Touch.counts (t : Touch s m s') (h : s.Counts c) (hm : m.Claimed c) :
    s'.Counts (m.claims c) where
  slots := t.slots h hm
  free := fun {k e'} he hf => by
    rcases t.entry he with ⟨e, hk, hv⟩ | ⟨-, hnew⟩
    · rcases hv.finished with ⟨hf', hh⟩ | ⟨-, -, hh⟩
      · exact hh.trans (h.free hk (hf'.symm.trans hf))
      · exact hh
    · rw [hnew.active] at hf
      cases hf
  held := fun {k e'} he hf => by
    rcases t.entry he with ⟨e, hk, hv⟩ | ⟨-, hnew⟩
    · exact hv.held (h.held hk) hf
    · rw [hnew.active] at hf
      cases hf

/-- A mark that neither claims a slot nor uses a claim. -/
def Mark.slotless : Mark → Prop
  | .claim | .unclaim | .requested _ => False
  | _ => True

theorem Touches.counts (r : Touches extra s s') (h : s.Counts c)
    (hm : ∀ m, extra m → m.slotless) : s'.Counts c := by
  refine Reach.invariant (I := fun t : Inner => t.Counts c) r h fun {s m s'} hs t hk => ?_
  have hless : m.slotless := by
    rcases hk with hk | hk
    · cases m <;> trivial
    · exact hm m hk
  have hsame : m.claims c = c ∧ m.Claimed c := by
    cases m <;> first | exact ⟨rfl, trivial⟩ | exact hless.elim
  exact hsame.1 ▸ t.counts hs hsame.2

/-! ### The driver and its claims -/

/-- The driver, and the slots it has claimed and not yet turned into a stream or given back. -/
structure Claims where
  sys : Sys
  claims : Nat

namespace Claims

/-- The connection after its handshake: nothing is claimed. -/
def init (cfg : Config) : Claims := ⟨.init cfg, 0⟩

/-- A slot is turned into a stream, or given back, by who claimed it. -/
def allowed (c : Claims) : Sys.Action → Bool
  | .call (.openStream _ _ _) | .call .releaseSlot => 0 < c.claims
  | _ => true

/-- The claims after an action. -/
def after (c : Claims) : Sys.Action → Nat
  | .call .tryClaimSlot => if c.sys.inner.tryClaimSlot.2 then c.claims + 1 else c.claims
  | .call (.openStream _ _ _) | .call .releaseSlot => c.claims - 1
  | _ => c.claims

def step (c : Claims) (a : Sys.Action) : Option Claims :=
  if c.allowed a then (c.sys.step a).map fun s => ⟨s, c.after a⟩ else none

/-- A step, as a relation. -/
def Step (c : Claims) (a : Sys.Action) (c' : Claims) : Prop := c.step a = some c'

/-- The states the driver reaches, claims and all. -/
abbrev Reached (cfg : Config) (c : Claims) : Prop := Reach Step Runs.Any (init cfg) c

open Sys (clientConfig)

variable {c c' : Claims} {a : Sys.Action} {cfg : Config}

theorem Step.sys (hs : Step c a c') :
    Sys.Step c.sys a c'.sys ∧ c'.claims = c.after a ∧ c.allowed a = true := by
  unfold Step step at hs
  split at hs
  · next hal =>
    obtain ⟨s, hsys, rfl⟩ := Option.map_eq_some_iff.mp hs
    exact ⟨hsys, rfl, hal⟩
  · cases hs

/-- What a frame or the read pump leaves has nothing to do with slots. -/
theorem marks_slotless {σ : Sys} {m : Mark}
    (ha : ∀ call, a = .call call → call ≠ .tryClaimSlot ∧ call ≠ .releaseSlot ∧
      ∀ request eos isHead, call ≠ .openStream request eos isHead)
    (hm : σ.marks a m) : m.slotless := by
  cases a with
  | recv f =>
      cases f with
      | headers f => rcases hm with rfl | (rfl | rfl) | rfl | rfl <;> trivial
      | data f => rcases hm with (rfl | rfl) | ⟨-, rfl⟩ <;> trivial
      | goAway f =>
          obtain ⟨_, -, rfl⟩ := hm
          trivial
      | rstStream f =>
          cases hm
          trivial
      | _ => exact hm.elim
  | call call =>
      obtain ⟨h₁, h₂, h₃⟩ := ha call rfl
      cases call with
      | tryClaimSlot => exact absurd rfl h₁
      | releaseSlot => exact absurd rfl h₂
      | openStream request eos isHead => exact absurd rfl (h₃ request eos isHead)
      | sendData sid data offset eos =>
          rcases hm with ⟨n, rfl | rfl⟩ | rfl | ⟨-, rfl⟩ <;> trivial
      | sendTrailers _ _ => rcases hm with rfl | ⟨-, rfl⟩ <;> trivial
      | sendResponseHead _ _ _ _ _ => rcases hm with rfl | ⟨-, rfl⟩ <;> trivial
      | fail _ _ =>
          obtain ⟨_, -, rfl⟩ := hm
          trivial
      | resetStream _ _ _ | acloseBody _ | creditWritten =>
          cases hm
          trivial
      | _ => exact hm.elim
  | pump =>
      unfold Sys.marks at hm
      cases hp : σ.pump <;> rw [hp] at hm
      case resetting sid reason =>
        cases hm
        trivial
      case failing e =>
        obtain ⟨_, -, rfl⟩ := hm
        trivial
      all_goals exact hm.elim
  | flush =>
      cases hm
      trivial
  | _ => exact hm.elim

theorem counts_step (h : c.sys.Ok) (hc : c.sys.inner.Counts c.claims) (hs : Step c a c') :
    c'.sys.inner.Counts c'.claims := by
  obtain ⟨hsys, hcl, hal⟩ := hs.sys
  rw [hcl]
  by_cases ha : ∀ call, a = .call call → call ≠ .tryClaimSlot ∧ call ≠ .releaseSlot ∧
      ∀ request eos isHead, call ≠ .openStream request eos isHead
  · have hsame : c.after a = c.claims := by
      cases a with
      | call call =>
          obtain ⟨h₁, h₂, h₃⟩ := ha call rfl
          cases call with
          | tryClaimSlot => exact absurd rfl h₁
          | releaseSlot => exact absurd rfl h₂
          | openStream request eos isHead => exact absurd rfl (h₃ request eos isHead)
          | _ => rfl
      | _ => rfl
    rw [hsame]
    exact (h.step_touches hsys).counts hc fun m => marks_slotless ha
  · push Not at ha
    obtain ⟨call, rfl, hcall⟩ := ha
    unfold Sys.Step Sys.step at hsys
    dsimp only at hsys
    split at hsys
    · next hallow =>
      rw [← Option.some.inj hsys]
      cases call with
      | tryClaimSlot =>
          change (c.sys.inner.tryClaimSlot.1).Counts (if c.sys.inner.tryClaimSlot.2 then _ else _)
          unfold tryClaimSlot
          split
          · exact (Touch.claim (s := c.sys.inner)).counts hc trivial
          · exact hc
      | releaseSlot =>
          have hpos : 0 < c.claims := by simpa [allowed] using hal
          exact (Touch.unclaim (s := c.sys.inner)).counts hc hpos
      | openStream request eos isHead =>
          have hpos : 0 < c.claims := by simpa [allowed] using hal
          have hr : c.sys.inner.role = .client := by simpa [Sys.allowed] using hallow
          rcases openStream_touch h.wf request eos isHead hr with ht | ht
          · exact ht.counts hc hpos
          · exact ht.counts hc hpos
      | _ => exact absurd (hcall (by intro h; cases h) (by intro h; cases h)) (by rintro ⟨_, _, _, h⟩; cases h)
    · cases hsys

/-- The whole of what holds between two steps. -/
structure Ok (c : Claims) : Prop where
  sys : c.sys.Ok
  counts : c.sys.inner.Counts c.claims
  closes : c.sys.Closes

theorem ok_of_reached (r : Reached cfg c) : c.Ok := by
  refine Reach.invariant (I := Ok) r ⟨Sys.ok_init cfg, ?_, Sys.closes_init cfg⟩
    fun {c a c'} h hs _ => ?_
  · obtain ⟨fc, fs, hb, -, -, -⟩ := Inner.begin_spec cfg
    change (Sys.init cfg).inner.Counts 0
    rw [Sys.inner_init, hb]
    constructor
    · rfl
    · intro k e hk
      cases hk
    · intro k e hk
      cases hk
  · obtain ⟨hsys, -, -⟩ := hs.sys
    exact ⟨h.sys.step hsys, counts_step h.sys h.counts hs, Sys.closes_step h.sys h.closes hsys⟩

/-- In a run of moves the active count is positive whenever a stream finishes. -/
theorem moves_positive {extra : Kind → Prop} {s s' : Inner} (r : Moves extra s s') (h : s.Wf) :
    Reach Move (fun t k => k = .finish → 0 < t.numActive) s s' := by
  induction r with
  | refl => exact .refl
  | @tail t₁ t₂ k r hm hc ih =>
      refine .tail ih hm ?_
      rintro rfl
      have hw : t₁.Wf := Moves.wf r h
      cases hm with
      | @finish sid e he _ hf =>
        have hle := Store.weight_le_total (w := activeOf) he
        have hone : activeOf sid e = 1 := by rw [activeOf, hf]; rfl
        have ha := hw.active
        omega

/-- **The counters of the stream store are exact.**  In every state the driver reaches: the
active count is the number of stored streams that have not finished, and is positive whenever
a stream finishes; a stream that has finished is closed; a stored stream that is closed has
finished, but for one at most, whose error reset is still to come or was refused; a finished
stream stays stored for its unread bytes or its framing charge; and the open slots are those of
the streams and those claimed. -/
theorem counters_exact (r : Reached cfg c) :
    c.sys.inner.numActive = c.sys.inner.streams.total activeOf ∧
      (∀ a c', Step c a c' → a ≠ .flush → Reach Move
        (fun s k => k = .finish → 0 < s.numActive) c.sys.inner c'.sys.inner) ∧
      (∀ {k e}, c.sys.inner.streams.lookup k = some e → e.finished = true →
        e.state.isClosed = true) ∧
      (∃ p : Option Nat, (∀ k e, c.sys.inner.streams.lookup k = some e →
        e.state.isClosed = true → e.finished = true ∨ p = some k) ∧
          ∀ k, p = some k → c.sys.AwaitsReset k) ∧
      (∀ {k e}, c.sys.inner.streams.lookup k = some e → e.finished = true →
        e.recvUnreleased ≠ 0 ∨ e.dataBudgetCharged ≠ 0) ∧
      c.sys.inner.numOpenStreams = c.sys.inner.streams.total slotOf + c.claims := by
  have h := ok_of_reached r
  refine ⟨h.sys.wf.active, fun a c' hs ha => ?_, h.sys.wf.finished, h.closes, h.counts.held,
    h.counts.slots⟩
  exact moves_positive (h.sys.step_moves hs.sys.1 ha) h.sys.wf

theorem reached_of_exec (cfg : Config) (as : List Sys.Action) (p : Claims → Bool)
    (h : (Runs.exec step (fun _ _ => true) (init cfg) as).any p = true) :
    ∃ c, Reached cfg c ∧ p c = true := by
  obtain ⟨c, r, hp⟩ := Reach.of_exec_any h
  exact ⟨c, r.mono fun _ _ _ => trivial, hp⟩

/-- Two requests are opened and a third slot is claimed; the first response is complete and one
byte of it unread. -/
def oneUnread : List Sys.Action := Sys.openGet ++ Sys.openGet ++ [
  .call .tryClaimSlot,
  .recv (.headers { streamId := 1, inRange := inRange_one, endStream := false, status := some 200 }),
  .recv (.data { streamId := 1, inRange := inRange_one, endStream := true, data := [7] })]

/-- One stream is active and holds a slot; the finished one is kept for its byte. -/
theorem counters_exact_unread : ∃ c, Reached clientConfig c ∧ c.claims = 1 ∧
    c.sys.inner.streams.total activeOf = 1 ∧ c.sys.inner.numActive = 1 ∧
      c.sys.inner.streams.total slotOf = 1 ∧ c.sys.inner.numOpenStreams = 2 ∧
      ∃ e, c.sys.inner.streams.lookup 1 = some e ∧ e.finished = true ∧
        e.state.isClosed = true ∧ (e.recvUnreleased ≠ 0 ∨ e.dataBudgetCharged ≠ 0) := by
  obtain ⟨c, r, hc⟩ := reached_of_exec clientConfig oneUnread
    (fun c => decide (c.claims = 1 ∧ c.sys.inner.streams.total activeOf = 1 ∧
      c.sys.inner.streams.total slotOf = 1) &&
        (c.sys.inner.streams.lookup 1).any fun e => e.finished) (by decide +kernel)
  simp only [Bool.and_eq_true, decide_eq_true_eq, Option.any_eq_true] at hc
  obtain ⟨⟨h₁, h₂, h₃⟩, e, he, hf⟩ := hc
  obtain ⟨ha, -, hcl, -, hh, hn⟩ := counters_exact r
  refine ⟨c, r, h₁, h₂, ha.trans h₂, h₃, ?_, e, he, hf, hcl he hf, hh he hf⟩
  rw [hn, h₃, h₁]

/-- A client that makes no error reset. -/
def noResets : Config := { Sys.clientConfig with maxLocalErrorResetStreams := some 0 }

/-- A response that declares five bytes and has none, and the error reset that is refused. -/
def resetRefused : List Sys.Action := Sys.openGet ++ [
  .recv (.headers {
    streamId := 1, inRange := inRange_one, endStream := true, status := some 200, contentLength := some 5 }),
  .pump]

/-- The stream is closed, has not finished, and no error reset is to come. -/
theorem closed_unfinished : ¬∀ (cfg : Config) (c : Claims), Reached cfg c → ∀ k e,
    c.sys.inner.streams.lookup k = some e → e.state.isClosed = true →
      e.finished = true ∨ ∃ reason, c.sys.pump = .resetting k reason := by
  intro h
  obtain ⟨c, r, hc⟩ := reached_of_exec noResets resetRefused
    (fun c => (c.sys.pump matches .closing _ _ _) &&
      (c.sys.inner.streams.lookup 1).any fun e => e.state.isClosed && !e.finished)
    (by decide +kernel)
  simp only [Bool.and_eq_true, Option.any_eq_true, Bool.not_eq_true'] at hc
  obtain ⟨hp, e, he, hcl, hf⟩ := hc
  rcases h noResets c r 1 e he hcl with hfin | ⟨reason, hr⟩
  · rw [hf] at hfin
    cases hfin
  · rw [hr] at hp
    cases hp

end Claims

end Httpunk.H2
