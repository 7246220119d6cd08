import Httpunk.Util.Rounds
import Httpunk.Support.Runs
import Httpunk.Support.Tasks

/-!
# Util — SingleFlight

The rounds and the connections of a `Singleton`, under its tasks.

* `Pool.Keeps`: what a task keeps as it goes on, `Pool.run_keeps` for each stage.
* `Singleton.Flight`: the invariant of the system, `Singleton.step_flight` keeps it.
* `Singleton.single_flight`: what holds in every state reached, and of every step from it.
-/

namespace Httpunk.Util

open Runs (Reach)

variable {E : Type}

namespace Pool

variable {p p' : Pool E} {i : Nat} {t t' : Stage E} {rnd : Nat}

/-- The connections entered. -/
def conns (p : Pool E) : List Nat := p.entered.map Prod.snd

/-- **A task goes on**: the pool stays sound, it stands where it may, no connection is lost, and a
round whose event is not set has a task that is bound to set it. -/
structure Keeps (p : Pool E) (i : Nat) (t : Stage E) (p' : Pool E) (t' : Stage E) : Prop where
  sound : p'.Sound
  fits : p'.Fits i t'
  grows : Grows i p p'
  places : ∀ c, p'.conns.count c + (p.state.conns.count c + t.held.count c + p.exits.count c) =
    p.conns.count c + (p'.state.conns.count c + t'.held.count c + p'.exits.count c)
  carries : ∀ (rnd : Nat) (r : Round E), p'.rounds[rnd]? = some r → r.ready = false →
    t'.carries = some rnd ∨
      t.carries ≠ some rnd ∧ ∃ r₀, p.rounds[rnd]? = some r₀ ∧ r₀.ready = false

/-- What the task carries, it goes on to carry. -/
theorem carries_of_imp (hrounds : p'.rounds = p.rounds)
    (hc : ∀ rnd, t.carries = some rnd → t'.carries = some rnd) (rnd : Nat) (r : Round E)
    (hr : p'.rounds[rnd]? = some r) (hready : r.ready = false) :
    t'.carries = some rnd ∨
      t.carries ≠ some rnd ∧ ∃ r₀, p.rounds[rnd]? = some r₀ ∧ r₀.ready = false := by
  by_cases h : t.carries = some rnd
  · exact .inl (hc rnd h)
  · exact .inr ⟨h, r, hrounds ▸ hr, hready⟩

/-- Only the task goes on. -/
theorem Keeps.quiet (h : p.Sound) (hfits : p.Fits i t') (hheld : t'.held = t.held)
    (hc : ∀ rnd, t.carries = some rnd → t'.carries = some rnd) : Keeps p i t p t' where
  sound := h
  fits := hfits
  grows := .refl i p
  places := fun c => by rw [hheld]
  carries := carries_of_imp rfl hc

/-- An exit starts. -/
theorem Keeps.exit {conn : Nat} (h : p.Sound) (hfits : (p.exit conn).Fits i t')
    (hheld : t.held = [conn]) (hheld' : t'.held = [])
    (hc : ∀ rnd, t.carries = some rnd → t'.carries = some rnd) :
    Keeps p i t (p.exit conn) t' where
  sound := ⟨h.driven, h.flight, h.decided, h.once, h.known, h.records, h.shared, h.origin, h.nodup,
    h.fresh⟩
  fits := hfits
  grows := ⟨fun _ _ hj => hj, fun _ hf => hf, fun _ hx => hx, Nat.le_refl _, fun _ hr => .inl hr⟩
  places := by
    intro c
    have hexits : (p.exits ++ [conn]).count c = p.exits.count c + [conn].count c :=
      List.count_append
    rw [hheld, hheld']
    change _ = p.conns.count c + (p.state.conns.count c + 0 + (p.exits ++ [conn]).count c)
    change p.conns.count c + _ = _
    omega
  carries := carries_of_imp rfl hc

/-- The event of a decided round is set. -/
theorem Keeps.set (h : p.Sound) (hd : ∃ f ∈ p.fates, f.rnd = rnd) (hfits : (p.set rnd).Fits i t')
    (hheld : t'.held = t.held) (hc : t.carries = some rnd) : Keeps p i t (p.set rnd) t' where
  sound := set_sound h hd
  fits := hfits
  grows := set_grows rnd
  places := fun c => by rw [hheld]; rfl
  carries := by
    intro r u hu hready
    obtain ⟨hne, hold⟩ := set_ready hu hready
    refine .inr ⟨fun hr => ?_, u, hold, hready⟩
    rw [hc] at hr
    exact hne (Option.some.inj hr).symm

theorem enter_keeps (h : p.Sound) (closed : Bool) :
    Keeps p i .entering (p.enter i closed).1 (p.enter i closed).2 := by
  have hnew : ∀ (u : Round E) (r : Nat), (p.begin i).rounds[r]? = some u → u.ready = false →
      some p.rounds.length = some r ∨
        (none : Option Nat) ≠ some r ∧ ∃ r₀, p.rounds[r]? = some r₀ ∧ r₀.ready = false := by
    intro u r hu hready
    have hlt : r < (p.begin i).rounds.length := (List.getElem?_eq_some_iff.mp hu).1
    rw [length_begin] at hlt
    rcases Nat.lt_succ_iff_lt_or_eq.mp hlt with hlt | rfl
    · refine .inr ⟨nofun, u, ?_, hready⟩
      exact (List.getElem?_append_left hlt).symm.trans hu
    · exact .inl rfl
  unfold enter
  split
  · next conn hs =>
    have hidle : ∀ r, p.state ≠ .making r := fun r hr => by rw [hs] at hr; cases hr
    split
    · exact .quiet h (h.shared conn hs) rfl fun _ hc => by cases hc
    · refine ⟨begin_sound h hidle i, begin_drives h i, begin_grows hidle, fun c => ?_,
        fun r u hu hready => hnew u r hu hready⟩
      rw [hs]
      change p.conns.count c + ([conn].count c + 0 + p.exits.count c) =
        p.conns.count c + (0 + [conn].count c + p.exits.count c)
      omega
  · next hs =>
    have hidle : ∀ r, p.state ≠ .making r := fun r hr => by rw [hs] at hr; cases hr
    refine ⟨begin_sound h hidle i, begin_drives h i, begin_grows hidle, fun c => ?_,
      fun r u hu hready => hnew u r hu hready⟩
    rw [hs]
    rfl
  · next rnd hs =>
    exact .quiet h (h.flight rnd hs).1 rfl fun _ hc => by cases hc

/-- The round in flight is decided, and the task that does so carries it on. -/
theorem Keeps.settle {f : Round E → Round E} {state : State} {fate : Fate E}
    (hsound : (p.settle rnd f state fate).Sound) (hgrows : Grows i p (p.settle rnd f state fate))
    (hfits : (p.settle rnd f state fate).Fits i t') (hs : p.state = .making rnd)
    (hheld : state.conns ++ t'.held = t.held) (hready : ∀ r : Round E, (f r).ready = r.ready)
    (hc : ∀ rnd, t.carries = some rnd → t'.carries = some rnd) :
    Keeps p i t (p.settle rnd f state fate) t' where
  sound := hsound
  fits := hfits
  grows := hgrows
  places := by
    intro c
    have hcount : t.held.count c = state.conns.count c + t'.held.count c := by
      rw [← hheld, List.count_append]
    rw [hs, hcount]
    change p.conns.count c + (0 + _ + p.exits.count c) =
      p.conns.count c + (state.conns.count c + t'.held.count c + p.exits.count c)
    rw [Nat.zero_add]
  carries := by
    intro r u hu hu'
    change (p.rounds.modify rnd f)[r]? = some u at hu
    rw [List.getElem?_modify] at hu
    obtain ⟨v, hv, rfl⟩ := Option.map_eq_some_iff.mp hu
    by_cases hr : t.carries = some r
    · exact .inl (hc r hr)
    · refine .inr ⟨hr, v, hv, ?_⟩
      rw [← hu']
      split
      · exact (hready v).symm
      · rfl

theorem handle_keeps (h : p.Sound) (hd : p.Drives i rnd) (exc : Exc E) :
    Keeps p i (.failing rnd exc) (p.handle rnd exc) (.failed rnd exc) := by
  unfold handle
  split
  · next hs =>
    have hnone : ∀ f : Fate E, f.rnd = rnd → f ∉ p.fates := fun f hf => undecided h hs hf
    have hidle : ∀ r, State.empty ≠ .making r := fun r hr => by cases hr
    have hconns : ∀ conn, State.empty ≠ .made conn := fun conn hc => by cases hc
    cases exc with
    | error e =>
      have hsound : (p.settle rnd (fun r => { r with error := some (freshExc e) }) .empty
          (.failed rnd e)).Sound := by
        refine settle_sound h hs rfl hidle (fun conn hc => absurd hc (hconns conn))
          (fun conn hc => by cases hc) fun r hr => ?_
        obtain ⟨hc, -, ha⟩ := hr.undecided hnone
        refine .settle hnone rfl (fun conn => ?_) (fun e' => ?_) ?_
        · simp only [hc, reduceCtorEq]
        · simp only [Option.some.injEq, Fate.failed.injEq, true_and]
          exact eq_comm
        · simp only [ha, Bool.false_eq_true, reduceCtorEq]
      have hmem : .failed rnd e ∈ p.fates ++ [.failed rnd e] :=
        List.mem_append_right _ (List.mem_singleton_self _)
      exact .settle hsound (settle_grows hs _ _ (.inl hd.1)) ⟨⟨_, hmem, rfl⟩, .inl hmem⟩ hs rfl
        (fun _ => rfl) fun _ hc => hc
    | cancelled =>
      have hsound : (p.settle rnd (fun r => { r with abandoned := true }) .empty
          (.abandoned rnd)).Sound := by
        refine settle_sound h hs rfl hidle (fun conn hc => absurd hc (hconns conn))
          (fun conn hc => by cases hc) fun r hr => ?_
        obtain ⟨hc, he, -⟩ := hr.undecided hnone
        refine .settle hnone rfl (fun conn => ?_) (fun e => ?_) ?_
        · simp only [hc, reduceCtorEq]
        · simp only [he, reduceCtorEq]
        · simp only
      have hmem : .abandoned rnd ∈ p.fates ++ [.abandoned rnd] :=
        List.mem_append_right _ (List.mem_singleton_self _)
      exact .settle hsound (settle_grows hs _ _ (.inl hd.1)) ⟨⟨_, hmem, rfl⟩, trivial⟩ hs rfl
        (fun _ => rfl) fun _ hc => hc
  · next hs =>
    have hdrop : .dropped rnd ∈ p.fates := hd.2.resolve_left hs
    refine .quiet h ⟨⟨_, hdrop, rfl⟩, ?_⟩ rfl fun _ hc => hc
    cases exc with
    | error e => exact .inr ⟨hdrop, hd.1⟩
    | cancelled => trivial

theorem install_keeps {conn : Nat} (h : p.Sound) (hd : p.Drives i rnd)
    (hmem : (rnd, conn) ∈ p.entered) :
    Keeps p i (.connected rnd conn) (p.install rnd conn).1 (p.install rnd conn).2 := by
  unfold install
  split
  · next hs =>
    have hnone : ∀ f : Fate E, f.rnd = rnd → f ∉ p.fates := fun f hf => undecided h hs hf
    have hsound : (p.settle rnd (fun r => { r with conn := some conn }) (.made conn)
        (.installed rnd conn)).Sound := by
      refine settle_sound h hs rfl (fun r hr => by cases hr)
        (fun c hc => by rw [State.made.inj hc]) (fun c hc => ?_) fun r hr => ?_
      · cases hc
        exact hmem
      · obtain ⟨-, he, ha⟩ := hr.undecided hnone
        refine .settle hnone rfl (fun c => ?_) (fun e => ?_) ?_
        · simp only [Option.some.injEq, Fate.installed.injEq, true_and]
          exact eq_comm
        · simp only [he, reduceCtorEq]
        · simp only [ha, Bool.false_eq_true, reduceCtorEq]
    exact .settle hsound (settle_grows hs _ _ (.inl hd.1))
      (List.mem_append_right _ (List.mem_singleton_self _)) hs rfl (fun _ => rfl) fun _ hc => hc
  · next hs => exact .quiet h ⟨hd.2.resolve_left hs, hmem⟩ rfl fun _ hc => hc

theorem connected_keeps (h : p.Sound) (hd : p.Drives i rnd) :
    Keeps p i (.connecting rnd) (p.connected rnd) (.connected rnd p.made) where
  sound :=
    { h with
      origin := fun r conn hf => List.mem_append_left _ (h.origin r conn hf)
      nodup := by
        change ((p.entered ++ [(rnd, p.made)]).map Prod.snd).Nodup
        rw [List.map_append, List.map_singleton]
        refine List.nodup_append.mpr ⟨h.nodup, List.nodup_singleton _, ?_⟩
        intro a ha b hb
        obtain ⟨x, hx, rfl⟩ := List.mem_map.mp ha
        rw [List.mem_singleton.mp hb]
        exact Nat.ne_of_lt (h.fresh x hx)
      fresh := by
        intro x hx
        rcases List.mem_append.mp hx with hx | hx
        · exact Nat.lt_succ_of_lt (h.fresh x hx)
        · rw [List.mem_singleton.mp hx]
          exact Nat.lt_succ_self _ }
  fits := ⟨hd, List.mem_append_right _ (List.mem_singleton_self _)⟩
  grows := ⟨fun _ _ hj => hj, fun _ hf => hf, fun _ hx => List.mem_append_left _ hx, Nat.le_refl _,
    fun _ hr => .inl hr⟩
  places := by
    intro c
    have hconns : (p.connected rnd).conns.count c = p.conns.count c + [p.made].count c := by
      change ((p.entered ++ [(rnd, p.made)]).map Prod.snd).count c = _
      rw [List.map_append, List.count_append]
      rfl
    rw [hconns]
    change p.conns.count c + [p.made].count c + (p.state.conns.count c + 0 + p.exits.count c) =
      p.conns.count c + (p.state.conns.count c + [p.made].count c + p.exits.count c)
    omega
  carries := carries_of_imp rfl fun _ hc => hc

/-- The connection that was shared is its task's to close. -/
theorem unshare_keeps {conn : Nat} (h : p.Sound) (hs : p.state = .made conn) (hheld : t.held = [])
    (hc : t.carries = none) :
    Keeps p i t { p with state := .empty } (.closing conn) where
  sound :=
    { h with
      flight := fun _ hr => by cases hr
      decided := fun r hlt => .inr ((h.decided r hlt).resolve_left fun hr => by rw [hs] at hr; cases hr)
      shared := fun _ hc => by cases hc }
  fits := trivial
  grows := ⟨fun _ _ hj => hj, fun _ hf => hf, fun _ hx => hx, Nat.le_refl _,
    fun _ hr => by rw [hs] at hr; cases hr⟩
  places := by
    intro c
    rw [hs, hheld]
    change p.conns.count c + ([conn].count c + 0 + p.exits.count c) =
      p.conns.count c + (0 + [conn].count c + p.exits.count c)
    omega
  carries := carries_of_imp rfl fun r hr => by rw [hc] at hr; cases hr

theorem drop_keeps (h : p.Sound) (conn : Nat) :
    Keeps p i (.dropping conn) (p.drop conn).1 (p.drop conn).2 := by
  unfold drop
  split
  · next hs => exact unshare_keeps h hs rfl rfl
  · exact .quiet h trivial rfl fun _ hc => by cases hc

theorem aclose_keeps (h : p.Sound) : Keeps p i .aclosing p.aclose.1 p.aclose.2 := by
  unfold aclose
  split
  · next rnd hs =>
    have hnone : ∀ f : Fate E, f.rnd = rnd → f ∉ p.fates := fun f hf => undecided h hs hf
    have heq : { p with state := .empty, fates := p.fates ++ [.dropped rnd] } =
        p.settle rnd id .empty (.dropped rnd) := by
      rw [settle, List.modify_id]
    have hsound : (p.settle rnd id .empty (.dropped rnd)).Sound := by
      refine settle_sound h hs rfl (fun r hr => by cases hr) (fun c hc => by cases hc)
        (fun c hc => by cases hc) fun r hr => ?_
      obtain ⟨hc, he, ha⟩ := hr.undecided hnone
      refine .settle hnone rfl (fun c => ?_) (fun e => ?_) ?_
      · simp only [id, hc, reduceCtorEq]
      · simp only [id, he, reduceCtorEq]
      · simp only [id, ha, Bool.false_eq_true, reduceCtorEq]
    dsimp only
    rw [heq]
    exact .settle hsound (settle_grows hs _ _ (.inr rfl))
      (List.mem_append_right _ (List.mem_singleton_self _)) hs rfl (fun _ => rfl)
      fun _ hc => by cases hc
  · next conn hs => exact unshare_keeps h hs rfl rfl
  · exact .quiet h trivial rfl fun _ hc => by cases hc

/-- A waiter has its own round's outcome, or starts again since the driver was cancelled. -/
def Told (p : Pool E) (rnd : Nat) : Stage E → Prop
  | .returned (some r) (.conn conn) => r = rnd ∧ .installed rnd conn ∈ p.fates
  | .returned (some r) (.raised (.error e)) => r = rnd ∧ .failed rnd e ∈ p.fates
  | .returned (some r) .canceled => r = rnd ∧ .dropped rnd ∈ p.fates
  | .entering => .abandoned rnd ∈ p.fates
  | _ => False

theorem Told.fits (h : p.Told rnd t) : p.Fits i t ∧ t.held = [] := by
  cases t with
  | entering => exact ⟨trivial, rfl⟩
  | returned ro o =>
    cases ro with
    | none => cases o <;> cases h
    | some r =>
      cases o with
      | conn conn => exact ⟨h.1 ▸ h.2, rfl⟩
      | raised exc =>
        cases exc with
        | error e => exact ⟨.inl (h.1 ▸ h.2), rfl⟩
        | cancelled => cases h
      | canceled => exact ⟨h.1 ▸ h.2, rfl⟩
  | _ => cases h

/-- **A waiter wakes** to what decided its round. -/
theorem wake_told (h : p.Sound) (hw : p.wake rnd = some t) : p.Told rnd t := by
  obtain ⟨r, hr, hw⟩ := Option.bind_eq_some_iff.mp hw
  have hrec := h.records rnd r hr
  split at hw
  · cases hw
  · next hready =>
    rw [Bool.not_eq_true', Bool.not_eq_false] at hready
    cases hw
    split
    · next conn hc => exact ⟨rfl, (hrec.conn conn).mp hc⟩
    · next e _ he => exact ⟨rfl, (hrec.error e).mp he⟩
    · next hc he =>
      split
      · next ha => exact hrec.abandoned.mp ha
      · next ha =>
        refine ⟨rfl, ?_⟩
        -- what decided the round would show, unless it was a drop
        obtain ⟨f, hf, hrnd⟩ := hrec.ready hready
        cases f with
        | installed r' conn =>
          cases hrnd
          rw [(hrec.conn conn).mpr hf] at hc
          cases hc
        | failed r' e =>
          cases hrnd
          rw [(hrec.error e).mpr hf] at he
          cases he
        | abandoned r' =>
          cases hrnd
          exact absurd (hrec.abandoned.mpr hf) ha
        | dropped r' =>
          cases hrnd
          exact hf

/-- **A task goes on**, from where it may stand. -/
theorem run_keeps {x : Input E} (h : p.Sound) (ht : p.Fits i t) (hr : p.run i t x = some (p', t')) :
    Keeps p i t p' t' := by
  unfold run at hr
  split at hr
  case h_1 closed =>
    obtain ⟨rfl, rfl⟩ := Prod.ext_iff.mp (Option.some.inj hr)
    exact enter_keeps h closed
  case h_2 rnd _ =>
    obtain ⟨u, hu, heq⟩ := Option.map_eq_some_iff.mp hr
    cases heq
    obtain ⟨hfits, hheld⟩ := (wake_told h hu).fits (i := i)
    exact .quiet h hfits hheld fun _ hc => by cases hc
  case h_3 rnd =>
    cases hr
    exact .quiet h trivial rfl fun _ hc => by cases hc
  case h_4 rnd stale _ =>
    cases hr
    exact .exit h ht rfl rfl fun _ hc => hc
  case h_5 rnd =>
    cases hr
    exact .quiet h ht rfl fun _ hc => hc
  case h_6 rnd _ =>
    cases hr
    exact .quiet h ht rfl fun _ hc => hc
  case h_7 rnd =>
    cases hr
    exact .quiet h ht rfl fun _ hc => hc
  case h_8 rnd =>
    cases hr
    exact connected_keeps h ht
  case h_9 rnd exc =>
    cases hr
    exact .quiet h ht rfl fun _ hc => hc
  case h_10 rnd exc _ =>
    cases hr
    exact handle_keeps h ht exc
  case h_11 rnd exc _ =>
    cases hr
    exact .set h ht.1 ht.2 rfl rfl
  case h_12 rnd conn _ =>
    obtain ⟨rfl, rfl⟩ := Prod.ext_iff.mp (Option.some.inj hr)
    exact install_keeps h ht.1 ht.2
  case h_13 rnd conn _ =>
    cases hr
    exact .set h ⟨_, ht, rfl⟩ ht rfl rfl
  case h_14 rnd conn _ =>
    cases hr
    exact .set h ⟨_, ht.1, rfl⟩ ht.1 rfl rfl
  case h_15 rnd conn _ =>
    cases hr
    exact .exit h ht rfl rfl fun _ hc => by cases hc
  case h_16 rnd =>
    cases hr
    exact .quiet h ht rfl fun _ hc => hc
  case h_17 rnd _ =>
    cases hr
    exact .quiet h ht rfl fun _ hc => hc
  case h_18 rnd =>
    cases hr
    exact .quiet h trivial rfl fun _ hc => hc
  case h_19 _ =>
    split at hr
    · cases hr
      exact .quiet h trivial rfl fun _ hc => hc
    · cases hr
      exact .quiet h trivial rfl fun _ hc => hc
  case h_20 conn keep =>
    cases hr
    cases keep with
    | true => exact .quiet h trivial rfl fun _ hc => hc
    | false => exact .quiet h trivial rfl fun _ hc => hc
  case h_21 conn exc =>
    cases hr
    exact .quiet h trivial rfl fun _ hc => hc
  case h_22 conn _ =>
    obtain ⟨rfl, rfl⟩ := Prod.ext_iff.mp (Option.some.inj hr)
    exact drop_keeps h conn
  case h_23 _ =>
    obtain ⟨rfl, rfl⟩ := Prod.ext_iff.mp (Option.some.inj hr)
    exact aclose_keeps h
  case h_24 rnd _ =>
    cases hr
    exact .set h ⟨_, ht, rfl⟩ trivial rfl rfl
  case h_25 conn _ =>
    cases hr
    exact .exit h trivial rfl rfl fun _ hc => by cases hc
  case h_26 =>
    cases hr
    exact .quiet h trivial rfl fun _ hc => hc
  case h_27 _ =>
    cases hr
    exact .quiet h trivial rfl fun _ hc => hc
  case h_28 => cases hr

end Pool

namespace Stage

/-- A task waits for something, has not begun, or has ended. -/
def rests : Stage E → Bool
  | .entering | .waiting _ | .evicted _ | .connecting _ | .refused _ | .returned _ _ => true
  | .retaining | .aclosing | .awaiting | .ended => true
  | _ => false

theorem held_of_rests {t : Stage E} (h : t.rests = true) : t.held = [] := by
  cases t <;> first | rfl | cases h

/-- A task that has a connection does not wait: it just goes on, and so is not cancelled there. -/
theorem goes_of_held {t : Stage E} {p : Pool E} {i : Nat} {x : Pool.Input E} (h : t.held ≠ []) :
    (p.run i t x).isSome = true ↔ ∃ answer, x = .go answer := by
  refine ⟨fun hx => ?_, fun hx => ?_⟩
  · cases x with
    | go answer => exact ⟨answer, rfl⟩
    | returns =>
      cases t with
      | settled rnd conn installed => cases installed <;> cases hx
      | _ => first | exact absurd rfl h | cases hx
    | raises exc =>
      cases t with
      | settled rnd conn installed => cases installed <;> cases hx
      | _ => first | exact absurd rfl h | cases hx
  · obtain ⟨answer, rfl⟩ := hx
    cases t with
    | settled rnd conn installed =>
      cases installed with
      | true => exact absurd rfl h
      | false => rfl
    | _ => first | rfl | exact absurd rfl h

end Stage

namespace Singleton

variable {s s' : Singleton E} {a : Action E} {i : Nat}

/-- The connections that tasks have, to install or to close. -/
def held (s : Singleton E) : List Nat := s.tasks.flatMap Stage.held

/-- The invariant: the pool is sound, each task stands where it may, a connection that was entered
is in one place, and a round whose event is not set has a task that is bound to set it. -/
structure Flight (s : Singleton E) : Prop where
  sound : s.pool.Sound
  fits : ∀ (i : Nat) (t : Stage E), s.tasks[i]? = some t → s.pool.Fits i t
  places : ∀ c, s.pool.conns.count c =
    s.pool.state.conns.count c + s.held.count c + s.pool.exits.count c
  carried : ∀ (rnd : Nat) (r : Round E), s.pool.rounds[rnd]? = some r → r.ready = false →
    ∃ t ∈ s.tasks, t.carries = some rnd

theorem flight_init : ({} : Singleton E).Flight where
  sound := Pool.sound_init
  fits := fun _ _ h => by cases h
  places := fun _ => rfl
  carried := fun _ _ h => by cases h

theorem spawn_flight {t : Stage E} (h : s.Flight) (hfits : ∀ i, s.pool.Fits i t) (hheld : t.held = []) :
    (s.spawn t).Flight where
  sound := h.sound
  fits := by
    intro i u hu
    change (s.tasks ++ [t])[i]? = some u at hu
    by_cases hi : i < s.tasks.length
    · rw [List.getElem?_append_left hi] at hu
      exact h.fits i u hu
    · rw [List.getElem?_append_right (Nat.le_of_not_lt hi)] at hu
      rw [List.mem_singleton.mp (List.mem_of_getElem? hu)]
      exact hfits i
  places := by
    intro c
    have hspawn : (s.spawn t).held.count c = s.held.count c + t.held.count c :=
      Tasks.count_spawn Stage.held t c
    rw [hspawn, hheld]
    exact h.places c
  carried := by
    intro rnd r hr hready
    obtain ⟨u, hu, hc⟩ := h.carried rnd r hr hready
    exact ⟨u, List.mem_append_left _ hu, hc⟩

/-- A task goes on, and the others stand as they did. -/
theorem keeps_flight {t t' : Stage E} {p' : Pool E} (h : s.Flight) (ht : s.tasks[i]? = some t)
    (hk : Pool.Keeps s.pool i t p' t') : Flight { pool := p', tasks := s.tasks.set i t' } where
  sound := hk.sound
  fits := by
    intro j u hu
    have hi : i < s.tasks.length := (List.getElem?_eq_some_iff.mp ht).1
    change (s.tasks.set i t')[j]? = some u at hu
    by_cases hij : i = j
    · subst hij
      rw [List.getElem?_set_self hi] at hu
      cases hu
      exact hk.fits
    · rw [List.getElem?_set_ne hij] at hu
      exact hk.grows.fits hij (h.fits j u hu)
  places := by
    intro c
    have hset := Tasks.count_set Stage.held ht t' c
    have hold := h.places c
    have hmove := hk.places c
    change p'.conns.count c =
      p'.state.conns.count c + ((s.tasks.set i t').flatMap Stage.held).count c + p'.exits.count c
    unfold held at hold
    omega
  carried := by
    intro rnd r hr hready
    have hi : i < s.tasks.length := (List.getElem?_eq_some_iff.mp ht).1
    rcases hk.carries rnd r hr hready with hc | ⟨hne, r₀, hr₀, hready₀⟩
    · exact ⟨t', List.mem_set hi t', hc⟩
    · obtain ⟨u, hu, hc⟩ := h.carried rnd r₀ hr₀ hready₀
      obtain ⟨j, hj⟩ := List.mem_iff_getElem?.mp hu
      have hij : i ≠ j := by
        rintro rfl
        rw [ht] at hj
        cases hj
        exact hne hc
      exact ⟨u, List.mem_iff_getElem?.mpr ⟨j, by rw [List.getElem?_set_ne hij, hj]⟩, hc⟩

theorem step_flight (h : s.Flight) (hs : Step s a s') : s'.Flight := by
  unfold Step step at hs
  cases a with
  | get =>
    cases hs
    exact spawn_flight h (fun _ => trivial) rfl
  | retain =>
    cases hs
    exact spawn_flight h (fun _ => trivial) rfl
  | aclose =>
    cases hs
    exact spawn_flight h (fun _ => trivial) rfl
  | task i x =>
    obtain ⟨t, ht, hs⟩ := Option.bind_eq_some_iff.mp hs
    obtain ⟨r, hr, rfl⟩ := Option.map_eq_some_iff.mp hs
    exact keeps_flight h ht (Pool.run_keeps h.sound (h.fits i t ht) hr)

/-- The states of a pool and its tasks. -/
abbrev Reached (s : Singleton E) : Prop := Reach Step Runs.Any {} s

theorem flight (r : Reached s) : s.Flight :=
  r.invariant flight_init fun h hs _ => step_flight h hs

/-- A waiter waits on, or is cancelled, or wakes. -/
theorem waiter_step {rnd : Nat} (h : s.Flight) (hs : Step s a s')
    (ht : s.tasks[i]? = some (.waiting rnd)) :
    s'.tasks[i]? = some (.waiting rnd) ∨
      a = .task i (.raises .cancelled) ∧
        s'.tasks[i]? = some (.returned (some rnd) (.raised .cancelled)) ∨
      ∃ t, s'.tasks[i]? = some t ∧ s.pool.Told rnd t := by
  have hi : i < s.tasks.length := (List.getElem?_eq_some_iff.mp ht).1
  have hspawn : ∀ t : Stage E, (s.spawn t).tasks[i]? = some (.waiting rnd) :=
    fun t => (List.getElem?_append_left hi).trans ht
  unfold Step step at hs
  cases a with
  | get =>
    cases hs
    exact .inl (hspawn _)
  | retain =>
    cases hs
    exact .inl (hspawn _)
  | aclose =>
    cases hs
    exact .inl (hspawn _)
  | task j x =>
    obtain ⟨t, htj, hs⟩ := Option.bind_eq_some_iff.mp hs
    obtain ⟨r, hr, rfl⟩ := Option.map_eq_some_iff.mp hs
    by_cases hij : j = i
    · subst hij
      rw [ht] at htj
      cases htj
      have hset : ∀ t : Stage E, (s.tasks.set j t)[j]? = some t := fun t => List.getElem?_set_self hi
      cases x with
      | go answer =>
        obtain ⟨u, hu, rfl⟩ := Option.map_eq_some_iff.mp hr
        exact .inr (.inr ⟨u, hset u, Pool.wake_told h.sound hu⟩)
      | returns => cases hr
      | raises exc =>
        cases exc with
        | error e => cases hr
        | cancelled =>
          cases hr
          exact .inr (.inl ⟨rfl, hset _⟩)
    · exact .inl ((List.getElem?_set_ne hij).trans ht)

/-- A waiter can wake, or a task is bound to set its event. -/
theorem waiter_progress {rnd : Nat} (h : s.Flight) (ht : s.tasks[i]? = some (.waiting rnd)) :
    (∃ t, s.pool.wake rnd = some t) ∨ ∃ t ∈ s.tasks, t.carries = some rnd := by
  have hlt : rnd < s.pool.rounds.length := h.fits i _ ht
  have hr : s.pool.rounds[rnd]? = some s.pool.rounds[rnd] := List.getElem?_eq_getElem hlt
  cases hready : s.pool.rounds[rnd].ready with
  | false => exact .inr (h.carried rnd _ hr hready)
  | true =>
    refine .inl ?_
    unfold Pool.wake
    rw [hr]
    dsimp only [Option.bind_some]
    rw [hready]
    exact ⟨_, rfl⟩

/-- A round has one driver. -/
theorem driver_unique (h : s.Flight) {rnd : Nat} (hlt : rnd < s.pool.rounds.length) :
    ∃ i, s.pool.drivers[rnd]? = some i ∧
      ∀ (j : Nat) (t : Stage E), s.tasks[j]? = some t → t.drives = some rnd → j = i := by
  have hlt' : rnd < s.pool.drivers.length := h.sound.driven ▸ hlt
  refine ⟨s.pool.drivers[rnd], List.getElem?_eq_getElem hlt', fun j t ht hd => ?_⟩
  have hdrives : s.pool.Drives j rnd := by
    have hfits := h.fits j t ht
    cases t with
    | evicting r stale => cases hd; exact hfits
    | evicted r => cases hd; exact hfits
    | connecting r => cases hd; exact hfits
    | failing r exc => cases hd; exact hfits
    | connected r conn => cases hd; exact hfits.1
    | _ => cases hd
  have hj := hdrives.1
  rw [List.getElem?_eq_getElem hlt'] at hj
  exact (Option.some.inj hj).symm

/-- A dropped round was not installed, and the connection that its driver made is not shared and was
returned to no caller. -/
theorem dropped_never {rnd : Nat} (h : s.Flight) (hd : .dropped rnd ∈ s.pool.fates) (conn : Nat) :
    .installed rnd conn ∉ s.pool.fates ∧
      ((rnd, conn) ∈ s.pool.entered → s.pool.state ≠ .made conn ∧
        ∀ ro, .returned ro (.conn conn) ∉ s.tasks) := by
  have hnot : ∀ c, .installed rnd c ∉ s.pool.fates := by
    intro c hc
    have heq := List.inj_on_of_nodup_map h.sound.once hd hc rfl
    cases heq
  -- a connection has one round, which was not this one if it was installed
  have hother : (rnd, conn) ∈ s.pool.entered → ∀ r, .installed r conn ∉ s.pool.fates := by
    intro hmem r hr
    have heq := List.inj_on_of_nodup_map h.sound.nodup hmem (h.sound.origin r conn hr) rfl
    cases heq
    exact hnot conn hr
  refine ⟨hnot conn, fun hmem => ⟨fun hs => ?_, fun ro ht => ?_⟩⟩
  · obtain ⟨r, hr⟩ := h.sound.shared conn hs
    exact hother hmem r hr
  · obtain ⟨i, hi⟩ := List.mem_iff_getElem?.mp ht
    have hends : s.pool.Ends i ro (.conn conn) := h.fits i _ hi
    cases ro with
    | none =>
      obtain ⟨r, hr⟩ := hends
      exact hother hmem r hr
    | some r => exact hother hmem r hends

/-- **Single flight**, in every state reached.  A round has one driver, and is decided at most once;
a waiter has what decided its round, or starts again where the driver was cancelled, and while it
waits it can wake or a task is bound to set the event; a round that was dropped installs nothing and
its connection is returned to no caller; and a connection that was entered, was so once and is the
shared one, or has its exit started, once, or is with a task on its way to the one or the other,
which it goes without a wait. -/
theorem single_flight (s : Singleton E) (r : Reached s) :
    (∀ rnd < s.pool.rounds.length, ∃ i, s.pool.drivers[rnd]? = some i ∧
      ∀ (j : Nat) (t : Stage E), s.tasks[j]? = some t → t.drives = some rnd → j = i) ∧
    (s.pool.fates.map Fate.rnd).Nodup ∧
    (∀ (a : Action E) (s' : Singleton E) (i rnd : Nat), Step s a s' →
      s.tasks[i]? = some (.waiting rnd) → s'.tasks[i]? = some (.waiting rnd) ∨
        a = .task i (.raises .cancelled) ∧
          s'.tasks[i]? = some (.returned (some rnd) (.raised .cancelled)) ∨
        ∃ t, s'.tasks[i]? = some t ∧ s.pool.Told rnd t) ∧
    (∀ i rnd : Nat, s.tasks[i]? = some (.waiting rnd) →
      (∃ t, s.pool.wake rnd = some t) ∨ ∃ t ∈ s.tasks, t.carries = some rnd) ∧
    (∀ rnd conn : Nat, .dropped rnd ∈ s.pool.fates → .installed rnd conn ∉ s.pool.fates ∧
      ((rnd, conn) ∈ s.pool.entered → s.pool.state ≠ .made conn ∧
        ∀ ro, .returned ro (.conn conn) ∉ s.tasks)) ∧
    s.pool.conns.Nodup ∧
    s.pool.conns.Perm (s.pool.state.conns ++ s.held ++ s.pool.exits) ∧
    ((∀ t ∈ s.tasks, t.rests = true) → s.pool.conns.Perm (s.pool.state.conns ++ s.pool.exits)) ∧
    ∀ t ∈ s.tasks, t.held ≠ [] → ∀ (i : Nat) (x : Pool.Input E),
      (s.pool.run i t x).isSome = true ↔ ∃ answer, x = .go answer := by
  have h := flight r
  have hperm : s.pool.conns.Perm (s.pool.state.conns ++ s.held ++ s.pool.exits) := by
    refine List.perm_iff_count.mpr fun c => ?_
    rw [List.count_append, List.count_append]
    exact h.places c
  refine ⟨fun rnd hlt => driver_unique h hlt, h.sound.once,
    fun a s' i rnd hs ht => waiter_step h hs ht, fun i rnd ht => waiter_progress h ht,
    fun rnd conn hd => dropped_never h hd conn, h.sound.nodup, hperm, fun hrest => ?_,
    fun t _ hheld i x => Stage.goes_of_held hheld⟩
  have hnone : s.held = [] :=
    List.flatMap_eq_nil_iff.mpr fun t ht => Stage.held_of_rests (hrest t ht)
  rw [hnone, List.append_nil] at hperm
  exact hperm

/-- Two callers share a round, which `aclose` drops while its driver connects. -/
def droppedRound : List (Action Unit) := [
  .get, .get, .aclose, .task 0 (.go false), .task 1 (.go false), .task 2 (.go false),
  .task 2 (.go false), .task 1 (.go false), .task 0 .returns, .task 0 (.go false),
  .task 0 (.go false), .task 0 (.go false), .task 0 .returns]

theorem single_flight_dropped : ∃ s : Singleton Unit, Reached s ∧
    s.tasks = [.returned (some 0) .canceled, .returned (some 0) .canceled, .ended] ∧
      s.pool.exits = [0] ∧ s.pool.conns.Perm (s.pool.state.conns ++ s.held ++ s.pool.exits) := by
  have hr : (Runs.exec step (fun _ _ => true) {} droppedRound).any (fun s =>
      s.tasks == [.returned (some 0) .canceled, .returned (some 0) .canceled, .ended] &&
        s.pool.exits == [0]) := by decide
  obtain ⟨s, r, hs⟩ := Reach.of_exec_any hr
  simp only [Bool.and_eq_true, beq_iff_eq] at hs
  have r' : Reached s := r.mono fun _ _ _ => trivial
  exact ⟨s, r', hs.1, hs.2, (single_flight s r').2.2.2.2.2.2.1⟩

end Singleton

end Httpunk.Util
