import Httpunk.Util.Singleton
import Mathlib.Data.List.Nodup

/-!
# Util — Rounds

The rounds of a `Singleton`.

* `Pool.Sound`: a round is in flight or decided, once, and shows what decided it.
* `Pool.Fits`: what the stage of a task says of its round.
* `Pool.Grows`: what the other tasks see of a step, `Grows.fits`: they stand as they did.
* `Pool.begin_sound`, `Pool.set_sound`, `Pool.settle_sound`: the sections that change a round.
-/

namespace Httpunk.Util

variable {E : Type}

namespace Stage

/-- The round that a task drives, until it is decided. -/
def drives : Stage E → Option Nat
  | .evicting rnd _ => some rnd
  | .evicted rnd => some rnd
  | .connecting rnd => some rnd
  | .failing rnd _ => some rnd
  | .connected rnd _ => some rnd
  | _ => none

/-- The round whose event a task is bound to set. -/
def carries : Stage E → Option Nat
  | .failed rnd _ => some rnd
  | .settled rnd _ _ => some rnd
  | .telling rnd => some rnd
  | t => t.drives

/-- The connection that a task has, to install or to close. -/
def held : Stage E → List Nat
  | .evicting _ stale => [stale]
  | .connected _ conn => [conn]
  | .settled _ conn false => [conn]
  | .refusing _ conn => [conn]
  | .closing conn => [conn]
  | _ => []

end Stage

/-- The connection that is shared. -/
def State.conns : State → List Nat
  | .made conn => [conn]
  | _ => []

/-! ### Rounds -/

/-- A round shows what decided it, and its event is set only after that. -/
structure Round.Records (r : Round E) (fates : List (Fate E)) (rnd : Nat) : Prop where
  conn : ∀ conn, r.conn = some conn ↔ .installed rnd conn ∈ fates
  error : ∀ e, r.error = some e ↔ .failed rnd e ∈ fates
  abandoned : r.abandoned = true ↔ .abandoned rnd ∈ fates
  ready : r.ready = true → ∃ f ∈ fates, f.rnd = rnd

namespace Round

variable {r u : Round E} {fates : List (Fate E)} {rnd : Nat} {fate : Fate E}

/-- A round that is not decided shows nothing. -/
theorem Records.undecided (h : r.Records fates rnd) (hnone : ∀ f : Fate E, f.rnd = rnd → f ∉ fates) :
    r.conn = none ∧ r.error = none ∧ r.abandoned = false := by
  refine ⟨?_, ?_, ?_⟩
  · rw [Option.eq_none_iff_forall_ne_some]
    exact fun conn hc => hnone (.installed rnd conn) rfl ((h.conn conn).mp hc)
  · rw [Option.eq_none_iff_forall_ne_some]
    exact fun e he => hnone (.failed rnd e) rfl ((h.error e).mp he)
  · rw [Bool.eq_false_iff]
    exact fun ha => hnone (.abandoned rnd) rfl (h.abandoned.mp ha)

/-- A round that is decided now shows that, and nothing else. -/
theorem Records.settle (hnone : ∀ f : Fate E, f.rnd = rnd → f ∉ fates) (hrnd : fate.rnd = rnd)
    (hconn : ∀ conn, u.conn = some conn ↔ .installed rnd conn = fate)
    (herror : ∀ e, u.error = some e ↔ .failed rnd e = fate)
    (habandoned : u.abandoned = true ↔ .abandoned rnd = fate) : u.Records (fates ++ [fate]) rnd := by
  have hmem : ∀ f : Fate E, f.rnd = rnd → (f ∈ fates ++ [fate] ↔ f = fate) := by
    intro f hf
    rw [List.mem_append, List.mem_singleton]
    exact or_iff_right (hnone f hf)
  refine ⟨fun conn => (hconn conn).trans (hmem _ rfl).symm,
    fun e => (herror e).trans (hmem _ rfl).symm, habandoned.trans (hmem _ rfl).symm, fun _ => ?_⟩
  exact ⟨fate, List.mem_append_right _ (List.mem_singleton_self _), hrnd⟩

end Round

namespace Pool

/-- A task drives a round in flight, or one that was dropped. -/
def Drives (p : Pool E) (i rnd : Nat) : Prop :=
  p.drivers[rnd]? = some i ∧ (p.state = .making rnd ∨ .dropped rnd ∈ p.fates)

/-- How `get` may end, for task `i` and for a round. -/
def Ends (p : Pool E) (i : Nat) : Option Nat → Outcome E → Prop
  | none, .conn conn => ∃ rnd, .installed rnd conn ∈ p.fates
  | none, _ => False
  | some rnd, .conn conn => .installed rnd conn ∈ p.fates
  | some rnd, .raised (.error e) =>
    .failed rnd e ∈ p.fates ∨ .dropped rnd ∈ p.fates ∧ p.drivers[rnd]? = some i
  | some _, .raised .cancelled => True
  | some rnd, .canceled => .dropped rnd ∈ p.fates

/-- What the stage of task `i` says. -/
def Fits (p : Pool E) (i : Nat) : Stage E → Prop
  | .waiting rnd => rnd < p.rounds.length
  | .evicting rnd _ => p.Drives i rnd
  | .evicted rnd => p.Drives i rnd
  | .connecting rnd => p.Drives i rnd
  | .failing rnd _ => p.Drives i rnd
  | .connected rnd conn => p.Drives i rnd ∧ (rnd, conn) ∈ p.entered
  | .failed rnd exc =>
    (∃ f ∈ p.fates, f.rnd = rnd) ∧ p.Ends i (some rnd) (.raised exc)
  | .settled rnd conn true => .installed rnd conn ∈ p.fates
  | .settled rnd conn false => .dropped rnd ∈ p.fates ∧ (rnd, conn) ∈ p.entered
  | .refusing rnd _ => .dropped rnd ∈ p.fates
  | .refused rnd => .dropped rnd ∈ p.fates
  | .returned rnd outcome => p.Ends i rnd outcome
  | .telling rnd => .dropped rnd ∈ p.fates
  | _ => True

/-- A round is in flight or decided, once. -/
structure Sound (p : Pool E) : Prop where
  driven : p.drivers.length = p.rounds.length
  flight : ∀ rnd, p.state = .making rnd → rnd < p.rounds.length ∧ ∀ f ∈ p.fates, f.rnd ≠ rnd
  decided : ∀ rnd < p.rounds.length, p.state = .making rnd ∨ ∃ f ∈ p.fates, f.rnd = rnd
  once : (p.fates.map Fate.rnd).Nodup
  known : ∀ f ∈ p.fates, f.rnd < p.rounds.length
  records : ∀ (rnd : Nat) (r : Round E), p.rounds[rnd]? = some r → r.Records p.fates rnd
  shared : ∀ conn, p.state = .made conn → ∃ rnd, .installed rnd conn ∈ p.fates
  origin : ∀ rnd conn, .installed rnd conn ∈ p.fates → (rnd, conn) ∈ p.entered
  nodup : (p.entered.map Prod.snd).Nodup
  fresh : ∀ x ∈ p.entered, x.2 < p.made

/-- What a step of task `i` may make of the pool, as the other tasks see it. -/
structure Grows (i : Nat) (p p' : Pool E) : Prop where
  drivers : ∀ rnd j : Nat, p.drivers[rnd]? = some j → p'.drivers[rnd]? = some j
  fates : p.fates ⊆ p'.fates
  entered : p.entered ⊆ p'.entered
  rounds : p.rounds.length ≤ p'.rounds.length
  flight : ∀ rnd, p.state = .making rnd →
    p'.state = .making rnd ∨ .dropped rnd ∈ p'.fates ∨ p.drivers[rnd]? = some i

variable {p p' : Pool E} {i j : Nat} {t t' : Stage E}

theorem sound_init : ({} : Pool E).Sound where
  driven := rfl
  flight := fun _ h => by cases h
  decided := fun _ h => absurd h (Nat.not_lt_zero _)
  once := .nil
  known := fun _ h => by cases h
  records := fun _ _ h => by cases h
  shared := fun _ h => by cases h
  origin := fun _ _ h => by cases h
  nodup := .nil
  fresh := fun _ h => by cases h

theorem Grows.refl (i : Nat) (p : Pool E) : Grows i p p where
  drivers := fun _ _ h => h
  fates := fun _ h => h
  entered := fun _ h => h
  rounds := Nat.le_refl _
  flight := fun _ h => .inl h

theorem Grows.drives (g : Grows i p p') (hij : i ≠ j) {rnd : Nat} (h : p.Drives j rnd) :
    p'.Drives j rnd := by
  refine ⟨g.drivers rnd j h.1, ?_⟩
  rcases h.2 with hs | hd
  · rcases g.flight rnd hs with hs' | hd | hi
    · exact .inl hs'
    · exact .inr hd
    · rw [h.1] at hi
      exact absurd (Option.some.inj hi).symm hij
  · exact .inr (g.fates hd)

theorem Grows.ends (g : Grows i p p') {rnd : Option Nat} {o : Outcome E} (h : p.Ends j rnd o) :
    p'.Ends j rnd o := by
  cases rnd with
  | none =>
    cases o with
    | conn conn => exact h.imp fun _ h => g.fates h
    | raised exc => exact h
    | canceled => exact h
  | some rnd =>
    cases o with
    | conn conn => exact g.fates h
    | raised exc =>
      cases exc with
      | error e => exact h.imp (fun h => g.fates h) fun h => ⟨g.fates h.1, g.drivers rnd j h.2⟩
      | cancelled => exact h
    | canceled => exact g.fates h

/-- The other tasks stand as they did. -/
theorem Grows.fits (g : Grows i p p') (hij : i ≠ j) (h : p.Fits j t) : p'.Fits j t := by
  cases t with
  | waiting rnd => exact Nat.lt_of_lt_of_le h g.rounds
  | evicting rnd stale => exact g.drives hij h
  | evicted rnd => exact g.drives hij h
  | connecting rnd => exact g.drives hij h
  | failing rnd exc => exact g.drives hij h
  | connected rnd conn => exact ⟨g.drives hij h.1, g.entered h.2⟩
  | failed rnd exc => exact ⟨h.1.imp fun _ h => ⟨g.fates h.1, h.2⟩, g.ends h.2⟩
  | settled rnd conn installed =>
    cases installed with
    | true => exact g.fates h
    | false => exact ⟨g.fates h.1, g.entered h.2⟩
  | refusing rnd conn => exact g.fates h
  | refused rnd => exact g.fates h
  | returned rnd o => exact g.ends h
  | telling rnd => exact g.fates h
  | _ => trivial

/-! ### The sections -/

theorem undecided (h : p.Sound) {rnd : Nat} (hs : p.state = .making rnd) {f : Fate E}
    (hf : f.rnd = rnd) : f ∉ p.fates :=
  fun hmem => (h.flight rnd hs).2 f hmem hf

theorem length_begin (p : Pool E) (i : Nat) :
    (p.begin i).rounds.length = p.rounds.length + 1 :=
  List.length_append

theorem begin_sound (h : p.Sound) (hs : ∀ rnd, p.state ≠ .making rnd) (i : Nat) :
    (p.begin i).Sound where
  driven := by
    change (p.drivers ++ [i]).length = (p.begin i).rounds.length
    rw [length_begin, List.length_append, h.driven, List.length_singleton]
  flight := by
    intro rnd hrnd
    cases hrnd
    refine ⟨?_, fun f hf => Nat.ne_of_lt (h.known f hf)⟩
    rw [length_begin]
    exact Nat.lt_succ_self _
  decided := by
    intro rnd hlt
    rw [length_begin] at hlt
    rcases Nat.lt_succ_iff_lt_or_eq.mp hlt with hlt | rfl
    · exact .inr ((h.decided rnd hlt).resolve_left (hs rnd))
    · exact .inl rfl
  once := h.once
  known := by
    intro f hf
    rw [length_begin]
    exact Nat.lt_succ_of_lt (h.known f hf)
  records := by
    intro rnd r hr
    change (p.rounds ++ [({} : Round E)])[rnd]? = some r at hr
    rcases Nat.lt_trichotomy rnd p.rounds.length with hlt | rfl | hgt
    · rw [List.getElem?_append_left hlt] at hr
      exact h.records rnd r hr
    · have hnone : ∀ f ∈ p.fates, f.rnd ≠ p.rounds.length :=
        fun f hf => Nat.ne_of_lt (h.known f hf)
      rw [List.getElem?_concat_length] at hr
      cases hr
      exact ⟨fun _ => ⟨fun hc => (by cases hc), fun hf => absurd rfl (hnone _ hf)⟩,
        fun _ => ⟨fun hc => (by cases hc), fun hf => absurd rfl (hnone _ hf)⟩,
        ⟨fun hc => (by cases hc), fun hf => absurd rfl (hnone _ hf)⟩, fun hc => by cases hc⟩
    · have hlen : (p.rounds ++ [({} : Round E)]).length ≤ rnd := by
        rw [List.length_append]
        exact hgt
      rw [List.getElem?_eq_none hlen] at hr
      cases hr
  shared := fun _ hc => by cases hc
  origin := h.origin
  nodup := h.nodup
  fresh := h.fresh

theorem begin_grows (hs : ∀ rnd, p.state ≠ .making rnd) : Grows i p (p.begin i) where
  drivers := by
    intro rnd j hj
    have hlt : rnd < p.drivers.length := (List.getElem?_eq_some_iff.mp hj).1
    exact (List.getElem?_append_left hlt).trans hj
  fates := fun _ hf => hf
  entered := fun _ hx => hx
  rounds := by
    rw [length_begin]
    exact Nat.le_succ _
  flight := fun rnd hrnd => absurd hrnd (hs rnd)

/-- The new round is its driver's. -/
theorem begin_drives (h : p.Sound) (i : Nat) : (p.begin i).Drives i p.rounds.length := by
  refine ⟨?_, .inl rfl⟩
  change (p.drivers ++ [i])[p.rounds.length]? = some i
  rw [← h.driven]
  exact List.getElem?_concat_length

theorem set_sound (h : p.Sound) {rnd : Nat} (hd : ∃ f ∈ p.fates, f.rnd = rnd) :
    (p.set rnd).Sound where
  driven := h.driven.trans (List.length_modify _ _ _).symm
  flight := fun r hr => ⟨by
    change r < (p.rounds.modify rnd _).length
    rw [List.length_modify]
    exact (h.flight r hr).1, (h.flight r hr).2⟩
  decided := by
    intro r hlt
    change r < (p.rounds.modify rnd _).length at hlt
    rw [List.length_modify] at hlt
    exact h.decided r hlt
  once := h.once
  known := by
    intro f hf
    change f.rnd < (p.rounds.modify rnd _).length
    rw [List.length_modify]
    exact h.known f hf
  records := by
    intro r u hu
    change (p.rounds.modify rnd _)[r]? = some u at hu
    rw [List.getElem?_modify] at hu
    obtain ⟨v, hv, rfl⟩ := Option.map_eq_some_iff.mp hu
    have hrec := h.records r v hv
    split
    · next heq => exact ⟨hrec.conn, hrec.error, hrec.abandoned, fun _ => heq ▸ hd⟩
    · exact hrec
  shared := h.shared
  origin := h.origin
  nodup := h.nodup
  fresh := h.fresh

theorem set_grows (rnd : Nat) : Grows i p (p.set rnd) where
  drivers := fun _ _ hj => hj
  fates := fun _ hf => hf
  entered := fun _ hx => hx
  rounds := Nat.le_of_eq (List.length_modify _ _ _).symm
  flight := fun _ hr => .inl hr

/-- The rounds that are not told yet, after one is. -/
theorem set_ready {rnd r : Nat} {u : Round E} (hu : (p.set rnd).rounds[r]? = some u)
    (hready : u.ready = false) : r ≠ rnd ∧ p.rounds[r]? = some u := by
  change (p.rounds.modify rnd _)[r]? = some u at hu
  rw [List.getElem?_modify] at hu
  obtain ⟨v, hv, rfl⟩ := Option.map_eq_some_iff.mp hu
  by_cases heq : rnd = r
  · rw [if_pos heq] at hready
    cases hready
  · rw [if_neg heq]
    exact ⟨fun he => heq he.symm, hv⟩

/-- The round in flight is decided, by its driver or by a drop. -/
theorem settle_sound (h : p.Sound) {rnd : Nat} (hs : p.state = .making rnd) {f : Round E → Round E}
    {state : State} {fate : Fate E} (hrnd : fate.rnd = rnd) (hidle : ∀ r, state ≠ .making r)
    (hshared : ∀ conn, state = .made conn → fate = .installed rnd conn)
    (horigin : ∀ conn, fate = .installed rnd conn → (rnd, conn) ∈ p.entered)
    (hf : ∀ r : Round E, r.Records p.fates rnd → (f r).Records (p.fates ++ [fate]) rnd) :
    (p.settle rnd f state fate).Sound where
  driven := h.driven.trans (List.length_modify _ _ _).symm
  flight := fun r hr => absurd hr (hidle r)
  decided := by
    intro r hlt
    change r < (p.rounds.modify rnd _).length at hlt
    rw [List.length_modify] at hlt
    refine .inr ?_
    rcases h.decided r hlt with hr | ⟨g, hg, hgr⟩
    · rw [hs] at hr
      cases hr
      exact ⟨fate, List.mem_append_right _ (List.mem_singleton_self _), hrnd⟩
    · exact ⟨g, List.mem_append_left _ hg, hgr⟩
  once := by
    change ((p.fates ++ [fate]).map Fate.rnd).Nodup
    rw [List.map_append, List.map_singleton, hrnd]
    refine List.nodup_append.mpr ⟨h.once, List.nodup_singleton _, ?_⟩
    intro a ha b hb
    obtain ⟨g, hg, rfl⟩ := List.mem_map.mp ha
    rw [List.mem_singleton.mp hb]
    exact (h.flight rnd hs).2 g hg
  known := by
    intro g hg
    change g.rnd < (p.rounds.modify rnd _).length
    rw [List.length_modify]
    rcases List.mem_append.mp hg with hg | hg
    · exact h.known g hg
    · rw [List.mem_singleton.mp hg, hrnd]
      exact (h.flight rnd hs).1
  records := by
    intro r u hu
    change (p.rounds.modify rnd _)[r]? = some u at hu
    rw [List.getElem?_modify] at hu
    obtain ⟨v, hv, rfl⟩ := Option.map_eq_some_iff.mp hu
    have hrec := h.records r v hv
    by_cases heq : rnd = r
    · subst heq
      rw [if_pos rfl]
      exact hf v hrec
    · rw [if_neg heq]
      have hsame : ∀ g : Fate E, g.rnd = r → (g ∈ p.fates ++ [fate] ↔ g ∈ p.fates) := by
        intro g hg
        rw [List.mem_append, List.mem_singleton]
        refine or_iff_left fun hgf => heq ?_
        rw [← hrnd, ← hgf, hg]
      refine ⟨fun c => (hrec.conn c).trans (hsame _ rfl).symm,
        fun e => (hrec.error e).trans (hsame _ rfl).symm,
        hrec.abandoned.trans (hsame _ rfl).symm, fun hready => ?_⟩
      obtain ⟨g, hg, hgr⟩ := hrec.ready hready
      exact ⟨g, List.mem_append_left _ hg, hgr⟩
  shared := by
    intro conn hconn
    refine ⟨rnd, ?_⟩
    rw [← hshared conn hconn]
    exact List.mem_append_right _ (List.mem_singleton_self _)
  origin := by
    intro r conn hmem
    rcases List.mem_append.mp hmem with hmem | hmem
    · exact h.origin r conn hmem
    · have hfate := List.mem_singleton.mp hmem
      have hr : r = rnd := by rw [← hrnd, ← hfate]; rfl
      subst hr
      exact horigin conn hfate.symm
  nodup := h.nodup
  fresh := h.fresh

theorem settle_grows {rnd : Nat} (hs : p.state = .making rnd) (f : Round E → Round E)
    (state : State) {fate : Fate E} (hi : p.drivers[rnd]? = some i ∨ fate = .dropped rnd) :
    Grows i p (p.settle rnd f state fate) where
  drivers := fun _ _ hj => hj
  fates := fun _ hf => List.mem_append_left _ hf
  entered := fun _ hx => hx
  rounds := Nat.le_of_eq (List.length_modify _ _ _).symm
  flight := by
    intro r hr
    rw [hs] at hr
    cases hr
    rcases hi with hi | rfl
    · exact .inr (.inr hi)
    · exact .inr (.inl (List.mem_append_right _ (List.mem_singleton_self _)))

end Pool

end Httpunk.Util
