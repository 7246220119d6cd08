import Httpunk.Util.Cache
import Httpunk.Support.Runs
import Httpunk.Support.Tasks

/-!
# Util — Custody

Where the connections of a `Cache` are.

* `Cache.Clear`: no exit of `retain` or `aclose` fails with others of its list still to come.
* `Cache.Shift`: what a step makes of the places, `Cache.step_shift` finds it.
* `Cache.Custody`: every connection entered is in one place, `Cache.Shift.keeps` keeps it.
* `Cache.custody`: what holds in every state reached by clear steps.
* `Cache.custody_lost`: an exit that fails in `aclose` leaves the next in no place.
-/

namespace Httpunk.Util

open Runs (Reach)

/-- The connections a task has, of either kind. -/
def Task.held (t : Task) : List Nat := t.leased ++ t.toClose

@[simp] theorem Task.count_held (t : Task) (c : Nat) :
    t.held.count c = t.leased.count c + t.toClose.count c :=
  List.count_append

namespace Cache

variable {s s' : Cache} {a : Action} {i : Nat} {c : Nat}

/-- The connections out on a lease. -/
def leased (s : Cache) : List Nat := s.tasks.flatMap Task.leased

/-- The connections a task is about to close. -/
def toClose (s : Cache) : List Nat := s.tasks.flatMap Task.toClose

/-- The connections the tasks have. -/
def held (s : Cache) : List Nat := s.tasks.flatMap Task.held

theorem count_held (s : Cache) (c : Nat) :
    s.held.count c = s.leased.count c + s.toClose.count c := by
  unfold held leased toClose
  induction s.tasks with
  | nil => rfl
  | cons t ts ih =>
      simp only [List.flatMap_cons, List.count_append, Task.count_held, ih]
      omega

/-- Where an exit of `retain` or `aclose` raises, or is cancelled, it was the last of its list. -/
def Clear (s : Cache) : Action → Prop
  | .returns i false => ∀ rest, s.tasks[i]? = some (.awaiting rest) → rest = []
  | _ => True

/-! ### A step -/

/-- What one step makes of the places of connections: a task goes on, or one starts, or a
connection is entered and its lease has it. -/
inductive Shift (s s' : Cache) : Prop where
  | goes (i : Nat) (t t' : Task) (ht : s.tasks[i]? = some t) (tasks : s'.tasks = s.tasks.set i t')
      (entered : s'.entered = s.entered) (made : s'.made = s.made) (closed : s'.closed = s.closed)
      (parks : s.closed = true → s.idle = [] → s'.idle = [])
      (places : ∀ c, s'.idle.count c + t'.held.count c + s'.exits.count c =
        s.idle.count c + t.held.count c + s.exits.count c)
      (starts : ∀ c ∈ t.toClose, c ∈ t'.toClose ∨ c ∈ s'.exits) (exits : s.exits ⊆ s'.exits)
  | spawns (t : Task) (tasks : s'.tasks = s.tasks ++ [t]) (entered : s'.entered = s.entered)
      (made : s'.made = s.made) (closed : s.closed = true → s'.closed = true)
      (parks : s'.closed = true → s.idle = [] ∨ s.closed = false → s'.idle = [])
      (places : ∀ c, s'.idle.count c + t.held.count c = s.idle.count c) (exits : s'.exits = s.exits)
  | enters (i : Nat) (t : Task) (ht : s.tasks[i]? = some t) (held : t.held = [])
      (eq : s' = s.connected i)

/-- A task that goes on with the same connections, and nothing else. -/
theorem Shift.put {t t' : Task} (ht : s.tasks[i]? = some t) (hl : t'.leased = t.leased)
    (hc : t'.toClose = t.toClose) : Shift s (s.put i t') := by
  have hheld : t'.held = t.held := by rw [Task.held, hl, hc, Task.held]
  refine .goes i t t' ht rfl rfl rfl rfl (fun _ h => h) (fun c => by rw [hheld]; rfl) ?_ fun _ h => h
  intro c h
  exact .inl (hc ▸ h)

theorem acquire_shift (ht : s.tasks[i]? = some (.lease .entering)) : Shift s (s.acquire i) := by
  unfold acquire
  split
  · next conn hlast =>
    refine .goes i _ _ ht rfl rfl rfl rfl ?_ ?_ (fun _ h => by cases h) fun _ h => h
    · intro _ hidle
      rw [hidle] at hlast
      cases hlast
    · intro c
      have hidle := congrArg (List.count c) (List.dropLast_append_getLast? conn hlast)
      rw [List.count_append] at hidle
      have hheld : (Task.lease (.holding conn)).held = [conn] := rfl
      have hnone : (Task.lease .entering).held = [] := rfl
      rw [hheld, hnone, ← hidle]
      rfl
  · exact .put ht rfl rfl

theorem leave_shift {conn : Nat} (ht : s.tasks[i]? = some (.lease (.holding conn)))
    (raised closed busy : Bool) : Shift s (s.leave i conn raised closed busy) := by
  unfold leave
  split
  · next s₁ hpark =>
    have hopen : s.closed = false ∧ s₁ = { s with idle := s.idle ++ [conn] } := by
      split at hpark
      · unfold checkin at hpark
        cases hclosed : s.closed with
        | true => rw [hclosed] at hpark; cases hpark
        | false => rw [hclosed] at hpark; exact ⟨rfl, (Option.some.inj hpark).symm⟩
      · cases hpark
    obtain ⟨hclosed, rfl⟩ := hopen
    refine .goes i _ _ ht rfl rfl rfl rfl ?_ ?_ (fun _ h => by cases h) fun _ h => h
    · intro h
      rw [hclosed] at h
      cases h
    · intro c
      have hparked : (s.idle ++ [conn]).count c = s.idle.count c + [conn].count c := List.count_append
      exact congrArg (· + s.exits.count c) hparked
  · exact .goes i _ _ ht rfl rfl rfl rfl (fun _ h => h) (fun _ => rfl) (fun _ h => by cases h)
      fun _ h => h

/-- What is dropped and what stays are what was idle. -/
theorem drop_shift {rejected : List Nat} (ht : s.tasks[i]? = some (.dropping rejected)) :
    Shift s (s.drop i rejected) := by
  refine .goes i _ _ ht rfl rfl rfl rfl ?_ ?_ (fun _ h => by cases h) fun _ h => h
  · intro _ hidle
    unfold drop put
    rw [hidle]
    rfl
  · intro c
    have hsplit := (List.filter_append_perm (fun conn => decide (conn ∉ rejected)) s.idle).count_eq c
    rw [List.count_append] at hsplit
    have hheld : (Task.closing (s.idle.filter (· ∈ rejected))).held.count c =
        (s.idle.filter fun conn => !decide (conn ∉ rejected)).count c := by
      simp only [Task.held, Task.leased, Task.toClose, List.nil_append, decide_not, Bool.not_not]
    have hnone : (Task.dropping rejected).held.count c = 0 := rfl
    rw [hheld, hnone, Nat.add_zero, ← hsplit]
    rfl

/-- The exit of a connection starts: its task has one fewer to close. -/
theorem exit_shift {t t' : Task} {conn : Nat} (ht : s.tasks[i]? = some t)
    (hl : t.leased = t'.leased) (hc : t.toClose = conn :: t'.toClose) :
    Shift s ({ s with exits := s.exits ++ [conn] }.put i t') := by
  refine .goes i t t' ht rfl rfl rfl rfl (fun _ h => h) ?_ ?_ fun _ h => List.mem_append_left _ h
  · intro c
    have hexits : (s.exits ++ [conn]).count c = s.exits.count c + [conn].count c := List.count_append
    have hheld : t.held.count c = t'.held.count c + [conn].count c := by
      have hcons : ([conn] ++ t'.toClose).count c = [conn].count c + t'.toClose.count c :=
        List.count_append
      rw [List.singleton_append] at hcons
      rw [Task.count_held, Task.count_held, hl, hc, hcons]
      omega
    rw [hheld]
    change s.idle.count c + t'.held.count c + (s.exits ++ [conn]).count c = _
    omega
  · intro c hmem
    rw [hc] at hmem
    rcases List.mem_cons.mp hmem with rfl | hmem
    · exact .inr (List.mem_append_right _ (List.mem_singleton_self _))
    · exact .inl hmem

/-- **A step**, where no exit leaves others behind. -/
theorem step_shift (h : Step s a s') (hok : Clear s a) : Shift s s' := by
  unfold Step step at h
  cases a with
  | checkout =>
    cases h
    exact .spawns _ rfl rfl rfl id (fun hc hi => hi.elim id fun ho => by rw [hc] at ho; cases ho)
      (fun _ => rfl) rfl
  | retain =>
    cases h
    exact .spawns _ rfl rfl rfl id (fun hc hi => hi.elim id fun ho => by rw [hc] at ho; cases ho)
      (fun _ => rfl) rfl
  | aclose =>
    cases h
    exact .spawns _ rfl rfl rfl (fun _ => rfl) (fun _ _ => rfl) (fun c => Nat.zero_add _) rfl
  | acquire i =>
    dsimp only at h
    split at h
    · next ht => cases h; exact acquire_shift ht
    · cases h
  | connected i =>
    dsimp only at h
    split at h
    · next ht => cases h; exact .enters i _ ht rfl rfl
    · cases h
  | connectFails i =>
    dsimp only at h
    split at h
    · next ht => cases h; exact .put ht rfl rfl
    · cases h
  | leave i raised closed busy =>
    dsimp only at h
    split at h
    · next conn ht => cases h; exact leave_shift ht raised closed busy
    · cases h
  | judge i keep =>
    dsimp only at h
    split at h
    · next snapshot ht =>
      cases h
      split
      · exact .put ht rfl rfl
      · exact .put ht rfl rfl
    · cases h
  | judgeRaises i =>
    dsimp only at h
    split at h
    · next ht => cases h; exact .put ht rfl rfl
    · cases h
  | drop i =>
    dsimp only at h
    split at h
    · next rejected ht => cases h; exact drop_shift ht
    · cases h
  | exit i =>
    dsimp only at h
    split at h
    · next ht => cases h; exact exit_shift ht rfl rfl
    · next ht => cases h; exact exit_shift ht rfl rfl
    · next ht => cases h; exact .put ht rfl rfl
    · cases h
  | returns i ok =>
    dsimp only at h
    split at h
    · next ht => cases h; exact .put ht rfl rfl
    · next rest ht =>
      cases h
      cases ok with
      | true => exact .put ht rfl rfl
      | false =>
        cases hok rest ht
        exact .put ht rfl rfl
    · cases h

/-! ### Custody -/

/-- **Custody.**  Every connection entered was entered once and is in one place, and a closed pool
has nothing idle. -/
structure Custody (s : Cache) : Prop where
  places : ∀ c, s.entered.count c = s.idle.count c + s.held.count c + s.exits.count c
  nodup : s.entered.Nodup
  fresh : ∀ c ∈ s.entered, c < s.made
  parked : s.closed = true → s.idle = []

theorem custody_init : ({} : Cache).Custody where
  places := fun _ => rfl
  nodup := .nil
  fresh := fun _ h => by cases h
  parked := fun h => by cases h

theorem Shift.keeps (h : Shift s s') (hs : s.Custody) : s'.Custody := by
  cases h with
  | goes i t t' ht tasks entered made closed parks places _ _ =>
    refine ⟨fun c => ?_, entered ▸ hs.nodup, ?_, ?_⟩
    · have hset := Tasks.count_set Task.held ht t' c
      rw [← tasks] at hset
      have hold := hs.places c
      have hmove := places c
      unfold held at hold ⊢
      rw [entered]
      omega
    · rw [entered, made]
      exact hs.fresh
    · intro hc
      rw [closed] at hc
      exact parks hc (hs.parked hc)
  | spawns t tasks entered made closed parks places exits =>
    refine ⟨fun c => ?_, entered ▸ hs.nodup, ?_, ?_⟩
    · have hspawn : ((s.tasks ++ [t]).flatMap Task.held).count c = _ :=
        Tasks.count_spawn Task.held t c
      rw [← tasks] at hspawn
      have hold := hs.places c
      have hmove := places c
      unfold held at hold ⊢
      rw [entered, exits]
      omega
    · rw [entered, made]
      exact hs.fresh
    · intro hc
      cases hclosed : s.closed with
      | true => exact parks hc (.inl (hs.parked hclosed))
      | false => exact parks hc (.inr hclosed)
  | enters i t ht held eq =>
    subst eq
    refine ⟨fun c => ?_, ?_, ?_, hs.parked⟩
    · have hset := Tasks.count_set Task.held ht (.lease (.holding s.made)) c
      have hold := hs.places c
      have hnew : (s.entered ++ [s.made]).count c = s.entered.count c + [s.made].count c :=
        List.count_append
      rw [held] at hset
      change (s.entered ++ [s.made]).count c = s.idle.count c +
        ((s.tasks.set i (.lease (.holding s.made))).flatMap Task.held).count c + s.exits.count c
      have hheld : (Task.lease (.holding s.made)).held = [s.made] := rfl
      rw [hheld, List.count_nil] at hset
      unfold Cache.held at hold
      omega
    · refine List.nodup_append.mpr ⟨hs.nodup, List.nodup_singleton _, ?_⟩
      intro c hc d hd hcd
      have hlt := hs.fresh c hc
      rw [List.mem_singleton] at hd
      omega
    · intro c hc
      change c < s.made + 1
      rcases List.mem_append.mp hc with hc | hc
      · exact Nat.lt_succ_of_lt (hs.fresh c hc)
      · rw [List.mem_singleton] at hc
        omega

/-- What is to be closed stays so until its exit starts. -/
theorem Shift.starts (h : Shift s s') (hc : c ∈ s.toClose ∨ c ∈ s.exits) :
    c ∈ s'.toClose ∨ c ∈ s'.exits := by
  cases h with
  | goes i t t' ht tasks _ _ _ _ _ starts exits =>
    rcases hc with hc | hc
    · obtain ⟨u, hu, hcu⟩ := List.mem_flatMap.mp hc
      obtain ⟨j, hj⟩ := List.mem_iff_getElem?.mp hu
      by_cases hij : i = j
      · subst hij
        rw [ht] at hj
        cases hj
        refine (starts c hcu).imp_left fun hcl => ?_
        have hi : i < s.tasks.length := (List.getElem?_eq_some_iff.mp ht).1
        exact List.mem_flatMap.mpr ⟨t', tasks ▸ List.mem_set hi t', hcl⟩
      · refine .inl (List.mem_flatMap.mpr ⟨u, ?_, hcu⟩)
        rw [tasks]
        exact List.mem_iff_getElem?.mpr ⟨j, by rw [List.getElem?_set_ne hij, hj]⟩
    · exact .inr (exits hc)
  | spawns t tasks _ _ _ _ _ exits =>
    refine hc.imp (fun hc => ?_) fun hc => exits ▸ hc
    unfold toClose
    rw [tasks, List.flatMap_append]
    exact List.mem_append_left _ hc
  | enters i t ht held eq =>
    subst eq
    refine hc.imp_left fun hc => ?_
    obtain ⟨u, hu, hcu⟩ := List.mem_flatMap.mp hc
    obtain ⟨j, hj⟩ := List.mem_iff_getElem?.mp hu
    by_cases hij : i = j
    · subst hij
      rw [ht] at hj
      cases hj
      have hnil : c ∈ t.held := List.mem_append_right _ hcu
      rw [held] at hnil
      cases hnil
    · exact List.mem_flatMap.mpr
        ⟨u, List.mem_iff_getElem?.mpr ⟨j, by rw [← hj]; exact List.getElem?_set_ne hij⟩, hcu⟩

theorem Shift.closed (h : Shift s s') (hc : s.closed = true) : s'.closed = true := by
  cases h with
  | goes _ _ _ _ _ _ _ closed => exact closed.trans hc
  | spawns _ _ _ _ closed => exact closed hc
  | enters _ _ _ _ eq => exact eq ▸ hc

/-! ### Runs -/

theorem getElem?_put {t : Task} (ht : s.tasks[i]? = some t) (t' : Task) :
    (s.put i t').tasks[i]? = some t' :=
  List.getElem?_set_self (List.getElem?_eq_some_iff.mp ht).1

/-- The loop of `retain` and of `aclose`, each exit of which returns. -/
theorem closes (rest : List Nat) : ∀ {s : Cache}, s.tasks[i]? = some (.closing rest) →
    ∃ s', Reach Step Clear s s' ∧ ∀ c, c ∈ s.exits ∨ c ∈ rest → c ∈ s'.exits := by
  induction rest with
  | nil =>
      intro s _
      exact ⟨s, .refl, fun c hc => hc.elim id fun h => by cases h⟩
  | cons conn rest ih =>
      intro s ht
      have hexit : ∃ s₁, Step s (.exit i) s₁ ∧ s₁.tasks[i]? = some (.awaiting rest) ∧
          s₁.exits = s.exits ++ [conn] := by
        refine ⟨{ s with exits := s.exits ++ [conn] }.put i (.awaiting rest), ?_,
          getElem?_put (s := { s with exits := s.exits ++ [conn] }) ht _, rfl⟩
        unfold Step step
        dsimp only
        rw [ht]
      obtain ⟨s₁, h₁, ht₁, he₁⟩ := hexit
      have hreturn : Step s₁ (.returns i true) (s₁.put i (.closing rest)) := by
        unfold Step step
        dsimp only
        rw [ht₁]
        rfl
      obtain ⟨s', hr, hall⟩ := ih (getElem?_put ht₁ (.closing rest))
      refine ⟨s', ((Reach.single h₁ trivial).tail hreturn trivial).trans hr, fun c hc => ?_⟩
      refine hall c ?_
      change c ∈ s₁.exits ∨ c ∈ rest
      rw [he₁, List.mem_append, List.mem_singleton]
      rw [List.mem_cons] at hc
      exact or_assoc.mpr hc

/-- What a task is to close, it does close when it goes on and its exits return. -/
theorem closed_of_toClose (hc : c ∈ s.toClose) : ∃ s', Reach Step Clear s s' ∧ c ∈ s'.exits := by
  obtain ⟨t, ht, hct⟩ := List.mem_flatMap.mp hc
  obtain ⟨i, hi⟩ := List.mem_iff_getElem?.mp ht
  cases t with
  | lease l =>
    cases l with
    | leaving conn =>
      rw [List.mem_singleton.mp hct]
      have hexit : Step s (.exit i)
          ({ s with exits := s.exits ++ [conn] }.put i (.lease .closing)) := by
        unfold Step step
        dsimp only
        rw [hi]
      exact ⟨_, .single hexit trivial, List.mem_append_right _ (List.mem_singleton_self _)⟩
    | entering => cases hct
    | connecting => cases hct
    | holding conn => cases hct
    | closing => cases hct
    | ended => cases hct
  | closing conns =>
    obtain ⟨s', hr, hall⟩ := closes conns hi
    exact ⟨s', hr, hall c (.inr hct)⟩
  | awaiting rest =>
    have hreturn : Step s (.returns i true) (s.put i (.closing rest)) := by
      unfold Step step
      dsimp only
      rw [hi]
      rfl
    obtain ⟨s', hr, hall⟩ := closes rest (getElem?_put hi (.closing rest))
    exact ⟨s', (Reach.single hreturn trivial).trans hr, hall c (.inr hct)⟩
  | judging snapshot => cases hct
  | dropping rejected => cases hct
  | ended => cases hct

/-- **Custody of the connections**, in every state reached by clear steps: a connection that was
entered, was entered once and is in one place, idle or out on a lease or about to be closed by a
task or with its exit started, once; what is about to be closed stays so until its exit starts,
which the task that has it can always come to; and what is closed has nothing idle from then on. -/
theorem custody (s : Cache) (r : Reach Step Clear {} s) :
    s.entered.Nodup ∧ s.entered.Perm (s.idle ++ s.leased ++ s.toClose ++ s.exits) ∧
      (∀ s', Reach Step Clear s s' → ∀ c ∈ s.toClose, c ∈ s'.toClose ∨ c ∈ s'.exits) ∧
      (∀ c ∈ s.toClose, ∃ s', Reach Step Clear s s' ∧ c ∈ s'.exits) ∧
      ∀ s', Reach Step Clear s s' → s.closed = true → s'.closed = true ∧ s'.idle = [] := by
  have hs : s.Custody := r.invariant custody_init fun h hs hok => (step_shift hs hok).keeps h
  refine ⟨hs.nodup, List.perm_iff_count.mpr fun c => ?_, fun s' r' c hc => ?_,
    fun c hc => closed_of_toClose hc, fun s' r' hclosed => ?_⟩
  · rw [hs.places, count_held, List.count_append, List.count_append, List.count_append]
    omega
  · refine r'.invariant (I := fun s' => c ∈ s'.toClose ∨ c ∈ s'.exits) (.inl hc) ?_
    exact fun h hs hok => (step_shift hs hok).starts h
  · have h' : s'.Custody ∧ s'.closed = true :=
      r'.invariant (I := fun s' => s'.Custody ∧ s'.closed = true) ⟨hs, hclosed⟩
        fun h hs hok => ⟨(step_shift hs hok).keeps h.1, (step_shift hs hok).closed h.2⟩
    exact ⟨h'.2, h'.1.parked h'.2⟩

/-- Two connections are entered and given back, and the pool is closed: the first exit starts. -/
def twoIdle : List Action := [
  .checkout, .acquire 0, .connected 0, .checkout, .acquire 1, .connected 1,
  .leave 0 false false false, .leave 1 false false false, .aclose, .exit 2]

/-- Whether the exits that return do so without an error. -/
def orderly (_ : Cache) : Action → Bool
  | .returns _ ok => ok
  | _ => true

theorem clear_of_orderly (s : Cache) (a : Action) (h : orderly s a = true) : Clear s a := by
  cases a with
  | returns i ok =>
    cases ok with
    | true => trivial
    | false => cases h
  | _ => trivial

/-- Both exits return. -/
theorem custody_two_idle : ∃ s, Reach Step Clear {} s ∧ s.entered = [0, 1] ∧ s.exits = [0, 1] ∧
    s.entered.Perm (s.idle ++ s.leased ++ s.toClose ++ s.exits) := by
  have hr : (Runs.exec step orderly {} (twoIdle ++ [.returns 2 true, .exit 2])).any fun s =>
      s.entered == [0, 1] && s.exits == [0, 1] := by decide
  obtain ⟨s, r, hs⟩ := Reach.of_exec_any hr
  simp only [Bool.and_eq_true, beq_iff_eq] at hs
  have r' : Reach Step Clear {} s := r.mono clear_of_orderly
  exact ⟨s, r', hs.1, hs.2, (custody s r').2.1⟩

/-- The first fails: the second is in no place, and nothing is left that would close it. -/
theorem custody_lost : ∃ s, Reach Step Runs.Any {} s ∧ s.closed = true ∧ 1 ∈ s.entered ∧
    1 ∉ s.idle ++ s.leased ++ s.toClose ++ s.exits ∧
      ∀ t ∈ s.tasks, t = .ended ∨ t = .lease .ended := by
  have hr : (Runs.exec step (fun _ _ => true) {} (twoIdle ++ [.returns 2 false])).any fun s =>
      s.closed && decide (1 ∈ s.entered) &&
        decide (1 ∉ s.idle ++ s.leased ++ s.toClose ++ s.exits) &&
        decide (∀ t ∈ s.tasks, t = .ended ∨ t = .lease .ended) := by decide
  obtain ⟨s, r, hs⟩ := Reach.of_exec_any hr
  simp only [Bool.and_eq_true, decide_eq_true_eq] at hs
  obtain ⟨⟨⟨hclosed, hin⟩, hout⟩, hended⟩ := hs
  exact ⟨s, r.mono fun _ _ _ => trivial, hclosed, hin, hout, hended⟩

end Cache

end Httpunk.Util
