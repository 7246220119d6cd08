import Httpunk.H1.Client.Driver
import Httpunk.Support.Runs

/-!
# H1 — Safety — Unsent

The marker of a request that was not sent.

* `Inner.Unmarked`: no exception on record is marked.
* `Sys.Exact`: the invariant, with `SendTask.Fits` of each task.
* `Sys.unsent_exact`: in a run in which no call raises before its request is handed over, and no
  exception from outside is marked, an exception is marked exactly where nothing was handed over.
-/

namespace Httpunk.H1.Client

open Runs (Reach)

namespace Inner

/-! ### The state -/

/-- No exception on record is marked. -/
structure Unmarked (me : Inner) : Prop where
  error : ∀ e ∈ me.error, e.requestUnsent = false
  watcher : ∀ w ∈ me.watcher, ∀ e ∈ w.error, e.requestUnsent = false

/-- What a method leaves: no mark on record, and an error that is on record. -/
structure Grows (me me' : Inner) : Prop where
  unmarked : me.Unmarked → me'.Unmarked
  error : me.error.isSome = true → me'.error.isSome = true

variable {me me' : Inner}

/-- A method that keeps the error and the watcher. -/
theorem Grows.of_eq (he : me'.error = me.error) (hw : me'.watcher = me.watcher) : Grows me me' where
  unmarked := fun h => ⟨by rw [he]; exact h.error, by rw [hw]; exact h.watcher⟩
  error := fun h => by rw [he]; exact h

theorem Grows.trans {me₁ me₂ me₃ : Inner} (h₁ : Grows me₁ me₂) (h₂ : Grows me₂ me₃) :
    Grows me₁ me₃ := ⟨fun h => h₂.unmarked (h₁.unmarked h), fun h => h₂.error (h₁.error h)⟩

theorem closeNow_keeps (me : Inner) :
    me.closeNow.error = me.error ∧ me.closeNow.watcher = me.watcher := by
  unfold closeNow
  split <;> exact ⟨rfl, rfl⟩

theorem closeNow_grows (me : Inner) : Grows me me.closeNow :=
  .of_eq me.closeNow_keeps.1 me.closeNow_keeps.2

/-- An error that is not marked may be recorded; a marked one where one is on record. -/
theorem fail_grows (me : Inner) {exc : Option Exc}
    (h : me.error.isSome = true ∨ ∀ e ∈ exc, e.requestUnsent = false) : Grows me (me.fail exc) := by
  refine Grows.trans (?_ : Grows me { me with error := me.error.or exc }) (closeNow_grows _)
  refine ⟨fun hu => ⟨?_, hu.watcher⟩, ?_⟩
  · intro e he
    rcases hm : me.error with _ | err
    · rw [hm] at he h
      rcases h with h | h
      · cases h
      · exact h e (by simpa using he)
    · rw [hm] at he
      exact hu.error e (by rw [hm]; simpa using he)
  · intro hs
    dsimp only
    rcases hm : me.error with _ | err
    · rw [hm] at hs
      cases hs
    · rfl

theorem failWith_grows (me : Inner) {e : Exc}
    (h : e.requestUnsent = true → e.isClosed = true ∨ me.error.isSome = true) :
    Grows me (me.failWith e) := by
  unfold failWith
  refine fail_grows me ?_
  by_cases hc : e.isClosed = true
  · rw [if_pos hc]
    exact .inr fun _ hm => by cases hm
  · rw [if_neg hc]
    by_cases hu : e.requestUnsent = true
    · exact .inl ((h hu).resolve_left hc)
    · refine .inr fun e' hm => ?_
      cases hm
      simpa using hu

theorem poisonUnexpected_grows (me : Inner) : Grows me me.poisonUnexpected :=
  failWith_grows me fun h => by cases h

theorem tryBeginExchange_grows (me : Inner) : Grows me me.tryBeginExchange.1 := by
  unfold tryBeginExchange
  split <;> exact .of_eq rfl rfl

theorem endExchange_grows (me : Inner) : Grows me me.endExchange := by
  unfold endExchange
  split <;> exact .of_eq rfl rfl

theorem finishExchange_grows (me : Inner) (keepAlive : Bool) :
    Grows me (me.finishExchange keepAlive).1 := by
  unfold finishExchange
  split
  · exact .of_eq rfl rfl
  · exact me.closeNow_grows

theorem storeWriter_grows (me : Inner) (writer : Nat) : Grows me (me.storeWriter writer).1 := by
  unfold storeWriter
  split <;> exact .of_eq rfl rfl

theorem armWatcher_grows (me : Inner) (done : Nat) : Grows me (me.armWatcher done).1 := by
  unfold armWatcher
  split
  · exact .of_eq rfl rfl
  · refine ⟨fun h => ⟨h.error, fun w hw e he => ?_⟩, id⟩
    cases hw
    cases he

theorem watcherAborted_grows (me : Inner) : Grows me me.watcherAborted := by
  refine ⟨fun h => ⟨h.error, fun w hw e he => ?_⟩, id⟩
  unfold watcherAborted at hw
  rcases hm : me.watcher with _ | v
  · rw [hm] at hw
    cases hw
  · rw [hm] at hw
    cases hw
    exact h.watcher v hm e he

/-- The watcher's error may be kept where it is not marked. -/
theorem watcherCompleted_grows (me : Inner) (data : Option Bytes) {error : Option Exc}
    (h : ∀ e ∈ error, e.requestUnsent = false) : Grows me (me.watcherCompleted data error).1 := by
  unfold watcherCompleted
  rcases hm : me.watcher with _ | w
  · exact .of_eq rfl rfl
  · have hkept : Grows me { me with watcher := some { w with completed := true } } :=
      ⟨fun hu => ⟨hu.error, fun v hv e he => by cases hv; exact hu.watcher w hm e he⟩, id⟩
    dsimp only
    by_cases hx : me.exchangeActive = true
    · rw [if_pos hx]
      exact ⟨fun hu => ⟨hu.error, fun v hv e he => by cases hv; exact h e he⟩, id⟩
    · rw [if_neg hx]
      by_cases he : error.isSome = true
      · rw [if_pos he]
        exact hkept
      · rw [if_neg he]
        split
        · exact hkept.trans (closeNow_grows _)
        · exact hkept

theorem takeWatcherHandoff_grows (me : Inner) : Grows me me.takeWatcherHandoff.1 :=
  ⟨fun h => ⟨h.error, fun _ hw => by cases hw⟩, id⟩

theorem takeWatcherHandoff_unmarked (h : me.Unmarked) :
    ∀ e ∈ me.takeWatcherHandoff.2.2, e.requestUnsent = false := by
  intro e he
  unfold takeWatcherHandoff at he
  rcases hm : me.watcher with _ | w
  · rw [hm] at he
    cases he
  · rw [hm] at he
    exact h.watcher w hm e he

theorem recorded_unmarked (h : me.Unmarked) : me.recorded.requestUnsent = false := by
  unfold recorded
  rcases hm : me.error with _ | e
  · rfl
  · exact h.error e hm

end Inner

open Httpunk.H1.Client.Inner

/-! ### The tasks -/

/-- Where a task in `send_request` may stand, its request handed over or not: an exception on its
way is marked where it was not, and is then not put on record. -/
def SendTask.Fits (k : SendTask) (handed failed : Bool) : Prop :=
  match k with
  | .idle | .acquiring | .beginning | .peeking _ | .poisoning | .givingBack | .serializing _
  | .polling _ | .waiting _ | .looking _ | .starting _ | .opening _ | .spawning _ => handed = false
  | .storing _ | .refused | .surfacing | .awaiting _ | .taking | .reading | .parsing | .headless
  | .finishing | .responded | .settling | .ended => handed = true
  | .failing e =>
    e.requestUnsent = !handed ∧ (e.requestUnsent = true → e.isClosed = true ∨ failed = true)
  | .tearing e | .releasing e | .raised e => e.requestUnsent = !handed

namespace SendTask

theorem Fits.mono {k : SendTask} {handed failed failed' : Bool} (h : k.Fits handed failed)
    (hf : failed = true → failed' = true) : k.Fits handed failed' := by
  cases k with
  | failing e => exact ⟨h.1, fun hu => (h.2 hu).imp_right hf⟩
  | _ => exact h

/-- An exception from outside, once the request is handed over. -/
theorem fits_failing {e : Exc} {handed failed : Bool} (hh : handed = true)
    (he : e.requestUnsent = false) : (failing e).Fits handed failed := by
  refine ⟨by rw [he, hh]; rfl, fun hu => ?_⟩
  rw [he] at hu
  cases hu

end SendTask

namespace Sys

variable {s s' : Sys} {t : Nat}

/-- **Every exception on its way is marked as it should be.** -/
structure Exact (s : Sys) : Prop where
  inner : s.inner.Unmarked
  written : ∀ t, ∀ e ∈ s.writeErrors t, e.requestUnsent = false
  writes : ∀ t e, s.writes t = .failing e → e.requestUnsent = false
  completing : ∀ w data e, s.watches w = .completing data (some e) → e.requestUnsent = false
  watches : ∀ w e, s.watches w = .failing e → e.requestUnsent = false
  sends : ∀ t, (s.sends t).Fits (s.handed t) s.inner.error.isSome

theorem exact_init : Exact init where
  inner := ⟨fun _ h => (by cases h), fun _ h => by cases h⟩
  written := fun _ _ h => by cases h
  writes := fun _ _ h => by cases h
  completing := fun _ _ _ h => by cases h
  watches := fun _ _ h => by cases h
  sends := fun _ => rfl

theorem Exact.withInner (h : Exact s) {me : Inner} (hg : Grows s.inner me) :
    Exact { s with inner := me } :=
  { h with
    inner := hg.unmarked h.inner
    sends := fun t => (h.sends t).mono hg.error }

theorem Exact.go (h : Exact s) {k : SendTask}
    (hk : k.Fits (s.handed t) s.inner.error.isSome) : Exact (s.go t k) := by
  refine { h with sends := fun j => ?_ }
  by_cases hj : j = t
  · subst hj
    change SendTask.Fits (Function.update s.sends j k j) _ _
    rw [Function.update_self]
    exact hk
  · change SendTask.Fits (Function.update s.sends t k j) _ _
    rw [Function.update_of_ne hj]
    exact h.sends j

theorem Exact.cause (h : Exact s) {e : Exc} (he : e.requestUnsent = false) :
    (s.cause t e).requestUnsent = false := by
  unfold Sys.cause
  rcases hw : s.writeErrors t with _ | e'
  · exact he
  · exact h.written t e' hw

/-! ### The steps -/

/-- An answer raises nothing before the request is handed over, and nothing marked after. -/
def clean (handed : Bool) : Answer → Bool
  | .raises e => handed && !e.requestUnsent
  | .cancelled => handed
  | _ => true

/-- The condition on a step: no call of `send_request` raises before the request is handed over, and
no exception of the transport, of a body or of a parser is marked. -/
def NothingRaised (s : Sys) : Action → Bool
  | .send t a => clean (s.handed t) a
  | .write _ a _ | .watch _ a _ => clean true a
  | _ => true

theorem clean_raises {handed : Bool} {e : Exc} (h : clean handed (.raises e) = true) :
    handed = true ∧ e.requestUnsent = false := by
  unfold clean at h
  simpa using h

theorem Exact.await (h : Exact s) {a : Answer} {k : SendTask}
    (hc : clean (s.handed t) a = true) (hk : k.Fits (s.handed t) s.inner.error.isSome) :
    Exact (s.await t a k) := by
  unfold Sys.await
  cases a with
  | raises e =>
    obtain ⟨hh, he⟩ := clean_raises hc
    exact h.go (SendTask.fits_failing hh he)
  | cancelled => exact h.go (SendTask.fits_failing hc rfl)
  | _ => exact h.go hk

/-- **A step of `send_request`.** -/
theorem Exact.sendStep (h : Exact s) {a : Answer} (hc : clean (s.handed t) a = true)
    (hs : s.sendStep t a = some s') : Exact s' := by
  have hfit := h.sends t
  unfold Sys.sendStep at hs
  rcases hk : s.sends t with _ | _ | _ | w | _ | _ | w | w | w | w | w | w | w | w | _ | _ | w | _ |
    _ | _ | _ | _ | _ | _ | e | e | e | _ | e
  all_goals rw [hk] at hs hfit
  case acquiring =>
    have hno : s.handed t = false := hfit
    cases a with
    | raises e =>
      obtain ⟨hh, -⟩ := clean_raises hc
      rw [hno] at hh
      cases hh
    | cancelled =>
      have hh : s.handed t = true := hc
      rw [hno] at hh
      cases hh
    | _ =>
      cases hs
      refine (h.withInner (tryBeginExchange_grows _)).go ?_
      split <;> exact hno
  case beginning =>
    dsimp only at hs
    split at hs
    · cases hs
      exact h.go hfit
    · cases hs
      exact h.go hfit
  case peeking =>
    dsimp only at hs
    split at hs
    · cases hs
      exact h.go hfit
    · cases hs
      exact h.await hc hfit
  case poisoning =>
    cases hs
    exact (h.withInner (poisonUnexpected_grows _)).go hfit
  case givingBack =>
    cases hs
    refine h.go ⟨?_, fun _ => ?_⟩
    · rw [show s.handed t = false from hfit]
      rfl
    · unfold unsentError
      rcases s.inner.error with _ | e
      · exact .inl rfl
      · exact .inr rfl
  case serializing =>
    cases hs
    refine h.await hc ?_
    cases w <;> exact hfit
  case polling =>
    dsimp only at hs
    split at hs
    · cases hs
      exact h.go hfit
    · cases hs
      exact h.await hc hfit
  case waiting =>
    cases hs
    exact h.await hc hfit
  case looking =>
    cases hs
    refine h.go ?_
    split <;> exact hfit
  case starting =>
    have hi : Exact { s with inner := s.inner.exchangeStarted } := h.withInner (.of_eq rfl rfl)
    cases hs
    exact hi.go hfit
  case opening =>
    cases hs
    exact h.await hc hfit
  case spawning =>
    cases hs
    -- the request is handed over: the only task that may stand elsewhere is this one
    refine { h with
      writes := fun j e he => ?_
      sends := fun j => ?_ }
    · change Function.update s.writes t .writing j = .failing e at he
      by_cases hj : j = t
      · subst hj
        rw [Function.update_self] at he
        cases he
      · rw [Function.update_of_ne hj] at he
        exact h.writes j e he
    · change SendTask.Fits (Function.update s.sends t (.storing w) j)
        (Function.update s.handed t true j) _
      by_cases hj : j = t
      · subst hj
        rw [Function.update_self, Function.update_self]
        exact rfl
      · rw [Function.update_of_ne hj, Function.update_of_ne hj]
        exact h.sends j
  case storing =>
    cases hs
    refine (h.withInner (storeWriter_grows _ _)).go ?_
    split
    · exact hfit
    · cases w <;> exact hfit
  case refused =>
    cases hs
    exact h.await hc hfit
  case surfacing =>
    cases hs
    exact h.go (SendTask.fits_failing hfit (recorded_unmarked h.inner))
  case awaiting =>
    have hh : s.handed t = true := hfit
    cases a with
    | raises e =>
      cases hs
      exact h.go (SendTask.fits_failing hh rfl)
    | cancelled =>
      cases hs
      exact h.go (SendTask.fits_failing hh rfl)
    | _ =>
      dsimp only at hs
      split at hs
      · cases hs
        exact h.go hh
      · cases hs
  case taking =>
    have hh : s.handed t = true := hfit
    have hi := h.withInner (takeWatcherHandoff_grows s.inner)
    have hu := takeWatcherHandoff_unmarked h.inner
    dsimp only at hs
    rcases hr : s.inner.takeWatcherHandoff.2 with ⟨_ | _ | ⟨b, rest⟩, _ | e⟩
    all_goals rw [hr] at hs hu
    all_goals cases hs
    all_goals first
      | exact hi.go hh
      | exact hi.go (SendTask.fits_failing hh (hi.cause (hu _ rfl)))
  case reading =>
    have hh : s.handed t = true := hfit
    dsimp only at hs
    split at hs
    · cases a with
      | raises e =>
        cases hs
        exact h.go (SendTask.fits_failing hh (h.cause (clean_raises hc).2))
      | cancelled =>
        cases hs
        exact h.go (SendTask.fits_failing hh rfl)
      | _ =>
        cases hs
        exact h.go hh
    · cases hs
      exact h.go hh
  case parsing =>
    dsimp only at hs
    split at hs
    · cases hs
      exact h.go hfit
    · cases hs
      exact h.await hc hfit
  case headless =>
    cases hs
    exact h.go (SendTask.fits_failing hfit (h.cause rfl))
  case finishing =>
    have hu : Grows s.inner s.inner.takeWriter.1.upgrade := .of_eq rfl rfl
    have hi : Exact { s with inner := s.inner.takeWriter.1.upgrade.endExchange } :=
      h.withInner (hu.trans (endExchange_grows _))
    dsimp only at hs
    split at hs
    · cases hs
      exact hi.go hfit
    · cases hs
      exact h.await hc hfit
  case settling =>
    have hu : Grows s.inner s.inner.takeWriter.1 := .of_eq rfl rfl
    have hi : Exact { s with inner := s.inner.takeWriter.1.endExchange } :=
      h.withInner (hu.trans (endExchange_grows _))
    cases hs
    exact hi.go hfit
  case failing =>
    cases hs
    exact (h.withInner (failWith_grows _ hfit.2)).go hfit.1
  case tearing =>
    have hi : Exact { s with inner := s.inner.takeWriter.1 } := h.withInner (.of_eq rfl rfl)
    cases a with
    | raises e' =>
      obtain ⟨hh, he⟩ := clean_raises hc
      cases hs
      exact hi.go (@SendTask.fits_failing _ _ false hh he).1
    | cancelled =>
      have hh : s.handed t = true := hc
      cases hs
      exact hi.go (@SendTask.fits_failing _ _ false hh rfl).1
    | _ =>
      cases hs
      exact hi.go hfit
  case releasing =>
    cases hs
    exact (h.withInner (endExchange_grows _)).go hfit
  all_goals cases hs

/-- A writer goes on, with an error that is not marked where it fails the connection. -/
theorem Exact.goWrite (h : Exact s) {k : WriteTask}
    (hk : ∀ e, k = .failing e → e.requestUnsent = false) :
    Exact { s with writes := Function.update s.writes t k } := by
  refine { h with writes := fun j e he => ?_ }
  dsimp only at he
  by_cases hj : j = t
  · subst hj
    rw [Function.update_self] at he
    exact hk e he
  · rw [Function.update_of_ne hj] at he
    exact h.writes j e he

/-- **A step of a writer.** -/
theorem Exact.writeStep (h : Exact s) {a : Answer} {transport : Bool} (hc : clean true a = true)
    (hs : s.writeStep t a transport = some s') : Exact s' := by
  unfold Sys.writeStep at hs
  rcases hk : s.writes t with _ | _ | _ | e | _ | _
  all_goals rw [hk] at hs
  case writing =>
    cases a with
    | raises e =>
      have he := (clean_raises hc).2
      have hr : Exact { s with writeErrors := Function.update s.writeErrors t (some e) } := by
        refine { h with written := fun j e' hj => ?_ }
        by_cases hjt : j = t
        · subst hjt
          dsimp only at hj
          rw [Function.update_self] at hj
          cases hj
          exact he
        · dsimp only at hj
          rw [Function.update_of_ne hjt] at hj
          exact h.written j e' hj
      cases hs
      refine hr.goWrite fun e' he' => ?_
      split at he'
      · cases he'
      · cases he'
        exact he
    | cancelled =>
      cases hs
      exact h.goWrite fun _ he' => by cases he'
    | _ =>
      cases hs
      exact h.goWrite fun _ he' => by cases he'
  case finishing =>
    have hi : Exact { s with inner := s.inner.writerDone } := h.withInner (.of_eq rfl rfl)
    cases hs
    exact hi.goWrite fun _ he' => by cases he'
  case failing =>
    have he := h.writes t e hk
    have hi : Exact { s with inner := s.inner.failWith e } :=
      h.withInner (failWith_grows _ fun hu => by rw [he] at hu; cases hu)
    cases hs
    exact hi.goWrite fun _ he' => by cases he'
  case setting =>
    cases hs
    exact h.goWrite fun _ he' => by cases he'
  all_goals cases hs

/-- A watcher goes on, with an error that is not marked. -/
theorem Exact.goWatch (h : Exact s) {w : Nat} {k : WatchTask}
    (hk : ∀ e, (k = .failing e ∨ ∃ data, k = .completing data (some e)) →
      e.requestUnsent = false) :
    Exact { s with watches := Function.update s.watches w k } := by
  refine { h with completing := fun j data e he => ?_, watches := fun j e he => ?_ }
  · dsimp only at he
    by_cases hj : j = w
    · subst hj
      rw [Function.update_self] at he
      exact hk e (.inr ⟨data, he⟩)
    · rw [Function.update_of_ne hj] at he
      exact h.completing j data e he
  · dsimp only at he
    by_cases hj : j = w
    · subst hj
      rw [Function.update_self] at he
      exact hk e (.inl he)
    · rw [Function.update_of_ne hj] at he
      exact h.watches j e he

/-- A watcher with no error in hand. -/
theorem Exact.goQuiet (h : Exact s) {w : Nat} {k : WatchTask} (hf : ∀ e, k ≠ .failing e)
    (hq : ∀ data e, k ≠ .completing data (some e)) :
    Exact { s with watches := Function.update s.watches w k } :=
  h.goWatch fun e he => by
    rcases he with he | ⟨data, he⟩
    · exact absurd he (hf e)
    · exact absurd he (hq data e)

/-- **A step of a watcher.** -/
theorem Exact.watchStep (h : Exact s) {w : Nat} {a : Answer} {data : Bytes}
    (hc : clean true a = true) (hs : s.watchStep w a data = some s') : Exact s' := by
  have quiet : ∀ (s : Sys) (k : WatchTask), Exact s → (k = .setting ∨ k = .ended ∨
      k = .reading ∨ k = .aborting ∨ k = .poisoning ∨ ∃ data, k = .completing data none) →
      Exact { s with watches := Function.update s.watches w k } := fun s k h hk => by
    refine h.goQuiet (fun e he => ?_) fun data e he => ?_
    · rcases hk with hk | hk | hk | hk | hk | ⟨d, hk⟩ <;> rw [hk] at he <;> cases he
    · rcases hk with hk | hk | hk | hk | hk | ⟨d, hk⟩ <;> rw [hk] at he <;> cases he
  unfold Sys.watchStep at hs
  rcases hk : s.watches w with _ | _ | _ | ⟨d, err⟩ | _ | _ | e | _ | _
  all_goals rw [hk] at hs
  case starting =>
    cases hs
    refine quiet s _ h ?_
    split
    · exact .inr (.inr (.inl rfl))
    · exact .inr (.inr (.inr (.inl rfl)))
  case reading =>
    cases a with
    | raises e =>
      cases hs
      refine h.goWatch fun e' he' => ?_
      rcases he' with he' | ⟨d, he'⟩
      · cases he'
      · cases he'
        exact (clean_raises hc).2
    | cancelled => cases hs
    | _ =>
      cases hs
      exact quiet s _ h (.inr (.inr (.inr (.inr (.inr ⟨_, rfl⟩)))))
  case completing =>
    have herr : ∀ e ∈ err, e.requestUnsent = false := fun e he => h.completing w d e (by
      rw [hk]
      cases he
      rfl)
    have hi : Exact { s with inner := (s.inner.watcherCompleted d err).1 } :=
      h.withInner (watcherCompleted_grows _ d herr)
    dsimp only at hs
    cases hs
    cases (s.inner.watcherCompleted d err).2 with
    | idleBytes => exact quiet _ _ hi (.inr (.inr (.inr (.inr (.inl rfl)))))
    | idleError =>
      refine hi.goWatch fun e' he' => ?_
      rcases he' with he' | ⟨_, he'⟩
      · cases he'
        rcases err with _ | e
        · rfl
        · exact herr e rfl
      · cases he'
    | _ => exact quiet _ _ hi (.inl rfl)
  case aborting =>
    have hi : Exact { s with inner := s.inner.watcherAborted } :=
      h.withInner (watcherAborted_grows _)
    cases hs
    exact quiet _ _ hi (.inl rfl)
  case poisoning =>
    have hi : Exact { s with inner := s.inner.poisonUnexpected } :=
      h.withInner (poisonUnexpected_grows _)
    cases hs
    exact quiet _ _ hi (.inl rfl)
  case failing =>
    have he := h.watches w e hk
    have hi : Exact { s with inner := s.inner.failWith e } :=
      h.withInner (failWith_grows _ fun hu => by rw [he] at hu; cases hu)
    cases hs
    exact quiet _ _ hi (.inl rfl)
  case setting =>
    cases hs
    exact quiet _ _ h (.inr (.inl rfl))
  all_goals cases hs

/-- **A step of the connection.** -/
theorem Exact.step (h : Exact s) {a : Action} (hs : s.Step a s') (hc : s.NothingRaised a = true) :
    Exact s' := by
  unfold Step Sys.step at hs
  cases a with
  | request t =>
    dsimp only at hs
    split at hs
    · next hidle =>
      cases hs
      have hfit := h.sends t
      rw [hidle] at hfit
      exact h.go hfit
    · cases hs
  | send t a => exact h.sendStep hc hs
  | release t keepAlive =>
    dsimp only at hs
    split at hs
    · next hresp =>
      have hi : Exact { s with inner := (s.inner.finishExchange keepAlive).1 } :=
        h.withInner (finishExchange_grows _ keepAlive)
      have hfit := h.sends t
      rw [hresp] at hfit
      cases hs
      exact hi.go hfit
    · cases hs
  | surplus t =>
    dsimp only at hs
    split at hs
    · cases hs
      exact h.withInner (poisonUnexpected_grows _)
    · cases hs
  | write t a transport => exact h.writeStep hc hs
  | arm w =>
    dsimp only at hs
    split at hs
    · have hi : Exact { s with inner := (s.inner.armWatcher w).1 } :=
        h.withInner (armWatcher_grows _ w)
      cases hs
      split
      · exact hi.goQuiet (fun _ he => by cases he) fun _ _ he => by cases he
      · exact hi
    · cases hs
  | watch w a data => exact h.watchStep hc hs
  | close =>
    cases hs
    exact h.withInner (Grows.trans (closeNow_grows _) (.of_eq rfl rfl))
  | abort =>
    cases hs
    exact h.withInner (fail_grows _ (.inr fun _ he => by cases he))

/-- **The marker is exact.**  In every run in which no call of `send_request` raises before the
request is handed over, and no exception of the transport, of a body or of a parser is marked: an
exception is marked exactly where its request was not handed over. -/
theorem unsent_exact (s : Sys) (r : Reach Step (fun s a => s.NothingRaised a = true) init s) (t : Nat)
    (e : Exc) (h : s.sends t = .raised e) : e.requestUnsent = true ↔ s.handed t = false := by
  have hx : Exact s := Reach.invariant (I := Exact) r exact_init fun hi hs hc => hi.step hs hc
  have hfit := hx.sends t
  rw [h] at hfit
  rw [show e.requestUnsent = !s.handed t from hfit]
  cases s.handed t <;> decide

/-- A request on a connection that `close` has taken. -/
def closedRequest : List Action :=
  [.request 0, .close, .send 0 .ok, .send 0 .ok, .send 0 .ok, .send 0 .ok, .send 0 .ok, .send 0 .ok]

theorem unsent_exact_closed : ∃ (s : Sys) (e : Exc),
    Reach Step (fun s a => s.NothingRaised a = true) init s ∧ s.sends 0 = .raised e ∧
      (e.requestUnsent = true ↔ s.handed 0 = false) := by
  have hr : (Runs.exec Sys.step NothingRaised init closedRequest).any (fun s =>
      s.sends 0 == .raised { requestUnsent := true, isClosed := true }) := by decide +kernel
  obtain ⟨s, r, hs⟩ := Reach.of_exec_any hr
  have he := beq_iff_eq.mp hs
  exact ⟨s, _, r, he, unsent_exact s r 0 _ he⟩

/-- The transport was reset while idle: the peek raises, and nothing says that nothing was sent. -/
def resetAtPeek : List Action :=
  [.request 0, .send 0 .ok, .send 0 .ok, .send 0 (.raises {}), .send 0 .ok, .send 0 .ok, .send 0 .ok]

/-- The body fails with an exception of another request's, which is marked: the request was handed
over. -/
def markedBody : List Action :=
  [.request 0, .send 0 .ok, .send 0 .ok, .send 0 .ok, .send 0 .ok, .send 0 .ok, .send 0 .ok,
    .send 0 .ok, .send 0 .ok, .write 0 (.raises { requestUnsent := true }) false,
    .write 0 .ok false, .send 0 .ok, .send 0 .ok, .send 0 .ok, .send 0 .ok, .send 0 .ok]

/-- How both end. -/
theorem raising_runs :
    (Runs.exec Sys.step (fun _ _ => true) init resetAtPeek).any (fun s =>
      s.sends 0 == .raised {} && !s.handed 0) ∧
    (Runs.exec Sys.step (fun _ _ => true) init markedBody).any (fun s =>
      s.sends 0 == .raised { requestUnsent := true } && s.handed 0) := by
  decide +kernel

/-- Nor either way in every run. -/
theorem unsent_not_exact : ¬ ∀ (s : Sys), Reach Step Runs.Any init s → ∀ (t : Nat) (e : Exc),
    s.sends t = .raised e → (e.requestUnsent = true ↔ s.handed t = false) := by
  intro h
  obtain ⟨s, r, hs⟩ := Reach.of_exec_any raising_runs.1
  simp only [Bool.and_eq_true, beq_iff_eq, Bool.not_eq_true'] at hs
  have hx := (h s (r.mono fun _ _ _ => trivial) 0 {} hs.1).mpr hs.2
  cases hx

theorem marked_though_sent : ∃ (s : Sys) (e : Exc), Reach Step Runs.Any init s ∧
    s.sends 0 = .raised e ∧ e.requestUnsent = true ∧ s.handed 0 = true := by
  obtain ⟨s, r, hs⟩ := Reach.of_exec_any raising_runs.2
  simp only [Bool.and_eq_true, beq_iff_eq] at hs
  exact ⟨s, _, r.mono fun _ _ _ => trivial, hs.1, rfl, hs.2⟩

end Sys

end Httpunk.H1.Client
