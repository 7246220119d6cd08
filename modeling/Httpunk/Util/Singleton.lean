import Mathlib.Data.List.Basic

/-!
# Util — Singleton

The pool of one shared connection (`Singleton` and `_Round` of `httpunk/util/pool.py`), under the
tasks that use it: the calls of `get`, of `retain` and of `aclose`, in any interleaving.

* `Round`: the outcome of a batch, with the event its waiters wait for.
* `Stage`: where a task stands.
* `Pool`: the fields of the pool, and a record of what became of rounds and connections.
* `Pool.run`: what a task does from one stage to the next: a section under the lock, the start of an
  exit or of a connect, a set of the event, or the return of what it waits for.
* `Singleton.step`: a task is started or goes on.
-/

namespace Httpunk.Util

/-- A `BaseException`: an `Exception`, or the cancellation of the task. -/
inductive Exc (E : Type) where
  | error (e : E)
  | cancelled
  deriving DecidableEq

/-- `fresh_exc`: a copy, the same error without its traceback. -/
def freshExc {E : Type} (e : E) : E := e

/-- `_Round`. -/
structure Round (E : Type) where
  ready : Bool := false
  conn : Option Nat := none
  error : Option E := none
  abandoned : Bool := false
  deriving DecidableEq

/-- `_state`, with the field that goes with it: `_rnd` while a connection is being made, and `_conn`
when it is there. -/
inductive State where
  | empty
  | making (rnd : Nat)
  | made (conn : Nat)
  deriving DecidableEq

/-- How a call of `get` ends. -/
inductive Outcome (E : Type) where
  | conn (conn : Nat)
  | raised (exc : Exc E)
  | canceled
  deriving DecidableEq

/-- Where a task stands. -/
inductive Stage (E : Type) where
  /-- The first section of `get` is next. -/
  | entering
  | waiting (rnd : Nat)
  /-- The driver of a round: the exit of the connection that it found closed is next. -/
  | evicting (rnd stale : Nat)
  /-- It waits for that exit. -/
  | evicted (rnd : Nat)
  /-- It waits for the connector, and for `__aenter__`. -/
  | connecting (rnd : Nat)
  /-- One of these raised: the section of the handler is next. -/
  | failing (rnd : Nat) (exc : Exc E)
  /-- The event is to be set, then the exception goes on. -/
  | failed (rnd : Nat) (exc : Exc E)
  /-- `__aenter__` has completed: the section that installs the connection is next. -/
  | connected (rnd conn : Nat)
  /-- The event is to be set, then the driver returns or closes what it made. -/
  | settled (rnd conn : Nat) (installed : Bool)
  /-- The exit of a connection that was not installed is next. -/
  | refusing (rnd conn : Nat)
  /-- It waits for that exit. -/
  | refused (rnd : Nat)
  /-- `get` has ended, with the outcome of a round or with the connection it found. -/
  | returned (rnd : Option Nat) (outcome : Outcome E)
  /-- The first section of `retain` is next. -/
  | retaining
  | judging (conn : Nat)
  /-- The second section of `retain` is next. -/
  | dropping (conn : Nat)
  /-- The section of `aclose` is next. -/
  | aclosing
  /-- `aclose` has dropped a round: the event is to be set. -/
  | telling (rnd : Nat)
  /-- `retain` or `aclose`: the exit of the connection is next. -/
  | closing (conn : Nat)
  | awaiting
  | ended
  deriving DecidableEq

/-- What decided a round. -/
inductive Fate (E : Type) where
  | installed (rnd conn : Nat)
  | failed (rnd : Nat) (e : E)
  | abandoned (rnd : Nat)
  | dropped (rnd : Nat)
  deriving DecidableEq

/-- The round. -/
def Fate.rnd {E : Type} : Fate E → Nat
  | .installed rnd _ => rnd
  | .failed rnd _ => rnd
  | .abandoned rnd => rnd
  | .dropped rnd => rnd

/-- The fields of the pool, all rounds so far, and the record: the task that drives each round, what
decided the rounds, the connections that were entered, each with its round, and the exits that were
started.  A connection is known by its number, the `connector` returns a new one each time. -/
structure Pool (E : Type) where
  state : State := .empty
  rounds : List (Round E) := []
  made : Nat := 0
  drivers : List Nat := []
  fates : List (Fate E) := []
  entered : List (Nat × Nat) := []
  exits : List Nat := []
  deriving DecidableEq

namespace Pool

variable {E : Type}

/-- A new round, driven by task `i`. -/
def begin (p : Pool E) (i : Nat) : Pool E :=
  { p with state := .making p.rounds.length, rounds := p.rounds ++ [{}], drivers := p.drivers ++ [i] }

/-- The first section of `get`; `closed` is what the connection says of itself. -/
def enter (p : Pool E) (i : Nat) (closed : Bool) : Pool E × Stage E :=
  match p.state with
  | .made conn =>
    if !closed then (p, .returned none (.conn conn))
    else (p.begin i, .evicting p.rounds.length conn)
  | .empty => (p.begin i, .connecting p.rounds.length)
  | .making rnd => (p, .waiting rnd)

/-- `ready.set()` of a round. -/
def set (p : Pool E) (rnd : Nat) : Pool E :=
  { p with rounds := p.rounds.modify rnd fun r => { r with ready := true } }

/-- The round in flight is decided: its fields and those of the pool are set. -/
def settle (p : Pool E) (rnd : Nat) (f : Round E → Round E) (state : State) (fate : Fate E) :
    Pool E :=
  { p with state, rounds := p.rounds.modify rnd f, fates := p.fates ++ [fate] }

/-- The section of the handler. -/
def handle (p : Pool E) (rnd : Nat) (exc : Exc E) : Pool E :=
  if p.state = .making rnd then
    match exc with
    | .error e => p.settle rnd (fun r => { r with error := some (freshExc e) }) .empty (.failed rnd e)
    | .cancelled => p.settle rnd (fun r => { r with abandoned := true }) .empty (.abandoned rnd)
  else p

/-- The section that installs the connection, where the round is still the one in flight. -/
def install (p : Pool E) (rnd conn : Nat) : Pool E × Stage E :=
  if p.state = .making rnd then
    (p.settle rnd (fun r => { r with conn := some conn }) (.made conn) (.installed rnd conn),
      .settled rnd conn true)
  else (p, .settled rnd conn false)

/-- `__aenter__` has completed. -/
def connected (p : Pool E) (rnd : Nat) : Pool E :=
  { p with made := p.made + 1, entered := p.entered ++ [(rnd, p.made)] }

/-- An exit is started. -/
def exit (p : Pool E) (conn : Nat) : Pool E := { p with exits := p.exits ++ [conn] }

/-- A waiter goes on, once the event is set: it reads its own round. -/
def wake (p : Pool E) (rnd : Nat) : Option (Stage E) :=
  p.rounds[rnd]?.bind fun r =>
    if !r.ready then none
    else some (match r.conn, r.error with
      | some conn, _ => .returned (some rnd) (.conn conn)
      | none, some e => .returned (some rnd) (.raised (.error (freshExc e)))
      | none, none => if r.abandoned then .entering else .returned (some rnd) .canceled)

/-- The second section of `retain`. -/
def drop (p : Pool E) (conn : Nat) : Pool E × Stage E :=
  if p.state = .made conn then ({ p with state := .empty }, .closing conn) else (p, .ended)

/-- The section of `aclose`. -/
def aclose (p : Pool E) : Pool E × Stage E :=
  match p.state with
  | .making rnd => ({ p with state := .empty, fates := p.fates ++ [.dropped rnd] }, .telling rnd)
  | .made conn => ({ p with state := .empty }, .closing conn)
  | .empty => (p, .ended)

/-- What a task meets: the answer of the foreign code that it asks on its way (the connection's
`closed`, the predicate), or what became of the call that it waits for. -/
inductive Input (E : Type) where
  | go (answer : Bool)
  | returns
  | raises (exc : Exc E)

/-- Task `i` goes on from its stage, where it can. -/
def run (p : Pool E) (i : Nat) : Stage E → Input E → Option (Pool E × Stage E)
  | .entering, .go closed => some (p.enter i closed)
  | .waiting rnd, .go _ => (p.wake rnd).map fun t => (p, t)
  | .waiting rnd, .raises .cancelled => some (p, .returned (some rnd) (.raised .cancelled))
  | .evicting rnd stale, .go _ => some (p.exit stale, .evicted rnd)
  -- `contextlib.suppress(Exception)`
  | .evicted rnd, .returns => some (p, .connecting rnd)
  | .evicted rnd, .raises (.error _) => some (p, .connecting rnd)
  | .evicted rnd, .raises .cancelled => some (p, .failing rnd .cancelled)
  | .connecting rnd, .returns => some (p.connected rnd, .connected rnd p.made)
  | .connecting rnd, .raises exc => some (p, .failing rnd exc)
  | .failing rnd exc, .go _ => some (p.handle rnd exc, .failed rnd exc)
  | .failed rnd exc, .go _ => some (p.set rnd, .returned (some rnd) (.raised exc))
  | .connected rnd conn, .go _ => some (p.install rnd conn)
  | .settled rnd conn true, .go _ => some (p.set rnd, .returned (some rnd) (.conn conn))
  | .settled rnd conn false, .go _ => some (p.set rnd, .refusing rnd conn)
  | .refusing rnd conn, .go _ => some (p.exit conn, .refused rnd)
  | .refused rnd, .returns => some (p, .returned (some rnd) .canceled)
  | .refused rnd, .raises (.error _) => some (p, .returned (some rnd) .canceled)
  | .refused rnd, .raises .cancelled => some (p, .returned (some rnd) (.raised .cancelled))
  | .retaining, .go _ =>
    match p.state with
    | .made conn => some (p, .judging conn)
    | _ => some (p, .ended)
  | .judging conn, .go keep => some (p, if keep then .ended else .dropping conn)
  | .judging _, .raises _ => some (p, .ended)
  | .dropping conn, .go _ => some (p.drop conn)
  | .aclosing, .go _ => some p.aclose
  | .telling rnd, .go _ => some (p.set rnd, .ended)
  | .closing conn, .go _ => some (p.exit conn, .awaiting)
  | .awaiting, .returns => some (p, .ended)
  | .awaiting, .raises _ => some (p, .ended)
  | _, _ => none

end Pool

/-- The pool and its tasks. -/
structure Singleton (E : Type) where
  pool : Pool E := {}
  tasks : List (Stage E) := []
  deriving DecidableEq

namespace Singleton

variable {E : Type}

/-- What may happen. -/
inductive Action (E : Type) where
  | get
  | retain
  | aclose
  | task (i : Nat) (input : Pool.Input E)

/-- A task starts. -/
def spawn (s : Singleton E) (t : Stage E) : Singleton E := { s with tasks := s.tasks ++ [t] }

/-- One step, where it can be taken. -/
def step (s : Singleton E) : Action E → Option (Singleton E)
  | .get => some (s.spawn .entering)
  | .retain => some (s.spawn .retaining)
  | .aclose => some (s.spawn .aclosing)
  | .task i input =>
    s.tasks[i]?.bind fun t =>
      (s.pool.run i t input).map fun r => { pool := r.1, tasks := s.tasks.set i r.2 }

/-- The step as a relation. -/
def Step (s : Singleton E) (a : Action E) (s' : Singleton E) : Prop := s.step a = some s'

end Singleton

end Httpunk.Util
