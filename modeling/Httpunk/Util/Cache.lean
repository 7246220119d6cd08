import Mathlib.Data.List.Basic

/-!
# Util — Cache

The pool of idle connections (`Cache` and `_Lease` of `httpunk/util/pool.py`), under the tasks that
use it: the leases, the calls of `retain` and of `aclose`, in any interleaving.

* `Lease`, `Task`: where a task stands, with the connections it has.
* `Cache`: the idle set and the closed flag, the tasks, and a record of the connections whose
  entering completed and of the exits that were started.
* `Cache.step`: a section under the lock, a call to a connection, or such a call that returns.
-/

namespace Httpunk.Util

/-- A lease. -/
inductive Lease where
  /-- `_acquire` is next. -/
  | entering
  /-- The pool had none: a connection is being made and entered. -/
  | connecting
  | holding (conn : Nat)
  /-- The exit of its connection is next. -/
  | leaving (conn : Nat)
  /-- It waits for that exit. -/
  | closing
  | ended
  deriving DecidableEq

/-- A task on the pool. -/
inductive Task where
  | lease (l : Lease)
  /-- `retain` asks its predicate about a snapshot of the idle set. -/
  | judging (snapshot : List Nat)
  /-- `retain` is about to drop what was rejected. -/
  | dropping (rejected : List Nat)
  /-- The loop of `retain` and of `aclose`: the next exit is next. -/
  | closing (conns : List Nat)
  /-- It waits for an exit, with the rest to come. -/
  | awaiting (rest : List Nat)
  | ended
  deriving DecidableEq

/-- The connection a lease has. -/
def Task.leased : Task → List Nat
  | .lease (.holding conn) => [conn]
  | _ => []

/-- The connections that a task is about to close. -/
def Task.toClose : Task → List Nat
  | .lease (.leaving conn) => [conn]
  | .closing conns => conns
  | .awaiting rest => rest
  | _ => []

/-- The pool and its tasks.  A connection is known by its number, the `connector` returns a new one
each time. -/
structure Cache where
  idle : List Nat := []
  closed : Bool := false
  tasks : List Task := []
  made : Nat := 0
  entered : List Nat := []
  exits : List Nat := []
  deriving DecidableEq

namespace Cache

/-- What may happen. -/
inductive Action where
  | checkout
  | acquire (i : Nat)
  /-- `__aenter__` of a new connection has completed. -/
  | connected (i : Nat)
  /-- The connector or `__aenter__` raises, or is cancelled. -/
  | connectFails (i : Nat)
  /-- `__aexit__` of the lease: whether its body raised, and what the connection says of itself. -/
  | leave (i : Nat) (raised closed busy : Bool)
  | retain
  | judge (i : Nat) (keep : Nat → Bool)
  | judgeRaises (i : Nat)
  | drop (i : Nat)
  | aclose
  /-- A task starts the exit of its next connection. -/
  | exit (i : Nat)
  /-- That exit returns, or it raises or is cancelled. -/
  | returns (i : Nat) (ok : Bool)

/-- Task `i` goes on. -/
def put (s : Cache) (i : Nat) (t : Task) : Cache := { s with tasks := s.tasks.set i t }

/-- `_acquire`: the last idle connection. -/
def acquire (s : Cache) (i : Nat) : Cache :=
  match s.idle.getLast? with
  | some conn => { s with idle := s.idle.dropLast }.put i (.lease (.holding conn))
  | none => s.put i (.lease .connecting)

/-- The rest of `_acquire`, with a connection of its own. -/
def connected (s : Cache) (i : Nat) : Cache :=
  { s with made := s.made + 1, entered := s.entered ++ [s.made] }.put i (.lease (.holding s.made))

/-- `_checkin`. -/
def checkin (s : Cache) (conn : Nat) : Option Cache :=
  if s.closed then none else some { s with idle := s.idle ++ [conn] }

/-- `_Lease.__aexit__` up to the exit of the connection. -/
def leave (s : Cache) (i conn : Nat) (raised closed busy : Bool) : Cache :=
  match if !raised && !(closed || busy) then s.checkin conn else none with
  | some s => s.put i (.lease .ended)
  | none => s.put i (.lease (.leaving conn))

/-- The second section of `retain`. -/
def drop (s : Cache) (i : Nat) (rejected : List Nat) : Cache :=
  { s with idle := s.idle.filter (· ∉ rejected) }.put i
    (.closing (s.idle.filter (· ∈ rejected)))

/-- One step, where it can be taken. -/
def step (s : Cache) : Action → Option Cache
  | .checkout => some { s with tasks := s.tasks ++ [.lease .entering] }
  | .acquire i =>
    match s.tasks[i]? with
    | some (.lease .entering) => some (s.acquire i)
    | _ => none
  | .connected i =>
    match s.tasks[i]? with
    | some (.lease .connecting) => some (s.connected i)
    | _ => none
  | .connectFails i =>
    match s.tasks[i]? with
    | some (.lease .connecting) => some (s.put i (.lease .ended))
    | _ => none
  | .leave i raised closed busy =>
    match s.tasks[i]? with
    | some (.lease (.holding conn)) => some (s.leave i conn raised closed busy)
    | _ => none
  | .retain => some { s with tasks := s.tasks ++ [.judging s.idle] }
  | .judge i keep =>
    match s.tasks[i]? with
    | some (.judging snapshot) =>
      let rejected := snapshot.filter fun conn => !keep conn
      some (s.put i (if rejected.isEmpty then .ended else .dropping rejected))
    | _ => none
  | .judgeRaises i =>
    match s.tasks[i]? with
    | some (.judging _) => some (s.put i .ended)
    | _ => none
  | .drop i =>
    match s.tasks[i]? with
    | some (.dropping rejected) => some (s.drop i rejected)
    | _ => none
  | .aclose =>
    some { s with idle := [], closed := true, tasks := s.tasks ++ [.closing s.idle] }
  | .exit i =>
    match s.tasks[i]? with
    | some (.lease (.leaving conn)) =>
      some ({ s with exits := s.exits ++ [conn] }.put i (.lease .closing))
    | some (.closing (conn :: rest)) =>
      some ({ s with exits := s.exits ++ [conn] }.put i (.awaiting rest))
    | some (.closing []) => some (s.put i .ended)
    | _ => none
  | .returns i ok =>
    match s.tasks[i]? with
    | some (.lease .closing) => some (s.put i (.lease .ended))
    | some (.awaiting rest) => some (s.put i (if ok then .closing rest else .ended))
    | _ => none

/-- The step as a relation. -/
def Step (s : Cache) (a : Action) (s' : Cache) : Prop := s.step a = some s'

end Cache

end Httpunk.Util
