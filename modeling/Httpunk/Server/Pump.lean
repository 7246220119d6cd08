import Mathlib

/-!
# Server — Pump

`_send_async_body` and `_pump_async_body` of both servers (`httpunk/h1/server.py` and
`httpunk/h2/connection.py`): the task that responds, the pump of its body, and the event that wakes
the task before the pump is done.  What a write does to the connection is not looked at here: it
ends, or raises.  The wait of the task suspends it, so the pump it spawned has begun before anything
can cancel it.

* `Sys`: where both tasks stand, and a record of what went through.
* `Sys.step`: one step, where it can be taken.
-/

namespace Httpunk.Server

inductive Protocol where
  | h1
  | h2
  deriving DecidableEq

/-- What is raised: the exception of the producer, or the stop. -/
inductive Exc where
  | body (n : Nat)
  | stop
  deriving DecidableEq

/-- `_pump_async_body`, by its next step. -/
inductive PumpTask where
  /-- The producer's next chunk. -/
  | pulling
  | sending
  /-- The trailers, the empty frame with END_STREAM, or the terminator. -/
  | ending
  /-- `done.set()` after it. -/
  | marking
  /-- `box.append`. -/
  | boxing (e : Exc)
  /-- `aclose_body`. -/
  | closing
  /-- `done.set()` of the `finally`. -/
  | setting
  | ended
  deriving DecidableEq

/-- `_send_async_body`, by its next step. -/
inductive SendTask where
  /-- `select_events`. -/
  | waiting
  /-- `abandoned` is read off the flags. -/
  | deciding
  /-- `scope.cancel()`, unless the pump is done. -/
  | cancelling
  /-- The scope's exit, which waits for a pump that is not cancelled. -/
  | leaving
  /-- `done.wait()`. -/
  | joining
  | judging
  | returned
  | raised (e : Exc)
  deriving DecidableEq

/-- How a call of the pump returns. -/
inductive Answer where
  | ok
  /-- The producer has no more. -/
  | last
  /-- An `Exception`. -/
  | raises (n : Nat)
  /-- Any other exception, a cancellation of the producer's own among them. -/
  | base
  deriving DecidableEq

/-- The two tasks.  `stopped` is the reset of the stream, or the FIN of the client, and `evt` the
event that it sets.  Of the record: whether the whole body and its end went out, and how often the
producer was closed. -/
structure Sys where
  protocol : Protocol
  pump : PumpTask
  sender : SendTask
  done : Bool
  box : Option Exc
  stopped : Bool
  evt : Bool
  abandoned : Bool
  cancelled : Bool
  queued : Bool
  closed : Nat
  deriving DecidableEq

namespace Sys

def init (protocol : Protocol) : Sys where
  protocol := protocol
  pump := .pulling
  sender := .waiting
  done := false
  box := none
  stopped := false
  evt := false
  abandoned := false
  cancelled := false
  queued := false
  closed := 0

/-- What may happen. -/
inductive Action where
  | pump (a : Answer)
  | send
  /-- The pump is cancelled where it waits. -/
  | deliver
  /-- The stream is reset, or the client's FIN is read. -/
  | stop
  | notify
  /-- The window of an HTTP/1 response is closed by another call on its request. -/
  | window
  deriving DecidableEq

/-- A write of the pump: one on a stream that is stopped raises. -/
def write (s : Sys) (a : Answer) (next : Sys) : Sys :=
  if s.protocol = .h2 ∧ s.stopped then { s with pump := .boxing .stop }
  else
    match a with
    | .ok | .last => next
    | .raises _ => { s with pump := .boxing .stop }
    | .base => { s with pump := .closing }

/-- The next step of the pump. -/
def pumpStep (s : Sys) (a : Answer) : Option Sys :=
  match s.pump with
  | .pulling => some { s with pump := match a with
      | .ok => .sending
      | .last => .ending
      | .raises n => .boxing (.body n)
      | .base => .closing }
  | .sending => some (s.write a { s with pump := .pulling })
  | .ending => some (s.write a { s with pump := .marking, queued := true })
  | .marking => some { s with pump := .closing, done := true }
  | .boxing e => some { s with pump := .closing, box := some e }
  | .closing =>
    -- an `Exception` of the cleanup is swallowed; any other leaves the `finally`
    some { s with closed := s.closed + 1, pump := if a = .base then .ended else .setting }
  | .setting => some { s with pump := .ended, done := true }
  | .ended => none

/-- The cancellation reaches the pump at an `await`. -/
def deliver (s : Sys) : Option Sys :=
  if s.cancelled then
    match s.pump with
    | .pulling | .sending | .ending => some { s with cancelled := false, pump := .closing }
    | .closing => some { s with cancelled := false, pump := .ended, closed := s.closed + 1 }
    | _ => none
  else none

/-- What `abandoned` is read as: on HTTP/1 the event may be of the window's close. -/
def looksAbandoned (s : Sys) : Bool :=
  match s.protocol with
  | .h2 => !s.done
  | .h1 => !s.done && s.stopped

/-- The next step of the task that responds. -/
def sendStep (s : Sys) : Option Sys :=
  match s.sender with
  | .waiting => if s.done || s.evt then some { s with sender := .deciding } else none
  | .deciding => some { s with sender := .cancelling, abandoned := s.looksAbandoned }
  | .cancelling =>
    if s.done then some { s with sender := .leaving }
    else some { s with sender := .joining, cancelled := true }
  | .leaving => if s.pump = .ended then some { s with sender := .joining } else none
  | .joining => if s.done then some { s with sender := .judging } else none
  | .judging => some { s with sender :=
      if s.abandoned then .raised .stop
      else
        match s.box with
        | some e => .raised e
        | none => .returned }
  | .returned | .raised _ => none

/-- One step, where it can be taken. -/
def step (s : Sys) : Action → Option Sys
  | .pump a => s.pumpStep a
  | .send => s.sendStep
  | .deliver => s.deliver
  | .stop => some { s with stopped := true }
  | .notify => if s.stopped then some { s with evt := true } else none
  | .window => if s.protocol = .h1 then some { s with evt := true } else none

/-- The step as a relation. -/
def Step (s : Sys) (a : Action) (s' : Sys) : Prop := s.step a = some s'

end Sys

end Httpunk.Server
