import Httpunk.H2.Driver.LaneSteps

/-!
# H2 — Driver — Senders

The sends of DATA under way: `_try_send_data` and `_send_data` of `httpunk/h2/connection.py`, and the
inline attempt of the client (`_send_body_inline`), which hands the rest to a task.  A step of a send
is one locked call, or its task running on, which may come at any time.

* `Sending`: a send, and where it stands.
* `Senders.step`: the driver with its sends, in any interleaving; a send that waits may be cancelled.
-/

namespace Httpunk.H2

/-- Where a send stands. -/
inductive SendStage where
  /-- `send_data` is next. -/
  | trying
  /-- So it is, after `window_evt` was cleared. -/
  | retrying
  /-- Its task waits for `window_evt`, or has not begun. -/
  | parked
  /-- The inline attempt is over, and `writer_start` is next. -/
  | spawning
  deriving DecidableEq

/-- A call of `_send_data`, or the inline attempt with the task that it is handed to. -/
structure Sending where
  sid : Nat
  data : Bytes
  offset : Nat
  endStream : Bool
  inline : Bool
  stage : SendStage
  deriving DecidableEq

namespace Sending

/-- After "no window now". -/
def noWindow (t : Sending) : Sending :=
  match t.stage with
  | .trying => { t with stage := if t.inline then .spawning else .retrying }
  | .retrying | .parked | .spawning => { t with stage := .parked }

/-- After one `send_data`, unless the send is over. -/
def after (t : Sending) : Except Err SendVerdict → Option Sending
  | .error _ => none
  | .ok v =>
    if v.stopped.isSome then none
    else if v.done then none
    else if v.sent = 0 then some t.noWindow
    else some { t with offset := t.offset + v.sent }

theorem noWindow_same (t : Sending) : t.noWindow.sid = t.sid ∧ t.noWindow.data = t.data := by
  unfold noWindow
  split <;> exact ⟨rfl, rfl⟩

/-- A send goes on with its data. -/
theorem after_same {t t' : Sending} {r : Except Err SendVerdict} (h : t.after r = some t') :
    t'.sid = t.sid ∧ t'.data = t.data := by
  unfold after at h
  split at h
  · cases h
  · repeat' split at h
    · cases h
    · cases h
    · cases h
      exact t.noWindow_same
    · cases h
      exact ⟨rfl, rfl⟩

/-- A send that is over was done, or stopped. -/
theorem after_none {t : Sending} {v : SendVerdict} (h : t.after (.ok v) = none) :
    v.done = true ∨ v.stopped.isSome = true := by
  unfold after at h
  dsimp only at h
  repeat' split at h
  · next hs => exact .inr hs
  · next hd => exact .inl hd
  · cases h
  · cases h

end Sending

/-- The driver and its sends. -/
structure Senders where
  sys : Sys
  sends : Store Nat Sending

namespace Senders

def init (cfg : Config) : Senders := ⟨.init cfg, ∅⟩

/-- What a step is: a step of the driver that sends no DATA; a send that starts, makes its next call,
runs on, is handed to a task, or is cancelled as it waits. -/
inductive Action where
  | sys (a : Sys.Action)
  | start (i sid : Nat) (data : Bytes) (offset : Nat) (endStream inline : Bool)
  | go (i : Nat)
  | wake (i : Nat)
  | spawn (i : Nat)
  | cancel (i : Nat)

/-- A call of `send_data`. -/
def isSend : Sys.Action → Bool
  | .call (.sendData _ _ _ _) => true
  | _ => false

/-- What becomes of a send. -/
def put (s : Senders) (i : Nat) : Option Sending → Senders
  | some t => { s with sends := s.sends.insert i t }
  | none => { s with sends := s.sends.erase i }

/-- The next `send_data` of a send. -/
def send (s : Senders) (i : Nat) (t : Sending) : Senders :=
  ({ s with sys := s.sys.call (.sendData t.sid t.data t.offset t.endStream) }).put i
    (t.after (s.sys.inner.sendData t.sid t.data t.offset t.endStream).2)

/-- `writer_start` for the rest of an inline attempt. -/
def spawn (s : Senders) (i : Nat) (t : Sending) : Senders :=
  ({ s with sys := s.sys.call .writerStart }).put i
    (if s.sys.inner.writerStart.2 then some { t with stage := .parked, inline := false } else none)

/-- One step, where it can be taken. -/
def step (s : Senders) : Action → Option Senders
  | .sys a => if isSend a then none else (s.sys.step a).map fun σ => { s with sys := σ }
  | .start i sid data offset endStream inline =>
    match s.sends.lookup i with
    | some _ => none
    | none => some (s.put i (some ⟨sid, data, offset, endStream, inline, .trying⟩))
  | .go i =>
    (s.sends.lookup i).bind fun t =>
      match t.stage with
      | .trying | .retrying => some (s.send i t)
      | .parked | .spawning => none
  | .wake i =>
    (s.sends.lookup i).bind fun t =>
      if t.stage = .parked then some (s.put i (some { t with stage := .trying })) else none
  | .spawn i =>
    (s.sends.lookup i).bind fun t => if t.stage = .spawning then some (s.spawn i t) else none
  | .cancel i =>
    (s.sends.lookup i).bind fun t => if t.stage = .parked then some (s.put i none) else none

theorem lookup_put (s : Senders) (i : Nat) (r : Option Sending) (j : Nat) :
    (s.put i r).sends.lookup j = if j = i then r else s.sends.lookup j := by
  cases r with
  | none => exact Store.lookup_erase' _ _ _
  | some t => exact Store.lookup_insert' _ _ _ _

theorem put_sys (s : Senders) (i : Nat) (r : Option Sending) : (s.put i r).sys = s.sys := by
  cases r <;> rfl

/-- A step as a relation. -/
abbrev Step (s : Senders) (a : Action) (s' : Senders) : Prop := s.step a = some s'

end Senders

end Httpunk.H2
