import Mathlib

/-!
# H2 — Proto — FlowControl

The vendored `proto/streams/flow_control.rs`.  A `Window` is an `i32`: it carries its range, so
that every checked addition is visible as one.  A window update is a pair of the value left
behind and the error, since the calls that change both counters can fail between the two.

* `Window.increaseBy_of_le`, `Window.decreaseBy_of_le`: what the checked operations do when the
  result fits.
* `FlowControl.grant_spec`: a window and its capacity grow together, or the window overflows
  and neither moves.
* `fcSendData_ok`, `fcSendData_error`: `fc_send_data` takes the same amount off both counters,
  or the window is too small and neither moves.
-/

namespace Httpunk.H2

/-! ### Error codes -/

/-- The `Reason` of `frame/reason.rs`: a 32-bit error code. -/
abbrev Reason : Type := Nat

namespace Reason

def noError : Reason := 0
def protocolError : Reason := 1
def internalError : Reason := 2
def flowControlError : Reason := 3
def settingsTimeout : Reason := 4
def streamClosed : Reason := 5
def frameSizeError : Reason := 6
def refusedStream : Reason := 7
def cancel : Reason := 8
def compressionError : Reason := 9
def connectError : Reason := 10
def enhanceYourCalm : Reason := 11

end Reason

/-! ### Windows -/

/-- `frame::DEFAULT_INITIAL_WINDOW_SIZE`. -/
def defaultInitialWindowSize : Nat := 65535

/-- `MAX_WINDOW_SIZE`, the largest window the wire can announce. -/
def maxWindowSize : Nat := 2 ^ 31 - 1

/-- `x as i32`, of any integer. -/
def asI32 (x : Int) : Int := Int.bmod x (2 ^ 32)

/-- `x as u32`, of an `i32`. -/
def asU32 (x : Int) : Nat := (x % 2 ^ 32).toNat

theorem asI32_of_mem {x : Int} (h₁ : -2 ^ 31 ≤ x) (h₂ : x < 2 ^ 31) : asI32 x = x := by
  rw [asI32, Int.bmod_def]
  omega

theorem asI32_natCast {n : Nat} (h : n ≤ maxWindowSize) : asI32 n = n := by
  unfold maxWindowSize at h
  exact asI32_of_mem (by omega) (by omega)

theorem asU32_of_mem {x : Int} (h₁ : 0 ≤ x) (h₂ : x < 2 ^ 32) : (asU32 x : Int) = x := by
  unfold asU32
  omega

/-- The `i32` of `flow_control.rs`, with its range. -/
@[ext] structure Window where
  val : Int
  lower : -2 ^ 31 ≤ val
  upper : val < 2 ^ 31
  deriving DecidableEq, Repr

namespace Window

def zero : Window := ⟨0, by decide, by decide⟩

/-- `checked_add` of a signed amount. -/
def shift (w : Window) (d : Int) : Option Window :=
  if h : -2 ^ 31 ≤ w.val + d ∧ w.val + d < 2 ^ 31 then some ⟨w.val + d, h.1, h.2⟩ else none

/-- `Window::as_size`. -/
def asSize (w : Window) : Nat := w.val.toNat

/-- `Window::increase_by`. -/
def increaseBy (w : Window) (other : Nat) : Window × Option Reason :=
  match w.shift (asI32 other) with
  | some v => (v, none)
  | none => (w, some .flowControlError)

/-- `Window::decrease_by`. -/
def decreaseBy (w : Window) (other : Nat) : Window × Option Reason :=
  match w.shift (-asI32 other) with
  | some v => (v, none)
  | none => (w, some .flowControlError)

theorem shift_eq_some {w v : Window} {d : Int} : w.shift d = some v ↔ v.val = w.val + d := by
  constructor
  · intro h
    unfold shift at h
    split at h
    · cases h; rfl
    · cases h
  · intro h
    have := v.lower
    have := v.upper
    rw [shift, dif_pos (by omega)]
    exact congrArg some (Window.ext h.symm)

theorem shift_eq_none {w : Window} {d : Int} :
    w.shift d = none ↔ w.val + d < -2 ^ 31 ∨ 2 ^ 31 ≤ w.val + d := by
  unfold shift
  split <;> simp <;> omega

theorem increaseBy_ok {w v : Window} {n : Nat} (hn : n ≤ maxWindowSize) :
    w.increaseBy n = (v, none) ↔ v.val = w.val + n := by
  rw [← shift_eq_some, increaseBy, asI32_natCast hn]
  cases w.shift (n : Int) <;> simp

theorem decreaseBy_ok {w v : Window} {n : Nat} (hn : n ≤ maxWindowSize) :
    w.decreaseBy n = (v, none) ↔ v.val = w.val - n := by
  rw [Int.sub_eq_add_neg, ← shift_eq_some, decreaseBy, asI32_natCast hn]
  cases w.shift (-(n : Int)) <;> simp

theorem increaseBy_of_le {w : Window} {n : Nat} (h : w.val + n < 2 ^ 31)
    (hn : n ≤ maxWindowSize) : ∃ v, w.increaseBy n = (v, none) ∧ v.val = w.val + n := by
  have hl := w.lower
  exact ⟨⟨w.val + n, by omega, h⟩, (increaseBy_ok hn).mpr rfl, rfl⟩

theorem decreaseBy_of_le {w : Window} {n : Nat} (h : -2 ^ 31 ≤ w.val - n)
    (hn : n ≤ maxWindowSize) : ∃ v, w.decreaseBy n = (v, none) ∧ v.val = w.val - n := by
  have hu := w.upper
  exact ⟨⟨w.val - n, h, by omega⟩, (decreaseBy_ok hn).mpr rfl, rfl⟩

theorem decreaseBy_error {w v : Window} {n : Nat} {r : Reason}
    (h : w.decreaseBy n = (v, some r)) : v = w ∧ r = .flowControlError := by
  unfold decreaseBy at h
  split at h <;> cases h
  exact ⟨rfl, rfl⟩

end Window

/-! ### Flow control -/

/-- `FlowControl`: the window the peer knows about, and the capacity we know about. -/
@[ext] structure FlowControl where
  windowSize : Window
  available : Window
  deriving DecidableEq, Repr

namespace FlowControl

/-- `FlowControl::new`. -/
def new : FlowControl := ⟨.zero, .zero⟩

/-- `FlowControl::window_size`. -/
def size (fc : FlowControl) : Nat := fc.windowSize.asSize

/-- `FlowControl::claim_capacity`. -/
def claimCapacity (fc : FlowControl) (capacity : Nat) : FlowControl × Option Reason :=
  let r := fc.available.decreaseBy capacity
  ({ fc with available := r.1 }, r.2)

/-- `FlowControl::assign_capacity`. -/
def assignCapacity (fc : FlowControl) (capacity : Nat) : FlowControl × Option Reason :=
  let r := fc.available.increaseBy capacity
  ({ fc with available := r.1 }, r.2)

/-- `FlowControl::unclaimed_capacity`.  The subtraction is a wrapping `i32` one. -/
def unclaimedCapacity (fc : FlowControl) : Option Nat :=
  if fc.windowSize.val ≥ fc.available.val then none
  else
    let unclaimed := asI32 (fc.available.val - fc.windowSize.val)
    let threshold := fc.windowSize.val.tdiv 2 * 1
    if unclaimed < threshold then none else some (asU32 unclaimed)

/-- `FlowControl::inc_window`. -/
def incWindow (fc : FlowControl) (sz : Nat) : FlowControl × Option Reason :=
  match fc.windowSize.shift (asI32 sz) with
  | none => (fc, some .flowControlError)
  | some val =>
    if val.val > maxWindowSize then (fc, some .flowControlError)
    else ({ fc with windowSize := val }, none)

/-- `FlowControl::dec_send_window`. -/
def decSendWindow (fc : FlowControl) (sz : Nat) : FlowControl × Option Reason :=
  let r := fc.windowSize.decreaseBy sz
  ({ fc with windowSize := r.1 }, r.2)

/-- `FlowControl::dec_recv_window`: the second counter moves only if the first did. -/
def decRecvWindow (fc : FlowControl) (sz : Nat) : FlowControl × Option Reason :=
  match fc.windowSize.decreaseBy sz with
  | (w, some r) => ({ fc with windowSize := w }, some r)
  | (w, none) =>
    let a := fc.available.decreaseBy sz
    (⟨w, a.1⟩, a.2)

/-- `FlowControl::send_data`.  Its assertion that the window covers `sz` is what
`fcSendData` checks before the call. -/
def sendData (fc : FlowControl) (sz : Nat) : FlowControl × Option Reason :=
  if sz > 0 then fc.decRecvWindow sz else (fc, none)

/-- A window opened at `sz`, its capacity assigned. -/
def opened (sz : Nat) : FlowControl := ((new.incWindow sz).1.assignCapacity sz).1

/-- `inc_window` and then, if it went through, `assign_capacity`. -/
def grant (fc : FlowControl) (sz : Nat) : FlowControl × Option Reason :=
  match fc.incWindow sz with
  | (fc, some r) => (fc, some r)
  | (fc, none) => fc.assignCapacity sz

/-- `dec_send_window` and then, if it went through, `claim_capacity`. -/
def shrink (fc : FlowControl) (sz : Nat) : FlowControl × Option Reason :=
  match fc.decSendWindow sz with
  | (fc, some r) => (fc, some r)
  | (fc, none) => fc.claimCapacity sz

end FlowControl

/-- `fc_send_data` of `conn.rs`: the overrun is an error instead of a failed assertion. -/
def fcSendData (fc : FlowControl) (sz : Nat) : FlowControl × Option Reason :=
  if sz > 0 ∧ fc.size < sz then (fc, some .flowControlError) else fc.sendData sz

/-! ### What the operations do -/

namespace FlowControl

theorem incWindow_ok {fc fc' : FlowControl} {n : Nat} (hn : n ≤ maxWindowSize)
    (h : fc.incWindow n = (fc', none)) :
    fc'.windowSize.val = fc.windowSize.val + n ∧ fc'.available = fc.available := by
  unfold incWindow at h
  rw [asI32_natCast hn] at h
  split at h
  · cases h
  · next v hv =>
    split at h <;> cases h
    exact ⟨Window.shift_eq_some.mp hv, rfl⟩

theorem incWindow_error {fc fc' : FlowControl} {n : Nat} {r : Reason} (hn : n ≤ maxWindowSize)
    (h : fc.incWindow n = (fc', some r)) :
    fc' = fc ∧ r = .flowControlError ∧ 2 ^ 31 ≤ fc.windowSize.val + n := by
  unfold incWindow at h
  rw [asI32_natCast hn] at h
  have hl := fc.windowSize.lower
  split at h
  · next hv =>
    cases h
    exact ⟨rfl, rfl, by have := Window.shift_eq_none.mp hv; omega⟩
  · next v _ =>
    have hu := v.upper
    unfold maxWindowSize at h
    split at h
    · omega
    · cases h

theorem incWindow_of_lt {fc : FlowControl} {n : Nat} (hn : n ≤ maxWindowSize)
    (h : fc.windowSize.val + n < 2 ^ 31) : ∃ w : Window,
      fc.incWindow n = ({ fc with windowSize := w }, none) ∧ w.val = fc.windowSize.val + n := by
  rcases hi : fc.incWindow n with ⟨fc', _ | r⟩
  · obtain ⟨hw, ha⟩ := incWindow_ok hn hi
    exact ⟨fc'.windowSize, by rw [FlowControl.mk.injEq .. |>.mpr ⟨rfl, ha.symm⟩], hw⟩
  · obtain ⟨-, -, ho⟩ := incWindow_error hn hi
    omega

/-- **A grant moves both counters or neither.** -/
theorem grant_spec {fc : FlowControl} {n : Nat} (hn : n ≤ maxWindowSize)
    (hp : fc.available = fc.windowSize) :
    (∃ w : Window, fc.grant n = (⟨w, w⟩, none) ∧ w.val = fc.windowSize.val + n) ∨
      (fc.grant n = (fc, some .flowControlError) ∧ 2 ^ 31 ≤ fc.windowSize.val + n) := by
  rcases hi : fc.incWindow n with ⟨fc', _ | r⟩
  · obtain ⟨hw, ha⟩ := incWindow_ok hn hi
    have hinc : fc'.available.increaseBy n = (fc'.windowSize, none) :=
      (Window.increaseBy_ok hn).mpr (by rw [ha, hp, hw])
    exact .inl ⟨fc'.windowSize, by simp only [grant, hi, assignCapacity, hinc], hw⟩
  · obtain ⟨rfl, rfl, ho⟩ := incWindow_error hn hi
    exact .inr ⟨by simp only [grant, hi], ho⟩

theorem grant_ok {fc fc' : FlowControl} {n : Nat} (hn : n ≤ maxWindowSize)
    (hp : fc.available = fc.windowSize) (h : fc.grant n = (fc', none)) :
    fc'.available = fc'.windowSize ∧ fc'.windowSize.val = fc.windowSize.val + n := by
  rcases grant_spec hn hp with ⟨w, hg, hv⟩ | ⟨hg, -⟩
  · rw [hg] at h
    cases h
    exact ⟨rfl, hv⟩
  · rw [hg] at h
    cases h

/-- **A shrink moves both counters or neither.** -/
theorem shrink_spec {fc : FlowControl} {n : Nat} (hn : n ≤ maxWindowSize)
    (hp : fc.available = fc.windowSize) :
    (∃ w : Window, fc.shrink n = (⟨w, w⟩, none) ∧ w.val = fc.windowSize.val - n) ∨
      (fc.shrink n = (fc, some .flowControlError) ∧ fc.windowSize.val - n < -2 ^ 31) := by
  rcases hd : fc.windowSize.decreaseBy n with ⟨w, _ | r⟩
  · have hw := (Window.decreaseBy_ok hn).mp hd
    exact .inl ⟨w, by simp only [shrink, decSendWindow, hd, claimCapacity, hp], hw⟩
  · obtain ⟨rfl, rfl⟩ := Window.decreaseBy_error hd
    refine .inr ⟨by simp only [shrink, decSendWindow, hd], ?_⟩
    by_contra hc
    obtain ⟨v, hv, -⟩ := Window.decreaseBy_of_le (w := fc.windowSize) (by omega) hn
    rw [hd] at hv
    cases hv

theorem opened_spec {n : Nat} (hn : n ≤ maxWindowSize) :
    ∃ w : Window, opened n = ⟨w, w⟩ ∧ w.val = n := by
  have hu : n < 2 ^ 31 := by unfold maxWindowSize at hn; omega
  obtain ⟨w, hw, hv⟩ := incWindow_of_lt hn
    (show new.windowSize.val + n < 2 ^ 31 by simp [new, Window.zero]; omega)
  have hv' : w.val = Window.zero.val + n := hv
  refine ⟨w, ?_, by simpa [Window.zero] using hv'⟩
  have hinc : new.available.increaseBy n = (w, none) := (Window.increaseBy_ok hn).mpr hv'
  simp only [opened, hw, assignCapacity, hinc]

/-- An announced increment is the whole gap between the two counters. -/
theorem unclaimedCapacity_eq_some {fc : FlowControl} {n : Nat} (hw : 0 ≤ fc.windowSize.val)
    (h : fc.unclaimedCapacity = some n) :
    (n : Int) = fc.available.val - fc.windowSize.val ∧ 0 < n ∧ n ≤ maxWindowSize := by
  unfold unclaimedCapacity at h
  have ha := fc.available.upper
  split at h
  · cases h
  · next hlt =>
    have he : asI32 (fc.available.val - fc.windowSize.val) =
        fc.available.val - fc.windowSize.val := asI32_of_mem (by omega) (by omega)
    simp only [he] at h
    split at h
    · cases h
    · cases h
      have hu := asU32_of_mem (x := fc.available.val - fc.windowSize.val) (by omega) (by omega)
      unfold maxWindowSize
      omega

end FlowControl

/-- **A charge comes off both counters.**  It goes through only within the window. -/
theorem fcSendData_ok {fc fc' : FlowControl} {n : Nat} (h : fcSendData fc n = (fc', none)) :
    fc'.windowSize.val = fc.windowSize.val - n ∧ fc'.available.val = fc.available.val - n ∧
      (n = 0 ∨ (n : Int) ≤ fc.windowSize.val) := by
  unfold fcSendData FlowControl.sendData at h
  have hu := fc.windowSize.upper
  split at h
  · cases h
  · next hn =>
    unfold FlowControl.size Window.asSize at hn
    split at h
    · next hpos =>
      have hmax : n ≤ maxWindowSize := by unfold maxWindowSize; omega
      rcases hd : fc.windowSize.decreaseBy n with ⟨w, _ | r⟩
      · rcases ha : fc.available.decreaseBy n with ⟨a, _ | r⟩
        · simp only [FlowControl.decRecvWindow, hd, ha, Prod.mk.injEq, and_true] at h
          subst h
          exact ⟨(Window.decreaseBy_ok hmax).mp hd, (Window.decreaseBy_ok hmax).mp ha,
            .inr (by omega)⟩
        · simp [FlowControl.decRecvWindow, hd, ha] at h
      · simp [FlowControl.decRecvWindow, hd] at h
    · cases h
      exact ⟨by omega, by omega, .inl (by omega)⟩

theorem fcSendData_paired {fc fc' : FlowControl} {n : Nat} (hp : fc.available = fc.windowSize)
    (h : fcSendData fc n = (fc', none)) : fc'.available = fc'.windowSize := by
  obtain ⟨hw, ha, -⟩ := fcSendData_ok h
  exact Window.ext (by rw [hw, ha, hp])

/-- A charge that fails leaves both counters, where the capacity covers the window. -/
theorem fcSendData_error {fc fc' : FlowControl} {n : Nat} {r : Reason}
    (hle : fc.windowSize.val ≤ fc.available.val) (h : fcSendData fc n = (fc', some r)) :
    fc' = fc ∧ r = .flowControlError ∧ fc.size < n := by
  unfold fcSendData FlowControl.sendData at h
  have hu := fc.windowSize.upper
  split at h
  · next hn =>
    cases h
    exact ⟨rfl, rfl, hn.2⟩
  · next hn =>
    unfold FlowControl.size Window.asSize at hn
    split at h
    · next hpos =>
      have hmax : n ≤ maxWindowSize := by unfold maxWindowSize; omega
      obtain ⟨w, hw, -⟩ := Window.decreaseBy_of_le (w := fc.windowSize) (n := n) (by omega) hmax
      obtain ⟨a, ha, -⟩ := Window.decreaseBy_of_le (w := fc.available) (n := n) (by omega) hmax
      simp [FlowControl.decRecvWindow, hw, ha] at h
    · cases h

theorem fcSendData_of_le {fc : FlowControl} {n : Nat}
    (hle : fc.windowSize.val ≤ fc.available.val) (h : n ≤ fc.size) :
    ∃ fc', fcSendData fc n = (fc', none) := by
  rcases hs : fcSendData fc n with ⟨fc', _ | r⟩
  · exact ⟨fc', rfl⟩
  · have := (fcSendData_error hle hs).2.2
    omega

end Httpunk.H2
