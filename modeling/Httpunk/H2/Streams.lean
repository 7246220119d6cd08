import Httpunk.H2.Frames

/-!
# H2 — Streams

The numeric state of a stream and of the connection that `streams.rs` keeps beside the vendored
state machine: the declared body length, and the DATA-framing budget.

`Budget` carries its bound, so no run of charges and releases leaves its range.
-/

namespace Httpunk.H2

/-! ### The declared body length -/

/-- `ContentLength`. -/
inductive ContentLength where
  | omitted
  | head
  | remaining (n : Nat)
  deriving DecidableEq

namespace ContentLength

def new (isHead : Bool) : ContentLength := if isHead then .head else .omitted

def isHead : ContentLength → Bool
  | .head => true
  | _ => false

/-- `set`: a parsed `content-length`. -/
def set (c : ContentLength) (value : Nat) : ContentLength :=
  match c with
  | .head => .head
  | _ => .remaining value

/-- `dec`: consume `len` body bytes, `none` when the message declares fewer. -/
def dec (c : ContentLength) (len : Nat) : Option ContentLength :=
  match c with
  | .remaining rem => if len ≤ rem then some (.remaining (rem - len)) else none
  | .head => if len = 0 then some .head else none
  | .omitted => some .omitted

/-- `is_satisfied`: nothing declared is missing. -/
def isSatisfied : ContentLength → Bool
  | .remaining n => n == 0
  | _ => true

end ContentLength

/-! ### The DATA-framing budget -/

/-- `DEFAULT_DATA_FRAME_OVERHEAD_THRESHOLD`. -/
def dataFrameOverheadThreshold : Nat := 256

/-- `DEFAULT_DATA_FRAME_BUDGET`. -/
def defaultDataFrameBudget : Nat := dataFrameOverheadThreshold * 100

/-- `MAX_RECV_EMPTY_DATA_FRAMES`. -/
def maxRecvEmptyDataFrames : Nat := 100

/-- `Budget`: what is left of a maximum. -/
structure Budget where
  current : Nat
  max : Nat
  bounded : current ≤ max
  deriving DecidableEq

namespace Budget

/-- `Budget::consume`. -/
def consume (b : Budget) (n : Nat) : Option Budget :=
  if n > b.current then none
  else some ⟨b.current - n, b.max, Nat.le_trans (Nat.sub_le _ _) b.bounded⟩

/-- `Budget::replenish`. -/
def replenish (b : Budget) (n : Nat) : Budget :=
  ⟨min (b.current + n) b.max, b.max, Nat.min_le_right _ _⟩

end Budget

/-- `DataFrameCounts`. -/
structure DataFrameCounts where
  dataFrameBudget : Budget
  numRecvEmptyDataFrames : Nat
  deriving DecidableEq

/-- `budget_exhausted`. -/
def budgetExhausted : Err :=
  protocolErrWithDebug .enhanceYourCalm "too_many_data_frames" "too_many_data_frames"

namespace DataFrameCounts

/-- `DataFrameCounts::new`: the configured budget, or half the connection window. -/
def new (configured : Option Nat) (connectionWindow : Nat) : DataFrameCounts :=
  let max := configured.getD (Nat.max (connectionWindow / 2) defaultDataFrameBudget)
  ⟨⟨max, max, Nat.le_refl _⟩, 0⟩

/-- `record`: the charge of a received non-final DATA frame.  The count of empty frames moves
even when it is the one over the cap. -/
def record (c : DataFrameCounts) (payloadLen : Nat) : DataFrameCounts × Except Err Nat :=
  if payloadLen = 0 then
    let c := { c with numRecvEmptyDataFrames := c.numRecvEmptyDataFrames + 1 }
    if c.numRecvEmptyDataFrames > maxRecvEmptyDataFrames then (c, .error budgetExhausted)
    else (c, .ok 0)
  else if payloadLen < dataFrameOverheadThreshold then
    let cost := dataFrameOverheadThreshold - payloadLen
    match c.dataFrameBudget.consume cost with
    | none => (c, .error budgetExhausted)
    | some b => ({ c with dataFrameBudget := b }, .ok cost)
  else
    let b := c.dataFrameBudget.replenish (payloadLen - dataFrameOverheadThreshold)
    ({ c with dataFrameBudget := b }, .ok 0)

/-- `release`. -/
def release (c : DataFrameCounts) (charge : Nat) : DataFrameCounts :=
  { c with dataFrameBudget := c.dataFrameBudget.replenish charge }

end DataFrameCounts

end Httpunk.H2
