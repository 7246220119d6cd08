import Httpunk.H1.Server.Driver

/-!
# H1 — Server — Frame

What the methods of the connection state leave alone.

* `Inner.Turn`: the part of the state that decides who responds, kept by everything but the next
  request and the methods on the response's head.
-/

namespace Httpunk.H1

namespace Inner

variable {W : Wire} (me : Inner W)

/-! ### Whose turn it is -/

/-- What decides who responds to which request. -/
structure Turn where
  seq : Nat
  nextSeq : Nat
  responded : Bool
  headPending : Bool
  continueSent : Bool
  deriving DecidableEq

/-- The turn of the next request. -/
def Turn.next (t : Turn) : Turn where
  seq := t.nextSeq
  nextSeq := t.nextSeq + 1
  responded := false
  headPending := false
  continueSent := false

def turn (me : Inner W) : Turn where
  seq := me.current.seq
  nextSeq := me.nextSeq
  responded := me.current.responded
  headPending := me.current.headPending
  continueSent := me.current.continueSent

@[simp] theorem turn_setDecoder (seq : Nat) (d : BodyDecoder W) :
    (me.setDecoder seq d).turn = me.turn := rfl

@[simp] theorem turn_feedDecoderLeftover : me.feedDecoderLeftover.turn = me.turn := by
  unfold feedDecoderLeftover
  split <;> rfl

@[simp] theorem turn_readyForNext : me.readyForNext.turn = me.turn :=
  me.turn_feedDecoderLeftover

@[simp] theorem turn_closeNow : me.closeNow.1.turn = me.turn := by
  unfold closeNow
  dsimp only
  split <;> rfl

@[simp] theorem turn_armDecision (done : Nat) : (me.armDecision done).1.turn = me.turn := by
  unfold armDecision
  dsimp only
  repeat' split
  all_goals first | rfl | exact me.turn_feedDecoderLeftover

@[simp] theorem turn_armWatcher (seq done : Nat) (want negotiated : Bool) :
    (me.armWatcher seq done want negotiated).1.turn = me.turn := by
  unfold armWatcher
  split
  · rfl
  · exact turn_armDecision _ _

@[simp] theorem turn_storeWatcherHandle (handle : Nat) :
    (me.storeWatcherHandle handle).1.turn = me.turn := by
  unfold storeWatcherHandle
  repeat' split
  all_goals rfl

@[simp] theorem turn_watcherCompleted (data : Option Bytes) (error : Bool) :
    (me.watcherCompleted data error).1.turn = me.turn := by
  unfold watcherCompleted
  dsimp only
  repeat' split
  all_goals rfl

@[simp] theorem turn_watcherAborted : me.watcherAborted.turn = me.turn := rfl

@[simp] theorem turn_takeWatcherHandle : me.takeWatcherHandle.1.turn = me.turn := rfl

@[simp] theorem turn_takeWatcherResult : me.takeWatcherResult.1.turn = me.turn := by
  unfold takeWatcherResult
  split <;> rfl

@[simp] theorem turn_readVerdict (now : Nat) : (me.readVerdict now).1.turn = me.turn := by
  unfold readVerdict
  dsimp only
  repeat' split
  all_goals rfl

@[simp] theorem turn_beginRead (now : Nat) : (me.beginRead now).1.turn = me.turn := by
  unfold beginRead
  repeat' split
  · rfl
  · rfl
  · exact me.turn_closeNow
  · rfl
  · rw [turn_readVerdict, turn_readyForNext]

@[simp] theorem turn_drainDone (complete : Bool) (now : Nat) :
    (me.drainDone complete now).1.turn = me.turn := by
  unfold drainDone
  dsimp only
  split
  · exact turn_closeNow _
  · rw [turn_readVerdict, turn_readyForNext]
    rfl

theorem turn_acceptHead (data : Bytes) : (me.acceptHead data).1.turn = me.turn ∨
    (me.acceptHead data).1.turn = me.turn.next := by
  unfold acceptHead
  dsimp only
  repeat' split
  all_goals first | exact .inl rfl | exact .inr rfl

@[simp] theorem turn_unparkIdleRead : me.unparkIdleRead.1.turn = me.turn := rfl

@[simp] theorem turn_headReadOverdue (timeout now : Nat) :
    (me.headReadOverdue timeout now).1.turn = me.turn := by
  unfold headReadOverdue
  repeat' split
  all_goals first | rfl | exact me.turn_closeNow

@[simp] theorem turn_failRead : me.failRead.turn = me.turn := me.turn_closeNow

@[simp] theorem turn_stopServing : me.stopServing.turn = me.turn := rfl

@[simp] theorem turn_markClosed : me.markClosed.1.turn = me.turn := me.turn_closeNow

@[simp] theorem turn_markUnusable : me.markUnusable.turn = me.turn := rfl

@[simp] theorem turn_requestShutdown : me.requestShutdown.turn = me.turn := by
  unfold requestShutdown
  dsimp only
  split
  · exact turn_closeNow _
  · rfl

@[simp] theorem turn_beginBodyRead (seq : Nat) : (me.beginBodyRead seq).1.turn = me.turn := by
  unfold beginBodyRead
  split <;> rfl

@[simp] theorem turn_endBodyRead (seq : Nat) (complete : Bool) :
    (me.endBodyRead seq complete).turn = me.turn := by
  unfold endBodyRead
  split <;> rfl

@[simp] theorem turn_finishResponse (seq : Nat) : (me.finishResponse seq).1.turn = me.turn := by
  unfold finishResponse
  dsimp only
  repeat' split
  · rfl
  · exact turn_feedDecoderLeftover _
  · rfl
  · exact turn_closeNow _

@[simp] theorem turn_failResponse (seq : Nat) : (me.failResponse seq).turn = me.turn := by
  unfold failResponse
  dsimp only
  split
  · exact turn_closeNow _
  · exact me.turn_closeNow

@[simp] theorem turn_encodeHead (status : Nat) (encoded : Option Encoded) (done : Nat)
    (want : Bool) : (me.encodeHead status encoded done want).1.turn = me.turn := by
  unfold encodeHead
  split
  · rfl
  · cases encoded with
    | none => rfl
    | some enc => exact turn_armDecision _ _

theorem turn_detach (seq : Nat) : (me.detach seq).1.turn = me.turn ∨
    (me.detach seq).1.turn = { me.turn with responded := true } := by
  unfold detach
  dsimp only
  repeat' split
  · exact .inl rfl
  · exact .inl rfl
  · exact .inl rfl
  · exact .inr (turn_feedDecoderLeftover _)

theorem encodeHead_verdict (status : Nat) (encoded : Option Encoded) (done : Nat) (want b : Bool) :
    (me.encodeHead status encoded done want).2 ≠ .ok (.continue, b) := by
  unfold encodeHead
  split
  · exact fun h => by cases h
  · cases encoded <;> exact fun h => by cases h

/-- What `respond_head` makes of a call: stale, a second claim, one put off behind the
`100 Continue`, or the one that stands. -/
theorem respondHead_cases (seq status : Nat) (encoded : Option Encoded) (done : Nat)
    (want : Bool) :
    (me.isCurrent seq = false ∧
      me.respondHead seq status encoded done want = (me, .ok (.stale, false))) ∨
    (me.isCurrent seq = true ∧ me.current.headPending = false ∧ me.current.responded = true ∧
      me.respondHead seq status encoded done want = (me, .ok (.already, false))) ∨
    (me.isCurrent seq = true ∧ me.current.responded = false ∧
      (me.respondHead seq status encoded done want).1.turn =
        { me.turn with responded := true, headPending := true } ∧
      (me.respondHead seq status encoded done want).2 = .ok (.continue, false)) ∨
    (me.isCurrent seq = true ∧ (me.current.headPending = true ∨
        me.current.headPending = false ∧ me.current.responded = false ∧
          me.current.continueSent = false) ∧
      (me.respondHead seq status encoded done want).1.turn =
        { me.turn with
          responded := me.current.responded || !me.current.headPending, headPending := false } ∧
      ∀ b, (me.respondHead seq status encoded done want).2 ≠ .ok (.continue, b)) := by
  unfold respondHead
  dsimp only
  cases hcur : me.isCurrent seq with
  | false => exact .inl ⟨rfl, rfl⟩
  | true =>
    refine .inr ?_
    rw [if_neg (by decide)]
    cases hp : me.current.headPending with
    | true =>
      refine .inr (.inr ⟨rfl, .inl rfl, ?_, encodeHead_verdict _ _ _ _ _⟩)
      rw [if_pos rfl, turn_encodeHead, Bool.not_true, Bool.or_false]
      rfl
    | false =>
      rw [if_neg (by decide)]
      cases hr : me.current.responded with
      | true => exact .inl ⟨rfl, rfl, rfl, rfl⟩
      | false =>
        rw [if_neg (by decide)]
        cases hc : me.current.continueSent with
        | true =>
          refine .inr (.inl ⟨rfl, rfl, ?_, by rw [if_pos rfl]⟩)
          simp only [turn, hc, if_true]
        | false =>
          rw [if_neg (by decide)]
          refine .inr (.inr ⟨rfl, .inr ⟨rfl, rfl, rfl⟩, ?_, encodeHead_verdict _ _ _ _ _⟩)
          rw [turn_encodeHead]
          simp only [turn, hp, hc, Bool.not_false, Bool.or_true]

end Inner

end Httpunk.H1
