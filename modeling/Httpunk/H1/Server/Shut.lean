import Httpunk.H1.Connection
import Httpunk.H1.Server.Driver

/-!
# H1 — Server — Shut

What a shutdown request changes, and what it leaves as it was.

* `Inner.ending`: the state but for what a shutdown request decides.
* `Inner.Tame`: what every method but those of the accept loop leaves alone.
* `Inner.…_ending`: a method does the same whether or not the connection is used again.
-/

namespace Httpunk.H1

namespace Inner

variable {W : Wire} (me : Inner W)

/-- `wants_keep_alive()`, of `respond_head_locked`. -/
def wantsKeepAlive : Bool :=
  me.current.requestKeepAlive && me.keepAliveEnabled && !me.shutdownRequested

/-- The lines of the response head encoded now, with the `Connection` lines the caller gave. -/
def responseLines (connection : List Bytes) : Lines :=
  enforceVersion connection me.current.http10 me.wantsKeepAlive

/-- The state but for what a shutdown request decides: whether the connection is used again. -/
def ending : Inner W :=
  { me with
    reusable := false
    shutdownRequested := true
    current := { me.current with keepAlive := false } }

/-- The current request, if there is one, has its response. -/
def Answered : Prop := me.current.seq = 0 ∨ me.current.responseDone = true

/-- The state holds no byte of a request. -/
def Emptied : Prop := me.buf = [] ∧ me.current.hasDecoder = false

theorem Emptied.decoder {me : Inner W} (h : me.Emptied) : me.decoder = none := by
  unfold Inner.decoder
  rw [if_neg (by rw [h.2]; decide)]

/-! ### What is left alone -/

/-- The accept loop stands where it stood, and what is over stays over. -/
structure Tame (me me' : Inner W) : Prop where
  parked : me'.idleReadParked = me.idleReadParked
  emptied : me.Emptied → me'.Emptied
  answered : me.Answered → me'.Answered
  reusable : me.reusable = false → me'.reusable = false
  shut : me.shutdownRequested = true → me'.shutdownRequested = true

namespace Tame

variable {me}

theorem refl (me : Inner W) : Tame me me := ⟨rfl, id, id, id, id⟩

theorem trans {me₁ me₂ : Inner W} (h : Tame me me₁) (h' : Tame me₁ me₂) : Tame me me₂ :=
  ⟨h'.parked.trans h.parked, h'.emptied ∘ h.emptied, h'.answered ∘ h.answered,
    h'.reusable ∘ h.reusable, h'.shut ∘ h.shut⟩

theorem setDecoder (seq : Nat) (d : BodyDecoder W) : Tame me (me.setDecoder seq d) :=
  ⟨rfl, id, id, id, id⟩

theorem feedDecoderLeftover : Tame me me.feedDecoderLeftover := by
  unfold Inner.feedDecoderLeftover
  split
  · exact refl me
  · next d hd =>
    exact ⟨rfl, fun h => absurd (h.decoder ▸ hd) (Option.some_ne_none d).symm, id, id, id⟩

theorem closeNow : Tame me me.closeNow.1 := by
  unfold Inner.closeNow
  dsimp only
  split <;> exact ⟨rfl, id, id, fun _ => rfl, id⟩

theorem watcher (w : Option Watcher) : Tame me { me with watcher := w } := ⟨rfl, id, id, id, id⟩

theorem armDecision (done : Nat) : Tame me (me.armDecision done).1 := by
  unfold Inner.armDecision
  dsimp only
  repeat' split
  all_goals first | exact refl me | exact feedDecoderLeftover | exact watcher _

theorem armWatcher (seq done : Nat) (want negotiated : Bool) :
    Tame me (me.armWatcher seq done want negotiated).1 := by
  unfold Inner.armWatcher
  split
  · exact refl me
  · refine trans ?_ (armDecision done)
    exact ⟨rfl, id, id, id, id⟩

theorem storeWatcherHandle (handle : Nat) : Tame me (me.storeWatcherHandle handle).1 := by
  unfold Inner.storeWatcherHandle
  repeat' split
  all_goals first | exact refl me | exact watcher _

theorem watcherCompleted (data : Option Bytes) (error : Bool) :
    Tame me (me.watcherCompleted data error).1 := by
  unfold Inner.watcherCompleted
  dsimp only
  repeat' split
  · exact refl me
  · exact ⟨rfl, id, id, fun _ => rfl, id⟩
  · exact watcher _

theorem watcherAborted : Tame me me.watcherAborted := watcher _

theorem takeWatcherHandle : Tame me me.takeWatcherHandle.1 := watcher _

theorem takeWatcherResult : Tame me me.takeWatcherResult.1 := by
  unfold Inner.takeWatcherResult
  split
  · exact refl me
  · exact watcher _

theorem headReadOverdue (timeout now : Nat) : Tame me (me.headReadOverdue timeout now).1 := by
  unfold Inner.headReadOverdue
  repeat' split
  all_goals first | exact refl me | exact closeNow

theorem stopServing : Tame me me.stopServing := ⟨rfl, id, id, fun _ => rfl, id⟩

theorem markUnusable : Tame me me.markUnusable := ⟨rfl, id, id, fun _ => rfl, id⟩

theorem requestShutdown : Tame me me.requestShutdown := by
  unfold Inner.requestShutdown
  dsimp only
  have h : Tame me { me with reusable := false, shutdownRequested := true } :=
    ⟨rfl, id, id, fun _ => rfl, fun _ => rfl⟩
  split
  · exact h.trans closeNow
  · exact h

theorem trySendContinue (seq : Nat) : Tame me (me.trySendContinue seq).1 := by
  unfold Inner.trySendContinue
  dsimp only
  repeat' split
  all_goals exact ⟨rfl, id, id, id, id⟩

theorem beginBodyRead (seq : Nat) : Tame me (me.beginBodyRead seq).1 := by
  unfold Inner.beginBodyRead
  split <;> exact ⟨rfl, id, id, id, id⟩

theorem endBodyRead (seq : Nat) (complete : Bool) : Tame me (me.endBodyRead seq complete) := by
  unfold Inner.endBodyRead
  split <;> exact ⟨rfl, id, id, id, id⟩

theorem encodeHead (status : Nat) (encoded : Option Encoded) (done : Nat) (want : Bool) :
    Tame me (me.encodeHead status encoded done want).1 := by
  unfold Inner.encodeHead
  split
  · exact refl me
  · cases encoded with
    | none => exact refl me
    | some enc =>
      refine trans ?_ (armDecision done)
      exact ⟨rfl, id, id, id, id⟩

theorem respondHead (seq status : Nat) (encoded : Option Encoded) (done : Nat) (want : Bool) :
    Tame me (me.respondHead seq status encoded done want).1 := by
  unfold Inner.respondHead
  dsimp only
  repeat' split
  · exact refl me
  · refine trans ?_ (encodeHead status encoded done want)
    exact ⟨rfl, id, id, id, id⟩
  · exact refl me
  · exact ⟨rfl, id, id, id, id⟩
  · refine trans ?_ (encodeHead status encoded done want)
    exact ⟨rfl, id, id, id, id⟩

/-- The response of the current request is done. -/
theorem responseDone :
    Tame me { me with current := { me.current with responseDone := true } } :=
  ⟨rfl, id, fun _ => .inr rfl, id, id⟩

theorem reusableAnd (b : Bool) : Tame me { me with reusable := me.reusable && b } :=
  ⟨rfl, id, id, fun h => Bool.and_eq_false_iff.mpr (.inl h), id⟩

theorem finishResponse (seq : Nat) : Tame me (me.finishResponse seq).1 := by
  unfold Inner.finishResponse
  dsimp only
  repeat' split
  · exact refl me
  · refine (responseDone.trans feedDecoderLeftover).trans ?_
    exact ⟨rfl, fun h => ⟨rfl, h.2⟩, id, fun _ => rfl, id⟩
  · exact responseDone.trans (reusableAnd _)
  · exact (responseDone.trans (reusableAnd _)).trans closeNow

theorem failResponse (seq : Nat) : Tame me (me.failResponse seq) := by
  unfold Inner.failResponse
  dsimp only
  split
  · exact responseDone.trans closeNow
  · exact closeNow

theorem detach (seq : Nat) : Tame me (me.detach seq).1 := by
  unfold Inner.detach
  dsimp only
  repeat' split
  · exact refl me
  · exact refl me
  · exact refl me
  · have h : Tame me { me with
        current := { me.current with responded := true, responseDone := true } } :=
      ⟨rfl, id, fun _ => .inr rfl, id, id⟩
    refine (h.trans feedDecoderLeftover).trans ?_
    exact ⟨rfl, fun h => ⟨rfl, h.2⟩, id, fun _ => rfl, id⟩

end Tame

/-! ### Under the request -/

@[simp] theorem ending_ending : me.ending.ending = me.ending := rfl

/-- A method's outcome, but for what a shutdown request decides. -/
abbrev Outcome {β : Type} (r : Inner W × β) : Inner W × β := Prod.map ending id r

theorem outcome_iff {β : Type} {r r' : Inner W × β} :
    Outcome r = Outcome r' ↔ r.1.ending = r'.1.ending ∧ r.2 = r'.2 :=
  Prod.ext_iff

theorem outcome_map {β γ : Type} {r r' : Inner W × β} (h : Outcome r = Outcome r') (g : β → γ) :
    Outcome (r.1, g r.2) = Outcome (r'.1, g r'.2) :=
  congrArg (Prod.map id g) h

theorem feedDecoderLeftover_ending :
    me.ending.feedDecoderLeftover = me.feedDecoderLeftover.ending := by
  unfold feedDecoderLeftover
  rw [show me.ending.decoder = me.decoder from rfl]
  cases me.decoder <;> rfl

theorem closeNow_ending : Outcome me.ending.closeNow = Outcome me.closeNow := by
  unfold closeNow
  rw [show me.ending.upgraded = me.upgraded from rfl]
  cases me.upgraded <;> rfl

theorem armDecision_ending (done : Nat) :
    Outcome (me.ending.armDecision done) = Outcome (me.armDecision done) := by
  unfold armDecision
  rw [feedDecoderLeftover_ending]
  simp only [apply_ite Outcome]
  rfl

theorem armWatcher_ending (seq done : Nat) (want negotiated : Bool) :
    Outcome (me.ending.armWatcher seq done want negotiated) =
      Outcome (me.armWatcher seq done want negotiated) := by
  unfold armWatcher
  simp only [apply_ite Outcome]
  rw [← armDecision_ending { me with current := _ }]
  rfl

theorem storeWatcherHandle_ending (handle : Nat) :
    Outcome (me.ending.storeWatcherHandle handle) = Outcome (me.storeWatcherHandle handle) := by
  unfold storeWatcherHandle
  rw [show me.ending.watcher = me.watcher from rfl]
  cases me.watcher <;> simp only [apply_ite Outcome] <;> rfl

theorem watcherCompleted_ending (data : Option Bytes) (error : Bool) :
    Outcome (me.ending.watcherCompleted data error) =
      Outcome (me.watcherCompleted data error) := by
  unfold watcherCompleted
  rw [show me.ending.watcher = me.watcher from rfl]
  cases me.watcher <;> simp only [apply_ite Outcome] <;> rfl

theorem takeWatcherResult_ending :
    Outcome me.ending.takeWatcherResult = Outcome me.takeWatcherResult := by
  unfold takeWatcherResult
  rw [show me.ending.watcher = me.watcher from rfl]
  cases me.watcher <;> rfl

theorem acceptHead_ending (data : Bytes) :
    Outcome (me.ending.acceptHead data) = Outcome (me.acceptHead data) := by
  unfold acceptHead
  simp only [apply_ite Outcome]
  rw [show me.ending.lim = me.lim from rfl, show me.ending.buf = me.buf from rfl]
  cases W.parseHead me.lim (me.buf ++ data) <;> rfl

theorem headReadOverdue_ending (timeout now : Nat) :
    Outcome (me.ending.headReadOverdue timeout now) =
      Outcome (me.headReadOverdue timeout now) := by
  unfold headReadOverdue
  rw [show me.ending.headReadSince = me.headReadSince from rfl]
  cases me.headReadSince with
  | none => simp only [apply_ite Outcome]; rfl
  | some since =>
    have h := congrArg Prod.fst me.closeNow_ending
    simp only [apply_ite Outcome, Prod.map_fst, Prod.map_apply] at h ⊢
    rw [h]
    rfl

theorem requestShutdown_ending : me.ending.requestShutdown.ending = me.requestShutdown.ending := by
  unfold requestShutdown
  simp only [apply_ite ending]
  have h := congrArg Prod.fst (closeNow_ending
    { me with reusable := false, shutdownRequested := true })
  rw [Prod.map_fst, Prod.map_fst] at h
  rw [← h]
  rfl

theorem trySendContinue_ending (seq : Nat) :
    Outcome (me.ending.trySendContinue seq) = Outcome (me.trySendContinue seq) := by
  unfold trySendContinue
  simp only [apply_ite Outcome]
  rfl

theorem beginBodyRead_ending (seq : Nat) :
    Outcome (me.ending.beginBodyRead seq) = Outcome (me.beginBodyRead seq) := by
  unfold beginBodyRead
  simp only [apply_ite Outcome]
  rfl

theorem endBodyRead_ending (seq : Nat) (complete : Bool) :
    (me.ending.endBodyRead seq complete).ending = (me.endBodyRead seq complete).ending := by
  unfold endBodyRead
  simp only [apply_ite ending]
  rfl

/-- The decisions recorded with a head. -/
def recordHead (status : Nat) (enc : Encoded) (want : Bool) : Inner W :=
  { me with current := { me.current with
    isSwitch := (status == 101 && me.current.isUpgrade) ||
      (me.current.isConnect && 200 ≤ status && status < 300)
    keepAlive := !enc.isLast && !enc.closeDelimited
    headNegotiated := true
    watchWanted := me.current.watchWanted || want } }

theorem encodeHead_none (status done : Nat) (want : Bool) :
    me.encodeHead status none done want =
      (me, if me.current.peerClosed then .ok (.peerClosed, false) else .error ()) := by
  unfold encodeHead
  split <;> rfl

theorem encodeHead_some (status : Nat) (enc : Encoded) (done : Nat) (want : Bool) :
    me.encodeHead status (some enc) done want =
      if me.current.peerClosed then (me, .ok (.peerClosed, false))
      else (((me.recordHead status enc want).armDecision done).1,
        .ok (.ok, ((me.recordHead status enc want).armDecision done).2)) := rfl

/-- The head's bytes, and whether it is the last, decide nothing else. -/
theorem encodeHead_ending (status : Nat) {encoded encoded' : Option Encoded}
    (he : encoded.isSome = encoded'.isSome) (done : Nat) (want : Bool) :
    Outcome (me.ending.encodeHead status encoded' done want) =
      Outcome (me.encodeHead status encoded done want) := by
  cases encoded with
  | none =>
    cases encoded' with
    | none => rw [encodeHead_none, encodeHead_none]; rfl
    | some _ => cases he
  | some enc =>
    cases encoded' with
    | none => cases he
    | some enc' =>
      rw [encodeHead_some, encodeHead_some, apply_ite Outcome, apply_ite Outcome]
      have h : Outcome ((me.ending.recordHead status enc' want).armDecision done) =
          Outcome ((me.recordHead status enc want).armDecision done) := by
        rw [← armDecision_ending, ← armDecision_ending (me.recordHead status enc want)]
        rfl
      rw [outcome_map h fun armed => (.ok (.ok, armed) : Except Unit (Req × Bool))]
      rfl

theorem respondHead_ending (seq status : Nat) {encoded encoded' : Option Encoded}
    (he : encoded.isSome = encoded'.isSome) (done : Nat) (want : Bool) :
    Outcome (me.ending.respondHead seq status encoded' done want) =
      Outcome (me.respondHead seq status encoded done want) := by
  unfold respondHead
  simp only [apply_ite Outcome]
  rw [← encodeHead_ending { me with current := { me.current with headPending := false } } status he,
    ← encodeHead_ending { me with current := { me.current with responded := true } } status he]
  rfl

theorem failResponse_ending (seq : Nat) :
    (me.ending.failResponse seq).ending = (me.failResponse seq).ending := by
  unfold failResponse
  simp only [apply_ite ending]
  have h := congrArg Prod.fst me.closeNow_ending
  have h' := congrArg Prod.fst (closeNow_ending
    { me with current := { me.current with responseDone := true } })
  rw [Prod.map_fst, Prod.map_fst] at h h'
  rw [← h, ← h']
  rfl

theorem detach_ending (seq : Nat) :
    Outcome (me.ending.detach seq) = Outcome (me.detach seq) := by
  unfold detach
  simp only [apply_ite Outcome]
  have h : { me.ending with current := { me.ending.current with
      responded := true, responseDone := true } }.feedDecoderLeftover = _ :=
    feedDecoderLeftover_ending
      { me with current := { me.current with responded := true, responseDone := true } }
  rw [h]
  rfl

/-- The response of another request ends nothing. -/
theorem finishResponse_of_not_current {me : Inner W} {seq : Nat} (h : me.isCurrent seq = false) :
    me.finishResponse seq = (me, none) := by
  unfold finishResponse
  rw [if_pos (by rw [h]; rfl)]

/-- No head is read while the current request has no response. -/
theorem beginRead_of_unanswered {me : Inner W} (h : ¬me.Answered) (now : Nat) :
    me.beginRead now = (me, .none) ∨ me.beginRead now = (me, .raise) := by
  unfold beginRead
  obtain ⟨hs, hd⟩ := not_or.mp h
  split
  · exact .inl rfl
  · rw [if_pos (by simp [hs, hd])]
    exact .inr rfl

/-- Once the connection is not used again, no head is begun. -/
theorem beginRead_of_not_reusable {me : Inner W} (h : me.reusable = false) (now : Nat) :
    me.beginRead now = (me, .none) := by
  unfold beginRead
  rw [if_pos (by rw [h]; simp)]

end Inner

end Httpunk.H1
