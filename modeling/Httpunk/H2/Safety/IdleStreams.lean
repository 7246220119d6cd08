import Httpunk.H2.Driver.Senders

/-!
# H2 — Safety — IdleStreams

Who has a place in the send rotation or in the line for connection window.

* `Inner.Occupies`: a stream that can send has a place.
* `Inner.Lanes.sendData_over`: a send that is over leaves its stream none.
* `Sys.occupied_before`: a place is taken by the `send_data` of its stream alone.
* `Senders.occupied_by_sends`: it is occupied only while a send is under way, where no send is given
  up that alone holds a place; and what becomes of one that is.
-/

namespace Httpunk.H2

open Runs (Reach)

namespace Inner

variable {me : Inner} {sid : Nat} {e : StreamEntry} {x : Nat → Prop}

/-- A stream that can send has a place in the rotation, or in the line for connection window. -/
def Occupies (me : Inner) (sid : Nat) : Prop :=
  ∃ e, me.streams.lookup sid = some e ∧ e.sends = true ∧
    (sid ∈ me.pendingSend ∨ sid ∈ me.pendingCapacity)

namespace Lanes

theorem occupies_iff (h : Lanes x me) : me.Occupies sid ↔
    ∃ e, me.streams.lookup sid = some e ∧ e.sends = true ∧ e.placed = true := by
  refine ⟨fun ⟨e, he, hs, hm⟩ => ⟨e, he, hs, ?_⟩, fun ⟨e, he, hs, hp⟩ => ⟨e, he, hs, ?_⟩⟩
  · rw [h.send.mem_iff he hs |>.symm, h.capacity.mem_iff he hs |>.symm] at hm
    exact hm.elim StreamEntry.placed_of_send StreamEntry.placed_of_capacity
  · rw [StreamEntry.placed, Bool.or_eq_true] at hp
    exact hp.imp (h.send.mem_iff he hs).mp (h.capacity.mem_iff he hs).mp

theorem occupies_of_sendFront (h : Lanes x me) (hf : me.sendFront.2 = some sid) :
    me.Occupies sid := by
  obtain ⟨e, he, hp, hs⟩ := h.sendQueue_head hf
  exact h.occupies_iff.mpr ⟨e, he, hs, StreamEntry.placed_of_send hp⟩

theorem occupies_of_capacityFront (h : Lanes x me) (hf : me.capacityFront.2 = some sid) :
    me.Occupies sid := by
  obtain ⟨e, he, hp, hs⟩ := h.capacityQueue_head hf
  exact h.occupies_iff.mpr ⟨e, he, hs, StreamEntry.placed_of_capacity hp⟩

/-! ### A send that is over -/

/-- The frame is queued, and a stream that has no place gets none. -/
theorem queueData_over (h : Lanes x me)
    (hn : ∀ e, me.streams.lookup sid = some e → e.placed = false) (chunk : Bytes)
    (last done : Bool) (before : Nat) (flags : Flags) (hs : e.sends = true)
    (he : (me.queueData sid chunk last done before flags).1.streams.lookup sid = some e) :
    e.placed = false := by
  rw [← Bool.not_eq_true]
  intro hp
  have hq : Stays x (fun _ => False) me (me.queueData sid chunk last done before flags).1 :=
    (Stays.refl _ h).queueData chunk done before flags fun _ a ha hpa => by
      rw [hn a ha] at hpa
      cases hpa
  obtain ⟨e₀, h₀, -, hf₁, hf₂⟩ := hq.had h id he hp hs
  rw [StreamEntry.placed, hf₁, hf₂] at hp
  exact absurd hp (Bool.eq_false_iff.mp (hn e₀ h₀))

/-- What became of the frame. -/
theorem queueData_verdict {chunk : Bytes} {last done : Bool} {before : Nat} {flags : Flags}
    {v : SendVerdict} (hv : (me.queueData sid chunk last done before flags).2 = .ok v)
    (hd : last = true → done = true) : v.stopped = none ∧ v.done = done := by
  unfold Inner.queueData at hv
  dsimp only at hv
  split at hv
  · cases hv
  · split at hv
    · next hlast =>
      split at hv
      · cases hv
      · split at hv
        · cases hv
        · cases hv
          exact ⟨rfl, (hd hlast).symm⟩
    · cases hv
      exact ⟨rfl, rfl⟩

theorem frameData_over (h : Lanes x me) (he : me.streams.lookup sid = some e)
    (hf : e.isPendingSend = true) (hse : e.sends = true) (data : Bytes) (offset : Nat)
    (endStream : Bool) (budget before : Nat) {v : SendVerdict}
    (hv : (me.frameData sid e data offset endStream budget before).2 = .ok v)
    (ho : v.done = true ∨ v.stopped.isSome = true) {a : StreamEntry} (hs : a.sends = true)
    (ha : (me.frameData sid e data offset endStream budget before).1.streams.lookup sid = some a) :
    a.placed = false := by
  unfold Inner.frameData at hv ha
  dsimp only at hv ha
  split at hv
  · cases hv
  · next conn hconn =>
    rw [hconn] at ha
    dsimp only at ha
    split at hv
    · cases hv
    · next fc hfc =>
      rw [hfc] at ha
      dsimp only at ha
      obtain ⟨hrun, hdone⟩ := queueData_verdict hv fun hl => (Bool.and_eq_true_iff.mp hl).2
      rw [hrun, hdone] at ho
      have hwant := ho.resolve_right (by simp)
      rw [beq_iff_eq] at hwant
      have hput : Lanes x ({ me with connSend := conn }.setStream sid { e with
          sendFlow := fc
          sendBuffered := e.sendBuffered +
            min (min budget (data.length - offset)) me.peer.maxFrameSize
          turnFrames := e.turnFrames + 1 }) :=
        h.set he ⟨rfl, rfl, .inl hf, rfl, .refl _, fun _ hsend => .inr hsend⟩
      have hqueued := ((Stays.refl (fun _ => True) hput).afterFrame (AList.lookup_insert _) hse
        trivial (min (min budget (data.length - offset)) me.peer.maxFrameSize)
        (data.length - offset)).lanes
      -- a chunk that is queued whole leaves the rotation, and was not in the line
      refine hqueued.queueData_over (fun b hb => ?_) _ _ _ _ _ hs ha
      unfold Inner.afterFrame at hb
      rw [if_pos hwant, lookup_leaveSendQueue, if_pos rfl] at hb
      obtain ⟨c, hc, rfl⟩ := Option.map_eq_some_iff.mp hb
      have hcf : c.isPendingSend = true := by
        obtain rfl := Option.some.inj ((AList.lookup_insert _).symm.trans hc)
        exact hf
      rw [if_pos hcf]
      exact StreamEntry.placed_eq_false.mpr ⟨rfl, (hput.fits sid c hc).one hcf⟩

theorem noWindow_runs (flags : Flags) : ¬((SendVerdict.noWindow flags).done = true ∨
    (SendVerdict.noWindow flags).stopped.isSome = true) := by
  simp [SendVerdict.noWindow]

theorem sendTurn_over (h : Lanes x me)
    (hf : ∃ e, me.streams.lookup sid = some e ∧ e.isPendingSend = true ∧ e.sends = true)
    (data : Bytes) (offset : Nat) (endStream : Bool) (budget before : Nat) {v : SendVerdict}
    (hv : (me.sendTurn sid data offset endStream budget before).2 = .ok v)
    (ho : v.done = true ∨ v.stopped.isSome = true) {a : StreamEntry} (hs : a.sends = true)
    (ha : (me.sendTurn sid data offset endStream budget before).1.streams.lookup sid = some a) :
    a.placed = false := by
  obtain ⟨e, he, hf, hse⟩ := hf
  unfold Inner.sendTurn at hv ha
  rw [he] at hv ha
  dsimp only at hv ha
  split at hv
  · cases hv
    exact absurd ho (noWindow_runs _)
  · next hturn =>
    rw [if_neg hturn] at ha
    split at hv
    · cases hv
      exact absurd ho (noWindow_runs _)
    · next hpause =>
      rw [if_neg hpause] at ha
      exact h.frameData_over he hf hse _ _ _ _ _ hv ho hs ha

theorem sendChunk_over (h : Lanes x me) (he : me.streams.lookup sid = some e)
    (hse : e.sends = true) (data : Bytes) (offset : Nat) (endStream : Bool) {v : SendVerdict}
    (hv : (me.sendChunk sid e data offset endStream).2 = .ok v)
    (ho : v.done = true ∨ v.stopped.isSome = true) {a : StreamEntry} (hs : a.sends = true)
    (ha : (me.sendChunk sid e data offset endStream).1.streams.lookup sid = some a) :
    a.placed = false := by
  have hw := (Stays.refl (fun _ => True) h).leaveWaiting he trivial
  obtain ⟨b, hb, hbc, -, hst⟩ := lookup_leaveWaiting he
  have hbs : b.sends = true := by rw [StreamEntry.sends, hst]; exact hse
  have hfronted : (me.leaveWaiting sid e).sendFront.1.streams.lookup sid = some b := hb
  unfold Inner.sendChunk at hv ha
  dsimp only at hv ha
  split at hv
  · cases hv
    exact absurd ho (noWindow_runs _)
  · next hsome =>
    rw [if_neg hsome] at ha
    split at hv
    · next f hfront =>
      rw [hfront] at ha
      dsimp only at ha
      split at hv
      · cases hv
        exact absurd ho (noWindow_runs _)
      · next hne =>
        rw [if_neg hne] at ha
        rw [ne_eq, not_not] at hne
        subst hne
        exact hw.sendFront.lanes.sendTurn_over (hw.lanes.sendQueue_head hfront) _ _ _ _ _ hv ho hs ha
    · next hfront =>
      rw [hfront] at ha
      dsimp only at ha
      obtain ⟨c, hc, hcf, -, hct⟩ := lookup_enqueueSend hfronted
      have hcs : c.sends = true := by rw [StreamEntry.sends, hct]; exact hbs
      refine (hw.sendFront.lanes.enqueueSend fun d hd => ?_).sendTurn_over ⟨c, hc, hcf, hcs⟩ _ _ _ _ _
        hv ho hs ha
      obtain rfl := Option.some.inj (hfronted.symm.trans hd)
      exact ⟨hbc, hbs⟩

/-- **A send that is done, or stopped, leaves its stream no place.** -/
theorem sendData_over (h : Lanes x me) {data : Bytes} (hdata : data ≠ []) (offset : Nat)
    (endStream : Bool) {v : SendVerdict}
    (hv : (me.sendData sid data offset endStream).2 = .ok v)
    (ho : v.done = true ∨ v.stopped.isSome = true) {a : StreamEntry} (hs : a.sends = true)
    (ha : (me.sendData sid data offset endStream).1.streams.lookup sid = some a) :
    a.placed = false := by
  have hempty : ¬data.isEmpty = true := by
    rw [List.isEmpty_iff]
    exact hdata
  rcases hl : me.streams.lookup sid with _ | e
  · unfold Inner.sendData at ha
    rw [hl] at ha
    dsimp only at ha
    rw [hl] at ha
    cases ha
  · unfold Inner.sendData at hv ha
    rw [hl] at hv ha
    dsimp only at hv ha
    rcases hst : e.state.isSendStreaming with _ | _
    · rw [hst, Bool.not_false, if_pos rfl, hl] at ha
      cases ha
      rw [StreamEntry.sends, hst] at hs
      cases hs
    · rw [hst, Bool.not_true, if_neg Bool.false_ne_true, if_neg hempty] at hv ha
      exact h.sendChunk_over hl hst data offset endStream hv ho hs ha

end Lanes

/-- A `send_data` moves its own stream, and only with data. -/
theorem moved_sendData (data : Bytes) (offset : Nat) (endStream : Bool) {k : Nat}
    (h : me.moved (.sendData sid data offset endStream) = some k) : sid = k ∧ data ≠ [] := by
  unfold moved at h
  dsimp only at h
  split at h
  · cases h
  · next hd =>
    rw [List.isEmpty_iff] at hd
    repeat' split at h
    all_goals first | cases h; exact ⟨rfl, hd⟩ | cases h

end Inner

namespace Sys

variable {σ σ' : Sys} {a : Action} {sid : Nat}

/-- **A stream takes a place by its own `send_data` alone.** -/
theorem occupied_before (h : σ.Ok) (hl : σ.inner.Lanes fun _ => True) (hs : Step σ a σ')
    (hm : σ.moved a ≠ some sid) (ho : σ'.inner.Occupies sid) : σ.inner.Occupies sid := by
  have hstay := step_stays (y := fun k => σ.moved a = some k ∨ Inner.Admitted σ.inner σ'.inner k) h hl
    hs (fun _ _ _ _ _ _ _ => trivial) fun _ hk => hk
  by_cases had : Inner.Admitted σ.inner σ'.inner sid
  · exact hl.occupies_of_capacityFront had.1
  · obtain ⟨e, he, hsend, hp⟩ := hstay.lanes.occupies_iff.mp ho
    obtain ⟨e₀, h₀, hs₀, hf₁, hf₂⟩ := hstay.had hl (not_or.mpr ⟨hm, had⟩) he hp hsend
    refine hl.occupies_iff.mpr ⟨e₀, h₀, hs₀, ?_⟩
    rw [StreamEntry.placed, ← hf₁, ← hf₂]
    exact hp

end Sys

namespace Senders

variable {s s' : Senders} {a : Action} {i sid : Nat} {t : Sending} {cfg : Config}

/-- A send other than `i` with data for the stream is under way. -/
def BusyBut (s : Senders) (i sid : Nat) : Prop :=
  ∃ j t, j ≠ i ∧ s.sends.lookup j = some t ∧ t.sid = sid ∧ t.data ≠ []

/-- A send with data for the stream is under way, running or parked. -/
def Busy (s : Senders) (sid : Nat) : Prop :=
  ∃ j t, s.sends.lookup j = some t ∧ t.sid = sid ∧ t.data ≠ []

/-- The send `i` is given up: it is cancelled as it waits, or a task for its rest is refused. -/
def givesUp (s : Senders) : Action → Option Nat
  | .cancel i => some i
  | .spawn i => if s.sys.inner.writerStart.2 then none else some i
  | _ => none

/-- No send is given up that alone holds the place of its stream. -/
def Kept (s : Senders) (a : Action) : Prop :=
  ∀ i t, s.givesUp a = some i → s.sends.lookup i = some t → s.sys.inner.Occupies t.sid → s.BusyBut i t.sid

/-- What the others do does not depend on what becomes of `i`. -/
theorem BusyBut.put {σ : Sys} (h : s.BusyBut i sid) (r : Option Sending) :
    (({ s with sys := σ } : Senders).put i r).Busy sid := by
  obtain ⟨j, t, hne, hj, hsid, hd⟩ := h
  exact ⟨j, t, by rw [lookup_put, if_neg hne]; exact hj, hsid, hd⟩

theorem busy_put {σ : Sys} {r : Sending} (hsid : r.sid = sid) (hd : r.data ≠ []) :
    (({ s with sys := σ } : Senders).put i (some r)).Busy sid :=
  ⟨i, r, by rw [lookup_put, if_pos rfl], hsid, hd⟩

/-- Who is busy is so with the send `i`, or but for it. -/
theorem Busy.cases (h : s.Busy sid) (ht : s.sends.lookup i = some t) :
    t.sid = sid ∧ t.data ≠ [] ∨ s.BusyBut i sid := by
  obtain ⟨j, u, hj, hsid, hd⟩ := h
  by_cases hji : j = i
  · subst hji
    obtain rfl := Option.some.inj (ht.symm.trans hj)
    exact .inl ⟨hsid, hd⟩
  · exact .inr ⟨j, u, hji, hj, hsid, hd⟩

/-- A stream occupies a place only while a send with data for it is under way. -/
structure Held (s : Senders) : Prop where
  ok : s.sys.Ok
  lanes : s.sys.inner.Lanes fun _ => True
  busy : ∀ sid, s.sys.inner.Occupies sid → s.Busy sid

namespace Held

/-- The driver takes a step that moves no stream, and the streams that were busy are so. -/
theorem step_sys {b : Sys.Action} (h : s.Held) (hs : Sys.Step s.sys b s'.sys)
    (hm : s.sys.moved b = none)
    (hb : ∀ sid, s.sys.inner.Occupies sid → s.Busy sid → s'.Busy sid) : s'.Held where
  ok := h.ok.step hs
  lanes := Sys.step_lanes h.ok h.lanes hs fun _ _ _ _ _ _ _ => trivial
  busy := by
    intro sid ho
    have hbefore : s.sys.inner.Occupies sid :=
      Sys.occupied_before h.ok h.lanes hs (by rw [hm]; simp) ho
    exact hb sid hbefore (h.busy sid hbefore)

/-- The driver does nothing. -/
theorem keep (h : s.Held) (hsys : s'.sys = s.sys)
    (hb : ∀ sid, s.sys.inner.Occupies sid → s.Busy sid → s'.Busy sid) : s'.Held := by
  refine ⟨hsys ▸ h.ok, hsys ▸ h.lanes, fun sid ho => ?_⟩
  rw [hsys] at ho
  exact hb sid ho (h.busy sid ho)

/-- A send goes on, and is over only once its stream has no place. -/
theorem send (h : s.Held) (ht : s.sends.lookup i = some t) : (s.send i t).Held := by
  have hs : Sys.Step s.sys (.call (.sendData t.sid t.data t.offset t.endStream))
      (s.sys.call (.sendData t.sid t.data t.offset t.endStream)) := rfl
  have hsys : (s.send i t).sys = s.sys.call (.sendData t.sid t.data t.offset t.endStream) :=
    put_sys _ _ _
  have hlanes := Sys.step_lanes h.ok h.lanes hs fun _ _ _ _ _ _ _ => trivial
  refine ⟨hsys ▸ h.ok.step hs, hsys ▸ hlanes, fun sid ho => ?_⟩
  rw [hsys] at ho
  by_cases hown : t.sid = sid ∧ t.data ≠ []
  · obtain ⟨rfl, hdata⟩ := hown
    obtain ⟨v, me, hv, -⟩ := Inner.sendData_framed h.ok.wf t.sid t.data t.offset t.endStream
    have hres : (s.sys.inner.sendData t.sid t.data t.offset t.endStream).2 = .ok v :=
      congrArg Prod.snd hv
    unfold Senders.send
    rcases hafter : t.after (s.sys.inner.sendData t.sid t.data t.offset t.endStream).2 with _ | t'
    · rw [hres] at hafter
      obtain ⟨e, he, hsend, hp⟩ := hlanes.occupies_iff.mp ho
      have hover := h.lanes.sendData_over hdata t.offset t.endStream hres
        (Sending.after_none hafter) hsend he
      rw [hp] at hover
      cases hover
    · obtain ⟨hsid, hdata'⟩ := Sending.after_same hafter
      exact busy_put hsid (hdata'.symm ▸ hdata)
  · have hmoved : s.sys.moved (.call (.sendData t.sid t.data t.offset t.endStream)) ≠ some sid := by
      intro hm
      exact hown (Inner.moved_sendData t.data t.offset t.endStream hm)
    have hbefore := Sys.occupied_before h.ok h.lanes hs hmoved ho
    exact (((h.busy sid hbefore).cases ht).resolve_left hown).put _

/-- **Each step keeps it**, where no send is given up that alone holds a place. -/
theorem step (h : s.Held) (hs : Step s a s') (hk : s.Kept a) : s'.Held := by
  unfold Step Senders.step at hs
  cases a with
  | sys b =>
      dsimp only at hs
      split at hs
      · cases hs
      · next hnot =>
        obtain ⟨σ, hσ, rfl⟩ := Option.map_eq_some_iff.mp hs
        refine h.step_sys hσ ?_ fun _ _ hb => hb
        cases b with
        | call c =>
            cases c with
            | sendData => exact absurd rfl hnot
            | _ => rfl
        | _ => rfl
  | start i sid data offset endStream inline =>
      dsimp only at hs
      split at hs
      · cases hs
      · next hn =>
        cases hs
        refine h.keep (put_sys _ _ _) fun k _ hb => ?_
        obtain ⟨j, t, hj, hsid, hd⟩ := hb
        refine BusyBut.put (σ := s.sys) ⟨j, t, ?_, hj, hsid, hd⟩ _
        rintro rfl
        rw [hn] at hj
        cases hj
  | go i =>
      obtain ⟨t, ht, hs⟩ := Option.bind_eq_some_iff.mp hs
      split at hs <;> cases hs
      · exact h.send ht
      · exact h.send ht
  | wake i =>
      obtain ⟨t, ht, hs⟩ := Option.bind_eq_some_iff.mp hs
      split at hs <;> cases hs
      refine h.keep (put_sys _ _ _) fun sid _ hb => ?_
      rcases hb.cases ht with ⟨hsid, hd⟩ | hb
      · exact busy_put (σ := s.sys) hsid hd
      · exact hb.put _
  | spawn i =>
      obtain ⟨t, ht, hs⟩ := Option.bind_eq_some_iff.mp hs
      split at hs <;> cases hs
      have hcall : Sys.Step s.sys (.call .writerStart) (s.spawn i t).sys := by
        unfold Senders.spawn
        rw [put_sys]
        rfl
      refine h.step_sys hcall rfl fun sid ho hb => ?_
      unfold Senders.spawn
      split
      · rcases hb.cases ht with ⟨hsid, hd⟩ | hb
        · exact busy_put hsid hd
        · exact hb.put _
      · next hrefused =>
        have hgive : s.givesUp (.spawn i) = some i := by
          rw [givesUp, if_neg hrefused]
        rcases hb.cases ht with ⟨rfl, -⟩ | hb
        · exact (hk i t hgive ht ho).put _
        · exact hb.put _
  | cancel i =>
      obtain ⟨t, ht, hs⟩ := Option.bind_eq_some_iff.mp hs
      split at hs <;> cases hs
      refine h.keep (put_sys _ _ _) fun sid ho hb => ?_
      rcases hb.cases ht with ⟨rfl, -⟩ | hb
      · exact (hk i t rfl ht ho).put _
      · exact hb.put _

end Held

/-- The sends of a connection, from the handshake on. -/
abbrev Run (ok : Senders → Action → Prop) (cfg : Config) (s : Senders) : Prop :=
  Reach Step ok (init cfg) s

theorem held_of_run (r : Run Kept cfg s) : s.Held := by
  have hlanes : (init cfg).sys.inner.Lanes fun _ => True := by
    rw [init, Sys.inner_init]
    exact Inner.Lanes.begin cfg
  refine r.invariant ⟨Sys.ok_init cfg, hlanes, fun sid ho => ?_⟩ fun h hs hk => h.step hs hk
  obtain ⟨e, he, -⟩ := ho
  rw [init, Sys.inner_init] at he
  obtain ⟨fc, fs, hb, -, -, -⟩ := Inner.begin_spec cfg
  rw [hb] at he
  cases he

/-- A send that is given up while it alone holds a place leaves the place to no one. -/
theorem not_busy_of_givesUp (hs : Step s a s') (hn : ¬s.Kept a) :
    ∃ sid, s'.sys.inner.Occupies sid ∧ ¬s'.Busy sid := by
  unfold Kept at hn
  push Not at hn
  obtain ⟨i, t, hgive, ht, ho, hbut⟩ := hn
  have hleft : ∀ {σ : Sys}, ¬(({ s with sys := σ } : Senders).put i none).Busy t.sid := by
    rintro σ ⟨j, u, hj, hsid, hd⟩
    rw [lookup_put] at hj
    split at hj
    · cases hj
    · next hne => exact hbut ⟨j, u, hne, hj, hsid, hd⟩
  unfold Step step at hs
  cases a with
  | cancel k =>
      dsimp only at hs
      cases hgive
      obtain ⟨t', ht', hs⟩ := Option.bind_eq_some_iff.mp hs
      split at hs <;> cases hs
      exact ⟨t.sid, ho, hleft⟩
  | spawn k =>
      dsimp only [givesUp] at hgive
      split at hgive
      · cases hgive
      · next hrefused =>
        cases hgive
        obtain ⟨t', ht', hs⟩ := Option.bind_eq_some_iff.mp hs
        split at hs <;> cases hs
        refine ⟨t.sid, ?_, ?_⟩
        · unfold Senders.spawn
          rw [put_sys]
          have hsame : s.sys.inner.writerStart.1 = s.sys.inner := by
            unfold Inner.writerStart at hrefused ⊢
            split
            · rfl
            · next hc =>
              rw [if_neg hc] at hrefused
              exact absurd rfl hrefused
          change s.sys.inner.writerStart.1.Occupies t.sid
          rw [hsame]
          exact ho
        · unfold Senders.spawn
          rw [if_neg hrefused]
          exact hleft
  | _ => cases hgive

/-- **A stream occupies a place only while a send on it is under way**, in every run in which no send
is given up that alone holds the place of its stream; so whoever is first in the rotation, or in the
line, has one.  A send that is given up so leaves a place that nobody sends on. -/
theorem occupied_by_sends (cfg : Config) (s : Senders) (r : Run Kept cfg s) :
    (∀ sid, s.sys.inner.Occupies sid → s.Busy sid) ∧
      (∀ sid, s.sys.inner.sendFront.2 = some sid ∨ s.sys.inner.capacityFront.2 = some sid →
        s.Busy sid) ∧
      ∀ a s', Step s a s' → ¬s.Kept a → ∃ sid, s'.sys.inner.Occupies sid ∧ ¬s'.Busy sid := by
  have h := held_of_run r
  refine ⟨h.busy, fun sid hf => h.busy sid ?_, fun a s' hs hn => not_busy_of_givesUp hs hn⟩
  exact hf.elim h.lanes.occupies_of_sendFront h.lanes.occupies_of_capacityFront

theorem run_of_exec (ok : Senders → Action → Bool) (cfg : Config) (as : List Action)
    (p : Senders → Bool) (h : (Runs.exec step ok (init cfg) as).any p = true) :
    ∃ s, Run (fun s a => ok s a = true) cfg s ∧ p s = true := Reach.of_exec_any h

/-- Two requests whose bodies are sent: the second waits for its turn behind the first. -/
def waiting : List Action := (Sys.openPost ++ Sys.openPost).map .sys ++ [
  .start 0 1 (List.replicate 16385 0) 0 false false, .go 0,
  .start 1 3 [1] 0 false false, .go 1, .go 1]

/-- Where the second waits, and where it was cancelled and the first went on. -/
theorem waiting_reached : ∃ s, Run (fun s a => (s.givesUp a).isNone = true) Sys.clientConfig s ∧
    s.sys.inner.pendingSend = [1, 3] ∧
    (∃ e, s.sys.inner.streams.lookup 3 = some e ∧ e.sends = true) ∧
    ∃ s', Run Runs.Any Sys.clientConfig s' ∧ s'.sends.keys = [] ∧
      s'.sys.inner.sendFront.2 = some 3 ∧ 3 ∈ s'.sys.inner.pendingSend ∧
      0 < s'.sys.inner.connSend.size ∧
      (∃ e, s'.sys.inner.streams.lookup 3 = some e ∧ e.sends = true) ∧
      (∃ e, s'.sys.inner.streams.lookup 1 = some e ∧ 0 < s'.sys.inner.streamRoom e) ∧
      ∃ v, (s'.sys.inner.sendData 1 [1] 0 false).2.toOption = some v ∧ v = .noWindow .none := by
  -- one evaluation for both runs
  obtain ⟨s, r, hs⟩ := run_of_exec (fun s a => (s.givesUp a).isNone) Sys.clientConfig waiting
    (fun s : Senders => s.sys.inner.pendingSend == [1, 3] &&
      ((s.sys.inner.streams.lookup 3).any fun e => e.sends) &&
      (Runs.exec step (fun _ _ => true) s [.cancel 1, .go 0]).any fun s : Senders =>
        s.sends.keys.isEmpty && s.sys.inner.sendFront.2 == some 3 &&
        s.sys.inner.pendingSend.contains 3 && decide (0 < s.sys.inner.connSend.size) &&
        ((s.sys.inner.streams.lookup 3).any fun e => e.sends) &&
        ((s.sys.inner.streams.lookup 1).any fun e => decide (0 < s.sys.inner.streamRoom e)) &&
        ((s.sys.inner.sendData 1 [1] 0 false).2.toOption.any fun v => v == .noWindow .none))
    (by decide +kernel)
  rw [Bool.and_eq_true, Bool.and_eq_true, beq_iff_eq, Option.any_eq_true] at hs
  obtain ⟨⟨hq, hsends⟩, hrun⟩ := hs
  obtain ⟨s', r', hs'⟩ : ∃ t, Reach Step (fun _ _ => true = true) s t ∧ _ := Reach.of_exec_any hrun
  simp only [Bool.and_eq_true, beq_iff_eq, Option.any_eq_true, decide_eq_true_eq,
    List.isEmpty_iff, List.contains_iff_mem] at hs'
  obtain ⟨⟨⟨⟨⟨⟨hnone, hfront⟩, hmem⟩, hconn⟩, h₃⟩, hroom⟩, hno⟩ := hs'
  exact ⟨s, r, hq, hsends, s', (r.mono fun _ _ _ => trivial).trans (r'.mono fun _ _ _ => trivial),
    hnone, hfront, hmem, hconn, h₃, hroom, hno⟩

theorem occupied_by_sends_waiting : ∃ s, Run Kept Sys.clientConfig s ∧
    s.sys.inner.pendingSend = [1, 3] ∧ s.sys.inner.Occupies 3 ∧ s.Busy 3 := by
  obtain ⟨s, r, hq, ⟨e, he, hsend⟩, -⟩ := waiting_reached
  have hkept : Run Kept Sys.clientConfig s := r.mono fun s a hn i t hg => by
    rw [Option.isNone_iff_eq_none.mp hn] at hg
    cases hg
  have hocc : s.sys.inner.Occupies 3 := ⟨e, he, hsend, .inl (by rw [hq]; simp)⟩
  exact ⟨s, hkept, hq, hocc, (occupied_by_sends Sys.clientConfig s hkept).1 3 hocc⟩

/-- The second is cancelled as it waits, and the first is done.  The first has another chunk, and
window for it, and gets no turn: the second holds the front, and nobody sends on it. -/
theorem cancelled_send_blocks : ∃ s, Run Runs.Any Sys.clientConfig s ∧ s.sys.inner.Occupies 3 ∧
    ¬s.Busy 3 ∧ s.sys.inner.sendFront.2 = some 3 ∧ 0 < s.sys.inner.connSend.size ∧
    (∃ e, s.sys.inner.streams.lookup 1 = some e ∧ 0 < s.sys.inner.streamRoom e) ∧
    ∃ v, (s.sys.inner.sendData 1 [1] 0 false).2 = .ok v ∧ v = .noWindow .none := by
  obtain ⟨-, -, -, -, s, r, hnone, hfront, hmem, hconn, ⟨e₃, h₃, hsend⟩, hroom, v, hv, hno⟩ :=
    waiting_reached
  refine ⟨s, r, ⟨e₃, h₃, hsend, .inl hmem⟩, ?_, hfront, hconn, hroom, v, ?_,
    hno⟩
  · rintro ⟨j, t, hj, -, -⟩
    have hkey := AList.mem_keys.mp (Store.mem_of_lookup hj)
    rw [hnone] at hkey
    cases hkey
  · rcases hres : (s.sys.inner.sendData 1 [1] 0 false).2 with err | v'
    · rw [hres] at hv
      cases hv
    · rw [hres] at hv
      cases hv
      rfl

end Senders

end Httpunk.H2
