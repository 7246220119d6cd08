import Httpunk.H2.Reader.Simulation
import Httpunk.H2.Safety.Failure

/-!
# H2 — Reader — Handles

How a handle comes about, and what every run keeps of the handles the application holds.

* `Feed.step_handed`: what a step hands over, and that it is silent of other streams never used.
* `Feed.Handed.ok`: a stream handed over has received nothing but its head.
* `Feed.reader_ok`: in every run, a reader of a handle can rely on `Reader.Ok`.
-/

namespace Httpunk.H2

open Mailbox
open Runs (Reach)
open Httpunk.H2.Inner

namespace Feed

variable {f f' : Feed} {a : Sys.Action} {k : Nat}

/-! ### Streams never used -/

/-- The signals are about streams of `ns`, and hand none over. -/
def About (ns : List Nat) (signals : List Signal) : Prop :=
  ∀ k, .surfaced k ∉ signals ∧ (k ∉ ns → itemsOf k signals = [])

theorem about_nil (ns : List Nat) : About ns [] := fun _ => ⟨List.not_mem_nil, fun _ => rfl⟩

theorem notifyReset_about (handle : Option Nat) (stop : Option Stopped) :
    About handle.toList (notifyReset handle stop) := fun k => by
  cases handle with
  | none => exact about_nil _ k
  | some sid =>
      refine ⟨by simp [notifyReset], fun hk => ?_⟩
      have hne : sid ≠ k := fun h => hk (by simp [h])
      simp [notifyReset, itemsOf, hne]

theorem notifyAll_about (aborted : List (Nat × Stopped)) :
    About (aborted.map Prod.fst) (notifyAll aborted) := fun k => by
  refine ⟨?_, fun hk => (notifyAll_silent hk).1⟩
  simp [notifyAll, notifyStopped]

theorem notifyStopped_about (sid : Nat) (stop : Stopped) (b : Bool) :
    About [sid] (notifyStopped sid stop b) := fun k => by
  refine ⟨by cases b <;> simp [notifyStopped], fun hk => ?_⟩
  exact (notifyStopped_silent stop b fun h => hk (by simp [h])).1

/-- The signals hand `k` not over, and put nothing on its queue if it was never used. -/
def Withheld (me : Inner) (k : Nat) (signals : List Signal) : Prop :=
  .surfaced k ∉ signals ∧ (¬me.Used k → itemsOf k signals = [])

theorem withheld_nil (me : Inner) (k : Nat) : Withheld me k [] :=
  ⟨List.not_mem_nil, fun _ => rfl⟩

/-- Signals about stored streams. -/
theorem About.withheld {me s : Inner} {ns : List Nat} {signals : List Signal} (h : About ns signals)
    (he : Ends me s ns) (hw : me.Wf) : Withheld me k signals := by
  refine ⟨(h k).1, fun hn => (h k).2 fun hk => ?_⟩
  obtain ⟨⟨e, hl⟩, -⟩ := he k hk
  exact hn (hw.used hl)

theorem sendSignals_about (r : Except Err SendVerdict) :
    About (sendActs r).stopped (sendSignals r) := by
  cases r with
  | error err => exact about_nil _
  | ok v => exact notifyReset_about v.handle v.readerStop

/-- The signals of a call are about the streams it hands to the driver, or hand over the stream
it opened. -/
theorem call_about (me : Inner) (c : Call)
    (ho : ∀ request eos isHead, c ≠ .openStream request eos isHead) :
    About (me.call c).2.stopped (me.callSignals c) := by
  cases c with
  | openStream request eos isHead => exact absurd rfl (ho request eos isHead)
  | sendData sid data offset eos => exact sendSignals_about _
  | sendTrailers sid trailers => exact sendSignals_about _
  | sendResponseHead sid status fields eos date => exact sendSignals_about _
  | resetStream sid reason initiator => exact notifyReset_about _ _
  | acloseBody sid => exact notifyReset_about _ _
  | fail exc message => exact notifyAll_about _
  | _ => exact about_nil _

theorem dispatch_about (me : Inner) (fr : Frame) {acts : Acts} (h : (me.dispatch fr).2 = .ok acts)
    (hh : ∀ f, fr ≠ .headers f) (hd : ∀ f, fr ≠ .data f) :
    About acts.stopped (me.dispatchSignals fr) := by
  cases fr with
  | headers f => exact absurd rfl (hh f)
  | data f => exact absurd rfl (hd f)
  | rstStream f =>
      obtain ⟨v, hv, rfl⟩ := Sys.acts_of_ok h
      show About _ (okSignals _ (me.recvReset f).2)
      rw [hv]
      cases v with
      | none => exact about_nil _
      | some v => exact notifyStopped_about v.handle v.stop v.notifyBody
  | goAway f =>
      obtain ⟨v, hv, rfl⟩ := Sys.acts_of_ok h
      show About _ (okSignals _ (me.recvGoAway f).2)
      rw [hv]
      exact notifyAll_about v.1
  | _ => exact about_nil _

/-- The signals of a HEADERS frame: those that hand over the stream it opened, and others. -/
theorem headersSignals_withheld {fr : Headers} {r : Inner × Except Err RecvHeadersVerdict}
    {me : Inner} (ho : HeadersOutcome me fr r) (hw : me.Wf) (k : Nat) :
    Withheld me k (okSignals RecvHeadersVerdict.signals r.2) ∨
      fr.streamId = k ∧ me.role = .server ∧ ¬me.Used k ∧ ∃ st e,
        State.idle.recvOpen fr.endStream false = .ok st ∧ LengthOk fr .omitted ∧
        r.1.streams.lookup k = some e ∧ e.state = st ∧
        e.contentLength = lengthAfter fr .omitted ∧
        okSignals RecvHeadersVerdict.signals r.2 = .surfaced k :: eofSignal k fr.endStream := by
  by_cases hk : fr.streamId = k
  · subst hk
    cases ho with
    | opened ht hr hn hst hok he hs =>
        exact .inr ⟨rfl, hr, hn, _, _, hst, hok, he, hs.1, hs.2.2, rfl⟩
    | head he _ _ _ _ _ _ =>
        refine .inl ⟨?_, fun hn => absurd (hw.used he) hn⟩
        cases fr.endStream <;> simp [okSignals, RecvHeadersVerdict.signals, eofSignal]
    | trailers he _ _ _ _ _ =>
        refine .inl ⟨?_, fun hn => absurd (hw.used he) hn⟩
        simp [okSignals, RecvHeadersVerdict.signals]
    | _ => exact .inl (withheld_nil me _)
  · obtain ⟨hi, -, hs⟩ := headersSignals_silent ho hk
    exact .inl ⟨hs, fun _ => hi⟩

/-- A DATA frame hands nothing over. -/
theorem dataSignals_withheld {fr : Data} {r : Inner × Except Err RecvDataVerdict} {me : Inner}
    (ho : DataOutcome me fr r) (hw : me.Wf) (k : Nat) :
    Withheld me k (okSignals RecvDataVerdict.signals r.2) := by
  have hne : ∀ {m : Inner}, ¬me.Used k → Counted me fr m → fr.streamId ≠ k :=
    fun {m} hn hc hk => by
      obtain ⟨e, -, he, -⟩ := hc.entry
      exact hn (hk ▸ hw.used he)
  cases ho with
  | taken hc _ _ =>
      refine ⟨?_, fun hn => ?_⟩ <;> simp [okSignals, RecvDataVerdict.signals, itemsOf, eofSignal]
      exact hne hn hc
  | ended hc _ _ _ _ =>
      refine ⟨?_, fun hn => ?_⟩ <;> simp [okSignals, RecvDataVerdict.signals, itemsOf, eofSignal]
      exact hne hn hc
  | _ => exact withheld_nil me k

/-! ### New handles -/

/-- **How a handle comes about**: a server takes the head of a request, or a client opens a
stream. -/
inductive Handed (f : Feed) (f' : Feed) (k : Nat) : Sys.Action → Prop
  | request {fr : Headers} {st : State} {e : StreamEntry} (hk : fr.streamId = k)
      (hr : f.sys.inner.role = .server) (hp : f'.sys.pump = .running) {v : Acts}
      (hv : (f.sys.inner.dispatch (.headers fr)).2 = .ok v)
      (hst : State.idle.recvOpen fr.endStream false = .ok st) (hok : LengthOk fr .omitted)
      (he : f'.sys.inner.streams.lookup k = some e) (hs : e.state = st)
      (hl : e.contentLength = lengthAfter fr .omitted)
      (hsig : f.sys.signals (.recv (.headers fr)) = .surfaced k :: eofSignal k fr.endStream) :
      Handed f f' k (.recv (.headers fr))
  | response {request : Except Err Block} {eos isHead : Bool} {block : Block} {st : State}
      (hk : f.sys.inner.nextId = k) (hst : State.idle.sendOpen eos = .ok st)
      (hin : f'.sys.inner = f.sys.inner.insertOpened isHead eos block st)
      (hsig : f.sys.signals (.call (.openStream request eos isHead)) = [.surfaced k]) :
      Handed f f' k (.call (.openStream request eos isHead))

/-- **What a step hands over.** -/
theorem step_handed (hok : f.sys.Ok) (h : Step f a f') (k : Nat) :
    Withheld f.sys.inner k (f.sys.signals a) ∨ ¬f.sys.inner.Used k ∧ Handed f f' k a := by
  cases a with
  | recv fr =>
      obtain ⟨hp, hin, ⟨⟨v, hv⟩, hp'⟩ | ⟨err, herr, -⟩⟩ := step_recv h
      · by_cases hh : ∃ fr', fr = .headers fr'
        · obtain ⟨fr, rfl⟩ := hh
          have hr := headersSignals_withheld
            (recvHeaders_outcome hok.wf fr (f.sys.inner.role = .server)) hok.wf k
          rcases hr with hr | ⟨hk, hr, hn, st, e, hst, hlen, he, hs, hl, hsig⟩
          · exact .inl hr
          · exact .inr ⟨hn, .request hk hr hp' hv hst hlen (hin ▸ he) hs hl hsig⟩
        · by_cases hd : ∃ fr', fr = .data fr'
          · obtain ⟨fr, rfl⟩ := hd
            exact .inl (dataSignals_withheld (recvData_outcome hok.wf fr) hok.wf k)
          · have hab := dispatch_about _ fr hv (fun f hf => hh ⟨f, hf⟩) fun f hf => hd ⟨f, hf⟩
            exact .inl (hab.withheld (dispatch_ends _ fr hv) hok.wf)
      · refine .inl ?_
        show Withheld f.sys.inner k (f.sys.inner.dispatchSignals fr)
        rw [dispatchSignals_error herr]
        exact withheld_nil _ k
  | pump =>
      refine .inl ?_
      show Withheld f.sys.inner k f.sys.pumpSignals
      unfold Sys.pumpSignals
      split
      · next sid reason _ =>
        rcases hr : (f.sys.inner.resetOnError sid reason).2 with err | v
        · exact withheld_nil _ k
        · exact (notifyReset_about v.handle v.stop).withheld
            (resetOnError_ends _ sid reason hr) hok.wf
      · next e _ =>
        exact (notifyAll_about _).withheld (fail_ends f.sys.inner (some e) "") hok.wf
      · exact withheld_nil _ k
      · exact withheld_nil _ k
      · exact withheld_nil _ k
  | call c =>
      have hsys := step_sys h
      unfold Sys.Step Sys.step at hsys
      dsimp only at hsys
      split at hsys
      · next hal =>
        have hin' : f'.sys.inner = (f.sys.inner.call c).1 := by
          rw [← Option.some.inj hsys]
          rfl
        show Withheld f.sys.inner k (f.sys.inner.callSignals c) ∨ _
        by_cases ho : ∃ request eos isHead, c = .openStream request eos isHead
        · obtain ⟨request, eos, isHead, rfl⟩ := ho
          have hr : f.sys.inner.role = .client := by simpa [Sys.allowed] using hal
          rcases openStream_signals f.sys.inner request eos isHead with
            hs | ⟨hs, block, st, hst, hin⟩
          · exact .inl (hs ▸ withheld_nil _ k)
          · by_cases hk : f.sys.inner.nextId = k
            · have hn : ¬f.sys.inner.Used k := by
                simp only [Used, hr]
                omega
              exact .inr ⟨hn, .response hk hst (hin'.trans hin) (hk ▸ hs)⟩
            · refine .inl ⟨?_, fun _ => ?_⟩ <;> rw [hs] <;> simp [itemsOf, Ne.symm hk]
        · have hab := call_about f.sys.inner c fun request eos isHead hc =>
            ho ⟨request, eos, isHead, hc⟩
          exact .inl (hab.withheld (call_ends _ c) hok.wf)
      · cases hsys
  | _ => exact .inl (withheld_nil _ k)

theorem Handed.signals (h : Handed f f' k a) : .surfaced k ∈ f.sys.signals a := by
  cases h with
  | request _ _ _ _ _ _ _ _ _ hsig => rw [hsig]; exact List.mem_cons_self
  | response _ _ _ hsig => rw [hsig]; exact List.mem_cons_self

/-- **A new handle** has received nothing but its head. -/
theorem Handed.ok (hok : f.sys.Ok) (h : Step f a f') (hd : Handed f f' k a)
    (hn : ¬f.sys.inner.Used k) (hq : f.queue k = []) (hm : f.message k = {})
    (ht : f.toHead k = false) (hl : f.lost k = false) : (f'.reader k).Ok := by
  have hsurf := hd.signals
  cases hd with
  | @request fr st e hk hr hp v hv hst hlen he hs hcl hsig =>
      subst hk
      have hitems : itemsOf fr.streamId (f.sys.signals (.recv (.headers fr))) =
          if fr.endStream then [.last none] else [] := by
        rw [hsig, ← itemsOf_eofSignal fr.streamId]
        rfl
      have hside : f.sys.inner.side fr.streamId = none := by
        rcases hlk : f.sys.inner.streams.lookup fr.streamId with _ | e
        · exact side_none hlk
        · exact absurd (hok.wf.used hlk) hn
      have hmsg : f.messageAfter (.recv (.headers fr)) fr.streamId =
          (f.message fr.streamId).head fr := by
        rw [messageAfter_ok hv, decide_eq_true hsurf]
        simp only [taken, hside, ne_eq, not_true_eq_false, if_false, if_true]
      have hserve : f'.sys.pump.phase fr.streamId = .serving := by
        rw [hp]
        rfl
      rw [reader_after hok h, hmsg, hitems, hserve, hq, side_of he, lengthOf_of he, hcl, hs,
        decide_eq_true hr, Bool.or_true, show f.toHeadAfter (.recv (.headers fr)) fr.streamId =
          f.toHead fr.streamId from rfl, show f.lostAfter (.recv (.headers fr)) fr.streamId =
          f.lost fr.streamId from rfl, ht, hl]
      -- the head is taken by a handle that has received nothing
      have hstart : Reader.Ok {
          phase := .serving, side := some (.receiving .awaitingHeaders), length := .omitted
          queue := [], head := true, message := f.message fr.streamId, toHead := false
          lost := false } := Reader.ok_new rfl rfl hm rfl
      refine Reader.Step.ok hstart (Reader.Step.head rfl rfl hlen (fun hes => ?_) fun hes => ?_)
      · rw [hes] at hst
        exact .inl (congrArg some (State.recvOpen_eos hst))
      · rw [hes] at hst
        exact ⟨congrArg some (State.recvOpen_recvSide hst), rfl⟩
  | @response request eos isHead block st hk hst hin hsig =>
      subst hk
      have he : f'.sys.inner.streams.lookup f.sys.inner.nextId = some
          { StreamEntry.new f.sys.inner.peer.initialWindowSize f.sys.inner.recvInit isHead with
            holdsSlot := true, state := st } := by
        rw [hin]
        exact AList.lookup_insert _
      have hitems : itemsOf f.sys.inner.nextId
          (f.sys.signals (.call (.openStream request eos isHead))) = [] := by
        rw [hsig]
        rfl
      rw [reader_after hok h, hitems, hq, side_of he, lengthOf_of he]
      refine Reader.ok_new (congrArg some (State.sendOpen_recvSide hst)) rfl hm ?_
      show ContentLength.new isHead = _
      rw [show f.toHeadAfter (.call (.openStream request eos isHead)) f.sys.inner.nextId =
        isHead from if_pos hsurf]
      rfl

/-! ### Runs -/

/-- The state of the driver, of the handles it handed out, and of the streams never used. -/
structure Ok (f : Feed) : Prop where
  sys : f.sys.Ok
  used : ∀ k, f.surfaced k = true → f.sys.inner.Used k
  readers : ∀ k, f.surfaced k = true → (f.reader k).Ok
  unused : ∀ k, ¬f.sys.inner.Used k → f.queue k = [] ∧ f.message k = {} ∧ f.toHead k = false
  found : ∀ k, f.surfaced k = false → f.lost k = false

theorem ok_init (cfg : Config) : (init cfg).Ok := by
  have hnone : ∀ k, (init cfg).surfaced k = false := fun _ => rfl
  refine ⟨Sys.ok_init cfg, fun k hk => ?_, fun k hk => ?_, fun _ _ => ⟨rfl, rfl, rfl⟩,
    fun _ _ => rfl⟩
  · rw [hnone] at hk
    cases hk
  · rw [hnone] at hk
    cases hk

theorem Handed.used (hok : f'.sys.Ok) (h : Handed f f' k a) : f'.sys.inner.Used k := by
  cases h with
  | request _ _ _ _ _ _ he _ _ _ => exact hok.wf.used he
  | response hk _ hin _ =>
      subst hk
      exact hok.wf.used (by rw [hin]; exact AList.lookup_insert _)

/-- The message of a stream that is neither used nor handed over. -/
theorem messageAfter_withheld (hok : f.sys.Ok) (hn : ¬f.sys.inner.Used k)
    (hs : .surfaced k ∉ f.sys.signals a) : f.messageAfter a k = f.message k := by
  have hside : f.sys.inner.side k = none := by
    rcases hl : f.sys.inner.streams.lookup k with _ | e
    · exact side_none hl
    · exact absurd (hok.wf.used hl) hn
  cases a with
  | recv fr =>
      unfold messageAfter taken
      dsimp only
      rw [hside, decide_eq_false hs]
      cases fr <;> simp only [ite_self, Bool.false_eq_true, if_false] <;> split <;> rfl
  | _ => rfl

theorem lostAfter_unsurfaced (hs : f.surfaced k = false) : f.lostAfter a k = f.lost k := by
  unfold lostAfter
  split
  · rw [hs, Bool.false_and, Bool.false_and, Bool.false_and, Bool.or_false]
  · rfl

/-- **A step keeps what readers rely on.** -/
theorem Ok.step (hok : f.Ok) (h : Step f a f') : f'.Ok := by
  have hsys := hok.sys.step (step_sys h)
  have hkeep := (hok.sys.step_touches (step_sys h)).keeps
  have hnone : ∀ k, ¬f.sys.inner.Used k → f.surfaced k = false := fun k hn => by
    by_contra hs
    exact hn (hok.used k (by simpa using hs))
  obtain ⟨s, hs, hf'⟩ := Option.map_eq_some_iff.mp h
  have hsurf : ∀ k, f'.surfaced k = (f.surfaced k || .surfaced k ∈ f.sys.signals a) :=
    fun k => by rw [← hf']
  refine ⟨hsys, fun k hk => ?_, fun k hk => ?_, fun k hn => ?_, fun k hk => ?_⟩
  · rcases step_handed hok.sys h k with ⟨hw, -⟩ | ⟨-, hd⟩
    · rw [hsurf, decide_eq_false hw, Bool.or_false] at hk
      exact hkeep.used (hok.used k hk)
    · exact hd.used hsys
  · rcases step_handed hok.sys h k with ⟨hw, -⟩ | ⟨hn, hd⟩
    · rw [hsurf, decide_eq_false hw, Bool.or_false] at hk
      exact Reader.Step.ok (hok.readers k hk) (reader_step hok.sys h (hok.used k hk) hk)
    · obtain ⟨hq, hm, ht⟩ := hok.unused k hn
      exact hd.ok hok.sys h hn hq hm ht (hok.found k (hnone k hn))
  · have hn' : ¬f.sys.inner.Used k := fun hu => hn (hkeep.used hu)
    obtain ⟨hq, hm, ht⟩ := hok.unused k hn'
    rcases step_handed hok.sys h k with ⟨hw, hi⟩ | ⟨-, hd⟩
    · rw [← hf']
      refine ⟨?_, ?_, ?_⟩
      · show f.queue k ++ itemsOf k (f.sys.signals a) = []
        rw [hq, hi hn']
        rfl
      · exact (messageAfter_withheld hok.sys hn' hw).trans hm
      · exact (toHeadAfter_of hw).trans ht
    · exact absurd (hd.used hsys) hn
  · have hk' : f.surfaced k = false := by
      rw [hsurf] at hk
      exact (Bool.or_eq_false_iff.mp hk).1
    rw [← hf']
    exact (lostAfter_unsurfaced hk').trans (hok.found k hk')

/-- **In every run, a reader of a handle can rely on its queue.** -/
theorem ok_run {cfg : Config} {ok : Feed → Sys.Action → Prop} (r : Reach Step ok (init cfg) f) :
    f.Ok :=
  Reach.invariant (I := Ok) r (ok_init cfg) fun hok h _ => hok.step h

theorem reader_ok {cfg : Config} {ok : Feed → Sys.Action → Prop}
    (r : Reach Step ok (init cfg) f) (hk : f.surfaced k = true) : (f.reader k).Ok :=
  (ok_run r).readers k hk

end Feed

end Httpunk.H2
