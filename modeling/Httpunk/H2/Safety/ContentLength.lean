import Httpunk.H2.Safety.BodyDelivery

/-!
# H2 — Safety — Content length

A message ends cleanly only with the length it declares, and a frame that breaks the length is
answered with an error.

* `contentLengthOf_iff`: a message declares a length just if all its `content-length` values are
  that number.
* `Feed.Breaks f k fr`: the frame breaks what the message of `k` declares.
* `Feed.content_length_enforced`: no clean end without the length, and no frame that breaks it is
  taken.
* `Feed.head_keeps_none`: the response to a HEAD declares a length it has not.
-/

namespace Httpunk.H2

open Mailbox
open Runs (Reach)
open Httpunk.H2.Inner

/-! ### The declared length -/

/-- The values read from a length on are all that number, or one is not. -/
theorem contentLengthOf_iff (length : Option Nat) (values : List Bytes) (n : Nat) :
    contentLengthOf length values = (some n, false) ↔
      (length = some n ∨ length = none ∧ values ≠ []) ∧ ∀ v ∈ values, parseU64 v = some n := by
  induction values generalizing length with
  | nil => simp [contentLengthOf]
  | cons v vs ih =>
      unfold contentLengthOf
      rcases hv : parseU64 v with _ | m
      · simp [hv]
      · dsimp only
        split
        · next hall =>
          rw [ih]
          rcases length with _ | first <;> simp_all
        · next hall =>
          rcases length with _ | first <;> simp_all
          grind

/-- **A frame declares a length** just if it carries `content-length` fields that are all that
number. -/
theorem Headers.Carries.declared_iff {f : Headers} {values : List Bytes} (h : f.Carries values)
    (n : Nat) : f.contentLength = some n ∧ f.contentLengthInvalid = false ↔
      values ≠ [] ∧ ∀ v ∈ values, parseU64 v = some n := by
  have hi := contentLengthOf_iff none values n
  rw [← show _ = contentLengthOf none values from h] at hi
  simpa using hi

theorem contentLengthOf_none (length : Option Nat) (values : List Bytes) :
    contentLengthOf length values = (none, false) ↔ length = none ∧ values = [] := by
  induction values generalizing length with
  | nil => simp [contentLengthOf]
  | cons v vs ih =>
      unfold contentLengthOf
      rcases parseU64 v with _ | m
      · simp
      · dsimp only
        split <;> simp [ih]

/-- A frame whose `content-length` fields are not all one number is marked. -/
theorem Headers.Carries.invalid {f : Headers} {values : List Bytes} (h : f.Carries values)
    (hne : values ≠ []) (hno : ¬∃ n, ∀ v ∈ values, parseU64 v = some n) :
    f.contentLengthInvalid = true := by
  by_contra hi
  have hi' : f.contentLengthInvalid = false := by simpa using hi
  rcases hl : f.contentLength with _ | n
  · have hnone := (contentLengthOf_none none values).mp (by rw [← h, hl, hi'])
    exact hne hnone.2
  · exact hno ⟨n, (h.declared_iff n |>.mp ⟨hl, hi'⟩).2⟩

/-! ### Frames that break the length -/

namespace Inner

variable {me : Inner} {e : StreamEntry}

theorem recvData_of_streaming {fr : Data} (he : me.streams.lookup fr.streamId = some e)
    (hs : e.state.isRecvStreaming = true) :
    me.recvData fr = me.recvDataOn fr e me.pending.length := by
  have hc : e.state.isClosed = false := by
    cases hst : e.state <;> rw [hst] at hs <;> first | rfl | cases hs
  have hl : e.state.isLocalError = false := by
    cases hst : e.state <;> rw [hst] at hs <;> first | rfl | cases hs
  unfold recvData recvLookup
  simp only [he, hl, hc, hs, Bool.false_eq_true, if_false, Bool.not_true]

/-- **DATA** with more bytes than are left, or that ends the message too early. -/
theorem recvData_breaks {fr : Data} (he : me.streams.lookup fr.streamId = some e)
    (hs : e.state.isRecvStreaming = true)
    (hb : ∀ left, e.contentLength.dec fr.data.length = some left →
      fr.endStream = true ∧ left.isSatisfied = false) :
    (∃ code, (me.recvData fr).2 = .error (streamErr fr.streamId code)) ∨
      ∃ err, (me.consumeConnRecv fr.flowControlledLen).2 = some err ∧
        (me.recvData fr).2 = .error err := by
  rw [recvData_of_streaming he hs]
  unfold recvDataOn
  dsimp only
  split
  · next hx => exact .inr ⟨_, congrArg Prod.snd hx, rfl⟩
  · split
    · exact .inl ⟨_, rfl⟩
    · split
      · exact .inl ⟨_, rfl⟩
      · next left hd =>
        obtain ⟨hes, hsat⟩ := hb left hd
        rw [if_pos (by simp [hes, hsat])]
        exact .inl ⟨_, rfl⟩

/-- **Trailers** of a message that is short. -/
theorem recvTrailers_breaks {fr : Headers} (he : me.streams.lookup fr.streamId = some e)
    (hs : e.state.isRecvStreaming = true) (hb : e.contentLength.isSatisfied = false)
    (spare : Bool) :
    (me.recvHeaders fr spare).2 = .error (streamErr fr.streamId .protocolError) := by
  have hcl : ∃ st, e.state.recvClose = .ok st := by
    cases hst : e.state <;> rw [hst] at hs <;> first | exact ⟨_, rfl⟩ | cases hs
  obtain ⟨st, hst⟩ := hcl
  have hc : e.state.isClosed = false ∧ e.state.isLocalError = false ∧
      e.state.isRecvHeaders = false := by
    rcases hst : e.state with _ | _ | _ | ⟨_, _ | _⟩ | ⟨_ | _⟩ | _ | _ <;> rw [hst] at hs <;>
      first | exact ⟨rfl, rfl, rfl⟩ | cases hs
  unfold recvHeaders recvTrailers
  simp only [he, hc.1, hc.2.1, hc.2.2, Bool.false_eq_true, if_false, hst, hb, Bool.not_false,
    if_true]
  split <;> rfl

/-- **A head** whose length does not stand. -/
theorem recvHead_breaks {fr : Headers} (he : me.streams.lookup fr.streamId = some e)
    (hw : e.state.isRecvHeaders = true) (hb : ¬LengthOk fr e.contentLength) (spare : Bool) :
    (me.recvHeaders fr spare).2 = .error (streamErr fr.streamId .protocolError) := by
  have hc : e.state.isClosed = false ∧ e.state.isLocalError = false := by
    cases hst : e.state <;> rw [hst] at hw <;> first | exact ⟨rfl, rfl⟩ | cases hw
  have hopen : ∃ st, e.state.recvOpen fr.endStream fr.isInformational = .ok st := by
    rcases hst : e.state with _ | _ | _ | ⟨_, _ | _⟩ | ⟨_ | _⟩ | _ | _ <;> rw [hst] at hw <;>
      first | exact ⟨_, rfl⟩ | cases hw
  obtain ⟨st, hst⟩ := hopen
  have hl : (me.setStream fr.streamId { e with state := st }).streams.lookup
      fr.streamId = some { e with state := st } := AList.lookup_insert _
  obtain ⟨s, r, hx, -, hok, herr⟩ := applyContentLength_spec fr hl
  unfold recvHeaders recvHead
  simp only [he, hc.1, hc.2, hw, Bool.false_eq_true, if_false, if_true, hst, hx]
  cases r with
  | none => exact absurd (hok rfl).1 hb
  | some err =>
      rw [herr err rfl]
      split <;> rfl

end Inner

namespace Feed

variable {cfg : Config} {f f' : Feed} {k : Nat}

/-- The frame, on the stream `k`, breaks what its message declares. -/
inductive Breaks (f : Feed) (k : Nat) : Frame → Prop
  /-- More payload than declared. -/
  | excess {fr : Data} {n : Nat} (hk : fr.streamId = k)
      (hs : f.sys.inner.side k = some (.receiving .streaming)) (ht : f.toHead k = false)
      (hd : (f.message k).declared = some n)
      (hn : n < (f.message k).bytes + fr.data.length) : Breaks f k (.data fr)
  /-- Any payload, in answer to a HEAD. -/
  | payload {fr : Data} (hk : fr.streamId = k)
      (hs : f.sys.inner.side k = some (.receiving .streaming)) (ht : f.toHead k = true)
      (hd : fr.data ≠ []) : Breaks f k (.data fr)
  /-- Less payload than declared, at the end of the message. -/
  | short {fr : Data} {n : Nat} (hk : fr.streamId = k)
      (hs : f.sys.inner.side k = some (.receiving .streaming)) (ht : f.toHead k = false)
      (he : fr.endStream = true) (hd : (f.message k).declared = some n)
      (hn : (f.message k).bytes + fr.data.length < n) : Breaks f k (.data fr)
  /-- Less payload than declared, at the trailers. -/
  | trailers {fr : Headers} {n : Nat} (hk : fr.streamId = k)
      (hs : f.sys.inner.side k = some (.receiving .streaming)) (ht : f.toHead k = false)
      (hd : (f.message k).declared = some n) (hn : (f.message k).bytes < n) :
      Breaks f k (.headers fr)
  /-- A length above zero, on a head that ends the message. -/
  | head {fr : Headers} {n : Nat} (hk : fr.streamId = k)
      (hs : f.sys.inner.side k = some (.receiving .awaitingHeaders)) (ht : f.toHead k = false)
      (he : fr.endStream = true) (hd : fr.contentLength = some n) (hn : 0 < n)
      (hst : fr.status ≠ some 204 ∧ fr.status ≠ some 304) : Breaks f k (.headers fr)
  /-- `content-length` fields that are not all one number. -/
  | invalid {fr : Headers} {values : List Bytes} (hk : fr.streamId = k)
      (hs : f.sys.inner.side k = some (.receiving .awaitingHeaders)) (hc : fr.Carries values)
      (hne : values ≠ []) (hno : ¬∃ n, ∀ v ∈ values, parseU64 v = some n) :
      Breaks f k (.headers fr)

/-- The DATA frame has more bytes than the connection window. -/
def Overruns (me : Inner) : Frame → Prop
  | .data fr => me.connRecv.size < fr.flowControlledLen
  | _ => False

/-- What is left of the length, of a stream that is served. -/
theorem left_of (r : Reach Step Runs.Any (init cfg) f) (hk : f.surfaced k = true)
    (hp : f.sys.pump = .running) {half : Half} (hs : f.sys.inner.side k = some (.receiving half)) :
    (f.reader k).Measures :=
  (reader_ok r hk).measures (phase_running hp) ⟨half, hs⟩

theorem left_declared {r : Reader} (hm : r.Measures) (ht : r.toHead = false) {n : Nat}
    (hd : r.message.declared = some n) :
    ∃ left, r.length = .remaining left ∧ n = r.message.bytes + left := by
  unfold Reader.Measures at hm
  split at hm
  · rw [ht] at hm
    cases hm.1
  · rw [hd] at hm
    cases hm.2
  · next left hl =>
    rw [hd] at hm
    exact ⟨left, hl, Option.some.inj hm.2⟩

theorem left_toHead {r : Reader} (hm : r.Measures) : r.toHead = true ↔ r.length = .head := by
  unfold Reader.Measures at hm
  split at hm <;> simp_all

theorem overruns_of_consume {me : Inner} {fr : Data} {err : Err} (hw : me.Wf)
    (h : (me.consumeConnRecv fr.flowControlledLen).2 = some err) : Overruns me (.data fr) := by
  obtain ⟨r, hr, -⟩ := Option.map_eq_some_iff.mp h
  rcases hx : fcSendData me.connRecv fr.flowControlledLen with ⟨fc, r'⟩
  rw [hx] at hr
  cases hr
  exact (fcSendData_error hw.recvWindow.2 hx).2.2

/-- **A frame that breaks the length** raises. -/
theorem Breaks.raises {fr : Frame} (hw : f.sys.inner.Wf) (hm : (f.reader k).Measures)
    (hb : Breaks f k fr) :
    (∃ code, (f.sys.inner.dispatch fr).2 = .error (streamErr k code)) ∨
      Overruns f.sys.inner fr ∧ ∃ err, (f.sys.inner.dispatch fr).2 = .error err ∧
        err.ofConn = true := by
  have hlen : (f.reader k).length = f.sys.inner.lengthOf k := rfl
  -- what a DATA frame that breaks the length raises
  have data : ∀ {fr : Data}, fr.streamId = k →
      f.sys.inner.side k = some (.receiving .streaming) →
      (∀ left, (f.sys.inner.lengthOf k).dec fr.data.length = some left →
        fr.endStream = true ∧ left.isSatisfied = false) →
      (∃ code, (f.sys.inner.dispatch (.data fr)).2 = .error (streamErr k code)) ∨
        Overruns f.sys.inner (.data fr) ∧ ∃ err,
          (f.sys.inner.dispatch (.data fr)).2 = .error err ∧ err.ofConn = true := by
    rintro fr rfl hs hx
    obtain ⟨e, he, hside⟩ := side_eq_some hs
    rw [lengthOf_of he] at hx
    rcases recvData_breaks he (State.isRecvStreaming_iff.mpr hside) hx with
      ⟨code, hr⟩ | ⟨err, hover, hr⟩
    · exact .inl ⟨code, by simp only [dispatch, hr, Except.map]⟩
    · exact .inr ⟨overruns_of_consume hw hover, err, by simp only [dispatch, hr, Except.map],
        consumeConnRecv_error hover⟩
  have headers : ∀ {fr : Headers}, fr.streamId = k →
      (f.sys.inner.recvHeaders fr (f.sys.inner.role = .server)).2 =
        .error (streamErr fr.streamId .protocolError) →
      ∃ code, (f.sys.inner.dispatch (.headers fr)).2 = .error (streamErr k code) := by
    rintro fr rfl hr
    exact ⟨.protocolError, by simp only [dispatch, hr, Except.map]⟩
  cases hb with
  | excess hk hs ht hd hn =>
      refine data hk hs fun left hl => ?_
      obtain ⟨rem, hrem, hsum⟩ := left_declared hm ht hd
      have hsum' : _ = (f.message k).bytes + rem := hsum
      rw [← hlen, hrem, ContentLength.dec, if_neg (by omega)] at hl
      cases hl
  | payload hk hs ht hd =>
      refine data hk hs fun left hl => ?_
      rw [← hlen, (left_toHead hm).mp ht, ContentLength.dec, if_neg (by simpa using hd)] at hl
      cases hl
  | short hk hs ht he hd hn =>
      refine data hk hs fun left hl => ⟨he, ?_⟩
      obtain ⟨rem, hrem, hsum⟩ := left_declared hm ht hd
      have hsum' : _ = (f.message k).bytes + rem := hsum
      rw [← hlen, hrem, ContentLength.dec, if_pos (by omega)] at hl
      cases hl
      simp only [ContentLength.isSatisfied, beq_eq_false_iff_ne]
      omega
  | trailers hk hs ht hd hn =>
      subst hk
      obtain ⟨rem, hrem, hsum⟩ := left_declared hm ht hd
      have hsum' : _ = (f.message _).bytes + rem := hsum
      obtain ⟨e, he, hside⟩ := side_eq_some hs
      refine .inl (headers rfl (recvTrailers_breaks he (State.isRecvStreaming_iff.mpr hside) ?_ _))
      rw [← lengthOf_of he, ← hlen, hrem]
      simp only [ContentLength.isSatisfied, beq_eq_false_iff_ne]
      omega
  | head hk hs ht hes hd hn hst =>
      subst hk
      obtain ⟨e, he, hside⟩ := side_eq_some hs
      refine .inl (headers rfl (recvHead_breaks he (State.isRecvHeaders_iff.mpr hside) ?_ _))
      rintro ⟨-, hok⟩
      have hnh : e.contentLength.isHead = false := by
        rw [← lengthOf_of he, ← hlen]
        rcases hl : (f.reader _).length with _ | _ | _
        · rfl
        · have ht' : f.toHead _ = true := (left_toHead hm).mpr hl
          rw [ht] at ht'
          cases ht'
        · rfl
      rcases hok _ hd hnh hes hn with h | h
      · exact hst.1 h
      · exact hst.2 h
  | invalid hk hs hc hne hno =>
      subst hk
      obtain ⟨e, he, hside⟩ := side_eq_some hs
      refine .inl (headers rfl (recvHead_breaks he (State.isRecvHeaders_iff.mpr hside) ?_ _))
      rintro ⟨hinv, -⟩
      rw [hc.invalid hne hno] at hinv
      cases hinv

/-- A frame that breaks the length is not taken: its error is caught. -/
theorem Breaks.caught {fr : Frame} (r : Reach Step Runs.Any (init cfg) f)
    (hk : f.surfaced k = true) (hb : Breaks f k fr) (h : Step f (.recv fr) f') :
    ((∃ code, f'.sys.pump = .resetting k code) ∨ Overruns f.sys.inner fr ∧
      ∃ err, err.ofConn = true ∧ f'.sys.pump = .caught err) ∧
        f'.queue k = f.queue k ∧ f'.message k = f.message k := by
  obtain ⟨hp, -, hpump⟩ := step_recv h
  have hm : (f.reader k).Measures := by
    cases hb with
    | excess _ hs _ _ _ => exact left_of r hk hp hs
    | payload _ hs _ _ => exact left_of r hk hp hs
    | short _ hs _ _ _ _ => exact left_of r hk hp hs
    | trailers _ hs _ _ _ => exact left_of r hk hp hs
    | head _ hs _ _ _ _ _ => exact left_of r hk hp hs
    | invalid _ hs _ _ _ => exact left_of r hk hp hs
  have hraise := hb.raises (ok_run r).sys.wf hm
  have quiet : ∀ {err}, (f.sys.inner.dispatch fr).2 = .error err →
      f'.queue k = f.queue k ∧ f'.message k = f.message k := fun {err} herr => by
    have hsig : f.sys.signals (.recv fr) = [] := dispatchSignals_error herr
    obtain ⟨s, hs, rfl⟩ := Option.map_eq_some_iff.mp h
    refine ⟨?_, ?_⟩
    · show f.queue k ++ itemsOf k (f.sys.signals (.recv fr)) = f.queue k
      rw [hsig]
      exact List.append_nil _
    · show f.messageAfter (.recv fr) k = f.message k
      unfold messageAfter
      dsimp only
      rw [herr]
  have caught : ∀ {err}, (f.sys.inner.dispatch fr).2 = .error err →
      f'.sys.pump = .caught err := fun {err} herr => by
    rcases hpump with ⟨⟨v, hv⟩, -⟩ | ⟨err', herr', hp'⟩
    · rw [herr] at hv
      cases hv
    · rw [herr] at herr'
      cases herr'
      exact hp'
  rcases hraise with ⟨code, herr⟩ | ⟨hover, err, herr, hc⟩
  · exact ⟨.inl ⟨code, caught herr⟩, quiet herr⟩
  · exact ⟨.inr ⟨hover, err, hc, caught herr⟩, quiet herr⟩

/-- **The declared length is enforced.**  In every state the driver reaches, for every stream
handed to the application: a response to HEAD has no payload; a message that ended cleanly has the
length it declared, unless it answers a HEAD, or its head ended it and had the status 204 or 304
or declared no length of its own, and then it has no payload; and a frame that breaks what is
declared puts nothing on the queue and raises an error of the stream, or one of the connection
where it overruns the window of the connection.  A request whose head breaks the length is not
handed over. -/
theorem content_length_enforced (r : Reach Step Runs.Any (init cfg) f) :
    (∀ k, f.surfaced k = true →
      (f.toHead k = true → (f.message k).bytes = 0) ∧
      (ending (f.queue k) = some none →
        ((f.message k).bare = true → (f.message k).bytes = 0) ∧
        (f.toHead k = false → (f.message k).bare = false →
          ∀ n, (f.message k).declared = some n → (f.message k).bytes = n)) ∧
      ∀ fr f', Breaks f k fr → Step f (.recv fr) f' →
        ((∃ code, f'.sys.pump = .resetting k code) ∨ Overruns f.sys.inner fr ∧
          ∃ err, err.ofConn = true ∧ f'.sys.pump = .caught err) ∧
            f'.queue k = f.queue k ∧ f'.message k = f.message k) ∧
      ∀ fr f' k, Step f (.recv (.headers fr)) f' → f.surfaced k = false →
        f'.surfaced k = true → LengthOk fr .omitted := by
  refine ⟨fun k hk => ?_, fun fr f' k h hk hk' => ?_⟩
  · have hok := reader_ok r hk
    refine ⟨hok.headless, fun hend => ?_, fun fr f' hb h => hb.caught r hk h⟩
    obtain ⟨hbare, hlen⟩ := hok.measured (hok.clean.mp hend)
    exact ⟨fun hb => hbare (.inr hb), hlen⟩
  · rcases step_handed (ok_run r).sys h k with ⟨hw, -⟩ | ⟨-, hd⟩
    · obtain ⟨s, hs, rfl⟩ := Option.map_eq_some_iff.mp h
      have hs' : (f.surfaced k || decide (.surfaced k ∈ f.sys.signals (.recv (.headers fr)))) =
        true := hk'
      rw [hk, decide_eq_false hw] at hs'
      cases hs'
    · cases hd with
      | request _ _ _ _ _ hlen _ _ _ _ => exact hlen

/-- A response that declares three bytes and has them. -/
def threeBytes : List Sys.Action := Sys.openGet ++ [
  .recv (.headers { streamId := 1, inRange := inRange_one, endStream := false, status := some 200, contentLength := some 3 }),
  .recv (.data { streamId := 1, inRange := inRange_one, endStream := false, data := [7, 8] }),
  .recv (.data { streamId := 1, inRange := inRange_one, endStream := true, data := [9], padding := 4 })]

theorem content_length_three : ∃ f, Reach Step Runs.Any (init Sys.clientConfig) f ∧
    ending (f.queue 1) = some none ∧ (f.message 1).bytes = 3 := by
  obtain ⟨f, r, hf⟩ := reached_of_exec Sys.clientConfig threeBytes
    (fun f => f.surfaced 1 && decide (ending (f.queue 1) = some none ∧ f.toHead 1 = false ∧
      (f.message 1).bare = false ∧ (f.message 1).declared = some 3)) (by decide +kernel)
  simp only [Bool.and_eq_true, decide_eq_true_eq] at hf
  obtain ⟨hs, hend, ht, hb, hd⟩ := hf
  exact ⟨f, r, hend, (((content_length_enforced r).1 1 hs).2.1 hend).2 ht hb 3 hd⟩

/-- A HEAD request, whose response declares five bytes and ends with its head. -/
def headAnswered : List Sys.Action := [
  .call .tryClaimSlot, .call (.openStream (.ok (.request "HEAD" "/" [])) true true),
  .recv (.headers { streamId := 1, inRange := inRange_one, endStream := true, status := some 200, contentLength := some 5 })]

/-- The body ends cleanly, without the five bytes, and the status is neither 204 nor 304. -/
theorem head_keeps_none : ¬∀ (cfg : Config) (f : Feed), Reach Step Runs.Any (init cfg) f →
    ∀ k, f.surfaced k = true → ending (f.queue k) = some none →
      (∀ fr, .headers fr ∈ f.sys.received → fr.status ≠ some 204 ∧ fr.status ≠ some 304) →
        ∀ n, (f.message k).declared = some n → (f.message k).bytes = n := by
  intro h
  obtain ⟨f, r, hf⟩ := reached_of_exec Sys.clientConfig headAnswered
    (fun f => f.surfaced 1 && decide (ending (f.queue 1) = some none ∧ f.sys.received =
      [.headers { streamId := 1, endStream := true, status := some 200, contentLength := some 5 }] ∧
      (f.message 1).declared = some 5 ∧ (f.message 1).bytes = 0)) (by decide +kernel)
  simp only [Bool.and_eq_true, decide_eq_true_eq] at hf
  obtain ⟨hs, hend, hrec, hd, hb⟩ := hf
  have hk := h Sys.clientConfig f r 1 hs hend (fun fr hfr => by
    rw [hrec] at hfr
    cases List.mem_singleton.mp hfr
    exact ⟨by decide, by decide⟩) 5 hd
  rw [hb] at hk
  cases hk

end Feed

end Httpunk.H2
