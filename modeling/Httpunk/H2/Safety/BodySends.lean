import Httpunk.H2.Driver.Bodies
import Httpunk.H2.Safety.SendWindow
import Httpunk.H2.Safety.Silence

/-!
# H2 — Safety — BodySends

What the senders of the bodies frame.

* `sendData_frames`, `sendTrailers_frames`: what one send queues on its stream.
* `Upload.rest`: what a sender has still to frame of what it was handed.
* `BodySend.Fine`: where a sender may stand over the frames queued, kept by every step.
* `Bodies.body_framed`: what is framed is the body, in order and once, and ended once.
-/

namespace Httpunk.H2

open Runs (Reach)

variable {sid : Nat} {fs gs : List OutFrame} {f : OutFrame}

/-! ### What is framed -/

/-- The payload of a frame on the stream. -/
def OutFrame.payload (sid : Nat) : OutFrame → Bytes
  | .data k p _ => if k = sid then p else []
  | _ => []

/-- The payloads framed on the stream, in order. -/
def payloadOn (sid : Nat) (log : List OutFrame) : Bytes := log.flatMap (OutFrame.payload sid)

/-- A trailing HEADERS. -/
def OutFrame.isTrailers : OutFrame → Bool
  | .headers _ (.trailers _) _ => true
  | _ => false

theorem payloadOn_append (sid : Nat) (fs gs : List OutFrame) :
    payloadOn sid (fs ++ gs) = payloadOn sid fs ++ payloadOn sid gs := List.flatMap_append

theorem payload_of_unspoken (h : f.speaks sid = false) : f.payload sid = [] := by
  cases f with
  | data => exact if_neg (beq_eq_false_iff_ne.mp h)
  | _ => rfl

theorem payloadOn_of_unspoken (h : ∀ f ∈ fs, f.speaks sid = false) : payloadOn sid fs = [] :=
  List.flatMap_eq_nil_iff.mpr fun f hf => payload_of_unspoken (h f hf)

/-- One frame among frames that do not speak for the stream. -/
theorem payloadOn_one (h₁ : ∀ f ∈ fs, f.speaks sid = false) (h₂ : ∀ f ∈ gs, f.speaks sid = false) :
    payloadOn sid (fs ++ f :: gs) = f.payload sid := by
  rw [payloadOn_append, payloadOn_of_unspoken h₁, List.nil_append, payloadOn, List.flatMap_cons]
  exact (congrArg _ (payloadOn_of_unspoken h₂)).trans (List.append_nil _)

/-- END_STREAM is the last that the stream speaks, and goes out once: on DATA, or on trailers. -/
def EndedOnce (sid : Nat) (trailers : Bool) (log : List OutFrame) : Prop :=
  ∃ before f after, log = before ++ f :: after ∧ f.endsStream sid = true ∧
    f.isTrailers = trailers ∧ (∀ g ∈ before, g.endsStream sid = false) ∧
    ∀ g ∈ after, g.speaks sid = false

theorem EndedOnce.append {trailers : Bool} (h : EndedOnce sid trailers fs)
    (hg : ∀ g ∈ gs, g.speaks sid = false) : EndedOnce sid trailers (fs ++ gs) := by
  obtain ⟨before, f, after, rfl, he, ht, hb, ha⟩ := h
  refine ⟨before, f, after ++ gs, by simp, he, ht, hb, fun g hmem => ?_⟩
  exact (List.mem_append.mp hmem).elim (ha g) (hg g)

namespace Sys

variable {σ σ' : Sys}

/-- **What a `send_data` queues**: nothing on its stream, or the next bytes of its data. -/
theorem sendData_frames (h : σ.Ok) (sid : Nat) (data : Bytes) (offset : Nat) (eos : Bool) :
    ∃ v fs, (σ.inner.sendData sid data offset eos).2 = .ok v ∧
      (σ.call (.sendData sid data offset eos)).log = σ.log ++ fs ∧
      (v.sent = 0 ∧ v.done = false ∧ (∀ f ∈ fs, f.speaks sid = false) ∨
        v.stopped = none ∧ v.done = decide (v.sent = data.length - offset) ∧
          (v.done = false → 0 < v.sent) ∧
          ∃ before after,
            fs = before ++ .data sid ((data.drop offset).take v.sent) (eos && v.done) :: after ∧
            (∀ f ∈ before, f.speaks sid = false) ∧ ∀ f ∈ after, f.speaks sid = false) := by
  obtain ⟨v, me', hv, hf⟩ := Inner.sendData_framed h.wf sid data offset eos
  obtain rfl : (σ.inner.call (.sendData sid data offset eos)).1 = me' := congrArg Prod.fst hv
  rcases hf with hf | hf
  · obtain ⟨fs, hfs, hn⟩ := hf.moves.unspoken sid fun _ hk => hk.elim
    exact ⟨v, fs, congrArg Prod.snd hv, log_call hfs, .inl ⟨hf.sent, hf.running, hn⟩⟩
  · obtain ⟨s₁, s₂, h₁, hm, h₂⟩ := hf.moved
    obtain ⟨before, hfs₁, hn₁⟩ := h₁.unspoken sid fun _ hk => hk.elim
    obtain ⟨after, hfs₂, hn₂⟩ := h₂.unspoken sid fun _ hk => hk.elim
    obtain ⟨fs, hfs, hq⟩ := hm.frames
    refine ⟨v, _, congrArg Prod.snd hv, log_call ?_,
      .inr ⟨hf.running, hf.finished, hf.progress, before, after, rfl, hn₁, hn₂⟩⟩
    rw [hfs₂, hfs, hfs₁, show fs = [.data sid _ _] from hq]
    simp only [List.append_assoc, List.singleton_append]

/-- **What trailers queue**: nothing, or the end of their stream. -/
theorem sendTrailers_frames (σ : Sys) (sid : Nat) (trailers : Fields) :
    ∃ v fs, (σ.inner.sendTrailers sid trailers).2 = .ok v ∧
      (σ.call (.sendTrailers sid trailers)).log = σ.log ++ fs ∧
      (v.stopped.isSome = true ∧ fs = [] ∨
        v.stopped = none ∧ ∃ after, fs = .headers sid (.trailers trailers) true :: after ∧
          ∀ f ∈ after, f.speaks sid = false) := by
  have hpend : ∀ fs, (σ.inner.sendTrailers sid trailers).1.pending = σ.inner.pending ++ fs →
      (σ.call (.sendTrailers sid trailers)).log = σ.log ++ fs := fun fs hfs => log_call hfs
  unfold Inner.sendTrailers at hpend ⊢
  dsimp only at hpend ⊢
  split
  · next he =>
    rw [he] at hpend
    exact ⟨_, [], rfl, hpend [] (List.append_nil _).symm, .inl ⟨rfl, rfl⟩⟩
  · next e he =>
    rw [he] at hpend
    dsimp only at hpend
    split
    · next hs =>
      rw [if_pos hs] at hpend
      exact ⟨_, [], rfl, hpend [] (List.append_nil _).symm, .inl ⟨rfl, rfl⟩⟩
    · next hs =>
      rw [if_neg hs] at hpend
      have hs' : e.state.isSendStreaming = true := by simpa using hs
      obtain ⟨st, hst⟩ := State.sendClose_of_isSendStreaming hs'
      rw [hst] at hpend ⊢
      dsimp only at hpend ⊢
      have hm : Moves Kind.nothing _ _ := Inner.finishStream_moves ((σ.inner.setStream sid
        { e with state := st }).emit (.headers sid (.trailers trailers) true)) sid
      obtain ⟨after, hfs, hn⟩ := hm.unspoken sid fun _ hk => hk.elim
      refine ⟨_, .headers sid (.trailers trailers) true :: after, rfl, hpend _ ?_,
        .inr ⟨rfl, after, rfl, hn⟩⟩
      rw [hfs, Inner.emit, List.append_assoc]
      rfl

end Sys

/-! ### Where a sender stands in its body -/

/-- What follows the chunk that is sent. -/
def Next.held : Next → Bytes
  | .keep (some chunk) => chunk
  | .keep none | .pull | .trailers | .finish => []

/-- What follows the chunk fits the body and its trailers. -/
def Next.Fits (body : Body) (trailers : Option Fields) : Next → Prop
  | .pull => ∀ data, body ≠ .bytes data
  | .keep _ => body = .iter
  | .trailers => trailers.isSome = true
  | .finish => trailers.isSome = false

namespace Upload

/-- What is still to be framed of what the sender was handed, until it gives up. -/
def rest (u : Upload) : Option Bytes :=
  match u.stage with
  | .inline offset | .spawning offset => some (u.body.whole.drop offset)
  | .sending data offset _ next => some (data.drop offset ++ next.held)
  | .pulling pending => some (pending.getD [])
  | .trailers | .ended .finished => some []
  | .ended .stopped | .ended .refused | .ended .raised => none

/-- END_STREAM goes with the last chunk of a body without trailers, and with no other; only a sync
body holds a chunk back. -/
def Poised (u : Upload) : Prop :=
  match u.stage with
  | .sending _ _ last next => (last = true ↔ next = .finish) ∧ next.Fits u.body u.trailers
  | .pulling pending => u.body = .iter ∨ u.body = .aiter ∧ pending = none
  | .trailers => u.trailers.isSome = true
  | .inline _ | .spawning _ | .ended _ => True

variable {u : Upload} {data : Bytes} {offset : Nat} {last : Bool} {next : Next}

theorem closing_fits (u : Upload) : u.closing.Fits u.body u.trailers := by
  unfold closing
  split
  · next h => exact h
  · next h => exact Bool.eq_false_iff.mpr h

theorem closing_held (u : Upload) : u.closing.held = [] := by
  unfold closing
  split <;> rfl

theorem isNone_iff_closing (u : Upload) : u.trailers.isNone = true ↔ u.closing = .finish := by
  unfold closing
  cases u.trailers <;> simp

/-- Once the chunk is queued. -/
theorem poised_after (h : next.Fits u.body u.trailers) : { u with stage := after next }.Poised := by
  cases next with
  | pull =>
      have hb : u.body = .iter ∨ u.body = .aiter := by
        rcases hb : u.body with data | _ | _
        · exact absurd hb (h data)
        · exact .inl rfl
        · exact .inr rfl
      exact hb.imp_right fun ha => ⟨ha, rfl⟩
  | keep chunk =>
      cases chunk with
      | some chunk => exact .inl h
      | none => trivial
  | trailers => exact h
  | finish => trivial

theorem rest_after {r : Bytes} (h : { u with stage := after next }.rest = some r) : r = next.held := by
  cases next with
  | keep chunk =>
      cases chunk with
      | some chunk => exact (Option.some.inj h).symm
      | none => cases h
  | _ => exact (Option.some.inj h).symm

theorem finished_after : after next = .ended .finished ↔ next = .finish := by
  cases next with
  | keep chunk => cases chunk <;> simp [after, keeping]
  | _ => simp [after]

/-- `_send_body` begins where the inline attempt left. -/
theorem poised_begun (u : Upload) (offset : Nat) : { u with stage := u.begun offset }.Poised := by
  obtain ⟨body, trailers, stage⟩ := u
  cases body with
  | bytes data => exact ⟨isNone_iff_closing _, closing_fits _⟩
  | iter => exact .inl rfl
  | aiter => exact .inr ⟨rfl, rfl⟩

theorem rest_begun (u : Upload) (offset : Nat) :
    { u with stage := u.begun offset }.rest = some (u.body.whole.drop offset) := by
  obtain ⟨body, trailers, stage⟩ := u
  cases body with
  | bytes data =>
      change some (data.drop offset ++ Next.held (closing _)) = _
      rw [closing_held, List.append_nil]
      rfl
  | iter | aiter => exact congrArg some List.drop_nil.symm

/-- The producer answers. -/
theorem poised_pulled (u : Upload) {pending : Option Bytes} (p : Produced)
    (h : u.body = .iter ∨ u.body = .aiter ∧ pending = none) :
    { u with stage := u.pulled pending p }.Poised := by
  obtain ⟨body, trailers, stage⟩ := u
  cases p with
  | raised => trivial
  | chunk chunk =>
      rcases h with rfl | ⟨rfl, rfl⟩
      · cases pending with
        | some data => exact ⟨by simp, rfl⟩
        | none => cases chunk with
          | some chunk => exact .inl rfl
          | none => trivial
      · cases chunk with
        | some chunk => exact ⟨by simp, fun data hb => by cases hb⟩
        | none => trivial
  | stop =>
      cases trailers with
      | some fields => cases pending with
        | some data =>
            unfold pulled
            dsimp only
            split
            · rfl
            · exact ⟨by simp, rfl⟩
        | none => rfl
      | none => cases pending with
        | some data => exact ⟨by simp, rfl⟩
        | none => exact ⟨by simp, rfl⟩

theorem rest_pulled (u : Upload) {pending : Option Bytes} (p : Produced)
    (h : u.body = .iter ∨ u.body = .aiter ∧ pending = none) {r : Bytes}
    (hr : { u with stage := u.pulled pending p }.rest = some r) :
    r = pending.getD [] ++ BodySend.handed p := by
  obtain ⟨body, trailers, stage⟩ := u
  cases p with
  | raised => cases hr
  | chunk chunk =>
      rcases h with rfl | ⟨rfl, rfl⟩
      · cases pending with
        | some data => cases chunk <;> exact (Option.some.inj hr).symm
        | none => cases chunk with
          | some chunk => exact (Option.some.inj hr).symm
          | none => cases hr
      · cases chunk with
        | some chunk =>
            have hr' : chunk ++ [] = r := Option.some.inj hr
            rw [List.append_nil] at hr'
            exact hr'.symm
        | none => cases hr
  | stop =>
      cases trailers with
      | some fields => cases pending with
        | some data =>
            unfold pulled at hr
            dsimp only at hr
            split at hr
            · next hd =>
              rw [List.isEmpty_iff.mp hd]
              exact (Option.some.inj hr).symm
            · exact (Option.some.inj hr).symm
        | none => exact (Option.some.inj hr).symm
      | none => cases pending <;> exact (Option.some.inj hr).symm

theorem unfinished_pulled (u : Upload) (pending : Option Bytes) (p : Produced) :
    u.pulled pending p ≠ .ended .finished := by
  intro h
  unfold pulled at h
  repeat' split at h
  all_goals first | cases h | (unfold keeping at h; split at h <;> cases h)

end Upload

/-! ### Where a sender may stand -/

open Sys (Action Step)

variable {σ σ' : Sys} {a : Action} {t t' : BodySend} {n : Nat}

/-- A stream whose head was the first frame after `n`: nothing follows what stops it. -/
structure Heard (n : Nat) (σ : Sys) (sid : Nat) : Prop where
  used : σ.inner.Used sid
  begun : σ.inner.SendBegun sid
  since : n ≤ σ.log.length
  silent : Silent sid (σ.log.drop n)
  stopped : (∃ f ∈ σ.log.drop n, f.stops sid = true) → σ.inner.SendOver sid

/-- A step of the driver keeps the head of a stream out. -/
theorem sendBegun_step (hok : σ.Ok) (hs : Step σ a σ') (hu : σ.inner.Used sid)
    (h : σ.inner.SendBegun sid) : σ'.inner.SendBegun sid := by
  by_cases ha : a = .flush
  · subst ha
    cases hs
    exact h
  · exact (hok.step_moves hs ha).sendBegun hok.wf hu h

theorem Heard.step (h : Heard n σ sid) (hok : σ.Ok) (hs : Step σ a σ') : Heard n σ' sid := by
  obtain ⟨fs, hlog, hsp⟩ := Sys.step_speech hok hs h.used
  have hdrop : σ'.log.drop n = σ.log.drop n ++ fs := by
    rw [hlog, List.drop_append_of_le_length h.since]
  refine ⟨(hok.grows hs).used h.used, sendBegun_step hok hs h.used h.begun, ?_, ?_, ?_⟩
  · rw [hlog, List.length_append]
    exact Nat.le_add_right_of_le h.since
  · rw [hdrop]
    refine List.pairwise_append.mpr ⟨h.silent, hsp.silent, fun f hf g hg hst => ?_⟩
    exact hsp.mute (h.stopped ⟨f, hf, hst⟩) g hg
  · rw [hdrop]
    rintro ⟨f, hf, hst⟩
    rcases List.mem_append.mp hf with hf | hf
    · exact Upload.sendOver_step hok hs h.used (h.stopped ⟨f, hf, hst⟩)
    · exact hsp.stopped ⟨f, hf, hst⟩

/-- **Where a sender may stand over what is queued.** -/
structure BodySend.Fine (t : BodySend) (σ : Sys) (sid : Nat) : Prop where
  heard : Heard t.since σ sid
  poised : t.upload.Poised
  given : ∀ data, t.upload.body = .bytes data → t.body = data
  whole : ∀ rest, t.upload.rest = some rest → payloadOn sid σ.log ++ rest = t.body
  part : payloadOn sid σ.log <+: t.body
  running : t.upload.stage ≠ .ended .finished → ∀ f ∈ σ.log, f.endsStream sid = false
  ended : t.upload.stage = .ended .finished → EndedOnce sid t.upload.trailers.isSome σ.log

/-- A sender that has its whole body still to frame. -/
structure BodySend.Begins (t : BodySend) : Prop where
  poised : t.upload.Poised
  given : ∀ data, t.upload.body = .bytes data → t.body = data
  rest : t.upload.rest = some t.body
  running : t.upload.stage ≠ .ended .finished

theorem BodySend.begins_request {body : Body} {trailers : Option Fields}
    (h : body.bodyless = false ∨ trailers.isSome = true) (n : Nat) :
    (BodySend.request body trailers n).Begins := by
  cases body with
  | bytes data =>
      cases data with
      | nil =>
          rcases h with h | h
          · cases h
          · exact ⟨h, fun _ he => by cases he; rfl, rfl, by simp [request, Upload.start]⟩
      | cons => exact ⟨trivial, fun _ he => by cases he; rfl, rfl, by simp [request, Upload.start]⟩
  | iter | aiter => exact ⟨trivial, fun _ he => (by cases he), rfl, by simp [request, Upload.start]⟩

theorem BodySend.begins_respond (body : Body) (trailers : Option Fields) (n : Nat) :
    (BodySend.respond body trailers n).Begins := by
  have hgiven : ∀ data, body = .bytes data → body.whole = data := fun data he => by rw [he]; rfl
  unfold BodySend.respond
  dsimp only
  split
  · next h =>
    refine ⟨h.2, hgiven, ?_, by simp⟩
    rw [h.1]
    rfl
  · refine ⟨Upload.poised_begun _ _, hgiven, Upload.rest_begun _ _, ?_⟩
    cases body <;> simp [Upload.begun]

theorem BodySend.begins_pushed (n : Nat) : (BodySend.pushed n).Begins :=
  ⟨.inr ⟨rfl, rfl⟩, fun _ he => (by cases he), rfl, by simp [pushed, pushing]⟩

namespace BodySend.Fine

/-- Another step of the driver. -/
theorem step (h : t.Fine σ sid) (hok : σ.Ok) (hs : Step σ a σ') (ha : Sys.sendsOn sid a = false) :
    t.Fine σ' sid := by
  obtain ⟨fs, hlog, hn⟩ := Sys.step_unspoken hok hs h.heard.used h.heard.begun ha
  have hpay : payloadOn sid σ'.log = payloadOn sid σ.log := by
    rw [hlog, payloadOn_append, payloadOn_of_unspoken hn, List.append_nil]
  refine ⟨h.heard.step hok hs, h.poised, h.given, ?_, ?_, fun hx f hf => ?_, fun hx => ?_⟩
  · rw [hpay]
    exact h.whole
  · rw [hpay]
    exact h.part
  · rw [hlog] at hf
    rcases List.mem_append.mp hf with hf | hf
    · exact h.running hx f hf
    · exact OutFrame.ends_speaks (hn f hf)
  · rw [hlog]
    exact (h.ended hx).append hn

/-- The sender goes on where nothing was queued on its stream. -/
theorem unspoken (h : t.Fine σ sid) (hx : t.upload.stage ≠ .ended .finished)
    (hh : Heard t.since σ' sid) (hlog : σ'.log = σ.log ++ fs)
    (hn : ∀ f ∈ fs, f.speaks sid = false) {stage : Stage} (hp : (t.goTo stage).upload.Poised)
    (hr : (t.goTo stage).upload.rest = t.upload.rest ∨ (t.goTo stage).upload.rest = none)
    (hx' : stage ≠ .ended .finished) : (t.goTo stage).Fine σ' sid := by
  have hpay : payloadOn sid σ'.log = payloadOn sid σ.log := by
    rw [hlog, payloadOn_append, payloadOn_of_unspoken hn, List.append_nil]
  refine ⟨hh, hp, h.given, fun r hr' => ?_, ?_, fun _ f hf => ?_, fun he => absurd he hx'⟩
  · rw [hpay]
    rcases hr with hr | hr
    · exact h.whole r (hr.symm.trans hr')
    · rw [hr] at hr'
      cases hr'
  · rw [hpay]
    exact h.part
  · rw [hlog] at hf
    rcases List.mem_append.mp hf with hf | hf
    · exact h.running hx f hf
    · exact OutFrame.ends_speaks (hn f hf)

/-- **The sender goes on where one frame was queued on its stream**: the next of what it has still
to frame. -/
theorem spoken (h : t.Fine σ sid) (hx : t.upload.stage ≠ .ended .finished)
    (hh : Heard t.since σ' sid) {before after : List OutFrame}
    (hlog : σ'.log = σ.log ++ (before ++ f :: after)) (hb : ∀ f ∈ before, f.speaks sid = false)
    (ha : ∀ f ∈ after, f.speaks sid = false) {stage : Stage} {r : Bytes}
    (hp : (t.goTo stage).upload.Poised) (hrest : t.upload.rest = some (f.payload sid ++ r))
    (hr : ∀ r', (t.goTo stage).upload.rest = some r' → r' = r)
    (hend : f.endsStream sid = true ↔ stage = .ended .finished)
    (htr : stage = .ended .finished → f.isTrailers = t.upload.trailers.isSome) :
    (t.goTo stage).Fine σ' sid := by
  have hpay : payloadOn sid σ'.log = payloadOn sid σ.log ++ f.payload sid := by
    rw [hlog, payloadOn_append, payloadOn_one hb ha]
  have hwhole : payloadOn sid σ'.log ++ r = t.body := by
    rw [hpay, List.append_assoc]
    exact h.whole _ hrest
  have hbefore : ∀ g ∈ σ.log ++ before, g.endsStream sid = false := by
    intro g hg
    rcases List.mem_append.mp hg with hg | hg
    · exact h.running hx g hg
    · exact OutFrame.ends_speaks (hb g hg)
  refine ⟨hh, hp, h.given, fun r' hr' => ?_, ⟨r, hwhole⟩, fun hx' g hg => ?_, fun he => ?_⟩
  · rw [hr r' hr']
    exact hwhole
  · rw [hlog, ← List.append_assoc] at hg
    rcases List.mem_append.mp hg with hg | hg
    · exact hbefore g hg
    · rcases List.mem_cons.mp hg with rfl | hg
      · exact Bool.eq_false_iff.mpr fun hf => hx' (hend.mp hf)
      · exact OutFrame.ends_speaks (ha g hg)
  · exact ⟨σ.log ++ before, f, after, by rw [hlog, List.append_assoc], hend.mpr he, htr he, hbefore, ha⟩

/-- A stage of a sender that goes on, with what it has still to frame. -/
structure Stands (t : BodySend) (stage : Stage) (rest : Bytes) : Prop where
  poised : (t.goTo stage).upload.Poised
  rest : (t.goTo stage).upload.rest = some rest
  running : stage ≠ .ended .finished

/-- **After one `send_data`.** -/
theorem afterSend (h : t.Fine σ sid) (hok : σ.Ok) (hx : t.upload.stage ≠ .ended .finished)
    {data held : Bytes} {offset : Nat} {last : Bool} {next : Next} {parked : Stage}
    {more : Nat → Stage} (hs : Step σ (.call (.sendData sid data offset last)) σ')
    (hrest : t.upload.rest = some (data.drop offset ++ held))
    (hlast : last = true ↔ next = .finish) (hfits : next.Fits t.upload.body t.upload.trailers)
    (hheld : next.held = held) (hparked : Stands t parked (data.drop offset ++ held))
    (hmore : ∀ n, Stands t (more n) (data.drop n ++ held)) :
    (t.goTo (Upload.afterSend offset (Upload.after next) parked more
      (σ.inner.sendData sid data offset last).2)).Fine σ' sid := by
  have hh := h.heard.step hok hs
  obtain ⟨-, rfl⟩ := hs.call
  obtain ⟨v, fs, hv, hlog, hcase⟩ := Sys.sendData_frames hok sid data offset last
  rw [hv]
  unfold Upload.afterSend
  dsimp only
  rcases hcase with ⟨hsent, hdone, hn⟩ | ⟨hstop, hdone, hprog, before, after, rfl, hb, ha⟩
  · -- nothing was framed: the sender is stopped, or parks
    split
    · exact h.unspoken hx hh hlog hn trivial (.inr rfl) fun he => by cases he
    · rw [hdone, if_neg Bool.false_ne_true]
      exact h.unspoken hx hh hlog hn hparked.poised (.inl (hparked.rest.trans hrest.symm))
        hparked.running
  · rw [hstop, if_neg (by simp)]
    have hpay : ∀ (p : Bytes) (e : Bool), (OutFrame.data sid p e).payload sid = p :=
      fun _ _ => if_pos rfl
    split
    · -- the chunk is queued whole
      next hd =>
      rw [hd] at hlog hdone
      have hall : (data.drop offset).take v.sent = data.drop offset := by
        refine List.take_of_length_le ?_
        rw [of_decide_eq_true hdone.symm, List.length_drop]
      rw [hall, Bool.and_true] at hlog
      have hnext : t.upload.rest =
          some ((OutFrame.data sid (data.drop offset) last).payload sid ++ held) := by
        rw [hpay]
        exact hrest
      refine h.spoken hx hh hlog hb ha (Upload.poised_after hfits) hnext (fun r' hr' => ?_) ?_ ?_
      · exact (Upload.rest_after hr').trans hheld
      · rw [Upload.finished_after, ← hlast, OutFrame.endsStream, beq_self_eq_true, Bool.true_and]
      · intro he
        rw [Upload.finished_after.mp he] at hfits
        exact hfits.symm
    · next hd =>
      have hd' : v.done = false := by simpa using hd
      rw [if_neg (Nat.ne_of_gt (hprog hd'))]
      have hst := hmore (offset + v.sent)
      have hnext : t.upload.rest = some ((OutFrame.data sid ((data.drop offset).take v.sent)
          (last && v.done)).payload sid ++ (data.drop (offset + v.sent) ++ held)) := by
        rw [hpay, hrest, ← List.append_assoc, ← List.drop_drop, List.take_append_drop]
      refine h.spoken hx hh hlog hb ha hst.poised hnext (fun r' hr' => ?_) ?_ fun he => ?_
      · exact (Option.some.inj (hst.rest.symm.trans hr')).symm
      · rw [hd', OutFrame.endsStream, Bool.and_false, Bool.and_false]
        exact ⟨fun hf => absurd hf Bool.false_ne_true, fun he => absurd he hst.running⟩
      · exact absurd he hst.running

/-- The trailers end the body, or find their stream stopped. -/
theorem trailers (h : t.Fine σ sid) (hok : σ.Ok) (hst : t.upload.stage = .trailers)
    {fields : Fields} (hs : Step σ (.call (.sendTrailers sid fields)) σ') :
    (t.goTo (Upload.afterTrailers (σ.inner.sendTrailers sid fields).2)).Fine σ' sid := by
  have hx : t.upload.stage ≠ .ended .finished := by
    rw [hst]
    intro he
    cases he
  have hrest : t.upload.rest = some [] := by rw [Upload.rest, hst]
  have htr : t.upload.trailers.isSome = true := by
    have hp := h.poised
    rw [Upload.Poised, hst] at hp
    exact hp
  have hh := h.heard.step hok hs
  obtain ⟨-, rfl⟩ := hs.call
  obtain ⟨v, fs, hv, hlog, ⟨hstop, rfl⟩ | ⟨hstop, after, rfl, ha⟩⟩ :=
    Sys.sendTrailers_frames σ sid fields
  · rw [hv]
    unfold Upload.afterTrailers
    dsimp only
    rw [if_pos hstop]
    exact h.unspoken hx hh hlog (fun f hf => by cases hf) trivial (.inr rfl) fun he => by cases he
  · rw [hv]
    unfold Upload.afterTrailers
    dsimp only
    rw [hstop, if_neg (by simp)]
    have hlog' : (σ.call (.sendTrailers sid fields)).log =
        σ.log ++ ([] ++ .headers sid (.trailers fields) true :: after) := hlog
    refine h.spoken hx hh hlog' (fun f hf => by cases hf) ha trivial (r := [])
      (by rw [hrest]; rfl) (fun r' hr' => (Option.some.inj hr').symm) ?_ fun _ => htr.symm
    simp [OutFrame.endsStream]

/-- **The next call of a sender leaves it where it may stand.** -/
theorem next (h : t.Fine σ sid) (hok : σ.Ok) {c : Call} {stage : Stage}
    (hn : t.upload.next σ.inner sid = some (c, stage)) (hs : Step σ (.call c) σ') :
    (t.goTo stage).Fine σ' sid := by
  have hp := h.poised
  unfold Upload.next at hn
  split at hn
  · next offset hst =>
    split at hn
    · next data hb =>
      cases hn
      have hw : t.upload.body.whole = data := by rw [hb]; rfl
      have hrest : t.upload.rest = some (data.drop offset ++ []) := by
        rw [Upload.rest, hst]
        dsimp only
        rw [hw, List.append_nil]
      refine h.afterSend hok (by rw [hst]; simp) hs hrest (Upload.isNone_iff_closing _)
        (Upload.closing_fits _) (Upload.closing_held _) ?_ fun n => ?_
      · exact ⟨trivial, by rw [List.append_nil, ← hw]; rfl, by simp⟩
      · exact ⟨trivial, by rw [List.append_nil, ← hw]; rfl, by simp⟩
    · cases hn
    · cases hn
  · next offset hst =>
    cases hn
    have hx : t.upload.stage ≠ .ended .finished := by rw [hst]; simp
    obtain ⟨fs, hlog, hq⟩ := Sys.step_unspoken hok hs h.heard.used h.heard.begun rfl
    have hh := h.heard.step hok hs
    split
    · refine h.unspoken hx hh hlog hq (Upload.poised_begun _ _) (.inl ?_) ?_
      · refine (Upload.rest_begun _ _).trans ?_
        rw [Upload.rest, hst]
      · unfold Upload.begun
        split <;> simp
    · exact h.unspoken hx hh hlog hq trivial (.inr rfl) (by simp)
  · next data offset last next hst =>
    cases hn
    rw [Upload.Poised, hst] at hp
    have hrest : t.upload.rest = some (data.drop offset ++ next.held) := by rw [Upload.rest, hst]
    have hstands : ∀ n, Stands t (.sending data n last next) (data.drop n ++ next.held) :=
      fun n => ⟨hp, rfl, by simp⟩
    refine h.afterSend hok (by rw [hst]; simp) hs hrest hp.1 hp.2 rfl ?_ hstands
    rw [hst]
    exact hstands offset
  · next hst =>
    cases hn
    exact h.trailers hok hst hs
  · cases hn
  · cases hn

/-- A call that a sender makes is allowed, and a send on its stream, if it is one. -/
theorem next_call {me : Inner} {c : Call} {stage : Stage}
    (hn : t.upload.next me sid = some (c, stage)) (σ : Sys) :
    σ.allowed c = true ∧ ∀ k, k ≠ sid → Sys.sendsOn k (.call c) = false := by
  unfold Upload.next at hn
  repeat' split at hn
  all_goals cases hn
  all_goals refine ⟨rfl, fun k hk => ?_⟩
  all_goals first | rfl | exact beq_eq_false_iff_ne.mpr hk.symm

/-- The sender gives up. -/
theorem givenUp (h : t.Fine σ sid) (hx : t.upload.stage ≠ .ended .finished) {how : Ending}
    (hhow : how ≠ .finished) : (t.goTo (.ended how)).Fine σ sid := by
  refine h.unspoken hx h.heard (List.append_nil _).symm (fun f hf => by cases hf) trivial (.inr ?_)
    fun he => hhow (by cases he; rfl)
  cases how <;> first | rfl | exact absurd rfl hhow

/-- A `send_data` is cancelled: what is framed of the body is all that was handed over. -/
theorem cut (h : t.Fine σ sid) {chunk : Bytes} {offset : Nat}
    (hst : t.upload.stage = .sending chunk offset false .pull) :
    (t.cut (chunk.drop offset)).Fine σ sid := by
  have hfits : Next.Fits t.upload.body t.upload.trailers .pull := by
    have hp := h.poised
    rw [Upload.Poised, hst] at hp
    exact hp.2
  have hbody : t.upload.body = .iter ∨ t.upload.body = .aiter := by
    rcases hb : t.upload.body with data | _ | _
    · exact absurd hb (hfits data)
    · exact .inl rfl
    · exact .inr rfl
  have hframed : (t.cut (chunk.drop offset)).body = payloadOn sid σ.log := by
    have hw := h.whole (chunk.drop offset) (by
      rw [Upload.rest, hst]
      exact congrArg some (List.append_nil _))
    change t.body.take (t.body.length - (chunk.drop offset).length) = _
    rw [← hw, List.length_append, Nat.add_sub_cancel]
    exact List.take_left
  refine ⟨h.heard, hbody.imp_right fun ha => ⟨ha, rfl⟩, fun data he => absurd he (hfits data),
    fun r hr => ?_, by rw [hframed], fun _ => h.running (by rw [hst]; simp), fun he => ?_⟩
  · have hnil : [] = r := Option.some.inj hr
    rw [hframed, ← hnil, List.append_nil]
  · cases he

/-- The sender is handed more of its body. -/
theorem handed (h : t.Fine σ sid) (hx : t.upload.stage ≠ .ended .finished) {u : Upload}
    {chunk r : Bytes} (hp : u.Poised) (hrest : t.upload.rest = some r)
    (hr : ∀ r', u.rest = some r' → r' = r ++ chunk) (hb : ∀ data, u.body ≠ .bytes data)
    (hx' : u.stage ≠ .ended .finished) :
    { t with upload := u, body := t.body ++ chunk }.Fine σ sid where
  heard := h.heard
  poised := hp
  given := fun data he => absurd he (hb data)
  whole := fun r' hr' => by
    rw [hr r' hr', ← List.append_assoc]
    exact congrArg (· ++ chunk) (h.whole r hrest)
  part := h.part.trans (List.prefix_append _ _)
  running := fun _ => h.running hx
  ended := fun he => absurd he hx'

/-- The producer answers. -/
theorem pulled (h : t.Fine σ sid) {pending : Option Bytes} (hst : t.upload.stage = .pulling pending)
    (p : Produced) : (t.pulled pending p).Fine σ sid := by
  have hp := h.poised
  rw [Upload.Poised, hst] at hp
  refine h.handed (by rw [hst]; simp) (Upload.poised_pulled _ p hp) (r := pending.getD [])
    (by rw [Upload.rest, hst]) (fun r' hr' => Upload.rest_pulled _ p hp hr') (fun data hb => ?_)
    (Upload.unfinished_pulled _ _ p)
  have hb' : t.upload.body = .bytes data := hb
  rw [hb'] at hp
  rcases hp with hp | ⟨hp, -⟩ <;> cases hp

/-- The application pushes a chunk, or trailers. -/
theorem pushedOn (h : t.Fine σ sid) (hst : t.upload.stage = .pulling none) {chunk : Bytes}
    {u : Upload} (hb : u.body = .aiter) (hp : u.Poised) (hr : u.rest = some chunk)
    (hx : u.stage ≠ .ended .finished) :
    { t with upload := u, body := t.body ++ chunk }.Fine σ sid := by
  refine h.handed (by rw [hst]; simp) hp (r := []) (by rw [Upload.rest, hst]; rfl)
    (fun r' hr' => (Option.some.inj (hr.symm.trans hr')).symm) (fun data hd => ?_) hx
  rw [hb] at hd
  cases hd

theorem sendData (h : t.Fine σ sid) (hst : t.upload.stage = .pulling none) (chunk : Bytes)
    (endStream : Bool) : (t.sendData chunk endStream).Fine σ sid := by
  refine h.pushedOn hst rfl ?_ ?_ (by simp [BodySend.pushing])
  · cases endStream
    · exact ⟨by simp, fun data hb => by cases hb⟩
    · exact ⟨by simp, rfl⟩
  · cases endStream <;> exact congrArg some (List.append_nil _)

theorem sendTrailers (h : t.Fine σ sid) (hst : t.upload.stage = .pulling none)
    (trailers : Fields) : (t.sendTrailers trailers).Fine σ sid := by
  have hf : { t with
      upload := { BodySend.pushing .trailers with trailers := some trailers }
      body := t.body ++ [] }.Fine σ sid :=
    h.pushedOn hst rfl rfl rfl (by simp [BodySend.pushing])
  rw [List.append_nil] at hf
  exact hf

/-- A sender whose HEADERS have just been queued. -/
theorem start {block : Block} (hlog : σ'.log = σ.log ++ [.headers sid block false])
    (hu : σ'.inner.Used sid) (hb : σ'.inner.SendBegun sid) (hpay : payloadOn sid σ.log = [])
    (hend : ∀ f ∈ σ.log, f.endsStream sid = false) (hsince : t.since = σ.log.length)
    (ht : t.Begins) : t.Fine σ' sid := by
  have hdrop : σ'.log.drop t.since = [.headers sid block false] := by
    rw [hlog, hsince, List.drop_left]
  have hframe : (OutFrame.headers sid block false).endsStream sid = false := Bool.and_false _
  have hnone : payloadOn sid σ'.log = [] := by
    rw [hlog, payloadOn_append, hpay]
    rfl
  refine ⟨⟨hu, hb, ?_, ?_, ?_⟩, ht.poised, ht.given, fun r hr => ?_, ?_, fun _ f hf => ?_,
    fun he => absurd he ht.running⟩
  · rw [hsince, hlog, List.length_append]
    exact Nat.le_add_right _ _
  · rw [hdrop]
    exact List.pairwise_singleton _ _
  · rw [hdrop]
    rintro ⟨f, hf, hst⟩
    rw [List.mem_singleton.mp hf, OutFrame.stops, Bool.and_false] at hst
    cases hst
  · rw [hnone, List.nil_append]
    exact Option.some.inj (hr.symm.trans ht.rest)
  · rw [hnone]
    exact List.nil_prefix
  · rw [hlog] at hf
    rcases List.mem_append.mp hf with hf | hf
    · exact hend f hf
    · rw [List.mem_singleton.mp hf]
      exact hframe

end BodySend.Fine

namespace Sys

/-- A response head that is queued was its stream's first. -/
theorem sendResponseHead_opened {me : Inner} {status : Nat} {fields : Fields} {date : String}
    {v : SendVerdict} (hv : (me.sendResponseHead sid status fields false date).2 = .ok v)
    (hr : v.stopped = none) : ∃ e st block, me.streams.lookup sid = some e ∧
      e.state.sendOpen false = .ok st ∧ (me.sendResponseHead sid status fields false date).1 =
        (me.setStream sid { e with state := st }).emit (.headers sid block false) := by
  unfold Inner.sendResponseHead at hv ⊢
  dsimp only at hv ⊢
  split at hv
  · cases hv
  · split at hv
    · cases hv
      cases hr
    · next e he =>
      split at hv
      · cases hv
        cases hr
      · next hc =>
        split at hv
        · cases hv
        · next block hblock =>
          split at hv
          · cases hv
          · next st hst =>
            refine ⟨e, st, block, he, hst, ?_⟩
            simp only [if_neg hc, Bool.false_eq_true, if_false]

/-- Only a send on the stream adds to its payloads. -/
theorem payloadOn_step (hok : σ.Ok) (hs : Step σ a σ') (ha : sendsOn sid a = false) :
    payloadOn sid σ'.log = payloadOn sid σ.log := by
  have hsilent : ∃ fs, σ'.log = σ.log ++ fs ∧ payloadOn sid fs = [] := by
    by_cases hsend : ∃ k data offset eos, a = .call (.sendData k data offset eos)
    · obtain ⟨k, data, offset, eos, rfl⟩ := hsend
      obtain ⟨hc, rfl⟩ := hs.call
      have hm := (hok.call_moves hc).unspoken sid fun _ ⟨p, last, hk⟩ => by
        rw [hk]
        exact bne_iff_ne.mpr (beq_eq_false_iff_ne.mp ha)
      obtain ⟨fs, hfs, hn⟩ := hm
      exact ⟨fs, log_call hfs, payloadOn_of_unspoken hn⟩
    · obtain ⟨fs, hlog, hn⟩ := step_no_data hok hs hsend
      refine ⟨fs, hlog, List.flatMap_eq_nil_iff.mpr fun f hf => ?_⟩
      cases f with
      | data => exact absurd (hn _ hf) (by simp [OutFrame.isData])
      | _ => rfl
  obtain ⟨fs, hlog, hpay⟩ := hsilent
  rw [hlog, payloadOn_append, hpay, List.append_nil]

end Sys

/-! ### The senders -/

namespace Bodies

variable {b b' : Bodies} {a : Action} {cfg : Config}

/-- **Every sender stands where it may**, and what has no sender has no payload. -/
structure Inv (b : Bodies) : Prop where
  ok : b.sys.Ok
  ends : b.sys.EndsOver
  senders : ∀ sid t, b.senders sid = some t → t.Fine b.sys sid
  unsent : ∀ sid, b.senders sid = none → payloadOn sid b.sys.log = []

namespace Inv

/-- The sender of `sid` is set, over a driver where the others stand. -/
theorem set {σ : Sys} (hok : σ.Ok) (hends : σ.EndsOver)
    (hfine : ∀ k t, k ≠ sid → b.senders k = some t → t.Fine σ k)
    (hunsent : ∀ k, k ≠ sid → b.senders k = none → payloadOn k σ.log = []) {t : BodySend}
    (ht : t.Fine σ sid) : Inv (({ b with sys := σ } : Bodies).put sid t) := by
  refine ⟨hok, hends, fun k u hu => ?_, fun k hn => ?_⟩
  · simp only [Bodies.put, Function.update_apply] at hu
    split at hu
    · next hk =>
      subst hk
      cases hu
      exact ht
    · next hk => exact hfine k u hk hu
  · simp only [Bodies.put, Function.update_apply] at hn
    split at hn
    · cases hn
    · next hk => exact hunsent k hk hn

/-- A step of the driver that is no send. -/
theorem sys (h : b.Inv) {σ : Sys} {a : Sys.Action} (hs : Sys.Step b.sys a σ)
    (ha : ∀ k, Sys.sendsOn k a = false) : Inv { b with sys := σ } where
  ok := h.ok.step hs
  ends := h.ends.step h.ok hs
  senders := fun k t ht => (h.senders k t ht).step h.ok hs (ha k)
  unsent := fun k hn => by
    rw [Sys.payloadOn_step h.ok hs (ha k)]
    exact h.unsent k hn

/-- The sender of `sid` goes on with a step of the driver, or starts. -/
theorem put (h : b.Inv) {σ : Sys} {a : Sys.Action} (hs : Sys.Step b.sys a σ)
    (ha : ∀ k, k ≠ sid → Sys.sendsOn k a = false) {t : BodySend} (ht : t.Fine σ sid) :
    Inv (({ b with sys := σ } : Bodies).put sid t) := by
  refine set (h.ok.step hs) (h.ends.step h.ok hs) (fun k t hk ht => ?_) (fun k hk hn => ?_) ht
  · exact (h.senders k t ht).step h.ok hs (ha k hk)
  · rw [Sys.payloadOn_step h.ok hs (ha k hk)]
    exact h.unsent k hn

/-- The sender of `sid` goes on without the driver. -/
theorem turn (h : b.Inv) {t : BodySend} (ht : t.Fine b.sys sid) : Inv (b.put sid t) :=
  set h.ok h.ends (fun k t _ => h.senders k t) (fun k _ => h.unsent k) ht

/-- A stream that can take its head has no sender, and nothing of it was framed. -/
theorem fresh (h : b.Inv) (hn : ¬(b.sys.inner.Used sid ∧ b.sys.inner.SendBegun sid)) :
    payloadOn sid b.sys.log = [] := by
  rcases ht : b.senders sid with _ | t
  · exact h.unsent sid ht
  · have hheard := (h.senders sid t ht).heard
    exact absurd ⟨hheard.used, hheard.begun⟩ hn

/-- A response whose HEADERS are queued, with the sender of its body. -/
theorem respond (h : b.Inv) (sid status : Nat) (fields : Fields) (date : String)
    {start : Nat → BodySend} (hsince : ∀ n, (start n).since = n) (ht : ∀ n, (start n).Begins) :
    (b.respond sid status fields date start).Inv := by
  have hs : Sys.Step b.sys (.call (.sendResponseHead sid status fields false date))
      (b.sys.call (.sendResponseHead sid status fields false date)) := rfl
  have hno := h.sys hs fun _ => rfl
  unfold Bodies.respond
  dsimp only
  split
  · next v hv =>
    split
    · exact hno
    · next hstop =>
      obtain ⟨e, st, block, he, hst, hin⟩ := Sys.sendResponseHead_opened hv (by simpa using hstop)
      have hbegun : ¬b.sys.inner.SendBegun sid := fun hb => by
        have hb' : e.state.sendBegun = true := hb e he
        rw [State.not_begun_of_sendOpen hst] at hb'
        cases hb'
      have hnone : ¬(b.sys.inner.Used sid ∧ b.sys.inner.SendBegun sid) := fun hb => hbegun hb.2
      have hfresh := h.fresh hnone
      have hopen : ¬b.sys.inner.SendOver sid := fun ho => by
        rw [Inner.sendOver_iff he, (State.sendOpen_isSendClosed hst).1] at ho
        cases ho
      have hend : ∀ f ∈ b.sys.log, f.endsStream sid = false := fun f hf =>
        Bool.eq_false_iff.mpr fun hends => hopen (h.ends sid ⟨f, hf, hends⟩).2
      have hinner : (b.sys.call (.sendResponseHead sid status fields false date)).inner =
          (b.sys.inner.setStream sid { e with state := st }).emit (.headers sid block false) := hin
      have hlog : (b.sys.call (.sendResponseHead sid status fields false date)).log =
          b.sys.log ++ [.headers sid block false] := Sys.log_call (congrArg Inner.pending hin)
      have hstored : (b.sys.call (.sendResponseHead sid status fields false date)).inner.streams.lookup
          sid = some { e with state := st } := by
        rw [hinner]
        exact AList.lookup_insert _
      refine h.put hs (fun _ _ => rfl) (BodySend.Fine.start hlog (hno.ok.wf.used hstored) ?_ hfresh hend
        (hsince _) (ht _))
      intro e' he'
      obtain rfl := Option.some.inj (hstored.symm.trans he')
      exact State.begun_of_sendOpen hst
  · exact hno

/-- A request whose HEADERS are queued, with the sender of its body. -/
theorem request (h : b.Inv) (block : Except Err Block) (isHead : Bool) {body : Body}
    {trailers : Option Fields} (hrole : b.sys.inner.role = .client)
    (hbody : body.bodyless = false ∨ trailers.isSome = true) :
    (b.request block isHead body trailers).Inv := by
  have hs : Sys.Step b.sys (.call (.openStream block false isHead))
      (b.sys.call (.openStream block false isHead)) := if_pos (by simpa [Sys.allowed] using hrole)
  have hno := h.sys hs fun _ => rfl
  unfold Bodies.request
  dsimp only
  split
  · next sid hv =>
    obtain ⟨rfl, bl, st, hst, hin⟩ := Inner.openStream_opened hv
    have hunused : ¬b.sys.inner.Used b.sys.inner.nextId := by
      rw [Inner.Used, hrole]
      exact Nat.lt_irrefl _
    have hend : ∀ f ∈ b.sys.log, f.endsStream b.sys.inner.nextId = false := fun f hf =>
      Bool.eq_false_iff.mpr fun hends => hunused (h.ends _ ⟨f, hf, hends⟩).1
    have hinner : (b.sys.call (.openStream block false isHead)).inner =
        b.sys.inner.insertOpened isHead false bl st := hin
    have hlog : (b.sys.call (.openStream block false isHead)).log =
        b.sys.log ++ [.headers b.sys.inner.nextId bl false] := Sys.log_call (congrArg Inner.pending hin)
    have hstored : ∃ e, (b.sys.call (.openStream block false isHead)).inner.streams.lookup
        b.sys.inner.nextId = some e ∧ e.state = st := by
      rw [hinner]
      exact ⟨_, AList.lookup_insert _, rfl⟩
    obtain ⟨e, he, hest⟩ := hstored
    refine h.put hs (fun _ _ => rfl) (BodySend.Fine.start hlog (hno.ok.wf.used he) ?_
      (h.fresh fun hb => hunused hb.1) hend rfl (BodySend.begins_request hbody _))
    intro e' he'
    obtain rfl := Option.some.inj (he.symm.trans he')
    rw [hest]
    exact State.begun_of_sendOpen hst
  · exact hno

/-- **Each step leaves every sender where it may stand.** -/
theorem step (h : b.Inv) (hs : Step b a b') : b'.Inv := by
  unfold Step Bodies.step at hs
  cases a with
  | sys a =>
      dsimp only at hs
      split at hs
      · cases hs
      · next hsend =>
        obtain ⟨σ, hσ, rfl⟩ := Option.map_eq_some_iff.mp hs
        refine h.sys hσ fun k => ?_
        cases a with
        | call c => cases c <;> first | rfl | exact absurd rfl hsend
        | _ => rfl
  | request block isHead body trailers =>
      dsimp only at hs
      split at hs
      · next hc =>
        cases hs
        exact h.request block isHead hc.1 hc.2
      · cases hs
  | respond sid status fields date body trailers =>
      dsimp only at hs
      split at hs <;> cases hs
      exact h.respond _ _ _ _ (fun _ => rfl) (BodySend.begins_respond body trailers)
  | sendResponse sid status fields date =>
      dsimp only at hs
      split at hs <;> cases hs
      exact h.respond _ _ _ _ (fun _ => rfl) BodySend.begins_pushed
  | write sid =>
      obtain ⟨t, ht, hs⟩ := Option.bind_eq_some_iff.mp hs
      obtain ⟨⟨c, stage⟩, hn, rfl⟩ := Option.map_eq_some_iff.mp hs
      obtain ⟨hc, hk⟩ := BodySend.Fine.next_call hn b.sys
      have hstep : Sys.Step b.sys (.call c) (b.sys.call c) := if_pos hc
      exact h.put hstep hk ((h.senders sid t ht).next h.ok hn hstep)
  | pull sid p =>
      obtain ⟨t, ht, hs⟩ := Option.bind_eq_some_iff.mp hs
      split at hs <;> cases hs
      next hst => exact h.turn ((h.senders sid t ht).pulled hst p)
  | sendData sid chunk endStream =>
      obtain ⟨t, ht, hs⟩ := Option.bind_eq_some_iff.mp hs
      split at hs <;> cases hs
      next hst => exact h.turn ((h.senders sid t ht).sendData hst chunk endStream)
  | sendTrailers sid trailers =>
      obtain ⟨t, ht, hs⟩ := Option.bind_eq_some_iff.mp hs
      split at hs <;> cases hs
      next hst => exact h.turn ((h.senders sid t ht).sendTrailers hst trailers)
  | abandon sid =>
      obtain ⟨t, ht, hs⟩ := Option.bind_eq_some_iff.mp hs
      have hgive : ∀ {how : Ending}, t.upload.stage ≠ .ended .finished → how ≠ .finished →
          (b.put sid (t.goTo (.ended how))).Inv := fun hx hhow =>
        h.turn ((h.senders sid t ht).givenUp hx hhow)
      repeat' split at hs
      all_goals cases hs
      all_goals exact hgive (by simp [*]) (by simp)
  | cancel sid =>
      obtain ⟨t, ht, hs⟩ := Option.bind_eq_some_iff.mp hs
      split at hs <;> cases hs
      · next hst => exact h.turn ((h.senders sid t ht).cut hst)
      all_goals exact h.turn ((h.senders sid t ht).givenUp (by simp [*]) (by simp))

end Inv

/-- The states of the driver and the senders of its bodies. -/
abbrev Reached (cfg : Config) (b : Bodies) : Prop := Reach Step Runs.Any (init cfg) b

theorem inv_init (cfg : Config) : (init cfg).Inv where
  ok := Sys.ok_init cfg
  ends := fun sid hf =>
    absurd hf (not_ends fun f hf => OutFrame.ends_speaks (Sys.unspoken_init cfg sid f hf))
  senders := fun _ _ ht => by cases ht
  unsent := fun sid _ => payloadOn_of_unspoken (Sys.unspoken_init cfg sid)

theorem inv_of_reached (r : Reached cfg b) : b.Inv :=
  r.invariant (inv_init cfg) fun h hs _ => h.step hs

/-- A step is one of the driver, or leaves it alone. -/
theorem Step.sys (hs : Step b a b') :
    b'.sys = b.sys ∨ ∃ a', Sys.Step b.sys a' b'.sys := by
  have hrespond : ∀ sid status fields date start,
      (b.respond sid status fields date start).sys =
        b.sys.call (.sendResponseHead sid status fields false date) := by
    intro sid status fields date start
    unfold Bodies.respond
    dsimp only
    split
    · split <;> rfl
    · rfl
  unfold Step Bodies.step at hs
  cases a with
  | sys a =>
      dsimp only at hs
      split at hs
      · cases hs
      · obtain ⟨σ, hσ, rfl⟩ := Option.map_eq_some_iff.mp hs
        exact .inr ⟨a, hσ⟩
  | request block isHead body trailers =>
      dsimp only at hs
      split at hs
      · next hc =>
        cases hs
        refine .inr ⟨.call (.openStream block false isHead), ?_⟩
        have hsys : (b.request block isHead body trailers).sys =
            b.sys.call (.openStream block false isHead) := by
          unfold Bodies.request
          dsimp only
          split <;> rfl
        rw [hsys]
        exact if_pos (by simpa [Sys.allowed] using hc.1)
      · cases hs
  | respond sid status fields date | sendResponse sid status fields date =>
      dsimp only at hs
      split at hs <;> cases hs
      rw [hrespond]
      exact .inr ⟨.call (.sendResponseHead sid status fields false date), rfl⟩
  | write sid =>
      obtain ⟨t, ht, hs⟩ := Option.bind_eq_some_iff.mp hs
      obtain ⟨⟨c, stage⟩, hn, rfl⟩ := Option.map_eq_some_iff.mp hs
      exact .inr ⟨.call c, if_pos (BodySend.Fine.next_call hn b.sys).1⟩
  | pull | sendData | sendTrailers | abandon | cancel =>
      obtain ⟨t, ht, hs⟩ := Option.bind_eq_some_iff.mp hs
      repeat' split at hs
      all_goals cases hs
      all_goals exact .inl rfl

/-- HEADERS and DATA of the stream are queued no more, in whatever is to come. -/
def Mute (b : Bodies) (sid : Nat) : Prop :=
  ∀ b', Reach Step Runs.Any b b' →
    ∃ fs, b'.sys.log = b.sys.log ++ fs ∧ ∀ f ∈ fs, f.speaks sid = false

theorem Inv.mute (h : b.Inv) (hu : b.sys.inner.Used sid) (ho : b.sys.inner.SendOver sid) :
    b.Mute sid := by
  intro b' r
  have hinv : b'.Inv ∧ b'.sys.inner.Used sid ∧ b'.sys.inner.SendOver sid ∧
      ∃ fs, b'.sys.log = b.sys.log ++ fs ∧ ∀ f ∈ fs, f.speaks sid = false := by
    refine r.invariant (I := fun c : Bodies => c.Inv ∧ c.sys.inner.Used sid ∧
      c.sys.inner.SendOver sid ∧ ∃ fs, c.sys.log = b.sys.log ++ fs ∧ ∀ f ∈ fs, f.speaks sid = false)
      ⟨h, hu, ho, [], (List.append_nil _).symm, fun f hf => by cases hf⟩ ?_
    rintro c a c' ⟨hc, huc, hoc, fs, hfs, hn⟩ hs -
    refine ⟨hc.step hs, ?_⟩
    rcases Step.sys hs with hsame | ⟨a', hstep⟩
    · rw [hsame]
      exact ⟨huc, hoc, fs, hfs, hn⟩
    · obtain ⟨gs, hgs, hsp⟩ := Sys.step_speech hc.ok hstep huc
      refine ⟨(hc.ok.grows hstep).used huc, Upload.sendOver_step hc.ok hstep huc hoc, fs ++ gs,
        by rw [hgs, hfs, List.append_assoc], fun f hf => ?_⟩
      exact (List.mem_append.mp hf).elim (hn f) (hsp.mute hoc f)
  exact hinv.2.2.2

/-- **The bodies are delivered, each in order and once.**  Of every sender, in every interleaving:
the payloads framed on its stream are a part of its body from the start, and all of it once the
sender has finished (the body of a `SendStream` is what was handed to it, without what a cancelled
`send_data` left unsent); END_STREAM is queued exactly where it has, once, on the last DATA or on the
trailers; and no HEADERS or DATA follow END_STREAM, RST_STREAM or a reset by the peer. -/
theorem body_framed (cfg : Config) (b : Bodies) (r : Reached cfg b) (sid : Nat) (t : BodySend)
    (ht : b.senders sid = some t) :
    (∀ data, t.upload.body = .bytes data → t.body = data) ∧
      payloadOn sid b.sys.log <+: t.body ∧
      (t.upload.stage = .ended .finished → payloadOn sid b.sys.log = t.body) ∧
      (t.upload.stage = .ended .finished ↔ ∃ f ∈ b.sys.log, f.endsStream sid = true) ∧
      (t.upload.stage = .ended .finished → EndedOnce sid t.upload.trailers.isSome b.sys.log) ∧
      Silent sid (b.sys.log.drop t.since) ∧
      ((∃ f ∈ b.sys.log.drop t.since, f.stops sid = true) → b.Mute sid) ∧
      ∀ f v b', Step b (.sys (.recv (.rstStream f))) b' → (b.sys.inner.recvReset f).2 = .ok v →
        f.streamId = sid → b'.Mute sid := by
  have hinv := inv_of_reached r
  have h := hinv.senders sid t ht
  refine ⟨h.given, h.part, fun hx => ?_, ⟨fun hx => ?_, fun ⟨f, hf, he⟩ => ?_⟩, h.ended,
    h.heard.silent, fun hst => hinv.mute h.heard.used (h.heard.stopped hst), ?_⟩
  · have hrest : t.upload.rest = some [] := by rw [Upload.rest, hx]
    have hwhole := h.whole [] hrest
    rw [List.append_nil] at hwhole
    exact hwhole
  · obtain ⟨before, f, after, hlog, he, -⟩ := h.ended hx
    exact ⟨f, by rw [hlog]; simp, he⟩
  · by_contra hx
    rw [h.running hx f hf] at he
    cases he
  · rintro f v b' hs hv rfl
    obtain ⟨σ, hσ, rfl⟩ := Option.map_eq_some_iff.mp hs
    have hgrows := (hinv.ok.grows hσ).used h.heard.used
    exact (hinv.step hs).mute hgrows (Sys.sendOver_recv_reset hinv.ok hσ hv)

/-- A request with a body of two bytes, and trailers. -/
def trailed : List Action := [
  .sys (.call .tryClaimSlot),
  .request (.ok (.request "POST" "/" [])) false (.bytes [1, 2]) (some []), .write 1, .write 1]

theorem body_framed_trailed : ∃ b t, Reached Sys.clientConfig b ∧ b.senders 1 = some t ∧
    t.upload.stage = .ended .finished ∧ payloadOn 1 b.sys.log = [1, 2] ∧
    EndedOnce 1 true b.sys.log := by
  have hexec : (Runs.exec step (fun _ _ => true) (init Sys.clientConfig) trailed).any (fun b =>
      (b.senders 1).any fun t => t.upload.stage == .ended .finished && t.body == [1, 2] &&
        t.upload.trailers.isSome) = true := by decide +kernel
  obtain ⟨b, r, hb⟩ := Reach.of_exec_any hexec
  rw [Option.any_eq_true] at hb
  obtain ⟨t, ht, hb⟩ := hb
  simp only [Bool.and_eq_true, beq_iff_eq] at hb
  obtain ⟨⟨hx, hbody⟩, htr⟩ := hb
  have hr : Reached Sys.clientConfig b := r.mono fun _ _ _ => trivial
  obtain ⟨-, -, hpay, -, hend, -⟩ := body_framed Sys.clientConfig b hr 1 t ht
  exact ⟨b, t, hr, ht, hx, (hpay hx).trans hbody, htr ▸ hend hx⟩

end Bodies

end Httpunk.H2
