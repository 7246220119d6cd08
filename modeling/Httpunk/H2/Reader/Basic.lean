import Httpunk.H2.Driver.Feed
import Httpunk.H2.Life.Recv

/-!
# H2 — Reader — Basic

The reader of one stream, apart from the connection: what its stream can still receive, its body
queue, the event of its head, and the message taken so far.  This is what the driver is for, seen
from one handle; `Reader.Simulation` shows that it does no more.

* `Reader.Step`: what may happen to a handle the application holds.
* `Reader.Ok`: the queue tells what was taken, it ends when nothing more can be received, and
  cleanly only where the message was received to its end.
* `Step.ok`: each step keeps it.
-/

namespace Httpunk.H2

open Mailbox
open Httpunk.H2.Inner (LengthOk lengthAfter)

/-- What the driver is doing, as far as one stream is concerned: it serves the connection, it is
about to answer an error of this stream, or it brings the connection down. -/
inductive Phase where
  | serving
  | answering
  | ended
  deriving DecidableEq

/-- One handle, with what stands behind it. -/
structure Reader where
  phase : Phase
  /-- The receive side of the stream, while it is stored. -/
  side : Option RecvSide
  length : ContentLength
  queue : List BodyItem
  /-- The head was handed over, or its event is set. -/
  head : Bool
  message : Message
  toHead : Bool
  lost : Bool

namespace Reader

variable {r r' : Reader}

/-- The stream may receive more. -/
def Receiving (r : Reader) : Prop := ∃ half, r.side = some (.receiving half)

/-- The receive side of a stream whose message has ended: the entry stays, or it leaves. -/
def Over (side : Option RecvSide) : Prop := side = some .ended ∨ side = none

/-- The items a DATA frame puts on the queue. -/
def dataItems (f : Data) : List BodyItem :=
  (if f.data = [] ∧ f.endStream = false then [] else [.chunk (f.data, !f.endStream)]) ++
    if f.endStream then [.last none] else []

/-- What may happen to a handle. -/
inductive Step (r : Reader) : Reader → Prop
  /-- Nothing a reader sees; an entry that receives nothing more may leave. -/
  | quiet {phase : Phase} {side : Option RecvSide} {length : ContentLength}
      (hp : phase = r.phase ∨ r.phase = .serving ∧ phase = .ended)
      (hs : side = r.side ∨ side = none ∧ ¬r.Receiving)
      (hl : phase = .ended ∨ length = r.length ∨ side = none) :
      Step r { r with phase := phase, side := side, length := length }
  | interim {f : Headers} (hp : r.phase = .serving)
      (hs : r.side = some (.receiving .awaitingHeaders)) (he : f.endStream = false) :
      Step r { r with length := lengthAfter f r.length, message := r.message.head f }
  | head {f : Headers} {side : Option RecvSide} {length : ContentLength}
      (hp : r.phase = .serving) (hs : r.side = some (.receiving .awaitingHeaders))
      (hok : LengthOk f r.length)
      (hend : f.endStream = true → Over side)
      (hgo : f.endStream = false →
        side = some (.receiving .streaming) ∧ length = lengthAfter f r.length) :
      Step r { r with
        side := side, length := length, head := true, message := r.message.head f
        queue := r.queue ++ if f.endStream then [.last none] else [] }
  | data {f : Data} {side : Option RecvSide} {length left : ContentLength}
      (hp : r.phase = .serving) (hs : r.side = some (.receiving .streaming))
      (hd : r.length.dec f.data.length = some left)
      (hend : f.endStream = true → Over side ∧ left.isSatisfied = true)
      (hgo : f.endStream = false → side = r.side ∧ length = left) :
      Step r { r with
        side := side, length := length, message := r.message.data f
        queue := r.queue ++ dataItems f }
  | trailers {side : Option RecvSide} {length : ContentLength}
      (hp : r.phase = .serving) (hs : r.side = some (.receiving .streaming))
      (hl : r.length.isSatisfied = true) (hend : Over side) :
      Step r { r with
        side := side, length := length, message := { r.message with complete := true }
        queue := r.queue ++ [.last none] }
  /-- A frame of the stream raised an error of the stream. -/
  | fault {side : Option RecvSide} {length : ContentLength} (hp : r.phase = .serving)
      (hs : (∃ half, side = some (.receiving half)) → r.Receiving)
      (he : side = some .endedReset → r.side = some .endedReset) :
      Step r { r with phase := .answering, side := side, length := length }
  /-- The stream was stopped, and its readers are told. -/
  | stopped {phase : Phase} {side : Option RecvSide} {length : ContentLength} (stop : Stopped)
      (hp : phase = r.phase ∨ r.phase = .answering)
      (hs : side = some .stopped ∨ side = none) :
      Step r { r with
        phase := phase, side := side, length := length, head := true
        queue := r.queue ++ [.last (some stop)] }
  /-- A stream that the peer reset after its end is reset again. -/
  | again {phase : Phase} {side : Option RecvSide} {length : ContentLength}
      (hp : phase = r.phase ∨ r.phase = .answering) (hr : r.side = some .endedReset)
      (hs : side = some .endedReset ∨ side = none) :
      Step r { r with
        phase := phase, side := side, length := length, head := true
        queue := r.queue ++ [.last none] }
  /-- The peer reset a stream whose message had ended. -/
  | peerReset {side : Option RecvSide} {length : ContentLength} (hp : r.phase = .serving)
      (hr : r.side = some .ended) (hs : side = some .endedReset ∨ side = none) :
      Step r { r with side := side, length := length }
  /-- The reset that was to answer an error of the stream told nobody. -/
  | missed {phase : Phase} (hp : r.phase = .answering) (hs : phase = .ended ∨ r.side = none) :
      Step r { r with phase := phase, lost := r.lost || Feed.untold r.side r.queue }

/-! ### The invariant -/

/-- What is left of the declared length goes with what was taken. -/
def Measures (r : Reader) : Prop :=
  match r.length with
  | .head => r.toHead = true ∧ r.message.bytes = 0
  | .omitted => r.toHead = false ∧ r.message.declared = none
  | .remaining left =>
    r.toHead = false ∧ r.message.declared = some (r.message.bytes + left)

/-- A message received to its end has the length it declared, unless it may have none. -/
def Measured (r : Reader) : Prop :=
  (r.toHead = true ∨ r.message.bare = true → r.message.bytes = 0) ∧
    (r.toHead = false → r.message.bare = false → ∀ n, r.message.declared = some n →
      r.message.bytes = n)

/-- Every payload has bytes, but for the last of a message received to its end. -/
def Solid (m : Message) : Prop :=
  ∀ p ∈ if m.complete then m.payloads.dropLast else m.payloads, p ≠ []

/-- **What a reader can rely on.** -/
structure Ok (r : Reader) : Prop where
  payloads : (chunks r.queue).map Prod.fst = r.message.payloads
  clean : ending r.queue = some none ↔ r.message.complete = true
  receiving : r.Receiving → ending r.queue = none
  ended : r.phase = .serving → r.side = some .ended → r.message.complete = true
  endedReset : r.side = some .endedReset → r.message.complete = true
  told : r.Receiving ∨ (ending r.queue).isSome = true ∨ r.phase = .answering ∨ r.lost = true
  head : (ending r.queue).isSome = true → r.head = true
  streaming : r.phase = .serving → r.side = some (.receiving .streaming) → r.head = true
  measures : r.phase = .serving → r.Receiving → r.Measures
  fresh : r.phase = .serving → r.side = some (.receiving .awaitingHeaders) →
    r.message.payloads = []
  measured : r.message.complete = true → r.Measured
  bare : r.message.bare = true → r.message.complete = true
  solid : Solid r.message
  headless : r.toHead = true → r.message.bytes = 0

/-- A reader that still receives, that has its terminal item, or that was left untold. -/
theorem missed_told (r : Reader) {phase : Phase} :
    r.Receiving ∨ (ending r.queue).isSome = true ∨ phase = .answering ∨
      (r.lost || Feed.untold r.side r.queue) = true := by
  rcases he : ending r.queue with _ | last
  · rcases hs : r.side with _ | half | _ | _
    all_goals first
      | exact .inl ⟨_, hs⟩
      | exact .inr (.inr (.inr (by simp [Feed.untold, he])))
  · exact .inr (.inl rfl)

/-- A stream that has received nothing. -/
theorem ok_new (hs : r.side = some (.receiving .awaitingHeaders)) (hq : r.queue = [])
    (hm : r.message = {}) (hl : r.length = if r.toHead then .head else .omitted) : r.Ok where
  payloads := by rw [hq, hm]; rfl
  clean := by simp [hq, hm]
  receiving := fun _ => by rw [hq]; rfl
  ended := fun _ hx => by rw [hs] at hx; cases hx
  endedReset := fun hx => by rw [hs] at hx; cases hx
  told := .inl ⟨_, hs⟩
  head := fun hx => by rw [hq] at hx; cases hx
  streaming := fun _ hx => by rw [hs] at hx; cases hx
  measures := fun _ _ => by
    unfold Measures
    rw [hl, hm]
    cases r.toHead <;> exact ⟨rfl, rfl⟩
  fresh := fun _ _ => by rw [hm]
  measured := fun hx => by rw [hm] at hx; cases hx
  bare := fun hx => by rw [hm] at hx; cases hx
  solid := by rw [hm]; exact fun _ hp => absurd hp List.not_mem_nil
  headless := fun _ => by rw [hm]; rfl

/-! ### Its preservation -/

@[simp] theorem isSome_eofItems (b : Bool) :
    (ending (if b then [(.last none : BodyItem)] else [])).isSome = b := by
  cases b <;> rfl

theorem Message.bytes_nil {m : Message} (h : m.payloads = []) : m.bytes = 0 := by
  rw [Message.bytes, h]
  rfl

theorem Over.not_receiving {side : Option RecvSide} (h : Over side) (half : Half) :
    side ≠ some (.receiving half) := by
  rcases h with rfl | rfl <;> nofun

/-- A response to HEAD has no payload. -/
theorem Measures.headless (hm : r.Measures) (ht : r.toHead = true) : r.message.bytes = 0 := by
  unfold Measures at hm
  split at hm
  · exact hm.2
  · rw [ht] at hm
    cases hm.1
  · rw [ht] at hm
    cases hm.1

namespace Ok

/-- A reader whose stream has not ended has been told nothing of an end. -/
theorem incomplete (h : r.Ok) (hr : r.Receiving) : r.message.complete = false := by
  by_contra hc
  have he := h.clean.mpr (by simpa using hc)
  rw [h.receiving hr] at he
  cases he

theorem not_bare (h : r.Ok) (hr : r.Receiving) : r.message.bare = false := by
  by_contra hb
  have hc := h.bare (by simpa using hb)
  rw [h.incomplete hr] at hc
  cases hc

end Ok

/-- Nothing a reader sees. -/
theorem Ok.quiet (h : r.Ok) {phase : Phase} {side : Option RecvSide} {length : ContentLength}
    (hp : phase = r.phase ∨ r.phase = .serving ∧ phase = .ended)
    (hs : side = r.side ∨ side = none ∧ ¬r.Receiving)
    (hl : phase = .ended ∨ length = r.length ∨ side = none) :
    Ok { r with phase := phase, side := side, length := length } := by
  have hserve : phase = .serving → r.phase = .serving := fun hph => by
    rcases hp with hp | ⟨-, hp⟩
    · exact hp ▸ hph
    · rw [hp] at hph
      cases hph
  have hside : ∀ x, side = some x → r.side = some x := fun x hx => by
    rcases hs with hs | ⟨hs, -⟩
    · exact hs ▸ hx
    · rw [hs] at hx
      cases hx
  have hlen : phase = .serving → (∃ half, side = some (.receiving half)) → length = r.length := by
    rintro rfl ⟨half, hx⟩
    rcases hl with hl | hl | hl
    · cases hl
    · exact hl
    · rw [hl] at hx
      cases hx
  refine ⟨h.payloads, h.clean, fun ⟨half, hx⟩ => h.receiving ⟨half, hside _ hx⟩,
    fun hph hx => h.ended (hserve hph) (hside _ hx), fun hx => h.endedReset (hside _ hx), ?_,
    h.head, fun hph hx => h.streaming (hserve hph) (hside _ hx), fun hph hx => ?_,
    fun hph hx => h.fresh (hserve hph) (hside _ hx), h.measured, h.bare, h.solid,
    h.headless⟩
  · rcases h.told with hr | he | ha | hlost
    · rcases hs with hs | ⟨-, hs⟩
      · obtain ⟨half, hh⟩ := hr
        exact .inl ⟨half, hs.trans hh⟩
      · exact absurd hr hs
    · exact .inr (.inl he)
    · rcases hp with hp | ⟨hp, -⟩
      · exact .inr (.inr (.inl (hp.trans ha)))
      · rw [ha] at hp
        cases hp
    · exact .inr (.inr (.inr hlost))
  · have hm := h.measures (hserve hph) (hx.imp fun half => hside _)
    unfold Measures at hm ⊢
    rwa [show ({ r with phase := phase, side := side, length := length } : Reader).length =
      r.length from hlen hph hx]

/-- A stream whose message ended cleanly, its end told. -/
theorem Ok.finish (h : r.Ok) {side : Option RecvSide} {length : ContentLength} {m : Message}
    {q : List BodyItem} {b : Bool} (hr : r.Receiving) (hend : Over side)
    (hq : ending q = some none)
    (hc : (chunks r.queue ++ chunks q).map Prod.fst = m.payloads) (hm : m.complete = true)
    (hb : b = true) (hme : Measured { r with message := m }) (hso : Solid m) :
    Ok { r with side := side, length := length, message := m, queue := r.queue ++ q, head := b } := by
  have hnr : ∀ half, side ≠ some (.receiving half) := hend.not_receiving
  have hopen := h.receiving hr
  refine ⟨?_, ?_, fun ⟨half, hx⟩ => absurd hx (hnr half), fun _ _ => hm, fun _ => hm,
    .inr (.inl ?_), fun _ => hb, fun _ hx => absurd hx (hnr _), fun _ ⟨half, hx⟩ =>
    absurd hx (hnr half), fun _ hx => absurd hx (hnr _), fun _ => hme, fun _ => hm, hso,
    fun ht => hme.1 (.inl ht)⟩
  · show (chunks (r.queue ++ q)).map Prod.fst = m.payloads
    rw [chunks_append_open hopen, hc]
  · simp [hopen, hq, hm]
  · simp [hopen, hq]

/-- A stream that goes on receiving, with chunks put on its queue. -/
theorem Ok.goOn (h : r.Ok) {half : Half} {side : Option RecvSide} {length : ContentLength}
    {m : Message} {q queue : List BodyItem} {b : Bool} (hr : r.Receiving)
    (hside : side = some (.receiving half)) (hqueue : queue = r.queue ++ q)
    (hq : ending q = none) (hc : (chunks r.queue ++ chunks q).map Prod.fst = m.payloads) (hm : m.complete = false)
    (hb : half = .streaming → b = true)
    (hf : half = .awaitingHeaders → m.payloads = [])
    (hme : Measures { r with length := length, message := m }) (hbare : m.bare = false)
    (hso : Solid m) :
    Ok { r with side := side, length := length, message := m, queue := queue, head := b } := by
  subst hside hqueue
  have hopen := h.receiving hr
  have hnone : ending (r.queue ++ q) = none := by simp [hopen, hq]
  refine ⟨?_, ?_, fun _ => hnone, nofun, nofun, .inl ⟨half, rfl⟩, ?_, fun _ hx => ?_,
    fun _ _ => hme, fun _ hx => ?_, ?_, ?_, hso, hme.headless⟩
  · show (chunks (r.queue ++ q)).map Prod.fst = m.payloads
    rw [chunks_append_open hopen, hc]
  · simp [hnone, hm]
  · simp [hnone]
  · cases hx
    exact hb rfl
  · cases hx
    exact hf rfl
  · simp [hm]
  · simp [hbare]

/-- An end that is told once more, or told as an error. -/
theorem Ok.tell (h : r.Ok) {phase : Phase} {side : Option RecvSide} {length : ContentLength}
    (e : Option Stopped) (hs : ∀ half, side ≠ some (.receiving half))
    (hend : side ≠ some .ended)
    (hreset : side = some .endedReset → r.message.complete = true)
    (he : e = none → r.message.complete = true) :
    Ok { r with
      phase := phase, side := side, length := length, head := true
      queue := r.queue ++ [.last e] } := by
  refine ⟨?_, ?_, fun ⟨half, hx⟩ => absurd hx (hs half), fun _ hx => absurd hx hend, hreset,
    .inr (.inl ?_), fun _ => rfl, fun _ hx => absurd hx (hs _), fun _ ⟨half, hx⟩ =>
    absurd hx (hs half), fun _ hx => absurd hx (hs _), h.measured, h.bare, h.solid,
    h.headless⟩
  · show (chunks (r.queue ++ [.last e])).map Prod.fst = r.message.payloads
    rw [chunks_append_last, h.payloads]
  · show ending (r.queue ++ [.last e]) = some none ↔ r.message.complete = true
    rw [← h.clean, ending_append]
    rcases hq : ending r.queue with _ | e'
    · simp only [Option.none_or, ending_last, reduceCtorEq, iff_false, Option.some.injEq]
      intro hn
      have hc := h.clean.mpr (he hn)
      rw [hq] at hc
      cases hc
    · simp
  · simp

/-- The length left after the head `f` goes with what it declares. -/
theorem Measures.head {f : Headers} (hm : r.Measures) (h0 : r.message.payloads = []) :
    Measures { r with length := lengthAfter f r.length, message := r.message.head f } := by
  unfold Measures at hm ⊢
  have hb : (r.message.head f).bytes = 0 := Message.bytes_nil h0
  have hb' : r.message.bytes = 0 := Message.bytes_nil h0
  unfold lengthAfter
  dsimp only
  rw [hb]
  rcases hcl : f.contentLength with _ | n <;> rcases hl : r.length with _ | _ | left <;>
    rw [hl] at hm <;> simp_all [ContentLength.set, Message.head]

/-- The payload of the DATA frame `f` comes off the length left. -/
theorem Measures.data {f : Data} {left : ContentLength} (hm : r.Measures)
    (hd : r.length.dec f.data.length = some left) :
    Measures { r with length := left, message := r.message.data f } := by
  have hb : (r.message.data f).bytes = r.message.bytes + f.data.length := by
    unfold Message.bytes Message.data
    dsimp only
    split
    · next h => simp [h.1]
    · simp
  unfold Measures at hm ⊢
  dsimp only
  rw [hb]
  rcases hl : r.length with _ | _ | rem <;> rw [hl] at hm hd <;>
    simp only [ContentLength.dec] at hd
  · cases hd
    exact hm
  · split at hd <;> cases hd
    exact ⟨hm.1, by omega⟩
  · split at hd <;> cases hd
    exact ⟨hm.1, hm.2.trans (by congr 1; omega)⟩

/-- Nothing of the declared length is left at the end of the message. -/
theorem Measures.measured (hm : r.Measures) (hl : r.length.isSatisfied = true)
    (hb : r.message.bare = true → r.message.bytes = 0) : r.Measured := by
  unfold Measures at hm
  refine ⟨fun h => ?_, fun ht _ n hn => ?_⟩
  · rcases h with h | h
    · split at hm
      · exact hm.2
      · rw [hm.1] at h; cases h
      · rw [hm.1] at h; cases h
    · exact hb h
  · split at hm
    · rw [hm.1] at ht; cases ht
    · rw [hm.2] at hn; cases hn
    · next left hleft =>
      rw [hleft] at hl
      have h0 : left = 0 := by simpa [ContentLength.isSatisfied] using hl
      rw [hm.2, h0] at hn
      cases hn
      rfl

/-- A head that ends the message leaves it measured. -/
theorem Measures.bareHead {f : Headers} (hm : r.Measures) (h0 : r.message.payloads = [])
    (hok : LengthOk f r.length) (he : f.endStream = true) :
    Measured { r with message := r.message.head f } := by
  have hb : (r.message.head f).bytes = 0 := Message.bytes_nil h0
  refine ⟨fun _ => hb, fun ht hbare n hn => ?_⟩
  have hhead : r.length.isHead = false := by
    unfold Measures at hm
    rcases hl : r.length with _ | _ | left <;> rw [hl] at hm
    · rfl
    · exact absurd hm.1 (by rw [show r.toHead = false from ht]; decide)
    · rfl
  have hstatus : (f.status ≠ some 204 ∧ f.status ≠ some 304) ∧ f.contentLength.isSome := by
    simpa [Message.head, he] using hbare
  obtain ⟨n', hcl⟩ := Option.isSome_iff_exists.mp hstatus.2
  have hn' : n' = n := by simpa [Message.head, hcl] using hn
  rw [show Message.bytes _ = 0 from hb]
  by_contra h0'
  rcases hok.2 n' hcl hhead he (by omega) with h | h
  · exact hstatus.1.1 h
  · exact hstatus.1.2 h

theorem solid_of_nil {m : Message} (h : m.payloads = []) : Solid m := by
  unfold Solid
  rw [h]
  split <;> exact fun _ hp => absurd hp List.not_mem_nil

/-- A DATA frame without END_STREAM adds no empty payload. -/
theorem Solid.data {m : Message} {f : Data} (h : Solid m) (hc : m.complete = false) :
    Solid (m.data f) := by
  unfold Solid at h ⊢
  rw [hc, if_neg Bool.false_ne_true] at h
  unfold Message.data
  dsimp only
  cases he : f.endStream with
  | true =>
      have hne : ¬(f.data = [] ∧ true = false) := fun hx => absurd hx.2 (by decide)
      rw [if_pos rfl, if_neg hne, List.dropLast_concat]
      exact h
  | false =>
      rw [if_neg Bool.false_ne_true]
      split
      · exact h
      · next hd =>
        intro p hp
        rcases List.mem_append.mp hp with hp | hp
        · exact h p hp
        · rw [List.mem_singleton.mp hp]
          exact fun hx => hd ⟨hx, rfl⟩

theorem dataItems_eos {f : Data} (h : f.endStream = true) :
    dataItems f = [.chunk (f.data, false), .last none] := by
  simp [dataItems, h]

theorem ending_dataItems_of_not_eos {f : Data} (h : f.endStream = false) :
    ending (dataItems f) = none := by
  unfold dataItems
  rw [h]
  split <;> rfl

theorem chunks_dataItems (f : Data) : (chunks (dataItems f)).map Prod.fst =
    if f.data = [] ∧ f.endStream = false then [] else [f.data] := by
  unfold dataItems
  split <;> cases f.endStream <;> rfl

/-- **A step keeps what a reader relies on.** -/
theorem Step.ok (h : r.Ok) (hs : Step r r') : r'.Ok := by
  cases hs with
  | quiet hp hs hl => exact h.quiet hp hs hl
  | @interim f hp hs he =>
      have hr : r.Receiving := ⟨_, hs⟩
      have h0 := h.fresh hp hs
      refine h.goOn hr hs (List.append_nil _).symm rfl ?_ he nofun (fun _ => h0)
        ((h.measures hp hr).head h0) ?_ (solid_of_nil h0)
      · rw [chunks_nil, List.append_nil]
        exact h.payloads
      · simp [Message.head, he]
  | @head f side length hp hs hok hend hgo =>
      have hr : r.Receiving := ⟨_, hs⟩
      have h0 := h.fresh hp hs
      have hm := h.measures hp hr
      have hc : ∀ b : Bool, (chunks r.queue ++
          chunks (if b then [(.last none : BodyItem)] else [])).map Prod.fst = (r.message.head f).payloads := by
        intro b
        cases b <;> simpa [Message.head] using h.payloads
      cases he : f.endStream with
      | true =>
          have hq : ending [(.last none : BodyItem)] = some none := rfl
          exact h.finish hr (hend he) hq (hc true) he rfl (hm.bareHead h0 hok he)
            (solid_of_nil h0)
      | false =>
          obtain ⟨hside, rfl⟩ := hgo he
          exact h.goOn hr hside rfl rfl (hc false) he (fun _ => rfl) nofun (hm.head h0)
            (by simp [Message.head, he]) (solid_of_nil h0)
  | @data f side length left hp hs hd hend hgo =>
      have hr : r.Receiving := ⟨_, hs⟩
      have hm := (h.measures hp hr).data hd
      have hbare : (r.message.data f).bare = false := h.not_bare hr
      have hhead := h.streaming hp hs
      have hso : Solid (r.message.data f) := h.solid.data (h.incomplete hr)
      have hc : (chunks r.queue ++ chunks (dataItems f)).map Prod.fst =
          (r.message.data f).payloads := by
        rw [List.map_append, h.payloads, chunks_dataItems]
        unfold Message.data
        split <;> simp
      cases he : f.endStream with
      | true =>
          obtain ⟨hover, hl⟩ := hend he
          refine h.finish hr hover (by rw [dataItems_eos he]; rfl) hc he hhead ?_ hso
          exact hm.measured hl fun hb => absurd hb (by simpa using hbare)
      | false =>
          obtain ⟨rfl, rfl⟩ := hgo he
          exact h.goOn hr hs rfl (ending_dataItems_of_not_eos he) hc he (fun _ => hhead) nofun
            hm hbare hso
  | @trailers side length hp hs hl hend =>
      have hr : r.Receiving := ⟨_, hs⟩
      have hso : Solid r.message := h.solid
      unfold Solid at hso
      rw [h.incomplete hr, if_neg Bool.false_ne_true] at hso
      refine h.finish hr hend rfl ?_ rfl (h.streaming hp hs) ?_
        fun p hp => hso p (List.mem_of_mem_dropLast hp)
      · rw [chunks_last, List.append_nil]
        exact h.payloads
      · exact (h.measures hp hr).measured hl fun hb =>
          absurd hb (by simpa using h.not_bare hr)
  | @fault side length hp hs he =>
      exact ⟨h.payloads, h.clean, fun hr => h.receiving (hs hr), nofun, fun hx => h.endedReset (he hx),
        .inr (.inr (.inl rfl)), h.head, nofun, nofun, nofun, h.measured, h.bare, h.solid,
    h.headless⟩
  | stopped stop hp hs =>
      refine h.tell (some stop) (fun half hx => ?_) (fun hx => ?_) (fun hx => ?_) nofun
      all_goals rcases hs with rfl | rfl <;> cases hx
  | again hp hr hs =>
      refine h.tell none (fun half hx => ?_) (fun hx => ?_) (fun _ => h.endedReset hr)
        fun _ => h.endedReset hr
      all_goals rcases hs with rfl | rfl <;> cases hx
  | @peerReset side length hp hr hs =>
      have hc := h.ended hp hr
      have he := h.clean.mpr hc
      have hnr : ∀ half, side ≠ some (.receiving half) := fun half hx => by
        rcases hs with rfl | rfl <;> cases hx
      exact ⟨h.payloads, h.clean, fun ⟨half, hx⟩ => absurd hx (hnr half), fun _ _ => hc, fun _ => hc,
        .inr (.inl (by rw [he]; rfl)), h.head, fun _ hx => absurd hx (hnr _),
        fun _ ⟨half, hx⟩ => absurd hx (hnr half), fun _ hx => absurd hx (hnr _), h.measured, h.bare,
        h.solid, h.headless⟩
  | @missed phase hp hs =>
      have hserve : ∀ x, phase = .serving → r.side ≠ some x := fun x hph hx => by
        rcases hs with rfl | hs
        · cases hph
        · rw [hs] at hx; cases hx
      exact ⟨h.payloads, h.clean, h.receiving, fun hph hx => absurd hx (hserve _ hph), h.endedReset,
        r.missed_told, h.head, fun hph hx => absurd hx (hserve _ hph),
        fun hph ⟨half, hx⟩ => absurd hx (hserve _ hph), fun hph hx => absurd hx (hserve _ hph),
        h.measured, h.bare, h.solid,
    h.headless⟩

end Reader

end Httpunk.H2
