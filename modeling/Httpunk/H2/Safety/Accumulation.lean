import Httpunk.H2.Driver.Decoder
import Httpunk.H2.Hpack.Assembly
import Httpunk.H2.Driver.Invariant

/-!
# H2 — Safety — Accumulation

What the decoder holds of a peer's bytes is bounded, and its loop ends.

* `RecvLimits.Sound`: the limits, however they were set.
* `Decoder.next_whole`: a turn of the loop takes one whole frame.
* `Decoder.next_interrupted`: between HEADERS and END_HEADERS no other frame is accepted.
* `Intake.accumulation_bounded`: what is held after every successful read.
-/

namespace Httpunk.H2

variable {T P : Type} {v : Vendor T P}

/-! ### The limits -/

namespace RecvLimits

/-- The limits that a decoder is given after it is made; a frame size is checked before. -/
inductive Setter where
  | headerTableSize (n : Nat)
  | maxFrameSize (n : Nat) (h : defaultMaxFrameSize ≤ n ∧ n ≤ maxMaxFrameSize)
  | maxHeaderListSize (n : Nat)

/-- A limit set. -/
def set (l : RecvLimits) : Setter → RecvLimits
  | .headerTableSize n => l.setRecvHeaderTableSize n
  | .maxFrameSize n _ => l.setMaxRecvFrameSize n
  | .maxHeaderListSize n => l.setMaxHeaderListSize n

/-- The frame size is one the wire admits, and the limit on CONTINUATION follows from the two. -/
structure Sound (l : RecvLimits) : Prop where
  frame : defaultMaxFrameSize ≤ l.maxRecvFrameSize
  frame_le : l.maxRecvFrameSize ≤ maxMaxFrameSize
  continuations : l.maxContinuationFrames =
    calcMaxContinuationFrames l.maxHeaderListSize l.maxRecvFrameSize

theorem Sound.new : Sound new := ⟨by decide, by decide, rfl⟩

theorem Sound.set {l : RecvLimits} (h : Sound l) (x : Setter) : Sound (l.set x) := by
  cases x with
  | headerTableSize n => exact ⟨h.frame, h.frame_le, h.continuations⟩
  | maxFrameSize n hn => exact ⟨hn.1, hn.2, rfl⟩
  | maxHeaderListSize n => exact ⟨h.frame, h.frame_le, rfl⟩

/-- **The limits are sound in whatever order they are set**, so that no divisor is zero. -/
theorem sound_of_setters (xs : List Setter) : Sound (xs.foldl RecvLimits.set new) := by
  suffices h : ∀ l, Sound l → Sound (xs.foldl RecvLimits.set l) from h new .new
  induction xs with
  | nil => exact fun l h => h
  | cons x xs ih => exact fun l h => ih _ (h.set x)

/-- The setters that the handshake calls. -/
theorem recvLimits_eq (cfg : Config) : ∃ xs : List Setter, cfg.recvLimits = xs.foldl RecvLimits.set new := by
  unfold Config.recvLimits
  have hsize := cfg.frame_size_mem
  rcases hm : cfg.maxFrameSize with _ | m
  · exact ⟨[.maxHeaderListSize cfg.maxHeaderListSize], rfl⟩
  · exact ⟨[.maxFrameSize m (hsize m (by rw [hm]; rfl)), .maxHeaderListSize cfg.maxHeaderListSize],
      rfl⟩

theorem Sound.of_fixed {cfg : Config} {l : RecvLimits}
    (h : { l with maxSizeUpdate := none } = cfg.recvLimits) : Sound l := by
  obtain ⟨xs, hxs⟩ := recvLimits_eq cfg
  have hs := sound_of_setters xs
  rw [← hxs, ← h] at hs
  exact ⟨hs.frame, hs.frame_le, hs.continuations⟩

end RecvLimits

/-! ### What the vendored crate leaves -/

/-- The crate leaves no more of a fragment than it was given, and of a HEADERS frame no more than
what is past its header. -/
structure Vendor.Shrinks (v : Vendor T P) : Prop where
  load : ∀ {frame p src}, v.load frame = .ok (.inl (p, src)) → src.length + 9 ≤ frame.length
  fields : ∀ table p max src, (v.fields table p max src).2.2.1.length ≤ src.length

/-- HPACK's part of the crate leaves no more than it was given. -/
theorem Hpack.vendor_shrinks {R : Type} {H : Hpack.Http} {F : Hpack.Huffman}
    {full : List (Bytes × Bytes) → Bytes → Bool}
    {load : Bytes → Except Err (Hpack.Headers R × Bytes ⊕ Frame)}
    {event : Hpack.Headers R → Except Err Frame} {plain : Bytes → Except Err (Option Frame)}
    (hload : ∀ {frame p src}, load frame = .ok (.inl (p, src)) → src.length + 9 ≤ frame.length) :
    (Hpack.vendor H F full load event plain).Shrinks :=
  ⟨hload, fun table _ _ src => Hpack.decodeLoop_length _ src.length ⟨none, 0, table⟩ false _ src⟩

theorem decodeIntTail_length {src rest : Bytes} {read shift ret n : Nat}
    (h : decodeIntTail read shift ret src = .ok (n, rest)) : rest.length ≤ src.length := by
  induction src generalizing read shift ret with
  | nil => cases h
  | cons b src ih =>
    unfold decodeIntTail at h
    dsimp only at h
    split at h
    · cases h
      exact Nat.le_succ _
    · split at h
      · cases h
      · exact (ih h).trans (Nat.le_succ _)

theorem decodeInt_length {src rest : Bytes} {n : Nat} (h : decodeInt src = .ok (n, rest)) :
    rest.length ≤ src.length := by
  cases src with
  | nil => cases h
  | cons b src =>
    unfold decodeInt at h
    dsimp only at h
    split at h
    · cases h
      exact Nat.le_succ _
    · exact (decodeIntTail_length h).trans (Nat.le_succ _)

theorem sizeUpdates_length (last n : Nat) (table : T) (src : Bytes) :
    (v.sizeUpdates last n table src).2.1.length ≤ src.length := by
  induction n generalizing table src with
  | zero => exact Nat.le_refl _
  | succ n ih =>
    cases src with
    | nil => exact Nat.le_refl _
    | cons b src =>
      unfold Vendor.sizeUpdates
      split
      · split
        · exact Nat.le_refl _
        · next size rest hd =>
          split
          · exact Nat.le_refl _
          · exact (ih _ _).trans (decodeInt_length hd)
      · exact Nat.le_refl _

namespace Decoder

variable {d d' : Decoder T P}

/-! ### What is held -/

/-- The undecoded part of the block that is pending is within the frames it came in. -/
structure Held (d : Decoder T P) : Prop where
  part : ∀ p, d.pending = some p →
    p.buf.length ≤ (p.count + 1) * d.limits.maxRecvFrameSize ∧
      p.count ≤ d.limits.maxContinuationFrames

/-- What loading a block leaves of it, and of the decoder. -/
theorem loadHpack_leaves (hv : v.Shrinks) (d : Decoder T P) (frame : P) (src : Bytes) :
    (d.loadHpack v frame src).2.2.1.length ≤ src.length ∧
      (d.loadHpack v frame src).1.fixed = d.fixed ∧
      (d.loadHpack v frame src).1.buf = d.buf ∧
      (d.loadHpack v frame src).1.pending = d.pending := by
  have hlen := sizeUpdates_length (v := v) (d.limits.maxSizeUpdate.getD d.lastMaxUpdate) src.length
    d.table src
  unfold loadHpack
  dsimp only
  rcases hs : v.sizeUpdates (d.limits.maxSizeUpdate.getD d.lastMaxUpdate) src.length d.table src
    with ⟨table, rest, _ | err⟩
  · rw [hs] at hlen
    exact ⟨(hv.fields _ _ _ _).trans hlen, rfl, rfl, rfl⟩
  · rw [hs] at hlen
    exact ⟨hlen, rfl, rfl, rfl⟩

/-- The sizes among the limits. -/
theorem sizes_of_fixed (h : d'.fixed = d.fixed) :
    d'.limits.maxRecvFrameSize = d.limits.maxRecvFrameSize ∧
      d'.limits.maxContinuationFrames = d.limits.maxContinuationFrames := by
  have hsize := congrArg RecvLimits.maxRecvFrameSize h
  have hmax := congrArg RecvLimits.maxContinuationFrames h
  exact ⟨hsize, hmax⟩

/-- The end of a frame with a fragment: the block that stays pending is part of what it was. -/
theorem loadBlock_held (hv : v.Shrinks) {part : Partial P} {sid : Nat} {last : Bool}
    {f : Option Frame} (hn : d.pending = none)
    (hp : last = false → part.buf.length ≤ (part.count + 1) * d.limits.maxRecvFrameSize ∧
      part.count ≤ d.limits.maxContinuationFrames)
    (h : d.loadBlock v part sid last = .ok (d', f)) :
    d'.fixed = d.fixed ∧ d'.buf = d.buf ∧ d'.Held := by
  obtain ⟨hlen, hfix, hbuf, hpend⟩ := loadHpack_leaves hv d part.frame part.buf
  unfold loadBlock at h
  dsimp only at h
  split at h
  · cases h
  · cases h
    exact ⟨hfix, hbuf, ⟨fun p hp' => by rw [hpend, hn] at hp'; cases hp'⟩⟩
  · cases last with
    | true =>
      simp only [if_true] at h
      rcases he : v.event (d.loadHpack v part.frame part.buf).2.1 with err | g
      · rw [he] at h
        cases h
      · rw [he] at h
        cases h
        exact ⟨hfix, hbuf, ⟨fun p hp' => by rw [hpend, hn] at hp'; cases hp'⟩⟩
    | false =>
      simp only [Bool.false_eq_true, if_false] at h
      cases h
      obtain ⟨hle, hcount⟩ := hp rfl
      obtain ⟨hsize, hmax⟩ := sizes_of_fixed hfix
      refine ⟨hfix, hbuf, ⟨fun p hp' => ?_⟩⟩
      cases hp'
      dsimp only
      rw [hsize, hmax]
      exact ⟨hlen.trans hle, hcount⟩

/-- A CONTINUATION makes its block longer by a frame's payload at most, and is counted. -/
theorem continued_held {part part' : Partial P} {frame : Bytes} {limits : RecvLimits}
    (hp : part.buf.length ≤ (part.count + 1) * limits.maxRecvFrameSize)
    (hf : frame.length ≤ 9 + limits.maxRecvFrameSize)
    (h : continued v limits part frame = .ok part') (hl : isEndHeaders frame = false) :
    part'.buf.length ≤ (part'.count + 1) * limits.maxRecvFrameSize ∧
      part'.count ≤ limits.maxContinuationFrames := by
  have hdrop : (frame.drop 9).length ≤ limits.maxRecvFrameSize := by
    rw [List.length_drop]
    omega
  have hstep : (part.count + 1 + 1) * limits.maxRecvFrameSize =
      (part.count + 1) * limits.maxRecvFrameSize + limits.maxRecvFrameSize := Nat.succ_mul _ _
  unfold continued at h
  simp only [hl, Bool.false_eq_true, if_false, true_and] at h
  split at h
  · cases h
  · split at h
    · cases h
    · next hmax =>
      split at h
      · cases h
        dsimp only
        exact ⟨by omega, by omega⟩
      · split at h
        · cases h
        · cases h
          dsimp only
          rw [List.length_append]
          exact ⟨by omega, by omega⟩

/-- **A frame is decoded**: what stays pending is bounded. -/
theorem decodeOne_held (hv : v.Shrinks) {frame : Bytes} {f : Option Frame} (hh : d.Held)
    (hf : frame.length ≤ 9 + d.limits.maxRecvFrameSize)
    (h : d.decodeOne v frame = .ok (d', f)) :
    d'.fixed = d.fixed ∧ d'.buf = d.buf ∧ d'.Held := by
  unfold decodeOne at h
  split at h
  · cases h
  · next hexp =>
    split at h
    · next hkind =>
      have hn : d.pending = none := by
        by_contra hs
        exact hexp ⟨Option.isSome_iff_ne_none.mpr hs, by rw [hkind]; decide⟩
      split at h
      · cases h
      · cases h
        exact ⟨rfl, rfl, hh⟩
      · next p src hload =>
        refine loadBlock_held hv hn (fun _ => ⟨?_, Nat.zero_le _⟩) h
        have hlen := hv.load hload
        dsimp only
        omega
    · split at h
      · split at h
        · cases h
        · next part hpart =>
          split at h
          · cases h
          · next part' hc =>
            obtain ⟨hfix, hbuf, hheld⟩ := loadBlock_held (d := { d with pending := none }) hv rfl
              (fun hl => continued_held (hh.part part hpart).1 hf hc hl) h
            exact ⟨hfix, hbuf, hheld⟩
      · rcases hpl : v.plain frame with err | g
        · rw [hpl] at h
          cases h
        · rw [hpl] at h
          cases h
          exact ⟨rfl, rfl, hh⟩

/-! ### A turn of the loop -/

/-- A frame that is decoded from the front of the buffer. -/
theorem decodeOne_whole (hv : v.Shrinks) {e : Decoder T P} {f : Option Frame} {len : Nat}
    (hh : d.Held) (hlong : ¬d.buf.length < 9 + len) (hbig : ¬len > d.limits.maxRecvFrameSize)
    (hd : decodeOne v { d with buf := d.buf.drop (9 + len) } (d.buf.take (9 + len)) = .ok (e, f)) :
    ∃ frame, d.buf = frame ++ e.buf ∧ frame.length = 9 + len ∧
      len ≤ d.limits.maxRecvFrameSize ∧ e.fixed = d.fixed ∧ e.Held := by
  have hlen : (d.buf.take (9 + len)).length = 9 + len := by
    rw [List.length_take]
    omega
  obtain ⟨hfix, hbuf, hheld⟩ := decodeOne_held (d := { d with buf := d.buf.drop (9 + len) }) hv
    ⟨hh.part⟩ (by rw [hlen]; dsimp only; omega) hd
  refine ⟨d.buf.take (9 + len), ?_, hlen, by omega, hfix, hheld⟩
  rw [hbuf]
  exact (List.take_append_drop _ _).symm

/-- **A turn of the loop takes one whole frame**, no longer than the limit. -/
theorem next_whole (hv : v.Shrinks) {f : Option Frame} (hh : d.Held)
    (h : d.next v = .ok (some (d', f))) :
    ∃ frame, d.buf = frame ++ d'.buf ∧ frame.length = 9 + payloadLen d.buf ∧
      payloadLen d.buf ≤ d.limits.maxRecvFrameSize ∧ d'.fixed = d.fixed ∧ d'.Held := by
  unfold next at h
  split at h
  · cases h
  · split at h
    · cases h
    · next hbig =>
      dsimp only at h
      split at h
      · cases h
      · next hlong =>
        rcases hd : decodeOne v { d with buf := d.buf.drop (9 + payloadLen d.buf) }
          (d.buf.take (9 + payloadLen d.buf)) with err | ⟨e, g⟩
        · rw [hd] at h
          cases h
        · rw [hd] at h
          cases h
          exact decodeOne_whole hv hh hlong hbig hd

/-- Where the loop stops, no frame is complete: what is left is shorter than the longest. -/
theorem next_stops (h : d.next v = .ok none) : d.buf.length < 9 + d.limits.maxRecvFrameSize := by
  unfold next at h
  split at h
  · next hs => omega
  · split at h
    · cases h
    · dsimp only at h
      split at h
      · omega
      · rcases hd : decodeOne v { d with buf := d.buf.drop (9 + payloadLen d.buf) }
          (d.buf.take (9 + payloadLen d.buf)) with err | r
        · rw [hd] at h
          cases h
        · rw [hd] at h
          cases h

/-- A frame that may not come while a block is pending: of another kind, or on another stream. -/
def Interrupts (v : Vendor T P) (part : Partial P) (frame : Bytes) : Prop :=
  kind frame ≠ 9 ∨ frameStream frame ≠ v.streamId part.frame

/-- **Between HEADERS and END_HEADERS no other frame is accepted**: one that is complete is a
connection error. -/
theorem next_interrupted {part : Partial P} (hp : d.pending = some part)
    (hlong : 9 + payloadLen d.buf ≤ d.buf.length)
    (hi : Interrupts v part (d.buf.take (9 + payloadLen d.buf))) :
    ∃ reason message debugData, d.next v = .error (.protocol reason message debugData) := by
  unfold next
  rw [if_neg (by omega)]
  split
  · exact ⟨_, _, _, rfl⟩
  · dsimp only
    rw [if_neg (by omega)]
    unfold decodeOne
    dsimp only
    rw [hp]
    by_cases hk : kind (d.buf.take (9 + payloadLen d.buf)) = 9
    · have hs := hi.resolve_left (fun hn => hn hk)
      rw [if_neg (fun hn => hn.2 hk), hk]
      simp only [show ¬(9 = 1) by decide, if_false, if_true]
      unfold continued
      rw [if_pos (Ne.symm hs)]
      exact ⟨_, _, _, rfl⟩
    · rw [if_pos ⟨rfl, hk⟩]
      exact ⟨_, _, _, rfl⟩

/-- What is held between two calls of `receive_frames`. -/
structure Bounded (v : Vendor T P) (d : Decoder T P) : Prop where
  /-- The loop has ended: no frame is complete. -/
  stopped : d.next v = .ok none
  buf : d.buf.length < 9 + d.limits.maxRecvFrameSize
  held : d.Held
  sound : d.limits.Sound

end Decoder

/-! ### A read -/

namespace Link

open Decoder (Held Bounded)

/-- **The loop ends**: it stops where no frame is complete, whatever the bound on its turns, and
what is held is bounded. -/
theorem receive_bounded (hv : v.Shrinks) {n : Nat} {d d' : Decoder T P} {fs : List Frame}
    (hh : d.Held) (hn : d.buf.length ≤ n) (h : receive v n d = .ok (d', fs)) :
    d'.next v = .ok none ∧ d'.fixed = d.fixed ∧ d'.Held ∧
      ∀ m, d.buf.length ≤ m → receive v m d = .ok (d', fs) := by
  induction n generalizing d d' fs with
  | zero =>
    cases h
    have hempty : d.buf.length < 9 := by omega
    have hstop : d.next v = .ok none := by
      unfold Decoder.next
      exact if_pos hempty
    refine ⟨hstop, rfl, hh, fun m _ => ?_⟩
    cases m with
    | zero => rfl
    | succ m =>
      unfold receive
      rw [hstop]
  | succ n ih =>
    unfold receive at h
    rcases hd : d.next v with err | _ | ⟨e, f⟩
    · rw [hd] at h
      cases h
    · rw [hd] at h
      cases h
      refine ⟨hd, rfl, hh, fun m _ => ?_⟩
      cases m with
      | zero => rfl
      | succ m =>
        unfold receive
        rw [hd]
    · rw [hd] at h
      dsimp only at h
      obtain ⟨frame, hbuf, hlen, -, hfix, hheld⟩ := Decoder.next_whole hv hh hd
      have hshort : d.buf.length = frame.length + e.buf.length := by
        rw [hbuf, List.length_append]
      rcases hr : receive v n e with err | ⟨e', gs⟩
      · rw [hr] at h
        cases h
      · rw [hr] at h
        cases h
        obtain ⟨hstop, hfix', hheld', hmore⟩ := ih hheld (by omega) hr
        refine ⟨hstop, hfix'.trans hfix, hheld', fun m hm => ?_⟩
        cases m with
        | zero => omega
        | succ m =>
          unfold receive
          rw [hd]
          dsimp only
          rw [hmore m (by omega)]
          rfl

end Link

namespace Intake

open Decoder (Held Bounded Interrupts payloadLen)

variable {i i' : Intake T P} {cfg : Config}

/-- The connection between two reads. -/
structure Ready (cfg : Config) (i : Intake T P) : Prop where
  of : Link.Of cfg i.link
  held : i.link.dec.Held
  buf : i.link.dec.buf.length < 9 + i.link.dec.limits.maxRecvFrameSize
  preface : ∀ b, i.preface = some b → b.length < h2Preface.length ∧ i.link.dec.buf = []

theorem ready_init (cfg : Config) (table : T) : Ready cfg (init cfg table : Intake T P) where
  of := Link.of_init cfg table
  held := ⟨fun p hp => by cases hp⟩
  buf := Nat.lt_of_lt_of_le (Nat.zero_lt_succ 8) (Nat.le_add_right 9 _)
  preface := fun b hb => by
    unfold init at hb
    dsimp only at hb
    split at hb
    · cases hb
    · cases hb
      exact ⟨by decide, rfl⟩

/-- What a successful call of `receive_frames` leaves. -/
structure Received (v : Vendor T P) (cfg : Config) (i' : Intake T P) : Prop where
  ready : Ready cfg i'
  /-- Past the preface, the loop has ended. -/
  bounded : i'.preface = none → Bounded v i'.link.dec

theorem decode_received (hv : v.Shrinks) (hr : Ready cfg i) {data : Bytes} {fs : List Frame}
    (h : i.decode v data = .ok (i', fs)) : Received v cfg i' := by
  unfold decode at h
  dsimp only at h
  rcases hd : Link.receive v (Link.feed i.link.dec data).buf.length (Link.feed i.link.dec data)
    with err | ⟨d, gs⟩
  · rw [hd] at h
    cases h
  · rw [hd] at h
    cases h
    obtain ⟨hstop, hfix, hheld, -⟩ := Link.receive_bounded hv
      (d := Link.feed i.link.dec data) ⟨hr.held.part⟩ (Nat.le_refl _) hd
    have hof : d.fixed = cfg.recvLimits := hfix.trans hr.of.fixed
    have hbuf := Decoder.next_stops hstop
    exact ⟨⟨⟨hr.of.values, hof⟩, hheld, hbuf, fun b hb => by cases hb⟩,
      fun _ => ⟨hstop, hbuf, hheld, RecvLimits.Sound.of_fixed hof⟩⟩

/-- **After `receive_frames`.** -/
theorem receiveFrames_received (hv : v.Shrinks) (hr : Ready cfg i) {data : Bytes}
    {fs : List Frame} (h : i.receiveFrames v data = .ok (i', fs)) : Received v cfg i' := by
  unfold receiveFrames at h
  rcases hp : i.preface with _ | buf
  · rw [hp] at h
    exact decode_received hv hr h
  · rw [hp] at h
    dsimp only at h
    rcases hf : feedPreface (buf ++ data) with err | _ | rest
    · rw [hf] at h
      cases h
    · rw [hf] at h
      cases h
      have hshort : (buf ++ data).length < h2Preface.length := by
        unfold feedPreface at hf
        dsimp only at hf
        split at hf
        · cases hf
        · split at hf
          · next hlt => exact hlt
          · cases hf
      refine ⟨⟨hr.of, hr.held, hr.buf, fun b hb => ?_⟩, fun hn => by cases hn⟩
      cases hb
      exact ⟨hshort, (hr.preface buf hp).2⟩
    · rw [hf] at h
      exact decode_received hv hr h

theorem read_ready (hv : v.Shrinks) (hr : Ready cfg i) {data : Bytes} (h : i.read v data = .ok i') :
    Ready cfg i' := by
  unfold read at h
  rcases hd : i.receiveFrames v data with err | ⟨j, fs⟩
  · rw [hd] at h
    cases h
  · rw [hd] at h
    have hj := (receiveFrames_received hv hr hd).ready
    rcases hl : j.link.dispatchAll fs with err | l
    · simp only [Except.bind, hl] at h
      cases h
    · simp only [Except.bind, hl] at h
      cases h
      have hk := Link.dispatchAll_kept hj.of hl
      obtain ⟨hsize, hmax⟩ := Decoder.sizes_of_fixed hk.fixed
      refine ⟨hk.of hj.of, ⟨fun p hp => ?_⟩, ?_, fun b hb => ?_⟩
      · dsimp only at hp ⊢
        rw [hsize, hmax]
        exact hj.held.part p (hk.pending ▸ hp)
      · dsimp only
        rw [hsize, hk.buf]
        exact hj.buf
      · obtain ⟨hlen, hbuf⟩ := hj.preface b hb
        exact ⟨hlen, hk.buf.trans hbuf⟩

theorem reads_ready (hv : v.Shrinks) (hr : Ready cfg i) {ds : List Bytes}
    (h : i.reads v ds = .ok i') : Ready cfg i' := by
  induction ds generalizing i with
  | nil =>
    cases h
    exact hr
  | cons data ds ih =>
    unfold reads at h
    rcases hd : i.read v data with err | j
    · rw [hd] at h
      cases h
    · rw [hd] at h
      exact ih (read_ready hv hr hd) h

/-- **Header accumulation is bounded, and decoding ends.**  After every successful call of
`receive_frames`, the unparsed buffer is shorter than a longest frame, the block that is pending is
within the frames it came in, and these within the limit that the sizes give.  Whatever the decoder
holds, a turn of its loop takes one whole frame; and a frame that interrupts a block ends the
connection. -/
theorem accumulation_bounded (v : Vendor T P) (hv : v.Shrinks) (cfg : Config) (table : T)
    (ds : List Bytes) (i : Intake T P) (h : (init cfg table).reads v ds = .ok i) :
    (∀ data i' fs, i.receiveFrames v data = .ok (i', fs) →
      (∀ b, i'.preface = some b → b.length < h2Preface.length ∧ i'.link.dec.buf = []) ∧
      (i'.preface = none → Bounded v i'.link.dec) ∧
      i'.link.dec.Held ∧ i'.link.dec.limits.Sound) ∧
    (∀ d d' : Decoder T P, ∀ f, d.Held → d.next v = .ok (some (d', f)) →
      ∃ frame, d.buf = frame ++ d'.buf ∧ frame.length = 9 + payloadLen d.buf ∧
        payloadLen d.buf ≤ d.limits.maxRecvFrameSize ∧ d'.fixed = d.fixed ∧ d'.Held) ∧
    (∀ d : Decoder T P, ∀ part, d.pending = some part → 9 + payloadLen d.buf ≤ d.buf.length →
      Interrupts v part (d.buf.take (9 + payloadLen d.buf)) →
      ∃ reason message debugData, d.next v = .error (.protocol reason message debugData)) ∧
    ∀ xs : List RecvLimits.Setter, (xs.foldl RecvLimits.set .new).Sound := by
  have hready := reads_ready hv (ready_init cfg table) h
  refine ⟨fun data i' fs hrecv => ?_, fun d d' f hh hn => Decoder.next_whole hv hh hn,
    fun d part hp hlong hi => Decoder.next_interrupted hp hlong hi,
    fun xs => RecvLimits.sound_of_setters xs⟩
  have hrec := receiveFrames_received hv hready hrecv
  exact ⟨hrec.ready.preface, hrec.bounded, hrec.ready.held,
    RecvLimits.Sound.of_fixed hrec.ready.of.fixed⟩

theorem plainFrames_shrinks : Hpack.plainFrames.Shrinks := by
  refine Hpack.vendor_shrinks fun {frame p src} h => ?_
  split at h
  · cases h
  · cases h
    rw [List.length_drop]
    omega

/-- HEADERS on stream 1 with one byte of a block that goes on. -/
def openBlock : Bytes := [0, 0, 1, 1, 0, 0, 0, 0, 1, 64]

theorem accumulation_bounded_pending : ∃ i : Intake Hpack.Table (Hpack.Headers Bool),
    (init Sys.clientConfig (Hpack.Table.new 4096)).reads Hpack.plainFrames [openBlock] = .ok i ∧
    i.link.dec.pending.isSome = true ∧
    ∀ data i' fs, i.receiveFrames Hpack.plainFrames data = .ok (i', fs) → i'.link.dec.Held := by
  have hr : ((init Sys.clientConfig (Hpack.Table.new 4096)).reads Hpack.plainFrames
      [openBlock]).toOption.any (fun i => i.link.dec.pending.isSome) = true := by decide +kernel
  rcases h : (init Sys.clientConfig (Hpack.Table.new 4096)).reads Hpack.plainFrames [openBlock]
    with err | i
  · rw [h] at hr
    cases hr
  · rw [h] at hr
    refine ⟨i, rfl, hr, fun data i' fs hrecv => ?_⟩
    exact ((accumulation_bounded Hpack.plainFrames plainFrames_shrinks Sys.clientConfig
      (Hpack.Table.new 4096) [openBlock] i h).1 data i' fs hrecv).2.2.1

end Intake

end Httpunk.H2
