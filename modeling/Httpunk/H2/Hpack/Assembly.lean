import Httpunk.H2.Hpack.Fragments
import Httpunk.H2.Hpack.RoundTrip

/-!
# H2 — Hpack — Assembly

The decoder of frames over HPACK (`decode_one` of `codec.rs`): a header block that comes in a HEADERS
frame and its CONTINUATIONs is read as in one frame.

* `loadHpack_eq`: the loader that the decoder of frames is given, by its parts, is `load`.
* `decodeLoop_length`: what is left of a fragment.
* `fragments_agree`: however a block is cut, the same head and the same decoder.
-/

namespace Httpunk.H2.Hpack

open Loading

variable {H : Http} {F : Huffman} {full : List (Bytes × Bytes) → Bytes → Bool}
variable {R : Type} {load : H2.Bytes → Except Err (Headers R × H2.Bytes ⊕ Frame)}
variable {event : Headers R → Except Err Frame} {plain : H2.Bytes → Except Err (Option Frame)}

/-! ### The loader -/

/-- The masks of an octet, as remainders. -/
theorem octet_masks (b : UInt8) :
    (isSizeUpdate b = true ↔ Representation.load b = .ok .sizeUpdate) ∧
      (b &&& 0x7F).toNat = b.toNat % 128 ∧ (b &&& 0x80 = 0 ↔ b.toNat < 128) ∧
      (b &&& prefixMask 5).toNat = b.toNat % 32 := by
  have all : ∀ n < 256, (isSizeUpdate (UInt8.ofNat n) = true ↔
      Representation.load (UInt8.ofNat n) = .ok .sizeUpdate) ∧
      (UInt8.ofNat n &&& 0x7F).toNat = (UInt8.ofNat n).toNat % 128 ∧
      (UInt8.ofNat n &&& 0x80 = 0 ↔ (UInt8.ofNat n).toNat < 128) ∧
      (UInt8.ofNat n &&& prefixMask 5).toNat = (UInt8.ofNat n).toNat % 32 := by
    decide +kernel
  have := all b.toNat b.toNat_lt
  rwa [UInt8.ofNat_toNat] at this

theorem isSizeUpdate_iff (b : UInt8) :
    isSizeUpdate b = true ↔ Representation.load b = .ok .sizeUpdate := (octet_masks b).1

theorem octet_low (b : UInt8) : (b &&& 0x7F).toNat = b.toNat % 128 := (octet_masks b).2.1

theorem octet_flag (b : UInt8) : b &&& 0x80 = 0 ↔ b.toNat < 128 := (octet_masks b).2.2.1

theorem octet_prefix (b : UInt8) : (b &&& prefixMask 5).toNat = b.toNat % 32 :=
  (octet_masks b).2.2.2

theorem decodeIntTail_eq (src : Bytes) : ∀ read shift ret,
    decodeIntTail read shift ret src = decodeIntRest read shift ret src := by
  induction src with
  | nil => exact fun _ _ _ => rfl
  | cons b src ih =>
    intro read shift ret
    simp only [decodeIntTail, decodeIntRest, octet_low, octet_flag, Nat.shiftLeft_eq, ih]

theorem decodeInt_eq (src : Bytes) : H2.decodeInt src = decodeInt 5 src := by
  cases src with
  | nil => rfl
  | cons b src =>
    rw [decodeInt_cons (by decide) (by decide), octet_prefix]
    simp only [H2.decodeInt, decodeIntTail_eq, Nat.reducePow, Nat.reduceSub]

/-- A loop that has no size update before it never looks at the limits. -/
theorem decodeLoop_limits {σ : Type} (f : σ → Header → σ × Bool) (n : Nat) :
    ∀ (d : Decoder) (s : σ) (src : Bytes),
      Decoder.decodeLoop H F f n d false s src =
        ((Decoder.decodeLoop H F f n ⟨none, 0, d.table⟩ false s src).1,
          { d with table := (Decoder.decodeLoop H F f n ⟨none, 0, d.table⟩ false s src).2.1.table },
          (Decoder.decodeLoop H F f n ⟨none, 0, d.table⟩ false s src).2.2) := by
  induction n with
  | zero => exact fun _ _ _ => rfl
  | succ n ih =>
    intro d s src
    cases src with
    | nil => rfl
    | cons ty tail =>
      rw [Decoder.decodeLoop, Decoder.decodeLoop]
      cases Representation.load ty with
      | error e => rfl
      | ok r =>
        cases r with
        | sizeUpdate => rfl
        | indexed | literalWithIndexing | literalWithoutIndexing | literalNeverIndexed =>
          simp only
          split
          · rfl
          · split
            · rfl
            · exact ih { d with table := _ } _ _

/-- The size updates of a fragment and the fields behind them. -/
theorem decodeLoop_updates {σ : Type} (f : σ → Header → σ × Bool) (n : Nat) :
    ∀ (d : Decoder) (s : σ) (src : Bytes), src.length ≤ n →
      match (vendor H F full load event plain).sizeUpdates d.lastMaxUpdate n d.table src with
      | (table, rest, some err) => Decoder.decodeLoop H F f n d true s src =
          (.error err, { d with table := table }, s, rest)
      | (table, rest, none) => Decoder.decodeLoop H F f n d true s src =
          Decoder.decodeLoop H F f rest.length { d with table := table } false s rest := by
  induction n with
  | zero =>
    intro d s src enough
    obtain rfl : src = [] := List.length_eq_zero_iff.mp (Nat.le_zero.mp enough)
    rfl
  | succ n ih =>
    intro d s src enough
    cases src with
    | nil => rfl
    | cons b tail =>
      rw [Vendor.sizeUpdates]
      by_cases update : isSizeUpdate b = true
      · rw [if_pos update, Decoder.decodeLoop, (isSizeUpdate_iff b).mp update, decodeInt_eq]
        simp only [Bool.not_true, Bool.false_eq_true, if_false]
        cases int : decodeInt 5 (b :: tail) with
        | error e =>
          simp only [Decoder.processSizeUpdate, int]
        | ok r =>
          obtain ⟨size, rest⟩ := r
          dsimp only
          by_cases large : d.lastMaxUpdate < size
          · simp only [if_pos large, Decoder.processSizeUpdate, int]
          · have step : d.processSizeUpdate (b :: tail) =
                .ok ({ d with table := d.table.setMaxSize size }, rest) := by
              simp only [Decoder.processSizeUpdate, int, if_neg large]
            have shorter := processSizeUpdate_length step
            simp only [if_neg large, step]
            exact ih { d with table := d.table.setMaxSize size } s rest
              (by simp only [List.length_cons] at shorter enough; omega)
      · rw [if_neg update]
        rw [decodeLoop_turns f (n + 1) (b :: tail).length _ _ _ _ enough le_rfl, List.length_cons]
        have other : Representation.load b ≠ .ok .sizeUpdate :=
          fun is => update ((isSizeUpdate_iff b).mpr is)
        simp only [List.length_cons, Decoder.decodeLoop]
        cases load : Representation.load b with
        | error e => rfl
        | ok r =>
          cases r with
          | sizeUpdate => exact absurd load other
          | indexed | literalWithIndexing | literalWithoutIndexing | literalNeverIndexed => rfl

/-- HPACK's decoder, as the decoder of frames keeps it. -/
def ofFrames (d : H2.Decoder Table (Headers R)) : Decoder :=
  ⟨d.limits.maxSizeUpdate, d.lastMaxUpdate, d.table⟩

/-- The decoder of frames with HPACK's as it is after a fragment. -/
def putBack (d : H2.Decoder Table (Headers R)) (hpack : Decoder) : H2.Decoder Table (Headers R) :=
  { d with
    table := hpack.table
    lastMaxUpdate := hpack.lastMaxUpdate
    limits := { d.limits with maxSizeUpdate := hpack.maxSizeUpdate } }

/-- The loader of the decoder of frames, size updates first and fields then, is `load`. -/
theorem loadHpack_eq (d : H2.Decoder Table (Headers R)) (p : Headers R) (src : Bytes) :
    d.loadHpack (vendor H F full load event plain) p src =
      (putBack d (p.headerBlock.load H F full d.limits.maxHeaderListSize (ofFrames d) src).2.1,
        { p with headerBlock :=
          (p.headerBlock.load H F full d.limits.maxHeaderListSize (ofFrames d) src).1 },
        (p.headerBlock.load H F full d.limits.maxHeaderListSize (ofFrames d) src).2.2) := by
  have updates := @decodeLoop_updates H F full R load event plain _
    (take full d.limits.maxHeaderListSize) src.length
    ⟨none, d.limits.maxSizeUpdate.getD d.lastMaxUpdate, d.table⟩ p.headerBlock.start src le_rfl
  simp only [H2.Decoder.loadHpack, HeaderBlock.load, Decoder.decode, ofFrames]
  simp only at updates
  split at updates
  · next table rest err is =>
    rw [updates, is]
    rfl
  · next table rest is =>
    rw [updates, is, decodeLoop_limits]
    rfl

/-! ### What is left of a fragment -/

theorem decodeInt_shorter {p n : Nat} {src rest : Bytes} (read : decodeInt p src = .ok (n, rest)) :
    rest.length < src.length := by
  have whole : decodeInt p (src ++ []) = .ok (n, rest) := by rwa [List.append_nil]
  obtain ⟨left, rfl, shorter, -⟩ | waits := decodeInt_split whole
  · rwa [List.append_nil]
  · rw [waits] at read
    cases read

theorem tryDecodeString_shorter {src : Bytes} {marker : StringMarker}
    (read : tryDecodeString F src = .ok marker) : marker.rest.length < src.length := by
  have whole : tryDecodeString F (src ++ []) = .ok marker := by rwa [List.append_nil]
  obtain ⟨left, same, shorter, -⟩ | ⟨n, waits⟩ := tryDecodeString_split whole
  · rwa [same, List.append_nil]
  · rw [waits] at read
    cases read

theorem decodeLiteral_left {t : Table} {src left : Bytes} {index : Bool} {e : DecoderError}
    (failed : t.decodeLiteral H F src index = .error (e, left)) : left.length ≤ src.length := by
  unfold Table.decodeLiteral at failed
  split at failed
  · cases failed
    exact le_rfl
  · next n rest int =>
    have shorter := decodeInt_shorter int
    split at failed
    · split at failed
      · cases failed
        exact le_rfl
      · next name read =>
        have shorter₁ := tryDecodeString_shorter read
        split at failed
        · cases failed
          exact le_rfl
        · next value read₂ =>
          have shorter₂ := tryDecodeString_shorter read₂
          split at failed
          · cases failed
          · cases failed
            split_ifs <;> omega
    · split at failed
      · cases failed
        exact le_rfl
      · split at failed
        · cases failed
          exact le_rfl
        · next value read =>
          have shorter₁ := tryDecodeString_shorter read
          split at failed
          · cases failed
          · cases failed
            split_ifs <;> omega

theorem decodeIndexed_left {t : Table} {src left : Bytes} {e : DecoderError}
    (failed : t.decodeIndexed src = .error (e, left)) : left.length ≤ src.length := by
  unfold Table.decodeIndexed at failed
  repeat' split at failed
  all_goals cases failed
  all_goals exact le_rfl

theorem decodeEntry_left {t : Table} {r : Representation} {src left : Bytes} {e : DecoderError}
    (failed : t.decodeEntry H F r src = .error (e, left)) : left.length ≤ src.length := by
  have lift {α β : Type} {f : α → β} {x : Except (DecoderError × Bytes) α}
      (h : x.map f = .error (e, left)) : x = .error (e, left) := by
    cases x with
    | error _ => exact congrArg Except.error (Except.error.inj h)
    | ok _ => cases h
  cases r with
  | indexed => exact decodeIndexed_left (lift failed)
  | literalWithIndexing => exact decodeLiteral_left (lift failed)
  | literalWithoutIndexing | literalNeverIndexed | sizeUpdate =>
    exact decodeLiteral_left (lift failed)

/-- **The loop leaves no more than it was given**, also where it fails. -/
theorem decodeLoop_length {σ : Type} (f : σ → Header → σ × Bool) (n : Nat) :
    ∀ (d : Decoder) (canResize : Bool) (s : σ) (src : Bytes),
      (Decoder.decodeLoop H F f n d canResize s src).2.2.2.length ≤ src.length := by
  induction n with
  | zero => exact fun _ _ _ _ => le_rfl
  | succ n ih =>
    intro d canResize s src
    cases src with
    | nil => exact le_rfl
    | cons ty tail =>
      rw [Decoder.decodeLoop]
      split
      · exact le_rfl
      · split
        · exact le_rfl
        · split
          · exact le_rfl
          · next read => exact (ih _ _ _ _).trans (processSizeUpdate_length read).le
      · split
        · next failed => exact decodeEntry_left failed
        · next read =>
          split
          · exact (decodeEntry_length read).le
          · exact (ih _ _ _ _).trans (decodeEntry_length read).le

/-! ### Frames -/

/-- The frames of a connection in turn: the decoder after them, and what they came to. -/
def decodeAll {T P : Type} (v : Vendor T P) (d : H2.Decoder T P) :
    List H2.Bytes → Except Err (H2.Decoder T P × List Frame)
  | [] => .ok (d, [])
  | frame :: frames => do
    let r ← d.decodeOne v frame
    let more ← decodeAll v r.1 frames
    return (more.1, r.2.toList ++ more.2)

/-- A frame that comes to nothing yet. -/
theorem decodeAll_cons {T P : Type} {v : Vendor T P} {d d' : H2.Decoder T P} {frame : H2.Bytes}
    {frames : List H2.Bytes} (one : d.decodeOne v frame = .ok (d', none)) :
    decodeAll v d (frame :: frames) = decodeAll v d' frames := by
  rw [decodeAll, one]
  cases more : decodeAll v d' frames with
  | error err => simp [bind, Except.bind, more]
  | ok r => simp [bind, Except.bind, more, pure, Except.pure]

/-- A HEADERS frame with a fragment. -/
structure Opens {T P : Type} (v : Vendor T P) (frame : H2.Bytes) (p : P) (fragment : H2.Bytes)
    (last : Bool) : Prop where
  kind : H2.Decoder.kind frame = 1
  last : H2.Decoder.isEndHeaders frame = last
  load : v.load frame = .ok (.inl (p, fragment))

/-- A CONTINUATION frame of a stream. -/
structure Continues (sid : Nat) (frame : H2.Bytes) (last : Bool) : Prop where
  kind : H2.Decoder.kind frame = 9
  stream : H2.Decoder.frameStream frame = sid
  last : H2.Decoder.isEndHeaders frame = last

/-- The CONTINUATION frames of a block: the last one ends it, and no other. -/
def Continuations (sid : Nat) : List H2.Bytes → Prop
  | [] => False
  | [frame] => Continues sid frame true
  | frame :: next :: frames => Continues sid frame false ∧ Continuations sid (next :: frames)

/-- What the CONTINUATION frames carry. -/
def fragments (frames : List H2.Bytes) : H2.Bytes := frames.flatMap (List.drop 9)

/-- What ended without harm has nothing left. -/
theorem decodeLoop_rest {maxSize : Nat} (n : Nat) :
    ∀ {d d' : Decoder} {canResize : Bool} {l l' : Loading} {src rest : Bytes}, src.length ≤ n →
      Decoder.decodeLoop H F (take full maxSize) n d canResize l src = (.ok (), d', l', rest) →
        l'.Good → rest = [] := by
  induction n with
  | zero =>
    intro d d' canResize l l' src rest enough run good
    cases run
    exact List.length_eq_zero_iff.mp (Nat.le_zero.mp enough)
  | succ n ih =>
    intro d d' canResize l l' src rest enough run good
    cases src with
    | nil =>
      cases run
      rfl
    | cons ty tail =>
      rw [Decoder.decodeLoop] at run
      split at run
      · cases run
      · split at run
        · cases run
        · split at run
          · cases run
          · next read =>
            have shorter := processSizeUpdate_length read
            exact ih (by simp only [List.length_cons] at shorter enough; omega) run good
      · split at run
        · cases run
        · next read =>
          have shorter := decodeEntry_length read
          split at run
          · next stop =>
            cases run
            obtain ⟨before, admits⟩ := admits_of_take good
            rw [take_admits before admits] at stop
            cases stop
          · exact ih (by simp only [List.length_cons] at shorter enough; omega) run good

/-- A block that is loaded at once, within the bound of its list. -/
structure Accepted (H : Http) (F : Huffman) (full : List (Bytes × Bytes) → Bytes → Bool)
    (d : H2.Decoder Table (Headers R)) (p : Headers R) (src : H2.Bytes) : Prop where
  done : (p.headerBlock.load H F full d.limits.maxHeaderListSize (ofFrames d) src).2.2.2 = .done
  fits : (p.headerBlock.load H F full d.limits.maxHeaderListSize (ofFrames d) src).1.isOverSize = false

theorem onward_of_accepted {d : H2.Decoder Table (Headers R)} {p : Headers R} {src : H2.Bytes}
    (accepted : Accepted H F full d p src) :
    ∃ d₂ l₂, l₂.Good ∧
      p.headerBlock.load H F full d.limits.maxHeaderListSize (ofFrames d) src =
        (l₂.block, d₂, [], .done) ∧
      Onward H F full d.limits.maxHeaderListSize src d₂ l₂
        ⟨none, (ofFrames d).maxSizeUpdate.getD (ofFrames d).lastMaxUpdate, d.table⟩ p.headerBlock
        [] := by
  obtain ⟨done, fits⟩ := accepted
  simp only [HeaderBlock.load] at done fits
  rcases run : (ofFrames d).decode H F (take full d.limits.maxHeaderListSize) p.headerBlock.start src
    with ⟨res, d₂, l₂, rest⟩
  rw [run] at done fits
  cases res with
  | error e => cases done
  | ok u =>
    have good : l₂.Good := by
      simp only [Loading.result] at done
      split at done
      · cases done
      · next within =>
        split at done
        · cases done
        · next formed => exact ⟨by simpa using formed, by simpa using within, fits⟩
    obtain rfl := decodeLoop_rest _ le_rfl run good
    refine ⟨d₂, l₂, good, ?_, p.headerBlock.start, true, src.length, .refl _, counts_start _, le_rfl,
      run⟩
    simp only [HeaderBlock.load, run, done]

/-- The decoder of frames in the middle of a block. -/
def held (d : H2.Decoder Table (Headers R)) (hpack : Decoder) (p : Headers R) (b : HeaderBlock)
    (buf : H2.Bytes) (count : Nat) : H2.Decoder Table (Headers R) :=
  { putBack d hpack with pending := some ⟨{ p with headerBlock := b }, buf, count⟩ }

/-- A CONTINUATION frame within the limits is put to the block. -/
theorem continued_eq {d : H2.Decoder Table (Headers R)} {p : Headers R} {b : HeaderBlock}
    {buf frame : H2.Bytes} {count : Nat} {last : Bool} (cont : Continues p.streamId frame last)
    (fits : b.isOverSize = false) (within : last = false → count < d.limits.maxContinuationFrames) :
    H2.Decoder.continued (vendor H F full load event plain) d.limits
        ⟨{ p with headerBlock := b }, buf, count⟩ frame =
      .ok ⟨{ p with headerBlock := b }, buf ++ frame.drop 9, if last then 0 else count + 1⟩ := by
  have counted : ¬ (last = false ∧
      (if last = true then 0 else count + 1) > d.limits.maxContinuationFrames) := by
    rintro ⟨rfl, large⟩
    have := within rfl
    simp only [Bool.false_eq_true, if_false] at large
    omega
  simp only [H2.Decoder.continued, vendor, cont.stream, cont.last, ne_eq, not_true, if_false,
    if_neg counted, fits, Bool.false_eq_true, false_and]
  cases buf with
  | nil => rfl
  | cons b buf => rfl

/-- The frame that ends a block, all of which is loaded. -/
theorem loadBlock_last {d : H2.Decoder Table (Headers R)} {p : Headers R} {src rest : H2.Bytes}
    {b : HeaderBlock} {hpack : Decoder} (count sid : Nat)
    (run : p.headerBlock.load H F full d.limits.maxHeaderListSize (ofFrames d) src =
      (b, hpack, rest, .done)) :
    d.loadBlock (vendor H F full load event plain) ⟨p, src, count⟩ sid true =
      (event { p with headerBlock := b }).map fun f => (putBack d hpack, some f) := by
  simp only [H2.Decoder.loadBlock, loadHpack_eq, run, classifyHpack, if_true]
  rfl

/-- A frame that does not end its block. -/
theorem loadBlock_more {d : H2.Decoder Table (Headers R)} {p : Headers R} {src rest : H2.Bytes}
    {b : HeaderBlock} {hpack : Decoder} {loaded : Loaded} (count sid : Nat)
    (run : p.headerBlock.load H F full d.limits.maxHeaderListSize (ofFrames d) src =
      (b, hpack, rest, loaded)) (ended : loaded = .done ∨ ∃ k, loaded = .hpack (.needMore k)) :
    d.loadBlock (vendor H F full load event plain) ⟨p, src, count⟩ sid false =
      .ok (held d hpack p b rest count, none) := by
  rcases ended with rfl | ⟨k, rfl⟩ <;>
    simp only [H2.Decoder.loadBlock, loadHpack_eq, run, classifyHpack, Bool.false_eq_true, if_false,
      held]

/-- A CONTINUATION frame of the block. -/
theorem decodeOne_held {d : H2.Decoder Table (Headers R)} {hpack : Decoder} {p : Headers R}
    {b : HeaderBlock} {buf frame : H2.Bytes} {count : Nat} {last : Bool}
    (cont : Continues p.streamId frame last) (fits : b.isOverSize = false)
    (within : last = false → count < d.limits.maxContinuationFrames) :
    (held d hpack p b buf count).decodeOne (vendor H F full load event plain) frame =
      { putBack d hpack with pending := none }.loadBlock (vendor H F full load event plain)
        ⟨{ p with headerBlock := b }, buf ++ frame.drop 9, if last then 0 else count + 1⟩
        p.streamId last := by
  have put := @continued_eq H F full R load event plain (held d hpack p b buf count) _ _ buf _ _ _
    cont fits within
  rw [H2.Decoder.decodeOne, if_neg (by simp [cont.kind]), if_neg (by simp [cont.kind]),
    if_pos cont.kind]
  simp only [held] at put ⊢
  simp only [put, cont.stream, cont.last]

/-- The rest of a block comes to its head. -/
theorem decodeAll_held {d : H2.Decoder Table (Headers R)} {p : Headers R} {d₂ : Decoder}
    {l₂ : Loading} (good : l₂.Good) (frames : List H2.Bytes) :
    ∀ (hpack : Decoder) (b : HeaderBlock) (buf : H2.Bytes) (count : Nat),
      Continuations p.streamId frames → hpack.maxSizeUpdate = none → b.isOverSize = false →
      count + frames.length ≤ d.limits.maxContinuationFrames + 1 →
      Onward H F full d.limits.maxHeaderListSize (fragments frames) d₂ l₂ hpack b buf →
      decodeAll (vendor H F full load event plain) (held d hpack p b buf count) frames =
        (event { p with headerBlock := l₂.block }).map fun f =>
          ({ putBack d d₂ with pending := none }, [f]) := by
  induction frames with
  | nil => exact fun _ _ _ _ conts => conts.elim
  | cons frame frames ih =>
    intro hpack b buf count conts unasked fits within onward
    obtain ⟨b', d', buf', loaded, run, ended, fits', unasked', onward', last⟩ :=
      load_onward good unasked onward
    cases frames with
    | nil =>
      have cont : Continues p.streamId frame true := conts
      obtain ⟨rfl, rfl, rfl, rfl⟩ := last rfl
      rw [decodeAll, decodeOne_held cont fits (by simp),
        loadBlock_last (d := { putBack d hpack with pending := none }) _ _ run]
      cases event { p with headerBlock := l₂.block } <;> rfl
    | cons next frames =>
      obtain ⟨cont, conts⟩ := conts
      simp only [List.length_cons] at within
      have one : (held d hpack p b buf count).decodeOne (vendor H F full load event plain) frame =
          .ok (held d d' p b' buf' (count + 1), none) := by
        rw [decodeOne_held cont fits (fun _ => by omega),
          loadBlock_more (d := { putBack d hpack with pending := none }) _ _ run ended]
        rfl
      rw [decodeAll_cons one]
      exact ih d' b' buf' (count + 1) conts unasked' fits'
        (by simp only [List.length_cons]; omega) onward'

/-- However a block that is accepted at once is cut into a HEADERS frame and CONTINUATIONs, within
the bound on their number, it comes to the same head, and leaves the decoder as it would at once. -/
theorem fragments_agree {d : H2.Decoder Table (Headers R)} {p : Headers R}
    {whole first fragment : H2.Bytes} {frames : List H2.Bytes} (idle : d.pending = none)
    (opens_whole : Opens (vendor H F full load event plain) whole p (fragment ++ fragments frames)
      true)
    (accepted : Accepted H F full d p (fragment ++ fragments frames))
    (opens : Opens (vendor H F full load event plain) first p fragment false)
    (conts : Continuations p.streamId frames)
    (within : frames.length ≤ d.limits.maxContinuationFrames + 1) :
    decodeAll (vendor H F full load event plain) d (first :: frames) =
      decodeAll (vendor H F full load event plain) d [whole] := by
  obtain ⟨d₂, l₂, good, run, onward⟩ := onward_of_accepted accepted
  obtain ⟨b', d', buf', loaded, run', ended, fits', unasked', onward', -⟩ :=
    load_onward good rfl onward
  have one : d.decodeOne (vendor H F full load event plain) first =
      .ok (held d d' p b' buf' 0, none) := by
    rw [H2.Decoder.decodeOne, if_neg (by simp [idle]), if_pos opens.kind, opens.load, opens.last]
    exact loadBlock_more (d := d) 0 _ run' ended
  have at_once : d.decodeOne (vendor H F full load event plain) whole =
      (event { p with headerBlock := l₂.block }).map fun f => (putBack d d₂, some f) := by
    rw [H2.Decoder.decodeOne, if_neg (by simp [idle]), if_pos opens_whole.kind, opens_whole.load,
      opens_whole.last]
    exact loadBlock_last (d := d) 0 _ run
  have settled : ({ putBack d d₂ with pending := none } : H2.Decoder Table (Headers R)) =
      putBack d d₂ := by
    obtain ⟨table, limit, limits, buf, pending⟩ := d
    obtain rfl : pending = none := idle
    rfl
  rw [decodeAll_cons one, decodeAll_held good frames d' b' buf' 0 conts unasked' fits'
    (by rwa [Nat.zero_add]) onward', settled, decodeAll, at_once]
  cases event { p with headerBlock := l₂.block } <;> rfl

/-- A crate to which a HEADERS frame is the start of its block, without padding or priority. -/
def plainFrames : Vendor Table (Headers Bool) :=
  vendor lenient hostHuffman (fun _ _ => false)
    (fun frame => if frame.length < 9 then .error .abort
      else .ok (.inl (⟨H2.Decoder.frameStream frame, (frame.getD 4 0).toNat % 2 == 1,
        [], 0, false, none, none, none, none, none, none⟩, frame.drop 9)))
    (fun p => if inRange : InRange p.streamId then
        .ok (.headers ⟨p.streamId, p.head, none, none, false, false, p.headerBlock.isOverSize,
          inRange⟩)
      else .error .abort)
    (fun _ => .ok none)

/-- A decoder between frames. -/
def betweenFrames : H2.Decoder Table (Headers Bool) :=
  ⟨Table.new 4096, 4096, RecvLimits.new, [], none⟩

/-- A field that is put in the table, in one frame and in three: cut in its name, and before the
last octet of its value. -/
theorem fragments_agree_cut :
    decodeAll plainFrames betweenFrames
        [[0, 0, 3, 1, 0, 0, 0, 0, 1, 64, 3, 97], [0, 0, 4, 9, 0, 0, 0, 0, 1, 98, 99, 2, 100],
          [0, 0, 1, 9, 4, 0, 0, 0, 1, 101]] =
      decodeAll plainFrames betweenFrames
        [[0, 0, 8, 1, 4, 0, 0, 0, 1, 64, 3, 97, 98, 99, 2, 100, 101]] := by
  have opens : Opens plainFrames [0, 0, 3, 1, 0, 0, 0, 0, 1, 64, 3, 97]
      ⟨1, false, [], 0, false, none, none, none, none, none, none⟩ [64, 3, 97] false :=
    ⟨rfl, rfl, rfl⟩
  exact fragments_agree rfl ⟨rfl, rfl, rfl⟩ ⟨rfl, rfl⟩ opens ⟨⟨rfl, rfl, rfl⟩, rfl, rfl, rfl⟩
    (by decide)

end Httpunk.H2.Hpack
