import Httpunk.H2.Hpack.Coding
import Httpunk.H2.Hpack.Slots

/-!
# H2 — Hpack — Codec

The encoder and the decoder of header blocks (`hpack/encoder.rs`, `hpack/decoder.rs`).

* `Encoder.updateMaxSize`, `Encoder.encode`: the sizes asked for, and a block.
* `Decoder.decode`: the fields of a block, handed to a closure that may stop.
* `Decoder.table_bounded`: what any octets leave of the decoder's table.
-/

namespace Httpunk.H2.Hpack

open Httpunk.Eviction

/-! ### Encoder -/

/-- `SizeUpdate`. -/
inductive SizeUpdate where
  | one (size : Nat)
  | two (min max : Nat)
  deriving DecidableEq

/-- `DEFAULT_MAX_ALLOWED_SIZE`. -/
def defaultMaxAllowedSize : Nat := 4 * 1024

structure Encoder (ι : Type) where
  table : Slots ι
  maxAllowedSize : Nat
  sizeUpdate : Option SizeUpdate

/-- `Header<Option<HeaderName>>`: a field without a name has that of the field before it. -/
inductive Item where
  | named (header : Header)
  | unnamed (value : Bytes) (sensitive : Bool)

/-- `encode_not_indexed`. -/
def encodeNotIndexed (F : Huffman) (name : Nat) (value : Bytes) (sensitive : Bool) : Bytes :=
  encodeInt name 4 (if sensitive then 0x10 else 0) ++ encodeStr F value

/-- `encode_not_indexed2`. -/
def encodeNotIndexed2 (F : Huffman) (name value : Bytes) (sensitive : Bool) : Bytes :=
  (if sensitive then 0x10 else 0) :: (encodeStr F name ++ encodeStr F value)

/-- `encode_size_update`. -/
def encodeSizeUpdate (val : Nat) : Bytes := encodeInt val 5 0x20

namespace Slots

variable {ι : Type}

/-- `resolve`; `none` is a slot that is not there. -/
def resolve (t : Slots ι) : Index → Option Header
  | .indexed _ h => some h
  | .name _ h => some h
  | .inserted i => t.slots[i]?.map Slot.header
  | .insertedValue _ i => t.slots[i]?.map Slot.header
  | .notIndexed h => some h

/-- `encode_header`, whose assertions fail as `none`. -/
def encodeHeader (F : Huffman) (t : Slots ι) (index : Index) : Option Bytes := do
  let header ← t.resolve index
  match index with
  | .indexed idx _ => return encodeInt idx 7 0x80
  | .name idx _ => return encodeNotIndexed F idx header.valueSlice header.isSensitive
  | .inserted _ =>
    guard !header.isSensitive
    return 0x40 :: (encodeStr F header.name.asSlice ++ encodeStr F header.valueSlice)
  | .insertedValue idx _ =>
    guard !header.isSensitive
    return encodeInt idx 6 0x40 ++ encodeStr F header.valueSlice
  | .notIndexed _ =>
    return encodeNotIndexed2 F header.name.asSlice header.valueSlice header.isSensitive

/-- `encode_header_without_name`, with `resolve_idx`. -/
def encodeHeaderWithoutName (F : Huffman) (last : Index) (value : Bytes) (sensitive : Bool) :
    Bytes :=
  match last with
  | .indexed idx _ => encodeNotIndexed F idx value sensitive
  | .name idx _ => encodeNotIndexed F idx value sensitive
  | .inserted slot => encodeNotIndexed F (slot + 62) value sensitive
  | .insertedValue _ slot => encodeNotIndexed F (slot + 62) value sensitive
  | .notIndexed h => encodeNotIndexed2 F h.name.asSlice value sensitive

/-- The loop of `encode`; `none` is its panic on a first field without a name. -/
def encodeItems (P : Probing ι) (F : Huffman) (t : Slots ι) (last : Option Index) :
    List Item → Option (Slots ι × Bytes)
  | [] => some (t, [])
  | .named h :: items => do
    let bytes ← (t.index P h).1.encodeHeader F (t.index P h).2
    let (t', rest) ← encodeItems P F (t.index P h).1 (some (t.index P h).2) items
    return (t', bytes ++ rest)
  | .unnamed value sensitive :: items => do
    let index ← last
    let (t', rest) ← encodeItems P F t last items
    return (t', encodeHeaderWithoutName F index value sensitive ++ rest)

end Slots

namespace Encoder

variable {ι : Type} (P : Probing ι) (F : Huffman)

/-- `Encoder::new`, with an index of some capacity over no slots. -/
def new (indices : ι) (maxSize rawCap : Nat) : Encoder ι :=
  ⟨⟨indices, rawCap, [], 0, 0, min maxSize defaultMaxAllowedSize⟩, defaultMaxAllowedSize, none⟩

/-- The size update that is queued, after one more. -/
def queued (e : Encoder ι) (val : Nat) : Option SizeUpdate :=
  match e.sizeUpdate with
  | some (.one old) =>
    if old < val then
      if e.table.maxSize < old then some (.one val) else some (.two old val)
    else some (.one val)
  | some (.two min _) => if val < min then some (.one val) else some (.two min val)
  | none => if val ≠ e.table.maxSize then some (.one val) else none

/-- `update_max_size`. -/
def updateMaxSize (e : Encoder ι) (val : Nat) : Encoder ι :=
  { e with sizeUpdate := e.queued (min val e.maxAllowedSize) }

/-- `encode_size_updates`. -/
def encodeSizeUpdates (e : Encoder ι) : Encoder ι × Bytes :=
  match e.sizeUpdate with
  | some (.one val) =>
    ({ e with table := e.table.resize P val, sizeUpdate := none }, encodeSizeUpdate val)
  | some (.two min max) =>
    ({ e with table := (e.table.resize P min).resize P max, sizeUpdate := none },
      encodeSizeUpdate min ++ encodeSizeUpdate max)
  | none => (e, [])

/-- `encode`. -/
def encode (e : Encoder ι) (headers : List Item) : Option (Encoder ι × Bytes) := do
  let (table, block) ← (encodeSizeUpdates P e).1.table.encodeItems P F none headers
  return ({ (encodeSizeUpdates P e).1 with table := table }, (encodeSizeUpdates P e).2 ++ block)

end Encoder

/-! ### Decoder -/

/-- `Representation`. -/
inductive Representation where
  | indexed
  | literalWithIndexing
  | literalWithoutIndexing
  | literalNeverIndexed
  | sizeUpdate
  deriving DecidableEq

/-- `Representation::load`. -/
def Representation.load (byte : UInt8) : Except DecoderError Representation :=
  if byte &&& 0x80 = 0x80 then .ok .indexed
  else if byte &&& 0x40 = 0x40 then .ok .literalWithIndexing
  else if byte &&& 0xF0 = 0 then .ok .literalWithoutIndexing
  else if byte &&& 0xF0 = 0x10 then .ok .literalNeverIndexed
  else if byte &&& 0xE0 = 0x20 then .ok .sizeUpdate
  else .error .invalidRepresentation

structure Decoder where
  maxSizeUpdate : Option Nat
  lastMaxUpdate : Nat
  table : Table
  deriving DecidableEq

namespace Table

variable (H : Http) (F : Huffman)

/-- `decode_indexed`. -/
def decodeIndexed (t : Table) (src : Bytes) : Except (DecoderError × Bytes) (Header × Bytes) :=
  match decodeInt 7 src with
  | .error e => .error (e, src)
  | .ok (index, rest) =>
    match t.get index with
    | .error e => .error (e, src)
    | .ok h => .ok (h, rest)

/-- `decode_literal`; an error comes with what is left of the source, where the strings that are
not Huffman's are taken before the field is checked. -/
def decodeLiteral (t : Table) (src : Bytes) (index : Bool) :
    Except (DecoderError × Bytes) (Header × Bytes) :=
  match decodeInt (if index then 6 else 4) src with
  | .error e => .error (e, src)
  | .ok (tableIdx, rest) =>
    if tableIdx = 0 then
      match tryDecodeString F rest with
      | .error e => .error (e, src)
      | .ok name =>
        match tryDecodeString F name.rest with
        | .error e => .error (e, src)
        | .ok value =>
          match Header.new H name.string value.string with
          | .ok h => .ok (h, value.rest)
          | .error e =>
            .error (e, if !value.huff then value.rest else if !name.huff then name.rest else src)
    else
      match t.get tableIdx with
      | .error e => .error (e, src)
      | .ok entry =>
        match tryDecodeString F rest with
        | .error e => .error (e, src)
        | .ok value =>
          match entry.name.intoEntry H value.string with
          | .ok h => .ok (h, value.rest)
          | .error e => .error (e, if !value.huff then value.rest else src)

/-- A field of a block, by its representation, and the table after it. -/
def decodeEntry (t : Table) (r : Representation) (src : Bytes) :
    Except (DecoderError × Bytes) (Header × Table × Bytes) :=
  match r with
  | .indexed => (t.decodeIndexed src).map fun (h, rest) => (h, t, rest)
  | .literalWithIndexing =>
    (t.decodeLiteral H F src true).map fun (h, rest) => (h, t.insert h, rest)
  | _ => (t.decodeLiteral H F src false).map fun (h, rest) => (h, t, rest)

end Table

namespace Decoder

variable {σ : Type} (H : Http) (F : Huffman)

/-- `Decoder::new`. -/
def new (size : Nat) : Decoder := ⟨none, size, Table.new size⟩

/-- `queue_size_update`. -/
def queueSizeUpdate (d : Decoder) (size : Nat) : Decoder :=
  { d with maxSizeUpdate := some (d.maxSizeUpdate.elim size fun v => max v size) }

/-- `process_size_update`. -/
def processSizeUpdate (d : Decoder) (src : Bytes) : Except DecoderError (Decoder × Bytes) :=
  match decodeInt 5 src with
  | .error e => .error e
  | .ok (newSize, rest) =>
    if d.lastMaxUpdate < newSize then .error .invalidMaxDynamicSize
    else .ok ({ d with table := d.table.setMaxSize newSize }, rest)

/-- The loop of `decode`, which takes no more turns than there are octets: how it ends, the decoder,
what the closure made of the fields, and what is left of the source. -/
def decodeLoop (f : σ → Header → σ × Bool) :
    Nat → Decoder → Bool → σ → Bytes → Except DecoderError Unit × Decoder × σ × Bytes
  | 0, d, _, s, src => (.ok (), d, s, src)
  | _ + 1, d, _, s, [] => (.ok (), d, s, [])
  | turns + 1, d, canResize, s, ty :: tail =>
    match Representation.load ty with
    | .error e => (.error e, d, s, ty :: tail)
    | .ok .sizeUpdate =>
      if !canResize then (.error .invalidMaxDynamicSize, d, s, ty :: tail)
      else
        match d.processSizeUpdate (ty :: tail) with
        | .error e => (.error e, d, s, ty :: tail)
        | .ok (d', rest) => decodeLoop f turns d' canResize s rest
    | .ok r =>
      match d.table.decodeEntry H F r (ty :: tail) with
      | .error (e, rest) => (.error e, d, s, rest)
      | .ok (entry, table, rest) =>
        if (f s entry).2 then (.ok (), { d with table := table }, (f s entry).1, rest)
        else decodeLoop f turns { d with table := table } false (f s entry).1 rest

/-- `decode`. -/
def decode (f : σ → Header → σ × Bool) (d : Decoder) (s : σ) (src : Bytes) :
    Except DecoderError Unit × Decoder × σ × Bytes :=
  decodeLoop H F f src.length
    { d with maxSizeUpdate := none, lastMaxUpdate := d.maxSizeUpdate.getD d.lastMaxUpdate }
    true s src

/-! ### What any octets do -/

/-- The table is as it should be, and neither it nor a size that is asked for exceeds a bound. -/
structure Within (bound : Nat) (d : Decoder) : Prop where
  ok : d.table.Ok
  table : d.table.maxSize ≤ bound
  limit : d.lastMaxUpdate ≤ bound
  asked : ∀ n ∈ d.maxSizeUpdate, n ≤ bound

theorem within_processSizeUpdate {bound : Nat} {d d' : Decoder} {src rest : Bytes}
    (within : d.Within bound) (read : d.processSizeUpdate src = .ok (d', rest)) :
    d'.Within bound := by
  rw [processSizeUpdate] at read
  split at read
  · cases read
  · split at read
    · cases read
    · next small =>
      cases read
      refine ⟨Table.setMaxSize_ok within.ok _, ?_, within.limit, within.asked⟩
      rw [Table.setMaxSize_eq within.ok]
      exact (Nat.le_of_not_lt small).trans within.limit

/-- A field of a block leaves the table as it is, or puts the field in. -/
theorem decodeEntry_table {t t' : Table} {r : Representation} {src rest : Bytes} {h : Header}
    (read : t.decodeEntry H F r src = .ok (h, t', rest)) : t' = t ∨ t' = t.insert h := by
  cases r with
  | literalWithIndexing =>
    simp only [Table.decodeEntry, Except.map] at read
    split at read <;> cases read
    exact .inr rfl
  | indexed | literalWithoutIndexing | literalNeverIndexed | sizeUpdate =>
    simp only [Table.decodeEntry, Except.map] at read
    split at read <;> cases read
    exact .inl rfl

theorem within_decodeLoop {bound : Nat} (f : σ → Header → σ × Bool) (n : Nat) :
    ∀ (d : Decoder) (canResize : Bool) (s : σ) (src : Bytes), d.Within bound →
      (decodeLoop H F f n d canResize s src).2.1.Within bound := by
  induction n with
  | zero => exact fun _ _ _ _ within => within
  | succ n ih =>
    intro d canResize s src within
    cases src with
    | nil => exact within
    | cons ty tail =>
      rw [decodeLoop]
      split
      · exact within
      · split
        · exact within
        · split
          · exact within
          · next read => exact ih _ _ _ _ (within_processSizeUpdate within read)
      · split
        · exact within
        · next entry table rest read =>
          have after : ({ d with table := table } : Decoder).Within bound := by
            rcases decodeEntry_table H F read with rfl | rfl
            · exact within
            · exact ⟨Table.insert_ok within.ok _,
                (Table.insert_maxSize _ _ within.ok).trans_le within.table, within.limit,
                within.asked⟩
          split
          · exact after
          · exact ih _ _ _ _ after

/-- What is done to a decoder: a size that its side allows, or a block of any octets. -/
inductive Event (σ : Type) where
  | queueSizeUpdate (size : Nat)
  | decode (s : σ) (src : Bytes)

/-- The decoder after an event, also where the block ends in an error. -/
def after (f : σ → Header → σ × Bool) (d : Decoder) : Event σ → Decoder
  | .queueSizeUpdate size => d.queueSizeUpdate size
  | .decode s src => (d.decode H F f s src).2.1

theorem within_after {bound : Nat} (f : σ → Header → σ × Bool) {d : Decoder} {event : Event σ}
    (within : d.Within bound) (allowed : ∀ size, event = .queueSizeUpdate size → size ≤ bound) :
    (d.after H F f event).Within bound := by
  cases event with
  | queueSizeUpdate size =>
    refine ⟨within.ok, within.table, within.limit, ?_⟩
    have small := allowed size rfl
    cases asked : d.maxSizeUpdate with
    | none => simpa [after, queueSizeUpdate, asked] using small
    | some n =>
      have := within.asked n (by simp [asked])
      simp [after, queueSizeUpdate, asked, small, this]
  | decode s src =>
    apply within_decodeLoop
    refine ⟨within.ok, within.table, ?_, by simp⟩
    cases asked : d.maxSizeUpdate with
    | none => exact within.limit
    | some n => exact within.asked n (by simp [asked])

/-- Whatever octets come, and whatever is made of them: the size of the table is that of its entries,
and with it their number is bounded by the sizes that were allowed. -/
theorem table_bounded (f : σ → Header → σ × Bool) {bound size : Nat} (initial : size ≤ bound)
    (events : List (Event σ))
    (allowed : ∀ n, .queueSizeUpdate n ∈ events → n ≤ bound) :
    (events.foldl (after H F f) (new size)).table.size =
        total Header.len (events.foldl (after H F f) (new size)).table.entries ∧
      (events.foldl (after H F f) (new size)).table.size ≤ bound ∧
      32 * (events.foldl (after H F f) (new size)).table.entries.length ≤ bound := by
  have run (events : List (Event σ)) (allowed : ∀ n, .queueSizeUpdate n ∈ events → n ≤ bound) :
      ∀ d : Decoder, d.Within bound → (events.foldl (after H F f) d).Within bound := by
    induction events with
    | nil => exact fun _ within => within
    | cons event events ih =>
      intro d within
      rw [List.foldl_cons]
      refine ih (fun n mem => allowed n (List.mem_cons_of_mem _ mem)) _
        (within_after H F f within ?_)
      rintro size rfl
      exact allowed size List.mem_cons_self
  have within := run events allowed (new size)
    ⟨Table.new_ok size, initial, initial, by simp [new]⟩
  have fits := within.ok.fits.trans within.table
  refine ⟨within.ok.size_eq, fits, ?_⟩
  exact (Table.weight within.ok).trans fits

/-- An entry that is evicted by another, a size that is allowed and asked for, and an error. -/
theorem table_bounded_resized : (fun events : List (Event Unit) =>
    32 * (events.foldl (after ⟨fun _ => true, fun _ => true, fun _ => true, fun _ => true,
      fun _ => true⟩ ⟨id, .ok⟩ fun _ _ => ((), false)) (new 40)).table.entries.length ≤ 64)
    [.decode () [0x40, 1, 97, 1, 98], .decode () [0x40, 1, 97, 1, 99], .queueSizeUpdate 64,
      .decode () [0x3f, 33, 0x40, 1, 97], .decode () [0x80]] :=
  (table_bounded _ _ _ (by decide) _ (by simp)).2.2

end Decoder

end Httpunk.H2.Hpack
