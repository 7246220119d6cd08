import Httpunk.H2.Hpack.Codec

/-!
# H2 — Hpack — RoundTrip

The two sides of HPACK stay together: what the encoder writes of a block is read as its fields, and
leaves the decoder with the table that the encoder has, over every sequence of blocks and changes of
the size.

* `Header.Valid`: what the types of the source promise of a field.
* `Written`: octets that a table reads as one field, whatever follows them.
* `encodeHeader_written`, `encodeHeaderWithoutName_written`: what is written of one field.
* `Tied`, `Synced`: the two sides at a block, and between blocks.  `synced_block`: before and after.
* `blocks_round_trip`: every run.
-/

namespace Httpunk.H2.Hpack

open Httpunk.Eviction

/-! ### Fields -/

/-- What the types of the `http` crate promise of a field. -/
def Header.Valid (H : Http) : Header → Prop
  | .field n v _ => n ≠ [] ∧ n.head? ≠ some 58 ∧ H.headerName n = true ∧ H.headerValue v = true
  | .authority v => H.utf8 v = true
  | .method v => H.method v = true
  | .scheme v => H.utf8 v = true
  | .path v => H.utf8 v = true
  | .protocol v => H.utf8 v = true
  | .status v => H.statusCode v = true

/-- A field of a name and a value, without a mark. -/
def Name.withValue : Name → Bytes → Header
  | .field n, v => .field n v false
  | .authority, v => .authority v
  | .method, v => .method v
  | .scheme, v => .scheme v
  | .path, v => .path v
  | .protocol, v => .protocol v
  | .status, v => .status v

@[simp] theorem Header.withValue_name (h : Header) : h.name.withValue h.valueSlice = h.plain := by
  cases h <;> rfl

@[simp] theorem Header.name_plain (h : Header) : h.plain.name = h.name := by
  cases h <;> rfl

theorem Header.plain_eq {h : Header} (unmarked : h.isSensitive = false) : h.plain = h := by
  cases h <;> simp_all [Header.plain, Header.isSensitive]

@[simp] theorem Header.len_plain (h : Header) : h.plain.len = h.len := by
  cases h <;> rfl

variable {H : Http} {F : Huffman}

theorem intoEntry_withValue {n : Name} {v : Bytes} (valid : (n.withValue v).Valid H) :
    n.intoEntry H v = .ok (n.withValue v) := by
  cases n <;> simp_all [Name.withValue, Header.Valid, Name.intoEntry]

theorem new_withValue {n : Name} {v : Bytes} (valid : (n.withValue v).Valid H) :
    Header.new H n.asSlice v = .ok (n.withValue v) := by
  cases n with
  | field n =>
    obtain ⟨some_, no_colon, name, value⟩ := valid
    cases n with
    | nil => exact absurd rfl some_
    | cons b rest =>
      have other : b ≠ 58 := by simpa using no_colon
      simp [Name.asSlice, Header.new, other, name, value, Name.withValue]
  | authority | method | scheme | path | protocol | status =>
    have is : (_ : Bool) = true := valid
    simp [Name.asSlice, Header.new, ascii, is, Name.withValue]

/-- The code of the name and that of the value are short enough for their lengths to be read. -/
def Header.Short (F : Huffman) (h : Header) : Prop :=
  Hpack.Short F h.name.asSlice ∧ Hpack.Short F h.valueSlice

/-! ### One field -/

/-- Octets that a table reads as one field, whatever follows them. -/
def Written (H : Http) (F : Huffman) (t : Table) (bytes : Bytes) (h : Header) (t' : Table) : Prop :=
  ∃ ty tail r, bytes = ty :: tail ∧ Representation.load ty = .ok r ∧ r ≠ .sizeUpdate ∧
    ∀ rest, t.decodeEntry H F r (bytes ++ rest) = .ok (h, t', rest)

/-- What is behind an octet of each kind of field. -/
structure Loads (p : Nat) (first : UInt8) (r : Representation) : Prop where
  base : Base p first
  load : ∀ n < 2 ^ p, Representation.load (first ||| UInt8.ofNat n) = .ok r

theorem loads_indexed : Loads 7 0x80 .indexed := ⟨base_indexed, by decide⟩
theorem loads_inserted : Loads 6 0x40 .literalWithIndexing := ⟨base_inserted, by decide⟩
theorem loads_update : Loads 5 0x20 .sizeUpdate := ⟨base_update, by decide⟩
theorem loads_never : Loads 4 0x10 .literalNeverIndexed := ⟨base_never, by decide⟩
theorem loads_without : Loads 4 0 .literalWithoutIndexing := ⟨base_without, by decide⟩

/-- The octets of a field start with those of its index. -/
theorem written_of {p : Nat} {first : UInt8} {r : Representation} (loads : Loads p first r)
    (field : r ≠ .sizeUpdate) {t t' : Table} {h : Header} {idx : Nat} {tail : Bytes}
    (reads : ∀ rest, t.decodeEntry H F r (encodeInt idx p first ++ tail ++ rest) =
      .ok (h, t', rest)) :
    Written H F t (encodeInt idx p first ++ tail) h t' := by
  obtain ⟨n, more, small, head⟩ := encodeInt_head idx p first
  exact ⟨_, more ++ tail, r, by rw [head]; rfl, loads.load n small, field, reads⟩

/-- An index that is found is small. -/
theorem get_lt {t : Table} (ok : t.Ok) {idx : Nat} {e : Header} (get : t.get idx = .ok e) :
    idx < 62 + t.maxSize ∧ idx ≠ 0 := by
  simp only [Table.get] at get
  split at get
  · cases get
  · next some_ =>
    refine ⟨?_, some_⟩
    split at get
    · omega
    · split at get
      · next e' there =>
        have short := (List.getElem?_eq_some_iff.mp there).1
        have := Table.weight ok
        have := ok.fits
        omega
      · cases get

theorem written_indexed {t : Table} {idx : Nat} {h : Header} (small : idx < 2 ^ 28)
    (get : t.get idx = .ok h) : Written H F t (encodeInt idx 7 0x80) h t := by
  rw [← List.append_nil (encodeInt idx 7 0x80)]
  refine written_of loads_indexed (by decide) fun rest => ?_
  simp only [List.append_nil, Table.decodeEntry, Table.decodeIndexed,
    decode_encode_int base_indexed small, get, Except.map]

/-- A literal whose name is at an index. -/
theorem decodeLiteral_index (inv : F.Inverse) (index : Bool) {t : Table} {idx : Nat} {e : Header}
    {value : Bytes} {first : UInt8} (base : Base (if index then 6 else 4) first)
    (small : idx < 2 ^ 28) (pos : idx ≠ 0) (get : t.get idx = .ok e)
    (valid : (e.name.withValue value).Valid H) (short : Short F value) (rest : Bytes) :
    t.decodeLiteral H F (encodeInt idx (if index then 6 else 4) first ++ encodeStr F value ++ rest)
      index = .ok (e.name.withValue value, rest) := by
  obtain ⟨huff, read⟩ := decode_encode_str inv short rest
  simp only [Table.decodeLiteral, List.append_assoc, decode_encode_int base small, if_neg pos, get,
    read, intoEntry_withValue valid]

/-- A literal whose name is written out. -/
theorem decodeLiteral_name (inv : F.Inverse) (index : Bool) {t : Table} {n : Name} {value : Bytes}
    {first : UInt8} (base : Base (if index then 6 else 4) first)
    (valid : (n.withValue value).Valid H) (short_name : Short F n.asSlice) (short : Short F value)
    (rest : Bytes) :
    t.decodeLiteral H F
      (encodeInt 0 (if index then 6 else 4) first ++ (encodeStr F n.asSlice ++ encodeStr F value) ++
        rest) index = .ok (n.withValue value, rest) := by
  obtain ⟨huff, read⟩ := decode_encode_str inv short rest
  obtain ⟨huff', read_name⟩ := decode_encode_str inv short_name (encodeStr F value ++ rest)
  simp only [Table.decodeLiteral, List.append_assoc, decode_encode_int base (v := 0) (by decide), if_true,
    read_name, read, new_withValue valid]

theorem encodeInt_zero {p : Nat} (wide : 2 ≤ p) (first : UInt8) : encodeInt 0 p first = [first] := by
  have := Nat.pow_le_pow_right (n := 2) (by decide) wide
  rw [encodeInt, if_pos (by omega)]
  simp

/-- A literal that is not put in the table, with its mark or without it. -/
theorem loads_literal (sensitive : Bool) :
    ∃ r, Loads 4 (if sensitive then 0x10 else 0) r ∧ r ≠ .sizeUpdate ∧
      ∀ (t : Table) (src : Bytes), t.decodeEntry H F r src =
        (t.decodeLiteral H F src false).map fun (h, rest) => (h, t, rest) := by
  cases sensitive with
  | true => exact ⟨_, loads_never, by decide, fun _ _ => rfl⟩
  | false => exact ⟨_, loads_without, by decide, fun _ _ => rfl⟩

theorem written_notIndexed (inv : F.Inverse) {t : Table} {idx : Nat} {e : Header} {value : Bytes}
    (sensitive : Bool) (small : idx < 2 ^ 28) (pos : idx ≠ 0) (get : t.get idx = .ok e)
    (valid : (e.name.withValue value).Valid H) (short : Short F value) :
    Written H F t (encodeNotIndexed F idx value sensitive) (e.name.withValue value) t := by
  obtain ⟨r, loads, field, entry⟩ := loads_literal (H := H) (F := F) sensitive
  refine written_of loads field fun rest => ?_
  have read := decodeLiteral_index inv false loads.base small pos get valid short rest
  rw [if_neg Bool.false_ne_true] at read
  rw [entry, read]
  rfl

theorem written_notIndexed2 (inv : F.Inverse) {t : Table} {n : Name} {value : Bytes}
    (sensitive : Bool) (valid : (n.withValue value).Valid H) (short_name : Short F n.asSlice)
    (short : Short F value) :
    Written H F t (encodeNotIndexed2 F n.asSlice value sensitive) (n.withValue value) t := by
  obtain ⟨r, loads, field, entry⟩ := loads_literal (H := H) (F := F) sensitive
  have bytes : encodeNotIndexed2 F n.asSlice value sensitive =
      encodeInt 0 4 (if sensitive then 0x10 else 0) ++
        (encodeStr F n.asSlice ++ encodeStr F value) := by
    rw [encodeInt_zero (by decide)]
    rfl
  rw [bytes]
  refine written_of loads field fun rest => ?_
  have read := decodeLiteral_name inv false (t := t) loads.base valid short_name short
    rest
  rw [if_neg Bool.false_ne_true] at read
  rw [entry, read]
  rfl

/-! ### What the encoder writes of a field -/

variable {ι : Type}

/-- The bound that the encoder puts on its table. -/
theorem small_of_bound {t : Table} (ok : t.Ok) (bound : t.maxSize ≤ defaultMaxAllowedSize)
    {idx : Nat} {e : Header} (get : t.get idx = .ok e) : idx < 2 ^ 28 ∧ idx ≠ 0 := by
  obtain ⟨lt, pos⟩ := get_lt ok get
  refine ⟨lt.trans_le ?_, pos⟩
  rw [defaultMaxAllowedSize] at bound
  omega

theorem newest {t : Slots ι} {v : Table} (ok : v.Ok) {h : Header} (fits : h.len ≤ v.maxSize)
    (put : t.view = v.insert h) : (t.slots[0]?.map Slot.header) = some h := by
  rw [Table.insert_eq ok fits] at put
  have entries : t.slots.map Slot.header = h :: _ := congrArg Table.entries put
  rw [← List.getElem?_map, entries, List.getElem?_cons_zero]

/-- What is written of an index is read, by the table that the index was made on, as the field; and
the table read with is then the one that the index left. -/
theorem encodeHeader_written (inv : F.Inverse) {v : Table} (ok : v.Ok)
    (bound : v.maxSize ≤ defaultMaxAllowedSize) {h : Header} (valid : h.plain.Valid H)
    (short : h.Short F) {t : Slots ι} {ix : Index} (indexed : Slots.Indexed v h (t, ix)) :
    ∃ bytes, t.encodeHeader F ix = some bytes ∧ Written H F v bytes h.plain t.view := by
  have valid' : (h.name.withValue h.valueSlice).Valid H := h.withValue_name ▸ valid
  cases indexed with
  | indexed get same =>
    have written := written_indexed (H := H) (F := F) (small_of_bound ok bound get).1 get
    exact ⟨_, rfl, same ▸ written⟩
  | name get named same =>
    obtain ⟨small, pos⟩ := small_of_bound ok bound get
    have written := written_notIndexed inv h.isSensitive small pos get (named ▸ valid') short.2
    rw [named, h.withValue_name] at written
    exact ⟨_, rfl, same ▸ written⟩
  | notIndexed same =>
    have written := written_notIndexed2 (t := v) inv h.isSensitive valid' short.1 short.2
    rw [h.withValue_name] at written
    exact ⟨_, rfl, same ▸ written⟩
  | @insertedValue _ idx e get named unmarked fits put =>
    obtain ⟨small, pos⟩ := small_of_bound ok bound get
    refine ⟨encodeInt idx 6 0x40 ++ encodeStr F h.valueSlice, ?_, ?_⟩
    · simp [Slots.encodeHeader, Slots.resolve, newest ok fits put, unmarked]
    · refine written_of loads_inserted (by decide) fun rest => ?_
      have read := decodeLiteral_index inv true base_inserted small pos get
        (named ▸ valid') short.2 rest
      rw [if_pos rfl, named, h.withValue_name] at read
      simp only [Table.decodeEntry, read, Except.map, put, h.plain_eq unmarked]
  | inserted unmarked fits put =>
    refine ⟨encodeInt 0 6 0x40 ++ (encodeStr F h.name.asSlice ++ encodeStr F h.valueSlice), ?_, ?_⟩
    · rw [encodeInt_zero (by decide)]
      simp [Slots.encodeHeader, Slots.resolve, newest ok fits put, unmarked]
    · refine written_of loads_inserted (by decide) fun rest => ?_
      have read := decodeLiteral_name inv true (t := v) base_inserted valid' short.1
        short.2 rest
      rw [if_pos rfl, h.withValue_name] at read
      simp only [Table.decodeEntry, read, Except.map, put, h.plain_eq unmarked]

/-- What the index of a field says of the name of one that follows. -/
def Points (v : Table) (n : Name) : Index → Prop
  | .indexed idx _ => ∃ e, v.get idx = .ok e ∧ e.name = n
  | .name idx _ => ∃ e, v.get idx = .ok e ∧ e.name = n
  | .inserted slot => ∃ e, v.get (slot + 62) = .ok e ∧ e.name = n
  | .insertedValue _ slot => ∃ e, v.get (slot + 62) = .ok e ∧ e.name = n
  | .notIndexed h => h.name = n

theorem get_newest {t : Slots ι} {h : Header} (first : t.slots[0]?.map Slot.header = some h) :
    t.view.get (0 + 62) = .ok h := by
  obtain ⟨s, at_zero, rfl⟩ := Option.map_eq_some_iff.mp first
  exact Slots.get_slot at_zero

theorem points_of_indexed {v : Table} (ok : v.Ok) {h : Header} {t : Slots ι} {ix : Index}
    (indexed : Slots.Indexed v h (t, ix)) : Points t.view h.name ix := by
  cases indexed with
  | indexed get same => exact ⟨h.plain, same ▸ get, h.name_plain⟩
  | name get named same => exact ⟨_, same ▸ get, named⟩
  | notIndexed same => exact rfl
  | insertedValue get named unmarked fits put => exact ⟨h, get_newest (newest ok fits put), rfl⟩
  | inserted unmarked fits put => exact ⟨h, get_newest (newest ok fits put), rfl⟩

theorem encodeHeaderWithoutName_written (inv : F.Inverse) {v : Table} (ok : v.Ok)
    (bound : v.maxSize ≤ defaultMaxAllowedSize) {n : Name} {value : Bytes} (sensitive : Bool)
    (valid : (n.withValue value).Valid H) (short_name : Short F n.asSlice) (short : Short F value)
    {last : Index} (points : Points v n last) :
    Written H F v (Slots.encodeHeaderWithoutName F last value sensitive) (n.withValue value) v := by
  have at_index {idx : Nat} (there : ∃ e, v.get idx = .ok e ∧ e.name = n) :
      Written H F v (encodeNotIndexed F idx value sensitive) (n.withValue value) v := by
    obtain ⟨e, get, rfl⟩ := there
    obtain ⟨small, pos⟩ := small_of_bound ok bound get
    exact written_notIndexed inv sensitive small pos get valid short
  cases last with
  | indexed idx h => exact at_index points
  | name idx h => exact at_index points
  | inserted slot => exact at_index points
  | insertedValue idx slot => exact at_index points
  | notIndexed h =>
    obtain rfl : h.name = n := points
    exact written_notIndexed2 inv sensitive valid short_name short

/-! ### Blocks -/

/-- The fields of a block as they are read: a field without a name has the last name, and no value
is marked. -/
def fields (last : Option Name) : List Item → Option (List Header)
  | [] => some []
  | .named h :: items => (fields (some h.name) items).map (h.plain :: ·)
  | .unnamed value _ :: items =>
    last.bind fun n => (fields last items).map (n.withValue value :: ·)

/-- Octets that a table reads as fields, one after the other. -/
inductive WrittenAll (H : Http) (F : Huffman) : Table → Bytes → List Header → Table → Prop where
  | nil {v : Table} : WrittenAll H F v [] [] v
  | cons {v v₁ v₂ : Table} {b bs : Bytes} {h : Header} {hs : List Header}
      (first : Written H F v b h v₁) (more : WrittenAll H F v₁ bs hs v₂) :
      WrittenAll H F v (b ++ bs) (h :: hs) v₂

/-- A field that can be written and read. -/
def Header.Sound (H : Http) (F : Huffman) (h : Header) : Prop := h.Valid H ∧ h.Short F

theorem indexed_maxSize {v : Table} (ok : v.Ok) {h : Header} {t : Slots ι} {ix : Index}
    (indexed : Slots.Indexed v h (t, ix)) : t.view.maxSize = v.maxSize := by
  cases indexed with
  | indexed get same => rw [same]
  | name get named same => rw [same]
  | notIndexed same => rw [same]
  | insertedValue get named unmarked fits put => rw [put, Table.insert_eq ok fits]
  | inserted unmarked fits put => rw [put, Table.insert_eq ok fits]

theorem short_plain {h : Header} (sound : h.plain.Sound H F) : h.Short F := by
  obtain ⟨-, short⟩ := sound
  cases h <;> exact short

theorem short_withValue {n : Name} {value : Bytes} (sound : (n.withValue value).Sound H F) :
    Short F n.asSlice ∧ Short F value := by
  obtain ⟨-, short⟩ := sound
  cases n <;> exact short

/-- What the loop of `encode` writes is read as the fields, by the table before it, which is then
the one after it. -/
theorem encodeItems_written (P : Probing ι) (inv : F.Inverse) (items : List Item) :
    ∀ (t : Slots ι) (last : Option Index) (name : Option Name) (hs : List Header), t.Ok →
      t.maxSize ≤ defaultMaxAllowedSize → fields name items = some hs → (∀ h ∈ hs, h.Sound H F) →
      (∀ n, name = some n → ∃ ix, last = some ix ∧ Points t.view n ix) →
      ∃ t' bytes, t.encodeItems P F last items = some (t', bytes) ∧ t'.Ok ∧
        t'.maxSize ≤ defaultMaxAllowedSize ∧ WrittenAll H F t.view bytes hs t'.view := by
  induction items with
  | nil =>
    intro t last name hs ok bound read sound points
    obtain rfl : [] = hs := Option.some.inj read
    exact ⟨t, [], rfl, ok, bound, .nil⟩
  | cons item items ih =>
    intro t last name hs ok bound read sound points
    cases item with
    | named h =>
      obtain ⟨more, read_more, rfl⟩ := Option.map_eq_some_iff.mp read
      simp only [List.forall_mem_cons] at sound
      have spec := Slots.index_spec P ok h
      rcases made : t.index P h with ⟨t₁, ix⟩
      rw [made] at spec
      obtain ⟨indexed, ok₁⟩ := spec
      obtain ⟨bytes, encoded, written⟩ := encodeHeader_written inv ok.view_ok bound sound.1.1
        (short_plain sound.1) indexed
      have bound₁ : t₁.maxSize ≤ defaultMaxAllowedSize :=
        (indexed_maxSize ok.view_ok indexed).trans_le bound
      obtain ⟨t', rest, encoded', last_ok, last_bound, all⟩ :=
        ih t₁ (some ix) (some h.name) more ok₁ bound₁ read_more sound.2
          fun n is => ⟨ix, rfl, Option.some.inj is ▸ points_of_indexed ok.view_ok indexed⟩
      exact ⟨t', bytes ++ rest, by simp [Slots.encodeItems, made, encoded, encoded'], last_ok,
        last_bound, .cons written all⟩
    | unnamed value sensitive =>
      obtain ⟨n, rfl, read'⟩ := Option.bind_eq_some_iff.mp read
      obtain ⟨more, read_more, rfl⟩ := Option.map_eq_some_iff.mp read'
      simp only [List.forall_mem_cons] at sound
      obtain ⟨ix, rfl, at_ix⟩ := points n rfl
      obtain ⟨short_name, short⟩ := short_withValue sound.1
      have written := encodeHeaderWithoutName_written inv ok.view_ok bound sensitive sound.1.1
        short_name short at_ix
      obtain ⟨t', rest, encoded', last_ok, last_bound, all⟩ :=
        ih t (some ix) (some n) more ok bound read_more sound.2 points
      exact ⟨t', _, by simp [Slots.encodeItems, encoded'], last_ok, last_bound, .cons written all⟩

section Decode

variable {σ : Type} (f : σ → Header → σ × Bool)

/-- The loop of `decode` over fields that were written, with a closure that takes every field. -/
theorem decodeLoop_written (takes : ∀ s h, (f s h).2 = false) {v v' : Table} {bytes : Bytes}
    {hs : List Header} (written : WrittenAll H F v bytes hs v') :
    ∀ (turns : Nat) (u : Option Nat) (limit : Nat) (canResize : Bool) (s : σ),
      bytes.length ≤ turns →
      Decoder.decodeLoop H F f turns ⟨u, limit, v⟩ canResize s bytes =
        (.ok (), ⟨u, limit, v'⟩, hs.foldl (fun s h => (f s h).1) s, []) := by
  induction written with
  | nil =>
    intro turns u limit canResize s enough
    cases turns <;> rfl
  | @cons v v₁ v₂ b bs h hs first more ih =>
    intro turns u limit canResize s enough
    obtain ⟨ty, tail, r, rfl, load, field, entry⟩ := first
    have read := entry bs
    simp only [List.cons_append, List.length_cons, List.length_append] at read enough ⊢
    cases turns with
    | zero => omega
    | succ turns =>
      rw [Decoder.decodeLoop, load]
      cases r with
      | sizeUpdate => exact absurd rfl field
      | indexed | literalWithIndexing | literalWithoutIndexing | literalNeverIndexed =>
        simp only [read, takes, Bool.false_eq_true, if_false]
        exact ih turns u limit false _ (by omega)

/-- A size update at the start of a block, within the decoder's limit. -/
theorem decodeLoop_update {n : Nat} (small : n < 2 ^ 28) {d : Decoder} (within : n ≤ d.lastMaxUpdate)
    (turns : Nat) (s : σ) (rest : Bytes) :
    Decoder.decodeLoop H F f (turns + 1) d true s (encodeSizeUpdate n ++ rest) =
      Decoder.decodeLoop H F f turns { d with table := d.table.setMaxSize n } true s rest := by
  obtain ⟨k, tail, bit, head⟩ := encodeInt_head n 5 0x20
  have read := decode_encode_int base_update small rest
  rw [encodeSizeUpdate]
  rw [head] at read ⊢
  rw [List.cons_append] at read ⊢
  rw [Decoder.decodeLoop, loads_update.load k bit]
  simp only [Decoder.processSizeUpdate, read, Bool.not_true, Bool.false_eq_true, if_false,
    if_neg (Nat.not_lt.mpr within)]

end Decode

/-! ### Runs -/

/-- The sizes of an update that is queued are within the bound. -/
def SizeUpdate.Within (bound : Nat) : SizeUpdate → Prop
  | .one size => size ≤ bound
  | .two min max => min ≤ bound ∧ max ≤ bound

theorem SizeUpdate.Within.mono {bound bound' : Nat} (le : bound ≤ bound') {u : SizeUpdate}
    (within : u.Within bound) : u.Within bound' := by
  cases u with
  | one size => exact within.trans le
  | two min max => exact ⟨within.1.trans le, within.2.trans le⟩

/-- The decoder with the size that was queued for its limit. -/
def Decoder.taken (d : Decoder) : Decoder :=
  { d with maxSizeUpdate := none, lastMaxUpdate := d.maxSizeUpdate.getD d.lastMaxUpdate }

/-- The two sides at a block: one table, and sizes that the decoder takes. -/
structure Tied (e : Encoder ι) (d : Decoder) : Prop where
  ok : e.table.Ok
  same : d.table = e.table.view
  bound : e.table.maxSize ≤ defaultMaxAllowedSize
  allowed : e.maxAllowedSize ≤ defaultMaxAllowedSize
  queued : ∀ u, e.sizeUpdate = some u → u.Within defaultMaxAllowedSize
  unasked : d.maxSizeUpdate = none
  limit : ∀ u, e.sizeUpdate = some u → u.Within d.lastMaxUpdate

/-- The two sides between blocks: what one has queued is within what the other has. -/
structure Synced (e : Encoder ι) (d : Decoder) : Prop where
  tied : Tied e d.taken
  calm : d.maxSizeUpdate = none → e.sizeUpdate = none

theorem synced_new (indices : ι) (rawCap : Nat) :
    Synced (Encoder.new indices defaultMaxAllowedSize rawCap) (Decoder.new defaultMaxAllowedSize) where
  tied :=
    { ok := ⟨Table.new_ok _, by simp [Encoder.new], by simp [Encoder.new, Slots.Linked]⟩
      same := rfl
      bound := Nat.min_le_right _ _
      allowed := le_rfl
      queued := by simp [Encoder.new]
      unasked := rfl
      limit := by simp [Encoder.new] }
  calm := fun _ => rfl

theorem queued_within {e : Encoder ι} {bound val : Nat} (small : val ≤ bound)
    (within : ∀ u, e.sizeUpdate = some u → u.Within bound) :
    ∀ u, e.queued val = some u → u.Within bound := by
  intro u asked
  rw [Encoder.queued] at asked
  cases before : e.sizeUpdate with
  | none =>
    simp only [before] at asked
    split at asked <;> cases asked
    exact small
  | some old =>
    have old_within := within old before
    cases old with
    | one old =>
      simp only [before] at asked
      split_ifs at asked <;> cases asked
      · exact small
      · exact ⟨old_within, small⟩
      · exact small
    | two min max =>
      simp only [before] at asked
      split_ifs at asked <;> cases asked
      · exact small
      · exact ⟨old_within.1, small⟩

/-- A size is announced: both sides queue it, and the decoder keeps the largest. -/
theorem synced_update {e : Encoder ι} {d : Decoder} (synced : Synced e d) (val : Nat) :
    Synced (e.updateMaxSize val) (d.queueSizeUpdate val) := by
  have tied := synced.tied
  refine ⟨{ tied with
    queued := queued_within ((Nat.min_le_right _ _).trans tied.allowed) tied.queued
    limit := queued_within ?_ fun u asked => ?_ }, fun none => by cases none⟩
  · refine (Nat.min_le_left _ _).trans ?_
    change val ≤ d.maxSizeUpdate.elim val fun v => max v val
    cases d.maxSizeUpdate with
    | none => exact le_rfl
    | some v => exact Nat.le_max_right _ _
  · -- something is queued already: the decoder's side of it is no larger than what is kept
    change u.Within (d.maxSizeUpdate.elim val fun v => max v val)
    have before : u.Within (d.maxSizeUpdate.getD d.lastMaxUpdate) := tied.limit u asked
    cases queued : d.maxSizeUpdate with
    | none =>
      rw [synced.calm queued] at asked
      cases asked
    | some v =>
      rw [queued] at before
      exact before.mono (Nat.le_max_left _ _)

theorem resized (P : Probing ι) {t : Slots ι} (ok : t.Ok) (size : Nat) :
    (t.resize P size).Ok ∧ (t.resize P size).view = t.view.setMaxSize size ∧
      (t.resize P size).maxSize = size := by
  obtain ⟨same, ok'⟩ := Slots.resize_spec P ok size
  refine ⟨ok', same, ?_⟩
  have max := congrArg Table.maxSize same
  rw [Table.setMaxSize_eq ok.view_ok] at max
  exact max

/-- The size updates at the start of a block. -/
theorem updates_read (P : Probing ι) {σ : Type} (f : σ → Header → σ × Bool) {e : Encoder ι}
    {d : Decoder} (synced : Tied e d) :
    (Tied (e.encodeSizeUpdates P).1 { d with table := (e.encodeSizeUpdates P).1.table.view } ∧
        (e.encodeSizeUpdates P).1.sizeUpdate = none) ∧
      ∀ (s : σ) (block : Bytes), ∃ turns, block.length ≤ turns ∧
        Decoder.decodeLoop H F f ((e.encodeSizeUpdates P).2 ++ block).length d true s
            ((e.encodeSizeUpdates P).2 ++ block) =
          Decoder.decodeLoop H F f turns
            { d with table := (e.encodeSizeUpdates P).1.table.view } true s block := by
  have wide : defaultMaxAllowedSize < 2 ^ 28 := by decide
  have nonempty (n : Nat) : ∃ more, (encodeSizeUpdate n).length = more + 1 := by
    obtain ⟨k, tail, -, head⟩ := encodeInt_head n 5 0x20
    exact ⟨tail.length, by rw [encodeSizeUpdate, head, List.length_cons]⟩
  rw [Encoder.encodeSizeUpdates]
  cases asked : e.sizeUpdate with
  | none =>
    refine ⟨⟨{ synced with same := rfl }, asked⟩, fun s block => ⟨block.length, le_rfl, ?_⟩⟩
    rw [← synced.same]
    rfl
  | some u =>
    have within := synced.queued u asked
    have fits := synced.limit u asked
    cases u with
    | one size =>
      obtain ⟨ok, same, max⟩ := resized P synced.ok size
      refine ⟨⟨⟨ok, rfl, max.trans_le within, synced.allowed, by simp, synced.unasked, by simp⟩,
        rfl⟩, fun s block => ?_⟩
      obtain ⟨more, long⟩ := nonempty size
      refine ⟨more + block.length, Nat.le_add_left _ _, ?_⟩
      have read := decodeLoop_update (H := H) (F := F) f (Nat.lt_of_le_of_lt within wide)
        fits (more + block.length) s block
      have turns : (encodeSizeUpdate size ++ block).length = more + block.length + 1 := by
        rw [List.length_append, long]
        omega
      simp only [turns, read, same, synced.same]
    | two min max =>
      obtain ⟨ok₁, same₁, -⟩ := resized P synced.ok min
      obtain ⟨ok, same, size⟩ := resized P ok₁ max
      refine ⟨⟨⟨ok, rfl, size.trans_le within.2, synced.allowed, by simp, synced.unasked, by simp⟩,
        rfl⟩, fun s block => ?_⟩
      obtain ⟨more₁, long₁⟩ := nonempty min
      obtain ⟨more₂, long₂⟩ := nonempty max
      refine ⟨more₁ + more₂ + block.length, Nat.le_add_left _ _, ?_⟩
      have first := decodeLoop_update (H := H) (F := F) f (Nat.lt_of_le_of_lt within.1 wide)
        fits.1 (more₁ + more₂ + block.length + 1) s
        (encodeSizeUpdate max ++ block)
      have second := decodeLoop_update (H := H) (F := F) f
        (d := { d with table := d.table.setMaxSize min }) (Nat.lt_of_le_of_lt within.2 wide)
        fits.2 (more₁ + more₂ + block.length) s block
      have turns : (encodeSizeUpdate min ++ (encodeSizeUpdate max ++ block)).length =
          more₁ + more₂ + block.length + 1 + 1 := by
        rw [List.length_append, List.length_append, long₁, long₂]
        omega
      rw [List.append_assoc, turns, first, second, same, same₁, synced.same]

/-- What a closure makes of fields that it takes one after the other. -/
def collect (read : List Header) (h : Header) : List Header × Bool := (read ++ [h], false)

theorem foldl_collect (hs : List Header) :
    ∀ read, hs.foldl (fun s h => (collect s h).1) read = read ++ hs := by
  induction hs with
  | nil => simp
  | cons h hs ih =>
    intro read
    rw [List.foldl_cons, ih]
    simp [collect]

/-- A block is read as its fields, and leaves the two sides together. -/
theorem synced_block (P : Probing ι) (inv : F.Inverse) {e : Encoder ι} {d : Decoder}
    (synced : Synced e d) {items : List Item} {hs : List Header} (read : fields none items = some hs)
    (sound : ∀ h ∈ hs, h.Sound H F) :
    ∃ e' d' bytes, e.encode P F items = some (e', bytes) ∧
      d.decode H F collect [] bytes = (.ok (), d', hs, []) ∧ Synced e' d' := by
  obtain ⟨⟨updated, calm⟩, updates⟩ := updates_read (H := H) (F := F) P collect synced.tied
  obtain ⟨t', block, encoded, ok, bound, written⟩ := encodeItems_written P inv items _ none none hs
    updated.ok updated.bound read sound (by simp)
  obtain ⟨turns, enough, looped⟩ := updates [] block
  refine ⟨{ (e.encodeSizeUpdates P).1 with table := t' }, { d.taken with table := t'.view },
    (e.encodeSizeUpdates P).2 ++ block, by simp [Encoder.encode, encoded], ?_, ?_⟩
  · change Decoder.decodeLoop H F collect _ d.taken true [] _ = _
    rw [looped, decodeLoop_written collect (fun _ _ => rfl) written turns _ _ _ _ enough,
      foldl_collect]
    rfl
  · exact ⟨{ updated with ok := ok, same := rfl, bound := bound }, fun _ => calm⟩

/-- What is done on the side of the encoder. -/
inductive Op where
  /-- The peer's bound on the table, which it queues for its decoder. -/
  | updateMaxSize (val : Nat)
  | encode (headers : List Item)

/-- The blocks of the encoder go to the decoder: what it makes of each, with what is left of it. -/
def converse (P : Probing ι) (H : Http) (F : Huffman) (e : Encoder ι) (d : Decoder) :
    List Op → Option (Encoder ι × Decoder × List (Except DecoderError Unit × List Header × Bytes))
  | [] => some (e, d, [])
  | .updateMaxSize val :: ops =>
    converse P H F (e.updateMaxSize val) (d.queueSizeUpdate val) ops
  | .encode headers :: ops => do
    let (e', bytes) ← e.encode P F headers
    let (e'', d'', more) ← converse P H F e' (d.decode H F collect [] bytes).2.1 ops
    return (e'', d'', ((d.decode H F collect [] bytes).1, (d.decode H F collect [] bytes).2.2) :: more)

/-- What is to be read of the blocks. -/
def Op.toRead : Op → Option (Except DecoderError Unit × List Header × Bytes)
  | .updateMaxSize _ => none
  | .encode headers => (fields none headers).map fun hs => (.ok (), hs, [])

/-- A block has a name for each of its fields, and fields that can be written and read. -/
def Op.Sound (H : Http) (F : Huffman) : Op → Prop
  | .updateMaxSize _ => True
  | .encode headers => ∃ hs, fields none headers = some hs ∧ ∀ h ∈ hs, h.Sound H F

theorem converse_synced (P : Probing ι) (inv : F.Inverse) (ops : List Op) :
    ∀ (e : Encoder ι) (d : Decoder), Synced e d → (∀ op ∈ ops, op.Sound H F) →
      ∃ e' d', converse P H F e d ops = some (e', d', ops.filterMap Op.toRead) ∧ Synced e' d' := by
  induction ops with
  | nil =>
    intro e d synced _
    exact ⟨e, d, rfl, synced⟩
  | cons op ops ih =>
    intro e d synced sound
    rw [List.forall_mem_cons] at sound
    cases op with
    | updateMaxSize val => exact ih _ _ (synced_update synced val) sound.2
    | encode headers =>
      obtain ⟨hs, read, fields_sound⟩ := sound.1
      obtain ⟨e₁, d₁, bytes, encoded, decoded, synced₁⟩ :=
        synced_block P inv synced read fields_sound
      obtain ⟨e', d', more, synced'⟩ := ih e₁ d₁ synced₁ sound.2
      refine ⟨e', d', ?_, synced'⟩
      simp [converse, encoded, decoded, more, Op.toRead, read]

/-- However the blocks and the changes of the size follow each other, every block is read as its
fields, and the decoder's table is the encoder's, within its size. -/
theorem blocks_round_trip (P : Probing ι) (indices : ι) (rawCap : Nat) (inv : F.Inverse)
    (ops : List Op) (sound : ∀ op ∈ ops, op.Sound H F) :
    ∃ e d, converse P H F (Encoder.new indices defaultMaxAllowedSize rawCap)
        (Decoder.new defaultMaxAllowedSize) ops = some (e, d, ops.filterMap Op.toRead) ∧
      d.table = e.table.view ∧ d.table.Ok ∧ d.table.maxSize ≤ defaultMaxAllowedSize := by
  obtain ⟨e, d, reads, synced⟩ := converse_synced P inv ops _ _ (synced_new indices rawCap) sound
  have same : d.table = e.table.view := synced.tied.same
  exact ⟨e, d, reads, same, same ▸ synced.tied.ok.view_ok, same ▸ synced.tied.bound⟩

/-- A probe that visits every slot, the newest one first. -/
def everySlot : Probing Nat where
  visits n _ := List.range n
  moved
    | n, .reserve _ => n
    | n, .insert _ => n + 1
    | n, .evict _ _ => n - 1
    | _, .clear => 0

def host : Bytes := ascii "www.example.com"

/-- The code of the host. -/
def hostCode : Bytes := [0xf1, 0xe3, 0xc2, 0xe5, 0xf2, 0x3a, 0x6b, 0xa0, 0xab, 0x90, 0xf4, 0xff]

/-- Huffman's code of the one text that is written. -/
def hostHuffman : Huffman where
  encode v := Equiv.swap host hostCode v
  decode v := .ok (Equiv.swap host hostCode v)

theorem hostHuffman_inverse : hostHuffman.Inverse := by
  intro v
  simp [hostHuffman]

/-- Everything is taken, as the texts that are written are. -/
def lenient : Http := ⟨fun _ => true, fun _ => true, fun _ => true, fun _ => true, fun _ => true⟩

/-- The fields of a request. -/
def request : List Header := [.method (ascii "GET"), .scheme (ascii "https"), .authority host]

theorem request_sound : (Op.encode (request.map .named)).Sound lenient hostHuffman := by
  refine ⟨request, rfl, ?_⟩
  simp only [request, List.forall_mem_cons, List.not_mem_nil, false_imp_iff, implies_true, and_true]
  exact ⟨⟨rfl, by decide, by decide⟩, ⟨rfl, by decide, by decide⟩, rfl, by decide, by decide⟩

/-- A request, the same once it is in the table, and the same once the table is gone. -/
theorem blocks_round_trip_resized : ∃ e d,
    converse everySlot lenient hostHuffman (Encoder.new 0 defaultMaxAllowedSize 0)
        (Decoder.new defaultMaxAllowedSize)
        [.encode (request.map .named), .encode (request.map .named), .updateMaxSize 0,
          .encode (request.map .named)] =
      some (e, d, [(.ok (), request, []), (.ok (), request, []), (.ok (), request, [])]) ∧
      d.table = e.table.view ∧ d.table.Ok ∧ d.table.maxSize ≤ defaultMaxAllowedSize :=
  blocks_round_trip everySlot 0 0 hostHuffman_inverse _ (by
    simp only [List.forall_mem_cons, List.not_mem_nil, false_imp_iff, implies_true, and_true]
    exact ⟨request_sound, request_sound, trivial, request_sound⟩)

end Httpunk.H2.Hpack
