import Httpunk.H2.Hpack.Header

/-!
# H2 — Hpack — Coding

Integers behind a prefix and strings, as `hpack/encoder.rs` writes them (`encode_int`,
`encode_str`) and `hpack/decoder.rs` reads them (`decode_int`, `try_decode_string`).

* `decode_encode_int`: an integer below `2 ^ 28` is read back, whatever follows it.
* `decode_encode_str`: so is a string whose Huffman code is that short.

The Huffman code is the parameter `Huffman`.
-/

namespace Httpunk.H2.Hpack

/-- The Huffman code of the vendored crate (`hpack/huffman`). -/
structure Huffman where
  /-- `huffman::encode`. -/
  encode : Bytes → Bytes
  /-- `huffman::decode`. -/
  decode : Bytes → Except DecoderError Bytes

/-- The code is uniquely decoded. -/
def Huffman.Inverse (F : Huffman) : Prop := ∀ v, F.decode (F.encode v) = .ok v

/-! ### Integers -/

/-- The mask of `decode_int` for its prefix. -/
def prefixMask (prefixSize : Nat) : UInt8 :=
  if prefixSize = 8 then 0xFF else UInt8.ofNat (2 ^ prefixSize - 1)

/-- The loop of `decode_int`: `bytes` octets were read, `ret` is the sum so far. -/
def decodeIntRest (bytes shift ret : Nat) : Bytes → Except DecoderError (Nat × Bytes)
  | [] => .error (.needMore .integerUnderflow)
  | b :: rest =>
    if b &&& 0x80 = 0 then .ok (ret + (b &&& 0x7F).toNat <<< shift, rest)
    else if bytes + 1 = 5 then .error .integerOverflow
    else decodeIntRest (bytes + 1) (shift + 7) (ret + (b &&& 0x7F).toNat <<< shift) rest

/-- `decode_int`: the value, and what follows it. -/
def decodeInt (prefixSize : Nat) (buf : Bytes) : Except DecoderError (Nat × Bytes) :=
  if prefixSize < 1 ∨ 8 < prefixSize then .error .invalidIntegerPrefix
  else
    match buf with
    | [] => .error (.needMore .integerUnderflow)
    | b :: rest =>
      if (b &&& prefixMask prefixSize).toNat < (prefixMask prefixSize).toNat then
        .ok ((b &&& prefixMask prefixSize).toNat, rest)
      else decodeIntRest 1 0 (b &&& prefixMask prefixSize).toNat rest

/-- The loop of `encode_int`. -/
def encodeIntRest (value : Nat) : Bytes :=
  if 128 ≤ value then (0x80 ||| UInt8.ofNat value) :: encodeIntRest (value >>> 7)
  else [UInt8.ofNat value]
termination_by value
decreasing_by
  have := Nat.shiftRight_eq_div_pow value 7
  omega

/-- `encode_int`. -/
def encodeInt (value prefixBits : Nat) (firstByte : UInt8) : Bytes :=
  if value < 2 ^ prefixBits - 1 then [firstByte ||| UInt8.ofNat value]
  else (firstByte ||| UInt8.ofNat (2 ^ prefixBits - 1)) ::
    encodeIntRest (value - (2 ^ prefixBits - 1))

theorem ofNat_mod (v : Nat) : UInt8.ofNat v = UInt8.ofNat (v % 256) := by
  apply UInt8.toNat_inj.mp
  simp

theorem continued_low (v : Nat) : ((0x80 ||| UInt8.ofNat v) &&& 0x7F : UInt8).toNat = v % 128 := by
  have low : ∀ n < 256, ((0x80 ||| UInt8.ofNat n) &&& 0x7F : UInt8).toNat = n % 128 := by
    decide +kernel
  rw [ofNat_mod, low _ (Nat.mod_lt _ (by decide)), Nat.mod_mod_of_dvd _ (by decide)]

theorem continued_flag (v : Nat) : ((0x80 ||| UInt8.ofNat v) &&& 0x80 : UInt8) ≠ 0 := by
  have flag : ∀ n < 256, ((0x80 ||| UInt8.ofNat n) &&& 0x80 : UInt8) ≠ 0 := by
    decide +kernel
  rw [ofNat_mod]
  exact flag _ (Nat.mod_lt _ (by decide))

theorem last_low {v : Nat} (h : v < 128) : (UInt8.ofNat v &&& 0x7F : UInt8).toNat = v := by
  have low : ∀ n < 128, (UInt8.ofNat n &&& 0x7F : UInt8).toNat = n := by decide
  exact low v h

theorem last_flag {v : Nat} (h : v < 128) : (UInt8.ofNat v &&& 0x80 : UInt8) = 0 := by
  have flag : ∀ n < 128, (UInt8.ofNat n &&& 0x80 : UInt8) = 0 := by decide
  exact flag v h

/-- The loops agree, as long as the octets that are left can hold the value. -/
theorem decode_encode_rest (left : Nat) :
    ∀ (bytes shift ret v : Nat) (rest : Bytes), bytes + (left + 1) = 5 → v < 2 ^ (7 * (left + 1)) →
      decodeIntRest bytes shift ret (encodeIntRest v ++ rest) = .ok (ret + v <<< shift, rest) := by
  induction left with
  | zero =>
    intro bytes shift ret v rest hb hv
    have small : v < 128 := hv
    rw [encodeIntRest, if_neg (by omega)]
    simp [decodeIntRest, last_flag small, last_low small]
  | succ left ih =>
    intro bytes shift ret v rest hb hv
    rw [encodeIntRest]
    split
    · have shorter : v >>> 7 < 2 ^ (7 * (left + 1)) := by
        rw [Nat.shiftRight_eq_div_pow, Nat.div_lt_iff_lt_mul (by decide), ← pow_add]
        exact hv
      have parts : (v % 128) <<< shift + (v >>> 7) <<< (shift + 7) = v <<< shift := by
        simp only [Nat.shiftLeft_eq, Nat.shiftRight_eq_div_pow, pow_add]
        have := Nat.mod_add_div v 128
        calc v % 128 * 2 ^ shift + v / 128 * (2 ^ shift * 128)
            = (v % 128 + 128 * (v / 128)) * 2 ^ shift := by ring
          _ = v * 2 ^ shift := by rw [this]
      rw [List.cons_append, decodeIntRest, if_neg (continued_flag v), if_neg (by omega),
        continued_low, ih _ _ _ _ _ (by omega) shorter, Nat.add_assoc, parts]
    · next small =>
      simp [decodeIntRest, last_flag (Nat.lt_of_not_le small), last_low (Nat.lt_of_not_le small)]

/-- The base of an octet leaves the prefix to the value. -/
def Base (prefixBits : Nat) (firstByte : UInt8) : Prop :=
  1 ≤ prefixBits ∧ prefixBits ≤ 7 ∧
    ∀ v < 2 ^ prefixBits, ((firstByte ||| UInt8.ofNat v) &&& prefixMask prefixBits).toNat = v

theorem base_indexed : Base 7 0x80 := ⟨by decide, by decide, by decide⟩
theorem base_inserted : Base 6 0x40 := ⟨by decide, by decide, by decide⟩
theorem base_update : Base 5 0x20 := ⟨by decide, by decide, by decide⟩
theorem base_never : Base 4 0x10 := ⟨by decide, by decide, by decide⟩
theorem base_without : Base 4 0 := ⟨by decide, by decide, by decide⟩

theorem prefixMask_toNat {p : Nat} (hi : p ≤ 7) :
    (prefixMask p).toNat = 2 ^ p - 1 := by
  have masks : ∀ p ≤ 7, (prefixMask p).toNat = 2 ^ p - 1 := by decide
  exact masks p hi

theorem decodeInt_cons {p : Nat} (lo : 1 ≤ p) (hi : p ≤ 7) (b : UInt8) (rest : Bytes) :
    decodeInt p (b :: rest) =
      if (b &&& prefixMask p).toNat < 2 ^ p - 1 then .ok ((b &&& prefixMask p).toNat, rest)
      else decodeIntRest 1 0 (b &&& prefixMask p).toNat rest := by
  rw [decodeInt, if_neg (by omega), prefixMask_toNat hi]

theorem decode_encode_int {p : Nat} {first : UInt8} (base : Base p first) {v : Nat}
    (hv : v < 2 ^ 28) (rest : Bytes) :
    decodeInt p (encodeInt v p first ++ rest) = .ok (v, rest) := by
  obtain ⟨lo, hi, low⟩ := base
  have positive : 0 < 2 ^ p := Nat.two_pow_pos p
  by_cases short : v < 2 ^ p - 1
  · rw [encodeInt, if_pos short, List.singleton_append, decodeInt_cons lo hi,
      low v (by omega), if_pos short]
  · have whole : 2 ^ p - 1 + (v - (2 ^ p - 1)) <<< 0 = v := by
      rw [Nat.shiftLeft_zero]
      omega
    rw [encodeInt, if_neg short, List.cons_append, decodeInt_cons lo hi,
      low (2 ^ p - 1) (by omega), if_neg (lt_irrefl _),
      decode_encode_rest 3 _ _ _ _ _ (by decide) (by omega), whole]

/-- The first octet of an integer is its base with a prefix. -/
theorem encodeInt_head (v p : Nat) (first : UInt8) :
    ∃ n tail, n < 2 ^ p ∧ encodeInt v p first = (first ||| UInt8.ofNat n) :: tail := by
  have positive : 0 < 2 ^ p := Nat.two_pow_pos p
  rw [encodeInt]
  split
  · exact ⟨v, [], by omega, rfl⟩
  · exact ⟨2 ^ p - 1, _, by omega, rfl⟩

/-! ### Strings -/

/-- A string that was found: where it ends, and what it is once its bytes are taken. -/
structure StringMarker where
  /-- What follows the string. -/
  rest : Bytes
  /-- Whether its code is Huffman's. -/
  huff : Bool
  string : Bytes

/-- `try_decode_string`. -/
def tryDecodeString (F : Huffman) (buf : Bytes) : Except DecoderError StringMarker :=
  match buf with
  | [] => .error (.needMore .unexpectedEndOfStream)
  | hdr :: _ =>
    match decodeInt 7 buf with
    | .error e => .error e
    | .ok (len, rest) =>
      if rest.length < len then .error (.needMore .stringUnderflow)
      else if hdr &&& 0x80 = 0x80 then
        match F.decode (rest.take len) with
        | .error e => .error e
        | .ok s => .ok ⟨rest.drop len, true, s⟩
      else .ok ⟨rest.drop len, false, rest.take len⟩

/-- `encode_str`: every string is written by its Huffman code, but for the empty one. -/
def encodeStr (F : Huffman) (val : Bytes) : Bytes :=
  if val = [] then [0] else encodeInt (F.encode val).length 7 0x80 ++ F.encode val

/-- A string is short enough for its length to be read. -/
def Short (F : Huffman) (val : Bytes) : Prop := (F.encode val).length < 2 ^ 28

instance (F : Huffman) (val : Bytes) : Decidable (Short F val) :=
  inferInstanceAs (Decidable ((F.encode val).length < 2 ^ 28))

theorem decode_encode_str {F : Huffman} (inv : F.Inverse) {val : Bytes} (short : Short F val)
    (rest : Bytes) :
    ∃ huff, tryDecodeString F (encodeStr F val ++ rest) = .ok ⟨rest, huff, val⟩ := by
  rw [encodeStr]
  split
  · next empty =>
    subst empty
    exact ⟨false, by simp [tryDecodeString, decodeInt, prefixMask]⟩
  · refine ⟨true, ?_⟩
    obtain ⟨n, tail, hn, head⟩ := encodeInt_head (F.encode val).length 7 0x80
    have flags : ∀ n < 128, (0x80 ||| UInt8.ofNat n) &&& 0x80 = (0x80 : UInt8) := by decide
    have read := decode_encode_int base_indexed short (F.encode val ++ rest)
    rw [head] at read
    rw [head]
    simp only [List.cons_append, List.append_assoc] at read ⊢
    simp [tryDecodeString, read, flags n hn, inv val]

end Httpunk.H2.Hpack
