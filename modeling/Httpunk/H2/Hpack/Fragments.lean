import Httpunk.H2.Hpack.Block

/-!
# H2 — Hpack — Fragments

A header block that comes in fragments is loaded as it would be at once, where it is loaded at once
and its list is within the bound.

* `decodeInt_split`, `tryDecodeString_split`, `decodeEntry_split`: what is read of a beginning of the
  octets, which is the same or waits for the rest.
-/

namespace Httpunk.H2.Hpack

/-! ### Beginnings of what is read -/

theorem decodeIntRest_split {n : Nat} {rest : Bytes} (left : Bytes) (more : Bytes) :
    ∀ bytes shift ret, decodeIntRest bytes shift ret (left ++ more) = .ok (n, rest) →
      (∃ left', rest = left' ++ more ∧ left'.length < left.length ∧
        decodeIntRest bytes shift ret left = .ok (n, left')) ∨
      decodeIntRest bytes shift ret left = .error (.needMore .integerUnderflow) := by
  induction left with
  | nil => exact fun _ _ _ _ => .inr rfl
  | cons b left ih =>
    intro bytes shift ret read
    rw [List.cons_append, decodeIntRest] at read
    rw [decodeIntRest]
    by_cases last : b &&& 0x80 = 0
    · rw [if_pos last] at read ⊢
      cases read
      exact .inl ⟨left, rfl, Nat.lt_succ_self _, rfl⟩
    · rw [if_neg last] at read ⊢
      by_cases tooLong : bytes + 1 = 5
      · rw [if_pos tooLong] at read
        cases read
      · rw [if_neg tooLong] at read ⊢
        obtain ⟨left', split, shorter, here⟩ | waits := ih _ _ _ read
        · exact .inl ⟨left', split, shorter.trans (Nat.lt_succ_self _), here⟩
        · exact .inr waits

theorem decodeInt_split {p n : Nat} {left more rest : Bytes}
    (read : decodeInt p (left ++ more) = .ok (n, rest)) :
    (∃ left', rest = left' ++ more ∧ left'.length < left.length ∧
      decodeInt p left = .ok (n, left')) ∨
    decodeInt p left = .error (.needMore .integerUnderflow) := by
  by_cases size : p < 1 ∨ 8 < p
  · rw [decodeInt.eq_def, if_pos size] at read
    cases read
  · cases left with
    | nil =>
      refine .inr ?_
      rw [decodeInt.eq_def, if_neg size]
    | cons b left =>
      rw [List.cons_append, decodeInt.eq_def, if_neg size] at read
      rw [decodeInt.eq_def, if_neg size]
      simp only at read ⊢
      split at read
      · next short =>
        cases read
        rw [if_pos short]
        exact .inl ⟨left, rfl, Nat.lt_succ_self _, rfl⟩
      · next long =>
        rw [if_neg long]
        obtain ⟨left', split, shorter, here⟩ | waits := decodeIntRest_split left more _ _ _ read
        · exact .inl ⟨left', split, shorter.trans (Nat.lt_succ_self _), here⟩
        · exact .inr waits

variable {H : Http} {F : Huffman}

theorem tryDecodeString_split {left more : Bytes} {marker : StringMarker}
    (read : tryDecodeString F (left ++ more) = .ok marker) :
    (∃ left', marker.rest = left' ++ more ∧ left'.length < left.length ∧
      tryDecodeString F left = .ok { marker with rest := left' }) ∨
    ∃ n, tryDecodeString F left = .error (.needMore n) := by
  cases left with
  | nil => exact .inr ⟨_, rfl⟩
  | cons b left =>
    rw [List.cons_append, tryDecodeString, ← List.cons_append] at read
    rw [tryDecodeString]
    cases len : decodeInt 7 (b :: left ++ more) with
    | error e =>
      simp only [len] at read
      cases read
    | ok r =>
      obtain ⟨n, rest⟩ := r
      simp only [len] at read
      obtain ⟨left', rfl, shorter, here⟩ | waits := decodeInt_split len
      · rw [here]
        simp only
        by_cases whole : left'.length < n
        · rw [if_pos whole]
          exact .inr ⟨_, rfl⟩
        · have within : n ≤ left'.length := Nat.le_of_not_lt whole
          rw [if_neg whole]
          rw [if_neg (by simp only [List.length_append]; omega), List.take_append_of_le_length within,
            List.drop_append_of_le_length within] at read
          have dropped : (left'.drop n).length < (b :: left).length := by
            rw [List.length_drop]
            omega
          by_cases huff : b &&& 0x80 = 0x80
          · rw [if_pos huff] at read ⊢
            cases code : F.decode (left'.take n) with
            | error e =>
              simp only [code] at read
              cases read
            | ok s =>
              simp only [code] at read ⊢
              cases read
              exact .inl ⟨_, rfl, dropped, rfl⟩
          · rw [if_neg huff] at read ⊢
            cases read
            exact .inl ⟨_, rfl, dropped, rfl⟩
      · rw [waits]
        exact .inr ⟨_, rfl⟩

/-- What is read of the beginning of the octets of a field: the field, or that it needs more. -/
def Begins (read : Bytes → Except (DecoderError × Bytes) (Header × Bytes)) (left more : Bytes)
    (h : Header) (rest : Bytes) : Prop :=
  (∃ left', rest = left' ++ more ∧ left'.length < left.length ∧ read left = .ok (h, left')) ∨
    ∃ n, read left = .error (.needMore n, left)

theorem decodeIndexed_split {t : Table} {left more rest : Bytes} {h : Header}
    (read : t.decodeIndexed (left ++ more) = .ok (h, rest)) :
    Begins t.decodeIndexed left more h rest := by
  rw [Table.decodeIndexed] at read
  cases int : decodeInt 7 (left ++ more) with
  | error e =>
    simp only [int] at read
    cases read
  | ok r =>
    obtain ⟨n, tail⟩ := r
    simp only [int] at read
    cases get : t.get n with
    | error e =>
      simp only [get] at read
      cases read
    | ok e =>
      simp only [get] at read
      cases read
      obtain ⟨left', split, shorter, here⟩ | waits := decodeInt_split int
      · exact .inl ⟨left', split, shorter, by simp only [Table.decodeIndexed, here, get]⟩
      · exact .inr ⟨.integerUnderflow, by simp only [Table.decodeIndexed, waits]⟩

theorem decodeLiteral_split {t : Table} {index : Bool} {left more rest : Bytes} {h : Header}
    (read : t.decodeLiteral H F (left ++ more) index = .ok (h, rest)) :
    Begins (fun src => t.decodeLiteral H F src index) left more h rest := by
  rw [Table.decodeLiteral] at read
  cases int : decodeInt (if index then 6 else 4) (left ++ more) with
  | error e =>
    simp only [int] at read
    cases read
  | ok r =>
    obtain ⟨n, tail⟩ := r
    simp only [int] at read
    obtain ⟨left₁, rfl, shorter₁, here₁⟩ | waits := decodeInt_split int
    swap
    · exact .inr ⟨.integerUnderflow, by simp only [Table.decodeLiteral, waits]⟩
    by_cases zero : n = 0
    · rw [if_pos zero] at read
      cases nameRead : tryDecodeString F (left₁ ++ more) with
      | error e =>
        simp only [nameRead] at read
        cases read
      | ok name =>
        simp only [nameRead] at read
        obtain ⟨left₂, split₂, shorter₂, here₂⟩ | ⟨_, waits⟩ := tryDecodeString_split nameRead
        swap
        · exact .inr ⟨_, by simp only [Table.decodeLiteral, here₁, if_pos zero, waits]; rfl⟩
        rw [split₂] at read
        cases valueRead : tryDecodeString F (left₂ ++ more) with
        | error e =>
          simp only [valueRead] at read
          cases read
        | ok value =>
          simp only [valueRead] at read
          obtain ⟨left₃, split₃, shorter₃, here₃⟩ | ⟨_, waits⟩ := tryDecodeString_split valueRead
          swap
          · exact .inr ⟨_, by
              simp only [Table.decodeLiteral, here₁, if_pos zero, here₂, waits]; rfl⟩
          cases made : Header.new H name.string value.string with
          | error e =>
            simp only [made] at read
            cases read
          | ok field =>
            simp only [made] at read
            cases read
            exact .inl ⟨left₃, split₃, shorter₃.trans (shorter₂.trans shorter₁), by
              simp only [Table.decodeLiteral, here₁, if_pos zero, here₂, here₃, made]⟩
    · rw [if_neg zero] at read
      cases get : t.get n with
      | error e =>
        simp only [get] at read
        cases read
      | ok e =>
        simp only [get] at read
        cases valueRead : tryDecodeString F (left₁ ++ more) with
        | error e =>
          simp only [valueRead] at read
          cases read
        | ok value =>
          simp only [valueRead] at read
          obtain ⟨left₂, split₂, shorter₂, here₂⟩ | ⟨_, waits⟩ := tryDecodeString_split valueRead
          swap
          · exact .inr ⟨_, by simp only [Table.decodeLiteral, here₁, if_neg zero, get, waits]; rfl⟩
          cases made : e.name.intoEntry H value.string with
          | error e =>
            simp only [made] at read
            cases read
          | ok field =>
            simp only [made] at read
            cases read
            exact .inl ⟨left₂, split₂, shorter₂.trans shorter₁, by
              simp only [Table.decodeLiteral, here₁, if_neg zero, get, here₂, made]⟩

theorem decodeEntry_split {t t' : Table} {r : Representation} {left more rest : Bytes} {h : Header}
    (read : t.decodeEntry H F r (left ++ more) = .ok (h, t', rest)) :
    (∃ left', rest = left' ++ more ∧ left'.length < left.length ∧
      t.decodeEntry H F r left = .ok (h, t', left')) ∨
    ∃ n, t.decodeEntry H F r left = .error (.needMore n, left) := by
  have lift (read : Bytes → Except (DecoderError × Bytes) (Header × Bytes)) (put : Header → Table)
      (splits : ∀ h rest, read (left ++ more) = .ok (h, rest) → Begins read left more h rest)
      (whole : (read (left ++ more)).map (fun x => (x.1, put x.1, x.2)) = .ok (h, t', rest)) :
      (∃ left', rest = left' ++ more ∧ left'.length < left.length ∧
        (read left).map (fun x => (x.1, put x.1, x.2)) = .ok (h, t', left')) ∨
      ∃ n, (read left).map (fun x => (x.1, put x.1, x.2)) = .error (.needMore n, left) := by
    cases got : read (left ++ more) with
    | error e =>
      rw [got] at whole
      cases whole
    | ok x =>
      rw [got] at whole
      cases whole
      obtain ⟨left', split, shorter, here⟩ | ⟨n, waits⟩ := splits _ _ got
      · exact .inl ⟨left', split, shorter, by rw [here]; rfl⟩
      · exact .inr ⟨n, by rw [waits]; rfl⟩
  cases r with
  | indexed => exact lift t.decodeIndexed (fun _ => t) (fun _ _ => decodeIndexed_split) read
  | literalWithIndexing =>
    exact lift (t.decodeLiteral H F · true) t.insert (fun _ _ => decodeLiteral_split) read
  | literalWithoutIndexing | literalNeverIndexed | sizeUpdate =>
    exact lift (t.decodeLiteral H F · false) (fun _ => t) (fun _ _ => decodeLiteral_split) read

theorem decodeEntry_length {t t' : Table} {r : Representation} {src rest : Bytes} {h : Header}
    (read : t.decodeEntry H F r src = .ok (h, t', rest)) : rest.length < src.length := by
  have whole : t.decodeEntry H F r (src ++ []) = .ok (h, t', rest) := by rwa [List.append_nil]
  obtain ⟨left, rfl, shorter, -⟩ | ⟨n, waits⟩ := decodeEntry_split whole
  · rwa [List.append_nil]
  · rw [waits] at read
    cases read

/-! ### The list of a block -/

namespace Loading

variable {full : List (Bytes × Bytes) → Bytes → Bool} {maxSize : Nat}

/-- Nothing was refused, and the list is within its bound. -/
structure Good (l : Loading) : Prop where
  formed : l.malformed = false
  within : l.wayTooLarge = false
  fits : l.block.isOverSize = false

/-- What a field that is taken does to the list. -/
def taken (l : Loading) : Header → Loading
  | .field n v _ =>
    { l with
      reg := true
      headersSize := l.headersSize + decodedHeaderSize n.length v.length
      block := { l.block with
        fieldSize := l.block.fieldSize + decodedHeaderSize n.length v.length
        fields := l.block.fields ++ [(n, v)] } }
  | h =>
    { l with
      headersSize := l.headersSize + decodedHeaderSize h.name.asSlice.length h.valueSlice.length
      block := { l.block with pseudo := l.block.pseudo.set h.name h.valueSlice } }

/-- There is room for a field of some size. -/
def Room (maxSize : Nat) (l : Loading) (size : Nat) : Prop :=
  l.headersSize + size ≤ abuseSize maxSize ∧ l.headersSize + size < maxSize

/-- When a field is taken. -/
def Admits (full : List (Bytes × Bytes) → Bytes → Bool) (maxSize : Nat) (l : Loading) :
    Header → Prop
  | .field n v _ =>
    connectionLevel.contains n = false ∧ ¬ (n = ascii "te" ∧ v ≠ ascii "trailers") ∧
      Room maxSize l (decodedHeaderSize n.length v.length) ∧ full l.block.fields n = false
  | h => l.reg = false ∧ l.block.pseudo.get h.name = none ∧
      Room maxSize l (decodedHeaderSize h.name.asSlice.length h.valueSlice.length)

theorem checkSize_room {l : Loading} (good : l.Good) {size : Nat} (room : Room maxSize l size) :
    checkSize maxSize { l with headersSize := l.headersSize + size } =
      ({ l with headersSize := l.headersSize + size }, false) := by
  obtain ⟨block, reg, malformed, wayTooLarge, headersSize⟩ := l
  obtain ⟨fields, fieldSize, isOverSize, pseudo⟩ := block
  obtain rfl : isOverSize = false := good.fits
  simp only [Room] at room
  simp [checkSize, Nat.not_lt.mpr room.1, Nat.not_le.mpr room.2]

theorem room_of_checkSize {l : Loading} {size : Nat}
    (good : (checkSize maxSize { l with headersSize := l.headersSize + size }).1.Good) :
    l.Good ∧ Room maxSize l size := by
  obtain ⟨formed, within, fits⟩ := good
  simp only [checkSize] at formed within fits
  split at within
  · cases within
  · next small =>
    rw [if_neg small] at formed fits
    simp only [Bool.or_eq_false_iff, decide_eq_false_iff_not] at fits
    exact ⟨⟨formed, within, fits.1⟩, Nat.le_of_not_lt small, Nat.lt_of_not_le fits.2⟩

/-- A size that is too large says so. -/
theorem checkSize_stop {l : Loading} (stop : (checkSize maxSize l).2 = true) :
    (checkSize maxSize l).1.wayTooLarge = true := by
  simp only [checkSize] at stop ⊢
  split at stop
  · next large => rw [if_pos large]
  · cases stop

/-- A field whose size was counted without harm is put in the list. -/
theorem good_next {r : Loading × Bool} {next : Loading}
    (stop : r.2 = true → r.1.wayTooLarge = true)
    (good : (if r.2 || r.1.block.isOverSize then r else (next, false)).1.Good) : next.Good := by
  split at good
  · next stopped =>
    rcases (Bool.or_eq_true _ _).mp stopped with large | excess
    · exact absurd good.within (by simp [stop large])
    · exact absurd good.fits (by simp [excess])
  · exact good

theorem setPseudo_admits {l : Loading} (good : l.Good) {n : Name} {v : Bytes}
    (regular : l.reg = false) (fresh : l.block.pseudo.get n = none)
    (room : Room maxSize l (decodedHeaderSize n.asSlice.length v.length)) :
    setPseudo maxSize l n v =
      ({ l with
          headersSize := l.headersSize + decodedHeaderSize n.asSlice.length v.length
          block := { l.block with pseudo := l.block.pseudo.set n v } }, false) := by
  have unrefused : (l.reg || (l.block.pseudo.get n).isSome) = false := by
    rw [regular, fresh]
    rfl
  rw [setPseudo, if_neg (Bool.eq_false_iff.mp unrefused), counted, checkSize_room good room]
  simp only [good.fits, Bool.or_self, Bool.false_eq_true, if_false]

theorem admits_of_setPseudo {l : Loading} {n : Name} {v : Bytes}
    (good : (setPseudo maxSize l n v).1.Good) :
    l.Good ∧ l.reg = false ∧ l.block.pseudo.get n = none ∧
      Room maxSize l (decodedHeaderSize n.asSlice.length v.length) := by
  rw [setPseudo] at good
  by_cases refused : (l.reg || (l.block.pseudo.get n).isSome) = true
  · rw [if_pos refused] at good
    exact absurd good.formed (by simp)
  · rw [if_neg refused] at good
    simp only [Bool.or_eq_true, not_or, Bool.not_eq_true, Option.isSome_eq_false_iff,
      Option.isNone_iff_eq_none] at refused
    have put := good_next checkSize_stop good
    obtain ⟨before, room⟩ := room_of_checkSize (l := l) ⟨put.formed, put.within, put.fits⟩
    exact ⟨before, refused.1, refused.2, room⟩

/-- A field that is admitted is taken. -/
theorem take_admits {l : Loading} (good : l.Good) {h : Header} (admits : Admits full maxSize l h) :
    take full maxSize l h = (l.taken h, false) := by
  cases h with
  | field n v s =>
    obtain ⟨level, te, room, free⟩ := admits
    have marked : Good { l with reg := true } := ⟨good.formed, good.within, good.fits⟩
    have checked : counted maxSize { l with reg := true } (.field n) v =
        ({ l with
          reg := true
          headersSize := l.headersSize + decodedHeaderSize n.length v.length }, false) :=
      checkSize_room marked room
    simp only [take, takeField, level, if_neg te, checked, append, free, good.fits, taken,
      Bool.false_eq_true, Bool.or_self, if_false]
  | authority v | method v | scheme v | path v | protocol v | status v =>
    obtain ⟨regular, fresh, room⟩ := admits
    exact setPseudo_admits good regular fresh room

/-- What is taken without harm was admitted, and there was none before. -/
theorem admits_of_take {l : Loading} {h : Header} (good : (take full maxSize l h).1.Good) :
    l.Good ∧ Admits full maxSize l h := by
  cases h with
  | field n v s =>
    simp only [take, takeField] at good
    by_cases level : connectionLevel.contains n = true
    · rw [if_pos level] at good
      exact absurd good.formed (by simp)
    · rw [if_neg level] at good
      by_cases te : n = ascii "te" ∧ v ≠ ascii "trailers"
      · rw [if_pos te] at good
        exact absurd good.formed (by simp)
      · rw [if_neg te] at good
        have put := good_next checkSize_stop good
        rw [append] at put
        by_cases there : full (counted maxSize { l with reg := true } (.field n) v).1.block.fields n
        · rw [if_pos there] at put
          exact absurd put.fits (by simp)
        · rw [if_neg there] at put
          obtain ⟨before, room⟩ := room_of_checkSize (l := { l with reg := true })
            ⟨put.formed, put.within, put.fits⟩
          rw [counted, checkSize_room before room] at there
          exact ⟨⟨before.formed, before.within, before.fits⟩, by simpa using level, te, room,
            by simpa using there⟩
  | authority v | method v | scheme v | path v | protocol v | status v =>
    exact admits_of_setPseudo good

/-- A loading that has the same list, and of what it saw before no more than another. -/
structure Follows (l l' : Loading) : Prop where
  block : l'.block = l.block
  formed : l'.malformed = l.malformed
  within : l'.wayTooLarge = l.wayTooLarge
  reg : l'.reg = true → l.reg = true
  size : l'.headersSize ≤ l.headersSize

theorem Follows.refl (l : Loading) : Follows l l := ⟨rfl, rfl, rfl, id, le_rfl⟩

theorem Follows.good {l l' : Loading} (follows : Follows l l') (good : l.Good) : l'.Good :=
  ⟨follows.formed.trans good.formed, follows.within.trans good.within,
    (congrArg HeaderBlock.isOverSize follows.block).trans good.fits⟩

theorem Follows.room {l l' : Loading} (follows : Follows l l') {size : Nat}
    (room : Room maxSize l size) : Room maxSize l' size :=
  ⟨(Nat.add_le_add_right follows.size size).trans room.1,
    (Nat.add_le_add_right follows.size size).trans_lt room.2⟩

/-- A field that one of them takes is taken by the other. -/
theorem Follows.admits {l l' : Loading} (follows : Follows l l') {h : Header}
    (admits : Admits full maxSize l h) : Admits full maxSize l' h := by
  have unseen (before : l.reg = false) : l'.reg = false := by
    by_contra seen
    have := follows.reg (Bool.eq_true_of_not_eq_false seen)
    rw [before] at this
    cases this
  cases h with
  | field n v s =>
    obtain ⟨level, te, room, free⟩ := admits
    exact ⟨level, te, follows.room room, by rw [follows.block, free]⟩
  | authority v | method v | scheme v | path v | protocol v | status v =>
    obtain ⟨regular, fresh, room⟩ := admits
    exact ⟨unseen regular, by rw [follows.block, fresh], follows.room room⟩

theorem Follows.taken {l l' : Loading} (follows : Follows l l') (h : Header) :
    Follows (l.taken h) (l'.taken h) := by
  obtain ⟨block, formed, within, reg, size⟩ := follows
  cases h with
  | field n v s =>
    exact ⟨by simp only [Loading.taken, block], formed, within, id, Nat.add_le_add_right size _⟩
  | authority v | method v | scheme v | path v | protocol v | status v =>
    exact ⟨by simp only [Loading.taken, block], formed, within, reg, Nat.add_le_add_right size _⟩

/-- What a loading knows beside its list is at least what the list says. -/
structure Counts (l : Loading) : Prop where
  reg : l.block.fields ≠ [] → l.reg = true
  size : l.block.calculateHeaderListSize ≤ l.headersSize

theorem counts_start (b : HeaderBlock) : Counts b.start := by
  refine ⟨fun some_ => ?_, le_rfl⟩
  cases fields : b.fields with
  | nil => exact absurd fields some_
  | cons f fs => simp [HeaderBlock.start, fields]

theorem calculate_set (b : HeaderBlock) (n : Name) (v : Bytes) :
    ({ b with pseudo := b.pseudo.set n v } : HeaderBlock).calculateHeaderListSize ≤
      b.calculateHeaderListSize + decodedHeaderSize n.asSlice.length v.length := by
  cases n with
  | field n => exact Nat.le_add_right _ _
  | authority | method | scheme | path | protocol | status =>
    simp only [HeaderBlock.calculateHeaderListSize, HeaderBlock.pseudoSize, Pseudo.get, Pseudo.set,
      Option.elim_some]
    omega

theorem Counts.taken {l : Loading} (counts : l.Counts) (h : Header) : (l.taken h).Counts := by
  cases h with
  | field n v s =>
    refine ⟨fun _ => rfl, ?_⟩
    have := counts.size
    simp only [Loading.taken, HeaderBlock.calculateHeaderListSize, HeaderBlock.pseudoSize] at this ⊢
    omega
  | authority v | method v | scheme v | path v | protocol v | status v =>
    exact ⟨counts.reg, (calculate_set l.block _ v).trans (Nat.add_le_add_right counts.size _)⟩

/-- The next fragment starts with no more than the list says. -/
theorem Counts.next {l l' : Loading} (counts : l.Counts) (good : l.Good) (follows : Follows l l') :
    Follows l l'.block.start := by
  rw [follows.block]
  refine ⟨rfl, good.formed.symm, good.within.symm, fun seen => counts.reg fun none_ => ?_,
    counts.size⟩
  simp [HeaderBlock.start, none_] at seen

end Loading

/-! ### The loop, cut -/

section Loop

open Loading

variable {full : List (Bytes × Bytes) → Bytes → Bool} {maxSize : Nat}

theorem processSizeUpdate_split {d d' : Decoder} {left more rest : Bytes}
    (read : d.processSizeUpdate (left ++ more) = .ok (d', rest)) :
    (∃ left', rest = left' ++ more ∧ left'.length < left.length ∧
      d.processSizeUpdate left = .ok (d', left')) ∨
    d.processSizeUpdate left = .error (.needMore .integerUnderflow) := by
  rw [Decoder.processSizeUpdate] at read
  cases int : decodeInt 5 (left ++ more) with
  | error e =>
    simp only [int] at read
    cases read
  | ok r =>
    obtain ⟨n, tail⟩ := r
    simp only [int] at read
    split at read
    · cases read
    · next within =>
      cases read
      obtain ⟨left', split, shorter, here⟩ | waits := decodeInt_split int
      · exact .inl ⟨left', split, shorter, by
          simp only [Decoder.processSizeUpdate, here, if_neg within]⟩
      · exact .inr (by simp only [Decoder.processSizeUpdate, waits])

theorem processSizeUpdate_length {d d' : Decoder} {src rest : Bytes}
    (read : d.processSizeUpdate src = .ok (d', rest)) : rest.length < src.length := by
  have whole : d.processSizeUpdate (src ++ []) = .ok (d', rest) := by rwa [List.append_nil]
  obtain ⟨left, rfl, shorter, -⟩ | waits := processSizeUpdate_split whole
  · rwa [List.append_nil]
  · rw [waits] at read
    cases read

/-- Turns beyond the octets change nothing. -/
theorem decodeLoop_turns {σ : Type} (f : σ → Header → σ × Bool) (n : Nat) :
    ∀ (m : Nat) (d : Decoder) (canResize : Bool) (s : σ) (src : Bytes), src.length ≤ n →
      src.length ≤ m → Decoder.decodeLoop H F f n d canResize s src =
        Decoder.decodeLoop H F f m d canResize s src := by
  induction n with
  | zero =>
    intro m d canResize s src hn hm
    obtain rfl : src = [] := List.length_eq_zero_iff.mp (Nat.le_zero.mp hn)
    cases m <;> rfl
  | succ n ih =>
    intro m d canResize s src hn hm
    cases src with
    | nil => cases m <;> rfl
    | cons ty tail =>
      cases m with
      | zero => exact absurd hm (by simp)
      | succ m =>
        rw [Decoder.decodeLoop, Decoder.decodeLoop]
        cases Representation.load ty with
        | error e => rfl
        | ok r =>
          have later {rest : Bytes} (shorter : rest.length < (ty :: tail).length) :
              rest.length ≤ n ∧ rest.length ≤ m := by
            simp only [List.length_cons] at shorter hn hm
            omega
          cases r with
          | sizeUpdate =>
            cases canResize with
            | false => rfl
            | true =>
              simp only [Bool.not_true, Bool.false_eq_true, if_false]
              split
              · rfl
              · next d' rest read =>
                have shorter := later (processSizeUpdate_length read)
                exact ih m _ _ _ _ shorter.1 shorter.2
          | indexed | literalWithIndexing | literalWithoutIndexing | literalNeverIndexed =>
            simp only
            split
            · rfl
            · next entry table rest read =>
              split
              · rfl
              · exact ih m _ _ _ _ (later (decodeEntry_length read)).1
                  (later (decodeEntry_length read)).2

/-- What ended without harm has taken every field, and none was refused before. -/
theorem decodeLoop_good (n : Nat) :
    ∀ {d d' : Decoder} {canResize : Bool} {l l' : Loading} {src rest : Bytes}
      {res : Except DecoderError Unit},
      Decoder.decodeLoop H F (take full maxSize) n d canResize l src = (res, d', l', rest) →
        l'.Good → l.Good := by
  induction n with
  | zero =>
    intro d d' canResize l l' src rest res run good
    cases run
    exact good
  | succ n ih =>
    intro d d' canResize l l' src rest res run good
    cases src with
    | nil =>
      cases run
      exact good
    | cons ty tail =>
      rw [Decoder.decodeLoop] at run
      split at run
      · cases run
        exact good
      · split at run
        · cases run
          exact good
        · split at run
          · cases run
            exact good
          · exact ih run good
      · split at run
        · cases run
          exact good
        · split at run
          · cases run
            exact (admits_of_take good).1
          · exact (admits_of_take (ih run good)).1

/-- How a beginning was loaded: all of it, or up to a field that waits for more; and a loading that
it follows goes on with what is left of it and more, to an end. -/
def CutAt (H : Http) (F : Huffman) (full : List (Bytes × Bytes) → Bytes → Bool) (maxSize : Nat)
    (more : Bytes) (d₂ : Decoder) (l₂ : Loading)
    (run : Except DecoderError Unit × Decoder × Loading × Bytes) : Prop :=
  ∃ res d₁ l₁ l₁' left' canResize n, run = (res, d₁, l₁', left') ∧
    (res = .ok () ∨ ∃ k, res = .error (.needMore k)) ∧ (more = [] → res = .ok () ∧ left' = []) ∧
    Follows l₁ l₁' ∧ l₁.Counts ∧ (left' ++ more).length ≤ n ∧
    Decoder.decodeLoop H F (take full maxSize) n d₁ canResize l₁ (left' ++ more) =
      (.ok (), d₂, l₂, [])

/-- A beginning of what was loaded without harm is loaded without harm too, up to a field that waits
for the rest; and the rest goes on from there. -/
theorem decodeLoop_split (more : Bytes) (n : Nat) :
    ∀ (left : Bytes) (d d₂ : Decoder) (canResize canResize' : Bool) (l l' l₂ : Loading),
      (left ++ more).length ≤ n → Follows l l' → l.Counts → l₂.Good →
      (canResize = true → canResize' = true) →
      Decoder.decodeLoop H F (take full maxSize) n d canResize l (left ++ more) =
        (.ok (), d₂, l₂, []) →
      CutAt H F full maxSize more d₂ l₂
        (Decoder.decodeLoop H F (take full maxSize) left.length d canResize' l' left) := by
  induction n with
  | zero =>
    intro left d d₂ canResize canResize' l l' l₂ enough follows counts good wider run
    obtain ⟨rfl, rfl⟩ : left = [] ∧ more = [] := by simpa using enough
    exact ⟨.ok (), d, l, l', [], canResize, 0, rfl, .inl rfl, fun _ => ⟨rfl, rfl⟩,
      follows, counts, enough, run⟩
  | succ n ih =>
    intro left d d₂ canResize canResize' l l' l₂ enough follows counts good wider run
    cases left with
    | nil =>
      exact ⟨.ok (), d, l, l', [], canResize, n + 1, rfl, .inl rfl, fun _ => ⟨rfl, rfl⟩, follows,
        counts, enough, run⟩
    | cons ty tail =>
      have waiting (k : NeedMore) (behind : more ≠ []) : CutAt H F full maxSize more d₂ l₂
          (.error (.needMore k), d, l', ty :: tail) :=
        ⟨_, d, l, l', ty :: tail, canResize, n + 1, rfl, .inr ⟨k, rfl⟩, fun none_ => absurd none_ behind,
          follows, counts, enough, run⟩
      have onward {left' : Bytes} (shorter : left'.length < (ty :: tail).length) :
          (left' ++ more).length ≤ n ∧ left'.length ≤ tail.length := by
        simp only [List.length_cons, List.length_append, List.cons_append] at shorter enough ⊢
        omega
      have run' := run
      rw [List.cons_append, Decoder.decodeLoop] at run'
      rw [List.length_cons, Decoder.decodeLoop]
      cases load : Representation.load ty with
      | error e =>
        simp only [load] at run'
        cases run'
      | ok r =>
        simp only [load] at run'
        cases r with
        | sizeUpdate =>
          cases canResize with
          | false => cases run'
          | true =>
            simp only [wider rfl, Bool.not_true, Bool.false_eq_true, if_false] at run' ⊢
            cases whole : d.processSizeUpdate (ty :: (tail ++ more)) with
            | error e =>
              simp only [whole] at run'
              cases run'
            | ok r =>
              obtain ⟨d', rest⟩ := r
              simp only [whole] at run'
              obtain ⟨left', rfl, shorter, here⟩ | waits :=
                @processSizeUpdate_split _ _ (ty :: tail) _ _ whole
              · simp only [here]
                rw [decodeLoop_turns _ _ left'.length _ _ _ _ (onward shorter).2 le_rfl]
                exact ih left' d' d₂ true true l l' l₂ (onward shorter).1 follows counts good id run'
              · simp only [waits]
                refine waiting _ ?_
                rintro rfl
                rw [List.append_nil, waits] at whole
                cases whole
        | indexed | literalWithIndexing | literalWithoutIndexing | literalNeverIndexed =>
          simp only at run' ⊢
          split at run'
          · cases run'
          · next h table rest whole =>
            have taken_good : (take full maxSize l h).1.Good := by
              split at run'
              · cases run'
                exact good
              · exact decodeLoop_good n run' good
            obtain ⟨before, admits⟩ := admits_of_take taken_good
            rw [take_admits before admits] at run'
            simp only [Bool.false_eq_true, if_false] at run'
            obtain ⟨left', rfl, shorter, here⟩ | ⟨k, waits⟩ :=
              @decodeEntry_split _ _ _ _ _ (ty :: tail) _ _ _ whole
            · simp only [here, take_admits (follows.good before) (follows.admits admits),
                Bool.false_eq_true, if_false]
              rw [decodeLoop_turns _ _ left'.length _ _ _ _ (onward shorter).2 le_rfl]
              exact ih left' _ d₂ false false _ _ l₂ (onward shorter).1 (follows.taken h)
                (counts.taken h) good id run'
            · simp only [waits]
              refine waiting k ?_
              rintro rfl
              rw [List.append_nil, waits] at whole
              cases whole

/-- A size update changes the table alone. -/
theorem processSizeUpdate_table {d d' : Decoder} {src rest : Bytes}
    (read : d.processSizeUpdate src = .ok (d', rest)) :
    d'.maxSizeUpdate = d.maxSizeUpdate ∧ d'.lastMaxUpdate = d.lastMaxUpdate := by
  rw [Decoder.processSizeUpdate] at read
  split at read
  · cases read
  · split at read
    · cases read
    · cases read
      exact ⟨rfl, rfl⟩

/-- So does the loop. -/
theorem decodeLoop_table {σ : Type} (f : σ → Header → σ × Bool) (n : Nat) :
    ∀ (d : Decoder) (canResize : Bool) (s : σ) (src : Bytes),
      (Decoder.decodeLoop H F f n d canResize s src).2.1.maxSizeUpdate = d.maxSizeUpdate ∧
      (Decoder.decodeLoop H F f n d canResize s src).2.1.lastMaxUpdate = d.lastMaxUpdate := by
  induction n with
  | zero => exact fun _ _ _ _ => ⟨rfl, rfl⟩
  | succ n ih =>
    intro d canResize s src
    cases src with
    | nil => exact ⟨rfl, rfl⟩
    | cons ty tail =>
      rw [Decoder.decodeLoop]
      split
      · exact ⟨rfl, rfl⟩
      · split
        · exact ⟨rfl, rfl⟩
        · split
          · exact ⟨rfl, rfl⟩
          · next d' rest read =>
            obtain ⟨asked, limit⟩ := processSizeUpdate_table read
            exact ⟨(ih d' canResize s rest).1.trans asked, (ih d' canResize s rest).2.trans limit⟩
      · split
        · exact ⟨rfl, rfl⟩
        · split
          · exact ⟨rfl, rfl⟩
          · exact ih _ _ _ _

/-- A block that is loaded so far, with what is left of its fragments, goes on with more to an
end. -/
def Onward (H : Http) (F : Huffman) (full : List (Bytes × Bytes) → Bytes → Bool) (maxSize : Nat)
    (more : Bytes) (d₂ : Decoder) (l₂ : Loading) (d : Decoder) (b : HeaderBlock) (buf : Bytes) :
    Prop :=
  ∃ l canResize n, Follows l b.start ∧ l.Counts ∧ (buf ++ more).length ≤ n ∧
    Decoder.decodeLoop H F (take full maxSize) n d canResize l (buf ++ more) = (.ok (), d₂, l₂, [])

/-- The loading of one fragment: all of it is loaded, or it waits for more, and goes on. -/
theorem load_onward {fragment more buf : Bytes} {d d₂ : Decoder} {l₂ : Loading} {b : HeaderBlock}
    (good : l₂.Good) (unasked : d.maxSizeUpdate = none)
    (onward : Onward H F full maxSize (fragment ++ more) d₂ l₂ d b buf) :
    ∃ b' d' buf' loaded, b.load H F full maxSize d (buf ++ fragment) = (b', d', buf', loaded) ∧
      (loaded = .done ∨ ∃ k, loaded = .hpack (.needMore k)) ∧ b'.isOverSize = false ∧
      d'.maxSizeUpdate = none ∧ Onward H F full maxSize more d₂ l₂ d' b' buf' ∧
      (more = [] → loaded = .done ∧ buf' = [] ∧ b' = l₂.block ∧ d' = d₂) := by
  obtain ⟨l, canResize, n, follows, counts, enough, run⟩ := onward
  rw [← List.append_assoc] at enough run
  obtain ⟨res, d₁, l₁, l₁', left', canResize₁, n₁, here, ended, last, follows₁, counts₁, enough₁,
    run₁⟩ := decodeLoop_split more n (buf ++ fragment) d d₂ canResize true l b.start l₂ enough follows
      counts good (fun _ => rfl) run
  have good₁ := decodeLoop_good n₁ run₁ good
  have good₁' := follows₁.good good₁
  have settled : (⟨none, d.maxSizeUpdate.getD d.lastMaxUpdate, d.table⟩ : Decoder) = d := by
    obtain ⟨asked, limit, table⟩ := d
    obtain rfl : asked = none := unasked
    rfl
  have table := decodeLoop_table (H := H) (F := F) (take full maxSize) (buf ++ fragment).length d true
    b.start (buf ++ fragment)
  rw [here] at table
  refine ⟨l₁'.block, d₁, left', l₁'.result res, ?_, ?_, good₁'.fits, table.1.trans unasked,
    ⟨l₁, canResize₁, n₁, counts₁.next good₁ follows₁, counts₁, enough₁, run₁⟩, ?_⟩
  · simp only [HeaderBlock.load, Decoder.decode, settled, here]
  · rcases ended with rfl | ⟨k, rfl⟩
    · exact .inl (by simp [Loading.result, good₁'.within, good₁'.formed])
    · exact .inr ⟨k, rfl⟩
  · rintro rfl
    obtain ⟨rfl, rfl⟩ := last rfl
    have stopped : (Decoder.decodeLoop H F (take full maxSize) n₁ d₁ canResize₁ l₁ []) =
        (.ok (), d₁, l₁, []) := by
      cases n₁ <;> rfl
    rw [List.append_nil, stopped] at run₁
    cases run₁
    exact ⟨by simp [Loading.result, good₁'.within, good₁'.formed], rfl, follows₁.block, rfl⟩

end Loop

end Httpunk.H2.Hpack
