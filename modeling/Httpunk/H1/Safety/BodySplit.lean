import Httpunk.H1.Decode
import Httpunk.Support.Incremental

/-!
# H1 — Safety — BodySplit

A body is read in pieces, and its decoder asked for chunks now and then.  What comes of it depends
on the bytes alone.

* `reader`: the decoder one byte at a time.
* `batched`: the decoder of the source implements it.
* `Reading`: a decoder of the facade with what it has given.
-/

namespace Httpunk.H1.Decode

open Httpunk.Incremental

variable (P : TrailerParser)

/-- Where a byte outside the data of a chunk leads; the last one has the trailers decoded. -/
def Chunked.through (c : Chunked) (b : UInt8) :
    Except DecodeError ((Decoder × Option Fields) × Bytes) :=
  match c.onByte b with
  | .error (e, _) => .error e
  | .ok c =>
    match c.state, c.trailersBuf with
    | .ended, some buf =>
      (P.decodeTrailers buf c.trailersCnt).map fun fields =>
        ((.chunked { c with trailersBuf := none }, some fields), [])
    | _, _ => .ok ((.chunked c, none), [])

/-- A chunk some of whose data has been read. -/
def Chunked.skip (c : Chunked) (n : Nat) : Chunked :=
  { c with chunkLen := c.chunkLen - n, state := if 0 < c.chunkLen - n then .body else .bodyCr }

/-- A body decoder, one byte at a time. -/
def reader : Reader (Decoder × Option Fields) UInt8 UInt8 DecodeError (Option Fields) where
  step := fun s b =>
    match s.1 with
    | .length n => .ok ((.length (n - 1), none), [b])
    | .chunked c => if c.state = .body then .ok ((.chunked (c.skip 1), none), [b]) else c.through P b
    | .eof e => .ok ((.eof e, none), [b])
  result := fun s => if s.1.isEof then some s.2 else none
  atEnd := fun s =>
    match s.1 with
    | .length _ => .error incompleteBody
    | .chunked c =>
      if c.state = .body then .error incompleteBody
      else .error (.io .unexpectedEof "unexpected EOF during chunk size line")
    | .eof _ => .ok none

/-- What a frame is to whoever asked for it. -/
def answer : Decoder × SyncMemRead × Poll (Except DecodeError Frame) →
    Pull Decoder UInt8 UInt8 DecodeError (Option Fields)
  | (d, _, .pending) => .wait d
  | (d, r, .ready (.ok (.data chunk))) =>
    if chunk.isEmpty then .finish none r.buf else .piece d chunk r.buf
  | (_, r, .ready (.ok (.trailers fields))) => .finish (some fields) r.buf
  | (_, r, .ready (.error e)) => .fail e r.buf

namespace Decoder

/-- There is data to come of a chunk whose data is read. -/
def Good : Decoder → Prop
  | .chunked c => c.state = .body → 0 < c.chunkLen
  | _ => True

/-- One call of `decode`, with what is known of a decoder that is at its end. -/
def pull (d : Decoder) (buf : Bytes) (eof : Bool) :
    Pull Decoder UInt8 UInt8 DecodeError (Option Fields) :=
  if d.isEof then .finish none buf else answer (d.decode P ⟨buf, eof⟩)

end Decoder

/-! ### Runs of the reader -/

variable {P}

theorem result_of_isEof {d : Decoder} (h : d.isEof = true) (f : Option Fields) :
    (reader P).result (d, f) = some f := by
  simp [reader, h]

theorem result_of_not_isEof {d : Decoder} (h : d.isEof = false) (f : Option Fields) :
    (reader P).result (d, f) = none := by
  simp [reader, h]

theorem scan_length (eof : Bool) (xs rest : Bytes) {n : Nat} (h : xs.length ≤ n) :
    (reader P).scan eof (.length n, none) (xs ++ rest) =
      ((reader P).scan eof (.length (n - xs.length), none) rest).emit xs := by
  induction xs generalizing n with
  | nil => simp
  | cons b xs ih =>
    have hn : 0 < n := Nat.lt_of_lt_of_le (Nat.succ_pos _) h
    have hres : (reader P).result (.length n, none) = none :=
      result_of_not_isEof (by simp [Decoder.isEof]; omega) none
    have hstep : (reader P).step (.length n, none) b = .ok ((.length (n - 1), none), [b]) := rfl
    rw [List.cons_append, Reader.scan_ok _ eof hres hstep, ih (by simp at h; omega)]
    simp [Nat.sub_sub, Nat.add_comm]

theorem scan_eof (eof : Bool) (xs rest : Bytes) :
    (reader P).scan eof (.eof false, none) (xs ++ rest) =
      ((reader P).scan eof (.eof false, none) rest).emit xs := by
  induction xs with
  | nil => simp
  | cons b xs ih =>
    have hres : (reader P).result (.eof false, none) = none := result_of_not_isEof rfl none
    have hstep : (reader P).step (.eof false, none) b = .ok ((.eof false, none), [b]) := rfl
    rw [List.cons_append, Reader.scan_ok _ eof hres hstep, ih]
    simp

theorem skip_skip (c : Chunked) (m n : Nat) : (c.skip m).skip n = c.skip (m + n) := by
  simp [Chunked.skip, Nat.sub_sub]

theorem result_chunked {c : Chunked} (h : c.state ≠ .ended) (f : Option Fields) :
    (reader P).result (.chunked c, f) = none :=
  result_of_not_isEof (by simp [Decoder.isEof, h]) f

theorem scan_body (eof : Bool) (xs rest : Bytes) {c : Chunked} (hc : c.state = .body)
    (hne : xs ≠ []) (h : xs.length ≤ c.chunkLen) :
    (reader P).scan eof (.chunked c, none) (xs ++ rest) =
      ((reader P).scan eof (.chunked (c.skip xs.length), none) rest).emit xs := by
  induction xs generalizing c with
  | nil => exact absurd rfl hne
  | cons b xs ih =>
    have hstep : (reader P).step (.chunked c, none) b = .ok ((.chunked (c.skip 1), none), [b]) := by
      simp [reader, hc]
    rw [List.cons_append,
      Reader.scan_ok _ eof (result_chunked (by simp [hc]) none) hstep]
    by_cases hx : xs = []
    · simp [hx]
    · have hlen : 0 < xs.length := List.length_pos_iff.mpr hx
      have h' : xs.length + 1 ≤ c.chunkLen := h
      have hb : (c.skip 1).state = .body := by
        simp only [Chunked.skip, if_pos (show 0 < c.chunkLen - 1 by omega)]
      rw [ih hb hx (by simp [Chunked.skip]; omega), skip_skip]
      simp [Nat.add_comm]

/-! ### What a byte does -/

/-- The bytes that a chunked decoder takes, by its state. -/
inductive Took (c : Chunked) (b : UInt8) : Chunked → Prop where
  | digit (d : Nat) (hc : c.state = .start ∨ c.state = .size) (hb : hexDigit b = some d)
      (hlt : c.chunkLen * 16 + d < u64Size) :
      Took c b { c with chunkLen := c.chunkLen * 16 + d, state := .size }
  | blank (hc : c.state = .size ∨ c.state = .sizeLws) (hb : b = 9 ∨ b = 32) :
      Took c b { c with state := .sizeLws }
  | semicolon (hc : c.state = .size ∨ c.state = .sizeLws) (hb : b = 59) :
      Took c b { c with state := .extension }
  | sizeCr (hc : c.state = .size ∨ c.state = .sizeLws ∨ c.state = .extension) (hb : b = 13) :
      Took c b { c with state := .sizeLf }
  | extension (hc : c.state = .extension) (hr : b ≠ 13) (hn : b ≠ 10)
      (hlt : c.extensionsCnt + 1 < chunkedExtensionsLimit) :
      Took c b { c with extensionsCnt := c.extensionsCnt + 1 }
  | sizeLf (hc : c.state = .sizeLf) (hb : b = 10) :
      Took c b { c with state := if c.chunkLen = 0 then .endCr else .body }
  | bodyCr (hc : c.state = .bodyCr) (hb : b = 13) : Took c b { c with state := .bodyLf }
  | bodyLf (hc : c.state = .bodyLf) (hb : b = 10) : Took c b { c with state := .start }
  | trailer (buf : Bytes) (hc : c.state = .trailer) (ht : c.trailersBuf = some buf)
      (hlt : buf.length + 1 < c.maxHeadersBytes) :
      Took c b { c with
        trailersBuf := some (buf ++ [b]), state := if b = 13 then .trailerLf else .trailer }
  | trailerLf (buf : Bytes) (hc : c.state = .trailerLf) (hb : b = 10)
      (ht : c.trailersBuf = some buf) (hcnt : c.trailersCnt < c.maxHeadersCnt)
      (hlt : buf.length + 1 < c.maxHeadersBytes) :
      Took c b { c with
        trailersBuf := some (buf ++ [b]), trailersCnt := c.trailersCnt + 1, state := .endCr }
  | firstTrailer (hc : c.state = .endCr) (hb : b ≠ 13) (ht : c.trailersBuf = none) :
      Took c b { c with trailersBuf := some [b], state := .trailer }
  | nextTrailer (buf : Bytes) (hc : c.state = .endCr) (hb : b ≠ 13) (ht : c.trailersBuf = some buf)
      (hlt : buf.length + 1 < c.maxHeadersBytes) :
      Took c b { c with trailersBuf := some (buf ++ [b]), state := .trailer }
  | endCr (hc : c.state = .endCr) (hb : b = 13) (ht : c.trailersBuf = none) :
      Took c b { c with state := .endLf }
  | trailersCr (buf : Bytes) (hc : c.state = .endCr) (hb : b = 13) (ht : c.trailersBuf = some buf)
      (hlt : buf.length + 1 < c.maxHeadersBytes) :
      Took c b { c with trailersBuf := some (buf ++ [b]), state := .endLf }
  | endLf (hc : c.state = .endLf) (hb : b = 10) (ht : c.trailersBuf = none) :
      Took c b { c with state := .ended }
  | trailersLf (buf : Bytes) (hc : c.state = .endLf) (hb : b = 10) (ht : c.trailersBuf = some buf)
      (hlt : buf.length + 1 < c.maxHeadersBytes) :
      Took c b { c with trailersBuf := some (buf ++ [b]), state := .ended }

theorem pushDigit_eq_ok {c c' : Chunked} {d : Nat} :
    c.pushDigit d = .ok c' ↔
      c.chunkLen * 16 + d < u64Size ∧
        c' = { c with chunkLen := c.chunkLen * 16 + d, state := .size } := by
  unfold Chunked.pushDigit
  by_cases h₁ : u64Size ≤ c.chunkLen * 16
  · simp [h₁, Chunked.invalidData]
    omega
  · by_cases h₂ : u64Size ≤ c.chunkLen * 16 + d
    · simp [h₁, h₂, Chunked.invalidData]
    · simp [h₁, h₂, eq_comm, Nat.lt_of_not_le h₂]

theorem putU8_eq_ok {c c' : Chunked} {b : UInt8} {next : ChunkedState} :
    c.putU8 b next = .ok c' ↔
      ∃ buf, c.trailersBuf = some buf ∧ buf.length + 1 < c.maxHeadersBytes ∧
        c' = { c with trailersBuf := some (buf ++ [b]), state := next } := by
  unfold Chunked.putU8
  cases ht : c.trailersBuf with
  | none => simp
  | some buf =>
    have hm (t : Option Bytes) :
        ({ c with trailersBuf := t } : Chunked).maxHeadersBytes = c.maxHeadersBytes := rfl
    by_cases h : c.maxHeadersBytes ≤ buf.length + 1
    · simp [hm, h, Chunked.invalidData]
    · simp [hm, h, eq_comm, Nat.lt_of_not_le h]

/-- What a byte that is taken has done. -/
theorem took {c c' : Chunked} {b : UInt8} (hb : c.state ≠ .body) (he : c.state ≠ .ended)
    (h : c.onByte b = .ok c') : Took c b c' := by
  unfold Chunked.onByte at h
  cases hc : c.state with
  | start =>
    simp only [hc, Chunked.readStart] at h
    cases hd : hexDigit b with
    | none => simp [hd, Chunked.invalidInput] at h
    | some d =>
      simp only [hd, pushDigit_eq_ok] at h
      obtain ⟨hlt, rfl⟩ := h
      exact .digit d (.inl hc) hd hlt
  | size =>
    simp only [hc, Chunked.readSize] at h
    cases hd : hexDigit b with
    | none =>
      simp only [hd] at h
      split_ifs at h with h₁ h₂ h₃
      · cases h
        exact .blank (.inl hc) h₁
      · cases h
        exact .semicolon (.inl hc) h₂
      · cases h
        exact .sizeCr (.inl hc) h₃
      · cases h
    | some d =>
      simp only [hd, pushDigit_eq_ok] at h
      obtain ⟨hlt, rfl⟩ := h
      exact .digit d (.inr hc) hd hlt
  | sizeLws =>
    simp only [hc, Chunked.readSizeLws] at h
    split_ifs at h with h₁ h₂ h₃
    · cases h
      exact .blank (.inr hc) h₁
    · cases h
      exact .semicolon (.inr hc) h₂
    · cases h
      exact .sizeCr (.inr (.inl hc)) h₃
    · cases h
  | extension =>
    simp only [hc, Chunked.readExtension] at h
    split_ifs at h with h₁ h₂ h₃
    · cases h
      exact .sizeCr (.inr (.inr hc)) h₁
    · cases h
    · cases h
    · cases h
      convert Took.extension hc h₁ h₂ (Nat.lt_of_not_le h₃) using 1
      rw [hc]
  | sizeLf =>
    simp only [hc, Chunked.readSizeLf] at h
    split_ifs at h with h₁ h₂
    · cases h
      simpa [h₂] using Took.sizeLf hc h₁
    · cases h
      simpa [h₂] using Took.sizeLf hc h₁
    · cases h
  | body => exact absurd hc hb
  | bodyCr =>
    simp only [hc, Chunked.readBodyCr] at h
    split_ifs at h with h₁
    · cases h
      exact .bodyCr hc h₁
    · cases h
  | bodyLf =>
    simp only [hc, Chunked.readBodyLf] at h
    split_ifs at h with h₁
    · cases h
      exact .bodyLf hc h₁
    · cases h
  | trailer =>
    simp only [hc, Chunked.readTrailer, putU8_eq_ok] at h
    obtain ⟨buf, ht, hlt, rfl⟩ := h
    exact .trailer buf hc ht hlt
  | trailerLf =>
    simp only [hc, Chunked.readTrailerLf] at h
    split_ifs at h with h₁ h₂
    · cases h
    · obtain ⟨buf, ht, hlt, rfl⟩ := putU8_eq_ok.mp h
      exact .trailerLf buf hc h₁ ht (Nat.lt_of_not_le h₂) hlt
    · cases h
  | endCr =>
    simp only [hc, Chunked.readEndCr] at h
    split_ifs at h with h₁
    · cases ht : c.trailersBuf with
      | none =>
        simp only [ht] at h
        cases h
        simpa [ht] using Took.endCr hc h₁ ht
      | some buf =>
        simp only [ht] at h
        obtain ⟨buf', ht', hlt, rfl⟩ := putU8_eq_ok.mp h
        exact .trailersCr buf' hc h₁ ht' hlt
    · cases ht : c.trailersBuf with
      | none =>
        simp only [ht] at h
        cases h
        exact .firstTrailer hc h₁ ht
      | some buf =>
        simp only [ht] at h
        obtain ⟨buf', ht', hlt, rfl⟩ := putU8_eq_ok.mp h
        exact .nextTrailer buf' hc h₁ ht' hlt
  | endLf =>
    simp only [hc, Chunked.readEndLf] at h
    split_ifs at h with h₁
    · cases ht : c.trailersBuf with
      | none =>
        simp only [ht] at h
        cases h
        simpa [ht] using Took.endLf hc h₁ ht
      | some buf =>
        simp only [ht] at h
        obtain ⟨buf', ht', hlt, rfl⟩ := putU8_eq_ok.mp h
        exact .trailersLf buf' hc h₁ ht' hlt
    · cases h
  | ended => exact absurd hc he

/-! ### The decoder implements it -/

/-- Data is to come of a chunk after the byte that leads to it. -/
theorem Took.good {c c' : Chunked} {b : UInt8} (h : Took c b c') : Decoder.Good (.chunked c') := by
  intro hb
  cases h with
  | sizeLf hc hlf =>
    by_cases h0 : c.chunkLen = 0
    · simp [h0] at hb
    · exact Nat.pos_of_ne_zero h0
  | extension hc => simp [hc] at hb
  | trailer buf hc ht hlt =>
    by_cases h13 : b = 13
    · simp [h13] at hb
    · simp [h13] at hb
  | _ => simp at hb

theorem skip_good (c : Chunked) (n : Nat) : Decoder.Good (.chunked (c.skip n)) := by
  intro h
  by_cases hn : 0 < c.chunkLen - n
  · exact hn
  · simp [Chunked.skip, hn] at h

theorem readMem_nil (n : Nat) (eof : Bool) :
    (SyncMemRead.mk [] eof).readMem n = (⟨[], eof⟩, if eof then .ready [] else .pending) := by
  cases eof <;> rfl

theorem readMem_cons (n : Nat) (b : UInt8) (bs : Bytes) (eof : Bool) :
    (SyncMemRead.mk (b :: bs) eof).readMem n =
      (⟨(b :: bs).drop n, eof⟩, .ready ((b :: bs).take n)) := rfl

/-- What an answer says, of a decoder that is not at its end. -/
abbrev Answers (P : TrailerParser) (d : Decoder) (buf : Bytes) (eof : Bool)
    (p : Pull Decoder UInt8 UInt8 DecodeError (Option Fields)) : Prop :=
  p.Says (reader P) Decoder.Good (fun d => (d, none)) buf eof ((reader P).scan eof (d, none) buf)

theorem scan_nil {d : Decoder} (h : d.isEof = false) (eof : Bool) :
    (reader P).scan eof (d, none) [] =
      if eof then (reader P).close ⟨[], [], .reading (d, none)⟩
      else ⟨[], [], .reading (d, none)⟩ := by
  simp only [Reader.scan, Reader.run_nil (result_of_not_isEof h none)]

theorem pull_length {n : Nat} (hn : n ≠ 0) (buf : Bytes) (eof : Bool) :
    Answers P (.length n) buf eof (answer ((Decoder.length n).decode P ⟨buf, eof⟩)) := by
  have hlive : (Decoder.length n).isEof = false := by simp [Decoder.isEof, hn]
  cases buf with
  | nil =>
    simp only [Decoder.decode, if_neg hn, readMem_nil]
    cases eof with
    | false => exact ⟨trivial, rfl, scan_nil hlive false, result_of_not_isEof hlive none⟩
    | true =>
      simp only [if_true, List.length_nil, Nat.not_lt_zero, if_false, answer]
      exact scan_nil hlive true
  | cons b bs =>
    have hlen : ((b :: bs).take n).length ≤ n := List.length_take_le n _
    have hpos : 0 < ((b :: bs).take n).length := by
      rw [List.length_take]
      simp
      omega
    have hne : (b :: bs).take n ≠ [] := List.length_pos_iff.mp hpos
    simp only [Decoder.decode, if_neg hn, readMem_cons, if_neg (Nat.not_lt.mpr hlen),
      if_neg hpos.ne', answer, List.isEmpty_iff, if_neg hne]
    refine ⟨trivial, ?_, hne, ?_⟩
    · rw [List.length_drop]
      simp
      omega
    · rw [← scan_length eof _ _ hlen, List.take_append_drop]

theorem pull_eof (buf : Bytes) (eof : Bool) :
    Answers P (.eof false) buf eof (answer ((Decoder.eof false).decode P ⟨buf, eof⟩)) := by
  cases buf with
  | nil =>
    simp only [Decoder.decode, readMem_nil]
    cases eof with
    | false => exact ⟨trivial, rfl, scan_nil rfl false, result_of_not_isEof rfl none⟩
    | true => exact scan_nil rfl true
  | cons b bs =>
    have hne : (b :: bs).take 8192 ≠ [] := by simp
    simp only [Decoder.decode, Bool.false_eq_true, if_false, readMem_cons, answer,
      List.isEmpty_iff, if_neg hne]
    refine ⟨?_, ?_, hne, ?_⟩
    · trivial
    · rw [List.length_drop]
      simp
    · rw [show List.isEmpty ((b :: bs).take 8192) = false from rfl, ← scan_eof,
        List.take_append_drop]

/-- What a frame of the loop is to whoever asked. -/
abbrev loopAnswer (P : TrailerParser) (c : Chunked) (r : SyncMemRead) (k : Nat) :
    Pull Decoder UInt8 UInt8 DecodeError (Option Fields) :=
  answer (.chunked (c.decodeLoop P r k).1, (c.decodeLoop P r k).2)

/-- A turn that reads the data of a chunk. -/
theorem loop_body {c : Chunked} (hc : c.state = .body) (hg : 0 < c.chunkLen) (k : Nat)
    (buf : Bytes) (eof : Bool) :
    Answers P (.chunked c) buf eof (loopAnswer P c ⟨buf, eof⟩ (k + 1)) := by
  have hlive : (Decoder.chunked c).isEof = false := by simp [Decoder.isEof, hc]
  cases buf with
  | nil =>
    cases eof with
    | false =>
      simp only [loopAnswer, Chunked.decodeLoop, Chunked.step, hc, Chunked.readBody, readMem_nil]
      exact ⟨fun _ => hg, rfl, scan_nil hlive false, result_of_not_isEof hlive none⟩
    | true =>
      simp only [loopAnswer, Chunked.decodeLoop, Chunked.step, hc, Chunked.readBody, readMem_nil,
        if_true, List.isEmpty_nil, Except.map]
      refine (scan_nil hlive true).trans ?_
      simp [Reader.close, reader, hc]
  | cons b bs =>
    have hlen : ((b :: bs).take c.chunkLen).length ≤ c.chunkLen := List.length_take_le _ _
    have hpos : 0 < ((b :: bs).take c.chunkLen).length := by
      rw [List.length_take]
      simp
      omega
    have hne : (b :: bs).take c.chunkLen ≠ [] := List.length_pos_iff.mp hpos
    have hstate : (c.skip ((b :: bs).take c.chunkLen).length).state ≠ .ended := by
      simp only [Chunked.skip]
      split_ifs <;> simp
    have hstep : c.step ⟨b :: bs, eof⟩ =
        (⟨(b :: bs).drop c.chunkLen, eof⟩, .ready (.ok
          (c.skip ((b :: bs).take c.chunkLen).length, some ((b :: bs).take c.chunkLen)))) := by
      simp only [Chunked.step, hc, Chunked.readBody, readMem_cons, List.isEmpty_iff, if_neg hne]
      rfl
    simp only [loopAnswer, Chunked.decodeLoop, hstep, if_neg hstate, answer, List.isEmpty_iff,
      if_neg hne]
    refine ⟨skip_good c _, ?_, hne, ?_⟩
    · rw [List.length_drop]
      simp
      omega
    · rw [← scan_body eof _ _ hc hne hlen, List.take_append_drop]

/-- A byte outside the data of a chunk that leads on. -/
theorem scan_through {c c' : Chunked} {b : UInt8} (hb : c.state ≠ .body) (he : c.state ≠ .ended)
    (h : c.onByte b = .ok c') (he' : c'.state ≠ .ended) (bs : Bytes) (eof : Bool) :
    (reader P).scan eof (.chunked c, none) (b :: bs) =
      (reader P).scan eof (.chunked c', none) bs := by
  have hstep : (reader P).step (.chunked c, none) b = .ok ((.chunked c', none), []) := by
    simp only [reader, if_neg hb, Chunked.through, h]
    cases hc : c'.state with
    | ended => exact absurd hc he'
    | _ => rfl
  rw [Reader.scan_ok _ eof (result_chunked he none) hstep, Run.emit_nil]

/-- The byte that ends a body. -/
theorem scan_last {c c' : Chunked} {b : UInt8} (hb : c.state ≠ .body) (he : c.state ≠ .ended)
    (h : c.onByte b = .ok c') (he' : c'.state = .ended) (bs : Bytes) (eof : Bool) :
    (reader P).scan eof (.chunked c, none) (b :: bs) =
      match c'.trailersBuf with
      | none => ⟨[], bs, .halted none⟩
      | some buf =>
        match P.decodeTrailers buf c'.trailersCnt with
        | .ok fields => ⟨[], bs, .halted (some fields)⟩
        | .error e => ⟨[], bs, .failed e⟩ := by
  have hres := result_chunked (P := P) he none
  cases ht : c'.trailersBuf with
  | none =>
    have hstep : (reader P).step (.chunked c, none) b = .ok ((.chunked c', none), []) := by
      simp only [reader, if_neg hb, Chunked.through, h, he', ht]
    rw [Reader.scan_ok _ eof hres hstep, Run.emit_nil]
    exact Reader.scan_halted _ eof (result_of_isEof (by simp [Decoder.isEof, he']) none) bs
  | some buf =>
    cases hd : P.decodeTrailers buf c'.trailersCnt with
    | error e =>
      have hstep : (reader P).step (.chunked c, none) b = .error e := by
        simp only [reader, if_neg hb, Chunked.through, h, he', ht, hd, Except.map]
      exact (Reader.scan_error _ eof hres hstep bs).trans (by simp only [hd])
    | ok fields =>
      have hstep : (reader P).step (.chunked c, none) b =
          .ok ((.chunked { c' with trailersBuf := none }, some fields), []) := by
        simp only [reader, if_neg hb, Chunked.through, h, he', ht, hd, Except.map]
      have hend : (Decoder.chunked { c' with trailersBuf := none }).isEof = true := by
        simp [Decoder.isEof, he']
      rw [Reader.scan_ok _ eof hres hstep, Run.emit_nil]
      exact (Reader.scan_halted _ eof (result_of_isEof hend (some fields)) bs).trans
        (by simp only [hd])

theorem scan_onByte_error {c c' : Chunked} {b : UInt8} {e : DecodeError} (hb : c.state ≠ .body)
    (he : c.state ≠ .ended) (h : c.onByte b = .error (e, c')) (bs : Bytes) (eof : Bool) :
    (reader P).scan eof (.chunked c, none) (b :: bs) = ⟨[], bs, .failed e⟩ := by
  have hstep : (reader P).step (.chunked c, none) b = .error e := by
    simp only [reader, if_neg hb, Chunked.through, h]
  exact Reader.scan_error _ eof (result_chunked he none) hstep bs

/-- Outside the data of a chunk a turn reads a byte. -/
theorem step_readByte {c : Chunked} (hb : c.state ≠ .body) (he : c.state ≠ .ended)
    (r : SyncMemRead) :
    c.step r = match c.readByte r with
      | (r, .pending) => (r, .pending)
      | (r, .ready read) => (r, .ready (read.map fun c => (c, none))) := by
  unfold Chunked.step
  cases hc : c.state with
  | body => exact absurd hc hb
  | ended => exact absurd hc he
  | _ => rfl

/-- The turns of the loop, by induction on their number: each takes a byte. -/
theorem answers_loop {c : Chunked} (hg : Decoder.Good (.chunked c)) (he : c.state ≠ .ended)
    {k : Nat} {buf : Bytes} (hk : buf.length < k) (eof : Bool) :
    Answers P (.chunked c) buf eof (loopAnswer P c ⟨buf, eof⟩ k) := by
  induction k generalizing c buf with
  | zero => exact absurd hk (Nat.not_lt_zero _)
  | succ k ih =>
    by_cases hb : c.state = .body
    · exact loop_body hb (hg hb) k buf eof
    · have hlive : (Decoder.chunked c).isEof = false := by simp [Decoder.isEof, he]
      cases buf with
      | nil =>
        cases eof with
        | false =>
          simp only [loopAnswer, Chunked.decodeLoop, step_readByte hb he, Chunked.readByte,
            readMem_nil]
          exact ⟨hg, rfl, scan_nil hlive false, result_of_not_isEof hlive none⟩
        | true =>
          simp only [loopAnswer, Chunked.decodeLoop, step_readByte hb he, Chunked.readByte,
            readMem_nil, if_true, Except.map]
          refine (scan_nil hlive true).trans ?_
          simp [Reader.close, reader, hb]
      | cons b bs =>
        have hstep : c.step ⟨b :: bs, eof⟩ =
            (⟨bs, eof⟩, .ready ((c.onByte b).map fun c => (c, none))) := by
          rw [step_readByte hb he]
          rfl
        cases hr : c.onByte b with
        | error p =>
          simp only [loopAnswer, Chunked.decodeLoop, hstep, hr, Except.map, answer]
          exact scan_onByte_error hb he hr bs eof
        | ok c' =>
          by_cases he' : c'.state = .ended
          · have hs := scan_last (P := P) hb he hr he' bs eof
            cases ht : c'.trailersBuf with
            | none =>
              simp only [loopAnswer, Chunked.decodeLoop, hstep, hr, Except.map, if_pos he', ht,
                answer, List.isEmpty_nil, if_true]
              exact hs.trans (by simp only [ht])
            | some trailers =>
              cases hd : P.decodeTrailers trailers c'.trailersCnt with
              | ok fields =>
                simp only [loopAnswer, Chunked.decodeLoop, hstep, hr, Except.map, if_pos he', ht,
                  hd, answer]
                exact hs.trans (by simp only [ht, hd])
              | error e =>
                simp only [loopAnswer, Chunked.decodeLoop, hstep, hr, Except.map, if_pos he', ht,
                  hd, answer]
                exact hs.trans (by simp only [ht, hd])
          · have hloop : loopAnswer P c ⟨b :: bs, eof⟩ (k + 1) = loopAnswer P c' ⟨bs, eof⟩ k := by
              simp only [loopAnswer, Chunked.decodeLoop, hstep, hr, Except.map, if_neg he']
            have hi := ih (took hb he hr).good he' (Nat.lt_of_succ_lt_succ hk)
            rw [hloop]
            unfold Answers
            rw [scan_through hb he hr he' bs eof]
            exact hi.longer (by simp)

theorem pull_says (d : Decoder) (buf : Bytes) (eof : Bool) (hg : d.Good) :
    Answers P d buf eof (d.pull P buf eof) := by
  unfold Decoder.pull
  cases hlive : d.isEof with
  | true =>
    simp only [if_true]
    exact Reader.scan_halted _ eof (result_of_isEof hlive none) buf
  | false =>
    simp only [Bool.false_eq_true, if_false]
    cases d with
    | length n => exact pull_length (by simpa [Decoder.isEof] using hlive) buf eof
    | chunked c =>
      exact answers_loop hg (by simpa [Decoder.isEof] using hlive) (Nat.lt_succ_self _) eof
    | eof e =>
      cases e with
      | false => exact pull_eof buf eof
      | true => cases hlive

/-- The decoder of the source, as an implementation of its reader. -/
def batched (P : TrailerParser) : Batched (reader P) Decoder where
  good := Decoder.Good
  abs := fun d => (d, none)
  pull := Decoder.pull P
  pull_says := pull_says

/-! ### The buffer after a call -/

/-- The loop leaves the end of the transport as it was, and an empty buffer where it waits. -/
theorem decodeLoop_read (c : Chunked) {k : Nat} {buf : Bytes} (hk : buf.length < k) (eof : Bool) :
    (c.decodeLoop P ⟨buf, eof⟩ k).2.1.eof = eof ∧
      ((c.decodeLoop P ⟨buf, eof⟩ k).2.2 = .pending →
        (c.decodeLoop P ⟨buf, eof⟩ k).2.1.buf = []) := by
  induction k generalizing c buf with
  | zero => exact absurd hk (Nat.not_lt_zero _)
  | succ k ih =>
    have hturn (r : SyncMemRead) (read : Except (DecodeError × Chunked) (Chunked × Option Bytes))
        (hs : c.step ⟨buf, eof⟩ = (r, .ready read)) (hr : r.eof = eof)
        (hlt : ∀ p, read = .ok p → p.1.state ≠ .ended → p.2 = none → r.buf.length < k) :
        (c.decodeLoop P ⟨buf, eof⟩ (k + 1)).2.1.eof = eof ∧
          ((c.decodeLoop P ⟨buf, eof⟩ (k + 1)).2.2 = .pending →
            (c.decodeLoop P ⟨buf, eof⟩ (k + 1)).2.1.buf = []) := by
      simp only [Chunked.decodeLoop, hs]
      cases read with
      | error p => exact ⟨hr, nofun⟩
      | ok p =>
        obtain ⟨c', out⟩ := p
        by_cases he : c'.state = .ended
        · simp only [if_pos he]
          cases c'.trailersBuf with
          | none => exact ⟨hr, nofun⟩
          | some t => exact ⟨hr, nofun⟩
        · simp only [if_neg he]
          cases out with
          | some out => exact ⟨hr, nofun⟩
          | none =>
            obtain ⟨rbuf, reof⟩ := r
            cases hr
            exact ih c' (hlt _ rfl he rfl)
    by_cases he : c.state = .ended
    · exact hturn ⟨buf, eof⟩ (.ok (c, none)) (by simp only [Chunked.step, he]) rfl
        fun p hp hne => by cases hp; exact absurd he hne
    by_cases hb : c.state = .body
    · cases buf with
      | nil =>
        cases eof with
        | false =>
          simp only [Chunked.decodeLoop, Chunked.step, hb, Chunked.readBody, readMem_nil]
          exact ⟨rfl, fun _ => rfl⟩
        | true =>
          refine hturn ⟨[], true⟩ (.error (incompleteBody, { c with chunkLen := 0 })) ?_ rfl nofun
          simp only [Chunked.step, hb, Chunked.readBody, readMem_nil]
          rfl
      | cons b bs =>
        refine hturn ⟨(b :: bs).drop c.chunkLen, eof⟩
          (if ((b :: bs).take c.chunkLen).isEmpty
            then .error (incompleteBody, { c with chunkLen := 0 })
            else .ok (c.skip ((b :: bs).take c.chunkLen).length, some ((b :: bs).take c.chunkLen)))
          ?_ rfl ?_
        · simp only [Chunked.step, hb, Chunked.readBody, readMem_cons]
          by_cases hn : ((b :: bs).take c.chunkLen).isEmpty = true
          · simp only [if_pos hn, Except.map]
          · simp only [if_neg hn, Except.map]
            rfl
        · intro p hp _ hnone
          split_ifs at hp
          cases hp
          cases hnone
    · cases buf with
      | nil =>
        cases eof with
        | false =>
          simp only [Chunked.decodeLoop, step_readByte hb he, Chunked.readByte, readMem_nil]
          exact ⟨rfl, fun _ => rfl⟩
        | true =>
          refine hturn ⟨[], true⟩ (.error
            (.io .unexpectedEof "unexpected EOF during chunk size line", c)) ?_ rfl nofun
          simp only [step_readByte hb he, Chunked.readByte, readMem_nil]
          rfl
      | cons b bs =>
        refine hturn ⟨bs, eof⟩ ((c.onByte b).map fun c => (c, none)) ?_ rfl ?_
        · rw [step_readByte hb he]
          rfl
        · exact fun _ _ _ _ => Nat.lt_of_succ_lt_succ hk

theorem decode_read (d : Decoder) (r : SyncMemRead) :
    (d.decode P r).2.1.eof = r.eof ∧
      ((d.decode P r).2.2 = .pending → (d.decode P r).2.1.buf = []) := by
  obtain ⟨buf, eof⟩ := r
  cases d with
  | length n =>
    by_cases hn : n = 0
    · simp [Decoder.decode, hn]
    · cases buf with
      | nil => cases eof <;> simp [Decoder.decode, hn, readMem_nil]
      | cons b bs =>
        simp only [Decoder.decode, if_neg hn, readMem_cons]
        split_ifs <;> exact ⟨rfl, nofun⟩
  | chunked c => exact decodeLoop_read c (Nat.lt_succ_self _) eof
  | eof e =>
    cases e with
    | true => simp [Decoder.decode]
    | false =>
      cases buf with
      | nil => cases eof <;> simp [Decoder.decode, readMem_nil]
      | cons b bs => exact ⟨rfl, nofun⟩

/-! ### The decoder of a connection -/

variable (P) in
/-- The vendored decoder as the connection has it, with the parser of its heads. -/
def wire (parseRequest : Bytes → Parsed) (maxHeaders maxHeaderSize : Option Nat) : Wire where
  Decoder := Decoder
  parseRequest := parseRequest
  newDecoder := fun kind length => .new kind length maxHeaders maxHeaderSize
  isEof := Decoder.isEof
  decode := fun d buf eof =>
    match d.decode P ⟨buf, eof⟩ with
    | (d, r, .pending) => (d, r.buf, .pending)
    | (d, r, .ready (.ok (.data chunk))) => (d, r.buf, .data chunk)
    | (d, r, .ready (.ok (.trailers _))) => (d, r.buf, .trailers)
    | (d, r, .ready (.error _)) => (d, r.buf, .failed)

section Wire

variable (P) (parseRequest : Bytes → Parsed) (maxHeaders maxHeaderSize : Option Nat)

/-- The facade as the connection sees it: without the trailers. -/
def BodyDecoder.forget (d : BodyDecoder) :
    H1.BodyDecoder (wire P parseRequest maxHeaders maxHeaderSize) where
  decoder := d.decoder
  buf := d.read.buf
  eof := d.read.eof
  done := d.done

theorem forget_new (kind : BodyKind) (length : Nat) (body : Bytes) :
    ((BodyDecoder.new kind length maxHeaders maxHeaderSize).feed body).forget P parseRequest
        maxHeaders maxHeaderSize =
      H1.BodyDecoder.new (wire P parseRequest maxHeaders maxHeaderSize) kind length body := by
  simp [BodyDecoder.forget, BodyDecoder.new, BodyDecoder.feed, H1.BodyDecoder.new, wire]

/-- A step of the facade is the step that the connection sees. -/
theorem forget_decode (d : BodyDecoder) :
    (d.forget P parseRequest maxHeaders maxHeaderSize).decode =
      ((d.decode P).1.forget P parseRequest maxHeaders maxHeaderSize,
        (d.decode P).2.mapError fun _ => ()) := by
  obtain ⟨decoder, ⟨buf, eof⟩, done, trailers⟩ := d
  cases done with
  | true => rfl
  | false =>
    have hread := decode_read (P := P) decoder ⟨buf, eof⟩
    rcases hd : decoder.decode P ⟨buf, eof⟩ with ⟨decoder', ⟨buf', eof'⟩, poll⟩
    rw [hd] at hread
    obtain ⟨rfl, -⟩ := hread
    simp only [BodyDecoder.forget, H1.BodyDecoder.decode, BodyDecoder.decode, wire, hd,
      Bool.false_eq_true, if_false]
    rcases poll with _ | (e | (chunk | fields))
    · rfl
    · rfl
    · by_cases hn : chunk = []
      · simp only [hn, if_true, List.isEmpty_nil]
        rfl
      · have hn' : chunk.isEmpty = false := by simpa using hn
        simp only [hn, if_false, hn', Bool.false_eq_true]
        rfl
    · rfl

end Wire

/-! ### The facade -/

/-- A decoder of the facade with the chunks it has given and the error it has raised, after which
it is not asked again. -/
structure Reading where
  body : BodyDecoder
  out : Bytes := []
  raised : Option DecodeError := none
  deriving DecidableEq

/-- What a reader of a body can tell: its bytes, whether it is complete, an error, the trailers, and
the bytes behind it. -/
structure Outcome where
  out : Bytes
  complete : Bool
  raised : Option DecodeError
  trailers : Option Fields
  leftover : Bytes
  deriving DecidableEq

/-- What a run shows at its end. -/
def Outcome.ofRun
    (r : Run (Decoder × Option Fields) UInt8 UInt8 DecodeError (Option Fields)) : Outcome :=
  match r.status with
  | .reading _ => ⟨r.out, false, none, none, r.rest⟩
  | .halted trailers => ⟨r.out, true, none, trailers, r.rest⟩
  | .failed e => ⟨r.out, false, some e, none, r.rest⟩

@[simp] theorem Outcome.ofRun_out
    (r : Run (Decoder × Option Fields) UInt8 UInt8 DecodeError (Option Fields)) :
    (Outcome.ofRun r).out = r.out := by
  unfold Outcome.ofRun
  cases r.status <;> rfl

namespace Reading

variable (P)

def start (kind : BodyKind) (length : Nat) (maxHeaders maxHeaderSize : Option Nat) : Reading where
  body := .new kind length maxHeaders maxHeaderSize

def call (s : Reading) : Batched.Call UInt8 → Reading
  | .feed data => { s with body := s.body.feed data }
  | .pull =>
    if s.raised.isSome then s
    else
      match s.body.decode P with
      | (body, .ok none) => { s with body := body }
      | (body, .ok (some chunk)) => { s with body := body, out := s.out ++ chunk }
      | (body, .error e) => { s with body := body, raised := some e }

def calls (s : Reading) : List (Batched.Call UInt8) → Reading
  | [] => s
  | k :: ks => calls (s.call P k) ks

def pulls (s : Reading) : Nat → Reading
  | 0 => s
  | n + 1 => pulls (s.call P .pull) n

/-- Asked until there is nothing to be had, with the end of the transport before that or not. -/
def drain (s : Reading) (eof : Bool) : Reading :=
  let s := if eof then { s with body := s.body.markEof } else s
  s.pulls P (s.body.read.buf.length + 1)

def outcome (s : Reading) : Outcome where
  out := s.out
  complete := s.body.done
  raised := s.raised
  trailers := s.body.trailers
  leftover := s.body.read.buf

/-- The same as a client of the implementation. -/
structure Shows (s : Reading) (c : Batched.Client Decoder UInt8 UInt8 DecodeError (Option Fields)) :
    Prop where
  read : s.body.read = ⟨c.buf, c.eof⟩
  out : s.out = c.out
  state : match c.state with
    | .reading d =>
      s.body.decoder = d ∧ s.body.done = d.isEof ∧ s.body.trailers = none ∧ s.raised = none
    | .halted v => s.body.done = true ∧ s.body.trailers = v ∧ s.raised = none
    | .failed e => s.body.done = false ∧ s.body.trailers = none ∧ s.raised = some e

variable {P} {s : Reading} {c : Batched.Client Decoder UInt8 UInt8 DecodeError (Option Fields)}

theorem Shows.feed (h : s.Shows c) (data : Bytes) :
    (s.call P (.feed data)).Shows (c.call (batched P) (.feed data)) where
  read := by simp [call, BodyDecoder.feed, h.read, Batched.Client.call]
  out := h.out
  state := h.state

theorem call_done (hd : s.body.done = true) : s.call P .pull = s := by
  obtain ⟨⟨decoder, read, done, trailers⟩, out, raised⟩ := s
  cases hd
  simp [call, BodyDecoder.decode]

theorem call_raised (hr : s.raised.isSome) : s.call P .pull = s := by simp [call, hr]

theorem Shows.pull (hg : c.Good (batched P)) (h : s.Shows c) :
    (s.call P .pull).Shows (c.call (batched P) .pull) := by
  obtain ⟨hread, hout, hst⟩ := h
  cases hc : c.state with
  | halted v =>
    simp only [hc] at hst
    have hclient : c.call (batched P) .pull = c := by simp only [Batched.Client.call, hc]
    rw [call_done hst.1, hclient]
    exact ⟨hread, hout, by simpa only [hc] using hst⟩
  | failed e =>
    simp only [hc] at hst
    have hclient : c.call (batched P) .pull = c := by simp only [Batched.Client.call, hc]
    rw [call_raised (by simp [hst.2.2]), hclient]
    exact ⟨hread, hout, by simpa only [hc] using hst⟩
  | reading d =>
    simp only [hc] at hst
    obtain ⟨hd, hdone, ht, hr⟩ := hst
    have hpull : (batched P).pull d c.buf c.eof = d.pull P c.buf c.eof := rfl
    rw [Batched.Client.call_pull hc, hpull]
    cases hlive : d.isEof with
    | true =>
      rw [call_done (hdone.trans hlive)]
      simp only [Decoder.pull, hlive, if_true, Batched.Client.take]
      exact ⟨hread, hout, hdone.trans hlive, ht, hr⟩
    | false =>
      have hdec := decode_read (P := P) d ⟨c.buf, c.eof⟩
      have htells := pull_says (P := P) d c.buf c.eof (hg d hc)
      simp only [Decoder.pull, hlive, Bool.false_eq_true, if_false] at htells ⊢
      simp only [call, hr, Option.isSome_none, Bool.false_eq_true, if_false, BodyDecoder.decode,
        hdone, hlive, hd, hread]
      rcases hres : d.decode P ⟨c.buf, c.eof⟩ with ⟨d', ⟨buf', eof'⟩, poll⟩
      simp only [hres] at hdec htells ⊢
      obtain ⟨rfl, hbuf⟩ := hdec
      rcases poll with _ | (e | (chunk | fields))
      · cases hbuf rfl
        have hn : d'.isEof = false := by
          by_contra hne
          have hend := result_of_isEof (P := P) (Bool.not_eq_false _ ▸ hne) none
          exact absurd (htells.2.2.2.symm.trans hend) (by simp)
        exact ⟨rfl, hout, rfl, hn.symm, ht, rfl⟩
      · exact ⟨rfl, hout, rfl, ht, rfl⟩
      · simp only [answer]
        by_cases hn : chunk.isEmpty = true
        · simp only [if_pos hn, Batched.Client.take]
          exact ⟨rfl, hout, rfl, ht, rfl⟩
        · simp only [if_neg hn, Batched.Client.take]
          exact ⟨rfl, by rw [hout], rfl, rfl, ht, rfl⟩
      · exact ⟨rfl, hout, rfl, rfl, rfl⟩

theorem Shows.calls (hg : c.Good (batched P)) (he : c.eof = false) (h : s.Shows c)
    (ks : List (Batched.Call UInt8)) :
    (s.calls P ks).Shows (c.calls (batched P) ks) := by
  induction ks generalizing s c with
  | nil => exact h
  | cons k ks ih =>
    cases k with
    | feed data => exact ih (fun d hd => hg d hd) he (h.feed data)
    | pull =>
      obtain ⟨hg', he', -⟩ := Batched.Client.pull_view hg
      exact ih hg' (he'.trans he) (h.pull hg)

theorem Shows.pulls (hg : c.Good (batched P)) (h : s.Shows c) (n : Nat) :
    (s.pulls P n).Shows (c.pulls (batched P) n) := by
  induction n generalizing s c with
  | zero => exact h
  | succ n ih => exact ih (Batched.Client.pull_view hg).1 (h.pull hg)

/-- A settled client shows its whole run. -/
theorem Shows.outcome (h : s.Shows c) (hs : c.Settled (batched P)) :
    s.outcome = .ofRun (c.view (batched P)) := by
  obtain ⟨hread, hout, hst⟩ := h
  obtain ⟨ho, hr, -, -⟩ := hs.out
  cases hc : c.state with
  | halted v =>
    simp only [hc] at hst
    simp [Reading.outcome, Outcome.ofRun, Batched.Client.view, hc, hread, hout, hst]
  | failed e =>
    simp only [hc] at hst
    simp [Reading.outcome, Outcome.ofRun, Batched.Client.view, hc, hread, hout, hst]
  | reading d =>
    simp only [hc] at hst
    obtain ⟨hb, he, hn⟩ := hs d hc
    have hlive : d.isEof = false := by
      by_contra hne
      have hend := result_of_isEof (P := P) (Bool.not_eq_false _ ▸ hne) none
      exact absurd (hn.symm.trans hend) (by simp)
    have hn' : (reader P).result ((batched P).abs d) = none := hn
    simp [Reading.outcome, Outcome.ofRun, Batched.Client.view, hc, hread, hout, hst, he, hb,
      Reader.run_nil hn', hlive]

theorem drain_outcome (hg : c.Good (batched P)) (he : c.eof = false) (h : s.Shows c) (eof : Bool) :
    (s.drain P eof).outcome =
      .ofRun (if eof then (reader P).close (c.view (batched P)) else c.view (batched P)) := by
  cases eof with
  | false =>
    have hlen : s.body.read.buf.length = c.buf.length := by rw [h.read]
    simp only [drain, Bool.false_eq_true, if_false, hlen]
    rw [(h.pulls hg _).outcome (Batched.Client.pulls_settled hg (Nat.lt_succ_self _)),
      (Batched.Client.pulls_view hg _).2.2]
  | true =>
    have hg' : c.markEof.Good (batched P) := fun d hd => hg d hd
    have h' : Reading.Shows { s with body := s.body.markEof } c.markEof :=
      ⟨by simp [BodyDecoder.markEof, h.read, Batched.Client.markEof], h.out, h.state⟩
    have hlen : s.body.markEof.read.buf.length = c.markEof.buf.length := by rw [h'.read]
    simp only [drain, if_true, hlen]
    rw [(h'.pulls hg' _).outcome (Batched.Client.pulls_settled hg' (Nat.lt_succ_self _)),
      (Batched.Client.pulls_view hg' _).2.2, Batched.Client.markEof_view he]

variable (kind : BodyKind) (length : Nat) (maxHeaders maxHeaderSize : Option Nat)

/-- The client that a fresh decoder is. -/
def fresh : Batched.Client Decoder UInt8 UInt8 DecodeError (Option Fields) where
  state := .reading (.new kind length maxHeaders maxHeaderSize)

theorem fresh_good : (fresh kind length maxHeaders maxHeaderSize).Good (batched P) := by
  intro d hd
  cases hd
  cases kind <;> first | trivial | exact nofun

theorem start_shows :
    (start kind length maxHeaders maxHeaderSize).Shows
      (fresh kind length maxHeaders maxHeaderSize) :=
  ⟨rfl, rfl, rfl, rfl, rfl, rfl⟩

/-- What comes of the bytes of a body, with the end of the transport behind them or not. -/
theorem outcome_of_fed (ks : List (Batched.Call UInt8)) (eof : Bool) :
    (((start kind length maxHeaders maxHeaderSize).calls P ks).drain P eof).outcome =
      .ofRun ((reader P).scan eof (.new kind length maxHeaders maxHeaderSize, none)
        (Batched.Call.fed ks)) := by
  have hg := fresh_good (P := P) kind length maxHeaders maxHeaderSize
  obtain ⟨hg', he', hv⟩ := Batched.Client.view_calls hg rfl ks
  rw [drain_outcome hg' he'
    ((start_shows kind length maxHeaders maxHeaderSize).calls hg rfl ks) eof, hv]
  have hview : (reader P).feed ((fresh kind length maxHeaders maxHeaderSize).view (batched P))
      (Batched.Call.fed ks) = (reader P).run (.new kind length maxHeaders maxHeaderSize, none)
        (Batched.Call.fed ks) := by
    have := Reader.run_append (reader P) (.new kind length maxHeaders maxHeaderSize, none) []
      (Batched.Call.fed ks)
    simpa [fresh, Batched.Client.view, batched] using this.symm
  rw [hview]
  rfl

/-- What has come out is a part of what comes of all the bytes. -/
theorem out_prefix_drain (ks : List (Batched.Call UInt8)) (eof : Bool) :
    ((start kind length maxHeaders maxHeaderSize).calls P ks).out <+:
      (((start kind length maxHeaders maxHeaderSize).calls P ks).drain P eof).out := by
  have hg := fresh_good (P := P) kind length maxHeaders maxHeaderSize
  obtain ⟨hg', he', -⟩ := Batched.Client.view_calls hg rfl ks
  have hs := (start_shows kind length maxHeaders maxHeaderSize).calls hg rfl ks
  have ho := congrArg Outcome.out (drain_outcome hg' he' hs eof)
  have hview : (((start kind length maxHeaders maxHeaderSize).calls P ks).drain P eof).out =
      (((fresh kind length maxHeaders maxHeaderSize).calls (batched P) ks).view (batched P)).out :=
    ho.trans (by cases eof <;> simp)
  rw [hs.out, hview]
  exact Batched.Client.out_prefix _

end Reading

/-- What comes of a body depends on its bytes alone: not on the pieces they came in, nor on when
the decoder was asked. -/
theorem body_split (kind : BodyKind) (length : Nat) (maxHeaders maxHeaderSize : Option Nat)
    (ks : List (Batched.Call UInt8)) (eof : Bool) :
    let start := Reading.start kind length maxHeaders maxHeaderSize
    let whole := ((start.call P (.feed (Batched.Call.fed ks))).drain P eof).outcome
    ((start.calls P ks).drain P eof).outcome = whole ∧ (start.calls P ks).out <+: whole.out := by
  intro start whole
  have hwhole : ((start.calls P ks).drain P eof).outcome = whole := by
    have h₁ := Reading.outcome_of_fed (P := P) kind length maxHeaders maxHeaderSize ks eof
    have h₂ := Reading.outcome_of_fed (P := P) kind length maxHeaders maxHeaderSize
      [.feed (Batched.Call.fed ks)] eof
    rw [Batched.Call.fed, Batched.Call.fed, List.append_nil] at h₂
    exact h₁.trans h₂.symm
  refine ⟨hwhole, ?_⟩
  rw [← hwhole]
  exact Reading.out_prefix_drain kind length maxHeaders maxHeaderSize ks eof

end Httpunk.H1.Decode
