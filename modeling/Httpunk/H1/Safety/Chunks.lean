import Httpunk.H1.Safety.BodySplit

/-!
# H1 — Safety — Chunks

The chunked framing as a format: size lines, chunks, a trailer section.  The decoder accepts the
messages of the format within its limits, and nothing else, and leaves the bytes behind one alone.

* `Message`: a body in chunks.
* `Message.Within`: the limits of a decoder.
* `run_message`, `message_of_halted`: the decoder and the format.
-/

namespace Httpunk.H1.Decode

open Httpunk.Incremental

/-! ### The format -/

/-- The value of the digits of a size, after a value so far. -/
def sizeValue (v : Nat) (digits : Bytes) : Nat :=
  digits.foldl (fun v b => v * 16 + (hexDigit b).getD 0) v

/-- The line before a chunk, up to its line feed: a size, blanks, and an extension. -/
structure SizeLine where
  digits : Bytes
  blanks : Bytes := []
  extension : Option Bytes := none
  digits_ne : digits ≠ []
  hex : ∀ b ∈ digits, (hexDigit b).isSome
  blank : ∀ b ∈ blanks, b = 9 ∨ b = 32
  plain : ∀ e ∈ extension, ∀ b ∈ e, b ≠ 13 ∧ b ≠ 10

namespace SizeLine

variable (l : SizeLine)

def value : Nat := sizeValue 0 l.digits

def extensionBytes : Bytes := l.extension.elim [] (59 :: ·)

def extensionLen : Nat := (l.extension.getD []).length

def bytes : Bytes := l.digits ++ (l.blanks ++ (l.extensionBytes ++ crlf))

end SizeLine

/-- A size line and the data of its size. -/
structure Chunk where
  line : SizeLine
  data : Bytes
  data_ne : data ≠ []
  sized : line.value = data.length

def Chunk.bytes (k : Chunk) : Bytes := k.line.bytes ++ (k.data ++ crlf)

/-- A line of the trailer section: it does not begin with a carriage return, and has one at its end
alone. -/
structure TrailerLine where
  text : Bytes
  text_ne : text ≠ []
  plain : ∀ b ∈ text, b ≠ 13

def TrailerLine.bytes (t : TrailerLine) : Bytes := t.text ++ crlf

/-- A body in chunks. -/
structure Message where
  chunks : List Chunk
  last : SizeLine
  last_zero : last.value = 0
  trailers : List TrailerLine

namespace Message

variable (m : Message)

def trailerBytes : Bytes := m.trailers.flatMap TrailerLine.bytes

def bytes : Bytes := m.chunks.flatMap Chunk.bytes ++ (m.last.bytes ++ (m.trailerBytes ++ crlf))

def data : Bytes := m.chunks.flatMap Chunk.data

def extensionLen : Nat := (m.chunks.map fun k => k.line.extensionLen).sum + m.last.extensionLen

/-- The trailers that a message has. -/
def fields (P : TrailerParser) : Except DecodeError (Option Fields) :=
  if m.trailers.isEmpty then .ok none
  else (P.decodeTrailers (m.trailerBytes ++ crlf) m.trailers.length).map some

/-- The limits of a decoder: the sizes of chunks, all extensions together, the number of trailers
and the bytes of their section. -/
structure Within (maxHeaders maxHeaderSize : Option Nat) : Prop where
  sizes : ∀ k ∈ m.chunks, k.data.length < u64Size
  extensions : m.extensionLen < chunkedExtensionsLimit
  count : m.trailers.length ≤ maxHeaders.getD defaultMaxHeaders
  section_lt : m.trailers ≠ [] →
    (m.trailerBytes ++ crlf).length < maxHeaderSize.getD trailerLimit

end Message

/-! ### One byte -/

variable {P : TrailerParser}

theorem Took.onByte {c c' : Chunked} {b : UInt8} (h : Took c b c') : c.onByte b = .ok c' := by
  cases h with
  | digit d hc hb hlt =>
    have hp : c.pushDigit d = _ := pushDigit_eq_ok.mpr ⟨hlt, rfl⟩
    rcases hc with hc | hc
    · simp only [Chunked.onByte, hc, Chunked.readStart, hb, hp]
    · simp only [Chunked.onByte, hc, Chunked.readSize, hb, hp]
  | blank hc hb =>
    have hd : hexDigit b = none := by rcases hb with rfl | rfl <;> rfl
    rcases hc with hc | hc
    · simp only [Chunked.onByte, hc, Chunked.readSize, hd, if_pos hb]
    · simp only [Chunked.onByte, hc, Chunked.readSizeLws, if_pos hb]
  | semicolon hc hb =>
    subst hb
    rcases hc with hc | hc
    · simp only [Chunked.onByte, hc, Chunked.readSize]
      rfl
    · simp only [Chunked.onByte, hc, Chunked.readSizeLws]
      rfl
  | sizeCr hc hb =>
    subst hb
    rcases hc with hc | hc | hc
    · simp only [Chunked.onByte, hc, Chunked.readSize]
      rfl
    · simp only [Chunked.onByte, hc, Chunked.readSizeLws]
      rfl
    · simp only [Chunked.onByte, hc, Chunked.readExtension]
      rfl
  | extension hc hr hn hlt =>
    simp only [Chunked.onByte, hc, Chunked.readExtension, if_neg hr, if_neg hn,
      if_neg (Nat.not_le.mpr hlt)]
  | sizeLf hc hb =>
    simp only [Chunked.onByte, hc, Chunked.readSizeLf, if_pos hb]
    split_ifs <;> rfl
  | bodyCr hc hb => simp only [Chunked.onByte, hc, Chunked.readBodyCr, if_pos hb]
  | bodyLf hc hb => simp only [Chunked.onByte, hc, Chunked.readBodyLf, if_pos hb]
  | trailer buf hc ht hlt =>
    simp only [Chunked.onByte, hc, Chunked.readTrailer]
    exact putU8_eq_ok.mpr ⟨buf, ht, hlt, rfl⟩
  | trailerLf buf hc hb ht hcnt hlt =>
    simp only [Chunked.onByte, hc, Chunked.readTrailerLf, if_pos hb, if_neg (Nat.not_le.mpr hcnt)]
    exact putU8_eq_ok.mpr ⟨buf, ht, hlt, rfl⟩
  | firstTrailer hc hb ht => simp only [Chunked.onByte, hc, Chunked.readEndCr, if_neg hb, ht]
  | nextTrailer buf hc hb ht hlt =>
    simp only [Chunked.onByte, hc, Chunked.readEndCr, if_neg hb, ht]
    exact putU8_eq_ok.mpr ⟨buf, ht, hlt, rfl⟩
  | endCr hc hb ht => simp only [Chunked.onByte, hc, Chunked.readEndCr, if_pos hb, ht]
  | trailersCr buf hc hb ht hlt =>
    simp only [Chunked.onByte, hc, Chunked.readEndCr, if_pos hb, ht]
    exact putU8_eq_ok.mpr ⟨buf, ht, hlt, rfl⟩
  | endLf hc hb ht => simp only [Chunked.onByte, hc, Chunked.readEndLf, if_pos hb, ht]
  | trailersLf buf hc hb ht hlt =>
    simp only [Chunked.onByte, hc, Chunked.readEndLf, if_pos hb, ht]
    exact putU8_eq_ok.mpr ⟨buf, ht, hlt, rfl⟩

/-- A byte is taken outside the data of a chunk, before the end. -/
theorem Took.state {c c' : Chunked} {b : UInt8} (h : Took c b c') :
    c.state ≠ .body ∧ c.state ≠ .ended := by
  cases h with
  | digit d hc => rcases hc with hc | hc <;> simp [hc]
  | blank hc => rcases hc with hc | hc <;> simp [hc]
  | semicolon hc => rcases hc with hc | hc <;> simp [hc]
  | sizeCr hc => rcases hc with hc | hc | hc <;> simp [hc]
  | _ => simp_all

/-- The run of a chunked body. -/
abbrev chunkedRun (P : TrailerParser) (c : Chunked) (input : Bytes) :
    Run (Decoder × Option Fields) UInt8 UInt8 DecodeError (Option Fields) :=
  (reader P).run (.chunked c, none) input

theorem Took.run {c c' : Chunked} {b : UInt8} (h : Took c b c') (he : c'.state ≠ .ended)
    (bs : Bytes) : chunkedRun P c (b :: bs) = chunkedRun P c' bs := by
  have hs := scan_through (P := P) h.state.1 h.state.2 h.onByte he bs false
  simpa using hs

/-- A body that ends outside the data of a chunk has taken a byte. -/
theorem took_of_halted {c : Chunked} {input out rest : Bytes} {f : Option Fields}
    (hb : c.state ≠ .body) (he : c.state ≠ .ended)
    (h : chunkedRun P c input = ⟨out, rest, .halted f⟩) :
    ∃ b bs c', input = b :: bs ∧ Took c b c' := by
  cases input with
  | nil =>
    rw [chunkedRun, Reader.run_nil (result_chunked he none)] at h
    cases h
  | cons b bs =>
    cases hr : c.onByte b with
    | error p =>
      have hs := scan_onByte_error (P := P) hb he hr bs false
      rw [Reader.scan_false] at hs
      rw [chunkedRun, hs] at h
      cases h
    | ok c' => exact ⟨b, bs, c', rfl, took hb he hr⟩

/-! ### A message is accepted -/

@[simp] theorem sizeValue_nil (v : Nat) : sizeValue v [] = v := rfl

@[simp] theorem sizeValue_cons (v : Nat) (b : UInt8) (ds : Bytes) :
    sizeValue v (b :: ds) = sizeValue (v * 16 + (hexDigit b).getD 0) ds := rfl

theorem le_sizeValue (v : Nat) (ds : Bytes) : v ≤ sizeValue v ds := by
  induction ds generalizing v with
  | nil => exact Nat.le_refl v
  | cons b ds ih => exact Nat.le_trans (show v ≤ v * 16 + (hexDigit b).getD 0 by omega) (ih _)

theorem run_digits {c : Chunked} (hc : c.state = .start ∨ c.state = .size) {ds : Bytes}
    (hne : ds ≠ []) (hex : ∀ b ∈ ds, (hexDigit b).isSome)
    (hlt : sizeValue c.chunkLen ds < u64Size) (rest : Bytes) :
    chunkedRun P c (ds ++ rest) =
      chunkedRun P { c with chunkLen := sizeValue c.chunkLen ds, state := .size } rest := by
  induction ds generalizing c with
  | nil => exact absurd rfl hne
  | cons b ds ih =>
    obtain ⟨d, hd⟩ := Option.isSome_iff_exists.mp (hex b (List.mem_cons_self ..))
    simp only [sizeValue_cons, hd, Option.getD_some] at hlt ⊢
    have hv := Nat.lt_of_le_of_lt (le_sizeValue _ ds) hlt
    rw [List.cons_append, (Took.digit d hc hd hv).run (by simp)]
    by_cases hds : ds = []
    · subst hds
      rfl
    · exact ih (.inr rfl) hds (fun b hb => hex b (List.mem_cons_of_mem _ hb)) hlt

theorem run_blanks {c : Chunked} (hc : c.state = .size ∨ c.state = .sizeLws) {bl : Bytes}
    (hb : ∀ b ∈ bl, b = 9 ∨ b = 32) (rest : Bytes) :
    ∃ state, (state = .size ∨ state = .sizeLws) ∧
      chunkedRun P c (bl ++ rest) = chunkedRun P { c with state := state } rest := by
  induction bl generalizing c with
  | nil => exact ⟨c.state, hc, rfl⟩
  | cons b bl ih =>
    obtain ⟨state, hs, hr⟩ := ih (c := { c with state := .sizeLws }) (.inr rfl)
      fun b hm => hb b (List.mem_cons_of_mem _ hm)
    refine ⟨state, hs, ?_⟩
    rw [List.cons_append, (Took.blank hc (hb b (List.mem_cons_self ..))).run (by simp), hr]

theorem run_extension {c : Chunked} (hc : c.state = .extension) {e : Bytes}
    (hp : ∀ b ∈ e, b ≠ 13 ∧ b ≠ 10) (hlt : c.extensionsCnt + e.length < chunkedExtensionsLimit)
    (rest : Bytes) :
    chunkedRun P c (e ++ 13 :: rest) =
      chunkedRun P
        { c with state := .sizeLf, extensionsCnt := c.extensionsCnt + e.length } rest := by
  induction e generalizing c with
  | nil => exact (Took.sizeCr (.inr (.inr hc)) rfl).run (by simp) rest
  | cons b e ih =>
    rw [List.length_cons] at hlt
    have hb := hp b (List.mem_cons_self ..)
    rw [List.cons_append,
      (Took.extension hc hb.1 hb.2 (by omega)).run (by simp [hc]),
      ih (by exact hc) (fun b hm => hp b (List.mem_cons_of_mem _ hm)) (by dsimp only; omega)]
    simp only [List.length_cons, Nat.add_assoc, Nat.add_comm 1]

/-- Where a size line leads. -/
def Chunked.sized (c : Chunked) (l : SizeLine) : Chunked :=
  { c with
    chunkLen := l.value, extensionsCnt := c.extensionsCnt + l.extensionLen,
    state := if l.value = 0 then .endCr else .body }

theorem run_line {c : Chunked} (hc : c.state = .start) (h0 : c.chunkLen = 0) (l : SizeLine)
    (hv : l.value < u64Size) (hx : c.extensionsCnt + l.extensionLen < chunkedExtensionsLimit)
    (rest : Bytes) : chunkedRun P c (l.bytes ++ rest) = chunkedRun P (c.sized l) rest := by
  have hlf : chunkedRun P { c with
      state := .sizeLf, chunkLen := l.value,
      extensionsCnt := c.extensionsCnt + l.extensionLen } (10 :: rest) =
      chunkedRun P (c.sized l) rest :=
    (Took.sizeLf rfl rfl).run (by dsimp only; split_ifs <;> simp) rest
  have hval : sizeValue c.chunkLen l.digits = l.value := by
    rw [h0]
    rfl
  have hdigits := run_digits (P := P) (c := c) (.inl hc) l.digits_ne l.hex (by rw [hval]; exact hv)
    (l.blanks ++ (l.extensionBytes ++ crlf) ++ rest)
  obtain ⟨state, hs, hblanks⟩ := run_blanks (P := P)
    (c := { c with chunkLen := l.value, state := .size }) (.inl rfl) l.blank
    (l.extensionBytes ++ crlf ++ rest)
  rw [SizeLine.bytes, List.append_assoc, hdigits, hval, List.append_assoc, hblanks, ← hlf]
  cases hext : l.extension with
  | none =>
    have hlen : l.extensionLen = 0 := by simp [SizeLine.extensionLen, hext]
    simp only [SizeLine.extensionBytes, hext, Option.elim_none, List.nil_append, crlf,
      List.cons_append, hlen, Nat.add_zero]
    exact (Took.sizeCr (hs.imp_right .inl) rfl).run (by simp) (10 :: rest)
  | some e =>
    have hlen : l.extensionLen = e.length := by simp [SizeLine.extensionLen, hext]
    simp only [SizeLine.extensionBytes, hext, Option.elim_some, List.cons_append, List.nil_append,
      crlf, List.append_assoc, hlen]
    rw [(Took.semicolon hs rfl).run (by simp)]
    exact run_extension rfl (l.plain e hext) (by rw [← hlen]; exact hx) (10 :: rest)

/-- A chunk leaves its extension behind. -/
theorem run_chunk {c : Chunked} (hc : c.state = .start) (h0 : c.chunkLen = 0) (k : Chunk)
    (hv : k.data.length < u64Size)
    (hx : c.extensionsCnt + k.line.extensionLen < chunkedExtensionsLimit) (rest : Bytes) :
    chunkedRun P c (k.bytes ++ rest) =
      (chunkedRun P { c with extensionsCnt := c.extensionsCnt + k.line.extensionLen } rest).emit
        k.data := by
  have hpos : 0 < k.data.length := List.length_pos_iff.mpr k.data_ne
  have hne : k.line.value ≠ 0 := by
    rw [k.sized]
    exact hpos.ne'
  have hbody : (c.sized k.line).state = .body := by simp [Chunked.sized, hne]
  have hlen : (c.sized k.line).chunkLen = k.data.length := k.sized
  have hdata := scan_body (P := P) false k.data (13 :: 10 :: rest) hbody k.data_ne hlen.ge
  simp only [Reader.scan_false] at hdata
  have hcr : ((c.sized k.line).skip k.data.length).state = .bodyCr := by
    simp [Chunked.skip, hlen]
  rw [Chunk.bytes, List.append_assoc, run_line hc h0 k.line (by rw [k.sized]; exact hv) hx]
  simp only [crlf, List.append_assoc, List.cons_append, List.nil_append]
  rw [chunkedRun, hdata]
  congr 1
  have hcr' := (Took.bodyCr hcr rfl).run (P := P) (by simp) (10 :: rest)
  refine hcr'.trans (((Took.bodyLf rfl rfl).run (by simp) rest).trans ?_)
  simp [Chunked.skip, Chunked.sized, k.sized, hc, h0]

/-- The chunks of a body, by induction on their list: the extensions add up. -/
theorem run_chunks {c : Chunked} (hc : c.state = .start) (h0 : c.chunkLen = 0) (ks : List Chunk)
    (hv : ∀ k ∈ ks, k.data.length < u64Size)
    (hx : c.extensionsCnt + (ks.map fun k => k.line.extensionLen).sum < chunkedExtensionsLimit)
    (rest : Bytes) :
    chunkedRun P c (ks.flatMap Chunk.bytes ++ rest) =
      (chunkedRun P { c with
        extensionsCnt := c.extensionsCnt + (ks.map fun k => k.line.extensionLen).sum } rest).emit
          (ks.flatMap Chunk.data) := by
  induction ks generalizing c with
  | nil => simp
  | cons k ks ih =>
    simp only [List.map_cons, List.sum_cons] at hx ⊢
    have hks := ih (c := { c with extensionsCnt := c.extensionsCnt + k.line.extensionLen }) hc h0
      (fun k hk => hv k (List.mem_cons_of_mem _ hk)) (by dsimp only; omega)
    rw [List.flatMap_cons, List.append_assoc,
      run_chunk hc h0 k (hv k (List.mem_cons_self ..)) (by omega), hks]
    simp [Nat.add_assoc]

/-- The bytes of a trailer line up to its carriage return. -/
theorem run_text {c : Chunked} (hc : c.state = .trailer) {buf : Bytes}
    (ht : c.trailersBuf = some buf) {bs : Bytes} (hp : ∀ b ∈ bs, b ≠ 13)
    (hlt : (buf ++ bs).length < c.maxHeadersBytes) (rest : Bytes) :
    chunkedRun P c (bs ++ rest) =
      chunkedRun P { c with trailersBuf := some (buf ++ bs) } rest := by
  induction bs generalizing c buf with
  | nil =>
    obtain ⟨⟩ := c
    cases ht
    simp
  | cons b bs ih =>
    have hb := hp b (List.mem_cons_self ..)
    have hbs := ih (c := { c with state := .trailer, trailersBuf := some (buf ++ [b]) }) rfl rfl
      (fun b hm => hp b (List.mem_cons_of_mem _ hm))
      (show _ < c.maxHeadersBytes by simp at hlt ⊢; omega)
    rw [List.cons_append, (Took.trailer buf hc ht (by simp at hlt; omega)).run (by simp [hb]),
      if_neg hb, hbs]
    simp [hc]

/-- A trailer line, with the section so far. -/
theorem run_trailer {c : Chunked} (hc : c.state = .endCr) (t : TrailerLine)
    (hcnt : c.trailersCnt < c.maxHeadersCnt)
    (hlt : (c.trailersBuf.getD [] ++ t.bytes).length < c.maxHeadersBytes) (rest : Bytes) :
    chunkedRun P c (t.bytes ++ rest) =
      chunkedRun P { c with
        trailersBuf := some (c.trailersBuf.getD [] ++ t.bytes),
        trailersCnt := c.trailersCnt + 1 } rest := by
  obtain ⟨text, hne, hp⟩ := t
  cases text with
  | nil => exact absurd rfl hne
  | cons b bs =>
    have hb := hp b (List.mem_cons_self ..)
    simp only [TrailerLine.bytes, crlf, List.length_append, List.length_cons, List.length_nil]
      at hlt
    have hfirst : chunkedRun P c (b :: (bs ++ (13 :: 10 :: rest))) =
        chunkedRun P { c with
          state := .trailer, trailersBuf := some (c.trailersBuf.getD [] ++ [b]) }
          (bs ++ (13 :: 10 :: rest)) := by
      cases ht : c.trailersBuf with
      | none => exact (Took.firstTrailer hc hb ht).run (by simp) _
      | some buf =>
        exact (Took.nextTrailer buf hc hb ht (by simp [ht] at hlt; omega)).run (by simp) _
    have htext := run_text (P := P)
      (c := { c with state := .trailer, trailersBuf := some (c.trailersBuf.getD [] ++ [b]) }) rfl
      rfl (fun b hm => hp b (List.mem_cons_of_mem _ hm))
      (show _ < c.maxHeadersBytes by simp; omega) (13 :: 10 :: rest)
    have hcr := (Took.trailer (c := { c with
      state := .trailer, trailersBuf := some (c.trailersBuf.getD [] ++ [b] ++ bs) }) (b := 13) _ rfl
      rfl (show _ < c.maxHeadersBytes by simp; omega)).run (P := P) (by simp) (10 :: rest)
    have hlf := (Took.trailerLf (c := { c with
      state := .trailerLf, trailersBuf := some (c.trailersBuf.getD [] ++ [b] ++ bs ++ [13]) }) _ rfl
      rfl rfl hcnt (show _ < c.maxHeadersBytes by simp; omega)).run (P := P) (by simp) rest
    simp only [TrailerLine.bytes, crlf, List.append_assoc, List.cons_append, List.nil_append]
    simp only [List.append_assoc, List.cons_append, List.nil_append, if_true] at htext hcr hlf hfirst
    rw [hfirst, htext, hcr, hlf]
    simp [hc]

/-- The trailer lines of a section, by induction on their list. -/
theorem run_trailers {c : Chunked} (hc : c.state = .endCr) (ts : List TrailerLine)
    (hcnt : c.trailersCnt + ts.length ≤ c.maxHeadersCnt)
    (hlt : ts ≠ [] →
      (c.trailersBuf.getD [] ++ ts.flatMap TrailerLine.bytes).length < c.maxHeadersBytes)
    (rest : Bytes) :
    chunkedRun P c (ts.flatMap TrailerLine.bytes ++ rest) =
      chunkedRun P { c with
        trailersBuf := if ts.isEmpty then c.trailersBuf
          else some (c.trailersBuf.getD [] ++ ts.flatMap TrailerLine.bytes),
        trailersCnt := c.trailersCnt + ts.length } rest := by
  induction ts generalizing c with
  | nil => simp
  | cons t ts ih =>
    have hlt' := hlt (List.cons_ne_nil _ _)
    simp only [List.length_cons, List.flatMap_cons, List.length_append] at hcnt hlt'
    have hts := ih (c := { c with
        trailersBuf := some (c.trailersBuf.getD [] ++ t.bytes),
        trailersCnt := c.trailersCnt + 1 }) hc
      (show _ ≤ c.maxHeadersCnt by dsimp only; omega)
      (fun _ => show _ < c.maxHeadersBytes by
        simp only [Option.getD_some, List.length_append]
        omega)
    rw [List.flatMap_cons, List.append_assoc,
      run_trailer hc t (by omega) (by rw [List.length_append]; omega), hts]
    cases ts with
    | nil => simp
    | cons t' ts => simp [Nat.add_assoc, Nat.add_left_comm]

/-- The end of a body. -/
theorem run_end {c : Chunked} (hc : c.state = .endCr)
    (hlt : ∀ buf, c.trailersBuf = some buf → (buf ++ crlf).length < c.maxHeadersBytes)
    (rest : Bytes) :
    chunkedRun P c (crlf ++ rest) =
      match c.trailersBuf with
      | none => ⟨[], rest, .halted none⟩
      | some buf =>
        match P.decodeTrailers (buf ++ crlf) c.trailersCnt with
        | .ok fields => ⟨[], rest, .halted (some fields)⟩
        | .error e => ⟨[], rest, .failed e⟩ := by
  cases ht : c.trailersBuf with
  | none =>
    have hcr := (Took.endCr (b := 13) hc rfl ht).run (P := P) (by simp) (10 :: rest)
    have hlf := scan_last (P := P) (c := { c with state := .endLf }) (by simp) (by simp)
      (Took.endLf (b := 10) rfl rfl (by exact ht)).onByte rfl rest false
    rw [Reader.scan_false] at hlf
    exact hcr.trans (hlf.trans (by simp only [ht]))
  | some buf =>
    have hlen := hlt buf ht
    simp only [crlf, List.length_append, List.length_cons, List.length_nil] at hlen
    have hcr := (Took.trailersCr (b := 13) buf hc rfl ht (by omega)).run (P := P) (by simp)
      (10 :: rest)
    have htook := Took.trailersLf
      (c := { c with state := .endLf, trailersBuf := some (buf ++ [13]) }) (b := 10) (buf ++ [13])
      rfl rfl rfl (show _ < c.maxHeadersBytes by simp; omega)
    have hlf := scan_last (P := P) htook.state.1 htook.state.2 htook.onByte rfl rest false
    simp only [Reader.scan_false, List.append_assoc, List.cons_append, List.nil_append] at hlf
    exact hcr.trans hlf

/-- The chunked decoder of a fresh body. -/
abbrev freshChunked (maxHeaders maxHeaderSize : Option Nat) : Chunked :=
  { h1MaxHeaders := maxHeaders, h1MaxHeaderSize := maxHeaderSize }

/-- A run that has given its data and is told the trailers. -/
def ended (out rest : Bytes) (fields : Except DecodeError (Option Fields)) :
    Run (Decoder × Option Fields) UInt8 UInt8 DecodeError (Option Fields) :=
  match fields with
  | .ok f => ⟨out, rest, .halted f⟩
  | .error e => ⟨out, rest, .failed e⟩

theorem run_message (m : Message) {maxHeaders maxHeaderSize : Option Nat}
    (h : m.Within maxHeaders maxHeaderSize) (rest : Bytes) :
    chunkedRun P (freshChunked maxHeaders maxHeaderSize) (m.bytes ++ rest) =
      ended m.data rest (m.fields P) := by
  have hx := h.extensions
  simp only [Message.extensionLen] at hx
  have hchunks := run_chunks (P := P) (c := freshChunked maxHeaders maxHeaderSize) rfl rfl m.chunks
    h.sizes (by dsimp only; omega) (m.last.bytes ++ (m.trailerBytes ++ crlf) ++ rest)
  have hline := run_line (P := P) (c := { freshChunked maxHeaders maxHeaderSize with
      extensionsCnt := 0 + (m.chunks.map fun k => k.line.extensionLen).sum }) rfl rfl m.last
    (by rw [m.last_zero]; decide) (by dsimp only; omega) (m.trailerBytes ++ crlf ++ rest)
  have htrailers := run_trailers (P := P)
    (c := { freshChunked maxHeaders maxHeaderSize with
      state := .endCr
      extensionsCnt := 0 + (m.chunks.map fun k => k.line.extensionLen).sum + m.last.extensionLen })
    rfl m.trailers (show _ ≤ maxHeaders.getD defaultMaxHeaders by simpa using h.count)
    (fun hne => show _ < maxHeaderSize.getD trailerLimit by
      have := h.section_lt hne
      simp only [Message.trailerBytes, List.length_append] at this
      simp only [Option.getD_none, List.nil_append]
      omega) (crlf ++ rest)
  have hsized : ({ freshChunked maxHeaders maxHeaderSize with
      extensionsCnt := 0 + (m.chunks.map fun k => k.line.extensionLen).sum } : Chunked).sized m.last =
      { freshChunked maxHeaders maxHeaderSize with
        state := .endCr
        extensionsCnt :=
          0 + (m.chunks.map fun k => k.line.extensionLen).sum + m.last.extensionLen } := by
    simp [Chunked.sized, m.last_zero]
  rw [Message.bytes, List.append_assoc, hchunks, List.append_assoc, hline, hsized,
    Message.trailerBytes, List.append_assoc, htrailers]
  have hend := run_end (P := P) (c := { freshChunked maxHeaders maxHeaderSize with
      state := .endCr
      extensionsCnt := 0 + (m.chunks.map fun k => k.line.extensionLen).sum + m.last.extensionLen
      trailersBuf := if m.trailers.isEmpty then none
        else some ([] ++ m.trailers.flatMap TrailerLine.bytes)
      trailersCnt := 0 + m.trailers.length }) rfl
    (fun buf hbuf => show _ < maxHeaderSize.getD trailerLimit by
      by_cases hne : m.trailers = []
      · simp [hne] at hbuf
      · have := h.section_lt hne
        simp [hne] at hbuf
        rw [← hbuf]
        exact this) rest
  refine (congrArg (Run.emit m.data) hend).trans ?_
  by_cases hne : m.trailers = []
  · simp [hne, Message.fields, ended, Run.emit]
  · cases hd : P.decodeTrailers (m.trailerBytes ++ crlf) m.trailers.length with
    | ok fields =>
      simp [Message.trailerBytes] at hd
      simp [hne, Message.fields, Message.trailerBytes, hd, Except.map, ended, Run.emit]
    | error e =>
      simp [Message.trailerBytes] at hd
      simp [hne, Message.fields, Message.trailerBytes, hd, Except.map, ended, Run.emit]

/-! ### What is accepted is a message -/

section Sound

variable {c : Chunked} {input out rest : Bytes} {f : Option Fields}

/-- What is left of a size line, from its blanks on. -/
def LineTail (P : TrailerParser) (c : Chunked) (input out rest : Bytes) (f : Option Fields) :
    Prop :=
  ∃ blanks extension input',
    input = blanks ++ (Option.elim extension [] (59 :: ·) ++ 13 :: input') ∧
    (∀ b ∈ blanks, b = 9 ∨ b = 32) ∧ (∀ e ∈ extension, ∀ b ∈ e, b ≠ 13 ∧ b ≠ 10) ∧
    (c.extensionsCnt < chunkedExtensionsLimit →
      c.extensionsCnt + (Option.getD extension []).length < chunkedExtensionsLimit) ∧
    chunkedRun P { c with
      state := .sizeLf, extensionsCnt := c.extensionsCnt + (Option.getD extension []).length }
      input' = ⟨out, rest, .halted f⟩

theorem extension_of_halted (hc : c.state = .extension)
    (h : chunkedRun P c input = ⟨out, rest, .halted f⟩) :
    ∃ e input', input = e ++ 13 :: input' ∧ (∀ b ∈ e, b ≠ 13 ∧ b ≠ 10) ∧
      (c.extensionsCnt < chunkedExtensionsLimit →
        c.extensionsCnt + e.length < chunkedExtensionsLimit) ∧
      chunkedRun P { c with
        state := .sizeLf, extensionsCnt := c.extensionsCnt + e.length } input' =
          ⟨out, rest, .halted f⟩ := by
  induction input generalizing c with
  | nil =>
    obtain ⟨b, bs, c', hi, -⟩ := took_of_halted (by simp [hc]) (by simp [hc]) h
    cases hi
  | cons b bs ih =>
    obtain ⟨b', bs', c', hi, ht⟩ := took_of_halted (by simp [hc]) (by simp [hc]) h
    cases hi
    cases ht with
    | sizeCr hs hb =>
      rw [(Took.sizeCr hs hb).run (by simp)] at h
      exact ⟨[], bs, by simp [hb], nofun, fun hlt => hlt, h⟩
    | extension hs hr hn hlt =>
      rw [(Took.extension hs hr hn hlt).run (by simp [hc])] at h
      obtain ⟨e, input', rfl, hp, hl, hrun⟩ := ih (by exact hc) h
      refine ⟨b :: e, input', rfl, ?_, ?_, ?_⟩
      · intro b' hb'
        cases hb' with
        | head => exact ⟨hr, hn⟩
        | tail _ hm => exact hp b' hm
      · intro _
        have := hl hlt
        dsimp only at this
        simp only [List.length_cons]
        omega
      · simpa [Nat.add_assoc, Nat.add_comm 1] using hrun
    | _ => simp_all

theorem tail_of_blanks (hc : c.state = .sizeLws)
    (h : chunkedRun P c input = ⟨out, rest, .halted f⟩) : LineTail P c input out rest f := by
  induction input generalizing c with
  | nil =>
    obtain ⟨b, bs, c', hi, -⟩ := took_of_halted (by simp [hc]) (by simp [hc]) h
    cases hi
  | cons b bs ih =>
    obtain ⟨b', bs', c', hi, ht⟩ := took_of_halted (by simp [hc]) (by simp [hc]) h
    cases hi
    cases ht with
    | blank hs hb =>
      rw [(Took.blank hs hb).run (by simp)] at h
      obtain ⟨blanks, e, input', rfl, hbl, hp, hl, hrun⟩ := ih rfl h
      refine ⟨b :: blanks, e, input', rfl, ?_, hp, hl, hrun⟩
      intro b' hb'
      cases hb' with
      | head => exact hb
      | tail _ hm => exact hbl b' hm
    | semicolon hs hb =>
      rw [(Took.semicolon hs hb).run (by simp)] at h
      obtain ⟨e, input', rfl, hp, hl, hrun⟩ := extension_of_halted rfl h
      exact ⟨[], some e, input', by simp [hb], nofun,
        fun e' he' => by cases he'; exact hp, hl, hrun⟩
    | sizeCr hs hb =>
      rw [(Took.sizeCr hs hb).run (by simp)] at h
      exact ⟨[], none, bs, by simp [hb], nofun, nofun, fun hlt => hlt, h⟩
    | _ => simp_all

theorem digits_of_halted (hc : c.state = .size) (hv : c.chunkLen < u64Size)
    (h : chunkedRun P c input = ⟨out, rest, .halted f⟩) :
    ∃ ds input', input = ds ++ input' ∧ (∀ b ∈ ds, (hexDigit b).isSome) ∧
      sizeValue c.chunkLen ds < u64Size ∧
      LineTail P { c with chunkLen := sizeValue c.chunkLen ds } input' out rest f := by
  induction input generalizing c with
  | nil =>
    obtain ⟨b, bs, c', hi, -⟩ := took_of_halted (by simp [hc]) (by simp [hc]) h
    cases hi
  | cons b bs ih =>
    obtain ⟨b', bs', c', hi, ht⟩ := took_of_halted (by simp [hc]) (by simp [hc]) h
    cases hi
    cases ht with
    | digit d hs hb hlt =>
      rw [(Took.digit d hs hb hlt).run (by simp)] at h
      obtain ⟨ds, input', rfl, hx, hval, htail⟩ := ih rfl hlt h
      refine ⟨b :: ds, input', rfl, ?_, by simpa [hb] using hval, by simpa [hb, hc] using htail⟩
      intro b' hb'
      cases hb' with
      | head => simp [hb]
      | tail _ hm => exact hx b' hm
    | blank hs hb =>
      rw [(Took.blank hs hb).run (by simp)] at h
      obtain ⟨blanks, e, input', rfl, hbl, hp, hl, hrun⟩ := tail_of_blanks rfl h
      refine ⟨[], b :: (blanks ++ (Option.elim e [] (59 :: ·) ++ 13 :: input')), rfl, nofun, hv,
        b :: blanks, e, input', rfl, ?_, hp, hl, hrun⟩
      intro b' hb'
      cases hb' with
      | head => exact hb
      | tail _ hm => exact hbl b' hm
    | semicolon hs hb =>
      rw [(Took.semicolon hs hb).run (by simp)] at h
      obtain ⟨e, input', rfl, hp, hl, hrun⟩ := extension_of_halted rfl h
      exact ⟨[], b :: (e ++ 13 :: input'), rfl, nofun, hv, [], some e, input', by simp [hb], nofun,
        fun e' he' => by cases he'; exact hp, hl, hrun⟩
    | sizeCr hs hb =>
      rw [(Took.sizeCr hs hb).run (by simp)] at h
      exact ⟨[], b :: bs, rfl, nofun, hv, [], none, bs, by simp [hb], nofun, nofun,
        fun hlt => hlt, h⟩
    | _ => simp_all

theorem line_of_halted (hc : c.state = .start) (h0 : c.chunkLen = 0)
    (hx : c.extensionsCnt < chunkedExtensionsLimit)
    (h : chunkedRun P c input = ⟨out, rest, .halted f⟩) :
    ∃ (l : SizeLine) (input' : Bytes), input = l.bytes ++ input' ∧ l.value < u64Size ∧
      c.extensionsCnt + l.extensionLen < chunkedExtensionsLimit ∧
      chunkedRun P (c.sized l) input' = ⟨out, rest, .halted f⟩ := by
  obtain ⟨b, bs, c', rfl, ht⟩ := took_of_halted (by simp [hc]) (by simp [hc]) h
  cases ht with
  | digit d hs hb hlt =>
    rw [(Took.digit d hs hb hlt).run (by simp)] at h
    obtain ⟨ds, input', rfl, hhex, hval, blanks, e, input'', rfl, hbl, hp, hl, hrun⟩ :=
      digits_of_halted rfl hlt h
    obtain ⟨b', bs', c', rfl, ht'⟩ := took_of_halted (by simp) (by simp) hrun
    cases ht' with
    | sizeLf hs' hb' =>
      rw [(Took.sizeLf hs' hb').run (by dsimp only; split_ifs <;> simp)] at hrun
      have hv : sizeValue 0 (b :: ds) = sizeValue (c.chunkLen * 16 + d) ds := by
        simp [h0, hb]
      refine ⟨⟨b :: ds, blanks, e, nofun, ?_, hbl, hp⟩, bs', ?_, ?_, hl hx, ?_⟩
      · intro b' hb'
        cases hb' with
        | head => simp [hb]
        | tail _ hm => exact hhex b' hm
      · simp [SizeLine.bytes, SizeLine.extensionBytes, crlf, hb']
      · simpa only [SizeLine.value, hv] using hval
      · simpa [Chunked.sized, SizeLine.value, hv, SizeLine.extensionLen] using hrun
    | _ => simp_all
  | _ => simp_all

/-- The data of a chunk, all of it. -/
theorem data_of_halted (hc : c.state = .body) (hpos : 0 < c.chunkLen)
    (h : chunkedRun P c input = ⟨out, rest, .halted f⟩) :
    ∃ data input' out', input = data ++ input' ∧ data.length = c.chunkLen ∧ out = data ++ out' ∧
      chunkedRun P (c.skip data.length) input' = ⟨out', rest, .halted f⟩ := by
  by_cases hlen : c.chunkLen ≤ input.length
  · have htake : (input.take c.chunkLen).length = c.chunkLen := List.length_take_of_le hlen
    have hne : input.take c.chunkLen ≠ [] := by
      rw [← List.length_pos_iff, htake]
      exact hpos
    have hs := scan_body (P := P) false (input.take c.chunkLen) (input.drop c.chunkLen) hc hne
      htake.le
    rw [List.take_append_drop] at hs
    simp only [Reader.scan_false] at hs
    rw [chunkedRun, hs] at h
    have hout := congrArg Run.out h
    have hrest := congrArg Run.rest h
    have hstatus := congrArg Run.status h
    refine ⟨input.take c.chunkLen, input.drop c.chunkLen, _, (List.take_append_drop _ _).symm,
      htake, hout.symm, ?_⟩
    exact Run.ext rfl hrest hstatus
  · have hlt := Nat.lt_of_not_le hlen
    by_cases hne : input = []
    · subst hne
      rw [chunkedRun, Reader.run_nil (result_chunked (by simp [hc]) none)] at h
      cases h
    · have hs := scan_body (P := P) false input [] hc hne hlt.le
      rw [List.append_nil] at hs
      simp only [Reader.scan_false] at hs
      have hb : (c.skip input.length).state ≠ .ended := by
        simp only [Chunked.skip]
        split_ifs <;> simp
      rw [chunkedRun, hs, Reader.run_nil (result_chunked hb none)] at h
      cases h

theorem Took.bodyCr_inv {c' : Chunked} {b : UInt8} (hc : c.state = .bodyCr) (h : Took c b c') :
    b = 13 ∧ c' = { c with state := .bodyLf } := by
  cases h with
  | bodyCr hs hb => exact ⟨hb, rfl⟩
  | _ => simp_all

theorem Took.bodyLf_inv {c' : Chunked} {b : UInt8} (hc : c.state = .bodyLf) (h : Took c b c') :
    b = 10 ∧ c' = { c with state := .start } := by
  cases h with
  | bodyLf hs hb => exact ⟨hb, rfl⟩
  | _ => simp_all

/-- The line end behind the data of a chunk. -/
theorem crlf_of_halted (hc : c.state = .bodyCr)
    (h : chunkedRun P c input = ⟨out, rest, .halted f⟩) :
    ∃ input', input = crlf ++ input' ∧
      chunkedRun P { c with state := .start } input' = ⟨out, rest, .halted f⟩ := by
  obtain ⟨b, bs, c', rfl, ht⟩ := took_of_halted (by simp [hc]) (by simp [hc]) h
  obtain ⟨rfl, rfl⟩ := ht.bodyCr_inv hc
  rw [ht.run (by simp)] at h
  obtain ⟨b', bs', c'', rfl, ht'⟩ := took_of_halted (by simp) (by simp) h
  obtain ⟨rfl, rfl⟩ := ht'.bodyLf_inv rfl
  rw [ht'.run (by simp)] at h
  exact ⟨bs', rfl, h⟩

/-- The rest of a trailer line, up to its line feed. -/
theorem text_of_halted {buf : Bytes} (hc : c.state = .trailer) (ht : c.trailersBuf = some buf)
    (h : chunkedRun P c input = ⟨out, rest, .halted f⟩) :
    ∃ text input', input = text ++ crlf ++ input' ∧ (∀ b ∈ text, b ≠ 13) ∧
      c.trailersCnt < c.maxHeadersCnt ∧ (buf ++ text ++ crlf).length < c.maxHeadersBytes ∧
      chunkedRun P { c with
        state := .endCr, trailersBuf := some (buf ++ text ++ crlf),
        trailersCnt := c.trailersCnt + 1 } input' = ⟨out, rest, .halted f⟩ := by
  induction input generalizing c buf with
  | nil =>
    obtain ⟨b, bs, c', hi, -⟩ := took_of_halted (by simp [hc]) (by simp [hc]) h
    cases hi
  | cons b bs ih =>
    obtain ⟨b', bs', c', hi, htook⟩ := took_of_halted (by simp [hc]) (by simp [hc]) h
    cases hi
    cases htook with
    | trailer buf' hs ht' hlt =>
      cases ht.symm.trans ht'
      rw [(Took.trailer buf hs ht hlt).run (by split_ifs <;> simp)] at h
      by_cases hb : b = 13
      · subst hb
        simp only [if_true] at h
        obtain ⟨b', bs', c', rfl, htook⟩ := took_of_halted (by simp) (by simp) h
        cases htook with
        | trailerLf buf₂ hs₂ hb₂ ht₂ hcnt₂ hlt₂ =>
          rw [(Took.trailerLf buf₂ hs₂ hb₂ ht₂ hcnt₂ hlt₂).run (by simp)] at h
          cases ht₂
          subst hb₂
          have hlt₃ : _ < c.maxHeadersBytes := hlt₂
          exact ⟨[], bs', rfl, nofun, hcnt₂, by simpa [crlf] using hlt₃, by simpa [crlf] using h⟩
        | _ => simp_all
      · simp only [if_neg hb] at h
        obtain ⟨text, input', rfl, hp, hcnt, hlen, hrun⟩ := ih rfl rfl h
        have hlen' : _ < c.maxHeadersBytes := hlen
        refine ⟨b :: text, input', rfl, ?_, hcnt, ?_, ?_⟩
        · intro b' hb'
          cases hb' with
          | head => exact hb
          | tail _ hm => exact hp b' hm
        · simpa using hlen'
        · simpa using hrun
    | _ => simp_all

/-- The last byte of a body. -/
theorem last_of_halted (hc : c.state = .endLf)
    (h : chunkedRun P c input = ⟨out, rest, .halted f⟩) :
    input = 10 :: rest ∧ out = [] ∧
      (∀ buf, c.trailersBuf = some buf → (buf ++ [10]).length < c.maxHeadersBytes) ∧
      (match c.trailersBuf with
        | none => Except.ok none
        | some buf => (P.decodeTrailers (buf ++ [10]) c.trailersCnt).map some) = .ok f := by
  obtain ⟨b, bs, c', rfl, ht⟩ := took_of_halted (by simp [hc]) (by simp [hc]) h
  cases ht with
  | endLf hs hb hnone =>
    have hl := scan_last (P := P) (by simp [hc]) (by simp [hc]) (Took.endLf hs hb hnone).onByte rfl
      bs false
    rw [Reader.scan_false] at hl
    rw [chunkedRun, hl] at h
    simp only [hnone] at h ⊢
    cases h
    exact ⟨by rw [hb], rfl, nofun, rfl⟩
  | trailersLf buf hs hb hsome hlt =>
    have hl := scan_last (P := P) (by simp [hc]) (by simp [hc])
      (Took.trailersLf buf hs hb hsome hlt).onByte rfl bs false
    rw [Reader.scan_false] at hl
    rw [chunkedRun, hl] at h
    subst hb
    cases hd : P.decodeTrailers (buf ++ [10]) c.trailersCnt with
    | error e =>
      simp only [hd] at h
      cases h
    | ok fields =>
      simp only [hd] at h
      cases h
      refine ⟨rfl, rfl, ?_, by simp only [hsome, hd, Except.map]⟩
      intro buf' hbuf'
      cases hsome.symm.trans hbuf'
      simpa using hlt
  | _ => simp_all

/-- An input that is the rest of a trailer section, the end of the body, and what follows. -/
def SectionOf (P : TrailerParser) (c : Chunked) (input out rest : Bytes) (f : Option Fields) :
    Prop :=
  ∃ ts : List TrailerLine, input = ts.flatMap TrailerLine.bytes ++ (crlf ++ rest) ∧ out = [] ∧
    (ts ≠ [] → c.trailersCnt + ts.length ≤ c.maxHeadersCnt) ∧
    (ts ≠ [] ∨ c.trailersBuf ≠ none →
      (c.trailersBuf.getD [] ++ ts.flatMap TrailerLine.bytes ++ crlf).length <
        c.maxHeadersBytes) ∧
    (if ts.isEmpty ∧ c.trailersBuf = none then Except.ok none
      else (P.decodeTrailers (c.trailersBuf.getD [] ++ ts.flatMap TrailerLine.bytes ++ crlf)
        (c.trailersCnt + ts.length)).map some) = .ok f

/-- The trailer section of a body and its end, by induction on the length of the input. -/
theorem section_of_halted (n : Nat) (hn : input.length ≤ n) (hc : c.state = .endCr)
    (h : chunkedRun P c input = ⟨out, rest, .halted f⟩) : SectionOf P c input out rest f := by
  induction n generalizing c input with
  | zero =>
    obtain ⟨b, bs, c', rfl, -⟩ := took_of_halted (by simp [hc]) (by simp [hc]) h
    simp at hn
  | succ n ih =>
    obtain ⟨b, bs, c', rfl, ht⟩ := took_of_halted (by simp [hc]) (by simp [hc]) h
    -- one more line, behind a section that may be empty
    have hline (hb : b ≠ 13) (hrun : chunkedRun P { c with
        state := .trailer, trailersBuf := some (c.trailersBuf.getD [] ++ [b]) } bs =
          ⟨out, rest, .halted f⟩) : SectionOf P c (b :: bs) out rest f := by
      obtain ⟨text, input', rfl, hp, hcnt, hlen, hrun'⟩ := text_of_halted rfl rfl hrun
      have hshort : input'.length ≤ n := by
        simp at hn
        omega
      obtain ⟨ts, rfl, hout, hcnt', hlen', hf⟩ := ih hshort rfl hrun'
      have hcntc : c.trailersCnt < c.maxHeadersCnt := hcnt
      have hcnt'' : ts ≠ [] → _ ≤ c.maxHeadersCnt := hcnt'
      have hlen'' : _ → _ < c.maxHeadersBytes := hlen'
      refine ⟨⟨b :: text, nofun, ?_⟩ :: ts, ?_, hout, ?_, ?_, ?_⟩
      · intro b' hb'
        cases hb' with
        | head => exact hb
        | tail _ hm => exact hp b' hm
      · simp [TrailerLine.bytes]
      · intro _
        cases ts with
        | nil => simpa using hcntc
        | cons t ts =>
          have := hcnt'' (List.cons_ne_nil _ _)
          simp only [List.length_cons] at this ⊢
          omega
      · intro _
        simpa [TrailerLine.bytes] using hlen'' (.inr nofun)
      · simpa [TrailerLine.bytes, Nat.add_assoc, Nat.add_comm 1] using hf
    cases ht with
    | firstTrailer hs hb hnone =>
      rw [(Took.firstTrailer hs hb hnone).run (by simp)] at h
      exact hline hb (by simpa [hnone] using h)
    | nextTrailer buf hs hb hsome hlt =>
      rw [(Took.nextTrailer buf hs hb hsome hlt).run (by simp)] at h
      exact hline hb (by simpa [hsome] using h)
    | endCr hs hb hnone =>
      rw [(Took.endCr hs hb hnone).run (by simp)] at h
      obtain ⟨rfl, hout, -, hf⟩ := last_of_halted rfl h
      simp only [hnone] at hf
      exact ⟨[], by simp [crlf, hb], hout, by simp, by simp [hnone], by simpa [hnone] using hf⟩
    | trailersCr buf hs hb hsome hlt =>
      rw [(Took.trailersCr buf hs hb hsome hlt).run (by simp)] at h
      obtain ⟨rfl, hout, hlen, hf⟩ := last_of_halted rfl h
      have hlen' : _ < c.maxHeadersBytes := hlen _ rfl
      subst hb
      refine ⟨[], by simp [crlf], hout, by simp, fun _ => ?_, ?_⟩
      · simpa [hsome, crlf] using hlen'
      · simpa [hsome, crlf] using hf
    | _ => simp_all

/-- The chunks of a body and what follows them, by induction on the length of the input. -/
theorem message_of_halted (n : Nat) (hn : input.length ≤ n) (hc : c.state = .start)
    (h0 : c.chunkLen = 0) (hnone : c.trailersBuf = none) (hcnt : c.trailersCnt = 0)
    (hx : c.extensionsCnt < chunkedExtensionsLimit)
    (h : chunkedRun P c input = ⟨out, rest, .halted f⟩) :
    ∃ m : Message, input = m.bytes ++ rest ∧ out = m.data ∧ m.fields P = .ok f ∧
      (∀ k ∈ m.chunks, k.data.length < u64Size) ∧
      c.extensionsCnt + m.extensionLen < chunkedExtensionsLimit ∧
      m.trailers.length ≤ c.maxHeadersCnt ∧
      (m.trailers ≠ [] → (m.trailerBytes ++ crlf).length < c.maxHeadersBytes) := by
  induction n generalizing c input out with
  | zero =>
    obtain ⟨b, bs, c', rfl, -⟩ := took_of_halted (by simp [hc]) (by simp [hc]) h
    simp at hn
  | succ n ih =>
    obtain ⟨l, input', rfl, hv, hx', hrun⟩ := line_of_halted hc h0 hx h
    by_cases hz : l.value = 0
    · have hend : (c.sized l).state = .endCr := by simp [Chunked.sized, hz]
      obtain ⟨ts, rfl, hout, hcnt', hlen, hf⟩ := section_of_halted _ (Nat.le_refl _) hend hrun
      have hb : (c.sized l).trailersBuf = none := hnone
      have hcnt'' : ts ≠ [] → _ ≤ c.maxHeadersCnt := hcnt'
      have hlen' : _ → _ < c.maxHeadersBytes := hlen
      have hzero : (c.sized l).trailersCnt = 0 := hcnt
      refine ⟨⟨[], l, hz, ts⟩, ?_, ?_, ?_, nofun, ?_, ?_, ?_⟩
      · simp [Message.bytes, Message.trailerBytes]
      · simpa [Message.data] using hout
      · simpa [Message.fields, Message.trailerBytes, hb, hzero] using hf
      · simpa [Message.extensionLen] using hx'
      · by_cases hts : ts = []
        · simp [hts]
        · simpa [hzero] using hcnt'' hts
      · intro hts
        simpa [Message.trailerBytes, hb] using hlen' (.inl hts)
    · have hbody : (c.sized l).state = .body := by simp [Chunked.sized, hz]
      obtain ⟨data, input₁, out', rfl, hlen, rfl, hrun'⟩ :=
        data_of_halted hbody (Nat.pos_of_ne_zero hz) hrun
      have hval : l.value = data.length := hlen.symm
      have hcr : ((c.sized l).skip data.length).state = .bodyCr := by
        simp [Chunked.skip, hlen]
      obtain ⟨input₂, rfl, hrun''⟩ := crlf_of_halted hcr hrun'
      have hzero : (c.sized l).chunkLen - data.length = 0 := by rw [hlen, Nat.sub_self]
      obtain ⟨m, rfl, rfl, hf, hsz, hxm, hcm, hlm⟩ := ih
        (c := { (c.sized l).skip data.length with state := .start })
        (by simp [crlf] at hn; omega) rfl hzero hnone hcnt hx' hrun''
      have hxm' : c.extensionsCnt + l.extensionLen + m.extensionLen < chunkedExtensionsLimit := hxm
      have hne : data ≠ [] := by
        intro hnil
        rw [hnil] at hval
        exact hz hval
      refine ⟨⟨⟨l, data, hne, hval⟩ :: m.chunks, m.last, m.last_zero, m.trailers⟩, ?_, ?_, hf, ?_,
        ?_, hcm, hlm⟩
      · simp [Message.bytes, Message.trailerBytes, Chunk.bytes]
      · simp [Message.data]
      · intro k hk
        cases hk with
        | head => exact hval ▸ hv
        | tail _ hm => exact hsz k hm
      · simp only [Message.extensionLen, List.map_cons, List.sum_cons] at hxm' ⊢
        omega

end Sound

end Httpunk.H1.Decode
