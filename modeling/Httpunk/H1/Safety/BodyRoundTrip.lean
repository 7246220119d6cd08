import Httpunk.H1.Safety.Chunks
import Httpunk.H1.Safety.Coalesce

/-!
# H1 — Safety — BodyRoundTrip

The body that one end frames and streams is the body that the other end reads, whatever the framing
and however the bytes are split, and the bytes behind it are left alone.

* `accepted_iff`: a chunked body is complete for the messages of the format.
* `Readable`: what a reader is relied on for where there are trailers.
* `body_round_trip`: the codec's writes, read.
-/

namespace Httpunk.H1.Decode

open Httpunk.Incremental

variable {P : TrailerParser}

/-! ### Chunked bodies that are complete -/

theorem Outcome.ofRun_complete
    (r : Run (Decoder × Option Fields) UInt8 UInt8 DecodeError (Option Fields))
    {data rest : Bytes} {f : Option Fields} :
    Outcome.ofRun r = ⟨data, true, none, f, rest⟩ ↔ r = ⟨data, rest, .halted f⟩ := by
  obtain ⟨out, left, status⟩ := r
  cases status with
  | reading s => simp [Outcome.ofRun]
  | halted v =>
    simp only [Outcome.ofRun, Outcome.mk.injEq, Run.mk.injEq, Status.halted.injEq, true_and]
    tauto
  | failed e => simp [Outcome.ofRun]

theorem emit_eq_reading {o : Bytes}
    {r : Run (Decoder × Option Fields) UInt8 UInt8 DecodeError (Option Fields)}
    {s : Decoder × Option Fields} (h : (r.emit o).status = .reading s) : r.status = .reading s := h

/-- A chunked body is at no end where the transport ends within it. -/
theorem reading_chunked {c : Chunked} {f : Option Fields} {input : Bytes}
    {s : Decoder × Option Fields} (h : ((reader P).run (.chunked c, f) input).status = .reading s) :
    ∃ c', s.1 = .chunked c' := by
  induction input generalizing c f with
  | nil =>
    cases hr : (reader P).result (.chunked c, f) with
    | some v =>
      rw [Reader.run_halted hr] at h
      cases h
    | none =>
      rw [Reader.run_nil hr] at h
      cases h
      exact ⟨c, rfl⟩
  | cons b bs ih =>
    cases hr : (reader P).result (.chunked c, f) with
    | some v =>
      rw [Reader.run_halted hr] at h
      cases h
    | none =>
      cases hs : (reader P).step (.chunked c, f) b with
      | error e =>
        rw [Reader.run_error hr hs] at h
        cases h
      | ok p =>
        obtain ⟨⟨d, g⟩, out⟩ := p
        rw [Reader.run_ok hr hs] at h
        have hd : ∃ c', d = .chunked c' := by
          simp only [reader] at hs
          by_cases hb : c.state = .body
          · simp only [if_pos hb] at hs
            cases hs
            exact ⟨_, rfl⟩
          · simp only [if_neg hb, Chunked.through] at hs
            cases ho : c.onByte b with
            | error e => simp [ho] at hs
            | ok c' =>
              simp only [ho] at hs
              split at hs
              · rename_i buf _ _
                cases hd : P.decodeTrailers buf c'.trailersCnt with
                | error e => simp [hd, Except.map] at hs
                | ok fields =>
                  simp only [hd, Except.map] at hs
                  cases hs
                  exact ⟨_, rfl⟩
              · cases hs
                exact ⟨_, rfl⟩
        obtain ⟨c', rfl⟩ := hd
        exact ih (emit_eq_reading h)

/-- **The decoder accepts the chunked messages within its limits, and them alone.**  Whatever the
pieces and whenever it was asked: the body is complete with its data and its trailers exactly where
the bytes are a message with that data and those trailers, and what is left are the bytes behind
it. -/
theorem accepted_iff (length : Nat) (maxHeaders maxHeaderSize : Option Nat)
    (ks : List (Batched.Call UInt8)) (eof : Bool) (data rest : Bytes) (f : Option Fields) :
    (((Reading.start .chunked length maxHeaders maxHeaderSize).calls P ks).drain P eof).outcome =
        ⟨data, true, none, f, rest⟩ ↔
      ∃ m : Message, m.Within maxHeaders maxHeaderSize ∧ Batched.Call.fed ks = m.bytes ++ rest ∧
        data = m.data ∧ m.fields P = .ok f := by
  rw [Reading.outcome_of_fed, Outcome.ofRun_complete]
  have hscan : (reader P).scan eof
        (Decoder.new .chunked length maxHeaders maxHeaderSize, none) (Batched.Call.fed ks) =
          ⟨data, rest, .halted f⟩ ↔
      chunkedRun P (freshChunked maxHeaders maxHeaderSize) (Batched.Call.fed ks) =
        ⟨data, rest, .halted f⟩ := by
    cases eof with
    | false => rfl
    | true =>
      change (reader P).close (chunkedRun P _ _) = _ ↔ _
      cases hr : (chunkedRun P (freshChunked maxHeaders maxHeaderSize)
        (Batched.Call.fed ks)).status with
      | reading s =>
        obtain ⟨c', hc'⟩ := reading_chunked hr
        have hend : ∃ e, (reader P).atEnd s = .error e := by
          simp only [reader, hc']
          split_ifs <;> exact ⟨_, rfl⟩
        obtain ⟨e, he⟩ := hend
        refine ⟨fun h => ?_, fun h => ?_⟩
        · simp only [Reader.close, hr, he] at h
          exact absurd (congrArg Run.status h) (by simp)
        · rw [h] at hr
          cases hr
      | halted v => simp only [Reader.close, hr]
      | failed e => simp only [Reader.close, hr]
  rw [hscan]
  constructor
  · intro h
    obtain ⟨m, hin, hout, hf, hsz, hx, hcnt, hlen⟩ :=
      message_of_halted _ (Nat.le_refl _) rfl rfl rfl rfl
        (show 0 < chunkedExtensionsLimit by decide) h
    refine ⟨m, ⟨hsz, ?_, hcnt, hlen⟩, hin, hout, hf⟩
    simpa using hx
  · rintro ⟨m, hw, hin, rfl, hf⟩
    rw [hin, run_message m hw, hf]
    rfl

/-! ### What the encoder writes -/

/-- A hexadecimal digit as it is written. -/
def hexByte (d : Char) : UInt8 := UInt8.ofNat d.toUpper.toNat

theorem hexDigit_digitChar {d : Nat} (h : d < 16) :
    hexDigit (hexByte d.digitChar) = some d := by
  have : ∀ d : Fin 16, hexDigit (hexByte d.val.digitChar) = some d.val := by decide
  exact this ⟨d, h⟩

theorem sizeValue_append (v : Nat) (xs ys : Bytes) :
    sizeValue v (xs ++ ys) = sizeValue (sizeValue v xs) ys := List.foldl_append

/-- The digits of a length, and their value, by induction on the length. -/
theorem sizeValue_toDigits (n : Nat) :
    sizeValue 0 ((Nat.toDigits 16 n).map hexByte) = n ∧
      ∀ b ∈ (Nat.toDigits 16 n).map hexByte, (hexDigit b).isSome := by
  induction n using Nat.strongRecOn with
  | ind n ih =>
    rw [Nat.toDigits_eq_if (by decide)]
    by_cases hn : n < 16
    · simp [hn, hexDigit_digitChar hn]
    · have hlt : n % 16 < 16 := Nat.mod_lt n (by decide)
      obtain ⟨hv, hx⟩ := ih (n / 16) (by omega)
      simp only [if_neg hn, List.map_append, List.map_cons, List.map_nil, sizeValue_append, hv,
        sizeValue_cons, sizeValue_nil, hexDigit_digitChar hlt, Option.getD_some]
      refine ⟨by omega, fun b hb => ?_⟩
      rcases List.mem_append.mp hb with hb | hb
      · exact hx b hb
      · rw [List.mem_singleton.mp hb, hexDigit_digitChar hlt]
        rfl

/-- The size line that the encoder writes. -/
def SizeLine.ofLength (n : Nat) : SizeLine where
  digits := (Nat.toDigits 16 n).map hexByte
  digits_ne := by simp [Nat.toDigits_ne_nil]
  hex := (sizeValue_toDigits n).2
  blank := by simp
  plain := by simp

theorem SizeLine.value_ofLength (n : Nat) : (ofLength n).value = n := (sizeValue_toDigits n).1

/-- The chunk that the encoder makes of a piece of a body. -/
def Chunk.ofPiece (piece : Bytes) (h : piece ≠ []) : Chunk where
  line := .ofLength piece.length
  data := piece
  data_ne := h
  sized := SizeLine.value_ofLength _

@[simp] theorem Chunk.ofPiece_data (piece : Bytes) (h : piece ≠ []) :
    (ofPiece piece h).data = piece := rfl

/-- The pieces of a body that are written. -/
def pieces (chunks : List Bytes) : List Chunk :=
  chunks.filterMap fun piece => if h : piece = [] then none else some (.ofPiece piece h)

theorem pieces_data (chunks : List Bytes) : (pieces chunks).flatMap Chunk.data = chunks.flatten := by
  induction chunks with
  | nil => rfl
  | cons piece chunks ih =>
    unfold pieces at ih ⊢
    by_cases h : piece = []
    · simp [h, ih]
    · simp [h, ih]

theorem mem_pieces {chunks : List Bytes} {k : Chunk} (h : k ∈ pieces chunks) :
    k.data ∈ chunks ∧ k.line.extensionLen = 0 := by
  simp only [pieces, List.mem_filterMap] at h
  obtain ⟨piece, hm, hk⟩ := h
  split_ifs at hk
  cases hk
  exact ⟨hm, rfl⟩

theorem pieces_extensions (chunks : List Bytes) :
    ((pieces chunks).map fun k => k.line.extensionLen).sum = 0 := by
  refine List.sum_eq_zero fun n hn => ?_
  obtain ⟨k, hk, rfl⟩ := List.mem_map.mp hn
  exact (mem_pieces hk).2

/-- A header name as it is written. -/
def nameText (titleCaseHeaders : Bool) (name : String) : Bytes :=
  (if titleCaseHeaders then titleCase '-' name.toList else name.toList).map
    fun c => UInt8.ofNat c.toNat

/-- A header field as it is written, up to its line end. -/
def fieldText (titleCaseHeaders : Bool) (f : String × Bytes) : Bytes :=
  nameText titleCaseHeaders f.1 ++ [58, 32] ++ f.2

theorem writeHeaders_eq (titleCaseHeaders : Bool) (fields : Trailers) :
    writeHeaders titleCaseHeaders fields =
      fields.flatMap fun f => fieldText titleCaseHeaders f ++ crlf := rfl

theorem writeHeaders_isEmpty (titleCaseHeaders : Bool) (fields : Trailers) :
    (writeHeaders titleCaseHeaders fields).isEmpty = fields.isEmpty := by
  cases fields with
  | nil => rfl
  | cons f fields => simp [writeHeaders_eq, fieldText]

/-- The trailers that are written. -/
def sentTrailers (c : Codec) (k : EncodeKind) (trailers : Option Trailers) : Trailers :=
  match k, trailers with
  | .chunked (some allowed), some t =>
    if c.allowTrailerFields then
      t.filter fun f => allowed.contains f.1 && isValidTrailerField f.1
    else []
  | _, _ => []

/-- The end of a chunked body: the last chunk and the trailers that are written. -/
theorem finish_chunked {c : Codec} {allowed : Option (List String)}
    (hk : c.encoder = some (.chunked allowed)) (trailers : Option Trailers) :
    (match trailers with
      | some t => c.serializeTrailers t
      | none => c.serializeEnd).2 =
    .ok (chunkSize 0 ++ (writeHeaders c.titleCaseHeaders
      (sentTrailers c (.chunked allowed) trailers) ++ crlf)) := by
  have hterm : chunkedTerminator = chunkSize 0 ++ crlf := by decide
  cases trailers with
  | none =>
    cases allowed <;>
      simp [Codec.serializeEnd, hk, EncodeKind.finish, hterm, sentTrailers, writeHeaders]
  | some t =>
    cases ha : c.allowTrailerFields with
    | false =>
      cases allowed <;>
        simp [Codec.serializeTrailers, hk, ha, EncodeKind.finish, hterm, sentTrailers, writeHeaders]
    | true =>
      cases allowed with
      | none =>
        simp [Codec.serializeTrailers, hk, ha, EncodeKind.finishWithTrailers,
          EncodeKind.encodeTrailers, EncodeKind.finish, hterm, sentTrailers, writeHeaders]
      | some allowed =>
        simp only [Codec.serializeTrailers, hk, ha, if_true, EncodeKind.finishWithTrailers,
          EncodeKind.encodeTrailers, sentTrailers, writeHeaders_isEmpty]
        by_cases hn : (t.filter fun f => allowed.contains f.1 && isValidTrailerField f.1).isEmpty
        · rw [if_pos hn, List.isEmpty_iff.mp hn]
          rfl
        · rw [if_neg hn]
          rfl

/-- The pieces of a body, framed one after the other. -/
def encodeAll (k : EncodeKind) : List Bytes → EncodeKind × Bytes
  | [] => (k, [])
  | piece :: chunks =>
    if piece.isEmpty then encodeAll k chunks
    else
      let r := encodeAll (k.encode piece).1 chunks
      (r.1, (k.encode piece).2 ++ r.2)

theorem sendChunks_eq {c : Codec} {k : EncodeKind} (hk : c.encoder = some k) (s : Codec.Sent)
    (hs : s.raised = none) (chunks : List Bytes) :
    (c.sendChunks s chunks).1 = { c with encoder := some (encodeAll k chunks).1 } ∧
      (c.sendChunks s chunks).2.raised = none ∧
      (c.sendChunks s chunks).2.writes.flatten = s.writes.flatten ++ (encodeAll k chunks).2 := by
  induction chunks generalizing c k s with
  | nil =>
    obtain ⟨encoder, allow, title⟩ := c
    cases hk
    exact ⟨rfl, hs, (List.append_nil _).symm⟩
  | cons piece chunks ih =>
    cases hp : piece.isEmpty with
    | true =>
      cases List.isEmpty_iff.mp hp
      have hnone : (s.put (.ok [])).raised = none := hs
      have hstep : c.sendChunks s ([] :: chunks) = c.sendChunks s chunks := by
        simp only [Codec.sendChunks, Codec.serializeData, List.isEmpty_nil, if_true]
        have hw : s.put (.ok []) = s := rfl
        simp only [hw, hs, Option.isSome_none, Bool.false_eq_true, if_false]
      rw [hstep, encodeAll, if_pos hp]
      exact ih hk s hs
    | false =>
      obtain ⟨hw, hr⟩ := Codec.Sent.write_flatten s (k.encode piece).2
      have hstep : c.sendChunks s (piece :: chunks) =
          ({ c with encoder := some (k.encode piece).1 } : Codec).sendChunks
            (s.write (k.encode piece).2) chunks := by
        simp only [Codec.sendChunks, Codec.serializeData_of hk hp, Codec.Sent.put, hr, hs,
          Option.isSome_none, Bool.false_eq_true, if_false]
      obtain ⟨h₁, h₂, h₃⟩ := ih (c := { c with encoder := some (k.encode piece).1 }) rfl
        (s.write (k.encode piece).2) (hr.trans hs)
      rw [hstep, encodeAll, if_neg (by simp [hp])]
      exact ⟨h₁, h₂, by rw [h₃, hw, List.append_assoc]⟩

theorem encodeAll_chunked (allowed : Option (List String)) (chunks : List Bytes) :
    encodeAll (.chunked allowed) chunks =
      (.chunked allowed, (pieces chunks).flatMap Chunk.bytes) := by
  induction chunks with
  | nil => rfl
  | cons piece chunks ih =>
    unfold pieces at ih ⊢
    by_cases h : piece = []
    · simp [encodeAll, h, ih]
    · have hb : (Chunk.ofPiece piece h).bytes = chunkSize piece.length ++ (piece ++ crlf) := rfl
      simp [encodeAll, h, ih, EncodeKind.encode, hb]

theorem encodeAll_close (chunks : List Bytes) :
    encodeAll .closeDelimited chunks = (.closeDelimited, chunks.flatten) := by
  induction chunks with
  | nil => rfl
  | cons piece chunks ih =>
    by_cases h : piece = []
    · simp [encodeAll, h, ih]
    · simp [encodeAll, h, ih, EncodeKind.encode]

/-- A sized body is cut at its length. -/
theorem encodeAll_length (n : Nat) (chunks : List Bytes) :
    encodeAll (.length n) chunks =
      (.length (n - chunks.flatten.length), chunks.flatten.take n) := by
  induction chunks generalizing n with
  | nil => simp [encodeAll]
  | cons piece chunks ih =>
    by_cases h : piece = []
    · simp [encodeAll, h, ih]
    · by_cases hlt : n < piece.length
      · have ht : n - piece.length = 0 := by omega
        simp [encodeAll, h, EncodeKind.encode, hlt, ih, List.take_append, ht]
        omega
      · have ht : piece.take n = piece := List.take_of_length_le (by omega)
        simp [encodeAll, h, EncodeKind.encode, hlt, ih, List.take_append, ht, Nat.sub_sub]

/-! ### The round trip -/

/-- How the reader of a body is told its framing. -/
def framing : EncodeKind → BodyKind × Nat
  | .chunked _ => (.chunked, 0)
  | .length n => (.length, n)
  | .closeDelimited => (.close, 0)

/-- What a framing carries of a body: a sized one is cut at its length. -/
def carried (k : EncodeKind) (body : Bytes) : Bytes :=
  match k with
  | .length n => body.take n
  | _ => body

/-- What is relied on for a trailer section: its fields have no carriage return, they are within
the limits of the reader, `httparse` splits the section into the names and the values that were
written (a value has no blank at its ends then), and the `http` crate takes these. -/
structure Readable (P : TrailerParser) (titleCaseHeaders : Bool) (fields : Trailers)
    (maxHeaders maxHeaderSize : Option Nat) : Prop where
  plain : ∀ f ∈ fields, ∀ b ∈ fieldText titleCaseHeaders f, b ≠ 13
  count : fields.length ≤ maxHeaders.getD defaultMaxHeaders
  size : (writeHeaders titleCaseHeaders fields ++ crlf).length < maxHeaderSize.getD trailerLimit
  parse : P.parseHeaders (writeHeaders titleCaseHeaders fields ++ crlf) fields.length =
    .complete (fields.map fun f => (nameText titleCaseHeaders f.1, f.2))
  name : ∀ f ∈ fields, P.headerName (nameText titleCaseHeaders f.1) = some f.1
  value : ∀ f ∈ fields, P.headerValue f.2 = some f.2

/-- The fields of a section are read back one by one. -/
theorem mapM_field {titleCaseHeaders : Bool} {fields : Trailers}
    (hn : ∀ f ∈ fields, P.headerName (nameText titleCaseHeaders f.1) = some f.1)
    (hv : ∀ f ∈ fields, P.headerValue f.2 = some f.2) :
    (fields.map fun f => (nameText titleCaseHeaders f.1, f.2)).mapM P.field = .ok fields := by
  induction fields with
  | nil => rfl
  | cons f fields ih =>
    have hrest := ih (fun g hg => hn g (List.mem_cons_of_mem _ hg))
      fun g hg => hv g (List.mem_cons_of_mem _ hg)
    have hfield : P.field (nameText titleCaseHeaders f.1, f.2) = .ok f := by
      unfold TrailerParser.field
      rw [hn f List.mem_cons_self]
      dsimp only
      rw [hv f List.mem_cons_self]
    rw [List.map_cons, List.mapM_cons, hfield, hrest]
    rfl

/-- **`decode_trailers` reads the section that was written.** -/
theorem Readable.read {titleCaseHeaders : Bool} {fields : Trailers}
    {maxHeaders maxHeaderSize : Option Nat}
    (h : Readable P titleCaseHeaders fields maxHeaders maxHeaderSize) :
    P.decodeTrailers (writeHeaders titleCaseHeaders fields ++ crlf) fields.length = .ok fields := by
  unfold TrailerParser.decodeTrailers
  rw [h.parse]
  exact mapM_field h.name h.value

/-- The trailer lines that are written. -/
def TrailerLine.ofField (titleCaseHeaders : Bool) (f : String × Bytes)
    (h : ∀ b ∈ fieldText titleCaseHeaders f, b ≠ 13) : TrailerLine where
  text := fieldText titleCaseHeaders f
  text_ne := by simp [fieldText]
  plain := h

/-- The message that is written. -/
def sentMessage (titleCaseHeaders : Bool) (fields : Trailers)
    (h : ∀ f ∈ fields, ∀ b ∈ fieldText titleCaseHeaders f, b ≠ 13) (chunks : List Bytes) :
    Message where
  chunks := pieces chunks
  last := .ofLength 0
  last_zero := SizeLine.value_ofLength 0
  trailers := fields.pmap (TrailerLine.ofField titleCaseHeaders) h

theorem trailerBytes_pmap (titleCaseHeaders : Bool) (fields : Trailers)
    (h : ∀ f ∈ fields, ∀ b ∈ fieldText titleCaseHeaders f, b ≠ 13) :
    (fields.pmap (TrailerLine.ofField titleCaseHeaders) h).flatMap TrailerLine.bytes =
      writeHeaders titleCaseHeaders fields := by
  induction fields with
  | nil => rfl
  | cons f fields ih =>
    have hf := ih fun f hf => h f (List.mem_cons_of_mem _ hf)
    rw [writeHeaders_eq] at hf ⊢
    rw [List.pmap, List.flatMap_cons, List.flatMap_cons, hf]
    rfl

theorem sentMessage_bytes (titleCaseHeaders : Bool) (fields : Trailers)
    (h : ∀ f ∈ fields, ∀ b ∈ fieldText titleCaseHeaders f, b ≠ 13) (chunks : List Bytes) :
    (sentMessage titleCaseHeaders fields h chunks).bytes =
      (pieces chunks).flatMap Chunk.bytes ++
        (chunkSize 0 ++ (writeHeaders titleCaseHeaders fields ++ crlf)) := by
  rw [← trailerBytes_pmap titleCaseHeaders fields h]
  rfl

theorem sentMessage_within {titleCaseHeaders : Bool} {fields : Trailers}
    {maxHeaders maxHeaderSize : Option Nat}
    (h : ∀ f ∈ fields, ∀ b ∈ fieldText titleCaseHeaders f, b ≠ 13)
    (hr : fields ≠ [] → Readable P titleCaseHeaders fields maxHeaders maxHeaderSize)
    {chunks : List Bytes} (hs : ∀ piece ∈ chunks, piece.length < u64Size) :
    (sentMessage titleCaseHeaders fields h chunks).Within maxHeaders maxHeaderSize where
  sizes := fun k hk => hs _ (mem_pieces hk).1
  extensions := by
    have h0 : (SizeLine.ofLength 0).extensionLen = 0 := rfl
    simp only [Message.extensionLen, sentMessage, pieces_extensions, h0]
    decide
  count := by
    simp only [sentMessage, List.length_pmap]
    by_cases hf : fields = []
    · simp [hf]
    · exact (hr hf).count
  section_lt := by
    intro hne
    have hf : fields ≠ [] := by
      intro hnil
      subst hnil
      exact hne rfl
    have hb : (sentMessage titleCaseHeaders fields h chunks).trailerBytes = _ :=
      trailerBytes_pmap titleCaseHeaders fields h
    rw [hb]
    exact (hr hf).size

theorem sentMessage_fields {titleCaseHeaders : Bool} {fields : Trailers}
    {maxHeaders maxHeaderSize : Option Nat}
    (h : ∀ f ∈ fields, ∀ b ∈ fieldText titleCaseHeaders f, b ≠ 13)
    (hr : fields ≠ [] → Readable P titleCaseHeaders fields maxHeaders maxHeaderSize)
    (chunks : List Bytes) :
    (sentMessage titleCaseHeaders fields h chunks).fields P =
      .ok (if fields.isEmpty then none else some fields) := by
  have hb : (sentMessage titleCaseHeaders fields h chunks).trailerBytes = _ :=
    trailerBytes_pmap titleCaseHeaders fields h
  by_cases hf : fields = []
  · subst hf
    rfl
  · have hlen : (sentMessage titleCaseHeaders fields h chunks).trailers.length = fields.length :=
      List.length_pmap ..
    have hne : (sentMessage titleCaseHeaders fields h chunks).trailers.isEmpty = false := by
      rw [Bool.eq_false_iff, ne_eq, List.isEmpty_iff_length_eq_zero, hlen]
      simpa using hf
    have hf' : fields.isEmpty = false := by simpa using hf
    simp only [Message.fields, hne, Bool.false_eq_true, if_false, hb, hlen, (hr hf).read, Except.map,
      hf']

/-- The end of a body that is not chunked: there are no trailers. -/
theorem finish_plain {c : Codec} {k : EncodeKind} (hk : c.encoder = some k)
    (hc : k.isChunked = false) (trailers : Option Trailers) :
    (match trailers with
      | some t => c.serializeTrailers t
      | none => c.serializeEnd).2 = k.finish := by
  have ht (t : Trailers) : k.finishWithTrailers t c.titleCaseHeaders = k.finish := by
    cases k with
    | chunked allowed => cases hc
    | length n => rfl
    | closeDelimited => rfl
  cases trailers with
  | none => simp [Codec.serializeEnd, hk]
  | some t => simp [Codec.serializeTrailers, hk, ht]

/-- The writes of a body that is streamed to its end. -/
theorem sendBody_written {c : Codec} {k : EncodeKind} (hk : c.encoder = some k)
    (chunks : List Bytes) (trailers : Option Trailers)
    (hok : (c.sendBody ⟨[], none⟩ (some chunks) trailers).2.raised = none) :
    match k with
    | .length n =>
      n ≤ chunks.flatten.length ∧
        (c.sendBody ⟨[], none⟩ (some chunks) trailers).2.writes.flatten = chunks.flatten.take n
    | .closeDelimited =>
      (c.sendBody ⟨[], none⟩ (some chunks) trailers).2.writes.flatten = chunks.flatten
    | .chunked _ =>
      (c.sendBody ⟨[], none⟩ (some chunks) trailers).2.writes.flatten =
        (pieces chunks).flatMap Chunk.bytes ++ (chunkSize 0 ++
          (writeHeaders c.titleCaseHeaders (sentTrailers c k trailers) ++ crlf)) := by
  have heof : c.bodyIsEof = k.isEof := by simp [Codec.bodyIsEof, hk]
  cases hz : k.isEof with
  | true =>
    have hk0 : k = .length 0 := by
      unfold EncodeKind.isEof at hz
      split at hz
      · rfl
      · cases hz
    subst hk0
    refine ⟨Nat.zero_le _, ?_⟩
    simp [Codec.sendBody, heof, hz, Codec.serializeEnd, hk, EncodeKind.finish, Codec.Sent.put,
      Codec.Sent.write]
  | false =>
    obtain ⟨h₁, h₂, h₃⟩ := sendChunks_eq hk ⟨[], none⟩ rfl chunks
    have htail : (c.sendBody ⟨[], none⟩ (some chunks) trailers).2 =
        (c.sendChunks ⟨[], none⟩ chunks).2.put
          (match trailers with
            | some t => (c.sendChunks ⟨[], none⟩ chunks).1.serializeTrailers t
            | none => (c.sendChunks ⟨[], none⟩ chunks).1.serializeEnd).2 := by
      cases trailers <;>
        simp only [Codec.sendBody, heof, hz, Bool.false_eq_true, if_false, Option.getD_some, h₂,
          Option.isSome_none]
    rw [htail, h₁] at hok ⊢
    cases k with
    | chunked allowed =>
      rw [encodeAll_chunked] at hok h₃ ⊢
      have hfin := finish_chunked (c := { c with encoder := some (.chunked allowed) }) rfl trailers
      dsimp only at hfin ⊢
      rw [hfin]
      obtain ⟨hw, -⟩ := Codec.Sent.write_flatten (c.sendChunks ⟨[], none⟩ chunks).2
        (chunkSize 0 ++ (writeHeaders c.titleCaseHeaders
          (sentTrailers c (.chunked allowed) trailers) ++ crlf))
      refine Eq.trans hw ?_
      rw [h₃]
      rfl
    | length n =>
      rw [encodeAll_length] at hok h₃ ⊢
      have hfin := finish_plain
        (c := { c with encoder := some (.length (n - chunks.flatten.length)) }) rfl rfl trailers
      dsimp only at hfin hok h₃ ⊢
      rw [hfin] at hok ⊢
      cases hrem : n - chunks.flatten.length with
      | zero =>
        refine ⟨by omega, ?_⟩
        obtain ⟨hw, -⟩ := Codec.Sent.write_flatten (c.sendChunks ⟨[], none⟩ chunks).2 []
        refine Eq.trans hw ?_
        rw [h₃]
        simp
      | succ m =>
        rw [hrem] at hok
        cases hok
    | closeDelimited =>
      rw [encodeAll_close] at h₃ ⊢
      have hfin := finish_plain (c := { c with encoder := some .closeDelimited }) rfl rfl trailers
      dsimp only at hfin h₃ ⊢
      rw [hfin]
      obtain ⟨hw, -⟩ := Codec.Sent.write_flatten (c.sendChunks ⟨[], none⟩ chunks).2 []
      refine Eq.trans hw ?_
      rw [h₃]
      simp

/-- **What one end streams, the other end reads.**  For every framing of the encoder, every body in
whatever chunks, with readable trailers or none: where the sender raises nothing, a reader of that
framing that is given the writes and whatever comes behind them (the transport's end, where that
ends the body), in any pieces and asked at any time, finds the body as the framing carries it and
the trailers that were sent, and leaves what is behind alone. -/
theorem body_round_trip {c : Codec} {k : EncodeKind} (hk : c.encoder = some k)
    (chunks : List Bytes) (trailers : Option Trailers) (maxHeaders maxHeaderSize : Option Nat)
    (hsize : ∀ piece ∈ chunks, piece.length < u64Size)
    (hread : sentTrailers c k trailers ≠ [] →
      Readable P c.titleCaseHeaders (sentTrailers c k trailers) maxHeaders maxHeaderSize)
    (hok : (c.sendBody ⟨[], none⟩ (some chunks) trailers).2.raised = none)
    (rest : Bytes) (eof : Bool) (hclose : k = .closeDelimited → rest = [] ∧ eof = true)
    (ks : List (Batched.Call UInt8))
    (hfed : Batched.Call.fed ks =
      (c.sendBody ⟨[], none⟩ (some chunks) trailers).2.writes.flatten ++ rest) :
    (((Reading.start (framing k).1 (framing k).2 maxHeaders maxHeaderSize).calls P ks).drain
        P eof).outcome =
      ⟨carried k chunks.flatten, true, none,
        if (sentTrailers c k trailers).isEmpty then none else some (sentTrailers c k trailers),
        rest⟩ := by
  have hw := sendBody_written hk chunks trailers hok
  cases k with
  | chunked allowed =>
    have hplain : ∀ f ∈ sentTrailers c (.chunked allowed) trailers,
        ∀ b ∈ fieldText c.titleCaseHeaders f, b ≠ 13 := by
      intro f hf
      exact (hread (List.ne_nil_of_mem hf)).plain f hf
    refine (accepted_iff 0 maxHeaders maxHeaderSize ks eof _ rest _).mpr
      ⟨sentMessage c.titleCaseHeaders _ hplain chunks, sentMessage_within hplain hread hsize, ?_, ?_,
        sentMessage_fields hplain hread chunks⟩
    · rw [hfed, hw, sentMessage_bytes]
    · exact (pieces_data chunks).symm
  | length n =>
    obtain ⟨hn, hw⟩ := hw
    have hlen : (chunks.flatten.take n).length = n := List.length_take_of_le hn
    rw [Reading.outcome_of_fed, hfed, hw, Outcome.ofRun_complete]
    change (reader P).scan eof (.length n, none) _ = _
    rw [scan_length eof _ rest hlen.le, hlen, Nat.sub_self,
      Reader.scan_halted _ eof (result_of_isEof rfl none)]
    simp [Run.emit, carried, sentTrailers]
  | closeDelimited =>
    obtain ⟨rfl, rfl⟩ := hclose rfl
    rw [Reading.outcome_of_fed, hfed, hw, Outcome.ofRun_complete]
    change (reader P).scan true (.eof false, none) _ = _
    rw [scan_eof true, scan_nil rfl true]
    simp [Reader.close, reader, Run.emit, carried, sentTrailers]

/-- A body in two chunks and an empty one, with a trailer, split within the first and followed by a
byte of the next message. -/
theorem body_round_trip_trailed :
    let P : TrailerParser := ⟨fun _ _ => .complete [([120, 45, 115, 117, 109], [57])],
      fun name => some (String.ofList (name.map fun b => Char.ofNat b.toNat)), some, fun _ => ""⟩
    let ks := [.feed [50, 13, 10, 104], .pull, .feed [105, 13, 10, 49, 13, 10, 33, 13, 10, 48, 13,
      10, 120, 45, 115, 117, 109, 58, 32, 57, 13, 10, 13, 10, 71]]
    (((Reading.start .chunked 0 none none).calls P ks).drain P false).outcome =
      ⟨[104, 105, 33], true, none, some [("x-sum", [57])], [71]⟩ :=
  body_round_trip (c := ⟨some (.chunked (some ["x-sum"])), true, false⟩) rfl
    [[104, 105], [], [33]] (some [("x-sum", [57]), ("x-other", [56])]) none none (by decide)
    (fun _ => ⟨by decide +kernel, by decide, by decide, rfl, by decide +kernel,
      by decide +kernel⟩) (by decide) [71] false nofun _ (by decide)

end Httpunk.H1.Decode
