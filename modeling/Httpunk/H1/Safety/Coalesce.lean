import Httpunk.H1.Encode

/-!
# H1 — Safety — Coalesce

A message written in one buffer is the message as it is streamed.

* `EncodeKind.verbatim`: a chunk left as it is is the chunk framed.
* `Codec.coalesced_eq_streamed`: the same bytes, or the same error, and the codec as it was left.
-/

namespace Httpunk.H1

/-- A chunk that the framing leaves as it is. -/
theorem EncodeKind.verbatim {k : EncodeKind} {chunk : Bytes} (h : k.isVerbatim chunk = true) :
    (k.encode chunk).2 = chunk := by
  unfold isVerbatim at h
  cases k with
  | chunked fields => cases h
  | length remaining =>
    unfold encode at h ⊢
    by_cases hlt : remaining < chunk.length
    · simp only [hlt, if_true, isChunked, Bool.not_false, Bool.true_and, List.length_take,
        beq_iff_eq] at h
      omega
    · simp only [hlt, if_false]
  | closeDelimited => rfl

namespace Codec

variable {c : Codec}

/-- The bytes of a framed chunk, whether or not it was left as it is. -/
theorem serializeData_of {k : EncodeKind} (hk : c.encoder = some k) {chunk : Bytes}
    (hne : chunk.isEmpty = false) :
    c.serializeData chunk =
      ({ c with encoder := some (k.encode chunk).1 }, .ok (k.encode chunk).2) := by
  unfold serializeData
  simp only [hne, Bool.false_eq_true, if_false, hk]
  by_cases hv : k.isVerbatim chunk = true
  · simp only [hv, if_true, EncodeKind.verbatim hv]
  · simp only [hv, Bool.false_eq_true, if_false]

theorem Sent.write_flatten (s : Sent) (bytes : Bytes) :
    (s.write bytes).writes.flatten = s.writes.flatten ++ bytes ∧
      (s.write bytes).raised = s.raised := by
  unfold Sent.write
  cases bytes with
  | nil => exact ⟨(List.append_nil _).symm, rfl⟩
  | cons b bs =>
    refine ⟨?_, rfl⟩
    simp only [List.isEmpty_cons, Bool.false_eq_true, if_false, List.flatten_append,
      List.flatten_cons, List.flatten_nil, List.append_nil]

/-- What came of a message: the bytes written, or the error raised. -/
def Sent.result (s : Sent) : Except EncodeError Bytes :=
  match s.raised with
  | some err => .error err
  | none => .ok s.writes.flatten

theorem Sent.put_result (s : Sent) (r : Except EncodeError Bytes) (h : s.raised = none) :
    (s.put r).result = r.map fun bytes => s.writes.flatten ++ bytes := by
  unfold Sent.put Sent.result
  cases r with
  | error err => rfl
  | ok bytes =>
    obtain ⟨hw, hr⟩ := s.write_flatten bytes
    simp only [hr, h, hw]
    rfl

/-- The chunks of a single buffer: one frame, or none where it is empty or absent. -/
theorem sendChunks_single {k : EncodeKind} (hk : c.encoder = some k) (s : Sent)
    (hs : s.raised = none) (body : Option Bytes) :
    c.sendChunks s ((aiterBody body).getD []) =
      ({ c with encoder := some (k.framed body).1 }, s.write (k.framed body).2) := by
  have hsame : ({ c with encoder := some k } : Codec) = c := by rw [← hk]
  have hnothing : s.write [] = s := rfl
  unfold EncodeKind.framed
  rcases body with _ | b
  · exact (Prod.ext hsame.symm hnothing.symm)
  · cases hb : b.isEmpty with
    | true =>
      have hnil : b = [] := List.isEmpty_iff.mp hb
      subst hnil
      simp only [aiterBody, Option.map_some, Option.getD_some, sendChunks, serializeData,
        List.isEmpty_nil, if_true, Sent.put, hnothing, hs, Option.isSome_none, Bool.false_eq_true,
        if_false, hsame]
    | false =>
      obtain ⟨-, hr⟩ := s.write_flatten (k.encode b).2
      simp only [aiterBody, Option.map_some, Option.getD_some, sendChunks, serializeData_of hk hb,
        Sent.put, hr, hs, hb, Option.isSome_none, Bool.false_eq_true, if_false]

/-- **One buffer is the head and what is streamed after it.**  For every head, every framing, every
single-buffer body and every trailers: the one path raises what the other raises, and where they
raise nothing the bytes are the same; and both leave the codec with no message in flight. -/
theorem coalesced_eq_streamed (c : Codec) (head : Bytes) (body : Option Bytes)
    (trailers : Option Trailers) :
    (c.serializeHeadAndBody head body trailers).2 =
      (c.sendBody ⟨[head], none⟩ (aiterBody body) trailers).2.result ∧
    (c.serializeHeadAndBody head body trailers).1 =
      (c.sendBody ⟨[head], none⟩ (aiterBody body) trailers).1 ∧
    (c.sendHeadAndBody head body trailers true).2.result =
      (c.sendHeadAndBody head body trailers false).2.result := by
  have hhead : (⟨[head], none⟩ : Sent).writes.flatten = head := by
    simp only [List.flatten_cons, List.flatten_nil, List.append_nil]
  have hboth : (c.serializeHeadAndBody head body trailers).2 =
        (c.sendBody ⟨[head], none⟩ (aiterBody body) trailers).2.result ∧
      (c.serializeHeadAndBody head body trailers).1 =
        (c.sendBody ⟨[head], none⟩ (aiterBody body) trailers).1 := by
    unfold serializeHeadAndBody sendBody
    by_cases heof : c.bodyIsEof = true
    · -- no body is sent: the end alone follows the head
      simp only [heof, if_true]
      rw [Sent.put_result _ _ rfl, hhead]
      unfold serializeEnd
      rcases hk : c.encoder with _ | k
      · refine ⟨?_, rfl⟩
        simp only [Except.map, List.append_nil]
      · have hek : k.isEof = true := by
          unfold bodyIsEof at heof
          rw [hk] at heof
          exact heof
        simp only [hek, if_true, and_self]
    · simp only [heof, Bool.false_eq_true, if_false]
      rcases hk : c.encoder with _ | k
      · unfold bodyIsEof at heof
        rw [hk] at heof
        exact absurd rfl heof
      · have hek : k.isEof = false := by
          unfold bodyIsEof at heof
          rw [hk] at heof
          simpa using heof
        simp only [hek, Bool.false_eq_true, if_false]
        rw [sendChunks_single hk ⟨[head], none⟩ rfl body]
        obtain ⟨hw, hr⟩ := Sent.write_flatten ⟨[head], none⟩ (k.framed body).2
        simp only [hr, Option.isSome_none, Bool.false_eq_true, if_false]
        rcases trailers with _ | t
        · dsimp only
          rw [Sent.put_result _ _ hr, hw, hhead]
          exact ⟨rfl, rfl⟩
        · dsimp only
          rw [Sent.put_result _ _ hr, hw, hhead]
          exact ⟨rfl, rfl⟩
  refine ⟨hboth.1, hboth.2, ?_⟩
  unfold sendHeadAndBody
  simp only [if_true, Bool.false_eq_true, if_false]
  rw [← hboth.1]
  unfold Sent.result
  rcases (c.serializeHeadAndBody head body trailers).2 with err | bytes
  · rfl
  · simp only [List.flatten_cons, List.flatten_nil, List.append_nil]

/-- A chunked body with a trailer that was declared, and one that was not. -/
example : ((⟨some (.chunked (some ["x-sum"])), true, false⟩ : Codec).serializeHeadAndBody [72]
    (some [1, 2]) (some [("x-sum", [57]), ("x-other", [56])])).2 =
      .ok [72, 50, 13, 10, 1, 2, 13, 10, 48, 13, 10, 120, 45, 115, 117, 109, 58, 32, 57, 13, 10,
        13, 10] := by decide

end Codec

end Httpunk.H1
