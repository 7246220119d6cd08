import Httpunk.H2.Driver.Decoder
import Httpunk.Support.Incremental

/-!
# H2 — Safety — ReadSplit

The reads of a connection cut the peer's bytes anywhere.  The frames that come of them, and the
error that ends them, depend on the bytes alone; a read that meets the error hands over none of the
frames it has decoded before it.

* `Decoder.decodeOne_buf`: a frame is decoded without a look at what is behind it.
* `Link.receive_feed`: a read in two parts.
* `byteReader`: the reads of one byte each.
* `Intake.receiveFrames_run`: a read is that.
-/

namespace Httpunk.H2

open Httpunk.Incremental

variable {T P : Type} {v : Vendor T P}

namespace Decoder

/-- Another read buffer. -/
def withBuf (d : Decoder T P) (buf : Bytes) : Decoder T P := { d with buf := buf }

@[simp] theorem withBuf_buf (d : Decoder T P) (buf : Bytes) : (d.withBuf buf).buf = buf := rfl

@[simp] theorem withBuf_withBuf (d : Decoder T P) (buf buf' : Bytes) :
    (d.withBuf buf).withBuf buf' = d.withBuf buf' := rfl

@[simp] theorem withBuf_self (d : Decoder T P) : d.withBuf d.buf = d := rfl

theorem loadHpack_buf (d : Decoder T P) (frame : P) (src buf : Bytes) :
    (d.withBuf buf).loadHpack v frame src =
      ((d.loadHpack v frame src).1.withBuf buf, (d.loadHpack v frame src).2) := by
  unfold loadHpack withBuf
  dsimp only
  rcases v.sizeUpdates (d.limits.maxSizeUpdate.getD d.lastMaxUpdate) src.length d.table src with
    ⟨table, rest, err | err⟩
  · rfl
  · rfl

theorem loadBlock_buf (d : Decoder T P) (part : Partial P) (sid : Nat) (last : Bool)
    (buf : Bytes) :
    (d.withBuf buf).loadBlock v part sid last =
      (d.loadBlock v part sid last).map fun r => (r.1.withBuf buf, r.2) := by
  unfold loadBlock
  rw [loadHpack_buf]
  rcases d.loadHpack v part.frame part.buf with ⟨e, frame, src, res⟩
  dsimp only
  cases classifyHpack res last with
  | error err => rfl
  | ok o =>
    have hevent : (v.event frame).map (fun f => (e.withBuf buf, some f)) =
        ((v.event frame).map fun f => (e, some f)).map fun r => (r.1.withBuf buf, r.2) := by
      cases v.event frame <;> rfl
    cases o with
    | streamReset => rfl
    | done =>
      cases last with
      | true => exact hevent
      | false => rfl
    | needMore =>
      cases last with
      | true => exact hevent
      | false => rfl

/-- A frame is decoded without a look at what is behind it in the buffer. -/
theorem decodeOne_buf (d : Decoder T P) (frame buf : Bytes) :
    decodeOne v (d.withBuf buf) frame =
      (decodeOne v d frame).map fun r => (r.1.withBuf buf, r.2) := by
  have hp : (d.withBuf buf).pending = d.pending := rfl
  have hl : (d.withBuf buf).limits = d.limits := rfl
  unfold decodeOne
  rw [hp, hl]
  by_cases h₁ : d.pending.isSome ∧ kind frame ≠ 9
  · simp only [if_pos h₁, Except.map]
  · by_cases h₂ : kind frame = 1
    · simp only [if_neg h₁, if_pos h₂]
      rcases v.load frame with err | (⟨p, src⟩ | f)
      · rfl
      · exact loadBlock_buf d _ _ _ buf
      · rfl
    · by_cases h₃ : kind frame = 9
      · simp only [if_neg h₁, if_neg h₂, if_pos h₃]
        cases d.pending with
        | none => rfl
        | some part =>
          simp only
          cases continued v d.limits part frame with
          | error err => rfl
          | ok part' => exact loadBlock_buf { d with pending := none } _ _ _ buf
      · simp only [if_neg h₁, if_neg h₂, if_neg h₃]
        cases v.plain frame <;> rfl

/-- What is left of the buffer after a frame. -/
theorem decodeOne_keeps_buf {d e : Decoder T P} {frame : Bytes} {f : Option Frame}
    (h : decodeOne v d frame = .ok (e, f)) : e.buf = d.buf := by
  have hb := decodeOne_buf (v := v) d frame d.buf
  rw [withBuf_self, h] at hb
  simp only [Except.map, Except.ok.injEq, Prod.mk.injEq] at hb
  exact (congrArg Decoder.buf hb.1).trans rfl

/-- A frame is complete, or its head is too large, whatever comes behind. -/
theorem next_feed {d : Decoder T P} (more : Bytes) :
    (∀ err, d.next v = .error err → (d.withBuf (d.buf ++ more)).next v = .error err) ∧
      ∀ e f, d.next v = .ok (some (e, f)) →
        (d.withBuf (d.buf ++ more)).next v = .ok (some (e.withBuf (e.buf ++ more), f)) ∧
          e.buf.length < d.buf.length := by
  have hd (k : Nat) (hk : k < d.buf.length) : (d.buf ++ more).getD k 0 = d.buf.getD k 0 := by
    simp [List.getD, List.getElem?_append_left hk]
  by_cases h9 : d.buf.length < 9
  · have hnext : d.next v = .ok none := if_pos h9
    refine ⟨fun err h => ?_, fun e f h => ?_⟩
    · rw [hnext] at h
      cases h
    · rw [hnext] at h
      cases h
  · have hlen : ¬ (d.buf ++ more).length < 9 := by
      rw [List.length_append]
      omega
    have hpay : payloadLen (d.buf ++ more) = payloadLen d.buf := by
      unfold payloadLen
      rw [hd 0 (by omega), hd 1 (by omega), hd 2 (by omega)]
    have hl : (d.withBuf (d.buf ++ more)).limits = d.limits := rfl
    unfold next
    rw [withBuf_buf, hl, hpay, if_neg h9, if_neg hlen]
    by_cases hmax : payloadLen d.buf > d.limits.maxRecvFrameSize
    · rw [if_pos hmax, if_pos hmax]
      exact ⟨fun err h => h, fun e f h => (by cases h)⟩
    · rw [if_neg hmax, if_neg hmax]
      by_cases htot : d.buf.length < 9 + payloadLen d.buf
      · simp only [if_pos htot]
        exact ⟨fun err h => (by cases h), fun e f h => (by cases h)⟩
      · have htot' : ¬ (d.buf ++ more).length < 9 + payloadLen d.buf := by
          rw [List.length_append]
          omega
        have htake : (d.buf ++ more).take (9 + payloadLen d.buf) =
            d.buf.take (9 + payloadLen d.buf) :=
          List.take_append_of_le_length (by omega)
        have hdrop : (d.buf ++ more).drop (9 + payloadLen d.buf) =
            d.buf.drop (9 + payloadLen d.buf) ++ more :=
          List.drop_append_of_le_length (by omega)
        simp only [if_neg htot, if_neg htot', htake, hdrop]
        have hdec := decodeOne_buf (v := v) (d.withBuf (d.buf.drop (9 + payloadLen d.buf)))
          (d.buf.take (9 + payloadLen d.buf)) (d.buf.drop (9 + payloadLen d.buf) ++ more)
        have hself : (d.withBuf (d.buf.drop (9 + payloadLen d.buf))) =
            { d with buf := d.buf.drop (9 + payloadLen d.buf) } := rfl
        rw [withBuf_withBuf] at hdec
        refine ⟨fun err h => ?_, fun e f h => ?_⟩
        · rw [← hself] at h
          cases hr : decodeOne v (d.withBuf (d.buf.drop (9 + payloadLen d.buf)))
              (d.buf.take (9 + payloadLen d.buf)) with
          | ok r =>
            rw [hr] at h
            cases h
          | error err' =>
            rw [hr] at h hdec
            cases h
            exact congrArg (Except.map some) hdec
        · rw [← hself] at h
          cases hr : decodeOne v (d.withBuf (d.buf.drop (9 + payloadLen d.buf)))
              (d.buf.take (9 + payloadLen d.buf)) with
          | error err =>
            rw [hr] at h
            cases h
          | ok r =>
            have hkeep := decodeOne_keeps_buf hr
            rw [hr] at h hdec
            cases h
            refine ⟨?_, ?_⟩
            · rw [hkeep]
              exact congrArg (Except.map some) hdec
            · rw [hkeep, withBuf_buf, List.length_drop]
              omega

end Decoder

namespace Link

/-- The turns of a read do not depend on how many more there could be. -/
theorem receive_fuel {n m : Nat} {d : Decoder T P} (hn : d.buf.length ≤ n) (hm : d.buf.length ≤ m) :
    receive v n d = receive v m d := by
  induction n generalizing m d with
  | zero =>
    have hnext : d.next v = .ok none := by
      unfold Decoder.next
      exact if_pos (by omega)
    cases m with
    | zero => rfl
    | succ m => simp only [receive, hnext]
  | succ n ih =>
    cases m with
    | zero =>
      have hnext : d.next v = .ok none := by
        unfold Decoder.next
        exact if_pos (by omega)
      simp only [receive, hnext]
    | succ m =>
      unfold receive
      rcases hx : d.next v with err | (_ | ⟨e, f⟩)
      · rfl
      · rfl
      · have hlt := (Decoder.next_feed (v := v) (d := d) []).2 e f hx
        simp only
        rw [ih (by omega) (show e.buf.length ≤ m by omega)]

/-- All turns of a read. -/
def receiveAll (v : Vendor T P) (d : Decoder T P) : Except Err (Decoder T P × List Frame) :=
  receive v d.buf.length d

theorem receiveAll_none {d : Decoder T P} (h : d.next v = .ok none) :
    receiveAll v d = .ok (d, []) := by
  unfold receiveAll
  cases d.buf.length with
  | zero => rfl
  | succ n => simp only [receive, h]

theorem receiveAll_error {d : Decoder T P} {err : Err} (h : d.next v = .error err) :
    receiveAll v d = .error err := by
  unfold receiveAll
  cases hb : d.buf.length with
  | zero =>
    unfold Decoder.next at h
    rw [if_pos (by omega)] at h
    cases h
  | succ n => simp only [receive, h]

theorem receiveAll_some {d e : Decoder T P} {f : Option Frame}
    (h : d.next v = .ok (some (e, f))) :
    receiveAll v d = (receiveAll v e).map fun r => (r.1, f.toList ++ r.2) := by
  have hlt := ((Decoder.next_feed (v := v) (d := d) []).2 e f h).2
  unfold receiveAll
  cases hb : d.buf.length with
  | zero => omega
  | succ n =>
    simp only [receive, h]
    rw [receive_fuel (show e.buf.length ≤ n by omega) (Nat.le_refl _)]

/-- A read in two parts: what comes of the first, and of the second behind what it has left. -/
theorem receive_feed (n : Nat) {d : Decoder T P} (hn : d.buf.length ≤ n) (more : Bytes) :
    receiveAll v (d.withBuf (d.buf ++ more)) =
      (receiveAll v d).bind fun r =>
        (receiveAll v (r.1.withBuf (r.1.buf ++ more))).map fun s => (s.1, r.2 ++ s.2) := by
  induction n generalizing d with
  | zero =>
    have hnext : d.next v = .ok none := by
      unfold Decoder.next
      exact if_pos (by omega)
    rw [receiveAll_none hnext]
    simp only [Except.bind, List.nil_append]
    cases receiveAll v (d.withBuf (d.buf ++ more)) <;> rfl
  | succ n ih =>
    obtain ⟨herr, hsome⟩ := Decoder.next_feed (v := v) (d := d) more
    rcases hx : d.next v with err | (_ | ⟨e, f⟩)
    · rw [receiveAll_error hx, receiveAll_error (herr err hx)]
      rfl
    · rw [receiveAll_none hx]
      simp only [Except.bind, List.nil_append]
      cases receiveAll v (d.withBuf (d.buf ++ more)) <;> rfl
    · obtain ⟨hx', hlt⟩ := hsome e f hx
      rw [receiveAll_some hx, receiveAll_some hx', ih (by omega)]
      cases receiveAll v e with
      | error err => rfl
      | ok r =>
        simp only [Except.bind, Except.map]
        cases receiveAll v (r.1.withBuf (r.1.buf ++ more)) with
        | error err => rfl
        | ok s => simp only [List.append_assoc]

end Link

/-! ### Reads of one byte -/

namespace Intake

/-- A read of one byte at a time; a connection has no last frame. -/
def byteReader (v : Vendor T P) : Incremental.Reader (Intake T P) UInt8 Frame Err Empty where
  step := fun i b => i.receiveFrames v [b]
  result := fun _ => none
  atEnd := fun _ => .error (protocolErr .noError "")

/-- Between two reads no frame is complete, and of the preface there is a part. -/
def Waits (v : Vendor T P) (i : Intake T P) : Prop :=
  match i.preface with
  | none => i.link.dec.next v = .ok none
  | some buf => buf.length < h2Preface.length ∧ h2Preface.take buf.length = buf ∧
      i.link.dec.buf = []

theorem decode_eq (i : Intake T P) (data : Bytes) :
    i.decode v data =
      (Link.receiveAll v (i.link.dec.withBuf (i.link.dec.buf ++ data))).map fun r =>
        (⟨none, { i.link with dec := r.1 }⟩, r.2) := rfl

/-- What a read leaves is not a frame. -/
theorem receiveAll_waits {d e : Decoder T P} {fs : List Frame}
    (h : Link.receiveAll v d = .ok (e, fs)) : e.next v = .ok none := by
  have hmain : ∀ n (d : Decoder T P), d.buf.length ≤ n → ∀ fs, Link.receiveAll v d = .ok (e, fs) →
      e.next v = .ok none := by
    intro n
    induction n with
    | zero =>
      intro d hn fs h
      have hnext : d.next v = .ok none := by
        unfold Decoder.next
        exact if_pos (by omega)
      rw [Link.receiveAll_none hnext] at h
      cases h
      exact hnext
    | succ n ih =>
      intro d hn fs h
      rcases hx : d.next v with err | (_ | ⟨e', f⟩)
      · rw [Link.receiveAll_error hx] at h
        cases h
      · rw [Link.receiveAll_none hx] at h
        cases h
        exact hx
      · have hlt := ((Decoder.next_feed (v := v) (d := d) []).2 e' f hx).2
        rw [Link.receiveAll_some hx] at h
        cases hr : Link.receiveAll v e' with
        | error err =>
          rw [hr] at h
          cases h
        | ok r =>
          rw [hr] at h
          cases h
          exact ih e' (by omega) r.2 hr
  exact hmain _ d (Nat.le_refl _) fs h

theorem decode_waits {i i' : Intake T P} {data : Bytes} {fs : List Frame}
    (h : i.decode v data = .ok (i', fs)) : Waits v i' := by
  rw [decode_eq] at h
  cases hr : Link.receiveAll v (i.link.dec.withBuf (i.link.dec.buf ++ data)) with
  | error err =>
    rw [hr] at h
    cases h
  | ok r =>
    rw [hr] at h
    cases h
    exact receiveAll_waits hr

/-- A decode in two parts. -/
theorem decode_append (i : Intake T P) (xs ys : Bytes) :
    i.decode v (xs ++ ys) =
      (i.decode v xs).bind fun r => (r.1.decode v ys).map fun s => (s.1, r.2 ++ s.2) := by
  have h := Link.receive_feed (v := v) _ (d := i.link.dec.withBuf (i.link.dec.buf ++ xs))
    (Nat.le_refl _) ys
  rw [decode_eq, decode_eq]
  simp only [Decoder.withBuf_buf, Decoder.withBuf_withBuf, List.append_assoc] at h
  rw [h]
  cases Link.receiveAll v (i.link.dec.withBuf (i.link.dec.buf ++ xs)) with
  | error err => rfl
  | ok r =>
    simp only [Except.bind, Except.map, decode_eq]
    cases Link.receiveAll v (r.1.withBuf (r.1.buf ++ ys)) <;> rfl

/-- The preface in two parts. -/
theorem feedPreface_append (buf more : Bytes) :
    feedPreface (buf ++ more) =
      match feedPreface buf with
      | .error err => .error err
      | .ok none => feedPreface (buf ++ more)
      | .ok (some rest) => .ok (some (rest ++ more)) := by
  have hlen : (buf ++ more).length = buf.length + more.length := List.length_append
  by_cases hm : buf.take (min buf.length h2Preface.length) =
      h2Preface.take (min buf.length h2Preface.length)
  · by_cases hlt : buf.length < h2Preface.length
    · have h : feedPreface buf = .ok none := by
        unfold feedPreface
        rw [if_neg (by simpa using hm), if_pos hlt]
      rw [h]
    · have hmin : min buf.length h2Preface.length = h2Preface.length := by omega
      have hmin' : min (buf ++ more).length h2Preface.length = h2Preface.length := by omega
      have h : feedPreface buf = .ok (some (buf.drop h2Preface.length)) := by
        unfold feedPreface
        rw [if_neg (by simpa using hm), if_neg hlt]
      rw [h]
      unfold feedPreface
      rw [hmin] at hm
      have htake : (buf ++ more).take h2Preface.length = buf.take h2Preface.length :=
        List.take_append_of_le_length (by omega)
      have hdrop : (buf ++ more).drop h2Preface.length = buf.drop h2Preface.length ++ more :=
        List.drop_append_of_le_length (by omega)
      simp only [hmin', htake, hm, ne_eq, not_true_eq_false, if_false, hdrop]
      rw [if_neg (by omega)]
  · have h : feedPreface buf = .error (protocolErr .protocolError
        "bad client connection preface") := by
      unfold feedPreface
      rw [if_pos hm]
    rw [h]
    unfold feedPreface
    rw [if_pos]
    intro hm'
    refine hm ?_
    have hle : min buf.length h2Preface.length ≤ min (buf ++ more).length h2Preface.length := by
      omega
    have h' := congrArg (List.take (min buf.length h2Preface.length)) hm'
    rw [List.take_take, List.take_take, Nat.min_eq_left hle] at h'
    rw [← h', List.take_append_of_le_length (Nat.min_le_left _ _)]

/-- A read in two parts: what comes of the first, and of the second behind what it has left. -/
theorem receiveFrames_append (i : Intake T P) (xs ys : Bytes) :
    i.receiveFrames v (xs ++ ys) =
      (i.receiveFrames v xs).bind fun r =>
        (r.1.receiveFrames v ys).map fun s => (s.1, r.2 ++ s.2) := by
  have hdecode (i : Intake T P) (xs : Bytes) :
      i.decode v (xs ++ ys) =
        (i.decode v xs).bind fun r =>
          (r.1.receiveFrames v ys).map fun s => (s.1, r.2 ++ s.2) := by
    rw [decode_append, decode_eq]
    cases Link.receiveAll v (i.link.dec.withBuf (i.link.dec.buf ++ xs)) <;> rfl
  cases hp : i.preface with
  | none =>
    simp only [receiveFrames, hp]
    exact hdecode i xs
  | some buf =>
    have hf := feedPreface_append (buf ++ xs) ys
    simp only [receiveFrames, hp, ← List.append_assoc]
    rw [hf]
    rcases hr : feedPreface (buf ++ xs) with err | (_ | rest)
    · rfl
    · simp only [Except.bind, List.nil_append]
      rcases feedPreface (buf ++ xs ++ ys) with err | (_ | rest)
      · rfl
      · rfl
      · simp only [decode_eq]
        cases Link.receiveAll v (i.link.dec.withBuf (i.link.dec.buf ++ rest)) <;> rfl
    · exact hdecode i rest

/-- Nothing comes of nothing. -/
theorem receiveFrames_nil {i : Intake T P} (hw : Waits v i) :
    i.receiveFrames v [] = .ok (i, []) := by
  obtain ⟨pre, link⟩ := i
  cases pre with
  | none =>
    have hnext : (link.dec.withBuf (link.dec.buf ++ [])).next v = .ok none := by
      rw [List.append_nil]
      exact hw
    simp only [receiveFrames, decode_eq, Link.receiveAll_none hnext, Except.map]
    rw [List.append_nil]
    rfl
  | some buf =>
    obtain ⟨hlt, htake, -⟩ := hw
    have hmin : min buf.length h2Preface.length = buf.length := by omega
    have hf : feedPreface buf = .ok none := by
      unfold feedPreface
      simp only [hmin, List.take_length, htake, ne_eq, not_true_eq_false, if_false, if_pos hlt]
    simp only [receiveFrames, List.append_nil, hf]

/-- A part of the preface. -/
theorem feedPreface_none {buf : Bytes} (h : feedPreface buf = .ok none) :
    buf.length < h2Preface.length ∧ h2Preface.take buf.length = buf := by
  by_cases hm : buf.take (min buf.length h2Preface.length) =
      h2Preface.take (min buf.length h2Preface.length)
  · by_cases hlt : buf.length < h2Preface.length
    · rw [Nat.min_eq_left hlt.le, List.take_length] at hm
      exact ⟨hlt, hm.symm⟩
    · unfold feedPreface at h
      rw [if_neg (by simpa using hm), if_neg hlt] at h
      cases h
  · unfold feedPreface at h
    rw [if_pos hm] at h
    cases h

theorem receiveFrames_waits {i i' : Intake T P} (hw : Waits v i) {data : Bytes} {fs : List Frame}
    (h : i.receiveFrames v data = .ok (i', fs)) : Waits v i' := by
  cases hp : i.preface with
  | none =>
    simp only [receiveFrames, hp] at h
    exact decode_waits h
  | some buf =>
    simp only [receiveFrames, hp] at h
    rcases hr : feedPreface (buf ++ data) with err | (_ | rest)
    · simp only [hr] at h
      cases h
    · simp only [hr] at h
      cases h
      simp only [Waits, hp] at hw ⊢
      obtain ⟨hlt, htake⟩ := feedPreface_none hr
      exact ⟨hlt, htake, hw.2.2⟩
    · simp only [hr] at h
      exact decode_waits h

/-- **A read is as many reads of one byte.**  By induction on its bytes. -/
theorem receiveFrames_run {i : Intake T P} (hw : Waits v i) (data : Bytes) :
    match i.receiveFrames v data with
    | .ok (i', fs) => (byteReader v).run i data = ⟨fs, [], .reading i'⟩
    | .error err => ((byteReader v).run i data).status = .failed err := by
  induction data generalizing i with
  | nil =>
    rw [receiveFrames_nil hw]
    exact Incremental.Reader.run_nil rfl
  | cons b bs ih =>
    have happ := receiveFrames_append (v := v) i [b] bs
    rw [List.singleton_append] at happ
    rw [happ]
    rcases hb : i.receiveFrames v [b] with err | ⟨i₁, fs₁⟩
    · exact congrArg Run.status (Incremental.Reader.run_error rfl hb bs)
    · have hstep : (byteReader v).run i (b :: bs) = ((byteReader v).run i₁ bs).emit fs₁ :=
        Incremental.Reader.run_ok rfl hb bs
      have hi := ih (receiveFrames_waits hw hb)
      simp only [Except.bind]
      rcases hr : i₁.receiveFrames v bs with err | ⟨i₂, fs₂⟩
      · simp only [hr, Except.map] at hi ⊢
        rw [hstep]
        exact hi
      · simp only [hr, Except.map] at hi ⊢
        rw [hstep, hi]
        rfl

/-- The frames that a connection's reads hand over, and what is left of the connection: where it
has failed, the reads after that are not made. -/
def receives (v : Vendor T P) (i : Intake T P) : List Bytes → List Frame × Except Err (Intake T P)
  | [] => ([], .ok i)
  | data :: ds =>
    match i.receiveFrames v data with
    | .error err => ([], .error err)
    | .ok (i, fs) => (fs ++ (receives v i ds).1, (receives v i ds).2)

/-- The reads of a connection against the reads of one byte, by induction on the reads. -/
theorem receives_run {i : Intake T P} (hw : Waits v i) (ds : List Bytes) :
    match (receives v i ds).2 with
    | .ok i' => (byteReader v).run i ds.flatten = ⟨(receives v i ds).1, [], .reading i'⟩
    | .error err =>
      ((byteReader v).run i ds.flatten).status = .failed err ∧
        (receives v i ds).1 <+: ((byteReader v).run i ds.flatten).out := by
  induction ds generalizing i with
  | nil => exact Incremental.Reader.run_nil rfl
  | cons data ds ih =>
    have hrun := receiveFrames_run hw data
    rw [List.flatten_cons, Incremental.Reader.run_append]
    unfold receives
    rcases hr : i.receiveFrames v data with err | ⟨i₁, fs₁⟩
    · simp only [hr] at hrun ⊢
      simp only [Incremental.Reader.feed, hrun]
      exact ⟨trivial, List.nil_prefix⟩
    · simp only [hr] at hrun ⊢
      have hi := ih (receiveFrames_waits hw hr)
      simp only [hrun, Incremental.Reader.feed]
      rcases hs : (receives v i₁ ds).2 with err | i₂
      · simp only [hs] at hi ⊢
        exact ⟨hi.1, (List.prefix_append_right_inj _).mpr hi.2⟩
      · simp only [hs] at hi ⊢
        rw [hi]
        rfl

/-- The frames that reads of one byte hand over, by induction on the bytes. -/
theorem receives_bytes (i : Intake T P) (data : Bytes) :
    (receives v i (data.map fun b => [b])).1 = ((byteReader v).run i data).out := by
  induction data generalizing i with
  | nil => rfl
  | cons b bs ih =>
    rw [List.map_cons]
    unfold receives
    rcases hb : i.receiveFrames v [b] with err | ⟨i₁, fs₁⟩
    · rw [Incremental.Reader.run_error rfl hb bs]
    · rw [Incremental.Reader.run_ok rfl hb bs]
      exact congrArg (fs₁ ++ ·) (ih i₁)

/-- A connection that has read nothing. -/
theorem waits_init (cfg : Config) (table : T) : Waits v (init cfg table : Intake T P) := by
  cases hr : cfg.role with
  | client =>
    simp only [Waits, init, hr, Link.init]
    rfl
  | server =>
    simp [Waits, init, hr, Link.init, h2Preface]

end Intake

/-- **What a connection is given does not depend on how its bytes are cut into reads.**  For every
cut of the peer's bytes, the server's preface among them: the reads fail where reads of one byte
each fail, with the same error, and leave the same decoder where they do not; they hand over the
same frames where they do not fail, and the first of them where they do. -/
theorem reads_split (v : Vendor T P) (cfg : Config) (table : T) (ds : List Bytes) :
    let start : Intake T P := .init cfg table
    let finest := start.receives v (ds.flatten.map fun b => [b])
    (start.receives v ds).2 = finest.2 ∧ (start.receives v ds).1 <+: finest.1 ∧
      (∀ i, finest.2 = .ok i → (start.receives v ds).1 = finest.1) := by
  intro start finest
  have hw : Intake.Waits v start := Intake.waits_init cfg table
  have hds := Intake.receives_run hw ds
  have hbytes := Intake.receives_run hw (ds.flatten.map fun b => [b])
  have hflat : (ds.flatten.map fun b => [b]).flatten = ds.flatten := by
    rw [← List.flatMap_def, List.flatMap_singleton']
  have hout := Intake.receives_bytes (v := v) start ds.flatten
  have hend : (start.receives v ds).2 = finest.2 := by
    rw [hflat] at hbytes
    rcases h₁ : (start.receives v ds).2 with err | i
    · rcases h₂ : finest.2 with err' | i'
      · simp only [h₁] at hds
        simp only [finest, h₂] at hbytes
        have := hds.1.symm.trans hbytes.1
        cases this
        rfl
      · simp only [h₁] at hds
        simp only [finest, h₂] at hbytes
        rw [hbytes] at hds
        exact absurd hds.1 nofun
    · rcases h₂ : finest.2 with err' | i'
      · simp only [h₁] at hds
        simp only [finest, h₂] at hbytes
        rw [hds] at hbytes
        exact absurd hbytes.1 nofun
      · simp only [h₁] at hds
        simp only [finest, h₂] at hbytes
        have := congrArg Run.status (hds.symm.trans hbytes)
        cases this
        rfl
  refine ⟨hend, ?_, ?_⟩
  · change _ <+: (start.receives v (ds.flatten.map fun b => [b])).1
    rw [hout]
    rcases h₁ : (start.receives v ds).2 with err | i
    · simp only [h₁] at hds
      exact hds.2
    · simp only [h₁] at hds
      rw [hds]
  · intro i hi
    rw [hi] at hend
    simp only [hend] at hds
    change _ = (start.receives v (ds.flatten.map fun b => [b])).1
    rw [hout, hds]

end Httpunk.H2
