import Httpunk.Backend.Asyncio
import Httpunk.Support.Runs

/-!
# Backend — Delivery

The asyncio stream is a faithful bounded FIFO.

* `Stream.unread`: what is queued and not taken.  `Stream.Sound`: the bookkeeping beside it.
* `take_spec`: what a take makes of them.
* `Sys.Faithful`: the invariant of the system; `Sys.step_faithful` keeps it.
* `Sys.Told`: what an outcome tells of the stream; `Sys.step_told`, of every read that returns.
* `Sys.faithful_fifo`: what holds in every state reached, and of every read that returns.
-/

namespace Httpunk.Backend

open Runs (Reach)

namespace Stream

variable {E : Type} {s s' : Stream E}

/-- What is queued and not taken, in order. -/
def unread (s : Stream E) : Bytes := s.chunks.flatten.drop s.headOff

/-- The bookkeeping of a stream: no chunk is empty, the offset is into the first, the count is of
what is unread, and reading is paused just where that is at the mark. -/
structure Sound (s : Stream E) : Prop where
  nonempty : ∀ c ∈ s.chunks, c ≠ []
  offset : s.headOff = 0 ∨ ∃ c ∈ s.chunks.head?, s.headOff < c.length
  count : s.buffered = s.unread.length
  paused : s.readingPaused = true ↔ readHighWater ≤ s.buffered
  told : s.transportReads = !s.readingPaused

theorem sound_empty : ({} : Stream E).Sound where
  nonempty := fun _ hc => by cases hc
  offset := .inl rfl
  count := rfl
  paused := by simp [readHighWater]
  told := rfl

/-- The fields a take leaves alone, and the queue that goes with them. -/
structure SameEnds (s s' : Stream E) : Prop where
  eof : s'.eof = s.eof
  error : s'.error = s.error
  readWaiter : s'.readWaiter = s.readWaiter

theorem Sound.buffered (h : s.Sound) :
    s.buffered = (s.chunks.map List.length).sum - s.headOff := by
  rw [h.count, unread, List.length_drop, List.length_flatten]

/-- Something is buffered just where there is a chunk. -/
theorem Sound.chunks_ne (h : s.Sound) (hb : s.buffered ≠ 0) : s.chunks ≠ [] := by
  intro hc
  refine hb ?_
  rw [h.count, unread, hc, List.flatten_nil, List.drop_nil, List.length_nil]

/-- **The first chunk** is taken to its end, or the offset moves on in it. -/
theorem takeHead_cases {head : Bytes} {n : Nat} (hn : 0 < n) (hoff : s.headOff < head.length)
    (rest : List Bytes) : ∃ data : Bytes, 0 < data.length ∧ data.length ≤ n ∧
      (s.takeHead head rest n = ({ s with chunks := rest, headOff := 0 }, data) ∧
          head.drop s.headOff = data ∨
        s.takeHead head rest n = ({ s with headOff := s.headOff + data.length }, data) ∧
          s.headOff + data.length < head.length ∧
          head.drop s.headOff = data ++ head.drop (s.headOff + data.length)) := by
  unfold takeHead
  split
  · next h =>
    refine ⟨head, by omega, h.2, .inl ⟨?_, by rw [h.1, List.drop_zero]⟩⟩
    have h₀ : s.headOff = 0 := h.1
    cases s
    dsimp only at h₀
    subst h₀
    rfl
  · dsimp only
    by_cases hstop : min (s.headOff + n) head.length = head.length
    · rw [if_pos hstop, hstop, List.take_length]
      refine ⟨head.drop s.headOff, ?_, ?_, .inl ⟨rfl, rfl⟩⟩
      all_goals rw [List.length_drop]; omega
    · rw [if_neg hstop]
      have hmin : min (s.headOff + n) head.length = s.headOff + n := by omega
      have hlen : ((head.take (s.headOff + n)).drop s.headOff).length = n := by
        rw [List.length_drop, List.length_take]
        omega
      rw [hmin]
      refine ⟨(head.take (s.headOff + n)).drop s.headOff, by omega, by omega, .inr ⟨?_, ?_, ?_⟩⟩
      · rw [hlen]
      · omega
      · rw [hlen, List.drop_take, Nat.add_sub_cancel_left, ← List.drop_drop,
          List.take_append_drop]

/-- Less is buffered: reading goes on, where it was paused and is below the mark. -/
theorem resumeReading_spec (hne : ∀ c ∈ s.chunks, c ≠ [])
    (hoff : s.headOff = 0 ∨ ∃ c ∈ s.chunks.head?, s.headOff < c.length)
    (hcount : s.buffered = s.unread.length)
    (hp : readHighWater ≤ s.buffered → s.readingPaused = true)
    (ht : s.transportReads = !s.readingPaused) :
    s.resumeReading.Sound ∧ s.resumeReading.unread = s.unread ∧ SameEnds s s.resumeReading := by
  unfold resumeReading
  split
  · next h =>
    simp only [Bool.and_eq_true, decide_eq_true_eq] at h
    refine ⟨⟨hne, hoff, hcount, ?_, rfl⟩, rfl, rfl, rfl, rfl⟩
    simp only [Bool.false_eq_true, false_iff]
    omega
  · next h =>
    refine ⟨⟨hne, hoff, hcount, ⟨fun hr => ?_, hp⟩, ht⟩, rfl, rfl, rfl, rfl⟩
    simp only [hr, Bool.true_and, decide_eq_true_eq] at h
    omega

/-- **A take**, of what is buffered: the bytes that were next, some and no more than the limit. -/
theorem take_spec (h : s.Sound) (hb : s.buffered ≠ 0) {n : Nat} (hn : 0 < n) :
    (s.take n).2 ++ (s.take n).1.unread = s.unread ∧ 0 < (s.take n).2.length ∧
      (s.take n).2.length ≤ n ∧ (s.take n).1.Sound ∧ SameEnds s (s.take n).1 := by
  unfold take
  split
  · next hc => exact absurd hc (h.chunks_ne hb)
  · next head rest hc =>
    have hne : ∀ c ∈ rest, c ≠ [] := fun c hm => h.nonempty c (hc ▸ List.mem_cons_of_mem _ hm)
    have hoff : s.headOff < head.length := by
      rcases h.offset with h₀ | ⟨c, hm, hlt⟩
      · rw [h₀]
        exact List.length_pos_iff.mpr (h.nonempty head (hc ▸ List.mem_cons_self))
      · rw [hc, List.head?_cons, Option.mem_some_iff] at hm
        exact hm ▸ hlt
    have hun : s.unread = head.drop s.headOff ++ rest.flatten := by
      rw [unread, hc, List.flatten_cons, List.drop_append_of_le_length hoff.le]
    have hp : ∀ k, readHighWater ≤ s.buffered - k → s.readingPaused = true := fun k hk =>
      h.paused.mpr (by omega)
    have hcount := h.count
    rw [hun, List.length_append] at hcount
    dsimp only
    obtain ⟨data, hpos, hle, ⟨heq, hd⟩ | ⟨heq, hlt, hd⟩⟩ := takeHead_cases hn hoff rest
    · rw [heq]
      dsimp only
      rw [hd] at hun hcount
      obtain ⟨hs, hu, he⟩ := resumeReading_spec (s := { s with
        chunks := rest, headOff := 0, buffered := s.buffered - data.length }) hne (.inl rfl)
        (by rw [unread]; dsimp only; rw [List.drop_zero]; omega) (hp _) h.told
      refine ⟨?_, hpos, hle, hs, ⟨he.eof, he.error, he.readWaiter⟩⟩
      rw [hu, hun, unread]
      rfl
    · rw [heq]
      dsimp only
      have hun' : ({ s with
          headOff := s.headOff + data.length
          buffered := s.buffered - data.length } : Stream E).unread =
          head.drop (s.headOff + data.length) ++ rest.flatten := by
        rw [unread]
        dsimp only
        rw [hc, List.flatten_cons, List.drop_append_of_le_length hlt.le]
      obtain ⟨hs, hu, he⟩ := resumeReading_spec (s := { s with
        headOff := s.headOff + data.length, buffered := s.buffered - data.length }) h.nonempty
        (.inr ⟨head, by rw [hc]; rfl, hlt⟩)
        (by
          rw [hun', List.length_append]
          rw [hd, List.length_append] at hcount
          change s.buffered - data.length = _
          omega)
        (hp _) h.told
      refine ⟨?_, hpos, hle, hs, ⟨he.eof, he.error, he.readWaiter⟩⟩
      rw [hu, hun', hun, hd, List.append_assoc]

/-! ### The reads -/

/-- What a read of at most `n` bytes makes of a stream: it returns what was next, and none of it
only where the stream has ended with nothing left. -/
structure Reads (s : Stream E) (n : Nat) (s' : Stream E) (o : Outcome E) : Prop where
  fifo : o.data ++ s'.unread = s.unread
  sound : s'.Sound
  within : o.data.length ≤ n
  ends : o = .bytes [] → s.eof = true ∧ s'.unread = []
  eof : s'.eof = s.eof

theorem Sound.unread_nil (h : s.Sound) (hb : s.buffered = 0) : s.unread = [] :=
  List.eq_nil_of_length_eq_zero (h.count.symm.trans hb)

/-- A read that finds something takes it. -/
theorem reads_take (h : s.Sound) (hb : s.buffered ≠ 0) {n : Nat} (hn : 0 < n) :
    Reads s n (s.take n).1 (.bytes (s.take n).2) := by
  obtain ⟨hf, hpos, hle, hs, he⟩ := take_spec h hb hn
  refine ⟨hf, hs, hle, fun ho => ?_, he.eof⟩
  rw [Outcome.bytes.inj ho] at hpos
  cases hpos

/-- A read that finds nothing returns no bytes, unless the stream has ended. -/
theorem reads_none (h : s.Sound) (hb : s.buffered = 0) {n : Nat} {o : Outcome E}
    (hd : o.data = []) (ho : o = .bytes [] → s.eof = true) : Reads s n s o :=
  ⟨by rw [hd]; rfl, h, by rw [hd]; exact Nat.zero_le _, fun hb' => ⟨ho hb', h.unread_nil hb⟩, rfl⟩

theorem receive_reads (h : s.Sound) {n : Nat} (hn : 0 < n) {o : Outcome E}
    (ho : (s.receive n).2 = some o) :
    Reads s n (s.receive n).1 o ∧ (s.receive n).1.readWaiter = s.readWaiter := by
  unfold receive at ho ⊢
  by_cases hb : s.buffered = 0
  · rw [if_neg (by simpa using hb)] at ho ⊢
    by_cases he : s.eof = true
    · rw [if_pos he] at ho ⊢
      cases herr : s.error with
      | none =>
        rw [herr] at ho
        cases ho
        exact ⟨reads_none h hb rfl fun _ => he, rfl⟩
      | some e =>
        rw [herr] at ho
        cases ho
        exact ⟨reads_none h hb rfl (by intro hx; cases hx), rfl⟩
    · rw [if_neg he] at ho ⊢
      split at ho
      · next hw =>
        cases ho
        rw [if_pos hw]
        exact ⟨reads_none h hb rfl (by intro hx; cases hx), rfl⟩
      · cases ho
  · rw [if_pos hb] at ho ⊢
    cases ho
    exact ⟨reads_take h hb hn, (take_spec h hb hn).2.2.2.2.readWaiter⟩

/-- A read that waits finds nothing, and the stream open. -/
theorem receive_waits {n : Nat} (hw : s.readWaiter = none) (ho : (s.receive n).2 = none) :
    s.buffered = 0 ∧ s.eof = false ∧
      (s.receive n).1 = { s with readWaiter := some .pending } := by
  unfold receive at ho ⊢
  by_cases hb : s.buffered = 0
  · rw [if_neg (by simpa using hb)] at ho ⊢
    by_cases he : s.eof = true
    · rw [if_pos he] at ho
      split at ho <;> cases ho
    · rw [if_neg he, if_neg (by rw [hw]; simp)]
      exact ⟨hb, by simpa using he, rfl⟩
  · rw [if_pos hb] at ho
    cases ho

/-- A read that was woken by data or by an end, or whose deadline has passed. -/
theorem received_reads (h : s.Sound) {n : Nat} (hn : 0 < n) {bounded expired : Bool}
    (hw : s.buffered ≠ 0 ∨ s.eof = true ∨ bounded = true ∧ expired = true) :
    Reads s n (s.received bounded expired n).1 (s.received bounded expired n).2 ∧
      (s.received bounded expired n).1.readWaiter = none := by
  have h' : ({ s with readWaiter := none } : Stream E).Sound := { h with }
  unfold received
  dsimp only
  by_cases hb : s.buffered = 0
  · rw [if_neg (by simpa using hb)]
    split
    · exact ⟨{ reads_none h' hb rfl (by intro hx; cases hx) with }, rfl⟩
    · refine ⟨{ reads_none h' hb ?_ fun ho => ?_ with }, rfl⟩
      · split <;> rfl
      · rcases hw with hw | hw | ⟨rfl, rfl⟩
        · exact absurd hb hw
        · exact hw
        · dsimp only
          cases he : s.eof with
          | true => rfl
          | false =>
            rw [he] at ho
            cases ho
  · rw [if_pos hb]
    have hr := reads_take h' (n := n) hb hn
    exact ⟨{ hr with }, (take_spec h' hb hn).2.2.2.2.readWaiter⟩

theorem readNowait_reads (h : s.Sound) {n : Nat} (hn : 0 < n) :
    Reads s n (s.readNowait n).1 (s.readNowait n).2 ∧
      (s.readNowait n).1.readWaiter = s.readWaiter := by
  unfold readNowait
  by_cases hb : s.buffered = 0
  · rw [if_neg (by simpa using hb)]
    dsimp only
    cases he : s.eof with
    | true => exact ⟨reads_none h hb rfl fun _ => he, rfl⟩
    | false => exact ⟨reads_none h hb rfl (by intro hx; cases hx), rfl⟩
  · rw [if_pos hb]
    exact ⟨reads_take h hb hn, (take_spec h hb hn).2.2.2.2.readWaiter⟩

/-! ### The callbacks -/

/-- A waiting read is woken, and nothing else is changed. -/
theorem wakeReader_eq (s : Stream E) : ∃ w, s.wakeReader = { s with readWaiter := w } ∧
    w.isSome = s.readWaiter.isSome ∧ w ≠ some .pending ∧
      (w = s.readWaiter ∨ w = some (.result false)) := by
  unfold wakeReader
  split
  · next hw => exact ⟨_, rfl, by rw [hw]; rfl, by simp, .inr rfl⟩
  · next hw => exact ⟨s.readWaiter, rfl, rfl, hw, .inl rfl⟩

/-- Which future a wake leaves is the waiting read's alone. -/
theorem wakeReader_congr (hw : s'.readWaiter = s.readWaiter) :
    s'.wakeReader.readWaiter = s.wakeReader.readWaiter := by
  unfold wakeReader
  rw [hw]
  split
  · rfl
  · exact hw

theorem drain_eq (s : Stream E) (f : Future Unit E) :
    ∃ w, s.drain f = { s with drainWaiter := w } := by
  unfold drain
  split
  · exact ⟨_, rfl⟩
  · exact ⟨s.drainWaiter, rfl⟩

theorem Sound.offset_le (h : s.Sound) : s.headOff ≤ s.chunks.flatten.length := by
  rcases h.offset with h₀ | ⟨c, hc, hlt⟩
  · rw [h₀]
    exact Nat.zero_le _
  · cases hs : s.chunks with
    | nil =>
      rw [hs] at hc
      cases hc
    | cons head rest =>
      rw [hs, List.head?_cons, Option.mem_some_iff] at hc
      rw [List.flatten_cons, List.length_append, hc]
      omega

theorem eofReceived_eq (s : Stream E) :
    s.eofReceived = { s with eof := true, readWaiter := s.wakeReader.readWaiter } := by
  obtain ⟨w, hw, -, -, -⟩ := wakeReader_eq { s with eof := true }
  have hc : ({ s with eof := true } : Stream E).wakeReader.readWaiter = s.wakeReader.readWaiter :=
    wakeReader_congr rfl
  rw [hw] at hc
  unfold eofReceived
  rw [hw, ← hc]

theorem connectionLost_eq (s : Stream E) (exc : Option E) : ∃ d,
    s.connectionLost exc = { s with
      error := exc
      eof := true
      connLost := true
      readWaiter := s.wakeReader.readWaiter
      writingPaused := false
      drainWaiter := d } := by
  obtain ⟨w, hw, -, -, -⟩ := wakeReader_eq { s with error := exc, eof := true, connLost := true }
  have hc : ({ s with error := exc, eof := true, connLost := true } : Stream E).wakeReader.readWaiter =
      s.wakeReader.readWaiter := wakeReader_congr rfl
  rw [hw] at hc
  unfold connectionLost
  dsimp only
  rw [hw, ← hc]
  exact (drain_eq _ _).imp fun d hd => hd

/-- **Delivery.**  The bytes join the queue, and reading is paused at the mark. -/
theorem dataReceived_spec (h : s.Sound) (data : Bytes) :
    (s.dataReceived data).Sound ∧ (s.dataReceived data).unread = s.unread ++ data ∧
      (s.dataReceived data).eof = s.eof ∧
      (data = [] ∧ s.dataReceived data = s ∨
        (s.dataReceived data).buffered ≠ 0 ∧
          (s.dataReceived data).readWaiter = s.wakeReader.readWaiter) := by
  unfold dataReceived
  split
  · next hd =>
    obtain rfl := List.isEmpty_iff.mp hd
    exact ⟨h, (List.append_nil _).symm, rfl, .inl ⟨rfl, rfl⟩⟩
  · next hd =>
    have hd' : data ≠ [] := fun h₀ => hd (by rw [h₀]; rfl)
    have hpos : 0 < data.length := List.length_pos_iff.mpr hd'
    have hwake : ({ s with chunks := s.chunks ++ [data], buffered := s.buffered + data.length } :
        Stream E).wakeReader =
        { s.wakeReader with chunks := s.chunks ++ [data], buffered := s.buffered + data.length } := by
      unfold wakeReader
      dsimp only
      split <;> rfl
    obtain ⟨w, hw, -, -, -⟩ := wakeReader_eq s
    dsimp only
    rw [hwake, hw]
    have hne : ∀ c ∈ s.chunks ++ [data], c ≠ [] := by
      intro c hc
      rcases List.mem_append.mp hc with hc | hc
      · exact h.nonempty c hc
      · rw [List.mem_singleton.mp hc]
        exact hd'
    have hoff : s.headOff = 0 ∨ ∃ c ∈ (s.chunks ++ [data]).head?, s.headOff < c.length := by
      refine h.offset.imp id fun ⟨c, hc, hlt⟩ => ⟨c, ?_, hlt⟩
      rw [Option.mem_def] at hc ⊢
      rw [List.head?_append, hc]
      rfl
    have hun : (s.chunks ++ [data]).flatten.drop s.headOff = s.unread ++ data := by
      rw [List.flatten_append, List.drop_append_of_le_length h.offset_le, unread]
      simp
    have hcount : s.buffered + data.length = ((s.chunks ++ [data]).flatten.drop s.headOff).length := by
      rw [hun, List.length_append, h.count]
    split
    · next hp =>
      simp only [Bool.and_eq_true, decide_eq_true_eq] at hp
      exact ⟨⟨hne, hoff, hcount, ⟨fun _ => hp.2, fun _ => rfl⟩, rfl⟩, hun, rfl,
        .inr ⟨by dsimp only; omega, rfl⟩⟩
    · next hp =>
      refine ⟨⟨hne, hoff, hcount, ⟨fun hr => ?_, fun hle => ?_⟩, h.told⟩, hun, rfl,
        .inr ⟨by dsimp only; omega, rfl⟩⟩
      · exact (h.paused.mp hr).trans (Nat.le_add_right _ _)
      · cases hr : s.readingPaused with
        | true => rfl
        | false =>
          refine absurd ?_ hp
          simp only [hr, Bool.not_false, Bool.true_and, decide_eq_true_eq]
          exact hle

end Stream

/-! ### The system -/

namespace Sys

variable {E : Type} {s s' : Sys E} {a : Action E}

/-- The states of a stream and its reader. -/
abbrev Reached (s : Sys E) : Prop := Reach Step Runs.Any {} s

/-- What holds between any two steps: what was returned and what is unread are what was received,
and a read waits just where nothing is there for it. -/
structure Faithful (s : Sys E) : Prop where
  sound : s.stream.Sound
  fifo : s.returned ++ s.stream.unread = s.received
  parked : s.reader.isSome = s.stream.readWaiter.isSome
  waits : s.stream.readWaiter = some .pending → s.stream.buffered = 0 ∧ s.stream.eof = false
  woken : s.stream.readWaiter = some (.result false) → s.stream.buffered ≠ 0 ∨ s.stream.eof = true
  expired : s.stream.readWaiter = some (.result true) → ∀ r ∈ s.reader, r.bounded = true

theorem faithful_init : ({} : Sys E).Faithful where
  sound := Stream.sound_empty
  fifo := rfl
  parked := rfl
  waits := fun h => by cases h
  woken := fun h => by cases h
  expired := fun h => by cases h

/-- The size limit of the read a step is of. -/
def limit (s : Sys E) : Action E → Nat
  | .receive l _ | .readNowait l => l.bytes
  | .resume => (s.reader.map fun r => r.limit.bytes).getD 0
  | _ => 0

/-- A read of at most `n` bytes that has returned: where there are none, the stream has ended with
nothing left. -/
def Returns (s s' : Sys E) (n : Nat) (o : Outcome E) : Prop :=
  s'.outcomes = s.outcomes ++ [o] ∧ o.data.length ≤ n ∧
    (o = .bytes [] → s'.stream.eof = true ∧ s'.returned = s'.received)

theorem returned_append (l : List (Outcome E)) (o : Outcome E) :
    (l ++ [o]).flatMap Outcome.data = l.flatMap Outcome.data ++ o.data := by simp

/-- A callback that leaves something to read, or the end, and wakes the reader. -/
theorem Faithful.wakes (h : s.Faithful) {m : Stream E} {rc : Bytes} (hm : m.Sound)
    (hf : s.returned ++ m.unread = rc) (hw : m.readWaiter = s.stream.wakeReader.readWaiter)
    (hend : m.buffered ≠ 0 ∨ m.eof = true) :
    ({ s with stream := m, received := rc } : Sys E).Faithful := by
  obtain ⟨w, hwake, hsome, hpend, hcases⟩ := Stream.wakeReader_eq s.stream
  rw [hwake] at hw
  have hw' : m.readWaiter = w := hw
  refine ⟨hm, hf, ?_, fun hp => ?_, fun _ => hend, fun hx => ?_⟩
  · rw [hw', hsome]
    exact h.parked
  · exact absurd (hw'.symm.trans hp) hpend
  · rcases hcases with hc | hc
    · exact h.expired (hc.symm.trans (hw'.symm.trans hx))
    · rw [hw', hc] at hx
      cases hx

/-- A read that returns. -/
theorem Faithful.returns (h : s.Faithful) {n : Nat} {m : Stream E} {o : Outcome E}
    (hr : Stream.Reads s.stream n m o) (hw : m.readWaiter = none) :
    ({ s with stream := m, reader := none, outcomes := s.outcomes ++ [o] } : Sys E).Faithful ∧
      Returns s { s with stream := m, reader := none, outcomes := s.outcomes ++ [o] } n o := by
  have hf : (s.outcomes ++ [o]).flatMap Outcome.data ++ m.unread = s.received := by
    rw [returned_append, List.append_assoc, hr.fifo]
    exact h.fifo
  refine ⟨⟨hr.sound, hf, by rw [hw]; rfl, fun hp => ?_, fun hp => ?_, fun hp => ?_⟩,
    rfl, hr.within, fun ho => ⟨hr.eof.trans (hr.ends ho).1, ?_⟩⟩
  · rw [hw] at hp
    cases hp
  · rw [hw] at hp
    cases hp
  · rw [hw] at hp
    cases hp
  · rw [(hr.ends ho).2, List.append_nil] at hf
    exact hf

/-- The cancellation of a read takes nothing. -/
theorem Faithful.reads_cancelled (h : s.Faithful) (n : Nat) :
    Stream.Reads s.stream n { s.stream with readWaiter := none } .cancelled :=
  ⟨rfl, { h.sound with }, Nat.zero_le _, fun ho => (by cases ho), rfl⟩

/-- **A step** keeps the invariant, and a step that adds an outcome is a read that returns. -/
theorem step_faithful (h : s.Faithful) (hs : Step s a s') :
    s'.Faithful ∧ (s'.outcomes = s.outcomes ∨ ∃ o, Returns s s' (s.limit a) o) := by
  unfold Step step at hs
  cases a with
  | dataReceived data =>
    cases hs
    obtain ⟨hm, hun, -, hcases⟩ := Stream.dataReceived_spec h.sound data
    refine ⟨?_, .inl rfl⟩
    rcases hcases with ⟨rfl, heq⟩ | ⟨hb, hw⟩
    · rw [heq]
      exact { h with fifo := by rw [List.append_nil]; exact h.fifo }
    · exact h.wakes hm (by rw [hun, ← List.append_assoc, h.fifo]) hw (.inl hb)
  | eofReceived =>
    cases hs
    refine ⟨?_, .inl rfl⟩
    rw [Stream.eofReceived_eq]
    exact h.wakes { h.sound with } h.fifo rfl (.inr rfl)
  | connectionLost exc =>
    cases hs
    obtain ⟨d, hd⟩ := Stream.connectionLost_eq s.stream exc
    refine ⟨?_, .inl rfl⟩
    rw [hd]
    exact h.wakes { h.sound with } h.fifo rfl (.inr rfl)
  | pauseWriting =>
    cases hs
    exact ⟨{ h with sound := { h.sound with } }, .inl rfl⟩
  | resumeWriting =>
    cases hs
    obtain ⟨w, hw⟩ := Stream.drain_eq { s.stream with writingPaused := false } (.result ())
    refine ⟨?_, .inl rfl⟩
    unfold Stream.resumeWriting
    rw [hw]
    exact { h with sound := { h.sound with } }
  | drainFuture =>
    cases hs
    refine ⟨?_, .inl rfl⟩
    unfold Stream.drainFuture
    split
    · exact { h with sound := { h.sound with } }
    · exact h
  | receive limit bounded =>
    dsimp only at hs
    split at hs
    · cases hs
    · next hr =>
      have hreader : s.reader = none := by simpa using hr
      have hwaiter : s.stream.readWaiter = none := by
        have hp := h.parked
        rw [hreader] at hp
        simpa using hp.symm
      split at hs
      · next o ho =>
        cases hs
        obtain ⟨hreads, hw⟩ := Stream.receive_reads h.sound limit.pos ho
        obtain ⟨hf, hret⟩ := h.returns hreads (hw.trans hwaiter)
        rw [← hreader] at hf hret
        exact ⟨hf, .inr ⟨o, hret⟩⟩
      · next ho =>
        cases hs
        obtain ⟨hb, he, heq⟩ := Stream.receive_waits hwaiter ho
        rw [heq]
        exact ⟨{ h with
          sound := { h.sound with }
          parked := rfl
          waits := fun _ => ⟨hb, he⟩
          woken := fun hw => by cases hw
          expired := fun hw => by cases hw }, .inl rfl⟩
  | readNowait limit =>
    dsimp only at hs
    split at hs
    · cases hs
    · next hr =>
      cases hs
      have hreader : s.reader = none := by simpa using hr
      have hwaiter : s.stream.readWaiter = none := by
        have hp := h.parked
        rw [hreader] at hp
        simpa using hp.symm
      obtain ⟨hreads, hw⟩ := Stream.readNowait_reads h.sound limit.pos
      obtain ⟨hf, hret⟩ := h.returns hreads (hw.trans hwaiter)
      rw [← hreader] at hf hret
      exact ⟨hf, .inr ⟨_, hret⟩⟩
  | expire =>
    dsimp only at hs
    split at hs
    · next r hr =>
      split at hs
      · next hb =>
        cases hs
        refine ⟨?_, .inl rfl⟩
        unfold Stream.expireReader
        split
        · next hw =>
          exact { h with
            sound := { h.sound with }
            parked := by rw [hr]; rfl
            waits := fun hx => by cases hx
            woken := fun hx => by cases hx
            expired := fun _ r' hr' => by
              rw [hr, Option.mem_some_iff] at hr'
              exact hr' ▸ hb }
        · exact h
      · cases hs
    · cases hs
  | cancel =>
    obtain ⟨r, hr, rfl⟩ := Option.map_eq_some_iff.mp hs
    refine ⟨?_, .inl ?_⟩
    · unfold cancel
      split
      · exact { h with
          sound := { h.sound with }
          parked := by rw [hr]; rfl
          waits := fun hx => by cases hx
          woken := fun hx => by cases hx
          expired := fun hx => by cases hx }
      · exact { h with
          parked := by rw [← h.parked, hr]; rfl
          expired := fun hx r' hr' => by
            rw [Option.mem_some_iff] at hr'
            exact hr' ▸ h.expired hx r hr }
    · unfold cancel
      split <;> rfl
  | resume =>
    obtain ⟨r, hr, hres⟩ := Option.bind_eq_some_iff.mp hs
    have hlim : s.limit .resume = r.limit.bytes := by
      unfold limit
      rw [hr]
      rfl
    unfold resume at hres
    rw [hlim]
    split at hres
    · next marker hw =>
      split at hres
      · cases hres
        obtain ⟨hf, hret⟩ := h.returns (h.reads_cancelled _) rfl
        exact ⟨hf, .inr ⟨_, hret⟩⟩
      · cases hres
        have hend : s.stream.buffered ≠ 0 ∨ s.stream.eof = true ∨
            r.bounded = true ∧ marker = true := by
          cases marker with
          | false => exact (h.woken hw).imp_right .inl
          | true => exact .inr (.inr ⟨h.expired hw r hr, rfl⟩)
        obtain ⟨hreads, hnone⟩ := Stream.received_reads h.sound r.limit.pos hend
        obtain ⟨hf, hret⟩ := h.returns hreads hnone
        exact ⟨hf, .inr ⟨_, hret⟩⟩
    · cases hres
      obtain ⟨hf, hret⟩ := h.returns (h.reads_cancelled _) rfl
      exact ⟨hf, .inr ⟨_, hret⟩⟩
    · cases hres

theorem faithful (r : Reached s) : s.Faithful :=
  r.invariant faithful_init fun h hs _ => (step_faithful h hs).1

/-! ### What an outcome tells -/

/-- What an outcome tells of the stream as the read found it: some bytes, where there were any;
nothing, over a stream that is open, of a read that does not wait or whose deadline has passed; the
error that the connection was lost with, once all bytes are read; and a cancellation, of the read's
own task. -/
def Told (s : Sys E) (a : Action E) : Outcome E → Prop
  | .bytes data => s.stream.buffered ≠ 0 → data ≠ []
  | .nothing => s.stream.buffered = 0 ∧ s.stream.eof = false ∧
    ((∃ limit, a = .readNowait limit) ∨
      a = .resume ∧ s.stream.readWaiter = some (.result true) ∧ ∃ r ∈ s.reader, r.bounded = true)
  | .raised e => s.stream.buffered = 0 ∧ s.stream.error = some e
  | .concurrent => False
  | .cancelled => a = .resume ∧
    (s.stream.readWaiter = some .cancelled ∨ ∃ r ∈ s.reader, r.mustCancel = true)

theorem told_take {m : Stream E} (h : m.Sound) (hb : m.buffered ≠ 0) (limit : Limit) :
    (m.take limit.bytes).2 ≠ [] :=
  List.length_pos_iff.mp (Stream.take_spec h hb limit.pos).2.1

/-- A read that finds bytes returns some. -/
theorem step_finds (h : s.Faithful) (hs : Step s a s') (hb : s.stream.buffered ≠ 0)
    (ha : (∃ limit bounded, a = .receive limit bounded) ∨ ∃ limit, a = .readNowait limit) :
    ∃ data, data ≠ [] ∧ s'.outcomes = s.outcomes ++ [.bytes data] := by
  unfold Step step at hs
  rcases ha with ⟨limit, bounded, rfl⟩ | ⟨limit, rfl⟩
  · dsimp only at hs
    split at hs
    · cases hs
    · have hr : s.stream.receive limit.bytes = ((s.stream.take limit.bytes).1,
          some (.bytes (s.stream.take limit.bytes).2)) := if_pos hb
      rw [hr] at hs
      cases hs
      exact ⟨_, told_take h.sound hb limit, rfl⟩
  · dsimp only at hs
    split at hs
    · cases hs
    · have hr : s.stream.readNowait limit.bytes = ((s.stream.take limit.bytes).1,
          .bytes (s.stream.take limit.bytes).2) := if_pos hb
      rw [hr] at hs
      cases hs
      exact ⟨_, told_take h.sound hb limit, rfl⟩

theorem receive_told (h : s.Faithful) (hp : s.reader = none) (limit : Limit) (bounded : Bool)
    {o : Outcome E} (ho : (s.stream.receive limit.bytes).2 = some o) :
    s.Told (.receive limit bounded) o := by
  unfold Stream.receive at ho
  by_cases hb : s.stream.buffered = 0
  · rw [if_neg (by simpa using hb)] at ho
    split at ho
    · split at ho
      · next e he =>
        cases ho
        exact ⟨hb, he⟩
      · cases ho
        exact fun hn => absurd hb hn
    · split at ho
      · next hw =>
        rw [← h.parked, hp] at hw
        cases hw
      · cases ho
  · rw [if_pos hb] at ho
    cases ho
    exact fun _ => told_take h.sound hb limit

theorem readNowait_told (h : s.Faithful) (limit : Limit) :
    s.Told (.readNowait limit) (s.stream.readNowait limit.bytes).2 := by
  unfold Stream.readNowait
  by_cases hb : s.stream.buffered = 0
  · rw [if_neg (by simpa using hb)]
    dsimp only
    split
    · exact fun hn => absurd hb hn
    · next he => exact ⟨hb, by simpa using he, .inl ⟨limit, rfl⟩⟩
  · rw [if_pos hb]
    exact fun _ => told_take h.sound hb limit

theorem received_told (h : s.Faithful) {r : Read} (hr : s.reader = some r) {expired : Bool}
    (hw : s.stream.readWaiter = some (.result expired)) :
    s.Told .resume (s.stream.received r.bounded expired r.limit.bytes).2 := by
  have hsound : ({ s.stream with readWaiter := none } : Stream E).Sound := { h.sound with }
  unfold Stream.received
  dsimp only
  by_cases hb : s.stream.buffered = 0
  · rw [if_neg (by simpa using hb)]
    split
    · next e he => exact ⟨hb, he⟩
    · dsimp only
      split
      · next hx =>
        simp only [Bool.and_eq_true, Bool.not_eq_true'] at hx
        refine ⟨hb, hx.1.2, .inr ⟨rfl, ?_, r, hr, hx.1.1⟩⟩
        rw [hw, hx.2]
      · exact fun hn => absurd hb hn
  · rw [if_pos hb]
    exact fun _ => told_take hsound hb r.limit

/-- **What each read that returns tells of the stream.** -/
theorem step_told (h : s.Faithful) (hs : Step s a s') {o : Outcome E}
    (ho : s'.outcomes = s.outcomes ++ [o]) : s.Told a o := by
  have same : s'.outcomes = s.outcomes → s.Told a o := fun he => by
    rw [he] at ho
    simp at ho
  have made {o' : Outcome E} (ht : s.Told a o') (he : s'.outcomes = s.outcomes ++ [o']) :
      s.Told a o := by
    rw [he, List.append_cancel_left_eq, List.cons.injEq] at ho
    exact ho.1 ▸ ht
  unfold Step step at hs
  cases a with
  | dataReceived | eofReceived | connectionLost | pauseWriting | resumeWriting | drainFuture =>
    cases hs
    exact same rfl
  | receive limit bounded =>
    dsimp only at hs
    split at hs
    · cases hs
    · next hp =>
      have hnone : s.reader = none := by simpa using hp
      split at hs
      · next o' ho' =>
        cases hs
        exact made (receive_told h hnone limit bounded ho') rfl
      · cases hs
        exact same rfl
  | readNowait limit =>
    dsimp only at hs
    split at hs <;> cases hs
    exact made (readNowait_told h limit) rfl
  | expire =>
    dsimp only at hs
    split at hs
    · split at hs <;> cases hs
      exact same rfl
    · cases hs
  | cancel =>
    obtain ⟨r, hr, rfl⟩ := Option.map_eq_some_iff.mp hs
    refine same ?_
    unfold cancel
    split <;> rfl
  | resume =>
    obtain ⟨r, hr, hres⟩ := Option.bind_eq_some_iff.mp hs
    unfold resume at hres
    split at hres
    · next expired hw =>
      split at hres
      · next hm =>
        cases hres
        exact made (show s.Told .resume .cancelled from ⟨rfl, .inr ⟨r, hr, hm⟩⟩) rfl
      · cases hres
        exact made (received_told h hr hw) rfl
    · next hw =>
      cases hres
      exact made (show s.Told .resume .cancelled from ⟨rfl, .inl hw⟩) rfl
    · cases hres

/-- **A faithful bounded FIFO.**  In every state reached: what the reads returned and what is queued
and not taken are what was received; the count is of that; reading is paused, and the transport told
so, exactly while the count is at the mark; a read returns no more than its limit, no bytes only at
the end of the stream with all that was received returned, and any other outcome as the stream it
found has it; and a read that finds bytes returns some. -/
theorem faithful_fifo (s : Sys E) (r : Reached s) :
    s.returned ++ s.stream.unread = s.received ∧
    s.stream.buffered = (s.stream.chunks.map List.length).sum - s.stream.headOff ∧
    s.stream.buffered = s.stream.unread.length ∧
    (s.stream.readingPaused = true ↔ readHighWater ≤ s.stream.buffered) ∧
    s.stream.transportReads = (!s.stream.readingPaused) ∧
    (∀ a s', Step s a s' → s'.outcomes = s.outcomes ∨
      ∃ o, s'.outcomes = s.outcomes ++ [o] ∧ o.data.length ≤ s.limit a ∧
        (o = .bytes [] → s'.stream.eof = true ∧ s'.returned = s'.received) ∧ s.Told a o) ∧
    ∀ a s', Step s a s' → s.stream.buffered ≠ 0 →
      ((∃ limit bounded, a = .receive limit bounded) ∨ ∃ limit, a = .readNowait limit) →
      ∃ data, data ≠ [] ∧ s'.outcomes = s.outcomes ++ [.bytes data] := by
  have h := faithful r
  refine ⟨h.fifo, h.sound.buffered, h.sound.count, h.sound.paused, h.sound.told, fun a s' hs => ?_,
    fun a s' hs hb ha => step_finds h hs hb ha⟩
  refine (step_faithful h hs).2.imp_right fun ⟨o, ho, hlen, hend⟩ => ?_
  exact ⟨o, ho, hlen, hend, step_told h hs ho⟩

/-- A read takes the head of a chunk that arrives while it waits, and the next the rest. -/
def splitChunk : List (Action Unit) := [
  .receive ⟨2, by decide⟩ true, .dataReceived [1, 2, 3], .expire, .resume, .eofReceived,
  .readNowait ⟨8, by decide⟩, .receive ⟨8, by decide⟩ false]

theorem faithful_fifo_split : ∃ s : Sys Unit, Reached s ∧
    s.outcomes = [.bytes [1, 2], .bytes [3], .bytes []] ∧
      s.returned ++ s.stream.unread = s.received := by
  have hr : (Runs.exec step (fun _ _ => true) {} splitChunk).any (fun s =>
      s.outcomes == [.bytes [1, 2], .bytes [3], .bytes []]) := by decide +kernel
  obtain ⟨s, r, hs⟩ := Reach.of_exec_any hr
  have r' : Reached s := r.mono fun _ _ _ => trivial
  exact ⟨s, r', beq_iff_eq.mp hs, (faithful_fifo s r').1⟩

end Sys

end Httpunk.Backend
