import Httpunk.H1.HeadParse

/-!
# H1 — Safety — HeadSplit

The acceptance of a head does not depend on how its bytes are split.

* `HeadParser.Yields`: what a whole stream comes to, one head at a time.
* `parseHead_yields`: the bounded parse comes to it.
* `Yields.append`: and so does a parse that goes on with more bytes.
* `HeadParser.split_invariant`: the pieces of a stream come to what the stream comes to.
-/

namespace Httpunk.H1.HeadParser

variable {H : Type} {P : HeadParser H} {lim : Limits}

/-! ### One head -/

/-- The answer holds on more bytes. -/
theorem answer_append (hs : P.Steady) {buf : Bytes} (more : Bytes)
    (h : P.answer buf ≠ .incomplete) : P.answer (buf ++ more) = P.answer buf := by
  unfold answer at h ⊢
  cases hb : buf.isEmpty with
  | true =>
    rw [hb] at h
    exact absurd rfl h
  | false =>
    have hne : (buf ++ more).isEmpty = false := by
      rw [List.isEmpty_eq_false_iff] at hb ⊢
      exact fun hnil => hb (List.append_eq_nil_iff.mp hnil).1
    rw [hb] at h
    simp only [hne, Bool.false_eq_true, if_false] at h ⊢
    rcases ha : P.httparse buf with _ | n | _
    · exact absurd ha h
    · exact hs.complete ha more
    · exact hs.failed ha more

/-- A complete head is within the buffer, and takes a byte at least. -/
theorem answer_size (hs : P.Steady) {buf : Bytes} {n : Nat} (h : P.answer buf = .complete n) :
    0 < n ∧ n ≤ buf.length ∧ P.answer (buf.take n) = .complete n := by
  unfold answer at h ⊢
  split at h
  · cases h
  · obtain ⟨hpos, hle⟩ := hs.size h
    refine ⟨hpos, hle, ?_⟩
    have hne : (buf.take n).isEmpty = false := by
      rw [List.isEmpty_eq_false_iff, ← List.length_pos_iff, List.length_take]
      omega
    simp only [hne, Bool.false_eq_true, if_false]
    exact hs.own h

/-- What one head is found to be holds on more bytes. -/
theorem one_append (hs : P.Steady) {buf : Bytes} (more : Bytes) (h : P.one lim buf ≠ .more) :
    P.one lim (buf ++ more) = P.one lim buf := by
  have hne : P.answer buf ≠ .incomplete := fun ha => h (by unfold one; rw [ha])
  unfold one
  rw [answer_append hs more hne]
  rcases ha : P.answer buf with _ | n | _
  · exact absurd ha hne
  · obtain ⟨-, hle, -⟩ := answer_size hs ha
    dsimp only
    rw [List.take_append_of_le_length hle]
  · rfl

/-- A head found is a complete one, within `max_header_size`. -/
theorem one_complete {buf : Bytes} {n : Nat}
    (h : (∃ x, P.one lim buf = .final x n) ∨ P.one lim buf = .informational n) :
    P.answer buf = .complete n ∧ lim.maxHeaderSize.any (· < n) = false := by
  unfold one at h
  rcases ha : P.answer buf with _ | k | _
  · rw [ha] at h
    rcases h with ⟨x, h⟩ | h <;> cases h
  · rw [ha] at h
    dsimp only at h
    by_cases hm : lim.maxHeaderSize.any (· < k) = true
    · rw [if_pos hm] at h
      rcases h with ⟨x, h⟩ | h <;> cases h
    · rw [if_neg hm] at h
      have hkn : k = n := by
        rcases hb : P.build (buf.take k) with _ | _ | y
        · rw [hb] at h
          rcases h with ⟨x, h⟩ | h <;> cases h
        · rw [hb] at h
          rcases h with ⟨x, h⟩ | h <;> cases h
          rfl
        · rw [hb] at h
          rcases h with ⟨x, h⟩ | h <;> cases h
          rfl
      subst hkn
      exact ⟨rfl, by simpa using hm⟩
  · rw [ha] at h
    rcases h with ⟨x, h⟩ | h <;> cases h

/-- One head, or a rejection where it is incomplete at a limit. -/
def oneCapped (P : HeadParser H) (lim : Limits) (buf : Bytes) : OneHead H :=
  match P.one lim buf with
  | .more => if capped lim buf.length then .rejected else .more
  | x => x

theorem oneCapped_of_ne {buf : Bytes} (h : P.one lim buf ≠ .more) :
    P.oneCapped lim buf = P.one lim buf := by
  unfold oneCapped
  rcases ho : P.one lim buf with _ | _ | _ | _
  · exact absurd ho h
  · rfl
  · rfl
  · rfl

/-- **What is found of a head at a limit holds on more bytes**, as many as the parse sees. -/
theorem oneCapped_append (hs : P.Steady) {buf : Bytes} (more : Bytes)
    (hlen : (buf ++ more).length ≤ lim.maxBufSize) (h : P.oneCapped lim buf ≠ .more) :
    P.oneCapped lim (buf ++ more) = P.oneCapped lim buf := by
  by_cases ho : P.one lim buf = .more
  · -- incomplete at a limit: whatever the rest says, the head is too large
    have hcap : capped lim buf.length = true := by
      by_contra hc
      unfold oneCapped at h
      rw [ho] at h
      simp only [hc, Bool.false_eq_true, if_false] at h
      exact h rfl
    have hrej : P.oneCapped lim buf = .rejected := by
      unfold oneCapped
      rw [ho]
      simp only [hcap, if_true]
    rw [hrej]
    have hbeyond : ∀ n, P.answer (buf ++ more) = .complete n → buf.length < n := fun n hn => by
      by_contra hle
      obtain ⟨-, -, hown⟩ := answer_size hs hn
      rw [List.take_append_of_le_length (by omega)] at hown
      have hback := answer_append hs (buf.drop n) (by rw [hown]; intro hc; cases hc)
      rw [List.take_append_drop, hown] at hback
      unfold one at ho
      rw [hback] at ho
      dsimp only at ho
      split at ho
      · cases ho
      · split at ho <;> cases ho
    have hgrown : capped lim (buf ++ more).length = true := by
      unfold capped at hcap ⊢
      rw [List.length_append]
      simp only [Bool.or_eq_true, decide_eq_true_eq, Option.any_eq_true] at hcap ⊢
      rcases hcap with ⟨m, hm, hle⟩ | hle
      · exact .inl ⟨m, hm, by omega⟩
      · exact .inr (by omega)
    have htoo : ∀ n, P.answer (buf ++ more) = .complete n →
        lim.maxHeaderSize.any (· < n) = false → False := fun n hn hany => by
      have hlt := hbeyond n hn
      obtain ⟨-, hle, -⟩ := answer_size hs hn
      unfold capped at hcap
      simp only [Bool.or_eq_true, decide_eq_true_eq, Option.any_eq_true] at hcap
      rcases hcap with ⟨m, hm, hmle⟩ | hmax
      · rw [hm] at hany
        simp only [Option.any_some, decide_eq_false_iff_not] at hany
        omega
      · omega
    unfold oneCapped
    rcases hx : P.one lim (buf ++ more) with _ | _ | ⟨x, n⟩ | n
    · simp only [hgrown, if_true]
    · rfl
    · obtain ⟨hn, hany⟩ := one_complete (n := n) (.inl ⟨x, hx⟩)
      exact (htoo n hn hany).elim
    · obtain ⟨hn, hany⟩ := one_complete (n := n) (.inr hx)
      exact (htoo n hn hany).elim
  · have heq := one_append hs more ho
    have ho' : P.one lim (buf ++ more) ≠ .more := by
      rw [heq]
      exact ho
    rw [oneCapped_of_ne ho, oneCapped_of_ne ho', heq]

/-! ### What a stream comes to -/

/-- What the stream `buf` comes to, one head at a time. -/
inductive Yields (P : HeadParser H) (lim : Limits) : Bytes → Outcome H → Prop where
  | more {buf : Bytes} (h : P.oneCapped lim (buf.take lim.maxBufSize) = .more) :
      Yields P lim buf (.more buf)
  | rejected {buf : Bytes} (h : P.oneCapped lim (buf.take lim.maxBufSize) = .rejected) :
      Yields P lim buf .rejected
  | final {buf : Bytes} {x : H} {n : Nat}
      (h : P.oneCapped lim (buf.take lim.maxBufSize) = .final x n) :
      Yields P lim buf (.head x (buf.drop n))
  | informational {buf : Bytes} {n : Nat} {o : Outcome H}
      (h : P.oneCapped lim (buf.take lim.maxBufSize) = .informational n)
      (r : Yields P lim (buf.drop n) o) : Yields P lim buf o

/-- A stream comes to one outcome. -/
theorem Yields.unique {buf : Bytes} {o o' : Outcome H} (h : P.Yields lim buf o)
    (h' : P.Yields lim buf o') : o = o' := by
  induction h with
  | more h₁ =>
    cases h' with
    | more _ => rfl
    | rejected h₂ => rw [h₁] at h₂; cases h₂
    | final h₂ => rw [h₁] at h₂; cases h₂
    | informational h₂ _ => rw [h₁] at h₂; cases h₂
  | rejected h₁ =>
    cases h' with
    | more h₂ => rw [h₁] at h₂; cases h₂
    | rejected _ => rfl
    | final h₂ => rw [h₁] at h₂; cases h₂
    | informational h₂ _ => rw [h₁] at h₂; cases h₂
  | final h₁ =>
    cases h' with
    | more h₂ => rw [h₁] at h₂; cases h₂
    | rejected h₂ => rw [h₁] at h₂; cases h₂
    | final h₂ => rw [h₁] at h₂; cases h₂; rfl
    | informational h₂ _ => rw [h₁] at h₂; cases h₂
  | informational h₁ _ ih =>
    cases h' with
    | more h₂ => rw [h₁] at h₂; cases h₂
    | rejected h₂ => rw [h₁] at h₂; cases h₂
    | final h₂ => rw [h₁] at h₂; cases h₂
    | informational h₂ r₂ => rw [h₁] at h₂; cases h₂; exact ih r₂

/-- The outcome with more bytes behind. -/
def Outcome.behind (o : Outcome H) (more : Bytes) : Outcome H :=
  match o with
  | .more buf => .more (buf ++ more)
  | .rejected => .rejected
  | .head x rest => .head x (rest ++ more)

/-- The bytes that the parse sees of a longer stream. -/
theorem take_window (buf more : Bytes) (n : Nat) :
    ∃ seen, (buf ++ more).take n = buf.take n ++ seen := by
  rw [List.take_append]
  exact ⟨_, rfl⟩

/-- What is found of the head at the start holds of a longer stream. -/
theorem oneCapped_window (hs : P.Steady) {buf : Bytes} (more : Bytes)
    (h : P.oneCapped lim (buf.take lim.maxBufSize) ≠ .more) :
    P.oneCapped lim ((buf ++ more).take lim.maxBufSize) =
      P.oneCapped lim (buf.take lim.maxBufSize) := by
  obtain ⟨seen, hseen⟩ := take_window buf more lim.maxBufSize
  rw [hseen]
  refine oneCapped_append hs seen ?_ h
  rw [← hseen]
  exact List.length_take_le _ _

/-- A head found at the start of what the parse sees is within it. -/
theorem found_le (hs : P.Steady) {buf : Bytes} {n : Nat}
    (h : (∃ x, P.oneCapped lim buf = .final x n) ∨ P.oneCapped lim buf = .informational n) :
    0 < n ∧ n ≤ buf.length := by
  have hne : P.one lim buf ≠ .more := fun ho => by
    unfold oneCapped at h
    rw [ho] at h
    dsimp only at h
    split at h <;> rcases h with ⟨x, h⟩ | h <;> cases h
  rw [oneCapped_of_ne hne] at h
  obtain ⟨ha, -⟩ := one_complete h
  obtain ⟨hpos, hle, -⟩ := answer_size hs ha
  exact ⟨hpos, hle⟩

/-- **A stream that goes on**: a verdict stands, and what asked for more is parsed with more. -/
theorem Yields.append (hs : P.Steady) {buf : Bytes} {o : Outcome H} (h : P.Yields lim buf o)
    (more : Bytes) :
    (∀ rest, o ≠ .more rest) ∧ P.Yields lim (buf ++ more) (o.behind more) ∨
      ∃ rest, o = .more rest ∧
        ∀ o', P.Yields lim (rest ++ more) o' → P.Yields lim (buf ++ more) o' := by
  induction h with
  | more _ => exact .inr ⟨_, rfl, fun _ h => h⟩
  | rejected h =>
    refine .inl ⟨fun _ hc => (by cases hc), .rejected ?_⟩
    rw [oneCapped_window hs more (by rw [h]; intro hc; cases hc), h]
  | @final buf x n h =>
    refine .inl ⟨fun _ hc => (by cases hc), ?_⟩
    have hle : n ≤ buf.length := by
      have hfound := (found_le hs (.inl ⟨x, h⟩)).2
      rw [List.length_take] at hfound
      omega
    have hfin : P.Yields lim (buf ++ more) (.head x ((buf ++ more).drop n)) := Yields.final
      (by rw [oneCapped_window hs more (by rw [h]; intro hc; cases hc), h])
    rw [List.drop_append_of_le_length hle] at hfin
    exact hfin
  | @informational buf n o h r ih =>
    have hle : n ≤ buf.length := by
      have hfound := (found_le hs (.inr h)).2
      rw [List.length_take] at hfound
      omega
    have hinfo : ∀ o', P.Yields lim (buf.drop n ++ more) o' → P.Yields lim (buf ++ more) o' :=
      fun o' ho' => .informational (n := n)
        (by rw [oneCapped_window hs more (by rw [h]; intro hc; cases hc), h])
        (by rw [List.drop_append_of_le_length hle]; exact ho')
    rcases ih with ⟨hno, hy⟩ | ⟨rest, ho, hy⟩
    · exact .inl ⟨hno, hinfo _ hy⟩
    · exact .inr ⟨rest, ho, fun o' ho' => hinfo o' (hy o' ho')⟩

/-! ### The bounded parse -/

/-- **The loop over what the parse sees**: what it returns is what the stream comes to, and where it
asks for more, what is left comes to the same. -/
theorem parseLoop_yields (hs : P.Steady) {k : Nat} {seen rest : Bytes} {r : HeadResult H}
    (unseen : Bytes) (hmax : seen.length ≤ lim.maxBufSize)
    (h : P.parseLoop lim k seen = some (rest, r)) :
    rest.length ≤ seen.length ∧
    match r with
    | .rejected => P.Yields lim (seen ++ unseen) .rejected
    | .head x => P.Yields lim (seen ++ unseen) (.head x (rest ++ unseen))
    | .more => P.one lim rest = .more ∧
      ∀ o, P.Yields lim (rest ++ unseen) o → P.Yields lim (seen ++ unseen) o := by
  -- what is found of the head at the start of what is seen
  have hwin : ∀ {b : Bytes}, b.length ≤ lim.maxBufSize → P.one lim b ≠ .more →
      P.oneCapped lim ((b ++ unseen).take lim.maxBufSize) = P.one lim b := fun {b} hb hne => by
    have htake : b.take lim.maxBufSize = b := List.take_of_length_le hb
    have hcap := oneCapped_of_ne hne
    have hw := oneCapped_window hs unseen
      (by rw [htake, hcap]; exact hne)
    rw [hw, htake, hcap]
  induction k generalizing seen with
  | zero => cases h
  | succ k ih =>
    unfold parseLoop at h
    rcases ho : P.one lim seen with _ | _ | ⟨x, n⟩ | n
    · rw [ho] at h
      cases h
      exact ⟨Nat.le_refl _, ho, fun _ h => h⟩
    · rw [ho] at h
      cases h
      refine ⟨Nat.le_refl _, .rejected ?_⟩
      rw [hwin hmax (by rw [ho]; intro hc; cases hc), ho]
    · rw [ho] at h
      cases h
      have hle : n ≤ seen.length := by
        obtain ⟨ha, -⟩ := one_complete (n := n) (.inl ⟨x, ho⟩)
        exact (answer_size hs ha).2.1
      refine ⟨by rw [List.length_drop]; omega, ?_⟩
      have hfin : P.Yields lim (seen ++ unseen) (.head x ((seen ++ unseen).drop n)) := Yields.final
        (by rw [hwin hmax (by rw [ho]; intro hc; cases hc), ho])
      rw [List.drop_append_of_le_length hle] at hfin
      exact hfin
    · rw [ho] at h
      dsimp only at h
      obtain ⟨ha, -⟩ := one_complete (n := n) (.inr ho)
      obtain ⟨hpos, hle, -⟩ := answer_size hs ha
      have hdrop : (seen.drop n).length = seen.length - n := List.length_drop ..
      obtain ⟨hlen, hres⟩ := @ih (seen.drop n) (by omega) h
      refine ⟨by omega, ?_⟩
      have hinfo : ∀ o, P.Yields lim (seen.drop n ++ unseen) o → P.Yields lim (seen ++ unseen) o :=
        fun o hy => .informational (n := n)
          (by rw [hwin hmax (by rw [ho]; intro hc; cases hc), ho])
          (by rw [List.drop_append_of_le_length hle]; exact hy)
      cases r with
      | rejected => exact hinfo _ hres
      | head x => exact hinfo _ hres
      | more => exact ⟨hres.1, fun o hy => hinfo o (hres.2 o hy)⟩

/-- **The loop ends**: every informational head takes a byte of the buffer. -/
theorem parseLoop_ends (hs : P.Steady) {k : Nat} {seen : Bytes} (hk : seen.length < k) :
    (P.parseLoop lim k seen).isSome = true := by
  induction k generalizing seen with
  | zero => omega
  | succ k ih =>
    unfold parseLoop
    rcases ho : P.one lim seen with _ | _ | _ | n
    · rfl
    · rfl
    · rfl
    · obtain ⟨ha, -⟩ := one_complete (n := n) (.inr ho)
      obtain ⟨hpos, hle, -⟩ := answer_size hs ha
      refine ih ?_
      rw [List.length_drop]
      omega

theorem parseCapped_ends (hs : P.Steady) (seen : Bytes) :
    ∃ r, P.parseCapped lim seen = some r := by
  refine Option.isSome_iff_exists.mp ?_
  unfold parseCapped
  rw [Option.isSome_map]
  exact parseLoop_ends hs (Nat.lt_succ_self _)

/-- The closure of `parse_head` over what it sees. -/
theorem parseCapped_yields (hs : P.Steady) {seen rest : Bytes} {r : HeadResult H}
    (unseen : Bytes) (hmax : seen.length ≤ lim.maxBufSize)
    (h : P.parseCapped lim seen = some (rest, r)) :
    match r with
    | .rejected => P.Yields lim (seen ++ unseen) .rejected
    | .head x => P.Yields lim (seen ++ unseen) (.head x (rest ++ unseen))
    | .more => P.oneCapped lim rest = .more ∧ rest.length < lim.maxBufSize ∧
      ∀ o, P.Yields lim (rest ++ unseen) o → P.Yields lim (seen ++ unseen) o := by
  unfold parseCapped at h
  rcases hl : P.parseLoop lim (seen.length + 1) seen with _ | ⟨kept, _ | _ | x⟩
  · rw [hl] at h
    cases h
  · obtain ⟨hlen, hone, hy⟩ := parseLoop_yields hs unseen hmax hl
    rw [hl] at h
    simp only [Option.map_some] at h
    by_cases hc : capped lim kept.length = true
    · rw [if_pos hc] at h
      cases h
      have hrej : P.oneCapped lim rest = .rejected := by
        unfold oneCapped
        rw [hone]
        simp only [hc, if_true]
      have htake : rest.take lim.maxBufSize = rest := List.take_of_length_le (by omega)
      refine hy _ (.rejected ?_)
      rw [oneCapped_window hs unseen (by rw [htake, hrej]; intro hx; cases hx), htake, hrej]
    · rw [if_neg hc] at h
      cases h
      refine ⟨?_, ?_, hy⟩
      · unfold oneCapped
        rw [hone]
        simp only [hc, Bool.false_eq_true, if_false]
      · unfold capped at hc
        simp only [Bool.or_eq_true, decide_eq_true_eq, not_or, Nat.not_le] at hc
        exact hc.2
  · obtain ⟨-, hy⟩ := parseLoop_yields hs unseen hmax hl
    rw [hl] at h
    cases h
    exact hy
  · obtain ⟨-, hy⟩ := parseLoop_yields hs unseen hmax hl
    rw [hl] at h
    cases h
    exact hy

/-- **The bounded parse ends**: where it takes another turn, informational heads made room. -/
theorem parseBounded_ends (hs : P.Steady) {k : Nat} {buf : Bytes} (hk : buf.length < k) :
    ∃ r, P.parseBounded lim k buf = some r := by
  induction k generalizing buf with
  | zero => omega
  | succ k ih =>
    unfold parseBounded
    by_cases hle : buf.length ≤ lim.maxBufSize
    · rw [if_pos hle]
      exact parseCapped_ends hs buf
    · rw [if_neg hle]
      have hseen : (buf.take lim.maxBufSize).length = lim.maxBufSize := by
        rw [List.length_take]
        omega
      obtain ⟨⟨left, r⟩, hc⟩ : ∃ r, P.parseCapped lim (buf.take lim.maxBufSize) = some r :=
        parseCapped_ends hs _
      have hy := parseCapped_yields hs (buf.drop lim.maxBufSize) (Nat.le_of_eq hseen) hc
      rw [hc]
      cases r with
      | more =>
        have hlt : left.length < lim.maxBufSize := hy.2.1
        refine ih ?_
        rw [List.length_append, List.length_drop]
        omega
      | rejected => exact ⟨_, rfl⟩
      | head x => exact ⟨_, rfl⟩

/-- More turns change nothing. -/
theorem parseBounded_mono {k j : Nat} {buf : Bytes} {r : Bytes × HeadResult H} (hkj : k ≤ j)
    (h : P.parseBounded lim k buf = some r) : P.parseBounded lim j buf = some r := by
  induction k generalizing j buf with
  | zero => cases h
  | succ k ih =>
    obtain ⟨j, rfl⟩ : ∃ i, j = i + 1 := ⟨j - 1, by omega⟩
    unfold parseBounded at h ⊢
    by_cases hle : buf.length ≤ lim.maxBufSize
    · rw [if_pos hle] at h ⊢
      exact h
    · rw [if_neg hle] at h ⊢
      rcases hc : P.parseCapped lim (buf.take lim.maxBufSize) with _ | ⟨left, _ | _ | x⟩
      · rw [hc] at h
        cases h
      · rw [hc] at h
        exact ih (by omega) h
      · rw [hc] at h
        exact h
      · rw [hc] at h
        exact h

/-- **The bounded parse comes to what the stream comes to.** -/
theorem parseBounded_yields (hs : P.Steady) {k : Nat} {buf rest : Bytes} {r : HeadResult H}
    (h : P.parseBounded lim k buf = some (rest, r)) :
    P.Yields lim buf (outcome (rest, r) []) := by
  induction k generalizing buf with
  | zero => cases h
  | succ k ih =>
    unfold parseBounded at h
    by_cases hle : buf.length ≤ lim.maxBufSize
    · rw [if_pos hle] at h
      have hy := parseCapped_yields hs [] hle h
      unfold outcome
      cases r with
      | rejected => simpa using hy
      | head x => simpa using hy
      | more =>
        obtain ⟨hone, hlt, hy⟩ := hy
        have hmore : P.Yields lim rest (.more rest) := .more (by
          rw [List.take_of_length_le (Nat.le_of_lt hlt), hone])
        simpa using hy (.more rest) (by simpa using hmore)
    · rw [if_neg hle] at h
      have hseen : (buf.take lim.maxBufSize).length = lim.maxBufSize := by
        rw [List.length_take]
        omega
      have hsplit : buf.take lim.maxBufSize ++ buf.drop lim.maxBufSize = buf :=
        List.take_append_drop _ _
      rcases hc : P.parseCapped lim (buf.take lim.maxBufSize) with _ | ⟨left, r'⟩
      · rw [hc] at h
        cases h
      · have hy := parseCapped_yields hs (buf.drop lim.maxBufSize) (Nat.le_of_eq hseen) hc
        rw [hsplit] at hy
        rw [hc] at h
        cases r' with
        | more => exact hy.2.2 _ (ih h)
        | rejected =>
          cases h
          exact hy
        | head x =>
          cases h
          unfold outcome
          simpa using hy

/-- A call ends, with what the stream comes to. -/
theorem receive_yields (hs : P.Steady) (buf data : Bytes) :
    ∃ r, P.receive lim buf data = some r ∧ P.Yields lim (buf ++ data) (outcome r []) := by
  obtain ⟨r, hr⟩ : ∃ r, P.receive lim buf data = some r := parseBounded_ends hs (Nat.lt_succ_self _)
  exact ⟨r, hr, parseBounded_yields hs hr⟩

/-! ### The pieces of a stream -/

/-- **The pieces come to what the stream comes to.** -/
theorem feed_yields (hs : P.Steady) (buf : Bytes) (pieces : List Bytes) (hne : pieces ≠ []) :
    ∃ o, P.feed lim buf pieces = some o ∧ P.Yields lim (buf ++ pieces.flatten) o := by
  induction pieces generalizing buf with
  | nil => exact absurd rfl hne
  | cons data rest ih =>
    have hends : ∃ r, P.receive lim buf data = some r ∧ P.Yields lim _ _ :=
      receive_yields hs buf data
    obtain ⟨⟨left, r⟩, hr, hrecv⟩ := hends
    rw [List.flatten_cons, ← List.append_assoc]
    unfold feed
    rw [hr]
    cases r with
    | more =>
      have hmore : P.Yields lim (buf ++ data) (.more left) := by
        simpa [outcome] using hrecv
      dsimp only
      cases rest with
      | nil => exact ⟨_, rfl, by simpa using hmore⟩
      | cons data' rest' =>
        obtain ⟨o, ho, hy'⟩ := ih left (by intro hc; cases hc)
        refine ⟨o, ho, ?_⟩
        rcases hmore.append hs (data' :: rest').flatten with ⟨hno, -⟩ | ⟨b, heq, hy⟩
        · exact absurd rfl (hno left)
        · cases heq
          exact hy _ hy'
    | rejected =>
      have hrej : P.Yields lim (buf ++ data) .rejected := hrecv
      refine ⟨_, rfl, ?_⟩
      rcases hrej.append hs rest.flatten with ⟨-, hy⟩ | ⟨b, heq, -⟩
      · exact hy
      · cases heq
    | head x =>
      have hhead : P.Yields lim (buf ++ data) (.head x left) := by
        simpa [outcome] using hrecv
      refine ⟨_, rfl, ?_⟩
      rcases hhead.append hs rest.flatten with ⟨-, hy⟩ | ⟨b, heq, -⟩
      · exact hy
      · cases heq

/-- A head that is complete is accepted within the limits, and rejected past them. -/
theorem yields_of_complete (hs : P.Steady) {buf : Bytes} {n : Nat} {x : H}
    (hc : P.httparse buf = .complete n) (hb : P.build (buf.take n) = some (some x)) :
    ((n ≤ lim.maxBufSize ∧ ∀ m ∈ lim.maxHeaderSize, n ≤ m) →
      P.Yields lim buf (.head x (buf.drop n))) ∧
    ((lim.maxBufSize < n ∨ ∃ m ∈ lim.maxHeaderSize, m < n) → P.Yields lim buf .rejected) := by
  obtain ⟨hpos, hle⟩ := hs.size hc
  have hne : buf.isEmpty = false := by
    rw [List.isEmpty_eq_false_iff, ← List.length_pos_iff]
    omega
  have hans : P.answer buf = .complete n := by
    unfold answer
    rw [hne]
    exact hc
  obtain ⟨-, -, hown⟩ := answer_size hs hans
  -- what the parse sees of the head, where it sees all of it
  have hsees : n ≤ lim.maxBufSize → P.answer (buf.take lim.maxBufSize) = .complete n ∧
      (buf.take lim.maxBufSize).take n = buf.take n := fun hn => by
    have htake : buf.take lim.maxBufSize = buf.take n ++ (buf.take lim.maxBufSize).drop n := by
      have hsplit := (List.take_append_drop n (buf.take lim.maxBufSize)).symm
      rwa [List.take_take, Nat.min_eq_left hn] at hsplit
    refine ⟨?_, by rw [List.take_take, Nat.min_eq_left hn]⟩
    rw [htake, answer_append hs _ (by rw [hown]; intro hx; cases hx), hown]
  refine ⟨fun ⟨hmax, hall⟩ => .final ?_, fun hbig => .rejected ?_⟩
  · obtain ⟨ha, ht⟩ := hsees hmax
    have hany : lim.maxHeaderSize.any (· < n) = false := by
      rcases hm : lim.maxHeaderSize with _ | m
      · rfl
      · have hnm := hall m (by rw [hm]; rfl)
        simp only [Option.any_some, decide_eq_false_iff_not]
        omega
    have hone : P.one lim (buf.take lim.maxBufSize) = .final x n := by
      unfold one
      rw [ha]
      simp only [hany, Bool.false_eq_true, if_false, ht, hb]
    rw [oneCapped_of_ne (by rw [hone]; intro hx; cases hx), hone]
  · by_cases hmax : n ≤ lim.maxBufSize
    · obtain ⟨ha, -⟩ := hsees hmax
      obtain ⟨m, hm, hlt⟩ := hbig.resolve_left (by omega)
      have hany : lim.maxHeaderSize.any (· < n) = true := by
        rw [Option.any_eq_true]
        exact ⟨m, hm, by simpa using hlt⟩
      have hone : P.one lim (buf.take lim.maxBufSize) = .rejected := by
        unfold one
        rw [ha]
        simp only [hany, if_true]
      rw [oneCapped_of_ne (by rw [hone]; intro hx; cases hx), hone]
    · -- all that the parse sees is incomplete
      have hseen : (buf.take lim.maxBufSize).length = lim.maxBufSize := by
        rw [List.length_take]
        omega
      have hpart : P.answer (buf.take lim.maxBufSize) = .incomplete := by
        by_contra hno
        have hback := answer_append hs (buf.drop lim.maxBufSize) hno
        rw [List.take_append_drop, hans] at hback
        have hin := (answer_size hs hback.symm).2.1
        omega
      unfold oneCapped one
      rw [hpart]
      have hcap : capped lim (buf.take lim.maxBufSize).length = true := by
        unfold capped
        rw [hseen]
        simp
      simp only [hcap, if_true]

/-- An informational head, within the limits. -/
def Interim (P : HeadParser H) (lim : Limits) (head : Bytes) : Prop :=
  P.httparse head = .complete head.length ∧ P.build head = some none ∧
    head.length ≤ lim.maxBufSize ∧ ∀ m ∈ lim.maxHeaderSize, head.length ≤ m

/-- A stream behind an informational head. -/
theorem Interim.yields (hs : P.Steady) {head : Bytes} (h : P.Interim lim head) {buf : Bytes}
    {o : Outcome H} (hy : P.Yields lim buf o) : P.Yields lim (head ++ buf) o := by
  obtain ⟨hc, hb, hmax, hall⟩ := h
  have hne : head.isEmpty = false := by
    rw [List.isEmpty_eq_false_iff, ← List.length_pos_iff]
    exact (hs.size hc).1
  have hans : P.answer head = .complete head.length := by
    unfold answer
    rw [hne]
    exact hc
  have hany : lim.maxHeaderSize.any (· < head.length) = false := by
    rcases hm : lim.maxHeaderSize with _ | m
    · rfl
    · have hnm := hall m (by rw [hm]; rfl)
      simp only [Option.any_some, decide_eq_false_iff_not]
      omega
  have hone : P.one lim head = .informational head.length := by
    unfold one
    rw [hans]
    simp only [hany, Bool.false_eq_true, if_false, List.take_length, hb]
  have hmore : P.one lim head ≠ .more := by
    rw [hone]
    intro hx
    cases hx
  have htake : head.take lim.maxBufSize = head := List.take_of_length_le hmax
  have hcap : P.oneCapped lim (head.take lim.maxBufSize) = .informational head.length := by
    rw [htake, oneCapped_of_ne hmore, hone]
  refine .informational (n := head.length) ?_ ?_
  · rw [oneCapped_window hs buf (by rw [hcap]; intro hx; cases hx), hcap]
  · rw [List.drop_left]
    exact hy

/-- A stream behind informational heads. -/
theorem yields_of_interims (hs : P.Steady) {heads : List Bytes} (h : ∀ b ∈ heads, P.Interim lim b)
    {buf : Bytes} {o : Outcome H} (hy : P.Yields lim buf o) :
    P.Yields lim (heads.flatten ++ buf) o := by
  induction heads with
  | nil => exact hy
  | cons head heads ih =>
    rw [List.flatten_cons, List.append_assoc]
    exact (h head List.mem_cons_self).yields hs
      (ih fun b hb => h b (List.mem_cons_of_mem _ hb))

/-- **Acceptance does not depend on the split.**  For every stream in any pieces, on the server and
on the client with any informational responses before the final one: every call ends, and the pieces
come to what the whole comes to in one call; the bounded parse ends on every input, after a turn for
each byte at most; and behind any informational heads a complete head is accepted up to the limits
and rejected past them. -/
theorem split_invariant (P : HeadParser H) (lim : Limits) (hs : P.Steady) :
    (∀ pieces : List Bytes, pieces ≠ [] → ∃ o, P.feed lim [] pieces = some o ∧
      P.feed lim [] [pieces.flatten] = some o) ∧
    (∀ buf k, buf.length < k → ∃ r, P.parseBounded lim k buf = some r ∧
      P.parseHead lim buf = some r) ∧
    ∀ (heads : List Bytes), (∀ b ∈ heads, P.Interim lim b) → ∀ buf n x,
      P.httparse buf = .complete n → P.build (buf.take n) = some (some x) →
      ((n ≤ lim.maxBufSize ∧ ∀ m ∈ lim.maxHeaderSize, n ≤ m) →
        P.feed lim [] [heads.flatten ++ buf] = some (.head x (buf.drop n))) ∧
      ((lim.maxBufSize < n ∨ ∃ m ∈ lim.maxHeaderSize, m < n) →
        P.feed lim [] [heads.flatten ++ buf] = some .rejected) := by
  have hfeed : ∀ pieces : List Bytes, pieces ≠ [] →
      ∃ o, P.feed lim [] pieces = some o ∧ P.Yields lim pieces.flatten o := fun pieces hne =>
    feed_yields hs [] pieces hne
  have hwhole : ∀ buf, ∃ o, P.feed lim [] [buf] = some o ∧ P.Yields lim buf o := fun buf => by
    obtain ⟨o, ho, hy⟩ := hfeed [buf] (by intro hc; cases hc)
    exact ⟨o, ho, by simpa using hy⟩
  have hto : ∀ buf o, P.Yields lim buf o → P.feed lim [] [buf] = some o := fun buf o hy => by
    obtain ⟨o', ho', hy'⟩ := hwhole buf
    rw [ho', hy'.unique hy]
  refine ⟨fun pieces hne => ?_, fun buf k hk => ?_, fun heads hheads buf n x hc hb => ?_⟩
  · obtain ⟨o, ho, hy⟩ := hfeed pieces hne
    exact ⟨o, ho, hto _ _ hy⟩
  · obtain ⟨r, hr⟩ : ∃ r, P.parseHead lim buf = some r :=
      parseBounded_ends hs (Nat.lt_succ_self _)
    exact ⟨r, parseBounded_mono hk hr, hr⟩
  · obtain ⟨hin, hout⟩ := @yields_of_complete _ _ lim hs _ _ _ hc hb
    exact ⟨fun h => hto _ _ (yields_of_interims hs hheads (hin h)),
      fun h => hto _ _ (yields_of_interims hs hheads (hout h))⟩

/-! ### Heads that end at an empty line -/

theorem headEnd_size {buf : Bytes} {n : Nat} (h : headEnd buf = some n) :
    4 ≤ n ∧ n ≤ buf.length := by
  induction buf generalizing n with
  | nil => cases h
  | cons b rest ih =>
    unfold headEnd at h
    split at h
    · next hb =>
      cases h
      have hlen := congrArg List.length hb
      rw [List.length_take] at hlen
      have hfour : min 4 (b :: rest).length = 4 := hlen
      omega
    · obtain ⟨m, hm, rfl⟩ := Option.map_eq_some_iff.mp h
      obtain ⟨h₁, h₂⟩ := ih hm
      rw [List.length_cons]
      omega

theorem headEnd_append {buf : Bytes} {n : Nat} (h : headEnd buf = some n) (more : Bytes) :
    headEnd (buf ++ more) = some n := by
  induction buf generalizing n with
  | nil => cases h
  | cons b rest ih =>
    have hsize := headEnd_size h
    have htake : (b :: (rest ++ more)).take 4 = (b :: rest).take 4 := by
      rw [← List.cons_append, List.take_append_of_le_length (by omega)]
    unfold headEnd at h
    rw [List.cons_append]
    unfold headEnd
    rw [htake]
    split at h
    · next hb =>
      rw [if_pos hb]
      exact h
    · next hb =>
      obtain ⟨m, hm, rfl⟩ := Option.map_eq_some_iff.mp h
      rw [if_neg hb, ih hm]
      rfl

theorem headEnd_take {buf : Bytes} {n : Nat} (h : headEnd buf = some n) :
    headEnd (buf.take n) = some n := by
  induction buf generalizing n with
  | nil => cases h
  | cons b rest ih =>
    obtain ⟨hfour, -⟩ := headEnd_size h
    obtain ⟨m, rfl⟩ : ∃ m, n = m + 1 := ⟨n - 1, by omega⟩
    have htake : (b :: rest.take m).take 4 = (b :: rest).take 4 := by
      rw [← List.take_succ_cons, List.take_take, Nat.min_eq_left hfour]
    unfold headEnd at h
    rw [List.take_succ_cons]
    unfold headEnd
    rw [htake]
    split at h
    · next hb =>
      rw [if_pos hb]
      exact h
    · next hb =>
      obtain ⟨k, hk, hkm⟩ := Option.map_eq_some_iff.mp h
      obtain rfl : k = m := by simpa using hkm
      rw [if_neg hb, ih hk]
      rfl

/-- `httparse` on heads that are not malformed. -/
def parseEnd (buf : Bytes) : Answer := (headEnd buf).elim .incomplete .complete

theorem parseEnd_complete {buf : Bytes} {n : Nat} (h : parseEnd buf = .complete n) :
    headEnd buf = some n := by
  unfold parseEnd at h
  rcases he : headEnd buf with _ | k
  · rw [he] at h
    cases h
  · rw [he] at h
    cases h
    rfl

theorem steady_parseEnd {build : Bytes → Option (Option H)} : Steady ⟨parseEnd, build⟩ where
  complete := fun {buf n} h more => by
    change parseEnd (buf ++ more) = _
    unfold parseEnd
    rw [headEnd_append (parseEnd_complete h)]
    rfl
  failed := fun {buf} h more => by
    change parseEnd buf = _ at h
    unfold parseEnd at h
    rcases he : headEnd buf with _ | k <;> rw [he] at h <;> cases h
  own := fun {buf n} h => by
    change parseEnd (buf.take n) = _
    unfold parseEnd
    rw [headEnd_take (parseEnd_complete h)]
    rfl
  size := fun {buf n} h => by
    obtain ⟨h₁, h₂⟩ := headEnd_size (parseEnd_complete h)
    exact ⟨by omega, h₂⟩

/-- The status of a response head, by the hundreds; a 1xx head is informational. -/
def responses : HeadParser UInt8 where
  httparse := parseEnd
  build bytes :=
    match bytes.drop 9 with
    | [] => none
    | hundreds :: _ => if hundreds = 49 then some none else some (some hundreds)

/-- The first byte of the method of a request head. -/
def requests : HeadParser UInt8 := ofRequests parseEnd List.head?

/-- An informational head of just the limit and a final one, cut within both and within an empty
line: the body's bytes are left.  And a request, in two pieces. -/
theorem split_invariant_line :
    responses.feed { maxHeaderSize := some 25 } []
        [ofText "HTTP/1.1 100 Continue\r\n\r", ofText "\nHTTP/1.1 2", ofText "00 OK\r\n\r\nhi"] =
      some (.head 50 (ofText "hi")) ∧
    requests.feed { maxHeaderSize := some 18 } [] [ofText "GET / HT", ofText "TP/1.1\r\n\r\n"] =
      some (.head 71 []) := by
  constructor
  · obtain ⟨hsplit, -, hbound⟩ := split_invariant responses { maxHeaderSize := some 25 }
      steady_parseEnd
    obtain ⟨o, ho, hwhole⟩ := hsplit
      [ofText "HTTP/1.1 100 Continue\r\n\r", ofText "\nHTTP/1.1 2", ofText "00 OK\r\n\r\nhi"]
      (by decide)
    have hin := (hbound [ofText "HTTP/1.1 100 Continue\r\n\r\n"]
      (by unfold Interim; decide +kernel) (ofText "HTTP/1.1 200 OK\r\n\r\nhi") 19 50
      (by decide +kernel) (by decide +kernel)).1 (by decide +kernel)
    rw [ho, ← hwhole]
    exact hin
  · obtain ⟨o, ho, hwhole⟩ := (split_invariant requests { maxHeaderSize := some 18 }
      steady_parseEnd).1 [ofText "GET / HT", ofText "TP/1.1\r\n\r\n"] (by decide)
    rw [ho, ← hwhole]
    decide +kernel

end Httpunk.H1.HeadParser
