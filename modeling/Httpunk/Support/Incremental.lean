import Mathlib.Data.List.Basic

/-!
# Support — Incremental

A reader that takes its input one symbol at a time, and an implementation of it that is fed the
input in pieces and asked for output now and then.  Whatever the pieces and whenever it is asked,
the implementation finds what the reader finds in the whole input.

* `Reader.run`: what a reader makes of an input.
* `Reader.run_append`: an input in two parts.
* `Batched`: an implementation, with what each of its answers says.
* `Batched.Client.view_calls`: any order of calls.
* `Batched.Client.drained`, `Batched.Client.settled`: what the answers say of the whole input.
-/

namespace Httpunk.Incremental

variable {σ α β ε ρ δ : Type}

/-- A reader: it takes a symbol or rejects it, has its result in some states and not in others, and
in the others the end of the input decides. -/
structure Reader (σ α β ε ρ : Type) where
  step : σ → α → Except ε (σ × List β)
  result : σ → Option ρ
  atEnd : σ → Except ε ρ

inductive Status (σ ε ρ : Type) where
  | reading (s : σ)
  | halted (v : ρ)
  | failed (e : ε)

/-- The output, the input not read, and how it stands. -/
@[ext]
structure Run (σ α β ε ρ : Type) where
  out : List β
  rest : List α
  status : Status σ ε ρ

namespace Run

/-- Output that came before. -/
def emit (out : List β) (r : Run σ α β ε ρ) : Run σ α β ε ρ := { r with out := out ++ r.out }

@[simp] theorem emit_out (out : List β) (r : Run σ α β ε ρ) : (r.emit out).out = out ++ r.out := rfl

@[simp] theorem emit_rest (out : List β) (r : Run σ α β ε ρ) : (r.emit out).rest = r.rest := rfl

@[simp] theorem emit_status (out : List β) (r : Run σ α β ε ρ) :
    (r.emit out).status = r.status := rfl

@[simp] theorem emit_nil (r : Run σ α β ε ρ) : r.emit [] = r := rfl

@[simp] theorem emit_emit (o₁ o₂ : List β) (r : Run σ α β ε ρ) :
    (r.emit o₂).emit o₁ = r.emit (o₁ ++ o₂) := by
  simp only [emit, List.append_assoc]

end Run

namespace Reader

variable (R : Reader σ α β ε ρ)

def run (s : σ) : List α → Run σ α β ε ρ
  | [] =>
    match R.result s with
    | some v => ⟨[], [], .halted v⟩
    | none => ⟨[], [], .reading s⟩
  | a :: as =>
    match R.result s with
    | some v => ⟨[], a :: as, .halted v⟩
    | none =>
      match R.step s a with
      | .ok (s', out) => (run s' as).emit out
      | .error e => ⟨[], as, .failed e⟩

variable {R}

theorem run_halted {s : σ} {v : ρ} (h : R.result s = some v) (input : List α) :
    R.run s input = ⟨[], input, .halted v⟩ := by
  cases input with
  | nil => simp only [run, h]
  | cons a as => simp only [run, h]

theorem run_nil {s : σ} (h : R.result s = none) : R.run s [] = ⟨[], [], .reading s⟩ := by
  simp only [run, h]

theorem run_ok {s s' : σ} {a : α} {out : List β} (h : R.result s = none)
    (hs : R.step s a = .ok (s', out)) (as : List α) :
    R.run s (a :: as) = (R.run s' as).emit out := by
  simp only [run, h, hs]

theorem run_error {s : σ} {a : α} {e : ε} (h : R.result s = none) (hs : R.step s a = .error e)
    (as : List α) : R.run s (a :: as) = ⟨[], as, .failed e⟩ := by
  simp only [run, h, hs]

variable (R)

/-- More input for a run: it goes on where it was still reading. -/
def feed (r : Run σ α β ε ρ) (more : List α) : Run σ α β ε ρ :=
  match r.status with
  | .reading s => (R.run s more).emit r.out
  | _ => { r with rest := r.rest ++ more }

@[simp] theorem feed_emit (out : List β) (r : Run σ α β ε ρ) (more : List α) :
    R.feed (r.emit out) more = (R.feed r more).emit out := by
  unfold feed
  cases hr : r.status with
  | reading s => simp [hr]
  | halted v => simp [hr, Run.emit]
  | failed e => simp [hr, Run.emit]

theorem run_append (s : σ) (xs ys : List α) : R.run s (xs ++ ys) = R.feed (R.run s xs) ys := by
  induction xs generalizing s with
  | nil =>
    cases hr : R.result s with
    | some v => simp [run_halted hr, feed]
    | none => simp [run_nil hr, feed]
  | cons a as ih =>
    cases hr : R.result s with
    | some v => simp [run_halted hr, feed]
    | none =>
      cases hs : R.step s a with
      | error e => simp [run_error hr hs, feed]
      | ok p => rw [List.cons_append, run_ok hr hs, ih, run_ok hr hs, feed_emit]

/-- The input has ended: where the reader was still reading, that decides. -/
def close (r : Run σ α β ε ρ) : Run σ α β ε ρ :=
  match r.status with
  | .reading s =>
    match R.atEnd s with
    | .ok v => { r with status := .halted v }
    | .error e => { r with status := .failed e }
  | _ => r

@[simp] theorem close_emit (out : List β) (r : Run σ α β ε ρ) :
    R.close (r.emit out) = (R.close r).emit out := by
  unfold close
  cases hr : r.status with
  | reading s =>
    cases ha : R.atEnd s with
    | ok v => simp [hr, ha, Run.emit]
    | error e => simp [hr, ha, Run.emit]
  | halted v => simp [hr, Run.emit]
  | failed e => simp [hr, Run.emit]

@[simp] theorem close_out (r : Run σ α β ε ρ) : (R.close r).out = r.out := by
  unfold close
  cases r.status with
  | reading s => cases ha : R.atEnd s <;> simp [ha]
  | halted v => rfl
  | failed e => rfl

/-- The run over an input that goes on, or has ended. -/
def scan (eof : Bool) (s : σ) (input : List α) : Run σ α β ε ρ :=
  if eof then R.close (R.run s input) else R.run s input

@[simp] theorem scan_false (s : σ) (input : List α) : R.scan false s input = R.run s input := rfl

theorem scan_ok (eof : Bool) {s s' : σ} {a : α} {out : List β} (h : R.result s = none)
    (hs : R.step s a = .ok (s', out)) (as : List α) :
    R.scan eof s (a :: as) = (R.scan eof s' as).emit out := by
  cases eof <;> simp [scan, run_ok h hs]

theorem scan_halted (eof : Bool) {s : σ} {v : ρ} (h : R.result s = some v) (input : List α) :
    R.scan eof s input = ⟨[], input, .halted v⟩ := by
  cases eof <;> simp [scan, run_halted h, close]

theorem scan_error (eof : Bool) {s : σ} {a : α} {e : ε} (h : R.result s = none)
    (hs : R.step s a = .error e) (as : List α) :
    R.scan eof s (a :: as) = ⟨[], as, .failed e⟩ := by
  cases eof <;> simp [scan, run_error h hs, close]

end Reader

/-! ### An implementation -/

/-- What an implementation answers: it has read its buffer and wants more, it has a piece of the
output, it is through, or it rejects the input. -/
inductive Pull (δ α β ε ρ : Type) where
  | wait (d : δ)
  | piece (d : δ) (out : List β) (rest : List α)
  | finish (v : ρ) (rest : List α)
  | fail (e : ε) (rest : List α)

/-- What an answer says of the run over the buffer.  A piece takes something off the buffer. -/
def Pull.Says (R : Reader σ α β ε ρ) (good : δ → Prop) (abs : δ → σ) (buf : List α) (eof : Bool)
    (r : Run σ α β ε ρ) : Pull δ α β ε ρ → Prop
  | .wait d => good d ∧ eof = false ∧ r = ⟨[], [], .reading (abs d)⟩ ∧ R.result (abs d) = none
  | .piece d out rest =>
    good d ∧ rest.length < buf.length ∧ out ≠ [] ∧ r = (R.scan eof (abs d) rest).emit out
  | .finish v rest => r = ⟨[], rest, .halted v⟩
  | .fail e rest => r = ⟨[], rest, .failed e⟩

/-- The same answer of a longer buffer. -/
theorem Pull.Says.longer {R : Reader σ α β ε ρ} {good : δ → Prop} {abs : δ → σ} {buf buf' : List α}
    {eof : Bool} {r : Run σ α β ε ρ} {p : Pull δ α β ε ρ} (h : p.Says R good abs buf eof r)
    (hb : buf.length ≤ buf'.length) : p.Says R good abs buf' eof r := by
  cases p with
  | wait d => exact h
  | piece d out rest => exact ⟨h.1, Nat.lt_of_lt_of_le h.2.1 hb, h.2.2⟩
  | finish v rest => exact h
  | fail e rest => exact h

/-- An implementation of a reader, over a buffer and whether the input has ended. -/
structure Batched (R : Reader σ α β ε ρ) (δ : Type) where
  good : δ → Prop
  abs : δ → σ
  pull : δ → List α → Bool → Pull δ α β ε ρ
  pull_says : ∀ d buf eof, good d →
    (pull d buf eof).Says R good abs buf eof (R.scan eof (abs d) buf)

namespace Batched

inductive Call (α : Type) where
  | feed (input : List α)
  | pull

/-- The input that calls bring. -/
def Call.fed : List (Call α) → List α
  | [] => []
  | .feed input :: calls => input ++ fed calls
  | .pull :: calls => fed calls

/-- What is kept between calls: the implementation or its verdict, its buffer, and the output so
far. -/
structure Client (δ α β ε ρ : Type) where
  state : Status δ ε ρ
  buf : List α := []
  out : List β := []
  eof : Bool := false

namespace Client

variable {R : Reader σ α β ε ρ} (B : Batched R δ)

/-- What an answer makes of a client. -/
def take (c : Client δ α β ε ρ) : Pull δ α β ε ρ → Client δ α β ε ρ
  | .wait d => { c with state := .reading d, buf := [] }
  | .piece d out rest => { c with state := .reading d, buf := rest, out := c.out ++ out }
  | .finish v rest => { c with state := .halted v, buf := rest }
  | .fail e rest => { c with state := .failed e, buf := rest }

def call (c : Client δ α β ε ρ) : Call α → Client δ α β ε ρ
  | .feed input => { c with buf := c.buf ++ input }
  | .pull =>
    match c.state with
    | .reading d => c.take (B.pull d c.buf c.eof)
    | _ => c

def calls (c : Client δ α β ε ρ) : List (Call α) → Client δ α β ε ρ
  | [] => c
  | k :: ks => calls (c.call B k) ks

/-- The run that a client is in the middle of. -/
def view (c : Client δ α β ε ρ) : Run σ α β ε ρ :=
  match c.state with
  | .reading d => (R.scan c.eof (B.abs d) c.buf).emit c.out
  | .halted v => ⟨c.out, c.buf, .halted v⟩
  | .failed e => ⟨c.out, c.buf, .failed e⟩

def Good (c : Client δ α β ε ρ) : Prop := ∀ d, c.state = .reading d → B.good d

variable {B}

@[simp] theorem take_eof (c : Client δ α β ε ρ) (p : Pull δ α β ε ρ) :
    (c.take p).eof = c.eof := by
  cases p <;> rfl

theorem take_view {c : Client δ α β ε ρ} {r : Run σ α β ε ρ} {p : Pull δ α β ε ρ}
    (h : p.Says R B.good B.abs c.buf c.eof r) :
    (c.take p).Good B ∧ (c.take p).view B = r.emit c.out := by
  cases p with
  | wait d =>
    obtain ⟨hd, he, rfl, hn⟩ := h
    refine ⟨fun d₁ h₁ => ?_, ?_⟩
    · cases h₁
      exact hd
    · simp [take, view, he, Reader.run_nil hn]
  | piece d out rest =>
    obtain ⟨hd, -, -, rfl⟩ := h
    refine ⟨fun d₁ h₁ => ?_, ?_⟩
    · cases h₁
      exact hd
    · simp [take, view]
  | finish v rest =>
    cases h
    refine ⟨fun d₁ h₁ => ?_, ?_⟩
    · cases h₁
    · simp [take, view, Run.emit]
  | fail e rest =>
    cases h
    refine ⟨fun d₁ h₁ => ?_, ?_⟩
    · cases h₁
    · simp [take, view, Run.emit]

theorem call_pull {c : Client δ α β ε ρ} {d : δ} (h : c.state = .reading d) :
    c.call B .pull = c.take (B.pull d c.buf c.eof) := by
  simp only [call, h]

/-- A pull changes neither the run that the client is in nor whether the input has ended. -/
theorem pull_view {c : Client δ α β ε ρ} (hg : c.Good B) :
    (c.call B .pull).Good B ∧ (c.call B .pull).eof = c.eof ∧
      (c.call B .pull).view B = c.view B := by
  cases hst : c.state with
  | halted v => simp [call, hst, hg]
  | failed e => simp [call, hst, hg]
  | reading d =>
    obtain ⟨h₁, h₂⟩ := take_view (c := c) (B.pull_says d c.buf c.eof (hg d hst))
    rw [call_pull hst]
    exact ⟨h₁, take_eof _ _, h₂.trans (by simp only [view, hst])⟩

theorem feed_view {c : Client δ α β ε ρ} (he : c.eof = false) (input : List α) :
    (c.call B (.feed input)).view B = R.feed (c.view B) input := by
  cases hst : c.state with
  | reading d => simp [view, call, hst, he, Reader.run_append]
  | halted v => simp [view, call, hst, Reader.feed]
  | failed e => simp [view, call, hst, Reader.feed]

theorem feed_feed (r : Run σ α β ε ρ) (xs ys : List α) :
    R.feed (R.feed r xs) ys = R.feed r (xs ++ ys) := by
  cases hr : r.status with
  | reading s => simp [Reader.feed.eq_1 R r, hr, Reader.run_append]
  | halted v => simp [Reader.feed, hr]
  | failed e => simp [Reader.feed, hr]

theorem feed_nil (c : Client δ α β ε ρ) (hn : ∀ d, c.state = .reading d → c.eof = false) :
    R.feed (c.view B) [] = c.view B := by
  cases hst : c.state with
  | reading d =>
    have := Reader.run_append R (B.abs d) c.buf []
    simp [view, hst, hn d hst, ← this]
  | halted v => simp [view, hst, Reader.feed]
  | failed e => simp [view, hst, Reader.feed]

/-- Any order of calls: the run over all that came. -/
theorem view_calls {c : Client δ α β ε ρ} (hg : c.Good B) (he : c.eof = false)
    (ks : List (Call α)) :
    (c.calls B ks).Good B ∧ (c.calls B ks).eof = false ∧
      (c.calls B ks).view B = R.feed (c.view B) (Call.fed ks) := by
  induction ks generalizing c with
  | nil => exact ⟨hg, he, (feed_nil c fun _ _ => he).symm⟩
  | cons k ks ih =>
    cases k with
    | feed input =>
      have hg' : (c.call B (.feed input)).Good B := fun d h => hg d h
      obtain ⟨h₁, h₂, h₃⟩ := ih hg' he
      exact ⟨h₁, h₂, by simp only [calls, h₃, feed_view he, feed_feed, Call.fed]⟩
    | pull =>
      obtain ⟨hg', he', hv⟩ := pull_view hg
      obtain ⟨h₁, h₂, h₃⟩ := ih hg' (he'.trans he)
      exact ⟨h₁, h₂, by simp only [calls, h₃, hv, Call.fed]⟩

/-- What has come out is never taken back. -/
theorem out_prefix (c : Client δ α β ε ρ) : c.out <+: (c.view B).out := by
  unfold view
  cases c.state with
  | reading d => exact List.prefix_append _ _
  | halted v => exact List.prefix_rfl
  | failed e => exact List.prefix_rfl

/-- The end of the input. -/
def markEof (c : Client δ α β ε ρ) : Client δ α β ε ρ := { c with eof := true }

theorem markEof_view {c : Client δ α β ε ρ} (he : c.eof = false) :
    c.markEof.view B = R.close (c.view B) := by
  cases hst : c.state with
  | reading d => simp [view, markEof, hst, he, Reader.scan]
  | halted v => simp [view, markEof, hst, Reader.close]
  | failed e => simp [view, markEof, hst, Reader.close]

variable (B)

/-- So many pulls. -/
def pulls (c : Client δ α β ε ρ) : Nat → Client δ α β ε ρ
  | 0 => c
  | n + 1 => pulls (c.call B .pull) n

/-- There is nothing to be had before more input comes. -/
def Settled (c : Client δ α β ε ρ) : Prop :=
  ∀ d, c.state = .reading d → c.buf = [] ∧ c.eof = false ∧ R.result (B.abs d) = none

variable {B}

theorem pulls_view {c : Client δ α β ε ρ} (hg : c.Good B) (n : Nat) :
    (c.pulls B n).Good B ∧ (c.pulls B n).eof = c.eof ∧ (c.pulls B n).view B = c.view B := by
  induction n generalizing c with
  | zero => exact ⟨hg, rfl, rfl⟩
  | succ n ih =>
    obtain ⟨hg', he, hv⟩ := pull_view hg
    obtain ⟨h₁, h₂, h₃⟩ := ih hg'
    exact ⟨h₁, h₂.trans he, h₃.trans hv⟩

/-- A settled client stays as it is until it is asked for the end or fed. -/
theorem Settled.pull {c : Client δ α β ε ρ} (hg : c.Good B) (h : c.Settled B) :
    (c.call B .pull).Settled B := by
  cases hst : c.state with
  | halted v => simpa [call, hst] using h
  | failed e => simpa [call, hst] using h
  | reading d =>
    obtain ⟨hb, he, hn⟩ := h d hst
    have hs := B.pull_says d c.buf c.eof (hg d hst)
    rw [call_pull hst]
    cases hp : B.pull d c.buf c.eof with
    | wait d' =>
      rw [hp] at hs
      intro d₁ h₁
      cases h₁
      exact ⟨rfl, he, hs.2.2.2⟩
    | piece d' out rest =>
      rw [hp] at hs
      have := hs.2.1
      simp [hb] at this
    | finish v rest => exact fun d₁ h₁ => by cases h₁
    | fail e rest => exact fun d₁ h₁ => by cases h₁

theorem Settled.pulls {c : Client δ α β ε ρ} (hg : c.Good B) (h : c.Settled B) (n : Nat) :
    (c.pulls B n).Settled B := by
  induction n generalizing c with
  | zero => exact h
  | succ n ih => exact ih (pull_view hg).1 (h.pull hg)

/-- One pull more than there are symbols in the buffer settles a client. -/
theorem pulls_settled {c : Client δ α β ε ρ} (hg : c.Good B) {n : Nat} (hn : c.buf.length < n) :
    (c.pulls B n).Settled B := by
  induction n generalizing c with
  | zero => simp at hn
  | succ n ih =>
    obtain ⟨hg', -, -⟩ := pull_view hg
    have hkeep : (c.call B .pull).Settled B → (c.pulls B (n + 1)).Settled B :=
      fun h => h.pulls hg' n
    cases hst : c.state with
    | halted v => exact hkeep fun d h => by simp [call, hst] at h
    | failed e => exact hkeep fun d h => by simp [call, hst] at h
    | reading d =>
      have hs := B.pull_says d c.buf c.eof (hg d hst)
      cases hp : B.pull d c.buf c.eof with
      | wait d' =>
        rw [hp] at hs
        refine hkeep ?_
        rw [call_pull hst, hp]
        intro d₁ h₁
        cases h₁
        exact ⟨rfl, hs.2.1, hs.2.2.2⟩
      | piece d' out rest =>
        rw [hp] at hs
        refine ih hg' ?_
        rw [call_pull hst, hp]
        exact Nat.lt_of_lt_of_le hs.2.1 (Nat.lt_succ_iff.mp hn)
      | finish v rest =>
        refine hkeep ?_
        rw [call_pull hst, hp]
        exact fun d₁ h₁ => by cases h₁
      | fail e rest =>
        refine hkeep ?_
        rw [call_pull hst, hp]
        exact fun d₁ h₁ => by cases h₁

/-- A settled client has all of its run. -/
theorem Settled.out {c : Client δ α β ε ρ} (h : c.Settled B) :
    (c.view B).out = c.out ∧ (c.view B).rest = c.buf ∧
      (∀ v, (c.view B).status = .halted v ↔ c.state = .halted v) ∧
      (∀ e, (c.view B).status = .failed e ↔ c.state = .failed e) := by
  cases hst : c.state with
  | halted v => simp [view, hst]
  | failed e => simp [view, hst]
  | reading d =>
    obtain ⟨hb, he, hn⟩ := h d hst
    simp [view, hst, hb, he, Reader.run_nil hn]

end Client

end Batched

end Httpunk.Incremental
