import Httpunk.H2.Driver.Decoder
import Httpunk.H2.Driver.Invariant
import Httpunk.H2.Hpack.Assembly

/-!
# H2 — Safety — Batching

The SETTINGS we advertise and the batching of reads: a whole read is decoded before any of it is
dispatched, so the frames behind the acknowledgement in one read are decoded under the limits
before it.  The handshake set all of them but the size of HPACK's table.

* `Decoder.Agree`: two decoders that differ in their limit on HPACK's table at most.
* `Decoder.next_agree`: they decode the next frame alike, unless its block asks for more than a
  limit.
* `Link.batched_iff`: what is accepted frame by frame is accepted read by read, exactly when no
  block behind the acknowledgement in its read asks for more than the limit before it.
-/

namespace Httpunk.H2

variable {T P : Type} {v : Vendor T P}

/-! ### Size updates -/

/-- The sizes that a fragment asks for at its start. -/
def sizesAsked : Nat → Bytes → List Nat
  | 0, _ => []
  | _ + 1, [] => []
  | n + 1, b :: src =>
    if isSizeUpdate b then
      match decodeInt (b :: src) with
      | .error _ => []
      | .ok (size, rest) => size :: sizesAsked n rest
    else []

/-- A fragment asks for no more than either limit: both make the same of it. -/
theorem sizeUpdates_fit {last last' : Nat} (n : Nat) (table : T) (src : Bytes)
    (h : ∀ size ∈ sizesAsked n src, size ≤ last) (h' : ∀ size ∈ sizesAsked n src, size ≤ last') :
    v.sizeUpdates last n table src = v.sizeUpdates last' n table src := by
  induction n generalizing table src with
  | zero => rfl
  | succ n ih =>
    cases src with
    | nil => rfl
    | cons b src =>
      unfold Vendor.sizeUpdates
      unfold sizesAsked at h h'
      by_cases hb : isSizeUpdate b = true
      · rw [if_pos hb] at h h' ⊢
        rw [if_pos hb]
        rcases hd : decodeInt (b :: src) with err | ⟨size, rest⟩
        · rfl
        · rw [hd] at h h'
          dsimp only at h h' ⊢
          rw [if_neg (Nat.not_lt.mpr (h size (List.mem_cons_self ..))),
            if_neg (Nat.not_lt.mpr (h' size (List.mem_cons_self ..)))]
          exact ih _ _ (fun s hs => h s (List.mem_cons_of_mem _ hs))
            fun s hs => h' s (List.mem_cons_of_mem _ hs)
      · rw [if_neg hb, if_neg hb]

/-- A fragment that asks for more than the limit is refused. -/
theorem sizeUpdates_exceed {last : Nat} (n : Nat) (table : T) (src : Bytes)
    (h : ∃ size ∈ sizesAsked n src, last < size) :
    (v.sizeUpdates last n table src).2.2 = some .invalidMaxDynamicSize := by
  induction n generalizing table src with
  | zero =>
    obtain ⟨size, hs, -⟩ := h
    cases hs
  | succ n ih =>
    cases src with
    | nil =>
      obtain ⟨size, hs, -⟩ := h
      cases hs
    | cons b src =>
      unfold Vendor.sizeUpdates
      unfold sizesAsked at h
      by_cases hb : isSizeUpdate b = true
      · rw [if_pos hb] at h ⊢
        rcases hd : decodeInt (b :: src) with err | ⟨size, rest⟩
        · rw [hd] at h
          obtain ⟨size, hs, -⟩ := h
          cases hs
        · rw [hd] at h
          dsimp only at h ⊢
          by_cases hgt : size > last
          · rw [if_pos hgt]
          · rw [if_neg hgt]
            refine ih _ _ ?_
            obtain ⟨s, hs, hlt⟩ := h
            rcases List.mem_cons.mp hs with rfl | hs
            · exact absurd hlt hgt
            · exact ⟨s, hs, hlt⟩
      · rw [if_neg hb] at h
        obtain ⟨size, hs, -⟩ := h
        cases hs

namespace Decoder

/-! ### Two decoders -/

/-- Two decoders that differ in their limit on HPACK's table at most. -/
structure Agree (d d' : Decoder T P) : Prop where
  table : d.table = d'.table
  buf : d.buf = d'.buf
  pending : d.pending = d'.pending
  fixed : d.fixed = d'.fixed

theorem Agree.refl (d : Decoder T P) : Agree d d := ⟨rfl, rfl, rfl, rfl⟩

variable {d d' : Decoder T P}

theorem Agree.maxHeaderListSize (h : Agree d d') :
    d.limits.maxHeaderListSize = d'.limits.maxHeaderListSize := by
  have hn := congrArg RecvLimits.maxHeaderListSize h.fixed
  exact hn

theorem Agree.maxRecvFrameSize (h : Agree d d') :
    d.limits.maxRecvFrameSize = d'.limits.maxRecvFrameSize := by
  have hn := congrArg RecvLimits.maxRecvFrameSize h.fixed
  exact hn

theorem Agree.maxContinuationFrames (h : Agree d d') :
    d.limits.maxContinuationFrames = d'.limits.maxContinuationFrames := by
  have hn := congrArg RecvLimits.maxContinuationFrames h.fixed
  exact hn

/-- What follows a decoder: its limits are those it had. -/
structure Goes (d e : Decoder T P) : Prop where
  limit : e.limit = d.limit
  fixed : e.fixed = d.fixed
  queued : d.limits.maxSizeUpdate = none → e.limits.maxSizeUpdate = none

theorem Goes.refl (d : Decoder T P) : Goes d d := ⟨rfl, rfl, id⟩

theorem Goes.trans {d₁ d₂ d₃ : Decoder T P} (h₁ : Goes d₁ d₂) (h₂ : Goes d₂ d₃) : Goes d₁ d₃ :=
  ⟨h₂.limit.trans h₁.limit, h₂.fixed.trans h₁.fixed, fun h => h₂.queued (h₁.queued h)⟩

/-- What one decoder makes of a block, where another makes something of it: the same, or, where
the block asks for more than its limit, an error. -/
structure Alike {α : Type} (d d' : Decoder T P) (asked : List Nat)
    (r r' : Except Err (Decoder T P × α)) : Prop where
  fits : ∀ e' a, r' = .ok (e', a) → (∀ size ∈ asked, size ≤ d.limit) →
    ∃ e, r = .ok (e, a) ∧ Agree e e' ∧ Goes d e ∧ Goes d' e'
  exceeds : (∃ size ∈ asked, d.limit < size) → ∃ err, r = .error err

/-- An error of both. -/
theorem Alike.error {α : Type} {asked : List Nat} (err err' : Err) :
    Alike (α := α) d d' asked (.error err) (.error err') :=
  ⟨fun _ _ h => (by cases h), fun _ => ⟨err, rfl⟩⟩

/-- The same of both, with nothing asked. -/
theorem Alike.ok {α : Type} {e e' : Decoder T P} (a : α) (h : Agree e e') (hd : Goes d e)
    (hd' : Goes d' e') : Alike d d' [] (.ok (e, a)) (.ok (e', a)) :=
  ⟨fun _ _ heq _ => (by cases heq; exact ⟨e, rfl, h, hd, hd'⟩), fun ⟨_, hs, _⟩ => by cases hs⟩

/-- **The fields of a block are loaded alike**, unless it asks for too much. -/
theorem loadHpack_agree (h : Agree d d') (frame : P) (src : Bytes) :
    ((∀ size ∈ sizesAsked src.length src, size ≤ d.limit) →
      (∀ size ∈ sizesAsked src.length src, size ≤ d'.limit) →
      (d.loadHpack v frame src).2 = (d'.loadHpack v frame src).2 ∧
        Agree (d.loadHpack v frame src).1 (d'.loadHpack v frame src).1) ∧
    Goes d (d.loadHpack v frame src).1 ∧
    ((∃ size ∈ sizesAsked src.length src, d.limit < size) →
      (d.loadHpack v frame src).2.2.2 = .hpack .invalidMaxDynamicSize) := by
  refine ⟨fun hf hf' => ?_, ?_, fun hx => ?_⟩
  · have hsame := sizeUpdates_fit (v := v) src.length d.table src hf hf'
    unfold loadHpack
    dsimp only
    change _ = v.sizeUpdates d'.limit src.length d.table src at hsame
    rw [show d.limits.maxSizeUpdate.getD d.lastMaxUpdate = d.limit from rfl,
      show d'.limits.maxSizeUpdate.getD d'.lastMaxUpdate = d'.limit from rfl, hsame, ← h.table]
    rcases v.sizeUpdates d'.limit src.length d.table src with ⟨table, rest, _ | err⟩
    · have hm := h.maxHeaderListSize
      exact ⟨by rw [hm], by rw [hm], h.buf, h.pending, h.fixed⟩
    · exact ⟨rfl, rfl, h.buf, h.pending, h.fixed⟩
  · unfold loadHpack
    dsimp only
    split <;> exact ⟨rfl, rfl, fun _ => rfl⟩
  · have hx' := sizeUpdates_exceed (v := v) src.length d.table src hx
    unfold loadHpack
    dsimp only
    rw [show d.limits.maxSizeUpdate.getD d.lastMaxUpdate = d.limit from rfl]
    rcases hs : v.sizeUpdates d.limit src.length d.table src with ⟨table, rest, _ | err⟩
    · rw [hs] at hx'
      cases hx'
    · rw [hs] at hx'
      cases hx'
      rfl

/-- **The end of a frame with a fragment.** -/
theorem loadBlock_alike (h : Agree d d') (part : Partial P) (sid : Nat) (last : Bool) :
    Alike d d' (sizesAsked part.buf.length part.buf) (d.loadBlock v part sid last)
      (d'.loadBlock v part sid last) := by
  obtain ⟨hfit, hgoes, hexc⟩ := loadHpack_agree (v := v) h part.frame part.buf
  obtain ⟨-, hgoes', hexc'⟩ := loadHpack_agree (v := v) (Agree.refl d') part.frame part.buf
  refine ⟨fun e' a hok hle => ?_, fun hx => ?_⟩
  · have hle' : ∀ size ∈ sizesAsked part.buf.length part.buf, size ≤ d'.limit := by
      by_contra hno
      simp only [not_forall, Nat.not_le] at hno
      obtain ⟨size, hs, hlt⟩ := hno
      have hinv := hexc' ⟨size, hs, hlt⟩
      unfold loadBlock at hok
      dsimp only at hok
      rw [hinv] at hok
      cases hok
    obtain ⟨hsame, hagree⟩ := hfit hle hle'
    unfold loadBlock at hok ⊢
    dsimp only at hok ⊢
    rw [hsame]
    rcases hc : classifyHpack (d'.loadHpack v part.frame part.buf).2.2.2 last with err | out
    · rw [hc] at hok
      cases hok
    · rw [hc] at hok
      cases out with
      | streamReset =>
        cases hok
        exact ⟨_, rfl, hagree, hgoes, hgoes'⟩
      | _ =>
        dsimp only at hok ⊢
        cases last with
        | true =>
          simp only [if_true] at hok ⊢
          rcases hv : v.event (d'.loadHpack v part.frame part.buf).2.1 with err | f
          · rw [hv] at hok
            cases hok
          · rw [hv] at hok
            cases hok
            exact ⟨_, rfl, hagree, hgoes, hgoes'⟩
        | false =>
          simp only [Bool.false_eq_true, if_false] at hok ⊢
          cases hok
          exact ⟨_, rfl, ⟨hagree.table, hagree.buf, rfl, hagree.fixed⟩,
            ⟨hgoes.limit, hgoes.fixed, hgoes.queued⟩,
            ⟨hgoes'.limit, hgoes'.fixed, hgoes'.queued⟩⟩
  · refine ⟨protocolErr .protocolError "HPACK decoding failed: Hpack(InvalidMaxDynamicSize)", ?_⟩
    unfold loadBlock
    dsimp only
    rw [hexc hx]
    rfl

/-- The block that was pending was taken out first. -/
theorem Alike.of_cleared {α : Type} {asked : List Nat} {r r' : Except Err (Decoder T P × α)}
    (h : Alike { d with pending := none } { d' with pending := none } asked r r') :
    Alike d d' asked r r' := by
  refine ⟨fun e' a hok hle => ?_, h.exceeds⟩
  obtain ⟨e, he, hagree, hg, hg'⟩ := h.fits e' a hok hle
  exact ⟨e, he, hagree, ⟨hg.limit, hg.fixed, hg.queued⟩, ⟨hg'.limit, hg'.fixed, hg'.queued⟩⟩

/-- The fragment that a frame has the decoder load, if any. -/
def fragment (v : Vendor T P) (d : Decoder T P) (frame : Bytes) : Option Bytes :=
  if kind frame = 1 then
    match v.load frame with
    | .ok (.inl (_, src)) => some src
    | _ => none
  else if kind frame = 9 then
    match d.pending with
    | none => none
    | some part =>
      match continued v d.limits part frame with
      | .ok part => some part.buf
      | .error _ => none
  else none

/-- The sizes that a frame asks for. -/
def frameAsks (v : Vendor T P) (d : Decoder T P) (frame : Bytes) : List Nat :=
  match d.fragment v frame with
  | some src => sizesAsked src.length src
  | none => []

/-- A CONTINUATION is put to its block alike. -/
theorem continued_agree (h : Agree d d') (part : Partial P) (frame : Bytes) :
    continued v d.limits part frame = continued v d'.limits part frame := by
  unfold continued
  rw [h.maxContinuationFrames, h.maxHeaderListSize]

/-- **A frame is decoded alike**, unless its block asks for too much. -/
theorem decodeOne_alike (h : Agree d d') (frame : Bytes) :
    Alike d d' (d.frameAsks v frame) (d.decodeOne v frame) (d'.decodeOne v frame) := by
  unfold decodeOne
  rw [← h.pending]
  by_cases hexp : d.pending.isSome = true ∧ kind frame ≠ 9
  · rw [if_pos hexp, if_pos hexp]
    exact .error _ _
  rw [if_neg hexp, if_neg hexp]
  unfold frameAsks fragment
  by_cases h1 : kind frame = 1
  · simp only [h1, if_true]
    rcases v.load frame with err | ⟨p, src⟩ | f
    · exact .error err err
    · exact loadBlock_alike h ⟨p, src, 0⟩ _ _
    · exact .ok _ h (.refl d) (.refl d')
  · by_cases h9 : kind frame = 9
    · simp only [h9, if_true, show ¬(9 = 1) by decide, if_false]
      rcases d.pending with _ | part
      · exact .error _ _
      · dsimp only
        rw [← continued_agree h]
        rcases continued v d.limits part frame with err | part
        · exact .error err err
        · have hclear : Agree ({ d with pending := none } : Decoder T P)
              ({ d' with pending := none } : Decoder T P) :=
            ⟨h.table, h.buf, rfl, h.fixed⟩
          exact (loadBlock_alike hclear part _ _).of_cleared
    · simp only [h1, h9, if_false]
      rcases v.plain frame with err | f
      · exact .error err err
      · exact .ok f h (.refl d) (.refl d')

/-- The sizes that the frame at the front of the buffer asks for. -/
def asks (v : Vendor T P) (d : Decoder T P) : List Nat :=
  d.frameAsks v (d.buf.take (9 + payloadLen d.buf))

theorem frameAsks_agree (h : Agree d d') (frame : Bytes) :
    d.frameAsks v frame = d'.frameAsks v frame := by
  unfold frameAsks fragment
  rw [h.pending]
  rcases hp : d'.pending with _ | part
  · rfl
  · dsimp only
    rw [continued_agree h]

/-- What a frame asks for does not depend on what is buffered behind it. -/
theorem frameAsks_buf (d : Decoder T P) (buf frame : Bytes) :
    ({ d with buf := buf } : Decoder T P).frameAsks v frame = d.frameAsks v frame := rfl

theorem Agree.asks (h : Agree d d') : d.asks v = d'.asks v := by
  rw [Decoder.asks, Decoder.asks, frameAsks_agree h, h.buf]

/-- A frame that two decoders take from the front of their buffers. -/
theorem Alike.turn {c c' : Decoder T P} {asked : List Nat}
    {x x' : Except Err (Decoder T P × Option Frame)} (halike : Alike c c' asked x x')
    (goes : ∀ e, Goes c e → Goes d e) (goes' : ∀ e, Goes c' e → Goes d' e)
    (limit : c.limit = d.limit) :
    (x'.map some = .ok none → x.map some = .ok none) ∧
    ∀ e' f, x'.map some = .ok (some (e', f)) →
      ((∀ size ∈ asked, size ≤ d.limit) →
        ∃ e, x.map some = .ok (some (e, f)) ∧ Agree e e' ∧ Goes d e ∧ Goes d' e') ∧
      ((∃ size ∈ asked, d.limit < size) → ∃ err, x.map some = .error err) := by
  rw [← limit]
  refine ⟨fun hn => ?_, fun e' f hn => ⟨fun hle => ?_, fun hx => ?_⟩⟩
  · rcases x' with err | r <;> cases hn
  · rcases x' with err | ⟨e₁, f₁⟩
    · cases hn
    · cases hn
      obtain ⟨e, he, hagree, hg, hg'⟩ := halike.fits _ _ rfl hle
      exact ⟨e, by rw [he]; rfl, hagree, goes e hg, goes' _ hg'⟩
  · obtain ⟨err, he⟩ := halike.exceeds hx
    exact ⟨err, by rw [he]; rfl⟩

/-- **A turn of the loop**, taken by two decoders. -/
theorem next_agree (h : Agree d d') :
    (d'.next v = .ok none → d.next v = .ok none) ∧
    ∀ e' f, d'.next v = .ok (some (e', f)) →
      ((∀ size ∈ d.asks v, size ≤ d.limit) →
        ∃ e, d.next v = .ok (some (e, f)) ∧ Agree e e' ∧ Goes d e ∧ Goes d' e') ∧
      ((∃ size ∈ d.asks v, d.limit < size) → ∃ err, d.next v = .error err) := by
  have halike (n : Nat) (frame : Bytes) : Alike { d with buf := d'.buf.drop n }
      { d' with buf := d'.buf.drop n } (d.frameAsks v frame)
      (decodeOne v { d with buf := d'.buf.drop n } frame)
      (decodeOne v { d' with buf := d'.buf.drop n } frame) := by
    have hcut : Agree { d with buf := d'.buf.drop n } { d' with buf := d'.buf.drop n } :=
      ⟨h.table, rfl, h.pending, h.fixed⟩
    rw [← frameAsks_buf d (d'.buf.drop n) frame]
    exact decodeOne_alike hcut frame
  unfold next
  rw [Decoder.asks, h.buf, h.maxRecvFrameSize]
  -- the length is a number here: no step computes it
  generalize payloadLen d'.buf = len
  by_cases hshort : d'.buf.length < 9
  · rw [if_pos hshort]
    exact ⟨fun _ => if_pos hshort, fun e' f hn => by cases hn⟩
  rw [if_neg hshort, if_neg hshort]
  by_cases hbig : len > d'.limits.maxRecvFrameSize
  · rw [if_pos hbig]
    exact ⟨fun hn => (by cases hn), fun e' f hn => by cases hn⟩
  rw [if_neg hbig, if_neg hbig]
  dsimp only
  by_cases hpart : d'.buf.length < 9 + len
  · rw [if_pos hpart]
    exact ⟨fun _ => if_pos hpart, fun e' f hn => by cases hn⟩
  rw [if_neg hpart, if_neg hpart]
  exact (halike _ _).turn (fun e hg => ⟨hg.limit, hg.fixed, hg.queued⟩)
    (fun e hg => ⟨hg.limit, hg.fixed, hg.queued⟩) rfl

end Decoder

/-! ### Reads -/

namespace Link

open Decoder (Agree Goes)

/-- The frame acknowledges our SETTINGS. -/
def isAck : Frame → Bool
  | .settings f => f.ack
  | _ => false

/-- The rest of a read behind the acknowledgement: no block asks for more than the limit before. -/
def timelyAfter (v : Vendor T P) (old : Nat) : Nat → Decoder T P → Bool
  | 0, _ => true
  | n + 1, d =>
    match d.next v with
    | .ok (some (e, _)) => (d.asks v).all (· ≤ old) && timelyAfter v old n e
    | _ => true

/-- In a read, no block behind the acknowledgement asks for more than the limit before it. -/
def timely (v : Vendor T P) : Nat → Link T P → Bool
  | 0, _ => true
  | n + 1, l =>
    match l.dec.next v with
    | .ok (some (e, f)) =>
      if f.any isAck then
        match { l with dec := e }.dispatchAll f.toList with
        | .ok l => timelyAfter v e.limit n l.dec
        | .error _ => true
      else timely v n { l with dec := e }
    | _ => true

/-- In no read does a block behind the acknowledgement ask for more than the limit before it. -/
def timelyReads (v : Vendor T P) : Link T P → List Bytes → Bool
  | _, [] => true
  | l, data :: rest =>
    timely v (feed l.dec data).buf.length { l with dec := feed l.dec data } &&
      match l.promptly v data with
      | .ok l => timelyReads v l rest
      | .error _ => true

/-! ### Dispatching a read -/

/-- Frames that acknowledge nothing leave the link. -/
theorem dispatchAll_plain (l : Link T P) {fs : List Frame} (more : List Frame)
    (h : ∀ f ∈ fs, isAck f = false) : l.dispatchAll (fs ++ more) = l.dispatchAll more := by
  induction fs with
  | nil => rfl
  | cons f fs ih =>
    have hf := h f (List.mem_cons_self ..)
    have hd : l.dispatch f = .ok l := by
      cases f with
      | settings f =>
        have hna : f.ack = false := hf
        unfold dispatch
        dsimp only
        rw [hna]
        rfl
      | _ => rfl
    rw [List.cons_append, dispatchAll, hd]
    exact ih fun g hg => h g (List.mem_cons_of_mem _ hg)

/-- Past the acknowledgement there is no other. -/
theorem dispatch_synced {l l' : Link T P} {f : Option Frame}
    (hs : l.settings.state ≠ .waitingAck) (h : l.dispatchAll f.toList = .ok l') :
    l' = l ∧ ∀ g ∈ f.toList, isAck g = false := by
  have hno : ∀ g ∈ f.toList, isAck g = false := fun g hg => by
    by_contra hack
    rw [Bool.not_eq_false] at hack
    rcases f with _ | f
    · cases hg
    · cases List.mem_singleton.mp hg
      cases g with
      | settings g =>
        have hya : g.ack = true := hack
        unfold dispatchAll dispatch at h
        dsimp only [Option.toList] at h
        rw [if_pos hya] at h
        unfold Settings.recvAck at h
        rw [if_neg hs] at h
        cases h
      | _ => cases hack
  have hplain := dispatchAll_plain l [] hno
  rw [List.append_nil, h] at hplain
  cases hplain
  exact ⟨rfl, hno⟩

/-- **The acknowledgement**: the limits stay, but for the size of HPACK's table that we announced. -/
theorem dispatch_ack {cfg : Config} {l : Link T P} {g : Frame} (ho : Of cfg l) (hg : isAck g = true)
    (hw : l.settings.state = .waitingAck) (hq : l.dec.limits.maxSizeUpdate = none) :
    ∃ l', l.dispatch g = .ok l' ∧ Kept l l' ∧
      l'.settings = { l.settings with state := .synced } ∧
      l'.dec.limit = cfg.headerTableSize.getD l.dec.limit := by
  cases g with
  | settings g =>
    have hya : g.ack = true := hg
    obtain ⟨hok, -, hmax⟩ := applyLocalLimits_recvLimits cfg (l := l.dec.limits) ho.fixed
    rcases hlim : Inner.applyLocalLimits l.dec.limits cfg.settingsValues with ⟨limits, _ | err⟩
    · have hd : l.dispatch (.settings g) =
          .ok ⟨{ l.settings with state := .synced }, { l.dec with limits := limits }⟩ := by
        unfold dispatch
        dsimp only
        rw [if_pos hya]
        unfold Settings.recvAck
        rw [if_pos hw]
        dsimp only
        rw [ho.values, hlim]
      refine ⟨_, hd, dispatch_kept ho hd, rfl, ?_⟩
      rw [hlim] at hmax
      unfold Decoder.limit
      dsimp only at hmax ⊢
      rw [hmax, hq]
      unfold RecvLimits.setRecvHeaderTableSize
      rw [hq]
      rcases cfg.headerTableSize with _ | n
      · rfl
      · rfl
    · rw [hlim] at hok
      cases hok
  | _ => cases hg

/-- A prompt run asks for no more than its own limit. -/
theorem asks_le {d e : Decoder T P} {f : Option Frame} (h : d.next v = .ok (some (e, f))) :
    ∀ size ∈ d.asks v, size ≤ d.limit := by
  by_contra hno
  simp only [not_forall, Nat.not_le] at hno
  obtain ⟨size, hs, hlt⟩ := hno
  obtain ⟨err, herr⟩ := ((Decoder.next_agree (v := v) (.refl d)).2 e f h).2 ⟨size, hs, hlt⟩
  rw [h] at herr
  cases herr

/-- **The rest of a read behind the acknowledgement**: decoded under the limit before it, the same
frames come of it exactly when no block asks for more. -/
theorem receive_after {n : Nat} {d : Decoder T P} {l l₁ : Link T P} (h : Agree d l.dec)
    (hs : l.settings.state ≠ .waitingAck) (hp : prompt v n l = .ok l₁) :
    (timelyAfter v d.limit n l.dec = true → ∃ e fs, receive v n d = .ok (e, fs) ∧
      Agree e l₁.dec ∧ Goes d e ∧ Goes l.dec l₁.dec ∧ l₁.settings = l.settings ∧
      ∀ f ∈ fs, isAck f = false) ∧
    (timelyAfter v d.limit n l.dec = false → ∃ err, receive v n d = .error err) := by
  induction n generalizing d l with
  | zero =>
    cases hp
    exact ⟨fun _ => ⟨d, [], rfl, h, .refl _, .refl _, rfl, fun _ hf => by cases hf⟩,
      fun hf => by cases hf⟩
  | succ n ih =>
    obtain ⟨hnone, hsome⟩ := Decoder.next_agree (v := v) h
    unfold prompt at hp
    unfold timelyAfter receive
    rcases hn : l.dec.next v with err | _ | ⟨e', f⟩
    · rw [hn] at hp
      cases hp
    · rw [hn] at hp
      cases hp
      rw [hnone hn]
      exact ⟨fun _ => ⟨d, [], rfl, h, .refl _, .refl _, rfl, fun _ hf => by cases hf⟩,
        fun hf => by cases hf⟩
    · rw [hn] at hp
      dsimp only at hp ⊢
      rcases hdisp : ({ l with dec := e' } : Link T P).dispatchAll f.toList with err | l₂
      · rw [hdisp] at hp
        cases hp
      · rw [hdisp] at hp
        obtain ⟨rfl, hplain⟩ := dispatch_synced (l := { l with dec := e' }) hs hdisp
        obtain ⟨hfit, hexc⟩ := hsome e' f hn
        rw [← h.asks]
        by_cases hle : ∀ size ∈ d.asks v, size ≤ d.limit
        · obtain ⟨e, he, hagree, hg, hg'⟩ := hfit hle
          have hall : (d.asks v).all (fun size => decide (size ≤ d.limit)) = true := by
            rw [List.all_eq_true]
            exact fun size hs => decide_eq_true (hle size hs)
          rw [hall, Bool.true_and, he]
          obtain ⟨hgood, hbad⟩ := ih (d := e) (l := { l with dec := e' }) hagree hs hp
          rw [hg.limit] at hgood hbad
          refine ⟨fun ht => ?_, fun ht => ?_⟩
          · obtain ⟨e₂, fs, hr, ha, hge, hgl, hset, hacks⟩ := hgood ht
            refine ⟨e₂, f.toList ++ fs, ?_, ha, hg.trans hge, hg'.trans hgl, hset, ?_⟩
            · dsimp only
              rw [hr]
              rfl
            · intro g hmem
              rcases List.mem_append.mp hmem with hm | hm
              · exact hplain g hm
              · exact hacks g hm
          · obtain ⟨err, hr⟩ := hbad ht
            exact ⟨err, by dsimp only; rw [hr]; rfl⟩
        · have hex : ∃ size ∈ d.asks v, d.limit < size := by
            simp only [not_forall, Nat.not_le] at hle
            obtain ⟨size, hs, hlt⟩ := hle
            exact ⟨size, hs, hlt⟩
          obtain ⟨err, he⟩ := hexc hex
          have hall : (d.asks v).all (fun size => decide (size ≤ d.limit)) = false := by
            rw [List.all_eq_false]
            obtain ⟨size, hs, hlt⟩ := hex
            exact ⟨size, hs, by simpa using hlt⟩
          rw [hall, Bool.false_and, he]
          exact ⟨fun ht => (by cases ht), fun _ => ⟨err, rfl⟩⟩

/-! ### A read, in one piece and frame by frame -/

/-- Two links between reads, the first of which decodes read by read. -/
structure Twin (cfg : Config) (l l' : Link T P) : Prop where
  agree : Agree l.dec l'.dec
  limit : l.dec.limit = l'.dec.limit
  settings : l.settings = l'.settings
  of : Of cfg l'
  fresh : l'.settings.state = .waitingAck →
    l.dec.limits.maxSizeUpdate = none ∧ l'.dec.limits.maxSizeUpdate = none

/-- A turn of both before the acknowledgement. -/
theorem Twin.next {cfg : Config} {l l' : Link T P} (h : Twin cfg l l') {e' : Decoder T P}
    {f : Option Frame} (hn : l'.dec.next v = .ok (some (e', f))) :
    ∃ e, l.dec.next v = .ok (some (e, f)) ∧ Twin cfg { l with dec := e } { l' with dec := e' } := by
  have hle := asks_le hn
  rw [← h.agree.asks, ← h.limit] at hle
  obtain ⟨e, he, hagree, hg, hg'⟩ := ((Decoder.next_agree (v := v) h.agree).2 e' f hn).1 hle
  exact ⟨e, he, hagree, hg.limit.trans (h.limit.trans hg'.limit.symm), h.settings,
    ⟨h.of.values, hg'.fixed.trans h.of.fixed⟩,
    fun hw => ⟨hg.queued (h.fresh hw).1, hg'.queued (h.fresh hw).2⟩⟩

/-- **A read**: decoded whole, it is accepted exactly when it is timely. -/
theorem Twin.read {cfg : Config} {n : Nat} {l l' l₁ : Link T P} (h : Twin cfg l l')
    (hp : prompt v n l' = .ok l₁) :
    (timely v n l' = true → ∃ l₂,
      (receive v n l.dec).bind (fun r => { l with dec := r.1 }.dispatchAll r.2) = .ok l₂ ∧
        Twin cfg l₂ l₁) ∧
    (timely v n l' = false → ∃ err,
      (receive v n l.dec).bind (fun r => { l with dec := r.1 }.dispatchAll r.2) = .error err) := by
  induction n generalizing l l' with
  | zero =>
    cases hp
    exact ⟨fun _ => ⟨l, rfl, h⟩, fun hf => by cases hf⟩
  | succ n ih =>
    unfold prompt at hp
    unfold timely receive
    rcases hn : l'.dec.next v with err | _ | ⟨e', f⟩
    · rw [hn] at hp
      cases hp
    · rw [hn] at hp
      cases hp
      rw [(Decoder.next_agree (v := v) h.agree).1 hn]
      exact ⟨fun _ => ⟨l, rfl, h⟩, fun hf => by cases hf⟩
    · obtain ⟨e, he, htwin⟩ := h.next hn
      rw [hn] at hp
      rw [he]
      dsimp only at hp ⊢
      by_cases hack : f.any isAck = true
      · -- the acknowledgement: what is behind it is decoded under the limit before it
        obtain ⟨g, rfl, hg⟩ := Option.any_eq_true .. |>.mp hack
        simp only [hack, if_true]
        have hw : l'.settings.state = .waitingAck := by
          by_contra hw
          rcases hdisp : ({ l' with dec := e' } : Link T P).dispatchAll (some g).toList with err | l₂
          · rw [hdisp] at hp
            cases hp
          · have hno := (dispatch_synced (l := { l' with dec := e' }) hw hdisp).2 g
              (List.mem_singleton_self g)
            rw [hg] at hno
            cases hno
        obtain ⟨hq, hq'⟩ := htwin.fresh hw
        obtain ⟨lA, hlA, hkept, hset, hlim⟩ := dispatch_ack htwin.of hg hw hq'
        have hone : ({ l' with dec := e' } : Link T P).dispatchAll (some g).toList = .ok lA := by
          unfold dispatchAll
          dsimp only [Option.toList]
          rw [hlA]
          rfl
        rw [hone] at hp ⊢
        have hagree : Agree e lA.dec :=
          ⟨htwin.agree.table.trans hkept.table.symm, htwin.agree.buf.trans hkept.buf.symm,
            htwin.agree.pending.trans hkept.pending.symm, htwin.agree.fixed.trans hkept.fixed.symm⟩
        have hsync : lA.settings.state ≠ .waitingAck := by
          rw [hset]
          intro hc
          cases hc
        obtain ⟨hgood, hbad⟩ := receive_after (v := v) hagree hsync hp
        have hold : e.limit = e'.limit := htwin.limit
        rw [hold] at hgood hbad
        refine ⟨fun ht => ?_, fun ht => ?_⟩
        · obtain ⟨e₂, fs, hr, ha, hge, hgl, hset₁, hacks⟩ := hgood ht
          have hof : Of cfg ({ l with dec := e₂ } : Link T P) :=
            ⟨h.settings ▸ h.of.values, (hge.fixed.trans htwin.agree.fixed).trans htwin.of.fixed⟩
          have hw₂ : l.settings.state = .waitingAck := by rw [h.settings]; exact hw
          obtain ⟨l₂, hl₂, hkept₂, hset₂, hlim₂⟩ := dispatch_ack hof hg hw₂ (hge.queued hq)
          refine ⟨l₂, ?_, ?_, ?_, ?_, ?_, ?_⟩
          · rw [hr]
            change dispatchAll { l with dec := e₂ } (g :: fs) = .ok l₂
            unfold dispatchAll
            rw [hl₂]
            have hplain := dispatchAll_plain l₂ [] hacks
            rw [List.append_nil] at hplain
            exact hplain
          · exact ⟨hkept₂.table.trans ha.table, hkept₂.buf.trans ha.buf,
              hkept₂.pending.trans ha.pending, hkept₂.fixed.trans ha.fixed⟩
          · rw [hlim₂, hgl.limit, hlim]
            exact congrArg (Option.getD cfg.headerTableSize) (hge.limit.trans htwin.limit)
          · rw [hset₂, hset₁, hset]
            exact congrArg (fun s : Settings => { s with state := Local.synced }) h.settings
          · refine ⟨?_, hgl.fixed.trans (hkept.fixed.trans htwin.of.fixed)⟩
            rw [hset₁, hset]
            exact h.of.values
          · intro hc
            rw [hset₁, hset] at hc
            cases hc
        · obtain ⟨err, hr⟩ := hbad ht
          exact ⟨err, by rw [hr]; rfl⟩
      · -- no acknowledgement: both dispatch nothing that matters here
        have hplain : ∀ g ∈ f.toList, isAck g = false := fun g hg => by
          rcases f with _ | f
          · cases hg
          · cases List.mem_singleton.mp hg
            simpa using hack
        have hone : ({ l' with dec := e' } : Link T P).dispatchAll f.toList =
            .ok { l' with dec := e' } := by
          have hall := dispatchAll_plain ({ l' with dec := e' } : Link T P) [] hplain
          rwa [List.append_nil] at hall
        rw [hone] at hp
        simp only [hack, Bool.false_eq_true, if_false]
        have hsame : ((receive v n e).map fun r => (r.1, f.toList ++ r.2)).bind
            (fun r => ({ l with dec := r.1 } : Link T P).dispatchAll r.2) =
            (receive v n e).bind fun r => ({ l with dec := r.1 } : Link T P).dispatchAll r.2 := by
          rcases receive v n e with err | ⟨e₂, fs⟩
          · rfl
          · exact dispatchAll_plain _ fs hplain
        rw [hsame]
        exact ih htwin hp

/-- **The reads of a connection.** -/
theorem Twin.reads {cfg : Config} {l l' l₁ : Link T P} {ds : List Bytes} (h : Twin cfg l l')
    (hp : promptReads v l' ds = .ok l₁) :
    (∃ l₂, reads v l ds = .ok l₂) ↔ timelyReads v l' ds = true := by
  induction ds generalizing l l' with
  | nil => exact ⟨fun _ => rfl, fun _ => ⟨l, rfl⟩⟩
  | cons data ds ih =>
    have hbuf : (feed l.dec data).buf = (feed l'.dec data).buf := by
      unfold feed
      rw [h.agree.buf]
    have hfed : Twin cfg ({ l with dec := feed l.dec data } : Link T P)
        { l' with dec := feed l'.dec data } :=
      ⟨⟨h.agree.table, hbuf, h.agree.pending, h.agree.fixed⟩, h.limit, h.settings,
        ⟨h.of.values, h.of.fixed⟩, h.fresh⟩
    unfold promptReads at hp
    unfold Link.reads timelyReads Link.read
    rcases hone : l'.promptly v data with err | l₃
    · rw [hone] at hp
      cases hp
    · rw [hone] at hp
      obtain ⟨hgood, hbad⟩ := hfed.read hone
      dsimp only
      rw [hbuf]
      rcases ht : timely v (feed l'.dec data).buf.length { l' with dec := feed l'.dec data }
        with _ | _
      · obtain ⟨err, he⟩ := hbad ht
        rw [he, Bool.false_and]
        exact ⟨fun ⟨_, hc⟩ => (by cases hc), fun hc => by cases hc⟩
      · obtain ⟨l₂, hl₂, htwin⟩ := hgood ht
        rw [hl₂, Bool.true_and]
        exact ih htwin hp

/-- **The batching of reads shows.**  Of every stream that is accepted frame by frame under the
SETTINGS in force, in any reads: the connection accepts it exactly when in no read a header block
behind the acknowledgement asks for a larger table than the limit before it. -/
theorem batched_iff (v : Vendor T P) (cfg : Config) (table : T) (ds : List Bytes) (l : Link T P)
    (h : promptReads v (init cfg table) ds = .ok l) :
    (∃ l', reads v (init cfg table) ds = .ok l') ↔ timelyReads v (init cfg table) ds = true := by
  have hof : Of cfg (init cfg table : Link T P) := of_init cfg table
  have hq : (init cfg table : Link T P).dec.limits.maxSizeUpdate = none := by
    have hn := congrArg RecvLimits.maxSizeUpdate hof.fixed
    unfold init Config.recvLimits
    rcases cfg.maxFrameSize with _ | m
    · rfl
    · rfl
  exact Twin.reads ⟨.refl _, rfl, rfl, hof, fun _ => ⟨hq, hq⟩⟩ h

/-- Our SETTINGS announce a table of 8192 bytes. -/
def largeTable : Config := { Sys.serverConfig with headerTableSize := some 8192 }

theorem noValues_valid : ({} : SettingsValues).Valid := by constructor <;> decide

/-- A crate with HPACK, whose only frame without a header block is an acknowledgement. -/
def plainVendor : Vendor Hpack.Table (Hpack.Headers Bool) :=
  { Hpack.plainFrames with
    plain := fun frame =>
      if Decoder.kind frame = 4 then .ok (some (.settings ⟨true, {}, noValues_valid⟩))
      else .ok none }

/-- Our SETTINGS acknowledged, and a request that starts with an update of the table to 8192. -/
def ackFrame : Bytes := [0, 0, 0, 4, 1, 0, 0, 0, 0]
def resizedBlock : Bytes := [0, 0, 4, 1, 4, 0, 0, 0, 1, 0x3f, 0xe1, 0x3f, 0x82]

theorem exists_ok {α : Type} {r : Except Err α} (h : r.isOk = true) : ∃ a, r = .ok a := by
  cases r with
  | error _ => cases h
  | ok a => exact ⟨a, rfl⟩

/-- The two in one read and in two: what becomes of each. -/
theorem resized_reads :
    (promptReads plainVendor (init largeTable (.new 4096)) [ackFrame, resizedBlock]).isOk = true ∧
      timelyReads plainVendor (init largeTable (.new 4096)) [ackFrame, resizedBlock] = true ∧
      (reads plainVendor (init largeTable (.new 4096)) [ackFrame ++ resizedBlock]).isOk = false := by
  decide +kernel

/-- Accepted in two reads, the block is refused in the read of the acknowledgement. -/
theorem batched_refused : ¬ ∀ (cfg : Config) (v : Vendor Hpack.Table (Hpack.Headers Bool))
    (ds ds' : List Bytes), ds.flatten = ds'.flatten →
    (∃ l, promptReads v (init cfg (.new 4096)) ds = .ok l) →
    (∃ l, reads v (init cfg (.new 4096)) ds = .ok l) →
      ∃ l, reads v (init cfg (.new 4096)) ds' = .ok l := by
  intro h
  have hr : (reads plainVendor (init largeTable (.new 4096)) [ackFrame, resizedBlock]).isOk =
      true := by
    decide +kernel
  obtain ⟨hp, -, hx⟩ := resized_reads
  obtain ⟨l, hl⟩ := h largeTable plainVendor [ackFrame, resizedBlock] [ackFrame ++ resizedBlock]
    (by decide) (exists_ok hp) (exists_ok hr)
  rw [hl] at hx
  cases hx

/-- The block in the read behind the acknowledgement's. -/
theorem batched_accepted :
    ∃ l, reads plainVendor (init largeTable (.new 4096)) [ackFrame, resizedBlock] = .ok l := by
  obtain ⟨hp, ht, -⟩ := resized_reads
  obtain ⟨l, hl⟩ := exists_ok hp
  exact (batched_iff plainVendor largeTable (.new 4096) [ackFrame, resizedBlock] l hl).mpr ht

end Link

end Httpunk.H2
