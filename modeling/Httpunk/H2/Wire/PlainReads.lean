import Httpunk.H2.Wire.Plain
import Httpunk.H2.Safety.Accumulation
import Httpunk.H2.Safety.ReadSplit
import Httpunk.H2.Driver.Invariant

/-!
# H2 — Wire — PlainReads

A connection reads the frames that were written to it, however its bytes are cut into reads.

* `receiveAll_written`: frames in the buffer, one after the other.
* `written_read`: from the first byte of a connection.
-/

namespace Httpunk.H2.Wire

variable {T P : Type} {v : Vendor T P}

/-- The frames that were written, with those that were meant. -/
def AllMean (outs : List OutFrame) (fs : List Frame) : Prop := List.Forall₂ Means outs fs

/-- The bytes of the frames without a header block. -/
def written (outs : List OutFrame) : Bytes := outs.flatMap fun out => (encodePlain out).getD []

/-- The frames are no longer than a decoder takes. -/
def AllFit (limit : Nat) (outs : List OutFrame) : Prop :=
  ∀ out ∈ outs, ∀ bytes, encodePlain out = some bytes → bytes.length ≤ 9 + limit

/-- A frame at the front of the buffer. -/
theorem next_written (plain : v.plain = loadPlain) {d : Decoder T P} (idle : d.pending = none)
    (sound : d.limits.maxRecvFrameSize < 2 ^ 24) {out : OutFrame} {f : Frame} (means : Means out f)
    (fits : ∀ bytes, encodePlain out = some bytes → bytes.length ≤ 9 + d.limits.maxRecvFrameSize)
    {more : Bytes} (front : d.buf = (encodePlain out).getD [] ++ more) :
    d.next v = .ok (some ({ d with buf := more }, some f)) := by
  obtain ⟨h, payload, encoded, loaded, not_headers, not_continuation⟩ := loadPlain_encode means
  have short := fits _ encoded
  rw [length_frame] at short
  rw [encoded, Option.getD_some] at front
  have len : Decoder.payloadLen d.buf = payload.length := by
    rw [front]
    exact payloadLen_frame h payload more (by omega)
  have total : d.buf.length = 9 + payload.length + more.length := by
    rw [front, List.length_append, length_frame]
  have kind₁ : ¬ Decoder.kind (frame h payload) = 1 := by
    rw [kind_frame]
    exact fun is => not_headers (UInt8.toNat_inj.mp is)
  have kind₉ : ¬ Decoder.kind (frame h payload) = 9 := by
    rw [kind_frame]
    exact fun is => not_continuation (UInt8.toNat_inj.mp is)
  have cut : d.buf.take (9 + payload.length) = frame h payload := by
    rw [front, List.take_left' (length_frame h payload)]
  have rest : d.buf.drop (9 + payload.length) = more := by
    rw [front, List.drop_left' (length_frame h payload)]
  rw [Decoder.next, if_neg (by omega), len, if_neg (by omega)]
  simp only
  rw [if_neg (by omega), cut, rest, Decoder.decodeOne, if_neg (by simp [idle]), if_neg kind₁,
    if_neg kind₉, plain, loaded]
  rfl

/-- The frames in the buffer, by induction on them. -/
theorem receiveAll_written (plain : v.plain = loadPlain) {outs : List OutFrame} {fs : List Frame}
    (mean : AllMean outs fs) : ∀ d : Decoder T P, d.pending = none →
      d.limits.maxRecvFrameSize < 2 ^ 24 → AllFit d.limits.maxRecvFrameSize outs →
      d.buf = written outs →
      Link.receiveAll v d = .ok ({ d with buf := [] }, fs) := by
  induction mean with
  | nil =>
    intro d idle sound fits buf
    have nothing : d.buf = [] := buf
    have none_ : d.next v = .ok none := by
      rw [Decoder.next, if_pos (by simp [nothing])]
    rw [Link.receiveAll_none none_, ← nothing]
  | @cons out f outs fs means mean ih =>
    intro d idle sound fits buf
    have front : d.buf = (encodePlain out).getD [] ++ written outs := by
      rw [buf, written, List.flatMap_cons]
      rfl
    have one := next_written plain idle sound means (fits out List.mem_cons_self) front
    rw [Link.receiveAll_some one,
      ih { d with buf := written outs } idle sound
        (fun o mem => fits o (List.mem_cons_of_mem _ mem)) rfl]
    rfl

/-- What a peer sends: its connection preface, where it is the client, and then frames. -/
def stream (cfg : Config) (outs : List OutFrame) : Bytes :=
  (if cfg.role = .server then h2Preface else []) ++ written outs

/-- From the first byte of a connection, and however its bytes are cut into reads: the frames that
were written are read, in their order, and nothing is left. -/
theorem written_read (plain : v.plain = loadPlain) (cfg : Config) (table : T)
    {outs : List OutFrame} {fs : List Frame} (mean : AllMean outs fs)
    (fits : AllFit cfg.recvLimits.maxRecvFrameSize outs) (ds : List Bytes)
    (bytes : ds.flatten = stream cfg outs) :
    (Intake.receives v (.init cfg table) ds).1 = fs ∧
      ∃ i, (Intake.receives v (.init cfg table) ds).2 = .ok i ∧ i.preface = none ∧
        i.link.dec.buf = [] ∧ i.link.dec.pending = none ∧ i.link.dec.table = table := by
  have sound : cfg.recvLimits.maxRecvFrameSize < 2 ^ 24 := by
    obtain ⟨xs, limits⟩ := RecvLimits.recvLimits_eq cfg
    rw [limits]
    exact Nat.lt_of_le_of_lt (RecvLimits.sound_of_setters xs).frame_le (by decide)
  have all : Link.receiveAll v { (Link.init cfg table : Link T P).dec with buf := written outs } =
      .ok ((Link.init cfg table : Link T P).dec, fs) :=
    receiveAll_written plain mean _ rfl sound fits rfl
  have decoded (i : Intake T P) (link : i.link = Link.init cfg table) :
      i.decode v (written outs) = .ok (⟨none, Link.init cfg table⟩, fs) := by
    rw [Intake.decode_eq, link]
    exact (congrArg (Except.map _) all).trans rfl
  -- one read of all the bytes
  have once : (Intake.init cfg table : Intake T P).receiveFrames v ds.flatten =
      .ok (⟨none, Link.init cfg table⟩, fs) := by
    rw [bytes, stream]
    cases role : cfg.role with
    | client =>
      simp only [Intake.receiveFrames, Intake.init, role, reduceCtorEq, if_false, List.nil_append]
      exact decoded _ rfl
    | server =>
      have fed : Intake.feedPreface ([] ++ (h2Preface ++ written outs)) =
          .ok (some (written outs)) := by
        simp [Intake.feedPreface]
      simp only [Intake.receiveFrames, Intake.init, role, if_true, fed]
      exact decoded _ rfl
  have single : Intake.receives v (.init cfg table) [ds.flatten] =
      (fs, .ok ⟨none, Link.init cfg table⟩) := by
    simp [Intake.receives, once]
  -- any other cut comes to the same
  obtain ⟨ended, -, handed⟩ := reads_split v cfg table ds
  obtain ⟨ended₁, -, handed₁⟩ := reads_split v cfg table [ds.flatten]
  have flat : [ds.flatten].flatten = ds.flatten := by simp
  rw [flat] at ended₁ handed₁
  rw [single] at ended₁ handed₁
  have last := ended.trans ended₁.symm
  refine ⟨(handed _ ended₁.symm).trans (handed₁ _ ended₁.symm).symm, _, last, rfl, rfl, rfl, rfl⟩

/-- A vendor that is the loaders here, and has no header blocks. -/
def headless : Vendor Unit Unit where
  setMaxSize := fun _ _ => ()
  load := fun _ => .error .abort
  fields := fun _ _ _ bytes => ((), (), bytes, .done)
  streamId := fun _ => 0
  isOverSize := fun _ => false
  event := fun _ => .error .abort
  plain := loadPlain

/-- The settings of a client with the default window. -/
def openingSettings : SettingsValues := { enablePush := some false, initialWindowSize := some 65535 }

theorem openingSettings_valid : openingSettings.Valid :=
  ⟨by simp [openingSettings, maxWindowSize], by simp [openingSettings]⟩

theorem openingSettings_fit : SettingsFit openingSettings :=
  ⟨by simp [openingSettings], by simp [openingSettings], by simp [openingSettings]⟩

theorem noSettings_valid : noSettings.1.Valid := noSettings.2

theorem openingIncrement_pos : 0 < 1000 := by decide

theorem openingIncrement_le : 1000 ≤ maxWindowSize := by decide

theorem openingData_range : InRange 1 := by decide

theorem openingData_short : ([104, 105] : Bytes).length + 0 < 2 ^ 24 := by decide

/-- The first frames of a client, and the frames they are read as. -/
def opening : List OutFrame :=
  [.settings openingSettings, .settingsAck, .windowUpdate 0 1000, .data 1 [104, 105] true,
    .rstStream 3 8]

def opened : List Frame :=
  [.settings ⟨false, openingSettings, openingSettings_valid⟩,
    .settings ⟨true, noSettings.1, noSettings_valid⟩,
    .windowUpdate ⟨0, 1000, openingIncrement_pos, openingIncrement_le⟩,
    .data ⟨1, true, [104, 105], 0, openingData_range, openingData_short⟩, .rstStream ⟨3, 8⟩]

theorem opening_means : AllMean opening opened :=
  .cons (.settings _ openingSettings_fit)
    (.cons .settingsAck (.cons (.windowUpdate (by decide) (by decide) (by decide))
      (.cons (.data _ _) (.cons (.rstStream (by decide) (by decide)) .nil))))

theorem opening_fits : ∀ out ∈ opening, ∀ bytes ∈ encodePlain out, bytes.length ≤ 9 + 16384 := by
  decide +kernel

/-- Two reads that cut the preface from the rest at its tenth octet. -/
theorem written_read_cut :
    (Intake.receives headless (.init Sys.serverConfig ())
      [(stream Sys.serverConfig opening).take 10, (stream Sys.serverConfig opening).drop 10]).1 =
        opened :=
  (written_read rfl Sys.serverConfig () opening_means
    (fun out mem bytes encoded => opening_fits out mem bytes encoded) _
    (by simp [List.take_append_drop])).1

end Httpunk.H2.Wire
