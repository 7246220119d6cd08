import Httpunk.H2.Driver.Decoder
import Httpunk.Support.BigEndian

/-!
# H2 — Wire — Plain

The octets of the frames without a header block: as they are written (`encode_*` of `codec.rs` over
the vendored `frame` module), and as `decode_one` loads them.

* `Head.encode`, `encodePlain`: a frame that is written.
* `loadPlain`: a frame that is read.
* `loadPlain_encode`: what is written is read as the frame that was meant.
-/

namespace Httpunk.H2.Wire

open Httpunk.BigEndian

/-! ### Frame heads -/

/-- `Head`. -/
structure Head where
  kind : UInt8
  flag : UInt8
  streamId : Nat

/-- `Head::encode`. -/
def Head.encode (h : Head) (payloadLen : Nat) : Bytes :=
  octets 3 payloadLen ++ [h.kind, h.flag] ++ octets 4 h.streamId

/-- A frame that was written: its head and its payload. -/
def frame (h : Head) (payload : Bytes) : Bytes := h.encode payload.length ++ payload

theorem encode_eq (h : Head) (len : Nat) : h.encode len =
    [UInt8.ofNat (len / 65536), UInt8.ofNat (len / 256), UInt8.ofNat len, h.kind, h.flag,
      UInt8.ofNat (h.streamId / 16777216), UInt8.ofNat (h.streamId / 65536),
      UInt8.ofNat (h.streamId / 256), UInt8.ofNat h.streamId] := by
  simp [Head.encode, octets]

@[simp] theorem length_frame (h : Head) (payload : Bytes) :
    (frame h payload).length = 9 + payload.length := by
  simp [frame, encode_eq]
  omega

@[simp] theorem drop_frame (h : Head) (payload : Bytes) : (frame h payload).drop 9 = payload := by
  simp [frame, encode_eq]

@[simp] theorem kind_frame (h : Head) (payload : Bytes) :
    Decoder.kind (frame h payload) = h.kind.toNat := by
  simp [Decoder.kind, frame, encode_eq]

theorem flag_frame (h : Head) (payload : Bytes) : (frame h payload).getD 4 0 = h.flag := by
  simp [frame, encode_eq]

theorem frameStream_frame (h : Head) (payload : Bytes) (range : h.streamId < 2 ^ 31) :
    Decoder.frameStream (frame h payload) = h.streamId := by
  simp only [Decoder.frameStream, frame, encode_eq, List.cons_append, List.nil_append,
    List.getD_cons_succ, List.getD_cons_zero, UInt8.toNat_ofNat']
  omega

theorem payloadLen_frame (h : Head) (payload more : Bytes) (range : payload.length < 2 ^ 24) :
    Decoder.payloadLen (frame h payload ++ more) = payload.length := by
  simp only [Decoder.payloadLen, frame, encode_eq, List.cons_append, List.nil_append,
    List.getD_cons_succ, List.getD_cons_zero, UInt8.toNat_ofNat']
  omega

/-! ### Writing -/

/-- `FLAG_END_STREAM` of DATA and HEADERS, and `ACK_FLAG` of SETTINGS and PING. -/
def lowFlag (set : Bool) : UInt8 := if set then 0x1 else 0

/-- `Setting::encode`. -/
def encodeSetting (id val : Nat) : Bytes := octets 2 id ++ octets 4 val

/-- The settings of a frame, as `for_each` goes through them. -/
def encodeSettingsValues (v : SettingsValues) : Bytes :=
  v.headerTableSize.elim [] (encodeSetting 1) ++
    v.enablePush.elim [] (fun push => encodeSetting 2 push.toNat) ++
    v.maxConcurrentStreams.elim [] (encodeSetting 3) ++
    v.initialWindowSize.elim [] (encodeSetting 4) ++
    v.maxFrameSize.elim [] (encodeSetting 5) ++
    v.maxHeaderListSize.elim [] (encodeSetting 6)

/-- The `encode_*` functions of the frames without a header block.  `encode_data` also refuses a
payload above the peer's `SETTINGS_MAX_FRAME_SIZE`, which `send_data` has cut it to. -/
def encodePlain : OutFrame → Option Bytes
  | .preface => none
  | .headers _ _ _ => none
  | .settings values => some (frame ⟨4, 0, 0⟩ (encodeSettingsValues values))
  | .settingsAck => some (frame ⟨4, lowFlag true, 0⟩ [])
  | .ping data ack => some (frame ⟨6, lowFlag ack, 0⟩ data)
  | .data sid payload endStream => some (frame ⟨0, lowFlag endStream, sid⟩ payload)
  | .windowUpdate sid increment => some (frame ⟨8, 0, sid⟩ (octets 4 increment))
  | .rstStream sid errorCode => some (frame ⟨3, 0, sid⟩ (octets 4 errorCode))
  | .goAway last errorCode debugData =>
    some (frame ⟨7, 0, 0⟩ (octets 4 last ++ octets 4 errorCode ++ debugData))

/-! ### Reading -/

/-- The errors of `frame::Error` that the loaders raise, by their names. -/
inductive LoadError where
  | badFrameSize
  | tooMuchPadding
  | invalidSettingValue
  | invalidWindowUpdateValue
  | invalidPayloadLength
  | invalidPayloadAckSettings
  | invalidStreamId
  | malformedMessage
  | invalidDependencyId
  deriving DecidableEq

def LoadError.name : LoadError → String
  | .badFrameSize => "BadFrameSize"
  | .tooMuchPadding => "TooMuchPadding"
  | .invalidSettingValue => "InvalidSettingValue"
  | .invalidWindowUpdateValue => "InvalidWindowUpdateValue"
  | .invalidPayloadLength => "InvalidPayloadLength"
  | .invalidPayloadAckSettings => "InvalidPayloadAckSettings"
  | .invalidStreamId => "InvalidStreamId"
  | .malformedMessage => "MalformedMessage"
  | .invalidDependencyId => "InvalidDependencyId"

/-- `load_err`. -/
def loadErr (e : LoadError) : Err := protocolErr .protocolError ("failed to load frame: " ++ e.name)

/-- Whether a flag is set. -/
def hasFlag (flags bit : UInt8) : Bool := flags &&& bit == bit

/-- `strip_padding`: the payload, and the length of the padding. -/
def stripPadding (payload : Bytes) : Except LoadError (Bytes × Nat) :=
  match payload with
  | [] => .error .tooMuchPadding
  | pad :: rest =>
    if payload.length ≤ pad.toNat then .error .tooMuchPadding
    else .ok (rest.take (payload.length - pad.toNat - 1), pad.toNat)

theorem stripPadding_length {payload data : Bytes} {pad : Nat}
    (strip : stripPadding payload = .ok (data, pad)) :
    data.length + (pad + 1) ≤ payload.length := by
  cases payload with
  | nil => cases strip
  | cons b rest =>
    simp only [stripPadding] at strip
    split at strip
    · cases strip
    · cases strip
      simp only [List.length_take, List.length_cons] at *
      omega

/-- A payload, as long as the length field of a frame can say. -/
abbrev Payload : Type := {payload : Bytes // payload.length < 2 ^ 24}

/-- `Data::load`. -/
def loadData (flags : UInt8) (sid : Nat) (range : sid < 2 ^ 31) (payload : Payload) :
    Except LoadError Data :=
  if zero : sid = 0 then .error .invalidStreamId
  else if hasFlag flags 0x8 then
    match strip : stripPadding payload.1 with
    | .error e => .error e
    | .ok (data, pad) =>
      .ok ⟨sid, hasFlag flags 0x1, data, pad + 1, ⟨Nat.pos_of_ne_zero zero, range⟩,
        (stripPadding_length strip).trans_lt payload.2⟩
  else .ok ⟨sid, hasFlag flags 0x1, payload.1, 0, ⟨Nat.pos_of_ne_zero zero, range⟩, payload.2⟩

/-- The values of a SETTINGS frame that were loaded so far. -/
abbrev LoadedSettings : Type := {v : SettingsValues // v.Valid}

/-- The arms of `Settings::load` over `Setting::from_id`; the setting of the extended CONNECT is
checked, and not handed on. -/
def loadSetting (s : LoadedSettings) (id val : Nat) : Except LoadError LoadedSettings :=
  match id with
  | 1 => .ok ⟨{ s.1 with headerTableSize := some val }, s.2.window, s.2.frame⟩
  | 2 =>
    if val ≤ 1 then .ok ⟨{ s.1 with enablePush := some (val == 1) }, s.2.window, s.2.frame⟩
    else .error .invalidSettingValue
  | 3 => .ok ⟨{ s.1 with maxConcurrentStreams := some val }, s.2.window, s.2.frame⟩
  | 4 =>
    if small : val ≤ maxWindowSize then
      .ok ⟨{ s.1 with initialWindowSize := some val },
        fun _ is => Option.some.inj is ▸ small, s.2.frame⟩
    else .error .invalidSettingValue
  | 5 =>
    if range : defaultMaxFrameSize ≤ val ∧ val ≤ maxMaxFrameSize then
      .ok ⟨{ s.1 with maxFrameSize := some val }, s.2.window,
        fun _ is => Option.some.inj is ▸ range⟩
    else .error .invalidSettingValue
  | 6 => .ok ⟨{ s.1 with maxHeaderListSize := some val }, s.2.window, s.2.frame⟩
  | 8 => if val ≤ 1 then .ok s else .error .invalidSettingValue
  | _ => .ok s

/-- The loop of `Settings::load` over chunks of six octets. -/
def loadSettings (s : LoadedSettings) : Bytes → Except LoadError LoadedSettings
  | a :: b :: c :: d :: e :: f :: rest => do
    let s' ← loadSetting s (number [a, b]) (number [c, d, e, f])
    loadSettings s' rest
  | _ => .ok s

/-- No setting. -/
def noSettings : LoadedSettings := ⟨{}, by simp, by simp⟩

/-- `Settings::load`. -/
def loadSettingsFrame (flags : UInt8) (sid : Nat) (payload : Bytes) :
    Except LoadError SettingsFrame :=
  if sid ≠ 0 then .error .invalidStreamId
  else if hasFlag flags 0x1 then
    if payload ≠ [] then .error .invalidPayloadLength
    else .ok ⟨true, noSettings.1, noSettings.2⟩
  else if payload.length % 6 ≠ 0 then .error .invalidPayloadAckSettings
  else (loadSettings noSettings payload).map fun s => ⟨false, s.1, s.2⟩

/-- `WindowUpdate::load`. -/
def loadWindowUpdate (sid : Nat) (payload : Bytes) : Except LoadError WindowUpdate :=
  if payload.length ≠ 4 then .error .badFrameSize
  else if zero : number payload % 2 ^ 31 = 0 then .error .invalidWindowUpdateValue
  else .ok ⟨sid, number payload % 2 ^ 31, Nat.pos_of_ne_zero zero,
    Nat.le_of_lt_succ (Nat.mod_lt _ (by decide))⟩

/-- `Ping::load`. -/
def loadPing (flags : UInt8) (sid : Nat) (payload : Bytes) : Except LoadError Ping :=
  if sid ≠ 0 then .error .invalidStreamId
  else if eight : payload.length = 8 then .ok ⟨hasFlag flags 0x1, payload, eight⟩
  else .error .badFrameSize

/-- `GoAway::load`. -/
def loadGoAway (sid : Nat) (payload : Bytes) : Except LoadError GoAway :=
  if sid ≠ 0 then .error .invalidStreamId
  else if payload.length < 8 then .error .badFrameSize
  else .ok ⟨number (payload.take 4) % 2 ^ 31, number ((payload.drop 4).take 4), payload.drop 8⟩

/-- `Reset::load`. -/
def loadReset (sid : Nat) (payload : Bytes) : Except LoadError RstStream :=
  if payload.length ≠ 4 then .error .invalidPayloadLength
  else .ok ⟨sid, number payload⟩

/-- `StreamDependency::load`: the stream depended on. -/
def loadDependency (src : Bytes) : Except LoadError Nat :=
  if src.length ≠ 5 then .error .invalidPayloadLength
  else .ok (number (src.take 4) % 2 ^ 31)

/-- The arm of `decode_one` for PRIORITY. -/
def loadPriority (sid : Nat) (payload : Bytes) : Except Err Frame :=
  if sid = 0 then .error (protocolErr .protocolError "PRIORITY frame with stream ID 0")
  else
    match loadDependency payload with
    | .error e => .error (loadErr e)
    | .ok dependency =>
      if dependency = sid then .ok (.streamError sid .protocolError false) else .ok (.priority sid)

theorem frameStream_lt (frame : Bytes) : Decoder.frameStream frame < 2 ^ 31 := by
  have h₅ := (frame.getD 5 0).toNat_lt
  have h₆ := (frame.getD 6 0).toNat_lt
  have h₇ := (frame.getD 7 0).toNat_lt
  have h₈ := (frame.getD 8 0).toNat_lt
  simp only [Decoder.frameStream]
  omega

/-- An error of a loader, as `decode_one` raises it. -/
def raised {α : Type} (make : α → Frame) (loaded : Except LoadError α) :
    Except Err (Option Frame) :=
  match loaded with
  | .error e => .error (loadErr e)
  | .ok f => .ok (some (make f))

/-- The arms of `decode_one` for the frames without a header block; a frame longer than its length
field can say does not come. -/
def loadPlain (frame : Bytes) : Except Err (Option Frame) :=
  let flags := frame.getD 4 0
  let sid := Decoder.frameStream frame
  let payload := frame.drop 9
  match Decoder.kind frame with
  | 0 =>
    if short : payload.length < 2 ^ 24 then
      raised .data (loadData flags sid (frameStream_lt frame) ⟨payload, short⟩)
    else .error .abort
  | 2 => (loadPriority sid payload).map some
  | 3 => raised .rstStream (loadReset sid payload)
  | 4 => raised .settings (loadSettingsFrame flags sid payload)
  | 5 =>
    .error (protocolErr .protocolError "PUSH_PROMISE received but server push is disabled")
  | 6 => raised .ping (loadPing flags sid payload)
  | 7 => raised .goAway (loadGoAway sid payload)
  | 8 => raised .windowUpdate (loadWindowUpdate sid payload)
  | _ => .ok none

/-! ### What is written is read -/

/-- The numbers of a SETTINGS frame are of 32 bits. -/
structure SettingsFit (v : SettingsValues) : Prop where
  headerTableSize : ∀ n ∈ v.headerTableSize, n < 2 ^ 32
  maxConcurrentStreams : ∀ n ∈ v.maxConcurrentStreams, n < 2 ^ 32
  maxHeaderListSize : ∀ n ∈ v.maxHeaderListSize, n < 2 ^ 32

/-- The frame that a queued frame is read as, where its numbers are of the widths that the source
gives them. -/
inductive Means : OutFrame → Frame → Prop where
  | settings {v : SettingsValues} (valid : v.Valid) (fit : SettingsFit v) :
      Means (.settings v) (.settings ⟨false, v, valid⟩)
  | settingsAck : Means .settingsAck (.settings ⟨true, noSettings.1, noSettings.2⟩)
  | ping {data : Bytes} {ack : Bool} (eight : data.length = 8) :
      Means (.ping data ack) (.ping ⟨ack, data, eight⟩)
  | data {sid : Nat} {payload : Bytes} {endStream : Bool} (range : InRange sid)
      (fits : payload.length + 0 < 2 ^ 24) :
      Means (.data sid payload endStream) (.data ⟨sid, endStream, payload, 0, range, fits⟩)
  | windowUpdate {sid increment : Nat} (range : sid < 2 ^ 31) (pos : 0 < increment)
      (bounded : increment ≤ maxWindowSize) :
      Means (.windowUpdate sid increment) (.windowUpdate ⟨sid, increment, pos, bounded⟩)
  | rstStream {sid : Nat} {errorCode : Reason} (range : sid < 2 ^ 31) (code : errorCode < 2 ^ 32) :
      Means (.rstStream sid errorCode) (.rstStream ⟨sid, errorCode⟩)
  | goAway {last : Nat} {errorCode : Reason} {debugData : Bytes} (range : last < 2 ^ 31)
      (code : errorCode < 2 ^ 32) :
      Means (.goAway last errorCode debugData) (.goAway ⟨last, errorCode, debugData⟩)

theorem loadSettings_setting (s : LoadedSettings) {id val : Nat} (hid : id < 2 ^ 16)
    (hval : val < 2 ^ 32) (rest : Bytes) : loadSettings s (encodeSetting id val ++ rest) =
      (loadSetting s id val).bind fun s' => loadSettings s' rest := by
  have two : number [UInt8.ofNat (id / 256), UInt8.ofNat id] = id := by
    simp only [number, numberFrom, UInt8.toNat_ofNat']
    omega
  have four : number [UInt8.ofNat (val / 16777216), UInt8.ofNat (val / 65536),
      UInt8.ofNat (val / 256), UInt8.ofNat val] = val := by
    simp only [number, numberFrom, UInt8.toNat_ofNat']
    omega
  simp only [encodeSetting, octets, Nat.pow_zero, Nat.div_one, Nat.reducePow, List.cons_append,
    List.nil_append, loadSettings, two, four]
  rfl

theorem loadSettings_encode {v : SettingsValues} (valid : v.Valid) (fit : SettingsFit v) :
    loadSettings noSettings (encodeSettingsValues v) = .ok ⟨v, valid⟩ := by
  -- one setting after the other, each of which its frame has or has not
  have step (s s' : LoadedSettings) (id : Nat) (o : Option Nat) (rest : Bytes) (hid : id < 2 ^ 16)
      (small : ∀ n ∈ o, n < 2 ^ 32) (some_ : ∀ n ∈ o, loadSetting s id n = .ok s')
      (none_ : o = none → s = s') :
      loadSettings s (o.elim [] (encodeSetting id) ++ rest) = loadSettings s' rest := by
    cases o with
    | none => rw [none_ rfl]; rfl
    | some n =>
      rw [Option.elim_some, loadSettings_setting s hid (small n rfl), some_ n rfl]
      rfl
  obtain ⟨table, push, streams, window, frameSize, list⟩ := v
  have wide : maxWindowSize < 2 ^ 32 := by decide
  have wide' : maxMaxFrameSize < 2 ^ 32 := by decide
  have pushed : push.elim [] (fun push => encodeSetting 2 push.toNat) =
      (push.map Bool.toNat).elim [] (encodeSetting 2) := by cases push <;> rfl
  have last : list.elim [] (encodeSetting 6) = list.elim [] (encodeSetting 6) ++ [] :=
    (List.append_nil _).symm
  simp only [encodeSettingsValues, List.append_assoc]
  rw [pushed, last,
    step noSettings ⟨{ headerTableSize := table }, by simp, by simp⟩ 1 table _ (by decide)
      fit.headerTableSize (by rintro n rfl; rfl) (by rintro rfl; rfl),
    step _ ⟨{ headerTableSize := table, enablePush := push }, by simp, by simp⟩ 2
      (push.map Bool.toNat) _ (by decide) (by cases push with
        | none => simp
        | some b => cases b <;> simp)
      (by cases push with
        | none => simp
        | some b => cases b <;> (rintro n ⟨⟩; rfl))
      (by rintro none_; cases push with
        | none => rfl
        | some b => cases none_),
    step _ ⟨{ headerTableSize := table, enablePush := push, maxConcurrentStreams := streams },
      by simp, by simp⟩ 3 streams _ (by decide) fit.maxConcurrentStreams (by rintro n rfl; rfl)
      (by rintro rfl; rfl),
    step _ ⟨{ headerTableSize := table, enablePush := push, maxConcurrentStreams := streams
              initialWindowSize := window }, valid.window, by simp⟩ 4 window _ (by decide)
      (fun n is => (valid.window n is).trans_lt wide)
      (by rintro n rfl; simp [loadSetting, valid.window n rfl]) (by rintro rfl; rfl),
    step _ ⟨{ headerTableSize := table, enablePush := push, maxConcurrentStreams := streams
              initialWindowSize := window, maxFrameSize := frameSize }, valid.window, valid.frame⟩ 5
      frameSize _ (by decide) (fun n is => (valid.frame n is).2.trans_lt wide')
      (by rintro n rfl; simp [loadSetting, valid.frame n rfl]) (by rintro rfl; rfl),
    step _ ⟨⟨table, push, streams, window, frameSize, list⟩, valid⟩ 6 list _ (by decide)
      fit.maxHeaderListSize (by rintro n rfl; rfl) (by rintro rfl; rfl)]
  rfl

theorem encodeSettingsValues_length (v : SettingsValues) :
    (encodeSettingsValues v).length % 6 = 0 ∧ (encodeSettingsValues v).length ≤ 36 := by
  obtain ⟨table, push, streams, window, frameSize, list⟩ := v
  have each (id : Nat) (o : Option Nat) : (o.elim [] (encodeSetting id)).length = 0 ∨
      (o.elim [] (encodeSetting id)).length = 6 := by
    cases o with
    | none => exact .inl rfl
    | some n => exact .inr (by simp [encodeSetting])
  have second : (push.elim [] (fun push => encodeSetting 2 push.toNat)).length = 0 ∨
      (push.elim [] (fun push => encodeSetting 2 push.toNat)).length = 6 := by
    cases push with
    | none => exact .inl rfl
    | some n => exact .inr (by simp [encodeSetting])
  simp only [encodeSettingsValues, List.length_append]
  have := each 1 table
  have := each 3 streams
  have := each 4 window
  have := each 5 frameSize
  have := each 6 list
  omega

/-- A number of 32 bits in its four octets. -/
theorem number_four {n : Nat} (fits : n < 2 ^ 32) : number (octets 4 n) = n :=
  number_octets (by simpa using fits)

theorem hasFlag_low (set : Bool) : hasFlag (lowFlag set) 0x1 = set := by
  cases set <;> rfl

theorem not_padded (set : Bool) : hasFlag (lowFlag set) 0x8 = false := by
  cases set <;> rfl

theorem loadWindowUpdate_octets {sid increment : Nat} (pos : 0 < increment)
    (bounded : increment ≤ maxWindowSize) :
    loadWindowUpdate sid (octets 4 increment) = .ok ⟨sid, increment, pos, bounded⟩ := by
  have small : increment < 2 ^ 31 := Nat.lt_of_le_of_lt bounded (by decide)
  have read : number (octets 4 increment) % 2 ^ 31 = increment := by
    rw [number_four (small.trans (by decide)), Nat.mod_eq_of_lt small]
  rw [loadWindowUpdate, if_neg (by simp), dif_neg (by rw [read]; omega)]
  simp only [read]

theorem loadGoAway_octets {last : Nat} {errorCode : Reason} (debugData : Bytes)
    (range : last < 2 ^ 31) (code : errorCode < 2 ^ 32) :
    loadGoAway 0 (octets 4 last ++ octets 4 errorCode ++ debugData) =
      .ok ⟨last, errorCode, debugData⟩ := by
  have first : (octets 4 last ++ octets 4 errorCode ++ debugData).take 4 = octets 4 last := by
    rw [List.append_assoc, List.take_left' (length_octets 4 last)]
  have second : ((octets 4 last ++ octets 4 errorCode ++ debugData).drop 4).take 4 =
      octets 4 errorCode := by
    rw [List.append_assoc, List.drop_left' (length_octets 4 last),
      List.take_left' (length_octets 4 errorCode)]
  have third : (octets 4 last ++ octets 4 errorCode ++ debugData).drop 8 = debugData :=
    List.drop_left' (by simp)
  have long : ¬ (octets 4 last ++ octets 4 errorCode ++ debugData).length < 8 := by
    simp only [List.length_append, length_octets]
    omega
  rw [loadGoAway, if_neg (by simp), if_neg long, first, second, third,
    number_four (range.trans (by decide)), number_four code, Nat.mod_eq_of_lt range]

/-- What is written of a frame is read as the frame that was meant. -/
theorem loadPlain_encode {out : OutFrame} {f : Frame} (means : Means out f) :
    ∃ h payload, encodePlain out = some (frame h payload) ∧
      loadPlain (frame h payload) = .ok (some f) ∧ h.kind ≠ 1 ∧ h.kind ≠ 9 := by
  have connection (kind flag : UInt8) (payload : Bytes) :
      Decoder.frameStream (frame ⟨kind, flag, 0⟩ payload) = 0 :=
    frameStream_frame ⟨kind, flag, 0⟩ payload (Nat.two_pow_pos 31)
  cases means with
  | @settings v valid fit =>
    refine ⟨_, _, rfl, ?_, by decide, by decide⟩
    have short := (encodeSettingsValues_length v).1
    simp only [loadPlain, kind_frame, flag_frame, drop_frame, connection]
    simp [raised, loadSettingsFrame, hasFlag, short, loadSettings_encode valid fit, Except.map]
  | settingsAck =>
    refine ⟨_, _, rfl, ?_, by decide, by decide⟩
    simp only [loadPlain, kind_frame, flag_frame, drop_frame, connection]
    rfl
  | @ping data ack eight =>
    refine ⟨_, _, rfl, ?_, by simp, by simp⟩
    simp only [loadPlain, kind_frame, flag_frame, drop_frame, connection]
    simp [raised, loadPing, eight, hasFlag_low]
  | @data sid payload endStream range fits =>
    refine ⟨_, _, rfl, ?_, by simp, by simp⟩
    have short : payload.length < 2 ^ 24 := fits
    have stream := frameStream_frame ⟨0, lowFlag endStream, sid⟩ payload range.2
    simp only [loadPlain, kind_frame, flag_frame, drop_frame, stream]
    have loaded (range' : sid < 2 ^ 31) : loadData (lowFlag endStream) sid range' ⟨payload, short⟩ =
        .ok ⟨sid, endStream, payload, 0, range, fits⟩ := by
      simp only [loadData, dif_neg (Nat.ne_of_gt range.1), not_padded, hasFlag_low,
        Bool.false_eq_true, if_false]
    exact (dif_pos short).trans (by rw [loaded]; rfl)
  | @windowUpdate sid increment range pos bounded =>
    refine ⟨_, _, rfl, ?_, by simp, by simp⟩
    simp only [loadPlain, kind_frame, flag_frame, drop_frame, frameStream_frame ⟨8, 0, sid⟩ _ range]
    rw [loadWindowUpdate_octets pos bounded]
    rfl
  | @rstStream sid errorCode range code =>
    refine ⟨_, _, rfl, ?_, by simp, by simp⟩
    simp only [loadPlain, kind_frame, flag_frame, drop_frame, frameStream_frame ⟨3, 0, sid⟩ _ range]
    simp [raised, loadReset, number_four code]
  | @goAway last errorCode debugData range code =>
    refine ⟨_, _, rfl, ?_, by simp, by simp⟩
    simp only [loadPlain, kind_frame, flag_frame, drop_frame, connection]
    rw [loadGoAway_octets debugData range code]
    rfl

end Httpunk.H2.Wire
