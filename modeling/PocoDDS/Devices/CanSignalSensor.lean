import PocoDDS.Can.NativeFrame
import PocoDDS.Reliability.Diagnostics

/-! The sensor of one signal on a CAN bus, and the frames that change it. -/

namespace PocoDDS.Devices.CanSensor

open Reliability Can

structure Options where
  frameId : UInt32 := 0
  extended : Bool := false
  bitOffset : UInt64 := 0
  bitLength : UInt64 := 1
  bitOrder : BitOrder := .littleEndian
  signedValue : Bool := false
  factor : Float := 1
  offset : Float := 0

structure CanRecoveryPolicy where
  enabled : Bool := true
  staleAfterMilliseconds : Int := 2000

/-- The sensor; `format` shows a value with three decimals. -/
structure CanSignalSensor where
  options : Options
  recoveryPolicy : CanRecoveryPolicy
  format : Float → String
  endpointName : String := ""
  running : Bool := false
  looping : Bool := false
  endpointOpen : Bool := false
  state : DeviceState := .offline
  lastFrame : Int := 0
  value : Float := 0
  record : DeviceRecord := { lastPayload := "no-frame" }

/-- What the endpoint answers to `receive`. -/
inductive Received
  | frame (native : NativeFrame)
  | timeout
  | failed (message : String)

/-- What one iteration of the loop meets; the clock is read at the frame and at the test for
staleness. -/
structure Round where
  now : Clock
  later : Clock
  opening : Except String Unit
  received : Received

/-- The number of a signal as a `double`, scaled. -/
def Options.scale (options : Options) (raw : Int) : Float :=
  Float.ofInt raw * options.factor + options.offset

def decodeScaled (frame : CanFrame) (options : Options) : Except DecodeError Float := do
  let raw ← if options.signedValue then
      (decodeSigned frame options.bitOffset options.bitLength options.bitOrder).map (·.toInt)
    else (decodeUnsigned frame options.bitOffset options.bitLength options.bitOrder).map (·.toNat)
  return options.scale raw

namespace CanSignalSensor

def markConnected (sensor : CanSignalSensor) : CanSignalSensor :=
  { sensor with
    state := .offline
    lastFrame := 0
    record := sensor.record.shown ("waiting-for-frame:" ++ sensor.endpointName) }

def markTransportFailure (sensor : CanSignalSensor) (now : Clock) (message : String) :
    CanSignalSensor :=
  let record := sensor.record.failed now.system "PDR-DEVICE-CAN-TRANSPORT_FAILED" .transient true
    message
  { sensor with state := .fault, record := { record with lastPayload := message } }

/-- A value that is too old is given up. -/
def checkStale (sensor : CanSignalSensor) (now : Clock) : CanSignalSensor :=
  if sensor.state = .ready ∧ sensor.lastFrame ≠ 0 ∧
      now.steady - sensor.lastFrame ≥ sensor.recoveryPolicy.staleAfterMilliseconds * 1000000 then
    let record := sensor.record.failed now.system "PDR-DEVICE-CAN-SIGNAL_STALE" .transient true
      "CAN signal stale"
    { sensor with state := .offline, record := { record with lastPayload := "stale" } }
  else sensor

def accept (sensor : CanSignalSensor) (now : Clock) (decoded : Float) : CanSignalSensor :=
  { sensor with
    value := decoded
    state := .ready
    lastFrame := now.steady
    record := { sensor.record.succeeded now.system with lastPayload := sensor.format decoded } }

def ingest (sensor : CanSignalSensor) (now : Clock) (frame : ReceivedFrame) :
    Except DecodeError CanSignalSensor :=
  if frame.error || frame.id != sensor.options.frameId ||
      frame.extended != sensor.options.extended then .ok sensor
  else (decodeScaled frame.toCanFrame sensor.options).map (sensor.accept now)

/-- The exception branch of the loop. -/
def fail (sensor : CanSignalSensor) (now : Clock) (message : String) : CanSignalSensor :=
  { sensor with endpointOpen := false }.markTransportFailure now message

/-- The branch of the loop on an open endpoint; there is no result where bits behind the array are
read. -/
def receive (sensor : CanSignalSensor) (now later : Clock) : Received → Option CanSignalSensor
  | .timeout => some (sensor.checkStale later)
  | .failed message => some (sensor.fail now message)
  | .frame native =>
    let frame := native.receive
    if frame.error then
      some (sensor.fail now ("SocketCAN error frame mask=" ++ toString frame.id))
    else match sensor.ingest now frame with
      | .ok sensor => some (sensor.checkStale later)
      | .error .outOfRange => some (sensor.fail now "CAN signal exceeds frame payload")
      | .error .undefined => none

/-- The branch of the loop on a closed endpoint. -/
def reconnect (sensor : CanSignalSensor) (now : Clock) (opening : Except String Unit) :
    CanSignalSensor :=
  let counted := { sensor with record := sensor.record.reconnecting }
  match opening with
  | .ok () => { counted with endpointOpen := true }.markConnected
  | .error message => counted.markTransportFailure now message

/-- One iteration of `run`. -/
def iterate (sensor : CanSignalSensor) (round : Round) : Option CanSignalSensor :=
  if !sensor.looping then some sensor
  else if !sensor.running then some { sensor with looping := false }
  else if !sensor.endpointOpen then
    if !sensor.recoveryPolicy.enabled then some { sensor with looping := false }
    else some (sensor.reconnect round.now round.opening)
  else sensor.receive round.now round.later round.received

def start (sensor : CanSignalSensor) (opening : Except String Unit) : CanSignalSensor :=
  if sensor.running then sensor
  else match opening with
    | .ok () =>
      { { sensor with running := true, endpointOpen := true }.markConnected with looping := true }
    | .error _ => { sensor with endpointOpen := false }

def stop (sensor : CanSignalSensor) : CanSignalSensor :=
  if !sensor.running then sensor
  else { sensor with
    running := false
    looping := false
    endpointOpen := false
    state := .offline
    record := { sensor.record.advanced with lastPayload := "stopped" } }

end CanSignalSensor

section Specification

variable (options : Options) (native : NativeFrame)

/-- The frame has the configured identifier, in the configured format, and reports no error. -/
structure Matches : Prop where
  sound : native.isError = false
  format : native.isExtended = options.extended
  identifier : native.identifier = options.frameId.toNat

/-- The configured signal is in the payload. -/
structure SignalInside : Prop where
  some : 0 < options.bitLength.toNat
  most : options.bitLength.toNat ≤ 64
  inside : InPayload native.receive.toCanFrame options.bitOrder options.bitOffset.toNat
    options.bitLength.toNat

/-- A data frame of the configured identifier that holds the signal. -/
structure Carries : Prop where
  matching : Matches options native
  data : native.isRemote = false
  signal : SignalInside options native

/-- The number that the bits of the signal stand for. -/
def signalNumber : Int :=
  let raw := signalValue native.receive.toCanFrame options.bitOrder options.bitOffset.toNat
    options.bitLength.toNat
  if options.signedValue ∧ 2 ^ (options.bitLength.toNat - 1) ≤ raw then
    (raw : Int) - 2 ^ options.bitLength.toNat
  else raw

/-- The frame changes the sensor exactly if it carries the signal. -/
structure FollowsFrame (sensor : CanSignalSensor) (round : Round) : Prop where
  defined : sensor.iterate round ≠ none
  updates : (∃ value, sensor.iterate round =
    some ((sensor.accept round.now value).checkStale round.later)) ↔ Carries sensor.options native
  value : Carries sensor.options native → sensor.iterate round =
    some ((sensor.accept round.now
      (sensor.options.scale (signalNumber sensor.options native))).checkStale round.later)
  others : native.isError = false → ¬Matches sensor.options native →
    sensor.iterate round = some (sensor.checkStale round.later)

/-- A remote request with the identifier is rejected by the size of its payload, and a data frame
with it is not misjudged. -/
structure Judged : Prop where
  remote : Matches options native → native.isRemote = true →
    ¬SizeAccepted native.receive.toCanFrame options.bitOffset options.bitLength
  data : Matches options native → native.isRemote = false →
    0 < options.bitLength.toNat → options.bitLength.toNat ≤ 64 →
      ¬Misjudged native.receive.toCanFrame options.bitOrder options.bitOffset options.bitLength

end Specification

section Decode

variable {frame : CanFrame} {options : Options}

theorem decodeScaled_of_error {error : DecodeError}
    (unread : decodeUnsigned frame options.bitOffset options.bitLength options.bitOrder =
      .error error) : decodeScaled frame options = .error error := by
  cases signed : options.signedValue with
  | true => simp [decodeScaled, signed, decodeSigned, unread, bind, Except.bind, Except.map]
  | false => simp [decodeScaled, signed, unread, bind, Except.bind, Except.map]

theorem decodeSigned_of_unsigned {bitOffset bitLength : UInt64} {order : BitOrder} {raw : UInt64}
    (read : decodeUnsigned frame bitOffset bitLength order = .ok raw) :
    ∃ result, decodeSigned frame bitOffset bitLength order = .ok result := by
  unfold decodeSigned
  rw [read]
  by_cases full : bitLength = 64
  · exact ⟨raw.toInt64, if_pos full⟩
  · exact ⟨_, if_neg full⟩

theorem decodeScaled_of_ok {raw : UInt64}
    (read : decodeUnsigned frame options.bitOffset options.bitLength options.bitOrder = .ok raw) :
    ∃ value, decodeScaled frame options = .ok value := by
  cases signed : options.signedValue with
  | false =>
    exact ⟨options.scale raw.toNat, by
      simp [decodeScaled, signed, read, bind, Except.bind, Except.map, pure, Except.pure]⟩
  | true =>
    obtain ⟨result, read'⟩ := decodeSigned_of_unsigned read
    exact ⟨options.scale result.toInt, by
      simp [decodeScaled, signed, read', bind, Except.bind, Except.map, pure, Except.pure]⟩

theorem decodeScaled_rejected (rejected : ¬SizeAccepted frame options.bitOffset options.bitLength) :
    decodeScaled frame options = .error .outOfRange :=
  decodeScaled_of_error (decodeUnsigned_rejected rejected)

theorem decodeScaled_accepted (accepted : SizeAccepted frame options.bitOffset options.bitLength) :
    (∃ value, decodeScaled frame options = .ok value) ∨
      decodeScaled frame options = .error .undefined := by
  cases read : decodeUnsigned frame options.bitOffset options.bitLength options.bitOrder with
  | ok raw => exact .inl (decodeScaled_of_ok read)
  | error error =>
    cases error with
    | outOfRange => exact absurd accepted (decodeUnsigned_outOfRange_iff.mp read)
    | undefined => exact .inr (decodeScaled_of_error read)

theorem decodeScaled_inside {native : NativeFrame} (signal : SignalInside options native)
    (accepted : SizeAccepted native.receive.toCanFrame options.bitOffset options.bitLength) :
    decodeScaled native.receive.toCanFrame options =
      .ok (options.scale (signalNumber options native)) := by
  obtain ⟨raw, read, value⟩ := decodeUnsigned_eq accepted signal.inside
  have small : raw.toNat < 2 ^ options.bitLength.toNat := by
    rw [value]
    exact signalValue_lt _ _ _ _
  cases signed : options.signedValue with
  | false =>
    have number : signalNumber options native = raw.toNat := by
      simp [signalNumber, signed, value]
    simp [decodeScaled, signed, read, bind, Except.bind, Except.map, pure, Except.pure, number]
  | true =>
    obtain ⟨result, read', number⟩ := decodeSigned_eq signal.some signal.most small read
    -- The sign is the highest bit of the number.
    have same : result.toInt = signalNumber options native := by
      rw [number, signalNumber, ← value]
      simp only [signed, true_and]
      by_cases low : raw.toNat < 2 ^ (options.bitLength.toNat - 1)
      · rw [if_pos low, if_neg (Nat.not_le.mpr low)]
      · rw [if_neg low, if_pos (Nat.le_of_not_lt low)]
    simp [decodeScaled, signed, read', bind, Except.bind, Except.map, pure, Except.pure, same]

end Decode

section Frames

variable {sensor : CanSignalSensor} {round : Round} {native : NativeFrame}

theorem checkStale_kept (sensor : CanSignalSensor) (now : Clock) :
    (sensor.checkStale now).endpointOpen = sensor.endpointOpen ∧
      (sensor.checkStale now).record.diagnostics.successfulOperations =
        sensor.record.diagnostics.successfulOperations := by
  unfold CanSignalSensor.checkStale
  split <;> exact ⟨rfl, rfl⟩

/-- A frame that is passed over has counted no success. -/
theorem ignored_ne_accepted (now later : Clock) (value : Float) :
    sensor.checkStale later ≠ (sensor.accept now value).checkStale later := by
  intro same
  have counted := congrArg (·.record.diagnostics.successfulOperations) same
  have before := (checkStale_kept sensor later).2
  have after := (checkStale_kept (sensor.accept now value) later).2
  simp only [before, after] at counted
  have grown : sensor.record.diagnostics.successfulOperations =
      sensor.record.diagnostics.successfulOperations + 1 := counted
  simp at grown

theorem failed_ne_accepted (opened : sensor.endpointOpen = true) (now later : Clock)
    (message : String) (value : Float) :
    sensor.fail now message ≠ (sensor.accept now value).checkStale later := by
  intro same
  have shut := congrArg (·.endpointOpen) same
  have kept := (checkStale_kept (sensor.accept now value) later).1
  simp only [kept] at shut
  have opened' : (sensor.accept now value).endpointOpen = true := opened
  rw [opened'] at shut
  simp [CanSignalSensor.fail, CanSignalSensor.markTransportFailure] at shut

/-- The filter lets the frames of the configured identifier pass. -/
theorem filter_iff (sound : native.isError = false) (options : Options) :
    (native.receive.error || native.receive.id != options.frameId ||
      native.receive.extended != options.extended) = false ↔ Matches options native := by
  obtain ⟨extended, -, error⟩ := native.receive_flags
  have id := native.receive_id sound
  rw [error, sound, extended, Bool.false_or, Bool.or_eq_false_iff, bne_eq_false_iff_eq,
    bne_eq_false_iff_eq, ← UInt32.toNat_inj, id]
  exact ⟨fun found => ⟨sound, found.2, found.1⟩, fun found => ⟨found.identifier, found.format⟩⟩

variable (matching : Matches sensor.options native)
include matching

/-- An iteration on a frame that the filter lets pass. -/
theorem receive_of_matches (now later : Clock) : sensor.receive now later (.frame native) =
      match decodeScaled native.receive.toCanFrame sensor.options with
      | .ok value => some ((sensor.accept now value).checkStale later)
      | .error .outOfRange => some (sensor.fail now "CAN signal exceeds frame payload")
      | .error .undefined => none := by
  have error : native.receive.error = false := native.receive_flags.2.2.trans matching.sound
  have passed := (filter_iff matching.sound sensor.options).mpr matching
  have ingested : sensor.ingest now native.receive =
      (decodeScaled native.receive.toCanFrame sensor.options).map (sensor.accept now) := by
    simp only [CanSignalSensor.ingest, passed, Bool.false_eq_true, if_false]
  simp only [CanSignalSensor.receive, error, Bool.false_eq_true, if_false, ingested]
  cases decodeScaled native.receive.toCanFrame sensor.options with
  | ok value => rfl
  | error error => cases error <;> rfl

theorem not_updated_of_rejected (opened : sensor.endpointOpen = true)
    (rejected : ¬SizeAccepted native.receive.toCanFrame sensor.options.bitOffset
      sensor.options.bitLength) (now later : Clock) :
    sensor.receive now later (.frame native) ≠ none ∧
      ¬∃ value, sensor.receive now later (.frame native) =
        some ((sensor.accept now value).checkStale later) := by
  rw [receive_of_matches matching, decodeScaled_rejected rejected]
  refine ⟨by simp, ?_⟩
  rintro ⟨value, same⟩
  exact failed_ne_accepted opened now later _ value (Option.some.inj same)

theorem updated_of_accepted
    (accepted : SizeAccepted native.receive.toCanFrame sensor.options.bitOffset
      sensor.options.bitLength) (now later : Clock)
    (defined : sensor.receive now later (.frame native) ≠ none) :
    ∃ value, sensor.receive now later (.frame native) =
      some ((sensor.accept now value).checkStale later) := by
  rw [receive_of_matches matching] at defined ⊢
  obtain ⟨value, decoded⟩ | undefined := decodeScaled_accepted accepted
  · exact ⟨value, by rw [decoded]⟩
  · rw [undefined] at defined
    exact absurd rfl defined

/-- What a remote request with the identifier has to meet. -/
theorem followsFrame_remote_iff (remote : native.isRemote = true)
    (opened : sensor.endpointOpen = true)
    (iterated : sensor.iterate round = sensor.receive round.now round.later (.frame native)) :
    FollowsFrame native sensor round ↔
      ¬SizeAccepted native.receive.toCanFrame sensor.options.bitOffset sensor.options.bitLength := by
  -- A remote request carries no data, so that whatever the sensor takes from it is too much.
  have idle : ¬Carries sensor.options native := by
    intro carries
    simp [carries.data] at remote
  constructor
  · intro follows accepted
    have defined := follows.defined
    rw [iterated] at defined
    have updated := updated_of_accepted matching accepted round.now round.later defined
    rw [← iterated] at updated
    exact idle (follows.updates.mp updated)
  · intro rejected
    obtain ⟨defined, same⟩ := not_updated_of_rejected matching opened rejected round.now round.later
    rw [← iterated] at defined same
    exact ⟨defined, iff_of_false same idle, fun carries => absurd carries idle,
      fun _ other => absurd matching other⟩

theorem followsFrame_data_iff (data : native.isRemote = false) (opened : sensor.endpointOpen = true)
    (iterated : sensor.iterate round = sensor.receive round.now round.later (.frame native)) :
    FollowsFrame native sensor round ↔
      (SizeAccepted native.receive.toCanFrame sensor.options.bitOffset sensor.options.bitLength ↔
        SignalInside sensor.options native) := by
  have carries_iff : Carries sensor.options native ↔ SignalInside sensor.options native :=
    ⟨fun carries => carries.signal, fun signal => ⟨matching, data, signal⟩⟩
  -- The guard decides whether the signal is read; it should do so as the payload does.
  by_cases accepted : SizeAccepted native.receive.toCanFrame sensor.options.bitOffset
      sensor.options.bitLength
  · constructor
    · intro follows
      have defined := follows.defined
      rw [iterated] at defined
      have updated := updated_of_accepted matching accepted round.now round.later defined
      rw [← iterated] at updated
      exact iff_of_true accepted (carries_iff.mp (follows.updates.mp updated))
    · intro judged
      have signal := judged.mp accepted
      have result : sensor.iterate round = some ((sensor.accept round.now
          (sensor.options.scale (signalNumber sensor.options native))).checkStale round.later) := by
        rw [iterated, receive_of_matches matching, decodeScaled_inside signal accepted]
      exact ⟨by simp [result], iff_of_true ⟨_, result⟩ (carries_iff.mpr signal), fun _ => result,
        fun _ other => absurd matching other⟩
  · obtain ⟨defined, same⟩ := not_updated_of_rejected matching opened accepted round.now round.later
    rw [← iterated] at defined same
    constructor
    · intro follows
      refine iff_of_false accepted fun signal => ?_
      exact same (follows.updates.mpr (carries_iff.mpr signal))
    · intro judged
      have outside : ¬Carries sensor.options native :=
        fun carries => accepted (judged.mpr carries.signal)
      exact ⟨defined, iff_of_false same outside, fun carries => absurd carries outside,
        fun _ other => absurd matching other⟩

omit matching

theorem agree_iff {options : Options} :
    (SizeAccepted native.receive.toCanFrame options.bitOffset options.bitLength ↔
        SignalInside options native) ↔
      (0 < options.bitLength.toNat → options.bitLength.toNat ≤ 64 →
        ¬Misjudged native.receive.toCanFrame options.bitOrder options.bitOffset
          options.bitLength) := by
  by_cases sized : 0 < options.bitLength.toNat ∧ options.bitLength.toNat ≤ 64
  · obtain ⟨some, most⟩ := sized
    have inside : SignalInside options native ↔ InPayload native.receive.toCanFrame options.bitOrder
        options.bitOffset.toNat options.bitLength.toNat :=
      ⟨fun signal => signal.inside, fun inside => ⟨some, most, inside⟩⟩
    rw [misjudged_iff some most, inside]
    simp [some, most]
  · -- A signal of no size, or of more than a word, is never accepted and never in a payload.
    refine iff_of_true (iff_of_false ?_ ?_) fun some most => absurd ⟨some, most⟩ sized
    · exact fun accepted => sized ⟨accepted.1, accepted.2.1⟩
    · exact fun signal => sized ⟨signal.some, signal.most⟩

theorem followsFrame_error (unmatched : ¬Matches sensor.options native) (error : native.isError = true)
    (opened : sensor.endpointOpen = true)
    (iterated : sensor.iterate round = sensor.receive round.now round.later (.frame native)) :
    FollowsFrame native sensor round := by
  have idle : ¬Carries sensor.options native := fun carries => unmatched carries.matching
  have failed : sensor.iterate round = some (sensor.fail round.now
      ("SocketCAN error frame mask=" ++ toString native.receive.id)) := by
    simp [iterated, CanSignalSensor.receive, native.receive_flags.2.2, error]
  refine ⟨by simp [failed], iff_of_false ?_ idle, fun carries => absurd carries idle,
    by simp [error]⟩
  rintro ⟨value, same⟩
  rw [failed] at same
  exact failed_ne_accepted opened _ _ _ value (Option.some.inj same)

theorem followsFrame_dropped (unmatched : ¬Matches sensor.options native)
    (sound : native.isError = false)
    (iterated : sensor.iterate round = sensor.receive round.now round.later (.frame native)) :
    FollowsFrame native sensor round := by
  have idle : ¬Carries sensor.options native := fun carries => unmatched carries.matching
  have filtered := mt (filter_iff sound sensor.options).mp unmatched
  simp only [Bool.not_eq_false] at filtered
  have passed : sensor.ingest round.now native.receive = .ok sensor := by
    simp only [CanSignalSensor.ingest, filtered, if_true]
  -- What is left of the iteration is the test for a value that is too old.
  have dropped : sensor.iterate round = some (sensor.checkStale round.later) := by
    simp only [iterated, CanSignalSensor.receive, native.receive_flags.2.2, sound,
      Bool.false_eq_true, if_false, passed]
  refine ⟨by simp [dropped], iff_of_false ?_ idle, fun carries => absurd carries idle,
    fun _ _ => dropped⟩
  rintro ⟨value, same⟩
  rw [dropped] at same
  exact ignored_ne_accepted _ _ value (Option.some.inj same)

/-- The sensor follows a frame exactly if its size is judged rightly and a remote request does not
pass for data. -/
theorem frame_followed_iff (sensor : CanSignalSensor) (round : Round) (native : NativeFrame)
    (running : sensor.running = true) (looping : sensor.looping = true)
    (opened : sensor.endpointOpen = true) (received : round.received = .frame native) :
    FollowsFrame native sensor round ↔ Judged sensor.options native := by
  have iterated : sensor.iterate round = sensor.receive round.now round.later (.frame native) := by
    simp [CanSignalSensor.iterate, running, looping, opened, received]
  by_cases matching : Matches sensor.options native
  · -- The frame gets through the filter, so that the size and the kind of the frame decide.
    cases remote : native.isRemote with
    | true =>
      rw [followsFrame_remote_iff matching remote opened iterated]
      refine ⟨fun rejected => ⟨fun _ _ => rejected, fun _ data => ?_⟩, fun judged => ?_⟩
      · simp [remote] at data
      · exact judged.remote matching remote
    | false =>
      rw [followsFrame_data_iff matching remote opened iterated, agree_iff]
      refine ⟨fun sound => ⟨fun _ request => ?_, fun _ _ => sound⟩, fun judged => ?_⟩
      · simp [remote] at request
      · exact judged.data matching remote
  · -- Any other frame is followed, and nothing is asked of it.
    have judged : Judged sensor.options native :=
      ⟨fun found => absurd found matching, fun found => absurd found matching⟩
    refine iff_of_true ?_ judged
    cases sound : native.isError with
    | true => exact followsFrame_error matching sound opened iterated
    | false => exact followsFrame_dropped matching sound iterated

/-- A sensor of the first byte of the frames 0x123 that has just been started. -/
def started (bitOrder : BitOrder) : CanSignalSensor :=
  CanSignalSensor.start
    { options := { frameId := 0x123, bitLength := 8, bitOrder }
      recoveryPolicy := {}
      format := toString } (.ok ())

/-- A frame of one byte. -/
def shortFrame (canId : UInt32) : NativeFrame where
  canId := canId
  fd := false
  length := 1
  fits := by decide
  data := .replicate 64 0x5A

/-- An iteration on a frame of one byte. -/
def shortRound (canId : UInt32) : Round := ⟨⟨1, 1⟩, ⟨2, 2⟩, .ok (), .frame (shortFrame canId)⟩

theorem frame_followed_sample :
    FollowsFrame (shortFrame 0x123) (started .littleEndian) (shortRound 0x123) := by
  refine (frame_followed_iff (started .littleEndian) (shortRound 0x123) (shortFrame 0x123) rfl rfl rfl
    rfl).mpr ⟨fun _ remote => ?_, fun _ _ _ _ => ?_⟩
  · exact absurd remote (by decide)
  · rintro (⟨large, -⟩ | impossible)
    · exact absurd large (by decide)
    · exact impossible

/-- A remote request sets a value, and a big-endian signal is read from behind the payload. -/
theorem frames_taken_for_data :
    ¬FollowsFrame (shortFrame 0x40000123) (started .littleEndian) (shortRound 0x40000123) ∧
    ¬FollowsFrame (shortFrame 0x123) (started .bigEndian) (shortRound 0x123) ∧
    ¬ ∀ (sensor : CanSignalSensor) (round : Round) (native : NativeFrame),
      sensor.running = true → sensor.looping = true → sensor.endpointOpen = true →
        round.received = .frame native → FollowsFrame native sensor round := by
  have remote :
      ¬FollowsFrame (shortFrame 0x40000123) (started .littleEndian) (shortRound 0x40000123) := by
    have matching : Matches (started .littleEndian).options (shortFrame 0x40000123) :=
      ⟨by decide, by decide, by decide⟩
    rw [followsFrame_remote_iff matching (by decide) rfl rfl]
    intro rejected
    exact rejected ⟨by decide, by decide, by decide⟩
  have behind : ¬FollowsFrame (shortFrame 0x123) (started .bigEndian) (shortRound 0x123) := by
    have matching : Matches (started .bigEndian).options (shortFrame 0x123) :=
      ⟨by decide, by decide, by decide⟩
    rw [followsFrame_data_iff matching (by decide) rfl rfl, agree_iff]
    intro judged
    exact judged (by decide) (by decide) (.inr (.inl ⟨by decide, by decide⟩))
  refine ⟨remote, behind, fun always => remote ?_⟩
  exact always (started .littleEndian) (shortRound 0x40000123) (shortFrame 0x40000123) rfl rfl rfl rfl

end Frames

end PocoDDS.Devices.CanSensor
