import PocoDDS.Reliability.Diagnostics
import PocoDDS.XBee.IoSample

/-! The analog sensor on an XBee node, and what the frames of other nodes do to it. -/

namespace PocoDDS.Devices.XBeeSensor

open Reliability XBee

inductive Conversion
  | raw
  | millivolts
  | temperatureCelsius
  | relativeHumidity
  deriving DecidableEq, Repr

structure Options where
  sourceAddress : UInt64 := 0
  analogChannel : Nat := 0
  conversion : Conversion := .raw
  referenceMillivolts : Float := 1200.0
  adcMaximum : Float := 1023.0

structure XBeeRecoveryPolicy where
  enabled : Bool := true
  staleAfterMilliseconds : Int := 5000

structure XBeeAnalogSensor where
  options : Options
  recoveryPolicy : XBeeRecoveryPolicy
  running : Bool := false
  looping : Bool := false
  portOpen : Bool := false
  state : DeviceState := .offline
  lastSample : Int := 0
  value : Float := 0
  record : DeviceRecord := {}

/-- What the port answers to `receive`. -/
inductive Received
  | frame (frame : XBeeFrame)
  | timeout
  | failed (message : String)

/-- What one iteration of the loop meets. -/
structure Round where
  now : Clock
  opening : Except String Unit
  received : Received

inductive Event
  | start (opening : Except String Unit)
  | stop
  | round (round : Round)

namespace XBeeAnalogSensor

def convert (sensor : XBeeAnalogSensor) (sample : UInt16) : Float :=
  let millivolts := sensor.options.referenceMillivolts * sample.toFloat / sensor.options.adcMaximum
  match sensor.options.conversion with
  | .raw => sample.toFloat
  | .millivolts => millivolts
  | .temperatureCelsius => (millivolts - 500.0) / 10.0
  | .relativeHumidity => ((millivolts * 108.2 / 33.2) / 5000.0 - 0.16) / 0.0062

def markConnected (sensor : XBeeAnalogSensor) : XBeeAnalogSensor :=
  { sensor with state := .offline, record := sensor.record.advanced }

def markFailure (sensor : XBeeAnalogSensor) (now : Clock) (message : String)
    (state : DeviceState) : XBeeAnalogSensor :=
  { sensor with
    state
    record := sensor.record.failed now.system "PDR-DEVICE-XBEE-OPERATION_FAILED" .transient true
      message }

/-- A value that is too old is given up. -/
def checkStale (sensor : XBeeAnalogSensor) (now : Clock) : XBeeAnalogSensor :=
  if sensor.state = .ready ∧ sensor.lastSample ≠ 0 ∧
      now.steady - sensor.lastSample ≥ sensor.recoveryPolicy.staleAfterMilliseconds * 1000000 then
    sensor.markFailure now "XBee sample stale" .offline
  else sensor

def ingest (sensor : XBeeAnalogSensor) (now : Clock) (sample : IoSample) : XBeeAnalogSensor :=
  if sample.sourceAddress ≠ sensor.options.sourceAddress ||
      !sample.hasAnalog sensor.options.analogChannel then sensor
  else match sample.analog sensor.options.analogChannel with
    -- The channel has just been found present.
    | .error _ => sensor
    | .ok word => { sensor with
        value := sensor.convert word
        state := .ready
        lastSample := now.steady
        record := sensor.record.succeeded now.system }

/-- The exception branch of the loop. -/
def fail (sensor : XBeeAnalogSensor) (now : Clock) (message : String) : XBeeAnalogSensor :=
  { sensor with portOpen := false }.markFailure now message .fault

/-- The branch of the loop on an open port. -/
def receive (sensor : XBeeAnalogSensor) (now : Clock) : Received → XBeeAnalogSensor
  | .timeout => sensor.checkStale now
  | .failed message => sensor.fail now message
  | .frame frame =>
    if frame.type = FrameType.zigbeeIoSample then
      match IoSample.decode frame with
      | .error message => sensor.fail now message
      | .ok sample => (sensor.ingest now sample).checkStale now
    else sensor.checkStale now

/-- The branch of the loop on a closed port. -/
def reconnect (sensor : XBeeAnalogSensor) (now : Clock) (opening : Except String Unit) :
    XBeeAnalogSensor :=
  let counted := { sensor with record := sensor.record.reconnecting }
  match opening with
  | .ok () => { counted with portOpen := true }.markConnected
  | .error message => counted.markFailure now message .fault

/-- One iteration of `run`. -/
def iterate (sensor : XBeeAnalogSensor) (round : Round) : XBeeAnalogSensor :=
  if !sensor.looping then sensor
  else if !sensor.running then { sensor with looping := false }
  else if !sensor.portOpen then
    if !sensor.recoveryPolicy.enabled then { sensor with looping := false }
    else sensor.reconnect round.now round.opening
  else sensor.receive round.now round.received

def start (sensor : XBeeAnalogSensor) (opening : Except String Unit) : XBeeAnalogSensor :=
  if sensor.running then sensor
  else match opening with
    | .ok () =>
      { { sensor with running := true, portOpen := true }.markConnected with looping := true }
    | .error _ => { sensor with portOpen := false }

def stop (sensor : XBeeAnalogSensor) : XBeeAnalogSensor :=
  if !sensor.running then sensor
  else { sensor with
    running := false
    looping := false
    portOpen := false
    state := .offline
    record := sensor.record.advanced }

def step (sensor : XBeeAnalogSensor) : Event → XBeeAnalogSensor
  | .start opening => sensor.start opening
  | .stop => sensor.stop
  | .round round => sensor.iterate round

end XBeeAnalogSensor

/-- A frame that is no sample of the configured node. -/
def Foreign (options : Options) (frame : XBeeFrame) : Prop :=
  ¬(frame.type = FrameType.zigbeeIoSample ∧ 8 ≤ frame.data.length ∧
    nodeAddress frame.data = options.sourceAddress.toNat)

instance (options : Options) (frame : XBeeFrame) : Decidable (Foreign options frame) :=
  inferInstanceAs (Decidable (¬(_ ∧ _ ∧ _)))

/-- What others see of a sensor is the same. -/
structure Undisturbed (expected sensor : XBeeAnalogSensor) : Prop where
  value : sensor.value = expected.value
  state : sensor.state = expected.state
  portOpen : sensor.portOpen = expected.portOpen
  diagnostics : sensor.record.diagnostics = expected.record.diagnostics

section ForeignFrames

variable {sensor : XBeeAnalogSensor} {now : Clock} {frame : XBeeFrame}

@[simp] theorem XBeeAnalogSensor.checkStale_portOpen :
    (sensor.checkStale now).portOpen = sensor.portOpen := by
  unfold XBeeAnalogSensor.checkStale
  split <;> rfl

/-- The filter drops the samples of other nodes. -/
theorem XBeeAnalogSensor.ingest_foreign {sample : IoSample}
    (foreign : Foreign sensor.options frame) (decoded : IoSample.decode frame = .ok sample) :
    sensor.ingest now sample = sensor := by
  obtain ⟨type, whole, -⟩ := IoSample.decode_eq_iff.mp decoded
  -- The decoder has read the address that the specification speaks about.
  have other : sample.sourceAddress ≠ sensor.options.sourceAddress := by
    intro same
    apply foreign
    refine ⟨type, by omega, ?_⟩
    rw [← IoSample.decode_address decoded, same]
  simp [XBeeAnalogSensor.ingest, other]

/-- A frame of another node changes nothing exactly if the decoder does not see it, or accepts it. -/
theorem foreign_frame_undisturbed_iff (sensor : XBeeAnalogSensor) (round : Round)
    (frame : XBeeFrame) (running : sensor.running = true) (looping : sensor.looping = true)
    (opened : sensor.portOpen = true) (received : round.received = .frame frame)
    (foreign : Foreign sensor.options frame) :
    Undisturbed (sensor.checkStale round.now) (sensor.iterate round) ↔
      (frame.type = FrameType.zigbeeIoSample → HoldsSample frame.data) := by
  have iterated : sensor.iterate round = sensor.receive round.now (.frame frame) := by
    simp [XBeeAnalogSensor.iterate, running, looping, opened, received]
  rw [iterated]
  by_cases type : frame.type = FrameType.zigbeeIoSample
  · cases decoded : IoSample.decode frame with
    | error message =>
      have failed : sensor.receive round.now (.frame frame) = sensor.fail round.now message := by
        simp [XBeeAnalogSensor.receive, type, decoded]
      have malformed : ¬HoldsSample frame.data := by
        intro holds
        obtain ⟨sample, accepted⟩ := (IoSample.decode_ok_iff frame).mpr ⟨type, holds⟩
        cases decoded.symm.trans accepted
      rw [failed]
      constructor
      · intro same
        -- The exception closes the port, which the clock never does.
        have shut := same.portOpen
        simp [XBeeAnalogSensor.fail, XBeeAnalogSensor.markFailure, opened] at shut
      · intro holds
        exact absurd (holds type) malformed
    | ok sample =>
      have ignored : sensor.receive round.now (.frame frame) = sensor.checkStale round.now := by
        simp [XBeeAnalogSensor.receive, type, decoded,
          XBeeAnalogSensor.ingest_foreign foreign decoded]
      have holds := ((IoSample.decode_ok_iff frame).mp ⟨sample, decoded⟩).2
      rw [ignored]
      exact iff_of_true ⟨rfl, rfl, rfl, rfl⟩ fun _ => holds
  · have ignored : sensor.receive round.now (.frame frame) = sensor.checkStale round.now := by
      simp [XBeeAnalogSensor.receive, type]
    rw [ignored]
    exact iff_of_true ⟨rfl, rfl, rfl, rfl⟩ fun same => absurd same type

/-- A sensor of node 1 that has just been started. -/
def started : XBeeAnalogSensor :=
  XBeeAnalogSensor.step { options := { sourceAddress := 1 }, recoveryPolicy := {} } (.start (.ok ()))

/-- A sample of node 2 of its analog channel 0. -/
def otherSample : XBeeFrame where
  type := FrameType.zigbeeIoSample
  data := [0, 0, 0, 0, 0, 0, 0, 2, 0xAB, 0xCD, 1, 1, 0, 0, 1, 2, 0]
  admitted := by decide

/-- A sample of node 2 with two sets of samples. -/
def severalSets : XBeeFrame where
  type := FrameType.zigbeeIoSample
  data := [0, 0, 0, 0, 0, 0, 0, 2, 0xAB, 0xCD, 1, 2, 0, 0, 1, 2, 0]
  admitted := by decide

theorem foreign_frame_undisturbed_sample :
    Undisturbed (started.checkStale ⟨1, 1⟩) (started.iterate ⟨⟨1, 1⟩, .ok (), .frame otherSample⟩) := by
  refine (foreign_frame_undisturbed_iff started ⟨⟨1, 1⟩, .ok (), .frame otherSample⟩ otherSample
    rfl rfl rfl rfl ?_).mpr ?_
  · decide
  · exact fun _ => ⟨by decide, by decide⟩

/-- The loop closes the port and reports a fault for a frame that is not meant for the sensor. -/
theorem rejected_sample_closes_port :
    (started.iterate ⟨⟨1, 1⟩, .ok (), .frame severalSets⟩).portOpen = false ∧
    (started.iterate ⟨⟨1, 1⟩, .ok (), .frame severalSets⟩).state = .fault ∧
    ¬ ∀ (options : Options) (recoveryPolicy : XBeeRecoveryPolicy) (events : List Event)
        (round : Round) (frame : XBeeFrame),
      let sensor := events.foldl XBeeAnalogSensor.step { options, recoveryPolicy }
      sensor.running = true → sensor.looping = true → sensor.portOpen = true →
        round.received = .frame frame → Foreign sensor.options frame →
          Undisturbed (sensor.checkStale round.now) (sensor.iterate round) := by
  have shut : (started.iterate ⟨⟨1, 1⟩, .ok (), .frame severalSets⟩).portOpen = false := by rfl
  refine ⟨shut, by rfl, fun always => ?_⟩
  have same := always { sourceAddress := 1 } {} [.start (.ok ())]
    ⟨⟨1, 1⟩, .ok (), .frame severalSets⟩ severalSets rfl rfl rfl rfl (by decide)
  exact absurd (shut.symm.trans same.portOpen) (by decide)

end ForeignFrames

end PocoDDS.Devices.XBeeSensor
