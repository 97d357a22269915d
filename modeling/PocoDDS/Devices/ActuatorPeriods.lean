import PocoDDS.Devices.LinuxSysfsGpioDevice
import PocoDDS.Devices.LinuxSysfsLedDevice
import PocoDDS.Devices.ModbusRegisterDevice
import PocoDDS.Lib.Run

/-! Whether actuators are driven only between a `start` that returns and the next `stop`. -/

namespace PocoDDS.Devices

open RunLogic

/-- A device with the memory of whether it is in a period between `start` and `stop`. -/
structure Observed (δ : Type) where
  device : δ
  started : Bool := false

/-- What a step may do to a device: drive it only in a period, and be ready only in one. -/
structure Guarded {δ α : Type} (driven : δ → List α) (state : δ → DeviceState)
    (before after : Observed δ) : Prop where
  driven : driven after.device ≠ driven before.device → before.started = true
  ready : state after.device = .ready → after.started = true

section Guard

variable {δ α : Type} {driven : δ → List α} {state : δ → DeviceState} {before after : Observed δ}

/-- In a period that lasts, everything is allowed. -/
theorem Guarded.of_started (first : before.started = true) (last : after.started = true) :
    Guarded driven state before after :=
  ⟨fun _ => first, fun _ => last⟩

/-- A step without effect is allowed at any time. -/
theorem Guarded.of_calm (same : driven after.device = driven before.device)
    (unready : state after.device ≠ .ready) : Guarded driven state before after :=
  ⟨fun changed => absurd same changed, fun ready => absurd ready unready⟩

/-- Outside a period, only a step without effect is allowed. -/
theorem guarded_iff_of_stopped (first : before.started = false) (last : after.started = false) :
    Guarded driven state before after ↔
      ¬(driven after.device ≠ driven before.device ∨ state after.device = .ready) := by
  constructor
  · rintro ⟨drive, ready⟩ (changed | shown)
    · simp [first] at drive
      exact changed drive
    · simp [ready shown] at last
  · intro calm
    exact ⟨fun changed => absurd (.inl changed) calm, fun shown => absurd (.inr shown) calm⟩

end Guard

namespace Gpio

open UnsignedText LinuxSysfsGpioDevice

/-- A call at a time, with the memory of the period. -/
def observe (observed : Observed LinuxSysfsGpioDevice) (event : Int × Call) :
    Observed LinuxSysfsGpioDevice where
  device := observed.device.call event.1 event.2
  started :=
    match event.2 with
    | .stop => false
    | call => observed.started || observed.device.starts event.1 call

/-- A call gets through to the value file, which answers as the call needs it. -/
def Reaches (device : LinuxSysfsGpioDevice) : Call → Prop
  | .start _ | .stop => False
  | .read file | .snapshot file => device.state ≠ .offline ∧ file.reading ≠ none
  | .write _ file => device.direction = .output ∧ device.state ≠ .offline ∧ file.writing = .written
  | .execute operation payload file => device.state ≠ .offline ∧
      (operation = "read" ∧ file.reading ≠ none ∨
        operation = "write" ∧ (∃ value, stoul 10 payload.toList = .ok value) ∧
          device.direction = .output ∧ file.writing = .written ∨
        operation = "toggle" ∧ file.reading ≠ none ∧
          (device.direction = .output → file.writing = .written))

/-- Outside a period no call reaches the value file. -/
def Unreached (observed : Observed LinuxSysfsGpioDevice) (event : Int × Call) : Prop :=
  observed.started = false → ¬Reaches observed.device event.2

section Effects

variable {device : LinuxSysfsGpioDevice} {now : Int} {file : ValueFile}

/-- Whether a step of a device had an effect that is allowed in a period only. -/
def Effect (device after : LinuxSysfsGpioDevice) : Prop :=
  after.driven ≠ device.driven ∨ after.state = .ready

theorem effect_read_iff : Effect device (device.read now file).2 ↔ Reaches device (.read file) := by
  obtain ⟨same, ready⟩ := @read_effect device now file
  simp only [Effect, same, ne_eq, not_true, false_or, ready, Reaches]

theorem effect_write_iff (unready : device.state ≠ .ready) (value : UInt32) :
    Effect device (device.write now value file).2 ↔ Reaches device (.write value file) := by
  by_cases output : device.direction = .output
  swap
  · simp [write_input output, Effect, unready, Reaches, output]
  -- An output that is not offline is written, and the file decides.
  by_cases reached : device.state ≠ .offline ∧ file.writing = .written
  · rw [write_done output reached.1 reached.2]
    simp [Effect, markSuccess, Reaches, output, reached]
  · obtain ⟨message, failed⟩ := @write_failed device now file value output reached
    have unreached : ¬Reaches device (.write value file) := fun reaches => reached reaches.2
    rw [failed]
    simp [Effect, markFailure, unreached]

theorem effect_writeAndRead_iff (unready : device.state ≠ .ready) (value : UInt32) :
    Effect device (device.writeAndRead now value file).2 ↔ Reaches device (.write value file) := by
  by_cases output : device.direction = .output
  swap
  · simp [writeAndRead_device, write_input output, Effect, unready, Reaches, output]
  by_cases reached : device.state ≠ .offline ∧ file.writing = .written
  · -- What is driven stays on the record, whatever the line then reads.
    rw [writeAndRead_device, write_done output reached.1 reached.2, if_pos rfl]
    simp only [Effect, read_effect.1]
    simp [markSuccess, Reaches, output, reached]
  · obtain ⟨message, failed⟩ := @write_failed device now file value output reached
    have unreached : ¬Reaches device (.write value file) := fun reaches => reached reaches.2
    simp [writeAndRead_device, failed, Effect, markFailure, unreached]

theorem effect_toggle_iff (payload : String) :
    Effect device (device.toggle now file).2 ↔ Reaches device (.execute "toggle" payload file) := by
  by_cases found : device.state ≠ .offline ∧ file.reading ≠ none
  swap
  · obtain ⟨message, failed⟩ := @read_failed device now file found
    have unreached : ¬Reaches device (.execute "toggle" payload file) := by
      simp only [Reaches, String.reduceEq, false_and, false_or, true_and]
      exact fun reaches => found ⟨reaches.1, reaches.2.1⟩
    simp [toggle, failed, Effect, markFailure, unreached]
  obtain ⟨raw, reading⟩ := Option.ne_none_iff_exists'.mp found.2
  -- The line has been read, so that the device is ready until a write fails.
  simp only [toggle, read_done found.1 reading]
  generalize (if (if raw = 0 then 0 else 1) = 0 then (1 : UInt32) else 0) = next
  generalize toString (if raw = 0 then 0 else 1) = payload'
  by_cases output : device.direction = .output
  swap
  · have kept := @write_input (device.markSuccess now payload') now file next output
    rw [kept]
    simp [Effect, markSuccess, Reaches, found, output]
  have online : (device.markSuccess now payload').state ≠ .offline := by simp [markSuccess]
  by_cases written : file.writing = .written
  · have driven := @write_done (device.markSuccess now payload') now file next output online written
    rw [driven]
    simp [Effect, markSuccess, Reaches, found, written]
  · obtain ⟨message, failed⟩ := @write_failed (device.markSuccess now payload') now file next output
      (by simp [written])
    rw [failed]
    simp [Effect, markFailure, markSuccess, Reaches, output, written]

/-- A call that is no `start` has an effect exactly if it gets through to the value file. -/
theorem effect_call_iff (unready : device.state ≠ .ready) (call : Call)
    (other : ∀ files, call ≠ .start files) :
    Effect device (device.call now call) ↔ Reaches device call := by
  -- Each call gets to the value file through `read` or `write`, or not at all.
  cases call with
  | start files => exact absurd rfl (other files)
  | stop =>
    simp only [LinuxSysfsGpioDevice.call, stop, Reaches, iff_false]
    split
    · simp [Effect, unready]
    · simp [Effect]
  | read file => exact effect_read_iff
  | write value file => exact effect_write_iff unready value
  | snapshot file =>
    simp only [LinuxSysfsGpioDevice.call, snapshot]
    split
    · rename_i offline
      simp [Effect, Reaches, offline]
    · exact effect_read_iff
  | execute operation payload file =>
    simp only [LinuxSysfsGpioDevice.call, execute]
    by_cases isRead : operation = "read"
    · subst isRead
      simp only [if_true, readText_device]
      refine effect_read_iff.trans ?_
      simp [Reaches]
    by_cases isWrite : operation = "write"
    · subst isWrite
      simp only [String.reduceEq, if_false, if_true]
      cases number : stoul 10 payload.toList with
      | error message => simp [Effect, unready, Reaches, number]
      | ok value =>
        refine (effect_writeAndRead_iff unready (UInt32.ofNat value)).trans ?_
        simp only [Reaches, number, String.reduceEq, false_and, false_or, or_false, true_and,
          Except.ok.injEq, exists_eq']
        exact and_left_comm
    by_cases isToggle : operation = "toggle"
    · subst isToggle
      simp only [String.reduceEq, if_false, if_true]
      exact effect_toggle_iff payload
    · simp [isRead, isWrite, isToggle, Effect, unready, Reaches]

/-- A `start` drives nothing, and leaves the device ready exactly if it returns. -/
theorem start_effect (unready : device.state ≠ .ready) (files : StartFiles) :
    (device.start now files).2.driven = device.driven ∧
      ((device.start now files).2.state = .ready ↔ (device.start now files).1.isOk = true) := by
  unfold start
  rw [if_neg unready]
  dsimp only
  split
  · simp [markFailure, Except.isOk, Except.toBool]
  · split
    · simp [markFailure, Except.isOk, Except.toBool]
    · simp [Except.isOk, Except.toBool]

end Effects

section Periods

variable {observed : Observed LinuxSysfsGpioDevice}

/-- A step is allowed exactly if it reaches nothing outside a period. -/
theorem guarded_iff (shown : observed.device.state = .ready → observed.started = true)
    (event : Int × Call) :
    Guarded (·.driven) (·.state) observed (observe observed event) ↔ Unreached observed event := by
  obtain ⟨now, call⟩ := event
  cases started : observed.started with
  | true =>
    have reached : Unreached observed (now, call) := by simp [Unreached, started]
    refine iff_of_true ?_ reached
    by_cases stopping : call = .stop
    · subst stopping
      refine ⟨fun _ => started, fun ready => ?_⟩
      -- Behind `stop` the device is offline.
      simp only [observe, LinuxSysfsGpioDevice.call, stop] at ready
      split at ready
      · rename_i offline
        simp only [Bool.and_eq_true, decide_eq_true_eq] at offline
        simp [offline.1] at ready
      · simp at ready
    · refine .of_started started ?_
      cases call <;> simp_all [observe]
  | false =>
    have unready : observed.device.state ≠ .ready := by
      intro ready
      simp [shown ready] at started
    by_cases starting : ∃ files, call = .start files
    · obtain ⟨files, rfl⟩ := starting
      obtain ⟨same, ready⟩ := @start_effect observed.device now unready files
      refine iff_of_true ⟨fun changed => absurd same changed, fun readied => ?_⟩ ?_
      · simp [observe, starts, ready.mp readied]
      · simp [Unreached, Reaches]
    · have last : (observe observed (now, call)).started = false := by
        cases call with
        | start files => exact absurd ⟨files, rfl⟩ starting
        | _ => simp [observe, started, starts]
      refine (guarded_iff_of_stopped started last).trans ?_
      have effect := @effect_call_iff observed.device now unready call
        fun files same => starting ⟨files, same⟩
      simp only [Unreached, started, forall_const]
      exact not_congr effect

/-- The line is driven only in periods exactly if no call reaches the value file outside of one. -/
theorem guarded_along_iff (device : LinuxSysfsGpioDevice) (unready : device.state ≠ .ready)
    (events : List (Int × Call)) :
    Along observe (fun observed event => Guarded (·.driven) (·.state) observed
        (observe observed event)) ⟨device, false⟩ events ↔
      Along observe Unreached ⟨device, false⟩ events := by
  -- That a ready device is started is the invariant: the allowed steps keep it.
  refine @Along.congr _ _ observe _ _
    (fun observed => observed.device.state = .ready → observed.started = true) ?_ ?_ _ ?_ events
  · intro observed event shown reached
    exact ((guarded_iff shown event).mpr reached).ready
  · intro observed event shown
    exact guarded_iff shown event
  · intro ready
    exact absurd ready unready

end Periods

end Gpio

namespace Led

open LinuxSysfsLedDevice

/-- A call at a time, with the memory of the period. -/
def observe (text : DoubleText) (observed : Observed LinuxSysfsLedDevice) (event : Int × Call) :
    Observed LinuxSysfsLedDevice where
  device := observed.device.call text event.1 event.2
  started :=
    match event.2 with
    | .stop => false
    | call => observed.started || observed.device.starts event.1 call

section Accesses

variable {text : DoubleText} {device between after : LinuxSysfsLedDevice} {now : Int}
  {file : BrightnessFile}

/-- What a read or a write does; without a maximum it does nothing but fail. -/
structure Access (device after : LinuxSysfsLedDevice) : Prop where
  maximum : after.maxBrightness = device.maxBrightness
  offline : after.state = .offline → device.state = .offline
  idle : device.maxBrightness = 0 → device.state ≠ .ready →
    after.driven = device.driven ∧ after.state ≠ .ready

theorem Access.refl (device : LinuxSysfsLedDevice) : Access device device :=
  ⟨rfl, id, fun _ unready => ⟨rfl, unready⟩⟩

theorem Access.trans (first : Access device between) (second : Access between after) :
    Access device after := by
  refine ⟨second.maximum.trans first.maximum, fun off => first.offline (second.offline off), ?_⟩
  intro none unready
  obtain ⟨same, still⟩ := first.idle none unready
  obtain ⟨kept, last⟩ := second.idle (first.maximum.trans none) still
  exact ⟨kept.trans same, last⟩

theorem notStarted_of_none (none : device.maxBrightness = 0) : device.notStarted = true := by
  simp [notStarted, none]

theorem access_brightness : Access device (device.brightness text now file).2 := by
  unfold brightness
  split
  · exact ⟨rfl, by simp [markFailure], fun _ _ => ⟨rfl, by simp [markFailure]⟩⟩
  · rename_i started
    have guarded (none : device.maxBrightness = 0) : False := started (notStarted_of_none none)
    split
    · exact ⟨rfl, by simp [markFailure], fun none => (guarded none).elim⟩
    · exact ⟨rfl, by simp [markSuccess], fun none => (guarded none).elim⟩

theorem access_setBrightness (value : Float) :
    Access device (device.setBrightness text now value file).2 := by
  unfold setBrightness
  dsimp only
  split
  · exact ⟨rfl, by simp [markFailure], fun _ _ => ⟨rfl, by simp [markFailure]⟩⟩
  · rename_i started
    have guarded (none : device.maxBrightness = 0) : False := started (notStarted_of_none none)
    split
    · exact ⟨rfl, by simp [markFailure], fun none => (guarded none).elim⟩
    · exact ⟨rfl, by simp [markFailure], fun none => (guarded none).elim⟩
    · exact ⟨rfl, by simp [markSuccess], fun none => (guarded none).elim⟩

theorem access_brightnessText : Access device (device.brightnessText text now file).2 := by
  have access := @access_brightness text device now file
  unfold brightnessText
  split <;> simpa [*] using access

theorem access_setAndRead (value : Float) :
    Access device (device.setAndRead text now value file).2 := by
  have first := @access_setBrightness text device now file value
  unfold setAndRead
  split
  · rename_i found
    simpa [found] using first
  · rename_i between found
    rw [found] at first
    exact first.trans access_brightnessText

theorem access_execute (operation payload : String) :
    Access device (device.execute text now operation payload file).2 := by
  unfold execute
  split_ifs
  · exact access_brightnessText
  · exact access_setAndRead 1
  · exact access_setAndRead 0
  · split
    · exact .refl device
    · rename_i value _
      exact access_setAndRead value
  · exact .refl device

end Accesses

section Periods

variable {text : DoubleText} {observed : Observed LinuxSysfsLedDevice}

/-- The maximum is what keeps the LED dark outside of a period. -/
structure Dark (observed : Observed LinuxSysfsLedDevice) : Prop where
  stopped : observed.started = false →
    observed.device.maxBrightness = 0 ∧ observed.device.state ≠ .ready
  offline : observed.device.state = .offline → observed.device.maxBrightness = 0

theorem Dark.access (dark : Dark observed) {after : LinuxSysfsLedDevice}
    (access : Access observed.device after) :
    Dark ⟨after, observed.started⟩ ∧
      Guarded (·.driven) (·.state) observed ⟨after, observed.started⟩ := by
  have stopped (idle : observed.started = false) :
      after.driven = observed.device.driven ∧ after.state ≠ .ready := by
    obtain ⟨none, unready⟩ := dark.stopped idle
    exact access.idle none unready
  constructor
  · constructor
    · intro idle
      exact ⟨access.maximum.trans (dark.stopped idle).1, (stopped idle).2⟩
    · intro off
      exact access.maximum.trans (dark.offline (access.offline off))
  · cases started : observed.started with
    | true => exact .of_started started rfl
    | false => exact .of_calm (stopped started).1 (stopped started).2

theorem Dark.start (dark : Dark observed) (now : Int) (maximum : Option UInt32) :
    Dark (observe text observed (now, .start maximum)) ∧
      Guarded (·.driven) (·.state) observed (observe text observed (now, .start maximum)) := by
  simp only [observe, LinuxSysfsLedDevice.call, starts, LinuxSysfsLedDevice.start]
  by_cases ready : observed.device.state = .ready
  · have started : observed.started = true := by
      cases idle : observed.started with
      | true => rfl
      | false => exact absurd ready (dark.stopped idle).2
    simp only [ready, if_true]
    refine ⟨⟨by simp [started], dark.offline⟩, .of_started started (by simp [started])⟩
  · simp only [ready, if_false]
    -- A failing `start` reads the maximum, and sets none.
    have failing (message : String) : Access observed.device
        (observed.device.markFailure now message) :=
      ⟨rfl, by simp [markFailure], fun _ _ => ⟨rfl, by simp [markFailure]⟩⟩
    cases maximum with
    | none => simpa [Except.isOk, Except.toBool] using dark.access (failing _)
    | some maximum =>
      dsimp only
      split
      · simpa [Except.isOk, Except.toBool] using dark.access (failing _)
      · refine ⟨⟨by simp [Except.isOk, Except.toBool], by simp⟩, ?_⟩
        exact ⟨fun changed => absurd rfl changed, by simp [Except.isOk, Except.toBool]⟩

theorem Dark.observe (dark : Dark observed) (event : Int × Call) :
    Dark (observe text observed event) ∧
      Guarded (·.driven) (·.state) observed (observe text observed event) := by
  obtain ⟨now, call⟩ := event
  cases call with
  | start maximum => exact dark.start now maximum
  | stop =>
    simp only [Led.observe, LinuxSysfsLedDevice.call, stop]
    split
    · rename_i offline
      refine ⟨⟨fun _ => ⟨dark.offline offline, by simp [offline]⟩, dark.offline⟩, ?_⟩
      exact .of_calm rfl (by simp [offline])
    · exact ⟨⟨by simp, by simp⟩, .of_calm rfl (by simp)⟩
  | brightness file =>
    simpa [Led.observe, starts, LinuxSysfsLedDevice.call] using dark.access access_brightness
  | setBrightness value file =>
    simpa [Led.observe, starts, LinuxSysfsLedDevice.call] using
      dark.access (access_setBrightness value)
  | snapshot file =>
    simp only [Led.observe, starts, Bool.or_false, LinuxSysfsLedDevice.call, snapshot]
    split
    · exact dark.access (.refl _)
    · exact dark.access access_brightness
  | execute operation payload file =>
    simpa [Led.observe, starts, LinuxSysfsLedDevice.call] using
      dark.access (access_execute operation payload)

theorem guarded_along (text : DoubleText) (directory : String) (events : List (Int × Call)) :
    Along (Led.observe text) (fun observed event => Guarded (·.driven) (·.state) observed
      (Led.observe text observed event)) ⟨{ directory }, false⟩ events := by
  have free := @Along.free _ _ (Led.observe text) ⟨{ directory }, false⟩ events
  refine @Along.of_invariant _ _ (Led.observe text) _ _ Dark ?_ ?_ _ _ ?_ free
  · intro observed event dark _
    exact (dark.observe event).1
  · intro observed event dark _
    exact (dark.observe event).2
  · exact ⟨fun _ => ⟨rfl, by simp⟩, fun _ => rfl⟩

end Periods

end Led

namespace ModbusRegister

open Modbus ModbusRegisterDevice

/-- A call, with the memory of the period. -/
def observe (observed : Observed ModbusRegisterDevice) (call : Call) :
    Observed ModbusRegisterDevice where
  device := observed.device.call call
  started :=
    match call with
    | .stop => false
    | call => observed.started || observed.device.starts call

def isWrite : Modbus.Call → Bool
  | .writeSingleRegister _ _ _ => true
  | _ => false

/-- The write requests that a device has sent. -/
def writesSent (device : ModbusRegisterDevice) : List Modbus.Call := device.sent.filter isWrite

/-- An attempt has no effect: the connection cannot be opened, or a write request is not sent, or a
read does not succeed. -/
def Refused (client : ModbusTcpClient) (request : Modbus.Call) (attempt : Attempt) : Prop :=
  ∀ opened, openClient client attempt.opening = .ok opened →
    if isWrite request then sends opened request attempt.exchange = false
    else ∀ response, (opened.call request attempt.exchange).2 ≠ .ok response

/-- The client behind an attempt that has failed. -/
def clientBehind (client : ModbusTcpClient) (request : Modbus.Call) (attempt : Attempt) :
    ModbusTcpClient :=
  match openClient client attempt.opening with
  | .error _ => client.close
  | .ok opened => (opened.call request attempt.exchange).1.close

/-- None of the attempts has an effect. -/
def AllRefused (request : Modbus.Call) : ModbusTcpClient → List Attempt → Prop
  | _, [] => True
  | client, attempt :: rest =>
    Refused client request attempt ∧ AllRefused request (clientBehind client request attempt) rest

/-- Outside a period every command is refused by the connection. -/
def Unreached (observed : Observed ModbusRegisterDevice) : Call → Prop
  | .execute operation payload attempts => observed.started = false →
      ∀ parameters, parseNumbers payload 2 = .ok parameters →
        ∀ known : Operation, operation = known.name →
          AllRefused
            (known.call observed.device.unitId (parameters.getD 0 0) (parameters.getD 1 0))
            observed.device.client
            ((List.range (observed.device.attempts known)).map attempts)
  | _ => True

section Attempts

variable {device : ModbusRegisterDevice} {operation : Operation} {first second : UInt16}
  {client : ModbusTcpClient} {request : Modbus.Call} {exchange : Exchange}

theorem isWrite_call (unitId : UInt8) :
    isWrite (operation.call unitId first second) = !operation.replaySafe := by
  cases operation <;> rfl

theorem call_of_unsent (unsent : sends client request exchange = false)
    (response : Response × List UInt16) : (client.call request exchange).2 ≠ .ok response := by
  -- A request is not sent if it cannot be built, on a closed client, or if the sending fails.
  unfold ModbusTcpClient.call
  cases built : request.request client.nextTransaction with
  | error error => simp
  | ok bytes =>
    simp only [sends, built, Except.isOk, Except.toBool, Bool.and_true] at unsent
    dsimp only
    unfold ModbusTcpClient.transact
    cases opened : client.isOpen with
    | false => simp
    | true =>
      have lost : exchange.sent = false := by simpa [opened] using unsent
      simp [lost]

/-- Whether a step of a device had an effect that is allowed in a period only. -/
def Effect (device after : ModbusRegisterDevice) : Prop :=
  writesSent after ≠ writesSent device ∨ after.state = .ready

/-- An attempt leaves the state alone; it may be on a client that it has opened. -/
structure Attempted (device : ModbusRegisterDevice) (request : Modbus.Call) (attempt : Attempt)
    (outcome : Except String String × ModbusRegisterDevice) : Prop where
  state : outcome.2.state = device.state
  unitId : outcome.2.unitId = device.unitId
  client : outcome.2.client.close = clientBehind device.client request attempt
  sent : outcome.2.sent = device.sent ++
    match openClient device.client attempt.opening with
    | .error _ => []
    | .ok opened => if sends opened request attempt.exchange then [request] else []
  ok_iff : (∃ result, outcome.1 = .ok result) ↔ ∃ opened response,
    openClient device.client attempt.opening = .ok opened ∧
      (opened.call request attempt.exchange).2 = .ok response

theorem attempted (device : ModbusRegisterDevice) (operation : Operation) (first second : UInt16)
    (attempt : Attempt) :
    Attempted device (operation.call device.unitId first second) attempt
      (device.attempt operation first second attempt) := by
  -- Counting the reconnection changes nothing that matters here.
  have counted : ∃ record, (if device.client.isOpen = true then device
      else { device with record := device.record.reconnecting }) = { device with record } := by
    split
    · exact ⟨device.record, rfl⟩
    · exact ⟨_, rfl⟩
  obtain ⟨record, counted⟩ := counted
  unfold ModbusRegisterDevice.attempt
  simp only [counted]
  cases opening : openClient device.client attempt.opening with
  | error message => constructor <;> simp [clientBehind, opening]
  | ok opened =>
    dsimp only
    cases called : opened.call (operation.call device.unitId first second) attempt.exchange with
    | mk client answer =>
      cases answer with
      | error error =>
        constructor
        · rfl
        · rfl
        · simp [clientBehind, opening, called]
        · dsimp only
          split <;> simp [*]
        · simp [opening, called]
      | ok response =>
        obtain ⟨response, values⟩ := response
        constructor
        · rfl
        · rfl
        · simp [clientBehind, opening, called]
        · dsimp only
          split <;> simp [*]
        · simp [opening, called]

theorem refused_read_iff (read : isWrite request = false) (attempt : Attempt) :
    Refused client request attempt ↔ ¬∃ opened response,
      openClient client attempt.opening = .ok opened ∧
        (opened.call request attempt.exchange).2 = .ok response := by
  simp only [Refused, read, if_false, Bool.false_eq_true]
  constructor
  · rintro refused ⟨opened, response, opening, answered⟩
    exact refused opened opening response answered
  · intro none opened opening response answered
    exact none ⟨opened, response, opening, answered⟩

theorem refused_write (write : isWrite request = true) {attempt : Attempt}
    (refused : Refused client request attempt) :
    ¬∃ opened response, openClient client attempt.opening = .ok opened ∧
      (opened.call request attempt.exchange).2 = .ok response := by
  rintro ⟨opened, response, opening, answered⟩
  have unsent := refused opened opening
  rw [if_pos write] at unsent
  exact call_of_unsent unsent response answered

theorem Attempted.writes_of_read {attempt : Attempt}
    {outcome : Except String String × ModbusRegisterDevice}
    (attempted : Attempted device request attempt outcome) (read : isWrite request = false) :
    writesSent outcome.2 = writesSent device := by
  rw [writesSent, attempted.sent]
  split
  · simp [writesSent]
  · split <;> simp [writesSent, read]

/-- The loop of a read sends no writes, and ends ready exactly if an attempt succeeds. -/
theorem performFrom_read (safe : operation.replaySafe = true) (unready : device.state ≠ .ready)
    (attempts : List Attempt) :
    writesSent (performFrom operation first second device attempts).2 = writesSent device ∧
      ((performFrom operation first second device attempts).2.state = .ready ↔
        ¬AllRefused (operation.call device.unitId first second) device.client attempts) := by
  -- The attempts before the one that succeeds have left the device at fault.
  induction attempts generalizing device with
  | nil => simp [performFrom, unready, AllRefused]
  | cons attempt rest ih =>
    have read : isWrite (operation.call device.unitId first second) = false := by
      simp [isWrite_call, safe]
    have attempted := attempted device operation first second attempt
    have same := attempted.writes_of_read read
    have refused := @refused_read_iff device.client _ read attempt
    rw [← attempted.ok_iff] at refused
    unfold performFrom
    cases outcome : device.attempt operation first second attempt with
    | mk answer after =>
      rw [outcome] at attempted same refused
      cases answer with
      | ok result =>
        have accepted : ¬Refused device.client (operation.call device.unitId first second) attempt :=
          fun calm => refused.mp calm ⟨result, rfl⟩
        refine ⟨by simpa [writesSent, markSuccess] using same, ?_⟩
        simp [markSuccess, AllRefused, accepted]
      | error message =>
        have calm := refused.mpr (by simp)
        dsimp only
        split
        · rename_i empty
          obtain rfl : rest = [] := by simpa using empty
          refine ⟨by simpa [writesSent, fail, markFailure] using same, ?_⟩
          simp [fail, markFailure, AllRefused, calm]
        · obtain ⟨sent, ready⟩ := @ih (after.fail attempt.now message) (by simp [fail, markFailure])
          have unitId : (after.fail attempt.now message).unitId = device.unitId := attempted.unitId
          have client : (after.fail attempt.now message).client =
              clientBehind device.client (operation.call device.unitId first second) attempt :=
            attempted.client
          refine ⟨sent.trans (by simpa [writesSent, fail, markFailure] using same), ?_⟩
          rw [ready, unitId, client, AllRefused]
          simp [calm]

theorem performFrom_write (single : operation.replaySafe = false) (attempt : Attempt) :
    Effect device (performFrom operation first second device [attempt]).2 ↔
      ¬Refused device.client (operation.call device.unitId first second) attempt := by
  have write : isWrite (operation.call device.unitId first second) = true := by
    simp [isWrite_call, single]
  have attempted := attempted device operation first second attempt
  have refused := @refused_write device.client _ write attempt
  rw [← attempted.ok_iff] at refused
  have sent : (∃ opened, openClient device.client attempt.opening = .ok opened ∧
      sends opened (operation.call device.unitId first second) attempt.exchange = true) ↔
      ¬Refused device.client (operation.call device.unitId first second) attempt := by
    simp [Refused, write]
  unfold performFrom
  cases outcome : device.attempt operation first second attempt with
  | mk answer after =>
    rw [outcome] at attempted refused
    have grown := attempted.sent
    -- The request is on the record exactly if the attempt was not refused.
    have kept : writesSent after ≠ writesSent device ↔
        ¬Refused device.client (operation.call device.unitId first second) attempt := by
      rw [← sent, writesSent, grown]
      cases opening : openClient device.client attempt.opening with
      | error message => simp [writesSent]
      | ok opened =>
        cases sending : sends opened (operation.call device.unitId first second)
            attempt.exchange with
        | true => simp [writesSent, write, sending]
        | false => simp [writesSent, sending]
    cases answer with
    | ok result =>
      have accepted : ¬Refused device.client (operation.call device.unitId first second) attempt :=
        fun calm => refused calm ⟨result, rfl⟩
      exact iff_of_true (.inr rfl) accepted
    | error message =>
      have state : (after.fail attempt.now message).state ≠ .ready := by simp [fail, markFailure]
      have same : writesSent (after.fail attempt.now message) = writesSent after := rfl
      simp only [List.isEmpty_nil, if_true, Effect, state, or_false, same]
      exact kept

theorem effect_perform_iff (unready : device.state ≠ .ready) (attempts : Nat → Attempt) :
    Effect device (device.perform operation first second attempts).2 ↔
      ¬AllRefused (operation.call device.unitId first second) device.client
        ((List.range (device.attempts operation)).map attempts) := by
  -- A read writes nothing but may make the device ready; a write is attempted once.
  cases safe : operation.replaySafe with
  | true =>
    obtain ⟨same, ready⟩ := @performFrom_read device operation first second safe unready
      ((List.range (device.attempts operation)).map attempts)
    simp only [perform, Effect, same, ne_eq, not_true, false_or]
    exact ready
  | false =>
    have once : (List.range (device.attempts operation)).map attempts = [attempts 0] := by
      simp [ModbusRegisterDevice.attempts, safe]
    rw [perform, once, performFrom_write safe, AllRefused, AllRefused, and_true]

end Attempts

section Periods

variable {observed : Observed ModbusRegisterDevice}

theorem name_injective {known other : Operation} (same : known.name = other.name) :
    known = other := by
  revert same
  cases known <;> cases other <;> decide

/-- A command outside of a period is without effect exactly if it is refused. -/
theorem effect_execute_iff (stopped : observed.started = false)
    (unready : observed.device.state ≠ .ready) (operation payload : String)
    (attempts : Nat → Attempt) :
    ¬Effect observed.device (observed.device.execute operation payload attempts).2 ↔
      Unreached observed (.execute operation payload attempts) := by
  unfold ModbusRegisterDevice.execute
  cases parsed : parseNumbers payload 2 with
  | error message => simp [Effect, unready, Unreached, parsed]
  | ok parameters =>
    -- The names of the operations are different, so that one of them is meant at most.
    have only (known : Operation) (named : operation = known.name) :
        Unreached observed (.execute operation payload attempts) ↔
          AllRefused (known.call observed.device.unitId (parameters.getD 0 0) (parameters.getD 1 0))
            observed.device.client
            ((List.range (observed.device.attempts known)).map attempts) := by
      simp only [Unreached, stopped, forall_const, parsed, Except.ok.injEq, forall_eq']
      constructor
      · intro refused
        exact refused known named
      · intro refused other same
        obtain rfl := name_injective (named.symm.trans same)
        exact refused
    have performed (known : Operation) (named : operation = known.name) :
        ¬Effect observed.device (observed.device.perform known (parameters.getD 0 0)
          (parameters.getD 1 0) attempts).2 ↔
            Unreached observed (.execute operation payload attempts) := by
      rw [effect_perform_iff unready, not_not, only known named]
    dsimp only
    split
    · rename_i named
      exact performed .readHolding named
    · split
      · rename_i named
        exact performed .readInput named
      · split
        · rename_i named
          exact performed .writeRegister named
        · rename_i holding input register
          have unknown : Unreached observed (.execute operation payload attempts) := by
            intro _ parameters _ known named
            cases known with
            | readHolding => exact absurd named holding
            | readInput => exact absurd named input
            | writeRegister => exact absurd named register
          exact iff_of_true (by simp [Effect, unready]) unknown

/-- A step is allowed exactly if it reaches nothing outside a period. -/
theorem guarded_iff (shown : observed.device.state = .ready → observed.started = true)
    (call : Call) :
    Guarded writesSent (·.state) observed (observe observed call) ↔ Unreached observed call := by
  cases started : observed.started with
  | true =>
    -- In a period nothing is asked, and `stop` leaves the device offline.
    have reached : Unreached observed call := by
      cases call <;> simp [Unreached, started]
    refine iff_of_true ?_ reached
    cases call with
    | stop => exact ⟨fun _ => started, by simp [observe, ModbusRegisterDevice.call, stop]⟩
    | _ => exact .of_started started (by simp [observe, started])
  | false =>
    have unready : observed.device.state ≠ .ready := by
      intro ready
      simp [shown ready] at started
    cases call with
    | start opening =>
      refine iff_of_true ?_ trivial
      simp only [observe, ModbusRegisterDevice.call, starts, ModbusRegisterDevice.start]
      cases openClient observed.device.client opening with
      | error message => exact .of_calm rfl unready
      | ok client =>
        exact ⟨fun changed => absurd rfl changed, by simp [Except.isOk, Except.toBool]⟩
    | stop =>
      refine iff_of_true ?_ trivial
      exact .of_calm rfl (by simp [observe, ModbusRegisterDevice.call, stop])
    | snapshot => exact iff_of_true (.of_calm rfl unready) trivial
    | execute operation payload attempts =>
      have last : (observe observed (.execute operation payload attempts)).started = false := by
        simp [observe, started, starts]
      refine (guarded_iff_of_stopped started last).trans ?_
      exact effect_execute_iff started unready operation payload attempts

/-- Registers are written only in periods exactly if the connection refuses every command outside
of one. -/
theorem guarded_along_iff (device : ModbusRegisterDevice) (unready : device.state ≠ .ready)
    (calls : List Call) :
    Along observe (fun observed call => Guarded writesSent (·.state) observed
        (observe observed call)) ⟨device, false⟩ calls ↔
      Along observe Unreached ⟨device, false⟩ calls := by
  -- That a ready device is started is the invariant: the allowed steps keep it.
  refine @Along.congr _ _ observe _ _
    (fun observed => observed.device.state = .ready → observed.started = true) ?_ ?_ _ ?_ calls
  · intro observed call shown reached
    exact ((guarded_iff shown call).mpr reached).ready
  · intro observed call shown
    exact guarded_iff shown call
  · intro ready
    exact absurd ready unready

end Periods

end ModbusRegister

/-- The actuators are driven only in periods: the LED always, the line exactly if no call reaches its
value file outside of one, and the registers exactly if the connection refuses every command outside
of one. -/
theorem driven_only_while_started_iff (pin : Nat) (direction : Gpio.Direction) (root : String)
    (manageExport : Bool) (lineEvents : List (Int × Gpio.Call)) (text : Led.DoubleText)
    (directory : String) (ledEvents : List (Int × Led.Call)) (unitId : UInt8) (clientName : String)
    (readRetryAttempts : UInt32) (client : Modbus.ModbusTcpClient)
    (registerCalls : List ModbusRegister.Call) :
    (Along Gpio.observe (fun observed event =>
          Guarded (·.driven) (·.state) observed (Gpio.observe observed event))
        ⟨{ pin, direction, root, manageExport }, false⟩ lineEvents ↔
      Along Gpio.observe Gpio.Unreached ⟨{ pin, direction, root, manageExport }, false⟩ lineEvents) ∧
    Along (Led.observe text) (fun observed event =>
          Guarded (·.driven) (·.state) observed (Led.observe text observed event))
        ⟨{ directory }, false⟩ ledEvents ∧
    (Along ModbusRegister.observe (fun observed call =>
          Guarded ModbusRegister.writesSent (·.state) observed (ModbusRegister.observe observed call))
        ⟨{ unitId, clientName, readRetryAttempts, client }, false⟩ registerCalls ↔
      Along ModbusRegister.observe ModbusRegister.Unreached
        ⟨{ unitId, clientName, readRetryAttempts, client }, false⟩ registerCalls) := by
  -- Each device starts outside a period, where the guards of its steps are exact.
  have line := Gpio.guarded_along_iff { pin, direction, root, manageExport } (by simp) lineEvents
  have led := Led.guarded_along text directory ledEvents
  have registers := ModbusRegister.guarded_along_iff
    { unitId, clientName, readRetryAttempts, client } (by simp) registerCalls
  exact ⟨line, led, registers⟩

/-- A line that is read and then written, without a `start`. -/
def unstarted : List (Int × Gpio.Call) :=
  [(0, .read ⟨some 0, .written⟩), (1, .write 1 ⟨some 0, .written⟩)]

/-- A command that opens the connection by itself. -/
def commanded : List ModbusRegister.Call :=
  [.execute "writeRegister" "1,1" fun _ => ⟨0, .ok (), ⟨true, [], false⟩⟩]

/-- The guard of the line reports a fault, which lets the next call pass; the registers have no
guard. -/
theorem driven_without_start :
    (unstarted.foldl Gpio.observe ⟨{ pin := 17, direction := .output }, false⟩).device.driven = ["1"] ∧
    ModbusRegister.writesSent
      (commanded.foldl ModbusRegister.observe ⟨{ unitId := 1 }, false⟩).device =
        [.writeSingleRegister 1 1 1] ∧
    (¬ ∀ (pin : Nat) (direction : Gpio.Direction) (root : String) (manageExport : Bool)
      (events : List (Int × Gpio.Call)),
      Along Gpio.observe (fun observed event =>
          Guarded (·.driven) (·.state) observed (Gpio.observe observed event))
        ⟨{ pin, direction, root, manageExport }, false⟩ events) ∧
    ¬ ∀ (unitId : UInt8) (calls : List ModbusRegister.Call),
      Along ModbusRegister.observe (fun observed call =>
          Guarded ModbusRegister.writesSent (·.state) observed (ModbusRegister.observe observed call))
        ⟨{ unitId }, false⟩ calls := by
  have driven : (unstarted.foldl Gpio.observe
      ⟨{ pin := 17, direction := .output }, false⟩).device.driven = ["1"] := by decide +kernel
  have written : ModbusRegister.writesSent
      (commanded.foldl ModbusRegister.observe ⟨{ unitId := 1 }, false⟩).device =
        [.writeSingleRegister 1 1 1] := by decide +kernel
  refine ⟨driven, written, fun always => ?_, fun always => ?_⟩
  · obtain ⟨-, guarded, -⟩ := always 17 .output "/sys/class/gpio" true unstarted
    have started := guarded.driven (by decide +kernel)
    exact absurd started (by decide +kernel)
  · obtain ⟨guarded, -⟩ := always 1 commanded
    have started := guarded.driven (by decide +kernel)
    exact absurd started (by decide +kernel)

end PocoDDS.Devices
