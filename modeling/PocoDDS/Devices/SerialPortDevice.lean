import PocoDDS.Lib.Run
import PocoDDS.Reliability.Diagnostics

/-! The serial device: its thread, its writers, and the channel that all of them open and close. -/

namespace PocoDDS.Devices.Serial

open RunLogic Reliability

/-- What a call on the channel, or the start of the thread, answers; a call that fails may have
closed the channel itself. -/
inductive ChannelAnswer
  | done (count : Nat)
  | failed (message : String) (closes : Bool)
  deriving DecidableEq, Repr

/-- Where `start` and `stop` are. -/
inductive Control
  | stopped
  | opening
  | opened
  | ready
  | refused
  | cleared
  | reclosed
  | started
  | joining
  | joined
  | closed
  deriving DecidableEq, Repr

/-- Where `run` is, by what it does next. -/
inductive Runner
  | ended
  | head
  | testing
  | reconnecting
  | reopened
  | openFailed (message : String)
  | reading
  | received (count : Nat)
  | readFailed (message : String)
  | readClosed (message : String)
  deriving DecidableEq, Repr

/-- Where a call of `write` is, behind the test that the device is ready. -/
inductive Writer
  | writing (size : Nat)
  | recording (written : Nat)
  | failing (message : String)
  | marking (message : String)
  deriving DecidableEq, Repr

/-- A call of `write` behind the channel's answer: a partial write fails. -/
def Writer.written (written size : Nat) : Writer :=
  if written = size then .recording written
  else .failing ("partial serial write: " ++ toString written ++ "/" ++ toString size)

structure SerialPortDevice where
  channelName : String := ""
  reconnectEnabled : Bool
  running : Bool := false
  channelOpen : Bool := false
  state : DeviceState := .offline
  record : DeviceRecord := {}
  control : Control := .stopped
  runner : Runner := .ended
  writers : List Writer := []
  deriving DecidableEq, Repr

/-- A step of one of the threads: a call on the channel, or a section under the mutex. -/
inductive Event
  | start
  | stop
  | control (now : Int) (answer : ChannelAnswer)
  | run (now : Int) (answer : ChannelAnswer)
  | writeBegin (size : Nat)
  | write (index : Nat) (now : Int) (answer : ChannelAnswer)
  deriving DecidableEq, Repr

namespace SerialPortDevice

def markReady (device : SerialPortDevice) : SerialPortDevice :=
  let diagnostics := { device.record.diagnostics with consecutiveFailures := 0 }
  { device with
    state := .ready
    record := { device.record.shown device.channelName with diagnostics }.resolveFailure }

def markFailure (device : SerialPortDevice) (now : Int) (message : String) : SerialPortDevice :=
  { device with
    state := .fault
    record := device.record.failed now "PDR-DEVICE-SERIAL-OPERATION_FAILED" .transient true message }

/-- What is recorded of bytes that were read or written. -/
def recordBytes (device : SerialPortDevice) (now : Int) (payload : String) : SerialPortDevice :=
  { device with record := { device.record.succeeded now with lastPayload := payload } }

def controlStep (device : SerialPortDevice) (answer : ChannelAnswer) : SerialPortDevice :=
  match device.control with
  | .stopped => device
  | .opening =>
    match answer with
    | .done _ => { device with channelOpen := true, control := .opened }
    | .failed _ _ => { device with control := .refused }
  | .opened => { device.markReady with control := .ready }
  | .ready =>
    match answer with
    | .done _ => { device with control := .started, runner := .head }
    | .failed _ _ => { device with control := .refused }
  | .refused => { device with running := false, control := .cleared }
  | .cleared => { device with channelOpen := false, control := .reclosed }
  | .reclosed => { device with state := .offline, control := .stopped }
  | .started => device
  -- The thread is joined once its loop has ended.
  | .joining => if device.runner = .ended then { device with control := .joined } else device
  | .joined => { device with channelOpen := false, control := .closed }
  | .closed =>
    { device with state := .offline, record := device.record.advanced, control := .stopped }

/-- The next step of `run`. -/
def runStep (device : SerialPortDevice) (now : Int) (answer : ChannelAnswer) : SerialPortDevice :=
  match device.runner with
  | .ended => device
  | .head => { device with runner := if device.running then .testing else .ended }
  | .testing =>
    if device.channelOpen then { device with runner := .reading }
    else if !device.reconnectEnabled then { device with runner := .ended }
    else { device with record := device.record.reconnecting, runner := .reconnecting }
  | .reconnecting =>
    match answer with
    | .done _ => { device with channelOpen := true, runner := .reopened }
    | .failed message _ => { device with runner := .openFailed message }
  | .reopened => { device.markReady with runner := .head }
  | .openFailed message => { device.markFailure now message with runner := .head }
  | .reading =>
    match answer with
    | .done count => { device with runner := if count = 0 then .head else .received count }
    | .failed message closes => { device with
        channelOpen := device.channelOpen && !closes, runner := .readFailed message }
  | .received count =>
    { device.recordBytes now (toString count ++ " bytes read") with
      state := .ready
      runner := .head }
  | .readFailed message => { device with channelOpen := false, runner := .readClosed message }
  | .readClosed message => { device.markFailure now message with runner := .head }

/-- The test at the start of `write`. -/
def writeBegin (device : SerialPortDevice) (size : Nat) : SerialPortDevice :=
  if device.running ∧ device.state = .ready then
    { device with writers := device.writers ++ [.writing size] }
  else device

/-- The next step of a call of `write`. -/
def writeStep (device : SerialPortDevice) (index : Nat) (now : Int) (answer : ChannelAnswer) :
    SerialPortDevice :=
  match device.writers[index]? with
  | none => device
  | some (.writing size) =>
    match answer with
    | .done written => { device with
        writers := device.writers.set index (Writer.written written size) }
    | .failed message closes => { device with
        channelOpen := device.channelOpen && !closes
        writers := device.writers.set index (.failing message) }
  | some (.recording written) =>
    { device.recordBytes now (toString written ++ " bytes written") with
      writers := device.writers.eraseIdx index }
  | some (.failing message) =>
    { device with channelOpen := false, writers := device.writers.set index (.marking message) }
  | some (.marking message) =>
    { device.markFailure now message with writers := device.writers.eraseIdx index }

def step (device : SerialPortDevice) : Event → SerialPortDevice
  | .start =>
    if device.control = .stopped then { device with running := true, control := .opening }
    else device
  | .stop =>
    if device.control = .started then { device with running := false, control := .joining }
    else device
  | .control _ answer => device.controlStep answer
  | .run now answer => device.runStep now answer
  | .writeBegin size => device.writeBegin size
  | .write index now answer => device.writeStep index now answer

end SerialPortDevice

section Specification

variable (device : SerialPortDevice)

/-- `start` has returned, and `stop` has not ended the thread. -/
def Between : Prop := device.control = .started ∨ device.control = .joining

/-- No `write` is in progress, and `run` is about to test the channel or has ended. -/
structure Settled : Prop where
  between : Between device
  idle : device.writers = []
  runner : device.runner = .testing ∨ device.runner = .ended

/-- The state follows the channel, and a fault is followed by a reconnection or by the end of the
thread. -/
structure Follows : Prop where
  ready_iff : Settled device → (device.state = .ready ↔ device.channelOpen = true)
  recovers : Settled device → device.state = .fault → device.channelOpen = false ∧
    (device.runner = .testing → ∀ now answer, (device.runStep now answer).runner =
      if device.reconnectEnabled then .reconnecting else .ended)
  stopped : device.control = .stopped → device.writers = [] → device.state = .offline

/-- A failed `write` has yet to record its failure. -/
def WriteFailing : Prop :=
  ∃ message, .failing message ∈ device.writers ∨ .marking message ∈ device.writers

/-- `run` has yet to record that the device is ready. -/
def RunReady : Prop := device.runner = .reopened ∨ ∃ count, device.runner = .received count

/-- A thread records that the device is ready while the channel is open, or while a failed `write`
that closes it has yet to record that; a failure of `write` is recorded while the channel is closed,
or while `run` has yet to record that it is open again, and never behind `stop`. -/
def Timely : Event → Prop
  | .control _ _ => device.control = .opened → device.channelOpen = true ∨ WriteFailing device
  | .run _ _ => RunReady device → device.channelOpen = true ∨ WriteFailing device
  | .write index _ _ => ∀ message, device.writers[index]? = some (.marking message) →
      device.control ≠ .stopped ∧
      (device.control = .ready ∨ Between device → device.channelOpen = false ∨ RunReady device)
  | _ => True

end Specification

section Writers

variable {writers : List Writer} {index : Nat} {writer other : Writer}

/-- A writer that is not the one that steps stays as it is. -/
theorem mem_set_of_ne (at_index : writers[index]? = some writer) (listed : other ∈ writers)
    (distinct : other ≠ writer) (next : Writer) : other ∈ writers.set index next := by
  obtain ⟨place, found⟩ := List.mem_iff_getElem?.mp listed
  have elsewhere : index ≠ place := by
    intro same
    rw [same, found] at at_index
    exact distinct (Option.some.inj at_index)
  apply List.mem_iff_getElem?.mpr
  exact ⟨place, by rw [List.getElem?_set_ne elsewhere, found]⟩

/-- A writer that is not the one that ends stays. -/
theorem mem_eraseIdx_of_ne (at_index : writers[index]? = some writer) (listed : other ∈ writers)
    (distinct : other ≠ writer) : other ∈ writers.eraseIdx index := by
  obtain ⟨place, found⟩ := List.mem_iff_getElem?.mp listed
  apply List.mem_eraseIdx_iff_getElem?.mpr
  refine ⟨place, ?_, found⟩
  intro same
  rw [← same, found] at at_index
  exact distinct (Option.some.inj at_index)

/-- The writer that steps is found in its new state. -/
theorem mem_set_of_get (at_index : writers[index]? = some writer) (next : Writer) :
    next ∈ writers.set index next :=
  List.mem_set (List.getElem?_eq_some_iff.mp at_index).1 next

end Writers

section Invariant

variable {device : SerialPortDevice} {now : Int} {answer : ChannelAnswer}

/-- The state that `start` set is still to be kept. -/
def Shown (device : SerialPortDevice) : Prop := device.control = .ready ∨ Between device

/-- `run` has yet to record that its read failed. -/
def ReadFailing (device : SerialPortDevice) : Prop :=
  ∃ message, device.runner = .readFailed message ∨ device.runner = .readClosed message

/-- Where the state and the channel differ, a thread has yet to record why. -/
structure Coherent (device : SerialPortDevice) : Prop where
  resting : Between device ∨ device.runner = .ended
  faulty : Shown device → device.channelOpen = true → device.state ≠ .ready → RunReady device
  ready : Shown device → device.channelOpen = false → device.state = .ready →
    WriteFailing device ∨ ReadFailing device
  reopening : device.runner = .reconnecting → device.channelOpen = false
  refused : ∀ message, device.runner = .openFailed message ∨ device.runner = .readClosed message →
    device.channelOpen = false
  stopped : device.control = .stopped → device.state = .offline

theorem Coherent.follows (coherent : Coherent device) : Follows device := by
  have ready_iff (settled : Settled device) :
      device.state = .ready ↔ device.channelOpen = true := by
    have shown : Shown device := .inr settled.between
    constructor
    · intro ready
      by_contra shut
      -- Without a writer the failure could only be one that `run` has yet to record.
      obtain ⟨message, failing⟩ | ⟨message, failing⟩ :=
        coherent.ready shown (by simpa using shut) ready
      · simp [settled.idle] at failing
      · obtain testing | ended := settled.runner
        · simp [testing] at failing
        · simp [ended] at failing
    · intro opened
      by_contra fault
      obtain reopened | ⟨count, received⟩ := coherent.faulty shown opened fault
      · obtain testing | ended := settled.runner
        · simp [testing] at reopened
        · simp [ended] at reopened
      · obtain testing | ended := settled.runner
        · simp [testing] at received
        · simp [ended] at received
  refine ⟨ready_iff, ?_, fun stopped _ => coherent.stopped stopped⟩
  intro settled fault
  have shut : device.channelOpen = false := by
    cases opened : device.channelOpen with
    | false => rfl
    | true => simp [(ready_iff settled).mpr opened] at fault
  refine ⟨shut, ?_⟩
  intro testing now answer
  by_cases enabled : device.reconnectEnabled
  · simp [SerialPortDevice.runStep, testing, shut, enabled]
  · simp [SerialPortDevice.runStep, testing, shut, enabled]

/-- Before `start` has set the state, and behind the end of the thread in `stop`, only the state that
`stop` leaves matters. -/
theorem Coherent.of_hidden (hidden : ¬Shown device) (ended : device.runner = .ended)
    (stopped : device.control = .stopped → device.state = .offline) : Coherent device where
  resting := .inr ended
  faulty := fun shown => absurd shown hidden
  ready := fun shown => absurd shown hidden
  reopening := by simp [ended]
  refused := by simp [ended]
  stopped := stopped

theorem Coherent.ended (coherent : Coherent device) (outside : ¬Between device) :
    device.runner = .ended :=
  coherent.resting.resolve_left outside

/-- The thread that starts and stops the device keeps it coherent. -/
theorem Coherent.controlStep (coherent : Coherent device)
    (timely : device.control = .opened → device.channelOpen = true ∨ WriteFailing device) :
    Coherent (device.controlStep answer) := by
  cases control : device.control with
  | stopped => simpa [SerialPortDevice.controlStep, control] using coherent
  | started => simpa [SerialPortDevice.controlStep, control] using coherent
  | opened =>
    -- The state is set before the thread runs; the channel may have been closed under it.
    have ended := coherent.ended (by simp [Between, control])
    simp only [SerialPortDevice.controlStep, control, SerialPortDevice.markReady]
    constructor
    · exact .inr ended
    · intro _ _ fault
      exact absurd rfl fault
    · intro _ shut _
      have shut : device.channelOpen = false := shut
      have failing := (timely control).resolve_left (by simp [shut])
      exact .inl failing
    · simp [ended]
    · simp [ended]
    · simp
  | ready =>
    have ended := coherent.ended (by simp [Between, control])
    have shown : Shown device := .inl control
    simp only [SerialPortDevice.controlStep, control]
    cases answer with
    | failed message closes => exact .of_hidden (by simp [Shown, Between]) ended (by simp)
    | done count =>
      constructor
      · exact .inl (.inl rfl)
      · intro _ opened fault
        have soon := coherent.faulty shown opened fault
        simp [RunReady, ended] at soon
      · intro _ shut ready
        obtain failing | failing := coherent.ready shown shut ready
        · exact .inl failing
        · simp [ReadFailing, ended] at failing
      · simp
      · simp
      · simp
  | joining =>
    simp only [SerialPortDevice.controlStep, control]
    split
    · rename_i ended
      exact .of_hidden (by simp [Shown, Between]) ended (by simp)
    · exact coherent
  | opening =>
    have ended := coherent.ended (by simp [Between, control])
    simp only [SerialPortDevice.controlStep, control]
    cases answer <;> exact .of_hidden (by simp [Shown, Between]) ended (by simp)
  | refused | cleared | reclosed | joined | closed =>
    have ended := coherent.ended (by simp [Between, control])
    simp only [SerialPortDevice.controlStep, control]
    exact .of_hidden (by simp [Shown, Between]) ended (by simp)

/-- While the thread runs, it and the channel decide. -/
theorem Coherent.of_between (between : Between device)
    (faulty : device.channelOpen = true → device.state ≠ .ready → RunReady device)
    (ready : device.channelOpen = false → device.state = .ready →
      WriteFailing device ∨ ReadFailing device)
    (shut : device.runner = .reconnecting ∨
      (∃ message, device.runner = .openFailed message ∨ device.runner = .readClosed message) →
        device.channelOpen = false) : Coherent device where
  resting := .inl between
  faulty := fun _ => faulty
  ready := fun _ => ready
  reopening := fun reopening => shut (.inl reopening)
  refused := fun message refused => shut (.inr ⟨message, refused⟩)
  stopped := by
    intro stopped
    obtain started | joining := between
    · simp [stopped] at started
    · simp [stopped] at joining

theorem Coherent.of_marked (between : Between device) (ready : device.state = .ready)
    (head : device.runner = .head) (timely : device.channelOpen = true ∨ WriteFailing device) :
    Coherent device := by
  apply Coherent.of_between between
  · intro _ fault
    exact absurd ready fault
  · intro shut _
    exact .inl (timely.resolve_left (by simp [shut]))
  · simp [head]

/-- Recording a failure of `run`, which follows the channel being closed. -/
theorem Coherent.of_failed (between : Between device) (fault : device.state = .fault)
    (head : device.runner = .head) (shut : device.channelOpen = false) : Coherent device := by
  apply Coherent.of_between between
  · simp [shut]
  · simp [fault]
  · simp [head]

variable (coherent : Coherent device)
include coherent

/-- Where `run` has nothing to record, it may go on. -/
theorem Coherent.moved (between : Between device) (quiet : ¬RunReady device ∧ ¬ReadFailing device)
    {after : SerialPortDevice} (channel : after.channelOpen = device.channelOpen)
    (state : after.state = device.state) (writers : after.writers = device.writers)
    (control : after.control = device.control) (shut : after.runner = .reconnecting ∨
      (∃ message, after.runner = .openFailed message ∨ after.runner = .readClosed message) →
        device.channelOpen = false) : Coherent after := by
  have shown : Shown device := .inr between
  apply Coherent.of_between
  · simpa [Between, control] using between
  · intro opened fault
    rw [channel] at opened
    rw [state] at fault
    exact absurd (coherent.faulty shown opened fault) quiet.1
  · intro closed ready
    rw [channel] at closed
    rw [state] at ready
    have failing := (coherent.ready shown closed ready).resolve_right quiet.2
    exact .inl (by simpa [WriteFailing, writers] using failing)
  · rw [channel]
    exact shut

/-- A reconnection opens the channel, of which `run` still has to say so, or leaves it closed. -/
theorem Coherent.reconnectStep (between : Between device) (runner : device.runner = .reconnecting) :
    Coherent (device.runStep now answer) := by
  have shut := coherent.reopening runner
  cases answer with
  | done count =>
    simp only [SerialPortDevice.runStep, runner]
    apply Coherent.of_between
    · exact between
    · intro _ _
      exact .inl rfl
    · simp
    · simp
  | failed message closes =>
    have quiet : ¬RunReady device ∧ ¬ReadFailing device := by
      simp [RunReady, ReadFailing, runner]
    simp only [SerialPortDevice.runStep, runner]
    exact coherent.moved between quiet rfl rfl rfl rfl fun _ => shut

/-- A read that fails may close the channel, and then has to say so. -/
theorem Coherent.readStep (between : Between device) (runner : device.runner = .reading) :
    Coherent (device.runStep now answer) := by
  have quiet : ¬RunReady device ∧ ¬ReadFailing device := by
    simp [RunReady, ReadFailing, runner]
  cases answer with
  | done count =>
    simp only [SerialPortDevice.runStep, runner]
    refine coherent.moved between quiet rfl rfl rfl rfl ?_
    by_cases empty : count = 0
    · simp [empty]
    · simp [empty]
  | failed message closes =>
    simp only [SerialPortDevice.runStep, runner]
    apply Coherent.of_between
    · exact between
    · intro opened fault
      have opened : device.channelOpen = true := by
        have both : (device.channelOpen && !closes) = true := opened
        simp only [Bool.and_eq_true] at both
        exact both.1
      exact absurd (coherent.faulty (.inr between) opened fault) quiet.1
    · intro _ _
      exact .inr ⟨message, .inl rfl⟩
    · simp

/-- `run` keeps the device coherent. -/
theorem Coherent.runStep
    (timely : RunReady device → device.channelOpen = true ∨ WriteFailing device) :
    Coherent (device.runStep now answer) := by
  obtain between | ended := coherent.resting
  · -- What `run` has to record, and whether it has, is read off its place.
    cases runner : device.runner with
    | ended => simpa [SerialPortDevice.runStep, runner] using coherent
    | head =>
      have quiet : ¬RunReady device ∧ ¬ReadFailing device := by
        simp [RunReady, ReadFailing, runner]
      simp only [SerialPortDevice.runStep, runner]
      split
      · exact coherent.moved between quiet rfl rfl rfl rfl (by simp)
      · exact coherent.moved between quiet rfl rfl rfl rfl (by simp)
    | testing =>
      have quiet : ¬RunReady device ∧ ¬ReadFailing device := by
        simp [RunReady, ReadFailing, runner]
      simp only [SerialPortDevice.runStep, runner]
      split
      · exact coherent.moved between quiet rfl rfl rfl rfl (by simp)
      · rename_i shut
        split
        · exact coherent.moved between quiet rfl rfl rfl rfl (by simp)
        · exact coherent.moved between quiet rfl rfl rfl rfl (by simpa using shut)
    | reconnecting => exact coherent.reconnectStep between runner
    | reopened =>
      simp only [SerialPortDevice.runStep, runner]
      exact .of_marked between rfl rfl (timely (.inl runner))
    | openFailed message =>
      have shut := coherent.refused message (.inl runner)
      simp only [SerialPortDevice.runStep, runner]
      exact .of_failed between rfl rfl shut
    | reading => exact coherent.readStep between runner
    | received count =>
      simp only [SerialPortDevice.runStep, runner]
      exact .of_marked between rfl rfl (timely (.inr ⟨count, runner⟩))
    | readFailed message =>
      simp only [SerialPortDevice.runStep, runner]
      apply Coherent.of_between
      · exact between
      · simp
      · intro _ _
        exact .inr ⟨message, .inr rfl⟩
      · simp
    | readClosed message =>
      have shut := coherent.refused message (.inr runner)
      simp only [SerialPortDevice.runStep, runner]
      exact .of_failed between rfl rfl shut
  · simpa [SerialPortDevice.runStep, ended] using coherent

/-- A call of `write` that begins, or that the channel answers, keeps the device coherent. -/
theorem Coherent.of_written {after : SerialPortDevice}
    (channel : after.channelOpen = true → device.channelOpen = true)
    (failing : WriteFailing device ∨ after.channelOpen ≠ device.channelOpen → WriteFailing after)
    (state : after.state = device.state) (control : after.control = device.control)
    (runner : after.runner = device.runner) : Coherent after := by
  have shown (same : Shown after) : Shown device := by simpa [Shown, Between, control] using same
  have shut (closed : device.channelOpen = false) : after.channelOpen = false := by
    cases opened : after.channelOpen with
    | false => rfl
    | true => simp [channel opened] at closed
  constructor
  · simpa [Between, control, runner] using coherent.resting
  · intro same opened fault
    rw [state] at fault
    have soon := coherent.faulty (shown same) (channel opened) fault
    simpa [RunReady, runner] using soon
  · intro same closed ready
    rw [state] at ready
    cases before : device.channelOpen with
    | true => exact .inl (failing (.inr (by simp [before, closed])))
    | false =>
      obtain writing | reading := coherent.ready (shown same) before ready
      · exact .inl (failing (.inl writing))
      · exact .inr (by simpa [ReadFailing, runner] using reading)
  · intro reopening
    rw [runner] at reopening
    exact shut (coherent.reopening reopening)
  · intro message refused
    rw [runner] at refused
    exact shut (coherent.refused message refused)
  · intro stopped
    rw [control] at stopped
    rw [state]
    exact coherent.stopped stopped

theorem Coherent.writeBegin (size : Nat) : Coherent (device.writeBegin size) := by
  unfold SerialPortDevice.writeBegin
  split
  · -- The calls that are in progress stay as they are.
    refine coherent.of_written (fun opened => opened) ?_ rfl rfl rfl
    rintro (⟨message, listed⟩ | changed)
    · exact ⟨message, by simpa using listed⟩
    · exact absurd rfl changed
  · exact coherent

/-- A step of a call of `write` keeps the device coherent. -/
theorem Coherent.writeStep (index : Nat)
    (timely : ∀ message, device.writers[index]? = some (.marking message) →
      device.control ≠ .stopped ∧
      (device.control = .ready ∨ Between device → device.channelOpen = false ∨ RunReady device)) :
    Coherent (device.writeStep index now answer) := by
  cases at_index : device.writers[index]? with
  | none => simpa [SerialPortDevice.writeStep, at_index] using coherent
  | some writer =>
    cases writer with
    | writing size =>
      cases answer with
      | done written =>
        simp only [SerialPortDevice.writeStep, at_index]
        refine coherent.of_written (fun opened => opened) ?_ rfl rfl rfl
        rintro (⟨message, failing | marking⟩ | changed)
        · exact ⟨message, .inl (mem_set_of_ne at_index failing (by simp) _)⟩
        · exact ⟨message, .inr (mem_set_of_ne at_index marking (by simp) _)⟩
        · exact absurd rfl changed
      | failed message closes =>
        simp only [SerialPortDevice.writeStep, at_index]
        refine coherent.of_written ?_ ?_ rfl rfl rfl
        · intro opened
          have both : (device.channelOpen && !closes) = true := opened
          simp only [Bool.and_eq_true] at both
          exact both.1
        · intro _
          exact ⟨message, .inl (mem_set_of_get at_index _)⟩
    | recording written =>
      simp only [SerialPortDevice.writeStep, at_index]
      refine coherent.of_written (fun opened => opened) ?_ rfl rfl rfl
      rintro (⟨message, failing | marking⟩ | changed)
      · exact ⟨message, .inl (mem_eraseIdx_of_ne at_index failing (by simp))⟩
      · exact ⟨message, .inr (mem_eraseIdx_of_ne at_index marking (by simp))⟩
      · exact absurd rfl changed
    | failing message =>
      simp only [SerialPortDevice.writeStep, at_index]
      refine coherent.of_written (by simp) ?_ rfl rfl rfl
      intro _
      exact ⟨message, .inr (mem_set_of_get at_index _)⟩
    | marking message =>
      -- The one step of a call of `write` that changes the state.
      obtain ⟨going, closed⟩ := timely message at_index
      simp only [SerialPortDevice.writeStep, at_index]
      constructor
      · exact coherent.resting
      · intro shown opened _
        obtain shut | soon := closed shown
        · have opened : device.channelOpen = true := opened
          simp [shut] at opened
        · exact soon
      · intro _ _ ready
        simp [SerialPortDevice.markFailure] at ready
      · exact coherent.reopening
      · exact coherent.refused
      · intro stopped
        exact absurd stopped going

theorem Coherent.step (event : Event) (timely : Timely device event) :
    Coherent (device.step event) := by
  cases event with
  | start =>
    simp only [SerialPortDevice.step]
    split
    · rename_i stopped
      have ended := coherent.ended (by simp [Between, stopped])
      exact .of_hidden (by simp [Shown, Between]) ended (by simp)
    · exact coherent
  | stop =>
    simp only [SerialPortDevice.step]
    split
    · rename_i started
      -- Everything that held while the thread ran holds while it is joined.
      have shown : Shown device := .inr (.inl started)
      apply Coherent.of_between
      · exact .inr rfl
      · exact coherent.faulty shown
      · exact coherent.ready shown
      · rintro (reopening | ⟨message, refused⟩)
        · exact coherent.reopening reopening
        · exact coherent.refused message refused
    · exact coherent
  | control now answer => exact coherent.controlStep timely
  | run now answer => exact coherent.runStep timely
  | writeBegin size => exact coherent.writeBegin size
  | write index now answer => exact coherent.writeStep index timely

end Invariant

/-- A device that has not been started. -/
def SerialPortDevice.create (channelName : String) (reconnectEnabled : Bool) : SerialPortDevice :=
  { channelName, reconnectEnabled }

theorem Coherent.create (channelName : String) (reconnectEnabled : Bool) :
    Coherent (.create channelName reconnectEnabled) :=
  .of_hidden (by simp [Shown, Between, SerialPortDevice.create]) rfl fun _ => rfl

/-- In a run in which every report comes in its time, the state follows the channel throughout. -/
theorem state_follows_channel (channelName : String) (reconnectEnabled : Bool)
    (events : List Event)
    (timely : Along SerialPortDevice.step Timely (.create channelName reconnectEnabled) events) :
    Along SerialPortDevice.step (fun device event => Follows (device.step event))
      (.create channelName reconnectEnabled) events := by
  have initial := Coherent.create channelName reconnectEnabled
  refine Along.of_invariant ?_ ?_ initial timely
  · intro device event coherent timely
    exact coherent.step event timely
  · intro device event coherent timely
    exact (coherent.step event timely).follows

/-- A write fails, and records that before the thread sees the closed channel. -/
def recordedFirst : List Event :=
  [.start, .control 0 (.done 0), .control 0 (.done 0), .control 0 (.done 0), .writeBegin 4,
    .write 0 1 (.failed "write timed out" false), .write 0 1 (.done 0), .write 0 2 (.done 0),
    .run 3 (.done 0), .run 3 (.done 0), .run 3 (.done 0), .run 4 (.done 0), .run 4 (.done 0)]

theorem state_follows_channel_sample :
    (recordedFirst.foldl SerialPortDevice.step (.create "ttyS0" true)).state = .ready ∧
    Along SerialPortDevice.step (fun device event => Follows (device.step event))
      (.create "ttyS0" true) recordedFirst := by
  refine ⟨by decide, state_follows_channel "ttyS0" true recordedFirst ?_⟩
  simp [recordedFirst, Along, Timely, SerialPortDevice.step, SerialPortDevice.create,
    SerialPortDevice.controlStep, SerialPortDevice.runStep, SerialPortDevice.writeBegin,
    SerialPortDevice.writeStep, SerialPortDevice.markReady, SerialPortDevice.markFailure,
    RunReady, Between]

/-- The same write, overtaken by the thread, which opens the channel again and records that. -/
def overtaken : List Event :=
  [.start, .control 0 (.done 0), .control 0 (.done 0), .control 0 (.done 0), .writeBegin 4,
    .write 0 1 (.failed "write timed out" false), .write 0 1 (.done 0),
    .run 2 (.done 0), .run 2 (.done 0), .run 2 (.done 0), .run 3 (.done 0), .run 3 (.done 0),
    .write 0 4 (.done 0)]

/-- What a run leaves of the device. -/
def lastOf (events : List Event) : SerialPortDevice :=
  events.foldl SerialPortDevice.step (.create "ttyS0" true)

/-- The device reports a fault on an open channel, which the thread goes on reading. -/
theorem overtaken_failure_stays :
    (lastOf overtaken).state = .fault ∧ (lastOf overtaken).channelOpen = true ∧
    ¬ ∀ (channelName : String) (reconnectEnabled : Bool) (events : List Event),
      Along SerialPortDevice.step (fun device event => Follows (device.step event))
        (.create channelName reconnectEnabled) events := by
  have fault : (lastOf overtaken).state = .fault := by decide
  have opened : (lastOf overtaken).channelOpen = true := by decide
  refine ⟨fault, opened, fun always => ?_⟩
  have settled : Settled (lastOf overtaken) := ⟨.inl (by decide), by decide, .inl (by decide)⟩
  obtain ⟨-, -, -, -, -, -, -, -, -, -, -, -, follows, -⟩ := always "ttyS0" true overtaken
  have shut := (follows.recovers settled fault).1
  exact absurd (opened.symm.trans shut) (by decide)

end PocoDDS.Devices.Serial
