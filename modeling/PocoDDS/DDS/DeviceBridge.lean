import PocoDDS.Lib.Run
import PocoDDS.DDS.Runtime

/-! The device bridge: when every command runs once and has one response. -/

namespace PocoDDS.FastDDS

open RunLogic

def stateTopic : String := "pdr.device.state"

def requestTopic : String := "pdr.device.request"

def responseTopic : String := "pdr.device.response"

/-- A bridge; of the runtime's readers only those that call this bridge are listed. -/
structure DeviceBridge where
  runtime : Runtime
  deviceId : String
  started : Bool := false
  snapshotHandler : Bool := false

/-- What Fast DDS and the device answer to the steps of `start`. -/
structure StartOutcome where
  stateWriter : Bool
  responseWriter : Bool
  reader : Bool
  handler : Except Thrown Unit
  device : Except Thrown Unit

/-- What happens in one call of the request handler. -/
structure CallOutcome where
  executed : Except Thrown String
  now : Int
  created : Bool
  written : Bool

inductive BridgeEvent
  | start (outcome : StartOutcome)
  | stop
  /-- A sample on the request topic, and the outcome of the call by each reader. -/
  | sample (request : Envelope) (outcomes : Nat → CallOutcome)

inductive DeviceEffect
  | executed (operation payload : String)
  | published (response : Envelope)
  deriving DecidableEq, Repr

namespace DeviceBridge

/-- A bridge on a started runtime that may have writers already. -/
def constructed (writers : List String) (deviceId : String) : DeviceBridge :=
  { runtime := ⟨true, writers, []⟩, deviceId }

def onRuntime (step : Runtime → Attempt Runtime) (bridge : DeviceBridge) : Attempt DeviceBridge :=
  ((step bridge.runtime).1, { bridge with runtime := (step bridge.runtime).2 })

/-- The flag is set first, and no step that raises takes it back. -/
def start (bridge : DeviceBridge) (outcome : StartOutcome) : Attempt DeviceBridge :=
  if bridge.started then (.ok (), bridge)
  else
    Attempt.andThen
      (onRuntime (·.preparePublisher stateTopic outcome.stateWriter) { bridge with started := true })
      fun bridge => Attempt.andThen
        (onRuntime (·.preparePublisher responseTopic outcome.responseWriter) bridge)
        fun bridge => Attempt.andThen (onRuntime (·.subscribe requestTopic outcome.reader) bridge)
          fun bridge => Attempt.andThen (outcome.handler, { bridge with snapshotHandler := true })
            fun bridge => (outcome.device, bridge)

/-- The readers stay. -/
def stop (bridge : DeviceBridge) : DeviceBridge :=
  if bridge.started then { bridge with started := false, snapshotHandler := false } else bridge

/-- Only what derives from `std::exception` is caught. -/
def reply (request : Envelope) (outcome : CallOutcome) : Option Envelope :=
  let response : Envelope := {
    sequence := request.sequence
    timestampMicroseconds := outcome.now
    kind := "device.response"
    deviceId := request.deviceId
    operation := request.operation
    correlationId := request.correlationId }
  match outcome.executed with
  | .ok payload => some { response with payload, status := 0 }
  | .error (.poco name _) => some { response with payload := name, status := 1 }
  | .error (.std what) => some { response with payload := what, status := 1 }
  | .error .unknown => none

def handleRequest (bridge : DeviceBridge) (request : Envelope) (outcome : CallOutcome) :
    DeviceBridge × List DeviceEffect :=
  if !bridge.started || request.deviceId != bridge.deviceId then (bridge, [])
  else match reply request outcome with
    -- The exception ends in the listener, which counts it.
    | none => (bridge, [.executed request.operation request.payload])
    | some response =>
      match bridge.runtime.publish responseTopic outcome.created outcome.written with
      | (.ok _, runtime) => ({ bridge with runtime },
          [.executed request.operation request.payload, .published response])
      | (.error _, runtime) => ({ bridge with runtime },
          [.executed request.operation request.payload])

/-- A sample goes to every reader. -/
def deliver (request : Envelope) (outcomes : Nat → CallOutcome) :
    Nat → DeviceBridge → DeviceBridge × List DeviceEffect
  | 0, bridge => (bridge, [])
  | readers + 1, bridge =>
    let earlier := deliver request outcomes readers bridge
    let last := earlier.1.handleRequest request (outcomes readers)
    (last.1, earlier.2 ++ last.2)

/-- How many readers get a sample of the request topic. -/
def subscriptions (bridge : DeviceBridge) : Nat :=
  bridge.runtime.readers.count requestTopic

def step (bridge : DeviceBridge) : BridgeEvent → DeviceBridge
  | .start outcome => (bridge.start outcome).2
  | .stop => bridge.stop
  | .sample request outcomes => (deliver request outcomes bridge.subscriptions bridge).1

end DeviceBridge

def executeCount (effects : List DeviceEffect) : Nat :=
  effects.countP fun
    | .executed _ _ => true
    | .published _ => false

def publishedResponses (effects : List DeviceEffect) : List Envelope :=
  effects.filterMap fun
    | .executed _ _ => none
    | .published response => some response

/-- Whether a delivered request is for this bridge, and the bridge is started. -/
def DeviceBridge.concerns (bridge : DeviceBridge) (request : Envelope) : Prop :=
  0 < bridge.subscriptions ∧ bridge.started = true ∧ request.deviceId = bridge.deviceId

def RunsOnce (bridge : DeviceBridge) : BridgeEvent → Prop
  | .start outcome =>
    -- After an exception the steps of `start` can be tried again.
    ∀ thrown, (bridge.start outcome).1 = .error thrown → (bridge.start outcome).2.started = false
  | .stop => True
  | .sample request outcomes =>
    let effects := (bridge.deliver request outcomes bridge.subscriptions).2
    (bridge.concerns request → executeCount effects = 1 ∧ ∃ response, publishedResponses effects = [response] ∧
      response.sequence = request.sequence ∧ response.correlationId = request.correlationId) ∧
    (¬bridge.concerns request → executeCount effects = 0 ∧ publishedResponses effects = [])

/-- A topic has a writer or gets one. -/
def Writable (bridge : DeviceBridge) (topic : String) (created : Bool) : Prop :=
  topic ∈ bridge.runtime.writers ∨ created = true

/-- What a step needs for that. -/
def Undisturbed (bridge : DeviceBridge) : BridgeEvent → Prop
  | .start outcome =>
    bridge.started = false →
      Writable bridge stateTopic outcome.stateWriter ∧
      Writable bridge responseTopic outcome.responseWriter ∧
      outcome.reader = true ∧ outcome.handler = .ok () ∧ outcome.device = .ok ()
  | .stop => True
  | .sample request outcomes =>
    bridge.concerns request →
      bridge.subscriptions = 1 ∧ (outcomes 0).executed ≠ .error .unknown ∧
      Writable bridge responseTopic (outcomes 0).created ∧ (outcomes 0).written = true

section Steps

variable {bridge : DeviceBridge}
variable {runtime : Runtime}

theorem andThen_ok_iff {σ : Type} (first : Attempt σ) (next : σ → Attempt σ) :
    (Attempt.andThen first next).1 = .ok () ↔ first.1 = .ok () ∧ (next first.2).1 = .ok () := by
  obtain ⟨result, state⟩ := first
  cases result <;> simp [Attempt.andThen]

/-- What both operations keep, their sequence keeps. -/
theorem andThen_keeps {σ : Type} (keeps : σ → Prop) {first : Attempt σ} {next : σ → Attempt σ}
    (one : keeps first.2) (two : ∀ state, keeps state → keeps (next state).2) :
    keeps (Attempt.andThen first next).2 := by
  obtain ⟨result, state⟩ := first
  cases result with
  | ok _ => exact two state one
  | error thrown => exact one

theorem preparePublisher_spec (up : runtime.participant = true) (topic : String) (created : Bool) :
    ((runtime.preparePublisher topic created).1 = .ok () ↔
      topic ∈ runtime.writers ∨ created = true) ∧
    (runtime.preparePublisher topic created).2.participant = true ∧
    (runtime.preparePublisher topic created).2.readers = runtime.readers ∧
    ∀ other, other ≠ topic →
      (other ∈ (runtime.preparePublisher topic created).2.writers ↔ other ∈ runtime.writers) := by
  unfold Runtime.preparePublisher
  by_cases known : topic ∈ runtime.writers
  · simp [up, known]
  · cases created with
    | true => simp +contextual [up, known]
    | false => simp [up, known]

theorem publish_ok_iff (up : runtime.participant = true) (topic : String) (created written : Bool) :
    (runtime.publish topic created written).1 = .ok () ↔
      (topic ∈ runtime.writers ∨ created = true) ∧ written = true := by
  rw [Runtime.publish, andThen_ok_iff, (preparePublisher_spec up topic created).1]
  cases written <;> simp

theorem subscribe_ok_iff (up : runtime.participant = true) (topic : String) (created : Bool) :
    (runtime.subscribe topic created).1 = .ok () ↔ created = true := by
  cases created <;> simp [Runtime.subscribe, up]

theorem subscribe_participant (runtime : Runtime) (topic : String) (created : Bool) :
    (runtime.subscribe topic created).2.participant = runtime.participant := by
  unfold Runtime.subscribe
  split
  · rfl
  · split <;> rfl

/-- A start that takes effect leaves the flag set, whether or not it raises. -/
theorem started_start (bridge : DeviceBridge) (outcome : StartOutcome) :
    (bridge.start outcome).2.started = true := by
  unfold DeviceBridge.start
  split
  · assumption
  · -- Every step after the first keeps the flag.
    have keeps := @andThen_keeps DeviceBridge (·.started = true)
    exact keeps rfl fun _ flag => keeps flag fun _ flag => keeps flag fun _ flag =>
      keeps flag fun _ flag => flag

/-- When all steps of `start` succeed. -/
theorem start_ok_iff (up : bridge.runtime.participant = true) (stopped : bridge.started = false)
    (outcome : StartOutcome) :
    (bridge.start outcome).1 = .ok () ↔ Writable bridge stateTopic outcome.stateWriter ∧
      Writable bridge responseTopic outcome.responseWriter ∧
      outcome.reader = true ∧ outcome.handler = .ok () ∧ outcome.device = .ok () := by
  obtain ⟨first, up', -, others⟩ := preparePublisher_spec up stateTopic outcome.stateWriter
  obtain ⟨second, up'', -, -⟩ := preparePublisher_spec up' responseTopic outcome.responseWriter
  have differs : responseTopic ≠ stateTopic := by decide
  unfold DeviceBridge.start
  rw [if_neg (by simp [stopped]), andThen_ok_iff, andThen_ok_iff, andThen_ok_iff, andThen_ok_iff]
  simp only [DeviceBridge.onRuntime]
  rw [first, second, others responseTopic differs, subscribe_ok_iff up'']
  rfl

theorem participant_publish (up : runtime.participant = true) (topic : String)
    (created written : Bool) : (runtime.publish topic created written).2.participant = true := by
  refine andThen_keeps (fun after : Runtime => after.participant = true) (preparePublisher_spec up topic created).2.1 ?_
  intro prepared up'
  cases written <;> exact up'

variable (up : bridge.runtime.participant = true)
include up

theorem handleRequest_cases (request : Envelope) (outcome : CallOutcome) :
    (bridge.handleRequest request outcome).1.runtime.participant = true ∧
    (bridge.handleRequest request outcome).1.started = bridge.started ∧
    (bridge.handleRequest request outcome).1.deviceId = bridge.deviceId ∧
    executeCount (bridge.handleRequest request outcome).2 =
      if bridge.started = true ∧ request.deviceId = bridge.deviceId then 1 else 0 := by
  unfold DeviceBridge.handleRequest
  cases started : bridge.started with
  | false => simp [up, started, executeCount]
  | true =>
    by_cases mine : request.deviceId = bridge.deviceId
    · simp only [mine, Bool.not_true, bne_self_eq_false, Bool.or_false, Bool.false_eq_true, if_false]
      split
      · simp [up, started, executeCount]
      · split
        · next same =>
          have kept := participant_publish up responseTopic outcome.created outcome.written
          rw [same] at kept
          exact ⟨kept, rfl, rfl, by simp [executeCount]⟩
        · next same =>
          have kept := participant_publish up responseTopic outcome.created outcome.written
          rw [same] at kept
          exact ⟨kept, rfl, rfl, by simp [executeCount]⟩
    · simp [up, started, mine, executeCount]

/-- Every reader runs the command once. -/
theorem deliver_cases (request : Envelope) (outcomes : Nat → CallOutcome) (readers : Nat) :
    (DeviceBridge.deliver request outcomes readers bridge).1.runtime.participant = true ∧
    (DeviceBridge.deliver request outcomes readers bridge).1.started = bridge.started ∧
    (DeviceBridge.deliver request outcomes readers bridge).1.deviceId = bridge.deviceId ∧
    executeCount (DeviceBridge.deliver request outcomes readers bridge).2 =
      if bridge.started = true ∧ request.deviceId = bridge.deviceId then readers else 0 := by
  induction readers with
  | zero => simp [DeviceBridge.deliver, up, executeCount]
  | succ readers ih =>
    obtain ⟨up', started, id', count⟩ := ih
    obtain ⟨up'', started', id'', one⟩ := handleRequest_cases up' request (outcomes readers)
    rw [started, id'] at one
    refine ⟨up'', started'.trans started, id''.trans id', ?_⟩
    simp only [DeviceBridge.deliver]
    rw [executeCount, List.countP_append, ← executeCount, ← executeCount, count, one]
    split <;> rfl

theorem participant_step (event : BridgeEvent) :
    (bridge.step event).runtime.participant = true := by
  cases event with
  | start outcome =>
    have keeps := @andThen_keeps DeviceBridge (·.runtime.participant = true)
    simp only [DeviceBridge.step, DeviceBridge.start]
    split
    · exact up
    · refine keeps (preparePublisher_spec up stateTopic _).2.1 fun _ up =>
        keeps (preparePublisher_spec up responseTopic _).2.1 fun _ up => ?_
      refine keeps ((subscribe_participant _ _ _).trans up) fun _ up => keeps up fun _ up => up
  | stop =>
    simp only [DeviceBridge.step, DeviceBridge.stop]
    split <;> exact up
  | sample request outcomes => exact (deliver_cases up request outcomes _).1

theorem handleRequest_response_iff (started : bridge.started = true) {request : Envelope}
    (mine : request.deviceId = bridge.deviceId) (outcome : CallOutcome) :
    (∃ response, publishedResponses (bridge.handleRequest request outcome).2 = [response] ∧
      response.sequence = request.sequence ∧ response.correlationId = request.correlationId) ↔
    outcome.executed ≠ .error .unknown ∧ Writable bridge responseTopic outcome.created ∧
      outcome.written = true := by
  have published := publish_ok_iff up responseTopic outcome.created outcome.written
  have called : (!bridge.started || request.deviceId != bridge.deviceId) = false := by
    simp [started, mine]
  unfold DeviceBridge.handleRequest
  rw [if_neg (by rw [called]; simp)]
  cases replied : DeviceBridge.reply request outcome with
  | none =>
    -- Only an exception of an unknown kind leaves no reply.
    have unknown : outcome.executed = .error .unknown := by
      unfold DeviceBridge.reply at replied
      split at replied <;> simp_all
    simp [unknown, publishedResponses]
  | some response =>
    have known : outcome.executed ≠ .error .unknown := by
      intro unknown
      simp [DeviceBridge.reply, unknown] at replied
    have fields : response.sequence = request.sequence ∧
        response.correlationId = request.correlationId := by
      unfold DeviceBridge.reply at replied
      split at replied <;> simp only [Option.some.injEq, reduceCtorEq] at replied <;>
        exact replied ▸ ⟨rfl, rfl⟩
    simp only [Writable]
    cases result : bridge.runtime.publish responseTopic outcome.created outcome.written with
    | mk answer runtime =>
      rw [result] at published
      cases answer with
      | ok _ => simp [publishedResponses, known, fields, published.mp rfl]
      | error thrown =>
        have failed := published.not.mp (by simp)
        simp [publishedResponses, known, failed]

omit up

theorem deliver_unconcerned {request : Envelope} (foreign : ¬bridge.concerns request)
    (outcomes : Nat → CallOutcome) :
    executeCount (bridge.deliver request outcomes bridge.subscriptions).2 = 0 ∧
      publishedResponses (bridge.deliver request outcomes bridge.subscriptions).2 = [] := by
  have silent : ∀ readers, (bridge.started = true ∧ request.deviceId = bridge.deviceId → readers = 0) →
      bridge.deliver request outcomes readers = (bridge, []) := by
    intro readers none'
    induction readers with
    | zero => rfl
    | succ readers ih =>
      have skipped : ¬(bridge.started = true ∧ request.deviceId = bridge.deviceId) := by
        intro both
        cases none' both
      have called : (!bridge.started || request.deviceId != bridge.deviceId) = true := by
        cases started : bridge.started with
        | false => rfl
        | true => simpa [started] using skipped
      have earlier := ih fun both => absurd both skipped
      simp [DeviceBridge.deliver, earlier, DeviceBridge.handleRequest, called]
  have nothing := silent bridge.subscriptions fun both => by
    by_contra some'
    exact foreign ⟨by omega, both.1, both.2⟩
  rw [nothing]
  exact ⟨rfl, rfl⟩

/-- A step does what it has to exactly if nothing disturbs it. -/
theorem runsOnce_iff (up : bridge.runtime.participant = true) (event : BridgeEvent) :
    RunsOnce bridge event ↔ Undisturbed bridge event := by
  cases event with
  | stop => exact Iff.rfl
  | start outcome =>
    simp only [RunsOnce, Undisturbed, started_start]
    cases started : bridge.started with
    | true => simp [DeviceBridge.start, started]
    | false =>
      rw [← start_ok_iff up started outcome]
      cases result : (bridge.start outcome).1 with
      | ok _ => simp
      | error thrown => simp
  | sample request outcomes =>
    obtain ⟨-, -, -, count⟩ := deliver_cases up request outcomes bridge.subscriptions
    simp only [RunsOnce, Undisturbed]
    by_cases concerned : bridge.concerns request
    · have runs := concerned
      obtain ⟨some', started, mine⟩ := concerned
      rw [if_pos ⟨started, mine⟩] at count
      simp only [runs, true_imp_iff, not_true_eq_false, false_imp_iff, and_true, count]
      -- The readers each run the command, so there must be one; then its call decides.
      refine and_congr_right fun single => ?_
      rw [single]
      have only : DeviceBridge.deliver request outcomes 1 bridge =
          bridge.handleRequest request (outcomes 0) := by
        simp [DeviceBridge.deliver]
      rw [only]
      exact handleRequest_response_iff up started mine (outcomes 0)
    · simp only [concerned, false_imp_iff, not_false_eq_true, true_imp_iff, true_and, iff_true]
      exact deliver_unconcerned concerned outcomes

end Steps

/-- In every run, commands run once and starts can be retried exactly if nothing disturbs a step. -/
theorem commands_run_once_iff (writers : List String) (deviceId : String)
    (events : List BridgeEvent) :
    Along DeviceBridge.step RunsOnce (.constructed writers deviceId) events ↔
      Along DeviceBridge.step Undisturbed (.constructed writers deviceId) events := by
  have kept : ∀ (bridge : DeviceBridge) (event : BridgeEvent),
      bridge.runtime.participant = true → Undisturbed bridge event →
        (bridge.step event).runtime.participant = true :=
    fun _ event up _ => participant_step up event
  exact Along.congr kept (fun _ event up => runsOnce_iff up event) rfl events

/-- Nothing fails while the bridge starts. -/
def smoothStart : StartOutcome := ⟨true, true, true, .ok (), .ok ()⟩

def sampleRequest : Envelope :=
  { sequence := 1, deviceId := "simulation-1", operation := "read", correlationId := "request-1" }

def smoothCalls (_ : Nat) : CallOutcome := ⟨.ok "42", 0, true, true⟩

/-- A bridge that was restarted runs every command twice. -/
theorem restarted_bridge_runs_twice :
    let bridge := [BridgeEvent.start smoothStart, .stop, .start smoothStart].foldl
      DeviceBridge.step (.constructed [] "simulation-1")
    bridge.started = true ∧
      executeCount (bridge.deliver sampleRequest smoothCalls bridge.subscriptions).2 = 2 ∧
      ¬Along DeviceBridge.step RunsOnce (.constructed [] "simulation-1")
        [.start smoothStart, .stop, .start smoothStart, .sample sampleRequest smoothCalls] := by
  have twice : executeCount (DeviceBridge.deliver sampleRequest smoothCalls
      ([BridgeEvent.start smoothStart, .stop, .start smoothStart].foldl DeviceBridge.step
        (.constructed [] "simulation-1")).subscriptions
      ([BridgeEvent.start smoothStart, .stop, .start smoothStart].foldl DeviceBridge.step
        (.constructed [] "simulation-1"))).2 = 2 := by decide +kernel
  refine ⟨by decide +kernel, twice, ?_⟩
  rintro ⟨-, -, -, runs, -⟩
  have once := (runs.1 ⟨by decide +kernel, by decide +kernel, by decide +kernel⟩).1
  have same := once.symm.trans twice
  cases same

end PocoDDS.FastDDS
