import PocoDDS.Tools.DeviceAcceptance
import PocoDDS.Tools.ProtocolAcceptance

/-! When the evidence of an acceptance covers the whole run, and the restart that hides failures. -/

namespace PocoDDS.Tools.Acceptance

open JsonModel CounterRuns

instance Rising.decidable (values : List Int) : Decidable (Rising values) :=
  inferInstanceAs (Decidable (values.IsChain (· ≤ ·)))

theorem valid_of_all {σ : Type} {booleans : Bool} {names : List String} {diagnostics : σ → Json}
    {samples : List σ}
    (checked : samples.all (fun sample =>
      names.all fun name => (counter? booleans (diagnostics sample) name).isSome) = true) :
    ∀ sample ∈ samples, Valid booleans names (diagnostics sample) :=
  fun sample listed => List.all_eq_true.mp (List.all_eq_true.mp checked sample listed)

theorem rising_of_all {σ : Type} {read : σ → String → Int} {names : List String} {samples : List σ}
    (checked : names.all (fun name => decide (Rising (readings read samples name))) = true) :
    ∀ name ∈ names, Rising (readings read samples name) :=
  fun name listed => of_decide_eq_true (List.all_eq_true.mp checked name listed)

/-- A host without environment variables, and a `repr` that nothing here needs. -/
def plainHost : ProtocolAcceptance.Host where
  environ := fun _ => none
  repr := fun _ => ""
  createContext := .ok ()

/-- The counters that both inventories show. -/
def diagnosticsOf (successful failed : Int) : Json :=
  .obj [("successfulOperations", .num successful), ("failedOperations", .num failed),
    ("consecutiveFailures", .num 0)]

def protocolInventory (successful failed : Int) : Answer :=
  .response 200 (.ok (.obj [("protocols", .arr [.obj
    [("id", .str "factory-broker"), ("type", .str "mqtt"), ("required", .bool true),
      ("open", .bool true), ("desiredOpen", .bool true),
      ("diagnostics", diagnosticsOf successful failed)]])]))

def deviceInventory (successful failed : Int) : Answer :=
  .response 200 (.ok (.obj [("devices", .arr [.obj
    [("id", .str "reference"), ("state", .str "ready"), ("sequence", .num 1),
      ("diagnostics", diagnosticsOf successful failed)]])]))

/-- Successes and failures of a run in which nothing is restarted. -/
def steadyRun : List (Int × Int) := [(2, 0), (4, 0), (6, 0)]

/-- Successes and failures of a run in which the runtime is restarted after five failures. -/
def restartedRun : List (Int × Int) := [(2, 0), (4, 5), (2, 0)]

/-- Both tools with their default thresholds, which allow no failure. -/
def strictProtocol : ProtocolAcceptance.Arguments where
  url := "http://127.0.0.1/api/v1/protocols"
  protocolId := "factory-broker"
  protocolType := some "mqtt"
  duration := 1

def strictDevice : DeviceAcceptance.Arguments where
  deviceId := "reference"
  duration := 1

/-- What the samples of a run reveal is covered by a verdict that passes if no counter goes down on the
way or there is no such verdict; and by all such verdicts if no counter goes down on the way or the
first sample, the last one and the probes allow none. -/
theorem evidence_covers_iff (host : ProtocolAcceptance.Host)
    (protocol : ProtocolAcceptance.Arguments) (device : DeviceAcceptance.Arguments)
    (protocolAnswers deviceAnswers : List Answer)
    (validProtocol : ProtocolAcceptance.ValidSamples
      (host.samples protocol.protocolId protocol.protocolType protocolAnswers))
    (validDevice : DeviceAcceptance.ValidSamples
      (DeviceAcceptance.samplesFrom device.deviceId deviceAnswers)) :
    let protocolSamples := host.samples protocol.protocolId protocol.protocolType protocolAnswers
    let protocolErrors := host.probeErrors protocol.protocolId protocol.protocolType protocolAnswers
    let deviceSamples := DeviceAcceptance.samplesFrom device.deviceId deviceAnswers
    let deviceErrors := DeviceAcceptance.errorsFrom device.deviceId deviceAnswers
    ((ProtocolAcceptance.Passes host protocol protocolAnswers →
        ProtocolAcceptance.Supported protocol.thresholds protocolSamples) ↔
      ProtocolAcceptance.Uninterrupted protocolSamples ∨
        ¬ ProtocolAcceptance.Accepted host protocol protocolSamples protocolErrors) ∧
    ((∀ arguments : ProtocolAcceptance.Arguments, arguments.protocolId = protocol.protocolId →
        arguments.protocolType = protocol.protocolType →
        ProtocolAcceptance.Passes host arguments protocolAnswers →
          ProtocolAcceptance.Supported arguments.thresholds protocolSamples) ↔
      ProtocolAcceptance.Uninterrupted protocolSamples ∨
        ∃ name ∈ ProtocolAcceptance.counters,
          change (readings ProtocolAcceptance.Sample.read protocolSamples name) < 0) ∧
    ((DeviceAcceptance.Passes host.repr device deviceAnswers →
        DeviceAcceptance.Supported device.thresholds deviceSamples) ↔
      DeviceAcceptance.Uninterrupted deviceSamples ∨
        ¬ DeviceAcceptance.Accepted device deviceSamples deviceErrors) ∧
    ((∀ arguments : DeviceAcceptance.Arguments, arguments.deviceId = device.deviceId →
        DeviceAcceptance.Passes host.repr arguments deviceAnswers →
          DeviceAcceptance.Supported arguments.thresholds deviceSamples) ↔
      DeviceAcceptance.Uninterrupted deviceSamples ∨
        DeviceAcceptance.Refused deviceSamples deviceErrors) :=
  ⟨ProtocolAcceptance.passes_supported_iff validProtocol,
    ProtocolAcceptance.always_supported_iff _ _ validProtocol,
    DeviceAcceptance.passes_supported_iff validDevice,
    DeviceAcceptance.always_supported_iff _ validDevice⟩

theorem steady_run_covered :
    (ProtocolAcceptance.Passes plainHost strictProtocol
        (steadyRun.map fun counts => protocolInventory counts.1 counts.2) ∧
      ProtocolAcceptance.Supported strictProtocol.thresholds
        (plainHost.samples "factory-broker" (some "mqtt")
          (steadyRun.map fun counts => protocolInventory counts.1 counts.2))) ∧
    DeviceAcceptance.Passes plainHost.repr strictDevice
        (steadyRun.map fun counts => deviceInventory counts.1 counts.2) ∧
      DeviceAcceptance.Supported strictDevice.thresholds
        (DeviceAcceptance.samplesFrom "reference"
          (steadyRun.map fun counts => deviceInventory counts.1 counts.2)) := by
  obtain ⟨protocol, -, device, -⟩ := evidence_covers_iff plainHost strictProtocol strictDevice
    (steadyRun.map fun counts => protocolInventory counts.1 counts.2)
    (steadyRun.map fun counts => deviceInventory counts.1 counts.2)
    (valid_of_all rfl) (valid_of_all rfl)
  have protocolPasses : ProtocolAcceptance.Passes plainHost strictProtocol
      (steadyRun.map fun counts => protocolInventory counts.1 counts.2) := ⟨_, rfl, rfl⟩
  have devicePasses : DeviceAcceptance.Passes plainHost.repr strictDevice
      (steadyRun.map fun counts => deviceInventory counts.1 counts.2) := ⟨_, rfl, rfl⟩
  exact ⟨⟨protocolPasses, protocol.mpr (.inl (rising_of_all rfl)) protocolPasses⟩,
    devicePasses, device.mpr (.inl (rising_of_all rfl)) devicePasses⟩

/-- The restart hides the failures from both tools. -/
theorem restart_hides_failures :
    (ProtocolAcceptance.ValidSamples (plainHost.samples "factory-broker" (some "mqtt")
        (restartedRun.map fun counts => protocolInventory counts.1 counts.2)) ∧
      ProtocolAcceptance.Passes plainHost strictProtocol
        (restartedRun.map fun counts => protocolInventory counts.1 counts.2) ∧
      ¬ ProtocolAcceptance.Supported strictProtocol.thresholds
        (plainHost.samples "factory-broker" (some "mqtt")
          (restartedRun.map fun counts => protocolInventory counts.1 counts.2))) ∧
    DeviceAcceptance.ValidSamples (DeviceAcceptance.samplesFrom "reference"
        (restartedRun.map fun counts => deviceInventory counts.1 counts.2)) ∧
      DeviceAcceptance.Passes plainHost.repr strictDevice
        (restartedRun.map fun counts => deviceInventory counts.1 counts.2) ∧
      ¬ DeviceAcceptance.Supported strictDevice.thresholds
        (DeviceAcceptance.samplesFrom "reference"
          (restartedRun.map fun counts => deviceInventory counts.1 counts.2)) := by
  refine ⟨⟨valid_of_all rfl, ⟨_, rfl, rfl⟩, fun supported => ?_⟩, valid_of_all rfl, ⟨_, rfl, rfl⟩,
    fun supported => ?_⟩
  · -- Five failures are revealed, and none is allowed.
    exact absurd (supported.within ("failedOperations", 0) (by decide)) (by decide)
  · exact absurd (supported.within ("failedOperations", 0) (by decide)) (by decide)

end PocoDDS.Tools.Acceptance
