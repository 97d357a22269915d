import PocoDDS.DDS.DeviceBridge
import PocoDDS.Services.Bundles

/-! The device gateway: its activator adds a bridge and a service for each configured device. -/

namespace PocoDDS.Services

open FastDDS

section Model

structure Device where
  id : String
  type : String
  deriving DecidableEq, Repr

/-- A device that was constructed, and whether it is required. -/
structure DeviceRequest where
  device : Device
  required : Bool
  deriving DecidableEq, Repr

/-- The kinds of devices, in the order of their loops. -/
inductive DeviceKind
  | simulation
  | modbus
  | serial
  | gnss
  | gpio
  | xbee
  | can
  | led
  deriving DecidableEq, Repr

def deviceKinds : List DeviceKind :=
  [.simulation, .modbus, .serial, .gnss, .gpio, .xbee, .can, .led]

/-- What the activator meets: the services it looks up, the configuration, the code that reads the
keys of an instance and constructs its device, and what Fast DDS, the devices and the listeners of
the registry answer. -/
structure DeviceHost where
  preferences : Except Thrown Unit
  configuration : Configuration
  participant : Except Thrown Unit
  construct : DeviceKind → IndexedInstance → Except Thrown Device
  bridge : String → StartOutcome
  listeners : Listeners
  symbolicName : String

/-- The activator; of a started bridge its device and its flag are kept. -/
structure DeviceGatewayActivator where
  context : Bool := false
  services : List String := []
  runtime : Option Runtime := none
  devices : List Device := []
  deviceIds : List String := []
  bridges : List DeviceBridge := []

variable (host : DeviceHost)

def deviceInstances : DeviceKind → Except Thrown (List IndexedInstance)
  | .simulation => indexedInstances host.configuration "pdr.simulation" true 1 "simulation"
  | .modbus => indexedInstances host.configuration "pdr.modbus" false 0 "modbus"
  | .serial => indexedInstances host.configuration "pdr.serial" false 0 "serial"
  | .gnss => indexedInstances host.configuration "pdr.gnss" false 0 "gnss"
  | .gpio => indexedInstances host.configuration "pdr.gpio" false 0 "gpio"
  | .xbee => indexedInstances host.configuration "pdr.xbee" false 0 "xbee-sensor"
  | .can => indexedInstances host.configuration "pdr.can" false 0 "can-sensor"
  | .led => indexedInstances host.configuration "pdr.led" false 0 "led"

def deviceRequest (kind : DeviceKind) (indexed : IndexedInstance) :
    Except Thrown DeviceRequest := do
  let device ← host.construct kind indexed
  let required ← host.configuration.getBool (indexed.keyPrefix ++ ".required") true
  pure ⟨device, required⟩

/-- The requests of all kinds; nothing is done between two of them but reading. -/
def deviceSteps : List (Except Thrown DeviceRequest) :=
  deviceKinds.flatMap fun kind => stepsOf (deviceInstances host kind) (deviceRequest host kind)

def deviceService (id : String) : String := "pdr.device." ++ id

def deviceProperties (request : DeviceRequest) : List (String × String) :=
  [("pdr.device", request.device.id), ("pdr.deviceType", request.device.type),
    ("pdr.deviceState", "ready"), ("pdr.deviceRequired", if request.required then "true" else "false"),
    ("pdr.bundle", host.symbolicName)]

/-- A bridge on the activator's runtime, and what its start leaves there. -/
def startBridge (runtime : Runtime) (id : String) : Attempt (DeviceBridge × Runtime) :=
  let started := (DeviceBridge.constructed runtime.writers id).start (host.bridge id)
  (started.1, started.2,
    { runtime with
      writers := started.2.runtime.writers, readers := runtime.readers ++ started.2.runtime.readers })

def addDevice (activator : DeviceGatewayActivator) (registry : Registry) (request : DeviceRequest) :
    Attempt (DeviceGatewayActivator × Registry) :=
  let id := request.device.id
  if id ∈ activator.deviceIds then
    (.error (.poco "Invalid argument" ("Invalid argument: Duplicate device id: " ++ id)),
      activator, registry)
  else
    let (started, bridge, runtime) :=
      startBridge host (activator.runtime.getD ⟨false, [], []⟩) id
    let activator := { activator with
      runtime := some runtime, deviceIds := activator.deviceIds ++ [id] }
    let erased := { activator with deviceIds := activator.deviceIds.erase id }
    match started with
    | .error thrown => (.error thrown, erased, registry)
    | .ok _ =>
      match registry.registerService host.listeners (deviceService id)
        (deviceProperties host request) with
      -- There is no service to take back when the registration raises.
      | (.error thrown, registry) => (.error thrown, erased, registry)
      | (.ok _, registry) =>
        (.ok (), { activator with
          devices := activator.devices ++ [request.device]
          bridges := activator.bridges ++ [bridge]
          services := activator.services ++ [deviceService id] }, registry)

/-- The loops over the instances end with the first exception. -/
def addDevices (activator : DeviceGatewayActivator) (registry : Registry) :
    List (Except Thrown DeviceRequest) → Attempt (DeviceGatewayActivator × Registry)
  | [] => (.ok (), activator, registry)
  | .error thrown :: _ => (.error thrown, activator, registry)
  | .ok request :: steps =>
    Attempt.andThen (addDevice host activator registry request) fun state =>
      addDevices state.1 state.2 steps

/-- `start`; a runtime that does not start stays in the activator. -/
def DeviceGatewayActivator.start (activator : DeviceGatewayActivator) (registry : Registry) :
    Attempt (DeviceGatewayActivator × Registry) :=
  match host.preferences with
  | .error thrown => (.error thrown, activator, registry)
  | .ok _ =>
    match host.configuration.getUIntOr "pdr.fastdds.domainId" 0 with
    | .error thrown => (.error thrown, activator, registry)
    | .ok _ =>
      match host.participant with
      | .error thrown => (.error thrown, { activator with runtime := some ⟨false, [], []⟩ }, registry)
      | .ok _ =>
        Attempt.andThen
          (addDevices host { activator with runtime := some ⟨true, [], []⟩ } registry
            (deviceSteps host))
          fun state => (.ok (), { state.1 with context := true }, state.2)

end Model

section Failures

variable (host : DeviceHost)

/-- A step of the bridge's start raises. -/
def BridgeFails (outcome : StartOutcome) : Prop :=
  ¬ (outcome.stateWriter = true ∧ outcome.responseWriter = true ∧ outcome.reader = true ∧
    outcome.handler = .ok () ∧ outcome.device = .ok ())

/-- The start raises before or at its first device, and not in a listener of the registry. -/
def FailsFirst (registry : Registry) : Prop :=
  (∃ thrown, host.preferences = .error thrown) ∨
  (∃ thrown, host.configuration.getUIntOr "pdr.fastdds.domainId" 0 = .error thrown) ∨
  (∃ thrown, host.participant = .error thrown) ∨
  (∃ thrown steps, deviceSteps host = .error thrown :: steps) ∨
  ∃ request steps, deviceSteps host = .ok request :: steps ∧
    (BridgeFails (host.bridge request.device.id) ∨
      deviceService request.device.id ∈ registry.names)

/-- What can be seen of a start; the runtime of a start that raised is not used any more. -/
def DeviceGatewayActivator.observed (attempt : Attempt (Loaded DeviceGatewayActivator Registry)) :
    Except Thrown Unit × Registry × Option DeviceGatewayActivator :=
  (attempt.1, attempt.2.surroundings, attempt.2.activator.map fun activator =>
    match attempt.1 with
    | .ok _ => activator
    | .error _ => { activator with runtime := none })

/-- A failed start of the device gateway leaves nothing behind. -/
structure DeviceGatewayActivator.LeavesNothing (before : Registry)
    (after : Loaded DeviceGatewayActivator Registry) : Prop where
  registry : ∀ entry ∈ after.surroundings, entry ∈ before
  bridges : ∀ activator ∈ after.activator, ∀ bridge ∈ activator.bridges, bridge.started = false
  retried : ∀ host : DeviceHost,
    observed (startBundle {} (start host) after) =
      observed (startBundle {} (start host) ⟨none, after.surroundings⟩)

theorem startBridge_ok_iff {runtime : Runtime} (fresh : runtime.writers = []) (id : String) :
    (startBridge host runtime id).1 = .ok () ↔ ¬ BridgeFails (host.bridge id) := by
  have exact' := start_ok_iff
    (show (DeviceBridge.constructed runtime.writers id).runtime.participant = true from rfl) rfl
    (host.bridge id)
  unfold startBridge BridgeFails
  rw [exact', not_not]
  simp [Writable, DeviceBridge.constructed, fresh]

variable {host} {activator : DeviceGatewayActivator} {registry : Registry}

theorem addDevice_cases (host : DeviceHost) (activator : DeviceGatewayActivator)
    (registry : Registry) (request : DeviceRequest) :
    (∃ thrown runtime, addDevice host activator registry request =
        (.error thrown, { activator with runtime }, registry)) ∨
    (∃ thrown runtime, host.listeners.registered (deviceService request.device.id) = .error thrown ∧
        deviceService request.device.id ∉ registry.names ∧
        addDevice host activator registry request = (.error thrown, { activator with runtime },
          registry ++ [⟨deviceService request.device.id, deviceProperties host request⟩])) ∨
    ∃ added, deviceService request.device.id ∉ registry.names ∧
      addDevice host activator registry request = (.ok (), added,
        registry ++ [⟨deviceService request.device.id, deviceProperties host request⟩]) := by
  unfold addDevice
  dsimp only
  split
  · exact .inl ⟨_, activator.runtime, rfl⟩
  · next fresh =>
    have erased : (activator.deviceIds ++ [request.device.id]).erase request.device.id =
        activator.deviceIds := by
      rw [List.erase_append_right _ fresh, List.erase_cons_head, List.append_nil]
    generalize startBridge host (activator.runtime.getD ⟨false, [], []⟩) request.device.id = started
    obtain ⟨result, bridge, runtime⟩ := started
    cases result with
    | error thrown => exact .inl ⟨thrown, some runtime, by simp [erased]⟩
    | ok _ =>
      by_cases taken : deviceService request.device.id ∈ registry.names
      · exact .inl ⟨.poco "Exists" ("Exists: " ++ deviceService request.device.id), some runtime, by
          simp [Registry.registerService, taken, erased]⟩
      · cases notified : host.listeners.registered (deviceService request.device.id) with
        | error thrown =>
          exact .inr (.inl ⟨thrown, some runtime, rfl, taken, by
            simp [Registry.registerService, taken, notified, erased]⟩)
        | ok _ =>
          exact .inr (.inr ⟨_, taken, by
            simp [Registry.registerService, taken, notified]; rfl⟩)

/-- No service goes while devices are added. -/
theorem addDevices_registry (steps : List (Except Thrown DeviceRequest)) :
    ∀ entry ∈ registry, entry ∈ (addDevices host activator registry steps).2.2 := by
  induction steps generalizing activator registry with
  | nil => exact fun entry member => member
  | cons step steps ih =>
    intro entry member
    cases step with
    | error thrown => exact member
    | ok request =>
      unfold addDevices Attempt.andThen
      rcases addDevice_cases host activator registry request with
        ⟨thrown, runtime, added⟩ | ⟨thrown, runtime, -, -, added⟩ | ⟨next, -, added⟩
      · rw [added]
        exact member
      · rw [added]
        exact List.mem_append_left _ member
      · rw [added]
        exact ih entry (List.mem_append_left _ member)

theorem addDevices_registers {request : DeviceRequest} (steps : List (Except Thrown DeviceRequest))
    (runtime : Runtime) (unwritten : runtime.writers = [])
    (fine : ¬ BridgeFails (host.bridge request.device.id))
    (free : deviceService request.device.id ∉ registry.names) :
    ∃ entry ∈ (addDevices host { runtime := some runtime } registry (.ok request :: steps)).2.2,
      entry.name = deviceService request.device.id := by
  have started := (startBridge_ok_iff host unwritten request.device.id).mpr fine
  generalize attempt : startBridge host runtime request.device.id = bridged at started
  obtain ⟨result, bridge, after⟩ := bridged
  obtain rfl : result = .ok () := started
  unfold addDevices Attempt.andThen addDevice
  simp only [List.not_mem_nil, if_false, Option.getD_some, attempt, Registry.registerService, free]
  cases host.listeners.registered (deviceService request.device.id) with
  | error thrown => exact ⟨_, List.mem_append_right _ (List.mem_singleton_self _), rfl⟩
  | ok _ =>
    exact ⟨_, addDevices_registry steps _ (List.mem_append_right _ (List.mem_singleton_self _)), rfl⟩

theorem addDevice_early {request : DeviceRequest} (runtime : Runtime)
    (unwritten : runtime.writers = [])
    (early : BridgeFails (host.bridge request.device.id) ∨
      deviceService request.device.id ∈ registry.names) :
    ∃ thrown runtime', addDevice host { runtime := some runtime } registry request =
      (.error thrown, { runtime := runtime' }, registry) := by
  rcases addDevice_cases host { runtime := some runtime } registry request with
    refused | ⟨_, _, -, free, added⟩ | ⟨_, free, added⟩
  · exact refused
  -- A registration is only tried when the bridge has started.
  all_goals
    have fails := early.resolve_right free
    have stopped := (not_congr (startBridge_ok_iff host unwritten request.device.id)).mpr
      (not_not.mpr fails)
    unfold addDevice at added
    simp only [List.not_mem_nil, if_false, Option.getD_some] at added
    generalize startBridge host runtime request.device.id = bridged at stopped added
    obtain ⟨result, bridge, after⟩ := bridged
    cases result with
    | ok _ => exact absurd rfl stopped
    | error thrown => simp at added

theorem observed_runtime (runtime : Option Runtime) (registry : Registry) :
    DeviceGatewayActivator.observed
        (startBundle {} (DeviceGatewayActivator.start host) ⟨some { runtime }, registry⟩) =
      DeviceGatewayActivator.observed
        (startBundle {} (DeviceGatewayActivator.start host) ⟨none, registry⟩) := by
  unfold startBundle DeviceGatewayActivator.start
  simp only [Option.getD_some, Option.getD_none]
  -- The runtime is replaced before it is used.
  cases host.preferences with
  | error thrown => rfl
  | ok _ =>
    cases host.configuration.getUIntOr "pdr.fastdds.domainId" 0 with
    | error thrown => rfl
    | ok _ => cases host.participant <;> rfl

theorem leavesNothing_of_runtime (runtime : Option Runtime) :
    DeviceGatewayActivator.LeavesNothing registry ⟨some { runtime }, registry⟩ where
  registry := fun _ member => member
  bridges := by
    rintro activator ⟨⟩ bridge member
    cases member
  retried := fun host => observed_runtime runtime registry

variable (host registry)

/-- A failed start of the device gateway leaves nothing behind exactly if it fails before or at its
first device, and not in a listener. -/
theorem DeviceGatewayActivator.leavesNothing_iff {thrown : Thrown}
    (failed : (startBundle {} (start host) ⟨none, registry⟩).1 = .error thrown) :
    LeavesNothing registry (startBundle {} (start host) ⟨none, registry⟩).2 ↔
      FailsFirst host registry := by
  unfold startBundle start at failed ⊢
  simp only [Option.getD_none] at failed ⊢
  cases found : host.preferences with
  | error thrown => exact iff_of_true (leavesNothing_of_runtime none) (.inl ⟨thrown, found⟩)
  | ok _ =>
    cases domain : host.configuration.getUIntOr "pdr.fastdds.domainId" 0 with
    | error thrown =>
      exact iff_of_true (leavesNothing_of_runtime none) (.inr (.inl ⟨thrown, domain⟩))
    | ok _ =>
      cases up : host.participant with
      | error thrown =>
        exact iff_of_true (leavesNothing_of_runtime _) (.inr (.inr (.inl ⟨thrown, up⟩)))
      | ok _ =>
        simp only [found, domain, up] at failed ⊢
        have first : FailsFirst host registry ↔
            (∃ thrown steps, deviceSteps host = .error thrown :: steps) ∨
            ∃ request steps, deviceSteps host = .ok request :: steps ∧
              (BridgeFails (host.bridge request.device.id) ∨
                deviceService request.device.id ∈ registry.names) := by
          simp [FailsFirst, found, domain, up]
        rw [first]
        cases steps : deviceSteps host with
        | nil =>
          rw [steps] at failed
          cases failed
        | cons step rest =>
          cases step with
          | error thrown =>
            exact iff_of_true (leavesNothing_of_runtime _) (.inl ⟨thrown, rest, rfl⟩)
          | ok request =>
            by_cases early : BridgeFails (host.bridge request.device.id) ∨
                deviceService request.device.id ∈ registry.names
            · obtain ⟨thrown, runtime, refused⟩ := addDevice_early ⟨true, [], []⟩ rfl early
              refine iff_of_true ?_ (.inr ⟨request, rest, rfl, early⟩)
              unfold addDevices
              rw [refused]
              exact leavesNothing_of_runtime runtime
            · -- The first device has its service, which no later step takes back.
              refine iff_of_false (fun nothing => ?_) (by simp [early])
              rw [not_or] at early
              obtain ⟨entry, member, named⟩ := addDevices_registers rest ⟨true, [], []⟩
                rfl early.1 early.2
              have kept : entry ∈ registry := by
                apply nothing.registry
                unfold Attempt.andThen
                rw [steps] at failed
                unfold Attempt.andThen at failed
                split
                · next result state ended =>
                  rw [ended] at failed
                  cases failed
                · next result state ended =>
                  rw [ended] at member
                  exact member
              exact early.2 (named ▸ List.mem_map_of_mem kept)

end Failures

end PocoDDS.Services
