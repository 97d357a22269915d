import PocoDDS.Services.DeviceGateway

/-! The protocol gateway: its activator opens and registers the configured protocols, and stops
itself when a step of its start fails. -/

namespace PocoDDS.Services

open FastDDS

section Model

/-- The kinds of protocols, in the order of their loops. -/
inductive ProtocolKind
  | mqtt
  | ros
  | udp
  deriving DecidableEq, Repr

def protocolKinds : List ProtocolKind :=
  [.mqtt, .ros, .udp]

/-- What the activator meets: the configuration, the code that reads the options of an instance and
constructs its protocol, and what the protocols, the listeners of the registry and the system answer. -/
structure ProtocolHost where
  preferences : Except Thrown Unit
  configuration : Configuration
  construct : ProtocolKind → IndexedInstance → Except Thrown Unit
  opening : String → Except Thrown Unit
  listeners : Listeners
  thread : Except Thrown Unit
  symbolicName : String
  now : Int

/-- A protocol that was constructed, with its options for the gateway. -/
structure ProtocolRequest where
  id : String
  type : String
  required : Bool
  autoReconnect : Bool
  reconnectDelayMilliseconds : Nat
  reconnectMaximumDelayMilliseconds : Nat
  deriving DecidableEq, Repr

structure Recovery where
  id : String
  enabled : Bool
  initialDelay : Nat
  maximumDelay : Nat
  currentDelay : Nat
  nextAttempt : Int
  deriving DecidableEq, Repr

/-- The activator; its services and protocols are named by their ids. -/
structure ProtocolGatewayActivator where
  ids : List String := []
  protocols : List String := []
  services : List String := []
  recoveries : List Recovery := []
  stopping : Bool := false
  recovering : Bool := false
  deriving DecidableEq, Repr

/-- The registry, and the protocols of the gateway that are open. -/
structure Surroundings where
  registry : Registry
  opened : List String
  deriving DecidableEq, Repr

variable (host : ProtocolHost)

def protocolInstances : ProtocolKind → Except Thrown (List IndexedInstance)
  | .mqtt => indexedInstances host.configuration "pdr.mqtt" false 0 "mqtt"
  | .ros => indexedInstances host.configuration "pdr.ros" false 0 "ros"
  | .udp => indexedInstances host.configuration "pdr.udp" false 0 "udp"

def protocolType : ProtocolKind → String
  | .mqtt => "mqtt"
  | .ros => "rosbridge"
  | .udp => "udp"

def protocolRequest (kind : ProtocolKind) (indexed : IndexedInstance) :
    Except Thrown ProtocolRequest := do
  host.construct kind indexed
  let required ← host.configuration.getBool (indexed.keyPrefix ++ ".required") false
  let autoReconnect ← host.configuration.getBool (indexed.keyPrefix ++ ".autoReconnect") true
  let delay ← host.configuration.getUIntOr (indexed.keyPrefix ++ ".reconnectDelayMilliseconds") 1000
  let maximum ←
    host.configuration.getUIntOr (indexed.keyPrefix ++ ".reconnectMaximumDelayMilliseconds") 30000
  pure ⟨indexed.id, protocolType kind, required, autoReconnect, delay, maximum⟩

/-- The requests of all kinds; nothing is done between two of them but reading. -/
def protocolSteps : List (Except Thrown ProtocolRequest) :=
  protocolKinds.flatMap fun kind => stepsOf (protocolInstances host kind) (protocolRequest host kind)

def protocolService (id : String) : String := "pdr.protocol." ++ id

def protocolProperties (request : ProtocolRequest) : List (String × String) :=
  [("pdr.protocol", request.id), ("pdr.protocol.id", request.id),
    ("pdr.protocol.type", request.type),
    ("pdr.protocol.required", if request.required then "true" else "false"),
    ("pdr.protocol.autoReconnect", if request.autoReconnect then "true" else "false"),
    ("pdr.bundle", host.symbolicName)]

/-- How `open` ends for the gateway: only the standard exceptions of an optional protocol are caught. -/
def openProtocol (request : ProtocolRequest) : Except Thrown Bool :=
  match host.opening request.id with
  | .ok _ => .ok true
  | .error .unknown => .error .unknown
  | .error thrown => if request.required then .error thrown else .ok false

def addProtocol (activator : ProtocolGatewayActivator) (surroundings : Surroundings)
    (request : ProtocolRequest) : Attempt (ProtocolGatewayActivator × Surroundings) :=
  let id := request.id
  if id ∈ activator.ids then
    (.error (.poco "Invalid argument" ("Invalid argument: Duplicate protocol id: " ++ id)),
      activator, surroundings)
  else
    let inserted := { activator with ids := activator.ids ++ [id] }
    let erased := { activator with ids := inserted.ids.erase id }
    match openProtocol host request with
    -- An exception that is not a standard one leaves the id.
    | .error .unknown => (.error .unknown, inserted, surroundings)
    | .error thrown => (.error thrown, erased, surroundings)
    | .ok opened =>
      match surroundings.registry.registerService host.listeners (protocolService id)
        (protocolProperties host request) with
      -- The protocol is closed again.
      | (.error thrown, registry) => (.error thrown, erased, { surroundings with registry })
      | (.ok _, registry) =>
        (.ok (), { inserted with
          services := activator.services ++ [id]
          protocols := activator.protocols ++ [id]
          recoveries := activator.recoveries ++
            [⟨id, request.autoReconnect, request.reconnectDelayMilliseconds,
              request.reconnectMaximumDelayMilliseconds, request.reconnectDelayMilliseconds,
              host.now + request.reconnectDelayMilliseconds⟩] },
          ⟨registry, if opened then surroundings.opened ++ [id] else surroundings.opened⟩)

/-- The loops over the instances end with the first exception. -/
def addProtocols (activator : ProtocolGatewayActivator) (surroundings : Surroundings) :
    List (Except Thrown ProtocolRequest) → Attempt (ProtocolGatewayActivator × Surroundings)
  | [] => (.ok (), activator, surroundings)
  | .error thrown :: _ => (.error thrown, activator, surroundings)
  | .ok request :: steps =>
    Attempt.andThen (addProtocol host activator surroundings request) fun state =>
      addProtocols state.1 state.2 steps

/-- The services are unregistered one by one; an exception of a listener ends the loop. -/
def unregisterAll (listeners : Listeners) : List String → Registry → Attempt Registry
  | [], registry => (.ok (), registry)
  | id :: ids, registry =>
    Attempt.andThen (registry.unregisterService listeners (protocolService id))
      (unregisterAll listeners ids)

/-- `stop`: unregister all services from the last to the first, close their protocols, forget all. -/
def ProtocolGatewayActivator.stop (activator : ProtocolGatewayActivator)
    (surroundings : Surroundings) : Attempt (ProtocolGatewayActivator × Surroundings) :=
  let joined := { activator with stopping := true, recovering := false }
  match unregisterAll host.listeners activator.services.reverse surroundings.registry with
  | (.error thrown, registry) => (.error thrown, joined, { surroundings with registry })
  | (.ok _, registry) =>
    (.ok (), { stopping := true },
      ⟨registry, surroundings.opened.filter fun id => id ∉ activator.services⟩)

/-- The recovery thread runs if any instance is to be reopened. -/
def startRecovery (activator : ProtocolGatewayActivator) (surroundings : Surroundings) :
    Attempt (ProtocolGatewayActivator × Surroundings) :=
  if activator.recoveries.any (·.enabled) then
    match host.thread with
    | .error thrown => (.error thrown, { activator with stopping := false }, surroundings)
    | .ok _ => (.ok (), { activator with stopping := false, recovering := true }, surroundings)
  else (.ok (), activator, surroundings)

/-- `start`, which stops the activator again when a step fails. -/
def ProtocolGatewayActivator.start (activator : ProtocolGatewayActivator)
    (surroundings : Surroundings) : Attempt (ProtocolGatewayActivator × Surroundings) :=
  match host.preferences with
  | .error thrown => (.error thrown, activator, surroundings)
  | .ok _ =>
    match Attempt.andThen (addProtocols host activator surroundings (protocolSteps host))
      fun state => startRecovery host state.1 state.2 with
    | (.ok _, state) => (.ok (), state)
    | (.error thrown, state) =>
      Attempt.andThen (state.1.stop host state.2) fun stopped => (.error thrown, stopped)

end Model

section Added

variable (host : ProtocolHost) (registry : Registry)

/-- The protocol opens, or its failure to open is only logged. -/
def Opens (request : ProtocolRequest) : Prop :=
  ∃ opened, openProtocol host request = .ok opened

/-- Requests that are added one after the other: their ids differ, they open, their names are free,
and no listener raises. -/
structure Adds (added : List ProtocolRequest) : Prop where
  distinct : (added.map ProtocolRequest.id).Nodup
  opens : ∀ request ∈ added, Opens host request
  free : ∀ request ∈ added, protocolService request.id ∉ registry.names
  told : ∀ request ∈ added, host.listeners.registered (protocolService request.id) = .ok ()

/-- A request whose service gets into the registry behind the others. -/
structure Registers (added : List ProtocolRequest) (request : ProtocolRequest) : Prop where
  fresh : request.id ∉ added.map ProtocolRequest.id
  opens : Opens host request
  free : protocolService request.id ∉ registry.names

def protocolEntry (request : ProtocolRequest) : ServiceEntry :=
  ⟨protocolService request.id, protocolProperties host request⟩

/-- The state after some requests were added. -/
structure Holds (added : List ProtocolRequest) (activator : ProtocolGatewayActivator)
    (surroundings : Surroundings) : Prop where
  adds : Adds host registry added
  services : activator.services = added.map ProtocolRequest.id
  entries : surroundings.registry = registry ++ added.map (protocolEntry host)
  opened : ∀ id ∈ surroundings.opened, id ∈ added.map ProtocolRequest.id

variable {host registry} {added : List ProtocolRequest} {activator : ProtocolGatewayActivator}
  {surroundings : Surroundings}

theorem protocolService_injective {one two : String}
    (same : protocolService one = protocolService two) : one = two := by
  unfold protocolService at same
  exact String.append_right_inj _ |>.mp same

theorem Adds.nil : Adds host registry [] where
  distinct := List.nodup_nil
  opens := by simp
  free := by simp
  told := by simp

theorem Adds.push {request : ProtocolRequest} (adds : Adds host registry added)
    (registers : Registers host registry added request)
    (told : host.listeners.registered (protocolService request.id) = .ok ()) :
    Adds host registry (added ++ [request]) where
  distinct := by
    rw [List.map_append]
    exact adds.distinct.append (List.nodup_singleton _)
      (List.disjoint_singleton.mpr registers.fresh)
  opens := by
    intro other member
    rcases List.mem_append.mp member with earlier | last
    · exact adds.opens other earlier
    · exact List.mem_singleton.mp last ▸ registers.opens
  free := by
    intro other member
    rcases List.mem_append.mp member with earlier | last
    · exact adds.free other earlier
    · exact List.mem_singleton.mp last ▸ registers.free
  told := by
    intro other member
    rcases List.mem_append.mp member with earlier | last
    · exact adds.told other earlier
    · exact List.mem_singleton.mp last ▸ told

theorem mem_names_iff {id : String} (free : protocolService id ∉ registry.names) :
    protocolService id ∈ (registry ++ added.map (protocolEntry host)).names ↔
      id ∈ added.map ProtocolRequest.id := by
  rw [names_append, List.mem_append, or_iff_right free]
  simp only [Registry.names, List.map_map, List.mem_map, Function.comp_apply, protocolEntry]
  constructor
  · rintro ⟨request, member, same⟩
    exact ⟨request, member, protocolService_injective same⟩
  · rintro ⟨request, member, rfl⟩
    exact ⟨request, member, rfl⟩

end Added

section Steps

variable {host : ProtocolHost} {registry : Registry} {added : List ProtocolRequest}
  {activator : ProtocolGatewayActivator} {surroundings : Surroundings}

/-- What adding a protocol comes to, in any state. -/
theorem addProtocol_cases (host : ProtocolHost) (activator : ProtocolGatewayActivator)
    (surroundings : Surroundings) (request : ProtocolRequest) :
    (∃ thrown ids, addProtocol host activator surroundings request =
        (.error thrown, { activator with ids }, surroundings) ∧ activator.ids ⊆ ids ∧
      ¬ (request.id ∉ activator.ids ∧ Opens host request ∧
        protocolService request.id ∉ surroundings.registry.names)) ∨
    ((request.id ∉ activator.ids ∧ Opens host request ∧
        protocolService request.id ∉ surroundings.registry.names) ∧
      ∃ thrown, host.listeners.registered (protocolService request.id) = .error thrown ∧
        addProtocol host activator surroundings request = (.error thrown, activator,
          { surroundings with registry := surroundings.registry ++ [protocolEntry host request] })) ∨
    ((request.id ∉ activator.ids ∧ Opens host request ∧
        protocolService request.id ∉ surroundings.registry.names) ∧
      host.listeners.registered (protocolService request.id) = .ok () ∧
      ∃ next after, addProtocol host activator surroundings request = (.ok (), next, after) ∧
        next.ids = activator.ids ++ [request.id] ∧
        next.services = activator.services ++ [request.id] ∧
        after.registry = surroundings.registry ++ [protocolEntry host request] ∧
        ∀ id ∈ after.opened, id ∈ surroundings.opened ∨ id = request.id) := by
  unfold addProtocol
  dsimp only
  by_cases known : request.id ∈ activator.ids
  · rw [if_pos known]
    exact .inl ⟨_, activator.ids, rfl, List.Subset.refl _, by simp [known]⟩
  rw [if_neg known]
  have erased : (activator.ids ++ [request.id]).erase request.id = activator.ids := by
    rw [List.erase_append_right _ known, List.erase_cons_head, List.append_nil]
  rw [erased]
  cases opening : openProtocol host request with
  | error thrown =>
    have fails : ¬ Opens host request := by
      rintro ⟨opened, done⟩
      rw [opening] at done
      cases done
    cases thrown with
    | unknown => exact .inl ⟨_, _, rfl, List.subset_append_left _ _, by simp [fails]⟩
    | poco name text => exact .inl ⟨_, activator.ids, rfl, List.Subset.refl _, by simp [fails]⟩
    | std what => exact .inl ⟨_, activator.ids, rfl, List.Subset.refl _, by simp [fails]⟩
  | ok opened =>
    have opens : Opens host request := ⟨opened, opening⟩
    by_cases taken : protocolService request.id ∈ surroundings.registry.names
    · refine .inl ⟨.poco "Exists" ("Exists: " ++ protocolService request.id), activator.ids, ?_,
        List.Subset.refl _, by simp [taken]⟩
      simp [Registry.registerService, taken]
    · cases told : host.listeners.registered (protocolService request.id) with
      | error thrown =>
        refine .inr (.inl ⟨⟨known, opens, taken⟩, thrown, rfl, ?_⟩)
        simp [Registry.registerService, taken, told, protocolEntry]
      | ok _ =>
        refine .inr (.inr ⟨⟨known, opens, taken⟩, rfl, ?_⟩)
        simp only [Registry.registerService, taken, told, if_false]
        refine ⟨_, _, rfl, rfl, rfl, rfl, ?_⟩
        intro id member
        cases opened with
        | false => exact .inl member
        | true => simpa using member

variable (holds : Holds host registry added activator surroundings)
  (ids : activator.ids = added.map ProtocolRequest.id)
include holds ids

theorem Holds.registers_iff (request : ProtocolRequest) :
    (request.id ∉ activator.ids ∧ Opens host request ∧
        protocolService request.id ∉ surroundings.registry.names) ↔
      Registers host registry added request := by
  rw [ids, holds.entries]
  constructor
  · rintro ⟨fresh, opens, free⟩
    rw [names_append, List.mem_append, not_or] at free
    exact ⟨fresh, opens, free.1⟩
  · intro registers
    exact ⟨registers.fresh, registers.opens, (not_congr (mem_names_iff registers.free)).mpr
      registers.fresh⟩

theorem Holds.push {request : ProtocolRequest} (registers : Registers host registry added request)
    (told : host.listeners.registered (protocolService request.id) = .ok ()) :
    ∃ next after, addProtocol host activator surroundings request = (.ok (), next, after) ∧
      next.ids = (added ++ [request]).map ProtocolRequest.id ∧
      Holds host registry (added ++ [request]) next after := by
  rcases addProtocol_cases host activator surroundings request with
    ⟨_, _, _, _, never⟩ | ⟨_, thrown, raised, _⟩ |
      ⟨_, _, next, after, done, nextIds, services, entries, opened⟩
  · exact absurd ((holds.registers_iff ids request).mpr registers) never
  · rw [told] at raised
    cases raised
  · refine ⟨next, after, done, by rw [nextIds, ids]; simp, holds.adds.push registers told, ?_, ?_, ?_⟩
    · rw [services, holds.services]
      simp
    · rw [entries, holds.entries]
      simp
    · intro id member
      rw [List.map_append, List.mem_append]
      rcases opened id member with before | rfl
      · exact .inl (holds.opened id before)
      · exact .inr (by simp)

theorem addProtocols_append {more : List ProtocolRequest}
    (adds : Adds host registry (added ++ more)) (rest : List (Except Thrown ProtocolRequest)) :
    ∃ next after, next.ids = (added ++ more).map ProtocolRequest.id ∧
      Holds host registry (added ++ more) next after ∧
      addProtocols host activator surroundings (more.map .ok ++ rest) =
        addProtocols host next after rest := by
  induction more generalizing added activator surroundings with
  | nil => exact ⟨activator, surroundings, by simpa using ids, by simpa using holds, rfl⟩
  | cons request more ih =>
    have listed : request ∈ added ++ request :: more := by simp
    -- The request differs from those before it.
    have distinct := adds.distinct
    rw [List.map_append, List.map_cons, List.nodup_middle, List.nodup_cons] at distinct
    have registers : Registers host registry added request :=
      ⟨fun member => distinct.1 (List.mem_append_left _ member), adds.opens request listed,
        adds.free request listed⟩
    obtain ⟨next, after, done, nextIds, nextHolds⟩ :=
      holds.push ids registers (adds.told request listed)
    obtain ⟨last, end', lastIds, lastHolds, whole⟩ := ih nextHolds nextIds (by simpa using adds)
    refine ⟨last, end', by simpa using lastIds, by simpa using lastHolds, ?_⟩
    rw [List.map_cons, List.cons_append, addProtocols, done]
    exact whole

/-- How the loops over the requests end. -/
theorem addProtocols_cases (steps : List (Except Thrown ProtocolRequest)) :
    ∃ more rest, steps = more.map .ok ++ rest ∧ ∃ result next after,
      addProtocols host activator surroundings steps = (result, next, after) ∧
      (Holds host registry (added ++ more) next after ∨ Adds host registry (added ++ more) ∧
        ∃ request rest' thrown, rest = .ok request :: rest' ∧
          Registers host registry (added ++ more) request ∧
          host.listeners.registered (protocolService request.id) = .error thrown) := by
  induction steps generalizing added activator surroundings with
  | nil => exact ⟨[], [], rfl, _, _, _, rfl, .inl (by simpa using holds)⟩
  | cons step steps ih =>
    cases step with
    | error thrown => exact ⟨[], _, rfl, _, _, _, rfl, .inl (by simpa using holds)⟩
    | ok request =>
      rcases addProtocol_cases host activator surroundings request with
        ⟨thrown, kept, done, _, _⟩ | ⟨can, thrown, raised, done⟩ | ⟨can, told, _⟩
      · refine ⟨[], _, rfl, .error thrown, { activator with ids := kept }, surroundings, ?_, .inl ?_⟩
        · rw [addProtocols, done]
          rfl
        · rw [List.append_nil]
          exact ⟨holds.adds, holds.services, holds.entries, holds.opened⟩
      · have registers := (holds.registers_iff ids request).mp can
        refine ⟨[], _, rfl, _, _, _, rfl, .inr ⟨by simpa using holds.adds, request, steps, thrown, rfl,
          by simpa using registers, raised⟩⟩
      · have registers := (holds.registers_iff ids request).mp can
        obtain ⟨next, after, done, nextIds, nextHolds⟩ := holds.push ids registers told
        obtain ⟨more, rest, rfl, result, last, end', whole, ends⟩ := ih nextHolds nextIds
        refine ⟨request :: more, rest, rfl, result, last, end', ?_, by simpa using ends⟩
        rw [addProtocols, done]
        exact whole

omit holds ids

theorem addProtocols_keeps (host : ProtocolHost) (activator : ProtocolGatewayActivator)
    (surroundings : Surroundings) (steps : List (Except Thrown ProtocolRequest)) :
    activator.ids ⊆ (addProtocols host activator surroundings steps).2.1.ids ∧
    activator.services ⊆ (addProtocols host activator surroundings steps).2.1.services ∧
    surroundings.registry ⊆ (addProtocols host activator surroundings steps).2.2.registry := by
  induction steps generalizing activator surroundings with
  | nil => exact ⟨List.Subset.refl _, List.Subset.refl _, List.Subset.refl _⟩
  | cons step steps ih =>
    cases step with
    | error thrown => exact ⟨List.Subset.refl _, List.Subset.refl _, List.Subset.refl _⟩
    | ok request =>
      rw [addProtocols]
      rcases addProtocol_cases host activator surroundings request with
        ⟨thrown, kept, done, more, _⟩ | ⟨_, thrown, _, done⟩ |
          ⟨_, _, next, after, done, nextIds, services, entries, _⟩
      · rw [done]
        exact ⟨more, List.Subset.refl _, List.Subset.refl _⟩
      · rw [done]
        exact ⟨List.Subset.refl _, List.Subset.refl _, List.subset_append_left _ _⟩
      · rw [done]
        obtain ⟨one, two, three⟩ := ih next after
        rw [nextIds] at one
        rw [services] at two
        rw [entries] at three
        exact ⟨List.Subset.trans (List.subset_append_left _ _) one,
          List.Subset.trans (List.subset_append_left _ _) two,
          List.Subset.trans (List.subset_append_left _ _) three⟩

end Steps

section Stop

variable {host : ProtocolHost} {registry : Registry} {added : List ProtocolRequest}
  {activator : ProtocolGatewayActivator} {surroundings : Surroundings}

theorem unregisterAll_quiet (adds : Adds host registry added)
    (quiet : ∀ request ∈ added, host.listeners.unregistered (protocolService request.id) = .ok ()) :
    unregisterAll host.listeners (added.map ProtocolRequest.id).reverse
      (registry ++ added.map (protocolEntry host)) = (.ok (), registry) := by
  induction added using List.reverseRecOn with
  | nil => simp [unregisterAll]
  | append_singleton earlier request ih =>
    have distinct := adds.distinct
    rw [List.map_append, List.map_singleton, List.nodup_append] at distinct
    have fresh : request.id ∉ earlier.map ProtocolRequest.id :=
      fun member => distinct.2.2 _ member _ (List.mem_singleton_self _) rfl
    have free := adds.free request (by simp)
    have adds' : Adds host registry earlier :=
      ⟨distinct.1, fun other member => adds.opens other (by simp [member]),
        fun other member => adds.free other (by simp [member]),
        fun other member => adds.told other (by simp [member])⟩
    -- The last service is in the registry, and only there.
    have listed : protocolService request.id ∈
        (registry ++ (earlier ++ [request]).map (protocolEntry host)).names :=
      (mem_names_iff free).mpr (by simp)
    have single : protocolService request.id ∉
        (registry ++ earlier.map (protocolEntry host)).names :=
      (not_congr (mem_names_iff free)).mpr fresh
    have gone := filter_last single (protocolProperties host request)
    rw [List.map_append, List.map_singleton, List.reverse_append, List.reverse_singleton,
      List.singleton_append, unregisterAll, Registry.unregisterService, if_pos listed,
      quiet request (by simp)]
    rw [List.map_append, List.map_singleton, ← List.append_assoc]
    unfold Attempt.andThen
    dsimp only
    rw [show protocolEntry host request = ⟨protocolService request.id,
      protocolProperties host request⟩ from rfl, gone]
    exact ih adds' fun other member => quiet other (by simp [member])

theorem unregistered_of_unregisterAll {ids : List String}
    (done : (unregisterAll host.listeners ids registry).1 = .ok ()) :
    ∀ id ∈ ids, host.listeners.unregistered (protocolService id) = .ok () := by
  induction ids generalizing registry with
  | nil => simp
  | cons id ids ih =>
    unfold unregisterAll at done
    rw [andThen_ok_iff] at done
    obtain ⟨first, others⟩ := done
    intro other member
    rcases List.mem_cons.mp member with rfl | later
    · unfold Registry.unregisterService at first
      split at first
      · exact first
      · cases first
    · exact ih others other later

theorem unregisterAll_keeps {ids : List String} {entry : ServiceEntry}
    (other : ∀ id ∈ ids, entry.name ≠ protocolService id) (member : entry ∈ registry) :
    entry ∈ (unregisterAll host.listeners ids registry).2 := by
  induction ids generalizing registry with
  | nil => exact member
  | cons id ids ih =>
    rw [List.forall_mem_cons] at other
    unfold unregisterAll Attempt.andThen Registry.unregisterService
    split_ifs with listed
    · have kept : entry ∈ registry.filter fun entry => entry.name != protocolService id :=
        List.mem_filter.mpr ⟨member, by simpa using other.1⟩
      cases host.listeners.unregistered (protocolService id) with
      | ok _ => exact ih other.2 kept
      | error thrown => exact kept
    · exact member

theorem stop_quiet (holds : Holds host registry added activator surroundings)
    (quiet : ∀ request ∈ added, host.listeners.unregistered (protocolService request.id) = .ok ()) :
    activator.stop host surroundings = (.ok (), { stopping := true }, ⟨registry, []⟩) := by
  unfold ProtocolGatewayActivator.stop
  dsimp only
  rw [holds.services, holds.entries, unregisterAll_quiet holds.adds quiet]
  have none : surroundings.opened.filter (fun id => id ∉ added.map ProtocolRequest.id) = [] := by
    rw [List.filter_eq_nil_iff]
    intro id member
    simpa using holds.opened id member
  dsimp only
  rw [none]

end Stop

section Failures

/-- No listener raises: not at the registration of a protocol whose turn comes, and not when those
that were added are unregistered. -/
def Quiet (host : ProtocolHost) (registry : Registry) : Prop :=
  ∀ added rest, protocolSteps host = added.map .ok ++ rest → Adds host registry added →
    (∀ request ∈ added, host.listeners.unregistered (protocolService request.id) = .ok ()) ∧
    ∀ request rest', rest = .ok request :: rest' → Registers host registry added request →
      host.listeners.registered (protocolService request.id) = .ok ()

/-- What can be seen of a start; the flag for the thread is only read by the thread. -/
def ProtocolGatewayActivator.observed
    (attempt : Attempt (Loaded ProtocolGatewayActivator Surroundings)) :
    Except Thrown Unit × Surroundings × Option ProtocolGatewayActivator :=
  (attempt.1, attempt.2.surroundings,
    attempt.2.activator.map fun activator => { activator with stopping := false })

/-- A failed start of the protocol gateway leaves nothing behind. -/
structure ProtocolGatewayActivator.LeavesNothing (before : Registry)
    (after : Loaded ProtocolGatewayActivator Surroundings) : Prop where
  registry : ∀ entry ∈ after.surroundings.registry, entry ∈ before
  closed : after.surroundings.opened = []
  retried : ∀ host : ProtocolHost,
    observed (startBundle {} (start host) after) =
      observed (startBundle {} (start host) ⟨none, after.surroundings⟩)

variable {host : ProtocolHost} {registry : Registry} {activator : ProtocolGatewayActivator}
  {surroundings : Surroundings}

theorem addProtocol_stopping (stopping : Bool) (request : ProtocolRequest) :
    addProtocol host { activator with stopping } surroundings request =
      ((addProtocol host activator surroundings request).1,
        { (addProtocol host activator surroundings request).2.1 with stopping },
        (addProtocol host activator surroundings request).2.2) := by
  unfold addProtocol
  dsimp only
  split
  · rfl
  · split
    · rfl
    · rfl
    · split <;> rfl

theorem addProtocols_stopping (host : ProtocolHost) (activator : ProtocolGatewayActivator)
    (surroundings : Surroundings) (stopping : Bool) (steps : List (Except Thrown ProtocolRequest)) :
    addProtocols host { activator with stopping } surroundings steps =
      ((addProtocols host activator surroundings steps).1,
        { (addProtocols host activator surroundings steps).2.1 with stopping },
        (addProtocols host activator surroundings steps).2.2) := by
  induction steps generalizing activator surroundings with
  | nil => rfl
  | cons step steps ih =>
    cases step with
    | error thrown => rfl
    | ok request =>
      rw [addProtocols, addProtocols, addProtocol_stopping]
      generalize addProtocol host activator surroundings request = added
      obtain ⟨result, next, after⟩ := added
      cases result with
      | error thrown => rfl
      | ok _ => exact ih next after

/-- The flag that an earlier stop left behind has no influence on a start. -/
theorem observed_stopping (stopping : Bool) (surroundings : Surroundings) :
    ProtocolGatewayActivator.observed
        (startBundle {} (ProtocolGatewayActivator.start host) ⟨some { stopping }, surroundings⟩) =
      ProtocolGatewayActivator.observed
        (startBundle {} (ProtocolGatewayActivator.start host) ⟨none, surroundings⟩) := by
  unfold startBundle ProtocolGatewayActivator.start
  simp only [Option.getD_some, Option.getD_none]
  cases host.preferences with
  | error thrown => rfl
  | ok _ =>
    have same := addProtocols_stopping host {} surroundings stopping (protocolSteps host)
    dsimp only at same ⊢
    rw [same]
    generalize addProtocols host {} surroundings (protocolSteps host) = added
    obtain ⟨result, next, after⟩ := added
    cases result with
    | error thrown =>
      -- The stop sets the flag, whatever it was.
      rfl
    | ok _ =>
      unfold Attempt.andThen startRecovery
      dsimp only
      cases next.recoveries.any (·.enabled) with
      | false => rfl
      | true => cases host.thread <;> rfl

/-- A gateway with one optional protocol. -/
def loneHost (id : String) : ProtocolHost where
  preferences := .ok ()
  configuration :=
    { hasProperty := fun _ => false
      getUInt := fun _ => .ok 0
      getUIntOr := fun _ value => .ok value
      getBool := fun key value => .ok (if key = "pdr.udp.enabled" then true else value)
      getString := fun key value => .ok (if key = "pdr.udp.id" then id else value) }
  construct := fun _ _ => .ok ()
  opening := fun _ => .ok ()
  listeners := ⟨fun _ => .ok (), fun _ => .ok ()⟩
  thread := .ok ()
  symbolicName := ""
  now := 0

theorem protocolSteps_loneHost (id : String) :
    protocolSteps (loneHost id) = [.ok ⟨id, "udp", false, true, 1000, 30000⟩] := by
  have kinds : ∀ kind, protocolInstances (loneHost id) kind =
      .ok (if kind = .udp then [⟨0, "pdr.udp", id, true, true⟩] else []) := by
    intro kind
    cases kind <;> rfl
  unfold protocolSteps protocolKinds
  simp only [List.flatMap_cons, List.flatMap_nil, kinds, stepsOf]
  rfl

theorem start_loneHost (id : String) : ((activator.start (loneHost id) surroundings).1 = .ok () ↔
      (addProtocol (loneHost id) activator surroundings
        ⟨id, "udp", false, true, 1000, 30000⟩).1 = .ok ()) := by
  unfold ProtocolGatewayActivator.start
  rw [protocolSteps_loneHost, addProtocols]
  generalize addProtocol (loneHost id) activator surroundings
    ⟨id, "udp", false, true, 1000, 30000⟩ = added
  obtain ⟨result, next, after⟩ := added
  have thread : (startRecovery (loneHost id) next after).1 = .ok () := by
    unfold startRecovery
    split <;> rfl
  have preferences : (loneHost id).preferences = .ok () := rfl
  rw [preferences]
  cases result with
  | ok _ =>
    unfold Attempt.andThen addProtocols
    dsimp only
    generalize startRecovery (loneHost id) next after = recovery at thread
    obtain ⟨result', last⟩ := recovery
    obtain rfl : result' = .ok () := thread
    simp
  | error thrown =>
    unfold Attempt.andThen
    dsimp only
    split <;> simp

theorem observed_loneHost {id : String} (kept : id ∈ activator.ids)
    (free : protocolService id ∉ surroundings.registry.names) :
    ProtocolGatewayActivator.observed (startBundle {} (ProtocolGatewayActivator.start (loneHost id))
        ⟨some activator, surroundings⟩) ≠
      ProtocolGatewayActivator.observed (startBundle {}
        (ProtocolGatewayActivator.start (loneHost id)) ⟨none, surroundings⟩) := by
  intro same
  have results : (activator.start (loneHost id) surroundings).1 =
      (ProtocolGatewayActivator.start (loneHost id) {} surroundings).1 := by
    have first := congrArg Prod.fst same
    exact first
  have fresh : (ProtocolGatewayActivator.start (loneHost id) {} surroundings).1 = .ok () := by
    rw [start_loneHost]
    simp [addProtocol, openProtocol, loneHost, Registry.registerService, free]
  rw [fresh, start_loneHost] at results
  simp [addProtocol, kept] at results

theorem stop_disturbed (activator : ProtocolGatewayActivator) (surroundings : Surroundings)
    {id : String} (listed : id ∈ activator.services)
    (raised : host.listeners.unregistered (protocolService id) ≠ .ok ()) :
    (activator.stop host surroundings).1 ≠ .ok () ∧
      (activator.stop host surroundings).2.1.ids = activator.ids := by
  unfold ProtocolGatewayActivator.stop
  dsimp only
  split
  · next thrown registry ended => exact ⟨by simp, rfl⟩
  · next registry ended =>
    have done : (unregisterAll host.listeners activator.services.reverse surroundings.registry).1 =
        .ok () := by rw [ended]
    exact absurd (unregistered_of_unregisterAll done id (List.mem_reverse.mpr listed)) raised

theorem stop_registry : (activator.stop host surroundings).2.2.registry =
    (unregisterAll host.listeners activator.services.reverse surroundings.registry).2 := by
  unfold ProtocolGatewayActivator.stop
  dsimp only
  split
  · next ended => rw [ended]
  · next ended => rw [ended]

theorem start_failed {thrown : Thrown} (found : host.preferences = .ok ())
    (failed : (activator.start host surroundings).1 = .error thrown) :
    ∃ stopping, (activator.start host surroundings).2 =
      ({ (addProtocols host activator surroundings (protocolSteps host)).2.1 with stopping }.stop host
        (addProtocols host activator surroundings (protocolSteps host)).2.2).2 := by
  unfold ProtocolGatewayActivator.start at failed ⊢
  rw [found] at failed ⊢
  dsimp only at failed ⊢
  generalize addProtocols host activator surroundings (protocolSteps host) = added at failed ⊢
  obtain ⟨result, next, after⟩ := added
  -- The result of the stop does not change the state that it leaves.
  have stopped : ∀ (attempt : Attempt (ProtocolGatewayActivator × Surroundings)) (first : Thrown),
      (Attempt.andThen attempt fun state => (.error first, state)).2 = attempt.2 := by
    rintro ⟨ended, state⟩ first
    cases ended <;> rfl
  cases result with
  | error first =>
    refine ⟨next.stopping, ?_⟩
    unfold Attempt.andThen at failed ⊢
    exact stopped _ first
  | ok _ =>
    have recovery : (startRecovery host next after).1 = .ok () ∨
        ∃ first, startRecovery host next after =
          (.error first, { next with stopping := false }, after) := by
      unfold startRecovery
      split
      · cases host.thread with
        | ok _ => exact .inl rfl
        | error first => exact .inr ⟨first, rfl⟩
      · exact .inl rfl
    have whole : (Attempt.andThen ((.ok (), next, after) : Attempt (_ × _)) fun state =>
        startRecovery host state.1 state.2) = startRecovery host next after := rfl
    rw [whole] at failed ⊢
    rcases recovery with fine | ⟨first, ended⟩
    · generalize startRecovery host next after = last at failed fine
      obtain ⟨ended, state⟩ := last
      obtain rfl : ended = .ok () := fine
      cases failed
    · rw [ended]
      exact ⟨false, stopped _ first⟩

/-- What is left of an activator that is stopped. -/
def stoppedAt (host : ProtocolHost) (stopping : Bool)
    (state : ProtocolGatewayActivator × Surroundings) :
    Loaded ProtocolGatewayActivator Surroundings :=
  let stopped := ({ state.1 with stopping }.stop host state.2).2
  ⟨some stopped.1, stopped.2⟩

section Left

variable {added : List ProtocolRequest} {next : ProtocolGatewayActivator} {after : Surroundings}
  {stopping : Bool}
variable {rest : List (Except Thrown ProtocolRequest)}

theorem unregistered_of_nothing (adds : Adds host registry added)
    (ids : next.ids = added.map ProtocolRequest.id) (holds : Holds host registry added next after)
    (nothing : ProtocolGatewayActivator.LeavesNothing registry
      (stoppedAt host stopping (addProtocols host next after rest).2)) {request : ProtocolRequest}
    (member : request ∈ added) :
    host.listeners.unregistered (protocolService request.id) = .ok () := by
  by_contra raised
  obtain ⟨keepsIds, keepsServices, -⟩ := addProtocols_keeps host next after rest
  generalize addProtocols host next after rest = last at nothing keepsIds keepsServices
  obtain ⟨result, activator, surroundings⟩ := last
  have listed : request.id ∈ next.services := by
    rw [holds.services]
    exact List.mem_map_of_mem member
  have known : request.id ∈ next.ids := by
    rw [ids]
    exact List.mem_map_of_mem member
  obtain ⟨-, kept⟩ := stop_disturbed { activator with stopping } surroundings
    (keepsServices listed) raised
  refine observed_loneHost (kept ▸ keepsIds known) (fun taken => ?_)
    (nothing.retried (loneHost request.id))
  -- The registry is the one before the start, which has no service of that name.
  obtain ⟨entry, present, named⟩ := List.mem_map.mp taken
  exact adds.free request member (named ▸ List.mem_map_of_mem (nothing.registry entry present))

theorem registered_of_nothing {request : ProtocolRequest}
    (ids : next.ids = added.map ProtocolRequest.id) (holds : Holds host registry added next after)
    (nothing : ProtocolGatewayActivator.LeavesNothing registry
      (stoppedAt host stopping (addProtocols host next after (.ok request :: rest)).2))
    (registers : Registers host registry added request) :
    host.listeners.registered (protocolService request.id) = .ok () := by
  by_contra raised
  rcases addProtocol_cases host next after request with
    ⟨_, _, _, _, never⟩ | ⟨_, first, _, done⟩ | ⟨_, told, _⟩
  · exact never ((holds.registers_iff ids request).mpr registers)
  · have ended : addProtocols host next after (.ok request :: rest) = (.error first, next,
        { after with registry := after.registry ++ [protocolEntry host request] }) := by
      rw [addProtocols, done]
      rfl
    rw [ended] at nothing
    have present : protocolEntry host request ∈ registry := by
      apply nothing.registry
      rw [stoppedAt, stop_registry]
      refine unregisterAll_keeps (fun id member same => ?_) (by simp)
      rw [List.mem_reverse] at member
      have other := protocolService_injective same
      rw [holds.services] at member
      exact registers.fresh (other ▸ by simpa using member)
    exact registers.free (List.mem_map_of_mem present)
  · exact raised told

end Left

/-- A failed start of the protocol gateway leaves nothing behind exactly if no listener of the
registry raises in it. -/
theorem ProtocolGatewayActivator.leavesNothing_iff (host : ProtocolHost) (registry : Registry)
    {thrown : Thrown}
    (failed : (startBundle {} (start host) ⟨none, ⟨registry, []⟩⟩).1 = .error thrown) :
    LeavesNothing registry (startBundle {} (start host) ⟨none, ⟨registry, []⟩⟩).2 ↔
      (∃ thrown, host.preferences = .error thrown) ∨ Quiet host registry := by
  have begun : Holds host registry [] {} ⟨registry, []⟩ := ⟨.nil, rfl, by simp, by simp⟩
  unfold startBundle at failed ⊢
  simp only [Option.getD_none] at failed ⊢
  cases found : host.preferences with
  | error thrown =>
    refine iff_of_true ⟨?_, ?_, ?_⟩ (.inl ⟨thrown, rfl⟩)
    · unfold start
      rw [found]
      exact fun entry member => member
    · unfold start
      rw [found]
    · intro other
      unfold start
      rw [found]
      exact observed_stopping false _
  | ok _ =>
    obtain ⟨stopping, stopped⟩ := start_failed found failed
    rw [stopped, or_iff_right (by simp)]
    constructor
    · intro nothing added rest split adds
      obtain ⟨next, after, nextIds, holds, whole⟩ := addProtocols_append begun rfl adds rest
      rw [← split] at whole
      rw [whole] at nothing
      have ids : next.ids = added.map ProtocolRequest.id := by simpa using nextIds
      rw [List.nil_append] at holds
      constructor
      · exact fun request member => unregistered_of_nothing adds ids holds nothing member
      · rintro request rest' rfl registers
        exact registered_of_nothing ids holds nothing registers
    · intro quiet
      obtain ⟨added, rest, split, result, next, after, ended, holds | disturbed⟩ :=
        addProtocols_cases begun rfl (protocolSteps host)
      · -- Every protocol that was added is taken back, whatever has failed.
        rw [List.nil_append] at holds
        rw [ended]
        have held : Holds host registry added { next with stopping } after :=
          ⟨holds.adds, holds.services, holds.entries, holds.opened⟩
        rw [stop_quiet held (quiet added rest split holds.adds).1]
        exact ⟨fun entry member => member, rfl, fun other => observed_stopping true _⟩
      · obtain ⟨adds, request, rest', thrown, rfl, registers, raised⟩ := disturbed
        have told := (quiet added _ split (by simpa using adds)).2 request rest' rfl
          (by simpa using registers)
        rw [told] at raised
        cases raised

/-- When a failed start leaves nothing behind, for the two gateways. -/
theorem failedStart_leavesNothing_iff (devices : DeviceHost) (protocols : ProtocolHost)
    (registry : Registry) (thrown : Thrown) :
    ((startBundle {} (DeviceGatewayActivator.start devices) ⟨none, registry⟩).1 = .error thrown →
      (DeviceGatewayActivator.LeavesNothing registry
          (startBundle {} (DeviceGatewayActivator.start devices) ⟨none, registry⟩).2 ↔
        FailsFirst devices registry)) ∧
    ((startBundle {} (ProtocolGatewayActivator.start protocols) ⟨none, ⟨registry, []⟩⟩).1 =
        .error thrown →
      (ProtocolGatewayActivator.LeavesNothing registry
          (startBundle {} (ProtocolGatewayActivator.start protocols) ⟨none, ⟨registry, []⟩⟩).2 ↔
        (∃ thrown, protocols.preferences = .error thrown) ∨ Quiet protocols registry)) :=
  ⟨fun failed => DeviceGatewayActivator.leavesNothing_iff devices registry failed,
    fun failed => ProtocolGatewayActivator.leavesNothing_iff protocols registry failed⟩

/-- A gateway with its simulated device, and with a GPIO device whose pin is missing. -/
def pinlessHost : DeviceHost where
  preferences := .ok ()
  configuration :=
    { hasProperty := fun _ => false
      getUInt := fun _ => .ok 0
      getUIntOr := fun _ value => .ok value
      getBool := fun key value => .ok (if key = "pdr.gpio.enabled" then true else value)
      getString := fun _ value => .ok value }
  participant := .ok ()
  construct := fun kind indexed => match kind with
    | .gpio => .error (.poco "Not found" "Not found: pdr.gpio.pin")
    | _ => .ok ⟨indexed.id, "simulated"⟩
  bridge := fun _ => ⟨true, true, true, .ok (), .ok ()⟩
  listeners := ⟨fun _ => .ok (), fun _ => .ok ()⟩
  symbolicName := "pdr.devices"

/-- The service of the simulated device stays in the registry when the start fails. -/
theorem pinless_start_leaves_service :
    ¬ ∀ (host : DeviceHost) (registry : Registry) (thrown : Thrown),
      (startBundle {} (DeviceGatewayActivator.start host) ⟨none, registry⟩).1 = .error thrown →
      DeviceGatewayActivator.LeavesNothing registry
        (startBundle {} (DeviceGatewayActivator.start host) ⟨none, registry⟩).2 := by
  intro all
  have nothing := all pinlessHost [] (.poco "Not found" "Not found: pdr.gpio.pin") rfl
  have stays : (startBundle {} (DeviceGatewayActivator.start pinlessHost) ⟨none, []⟩).2.surroundings =
      [⟨"pdr.device.simulation-1", [("pdr.device", "simulation-1"), ("pdr.deviceType", "simulated"),
        ("pdr.deviceState", "ready"), ("pdr.deviceRequired", "true"),
        ("pdr.bundle", "pdr.devices")]⟩] := rfl
  have listed := nothing.registry
  rw [stays] at listed
  simp at listed

end Failures

end PocoDDS.Services
