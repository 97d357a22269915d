import PocoDDS.DDS.Runtime
import Mathlib.Tactic

/-! What the gateways use: the service registry, the indexed configuration, and the bundle loader. -/

namespace PocoDDS.Services

open FastDDS

section Registry

/-- A registered service. -/
structure ServiceEntry where
  name : String
  properties : List (String × String)
  deriving DecidableEq, Repr

/-- The services by their names, which differ. -/
abbrev Registry := List ServiceEntry

/-- What the delegates of other bundles answer when a service comes or goes. -/
structure Listeners where
  registered : String → Except Thrown Unit
  unregistered : String → Except Thrown Unit

def Registry.names (registry : Registry) : List String :=
  registry.map ServiceEntry.name

/-- The service is in the registry when its listeners are called. -/
def Registry.registerService (registry : Registry) (listeners : Listeners) (name : String)
    (properties : List (String × String)) : Attempt Registry :=
  if name ∈ registry.names then (.error (.poco "Exists" ("Exists: " ++ name)), registry)
  else (listeners.registered name, registry ++ [⟨name, properties⟩])

def Registry.unregisterService (registry : Registry) (listeners : Listeners) (name : String) :
    Attempt Registry :=
  if name ∈ registry.names then
    (listeners.unregistered name, registry.filter fun entry => entry.name != name)
  else (.error (.poco "Not found" ("Not found: " ++ name)), registry)

variable {registry : Registry}

theorem names_append (registry later : Registry) :
    (registry ++ later).names = registry.names ++ later.names :=
  List.map_append ..

theorem filter_last {name : String} (fresh : name ∉ registry.names)
    (properties : List (String × String)) :
    ((registry ++ [ServiceEntry.mk name properties]).filter fun entry => entry.name != name) =
      registry := by
  have others : ∀ entry ∈ registry, (entry.name != name) = true := by
    intro entry member
    simp only [bne_iff_ne, ne_eq]
    rintro rfl
    exact fresh (List.mem_map_of_mem member)
  rw [List.filter_append, List.filter_eq_self.mpr others]
  simp

end Registry

section Configuration

/-- What the configuration answers; a value that does not convert raises. -/
structure Configuration where
  hasProperty : String → Bool
  getUInt : String → Except Thrown Nat
  getUIntOr : String → Nat → Except Thrown Nat
  getBool : String → Bool → Except Thrown Bool
  getString : String → String → Except Thrown String

structure IndexedInstance where
  index : Nat := 0
  keyPrefix : String
  id : String
  enabled : Bool
  legacy : Bool
  deriving DecidableEq, Repr

variable (configuration : Configuration)

def indexedFrom (base defaultIdPrefix : String) (ids : List String) (index : Nat) :
    Nat → Except Thrown (List IndexedInstance)
  | 0 => .ok []
  | count + 1 => do
    let key := base ++ "." ++ toString index
    let id ← configuration.getString (key ++ ".id") (defaultIdPrefix ++ "-" ++ toString (index + 1))
    let enabled ← configuration.getBool (key ++ ".enabled") true
    if enabled && id == "" then
      .error (.poco "Invalid argument" ("Invalid argument: " ++ key ++ ".id must not be empty"))
    else if enabled && ids.contains id then
      .error (.poco "Invalid argument"
        ("Invalid argument: " ++ base ++ " contains duplicate id " ++ id))
    else
      let rest ← indexedFrom base defaultIdPrefix (if enabled then ids ++ [id] else ids)
        (index + 1) count
      pure (⟨index, key, id, enabled, false⟩ :: rest)

/-- The legacy keys of a single instance, or the indexed ones if there is a count. -/
def indexedInstances (base : String) (legacyEnabledDefault : Bool) (indexedDefaultCount : Nat)
    (defaultIdPrefix : String) : Except Thrown (List IndexedInstance) := do
  -- The callers leave the maximum at its default.
  let maximumCount := 256
  let countKey := base ++ ".count"
  let indexed := configuration.hasProperty countKey
  let count ← if indexed then configuration.getUInt countKey else pure indexedDefaultCount
  if count > maximumCount then
    .error (.poco "Invalid argument"
      ("Invalid argument: " ++ countKey ++ " exceeds maximum " ++ toString maximumCount))
  else if indexed then indexedFrom configuration base defaultIdPrefix [] 0 count
  else
    let enabled ← configuration.getBool (base ++ ".enabled") legacyEnabledDefault
    if enabled || indexedDefaultCount > 0 then
      let id ← configuration.getString (base ++ ".id") (defaultIdPrefix ++ "-1")
      pure [⟨0, base, id, enabled, true⟩]
    else pure []

/-- What the loops over one kind of instance come to: the requests of the enabled instances, each of
which may fail to be read, or the failure to list them. -/
def stepsOf {ρ : Type} (instances : Except Thrown (List IndexedInstance))
    (request : IndexedInstance → Except Thrown ρ) : List (Except Thrown ρ) :=
  match instances with
  | .error thrown => [.error thrown]
  | .ok listed => (listed.filter (·.enabled)).map request

end Configuration

/-- The bundle's activator, once it is created, and what surrounds it. -/
structure Loaded (α ω : Type) where
  activator : Option α
  surroundings : ω

/-- `startBundle` keeps the activator and does not stop it when its start raises. -/
def startBundle {α ω : Type} (created : α) (start : α → ω → Attempt (α × ω))
    (loaded : Loaded α ω) : Attempt (Loaded α ω) :=
  let activator := loaded.activator.getD created
  let started := start activator loaded.surroundings
  (started.1, ⟨some started.2.1, started.2.2⟩)

end PocoDDS.Services
