import Mathlib.Data.List.Sort
import Mathlib.Data.Rat.Defs
import PocoDDS.Lib.Assoc
import PocoDDS.Lib.Outcome

/-! The compatibility gate between two published contract surfaces. -/

namespace PocoDDS.Tools.Compatibility

open AssocList OutcomeLogic

/-- A value as the JSON reader of the tools returns it. -/
inductive ConfigValue
  | null
  | bool (value : Bool)
  | number (value : ℚ)
  | string (value : String)
  | array (items : List ConfigValue)
  | object (members : List (String × ConfigValue))

/-- The `type` keyword: one name, or a list of alternatives. -/
inductive TypeKeyword
  | name (name : String)
  | union (names : List String)
  deriving DecidableEq

/-- The keywords of a property definition that the surface records; the others are dropped. -/
structure Constraints where
  type : Option TypeKeyword := none
  minimum : Option ℚ := none
  maximum : Option ℚ := none
  minLength : Option ℚ := none
  maxLength : Option ℚ := none
  enum : Option (List ConfigValue) := none

/-- What `schema_surface` keeps of the configuration schema. -/
structure ConfigurationSurface where
  required : List String := []
  properties : List (String × Constraints) := []
  patterns : List (String × Constraints) := []

/-- The versions and manifest headers that plugins rely on. -/
structure PluginContract where
  apiVersion : String
  abiVersion : String
  manifestHeaders : List String

/-- A contract surface, as `current_surface` collects it and a baseline file stores it. -/
structure ContractSurface where
  runtimeVersion : String
  pluginContract : Option PluginContract := none
  cmakeTargets : List String := []
  publicHeaders : List (String × List String) := []
  configuration : ConfigurationSurface := {}
  operations : List String := []
  channels : List (String × String) := []

def versionTuple (value : String) : Except String (Nat × Nat × Nat) :=
  let decimal := fun digits : List Char =>
    digits.foldl (fun number digit => 10 * number + (digit.toNat - '0'.toNat)) 0
  match value.toList.splitOn '.' with
  | [major, minor, patch] =>
    -- An empty part has no digits, and is refused like any other text.
    if [major, minor, patch].all fun part => !part.isEmpty && part.all Char.isDigit then
      .ok (decimal major, decimal minor, decimal patch)
    else .error ("invalid semantic version: " ++ value)
  | _ => .error ("invalid semantic version: " ++ value)

/-- What two values have in common when a Python set holds them for one and the same. -/
inductive SetKey
  | null
  | number (value : ℚ)
  | string (value : String)
  deriving DecidableEq

def setKey : ConfigValue → Except String SetKey
  | .null => .ok .null
  -- A boolean is a number there: `True == 1` and `False == 0`, with equal hashes.
  | .bool value => .ok (.number (if value then 1 else 0))
  | .number value => .ok (.number value)
  | .string value => .ok (.string value)
  | .array _ => .error "unhashable type: 'list'"
  | .object _ => .error "unhashable type: 'dict'"

def setKeys : List ConfigValue → Except String (List SetKey)
  | [] => .ok []
  | value :: rest => do
    let key ← setKey value
    let keys ← setKeys rest
    return key :: keys

/-- A lower bound that was dropped or raised. -/
def raised : Option ℚ → Option ℚ → Bool
  | none, _ => false
  | some _, none => true
  | some old, some new => old < new

/-- An upper bound that was dropped or lowered. -/
def lowered : Option ℚ → Option ℚ → Bool
  | none, _ => false
  | some _, none => true
  | some old, some new => new < old

/-- An enumeration that was dropped or no longer lists one of its values. -/
def enumShrunk : Option (List ConfigValue) → Option (List ConfigValue) → Except String Bool
  | none, _ => .ok false
  | some _, none => .ok true
  | some old, some new => do
    let wanted ← setKeys old
    let offered ← setKeys new
    return !wanted.all fun key => offered.contains key

/-- Whether a changed definition counts as breaking. A surface has no other keywords than these. -/
def constraintsBreaking (old new : Constraints) : Except String Bool :=
  if old.type ≠ new.type then .ok true
  else if raised old.minimum new.minimum then .ok true
  else if lowered old.maximum new.maximum then .ok true
  else if raised old.minLength new.minLength then .ok true
  else if lowered old.maxLength new.maxLength then .ok true
  else enumShrunk old.enum new.enum

/-- The findings for one definition. -/
def definitionBreak (removed changed : String) (current : List (String × Constraints))
    (name : String) (definition : Constraints) : Except String (List String) :=
  match current.lookup name with
  | none => .ok [removed ++ name]
  | some other => do
    let breaking ← constraintsBreaking definition other
    return if breaking then [changed ++ name] else []

/-- The findings for one group of definitions, properties or patterns, in the baseline's order. -/
def definitionBreaks (removed changed : String) (current : List (String × Constraints)) :
    List (String × Constraints) → Except String (List String)
  | [] => .ok []
  | (name, definition) :: rest => do
    let found ← definitionBreak removed changed current name definition
    let others ← definitionBreaks removed changed current rest
    return found ++ others

/-- The findings for the plugin contract. -/
def pluginBreaks : Option PluginContract → Option PluginContract → List String
  | none, _ => []
  | some _, none => ["removed plugin compatibility contract"]
  | some old, some new =>
    (if old.apiVersion ≠ new.apiVersion then ["changed plugin contract apiVersion"] else []) ++
    (if old.abiVersion ≠ new.abiVersion then ["changed plugin contract abiVersion"] else []) ++
    (old.manifestHeaders.filter fun header => header ∉ new.manifestHeaders).map
      ("removed plugin manifest header: " ++ ·)

/-- The findings for one public header. -/
def headerBreaks (current : List (String × List String)) (header : String × List String) :
    List String :=
  match current.lookup header.1 with
  | none => ["removed public header: " ++ header.1]
  | some types => (header.2.filter fun typeName => typeName ∉ types).map fun typeName =>
      "removed public type: " ++ typeName ++ " (" ++ header.1 ++ ")"

/-- The findings for one channel. -/
def channelBreaks (current : List (String × String)) (channel : String × String) : List String :=
  match current.lookup channel.1 with
  | none => ["removed AsyncAPI channel: " ++ channel.1]
  | some address =>
    if address ≠ channel.2 then ["changed AsyncAPI address: " ++ channel.1] else []

/-- The names of a list that another lacks, each with the same finding before it. -/
def removedNames (finding : String) (baseline current : List String) : List String :=
  (baseline.filter fun name => name ∉ current).map (finding ++ ·)

/-- The properties that became mandatory, sorted. -/
def newlyRequired (baseline current : List String) : List String :=
  ((current.filter fun name => name ∉ baseline).dedup).insertionSort fun first second =>
    first ≤ second

/-- Every breaking change between two surfaces. -/
def breakingChanges (baseline current : ContractSurface) : Except String (List String) := do
  let old := baseline.configuration
  let new := current.configuration
  let properties ← definitionBreaks "removed configuration property: "
    "changed configuration constraints: " new.properties old.properties
  let patterns ← definitionBreaks "removed configuration pattern: "
    "changed configuration pattern constraints: " new.patterns old.patterns
  return pluginBreaks baseline.pluginContract current.pluginContract ++
    removedNames "removed CMake target: " baseline.cmakeTargets current.cmakeTargets ++
    baseline.publicHeaders.flatMap (headerBreaks current.publicHeaders) ++
    properties ++ patterns ++
    (newlyRequired old.required new.required).map ("new required configuration property: " ++ ·) ++
    removedNames "removed OpenAPI operation: " baseline.operations current.operations ++
    baseline.channels.flatMap (channelBreaks current.channels)

/-- The gate: breaking changes are errors unless the major version grew. -/
def compare (baseline current : ContractSurface) : Except String (List String) := do
  let baselineVersion ← versionTuple baseline.runtimeVersion
  let currentVersion ← versionTuple current.runtimeVersion
  let breaking ← breakingChanges baseline current
  if breaking ≠ [] ∧ currentVersion.1 ≤ baselineVersion.1 then
    return breaking ++
      ["breaking changes require a new Runtime major version and an intentional baseline update"]
  return []

section Meaning

/-- Whether a value is of a named JSON type. -/
def HasType (typeName : String) : ConfigValue → Prop
  | .null => typeName = "null"
  | .bool _ => typeName = "boolean"
  | .number value => typeName = "number" ∨ (typeName = "integer" ∧ value.den = 1)
  | .string _ => typeName = "string"
  | .array _ => typeName = "array"
  | .object _ => typeName = "object"

/-- What the `type` keyword asks of a value. -/
def TypeAllows : Option TypeKeyword → ConfigValue → Prop
  | none, _ => True
  | some (.name typeName), value => HasType typeName value
  | some (.union names), value => ∃ typeName ∈ names, HasType typeName value

/-- A lower bound on a measure of the value; values without this measure pass. -/
def AtLeast (bound measure : Option ℚ) : Prop :=
  ∀ limit ∈ bound, ∀ size ∈ measure, limit ≤ size

/-- An upper bound on a measure of the value. -/
def AtMost (bound measure : Option ℚ) : Prop :=
  ∀ limit ∈ bound, ∀ size ∈ measure, size ≤ limit

/-- The number of a numeric value. -/
def ConfigValue.number? : ConfigValue → Option ℚ
  | .number value => some value
  | _ => none

/-- The length of a string value in characters. -/
def ConfigValue.length? : ConfigValue → Option ℚ
  | .string value => some value.length
  | _ => none

/-- What the `enum` keyword asks of a value. -/
def EnumAllows (enum : Option (List ConfigValue)) (value : ConfigValue) : Prop :=
  ∀ values ∈ enum, value ∈ values

/-- A value meets every keyword of a definition; an absent keyword allows everything. -/
structure Constraints.Allows (constraints : Constraints) (value : ConfigValue) : Prop where
  type : TypeAllows constraints.type value
  minimum : AtLeast constraints.minimum value.number?
  maximum : AtMost constraints.maximum value.number?
  minLength : AtLeast constraints.minLength value.length?
  maxLength : AtMost constraints.maxLength value.length?
  enum : EnumAllows constraints.enum value

-- Whether a pattern, a regular expression, matches a property name.
variable (pattern : String → String → Bool)

/-- What a surface asks of the value under one name: its own definition and those of all the
patterns that match it. -/
structure ConfigurationSurface.AllowsAt (surface : ConfigurationSurface) (name : String)
    (value : ConfigValue) : Prop where
  property : ∀ definition, surface.properties.lookup name = some definition →
    definition.Allows value
  patterns : ∀ expression definition, surface.patterns.lookup expression = some definition →
    pattern expression name → definition.Allows value

/-- A configuration that has the required names and allowed values. -/
structure ConfigurationSurface.Satisfied (surface : ConfigurationSurface)
    (configuration : List (String × ConfigValue)) : Prop where
  required : ∀ name ∈ surface.required, (configuration.lookup name).isSome
  values : ∀ name value, configuration.lookup name = some value →
    surface.AllowsAt pattern name value

/-- Every header type, target, operation and channel address of the baseline is still there. -/
structure Retained (baseline current : ContractSurface) : Prop where
  types : ∀ header types, baseline.publicHeaders.lookup header = some types →
    ∃ kept, current.publicHeaders.lookup header = some kept ∧ ∀ typeName ∈ types, typeName ∈ kept
  targets : ∀ target ∈ baseline.cmakeTargets, target ∈ current.cmakeTargets
  operations : ∀ operation ∈ baseline.operations, operation ∈ current.operations
  channels : ∀ channel address, baseline.channels.lookup channel = some address →
    current.channels.lookup channel = some address

/-- A value that a Python set confuses with another one: a boolean, or the number zero or one. -/
def ConfigValue.Ambiguous : ConfigValue → Prop
  | .bool _ => True
  | .number value => value = 0 ∨ value = 1
  | _ => False

/-- A value meets the keywords that a definition has and its predecessor lacked. An enumeration of
both counts for the values that the comparison of the enumerations confuses. -/
structure AllowsAdded (old new : Constraints) (value : ConfigValue) : Prop where
  type : old.type = none → TypeAllows new.type value
  minimum : old.minimum = none → AtLeast new.minimum value.number?
  maximum : old.maximum = none → AtMost new.maximum value.number?
  minLength : old.minLength = none → AtLeast new.minLength value.length?
  maxLength : old.maxLength = none → AtMost new.maxLength value.length?
  enum : old.enum = none ∨ value.Ambiguous → EnumAllows new.enum value

/-- What the current surface adds at one name: new keywords of known properties and patterns, and
all keywords of new ones. -/
structure AddedAllowsAt (old new : ConfigurationSurface) (name : String) (value : ConfigValue) :
    Prop where
  property : ∀ definition, new.properties.lookup name = some definition →
    AllowsAdded ((old.properties.lookup name).getD {}) definition value
  patterns : ∀ expression definition, new.patterns.lookup expression = some definition →
    pattern expression name →
    AllowsAdded ((old.patterns.lookup expression).getD {}) definition value

end Meaning

section Keywords

variable {new : Constraints}

/-- A bound that was kept or loosened allows what it allowed, and a new one what it says. -/
theorem AtLeast.carried {old new measure : Option ℚ} (kept : raised old new = false)
    (before : AtLeast old measure) (added : old = none → AtLeast new measure) :
    AtLeast new measure := by
  intro limit bounded size measured
  cases old with
  | none => exact added rfl limit bounded size measured
  | some first =>
    obtain rfl : new = some limit := bounded
    have loosened : limit ≤ first := by simpa [raised] using kept
    exact loosened.trans (before first rfl size measured)

theorem AtMost.carried {old new measure : Option ℚ} (kept : lowered old new = false)
    (before : AtMost old measure) (added : old = none → AtMost new measure) :
    AtMost new measure := by
  intro limit bounded size measured
  cases old with
  | none => exact added rfl limit bounded size measured
  | some first =>
    obtain rfl : new = some limit := bounded
    have loosened : first ≤ limit := by simpa [lowered] using kept
    exact (before first rfl size measured).trans loosened

theorem setKey_of_mem {values : List ConfigValue} {keys : List SetKey}
    (built : setKeys values = .ok keys) {value : ConfigValue} (member : value ∈ values) :
    ∃ key, setKey value = .ok key := by
  induction values generalizing keys with
  | nil => simp at member
  | cons first rest ih =>
    rw [setKeys] at built
    obtain ⟨head, headKey, remaining⟩ := bind_eq_ok.mp built
    obtain ⟨others, restKeys, -⟩ := bind_eq_ok.mp remaining
    rcases List.mem_cons.mp member with rfl | later
    · exact ⟨head, headKey⟩
    · exact ih restKeys later

theorem mem_setKeys {values : List ConfigValue} {keys : List SetKey}
    (built : setKeys values = .ok keys) (key : SetKey) :
    key ∈ keys ↔ ∃ value ∈ values, setKey value = .ok key := by
  induction values generalizing keys with
  | nil =>
    obtain rfl : [] = keys := Except.ok.inj built
    simp
  | cons first rest ih =>
    rw [setKeys] at built
    obtain ⟨head, headKey, remaining⟩ := bind_eq_ok.mp built
    obtain ⟨others, restKeys, rfl⟩ := by simpa only [bind_eq_ok, pure_eq_ok] using remaining
    have ofHead : key = head ↔ setKey first = .ok key := by
      rw [headKey, Except.ok.injEq, eq_comm]
    rw [List.mem_cons, ofHead, ih restKeys]
    simp

theorem eq_of_setKey {first second : ConfigValue} {key : SetKey} (firstKey : setKey first = .ok key)
    (secondKey : setKey second = .ok key) (clear : ¬first.Ambiguous) : first = second := by
  -- Each shape of the first value fixes the key, and the key the shape of the second.
  cases first with
  | null =>
    obtain rfl : SetKey.null = key := Except.ok.inj firstKey
    cases second <;> simp_all [setKey]
  | bool value => exact absurd trivial clear
  | number value =>
    obtain rfl : SetKey.number value = key := Except.ok.inj firstKey
    simp only [ConfigValue.Ambiguous, not_or] at clear
    cases second with
    | bool flag => cases flag <;> simp_all [setKey]
    | number other => simp_all [setKey]
    | null | string _ | array _ | object _ => simp_all [setKey]
  | string value =>
    obtain rfl : SetKey.string value = key := Except.ok.inj firstKey
    cases second <;> simp_all [setKey]
  | array items => simp [setKey] at firstKey
  | object members => simp [setKey] at firstKey

theorem EnumAllows.carried {old new : Option (List ConfigValue)} {value : ConfigValue}
    (kept : enumShrunk old new = .ok false) (before : EnumAllows old value)
    (added : old = none ∨ value.Ambiguous → EnumAllows new value) : EnumAllows new value := by
  cases old with
  | none => exact added (.inl rfl)
  | some former =>
    by_cases unclear : value.Ambiguous
    · exact added (.inr unclear)
    intro current listed
    obtain rfl : new = some current := listed
    rw [enumShrunk] at kept
    obtain ⟨wanted, wantedKeys, remaining⟩ := bind_eq_ok.mp kept
    obtain ⟨offered, offeredKeys, all⟩ := bind_eq_ok.mp remaining
    have subset : ∀ key ∈ wanted, key ∈ offered := by simpa using all
    -- The value has a key, because the whole enumeration was put into a set.
    obtain ⟨key, same⟩ := setKey_of_mem wantedKeys (before former rfl)
    have found := (mem_setKeys wantedKeys key).mpr ⟨value, before former rfl, same⟩
    obtain ⟨other, listed, otherKey⟩ := (mem_setKeys offeredKeys key).mp (subset key found)
    rw [eq_of_setKey same otherKey unclear]
    exact listed

/-- A test that would have answered `true` did not apply. -/
theorem test_failed {test : Prop} [Decidable test] {rest : Except String Bool} :
    (if test then .ok true else rest) = .ok false ↔ ¬test ∧ rest = .ok false := by
  by_cases applies : test <;> simp [applies]

/-- A definition that does not break accepts every value of its predecessor that passes the
keywords it adds. -/
theorem Constraints.Allows.carried {old : Constraints} {value : ConfigValue}
    (kept : constraintsBreaking old new = .ok false) (before : old.Allows value)
    (added : AllowsAdded old new value) : new.Allows value := by
  -- Every early return answers `true`, so all five tests failed.
  simp only [constraintsBreaking, test_failed, ne_eq, not_not, Bool.not_eq_true] at kept
  obtain ⟨sameType, notRaised, notLowered, notLonger, notShorter, notShrunk⟩ := kept
  exact {
    type := sameType ▸ before.type
    minimum := before.minimum.carried notRaised added.minimum
    maximum := before.maximum.carried notLowered added.maximum
    minLength := before.minLength.carried notLonger added.minLength
    maxLength := before.maxLength.carried notShorter added.maxLength
    enum := before.enum.carried notShrunk added.enum }

/-- Where there was no definition, the keywords it adds are all of them. -/
theorem AllowsAdded.allows {value : ConfigValue} (added : AllowsAdded {} new value) :
    new.Allows value where
  type := added.type rfl
  minimum := added.minimum rfl
  maximum := added.maximum rfl
  minLength := added.minLength rfl
  maxLength := added.maxLength rfl
  enum := added.enum (.inl rfl)

/-- A value that the whole definition allows passes in particular what it adds. -/
theorem Constraints.Allows.added {old : Constraints} {value : ConfigValue}
    (allows : new.Allows value) : AllowsAdded old new value where
  type := fun _ => allows.type
  minimum := fun _ => allows.minimum
  maximum := fun _ => allows.maximum
  minLength := fun _ => allows.minLength
  maxLength := fun _ => allows.maxLength
  enum := fun _ => allows.enum

end Keywords

section Soundness

variable {old : List (String × Constraints)} {baseline current : ContractSurface}

theorem definitions_kept {removed changed : String} {current : List (String × Constraints)}
    (clean : definitionBreaks removed changed current old = .ok []) {name : String}
    {definition : Constraints} (member : (name, definition) ∈ old) :
    ∃ other, current.lookup name = some other ∧ constraintsBreaking definition other = .ok false := by
  induction old with
  | nil => simp at member
  | cons entry rest ih =>
    obtain ⟨first, known⟩ := entry
    rw [definitionBreaks] at clean
    obtain ⟨found, foundHere, remaining⟩ := bind_eq_ok.mp clean
    obtain ⟨others, foundLater, joined⟩ := bind_eq_ok.mp remaining
    obtain ⟨rfl, rfl⟩ : found = [] ∧ others = [] := by simpa using joined
    rcases List.mem_cons.mp member with same | later
    · obtain ⟨rfl, rfl⟩ := Prod.mk.inj same
      rw [definitionBreak] at foundHere
      cases present : current.lookup name with
      | none => simp [present] at foundHere
      | some other =>
        simp only [present] at foundHere
        obtain ⟨breaking, tested, none⟩ := bind_eq_ok.mp foundHere
        obtain rfl : breaking = false := by simpa using none
        exact ⟨other, rfl, tested⟩
    · exact ih foundLater later

theorem breakingChanges_of_accepted (accepted : compare baseline current = .ok [])
    (sameMajor : (versionTuple baseline.runtimeVersion).map Prod.fst =
      (versionTuple current.runtimeVersion).map Prod.fst) :
    breakingChanges baseline current = .ok [] := by
  rw [compare] at accepted
  obtain ⟨baselineVersion, first, accepted⟩ := bind_eq_ok.mp accepted
  obtain ⟨currentVersion, second, accepted⟩ := bind_eq_ok.mp accepted
  obtain ⟨breaking, collected, accepted⟩ := bind_eq_ok.mp accepted
  have majors : baselineVersion.1 = currentVersion.1 := by
    simpa [first, second, Except.map] using sameMajor
  have clean : breaking = [] := by
    by_contra found
    simp [found, majors] at accepted
  rw [collected, clean]

theorem mem_of_removedNames {finding : String} {baseline current : List String}
    (clean : removedNames finding baseline current = []) {name : String} (member : name ∈ baseline) :
    name ∈ current := by
  by_contra gone
  simp only [removedNames, List.map_eq_nil_iff, List.filter_eq_nil_iff] at clean
  exact clean name member (by simpa using gone)

theorem mem_of_lookup {α : Type} {name : String} {value : α} {entries : List (String × α)}
    (found : entries.lookup name = some value) : (name, value) ∈ entries := by
  obtain ⟨before, after, split, -⟩ := List.lookup_eq_some_iff.mp found
  simp [split]

theorem retained_of_clean (clean : breakingChanges baseline current = .ok []) :
    Retained baseline current := by
  rw [breakingChanges] at clean
  obtain ⟨properties, -, clean⟩ := bind_eq_ok.mp clean
  obtain ⟨patterns, -, clean⟩ := bind_eq_ok.mp clean
  simp only [pure_eq_ok, List.append_eq_nil_iff] at clean
  obtain ⟨⟨⟨⟨⟨⟨⟨-, targets⟩, headers⟩, -⟩, -⟩, -⟩, operations⟩, channels⟩ := clean
  constructor
  · intro header types found
    have quiet := List.flatMap_eq_nil_iff.mp headers _ (mem_of_lookup found)
    simp only [headerBreaks] at quiet
    cases present : current.publicHeaders.lookup header with
    | none => simp [present] at quiet
    | some kept => exact ⟨kept, rfl, by simpa [present] using quiet⟩
  · exact fun target member => mem_of_removedNames targets member
  · exact fun operation member => mem_of_removedNames operations member
  · intro channel address found
    have quiet := List.flatMap_eq_nil_iff.mp channels _ (mem_of_lookup found)
    simp only [channelBreaks] at quiet
    cases present : current.channels.lookup channel with
    | none => simp [present] at quiet
    | some other =>
      have same : other = address := by simpa [present] using quiet
      rw [same]

/-- Without a breaking change nothing became mandatory. -/
theorem required_of_newlyRequired {baseline current : List String}
    (clean : newlyRequired baseline current = []) {name : String} (member : name ∈ current) :
    name ∈ baseline := by
  by_contra added
  have listed : name ∈ newlyRequired baseline current := by
    rw [newlyRequired, (List.perm_insertionSort _ _).mem_iff]
    simp [member, added]
  simp [clean] at listed

variable (pattern : String → String → Bool)

theorem definition_carried {removed changed : String} {current : List (String × Constraints)}
    (clean : definitionBreaks removed changed current old = .ok []) {name : String}
    {definition : Constraints} {value : ConfigValue} (found : current.lookup name = some definition)
    (before : ∀ former, old.lookup name = some former → former.Allows value)
    (added : AllowsAdded ((old.lookup name).getD {}) definition value) :
    definition.Allows value := by
  cases known : old.lookup name with
  | none => exact AllowsAdded.allows (by simpa [known] using added)
  | some former =>
    obtain ⟨other, present, kept⟩ := definitions_kept clean (mem_of_lookup known)
    obtain rfl : definition = other := Option.some.inj (found.symm.trans present)
    exact (before former known).carried kept (by simpa [known] using added)

theorem satisfied_iff_added (clean : breakingChanges baseline current = .ok [])
    {configuration : List (String × ConfigValue)}
    (valid : baseline.configuration.Satisfied pattern configuration) :
    current.configuration.Satisfied pattern configuration ↔
      ∀ name value, configuration.lookup name = some value →
        AddedAllowsAt pattern baseline.configuration current.configuration name value := by
  rw [breakingChanges] at clean
  obtain ⟨properties, propertiesKept, clean⟩ := bind_eq_ok.mp clean
  obtain ⟨patterns, patternsKept, clean⟩ := bind_eq_ok.mp clean
  simp only [pure_eq_ok, List.append_eq_nil_iff] at clean
  obtain ⟨⟨⟨⟨⟨-, rfl⟩, rfl⟩, required⟩, -⟩, -⟩ := clean
  constructor
  · intro accepted name value held
    have allowed := accepted.values name value held
    exact ⟨fun definition found => (allowed.property definition found).added,
      fun expression definition found matched =>
        (allowed.patterns expression definition found matched).added⟩
  · intro added
    constructor
    · intro name needed
      have former := required_of_newlyRequired (List.map_eq_nil_iff.mp required) needed
      exact valid.required name former
    · intro name value held
      have before := valid.values name value held
      have passed := added name value held
      constructor
      · intro definition found
        exact definition_carried propertiesKept found before.property
          (passed.property definition found)
      · intro expression definition found matched
        exact definition_carried patternsKept found
          (fun former known => before.patterns expression former known matched)
          (passed.patterns expression definition found matched)

/-- The gate under one major version. What it accepts retains the public surface, and accepts every
configuration of the baseline whose values pass what the current surface adds. -/
theorem accepted_surface_compatible {baseline current : ContractSurface}
    (accepted : compare baseline current = .ok [])
    (sameMajor : (versionTuple baseline.runtimeVersion).map Prod.fst =
      (versionTuple current.runtimeVersion).map Prod.fst) :
    Retained baseline current ∧
      ∀ configuration, baseline.configuration.Satisfied pattern configuration →
        (current.configuration.Satisfied pattern configuration ↔
          ∀ name value, configuration.lookup name = some value →
            AddedAllowsAt pattern baseline.configuration current.configuration name value) := by
  have clean := breakingChanges_of_accepted accepted sameMajor
  exact ⟨retained_of_clean clean, fun _ valid => satisfied_iff_added pattern clean valid⟩

def sampleBaseline : ContractSurface where
  runtimeVersion := "0.1.0"
  cmakeTargets := ["PocoDDS::SDK"]
  publicHeaders := [("SDK.h", ["Sdk"])]
  configuration :=
    { required := ["domainId"]
      properties := [("domainId", { type := some (.name "integer"), maximum := some 63 })] }

/-- The same surface with a wider range, one more type and one more optional property. -/
def sampleCurrent : ContractSurface where
  runtimeVersion := "0.2.0"
  cmakeTargets := ["PocoDDS::SDK"]
  publicHeaders := [("SDK.h", ["Sdk", "SdkOptions"])]
  configuration :=
    { required := ["domainId"]
      properties := [("domainId", { type := some (.name "integer"), maximum := some 511 }),
        ("label", { type := some (.name "string") })] }

theorem sample_accepted : compare sampleBaseline sampleCurrent = .ok [] := by
  decide

theorem sample_sameMajor : (versionTuple sampleBaseline.runtimeVersion).map Prod.fst =
    (versionTuple sampleCurrent.runtimeVersion).map Prod.fst := by
  decide

/-- The sample baseline asks for a small integer under one name, and for nothing else. -/
theorem sampleBaseline_satisfied {pattern : String → String → Bool}
    {configuration : List (String × ConfigValue)}
    (held : configuration.lookup "domainId" = some (.number 7)) :
    sampleBaseline.configuration.Satisfied pattern configuration := by
  constructor
  · intro name needed
    obtain rfl : name = "domainId" := by simpa [sampleBaseline] using needed
    rw [held, Option.isSome_some]
  · intro name value found
    constructor
    · intro definition defined
      -- Only the one name has a definition, so the value is the one given for it.
      obtain ⟨rfl, rfl⟩ : name = "domainId" ∧
          definition = { type := some (.name "integer"), maximum := some 63 } := by
        simpa [sampleBaseline] using mem_of_lookup defined
      obtain rfl : .number 7 = value := Option.some.inj (held.symm.trans found)
      constructor <;>
        simp [TypeAllows, HasType, AtLeast, AtMost, EnumAllows, ConfigValue.number?]
      norm_num
    · intro expression definition defined
      simp [sampleBaseline] at defined

/-- A configuration of the baseline that leaves the new name alone passes the wider surface. -/
theorem sample_surface_compatible :
    Retained sampleBaseline sampleCurrent ∧
      sampleCurrent.configuration.Satisfied (fun _ _ => false) [("domainId", .number 7)] := by
  have gate := accepted_surface_compatible (fun _ _ => false) sample_accepted sample_sameMajor
  refine ⟨gate.1, (gate.2 [("domainId", .number 7)] (sampleBaseline_satisfied rfl)).mpr ?_⟩
  intro name value held
  obtain ⟨rfl, rfl⟩ : name = "domainId" ∧ value = .number 7 := by
    simpa using mem_of_lookup held
  constructor
  · intro definition defined
    obtain rfl : { type := some (.name "integer"), maximum := some 511 } = definition :=
      Option.some.inj defined
    -- Both keywords were there before, so the new definition adds none.
    constructor <;>
      simp [sampleBaseline, AtLeast, AtMost, EnumAllows, ConfigValue.Ambiguous]
  · intro expression definition defined
    simp [sampleCurrent] at defined

/-- The gate lets a version add an optional property, and a configuration that already used this
name with another kind of value is then no longer accepted. -/
theorem added_property_rejects :
    ¬∀ (pattern : String → String → Bool) (baseline current : ContractSurface),
      compare baseline current = .ok [] →
      (versionTuple baseline.runtimeVersion).map Prod.fst =
        (versionTuple current.runtimeVersion).map Prod.fst →
      Retained baseline current ∧ ∀ configuration,
        baseline.configuration.Satisfied pattern configuration →
        current.configuration.Satisfied pattern configuration := by
  intro sound
  have carried := (sound (fun _ _ => false) sampleBaseline sampleCurrent sample_accepted
    sample_sameMajor).2 [("domainId", .number 7), ("label", .number 1)]
    (sampleBaseline_satisfied rfl)
  have typed := ((carried.values "label" (.number 1) rfl).property _ rfl).type
  simp [TypeAllows, HasType] at typed

end Soundness

end PocoDDS.Tools.Compatibility
