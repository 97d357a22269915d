import PocoDDS.Tools.AcceptanceSamples

/-! Acceptance of a protocol instance: the samples of its diagnostics, and the verdict on them. -/

namespace PocoDDS.Tools.ProtocolAcceptance

open JsonModel OutcomeLogic CounterRuns Acceptance

/-- `COUNTERS`. -/
def counters : List String :=
  ["successfulOperations", "failedOperations", "reconnectAttempts", "sentMessages",
    "receivedMessages", "sentBytes", "receivedBytes", "timeouts", "handlerFailures"]

structure Thresholds where
  minimumSuccessDelta : Int := 0
  minimumReconnectDelta : Int := 0
  minimumSentMessageDelta : Int := 0
  minimumReceivedMessageDelta : Int := 0
  minimumSentByteDelta : Int := 0
  minimumReceivedByteDelta : Int := 0
  maximumFailedDelta : Int := 0
  maximumTimeoutDelta : Int := 0
  maximumHandlerFailureDelta : Int := 0
  maximumProbeErrors : Int := 0
  maximumConsecutiveClosedSamples : Int := 0
  allowFinalClosed : Bool := false
  allowFinalDesiredClosed : Bool := false

structure Arguments where
  url : String
  protocolId : String
  protocolType : Option String := none
  duration : ℚ
  interval : ℚ := 1
  timeout : ℚ := 2
  authorizationEnvironment : Option String := none
  caFile : Option String := none
  clientCertificate : Option String := none
  privateKey : Option String := none
  privateKeyPasswordEnvironment : Option String := none
  thresholds : Thresholds := {}

/-- The environment of the tool, `repr`, and what loading the TLS material comes to. -/
structure Host where
  environ : String → Option String
  repr : Option Json → String
  createContext : Except String Unit

structure Sample where
  type : Option Json
  required : Option Json
  isOpen : Bool
  desiredOpen : Bool
  diagnostics : Json

structure Evidence where
  deltas : List (String × Int)
  maximumConsecutiveClosedSamplesObserved : Nat
  samples : List Sample
  probeErrors : List String
  failures : List String
  passed : Bool

/-- `fetch`, which wants an object. -/
def fetch (answer : Answer) : Except String Json := do
  let payload ← answer.payload "protocol"
  if payload.isObject then return payload
  else .error "protocol inventory is not a JSON object"

/-- A text that an optional argument asks for; an empty one asks for nothing. -/
def demanded : Option String → Bool
  | none => false
  | some text => !text.isEmpty

def findProtocol (repr : Option Json → String) (protocolId : String) (protocolType : Option String) :
    List Json → Except String Json
  | [] => .error ("protocol not found: " ++ protocolId)
  | protocol :: rest => do
    let id ← protocol.get "id"
    if !Json.isText id protocolId then findProtocol repr protocolId protocolType rest
    else
      let type ← protocol.get "type"
      if demanded protocolType && Json.str? type != protocolType then
        .error ("protocol " ++ protocolId ++ " type " ++ repr type ++ " is not " ++
          repr (protocolType.map Json.str))
      else if ((protocol.member "diagnostics").map Json.isObject).getD false then return protocol
      else .error ("protocol " ++ protocolId ++ " does not expose diagnostics")

def selectProtocol (repr : Option Json → String) (inventory : Json) (protocolId : String)
    (protocolType : Option String) : Except String Json := do
  let protocols ← Json.iterate (← inventory.get "protocols")
  findProtocol repr protocolId protocolType protocols

/-- One probe of the instance. -/
def probe (repr : Option Json → String) (protocolId : String) (protocolType : Option String)
    (answer : Answer) : Except String Sample := do
  let protocol ← selectProtocol repr (← fetch answer) protocolId protocolType
  return {
    type := protocol.member "type"
    required := protocol.member "required"
    isOpen := Json.isTrue (protocol.member "open")
    desiredOpen := Json.isTrue (protocol.member "desiredOpen")
    diagnostics := (protocol.member "diagnostics").getD .null }

/-- One round of the loop over the samples: the current run of closed ones, and the longest. -/
def closedRound (runs : Nat × Nat) (sample : Sample) : Nat × Nat :=
  let current := if sample.isOpen then 0 else runs.1 + 1
  (current, max runs.2 current)

def maximumConsecutiveClosed (samples : List Sample) : Nat :=
  (samples.foldl closedRound (0, 0)).2

/-- `environment_secret`. -/
def environmentSecret (host : Host) (name : Option String) : Except String Unit :=
  match name with
  | none => .ok ()
  | some name =>
    if name.isEmpty || demanded (host.environ name) then .ok ()
    else .error ("required environment variable is missing or empty: " ++ name)

def Thresholds.limits (thresholds : Thresholds) : List Int :=
  [thresholds.minimumSuccessDelta, thresholds.minimumReconnectDelta,
    thresholds.minimumSentMessageDelta, thresholds.minimumReceivedMessageDelta,
    thresholds.minimumSentByteDelta, thresholds.minimumReceivedByteDelta,
    thresholds.maximumFailedDelta, thresholds.maximumTimeoutDelta,
    thresholds.maximumHandlerFailureDelta, thresholds.maximumProbeErrors,
    thresholds.maximumConsecutiveClosedSamples]

def isHttps (url : String) : Bool :=
  "https://".toList.isPrefixOf (url.toList.map Char.toLower)

/-- What `main` asks of its arguments before the first probe. -/
def checkArguments (host : Host) (arguments : Arguments) : Except String Unit := do
  if arguments.duration ≤ 0 ∨ arguments.interval ≤ 0 ∨ arguments.timeout ≤ 0 then
    throw "duration, interval and timeout must be positive"
  if arguments.thresholds.limits.any fun limit => limit < 0 then
    throw "acceptance thresholds must be non-negative"
  if arguments.clientCertificate.isSome != arguments.privateKey.isSome then
    throw "client-certificate and private-key must be configured together"
  if demanded arguments.privateKeyPasswordEnvironment && arguments.privateKey.isNone then
    throw "private-key is required with private-key-password-environment"
  environmentSecret host arguments.authorizationEnvironment
  environmentSecret host arguments.privateKeyPasswordEnvironment
  if isHttps arguments.url then host.createContext
  else if arguments.caFile.isSome || arguments.clientCertificate.isSome ||
      arguments.privateKey.isSome then
    throw "TLS material requires an https URL"

def Thresholds.minimums (thresholds : Thresholds) : List (String × Int) :=
  [("successfulOperations", thresholds.minimumSuccessDelta),
    ("reconnectAttempts", thresholds.minimumReconnectDelta),
    ("sentMessages", thresholds.minimumSentMessageDelta),
    ("receivedMessages", thresholds.minimumReceivedMessageDelta),
    ("sentBytes", thresholds.minimumSentByteDelta),
    ("receivedBytes", thresholds.minimumReceivedByteDelta)]

def Thresholds.maximums (thresholds : Thresholds) : List (String × Int) :=
  [("failedOperations", thresholds.maximumFailedDelta),
    ("timeouts", thresholds.maximumTimeoutDelta),
    ("handlerFailures", thresholds.maximumHandlerFailureDelta)]

/-- The failures of samples with these differences, of which this is the last one. -/
def sampleFailures (thresholds : Thresholds) (deltas : List (String × Int)) (closedRun : Nat)
    (last : Sample) : List String :=
  (deltas.flatMap fun entry =>
    failWhen (entry.2 < 0) ("diagnostics counter decreased: " ++ entry.1)) ++
  (thresholds.minimums.flatMap fun entry =>
    failWhen (deltaOf deltas entry.1 < entry.2) (entry.1 ++ " delta below minimum")) ++
  (thresholds.maximums.flatMap fun entry =>
    failWhen (deltaOf deltas entry.1 > entry.2) (entry.1 ++ " delta above maximum")) ++
  failWhen (closedRun > thresholds.maximumConsecutiveClosedSamples)
    "consecutive closed sample count above maximum" ++
  failWhen (!thresholds.allowFinalClosed && !last.isOpen) "protocol is closed in final sample" ++
  failWhen (!thresholds.allowFinalDesiredClosed && !last.desiredOpen)
    "protocol desiredOpen is false in final sample"

/-- The differences between the first sample and the last one, and what speaks against them. -/
def assess (repr : Option Json → String) (thresholds : Thresholds) :
    List Sample → Except String (List (String × Int) × List String)
  | [] => .ok ([], ["no valid protocol samples collected"])
  | first :: rest => do
    let last := rest.getLastD first
    let deltas ← deltasOf false repr first.diagnostics last.diagnostics counters
    return (deltas,
      sampleFailures thresholds deltas (maximumConsecutiveClosed (first :: rest)) last)

/-- The tool, with the answers to its probes in the order in which it sends them. -/
def main (host : Host) (arguments : Arguments) (answers : List Answer) : Except String Evidence := do
  checkArguments host arguments
  let probes := answers.map (probe host.repr arguments.protocolId arguments.protocolType)
  let samples := samplesOf probes
  let errors := errorsOf probes
  let (deltas, complaints) ← assess host.repr arguments.thresholds samples
  let failures :=
    failWhen (errors.length > arguments.thresholds.maximumProbeErrors)
      "probe error count above maximum" ++ complaints
  return {
    deltas
    maximumConsecutiveClosedSamplesObserved := maximumConsecutiveClosed samples
    samples
    probeErrors := errors
    failures
    passed := failures.isEmpty }

/-- The samples that the answers give of a protocol instance. -/
def Host.samples (host : Host) (protocolId : String) (protocolType : Option String)
    (answers : List Answer) : List Sample :=
  samplesOf (answers.map (probe host.repr protocolId protocolType))

def Host.probeErrors (host : Host) (protocolId : String) (protocolType : Option String)
    (answers : List Answer) : List String :=
  errorsOf (answers.map (probe host.repr protocolId protocolType))

def Sample.read (sample : Sample) (name : String) : Int := value false sample.diagnostics name

def ValidSamples (samples : List Sample) : Prop :=
  ∀ sample ∈ samples, Valid false counters sample.diagnostics

/-- The tool ends with a report that says that the acceptance has passed. -/
def Passes (host : Host) (arguments : Arguments) (answers : List Answer) : Prop :=
  ∃ evidence, main host arguments answers = .ok evidence ∧ evidence.passed = true

/-- The rules for the arguments, and for the counters of the first sample and the last one. -/
structure Accepted (host : Host) (arguments : Arguments) (samples : List Sample)
    (probeErrors : List String) : Prop where
  ready : checkArguments host arguments = .ok ()
  probeErrors : probeErrors.length ≤ arguments.thresholds.maximumProbeErrors
  collected : samples ≠ []
  kept : ∀ name ∈ counters, 0 ≤ change (readings Sample.read samples name)
  minimums : ∀ entry ∈ arguments.thresholds.minimums,
    entry.2 ≤ change (readings Sample.read samples entry.1)
  maximums : ∀ entry ∈ arguments.thresholds.maximums,
    change (readings Sample.read samples entry.1) ≤ entry.2
  closed : maximumConsecutiveClosed samples ≤ arguments.thresholds.maximumConsecutiveClosedSamples
  finalOpen : arguments.thresholds.allowFinalClosed = true ∨
    ∀ last ∈ samples.getLast?, last.isOpen = true
  finalDesired : arguments.thresholds.allowFinalDesiredClosed = true ∨
    ∀ last ∈ samples.getLast?, last.desiredOpen = true

/-- The samples of the whole run bear the verdict out. -/
def Supported (thresholds : Thresholds) (samples : List Sample) : Prop :=
  Covered Sample.read counters thresholds.maximums samples

/-- No counter goes down between two consecutive samples. -/
def Uninterrupted (samples : List Sample) : Prop :=
  ∀ name ∈ counters, Rising (readings Sample.read samples name)

section Verdict

variable {host : Host} {arguments : Arguments} {answers : List Answer}
variable {thresholds : Thresholds}

theorem minimums_listed : ∀ entry ∈ thresholds.minimums, entry.1 ∈ counters := by
  simp [Thresholds.minimums, counters]

theorem maximums_listed : ∀ entry ∈ thresholds.maximums, entry.1 ∈ counters := by
  simp [Thresholds.maximums, counters]

theorem assess_of_valid (repr : Option Json → String) (thresholds : Thresholds) {first : Sample}
    {rest : List Sample} (valid : ValidSamples (first :: rest)) :
    let deltas := counters.map fun name =>
      (name, change (readings Sample.read (first :: rest) name))
    assess repr thresholds (first :: rest) =
      .ok (deltas, sampleFailures thresholds deltas (maximumConsecutiveClosed (first :: rest))
        (rest.getLastD first)) := by
  have computed := @deltasOf_of_valid false repr counters _ _ (valid first List.mem_cons_self)
    (valid (rest.getLastD first) List.getLastD_mem_cons)
  simp only [assess, computed, bind, Except.bind, pure, Except.pure, change_readings]
  rfl

/-- Nothing speaks against the samples exactly if they keep the rules. -/
theorem sampleFailures_eq_nil {difference : String → Int} {closedRun : Nat} {last : Sample} :
    sampleFailures thresholds (counters.map fun name => (name, difference name)) closedRun last = [] ↔
      (∀ name ∈ counters, 0 ≤ difference name) ∧
      (∀ entry ∈ thresholds.minimums, entry.2 ≤ difference entry.1) ∧
      (∀ entry ∈ thresholds.maximums, difference entry.1 ≤ entry.2) ∧
      closedRun ≤ thresholds.maximumConsecutiveClosedSamples ∧
      (thresholds.allowFinalClosed = true ∨ last.isOpen = true) ∧
      (thresholds.allowFinalDesiredClosed = true ∨ last.desiredOpen = true) := by
  -- Each threshold is compared with the difference of its own counter.
  have minimums : (∀ entry ∈ thresholds.minimums,
      entry.2 ≤ deltaOf (counters.map fun name => (name, difference name)) entry.1) ↔
      ∀ entry ∈ thresholds.minimums, entry.2 ≤ difference entry.1 :=
    forall₂_congr fun entry member => by
      rw [deltaOf_map difference (minimums_listed entry member)]
  have maximums : (∀ entry ∈ thresholds.maximums,
      deltaOf (counters.map fun name => (name, difference name)) entry.1 ≤ entry.2) ↔
      ∀ entry ∈ thresholds.maximums, difference entry.1 ≤ entry.2 :=
    forall₂_congr fun entry member => by
      rw [deltaOf_map difference (maximums_listed entry member)]
  simp only [sampleFailures, List.append_eq_nil_iff, List.flatMap_eq_nil_iff, failWhen_eq_nil,
    decide_eq_false_iff_not, gt_iff_lt, Int.not_lt, Bool.and_eq_false_iff, Bool.not_eq_false',
    and_assoc, List.forall_mem_map, minimums, maximums]

/-- The tool ends with a verdict once its arguments are in order and the counters can be read. -/
theorem passes_iff_assess : Passes host arguments answers ↔
      checkArguments host arguments = .ok () ∧ ∃ assessed, assess host.repr arguments.thresholds
          (host.samples arguments.protocolId arguments.protocolType answers) = .ok assessed ∧
        (host.probeErrors arguments.protocolId arguments.protocolType answers).length ≤
          arguments.thresholds.maximumProbeErrors ∧ assessed.2 = [] := by
  unfold Passes main
  simp only [bind_eq_ok, pure_eq_ok]
  constructor
  · rintro ⟨evidence, ⟨⟨⟩, ready, assessed, done, rfl⟩, passed⟩
    rw [List.isEmpty_iff, List.append_eq_nil_iff, failWhen_eq_nil, decide_eq_false_iff_not,
      gt_iff_lt, Int.not_lt] at passed
    exact ⟨ready, assessed, done, passed⟩
  · rintro ⟨ready, assessed, done, errors, complaints⟩
    refine ⟨_, ⟨(), ready, assessed, done, rfl⟩, ?_⟩
    rw [List.isEmpty_iff, List.append_eq_nil_iff, failWhen_eq_nil, decide_eq_false_iff_not,
      gt_iff_lt, Int.not_lt]
    exact ⟨errors, complaints⟩

theorem passes_iff (valid : ValidSamples (host.samples arguments.protocolId arguments.protocolType
    answers)) :
    Passes host arguments answers ↔
      Accepted host arguments (host.samples arguments.protocolId arguments.protocolType answers)
        (host.probeErrors arguments.protocolId arguments.protocolType answers) := by
  rw [passes_iff_assess]
  generalize host.probeErrors arguments.protocolId arguments.protocolType answers = errors
  generalize host.samples arguments.protocolId arguments.protocolType answers = samples at valid ⊢
  cases samples with
  | nil =>
    -- Without a sample there is always something that speaks against it.
    constructor
    · rintro ⟨-, assessed, done, -, complaints⟩
      cases done
      cases complaints
    · intro accepted
      exact absurd rfl accepted.collected
  | cons first rest =>
    have last : ∀ holds : Sample → Prop,
        (∀ last ∈ (first :: rest).getLast?, holds last) ↔ holds (rest.getLastD first) := by
      intro holds
      simp only [List.getLast?_cons, List.getLastD_eq_getLast?, Option.mem_some_iff, forall_eq']
    rw [assess_of_valid host.repr arguments.thresholds valid]
    constructor
    · rintro ⟨ready, assessed, done, probes, complaints⟩
      cases done
      obtain ⟨kept, minimums, maximums, closed, finalOpen, finalDesired⟩ :=
        sampleFailures_eq_nil.mp complaints
      exact ⟨ready, probes, List.cons_ne_nil _ _, kept, minimums, maximums, closed,
        by rwa [last], by rwa [last]⟩
    · intro accepted
      have finalOpen := accepted.finalOpen
      have finalDesired := accepted.finalDesired
      rw [last] at finalOpen finalDesired
      exact ⟨accepted.ready, _, rfl, accepted.probeErrors, sampleFailures_eq_nil.mpr
        ⟨accepted.kept, accepted.minimums, accepted.maximums, accepted.closed, finalOpen,
          finalDesired⟩⟩

end Verdict

section Results

variable {host : Host} {arguments : Arguments} {answers : List Answer}

/-- Samples that the tool accepts bear the verdict out exactly if no counter went down on the way. -/
theorem supported_iff {samples : List Sample} {errors : List String}
    (accepted : Accepted host arguments samples errors) :
    Supported arguments.thresholds samples ↔ Uninterrupted samples :=
  covered_iff_rising maximums_listed accepted.maximums

/-- A verdict is borne out if no counter went down on the way, or if it is none that passes. -/
theorem passes_supported_iff
    (valid : ValidSamples (host.samples arguments.protocolId arguments.protocolType answers)) :
    (Passes host arguments answers → Supported arguments.thresholds
        (host.samples arguments.protocolId arguments.protocolType answers)) ↔
      Uninterrupted (host.samples arguments.protocolId arguments.protocolType answers) ∨
      ¬ Accepted host arguments (host.samples arguments.protocolId arguments.protocolType answers)
        (host.probeErrors arguments.protocolId arguments.protocolType answers) :=
  verdict_supported_iff (passes_iff valid) supported_iff

/-- Arguments that ask for nothing but counters that are not lower at the end. -/
def lenient (protocolId : String) (protocolType : Option String) (samples : List Sample)
    (errors : List String) : Arguments where
  url := ""
  protocolId
  protocolType
  duration := 1
  thresholds := {
    maximumFailedDelta := (change (readings Sample.read samples "failedOperations")).toNat
    maximumTimeoutDelta := (change (readings Sample.read samples "timeouts")).toNat
    maximumHandlerFailureDelta := (change (readings Sample.read samples "handlerFailures")).toNat
    maximumProbeErrors := errors.length
    maximumConsecutiveClosedSamples := maximumConsecutiveClosed samples
    allowFinalClosed := true
    allowFinalDesiredClosed := true }

theorem checkArguments_lenient (host : Host) (protocolId : String) (protocolType : Option String)
    (samples : List Sample) (errors : List String) :
    checkArguments host (lenient protocolId protocolType samples errors) = .ok () := by
  have limits : (lenient protocolId protocolType samples errors).thresholds.limits.any
      (fun limit => limit < 0) = false := by
    simp [Thresholds.limits, lenient]
  have times : ¬ ((lenient protocolId protocolType samples errors).duration ≤ 0 ∨
      (lenient protocolId protocolType samples errors).interval ≤ 0 ∨
      (lenient protocolId protocolType samples errors).timeout ≤ 0) := by
    norm_num [lenient]
  have plain : isHttps (lenient protocolId protocolType samples errors).url = false := rfl
  simp only [checkArguments, times, limits, plain]
  rfl

theorem accepted_lenient (host : Host) (protocolId : String) (protocolType : Option String)
    {samples : List Sample} (errors : List String) (collected : samples ≠ [])
    (kept : ∀ name ∈ counters, 0 ≤ change (readings Sample.read samples name)) :
    Accepted host (lenient protocolId protocolType samples errors) samples errors where
  ready := checkArguments_lenient host protocolId protocolType samples errors
  probeErrors := le_refl _
  collected := collected
  kept := kept
  minimums := by
    intro entry member
    -- Every minimum is zero.
    have zero : entry.2 = 0 := by
      simp only [Thresholds.minimums, lenient, List.mem_cons, List.not_mem_nil, or_false] at member
      rcases member with rfl | rfl | rfl | rfl | rfl | rfl <;> rfl
    rw [zero]
    exact kept entry.1 (minimums_listed entry member)
  maximums := by
    intro entry member
    simp only [Thresholds.maximums, lenient, List.mem_cons, List.not_mem_nil, or_false] at member
    rcases member with rfl | rfl | rfl <;> exact Int.self_le_toNat _
  closed := le_refl _
  finalOpen := .inl rfl
  finalDesired := .inl rfl

theorem always_supported_iff (protocolId : String) (protocolType : Option String)
    (valid : ValidSamples (host.samples protocolId protocolType answers)) :
    (∀ arguments : Arguments, arguments.protocolId = protocolId →
      arguments.protocolType = protocolType → Passes host arguments answers →
        Supported arguments.thresholds (host.samples protocolId protocolType answers)) ↔
      Uninterrupted (host.samples protocolId protocolType answers) ∨
      ∃ name ∈ counters,
        change (readings Sample.read (host.samples protocolId protocolType answers) name) < 0 := by
  constructor
  · intro always
    by_contra fooled
    obtain ⟨interrupted, higher⟩ := not_or.mp fooled
    push Not at higher
    -- Where a counter goes down there are samples.
    have collected : host.samples protocolId protocolType answers ≠ [] := by
      intro none
      refine interrupted fun name _ => ?_
      rw [none]
      exact List.isChain_nil
    have accepted := accepted_lenient host protocolId protocolType
      (host.probeErrors protocolId protocolType answers) collected higher
    exact interrupted ((supported_iff accepted).mp
      (always _ rfl rfl ((passes_iff valid).mpr accepted)))
  · rintro condition arguments rfl rfl passes
    have accepted := (passes_iff valid).mp passes
    rcases condition with rising | ⟨name, listed, lower⟩
    · exact (supported_iff accepted).mpr rising
    · exact absurd (accepted.kept name listed) (Int.not_le.mpr lower)

end Results

end PocoDDS.Tools.ProtocolAcceptance
