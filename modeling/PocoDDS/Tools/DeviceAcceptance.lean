import PocoDDS.Tools.AcceptanceSamples

/-! Acceptance of a device: the samples of its diagnostics, and the verdict on them. -/

namespace PocoDDS.Tools.DeviceAcceptance

open JsonModel OutcomeLogic CounterRuns Acceptance

/-- The counters whose differences the tool computes. -/
def counters : List String := ["successfulOperations", "failedOperations", "reconnectAttempts"]

structure Thresholds where
  minimumSuccessDelta : Int := 0
  minimumReconnectDelta : Int := 0
  maximumFailedDelta : Int := 0
  maximumConsecutiveFailures : Int := 0

structure Arguments where
  deviceId : String
  duration : ℚ
  interval : ℚ := 1
  timeout : ℚ := 2
  thresholds : Thresholds := {}
  requireFinalState : String := "ready"

structure Sample where
  state : Option Json
  sequence : Option Json
  diagnostics : Json

structure Evidence where
  deltas : List (String × Int)
  maximumConsecutiveFailuresObserved : Int
  samples : List Sample
  probeErrors : List String
  failures : List String
  passed : Bool

/-- The first device with the id, if it has diagnostics. -/
def findDevice (deviceId : String) : List Json → Except String Json
  | [] => .error ("device not found: " ++ deviceId)
  | device :: rest => do
    let id ← device.get "id"
    if !Json.isText id deviceId then findDevice deviceId rest
    else if ((device.member "diagnostics").map Json.isObject).getD false then return device
    else .error ("device " ++ deviceId ++ " does not expose diagnostics")

def selectDevice (inventory : Json) (deviceId : String) : Except String Json := do
  let devices ← Json.iterate (← inventory.get "devices")
  findDevice deviceId devices

def probe (deviceId : String) (answer : Answer) : Except String Sample := do
  let device ← selectDevice (← answer.payload "device") deviceId
  return {
    state := device.member "state"
    sequence := device.member "sequence"
    diagnostics := (device.member "diagnostics").getD .null }

/-- What `main` asks of its arguments before the first probe. -/
def checkArguments (arguments : Arguments) : Except String Unit := do
  if arguments.duration ≤ 0 ∨ arguments.interval ≤ 0 ∨ arguments.timeout ≤ 0 then
    throw "duration, interval and timeout must be positive"
  if min (min arguments.thresholds.minimumSuccessDelta arguments.thresholds.minimumReconnectDelta)
      (min arguments.thresholds.maximumFailedDelta
        arguments.thresholds.maximumConsecutiveFailures) < 0 then
    throw "acceptance thresholds must be non-negative"

/-- The failures of samples with these differences, of which this is the last one. -/
def sampleFailures (repr : Option Json → String) (arguments : Arguments)
    (deltas : List (String × Int)) (maximumConsecutive : Int) (last : Sample) : List String :=
  failWhen (!Json.isText last.state arguments.requireFinalState)
    ("final state " ++ repr last.state ++ " is not " ++
      repr (some (.str arguments.requireFinalState))) ++
  failWhen (deltaOf deltas "successfulOperations" < arguments.thresholds.minimumSuccessDelta)
    "successful operation delta below minimum" ++
  failWhen (deltaOf deltas "reconnectAttempts" < arguments.thresholds.minimumReconnectDelta)
    "reconnect delta below minimum" ++
  failWhen (deltaOf deltas "failedOperations" > arguments.thresholds.maximumFailedDelta)
    "failed operation delta above maximum" ++
  failWhen (maximumConsecutive > arguments.thresholds.maximumConsecutiveFailures)
    "consecutive failure count above maximum"

/-- What the samples come to: differences, longest run of failures, and what speaks against them. -/
structure Assessment where
  deltas : List (String × Int)
  maximumConsecutive : Int
  complaints : List String

def assess (repr : Option Json → String) (arguments : Arguments) :
    List Sample → Except String Assessment
  | [] => .ok ⟨[], 0, ["no valid device samples collected"]⟩
  | first :: rest => do
    let last := rest.getLastD first
    let deltas ← deltasOf true repr first.diagnostics last.diagnostics counters
    let current ← counter true repr first.diagnostics "consecutiveFailures"
    let others ← rest.mapM fun sample => counter true repr sample.diagnostics "consecutiveFailures"
    let maximumConsecutive := others.foldl max current
    return ⟨deltas, maximumConsecutive,
      sampleFailures repr arguments deltas maximumConsecutive last⟩

/-- The tool, with the answers to its probes in the order in which it sends them. -/
def main (repr : Option Json → String) (arguments : Arguments) (answers : List Answer) :
    Except String Evidence := do
  checkArguments arguments
  let probes := answers.map (probe arguments.deviceId)
  let samples := samplesOf probes
  let errors := errorsOf probes
  let assessment ← assess repr arguments samples
  let failures := errors ++ assessment.complaints
  return {
    deltas := assessment.deltas
    maximumConsecutiveFailuresObserved := assessment.maximumConsecutive
    samples
    probeErrors := errors
    failures
    passed := failures.isEmpty }

/-- The samples that the answers give of a device. -/
def samplesFrom (deviceId : String) (answers : List Answer) : List Sample :=
  samplesOf (answers.map (probe deviceId))

def errorsFrom (deviceId : String) (answers : List Answer) : List String :=
  errorsOf (answers.map (probe deviceId))

def Sample.read (sample : Sample) (name : String) : Int := value true sample.diagnostics name

/-- Samples in which all that the tool reads is valid. -/
def ValidSamples (samples : List Sample) : Prop :=
  ∀ sample ∈ samples, Valid true ("consecutiveFailures" :: counters) sample.diagnostics

/-- The tool ends with a report that says that the acceptance has passed. -/
def Passes (repr : Option Json → String) (arguments : Arguments) (answers : List Answer) : Prop :=
  ∃ evidence, main repr arguments answers = .ok evidence ∧ evidence.passed = true

/-- The failures that the tool limits. -/
def Thresholds.maximums (thresholds : Thresholds) : List (String × Int) :=
  [("failedOperations", thresholds.maximumFailedDelta)]

/-- The rules for the arguments, for the probes, and for the first sample and the last one. -/
structure Accepted (arguments : Arguments) (samples : List Sample) (probeErrors : List String) :
    Prop where
  ready : checkArguments arguments = .ok ()
  answered : probeErrors = []
  collected : samples ≠ []
  state : ∀ last ∈ samples.getLast?, Json.isText last.state arguments.requireFinalState = true
  successes : arguments.thresholds.minimumSuccessDelta ≤
    change (readings Sample.read samples "successfulOperations")
  reconnects : arguments.thresholds.minimumReconnectDelta ≤
    change (readings Sample.read samples "reconnectAttempts")
  maximums : ∀ entry ∈ arguments.thresholds.maximums,
    change (readings Sample.read samples entry.1) ≤ entry.2
  consecutive : ∀ sample ∈ samples,
    sample.read "consecutiveFailures" ≤ arguments.thresholds.maximumConsecutiveFailures

/-- The samples of the whole run bear the verdict out. -/
def Supported (thresholds : Thresholds) (samples : List Sample) : Prop :=
  Covered Sample.read counters thresholds.maximums samples

/-- No counter goes down between two consecutive samples. -/
def Uninterrupted (samples : List Sample) : Prop :=
  ∀ name ∈ counters, Rising (readings Sample.read samples name)

section Verdict

variable {repr : Option Json → String} {arguments : Arguments} {answers : List Answer}

theorem maximums_listed {thresholds : Thresholds} :
    ∀ entry ∈ thresholds.maximums, entry.1 ∈ counters := by
  simp [Thresholds.maximums, counters]

theorem checkArguments_eq_ok : checkArguments arguments = .ok () ↔
      (0 < arguments.duration ∧ 0 < arguments.interval ∧ 0 < arguments.timeout) ∧
      0 ≤ arguments.thresholds.minimumSuccessDelta ∧
      0 ≤ arguments.thresholds.minimumReconnectDelta ∧
      0 ≤ arguments.thresholds.maximumFailedDelta ∧
      0 ≤ arguments.thresholds.maximumConsecutiveFailures := by
  have times : (0 < arguments.duration ∧ 0 < arguments.interval ∧ 0 < arguments.timeout) ↔
      ¬ (arguments.duration ≤ 0 ∨ arguments.interval ≤ 0 ∨ arguments.timeout ≤ 0) := by
    simp only [not_or, not_le]
  have limits : (0 ≤ arguments.thresholds.minimumSuccessDelta ∧
      0 ≤ arguments.thresholds.minimumReconnectDelta ∧
      0 ≤ arguments.thresholds.maximumFailedDelta ∧
      0 ≤ arguments.thresholds.maximumConsecutiveFailures) ↔
      ¬ min (min arguments.thresholds.minimumSuccessDelta
          arguments.thresholds.minimumReconnectDelta)
        (min arguments.thresholds.maximumFailedDelta
          arguments.thresholds.maximumConsecutiveFailures) < 0 := by
    simp only [not_lt, le_min_iff, and_assoc]
  rw [times, limits]
  unfold checkArguments
  by_cases late : arguments.duration ≤ 0 ∨ arguments.interval ≤ 0 ∨ arguments.timeout ≤ 0
  · rw [if_pos late]
    exact iff_of_false (by intro done; cases done) fun ⟨timely, _⟩ => timely late
  · rw [if_neg late]
    simp only [late, not_false_eq_true, true_and]
    split
    · next negative => exact iff_of_false (by intro done; cases done) (not_not.mpr negative)
    · next positive => exact iff_of_true rfl positive

theorem Valid.counters {diagnostics : Json}
    (valid : Valid true ("consecutiveFailures" :: counters) diagnostics) :
    Valid true counters diagnostics :=
  fun name listed => valid name (List.mem_cons_of_mem _ listed)

/-- The longest run of failures that any sample shows. -/
def longest (first : Sample) (rest : List Sample) : Int :=
  (rest.map fun sample => sample.read "consecutiveFailures").foldl max
    (first.read "consecutiveFailures")

theorem foldl_max_le_iff {values : List Int} {start limit : Int} :
    values.foldl max start ≤ limit ↔ start ≤ limit ∧ ∀ value ∈ values, value ≤ limit := by
  induction values generalizing start with
  | nil => simp
  | cons head rest ih => rw [List.foldl_cons, ih, max_le_iff, List.forall_mem_cons, and_assoc]

theorem longest_le_iff {first : Sample} {rest : List Sample} {limit : Int} :
    longest first rest ≤ limit ↔
      ∀ sample ∈ first :: rest, sample.read "consecutiveFailures" ≤ limit := by
  rw [longest, foldl_max_le_iff, List.forall_mem_map, List.forall_mem_cons]

theorem assess_of_valid (repr : Option Json → String) (arguments : Arguments) {first : Sample}
    {rest : List Sample} (valid : ValidSamples (first :: rest)) :
    let deltas := counters.map fun name =>
      (name, change (readings Sample.read (first :: rest) name))
    assess repr arguments (first :: rest) = .ok ⟨deltas, longest first rest,
        sampleFailures repr arguments deltas (longest first rest) (rest.getLastD first)⟩ := by
  have validFirst := valid first List.mem_cons_self
  have computed := @deltasOf_of_valid true repr counters _ _ (Valid.counters validFirst)
    (Valid.counters (valid (rest.getLastD first) List.getLastD_mem_cons))
  have current : counter true repr first.diagnostics "consecutiveFailures" =
      .ok (first.read "consecutiveFailures") := counter_of_valid validFirst List.mem_cons_self
  have others : (rest.mapM fun sample =>
      counter true repr sample.diagnostics "consecutiveFailures") =
        .ok (rest.map fun sample => sample.read "consecutiveFailures") :=
    mapM_of_forall fun sample listed =>
      counter_of_valid (valid sample (List.mem_cons_of_mem _ listed)) List.mem_cons_self
  simp only [assess, computed, current, others, bind, Except.bind, pure, Except.pure,
    change_readings]
  rfl

/-- Nothing speaks against the samples exactly if they keep the rules. -/
theorem sampleFailures_eq_nil {difference : String → Int} {maximumConsecutive : Int}
    {last : Sample} :
    sampleFailures repr arguments (counters.map fun name => (name, difference name))
        maximumConsecutive last = [] ↔
      Json.isText last.state arguments.requireFinalState = true ∧
      arguments.thresholds.minimumSuccessDelta ≤ difference "successfulOperations" ∧
      arguments.thresholds.minimumReconnectDelta ≤ difference "reconnectAttempts" ∧
      difference "failedOperations" ≤ arguments.thresholds.maximumFailedDelta ∧
      maximumConsecutive ≤ arguments.thresholds.maximumConsecutiveFailures := by
  have read : ∀ name ∈ counters,
      deltaOf (counters.map fun name => (name, difference name)) name = difference name :=
    fun name listed => deltaOf_map difference listed
  simp only [counters, List.forall_mem_cons] at read
  simp only [sampleFailures, List.append_eq_nil_iff, failWhen_eq_nil, decide_eq_false_iff_not,
    gt_iff_lt, Int.not_lt, Bool.not_eq_false', and_assoc, counters, read]

/-- The tool ends with a verdict once its arguments are in order and the counters can be read. -/
theorem passes_iff_assess : Passes repr arguments answers ↔
      checkArguments arguments = .ok () ∧ ∃ assessment,
        assess repr arguments (samplesFrom arguments.deviceId answers) = .ok assessment ∧
        errorsFrom arguments.deviceId answers = [] ∧ assessment.complaints = [] := by
  unfold Passes main
  simp only [bind_eq_ok, pure_eq_ok]
  constructor
  · rintro ⟨evidence, ⟨⟨⟩, ready, assessment, done, rfl⟩, passed⟩
    rw [List.isEmpty_iff, List.append_eq_nil_iff] at passed
    exact ⟨ready, assessment, done, passed⟩
  · rintro ⟨ready, assessment, done, errors, complaints⟩
    refine ⟨_, ⟨(), ready, assessment, done, rfl⟩, ?_⟩
    rw [List.isEmpty_iff, List.append_eq_nil_iff]
    exact ⟨errors, complaints⟩

theorem passes_iff (valid : ValidSamples (samplesFrom arguments.deviceId answers)) :
    Passes repr arguments answers ↔ Accepted arguments (samplesFrom arguments.deviceId answers)
        (errorsFrom arguments.deviceId answers) := by
  rw [passes_iff_assess]
  generalize errorsFrom arguments.deviceId answers = errors
  generalize samplesFrom arguments.deviceId answers = samples at valid ⊢
  cases samples with
  | nil =>
    -- Without a sample there is always something that speaks against it.
    constructor
    · rintro ⟨-, assessment, done, -, complaints⟩
      cases done
      cases complaints
    · intro accepted
      exact absurd rfl accepted.collected
  | cons first rest =>
    have last : (∀ last ∈ (first :: rest).getLast?,
        Json.isText last.state arguments.requireFinalState = true) ↔
        Json.isText (rest.getLastD first).state arguments.requireFinalState = true := by
      simp only [List.getLast?_cons, List.getLastD_eq_getLast?, Option.mem_some_iff, forall_eq']
    have limit : (∀ entry ∈ arguments.thresholds.maximums,
        change (readings Sample.read (first :: rest) entry.1) ≤ entry.2) ↔
        change (readings Sample.read (first :: rest) "failedOperations") ≤
          arguments.thresholds.maximumFailedDelta := by
      rw [Thresholds.maximums, List.forall_mem_singleton]
    rw [assess_of_valid repr arguments valid]
    constructor
    · rintro ⟨ready, assessment, done, answered, complaints⟩
      cases done
      obtain ⟨state, successes, reconnects, failed, consecutive⟩ :=
        sampleFailures_eq_nil.mp complaints
      exact ⟨ready, answered, List.cons_ne_nil _ _, last.mpr state, successes, reconnects,
        limit.mpr failed, longest_le_iff.mp consecutive⟩
    · intro accepted
      exact ⟨accepted.ready, _, rfl, accepted.answered, sampleFailures_eq_nil.mpr
        ⟨last.mp accepted.state, accepted.successes, accepted.reconnects,
          limit.mp accepted.maximums, longest_le_iff.mpr accepted.consecutive⟩⟩

end Verdict

section Results

variable {repr : Option Json → String} {arguments : Arguments} {answers : List Answer}

/-- Samples that the tool accepts bear the verdict out exactly if no counter went down on the way. -/
theorem supported_iff {samples : List Sample} {errors : List String}
    (accepted : Accepted arguments samples errors) :
    Supported arguments.thresholds samples ↔ Uninterrupted samples :=
  covered_iff_rising maximums_listed accepted.maximums

/-- A verdict is borne out if no counter went down on the way, or if it is none that passes. -/
theorem passes_supported_iff (valid : ValidSamples (samplesFrom arguments.deviceId answers)) :
    (Passes repr arguments answers →
        Supported arguments.thresholds (samplesFrom arguments.deviceId answers)) ↔
      Uninterrupted (samplesFrom arguments.deviceId answers) ∨
      ¬ Accepted arguments (samplesFrom arguments.deviceId answers)
        (errorsFrom arguments.deviceId answers) :=
  verdict_supported_iff (passes_iff valid) supported_iff

/-- Arguments that ask for nothing but the final state. -/
def lenient (deviceId state : String) (samples : List Sample) : Arguments where
  deviceId
  duration := 1
  thresholds := {
    maximumFailedDelta := (change (readings Sample.read samples "failedOperations")).toNat
    maximumConsecutiveFailures :=
      ((samples.map fun sample : Sample => sample.read "consecutiveFailures").foldl max 0).toNat }
  requireFinalState := state

theorem checkArguments_lenient (deviceId state : String) (samples : List Sample) :
    checkArguments (lenient deviceId state samples) = .ok () := by
  refine checkArguments_eq_ok.mpr ⟨?_, le_refl 0, le_refl 0, Int.natCast_nonneg _,
    Int.natCast_nonneg _⟩
  norm_num [lenient]

theorem accepted_lenient (deviceId : String) {state : String} {samples : List Sample}
    (collected : samples ≠ [])
    (final : ∀ last ∈ samples.getLast?, last.state = some (.str state))
    (successes : 0 ≤ change (readings Sample.read samples "successfulOperations"))
    (reconnects : 0 ≤ change (readings Sample.read samples "reconnectAttempts")) :
    Accepted (lenient deviceId state samples) samples [] where
  ready := checkArguments_lenient deviceId state samples
  answered := rfl
  collected := collected
  state := by
    intro last member
    simp [final last member, lenient, Json.isText, Json.str?]
  successes := successes
  reconnects := reconnects
  maximums := by
    rw [Thresholds.maximums, List.forall_mem_singleton]
    exact Int.self_le_toNat _
  consecutive := by
    intro sample listed
    have within := (foldl_max_le_iff.mp (Int.self_le_toNat
      ((samples.map fun sample => sample.read "consecutiveFailures").foldl max 0))).2
    exact within _ (List.mem_map_of_mem listed)

/-- Samples and errors that no arguments accept. -/
def Refused (samples : List Sample) (errors : List String) : Prop :=
  errors ≠ [] ∨
  (∃ last ∈ samples.getLast?, ∀ text, last.state ≠ some (.str text)) ∨
  change (readings Sample.read samples "successfulOperations") < 0 ∨
  change (readings Sample.read samples "reconnectAttempts") < 0

theorem Accepted.not_refused {samples : List Sample} {errors : List String}
    (accepted : Accepted arguments samples errors) : ¬ Refused samples errors := by
  obtain ⟨-, successes, reconnects, -⟩ := checkArguments_eq_ok.mp accepted.ready
  rintro (failed | ⟨last, final, textless⟩ | fewer | fewer)
  · exact failed accepted.answered
  · have state := accepted.state last final
    rw [Json.isText, beq_iff_eq] at state
    exact textless _ (Json.str?_eq_some.mp state)
  · exact absurd (successes.trans accepted.successes) (Int.not_le.mpr fewer)
  · exact absurd (reconnects.trans accepted.reconnects) (Int.not_le.mpr fewer)

theorem always_supported_iff (deviceId : String)
    (valid : ValidSamples (samplesFrom deviceId answers)) :
    (∀ arguments : Arguments, arguments.deviceId = deviceId → Passes repr arguments answers →
        Supported arguments.thresholds (samplesFrom deviceId answers)) ↔
      Uninterrupted (samplesFrom deviceId answers) ∨
      Refused (samplesFrom deviceId answers) (errorsFrom deviceId answers) := by
  constructor
  · intro always
    by_contra fooled
    obtain ⟨interrupted, open'⟩ := not_or.mp fooled
    simp only [Refused, not_or, not_exists, not_and, not_forall, not_not, Int.not_lt] at open'
    obtain ⟨answered, final, successes, reconnects⟩ := open'
    -- Where a counter goes down there are samples, and the last one shows which state to ask for.
    have collected : samplesFrom deviceId answers ≠ [] := by
      intro none
      refine interrupted fun name _ => ?_
      rw [none]
      exact List.isChain_nil
    have shown := List.getLast?_eq_some_getLast collected
    obtain ⟨state, same⟩ := final _ (Option.mem_def.mpr shown)
    have accepted := @accepted_lenient deviceId state (samplesFrom deviceId answers) collected
      (fun last member => by
        rw [shown, Option.mem_some_iff] at member
        rw [← member, same]) successes reconnects
    rw [← answered] at accepted
    exact interrupted ((supported_iff accepted).mp (always _ rfl ((passes_iff valid).mpr accepted)))
  · rintro condition arguments rfl passes
    have accepted := (passes_iff valid).mp passes
    exact (supported_iff accepted).mpr (condition.resolve_right accepted.not_refused)

end Results

end PocoDDS.Tools.DeviceAcceptance
