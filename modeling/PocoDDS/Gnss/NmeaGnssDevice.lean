import Mathlib.Data.List.Induction
import PocoDDS.Gnss.NmeaChecksum

/-! The satellite receiver: the sentences it reads, its fix, and its state. -/

namespace PocoDDS.Gnss

inductive DeviceState
  | offline
  | ready
  | fault
  deriving DecidableEq, Repr

inductive FailureKind
  | transient
  | permanent
  deriving DecidableEq, Repr

structure Failure where
  code : String := ""
  kind : FailureKind := .permanent
  retryable : Bool := false
  active : Bool := false
  occurredAtMicroseconds : Int := 0
  message : String := ""

structure DeviceDiagnostics where
  successfulOperations : UInt64 := 0
  failedOperations : UInt64 := 0
  consecutiveFailures : UInt64 := 0
  lastSuccessMicroseconds : Int := 0
  lastFailureMicroseconds : Int := 0
  lastError : String := ""

structure GeoPosition where
  latitude : Float := 0
  longitude : Float := 0
  altitude : Float := 0
  speed : Float := 0
  course : Float := 0
  timestampMicroseconds : Int := 0

/-- The device. The steady clock of `lastFix` counts nanoseconds. -/
structure NmeaGnssDevice where
  running : Bool := false
  buffer : List UInt8 := []
  position : GeoPosition := {}
  hasFix : Bool := false
  state : DeviceState := .offline
  lastFix : Int := 0
  sequence : UInt64 := 0
  diagnostics : DeviceDiagnostics := {}
  failure : Failure := {}

/-- What the clocks show during an operation. -/
structure Clock where
  epochMicroseconds : Int
  steady : Int
  system : Int

section Failures

variable (clock : Clock) (device : NmeaGnssDevice)

def resolveFailure : NmeaGnssDevice :=
  { device with
    diagnostics := { device.diagnostics with lastError := "" }
    failure := { device.failure with active := false } }

def recordFailure (code : String) (kind : FailureKind) (retryable : Bool) (message : String) :
    NmeaGnssDevice :=
  { device with
    diagnostics := { device.diagnostics with lastError := message }
    failure := ⟨code, kind, retryable, true, clock.system, message⟩ }

def countFailure : DeviceDiagnostics :=
  { device.diagnostics with
    failedOperations := device.diagnostics.failedOperations + 1
    consecutiveFailures := device.diagnostics.consecutiveFailures + 1
    lastFailureMicroseconds := clock.epochMicroseconds }

def markConnected : NmeaGnssDevice :=
  { device with state := .offline, hasFix := false, buffer := [], sequence := device.sequence + 1 }

def markFailure (message : String) (state : DeviceState) : NmeaGnssDevice :=
  let marked := { device with
    state, hasFix := if state ≠ .ready then false else device.hasFix
    sequence := device.sequence + 1, diagnostics := countFailure clock device }
  recordFailure clock marked
    (if message = "GNSS fix stale" then "PDR-DEVICE-GNSS-FIX_STALE"
      else "PDR-DEVICE-GNSS-TRANSPORT_FAILED")
    .transient true message

/-- A fix is stale when it is older than the policy allows, which counts milliseconds. -/
def checkStale (staleAfter : Int) : NmeaGnssDevice :=
  if device.state = .ready ∧ device.lastFix ≠ 0 ∧
      clock.steady - device.lastFix ≥ 1000000 * staleAfter then
    markFailure clock device "GNSS fix stale" .offline
  else device

/-- Opening the channel may fail, and then the device does not run. -/
def start (opened : Bool) : NmeaGnssDevice :=
  if device.running || !opened then device
  else { markConnected device with running := true }

def stop : NmeaGnssDevice :=
  if device.running then
    { device with running := false, state := .offline, hasFix := false,
                  sequence := device.sequence + 1 }
  else device

end Failures

section Sentences

def asciiBytes (text : String) : List UInt8 :=
  text.toList.map fun character => UInt8.ofNat character.toNat

/-- `find(',', start)`. -/
def findComma (sentence : List UInt8) (start : Nat) : Option Nat :=
  ((sentence.drop start).findIdx? (· == 44)).map (start + ·)

/-- Where the field ends that starts at a position: at the next comma, or at the star. -/
def fieldEnd (sentence : List UInt8) (star start : Nat) : Nat :=
  match findComma sentence start with
  | none => star
  | some comma => if comma > star then star else comma

theorem le_fieldEnd {sentence : List UInt8} {star start : Nat} (inside : start ≤ star) :
    start ≤ fieldEnd sentence star start ∧ fieldEnd sentence star start ≤ star := by
  unfold fieldEnd findComma
  cases (sentence.drop start).findIdx? (· == 44) with
  | none => exact ⟨inside, le_rfl⟩
  | some distance =>
    dsimp only [Option.map_some]
    split_ifs <;> omega

/-- The loop over the fields; empty ones are kept. -/
def fieldsFrom (sentence : List UInt8) (star start : Nat) : List (List UInt8) :=
  if start ≤ star then
    let stop := fieldEnd sentence star start
    let field := (sentence.drop start).take (stop - start)
    if stop = star then [field] else field :: fieldsFrom sentence star (stop + 1)
  else []
termination_by star + 1 - start
decreasing_by
  have bounds : start ≤ fieldEnd sentence star start ∧ fieldEnd sentence star start ≤ star :=
    le_fieldEnd (by assumption)
  simp only [stop] at *
  omega

/-- The fields between the dollar sign and the star. -/
def fieldsOf (sentence : List UInt8) : List (List UInt8) :=
  fieldsFrom sentence (sentence.idxOf 42) 1

/-- The kinds of sentences that are read. -/
inductive Kind
  | recommended
  | fixData
  deriving DecidableEq, Repr

def kindOf (values : List (List UInt8)) : Option Kind :=
  let kind := values.getD 0 []
  if (kind = asciiBytes "GPRMC" ∨ kind = asciiBytes "GNRMC") ∧ values.length ≥ 10 then
    some .recommended
  else if (kind = asciiBytes "GPGGA" ∨ kind = asciiBytes "GNGGA") ∧ values.length ≥ 10 then
    some .fixData
  else none

/-- Whether a sentence reports a fix. -/
def fixOf (values : List (List UInt8)) : Kind → Bool
  | .recommended => values.getD 2 [] = asciiBytes "A"
  | .fixData => values.getD 6 [] ≠ [] ∧ values.getD 6 [] ≠ asciiBytes "0"

/-- `std::stod` throws with a message if a text does not start with a number. -/
abbrev Stod := List UInt8 → Except String Float

variable (stod : Stod)

def coordinate (value hemisphere : List UInt8) : Except String Float :=
  if value.isEmpty then .ok 0
  else do
    let raw ← stod value
    let degrees := (raw / 100.0).floor
    let result := degrees + (raw - degrees * 100.0) / 60.0
    pure (if hemisphere = asciiBytes "S" ∨ hemisphere = asciiBytes "W" then -result else result)

/-- An empty field counts as zero. -/
def number (value : List UInt8) : Except String Float :=
  if value.isEmpty then .ok 0 else stod value

/-- The position with the fields of a sentence that reports a fix. -/
def updatePosition (values : List (List UInt8)) (position : GeoPosition) :
    Kind → Except String GeoPosition
  | .recommended => do
    let latitude ← coordinate stod (values.getD 3 []) (values.getD 4 [])
    let longitude ← coordinate stod (values.getD 5 []) (values.getD 6 [])
    let speed ← number stod (values.getD 7 [])
    let course ← number stod (values.getD 8 [])
    pure { position with latitude, longitude, speed, course }
  | .fixData => do
    let latitude ← coordinate stod (values.getD 2 []) (values.getD 3 [])
    let longitude ← coordinate stod (values.getD 4 []) (values.getD 5 [])
    let altitude ← number stod (values.getD 9 [])
    pure { position with latitude, longitude, altitude }

/-- A sentence that was read: the position is stored, and the state follows the fix. -/
def storePosition (clock : Clock) (device : NmeaGnssDevice) (updated : GeoPosition) :
    NmeaGnssDevice :=
  let stored := { device with
    position := { updated with timestampMicroseconds := clock.epochMicroseconds }
    state := if device.hasFix then .ready else .offline
    sequence := device.sequence + 1 }
  if device.hasFix then
    resolveFailure { stored with
      lastFix := clock.steady
      diagnostics := { device.diagnostics with
        successfulOperations := device.diagnostics.successfulOperations + 1
        consecutiveFailures := 0
        lastSuccessMicroseconds := clock.epochMicroseconds } }
  else
    recordFailure clock { stored with diagnostics := countFailure clock device }
      "PDR-DEVICE-GNSS-FIX_INVALID" .transient true "GNSS fix invalid"

def ingestSentence (clock : Clock) (device : NmeaGnssDevice) (sentence : List UInt8) :
    NmeaGnssDevice × Bool :=
  if !validChecksum sentence then
    (markFailure clock device "invalid NMEA checksum" device.state, false)
  else
    let values := fieldsOf sentence
    match kindOf values with
    | none => (device, false)
    | some kind =>
      -- The fix is assigned before the fields are converted.
      let assigned := { device with hasFix := fixOf values kind }
      let converted :=
        if assigned.hasFix then updatePosition stod values device.position kind
        else .ok device.position
      match converted with
      | .error what =>
        (markFailure clock assigned ("invalid NMEA fields: " ++ what) device.state, false)
      | .ok updated => (storePosition clock assigned updated, true)

end Sentences

section Runs

/-- The operations on a device. -/
inductive Operation
  | start (opened : Bool)
  | ingest (clock : Clock) (sentence : List UInt8)
  | connected
  | transportFailed (clock : Clock) (message : String)
  | checkStale (clock : Clock)
  | stop

variable (stod : Stod) (staleAfter : Int)

def apply (device : NmeaGnssDevice) : Operation → NmeaGnssDevice
  | .start opened => start device opened
  | .ingest clock sentence => (ingestSentence stod clock device sentence).1
  | .connected => markConnected device
  | .transportFailed clock message => markFailure clock device message .fault
  | .checkStale clock => checkStale clock device staleAfter
  | .stop => stop device

/-- A new device after some operations. -/
def runDevice (operations : List Operation) : NmeaGnssDevice :=
  operations.foldl (apply stod staleAfter) {}

end Runs

section Fix

def Agrees (device : NmeaGnssDevice) : Prop :=
  device.hasFix = true ↔ device.state = .ready

variable {device : NmeaGnssDevice} (clock : Clock)

theorem markFailure_agrees (message : String) {state : DeviceState}
    (kept : state = .ready → device.hasFix = true) :
    Agrees (markFailure clock device message state) := by
  unfold Agrees markFailure recordFailure
  by_cases ready : state = .ready
  · simp [ready, kept ready]
  · simp [ready]

theorem storePosition_agrees (updated : GeoPosition) :
    Agrees (storePosition clock device updated) := by
  unfold Agrees storePosition resolveFailure recordFailure
  cases fix : device.hasFix <;> simp

/-- A sentence keeps fix and state in agreement, also if its fields cannot be converted. -/
theorem ingestSentence_agrees (stod : Stod) (agrees : Agrees device) (sentence : List UInt8) :
    Agrees (ingestSentence stod clock device sentence).1 := by
  unfold ingestSentence
  split
  · exact markFailure_agrees clock _ agrees.mpr
  · dsimp only
    split
    · exact agrees
    · next kind _ =>
      split
      · next what failed =>
        -- Only a sentence that reports a fix is converted.
        refine markFailure_agrees clock _ fun _ => ?_
        cases fix : fixOf (fieldsOf sentence) kind with
        | true => rfl
        | false =>
          rw [fix] at failed
          cases failed
      · exact storePosition_agrees clock _

theorem apply_agrees (stod : Stod) (staleAfter : Int) (agrees : Agrees device)
    (operation : Operation) : Agrees (apply stod staleAfter device operation) := by
  cases operation with
  | start opened =>
    simp only [apply, start]
    split
    · exact agrees
    · simp [Agrees, markConnected]
  | ingest clock sentence => exact ingestSentence_agrees clock stod agrees sentence
  | connected => simp [Agrees, apply, markConnected]
  | transportFailed clock message => exact markFailure_agrees clock message (by simp)
  | checkStale clock =>
    simp only [apply, checkStale]
    split
    · exact markFailure_agrees clock _ (by simp)
    · exact agrees
  | stop =>
    simp only [apply, stop]
    split
    · simp [Agrees]
    · exact agrees

end Fix

section Position

variable {stod : Stod}

/-- The fields of a sentence that are converted to numbers. -/
def numericFields (values : List (List UInt8)) : Kind → List (List UInt8)
  | .recommended => [3, 5, 7, 8].map fun index => values.getD index []
  | .fixData => [2, 4, 9].map fun index => values.getD index []

/-- A sentence that reports a fix with a field that is no number. -/
def Unparsable (stod : Stod) (sentence : List UInt8) : Prop :=
  ∃ kind, kindOf (fieldsOf sentence) = some kind ∧ fixOf (fieldsOf sentence) kind = true ∧
    ∃ field ∈ numericFields (fieldsOf sentence) kind, field ≠ [] ∧
      ∃ what, stod field = .error what

/-- A field that is given is a number. -/
def Parsable (stod : Stod) (field : List UInt8) : Prop :=
  field ≠ [] → ∃ value, stod field = .ok value

theorem except_bind_ok {α β : Type} {first : Except String α} {next : α → Except String β}
    {result : β} (bound : (first >>= next) = .ok result) :
    ∃ value, first = .ok value ∧ next value = .ok result := by
  cases first with
  | error what => cases bound
  | ok value => exact ⟨value, rfl, bound⟩

theorem number_ok {value : List UInt8} {result : Float} (read : number stod value = .ok result) :
    Parsable stod value := by
  intro filled
  unfold number at read
  rw [if_neg (by simpa using filled)] at read
  exact ⟨result, read⟩

theorem coordinate_ok {value hemisphere : List UInt8} {result : Float}
    (read : coordinate stod value hemisphere = .ok result) : Parsable stod value := by
  intro filled
  unfold coordinate at read
  rw [if_neg (by simpa using filled)] at read
  obtain ⟨raw, converted, -⟩ := except_bind_ok read
  exact ⟨raw, converted⟩

theorem updatePosition_ok {values : List (List UInt8)} {position updated : GeoPosition}
    {kind : Kind} (read : updatePosition stod values position kind = .ok updated) :
    ∀ field ∈ numericFields values kind, Parsable stod field := by
  cases kind with
  | recommended =>
    obtain ⟨_, latitude, read⟩ := except_bind_ok read
    obtain ⟨_, longitude, read⟩ := except_bind_ok read
    obtain ⟨_, speed, read⟩ := except_bind_ok read
    obtain ⟨_, course, -⟩ := except_bind_ok read
    simpa [numericFields] using
      ⟨coordinate_ok latitude, coordinate_ok longitude, number_ok speed, number_ok course⟩
  | fixData =>
    obtain ⟨_, latitude, read⟩ := except_bind_ok read
    obtain ⟨_, longitude, read⟩ := except_bind_ok read
    obtain ⟨_, altitude, -⟩ := except_bind_ok read
    simpa [numericFields] using
      ⟨coordinate_ok latitude, coordinate_ok longitude, number_ok altitude⟩

theorem ingestSentence_refused (clock : Clock) (device : NmeaGnssDevice) {sentence : List UInt8}
    (bad : validChecksum sentence = false ∨ Unparsable stod sentence) :
    (ingestSentence stod clock device sentence).1.position = device.position ∧
      (ingestSentence stod clock device sentence).2 = false := by
  unfold ingestSentence
  by_cases valid : validChecksum sentence = true
  · rw [valid]
    rcases bad with invalid | ⟨kind, recognized, fix, field, member, filled, what, failed⟩
    · rw [valid] at invalid
      cases invalid
    · -- The conversion of the position stops at the field, if not before.
      simp only [Bool.not_true, Bool.false_eq_true, if_false, recognized, fix, if_true]
      cases converted : updatePosition stod (fieldsOf sentence) device.position kind with
      | error what => exact ⟨rfl, rfl⟩
      | ok updated =>
        obtain ⟨value, read⟩ := updatePosition_ok converted field member filled
        rw [failed] at read
        cases read
  · simp only [Bool.not_eq_true] at valid
    rw [valid]
    exact ⟨rfl, rfl⟩

end Position

section Sequence

variable {stod : Stod} (clock : Clock) (device : NmeaGnssDevice)

@[simp] theorem storePosition_sequence (updated : GeoPosition) :
    (storePosition clock device updated).sequence = device.sequence + 1 := by
  unfold storePosition
  dsimp only
  split <;> rfl

theorem apply_sequence (staleAfter : Int) (operation : Operation) :
    (apply stod staleAfter device operation).sequence = device.sequence ∨
      (apply stod staleAfter device operation).sequence = device.sequence + 1 := by
  cases operation with
  | start opened =>
    simp only [apply, start]
    split
    · exact .inl rfl
    · exact .inr rfl
  | ingest clock sentence =>
    simp only [apply, ingestSentence]
    split
    · exact .inr rfl
    · split
      · exact .inl rfl
      · split
        · exact .inr rfl
        · exact .inr (storePosition_sequence _ _ _)
  | connected => exact .inr rfl
  | transportFailed clock message => exact .inr rfl
  | checkStale clock =>
    simp only [apply, checkStale]
    split
    · exact .inr rfl
    · exact .inl rfl
  | stop =>
    simp only [apply, stop]
    split
    · exact .inr rfl
    · exact .inl rfl

end Sequence

section Results

variable (stod : Stod) (staleAfter : Int)

theorem runDevice_append (earlier later : List Operation) :
    runDevice stod staleAfter (earlier ++ later) =
      later.foldl (apply stod staleAfter) (runDevice stod staleAfter earlier) :=
  List.foldl_append ..

theorem runDevice_agrees (operations : List Operation) :
    Agrees (runDevice stod staleAfter operations) := by
  induction operations using List.reverseRecOn with
  | nil => simp [Agrees, runDevice]
  | append_singleton earlier operation ih =>
    rw [runDevice_append]
    exact apply_agrees stod staleAfter ih operation

theorem foldl_sequence (device : NmeaGnssDevice) (operations : List Operation) :
    ∃ count ≤ operations.length, (operations.foldl (apply stod staleAfter) device).sequence =
      device.sequence + UInt64.ofNat count := by
  induction operations generalizing device with
  | nil => exact ⟨0, le_rfl, by simp⟩
  | cons operation rest ih =>
    obtain ⟨count, few, whole⟩ := ih (apply stod staleAfter device operation)
    rw [List.foldl_cons, whole]
    rcases @apply_sequence stod device staleAfter operation with same | next
    · exact ⟨count, few.trans (Nat.le_succ _), by rw [same]⟩
    · refine ⟨count + 1, Nat.succ_le_succ few, ?_⟩
      rw [next, UInt64.ofNat_add, UInt64.add_assoc, UInt64.add_comm 1]
      rfl

theorem runDevice_sequence_le {earlier later : List Operation}
    (short : (earlier ++ later).length < 2 ^ 64) :
    (runDevice stod staleAfter earlier).sequence ≤
      (runDevice stod staleAfter (earlier ++ later)).sequence := by
  obtain ⟨before, few, start⟩ := foldl_sequence stod staleAfter {} earlier
  obtain ⟨more, few', whole⟩ :=
    foldl_sequence stod staleAfter (runDevice stod staleAfter earlier) later
  rw [List.length_append] at short
  have begun : (runDevice stod staleAfter earlier).sequence = UInt64.ofNat before := by
    simpa [runDevice] using start
  rw [runDevice_append, whole, begun, ← UInt64.ofNat_add, UInt64.le_iff_toNat_le]
  -- Neither count reaches the end of the range.
  have small : before + more < UInt64.size := by
    change before + more < 2 ^ 64
    omega
  rw [UInt64.toNat_ofNat_of_lt' (by omega), UInt64.toNat_ofNat_of_lt' small]
  omega

/-- In every run the device has a fix exactly while it is ready, refused sentences leave the position
as it was, and the sequence number counts up, modulo the range of its counter. -/
theorem runDevice_fix (operations : List Operation) :
    ((runDevice stod staleAfter operations).hasFix = true ↔
      (runDevice stod staleAfter operations).state = .ready) ∧
    (∀ clock sentence, validChecksum sentence = false ∨ Unparsable stod sentence →
      (runDevice stod staleAfter (operations ++ [.ingest clock sentence])).position =
        (runDevice stod staleAfter operations).position) ∧
    (∀ operation,
      (runDevice stod staleAfter (operations ++ [operation])).sequence =
          (runDevice stod staleAfter operations).sequence ∨
        (runDevice stod staleAfter (operations ++ [operation])).sequence =
          (runDevice stod staleAfter operations).sequence + 1) ∧
    ∀ later, (operations ++ later).length < 2 ^ 64 →
      (runDevice stod staleAfter operations).sequence ≤
        (runDevice stod staleAfter (operations ++ later)).sequence := by
  refine ⟨runDevice_agrees stod staleAfter operations, ?_, ?_, ?_⟩
  · intro clock sentence bad
    rw [runDevice_append]
    exact (ingestSentence_refused clock _ bad).1
  · intro operation
    rw [runDevice_append]
    exact apply_sequence _ staleAfter operation
  · exact fun later short => runDevice_sequence_le stod staleAfter short

theorem foldl_transportFailed (clock : Clock) (device : NmeaGnssDevice) (count : Nat) :
    ((List.replicate count (.transportFailed clock "read")).foldl (apply stod staleAfter)
      device).sequence = device.sequence + UInt64.ofNat count := by
  induction count generalizing device with
  | zero => simp
  | succ count ih =>
    rw [List.replicate_succ, List.foldl_cons, ih, UInt64.ofNat_add, UInt64.add_comm _ (.ofNat 1),
      ← UInt64.add_assoc]
    rfl

/-- After as many failures as the counter can count, the next one takes it back to zero. -/
theorem runDevice_sequence_wraps :
    ¬ ∀ (stod : Stod) (staleAfter : Int) (operations : List Operation) (operation : Operation),
      (runDevice stod staleAfter operations).sequence ≤
        (runDevice stod staleAfter (operations ++ [operation])).sequence := by
  intro never
  have wrapped := never (fun _ => .error "stod") 5000
    (List.replicate (2 ^ 64 - 1) (.transportFailed ⟨0, 0, 0⟩ "read"))
    (.transportFailed ⟨0, 0, 0⟩ "read")
  rw [← List.replicate_succ'] at wrapped
  unfold runDevice at wrapped
  rw [foldl_transportFailed, foldl_transportFailed] at wrapped
  exact absurd wrapped (by decide)

end Results

end PocoDDS.Gnss
