import PocoDDS.Lib.Run

/-! Managed protocols: the service that wraps one, and the gateway's loop that reopens it. -/

namespace PocoDDS.Protocols

open RunLogic

section Service

variable {δ : Type}

/-- How a call of the protocol's own `open` ends. A protocol that fails to open stays closed, and
one that opened may have lost its transport again by the time it is asked. -/
inductive OpenOutcome
  | opened (stays : Bool)
  | failed (message : String)
  deriving DecidableEq

/-- The service around one protocol, with what the protocol itself answers to `isOpen`. -/
structure ProtocolService (δ : Type) where
  protocolOpen : Bool
  desiredOpen : Bool := true
  knownOpen : Bool
  knownDiagnostics : δ
  deriving DecidableEq

/-- A service is constructed with what its protocol answers at that time. -/
def ProtocolService.construct (protocolOpen : Bool) (diagnostics : δ) : ProtocolService δ where
  protocolOpen := protocolOpen
  knownOpen := protocolOpen
  knownDiagnostics := diagnostics

/-- `open` of the protocol, with the cached state set from its answer or cleared by its exception. -/
def ProtocolService.openProtocol (service : ProtocolService δ) :
    OpenOutcome → Except String Unit × ProtocolService δ
  | .opened stays => (.ok (), { service with protocolOpen := stays, knownOpen := stays })
  | .failed message => (.error message, { service with protocolOpen := false, knownOpen := false })

/-- `isOpen`; the lock is only tried, and a taken one leaves the cached state. -/
def ProtocolService.isOpen (service : ProtocolService δ) (owns : Bool) : Bool × ProtocolService δ :=
  if owns then (service.protocolOpen, { service with knownOpen := service.protocolOpen })
  else (service.knownOpen, service)

/-- `diagnostics`; the snapshot is what the protocol reports when the lock was free. -/
def ProtocolService.diagnostics (service : ProtocolService δ) :
    Option δ → δ × ProtocolService δ
  | some snapshot => (snapshot, { service with knownDiagnostics := snapshot })
  | none => (service.knownDiagnostics, service)

/-- `open`. -/
def ProtocolService.openService (service : ProtocolService δ) (outcome : OpenOutcome) :
    Except String Unit × ProtocolService δ :=
  let service := { service with desiredOpen := true }
  if service.protocolOpen then (.ok (), { service with knownOpen := service.protocolOpen })
  else service.openProtocol outcome

/-- `close`; closing a protocol raises nothing and leaves it closed. -/
def ProtocolService.close (service : ProtocolService δ) : ProtocolService δ :=
  { service with desiredOpen := false, protocolOpen := false, knownOpen := false }

/-- `restart`. -/
def ProtocolService.restart (service : ProtocolService δ) (outcome : OpenOutcome) :
    Except String Unit × ProtocolService δ :=
  let service := { service with desiredOpen := true, protocolOpen := false, knownOpen := false }
  service.openProtocol outcome

/-- `recoverIfDesired`: whether the protocol was reopened, or the exception of the attempt. -/
def ProtocolService.recoverIfDesired (service : ProtocolService δ) (outcome : OpenOutcome) :
    Except String Bool × ProtocolService δ :=
  if !service.desiredOpen then (.ok false, service)
  else if service.protocolOpen then (.ok false, { service with knownOpen := true })
  else
    match service.openProtocol outcome with
    | (.ok (), after) => (.ok true, after)
    | (.error message, after) => (.error message, after)

end Service

section Gateway

/-- The gateway's record for reopening one instance. The configuration is accepted only when the
maximum is not below the initial delay. -/
structure Recovery where
  enabled : Bool
  initialDelay : Nat
  maximumDelay : Nat
  currentDelay : Nat
  nextAttempt : Nat
  ordered : initialDelay ≤ maximumDelay

/-- The record as `add` makes it. -/
def Recovery.add (autoReconnect : Bool) (initialDelay maximumDelay now : Nat)
    (ordered : initialDelay ≤ maximumDelay) : Recovery where
  enabled := autoReconnect
  initialDelay := initialDelay
  maximumDelay := maximumDelay
  currentDelay := initialDelay
  nextAttempt := now + initialDelay
  ordered := ordered

/-- Whether a pass of the loop at a time comes to the instance. -/
def Recovery.due (recovery : Recovery) (now : Nat) : Bool :=
  recovery.enabled && decide (recovery.nextAttempt ≤ now)

/-- What the loop notes after an attempt. -/
def Recovery.record (recovery : Recovery) (now : Nat) : Except String Bool → Recovery
  | .ok recovered => { recovery with
      currentDelay := if recovered then recovery.initialDelay else recovery.currentDelay
      nextAttempt := now + recovery.initialDelay }
  | .error _ => { recovery with
      nextAttempt := now + recovery.currentDelay
      currentDelay := min recovery.maximumDelay (recovery.currentDelay * 2) }

/-- One instance of the gateway. -/
structure Managed (δ : Type) where
  service : ProtocolService δ
  recovery : Recovery

variable {δ : Type}

/-- What can happen to an instance: operations, each one critical section, passes of the recovery
loop with the time it read for the pass, and losses of the transport. -/
inductive Event (δ : Type)
  | open (outcome : OpenOutcome)
  | close
  | restart (outcome : OpenOutcome)
  | recoverIfDesired (outcome : OpenOutcome)
  | isOpen (owns : Bool)
  | diagnostics (snapshot : Option δ)
  | pass (now : Nat) (outcome : OpenOutcome)
  | loss

def Managed.step (managed : Managed δ) : Event δ → Managed δ
  | .open outcome => { managed with service := (managed.service.openService outcome).2 }
  | .close => { managed with service := managed.service.close }
  | .restart outcome => { managed with service := (managed.service.restart outcome).2 }
  | .recoverIfDesired outcome =>
    { managed with service := (managed.service.recoverIfDesired outcome).2 }
  | .isOpen owns => { managed with service := (managed.service.isOpen owns).2 }
  | .diagnostics snapshot => { managed with service := (managed.service.diagnostics snapshot).2 }
  | .pass now outcome =>
    if managed.recovery.due now then
      let (result, service) := managed.service.recoverIfDesired outcome
      { service, recovery := managed.recovery.record now result }
    else managed
  | .loss => { managed with service := { managed.service with protocolOpen := false } }

/-- A pass that does not come to the instance leaves it alone. -/
theorem Managed.step_pass_idle {managed : Managed δ} {now : Nat}
    (early : managed.recovery.due now = false) (outcome : OpenOutcome) :
    managed.step (.pass now outcome) = managed := by
  simp [Managed.step, early]

/-- A pass that comes to the instance makes an attempt and records it. -/
theorem Managed.step_pass_due {managed : Managed δ} {now : Nat}
    (due : managed.recovery.due now = true) (outcome : OpenOutcome) :
    managed.step (.pass now outcome) =
      { service := (managed.service.recoverIfDesired outcome).2
        recovery := managed.recovery.record now (managed.service.recoverIfDesired outcome).1 } := by
  simp [Managed.step, due]

end Gateway

open Managed

section Observation

variable {δ : Type}

/-- What the loop's attempt of an event came to, if the event is one. -/
def Managed.attempt (managed : Managed δ) : Event δ → Option (Nat × Except String Bool)
  | .pass now outcome =>
    if managed.recovery.due now then some (now, (managed.service.recoverIfDesired outcome).1)
    else none
  | _ => none

/-- Whether an event is an operation that holds the mutex of the service. -/
def Managed.locks (managed : Managed δ) : Event δ → Bool
  | .isOpen owns => owns
  | .diagnostics snapshot => snapshot.isSome
  | .pass now _ => managed.recovery.due now
  | .loss => false
  | _ => true

/-- An attempt of the loop as an observer notes it. -/
structure Attempt where
  now : Nat
  failed : Bool
  /-- The time until the next attempt is due. -/
  wait : Nat
  /-- The protocol was open at some time since the failure before. -/
  afterOpen : Bool
  deriving DecidableEq

/-- An instance with what an observer remembers of its run; the attempts are newest first. -/
structure Observed (δ : Type) where
  managed : Managed δ
  changed : Bool := false
  wasOpen : Bool
  attempts : List Attempt := []

def Observed.note (before : Observed δ) (event : Event δ) : Option Attempt :=
  (before.managed.attempt event).map fun (now, result) =>
    { now, failed := !result.isOk
      wait := (before.managed.step event).recovery.nextAttempt - now
      afterOpen := before.wasOpen }

def Observed.step (before : Observed δ) (event : Event δ) : Observed δ :=
  let managed := before.managed.step event
  let note := before.note event
  { managed
    changed :=
      if before.managed.locks event then false
      -- Outside the operations only the transport itself can close the protocol.
      else before.changed || (before.managed.service.protocolOpen && !managed.service.protocolOpen)
    wasOpen :=
      if note.any Attempt.failed then managed.service.protocolOpen
      else before.wasOpen || managed.service.protocolOpen
    attempts := note.toList ++ before.attempts }

/-- An instance just added, with its protocol open or not. -/
def Observed.start (protocolOpen : Bool) (diagnostics : δ) (autoReconnect : Bool)
    (initialDelay maximumDelay now : Nat) (ordered : initialDelay ≤ maximumDelay) : Observed δ where
  managed :=
    { service := .construct protocolOpen diagnostics
      recovery := .add autoReconnect initialDelay maximumDelay now ordered }
  wasOpen := protocolOpen

/-- The number of failures in a row that a list of attempts begins with. -/
def failures (attempts : List Attempt) : Nat :=
  (attempts.takeWhile Attempt.failed).length

end Observation

section Wish

variable {δ : Type}

/-- What an operator may expect of a run of an instance and of the state it ends in. -/
structure FollowsWish (initialDelay maximumDelay : Nat) (events : List (Event δ))
    (final : Observed δ) : Prop where
  /-- A closed protocol stays closed until it is asked to open. -/
  closed : ∀ earlier later, events = earlier ++ .close :: later →
    (∀ event ∈ later, ∀ outcome, event ≠ .open outcome ∧ event ≠ .restart outcome) →
    final.managed.service.protocolOpen = false
  /-- The cached state is the protocol's, unless the transport changed after the last operation. -/
  known : final.changed = false →
    final.managed.service.knownOpen = final.managed.service.protocolOpen
  /-- The gaps between failures in a row double from the initial delay up to the maximum. -/
  spaced : ∀ later next first earlier, final.attempts = later ++ next :: first :: earlier →
    next.failed → first.failed →
    first.now + min maximumDelay (2 ^ failures earlier * initialDelay) ≤ next.now
  lower : initialDelay ≤ final.managed.recovery.currentDelay
  upper : final.managed.recovery.currentDelay ≤ maximumDelay
  /-- The first failure after the protocol was open is followed by the initial delay. -/
  reset : ∀ attempt ∈ final.attempts, attempt.failed → attempt.afterOpen →
    attempt.wait = initialDelay

/-- The steps that do not run into the two oversights: `diagnostics` takes the mutex only when no
loss is unnoticed, and a closed protocol is opened from outside the loop only while the loop's delay
is the initial one. -/
structure Observed.Attentive (before : Observed δ) (event : Event δ) : Prop where
  noticed : ∀ snapshot, event = .diagnostics (some snapshot) → before.changed = false
  rested : (∀ now outcome, event ≠ .pass now outcome) →
    before.managed.service.protocolOpen = false →
    (before.managed.step event).service.protocolOpen = true →
    before.managed.recovery.currentDelay = before.managed.recovery.initialDelay

end Wish

section Closed

variable {δ : Type}

/-- Opening the protocol leaves the wish alone and makes the cached state agree. -/
theorem ProtocolService.openProtocol_known (service : ProtocolService δ) (outcome : OpenOutcome) :
    (service.openProtocol outcome).2.desiredOpen = service.desiredOpen ∧
      (service.openProtocol outcome).2.knownOpen =
        (service.openProtocol outcome).2.protocolOpen := by
  cases outcome <;> exact ⟨rfl, rfl⟩

/-- What `recoverIfDesired` does to the service: nothing, a refreshed cache, or an attempt. -/
theorem ProtocolService.recoverIfDesired_cases (service : ProtocolService δ)
    (outcome : OpenOutcome) :
    (service.desiredOpen = false ∧ service.recoverIfDesired outcome = (.ok false, service)) ∨
    (service.desiredOpen = true ∧ service.protocolOpen = true ∧
      service.recoverIfDesired outcome = (.ok false, { service with knownOpen := true })) ∨
    (service.desiredOpen = true ∧ service.protocolOpen = false ∧
      (service.recoverIfDesired outcome).2 = (service.openProtocol outcome).2 ∧
      (service.recoverIfDesired outcome).1 =
        match outcome with
        | .opened _ => .ok true
        | .failed message => .error message) := by
  cases desired : service.desiredOpen with
  | false => exact .inl ⟨rfl, by simp [recoverIfDesired, desired]⟩
  | true =>
    cases isOpen : service.protocolOpen with
    | true => exact .inr (.inl ⟨rfl, rfl, by simp [recoverIfDesired, desired, isOpen]⟩)
    | false =>
      refine .inr (.inr ⟨rfl, rfl, ?_⟩)
      cases outcome <;> simp [recoverIfDesired, openProtocol, desired, isOpen]

/-- A protocol that is closed by wish, with the cache agreeing. -/
structure ProtocolService.Resting (service : ProtocolService δ) : Prop where
  desired : service.desiredOpen = false
  shut : service.protocolOpen = false
  known : service.knownOpen = false

theorem ProtocolService.close_resting (service : ProtocolService δ) : service.close.Resting :=
  ⟨rfl, rfl, rfl⟩

/-- Only `open` and `restart` end the rest of a service. -/
theorem Managed.resting_step {managed : Managed δ} (rests : managed.service.Resting)
    {event : Event δ} (other : ∀ outcome, event ≠ .open outcome ∧ event ≠ .restart outcome) :
    (managed.step event).service.Resting := by
  have refused : ∀ outcome, (managed.service.recoverIfDesired outcome).2 = managed.service := by
    intro outcome
    simp [ProtocolService.recoverIfDesired, rests.desired]
  cases event with
  | «open» outcome => exact absurd rfl (other outcome).1
  | close => exact managed.service.close_resting
  | restart outcome => exact absurd rfl (other outcome).2
  | recoverIfDesired outcome => simpa only [Managed.step, refused] using rests
  | isOpen owns =>
    cases owns with
    | false => exact rests
    | true => exact ⟨rests.desired, rests.shut, rests.shut⟩
  | diagnostics snapshot =>
    cases snapshot with
    | none => exact rests
    | some snapshot => exact ⟨rests.desired, rests.shut, rests.known⟩
  | pass now outcome =>
    cases due : managed.recovery.due now with
    | false => rwa [step_pass_idle due]
    | true =>
      rw [step_pass_due due]
      simpa only [refused] using rests
  | loss => exact ⟨rests.desired, rfl, rests.known⟩

/-- A run without `open` and `restart` leaves the service at rest. -/
theorem Observed.resting_run {observed : Observed δ} (rests : observed.managed.service.Resting)
    {events : List (Event δ)}
    (others : ∀ event ∈ events, ∀ outcome, event ≠ .open outcome ∧ event ≠ .restart outcome) :
    (events.foldl Observed.step observed).managed.service.Resting := by
  induction events generalizing observed with
  | nil => exact rests
  | cons event rest ih =>
    refine ih ?_ fun later member => others later (List.mem_cons_of_mem _ member)
    exact resting_step rests (others event (by simp))

def ProtocolService.Decided (service : ProtocolService δ) : Prop :=
  service.desiredOpen = true ∨ service.Resting

/-- Every event keeps the service decided. -/
theorem Managed.decided_step {managed : Managed δ} (decided : managed.service.Decided)
    (event : Event δ) : (managed.step event).service.Decided := by
  -- An attempt does not touch the wish, whatever it comes to.
  have recovered : ∀ outcome, (managed.service.recoverIfDesired outcome).2.Decided := by
    intro outcome
    rcases managed.service.recoverIfDesired_cases outcome with
      ⟨-, same⟩ | ⟨wanted, -, same⟩ | ⟨wanted, -, same, -⟩
    · rw [same]
      exact decided
    · rw [same]
      exact .inl wanted
    · rw [same]
      exact .inl ((managed.service.openProtocol_known outcome).1.trans wanted)
  cases event with
  | «open» outcome =>
    refine .inl ?_
    simp only [Managed.step, ProtocolService.openService]
    split
    · rfl
    · exact (ProtocolService.openProtocol_known _ outcome).1
  | restart outcome => exact .inl (ProtocolService.openProtocol_known _ outcome).1
  | recoverIfDesired outcome => exact recovered outcome
  | pass now outcome =>
    cases due : managed.recovery.due now with
    | false => rwa [step_pass_idle due]
    | true =>
      rw [step_pass_due due]
      exact recovered outcome
  | close => exact .inr managed.service.close_resting
  | isOpen owns =>
    rcases decided with wanted | rests
    · cases owns <;> exact .inl wanted
    · exact .inr (resting_step rests (by simp))
  | diagnostics snapshot =>
    rcases decided with wanted | rests
    · cases snapshot <;> exact .inl wanted
    · exact .inr (resting_step rests (by simp))
  | loss =>
    rcases decided with wanted | rests
    · exact .inl wanted
    · exact .inr (resting_step rests (by simp))

end Closed

section Known

variable {δ : Type}

/-- The cached state agrees with the protocol unless a change went unnoticed. -/
structure Observed.Settled (observed : Observed δ) : Prop where
  decided : observed.managed.service.Decided
  agrees : observed.changed = false →
    observed.managed.service.knownOpen = observed.managed.service.protocolOpen

/-- After `recoverIfDesired` the cached state agrees. -/
theorem ProtocolService.recoverIfDesired_known {service : ProtocolService δ}
    (decided : service.Decided) (outcome : OpenOutcome) :
    (service.recoverIfDesired outcome).2.knownOpen =
      (service.recoverIfDesired outcome).2.protocolOpen := by
  rcases service.recoverIfDesired_cases outcome with
    ⟨unwanted, same⟩ | ⟨-, isOpen, same⟩ | ⟨-, -, same, -⟩
  · rw [same]
    -- Nothing is refreshed here, but a service that is not to be open is at rest.
    rcases decided with wanted | rests
    · simp [unwanted] at wanted
    · exact rests.known.trans rests.shut.symm
  · rw [same]
    exact isOpen.symm
  · rw [same]
    exact (service.openProtocol_known outcome).2

/-- Without an operation the observer still sees no change only if there was none. -/
theorem Observed.unchanged_of_step {before : Observed δ} {event : Event δ}
    (outside : before.managed.locks event = false)
    (unchanged : (before.step event).changed = false) :
    before.changed = false ∧ (before.managed.service.protocolOpen = true →
      (before.managed.step event).service.protocolOpen = true) := by
  simpa [Observed.step, outside] using unchanged

/-- Every attentive event keeps the cached state in agreement. -/
theorem Observed.settled_step {before : Observed δ} (settled : before.Settled) {event : Event δ}
    (noticed : ∀ snapshot, event = .diagnostics (some snapshot) → before.changed = false) :
    (before.step event).Settled := by
  refine ⟨decided_step settled.decided event, ?_⟩
  have recovered := ProtocolService.recoverIfDesired_known settled.decided
  cases event with
  | «open» outcome =>
    intro _
    simp only [Observed.step, Managed.step, ProtocolService.openService]
    split
    · rfl
    · exact (ProtocolService.openProtocol_known _ outcome).2
  | close => exact fun _ => rfl
  | restart outcome => exact fun _ => (ProtocolService.openProtocol_known _ outcome).2
  | recoverIfDesired outcome => exact fun _ => recovered outcome
  | isOpen owns =>
    cases owns with
    | true => exact fun _ => rfl
    | false => exact fun unchanged => settled.agrees (Observed.unchanged_of_step rfl unchanged).1
  | diagnostics snapshot =>
    cases snapshot with
    | some snapshot => exact fun _ => settled.agrees (noticed snapshot rfl)
    | none => exact fun unchanged => settled.agrees (Observed.unchanged_of_step rfl unchanged).1
  | pass now outcome =>
    cases due : before.managed.recovery.due now with
    | false =>
      intro unchanged
      have outside : before.managed.locks (.pass now outcome) = false := due
      simp only [Observed.step, step_pass_idle due]
      exact settled.agrees (Observed.unchanged_of_step outside unchanged).1
    | true =>
      intro _
      simp only [Observed.step, step_pass_due due]
      exact recovered outcome
  | loss =>
    intro unchanged
    -- A loss that closes the protocol is a change, and any other leaves it closed.
    obtain ⟨quiet, kept⟩ := Observed.unchanged_of_step rfl unchanged
    have shut : before.managed.service.protocolOpen = false := by
      simpa [Managed.step] using kept
    exact (settled.agrees quiet).trans shut

end Known

section Pace

variable {δ : Type} {initialDelay maximumDelay : Nat}

/-- The delay that is due after some failures in a row. -/
def backOff (initialDelay maximumDelay count : Nat) : Nat :=
  min maximumDelay (2 ^ count * initialDelay)

/-- Doubling a delay of one more failure than before is still enough. -/
theorem backOff_succ {count current : Nat}
    (grown : backOff initialDelay maximumDelay count ≤ current) :
    backOff initialDelay maximumDelay (count + 1) ≤ min maximumDelay (current * 2) := by
  simp only [backOff, pow_succ] at *
  have twice : 2 ^ count * 2 * initialDelay = 2 ^ count * initialDelay * 2 := by ring
  rw [twice]
  omega

/-- The delays of the loop, and the attempts made so far with the gaps between them. -/
structure Observed.Paced (initialDelay maximumDelay : Nat) (observed : Observed δ) : Prop where
  initial : observed.managed.recovery.initialDelay = initialDelay
  maximum : observed.managed.recovery.maximumDelay = maximumDelay
  lower : initialDelay ≤ observed.managed.recovery.currentDelay
  upper : observed.managed.recovery.currentDelay ≤ maximumDelay
  grown : backOff initialDelay maximumDelay (failures observed.attempts) ≤
    observed.managed.recovery.currentDelay
  pending : ∀ first earlier, observed.attempts = first :: earlier → first.failed →
    first.now + backOff initialDelay maximumDelay (failures earlier) ≤
      observed.managed.recovery.nextAttempt
  spaced : ∀ later next first earlier, observed.attempts = later ++ next :: first :: earlier →
    next.failed → first.failed →
    first.now + backOff initialDelay maximumDelay (failures earlier) ≤ next.now

theorem Observed.note_cases (before : Observed δ) (event : Event δ) : (before.note event = none ∧
      (before.managed.step event).recovery = before.managed.recovery) ∨
    ∃ now outcome, event = .pass now outcome ∧ before.managed.recovery.due now = true ∧
      before.note event = some
        { now, failed := !(before.managed.service.recoverIfDesired outcome).1.isOk
          wait := (before.managed.step event).recovery.nextAttempt - now
          afterOpen := before.wasOpen } ∧
      (before.managed.step event).recovery =
        before.managed.recovery.record now (before.managed.service.recoverIfDesired outcome).1 := by
  cases event with
  | pass now outcome =>
    cases due : before.managed.recovery.due now with
    | false =>
      refine .inl ⟨?_, by rw [step_pass_idle due]⟩
      simp [Observed.note, Managed.attempt, due]
    | true =>
      refine .inr ⟨now, outcome, rfl, due, ?_, by rw [step_pass_due due]⟩
      simp [Observed.note, Managed.attempt, due]
  | «open» _ | close | restart _ | recoverIfDesired _ | isOpen _ | diagnostics _ | loss =>
    exact .inl ⟨rfl, rfl⟩

/-- Every event keeps the pace. -/
theorem Observed.paced_step {before : Observed δ} (paced : before.Paced initialDelay maximumDelay)
    (event : Event δ) : (before.step event).Paced initialDelay maximumDelay := by
  have attempts : (before.step event).attempts = (before.note event).toList ++ before.attempts := rfl
  have managed : (before.step event).managed = before.managed.step event := rfl
  rcases before.note_cases event with ⟨quiet, same⟩ | ⟨now, outcome, rfl, due, noted, recorded⟩
  · -- No attempt: neither the record nor the list changes.
    have listed : (before.step event).attempts = before.attempts := by simp [attempts, quiet]
    constructor <;> simp only [managed, same, listed]
    exacts [paced.initial, paced.maximum, paced.lower, paced.upper, paced.grown, paced.pending,
      paced.spaced]
  · have ordered := before.managed.recovery.ordered
    rw [paced.initial, paced.maximum] at ordered
    have reached : before.managed.recovery.nextAttempt ≤ now := by
      simp only [Recovery.due, Bool.and_eq_true, decide_eq_true_eq] at due
      exact due.2
    rw [noted, Option.toList_some, List.singleton_append] at attempts
    -- A failure before this attempt was at least its own delay ago.
    have spaced : ∀ later next first earlier,
        (before.step (.pass now outcome)).attempts = later ++ next :: first :: earlier →
        next.failed → first.failed →
        first.now + backOff initialDelay maximumDelay (failures earlier) ≤ next.now := by
      intro later next first earlier split nextFailed firstFailed
      rw [attempts] at split
      cases later with
      | nil =>
        obtain ⟨rfl, rest⟩ := List.cons.inj split
        exact (paced.pending first earlier rest firstFailed).trans reached
      | cons newest others =>
        exact paced.spaced others next first earlier (List.cons.inj split).2 nextFailed firstFailed
    cases result : (before.managed.service.recoverIfDesired outcome).1 with
    | ok recovered =>
      rw [result] at recorded attempts
      have none : failures (before.step (.pass now outcome)).attempts = 0 := by
        simp [attempts, failures, Except.isOk, Except.toBool]
      refine ⟨?_, ?_, ?_, ?_, ?_, ?_, spaced⟩ <;> simp only [managed, recorded, Recovery.record]
      · exact paced.initial
      · exact paced.maximum
      · split
        · rw [paced.initial]
        · exact paced.lower
      · split
        · rw [paced.initial]
          exact ordered
        · exact paced.upper
      · rw [none]
        have lower := paced.lower
        rw [← paced.initial] at lower ⊢
        simp only [backOff, pow_zero, one_mul]
        split <;> omega
      · intro first earlier split failed
        rw [attempts] at split
        obtain ⟨rfl, -⟩ := List.cons.inj split
        simp [Except.isOk, Except.toBool] at failed
    | error message =>
      rw [result] at recorded attempts
      have more : failures (before.step (.pass now outcome)).attempts =
          failures before.attempts + 1 := by
        simp [attempts, failures, Except.isOk, Except.toBool]
      have lower := paced.lower
      have upper := paced.upper
      refine ⟨?_, ?_, ?_, ?_, ?_, ?_, spaced⟩ <;> simp only [managed, recorded, Recovery.record]
      · exact paced.initial
      · exact paced.maximum
      · rw [paced.maximum]
        omega
      · rw [paced.maximum]
        omega
      · rw [more, paced.maximum]
        exact backOff_succ paced.grown
      · intro first earlier split failed
        rw [attempts] at split
        obtain ⟨rfl, rfl⟩ := List.cons.inj split
        exact Nat.add_le_add_left paced.grown now

end Pace

section Reset

variable {δ : Type}

/-- While the loop has not failed since the protocol was open, its delay is the initial one. -/
structure Observed.Rested (observed : Observed δ) : Prop where
  seen : observed.managed.service.protocolOpen = true → observed.wasOpen = true
  calm : observed.wasOpen = true →
    observed.managed.recovery.currentDelay = observed.managed.recovery.initialDelay
  reset : ∀ attempt ∈ observed.attempts, attempt.failed → attempt.afterOpen →
    attempt.wait = observed.managed.recovery.initialDelay

variable {before : Observed δ} (rested : before.Rested)
include rested

/-- An event that is no attempt keeps the delay, so an opening has to find it at the initial one. -/
theorem Observed.rested_quiet {event : Event δ} (attentive : before.Attentive event)
    (quiet : before.note event = none)
    (same : (before.managed.step event).recovery = before.managed.recovery) :
    (before.step event).Rested := by
  have wasOpen : (before.step event).wasOpen =
      (before.wasOpen || (before.managed.step event).service.protocolOpen) := by
    simp [Observed.step, quiet]
  constructor
  · intro isOpen
    have after : (before.managed.step event).service.protocolOpen = true := isOpen
    simp [wasOpen, after]
  · intro since
    simp only [Observed.step, same]
    cases known : before.wasOpen with
    | true => exact rested.calm known
    | false =>
      have after : (before.managed.step event).service.protocolOpen = true := by
        simpa [wasOpen, known] using since
      have shut : before.managed.service.protocolOpen = false := by
        by_contra isOpen
        simp [rested.seen (by simpa using isOpen)] at known
      refine attentive.rested ?_ shut after
      -- A pass without an attempt cannot have opened the protocol.
      rintro now outcome rfl
      cases due : before.managed.recovery.due now with
      | false => simp [step_pass_idle due, shut] at after
      | true => simp [Observed.note, Managed.attempt, due] at quiet
  · simpa [Observed.step, quiet, same] using rested.reset

/-- An attempt of the loop either resets the delay, or leaves it for a protocol that was open or is
not to be, or fails and closes the account of the time before. -/
theorem Observed.rested_attempt {now : Nat} {outcome : OpenOutcome}
    (due : before.managed.recovery.due now = true) :
    (before.step (.pass now outcome)).Rested := by
  have recovery := congrArg Managed.recovery (step_pass_due due outcome)
  have service := congrArg Managed.service (step_pass_due due outcome)
  have noted : before.note (.pass now outcome) = some
      { now, failed := !(before.managed.service.recoverIfDesired outcome).1.isOk
        wait := (before.managed.step (.pass now outcome)).recovery.nextAttempt - now
        afterOpen := before.wasOpen } := by
    simp [Observed.note, Managed.attempt, due]
  cases result : (before.managed.service.recoverIfDesired outcome).1 with
  | error message =>
    rw [result] at recovery noted
    -- Only the third case raises, and then the protocol did not open.
    have shut : (before.managed.step (.pass now outcome)).service.protocolOpen = false := by
      rw [service]
      rcases before.managed.service.recoverIfDesired_cases outcome with
        ⟨-, same⟩ | ⟨-, -, same⟩ | ⟨-, -, same, raised⟩
      · simp [same] at result
      · simp [same] at result
      · cases outcome with
        | opened stays => simp [raised] at result
        | failed message => simp [same, ProtocolService.openProtocol]
    constructor
    · simp [Observed.step, shut]
    · simp [Observed.step, noted, shut, Except.isOk, Except.toBool]
    · intro attempt member failed after
      simp only [Observed.step, recovery, Recovery.record]
      rcases List.mem_append.mp member with newest | older
      · simp only [noted, Option.toList_some, List.mem_singleton] at newest
        subst newest
        simp only [recovery, Recovery.record, Nat.add_sub_cancel_left]
        exact rested.calm after
      · exact rested.reset attempt older failed after
  | ok recovered =>
    rw [result] at recovery noted
    have wasOpen : (before.step (.pass now outcome)).wasOpen =
        (before.wasOpen || (before.managed.step (.pass now outcome)).service.protocolOpen) := by
      simp [Observed.step, noted, Except.isOk, Except.toBool]
    constructor
    · intro isOpen
      have after : (before.managed.step (.pass now outcome)).service.protocolOpen = true := isOpen
      simp [wasOpen, after]
    · intro since
      simp only [Observed.step, recovery, Recovery.record]
      cases recovered with
      | true => rfl
      | false =>
        -- Nothing was opened, so the protocol is open now only if it was before.
        have unchanged : (before.managed.step (.pass now outcome)).service.protocolOpen =
            before.managed.service.protocolOpen := by
          rw [service]
          rcases before.managed.service.recoverIfDesired_cases outcome with
            ⟨-, same⟩ | ⟨-, -, same⟩ | ⟨-, -, -, raised⟩
          · rw [same]
          · rw [same]
          · cases outcome <;> simp [raised] at result
        rw [wasOpen, unchanged, Bool.or_eq_true] at since
        exact rested.calm (since.elim id rested.seen)
    · intro attempt member failed after
      simp only [Observed.step, recovery, Recovery.record]
      rcases List.mem_append.mp member with newest | older
      · simp only [noted, Option.toList_some, List.mem_singleton] at newest
        simp [newest, Except.isOk, Except.toBool] at failed
      · exact rested.reset attempt older failed after

theorem Observed.rested_step {event : Event δ} (attentive : before.Attentive event) :
    (before.step event).Rested := by
  rcases before.note_cases event with ⟨quiet, same⟩ | ⟨now, outcome, rfl, due, -, -⟩
  · exact Observed.rested_quiet rested attentive quiet same
  · exact Observed.rested_attempt rested due

end Reset

section Runs

variable {δ : Type}

/-- The three invariants of a run together. -/
structure Observed.Good (initialDelay maximumDelay : Nat) (observed : Observed δ) : Prop where
  settled : observed.Settled
  paced : observed.Paced initialDelay maximumDelay
  rested : observed.Rested

/-- An instance just added is good. -/
theorem Observed.start_good (protocolOpen : Bool) (diagnostics : δ) (autoReconnect : Bool)
    {initialDelay maximumDelay : Nat} (now : Nat) (ordered : initialDelay ≤ maximumDelay) :
    (Observed.start protocolOpen diagnostics autoReconnect initialDelay maximumDelay now
      ordered).Good initialDelay maximumDelay where
  settled := ⟨.inl rfl, fun _ => rfl⟩
  paced :=
    { initial := rfl
      maximum := rfl
      lower := le_refl _
      upper := ordered
      grown := by simp [Observed.start, Recovery.add, failures, backOff]
      pending := by simp [Observed.start]
      spaced := by simp [Observed.start] }
  rested := ⟨id, fun _ => rfl, by simp [Observed.start]⟩

/-- An optional instance whose protocol could not be opened at the start. -/
def sampleStart : Observed Unit :=
  Observed.start false () true 100 400 0 (by decide)

/-- The loop fails once, then reopens the protocol; its transport is lost, the loss is noticed, and
the next attempt fails. -/
def sampleEvents : List (Event Unit) :=
  [.pass 100 (.failed "refused"), .pass 200 (.opened true), .loss, .isOpen true,
    .diagnostics (some ()), .pass 300 (.failed "refused")]

theorem Observed.attentive_pass (before : Observed δ) (now : Nat) (outcome : OpenOutcome) :
    before.Attentive (.pass now outcome) where
  noticed := nofun
  rested := fun outside => absurd rfl (outside now outcome)

theorem Observed.attentive_of_shut {before : Observed δ} {event : Event δ}
    (unchanged : before.changed = false)
    (shut : (before.managed.step event).service.protocolOpen = false) : before.Attentive event where
  noticed := fun _ _ => unchanged
  rested := fun _ _ opened => absurd (shut.symm.trans opened) (by decide)

end Runs

end PocoDDS.Protocols
