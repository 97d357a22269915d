import PocoDDS.Lib.Assoc

/-! The diagnostic event tracker: alerts with debounce, escalation and retention. -/

namespace PocoDDS.Monitoring

open AssocList

/-- A failure as it is observed; its kind is only logged. -/
structure Failure where
  code : String
  retryable : Bool := false
  active : Bool
  occurredAtMicroseconds : Int := 0
  message : String := ""
  deriving DecidableEq, Repr

structure AlertPolicy where
  debounceMicroseconds : Int := 0
  escalationMicroseconds : Int := 300000000
  retention : Nat := 500
  silencedCodes : List String := []

inductive AlertStatus
  | pending
  | firing
  | silenced
  | resolved
  deriving DecidableEq, Repr

inductive AlertSeverity
  | warning
  | critical
  deriving DecidableEq, Repr

/-- A clock reading and a running number, which are written one after the other. -/
structure TraceId where
  time : Int
  sequence : Nat
  deriving DecidableEq, Repr

/-- An alert; its trace id is its id. -/
structure AlertRecord where
  id : TraceId
  domain : String
  instanceName : String
  code : String
  status : AlertStatus := .pending
  severity : AlertSeverity := .warning
  message : String
  retryable : Bool
  silenced : Bool
  notified : Bool := false
  suppressedByDebounce : Bool := false
  firstSeenMicroseconds : Int
  lastSeenMicroseconds : Int
  resolvedAtMicroseconds : Int := 0
  observations : Nat
  deriving DecidableEq, Repr

inductive AlertEventKind
  | opened
  | escalated
  | resolved
  deriving DecidableEq, Repr

/-- What is sent to the sinks. -/
structure Emission where
  event : AlertEventKind
  alert : AlertRecord
  deriving DecidableEq, Repr

structure DiagnosticEvent where
  traceId : TraceId
  domain : String
  instanceName : String
  failure : Failure
  observedAtMicroseconds : Int

/-- The clock during one observation. -/
structure ObservationClock where
  now : Int
  alertId : Int := now
  eventId : Int := now
  observedAt : Int := now

structure Observation where
  domain : String
  instanceName : String
  failure : Failure
  clock : ObservationClock

structure DiagnosticEventTracker where
  states : List (String × Failure) := []
  events : List DiagnosticEvent := []
  alerts : List (String × AlertRecord) := []
  alertOrder : List String := []
  sequence : Nat := 0

def Observation.key (observation : Observation) : String :=
  observation.domain ++ ":" ++ observation.instanceName

/-- A pattern that ends in a star stands for every code that begins with the rest of it. -/
def isSilenced (policy : AlertPolicy) (code : String) : Bool :=
  policy.silencedCodes.any fun pattern =>
    !pattern.isEmpty &&
      if pattern.toList.getLast? = some '*' then pattern.toList.dropLast.isPrefixOf code.toList
      else code == pattern

def AlertRecord.raise (policy : AlertPolicy) (observation : Observation) (id : TraceId) :
    AlertRecord where
  id
  domain := observation.domain
  instanceName := observation.instanceName
  code := observation.failure.code
  message := observation.failure.message
  retryable := observation.failure.retryable
  silenced := isSilenced policy observation.failure.code
  firstSeenMicroseconds := observation.clock.now
  lastSeenMicroseconds := observation.clock.now
  observations := 1

def AlertRecord.again (now : Int) (alert : AlertRecord) : AlertRecord :=
  { alert with lastSeenMicroseconds := now, observations := alert.observations + 1 }

/-- An alert is opened once it has been pending for the debounce time. -/
def AlertRecord.open (policy : AlertPolicy) (now : Int) (alert : AlertRecord) :
    AlertRecord × List Emission :=
  if alert.status = .pending ∧ now - alert.firstSeenMicroseconds ≥ policy.debounceMicroseconds then
    let opened := { alert with
      status := if alert.silenced then .silenced else .firing
      notified := true }
    (opened, [⟨.opened, opened⟩])
  else (alert, [])

def AlertStatus.isOpen (status : AlertStatus) : Bool :=
  status = .firing ∨ status = .silenced

/-- An open alert is escalated after the escalation time; a negative time means never. -/
def AlertRecord.escalate (policy : AlertPolicy) (now : Int) (alert : AlertRecord) :
    AlertRecord × List Emission :=
  if alert.status.isOpen ∧ alert.severity ≠ .critical ∧ policy.escalationMicroseconds ≥ 0 ∧
      now - alert.firstSeenMicroseconds ≥ policy.escalationMicroseconds then
    let escalated := { alert with severity := .critical }
    (escalated, [⟨.escalated, escalated⟩])
  else (alert, [])

/-- Both may happen at once. -/
def AlertRecord.advance (policy : AlertPolicy) (now : Int) (alert : AlertRecord) :
    AlertRecord × List Emission :=
  let opened := alert.open policy now
  let escalated := opened.1.escalate policy now
  (escalated.1, opened.2 ++ escalated.2)

/-- An alert that was never opened is resolved silently. -/
def AlertRecord.resolve (now : Int) (alert : AlertRecord) : AlertRecord × List Emission :=
  let wasNotified := decide (alert.status ≠ .pending)
  let resolved := { alert with
    suppressedByDebounce := !wasNotified
    status := .resolved
    lastSeenMicroseconds := now
    resolvedAtMicroseconds := now }
  (resolved, if wasNotified then [⟨.resolved, resolved⟩] else [])

namespace DiagnosticEventTracker

def put (tracker : DiagnosticEventTracker) (key : String) (alert : AlertRecord) :
    DiagnosticEventTracker :=
  { tracker with alerts := upsert key alert (fun _ => alert) tracker.alerts }

/-- The oldest alerts are dropped, from the back of the order. -/
def trim (tracker : DiagnosticEventTracker) (retention : Nat) : DiagnosticEventTracker :=
  { tracker with
    alerts := (tracker.alertOrder.drop retention).reverse.foldl
      (fun alerts key => eraseKey key alerts) tracker.alerts
    alertOrder := tracker.alertOrder.take retention }

def updateAlert (policy : AlertPolicy) (tracker : DiagnosticEventTracker)
    (observation : Observation) : DiagnosticEventTracker × List Emission :=
  let key := observation.key
  let now := observation.clock.now
  let updated : DiagnosticEventTracker × List Emission :=
    match tracker.alerts.lookup key with
    | some alert =>
      if observation.failure.active then
        if alert.status = .resolved ∨ alert.code ≠ observation.failure.code then
          raise tracker
        else
          let advanced := (alert.again now).advance policy now
          (tracker.put key advanced.1, advanced.2)
      else if alert.status ≠ .resolved then
        let resolved := alert.resolve now
        (tracker.put key resolved.1, resolved.2)
      else (tracker, [])
    | none => if observation.failure.active then raise tracker else (tracker, [])
  (updated.1.trim policy.retention, updated.2)
where
  /-- A new alert takes the place of the one under its key, and comes first in the order. -/
  raise (tracker : DiagnosticEventTracker) : DiagnosticEventTracker × List Emission :=
    let id : TraceId := ⟨observation.clock.alertId, tracker.sequence + 1⟩
    let advanced := (AlertRecord.raise policy observation id).advance policy observation.clock.now
    ({ tracker.put observation.key advanced.1 with
        alertOrder := observation.key :: tracker.alertOrder.filter (· ≠ observation.key)
        sequence := tracker.sequence + 1 }, advanced.2)

/-- What changes between two states of a failure is recorded as an event. -/
def recordEvent (tracker : DiagnosticEventTracker) (observation : Observation) :
    DiagnosticEventTracker :=
  let key := observation.key
  let failure := observation.failure
  let before := tracker.states.lookup key
  if before.any fun old => old.code = failure.code ∧ old.active = failure.active ∧
      old.occurredAtMicroseconds = failure.occurredAtMicroseconds then tracker
  else
    let resolving := !failure.active && before.any (·.active)
    let known := { tracker with states := upsert key failure (fun _ => failure) tracker.states }
    if !failure.active && !resolving then known
    else
      let event : DiagnosticEvent := {
        traceId := ⟨observation.clock.eventId, tracker.sequence + 1⟩
        domain := observation.domain
        instanceName := observation.instanceName
        failure
        observedAtMicroseconds := observation.clock.observedAt }
      { known with
        events := (event :: known.events).take 500
        sequence := tracker.sequence + 1 }

def observe (policy : AlertPolicy) (tracker : DiagnosticEventTracker) (observation : Observation) :
    DiagnosticEventTracker × List Emission :=
  -- Without a code nothing is observed.
  if observation.failure.code.isEmpty then (tracker, [])
  else
    let updated := tracker.updateAlert policy observation
    (updated.1.recordEvent observation, updated.2)

end DiagnosticEventTracker

end PocoDDS.Monitoring
