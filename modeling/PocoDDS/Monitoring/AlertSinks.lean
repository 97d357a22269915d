import PocoDDS.Lib.Run
import PocoDDS.Monitoring.Alerts

/-! The channel to one alert sink: its queue, its worker with the circuit breaker, and its counters. -/

namespace PocoDDS.Monitoring

open RunLogic

structure AlertSinkDeliveryStatus where
  successes : Nat := 0
  failures : Nat := 0
  dropped : Nat := 0
  circuitOpenSkips : Nat := 0
  consecutiveFailures : Nat := 0
  lastSuccessMicroseconds : Int := 0
  lastFailureMicroseconds : Int := 0
  circuitOpenUntilMicroseconds : Int := 0
  queueDepth : Nat := 0
  delivering : Bool := false
  lastError : String := ""
  deriving DecidableEq, Repr

/-- Where a worker is between two of its critical sections. -/
inductive SinkWorker
  | idle
  /-- A notification has been taken from the queue. -/
  | popped (notification : Emission)
  /-- It waits for the circuit to close. -/
  | circuitOpen (notification : Emission)
  | calling (notification : Emission)
  /-- The outcome of a delivery has been recorded. -/
  | recorded
  | finished
  deriving DecidableEq, Repr

structure SinkSettings where
  capacity : Nat
  failureThreshold : Nat
  circuitOpenMicroseconds : Int
  receiveSilenced : Bool
  deriving DecidableEq, Repr

/-- A channel, with what it has been handed, what it has handed on, and what it has let go. -/
structure SinkChannel where
  queue : List Emission := []
  status : AlertSinkDeliveryStatus := {}
  delivering : Bool := false
  running : Bool := true
  worker : SinkWorker := .idle
  accepted : List Emission := []
  rejected : Nat := 0
  delivered : List Emission := []
  abandoned : List Emission := []
  deriving DecidableEq, Repr

namespace SinkChannel

variable (settings : SinkSettings)

def enqueue (channel : SinkChannel) (notification : Emission) : SinkChannel :=
  if notification.alert.silenced && !settings.receiveSilenced then channel
  else if !channel.running then channel
  else if channel.queue.length ≥ settings.capacity then
    { channel with
      status := { channel.status with dropped := channel.status.dropped + 1 }
      rejected := channel.rejected + 1 }
  else
    { channel with
      queue := channel.queue ++ [notification]
      accepted := channel.accepted ++ [notification] }

/-- `status`, which adds the depth of the queue and the flag. -/
def currentStatus (channel : SinkChannel) : AlertSinkDeliveryStatus :=
  { channel.status with
    queueDepth := channel.queue.length
    delivering := channel.delivering }

def requestStop (channel : SinkChannel) : SinkChannel :=
  if !channel.running then channel
  else
    { channel with
      running := false
      status := { channel.status with dropped := channel.status.dropped + channel.queue.length }
      queue := [] }

def circuitOpenDelay (channel : SinkChannel) (now : Int) : Bool × SinkChannel :=
  if channel.status.circuitOpenUntilMicroseconds - now ≤ 0 then (false, channel)
  else (true, { channel with
    status := { channel.status with circuitOpenSkips := channel.status.circuitOpenSkips + 1 } })

def recordSuccess (channel : SinkChannel) (now : Int) : SinkChannel :=
  { channel with
    status := { channel.status with
      successes := channel.status.successes + 1
      consecutiveFailures := 0
      lastSuccessMicroseconds := now
      circuitOpenUntilMicroseconds := 0
      lastError := "" } }

def recordFailure (channel : SinkChannel) (now : Int) (error : String) : SinkChannel :=
  { channel with
    status := { channel.status with
      failures := channel.status.failures + 1
      consecutiveFailures := channel.status.consecutiveFailures + 1
      lastFailureMicroseconds := now
      lastError := error
      circuitOpenUntilMicroseconds :=
        if channel.status.consecutiveFailures + 1 ≥ settings.failureThreshold then
          now + settings.circuitOpenMicroseconds
        else channel.status.circuitOpenUntilMicroseconds } }

/-- The next critical section of the worker. Where it waits for a condition, nothing happens until
that holds; a delivery ends as `outcome` says. -/
def work (channel : SinkChannel) (now : Int) (outcome : Except String Unit) : SinkChannel :=
  match channel.worker with
  | .idle =>
    if !channel.running then { channel with worker := .finished }
    else
      match channel.queue with
      | [] => channel
      | notification :: rest =>
        { channel with queue := rest, delivering := true, worker := .popped notification }
  | .popped notification =>
    let (delayed, channel) := channel.circuitOpenDelay now
    if delayed then { channel with worker := .circuitOpen notification }
    else { channel with worker := .calling notification }
  | .circuitOpen notification =>
    -- The wait ends with the delay, or with a stop.
    if !channel.running then
      { channel with
        delivering := false
        worker := .finished
        abandoned := channel.abandoned ++ [notification] }
    else { channel with worker := .calling notification }
  | .calling notification =>
    let called := { channel with delivered := channel.delivered ++ [notification] }
    match outcome with
    | .ok _ => { called.recordSuccess now with worker := .recorded }
    | .error error => { called.recordFailure settings now error with worker := .recorded }
  | .recorded => { channel with delivering := false, worker := .idle }
  | .finished => channel

end SinkChannel

/-- What can happen to a channel. -/
inductive SinkEvent
  | enqueue (notification : Emission)
  | requestStop
  | work (now : Int) (outcome : Except String Unit)

def SinkChannel.step (settings : SinkSettings) (channel : SinkChannel) : SinkEvent → SinkChannel
  | .enqueue notification => channel.enqueue settings notification
  | .requestStop => channel.requestStop
  | .work now outcome => channel.work settings now outcome

section Accounting

variable {settings : SinkSettings} {channel : SinkChannel}

/-- The notification that a worker has taken and not yet delivered. -/
def SinkWorker.carried : SinkWorker → List Emission
  | .popped notification => [notification]
  | .circuitOpen notification => [notification]
  | .calling notification => [notification]
  | _ => []

/-- Whether a worker has the flag set. -/
def SinkWorker.busy : SinkWorker → Bool
  | .idle | .finished => false
  | _ => true

/-- What the status accounts for. -/
def AlertSinkDeliveryStatus.total (status : AlertSinkDeliveryStatus) : Nat :=
  status.successes + status.failures + status.dropped + status.queueDepth + status.delivering.toNat

/-- Every notification that has been accepted or rejected is in the status once. -/
def Accounted (channel : SinkChannel) : Prop :=
  channel.accepted.length + channel.rejected = channel.currentStatus.total

instance (channel : SinkChannel) : Decidable (Accounted channel) :=
  inferInstanceAs (Decidable (_ = _))

/-- What holds between any two critical sections. -/
structure Channelled (channel : SinkChannel) : Prop where
  /-- What is recorded and not yet cleared is counted twice, and what was let go not at all. -/
  conserved : channel.accepted.length + channel.rejected + (channel.worker == .recorded).toNat =
    channel.currentStatus.total + channel.abandoned.length
  flag : channel.delivering = channel.worker.busy
  ordered : ∃ rest, channel.accepted =
      channel.delivered ++ channel.worker.carried ++ channel.abandoned ++ rest ∧
    (channel.running = true → rest = channel.queue)
  stopped : channel.running = false → channel.queue = []
  letGo : channel.abandoned ≠ [] → channel.worker = .finished

variable (channelled : Channelled channel)
include channelled

theorem Channelled.enqueue (notification : Emission) :
    Channelled (channel.enqueue settings notification) := by
  unfold SinkChannel.enqueue
  obtain ⟨conserved, flag, ⟨rest, order, queued⟩, stopped, letGo⟩ := channelled
  split
  · exact ⟨conserved, flag, ⟨rest, order, queued⟩, stopped, letGo⟩
  split
  · exact ⟨conserved, flag, ⟨rest, order, queued⟩, stopped, letGo⟩
  next running =>
  rw [Bool.not_eq_true, Bool.not_eq_false'] at running
  split
  · refine ⟨?_, flag, ⟨rest, order, queued⟩, stopped, letGo⟩
    simp only [SinkChannel.currentStatus, AlertSinkDeliveryStatus.total] at conserved ⊢
    omega
  · refine ⟨?_, flag, ⟨rest ++ [notification], ?_, ?_⟩, ?_, letGo⟩
    · simp only [SinkChannel.currentStatus, AlertSinkDeliveryStatus.total, List.length_append,
        List.length_singleton] at conserved ⊢
      omega
    · dsimp only
      rw [order, List.append_assoc]
    · intro _
      rw [queued running]
    · intro halted
      rw [running] at halted
      cases halted

theorem Channelled.requestStop :
    Channelled channel.requestStop := by
  unfold SinkChannel.requestStop
  obtain ⟨conserved, flag, ⟨rest, order, queued⟩, stopped, letGo⟩ := channelled
  split
  · exact ⟨conserved, flag, ⟨rest, order, queued⟩, stopped, letGo⟩
  · refine ⟨?_, flag, ⟨rest, order, nofun⟩, fun _ => rfl, letGo⟩
    simp only [SinkChannel.currentStatus, AlertSinkDeliveryStatus.total,
      List.length_nil] at conserved ⊢
    omega

theorem Channelled.kept (unfinished : channel.worker ≠ .finished) :
    channel.abandoned = [] := by
  by_contra some
  exact unfinished (channelled.letGo some)

theorem Channelled.work (now : Int) (outcome : Except String Unit) :
    Channelled (channel.work settings now outcome) := by
  obtain ⟨conserved, flag, ⟨rest, order, queued⟩, stopped, -⟩ := id channelled
  unfold SinkChannel.work
  unfold SinkChannel.currentStatus AlertSinkDeliveryStatus.total at conserved
  cases worker : channel.worker with
  | idle =>
    have none := channelled.kept (by simp [worker])
    rw [worker] at conserved flag order
    dsimp only
    split
    · exact ⟨conserved, flag, ⟨rest, order, queued⟩, stopped, fun _ => rfl⟩
    next running =>
    rw [Bool.not_eq_true, Bool.not_eq_false'] at running
    split
    · exact channelled
    · next notification later waiting =>
      -- The first notification of the queue moves to the worker.
      rw [flag, waiting] at conserved
      refine ⟨?_, rfl, ⟨later, ?_, fun _ => rfl⟩, ?_, fun some => absurd none some⟩
      · have before : channel.accepted.length + channel.rejected + 0 =
          channel.status.successes + channel.status.failures + channel.status.dropped +
            (later.length + 1) + 0 + channel.abandoned.length := conserved
        show channel.accepted.length + channel.rejected + 0 =
          channel.status.successes + channel.status.failures + channel.status.dropped +
            later.length + 1 + channel.abandoned.length
        omega
      · rw [order, queued running, waiting, none]
        simp [SinkWorker.carried]
      · intro halted
        rw [running] at halted
        cases halted
  | popped notification =>
    have none := channelled.kept (by simp [worker])
    rw [worker] at conserved flag order
    unfold SinkChannel.circuitOpenDelay
    dsimp only
    split
    · exact ⟨conserved, flag, ⟨rest, order, queued⟩, stopped, fun some => absurd none some⟩
    · exact ⟨conserved, flag, ⟨rest, order, queued⟩, stopped, fun some => absurd none some⟩
  | circuitOpen notification =>
    have none := channelled.kept (by simp [worker])
    rw [worker] at conserved flag order
    dsimp only
    split
    · -- A stop lets the notification go.
      rw [flag] at conserved
      refine ⟨?_, rfl, ⟨rest, ?_, queued⟩, stopped, fun _ => rfl⟩
      · rw [none] at conserved ⊢
        exact conserved
      · rw [order, none]
        simp [SinkWorker.carried]
    · exact ⟨conserved, flag, ⟨rest, order, queued⟩, stopped, fun some => absurd none some⟩
  | calling notification =>
    have none := channelled.kept (by simp [worker])
    rw [worker] at conserved flag order
    have handed : ∀ {tail : List Emission}, channel.delivered ++ [notification] ++
        channel.abandoned ++ tail = channel.delivered ++ [notification] ++ [] ++
          channel.abandoned ++ tail := by
      simp
    cases outcome with
    | ok _ =>
      refine ⟨?_, flag, ⟨rest, order.trans handed, queued⟩, stopped, fun some => absurd none some⟩
      have before : channel.accepted.length + channel.rejected + 0 =
        channel.status.successes + channel.status.failures + channel.status.dropped +
          channel.queue.length + channel.delivering.toNat + channel.abandoned.length := conserved
      show channel.accepted.length + channel.rejected + 1 =
        channel.status.successes + 1 + channel.status.failures + channel.status.dropped +
          channel.queue.length + channel.delivering.toNat + channel.abandoned.length
      omega
    | error error =>
      refine ⟨?_, flag, ⟨rest, order.trans handed, queued⟩, stopped, fun some => absurd none some⟩
      have before : channel.accepted.length + channel.rejected + 0 =
        channel.status.successes + channel.status.failures + channel.status.dropped +
          channel.queue.length + channel.delivering.toNat + channel.abandoned.length := conserved
      show channel.accepted.length + channel.rejected + 1 =
        channel.status.successes + (channel.status.failures + 1) + channel.status.dropped +
          channel.queue.length + channel.delivering.toNat + channel.abandoned.length
      omega
  | recorded =>
    have none := channelled.kept (by simp [worker])
    rw [worker] at conserved flag order
    rw [flag] at conserved
    refine ⟨?_, rfl, ⟨rest, order, queued⟩, stopped, fun some => absurd none some⟩
    have before : channel.accepted.length + channel.rejected + 1 =
      channel.status.successes + channel.status.failures + channel.status.dropped +
        channel.queue.length + 1 + channel.abandoned.length := conserved
    show channel.accepted.length + channel.rejected + 0 =
      channel.status.successes + channel.status.failures + channel.status.dropped +
        channel.queue.length + 0 + channel.abandoned.length
    omega
  | finished => exact channelled

theorem Channelled.step (event : SinkEvent) :
    Channelled (channel.step settings event) := by
  cases event with
  | enqueue notification => exact channelled.enqueue notification
  | requestStop => exact channelled.requestStop
  | work now outcome => exact channelled.work now outcome

omit channelled

def StopsWaiting (channel : SinkChannel) : Prop :=
  channel.running = false ∧ ∃ notification, channel.worker = .circuitOpen notification

/-- The worker moves on while a stop meets a notification that waits for the circuit. -/
def LeavesWaiting (channel : SinkChannel) : SinkEvent → Prop
  | .work _ _ => StopsWaiting channel
  | _ => False

@[simp] theorem abandoned_enqueue (notification : Emission) :
    (channel.enqueue settings notification).abandoned = channel.abandoned := by
  unfold SinkChannel.enqueue
  split_ifs <;> rfl

@[simp] theorem abandoned_requestStop : channel.requestStop.abandoned = channel.abandoned := by
  unfold SinkChannel.requestStop
  split_ifs <;> rfl

@[simp] theorem circuitOpenDelay_abandoned (now : Int) :
    (channel.circuitOpenDelay now).2.abandoned = channel.abandoned := by
  unfold SinkChannel.circuitOpenDelay
  split_ifs <;> rfl

/-- The worker lets a notification go when a stop meets it, and only then. -/
theorem abandoned_work_iff (now : Int) (outcome : Except String Unit) :
    (channel.work settings now outcome).abandoned = [] ↔
      channel.abandoned = [] ∧ ¬ StopsWaiting channel := by
  -- Away from the open circuit a step leaves `abandoned` alone, and no stop is met.
  have elsewhere {next : SinkChannel} (same : next.abandoned = channel.abandoned)
      (away : ∀ notification, channel.worker ≠ .circuitOpen notification) :
      next.abandoned = [] ↔ channel.abandoned = [] ∧ ¬ StopsWaiting channel := by
    rw [same, iff_self_and]
    rintro - ⟨-, notification, waiting⟩
    exact away notification waiting
  unfold SinkChannel.work
  cases worker : channel.worker with
  | idle =>
    refine elsewhere ?_ (by simp [worker])
    dsimp only
    split
    · rfl
    · split <;> rfl
  | popped notification =>
    refine elsewhere ?_ (by simp [worker])
    have kept : (channel.circuitOpenDelay now).2.abandoned = channel.abandoned :=
      circuitOpenDelay_abandoned now
    dsimp only
    revert kept
    rcases channel.circuitOpenDelay now with ⟨delayed, after⟩
    intro kept
    cases delayed with
    | false => exact kept
    | true => exact kept
  | circuitOpen notification =>
    dsimp only
    cases running : channel.running with
    | false =>
      -- The stop has come: the notification goes.
      have met : StopsWaiting channel := ⟨running, notification, worker⟩
      simp [met]
    | true =>
      have unmet : ¬ StopsWaiting channel := by
        rintro ⟨halted, -⟩
        rw [running] at halted
        cases halted
      simp [unmet]
  | calling notification =>
    refine elsewhere ?_ (by simp [worker])
    cases outcome <;> rfl
  | recorded => exact elsewhere rfl (by simp [worker])
  | finished => exact elsewhere rfl (by simp [worker])

theorem abandoned_step_iff (event : SinkEvent) : (channel.step settings event).abandoned = [] ↔
      channel.abandoned = [] ∧ ¬ LeavesWaiting channel event := by
  cases event with
  | enqueue notification => simp [SinkChannel.step, LeavesWaiting]
  | requestStop => simp [SinkChannel.step, LeavesWaiting]
  | work now outcome => exact abandoned_work_iff now outcome

theorem abandoned_run_iff (events : List SinkEvent) (channel : SinkChannel) :
    (events.foldl (SinkChannel.step settings) channel).abandoned = [] ↔ channel.abandoned = [] ∧
        Along (SinkChannel.step settings) (fun state event => ¬ LeavesWaiting state event)
          channel events := by
  induction events generalizing channel with
  | nil => exact (and_iff_left trivial).symm
  | cons event rest ih =>
    rw [List.foldl_cons, ih, abandoned_step_iff]
    exact and_assoc

theorem channelled_run (events : List SinkEvent) :
    Channelled (events.foldl (SinkChannel.step settings) {}) := by
  have start : Channelled {} := ⟨rfl, rfl, ⟨[], rfl, fun _ => rfl⟩, nofun, nofun⟩
  exact Along.invariant (fun _ event channelled _ => channelled.step event) start
    (Along.free _ events)

/-- The counters are right unless an outcome is recorded twice or a notification is gone. -/
theorem Channelled.accounted_iff (channelled : Channelled channel) :
    Accounted channel ↔ channel.worker ≠ .recorded ∧ channel.abandoned = [] := by
  have conserved := channelled.conserved
  unfold Accounted
  rw [← List.length_eq_zero_iff]
  by_cases recorded : channel.worker = .recorded
  · -- Nothing has been let go before an outcome is recorded, so the flag is counted too much.
    have none := channelled.kept (by rw [recorded]; nofun)
    rw [recorded, none] at conserved
    have extra : channel.accepted.length + channel.rejected + 1 =
      channel.currentStatus.total := conserved
    simp only [recorded, ne_eq, not_true_eq_false, false_and, iff_false]
    omega
  · have unrecorded : (channel.worker == .recorded) = false := by simpa using recorded
    rw [unrecorded] at conserved
    have missing : channel.accepted.length + channel.rejected =
      channel.currentStatus.total + channel.abandoned.length := conserved
    simp only [ne_eq, recorded, not_false_eq_true, true_and]
    omega

theorem Channelled.delivered_prefix (channelled : Channelled channel) :
    channel.delivered <+: channel.accepted := by
  obtain ⟨rest, order, -⟩ := channelled.ordered
  rw [order, List.append_assoc, List.append_assoc]
  exact List.prefix_append _ _

/-- The notifications of a run are all accounted for, and delivered in their order, exactly if its
worker is not about to clear the flag and has left no notification waiting for the circuit. -/
theorem accounted_run_iff (settings : SinkSettings) (events : List SinkEvent) :
    let channel := events.foldl (SinkChannel.step settings) {}
    (Accounted channel ∧ channel.delivered <+: channel.accepted) ↔
      channel.worker ≠ .recorded ∧
        Along (SinkChannel.step settings) (fun state event => ¬ LeavesWaiting state event)
          {} events := by
  intro channel
  have channelled : Channelled channel := channelled_run events
  rw [and_iff_left channelled.delivered_prefix, channelled.accounted_iff, abandoned_run_iff]
  exact and_congr_right fun _ => and_iff_right rfl

end Accounting

/-- The first delivery opens the circuit, and a stop meets the second notification there. -/
def strandingRun (first second : Emission) : List SinkEvent :=
  [.enqueue first, .enqueue second, .work 0 (.ok ()), .work 0 (.ok ()), .work 0 (.error "refused"),
    .work 0 (.ok ()), .work 1 (.ok ()), .work 1 (.ok ()), .requestStop, .work 2 (.ok ())]

/-- Two notifications are accepted, and the status knows of one. -/
theorem strandingRun_unaccounted :
    ¬ ∀ (settings : SinkSettings) (events : List SinkEvent),
      let channel := events.foldl (SinkChannel.step settings) {}
      Accounted channel ∧ channel.delivered <+: channel.accepted := by
  intro claimed
  let alert : AlertRecord :=
    { id := ⟨1, 1⟩, domain := "device", instanceName := "one", code := "lost", message := "",
      retryable := false, silenced := false, firstSeenMicroseconds := 0, lastSeenMicroseconds := 0,
      observations := 1 }
  have accounted := (claimed ⟨8, 1, 1000, false⟩
    (strandingRun ⟨.opened, alert⟩ ⟨.resolved, alert⟩)).1
  exact absurd accounted (by decide)

end PocoDDS.Monitoring
