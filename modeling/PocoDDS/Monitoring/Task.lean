import PocoDDS.Lib.Json
import PocoDDS.Lib.NumberedText

/-! Management tasks: their fields, their states, and the object they are serialised to. -/

namespace PocoDDS.Monitoring

open JsonModel

/-- The state names the scheduler itself uses. -/
def taskStateNames : List String :=
  ["queued", "running", "succeeded", "failed", "cancelled", "timed-out", "interrupted"]

/-- The state of a task; a snapshot may hold a name that the scheduler does not know. -/
inductive TaskState
  | queued
  | running
  | succeeded
  | failed
  | cancelled
  | timedOut
  | interrupted
  | other (name : String) (foreign : name ∉ taskStateNames)
  deriving DecidableEq

/-- The name of a state, as it is stored and compared. -/
def TaskState.name : TaskState → String
  | .queued => "queued"
  | .running => "running"
  | .succeeded => "succeeded"
  | .failed => "failed"
  | .cancelled => "cancelled"
  | .timedOut => "timed-out"
  | .interrupted => "interrupted"
  | .other name _ => name

/-- The state a stored name stands for. -/
def TaskState.ofName (name : String) : TaskState :=
  if foreign : name ∈ taskStateNames then
    match name with
    | "queued" => .queued
    | "running" => .running
    | "succeeded" => .succeeded
    | "failed" => .failed
    | "cancelled" => .cancelled
    | "timed-out" => .timedOut
    | _ => .interrupted
  else .other name foreign

/-- Reading a stored state gives it back. -/
@[simp] theorem TaskState.ofName_name (state : TaskState) : ofName state.name = state := by
  cases state with
  | other name foreign => simp [ofName, TaskState.name, foreign]
  | _ => rfl

/-- A task that still occupies a place in the queue or a worker. -/
def TaskState.active : TaskState → Bool
  | .queued => true
  | .running => true
  | _ => false

/-- Where a running task stands; a snapshot may hold any other text. -/
inductive TaskPhase
  | queued
  | executing
  | waitingResource
  | cancellationRequested
  | finished
  | other (text : String)
  deriving DecidableEq

def TaskPhase.text : TaskPhase → String
  | .queued => "queued"
  | .executing => "executing"
  | .waitingResource => "waiting-resource"
  | .cancellationRequested => "cancellation-requested"
  | .finished => "finished"
  | .other text => text

/-- The phase a stored text stands for. -/
def TaskPhase.ofText : String → TaskPhase
  | "queued" => .queued
  | "executing" => .executing
  | "waiting-resource" => .waitingResource
  | "cancellation-requested" => .cancellationRequested
  | "finished" => .finished
  | text => .other text

@[simp] theorem TaskPhase.text_ofText (text : String) : (ofText text).text = text := by
  unfold ofText
  split <;> rfl

/-- A result is an object, so only its members are kept. -/
abbrev TaskResult := List (String × Json)

/-- One management task; `execute` says whether its function is still there. -/
structure ManagementTask where
  id : String
  operation : String
  target : String
  action : String
  principal : String
  requestId : String
  state : TaskState
  interruptedFromState : String
  recoveryPolicy : String
  error : String
  submittedMicroseconds : Int
  startedMicroseconds : Int
  finishedMicroseconds : Int
  startDeadlineMicroseconds : Int
  notBeforeMicroseconds : Int
  executionDeadlineMicroseconds : Int
  executionTimeoutMilliseconds : Int
  cancellationRequested : Bool
  phase : TaskPhase
  phaseBeforeCancellation : String
  cancellationMode : String
  resourceKey : String
  blockingTaskId : String
  resourceWaitStartedMicroseconds : Int
  resourceAcquiredMicroseconds : Int
  resourceWaitMicroseconds : Int
  result : Option TaskResult
  cancellationSignal : Bool
  execute : Bool

/-- A task with the initial values of all its members. -/
def ManagementTask.fresh : ManagementTask where
  id := ""
  operation := ""
  target := ""
  action := ""
  principal := ""
  requestId := ""
  state := .queued
  interruptedFromState := ""
  recoveryPolicy := "verify-before-retry"
  error := ""
  submittedMicroseconds := 0
  startedMicroseconds := 0
  finishedMicroseconds := 0
  startDeadlineMicroseconds := 0
  notBeforeMicroseconds := 0
  executionDeadlineMicroseconds := 0
  executionTimeoutMilliseconds := 30000
  cancellationRequested := false
  phase := .queued
  phaseBeforeCancellation := ""
  cancellationMode := "cooperative"
  resourceKey := ""
  blockingTaskId := ""
  resourceWaitStartedMicroseconds := 0
  resourceAcquiredMicroseconds := 0
  resourceWaitMicroseconds := 0
  result := none
  cancellationSignal := false
  execute := false

/-- The members every serialised task has. -/
def taskMembers (task : ManagementTask) : List (String × Json) :=
  [("id", .str task.id),
    ("operation", .str task.operation),
    ("target", .str task.target),
    ("action", .str task.action),
    ("principal", .str task.principal),
    ("requestId", .str task.requestId),
    ("state", .str task.state.name),
    ("interruptedFromState", .str task.interruptedFromState),
    ("recoveryPolicy", .str task.recoveryPolicy),
    ("submittedMicroseconds", .num task.submittedMicroseconds),
    ("startedMicroseconds", .num task.startedMicroseconds),
    ("finishedMicroseconds", .num task.finishedMicroseconds),
    ("startDeadlineMicroseconds", .num task.startDeadlineMicroseconds),
    ("notBeforeMicroseconds", .num task.notBeforeMicroseconds),
    ("executionDeadlineMicroseconds", .num task.executionDeadlineMicroseconds),
    ("executionTimeoutMilliseconds", .num task.executionTimeoutMilliseconds),
    ("cancellationRequested", .bool task.cancellationRequested),
    ("phase", .str task.phase.text),
    ("phaseBeforeCancellation", .str task.phaseBeforeCancellation),
    ("cancellationMode", .str task.cancellationMode),
    ("resourceKey", .str task.resourceKey),
    ("blockingTaskId", .str task.blockingTaskId),
    ("resourceWaitStartedMicroseconds", .num task.resourceWaitStartedMicroseconds),
    ("resourceAcquiredMicroseconds", .num task.resourceAcquiredMicroseconds),
    ("resourceWaitMicroseconds", .num task.resourceWaitMicroseconds)]

/-- The object a task is serialised to; an empty error and a missing result are left out. -/
def managementTaskJson (task : ManagementTask) : Json :=
  .obj (taskMembers task ++
    (if task.error.isEmpty then [] else [("error", .str task.error)]) ++
    (match task.result with
    | none => []
    | some result => [("result", .obj result)]))

/-- The id of a submitted task: its time and the next number of a process-wide counter. -/
def taskId (submittedMicroseconds : Int) (sequence : Nat) : String :=
  "management-task-" ++ toString submittedMicroseconds ++ "-" ++ toString sequence

/-- The counter in an id can be read off, so ids with different counters differ. -/
theorem taskId_sequence {time time' : Int} {sequence sequence' : Nat}
    (same : taskId time sequence = taskId time' sequence') : sequence = sequence' := by
  unfold taskId at same
  exact NumberedText.number_inj same

theorem taskId_ne_empty (time : Int) (sequence : Nat) : taskId time sequence ≠ "" := by
  unfold taskId
  exact NumberedText.numbered_ne_empty _ _

end PocoDDS.Monitoring
