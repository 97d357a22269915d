import PocoDDS.Lib.Assoc
import PocoDDS.Lib.Run
import PocoDDS.Monitoring.Snapshot
import PocoDDS.Monitoring.Task

/-! The management task manager: its queue, its workers, and the resources they wait for. -/

namespace PocoDDS.Monitoring

open AssocList JsonModel

/-- Why a task did not succeed. -/
inductive TaskError
  | cancelled
  | timedOut
  | failed (message : String)
  deriving DecidableEq

/-- The text of the exception behind an error. -/
def TaskError.what : TaskError → String
  | .cancelled => "management task cancellation requested"
  | .timedOut => "management task execution deadline exceeded"
  | .failed message => message

/-- The state a task ends in when an error is caught. -/
def TaskError.state : TaskError → TaskState
  | .cancelled => .cancelled
  | .timedOut => .timedOut
  | .failed _ => .failed

/-- Where a worker stands; a task is carried by its handle. -/
inductive Worker
  /-- Waiting for the queue, or about to look at it. -/
  | scanning
  | exited
  /-- A task was taken from the queue and set running. -/
  | picked (task : Nat)
  /-- About to enter the critical section of `acquireResource`. -/
  | entering (task : Nat)
  /-- Waiting inside `acquireResource`. -/
  | waiting (task : Nat)
  /-- The resource was granted and the function is about to be called. -/
  | owning (task : Nat)
  | executing (task : Nat)
  | returned (task : Nat) (result : Option TaskResult)
  | succeeding (task : Nat) (result : Option TaskResult)
  /-- An exception is on its way to its handler. -/
  | unwinding (task : Nat) (acquired : Bool) (error : TaskError)
  | releasing (task : Nat) (acquired : Bool)
  | finishing (task : Nat)

/-- Whether a worker's thread has ended. -/
def Worker.isExited : Worker → Bool
  | .exited => true
  | _ => false

/-- The task a worker carries. -/
def Worker.task? : Worker → Option Nat
  | .scanning => none
  | .exited => none
  | .picked task => some task
  | .entering task => some task
  | .waiting task => some task
  | .owning task => some task
  | .executing task => some task
  | .returned task _ => some task
  | .succeeding task _ => some task
  | .unwinding task _ _ => some task
  | .releasing task _ => some task
  | .finishing task => some task

/-- The task for which a worker is between `acquireResource` and `releaseResource`. -/
def Worker.holds? : Worker → Option Nat
  | .owning task => some task
  | .executing task => some task
  | .returned task _ => some task
  | .succeeding task _ => some task
  | .unwinding task true _ => some task
  | .releasing task true => some task
  | _ => none

/-- The task for which a worker waits inside `acquireResource`. -/
def Worker.waits? : Worker → Option Nat
  | .waiting task => some task
  | _ => none

/-- What has happened so far; no step reads it. -/
structure TaskHistory where
  /-- Tasks taken from the queue, with the clock reading that decided it. -/
  picks : List (Nat × Int)
  /-- Calls of a task's function, with the time of the call. -/
  calls : List (Nat × Int)
  /-- Tasks that were cancelled or timed out while queued. -/
  dropped : List Nat
  /-- Keys and ids in the order in which they joined a waiter queue. -/
  arrivals : List (String × String)
  /-- All clock readings, the newest first. -/
  readings : List Int

/-- The state behind the manager's mutex; tasks are shared objects named by handles. -/
structure TaskManager where
  objects : Nat → ManagementTask
  allocated : Nat
  tasks : List (String × Nat)
  queue : List String
  order : List String
  workers : List Worker
  resourceOwners : List (String × String)
  resourceWaiters : List (String × List String)
  capacity : Nat
  retention : Nat
  stopping : Bool
  started : Bool
  persistenceEnabled : Bool
  lastPersistenceError : String
  persistenceRecoveryRequired : Bool
  sequence : Nat
  history : TaskHistory

/-- The object behind a handle is replaced. -/
def TaskManager.modify (manager : TaskManager) (task : Nat)
    (change : ManagementTask → ManagementTask) : TaskManager :=
  { manager with objects := Function.update manager.objects task (change (manager.objects task)) }

/-- A worker moves on. -/
def TaskManager.setWorker (manager : TaskManager) (index : Nat) (worker : Worker) : TaskManager :=
  { manager with workers := manager.workers.set index worker }

/-- A clock reading is recorded. -/
def TaskManager.read (manager : TaskManager) (now : Int) : TaskManager :=
  { manager with history := { manager.history with
      readings := now :: manager.history.readings } }

/-- The ids waiting for a resource. -/
def TaskManager.waiters (manager : TaskManager) (key : String) : List String :=
  (manager.resourceWaiters.lookup key).getD []

/-- A waiter queue is replaced; an empty one is removed from the table. -/
def TaskManager.setWaiters (manager : TaskManager) (key : String) (ids : List String) :
    TaskManager :=
  { manager with resourceWaiters := if ids.isEmpty then eraseKey key manager.resourceWaiters
      else assign key ids manager.resourceWaiters }

/-- The records of the retained tasks, oldest first. -/
def TaskManager.records (manager : TaskManager) : List Json :=
  manager.order.filterMap fun id =>
    (manager.tasks.lookup id).map fun task => managementTaskJson (manager.objects task)

/-- The outcome of a persist call, given the outcome of its file work. -/
def TaskManager.persistLocked (manager : TaskManager) (files : Except String Unit) :
    Except String TaskManager :=
  if !manager.persistenceEnabled then .ok manager
  else if manager.persistenceRecoveryRequired then
    .error "management task persistence requires operator recovery"
  else match files with
    | .error message => .error message
    | .ok () => .ok { manager with lastPersistenceError := "" }

/-- A persist call that swallows its exception. -/
def TaskManager.persistLockedNoThrow (manager : TaskManager) (files : Except String Unit) :
    TaskManager :=
  match manager.persistLocked files with
  | .ok persisted => persisted
  | .error message => { manager with lastPersistenceError := message }

/-- An id that pruning may drop: its task is gone or no longer active. -/
def TaskManager.removable (manager : TaskManager) (id : String) : Bool :=
  match manager.tasks.lookup id with
  | none => true
  | some task => !(manager.objects task).state.active

/-- One turn of the pruning loop. -/
def TaskManager.pruneOnce (manager : TaskManager) : TaskManager :=
  match manager.order.find? manager.removable with
  | none => manager
  | some id => { manager with
      tasks := eraseKey id manager.tasks, order := manager.order.erase id }

/-- Pruning down to the retention limit, as far as inactive tasks allow. -/
def TaskManager.pruneLocked (manager : TaskManager) : TaskManager :=
  -- Each turn removes one id, so a surplus of that many turns is the whole loop.
  TaskManager.pruneOnce^[manager.order.length - manager.retention] manager

/-- Reading one task of a snapshot; whatever was unfinished is interrupted. -/
def loadTask (library : JsonLibrary) (now : Int) (source : Json) : Option ManagementTask :=
  let text := fun key default => JsonLibrary.optValue library.convertString source key default
  let number := fun key default => JsonLibrary.optValue library.convertInt source key default
  let flag := fun key default => JsonLibrary.optValue library.convertBool source key default
  if !source.isObject || (text "id" "").isEmpty then none
  else
    let task : ManagementTask :=
      { id := text "id" ""
        operation := text "operation" ""
        target := text "target" ""
        action := text "action" ""
        principal := text "principal" ""
        requestId := text "requestId" ""
        state := .ofName (text "state" "failed")
        error := text "error" ""
        submittedMicroseconds := number "submittedMicroseconds" 0
        startedMicroseconds := number "startedMicroseconds" 0
        finishedMicroseconds := number "finishedMicroseconds" 0
        startDeadlineMicroseconds := number "startDeadlineMicroseconds" 0
        notBeforeMicroseconds :=
          number "notBeforeMicroseconds" (number "submittedMicroseconds" 0)
        executionDeadlineMicroseconds := number "executionDeadlineMicroseconds" 0
        executionTimeoutMilliseconds := number "executionTimeoutMilliseconds" 30000
        cancellationRequested := flag "cancellationRequested" false
        cancellationSignal := flag "cancellationRequested" false
        phase := .ofText (text "phase" "finished")
        phaseBeforeCancellation := text "phaseBeforeCancellation" ""
        cancellationMode := text "cancellationMode" "cooperative"
        resourceKey := text "resourceKey" (text "operation" "" ++ ":" ++ text "target" "")
        blockingTaskId := text "blockingTaskId" ""
        resourceWaitStartedMicroseconds := number "resourceWaitStartedMicroseconds" 0
        resourceAcquiredMicroseconds := number "resourceAcquiredMicroseconds" 0
        resourceWaitMicroseconds := number "resourceWaitMicroseconds" 0
        recoveryPolicy := text "recoveryPolicy" "verify-before-retry"
        interruptedFromState := text "interruptedFromState" ""
        result := (source.member "result").bind Json.members?
        execute := false }
    if task.state.active then
      some { task with
        interruptedFromState := task.state.name
        state := .interrupted
        phase := .finished
        finishedMicroseconds := now
        error := "Runtime stopped before the task reached a terminal state; " ++
          "verify the target before retrying" }
    else some task

/-- The records of a task snapshot, after its checks. -/
def readTasks (library : JsonLibrary) (text : String) : Except String (List Json) :=
  match library.parse text with
  | none => .error "JSON syntax error"
  | some root =>
    if !root.isObject then .error "Can not convert to object"
    else
      let schemaVersion := JsonLibrary.optValue library.convertInt root "schemaVersion" 0
      if schemaVersion ≠ 1 ∧ schemaVersion ≠ 2 then
        .error "unsupported management task snapshot schema"
      else match root.getArray "tasks" with
        | none => .error "management task snapshot is missing tasks array"
        | some tasks =>
          if schemaVersion = 2 ∧
              JsonLibrary.optValue library.convertString root "contentSha256" "" ≠
                library.sha256 (library.stringify (.arr tasks)) then
            .error "management task snapshot integrity check failed"
          else .ok tasks

/-- A loaded task joins the table and the order. -/
def TaskManager.adopt (manager : TaskManager) (task : ManagementTask) : TaskManager :=
  { manager with
    objects := Function.update manager.objects manager.allocated task
    allocated := manager.allocated + 1
    tasks := assign task.id manager.allocated manager.tasks
    order := manager.order ++ [task.id] }

/-- The tasks a snapshot is reduced to: only the last records up to the retention limit. -/
def loadTasks (library : JsonLibrary) (retention : Nat) (now : Int) (records : List Json) :
    List ManagementTask :=
  (records.drop (records.length - retention)).filterMap (loadTask library now)

/-- Loading the snapshot when the manager starts. -/
def TaskManager.loadLocked (library : JsonLibrary) (manager : TaskManager)
    (current : Option String) (now : Int) (files : Except String Unit) : TaskManager :=
  let cleared := { manager with allocated := 0, tasks := [], queue := [], order := [] }
  match manager.persistenceEnabled, current with
  | true, some text =>
    match readTasks library text with
    | .error message =>
      { cleared with lastPersistenceError := message, persistenceRecoveryRequired := true }
    | .ok records =>
      let loaded := (loadTasks library manager.retention now records).foldl
        TaskManager.adopt cleared
      { loaded.pruneLocked.persistLockedNoThrow files with persistenceRecoveryRequired := false }
  | _, _ => { cleared with lastPersistenceError := "", persistenceRecoveryRequired := false }

/-- How a manager is started. -/
structure TaskSettings where
  workerCount : Nat
  capacity : Nat
  retention : Nat
  persistenceEnabled : Bool

/-- A manager of a new process, with its settings taken over and nothing loaded. -/
def TaskSettings.configured (settings : TaskSettings) : TaskManager where
  objects := fun _ => ManagementTask.fresh
  allocated := 0
  tasks := []
  queue := []
  order := []
  workers := []
  resourceOwners := []
  resourceWaiters := []
  capacity := settings.capacity
  retention := settings.retention
  stopping := false
  started := true
  persistenceEnabled := settings.persistenceEnabled
  lastPersistenceError := ""
  persistenceRecoveryRequired := false
  sequence := 0
  history := ⟨[], [], [], [], []⟩

/-- The manager once its workers have been created. -/
def TaskManager.start (library : JsonLibrary) (settings : TaskSettings)
    (current : Option String) (now : Int) (files : Except String Unit) : TaskManager :=
  { settings.configured.loadLocked library current now files with
    workers := List.replicate settings.workerCount .scanning }

/-- The number of queued and running tasks. -/
def TaskManager.active (manager : TaskManager) : Nat :=
  (manager.tasks.filter fun entry => (manager.objects entry.2).state.active).length

/-- What a client asks for when it submits a task. -/
structure TaskRequest where
  operation : String
  target : String
  action : String
  principal : String
  requestId : String
  startTimeoutMilliseconds : Int
  notBeforeMilliseconds : Int
  executionTimeoutMilliseconds : Int

def TaskRequest.task (request : TaskRequest) (now : Int) (sequence : Nat) : ManagementTask :=
  { ManagementTask.fresh with
    id := taskId now sequence
    operation := request.operation
    target := request.target
    action := request.action
    principal := request.principal
    requestId := request.requestId
    submittedMicroseconds := now
    resourceKey := request.operation ++ ":" ++ request.target
    startDeadlineMicroseconds := now + 1000 * request.startTimeoutMilliseconds
    notBeforeMicroseconds := now + 1000 * request.notBeforeMilliseconds
    executionDeadlineMicroseconds := 0
    executionTimeoutMilliseconds := request.executionTimeoutMilliseconds
    execute := true }

/-- A new task joins the table, the order and the queue. -/
def TaskManager.enqueue (manager : TaskManager) (task : ManagementTask) : TaskManager :=
  { manager with
    objects := Function.update manager.objects manager.allocated task
    allocated := manager.allocated + 1
    tasks := assign task.id manager.allocated manager.tasks
    order := manager.order ++ [task.id]
    queue := manager.queue ++ [task.id]
    sequence := manager.sequence + 1 }

/-- Taking a submission back after a failed persist call; its object is freed. -/
def TaskManager.withdraw (manager : TaskManager) (id : String) : TaskManager :=
  { manager with
    allocated := manager.allocated - 1
    tasks := eraseKey id manager.tasks
    order := manager.order.dropLast
    queue := manager.queue.dropLast }

def TaskManager.submit (manager : TaskManager) (request : TaskRequest) (now : Int)
    (files : Except String Unit) : Except String Json × TaskManager :=
  if manager.stopping then (.error "management task queue is stopping", manager)
  else if manager.active ≥ manager.capacity then
    (.error "management task queue capacity reached", manager)
  else
    let task := request.task now manager.sequence
    let enqueued := (manager.enqueue task).pruneLocked
    match enqueued.persistLocked files with
    | .ok persisted => (.ok (managementTaskJson task), persisted)
    | .error message => (.error message, enqueued.withdraw task.id)

/-- Asking a running task to stop. -/
def ManagementTask.requestCancellation (task : ManagementTask) : ManagementTask :=
  { task with
    cancellationRequested := true
    cancellationSignal := true
    phaseBeforeCancellation := if task.phase ≠ .cancellationRequested then task.phase.text
      else task.phaseBeforeCancellation
    phase := .cancellationRequested }

def ManagementTask.cancelQueued (now : Int) (task : ManagementTask) : ManagementTask :=
  { task with
    cancellationRequested := true
    cancellationSignal := true
    state := .cancelled
    phase := .finished
    finishedMicroseconds := now
    execute := false }

def TaskManager.cancel (manager : TaskManager) (id : String) (now : Int)
    (files : Except String Unit) : Option Json × TaskManager :=
  match manager.tasks.lookup id with
  | none => (none, manager)
  | some task =>
    let changed := match (manager.objects task).state with
      | .queued =>
        { manager.modify task (ManagementTask.cancelQueued now) with
          queue := manager.queue.filter (· ≠ id)
          history := { manager.history with dropped := task :: manager.history.dropped } }
      | .running => manager.modify task ManagementTask.requestCancellation
      | _ => manager
    (some (managementTaskJson (changed.objects task)), changed.persistLockedNoThrow files)

def ManagementTask.stopQueued (now : Int) (task : ManagementTask) : ManagementTask :=
  { task with
    state := .cancelled
    phase := .finished
    finishedMicroseconds := now
    error := "Runtime is stopping"
    execute := false }

/-- Every queued task is cancelled. -/
def TaskManager.stopQueue (manager : TaskManager) (now : Int) (ids : List String) : TaskManager :=
  ids.foldl (fun manager id =>
    match manager.tasks.lookup id with
    | none => manager
    | some task =>
      { manager.modify task (ManagementTask.stopQueued now) with
        history := { manager.history with dropped := task :: manager.history.dropped } }) manager

/-- Every running task is asked to stop. -/
def TaskManager.stopRunning (manager : TaskManager) (entries : List (String × Nat)) :
    TaskManager :=
  entries.foldl (fun manager entry =>
    if (manager.objects entry.2).state = .running then
      manager.modify entry.2 ManagementTask.requestCancellation
    else manager) manager

/-- The first critical section of `stop`. -/
def TaskManager.stop (manager : TaskManager) (now : Int) (files : Except String Unit) :
    TaskManager :=
  if !manager.started then { manager with stopping := true }
  else
    let cancelled := { manager with stopping := true }.stopQueue now manager.queue
    let requested := cancelled.stopRunning manager.tasks
    { requested with queue := [] }.persistLockedNoThrow files

/-- The end of `stop`, once every worker has been joined. -/
def TaskManager.joined (manager : TaskManager) : TaskManager :=
  if manager.stopping && manager.workers.all Worker.isExited then
    { manager with workers := [], started := false }
  else manager

def ManagementTask.missStart (now : Int) (task : ManagementTask) : ManagementTask :=
  { task with
    state := .timedOut
    phase := .finished
    finishedMicroseconds := now
    error := "task did not start before its deadline"
    execute := false }

/-- What a look through the queue leaves: the ids kept, and the task it picked. -/
structure Scan where
  manager : TaskManager
  kept : List String
  picked : Option Nat

/-- The loop over the queue: expired tasks time out, and the first eligible one is picked. -/
def TaskManager.scan (now : Int) (files : Except String Unit) : TaskManager → List String → Scan
  | manager, [] => ⟨manager, [], none⟩
  | manager, id :: rest =>
    match manager.tasks.lookup id with
    | none => scan now files manager rest
    | some task =>
      if (manager.objects task).state ≠ .queued then scan now files manager rest
      else if now > (manager.objects task).startDeadlineMicroseconds then
        scan now files
          ({ manager.modify task (ManagementTask.missStart now) with
            history := { manager.history with
              dropped := task :: manager.history.dropped } }.persistLockedNoThrow files) rest
      else if now ≥ (manager.objects task).notBeforeMicroseconds then
        ⟨manager, rest, some task⟩
      else
        -- Not yet eligible: it stays where it is and the look goes on behind it.
        let scanned := scan now files manager rest
        { scanned with kept := id :: scanned.kept }

/-- A picked task starts. -/
def ManagementTask.begin (now : Int) (task : ManagementTask) : ManagementTask :=
  { task with
    state := .running
    phase := .executing
    startedMicroseconds := now
    executionDeadlineMicroseconds := now + 1000 * task.executionTimeoutMilliseconds }

/-- What a worker's step meets: clock readings, file work, and what the called function does. -/
structure WorkerInput where
  now : Int
  later : Int
  last : Int
  files : Except String Unit
  outcome : Except TaskError (Option TaskResult)

/-- One look of a worker at the queue. -/
def TaskManager.scanStep (manager : TaskManager) (index : Nat) (input : WorkerInput) :
    TaskManager :=
  if manager.queue.isEmpty then
    if manager.stopping then manager.setWorker index .exited else manager
  else
    let scanned := TaskManager.scan input.now input.files (manager.read input.now) manager.queue
    let left := { scanned.manager with queue := scanned.kept }
    match scanned.picked with
    | some task =>
      { left.modify task (ManagementTask.begin input.later) with
        history := { left.history with
          picks := (task, input.now) :: left.history.picks
          readings := input.later :: left.history.readings }
        workers := left.workers.set index (.picked task) }.persistLockedNoThrow input.files
    | none =>
      if manager.stopping && scanned.kept.isEmpty then left.setWorker index .exited else left

/-- The check a task's context makes: cancellation first, then the execution deadline. -/
def ManagementTask.checkpoint (task : ManagementTask) (now : Int) : Option TaskError :=
  if task.cancellationSignal then some .cancelled
  else if task.executionDeadlineMicroseconds > 0 ∧ now > task.executionDeadlineMicroseconds then
    some .timedOut
  else none

/-- A task joins a waiter queue. -/
def ManagementTask.joinWait (now : Int) (task : ManagementTask) : ManagementTask :=
  { task with resourceWaitStartedMicroseconds := now, phase := .waitingResource }

/-- A task is blocked by the owner of its resource, if there is one. -/
def ManagementTask.block (owner : String) (task : ManagementTask) : ManagementTask :=
  { task with blockingTaskId := owner }

def ManagementTask.grant (now : Int) (task : ManagementTask) : ManagementTask :=
  { task with
    resourceAcquiredMicroseconds := now
    resourceWaitMicroseconds := now - task.resourceWaitStartedMicroseconds
    phase := .executing }

/-- A task gives up waiting. -/
def ManagementTask.leaveWait (now : Int) (task : ManagementTask) : ManagementTask :=
  { task with resourceWaitMicroseconds := now - task.resourceWaitStartedMicroseconds }

/-- The last changes to a task, after its resource was given back. -/
def ManagementTask.finish (now : Int) (task : ManagementTask) : ManagementTask :=
  { task with finishedMicroseconds := now, execute := false }

/-- One turn of the waiting loop in `acquireResource`. -/
def TaskManager.acquireTurn (manager : TaskManager) (index task : Nat) (now later : Int)
    (files : Except String Unit) : TaskManager :=
  let object := manager.objects task
  match object.checkpoint now with
  | some error =>
    -- The handler takes the id out of the waiter queue before the exception goes on.
    ((manager.setWaiters object.resourceKey
      ((manager.waiters object.resourceKey).filter (· ≠ object.id))).modify task
        (ManagementTask.leaveWait later)).setWorker index (.unwinding task false error)
  | none =>
    match manager.resourceOwners.lookup object.resourceKey with
    | some owner =>
      (manager.modify task (ManagementTask.block owner)).setWorker index (.waiting task)
    | none =>
      if (manager.waiters object.resourceKey).head? = some object.id then
        let granted := (manager.setWaiters object.resourceKey
          (manager.waiters object.resourceKey).tail).modify task (ManagementTask.grant later)
        ({ granted with
            resourceOwners := assign object.resourceKey object.id
              granted.resourceOwners }.setWorker index (.owning task)).persistLockedNoThrow files
      else (manager.modify task (ManagementTask.block "")).setWorker index (.waiting task)

/-- The first turn of `acquireResource` joins the waiter queue. -/
def TaskManager.enterAcquire (manager : TaskManager) (task : Nat) (now : Int)
    (files : Except String Unit) : TaskManager :=
  let object := manager.objects task
  let joined := (manager.setWaiters object.resourceKey
    (manager.waiters object.resourceKey ++ [object.id])).modify task
      (ManagementTask.joinWait now)
  { joined with history := { joined.history with
      arrivals := joined.history.arrivals ++ [(object.resourceKey, object.id)]
    } }.persistLockedNoThrow files

/-- The end of a successful task. -/
def ManagementTask.succeed (result : Option TaskResult) (task : ManagementTask) :
    ManagementTask :=
  { task with result, state := .succeeded, phase := .finished }

/-- The end of a task whose exception was caught. -/
def ManagementTask.fail (error : TaskError) (task : ManagementTask) : ManagementTask :=
  { task with state := error.state, phase := .finished, error := error.what }

/-- Giving a resource back, if this task owns it. -/
def TaskManager.releaseResource (manager : TaskManager) (task : Nat) : TaskManager :=
  let object := manager.objects task
  if manager.resourceOwners.lookup object.resourceKey = some object.id then
    { manager with resourceOwners := eraseKey object.resourceKey manager.resourceOwners }
  else manager

def TaskManager.workerStep (manager : TaskManager) (index : Nat) (input : WorkerInput) :
    TaskManager :=
  match manager.workers[index]? with
  | none => manager
  | some .scanning => manager.scanStep index input
  | some .exited => manager
  | some (.picked task) =>
    match (manager.objects task).checkpoint input.now with
    | some error => (manager.read input.now).setWorker index (.unwinding task false error)
    | none => (manager.read input.now).setWorker index (.entering task)
  | some (.entering task) =>
    ((manager.read input.now).enterAcquire task input.now input.files).acquireTurn index task
      input.later input.last input.files
  | some (.waiting task) =>
    (manager.read input.now).acquireTurn index task input.now input.later input.files
  | some (.owning task) =>
    -- Calling an empty function raises; the time of a call is recorded for the history only.
    if !(manager.objects task).execute then
      manager.setWorker index (.unwinding task true (.failed "bad_function_call"))
    else { manager.setWorker index (.executing task) with
      history := { manager.history with
        calls := (task, input.now) :: manager.history.calls
        readings := input.now :: manager.history.readings } }
  | some (.executing task) =>
    match input.outcome with
    | .ok result => manager.setWorker index (.returned task result)
    | .error error => manager.setWorker index (.unwinding task true error)
  | some (.returned task result) =>
    match (manager.objects task).checkpoint input.now with
    | some error => (manager.read input.now).setWorker index (.unwinding task true error)
    | none => (manager.read input.now).setWorker index (.succeeding task result)
  | some (.succeeding task result) =>
    (manager.modify task (ManagementTask.succeed result)).setWorker index (.releasing task true)
  | some (.unwinding task acquired error) =>
    (manager.modify task (ManagementTask.fail error)).setWorker index (.releasing task acquired)
  | some (.releasing task _) =>
    (manager.releaseResource task).setWorker index (.finishing task)
  | some (.finishing task) =>
    ((manager.modify task (ManagementTask.finish input.now)).setWorker index
      .scanning).pruneLocked.persistLockedNoThrow input.files

/-- Everything that can happen to a running manager. -/
inductive TaskEvent
  | submit (request : TaskRequest) (now : Int) (files : Except String Unit)
  | cancel (id : String) (now : Int) (files : Except String Unit)
  | stop (now : Int) (files : Except String Unit)
  | joined
  | worker (index : Nat) (input : WorkerInput)
  /-- The hash table of tasks may iterate in any other order after it has been changed. -/
  | rehash (entries : List (String × Nat))

/-- One critical section, or one step of a worker between two of them. -/
def TaskManager.step (manager : TaskManager) : TaskEvent → TaskManager
  | .submit request now files => ((manager.read now).submit request now files).2
  | .cancel id now files => ((manager.read now).cancel id now files).2
  | .stop now files => (manager.read now).stop now files
  | .joined => manager.joined
  | .worker index input => manager.workerStep index input
  | .rehash entries =>
    if entries.isPerm manager.tasks then { manager with tasks := entries } else manager

end PocoDDS.Monitoring
