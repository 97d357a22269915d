import PocoDDS.Monitoring.TaskResources

/-! Restarting the manager: what the next process remembers of the tasks that were persisted. -/

namespace PocoDDS.Monitoring

open AssocList CrashLogic JsonModel RunLogic TaskManager

/-- What loading makes of a serialised task: whatever was unfinished is interrupted. -/
def ManagementTask.reloaded (now : Int) (task : ManagementTask) : ManagementTask :=
  let read := { task with
    phase := TaskPhase.ofText task.phase.text
    cancellationSignal := task.cancellationRequested
    execute := false }
  if task.state.active then
    { read with
      interruptedFromState := task.state.name
      state := .interrupted
      phase := .finished
      finishedMicroseconds := now
      error := "Runtime stopped before the task reached a terminal state; " ++
        "verify the target before retrying" }
  else read

@[simp] theorem ManagementTask.reloaded_id (now : Int) (task : ManagementTask) :
    (task.reloaded now).id = task.id := by
  unfold ManagementTask.reloaded
  dsimp only
  split <;> rfl

theorem ManagementTask.reloaded_json (now : Int) {task : ManagementTask}
    (ended : task.state.active = false) :
    managementTaskJson (task.reloaded now) = managementTaskJson task := by
  simp [ManagementTask.reloaded, ended, managementTaskJson, taskMembers]

/-- The error of a task reads as itself, also when an empty one was left out. -/
theorem error_managementTaskJson {library : JsonLibrary} (converts : library.Converts)
    (task : ManagementTask) :
    JsonLibrary.optValue library.convertString (managementTaskJson task) "error" "" =
      task.error := by
  by_cases empty : task.error.isEmpty
  · have absent : (managementTaskJson task).member "error" = none := by
      simp only [managementTaskJson, empty, if_true, Json.member]
      cases task.result <;> rfl
    simp only [JsonLibrary.optValue, absent]
    exact (String.isEmpty_iff.mp empty).symm
  · apply converts.optString
    simp only [managementTaskJson, empty]
    cases task.result <;> rfl

theorem result_managementTaskJson (task : ManagementTask) :
    ((managementTaskJson task).member "result").bind Json.members? = task.result := by
  by_cases empty : task.error.isEmpty <;> cases result : task.result <;>
    simp only [managementTaskJson, empty, result] <;> rfl

/-- A serialised task with a name loads as its reloaded self. -/
theorem loadTask_managementTaskJson {library : JsonLibrary} (converts : library.Converts)
    (now : Int) {task : ManagementTask} (named : task.id ≠ "") :
    loadTask library now (managementTaskJson task) = some (task.reloaded now) := by
  have text : ∀ {key value : String}, (managementTaskJson task).member key = some (.str value) →
      ∀ default, JsonLibrary.optValue library.convertString (managementTaskJson task) key default =
        value := fun found default => converts.optString found default
  have number : ∀ {key : String} {value : Int},
      (managementTaskJson task).member key = some (.num value) →
      ∀ default, JsonLibrary.optValue library.convertInt (managementTaskJson task) key default =
        value := fun found default => converts.optInt found default
  have flag : ∀ {key : String} {value : Bool},
      (managementTaskJson task).member key = some (.bool value) →
      ∀ default, JsonLibrary.optValue library.convertBool (managementTaskJson task) key default =
        value := fun found default => converts.optBool found default
  have present : task.id.isEmpty = false := by
    simpa using named
  -- Every member is looked up under the key it was written under.
  simp only [loadTask, show (managementTaskJson task).isObject = true from rfl,
    text (show (managementTaskJson task).member "id" = some (.str task.id) from rfl),
    text (show (managementTaskJson task).member "operation" = some (.str task.operation) from rfl),
    text (show (managementTaskJson task).member "target" = some (.str task.target) from rfl),
    text (show (managementTaskJson task).member "action" = some (.str task.action) from rfl),
    text (show (managementTaskJson task).member "principal" = some (.str task.principal) from rfl),
    text (show (managementTaskJson task).member "requestId" = some (.str task.requestId) from rfl),
    text (show (managementTaskJson task).member "state" = some (.str task.state.name) from rfl),
    text (show (managementTaskJson task).member "interruptedFromState" =
      some (.str task.interruptedFromState) from rfl),
    text (show (managementTaskJson task).member "recoveryPolicy" =
      some (.str task.recoveryPolicy) from rfl),
    text (show (managementTaskJson task).member "phase" = some (.str task.phase.text) from rfl),
    text (show (managementTaskJson task).member "phaseBeforeCancellation" =
      some (.str task.phaseBeforeCancellation) from rfl),
    text (show (managementTaskJson task).member "cancellationMode" =
      some (.str task.cancellationMode) from rfl),
    text (show (managementTaskJson task).member "resourceKey" =
      some (.str task.resourceKey) from rfl),
    text (show (managementTaskJson task).member "blockingTaskId" =
      some (.str task.blockingTaskId) from rfl),
    number (show (managementTaskJson task).member "submittedMicroseconds" =
      some (.num task.submittedMicroseconds) from rfl),
    number (show (managementTaskJson task).member "startedMicroseconds" =
      some (.num task.startedMicroseconds) from rfl),
    number (show (managementTaskJson task).member "finishedMicroseconds" =
      some (.num task.finishedMicroseconds) from rfl),
    number (show (managementTaskJson task).member "startDeadlineMicroseconds" =
      some (.num task.startDeadlineMicroseconds) from rfl),
    number (show (managementTaskJson task).member "notBeforeMicroseconds" =
      some (.num task.notBeforeMicroseconds) from rfl),
    number (show (managementTaskJson task).member "executionDeadlineMicroseconds" =
      some (.num task.executionDeadlineMicroseconds) from rfl),
    number (show (managementTaskJson task).member "executionTimeoutMilliseconds" =
      some (.num task.executionTimeoutMilliseconds) from rfl),
    number (show (managementTaskJson task).member "resourceWaitStartedMicroseconds" =
      some (.num task.resourceWaitStartedMicroseconds) from rfl),
    number (show (managementTaskJson task).member "resourceAcquiredMicroseconds" =
      some (.num task.resourceAcquiredMicroseconds) from rfl),
    number (show (managementTaskJson task).member "resourceWaitMicroseconds" =
      some (.num task.resourceWaitMicroseconds) from rfl),
    flag (show (managementTaskJson task).member "cancellationRequested" =
      some (.bool task.cancellationRequested) from rfl),
    error_managementTaskJson converts task, result_managementTaskJson task,
    TaskState.ofName_name, present]
  unfold ManagementTask.reloaded
  simp only [Bool.not_true, Bool.or_self, Bool.false_eq_true, if_false]
  split <;> rfl

/-- The retained tasks in the order of their records. -/
def TaskManager.recorded (manager : TaskManager) : List Nat :=
  manager.order.filterMap fun id => manager.tasks.lookup id

/-- The tasks of the last records, as many as the retention limit allows. -/
def TaskManager.kept (manager : TaskManager) : List Nat :=
  manager.recorded.drop (manager.recorded.length - manager.retention)

/-- The tasks of the older records, which a reader leaves out. -/
def TaskManager.excess (manager : TaskManager) : List Nat :=
  manager.recorded.take (manager.recorded.length - manager.retention)

theorem records_eq (manager : TaskManager) : manager.records = manager.recorded.map fun task =>
      managementTaskJson (manager.objects task) := by
  unfold records recorded
  rw [List.map_filterMap]

/-- Every entry of the table has a name and a place in the order. -/
structure Listed (retention : Nat) (manager : TaskManager) : Prop where
  ordered : ∀ id ∈ keys manager.tasks, id ∈ manager.order
  identified : ∀ id ∈ keys manager.tasks, id ≠ ""
  limit : manager.retention = retention

section Table

variable {retention : Nat} {manager after : TaskManager}

/-- A step that touches neither the table nor the order. -/
theorem Listed.same (listed : Listed retention manager) (tasks : after.tasks = manager.tasks)
    (order : after.order = manager.order) (limit : after.retention = manager.retention) :
    Listed retention after := by
  refine ⟨?_, ?_, limit.trans listed.limit⟩
  · rw [tasks, order]
    exact listed.ordered
  · rw [tasks]
    exact listed.identified

theorem mem_keys_eraseKey {id other : String} {tasks : List (String × Nat)}
    (member : other ∈ keys (eraseKey id tasks)) : other ∈ keys tasks ∧ other ≠ id := by
  obtain ⟨entry, inside, rfl⟩ := List.mem_map.mp member
  obtain ⟨present, differs⟩ := List.mem_filter.mp inside
  exact ⟨List.mem_map.mpr ⟨entry, present, rfl⟩, by simpa using differs⟩

variable (listed : Listed retention manager)
include listed

theorem Listed.pruneOnce :
    Listed retention manager.pruneOnce := by
  unfold TaskManager.pruneOnce
  split
  · exact listed
  · next id found =>
    refine ⟨?_, ?_, listed.limit⟩
    · intro other member
      obtain ⟨present, differs⟩ := mem_keys_eraseKey member
      exact (List.mem_erase_of_ne differs).mpr (listed.ordered other present)
    · intro other member
      exact listed.identified other (mem_keys_eraseKey member).1

theorem Listed.prune :
    Listed retention manager.pruneLocked := by
  unfold pruneLocked
  generalize manager.order.length - manager.retention = turns
  induction turns generalizing manager with
  | zero => exact listed
  | succ turns ih =>
    rw [Function.iterate_succ_apply]
    exact ih listed.pruneOnce

theorem Listed.persist (files : Except String Unit) :
    Listed retention (manager.persistLockedNoThrow files) := by
  obtain ⟨message, shape⟩ := persistLockedNoThrow_shape manager files
  rw [shape]
  exact listed.same rfl rfl rfl

theorem Listed.join {id : String} (named : id ≠ "") {handle : Nat}
    (tasks : after.tasks = assign id handle manager.tasks)
    (order : after.order = manager.order ++ [id]) (limit : after.retention = manager.retention) :
    Listed retention after := by
  have known : ∀ other ∈ keys after.tasks, other ∈ keys manager.tasks ∨ other = id := by
    intro other member
    rw [tasks, assign, keys, List.map_append, List.mem_append] at member
    rcases member with old | new
    · exact .inl (mem_keys_eraseKey old).1
    · exact .inr (by simpa using new)
  refine ⟨?_, ?_, limit.trans listed.limit⟩
  · intro other member
    rw [order, List.mem_append]
    rcases known other member with old | rfl
    · exact .inl (listed.ordered other old)
    · exact .inr List.mem_cons_self
  · intro other member
    rcases known other member with old | rfl
    · exact listed.identified other old
    · exact named

omit listed

theorem prune_keeps_last (turns : Nat) {id : String} {front : List String}
    (order : manager.order = front ++ [id]) (active : manager.removable id = false) :
    ∃ front', (pruneOnce^[turns] manager).order = front' ++ [id] := by
  induction turns generalizing manager front with
  | zero => exact ⟨front, order⟩
  | succ turns ih =>
    rw [Function.iterate_succ_apply]
    unfold pruneOnce
    split
    · exact ih order active
    · next victim found =>
      have differs : victim ≠ id := by
        intro same
        have removable := List.find?_some found
        rw [same, active] at removable
        cases removable
      -- The victim stands in front, so erasing it leaves the end alone.
      have member : victim ∈ front := by
        have inside := List.mem_of_find?_eq_some found
        rw [order, List.mem_append] at inside
        rcases inside with before | last
        · exact before
        · exact absurd (by simpa using last) differs
      have shorter : manager.order.erase victim = front.erase victim ++ [id] := by
        rw [order, List.erase_append_left _ member]
      apply ih shorter
      unfold TaskManager.removable
      dsimp only
      rw [lookup_eraseKey_ne (fun same => differs same.symm)]
      exact active

variable (listed : Listed retention manager)
include listed

theorem Listed.submit (request : TaskRequest) (now : Int) (files : Except String Unit) :
    Listed retention (manager.submit request now files).2 := by
  unfold TaskManager.submit
  split_ifs
  · exact listed
  · exact listed
  · dsimp only
    have joined : Listed retention (manager.enqueue (request.task now manager.sequence)) :=
      listed.join (taskId_ne_empty now manager.sequence) rfl rfl rfl
    have pruned := joined.prune
    split
    · next persisted done =>
      obtain ⟨message, shape⟩ := persistLocked_shape done
      rw [shape]
      exact pruned.same rfl rfl rfl
    · -- The new id is still the last one, and it is the one that goes.
      have last : (manager.enqueue (request.task now manager.sequence)).removable
          (request.task now manager.sequence).id = false := by
        simp [removable, TaskManager.enqueue, TaskRequest.task, ManagementTask.fresh,
          TaskState.active]
      obtain ⟨front, order⟩ : ∃ front, (manager.enqueue
          (request.task now manager.sequence)).pruneLocked.order =
            front ++ [(request.task now manager.sequence).id] := prune_keeps_last _ rfl last
      refine ⟨?_, ?_, pruned.limit⟩
      · intro other member
        obtain ⟨present, differs⟩ := mem_keys_eraseKey member
        have inside := pruned.ordered other present
        show other ∈ (manager.enqueue
          (request.task now manager.sequence)).pruneLocked.order.dropLast
        rw [order, List.mem_append] at inside
        rw [order, List.dropLast_concat]
        rcases inside with before | wrong
        · exact before
        · exact absurd (by simpa using wrong) differs
      · intro other member
        exact pruned.identified other (mem_keys_eraseKey member).1

theorem Listed.cancel (id : String) (now : Int) (files : Except String Unit) :
    Listed retention (manager.cancel id now files).2 := by
  unfold TaskManager.cancel
  split
  · exact listed
  · refine Listed.persist ?_ files
    split <;> exact listed.same rfl rfl rfl

theorem Listed.stopQueue (now : Int) (ids : List String) :
    Listed retention (manager.stopQueue now ids) := by
  induction ids generalizing manager with
  | nil => exact listed
  | cons id rest ih =>
    simp only [stopQueue, List.foldl_cons]
    split
    · exact ih listed
    · exact ih (listed.same rfl rfl rfl)

theorem Listed.stopRunning (entries : List (String × Nat)) :
    Listed retention (manager.stopRunning entries) := by
  induction entries generalizing manager with
  | nil => exact listed
  | cons entry rest ih =>
    simp only [stopRunning, List.foldl_cons]
    split
    · exact ih (listed.same rfl rfl rfl)
    · exact ih listed

theorem Listed.stop (now : Int) (files : Except String Unit) :
    Listed retention (manager.stop now files) := by
  unfold TaskManager.stop
  split
  · exact listed.same rfl rfl rfl
  · have stopping : Listed retention { manager with stopping := true } :=
      listed.same rfl rfl rfl
    have requested := (stopping.stopQueue now manager.queue).stopRunning manager.tasks
    refine Listed.persist ?_ files
    exact requested.same rfl rfl rfl

theorem Listed.scan (now : Int) (files : Except String Unit) (ids : List String) :
    Listed retention (TaskManager.scan now files manager ids).manager := by
  induction ids generalizing manager with
  | nil => exact listed
  | cons id rest ih =>
    unfold TaskManager.scan
    split
    · exact ih listed
    · split_ifs
      · exact ih listed
      · refine ih (Listed.persist ?_ files)
        exact listed.same rfl rfl rfl
      · exact listed
      · exact ih listed

theorem Listed.acquireTurn (index task : Nat) (now later : Int) (files : Except String Unit) :
    Listed retention (manager.acquireTurn index task now later files) := by
  unfold TaskManager.acquireTurn
  dsimp only
  split
  · exact listed.same rfl rfl rfl
  · split
    · exact listed.same rfl rfl rfl
    · split
      · refine Listed.persist ?_ files
        exact listed.same rfl rfl rfl
      · exact listed.same rfl rfl rfl

theorem Listed.workerStep (index : Nat) (input : WorkerInput) :
    Listed retention (manager.workerStep index input) := by
  unfold TaskManager.workerStep
  split
  · exact listed
  · unfold scanStep
    split
    · split <;> exact listed.same rfl rfl rfl
    · have read : Listed retention (manager.read input.now) := listed.same rfl rfl rfl
      have scanned := read.scan input.now input.files manager.queue
      dsimp only
      split
      · refine Listed.persist ?_ input.files
        exact scanned.same rfl rfl rfl
      · split <;> exact scanned.same rfl rfl rfl
  · exact listed
  · split <;> exact listed.same rfl rfl rfl
  · apply Listed.acquireTurn
    refine Listed.persist ?_ input.files
    exact listed.same rfl rfl rfl
  · apply Listed.acquireTurn
    exact listed.same rfl rfl rfl
  · split <;> exact listed.same rfl rfl rfl
  · split <;> exact listed.same rfl rfl rfl
  · split <;> exact listed.same rfl rfl rfl
  · exact listed.same rfl rfl rfl
  · exact listed.same rfl rfl rfl
  · unfold releaseResource
    dsimp only
    split <;> exact listed.same rfl rfl rfl
  · -- Only the end of a task prunes.
    apply Listed.persist
    apply Listed.prune
    exact listed.same rfl rfl rfl

theorem Listed.step (event : TaskEvent) : Listed retention (manager.step event) := by
  have read : ∀ now, Listed retention (manager.read now) := fun now => listed.same rfl rfl rfl
  cases event with
  | submit request now files => exact (read now).submit request now files
  | cancel id now files => exact (read now).cancel id now files
  | stop now files => exact (read now).stop now files
  | worker index input => exact listed.workerStep index input
  | joined =>
    simp only [TaskManager.step, TaskManager.joined]
    split <;> exact listed.same rfl rfl rfl
  | rehash entries =>
    simp only [TaskManager.step]
    split
    · next perm =>
      have same := (List.isPerm_iff.mp perm).map Prod.fst
      exact ⟨fun id member => listed.ordered id (same.mem_iff.mp member),
        fun id member => listed.identified id (same.mem_iff.mp member), listed.limit⟩
    · exact listed

theorem Listed.adopt_all {tasks : List ManagementTask} (named : ∀ task ∈ tasks, task.id ≠ "") :
    Listed retention (tasks.foldl adopt manager) := by
  induction tasks generalizing manager with
  | nil => exact listed
  | cons task rest ih =>
    have joined : Listed retention (manager.adopt task) :=
      listed.join (named task List.mem_cons_self) rfl rfl rfl
    exact ih joined fun other member => named other (List.mem_cons_of_mem _ member)

end Table

theorem loadTask_named {library : JsonLibrary} {now : Int} {source : Json} {task : ManagementTask}
    (loaded : loadTask library now source = some task) : task.id ≠ "" := by
  unfold loadTask at loaded
  dsimp only at loaded
  split at loaded
  · cases loaded
  · next accepted =>
    have named : JsonLibrary.optValue library.convertString source "id" "" ≠ "" := by
      intro empty
      rw [empty] at accepted
      simp at accepted
    split at loaded <;> cases loaded <;> exact named

theorem start_listed (library : JsonLibrary) (settings : TaskSettings) (current : Option String)
    (now : Int) (files : Except String Unit) :
    Listed settings.retention (TaskManager.start library settings current now files) := by
  have empty : ∀ message required, Listed settings.retention { settings.configured with
      allocated := 0, tasks := [], queue := [], order := [], lastPersistenceError := message,
      persistenceRecoveryRequired := required } := by
    intro message required
    exact ⟨fun id member => (by cases member), fun id member => (by cases member), rfl⟩
  have loaded : Listed settings.retention
      (settings.configured.loadLocked library current now files) := by
    unfold loadLocked
    dsimp only
    split
    · split
      · exact empty _ _
      · next records read =>
        have named : ∀ task ∈ loadTasks library settings.configured.retention now records,
            task.id ≠ "" := by
          intro task member
          obtain ⟨source, -, found⟩ := List.mem_filterMap.mp member
          exact loadTask_named found
        have adopted := Listed.adopt_all (empty "" false) named
        have written := Listed.persist adopted.prune files
        exact written.same rfl rfl rfl
    · exact empty _ _
  exact loaded.same rfl rfl rfl

/-- What the table holds once a list of tasks has been adopted into an empty one. -/
structure Adopted (tasks : List ManagementTask) (manager : TaskManager) : Prop where
  found : ∀ id handle, manager.tasks.lookup id = some handle → handle < manager.allocated ∧
    manager.objects handle ∈ tasks ∧ (manager.objects handle).id = id
  present : ∀ task ∈ tasks, ∃ handle, manager.tasks.lookup task.id = some handle
  order : manager.order = tasks.map ManagementTask.id

theorem Adopted.adopt {tasks : List ManagementTask} {manager : TaskManager}
    (adopted : Adopted tasks manager) (task : ManagementTask) :
    Adopted (tasks ++ [task]) (manager.adopt task) := by
  have table : (manager.adopt task).tasks = assign task.id manager.allocated manager.tasks := rfl
  have new : (manager.adopt task).objects manager.allocated = task := Function.update_self _ _ _
  refine ⟨?_, ?_, ?_⟩
  · intro id handle listed
    rw [table] at listed
    by_cases same : id = task.id
    · -- The newest task of a name is the one that stays.
      rw [same, lookup_assign_self] at listed
      obtain rfl := Option.some.inj listed
      rw [new]
      exact ⟨Nat.lt_succ_self _, List.mem_append_right _ List.mem_cons_self, same.symm⟩
    · rw [lookup_assign_ne same] at listed
      obtain ⟨inside, member, named⟩ := adopted.found id handle listed
      have old : (manager.adopt task).objects handle = manager.objects handle :=
        Function.update_of_ne (Nat.ne_of_lt inside) _ _
      rw [old]
      exact ⟨Nat.lt_succ_of_lt inside, List.mem_append_left _ member, named⟩
  · intro other member
    rw [table]
    by_cases same : other.id = task.id
    · exact ⟨manager.allocated, by rw [same, lookup_assign_self]⟩
    · rcases List.mem_append.mp member with old | new
      · obtain ⟨handle, listed⟩ := adopted.present other old
        exact ⟨handle, by rw [lookup_assign_ne same]; exact listed⟩
      · rw [List.mem_singleton.mp new] at same
        exact absurd rfl same
  · show manager.order ++ [task.id] = _
    rw [adopted.order, List.map_append]
    rfl

theorem adopted_all (tasks : List ManagementTask) {manager : TaskManager}
    (empty : manager.tasks = []) (fresh : manager.order = []) :
    Adopted tasks (tasks.foldl adopt manager) := by
  induction tasks using List.reverseRecOn with
  | nil =>
    refine ⟨?_, fun task member => (by cases member), fresh⟩
    intro id handle listed
    rw [List.foldl_nil, empty] at listed
    cases listed
  | append_singleton tasks task ih =>
    rw [List.foldl_append]
    exact ih.adopt task

theorem readTasks_written {library : JsonLibrary} (converts : library.Converts)
    (records : List Json) (savedAtMicroseconds : Int)
    (readsBack : library.ReadsBack (snapshotDocument library .tasks records savedAtMicroseconds)) :
    readTasks library (library.stringify
      (snapshotDocument library .tasks records savedAtMicroseconds)) = .ok records := by
  have schema := converts.optInt (show (snapshotDocument library .tasks records
    savedAtMicroseconds).member "schemaVersion" = some (.num 2) from rfl) 0
  have digest := converts.optString (show (snapshotDocument library .tasks records
    savedAtMicroseconds).member "contentSha256" =
      some (.str (library.sha256 (library.stringify (.arr records)))) from rfl) ""
  have array : (snapshotDocument library .tasks records savedAtMicroseconds).getArray "tasks" =
    some records := rfl
  unfold readTasks
  rw [readsBack]
  simp only [show (snapshotDocument library .tasks records savedAtMicroseconds).isObject = true
    from rfl, schema, digest, array]
  simp

/-- A restart adopts the loaded tasks and prunes none of them. -/
theorem start_adopted {library : JsonLibrary} {settings : TaskSettings}
    (enabled : settings.persistenceEnabled = true) {text : String} {records : List Json}
    (read : readTasks library text = .ok records) (now : Int) (files : Except String Unit) :
    Adopted (loadTasks library settings.retention now records)
      (TaskManager.start library settings (some text) now files) := by
  have adopted : Adopted (loadTasks library settings.retention now records)
      ((loadTasks library settings.retention now records).foldl adopt
        { settings.configured with allocated := 0, tasks := [], queue := [], order := [] }) :=
    adopted_all _ rfl rfl
  -- There are no more tasks than the limit allows, so the pruning loop does not turn.
  have short : (loadTasks library settings.retention now records).length ≤
      settings.retention := by
    refine le_trans (List.length_filterMap_le _ _) ?_
    rw [List.length_drop]
    omega
  have limit : ∀ (tasks : List ManagementTask) (manager : TaskManager),
      (tasks.foldl adopt manager).retention = manager.retention := by
    intro tasks
    induction tasks with
    | nil => exact fun manager => rfl
    | cons task rest ih => exact fun manager => ih (manager.adopt task)
  have unpruned : ((loadTasks library settings.retention now records).foldl adopt
      { settings.configured with allocated := 0, tasks := [], queue := [],
                                 order := [] }).pruneLocked =
      (loadTasks library settings.retention now records).foldl adopt
        { settings.configured with allocated := 0, tasks := [], queue := [], order := [] } := by
    unfold pruneLocked
    rw [limit, adopted.order, List.length_map, show (loadTasks library settings.retention now
      records).length - settings.configured.retention = 0 from Nat.sub_eq_zero_of_le short]
    rfl
  obtain ⟨message, shape⟩ := persistLockedNoThrow_shape
    ((loadTasks library settings.retention now records).foldl adopt
      { settings.configured with allocated := 0, tasks := [], queue := [], order := [] }) files
  rw [← unpruned] at shape adopted
  have stores : settings.configured.persistenceEnabled = true := enabled
  have loaded : settings.configured.loadLocked library (some text) now files =
      { (((loadTasks library settings.retention now records).foldl adopt
        { settings.configured with allocated := 0, tasks := [], queue := [],
                                   order := [] }).pruneLocked.persistLockedNoThrow files) with
        persistenceRecoveryRequired := false } := by
    unfold loadLocked
    simp only [stores, read]
    rfl
  unfold TaskManager.start
  rw [loaded, shape]
  exact ⟨adopted.found, adopted.present, adopted.order⟩

/-- What the next process should know: nothing unfinished is lost, and what was over is as it was. -/
structure Remembered (before after : TaskManager) : Prop where
  interrupted : ∀ task < before.allocated, (before.objects task).state.active = true →
    ∃ reloaded, after.tasks.lookup (before.objects task).id = some reloaded ∧
      (after.objects reloaded).id = (before.objects task).id ∧
      (after.objects reloaded).state = .interrupted ∧
      (after.objects reloaded).interruptedFromState = (before.objects task).state.name
  unchanged : ∀ id task, before.tasks.lookup id = some task →
    (before.objects task).state.active = false →
    (task ∈ before.excess ∧ after.tasks.lookup id = none) ∨
      ∃ reloaded, after.tasks.lookup id = some reloaded ∧
        managementTaskJson (after.objects reloaded) = managementTaskJson (before.objects task)

section Restart

variable {manager : TaskManager} {retention : Nat}

theorem Scheduled.recorded_named (scheduled : Scheduled manager) {task : Nat}
    (member : task ∈ manager.recorded) :
    manager.tasks.lookup (manager.objects task).id = some task := by
  obtain ⟨id, -, listed⟩ := List.mem_filterMap.mp member
  rw [(scheduled.named id task listed).2]
  exact listed

/-- Every task of the table has a record; the reader keeps it or leaves it out. -/
theorem Listed.kept_or_excess (listed : Listed retention manager) {id : String} {task : Nat}
    (found : manager.tasks.lookup id = some task) :
    task ∈ manager.kept ∨ task ∈ manager.excess := by
  have present : id ∈ keys manager.tasks := lookup_isSome_iff.mp (by rw [found]; rfl)
  have recorded : task ∈ manager.recorded :=
    List.mem_filterMap.mpr ⟨id, listed.ordered id present, found⟩
  rw [← List.take_append_drop (manager.recorded.length - manager.retention) manager.recorded,
    List.mem_append] at recorded
  exact recorded.symm

theorem loadTasks_records {library : JsonLibrary} (converts : library.Converts)
    (scheduled : Scheduled manager) (listed : Listed retention manager) (now : Int) :
    loadTasks library retention now manager.records =
      manager.kept.map fun task => (manager.objects task).reloaded now := by
  have loads : ∀ task ∈ manager.kept, loadTask library now
      (managementTaskJson (manager.objects task)) = some ((manager.objects task).reloaded now) := by
    intro task member
    have found := scheduled.recorded_named (List.mem_of_mem_drop member)
    exact loadTask_managementTaskJson converts now
      (listed.identified _ (lookup_isSome_iff.mp (by rw [found]; rfl)))
  unfold loadTasks
  rw [records_eq, List.length_map, ← List.map_drop, List.filterMap_map, ← listed.limit]
  rw [show manager.recorded.drop (manager.recorded.length - manager.retention) = manager.kept
    from rfl]
  calc manager.kept.filterMap (loadTask library now ∘
        fun task => managementTaskJson (manager.objects task))
      = manager.kept.filterMap (some ∘ fun task => (manager.objects task).reloaded now) :=
        List.filterMap_congr loads
    _ = manager.kept.map fun task => (manager.objects task).reloaded now := by
        rw [List.filterMap_eq_map]

/-- A restart remembers everything if and only if every active task is among those it keeps. -/
theorem Scheduled.remembered_iff (scheduled : Scheduled manager)
    (listed : Listed retention manager) {after : TaskManager} {now : Int}
    (adopted : Adopted (manager.kept.map fun task => (manager.objects task).reloaded now) after) :
    Remembered manager after ↔
      ∀ task < manager.allocated, (manager.objects task).state.active = true →
        task ∈ manager.kept := by
  -- Whatever the next process finds under an id is the reloaded task of that id.
  have found : ∀ {id : String} {handle : Nat}, after.tasks.lookup id = some handle →
      ∃ task ∈ manager.kept, (manager.objects task).id = id ∧
        after.objects handle = (manager.objects task).reloaded now := by
    intro id handle present
    obtain ⟨-, member, named⟩ := adopted.found id handle present
    obtain ⟨task, inside, same⟩ := List.mem_map.mp member
    refine ⟨task, inside, ?_, same.symm⟩
    rw [← named, ← same, ManagementTask.reloaded_id]
  -- Ids lead to one task each, so it is the same task as before.
  have same : ∀ {id : String} {task handle : Nat}, manager.tasks.lookup id = some task →
      after.tasks.lookup id = some handle → task ∈ manager.kept ∧
        after.objects handle = (manager.objects task).reloaded now := by
    intro id task handle known present
    obtain ⟨other, inside, named, object⟩ := found present
    have recorded := scheduled.recorded_named (List.mem_of_mem_drop inside)
    rw [named, known] at recorded
    obtain rfl := Option.some.inj recorded
    exact ⟨inside, object⟩
  have reloads : ∀ {id : String} {task : Nat}, manager.tasks.lookup id = some task →
      task ∈ manager.kept → ∃ handle, after.tasks.lookup id = some handle := by
    intro id task known inside
    have present := adopted.present _ (List.mem_map.mpr ⟨task, inside, rfl⟩)
    rwa [ManagementTask.reloaded_id, (scheduled.named id task known).2] at present
  constructor
  · intro remembered task inside active
    obtain ⟨handle, present, -⟩ := remembered.interrupted task inside active
    exact (same (scheduled.mapped task inside active) present).1
  · intro complete
    refine ⟨?_, ?_⟩
    · intro task inside active
      have known := scheduled.mapped task inside active
      obtain ⟨handle, present⟩ := reloads known (complete task inside active)
      refine ⟨handle, present, ?_⟩
      rw [(same known present).2]
      simp [ManagementTask.reloaded, active]
    · intro id task known ended
      by_cases inside : task ∈ manager.kept
      · obtain ⟨handle, present⟩ := reloads known inside
        refine .inr ⟨handle, present, ?_⟩
        rw [(same known present).2]
        exact ManagementTask.reloaded_json now ended
      · refine .inl ⟨(listed.kept_or_excess known).resolve_left inside, ?_⟩
        cases present : after.tasks.lookup id with
        | none => rfl
        | some handle => exact absurd (same known present).1 inside

end Restart

theorem reachable_listed (library : JsonLibrary) (settings : TaskSettings)
    (current : Option String) (now : Int) (files : Except String Unit) (events : List TaskEvent) :
    Lifecycle (events.foldl TaskManager.step
        (TaskManager.start library settings current now files)) ∧
      Listed settings.retention (events.foldl TaskManager.step
        (TaskManager.start library settings current now files)) := by
  have kept : ∀ manager event, Lifecycle manager ∧ Listed settings.retention manager → True →
      Lifecycle (TaskManager.step manager event) ∧
        Listed settings.retention (TaskManager.step manager event) :=
    fun manager event both _ => ⟨both.1.step event, both.2.step event⟩
  exact Along.invariant kept ⟨(start_quiet library settings current now files).lifecycle,
    start_listed library settings current now files⟩ (Along.free _ _)

/-- The manager of the next process, started from the file that a persist call left. -/
def TaskManager.restarted (library : JsonLibrary) (settings : TaskSettings)
    (manager : TaskManager) (savedAtMicroseconds : Int) (faults : List (Option Fault))
    (disk : SnapshotFiles) (now : Int) (files : Except String Unit) : TaskManager :=
  TaskManager.start library settings
    ((⟨manager.records, savedAtMicroseconds, faults, none⟩ : Persist).leaves library .tasks
      disk).current now files

theorem restarted_adopted {library : JsonLibrary} (converts : library.Converts)
    {settings : TaskSettings} (enabled : settings.persistenceEnabled = true)
    {manager : TaskManager} (scheduled : Scheduled manager)
    (listed : Listed settings.retention manager) {savedAtMicroseconds : Int}
    (readsBack : library.ReadsBack
      (snapshotDocument library .tasks manager.records savedAtMicroseconds))
    {faults : List (Option Fault)} {disk : SnapshotFiles}
    (persisted : ((persistSnapshot library .tasks manager.records savedAtMicroseconds).run disk
      faults).1 = .ok ()) (now : Int) (files : Except String Unit) :
    Adopted (manager.kept.map fun task => (manager.objects task).reloaded now)
      (manager.restarted library settings savedAtMicroseconds faults disk now files) := by
  have written := Persist.leaves_written library .tasks
    ⟨manager.records, savedAtMicroseconds, faults, none⟩ disk rfl persisted
  unfold restarted
  rw [written, ← loadTasks_records converts scheduled listed now]
  exact start_adopted enabled (readTasks_written converts _ _ readsBack) now files

/-- A restart after a persist call forgets no unfinished task exactly when every queued or running
task is among the last records that the reader keeps. -/
theorem restart_remembers_iff {library : JsonLibrary} (converts : library.Converts)
    {settings : TaskSettings} (enabled : settings.persistenceEnabled = true)
    (current : Option String) (now : Int) (files : Except String Unit) (events : List TaskEvent)
    (savedAtMicroseconds : Int) (faults : List (Option Fault)) (disk : SnapshotFiles)
    (later : Int) (files' : Except String Unit) :
    let manager := events.foldl TaskManager.step
      (TaskManager.start library settings current now files)
    library.ReadsBack (snapshotDocument library .tasks manager.records savedAtMicroseconds) →
    ((persistSnapshot library .tasks manager.records savedAtMicroseconds).run disk faults).1 =
      .ok () →
    (Remembered manager
        (manager.restarted library settings savedAtMicroseconds faults disk later files') ↔
      ∀ task < manager.allocated, (manager.objects task).state.active = true →
        task ∈ manager.kept) := by
  intro manager readsBack persisted
  obtain ⟨lifecycle, listed⟩ := reachable_listed library settings current now files events
  exact lifecycle.scheduled.remembered_iff listed
    (restarted_adopted converts enabled lifecycle.scheduled listed readsBack persisted later files')

theorem persistSnapshot_first {library : JsonLibrary} {records : List Json}
    {savedAtMicroseconds : Int}
    (readsBack : library.ReadsBack (snapshotDocument library .tasks records savedAtMicroseconds)) :
    ((persistSnapshot library .tasks records savedAtMicroseconds).run ⟨none, none, none, none⟩
      []).1 = .ok () := by
  have parsed : library.parse (library.stringify
    (snapshotDocument library .tasks records savedAtMicroseconds)) = some _ := readsBack
  simp only [persistSnapshot, preservePreviousSnapshot, Prog.run, bind, pure, Prog.andThen,
    Prog.act, Prog.look, removeStaged, writeStaged, readStaged, replaceCurrent,
    Action.atomic, readJsonObject, List.tail_nil, parsed]
  rfl

def sampleRequest : TaskRequest where
  operation := "bundle"
  target := "sample"
  action := "start"
  principal := "operator"
  requestId := "request"
  startTimeoutMilliseconds := 60000
  notBeforeMilliseconds := 0
  executionTimeoutMilliseconds := 30000

/-- One worker, two places, and persistence. -/
def sampleLimits (retention : Nat) : TaskSettings := ⟨1, 2, retention, true⟩

/-- Two submissions that no worker has picked up yet. -/
def sampleSubmissions : List TaskEvent :=
  [.submit sampleRequest 1000 (.ok ()), .submit sampleRequest 2000 (.ok ())]

def sampleManager (library : JsonLibrary) (retention : Nat) : TaskManager :=
  sampleSubmissions.foldl TaskManager.step
    (TaskManager.start library (sampleLimits retention) none 0 (.ok ()))

/-- The records of both submissions; no library takes part in making them. -/
def sampleRecords : List Json :=
  (sampleManager (tableLibrary [] []) 2).records

/-- The SHA-256 digest of the serialised records. -/
def sampleRecordDigests : List (String × String) :=
  [((Json.arr sampleRecords).render,
    "1e6ba6981aa7c30548065272de384f62474c2b01981b7dbadad741946fe48e88")]

/-- A library that knows the snapshot of both submissions. -/
def sampleTaskLibrary : JsonLibrary :=
  tableLibrary [snapshotDocument (tableLibrary [] sampleRecordDigests) .tasks sampleRecords 3000]
    sampleRecordDigests

theorem sampleTaskLibrary_readsBack :
    sampleTaskLibrary.ReadsBack (snapshotDocument sampleTaskLibrary .tasks sampleRecords 3000) :=
  tableLibrary_readsBack [] [] _ sampleRecordDigests fun other member => (by cases member)

/-- With room for both records the restart remembers both tasks. -/
theorem restart_remembers_iff_two :
    Remembered (sampleManager sampleTaskLibrary 2) ((sampleManager sampleTaskLibrary 2).restarted
      sampleTaskLibrary (sampleLimits 2) 3000 [] ⟨none, none, none, none⟩ 4000 (.ok ())) := by
  have iff := restart_remembers_iff (tableLibrary_converts _ _ : sampleTaskLibrary.Converts)
    (show (sampleLimits 2).persistenceEnabled = true from rfl) none 0 (.ok ()) sampleSubmissions
    3000 [] ⟨none, none, none, none⟩ 4000 (.ok ()) sampleTaskLibrary_readsBack
    (persistSnapshot_first sampleTaskLibrary_readsBack)
  refine iff.mpr ?_
  decide

/-- With room for one record the restart forgets the first of two queued tasks. -/
theorem restart_forgets_queued_task :
    ((persistSnapshot sampleTaskLibrary .tasks (sampleManager sampleTaskLibrary 1).records 3000).run
      ⟨none, none, none, none⟩ []).1 = .ok () ∧
    ¬Remembered (sampleManager sampleTaskLibrary 1) ((sampleManager sampleTaskLibrary 1).restarted
      sampleTaskLibrary (sampleLimits 1) 3000 [] ⟨none, none, none, none⟩ 4000 (.ok ())) := by
  have persisted := persistSnapshot_first sampleTaskLibrary_readsBack
  refine ⟨persisted, ?_⟩
  obtain ⟨lifecycle, listed⟩ := reachable_listed sampleTaskLibrary (sampleLimits 1) none 0 (.ok ())
    sampleSubmissions
  have iff := lifecycle.scheduled.remembered_iff listed (restarted_adopted
    (tableLibrary_converts _ _) rfl lifecycle.scheduled listed sampleTaskLibrary_readsBack persisted
    4000 (.ok ()))
  intro remembered
  have kept := iff.mp remembered 0 (by decide) (by decide)
  revert kept
  decide

end PocoDDS.Monitoring
