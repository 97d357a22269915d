import PocoDDS.Monitoring.TaskLifecycle

/-! The transitions of management tasks along whole runs of their manager. -/

namespace PocoDDS.Monitoring

open AssocList JsonModel RunLogic

/-- The moves of a task's state; leaving the queue unstarted goes with a record of it. -/
inductive TaskState.Moves (recorded : Prop) : TaskState → TaskState → Prop
  | stays (state : TaskState) : Moves recorded state state
  | starts : Moves recorded .queued .running
  | cancelled (dropped : recorded) : Moves recorded .queued .cancelled
  | expires (dropped : recorded) : Moves recorded .queued .timedOut
  | succeeds : Moves recorded .running .succeeded
  | fails (error : TaskError) : Moves recorded .running error.state

theorem TaskState.Moves.terminal {recorded : Prop} {before after : TaskState}
    (moves : TaskState.Moves recorded before after) (ended : before.active = false) :
    after = before := by
  cases moves with
  | stays => rfl
  | starts => cases ended
  | cancelled => cases ended
  | expires => cases ended
  | succeeds => cases ended
  | fails => cases ended

/-- Every task a step finds moves along the transitions of its state. -/
structure Stepped (before after : TaskManager) : Prop where
  grows : before.allocated ≤ after.allocated
  moves : ∀ task < before.allocated, TaskState.Moves (task ∈ after.history.dropped)
    (before.objects task).state (after.objects task).state

section Transitions

variable {before middle after : TaskManager}

/-- A step that leaves the objects alone moves no task. -/
theorem stepped_still (allocated : after.allocated = before.allocated)
    (objects : after.objects = before.objects) : Stepped before after := by
  refine ⟨le_of_eq allocated.symm, ?_⟩
  intro task _
  rw [objects]
  exact .stays _

theorem Frame.stepped (frame : Frame before after) : Stepped before after := by
  refine ⟨le_of_eq frame.allocated.symm, ?_⟩
  intro task inside
  rw [(frame.objects task inside).state]
  exact .stays _

/-- What schedules nothing may come before a transition. -/
theorem Frame.stepped_trans (frame : Frame before middle) (stepped : Stepped middle after) :
    Stepped before after := by
  refine ⟨le_of_eq_of_le frame.allocated.symm stepped.grows, ?_⟩
  intro task inside
  have moves := stepped.moves task (by rw [frame.allocated]; exact inside)
  rwa [(frame.objects task inside).state] at moves

/-- What schedules nothing may follow a transition. -/
theorem Stepped.frame (stepped : Stepped before middle) (frame : Frame middle after) :
    Stepped before after := by
  refine ⟨le_of_le_of_eq stepped.grows frame.allocated.symm, ?_⟩
  intro task inside
  have moves := stepped.moves task inside
  rw [(frame.objects task (lt_of_lt_of_le inside stepped.grows)).state, frame.dropped]
  exact moves

theorem stepped_of_task {task : Nat} {changed : ManagementTask}
    (allocated : after.allocated = before.allocated)
    (objects : after.objects = Function.update before.objects task changed)
    (moves : TaskState.Moves (task ∈ after.history.dropped) (before.objects task).state
      changed.state) : Stepped before after := by
  refine ⟨le_of_eq allocated.symm, ?_⟩
  intro other _
  rw [objects]
  by_cases target : other = task
  · rw [target, Function.update_self]
    exact moves
  · rw [Function.update_of_ne target]
    exact .stays _

/-- A stretch of a step in which queued tasks are dropped and nothing else moves. -/
structure Dropping (before after : TaskManager) : Prop where
  allocated : after.allocated = before.allocated
  recorded : ∀ task ∈ before.history.dropped, task ∈ after.history.dropped
  moves : ∀ task, (after.objects task).state = (before.objects task).state ∨
    (before.objects task).state = .queued ∧
      ((after.objects task).state = .cancelled ∨ (after.objects task).state = .timedOut) ∧
      task ∈ after.history.dropped

theorem Dropping.refl (manager : TaskManager) : Dropping manager manager :=
  ⟨rfl, fun _ member => member, fun _ => .inl rfl⟩

theorem Dropping.trans (early : Dropping before middle) (late : Dropping middle after) :
    Dropping before after := by
  refine ⟨late.allocated.trans early.allocated,
    fun task member => late.recorded task (early.recorded task member), ?_⟩
  intro task
  rcases early.moves task with same | ⟨queued, ended, dropped⟩
  · rw [← same]
    exact late.moves task
  · -- A dropped task is not queued any more, so the rest leaves it alone.
    rcases late.moves task with same | ⟨again, -⟩
    · rw [same]
      exact .inr ⟨queued, ended, late.recorded task dropped⟩
    · rw [again] at ended
      rcases ended with wrong | wrong <;> cases wrong

theorem Dropping.stepped (dropping : Dropping before after) : Stepped before after := by
  refine ⟨le_of_eq dropping.allocated.symm, ?_⟩
  intro task _
  rcases dropping.moves task with same | ⟨queued, cancelled | late, dropped⟩
  · rw [same]
    exact .stays _
  · rw [queued, cancelled]
    exact .cancelled dropped
  · rw [queued, late]
    exact .expires dropped

theorem dropping_task {task : Nat} {changed : ManagementTask}
    (queued : (before.objects task).state = .queued)
    (ended : changed.state = .cancelled ∨ changed.state = .timedOut)
    (allocated : after.allocated = before.allocated)
    (objects : after.objects = Function.update before.objects task changed)
    (recorded : after.history.dropped = task :: before.history.dropped) :
    Dropping before after := by
  refine ⟨allocated, ?_, ?_⟩
  · intro other member
    rw [recorded]
    exact List.mem_cons_of_mem _ member
  · intro other
    rw [objects]
    by_cases target : other = task
    · rw [target, Function.update_self, recorded]
      exact .inr ⟨queued, ended, List.mem_cons_self⟩
    · rw [Function.update_of_ne target]
      exact .inl rfl

end Transitions

theorem dropping_scan (now : Int) (files : Except String Unit) (ids : List String)
    (manager : TaskManager) :
    Dropping manager (TaskManager.scan now files manager ids).manager ∧
      ∀ task, (TaskManager.scan now files manager ids).picked = some task →
        ((TaskManager.scan now files manager ids).manager.objects task).state = .queued := by
  induction ids generalizing manager with
  | nil =>
    refine ⟨Dropping.refl manager, ?_⟩
    intro task picked
    cases picked
  | cons id rest ih =>
    unfold TaskManager.scan
    split
    · exact ih manager
    · next task listed =>
      split_ifs with elsewhere late eligible
      · exact ih manager
      · -- The expired task is dropped before the rest of the queue is looked at.
        obtain ⟨message, shape⟩ := persistLockedNoThrow_shape
          { manager.modify task (ManagementTask.missStart now) with
            history := { manager.history with dropped := task :: manager.history.dropped } } files
        rw [shape]
        obtain ⟨following, picked⟩ := ih { manager.modify task (ManagementTask.missStart now) with
          history := { manager.history with dropped := task :: manager.history.dropped }
          lastPersistenceError := message }
        refine ⟨Dropping.trans ?_ following, picked⟩
        exact dropping_task (not_not.mp elsewhere) (.inr rfl) rfl rfl rfl
      · refine ⟨Dropping.refl manager, ?_⟩
        intro other picked
        obtain rfl := Option.some.inj picked
        exact not_not.mp elsewhere
      · exact ih manager

theorem dropping_stopQueue (now : Int) (ids : List String) (manager : TaskManager)
    (lifecycle : Lifecycle { manager with queue := ids }) :
    Dropping manager (manager.stopQueue now ids) := by
  induction ids generalizing manager with
  | nil => exact Dropping.refl manager
  | cons id rest ih =>
    obtain ⟨task, listed, queued⟩ := (lifecycle.scheduled.queued id).mp List.mem_cons_self
    simp only at listed queued
    obtain ⟨nodup, left⟩ := @mem_without [] rest id lifecycle.scheduled.queueNodup
    have dropped := lifecycle.dropTask listed queued
      (show SameSchedule (manager.objects task) ((manager.objects task).stopQueued now) from
        ⟨rfl, rfl, rfl⟩) rfl nodup left manager.lastPersistenceError
    simp only [TaskManager.stopQueue, List.foldl_cons, listed]
    refine Dropping.trans ?_ (ih _ dropped)
    exact dropping_task queued (.inl rfl) rfl rfl rfl

/-- A look at the queue drops what expired and starts at most one task. -/
theorem stepped_scanStep (manager : TaskManager) (index : Nat) (input : WorkerInput) :
    Stepped manager (manager.scanStep index input) := by
  unfold TaskManager.scanStep
  split
  · split
    · exact stepped_still rfl rfl
    · exact stepped_still rfl rfl
  · obtain ⟨dropping, eligible⟩ := dropping_scan input.now input.files manager.queue
      (manager.read input.now)
    generalize TaskManager.scan input.now input.files (manager.read input.now) manager.queue =
      scanned at dropping eligible
    dsimp only
    split
    · next task picked =>
      refine Stepped.frame ?_ (frame_persistNoThrow _ _)
      refine ⟨dropping.stepped.grows, ?_⟩
      intro other inside
      show TaskState.Moves (other ∈ scanned.manager.history.dropped) _ (Function.update
        scanned.manager.objects task _ other).state
      by_cases target : other = task
      · -- Still queued after the look, so it was queued before it.
        rw [target, Function.update_self]
        rcases dropping.moves task with same | ⟨-, ended, -⟩
        · rw [eligible task picked] at same
          rw [show (manager.objects task).state = .queued from same.symm]
          exact .starts
        · rw [eligible task picked] at ended
          rcases ended with wrong | wrong <;> cases wrong
      · rw [Function.update_of_ne target]
        exact dropping.stepped.moves other inside
    · obtain ⟨grows, moves⟩ := dropping.stepped
      split
      · exact ⟨grows, moves⟩
      · exact ⟨grows, moves⟩

theorem stepped_acquireTurn (manager : TaskManager) (index task : Nat) (now later : Int)
    (files : Except String Unit) :
    Stepped manager (manager.acquireTurn index task now later files) := by
  unfold TaskManager.acquireTurn
  dsimp only
  split
  · exact stepped_of_task rfl rfl (.stays _)
  · split
    · exact stepped_of_task rfl rfl (.stays _)
    · split
      · refine Stepped.frame ?_ (frame_persistNoThrow _ _)
        exact stepped_of_task rfl rfl (.stays _)
      · exact stepped_of_task rfl rfl (.stays _)

/-- A worker ends a task only from the running state. -/
theorem Lifecycle.stepped_workerStep {manager : TaskManager} (lifecycle : Lifecycle manager)
    (index : Nat) (input : WorkerInput) : Stepped manager (manager.workerStep index input) := by
  have running : ∀ {worker task}, manager.workers[index]? = some worker →
      worker.task? = some task → worker.running = true →
      (manager.objects task).state = .running := by
    intro worker task found carries runs
    have facts := (lifecycle.scheduled.carried worker (List.mem_of_getElem? found) task carries).2
    rwa [if_pos runs] at facts
  unfold TaskManager.workerStep
  split
  · exact stepped_still rfl rfl
  · exact stepped_scanStep manager index input
  · exact stepped_still rfl rfl
  · split <;> exact stepped_still rfl rfl
  · next task found =>
    have entered := (frame_read manager input.now).trans
      (frame_enterAcquire _ task input.now input.files)
    exact entered.stepped_trans (stepped_acquireTurn _ _ _ _ _ _)
  · exact (frame_read manager input.now).stepped_trans (stepped_acquireTurn _ _ _ _ _ _)
  · split <;> exact stepped_still rfl rfl
  · split <;> exact stepped_still rfl rfl
  · split <;> exact stepped_still rfl rfl
  · next task result found =>
    have moves : TaskState.Moves (task ∈ manager.history.dropped) (manager.objects task).state
        .succeeded := by
      rw [running found rfl rfl]
      exact .succeeds
    exact stepped_of_task rfl rfl moves
  · next task acquired error found =>
    have moves : TaskState.Moves (task ∈ manager.history.dropped) (manager.objects task).state
        error.state := by
      rw [running found rfl rfl]
      exact .fails error
    exact stepped_of_task rfl rfl moves
  · next task acquired found =>
    unfold TaskManager.releaseResource
    dsimp only
    split
    · exact stepped_still rfl rfl
    · exact stepped_still rfl rfl
  · next task found =>
    -- The last changes of a finished task leave its state alone.
    refine Stepped.frame ?_ ((frame_prune _).trans (frame_persistNoThrow _ _))
    exact stepped_of_task rfl rfl (.stays _)

theorem stepped_submit {manager : TaskManager} (lifecycle : Lifecycle manager)
    (request : TaskRequest) (now : Int) (files : Except String Unit) :
    Stepped manager (manager.submit request now files).2 := by
  unfold TaskManager.submit
  split_ifs
  · exact (Frame.refl manager).stepped
  · exact (Frame.refl manager).stepped
  · -- The new task has a handle of its own.
    have enqueued : Stepped manager (manager.enqueue (request.task now manager.sequence)) := by
      refine ⟨Nat.le_succ _, ?_⟩
      intro task inside
      show TaskState.Moves _ _ (Function.update manager.objects manager.allocated _ task).state
      rw [Function.update_of_ne (Nat.ne_of_lt inside)]
      exact .stays _
    dsimp only
    split
    · next persisted done =>
      obtain ⟨message, shape⟩ := persistLocked_shape done
      rw [shape]
      exact enqueued.frame ((frame_prune _).trans { Frame.refl _ with })
    · exact (lifecycle.scheduled.frame_withdraw rfl).stepped

theorem stepped_cancel (manager : TaskManager) (id : String) (now : Int)
    (files : Except String Unit) : Stepped manager (manager.cancel id now files).2 := by
  unfold TaskManager.cancel
  split
  · exact (Frame.refl manager).stepped
  · next task listed =>
    dsimp only
    split
    · next queued =>
      refine Stepped.frame (Dropping.stepped ?_) (frame_persistNoThrow _ _)
      exact dropping_task queued (.inl rfl) rfl rfl rfl
    · refine Stepped.frame ?_ (frame_persistNoThrow _ _)
      exact stepped_of_task rfl rfl (.stays _)
    · exact (frame_persistNoThrow manager files).stepped

theorem stepped_stop {manager : TaskManager} (lifecycle : Lifecycle manager) (now : Int)
    (files : Except String Unit) : Stepped manager (manager.stop now files) := by
  unfold TaskManager.stop
  split
  · exact stepped_still rfl rfl
  · have stopping : Lifecycle { manager with stopping := true } :=
      lifecycle.frame { Frame.refl manager with }
    have dropping := dropping_stopQueue now manager.queue { manager with stopping := true } stopping
    obtain ⟨grows, moves⟩ := dropping.stepped.frame (frame_stopRunning manager.tasks _)
    have emptied : Stepped manager { ({ manager with stopping := true }.stopQueue now
        manager.queue).stopRunning manager.tasks with queue := [] } := ⟨grows, moves⟩
    exact emptied.frame (frame_persistNoThrow _ _)

/-- Every event moves every task along the transitions of its state. -/
theorem Lifecycle.stepped {manager : TaskManager} (lifecycle : Lifecycle manager)
    (event : TaskEvent) : Stepped manager (manager.step event) := by
  have read : ∀ now, Lifecycle (manager.read now) :=
    fun now => lifecycle.frame (frame_read manager now)
  cases event with
  | submit request now files =>
    exact (frame_read manager now).stepped_trans (stepped_submit (read now) _ _ _)
  | cancel id now files => exact (frame_read manager now).stepped_trans (stepped_cancel _ _ _ _)
  | stop now files => exact (frame_read manager now).stepped_trans (stepped_stop (read now) _ _)
  | worker index input => exact lifecycle.stepped_workerStep index input
  | joined =>
    simp only [TaskManager.step, TaskManager.joined]
    split
    · exact stepped_still rfl rfl
    · exact (Frame.refl manager).stepped
  | rehash entries =>
    simp only [TaskManager.step]
    split
    · exact stepped_still rfl rfl
    · exact (Frame.refl manager).stepped

theorem terminal_lasts {manager : TaskManager} {events : List TaskEvent}
    (run : Along TaskManager.step (fun manager event => Stepped manager (manager.step event))
      manager events) {task : Nat} (inside : task < manager.allocated)
    (ended : (manager.objects task).state.active = false) :
    ((events.foldl TaskManager.step manager).objects task).state =
      (manager.objects task).state := by
  induction events generalizing manager with
  | nil => rfl
  | cons event rest ih =>
    obtain ⟨stepped, following⟩ := run
    have same := (stepped.moves task inside).terminal ended
    -- The task still has its handle after the step, and its state is still terminal.
    have later := ih following (lt_of_lt_of_le inside stepped.grows) (by rw [same]; exact ended)
    exact later.trans same

/-- What every reachable manager promises about its queue, its capacity and its calls. -/
structure Orderly (manager : TaskManager) : Prop where
  /-- A task's function is called at most once. -/
  calledOnce : (manager.history.calls.map Prod.fst).Nodup
  /-- It is called for no task that was cancelled or timed out in the queue. -/
  undropped : ∀ call ∈ manager.history.calls, call.1 ∉ manager.history.dropped
  /-- Whenever a task is picked, the clock that decided it stands in the task's start window. -/
  window : ∀ pick ∈ manager.history.picks,
    (manager.objects pick.1).notBeforeMicroseconds ≤ pick.2 ∧
      pick.2 ≤ (manager.objects pick.1).startDeadlineMicroseconds
  /-- Every call follows a pick, and comes no earlier while the clock does not run back. -/
  called : ∀ call ∈ manager.history.calls, (∃ reading, (call.1, reading) ∈ manager.history.picks) ∧
    (manager.history.readings.Pairwise (· ≥ ·) →
      (manager.objects call.1).notBeforeMicroseconds ≤ call.2)
  /-- The queue holds the ids of the queued tasks, each of them once. -/
  queueNodup : manager.queue.Nodup
  queued : ∀ id, id ∈ manager.queue ↔ ∃ task, manager.tasks.lookup id = some task ∧
    (manager.objects task).state = .queued
  /-- Every active task is in the table, and there are never more of them than allowed. -/
  retained : ∀ task < manager.allocated, (manager.objects task).state.active = true →
    manager.tasks.lookup (manager.objects task).id = some task
  bounded : manager.active ≤ manager.capacity

theorem Lifecycle.orderly {manager : TaskManager} (lifecycle : Lifecycle manager) :
    Orderly manager := by
  obtain ⟨scheduled, recorded⟩ := lifecycle
  refine ⟨recorded.calledOnce, ?_, ?_, ?_, scheduled.queueNodup, scheduled.queued,
    scheduled.mapped, scheduled.bounded⟩
  · intro call member dropped
    obtain ⟨reading, picked, -⟩ := recorded.called call member
    exact (recorded.dropped call.1 dropped).2.2 (List.mem_map.mpr ⟨_, picked, rfl⟩)
  · intro pick member
    obtain ⟨-, -, notBefore, deadline, -⟩ := recorded.picked pick member
    exact ⟨notBefore, deadline⟩
  · intro call member
    obtain ⟨reading, picked, ordered⟩ := recorded.called call member
    refine ⟨⟨reading, picked⟩, ?_⟩
    intro steady
    calc (manager.objects call.1).notBeforeMicroseconds
        ≤ reading := (recorded.picked _ picked).2.2.1
      _ ≤ call.2 := ordered steady

/-- The life of every task in every run, whatever the clock and the files do. -/
theorem task_lifecycle (library : JsonLibrary) (settings : TaskSettings) (current : Option String)
    (now : Int) (files : Except String Unit) (earlier later : List TaskEvent) :
    let start := TaskManager.start library settings current now files
    let before := earlier.foldl TaskManager.step start
    let after := later.foldl TaskManager.step before
    Along TaskManager.step (fun manager event => Stepped manager (manager.step event)) start
      (earlier ++ later) ∧
    (∀ task < before.allocated, (before.objects task).state.active = false →
      (after.objects task).state = (before.objects task).state) ∧
    Orderly after := by
  intro start before after
  have initial : Lifecycle start := (start_quiet library settings current now files).lifecycle
  have kept : ∀ manager event, Lifecycle manager → True → Lifecycle (manager.step event) :=
    fun manager event lifecycle _ => lifecycle.step event
  have steps : ∀ manager event, Lifecycle manager → True →
      Stepped manager (TaskManager.step manager event) :=
    fun manager event lifecycle _ => lifecycle.stepped event
  have middle : Lifecycle before := Along.invariant kept initial (Along.free start earlier)
  refine ⟨Along.of_invariant kept steps initial (Along.free _ _), ?_, ?_⟩
  · intro task inside ended
    exact terminal_lasts (Along.of_invariant kept steps middle (Along.free _ _)) inside ended
  · exact (Along.invariant kept middle (Along.free _ _)).orderly

end PocoDDS.Monitoring
