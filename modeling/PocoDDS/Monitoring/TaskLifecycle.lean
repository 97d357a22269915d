import PocoDDS.Monitoring.TaskManager

/-! The life of a management task: the order of its states, and when its function is called. -/

namespace PocoDDS.Monitoring

open AssocList JsonModel RunLogic

/-- A worker whose task has not reached a terminal state. -/
def Worker.running : Worker → Bool
  | .scanning => false
  | .exited => false
  | .releasing _ _ => false
  | .finishing _ => false
  | _ => true

/-- A worker that carries a task whose function it has not called yet. -/
def Worker.uncalled : Worker → Bool
  | .picked _ => true
  | .entering _ => true
  | .waiting _ => true
  | .owning _ => true
  | _ => false

/-- A task that is queued or running, or that a worker still carries. -/
def TaskManager.Live (manager : TaskManager) (task : Nat) : Prop :=
  (manager.objects task).state.active = true ∨
    ∃ worker ∈ manager.workers, worker.task? = some task

/-- No two workers carry the same task. -/
def CarriedOnce (workers : List Worker) : Prop :=
  ∀ (first second : Nat) (left right : Worker) (task : Nat),
    workers[first]? = some left → workers[second]? = some right →
    left.task? = some task → right.task? = some task → first = second

/-- The table, the queue and the workers agree about every task. -/
structure Scheduled (manager : TaskManager) : Prop where
  distinct : (keys manager.tasks).Nodup
  named : ∀ id task, manager.tasks.lookup id = some task →
    task < manager.allocated ∧ (manager.objects task).id = id
  mapped : ∀ task < manager.allocated, (manager.objects task).state.active = true →
    manager.tasks.lookup (manager.objects task).id = some task
  queueNodup : manager.queue.Nodup
  queued : ∀ id, id ∈ manager.queue ↔ ∃ task, manager.tasks.lookup id = some task ∧
    (manager.objects task).state = .queued
  carriedOnce : CarriedOnce manager.workers
  carried : ∀ worker ∈ manager.workers, ∀ task, worker.task? = some task →
    task < manager.allocated ∧
    if worker.running then (manager.objects task).state = .running
    else (manager.objects task).state.active = false
  minted : ∀ task < manager.allocated, manager.Live task →
    ∃ time sequence, (manager.objects task).id = taskId time sequence ∧
      sequence < manager.sequence
  unique : ∀ task < manager.allocated, ∀ other < manager.allocated, manager.Live task →
    manager.Live other → (manager.objects task).id = (manager.objects other).id → task = other
  bounded : manager.active ≤ manager.capacity

/-- What the history says about picks, calls and drops. -/
structure Recorded (manager : TaskManager) : Prop where
  picked : ∀ pick ∈ manager.history.picks, pick.1 < manager.allocated ∧
    (manager.objects pick.1).state ≠ .queued ∧
    (manager.objects pick.1).notBeforeMicroseconds ≤ pick.2 ∧
    pick.2 ≤ (manager.objects pick.1).startDeadlineMicroseconds ∧
    pick.2 ∈ manager.history.readings
  carried : ∀ worker ∈ manager.workers, ∀ task, worker.task? = some task →
    ∃ reading, (task, reading) ∈ manager.history.picks
  called : ∀ call ∈ manager.history.calls, ∃ reading, (call.1, reading) ∈ manager.history.picks ∧
    (manager.history.readings.Pairwise (· ≥ ·) → reading ≤ call.2)
  calledOnce : (manager.history.calls.map Prod.fst).Nodup
  uncalled : ∀ worker ∈ manager.workers, ∀ task, worker.task? = some task →
    worker.uncalled = true → task ∉ manager.history.calls.map Prod.fst
  dropped : ∀ task ∈ manager.history.dropped, task < manager.allocated ∧
    (manager.objects task).state.active = false ∧ task ∉ manager.history.picks.map Prod.fst

/-- The invariant of the manager. -/
structure Lifecycle (manager : TaskManager) : Prop where
  scheduled : Scheduled manager
  recorded : Recorded manager

/-- The fields of a task that a step may leave alone while it changes others. -/
structure SameTask (before after : ManagementTask) : Prop where
  id : after.id = before.id
  resourceKey : after.resourceKey = before.resourceKey
  state : after.state = before.state
  notBefore : after.notBeforeMicroseconds = before.notBeforeMicroseconds
  startDeadline : after.startDeadlineMicroseconds = before.startDeadlineMicroseconds

theorem SameTask.refl (task : ManagementTask) : SameTask task task :=
  ⟨rfl, rfl, rfl, rfl, rfl⟩

/-- A step that schedules nothing: at most inactive tasks leave the table. -/
structure Frame (before after : TaskManager) : Prop where
  allocated : after.allocated = before.allocated
  objects : ∀ task < before.allocated, SameTask (before.objects task) (after.objects task)
  tasks : after.tasks.Subperm before.tasks
  kept : ∀ id task, before.tasks.lookup id = some task → task < before.allocated →
    (before.objects task).state.active = true → after.tasks.lookup id = some task
  queue : after.queue = before.queue
  workers : after.workers = before.workers
  capacity : after.capacity = before.capacity
  sequence : before.sequence ≤ after.sequence
  picks : after.history.picks = before.history.picks
  calls : after.history.calls = before.history.calls
  dropped : after.history.dropped = before.history.dropped
  readings : ∃ more, after.history.readings = more ++ before.history.readings

theorem Frame.refl (manager : TaskManager) : Frame manager manager where
  allocated := rfl
  objects := fun _ _ => SameTask.refl _
  tasks := List.Subperm.refl _
  kept := fun _ _ found _ _ => found
  queue := rfl
  workers := rfl
  capacity := rfl
  sequence := Nat.le_refl _
  picks := rfl
  calls := rfl
  dropped := rfl
  readings := ⟨[], rfl⟩

theorem active_le {before after : TaskManager} (fewer : after.tasks.Subperm before.tasks)
    (inactive : ∀ entry ∈ after.tasks, (after.objects entry.2).state.active = true →
      (before.objects entry.2).state.active = true) : after.active ≤ before.active := by
  simp only [TaskManager.active, ← List.countP_eq_length_filter]
  calc after.tasks.countP (fun entry => (after.objects entry.2).state.active)
      ≤ after.tasks.countP (fun entry => (before.objects entry.2).state.active) :=
        List.countP_mono_left inactive
    _ ≤ before.tasks.countP (fun entry => (before.objects entry.2).state.active) :=
        fewer.countP_le _

section Frames

variable {before after : TaskManager}

theorem Frame.live (frame : Frame before after) {task : Nat} (inside : task < before.allocated)
    (live : after.Live task) : before.Live task := by
  rcases live with active | ⟨worker, member, carries⟩
  · rw [(frame.objects task inside).state] at active
    exact .inl active
  · rw [frame.workers] at member
    exact .inr ⟨worker, member, carries⟩

/-- Scheduling survives a step that schedules nothing. -/
theorem Scheduled.frame (scheduled : Scheduled before) (frame : Frame before after) :
    Scheduled after := by
  have found : ∀ {id task}, after.tasks.lookup id = some task →
      before.tasks.lookup id = some task :=
    fun listed => lookup_of_subperm scheduled.distinct frame.tasks listed
  have same : ∀ {task}, task < before.allocated →
      SameTask (before.objects task) (after.objects task) := fun inside => frame.objects _ inside
  refine ⟨nodup_keys_subperm scheduled.distinct frame.tasks, ?_, ?_, ?_, ?_, ?_, ?_, ?_, ?_, ?_⟩
  · intro id task listed
    obtain ⟨inside, named⟩ := scheduled.named id task (found listed)
    exact ⟨by rw [frame.allocated]; exact inside, by rw [(same inside).id]; exact named⟩
  · intro task inside active
    rw [frame.allocated] at inside
    rw [(same inside).state] at active
    rw [(same inside).id]
    exact frame.kept _ _ (scheduled.mapped task inside active) inside active
  · rw [frame.queue]
    exact scheduled.queueNodup
  · intro id
    rw [frame.queue, scheduled.queued id]
    constructor
    · intro ⟨task, listed, queued⟩
      have inside := (scheduled.named id task listed).1
      refine ⟨task, frame.kept id task listed inside (by rw [queued]; rfl), ?_⟩
      rw [(same inside).state]
      exact queued
    · intro ⟨task, listed, queued⟩
      have inside := (scheduled.named id task (found listed)).1
      rw [(same inside).state] at queued
      exact ⟨task, found listed, queued⟩
  · rw [frame.workers]
    exact scheduled.carriedOnce
  · intro worker member task carries
    rw [frame.workers] at member
    obtain ⟨inside, state⟩ := scheduled.carried worker member task carries
    rw [frame.allocated, (same inside).state]
    exact ⟨inside, state⟩
  · intro task inside live
    rw [frame.allocated] at inside
    obtain ⟨time, sequence, named, below⟩ := scheduled.minted task inside (frame.live inside live)
    exact ⟨time, sequence, by rw [(same inside).id]; exact named,
      lt_of_lt_of_le below frame.sequence⟩
  · intro task inside other inside' live live' sameId
    rw [frame.allocated] at inside inside'
    rw [(same inside).id, (same inside').id] at sameId
    exact scheduled.unique task inside other inside' (frame.live inside live)
      (frame.live inside' live') sameId
  · rw [frame.capacity]
    refine le_trans (active_le frame.tasks ?_) scheduled.bounded
    intro entry member active
    have listed := (lookup_eq_some_iff scheduled.distinct).mpr
      (show (entry.1, entry.2) ∈ before.tasks from frame.tasks.subset member)
    rwa [(same (scheduled.named _ _ listed).1).state] at active

/-- The history stays true over a step that schedules nothing. -/
theorem Recorded.frame (recorded : Recorded before) (frame : Frame before after) :
    Recorded after := by
  obtain ⟨more, readings⟩ := frame.readings
  have suffix : before.history.readings <:+ after.history.readings := ⟨more, readings.symm⟩
  refine ⟨?_, ?_, ?_, ?_, ?_, ?_⟩
  · intro pick member
    rw [frame.picks] at member
    obtain ⟨inside, started, notBefore, deadline, read⟩ := recorded.picked pick member
    have same := frame.objects pick.1 inside
    rw [frame.allocated, same.state, same.notBefore, same.startDeadline]
    exact ⟨inside, started, notBefore, deadline, suffix.subset read⟩
  · intro worker member task carries
    rw [frame.workers] at member
    rw [frame.picks]
    exact recorded.carried worker member task carries
  · intro call member
    rw [frame.calls] at member
    obtain ⟨reading, picked, ordered⟩ := recorded.called call member
    rw [frame.picks]
    exact ⟨reading, picked, fun steady => ordered (steady.sublist suffix.sublist)⟩
  · rw [frame.calls]
    exact recorded.calledOnce
  · intro worker member task carries uncalled
    rw [frame.workers] at member
    rw [frame.calls]
    exact recorded.uncalled worker member task carries uncalled
  · intro task member
    rw [frame.dropped] at member
    obtain ⟨inside, inactive, unpicked⟩ := recorded.dropped task member
    rw [frame.allocated, (frame.objects task inside).state, frame.picks]
    exact ⟨inside, inactive, unpicked⟩

theorem Lifecycle.frame (lifecycle : Lifecycle before) (frame : Frame before after) :
    Lifecycle after :=
  ⟨lifecycle.scheduled.frame frame, lifecycle.recorded.frame frame⟩

end Frames

theorem Frame.trans {first second third : TaskManager} (early : Frame first second)
    (late : Frame second third) : Frame first third := by
  obtain ⟨more, readings⟩ := early.readings
  obtain ⟨extra, readings'⟩ := late.readings
  refine ⟨late.allocated.trans early.allocated, ?_, late.tasks.trans early.tasks, ?_,
    late.queue.trans early.queue, late.workers.trans early.workers,
    late.capacity.trans early.capacity, early.sequence.trans late.sequence,
    late.picks.trans early.picks, late.calls.trans early.calls,
    late.dropped.trans early.dropped, extra ++ more, by rw [readings', readings]; simp⟩
  · intro task inside
    have front := early.objects task inside
    have back := late.objects task (by rw [early.allocated]; exact inside)
    exact ⟨back.id.trans front.id, back.resourceKey.trans front.resourceKey,
      back.state.trans front.state, back.notBefore.trans front.notBefore,
      back.startDeadline.trans front.startDeadline⟩
  · intro id task listed inside active
    apply late.kept id task (early.kept id task listed inside active)
    · rw [early.allocated]
      exact inside
    · rw [(early.objects task inside).state]
      exact active

theorem persistLockedNoThrow_shape (manager : TaskManager) (files : Except String Unit) :
    ∃ message, manager.persistLockedNoThrow files =
      { manager with lastPersistenceError := message } := by
  unfold TaskManager.persistLockedNoThrow TaskManager.persistLocked
  split_ifs
  · exact ⟨manager.lastPersistenceError, rfl⟩
  · exact ⟨_, rfl⟩
  · cases files <;> exact ⟨_, rfl⟩

theorem persistLocked_shape {manager persisted : TaskManager} {files : Except String Unit}
    (done : manager.persistLocked files = .ok persisted) :
    ∃ message, persisted = { manager with lastPersistenceError := message } := by
  unfold TaskManager.persistLocked at done
  split_ifs at done
  · cases done
    exact ⟨manager.lastPersistenceError, rfl⟩
  · cases files with
    | error message => cases done
    | ok => cases done; exact ⟨"", rfl⟩

variable (manager : TaskManager)
include manager

theorem frame_persistNoThrow (files : Except String Unit) :
    Frame manager (manager.persistLockedNoThrow files) := by
  obtain ⟨message, shape⟩ := persistLockedNoThrow_shape manager files
  rw [shape]
  exact { Frame.refl manager with }

theorem frame_read (now : Int) : Frame manager (manager.read now) :=
  { Frame.refl manager with readings := ⟨[now], rfl⟩ }

theorem frame_modify (task : Nat) (change : ManagementTask → ManagementTask)
    (same : SameTask (manager.objects task) (change (manager.objects task))) :
    Frame manager (manager.modify task change) := by
  refine { Frame.refl manager with objects := ?_ }
  intro other _
  by_cases target : other = task
  · subst target
    simpa [TaskManager.modify] using same
  · simpa [TaskManager.modify, Function.update_of_ne target] using SameTask.refl _

theorem frame_setWaiters (key : String) (ids : List String) :
    Frame manager (manager.setWaiters key ids) :=
  { Frame.refl manager with }

theorem frame_owners (owners : List (String × String)) :
    Frame manager { manager with resourceOwners := owners } :=
  { Frame.refl manager with }

theorem frame_arrivals (arrivals : List (String × String)) :
    Frame manager { manager with history := { manager.history with arrivals } } :=
  { Frame.refl manager with }

/-- One turn of pruning only removes a task that is not active. -/
theorem frame_pruneOnce : Frame manager manager.pruneOnce := by
  unfold TaskManager.pruneOnce
  split
  · exact Frame.refl manager
  · next id found =>
    refine { Frame.refl manager with tasks := List.filter_sublist.subperm, kept := ?_ }
    intro other task listed _ active
    have differs : other ≠ id := by
      intro same
      -- The loop only takes ids whose task is gone or inactive.
      have removable := List.find?_some found
      rw [← same] at removable
      simp [TaskManager.removable, listed, active] at removable
    rw [lookup_eraseKey_ne differs]
    exact listed

theorem frame_prune : Frame manager manager.pruneLocked := by
  unfold TaskManager.pruneLocked
  generalize manager.order.length - manager.retention = turns
  induction turns generalizing manager with
  | zero => exact Frame.refl manager
  | succ turns ih =>
    rw [Function.iterate_succ_apply]
    exact (frame_pruneOnce manager).trans (ih _)

omit manager

theorem getElem?_setWorker {workers : List Worker} {index place : Nat} {moved worker : Worker}
    (found : (workers.set index moved)[place]? = some worker) :
    (place = index ∧ worker = moved) ∨ (place ≠ index ∧ workers[place]? = some worker) := by
  rw [List.getElem?_set] at found
  split at found
  · next same =>
    split at found
    · exact .inl ⟨same.symm, (Option.some.inj found).symm⟩
    · cases found
  · next differs => exact .inr ⟨fun same => differs same.symm, found⟩

theorem CarriedOnce.set {workers : List Worker} (once : CarriedOnce workers) {index : Nat}
    {worker moved : Worker} (found : workers[index]? = some worker)
    (origin : ∀ task, moved.task? = some task → worker.task? = some task ∨
      ∀ other ∈ workers, other.task? ≠ some task) : CarriedOnce (workers.set index moved) := by
  intro first second left right task atFirst atSecond leftCarries rightCarries
  rcases getElem?_setWorker atFirst with ⟨rfl, rfl⟩ | ⟨-, oldLeft⟩ <;>
    rcases getElem?_setWorker atSecond with ⟨rfl, rfl⟩ | ⟨-, oldRight⟩
  · rfl
  · rcases origin task leftCarries with kept | free
    · exact once _ _ _ _ task found oldRight kept rightCarries
    · exact absurd rightCarries (free right (List.mem_of_getElem? oldRight))
  · rcases origin task rightCarries with kept | free
    · exact once _ _ _ _ task oldLeft found leftCarries kept
    · exact absurd leftCarries (free left (List.mem_of_getElem? oldLeft))
  · exact once _ _ _ _ task oldLeft oldRight leftCarries rightCarries

section Moves

variable {manager : TaskManager} {index : Nat} {worker moved : Worker}
variable {queue : List String}

theorem Lifecycle.setWorker (lifecycle : Lifecycle manager)
    (found : manager.workers[index]? = some worker) (moved : Worker)
    (moves : ∀ task, moved.task? = some task → worker.task? = some task ∧
      moved.running = worker.running ∧ (moved.uncalled = true → worker.uncalled = true)) :
    Lifecycle (manager.setWorker index moved) := by
  obtain ⟨scheduled, recorded⟩ := lifecycle
  have present : worker ∈ manager.workers := List.mem_of_getElem? found
  have live : ∀ {task}, (manager.setWorker index moved).Live task → manager.Live task := by
    intro task alive
    rcases alive with active | ⟨other, member, carries⟩
    · exact .inl active
    · rcases List.mem_or_eq_of_mem_set member with old | rfl
      · exact .inr ⟨other, old, carries⟩
      · exact .inr ⟨worker, present, (moves task carries).1⟩
  refine ⟨⟨scheduled.distinct, scheduled.named, scheduled.mapped, scheduled.queueNodup,
    scheduled.queued, ?_, ?_, ?_, ?_, scheduled.bounded⟩, ⟨recorded.picked, ?_, recorded.called,
    recorded.calledOnce, ?_, recorded.dropped⟩⟩
  · -- Whatever the moved worker carries, it carried before.
    exact scheduled.carriedOnce.set found fun task carries => .inl (moves task carries).1
  · intro other member task carries
    rcases List.mem_or_eq_of_mem_set member with old | rfl
    · exact scheduled.carried other old task carries
    · obtain ⟨carried, running, -⟩ := moves task carries
      have facts := scheduled.carried worker present task carried
      rw [← running] at facts
      exact facts
  · intro task inside alive
    exact scheduled.minted task inside (live alive)
  · intro task inside other inside' alive alive' same
    exact scheduled.unique task inside other inside' (live alive) (live alive') same
  · intro other member task carries
    rcases List.mem_or_eq_of_mem_set member with old | rfl
    · exact recorded.carried other old task carries
    · exact recorded.carried worker present task (moves task carries).1
  · intro other member task carries uncalled
    rcases List.mem_or_eq_of_mem_set member with old | rfl
    · exact recorded.uncalled other old task carries uncalled
    · obtain ⟨carried, -, weaker⟩ := moves task carries
      exact recorded.uncalled worker present task carried (weaker uncalled)

/-- The fields that identify a task and decide when it may start. -/
structure SameSchedule (before after : ManagementTask) : Prop where
  id : after.id = before.id
  notBefore : after.notBeforeMicroseconds = before.notBeforeMicroseconds
  startDeadline : after.startDeadlineMicroseconds = before.startDeadlineMicroseconds

/-- A step that starts or ends one active task: its object, the queue and the workers change. -/
theorem Scheduled.change (scheduled : Scheduled manager) {task : Nat}
    (inside : task < manager.allocated) (active : (manager.objects task).state.active = true)
    {changed : ManagementTask} (same : changed.id = (manager.objects task).id)
    (unqueued : changed.state ≠ .queued) {workers : List Worker} (queueNodup : queue.Nodup)
    (left : ∀ id, id ∈ queue ↔ id ∈ manager.queue ∧ id ≠ (manager.objects task).id)
    (once : CarriedOnce workers) (carried : ∀ worker ∈ workers, ∀ other, worker.task? = some other →
      (other = task ∧ if worker.running then changed.state = .running
        else changed.state.active = false) ∨
      (other ≠ task ∧ ∃ old ∈ manager.workers, old.task? = some other ∧
        old.running = worker.running)) (history : TaskHistory) (message : String) :
    Scheduled { manager with
      objects := Function.update manager.objects task changed
      queue
      workers
      history
      lastPersistenceError := message } := by
  -- Only the changed task has another state, and no task has another id.
  have sameId : ∀ other, (Function.update manager.objects task changed other).id =
      (manager.objects other).id := by
    intro other
    by_cases target : other = task
    · rw [target, Function.update_self, same]
    · rw [Function.update_of_ne target]
  have activeBefore : ∀ {other}, (Function.update manager.objects task changed
      other).state.active = true → (manager.objects other).state.active = true := by
    intro other alive
    by_cases target : other = task
    · rw [target]
      exact active
    · rwa [Function.update_of_ne target] at alive
  have live : ∀ {other}, ((Function.update manager.objects task changed
      other).state.active = true ∨ ∃ worker ∈ workers, worker.task? = some other) →
      manager.Live other := by
    intro other alive
    rcases alive with alive | ⟨worker, member, carries⟩
    · exact .inl (activeBefore alive)
    · rcases carried worker member other carries with ⟨rfl, -⟩ | ⟨-, old, listed, before, -⟩
      · exact .inl active
      · exact .inr ⟨old, listed, before⟩
  refine ⟨scheduled.distinct, ?_, ?_, queueNodup, ?_, once, ?_, ?_, ?_, ?_⟩
  · intro id other listed
    obtain ⟨below, named⟩ := scheduled.named id other listed
    exact ⟨below, (sameId other).trans named⟩
  · intro other below alive
    show manager.tasks.lookup (Function.update manager.objects task changed other).id = _
    rw [sameId]
    exact scheduled.mapped other below (activeBefore alive)
  · intro id
    show id ∈ queue ↔ ∃ other, manager.tasks.lookup id = some other ∧
      (Function.update manager.objects task changed other).state = .queued
    rw [left, scheduled.queued id]
    constructor
    · intro ⟨⟨other, listed, queued⟩, differs⟩
      have elsewhere : other ≠ task := by
        intro target
        rw [target] at listed
        exact differs (scheduled.named id task listed).2.symm
      exact ⟨other, listed, by rw [Function.update_of_ne elsewhere]; exact queued⟩
    · intro ⟨other, listed, queued⟩
      have elsewhere : other ≠ task := by
        intro target
        rw [target, Function.update_self] at queued
        exact unqueued queued
      rw [Function.update_of_ne elsewhere] at queued
      refine ⟨⟨other, listed, queued⟩, ?_⟩
      intro target
      rw [target, scheduled.mapped task inside active] at listed
      exact elsewhere (Option.some.inj listed).symm
  · intro worker member other carries
    show other < manager.allocated ∧ if worker.running then
      (Function.update manager.objects task changed other).state = .running
      else (Function.update manager.objects task changed other).state.active = false
    rcases carried worker member other carries with ⟨rfl, state⟩ | ⟨differs, old, listed, before, run⟩
    · rw [Function.update_self]
      exact ⟨inside, state⟩
    · rw [Function.update_of_ne differs, ← run]
      exact scheduled.carried old listed other before
  · intro other below alive
    obtain ⟨time, sequence, named, bounded⟩ := scheduled.minted other below (live alive)
    exact ⟨time, sequence, (sameId other).trans named, bounded⟩
  · intro other below third below' alive alive' equal
    exact scheduled.unique other below third below' (live alive) (live alive')
      ((sameId other).symm.trans (equal.trans (sameId third)))
  · exact le_trans (@active_le manager _ (List.Subperm.refl _)
      fun entry _ alive => activeBefore alive) scheduled.bounded

/-- The history of a step that starts or ends one active task. -/
theorem Recorded.change (recorded : Recorded manager) {task : Nat}
    (inside : task < manager.allocated) (active : (manager.objects task).state.active = true)
    {changed : ManagementTask} (same : SameSchedule (manager.objects task) changed)
    (unqueued : changed.state ≠ .queued) {workers : List Worker} {history : TaskHistory}
    {message : String} (picks : history.picks = manager.history.picks ∨ ∃ reading,
      history.picks = (task, reading) :: manager.history.picks ∧
      (manager.objects task).notBeforeMicroseconds ≤ reading ∧
      reading ≤ (manager.objects task).startDeadlineMicroseconds ∧ reading ∈ history.readings)
    (calls : history.calls = manager.history.calls)
    (dropped : history.dropped = manager.history.dropped ∨
      (history.dropped = task :: manager.history.dropped ∧ changed.state.active = false ∧
        (manager.objects task).state = .queued ∧ history.picks = manager.history.picks))
    (readings : manager.history.readings <:+ history.readings)
    (carried : ∀ worker ∈ workers, ∀ other, worker.task? = some other →
      ∃ reading, (other, reading) ∈ history.picks)
    (uncalled : ∀ worker ∈ workers, ∀ other, worker.task? = some other →
      worker.uncalled = true → other ∉ manager.history.calls.map Prod.fst) :
    Recorded { manager with
      objects := Function.update manager.objects task changed
      queue
      workers
      history
      lastPersistenceError := message } := by
  have grown : ∀ pick ∈ manager.history.picks, pick ∈ history.picks := by
    intro pick member
    rcases picks with kept | ⟨reading, added, -⟩
    · rw [kept]
      exact member
    · rw [added]
      exact List.mem_cons_of_mem _ member
  refine ⟨?_, carried, ?_, ?_, ?_, ?_⟩
  · intro pick member
    show pick.1 < manager.allocated ∧
      (Function.update manager.objects task changed pick.1).state ≠ .queued ∧
      (Function.update manager.objects task changed pick.1).notBeforeMicroseconds ≤ pick.2 ∧
      pick.2 ≤ (Function.update manager.objects task changed pick.1).startDeadlineMicroseconds ∧
      pick.2 ∈ history.readings
    -- The new pick is about the changed task; an old one stays true of its task.
    have facts : pick.1 < manager.allocated ∧ (pick.1 ≠ task →
        (manager.objects pick.1).state ≠ .queued) ∧
        (manager.objects pick.1).notBeforeMicroseconds ≤ pick.2 ∧
        pick.2 ≤ (manager.objects pick.1).startDeadlineMicroseconds ∧
        pick.2 ∈ history.readings := by
      have old : ∀ pick ∈ manager.history.picks, pick.1 < manager.allocated ∧
          (pick.1 ≠ task → (manager.objects pick.1).state ≠ .queued) ∧
          (manager.objects pick.1).notBeforeMicroseconds ≤ pick.2 ∧
          pick.2 ≤ (manager.objects pick.1).startDeadlineMicroseconds ∧
          pick.2 ∈ history.readings := by
        intro pick member
        obtain ⟨below, started, notBefore, deadline, read⟩ := recorded.picked pick member
        exact ⟨below, fun _ => started, notBefore, deadline, readings.subset read⟩
      rcases picks with kept | ⟨reading, added, notBefore, deadline, read⟩
      · exact old pick (kept ▸ member)
      · rw [added] at member
        rcases List.mem_cons.mp member with rfl | earlier
        · exact ⟨inside, fun differs => absurd rfl differs, notBefore, deadline, read⟩
        · exact old pick earlier
    obtain ⟨below, started, notBefore, deadline, read⟩ := facts
    by_cases target : pick.1 = task
    · rw [target] at notBefore deadline
      rw [target, Function.update_self, same.notBefore, same.startDeadline]
      exact ⟨inside, unqueued, notBefore, deadline, read⟩
    · rw [Function.update_of_ne target]
      exact ⟨below, started target, notBefore, deadline, read⟩
  · intro call member
    rw [show ({ manager with
      objects := Function.update manager.objects task changed
      queue
      workers
      history
      lastPersistenceError := message } : TaskManager).history.calls = history.calls from rfl,
      calls] at member
    obtain ⟨reading, picked, ordered⟩ := recorded.called call member
    exact ⟨reading, grown _ picked, fun steady => ordered (steady.sublist readings.sublist)⟩
  · show (history.calls.map Prod.fst).Nodup
    rw [calls]
    exact recorded.calledOnce
  · intro worker member other carries waiting
    show other ∉ history.calls.map Prod.fst
    rw [calls]
    exact uncalled worker member other carries waiting
  · intro other member
    show other < manager.allocated ∧
      (Function.update manager.objects task changed other).state.active = false ∧
      other ∉ history.picks.map Prod.fst
    have old : ∀ other ∈ manager.history.dropped, other < manager.allocated ∧
        (Function.update manager.objects task changed other).state.active = false ∧
        other ∉ history.picks.map Prod.fst := by
      intro other listed
      obtain ⟨below, ended, unpicked⟩ := recorded.dropped other listed
      -- A dropped task is over, so it is not the active task that changes.
      have differs : other ≠ task := by
        intro target
        rw [target, active] at ended
        cases ended
      refine ⟨below, by rw [Function.update_of_ne differs]; exact ended, ?_⟩
      rcases picks with kept | ⟨reading, added, -⟩
      · rw [kept]
        exact unpicked
      · rw [added, List.map_cons, List.mem_cons]
        intro known
        rcases known with target | earlier
        · exact differs target
        · exact unpicked earlier
    rcases dropped with kept | ⟨added, ended, queued, unchanged⟩
    · exact old other (kept ▸ member)
    · rcases List.mem_cons.mp (added ▸ member) with rfl | earlier
      · refine ⟨inside, by rw [Function.update_self]; exact ended, ?_⟩
        rw [unchanged]
        intro picked
        obtain ⟨pick, listed, target⟩ := List.mem_map.mp picked
        have started := (recorded.picked pick listed).2.1
        rw [target] at started
        exact started queued
      · exact old other earlier

/-- A worker that ends its task keeps the invariant. -/
theorem Lifecycle.endTask (lifecycle : Lifecycle manager)
    (found : manager.workers[index]? = some worker) {task : Nat}
    (carries : worker.task? = some task) (running : worker.running = true)
    (change : ManagementTask → ManagementTask)
    (same : SameSchedule (manager.objects task) (change (manager.objects task)))
    (inactive : (change (manager.objects task)).state.active = false)
    (carried : moved.task? = some task) (idle : moved.running = false)
    (called : moved.uncalled = false) :
    Lifecycle ((manager.modify task change).setWorker index moved) := by
  obtain ⟨scheduled, recorded⟩ := lifecycle
  have present : worker ∈ manager.workers := List.mem_of_getElem? found
  obtain ⟨inside, state⟩ := scheduled.carried worker present task carries
  rw [if_pos running] at state
  have active : (manager.objects task).state.active = true := by
    rw [state]
    rfl
  have unqueued : (change (manager.objects task)).state ≠ .queued := by
    intro queued
    rw [queued] at inactive
    cases inactive
  have before : ∀ other, moved.task? = some other → worker.task? = some other := by
    intro other holds
    rw [carries, ← carried]
    exact holds
  refine ⟨scheduled.change inside active same.id unqueued scheduled.queueNodup ?_ ?_ ?_
      manager.history manager.lastPersistenceError,
    recorded.change inside active same unqueued (.inl rfl) rfl (.inl rfl) (List.suffix_refl _)
      ?_ ?_⟩
  · -- A running task is not in the queue.
    intro id
    refine ⟨fun listed => ⟨listed, ?_⟩, fun both => both.1⟩
    intro target
    obtain ⟨other, found, queued⟩ := (scheduled.queued id).mp listed
    rw [target, scheduled.mapped task inside active] at found
    rw [← Option.some.inj found, state] at queued
    cases queued
  · exact scheduled.carriedOnce.set found fun other holds => .inl (before other holds)
  · intro carrier member other holds
    obtain ⟨place, atPlace⟩ := List.mem_iff_getElem?.mp member
    rcases getElem?_setWorker atPlace with ⟨rfl, rfl⟩ | ⟨elsewhere, old⟩
    · rw [carried] at holds
      obtain rfl := Option.some.inj holds
      rw [idle]
      exact .inl ⟨rfl, inactive⟩
    · -- No other worker carries the ended task.
      have differs : other ≠ task := by
        intro target
        subst target
        exact elsewhere (scheduled.carriedOnce _ _ _ _ other old found holds carries)
      exact .inr ⟨differs, carrier, List.mem_of_getElem? old, holds, rfl⟩
  · intro carrier member other holds
    rcases List.mem_or_eq_of_mem_set member with old | rfl
    · exact recorded.carried carrier old other holds
    · exact recorded.carried worker present other (before other holds)
  · intro carrier member other holds uncalled
    rcases List.mem_or_eq_of_mem_set member with old | rfl
    · exact recorded.uncalled carrier old other holds uncalled
    · rw [called] at uncalled
      cases uncalled

theorem Scheduled.queued_free (scheduled : Scheduled manager) {task : Nat}
    (queued : (manager.objects task).state = .queued) :
    ∀ worker ∈ manager.workers, worker.task? ≠ some task := by
  intro worker member carries
  have state := (scheduled.carried worker member task carries).2
  rw [queued] at state
  split at state
  · cases state
  · cases state

theorem Lifecycle.dropTask (lifecycle : Lifecycle manager) {id : String} {task : Nat}
    (listed : manager.tasks.lookup id = some task) (queued : (manager.objects task).state = .queued)
    {changed : ManagementTask} (same : SameSchedule (manager.objects task) changed)
    (inactive : changed.state.active = false) (nodup : queue.Nodup)
    (left : ∀ other, other ∈ queue ↔ other ∈ manager.queue ∧ other ≠ id) (message : String) :
    Lifecycle { manager with
      objects := Function.update manager.objects task changed
      queue
      history := { manager.history with dropped := task :: manager.history.dropped }
      lastPersistenceError := message } := by
  obtain ⟨scheduled, recorded⟩ := lifecycle
  obtain ⟨inside, named⟩ := scheduled.named id task listed
  have active : (manager.objects task).state.active = true := by
    rw [queued]
    rfl
  have unqueued : changed.state ≠ .queued := by
    intro still
    rw [still] at inactive
    cases inactive
  have free := scheduled.queued_free queued
  refine ⟨scheduled.change inside active same.id unqueued nodup (by rw [named]; exact left)
    scheduled.carriedOnce ?_ _ message,
    recorded.change inside active same unqueued (.inl rfl) rfl (.inr ⟨rfl, inactive, queued, rfl⟩)
      (List.suffix_refl _) recorded.carried recorded.uncalled⟩
  intro worker member other carries
  refine .inr ⟨?_, worker, member, carries, rfl⟩
  intro target
  exact free worker member (target ▸ carries)

/-- A worker that picks an eligible task keeps the invariant. -/
theorem Lifecycle.pickTask (lifecycle : Lifecycle manager)
    (found : manager.workers[index]? = some worker) {id : String} {task : Nat}
    (listed : manager.tasks.lookup id = some task) (queued : (manager.objects task).state = .queued)
    {reading later : Int} (notBefore : (manager.objects task).notBeforeMicroseconds ≤ reading)
    (deadline : reading ≤ (manager.objects task).startDeadlineMicroseconds)
    (read : reading ∈ manager.history.readings) (nodup : queue.Nodup)
    (left : ∀ other, other ∈ queue ↔ other ∈ manager.queue ∧ other ≠ id) :
    Lifecycle { manager with
      objects := Function.update manager.objects task ((manager.objects task).begin later)
      queue
      workers := manager.workers.set index (.picked task)
      history := { manager.history with
        picks := (task, reading) :: manager.history.picks
        readings := later :: manager.history.readings } } := by
  obtain ⟨scheduled, recorded⟩ := lifecycle
  obtain ⟨inside, named⟩ := scheduled.named id task listed
  have active : (manager.objects task).state.active = true := by
    rw [queued]
    rfl
  have free := scheduled.queued_free queued
  have same : SameSchedule (manager.objects task) ((manager.objects task).begin later) :=
    ⟨rfl, rfl, rfl⟩
  have uncalled : task ∉ manager.history.calls.map Prod.fst := by
    intro called
    -- A called task was picked, and a picked task is not queued any more.
    obtain ⟨call, member, target⟩ := List.mem_map.mp called
    obtain ⟨pick, picked, -⟩ := recorded.called call member
    rw [target] at picked
    exact (recorded.picked _ picked).2.1 queued
  refine ⟨scheduled.change inside active same.id (by simp [ManagementTask.begin]) nodup
    (by rw [named]; exact left) ?_ ?_ _ manager.lastPersistenceError,
    recorded.change inside active same (by simp [ManagementTask.begin])
      (.inr ⟨reading, rfl, notBefore, deadline, List.mem_cons_of_mem _ read⟩) rfl (.inl rfl)
      (List.suffix_cons _ _) ?_ ?_⟩
  · apply scheduled.carriedOnce.set found
    intro other carries
    obtain rfl := Option.some.inj carries
    exact .inr free
  · intro carrier member other carries
    rcases List.mem_or_eq_of_mem_set member with old | rfl
    · refine .inr ⟨?_, carrier, old, carries, rfl⟩
      intro target
      exact free carrier old (target ▸ carries)
    · obtain rfl := Option.some.inj carries
      exact .inl ⟨rfl, rfl⟩
  · intro carrier member other carries
    rcases List.mem_or_eq_of_mem_set member with old | rfl
    · obtain ⟨earlier, picked⟩ := recorded.carried carrier old other carries
      exact ⟨earlier, List.mem_cons_of_mem _ picked⟩
    · obtain rfl := Option.some.inj carries
      exact ⟨reading, List.mem_cons_self⟩
  · intro carrier member other carries waiting
    rcases List.mem_or_eq_of_mem_set member with old | rfl
    · exact recorded.uncalled carrier old other carries waiting
    · obtain rfl := Option.some.inj carries
      exact uncalled

/-- A call of a task's function is recorded once. -/
theorem Lifecycle.callTask (lifecycle : Lifecycle manager) {task : Nat}
    (found : manager.workers[index]? = some (.owning task)) (now : Int) :
    Lifecycle { manager.setWorker index (.executing task) with
      history := { manager.history with
        calls := (task, now) :: manager.history.calls
        readings := now :: manager.history.readings } } := by
  have present := List.mem_of_getElem? found
  have moved := lifecycle.setWorker found (.executing task) (by
    intro other carries
    exact ⟨carries, rfl, fun waiting => absurd waiting (by simp [Worker.uncalled])⟩)
  obtain ⟨scheduled, recorded⟩ := lifecycle
  refine ⟨{ moved.scheduled with }, ?_⟩
  refine ⟨?_, moved.recorded.carried, ?_, ?_, ?_, moved.recorded.dropped⟩
  · intro pick member
    obtain ⟨inside, started, notBefore, deadline, read⟩ := recorded.picked pick member
    exact ⟨inside, started, notBefore, deadline, List.mem_cons_of_mem _ read⟩
  · intro call member
    rcases List.mem_cons.mp member with rfl | earlier
    · -- The pick was read earlier, so a clock that never goes back is past it now.
      obtain ⟨reading, picked⟩ := recorded.carried _ present task rfl
      refine ⟨reading, picked, ?_⟩
      intro steady
      exact (List.pairwise_cons.mp steady).1 reading (recorded.picked _ picked).2.2.2.2
    · obtain ⟨reading, picked, ordered⟩ := recorded.called call earlier
      exact ⟨reading, picked, fun steady => ordered (List.pairwise_cons.mp steady).2⟩
  · exact List.nodup_cons.mpr ⟨recorded.uncalled _ present task rfl rfl, recorded.calledOnce⟩
  · intro carrier member other carries waiting
    show other ∉ task :: manager.history.calls.map Prod.fst
    obtain ⟨place, atPlace⟩ := List.mem_iff_getElem?.mp member
    rcases getElem?_setWorker atPlace with ⟨-, rfl⟩ | ⟨elsewhere, old⟩
    · cases waiting
    · rw [List.mem_cons]
      intro known
      rcases known with target | earlier
      · subst target
        exact elsewhere (scheduled.carriedOnce _ _ _ _ other old found carries rfl)
      · exact recorded.uncalled carrier (List.mem_of_getElem? old) other carries waiting earlier

theorem Scheduled.fresh_id (scheduled : Scheduled manager) {task : Nat}
    (inside : task < manager.allocated) (live : manager.Live task) (now : Int) :
    (manager.objects task).id ≠ taskId now manager.sequence := by
  obtain ⟨time, sequence, named, below⟩ := scheduled.minted task inside live
  intro same
  have equal := taskId_sequence (named.symm.trans same)
  omega

theorem Scheduled.fresh_queue (scheduled : Scheduled manager) (now : Int) :
    taskId now manager.sequence ∉ manager.queue := by
  intro member
  obtain ⟨task, listed, queued⟩ := (scheduled.queued _).mp member
  obtain ⟨inside, named⟩ := scheduled.named _ task listed
  exact scheduled.fresh_id inside (.inl (by rw [queued]; rfl)) now named

/-- A submitted task joins the table and the queue under its new id. -/
theorem Scheduled.enqueue (scheduled : Scheduled manager) {task : ManagementTask} {now : Int}
    (named : task.id = taskId now manager.sequence) (queued : task.state = .queued)
    (room : manager.active < manager.capacity) : Scheduled (manager.enqueue task) := by
  -- The handles of older tasks are smaller, so their objects stay.
  have old : ∀ {other}, other < manager.allocated →
      (manager.enqueue task).objects other = manager.objects other := by
    intro other inside
    exact Function.update_of_ne (Nat.ne_of_lt inside) _ _
  have new : (manager.enqueue task).objects manager.allocated = task :=
    Function.update_self _ _ _
  have split : ∀ {other}, other < (manager.enqueue task).allocated →
      other < manager.allocated ∨ other = manager.allocated := by
    intro other inside
    exact Nat.lt_succ_iff_lt_or_eq.mp inside
  have live : ∀ {other}, other < manager.allocated → (manager.enqueue task).Live other →
      manager.Live other := by
    intro other inside alive
    rcases alive with active | carried
    · rw [old inside] at active
      exact .inl active
    · exact .inr carried
  have differs : ∀ {other}, other < manager.allocated → manager.Live other →
      (manager.objects other).id ≠ task.id := by
    intro other inside alive
    rw [named]
    exact scheduled.fresh_id inside alive now
  refine ⟨nodup_keys_assign scheduled.distinct _ _, ?_, ?_, ?_, ?_, scheduled.carriedOnce, ?_, ?_,
    ?_, ?_⟩
  · intro id other listed
    by_cases same : id = task.id
    · rw [same, show (manager.enqueue task).tasks = assign task.id manager.allocated
        manager.tasks from rfl, lookup_assign_self] at listed
      obtain rfl := Option.some.inj listed
      exact ⟨Nat.lt_succ_self _, by rw [new, same]⟩
    · rw [show (manager.enqueue task).tasks = assign task.id manager.allocated
        manager.tasks from rfl, lookup_assign_ne same] at listed
      obtain ⟨inside, known⟩ := scheduled.named id other listed
      exact ⟨Nat.lt_succ_of_lt inside, by rw [old inside]; exact known⟩
  · intro other inside active
    show (assign task.id manager.allocated manager.tasks).lookup _ = _
    rcases split inside with below | rfl
    · rw [old below] at active ⊢
      rw [lookup_assign_ne (differs below (.inl active))]
      exact scheduled.mapped other below active
    · rw [new, lookup_assign_self]
  · show (manager.queue ++ [task.id]).Nodup
    rw [named]
    exact List.Nodup.append scheduled.queueNodup (by simp)
      (by simpa using scheduled.fresh_queue now)
  · intro id
    show id ∈ manager.queue ++ [task.id] ↔ ∃ other,
      (assign task.id manager.allocated manager.tasks).lookup id = some other ∧ _
    by_cases same : id = task.id
    · simp only [same, List.mem_append, List.mem_singleton, or_true, lookup_assign_self, true_iff]
      exact ⟨_, rfl, by rw [new]; exact queued⟩
    · simp only [List.mem_append, List.mem_singleton, same, or_false, lookup_assign_ne same]
      rw [scheduled.queued id]
      apply exists_congr
      intro other
      apply and_congr_right
      intro listed
      rw [old (scheduled.named id other listed).1]
  · intro worker member other carries
    obtain ⟨inside, state⟩ := scheduled.carried worker member other carries
    rw [old inside]
    exact ⟨Nat.lt_succ_of_lt inside, state⟩
  · intro other inside alive
    rcases split inside with below | rfl
    · obtain ⟨time, sequence, known, bound⟩ := scheduled.minted other below (live below alive)
      exact ⟨time, sequence, by rw [old below]; exact known, Nat.lt_succ_of_lt bound⟩
    · exact ⟨now, manager.sequence, by rw [new]; exact named, Nat.lt_succ_self _⟩
  · intro other inside third inside' alive alive' same
    rcases split inside with below | rfl <;> rcases split inside' with below' | rfl
    · rw [old below, old below'] at same
      exact scheduled.unique other below third below' (live below alive) (live below' alive') same
    · rw [old below, new] at same
      exact absurd same (differs below (live below alive))
    · rw [old below', new] at same
      exact absurd same.symm (differs below' (live below' alive'))
    · rfl
  · -- One more active task fits, because the table was not full.
    have count : (manager.enqueue task).active ≤ manager.active + 1 := by
      simp only [TaskManager.active, ← List.countP_eq_length_filter]
      show (eraseKey task.id manager.tasks ++ [(task.id, manager.allocated)]).countP _ ≤ _
      rw [List.countP_append]
      have rest : (eraseKey task.id manager.tasks).countP
          (fun entry => ((manager.enqueue task).objects entry.2).state.active) ≤
          manager.tasks.countP (fun entry => (manager.objects entry.2).state.active) := by
        refine le_trans (List.countP_mono_left ?_) ((List.filter_sublist (p := _)).countP_le)
        intro entry member active
        have stored : (entry.1, entry.2) ∈ manager.tasks := List.mem_of_mem_filter member
        have listed := (lookup_eq_some_iff scheduled.distinct).mpr stored
        rwa [old (scheduled.named _ _ listed).1] at active
      have single : [(task.id, manager.allocated)].countP
          (fun entry => ((manager.enqueue task).objects entry.2).state.active) ≤ 1 :=
        List.countP_le_length
      omega
    show (manager.enqueue task).active ≤ manager.capacity
    omega

theorem Recorded.enqueue (recorded : Recorded manager) (task : ManagementTask) :
    Recorded (manager.enqueue task) := by
  have old : ∀ {other}, other < manager.allocated →
      (manager.enqueue task).objects other = manager.objects other := by
    intro other inside
    exact Function.update_of_ne (Nat.ne_of_lt inside) _ _
  refine ⟨?_, recorded.carried, recorded.called, recorded.calledOnce, recorded.uncalled, ?_⟩
  · intro pick member
    obtain ⟨inside, facts⟩ := recorded.picked pick member
    rw [old inside]
    exact ⟨Nat.lt_succ_of_lt inside, facts⟩
  · intro other member
    obtain ⟨inside, facts⟩ := recorded.dropped other member
    rw [old inside]
    exact ⟨Nat.lt_succ_of_lt inside, facts⟩

/-- A submission that is taken back leaves at most a pruned table behind. -/
theorem Scheduled.frame_withdraw (scheduled : Scheduled manager) {task : ManagementTask}
    {now : Int} (named : task.id = taskId now manager.sequence) :
    Frame manager ((manager.enqueue task).pruneLocked.withdraw task.id) := by
  have pruned := frame_prune (manager.enqueue task)
  have old : ∀ {other}, other < manager.allocated →
      (manager.enqueue task).objects other = manager.objects other := by
    intro other inside
    exact Function.update_of_ne (Nat.ne_of_lt inside) _ _
  refine
    { allocated := ?_
      objects := ?_
      tasks := ?_
      kept := ?_
      queue := ?_
      workers := pruned.workers
      capacity := pruned.capacity
      sequence := le_trans (Nat.le_succ _) pruned.sequence
      picks := pruned.picks
      calls := pruned.calls
      dropped := pruned.dropped
      readings := pruned.readings }
  · show (manager.enqueue task).pruneLocked.allocated - 1 = manager.allocated
    rw [pruned.allocated]
    rfl
  · intro other inside
    rw [← old inside]
    exact pruned.objects other (Nat.lt_succ_of_lt inside)
  · -- Without the new id, the pruned table is part of the old one.
    have part := pruned.tasks.filter fun entry => decide (entry.1 ≠ task.id)
    refine part.trans ?_
    show List.Subperm (eraseKey task.id (eraseKey task.id manager.tasks ++ _)) _
    rw [eraseKey_append_self (lookup_eq_none_iff.mp (lookup_eraseKey_self _ _))]
    exact List.filter_sublist.subperm
  · intro id other listed inside active
    obtain ⟨-, known⟩ := scheduled.named id other listed
    have differs : id ≠ task.id := by
      rw [← known, named]
      exact scheduled.fresh_id inside (.inl active) now
    show (eraseKey task.id (manager.enqueue task).pruneLocked.tasks).lookup id = some other
    rw [lookup_eraseKey_ne differs]
    apply pruned.kept id other
    · show (assign task.id manager.allocated manager.tasks).lookup id = some other
      rw [lookup_assign_ne differs]
      exact listed
    · exact Nat.lt_succ_of_lt inside
    · rw [old inside]
      exact active
  · show (manager.enqueue task).pruneLocked.queue.dropLast = manager.queue
    rw [pruned.queue]
    exact List.dropLast_concat

end Moves

theorem mem_without {front back : List String} {id : String} (nodup : (front ++ id :: back).Nodup) :
    (front ++ back).Nodup ∧
      ∀ other, other ∈ front ++ back ↔ other ∈ front ++ id :: back ∧ other ≠ id := by
  have split := List.nodup_middle.mp nodup
  rw [List.nodup_cons] at split
  refine ⟨split.2, ?_⟩
  intro other
  constructor
  · intro member
    refine ⟨?_, fun same => split.1 (same ▸ member)⟩
    rcases List.mem_append.mp member with inFront | inBack
    · exact List.mem_append_left _ inFront
    · exact List.mem_append_right _ (List.mem_cons_of_mem _ inBack)
  · intro ⟨member, differs⟩
    rcases List.mem_append.mp member with inFront | inRest
    · exact List.mem_append_left _ inFront
    · rcases List.mem_cons.mp inRest with same | inBack
      · exact absurd same differs
      · exact List.mem_append_right _ inBack

/-- What a look through the queue finds out about the task it picked. -/
structure Eligible (manager : TaskManager) (id : String) (task : Nat) (now : Int) : Prop where
  listed : manager.tasks.lookup id = some task
  queued : (manager.objects task).state = .queued
  notBefore : (manager.objects task).notBeforeMicroseconds ≤ now
  deadline : now ≤ (manager.objects task).startDeadlineMicroseconds

/-- What holds after a look through the queue, behind the ids that were kept before it. -/
structure Looked (now : Int) (before : List String) (scanned : Scan) : Prop where
  missed : scanned.picked = none →
    Lifecycle { scanned.manager with queue := before ++ scanned.kept }
  picked : ∀ task, scanned.picked = some task → ∃ id front back, scanned.kept = front ++ back ∧
    Lifecycle { scanned.manager with queue := before ++ front ++ id :: back } ∧
    Eligible scanned.manager id task now

/-- A look through the queue drops expired tasks and stops at the first eligible one. -/
theorem Lifecycle.scan (now : Int) (files : Except String Unit) (ids : List String)
    (manager : TaskManager) (before : List String)
    (lifecycle : Lifecycle { manager with queue := before ++ ids }) :
    Looked now before (TaskManager.scan now files manager ids) := by
  -- The ids looked at so far and kept stand in front of those still to come.
  induction ids generalizing manager before with
  | nil =>
    refine ⟨fun _ => lifecycle, ?_⟩
    intro task picked
    cases picked
  | cons id rest ih =>
    obtain ⟨task, listed, queued⟩ :=
      (lifecycle.scheduled.queued id).mp (by simp)
    simp only at listed queued
    unfold TaskManager.scan
    simp only [listed]
    rw [if_neg (by rw [queued]; simp)]
    split
    · -- Too late: the task times out and leaves the queue.
      next late =>
      obtain ⟨nodup, left⟩ := mem_without lifecycle.scheduled.queueNodup
      obtain ⟨message, shape⟩ := persistLockedNoThrow_shape
        { manager.modify task (ManagementTask.missStart now) with
          history := { manager.history with dropped := task :: manager.history.dropped } } files
      rw [shape]
      apply ih
      exact lifecycle.dropTask listed queued (show SameSchedule (manager.objects task)
          ((manager.objects task).missStart now) from ⟨rfl, rfl, rfl⟩) rfl nodup left message
    · next inTime =>
      split
      · -- Eligible: the look ends here, with the id still at its place.
        next eligible =>
        refine ⟨fun missed => (by cases missed), ?_⟩
        intro other picked
        obtain rfl := Option.some.inj picked
        refine ⟨id, [], rest, rfl, by simpa using lifecycle, ?_⟩
        exact ⟨listed, queued, eligible, not_lt.mp inTime⟩
      · -- Not yet: the id stays in front of what follows.
        have following := ih manager (before ++ [id]) (by simpa using lifecycle)
        refine ⟨fun missed => by simpa using following.missed missed, ?_⟩
        intro other picked
        obtain ⟨found, front, back, kept, alive, eligible⟩ := following.picked other picked
        refine ⟨found, id :: front, back, by simp [kept], ?_, eligible⟩
        simpa using alive

theorem scan_workers (now : Int) (files : Except String Unit) (ids : List String)
    (manager : TaskManager) :
    (TaskManager.scan now files manager ids).manager.workers = manager.workers ∧
      (TaskManager.scan now files manager ids).manager.history.readings =
        manager.history.readings := by
  induction ids generalizing manager with
  | nil => exact ⟨rfl, rfl⟩
  | cons id rest ih =>
    unfold TaskManager.scan
    split
    · exact ih manager
    · next task listed =>
      split_ifs
      · exact ih manager
      · obtain ⟨message, shape⟩ := persistLockedNoThrow_shape
          { manager.modify task (ManagementTask.missStart now) with
            history := { manager.history with dropped := task :: manager.history.dropped } } files
        rw [shape]
        exact ih _
      · exact ⟨rfl, rfl⟩
      · exact ih manager

/-- A worker's look at the queue keeps the invariant. -/
theorem Lifecycle.scanStep {manager : TaskManager} (lifecycle : Lifecycle manager) {index : Nat}
    (found : manager.workers[index]? = some .scanning) (input : WorkerInput) :
    Lifecycle (manager.scanStep index input) := by
  have idle : ∀ {manager : TaskManager}, Lifecycle manager →
      manager.workers[index]? = some .scanning → Lifecycle (manager.setWorker index .exited) := by
    intro manager alive found
    apply alive.setWorker found
    intro task carries
    cases carries
  unfold TaskManager.scanStep
  split
  · split
    · exact idle lifecycle found
    · exact lifecycle
  · have read := lifecycle.frame (frame_read manager input.now)
    have looked := Lifecycle.scan input.now input.files manager.queue
      (manager.read input.now) [] read
    obtain ⟨workers, readings⟩ := scan_workers input.now input.files manager.queue
      (manager.read input.now)
    generalize TaskManager.scan input.now input.files (manager.read input.now) manager.queue =
      scanned at looked workers readings
    have stands : scanned.manager.workers[index]? = some .scanning := by
      rw [workers]
      exact found
    dsimp only
    split
    · next task picked =>
      obtain ⟨id, front, back, kept, alive, eligible⟩ := looked.picked task picked
      obtain ⟨nodup, left⟩ := mem_without alive.scheduled.queueNodup
      refine Lifecycle.frame ?_ (frame_persistNoThrow _ _)
      rw [kept]
      have now : input.now ∈ scanned.manager.history.readings := by
        rw [readings]
        exact List.mem_cons_self
      exact alive.pickTask stands eligible.listed eligible.queued eligible.notBefore
        eligible.deadline now nodup left
    · next missed =>
      have alive := looked.missed missed
      split
      · exact idle alive stands
      · exact alive

theorem Lifecycle.stopQueue (now : Int) (ids : List String) (manager : TaskManager)
    (lifecycle : Lifecycle { manager with queue := ids }) :
    Lifecycle { manager.stopQueue now ids with queue := [] } := by
  induction ids generalizing manager with
  | nil => exact lifecycle
  | cons id rest ih =>
    obtain ⟨task, listed, queued⟩ := (lifecycle.scheduled.queued id).mp List.mem_cons_self
    simp only at listed queued
    obtain ⟨nodup, left⟩ := @mem_without [] rest id lifecycle.scheduled.queueNodup
    have dropped := lifecycle.dropTask listed queued
      (show SameSchedule (manager.objects task) ((manager.objects task).stopQueued now) from
        ⟨rfl, rfl, rfl⟩) rfl nodup left manager.lastPersistenceError
    simp only [TaskManager.stopQueue, List.foldl_cons, listed]
    exact ih _ dropped

theorem frame_stopRunning (entries : List (String × Nat)) (manager : TaskManager) :
    Frame manager (manager.stopRunning entries) := by
  induction entries generalizing manager with
  | nil => exact Frame.refl manager
  | cons entry rest ih =>
    simp only [TaskManager.stopRunning, List.foldl_cons]
    split
    · exact (frame_modify manager entry.2 _ ⟨rfl, rfl, rfl, rfl, rfl⟩).trans (ih _)
    · exact ih manager

theorem Frame.withQueue {before after : TaskManager} (frame : Frame before after)
    (queue : List String) : Frame { before with queue } { after with queue } :=
  { frame with queue := rfl }

section

variable {manager : TaskManager} (lifecycle : Lifecycle manager)
include lifecycle

theorem Lifecycle.stop (now : Int) (files : Except String Unit) :
    Lifecycle (manager.stop now files) := by
  unfold TaskManager.stop
  split
  · exact lifecycle.frame { Frame.refl manager with }
  · have stopping : Lifecycle { manager with stopping := true } :=
      lifecycle.frame { Frame.refl manager with }
    have cancelled := Lifecycle.stopQueue now manager.queue { manager with stopping := true }
      stopping
    refine Lifecycle.frame (Lifecycle.frame cancelled ?_) (frame_persistNoThrow _ _)
    exact (frame_stopRunning manager.tasks _).withQueue []

theorem Lifecycle.cancel (id : String) (now : Int) (files : Except String Unit) :
    Lifecycle (manager.cancel id now files).2 := by
  unfold TaskManager.cancel
  split
  · exact lifecycle
  · next task listed =>
    refine Lifecycle.frame ?_ (frame_persistNoThrow _ _)
    split
    · next queued =>
      apply lifecycle.dropTask listed queued
        (show SameSchedule (manager.objects task) ((manager.objects task).cancelQueued now) from
          ⟨rfl, rfl, rfl⟩) rfl (lifecycle.scheduled.queueNodup.filter _)
      intro other
      simp [List.mem_filter]
    · exact lifecycle.frame (frame_modify manager task _ ⟨rfl, rfl, rfl, rfl, rfl⟩)
    · exact lifecycle

theorem Lifecycle.submit (request : TaskRequest) (now : Int) (files : Except String Unit) :
    Lifecycle (manager.submit request now files).2 := by
  unfold TaskManager.submit
  split_ifs with stopping full
  · exact lifecycle
  · exact lifecycle
  · have enqueued : Lifecycle (manager.enqueue (request.task now manager.sequence)) :=
      ⟨lifecycle.scheduled.enqueue rfl rfl (by omega), lifecycle.recorded.enqueue _⟩
    have pruned := enqueued.frame (frame_prune _)
    dsimp only
    split
    · next persisted done =>
      obtain ⟨message, shape⟩ := persistLocked_shape done
      rw [shape]
      exact pruned.frame { Frame.refl _ with }
    · exact lifecycle.frame (lifecycle.scheduled.frame_withdraw rfl)

theorem Lifecycle.acquireTurn {index task : Nat} {worker : Worker}
    (found : manager.workers[index]? = some worker) (carries : worker.task? = some task)
    (running : worker.running = true) (waiting : worker.uncalled = true) (now later : Int)
    (files : Except String Unit) :
    Lifecycle (manager.acquireTurn index task now later files) := by
  -- Each turn ends in another running place for the same task.
  have move : ∀ {framed : TaskManager} (moved : Worker), Frame manager framed →
      moved.task? = some task → moved.running = true →
      Lifecycle (framed.setWorker index moved) := by
    intro framed moved frame same still
    apply (lifecycle.frame frame).setWorker (by rw [frame.workers]; exact found)
    intro other holds
    refine ⟨?_, still.trans running.symm, fun _ => waiting⟩
    rw [carries, ← same]
    exact holds
  unfold TaskManager.acquireTurn
  dsimp only
  split
  · exact move _ ((frame_setWaiters _ _ _).trans (frame_modify _ _ _ ⟨rfl, rfl, rfl, rfl, rfl⟩))
      rfl rfl
  · split
    · exact move _ (frame_modify _ _ _ ⟨rfl, rfl, rfl, rfl, rfl⟩) rfl rfl
    · split
      · refine Lifecycle.frame ?_ (frame_persistNoThrow _ _)
        refine move _ ?_ rfl rfl
        exact ((frame_setWaiters _ _ _).trans
          (frame_modify _ _ _ ⟨rfl, rfl, rfl, rfl, rfl⟩)).trans (frame_owners _ _)
      · exact move _ (frame_modify _ _ _ ⟨rfl, rfl, rfl, rfl, rfl⟩) rfl rfl

end

theorem frame_enterAcquire (manager : TaskManager) (task : Nat) (now : Int)
    (files : Except String Unit) : Frame manager (manager.enterAcquire task now files) := by
  unfold TaskManager.enterAcquire
  have joined := (frame_setWaiters manager (manager.objects task).resourceKey
    (manager.waiters (manager.objects task).resourceKey ++ [(manager.objects task).id])).trans
      (frame_modify _ task (ManagementTask.joinWait now) ⟨rfl, rfl, rfl, rfl, rfl⟩)
  exact (joined.trans (frame_arrivals _ _)).trans (frame_persistNoThrow _ _)

/-- Every step of a worker keeps the invariant. -/
theorem Lifecycle.workerStep {manager : TaskManager} (lifecycle : Lifecycle manager)
    (index : Nat) (input : WorkerInput) : Lifecycle (manager.workerStep index input) := by
  have read := lifecycle.frame (frame_read manager input.now)
  unfold TaskManager.workerStep
  split
  · exact lifecycle
  · next found => exact lifecycle.scanStep found input
  · exact lifecycle
  · next task found =>
    split
    · exact read.setWorker found _ fun other carries =>
        ⟨carries, rfl, fun waiting => by cases waiting⟩
    · exact read.setWorker found _ fun other carries => ⟨carries, rfl, fun _ => rfl⟩
  · next task found =>
    have entered := read.frame (frame_enterAcquire _ task input.now input.files)
    have stands : ((manager.read input.now).enterAcquire task input.now
        input.files).workers[index]? = some (.entering task) := by
      rw [(frame_enterAcquire (manager.read input.now) task input.now input.files).workers]
      exact found
    exact entered.acquireTurn stands rfl rfl rfl _ _ _
  · next task found => exact read.acquireTurn found rfl rfl rfl _ _ _
  · next task found =>
    split
    · exact lifecycle.setWorker found _ fun other carries =>
        ⟨carries, rfl, fun waiting => by cases waiting⟩
    · exact lifecycle.callTask found input.now
  · next task found =>
    split
    · exact lifecycle.setWorker found _ fun other carries =>
        ⟨carries, rfl, fun waiting => by cases waiting⟩
    · exact lifecycle.setWorker found _ fun other carries =>
        ⟨carries, rfl, fun waiting => by cases waiting⟩
  · next task result found =>
    split
    · exact read.setWorker found _ fun other carries =>
        ⟨carries, rfl, fun waiting => by cases waiting⟩
    · exact read.setWorker found _ fun other carries =>
        ⟨carries, rfl, fun waiting => by cases waiting⟩
  · next task result found =>
    exact lifecycle.endTask found rfl rfl _ ⟨rfl, rfl, rfl⟩ rfl rfl rfl rfl
  · next task acquired error found =>
    refine lifecycle.endTask found rfl rfl _ ⟨rfl, rfl, rfl⟩ ?_ rfl rfl rfl
    cases error <;> rfl
  · next task acquired found =>
    have released : Frame manager (manager.releaseResource task) := by
      unfold TaskManager.releaseResource
      dsimp only
      split
      · exact { Frame.refl manager with }
      · exact Frame.refl manager
    apply (lifecycle.frame released).setWorker (by rw [released.workers]; exact found)
    exact fun other carries => ⟨carries, rfl, fun waiting => by cases waiting⟩
  · next task found =>
    refine Lifecycle.frame (Lifecycle.frame ?_ (frame_prune _)) (frame_persistNoThrow _ _)
    have noted := frame_modify manager task (ManagementTask.finish input.now)
      ⟨rfl, rfl, rfl, rfl, rfl⟩
    apply (lifecycle.frame noted).setWorker (by rw [noted.workers]; exact found)
    intro other carries
    cases carries

theorem Lifecycle.unmanned {manager : TaskManager} (lifecycle : Lifecycle manager) :
    Lifecycle { manager with workers := [], started := false } := by
  obtain ⟨scheduled, recorded⟩ := lifecycle
  have live : ∀ {task}, ({ manager with workers := [], started := false } : TaskManager).Live
      task → manager.Live task := by
    intro task alive
    rcases alive with active | ⟨worker, member, -⟩
    · exact .inl active
    · cases member
  refine ⟨⟨scheduled.distinct, scheduled.named, scheduled.mapped, scheduled.queueNodup,
    scheduled.queued, ?_, ?_, ?_, ?_, scheduled.bounded⟩, ⟨recorded.picked, ?_, recorded.called,
    recorded.calledOnce, ?_, recorded.dropped⟩⟩
  · intro first second left right task atFirst
    cases atFirst
  · intro worker member
    cases member
  · intro task inside alive
    exact scheduled.minted task inside (live alive)
  · intro task inside other inside' alive alive'
    exact scheduled.unique task inside other inside' (live alive) (live alive')
  · intro worker member
    cases member
  · intro worker member
    cases member

theorem Lifecycle.step {manager : TaskManager} (lifecycle : Lifecycle manager)
    (event : TaskEvent) : Lifecycle (manager.step event) := by
  cases event with
  | submit request now files => exact (lifecycle.frame (frame_read manager now)).submit _ _ _
  | cancel id now files => exact (lifecycle.frame (frame_read manager now)).cancel _ _ _
  | stop now files => exact (lifecycle.frame (frame_read manager now)).stop _ _
  | worker index input => exact lifecycle.workerStep index input
  | joined =>
    show Lifecycle manager.joined
    unfold TaskManager.joined
    split
    · exact lifecycle.unmanned
    · exact lifecycle
  | rehash entries =>
    show Lifecycle (if entries.isPerm manager.tasks then _ else _)
    split
    · next perm =>
      have same := List.isPerm_iff.mp perm
      refine lifecycle.frame { Frame.refl manager with tasks := same.subperm, kept := ?_ }
      intro id task listed _ _
      show entries.lookup id = some task
      rw [← listed, lookup_perm ((same.map Prod.fst).nodup_iff.mpr lifecycle.scheduled.distinct) same]
    · exact lifecycle

/-- A manager in which no task is active and no worker carries one. -/
structure Quiet (manager : TaskManager) : Prop where
  distinct : (keys manager.tasks).Nodup
  named : ∀ id task, manager.tasks.lookup id = some task →
    task < manager.allocated ∧ (manager.objects task).id = id
  inactive : ∀ task < manager.allocated, (manager.objects task).state.active = false
  queue : manager.queue = []
  workers : ∀ worker ∈ manager.workers, worker.task? = none
  picks : manager.history.picks = []
  calls : manager.history.calls = []
  dropped : manager.history.dropped = []

theorem Quiet.lifecycle {manager : TaskManager} (quiet : Quiet manager) : Lifecycle manager := by
  have dead : ∀ {task}, task < manager.allocated → ¬manager.Live task := by
    intro task inside alive
    rcases alive with active | ⟨worker, member, carries⟩
    · rw [quiet.inactive task inside] at active
      cases active
    · rw [quiet.workers worker member] at carries
      cases carries
  refine ⟨⟨quiet.distinct, quiet.named, ?_, ?_, ?_, ?_, ?_, ?_, ?_, ?_⟩, ⟨?_, ?_, ?_, ?_, ?_, ?_⟩⟩
  · intro task inside active
    rw [quiet.inactive task inside] at active
    cases active
  · rw [quiet.queue]
    exact List.nodup_nil
  · intro id
    rw [quiet.queue]
    refine ⟨fun member => (by cases member), ?_⟩
    intro ⟨task, listed, queued⟩
    have ended := quiet.inactive task (quiet.named id task listed).1
    rw [queued] at ended
    cases ended
  · intro first second left right task atFirst _ carries
    rw [quiet.workers left (List.mem_of_getElem? atFirst)] at carries
    cases carries
  · intro worker member task carries
    rw [quiet.workers worker member] at carries
    cases carries
  · intro task inside alive
    exact absurd alive (dead inside)
  · intro task inside other _ alive
    exact absurd alive (dead inside)
  · have none : manager.active = 0 := by
      rw [TaskManager.active, List.length_eq_zero_iff, List.filter_eq_nil_iff]
      intro entry member
      have listed := (lookup_eq_some_iff quiet.distinct).mpr
        (show (entry.1, entry.2) ∈ manager.tasks from member)
      rw [quiet.inactive _ (quiet.named _ _ listed).1]
      simp
    rw [none]
    exact Nat.zero_le _
  · rw [quiet.picks]
    intro pick member
    cases member
  · intro worker member task carries
    rw [quiet.workers worker member] at carries
    cases carries
  · rw [quiet.calls]
    intro call member
    cases member
  · rw [quiet.calls]
    exact List.nodup_nil
  · intro worker member task carries
    rw [quiet.workers worker member] at carries
    cases carries
  · rw [quiet.dropped]
    intro task member
    cases member

theorem loadTask_inactive {library : JsonLibrary} {now : Int} {source : Json}
    {task : ManagementTask} (loaded : loadTask library now source = some task) :
    task.state.active = false := by
  unfold loadTask at loaded
  dsimp only at loaded
  split at loaded
  · cases loaded
  · split at loaded
    · cases loaded
      rfl
    · next ended =>
      cases loaded
      simpa using ended

theorem Quiet.adopt {manager : TaskManager} (quiet : Quiet manager) {task : ManagementTask}
    (ended : task.state.active = false) : Quiet (manager.adopt task) := by
  have old : ∀ {other}, other < manager.allocated →
      (manager.adopt task).objects other = manager.objects other := by
    intro other inside
    exact Function.update_of_ne (Nat.ne_of_lt inside) _ _
  have new : (manager.adopt task).objects manager.allocated = task := Function.update_self _ _ _
  refine ⟨nodup_keys_assign quiet.distinct _ _, ?_, ?_, quiet.queue, quiet.workers, quiet.picks,
    quiet.calls, quiet.dropped⟩
  · intro id other listed
    by_cases same : id = task.id
    · rw [same, show (manager.adopt task).tasks = assign task.id manager.allocated manager.tasks
        from rfl, lookup_assign_self] at listed
      obtain rfl := Option.some.inj listed
      exact ⟨Nat.lt_succ_self _, by rw [new, same]⟩
    · rw [show (manager.adopt task).tasks = assign task.id manager.allocated manager.tasks
        from rfl, lookup_assign_ne same] at listed
      obtain ⟨inside, known⟩ := quiet.named id other listed
      exact ⟨Nat.lt_succ_of_lt inside, by rw [old inside]; exact known⟩
  · intro other inside
    rcases Nat.lt_succ_iff_lt_or_eq.mp inside with below | rfl
    · rw [old below]
      exact quiet.inactive other below
    · rw [new]
      exact ended

theorem Quiet.adopt_all {tasks : List ManagementTask}
    (ended : ∀ task ∈ tasks, task.state.active = false) {manager : TaskManager}
    (quiet : Quiet manager) : Quiet (tasks.foldl TaskManager.adopt manager) := by
  induction tasks generalizing manager with
  | nil => exact quiet
  | cons task rest ih =>
    exact ih (fun other member => ended other (List.mem_cons_of_mem _ member))
      (quiet.adopt (ended task List.mem_cons_self))

theorem Quiet.frame {before after : TaskManager} (quiet : Quiet before)
    (frame : Frame before after) : Quiet after := by
  have found : ∀ {id task}, after.tasks.lookup id = some task →
      before.tasks.lookup id = some task :=
    fun listed => lookup_of_subperm quiet.distinct frame.tasks listed
  refine ⟨nodup_keys_subperm quiet.distinct frame.tasks, ?_, ?_, frame.queue.trans quiet.queue, ?_,
    frame.picks.trans quiet.picks, frame.calls.trans quiet.calls,
    frame.dropped.trans quiet.dropped⟩
  · intro id task listed
    obtain ⟨inside, named⟩ := quiet.named id task (found listed)
    rw [frame.allocated, (frame.objects task inside).id]
    exact ⟨inside, named⟩
  · intro task inside
    rw [frame.allocated] at inside
    rw [(frame.objects task inside).state]
    exact quiet.inactive task inside
  · rw [frame.workers]
    exact quiet.workers

theorem Quiet.loadLocked {manager : TaskManager} (quiet : Quiet manager) (library : JsonLibrary)
    (current : Option String) (now : Int) (files : Except String Unit) :
    Quiet (manager.loadLocked library current now files) := by
  -- Loading starts from an empty table; what the manager held before is forgotten.
  have cleared : ∀ (message : String) (required : Bool), Quiet { manager with
      allocated := 0, tasks := [], queue := [], order := [], lastPersistenceError := message,
      persistenceRecoveryRequired := required } := by
    intro message required
    refine ⟨List.nodup_nil, ?_, ?_, rfl, quiet.workers, quiet.picks, quiet.calls, quiet.dropped⟩
    · intro id task listed
      cases listed
    · intro task inside
      cases inside
  unfold TaskManager.loadLocked
  dsimp only
  split
  · split
    · exact cleared _ _
    · next records read =>
      have ended : ∀ task ∈ loadTasks library manager.retention now records,
          task.state.active = false := by
        intro task member
        obtain ⟨source, -, loaded⟩ := List.mem_filterMap.mp member
        exact loadTask_inactive loaded
      have loaded := Quiet.adopt_all ended
        (cleared manager.lastPersistenceError manager.persistenceRecoveryRequired)
      have written := loaded.frame ((frame_prune _).trans (frame_persistNoThrow _ files))
      exact written.frame { Frame.refl _ with }
  · exact cleared _ _

theorem start_quiet (library : JsonLibrary) (settings : TaskSettings) (current : Option String)
    (now : Int) (files : Except String Unit) :
    Quiet (TaskManager.start library settings current now files) := by
  have configured : Quiet settings.configured := by
    refine ⟨List.nodup_nil, ?_, ?_, rfl, ?_, rfl, rfl, rfl⟩
    · intro id task listed
      cases listed
    · intro task inside
      cases inside
    · intro worker member
      cases member
  obtain ⟨distinct, named, inactive, queue, -, picks, calls, dropped⟩ :=
    configured.loadLocked library current now files
  -- The workers come last, and none of them has looked at the queue yet.
  refine ⟨distinct, named, inactive, queue, ?_, picks, calls, dropped⟩
  intro worker member
  rw [List.eq_of_mem_replicate member]
  rfl

end PocoDDS.Monitoring
