import PocoDDS.Monitoring.TaskTransitions

/-! The resources of management tasks: one owner each, and a fair queue of waiters. -/

namespace PocoDDS.Monitoring

open AssocList JsonModel RunLogic TaskManager ManagementTask

/-- The task with which a worker is on its way to `acquireResource`. -/
def Worker.approaches? : Worker → Option Nat
  | .picked task => some task
  | .entering task => some task
  | _ => none

/-- Some worker is between a successful `acquireResource` and `releaseResource` for a task. -/
def TaskManager.Holding (manager : TaskManager) (task : Nat) : Prop :=
  ∃ worker ∈ manager.workers, worker.holds? = some task

/-- Some worker waits inside `acquireResource` for a task. -/
def TaskManager.Waiting (manager : TaskManager) (task : Nat) : Prop :=
  ∃ worker ∈ manager.workers, worker.waits? = some task

/-- A task that has not joined a waiter queue yet. -/
def TaskManager.Ahead (manager : TaskManager) (task : Nat) : Prop :=
  (manager.objects task).state = .queued ∨
    ∃ worker ∈ manager.workers, worker.approaches? = some task

/-- The ids that joined the waiter queue of a resource, in the order of their arrival. -/
def TaskManager.arrivals (manager : TaskManager) (key : String) : List String :=
  (manager.history.arrivals.filter (·.1 = key)).map Prod.snd

/-- The owner table and the waiter queues say where the workers stand. -/
structure Guarded (manager : TaskManager) : Prop where
  owned : ∀ key id, manager.resourceOwners.lookup key = some id ↔
    ∃ task, manager.Holding task ∧ (manager.objects task).resourceKey = key ∧
      (manager.objects task).id = id
  waiting : ∀ key id, id ∈ manager.waiters key ↔
    ∃ task, manager.Waiting task ∧ (manager.objects task).resourceKey = key ∧
      (manager.objects task).id = id
  waitersNodup : ∀ key, (manager.waiters key).Nodup
  ordered : ∀ key, (manager.waiters key).Sublist (manager.arrivals key)
  arrivedOnce : (manager.history.arrivals.map Prod.snd).Nodup
  arrived : ∀ arrival ∈ manager.history.arrivals, ∃ time sequence,
    arrival.2 = taskId time sequence ∧ sequence < manager.sequence
  ahead : ∀ task < manager.allocated, manager.Ahead task →
    (manager.objects task).id ∉ manager.history.arrivals.map Prod.snd

theorem Worker.task?_of_holds {worker : Worker} {task : Nat} (holds : worker.holds? = some task) :
    worker.task? = some task := by
  cases worker with
  | unwinding other acquired error => cases acquired <;> first | exact holds | cases holds
  | releasing other acquired => cases acquired <;> first | exact holds | cases holds
  | _ => first | exact holds | cases holds

theorem Worker.task?_of_waits {worker : Worker} {task : Nat} (waits : worker.waits? = some task) :
    worker.task? = some task := by
  cases worker <;> first | exact waits | cases waits

theorem Worker.task?_of_approaches {worker : Worker} {task : Nat}
    (approaches : worker.approaches? = some task) : worker.task? = some task := by
  cases worker <;> first | exact approaches | cases approaches

section Carried

variable {manager : TaskManager}

theorem Scheduled.same_worker (scheduled : Scheduled manager) {first second : Nat}
    {left right : Worker} {task other : Nat} (atFirst : manager.workers[first]? = some left)
    (atSecond : manager.workers[second]? = some right) (carries : left.task? = some task)
    (carries' : right.task? = some other)
    (same : (manager.objects task).id = (manager.objects other).id) :
    first = second ∧ task = other := by
  have present := List.mem_of_getElem? atFirst
  have present' := List.mem_of_getElem? atSecond
  -- Living tasks have ids of their own, and no two workers carry the same task.
  have equal : task = other := scheduled.unique task (scheduled.carried left present task carries).1
    other (scheduled.carried right present' other carries').1 (.inr ⟨left, present, carries⟩)
    (.inr ⟨right, present', carries'⟩) same
  subst equal
  exact ⟨scheduled.carriedOnce first second left right task atFirst atSecond carries carries', rfl⟩

theorem Scheduled.holding_inside (scheduled : Scheduled manager) {task : Nat}
    (holding : manager.Holding task) : task < manager.allocated := by
  obtain ⟨worker, member, holds⟩ := holding
  exact (scheduled.carried worker member task (Worker.task?_of_holds holds)).1

theorem Scheduled.waiting_inside (scheduled : Scheduled manager) {task : Nat}
    (waiting : manager.Waiting task) : task < manager.allocated := by
  obtain ⟨worker, member, waits⟩ := waiting
  exact (scheduled.carried worker member task (Worker.task?_of_waits waits)).1

end Carried

/-- A step that leaves the resources alone. -/
structure Apart (before after : TaskManager) : Prop where
  owners : after.resourceOwners = before.resourceOwners
  waiters : after.resourceWaiters = before.resourceWaiters
  arrivals : after.history.arrivals = before.history.arrivals
  allocated : before.allocated ≤ after.allocated
  sequence : before.sequence ≤ after.sequence
  objects : ∀ task < before.allocated, (after.objects task).id = (before.objects task).id ∧
    (after.objects task).resourceKey = (before.objects task).resourceKey
  holding : ∀ task, after.Holding task ↔ before.Holding task
  waiting : ∀ task, after.Waiting task ↔ before.Waiting task
  ahead : ∀ task < after.allocated, after.Ahead task →
    task < before.allocated ∧ before.Ahead task ∨
      ∃ time sequence, (after.objects task).id = taskId time sequence ∧
        before.sequence ≤ sequence

section Steps

variable {before middle after : TaskManager}

theorem Apart.refl (manager : TaskManager) : Apart manager manager where
  owners := rfl
  waiters := rfl
  arrivals := rfl
  allocated := Nat.le_refl _
  sequence := Nat.le_refl _
  objects := fun _ _ => ⟨rfl, rfl⟩
  holding := fun _ => Iff.rfl
  waiting := fun _ => Iff.rfl
  ahead := fun _ inside ahead => .inl ⟨inside, ahead⟩

theorem Apart.trans (early : Apart before middle) (late : Apart middle after) :
    Apart before after where
  owners := late.owners.trans early.owners
  waiters := late.waiters.trans early.waiters
  arrivals := late.arrivals.trans early.arrivals
  allocated := early.allocated.trans late.allocated
  sequence := early.sequence.trans late.sequence
  objects := by
    intro task inside
    obtain ⟨id, key⟩ := early.objects task inside
    obtain ⟨id', key'⟩ := late.objects task (lt_of_lt_of_le inside early.allocated)
    exact ⟨id'.trans id, key'.trans key⟩
  holding := fun task => (late.holding task).trans (early.holding task)
  waiting := fun task => (late.waiting task).trans (early.waiting task)
  ahead := by
    intro task inside ahead
    rcases late.ahead task inside ahead with ⟨known, earlier⟩ | ⟨time, sequence, named, new⟩
    · rcases early.ahead task known earlier with old | ⟨time, sequence, named, new⟩
      · exact .inl old
      · -- Minted in the first half: the second half keeps its id.
        exact .inr ⟨time, sequence, (late.objects task known).1.trans named, new⟩
    · exact .inr ⟨time, sequence, named, early.sequence.trans new⟩

/-- A step that leaves the resources alone keeps what the tables say. -/
theorem Guarded.apart (guarded : Guarded before) (scheduled : Scheduled before)
    (apart : Apart before after) : Guarded after := by
  have waiters : ∀ key, after.waiters key = before.waiters key := by
    intro key
    rw [TaskManager.waiters, apart.waiters]
    rfl
  have arrivals : ∀ key, after.arrivals key = before.arrivals key := by
    intro key
    rw [TaskManager.arrivals, apart.arrivals]
    rfl
  refine ⟨?_, ?_, ?_, ?_, ?_, ?_, ?_⟩
  · intro key id
    rw [apart.owners, guarded.owned key id]
    apply exists_congr
    intro task
    rw [apart.holding task]
    apply and_congr_right
    intro holding
    obtain ⟨sameId, sameKey⟩ := apart.objects task (scheduled.holding_inside holding)
    rw [sameId, sameKey]
  · intro key id
    rw [waiters key, guarded.waiting key id]
    apply exists_congr
    intro task
    rw [apart.waiting task]
    apply and_congr_right
    intro waiting
    obtain ⟨sameId, sameKey⟩ := apart.objects task (scheduled.waiting_inside waiting)
    rw [sameId, sameKey]
  · intro key
    rw [waiters key]
    exact guarded.waitersNodup key
  · intro key
    rw [waiters key, arrivals key]
    exact guarded.ordered key
  · rw [apart.arrivals]
    exact guarded.arrivedOnce
  · intro arrival member
    rw [apart.arrivals] at member
    obtain ⟨time, sequence, named, below⟩ := guarded.arrived arrival member
    exact ⟨time, sequence, named, lt_of_lt_of_le below apart.sequence⟩
  · intro task inside ahead
    rw [apart.arrivals]
    rcases apart.ahead task inside ahead with ⟨known, earlier⟩ | ⟨time, sequence, named, new⟩
    · rw [(apart.objects task known).1]
      exact guarded.ahead task known earlier
    · -- A new id has a sequence number that no earlier arrival can have.
      intro listed
      obtain ⟨arrival, member, same⟩ := List.mem_map.mp listed
      obtain ⟨time', sequence', known, below⟩ := guarded.arrived arrival member
      rw [known, named] at same
      have equal := taskId_sequence same
      omega

end Steps

theorem pruneLocked_shape (manager : TaskManager) :
    ∃ tasks order, manager.pruneLocked = { manager with tasks, order } := by
  unfold pruneLocked
  generalize manager.order.length - manager.retention = turns
  induction turns generalizing manager with
  | zero => exact ⟨manager.tasks, manager.order, rfl⟩
  | succ turns ih =>
    rw [Function.iterate_succ_apply]
    obtain ⟨tasks, order, shape⟩ := ih manager.pruneOnce
    refine ⟨tasks, order, ?_⟩
    rw [shape]
    unfold pruneOnce
    split <;> rfl

theorem apart_prune (manager : TaskManager) : Apart manager manager.pruneLocked := by
  obtain ⟨tasks, order, shape⟩ := pruneLocked_shape manager
  rw [shape]
  exact { Apart.refl manager with }

theorem apart_persistNoThrow (manager : TaskManager) (files : Except String Unit) :
    Apart manager (manager.persistLockedNoThrow files) := by
  obtain ⟨message, shape⟩ := persistLockedNoThrow_shape manager files
  rw [shape]
  exact { Apart.refl manager with }

theorem apart_modify (manager : TaskManager) (task : Nat) (change : ManagementTask → ManagementTask)
    (sameId : (change (manager.objects task)).id = (manager.objects task).id)
    (sameKey : (change (manager.objects task)).resourceKey = (manager.objects task).resourceKey)
    (queued : (change (manager.objects task)).state = .queued →
      (manager.objects task).state = .queued) :
    Apart manager (manager.modify task change) := by
  refine { Apart.refl manager with objects := ?_, ahead := ?_ }
  · intro other _
    simp only [TaskManager.modify]
    by_cases target : other = task
    · rw [target, Function.update_self]
      exact ⟨sameId, sameKey⟩
    · rw [Function.update_of_ne target]
      exact ⟨rfl, rfl⟩
  · intro other inside ahead
    refine .inl ⟨inside, ?_⟩
    rcases ahead with again | approaching
    · simp only [TaskManager.modify] at again
      by_cases target : other = task
      · rw [target, Function.update_self] at again
        rw [target]
        exact .inl (queued again)
      · rw [Function.update_of_ne target] at again
        exact .inl again
    · exact .inr approaching

theorem mem_setWorker_iff {workers : List Worker} {index : Nat} {worker moved : Worker}
    (found : workers[index]? = some worker) (view : Worker → Option Nat)
    (same : view moved = view worker) (task : Nat) :
    (∃ other ∈ workers.set index moved, view other = some task) ↔
      ∃ other ∈ workers, view other = some task := by
  constructor
  · intro ⟨other, member, sees⟩
    rcases List.mem_or_eq_of_mem_set member with old | rfl
    · exact ⟨other, old, sees⟩
    · exact ⟨worker, List.mem_of_getElem? found, same ▸ sees⟩
  · intro ⟨other, member, sees⟩
    obtain ⟨place, atPlace⟩ := List.mem_iff_getElem?.mp member
    by_cases here : place = index
    · -- It is the worker that moved.
      subst here
      obtain rfl := Option.some.inj (found.symm.trans atPlace)
      have inside : place < workers.length := (List.getElem?_eq_some_iff.mp found).1
      exact ⟨moved, List.mem_set inside moved, same.trans sees⟩
    · refine ⟨other, List.mem_iff_getElem?.mpr ⟨place, ?_⟩, sees⟩
      rw [List.getElem?_set_ne (fun equal => here equal.symm)]
      exact atPlace

theorem apart_setWorker {manager : TaskManager} {index : Nat} {worker : Worker}
    (found : manager.workers[index]? = some worker) (moved : Worker)
    (holds : moved.holds? = worker.holds?) (waits : moved.waits? = worker.waits?)
    (approaches : ∀ task, moved.approaches? = some task →
      worker.approaches? = some task ∨ (manager.objects task).state = .queued) :
    Apart manager (manager.setWorker index moved) := by
  refine { Apart.refl manager with
    holding := mem_setWorker_iff found Worker.holds? holds
    waiting := mem_setWorker_iff found Worker.waits? waits
    ahead := ?_ }
  intro task inside ahead
  refine .inl ⟨inside, ?_⟩
  rcases ahead with queued | ⟨other, member, approaching⟩
  · exact .inl queued
  · rcases List.mem_or_eq_of_mem_set member with old | rfl
    · exact .inr ⟨other, old, approaching⟩
    · rcases approaches task approaching with before | queued
      · exact .inr ⟨worker, List.mem_of_getElem? found, before⟩
      · exact .inl queued

/-- Dropping queued tasks in a look through the queue leaves the resources alone. -/
theorem apart_scan (now : Int) (files : Except String Unit) (ids : List String)
    (manager : TaskManager) : Apart manager (TaskManager.scan now files manager ids).manager := by
  induction ids generalizing manager with
  | nil => exact Apart.refl manager
  | cons id rest ih =>
    unfold TaskManager.scan
    split
    · exact ih manager
    · next task listed =>
      split_ifs
      · exact ih manager
      · refine Apart.trans ?_ (ih _)
        refine Apart.trans ?_ (apart_persistNoThrow _ files)
        have missed := apart_modify manager task (missStart now) rfl rfl
          (fun queued => by cases queued)
        exact missed.trans { Apart.refl _ with }
      · exact Apart.refl manager
      · exact ih manager

theorem apart_scanStep {manager : TaskManager} {index : Nat}
    (found : manager.workers[index]? = some .scanning) (input : WorkerInput) :
    Apart manager (manager.scanStep index input) := by
  -- A worker that stops scanning for good holds nothing and waits for nothing.
  have leaves : ∀ {manager : TaskManager}, manager.workers[index]? = some .scanning →
      Apart manager (manager.setWorker index .exited) := by
    intro manager found
    exact apart_setWorker found .exited rfl rfl (fun task approaching => by cases approaching)
  unfold scanStep
  split
  · split
    · exact leaves found
    · exact Apart.refl manager
  · have scanned := apart_scan input.now input.files manager.queue (manager.read input.now)
    have read : Apart manager (manager.read input.now) := { Apart.refl manager with }
    have looked := read.trans scanned
    obtain ⟨workers, -⟩ := scan_workers input.now input.files manager.queue (manager.read input.now)
    obtain ⟨-, eligible⟩ := dropping_scan input.now input.files manager.queue
      (manager.read input.now)
    generalize TaskManager.scan input.now input.files (manager.read input.now) manager.queue =
      scanned at looked workers eligible
    have stands : scanned.manager.workers[index]? = some .scanning := by
      rw [workers]
      exact found
    dsimp only
    split
    · next task picked =>
      -- The picked task was queued, so it was on its way to its resource already.
      refine Apart.trans ?_ (apart_persistNoThrow _ _)
      have moved := looked.trans (apart_setWorker stands (.picked task) rfl rfl (by
        intro other approaching
        obtain rfl := Option.some.inj approaching
        exact .inr (eligible task picked)))
      have begun := moved.trans (apart_modify _ task (begin input.later) rfl rfl
        (fun queued => by cases queued))
      exact begun.trans { Apart.refl _ with }
    · have left : Apart manager { scanned.manager with queue := scanned.kept } :=
        looked.trans { Apart.refl _ with }
      split
      · exact left.trans (leaves stands)
      · exact left

theorem apart_submit {manager : TaskManager} (scheduled : Scheduled manager)
    (request : TaskRequest) (now : Int) (files : Except String Unit) :
    Apart manager (manager.submit request now files).2 := by
  unfold submit
  split_ifs
  · exact Apart.refl manager
  · exact Apart.refl manager
  · dsimp only
    -- Only the new handle has another object behind it.
    have old : ∀ other < manager.allocated,
        (manager.enqueue (request.task now manager.sequence)).objects other =
          manager.objects other := by
      intro other inside
      exact Function.update_of_ne (Nat.ne_of_lt inside) _ _
    have enqueued : Apart manager (manager.enqueue (request.task now manager.sequence)) := by
      refine { Apart.refl manager with
        allocated := Nat.le_succ _, sequence := Nat.le_succ _, objects := ?_, ahead := ?_ }
      · intro other inside
        rw [old other inside]
        exact ⟨rfl, rfl⟩
      · intro other inside ahead
        rcases Nat.lt_succ_iff_lt_or_eq.mp inside with below | rfl
        · rw [TaskManager.Ahead, old other below] at ahead
          exact .inl ⟨below, ahead⟩
        · refine .inr ⟨now, manager.sequence, ?_, Nat.le_refl _⟩
          simp [TaskManager.enqueue, TaskRequest.task]
    split
    · next persisted done =>
      obtain ⟨message, shape⟩ := persistLocked_shape done
      rw [shape]
      exact (enqueued.trans (apart_prune _)).trans { Apart.refl _ with }
    · -- A submission that is taken back gives its handle back, too.
      have frame : Frame manager ((manager.enqueue
          (request.task now manager.sequence)).pruneLocked.withdraw _) :=
        scheduled.frame_withdraw rfl
      obtain ⟨tasks, order, shape⟩ := pruneLocked_shape
        (manager.enqueue (request.task now manager.sequence))
      rw [shape] at frame ⊢
      refine { Apart.refl manager with
        allocated := le_of_eq frame.allocated.symm, sequence := frame.sequence,
        objects := ?_, ahead := ?_ }
      · intro other inside
        exact ⟨(frame.objects other inside).id, (frame.objects other inside).resourceKey⟩
      · intro other inside ahead
        rw [frame.allocated] at inside
        refine .inl ⟨inside, ?_⟩
        rcases ahead with queued | approaching
        · rw [(frame.objects other inside).state] at queued
          exact .inl queued
        · exact .inr approaching

theorem apart_cancel (manager : TaskManager) (id : String) (now : Int)
    (files : Except String Unit) : Apart manager (manager.cancel id now files).2 := by
  unfold cancel
  split
  · exact Apart.refl manager
  · next task listed =>
    dsimp only
    refine Apart.trans ?_ (apart_persistNoThrow _ _)
    split
    · have cancelled := apart_modify manager task (cancelQueued now) rfl rfl
        (fun queued => by cases queued)
      exact cancelled.trans { Apart.refl _ with }
    · exact apart_modify manager task requestCancellation rfl rfl (fun queued => queued)
    · exact Apart.refl manager

theorem apart_stopQueue (now : Int) (ids : List String) (manager : TaskManager) :
    Apart manager (manager.stopQueue now ids) := by
  induction ids generalizing manager with
  | nil => exact Apart.refl manager
  | cons id rest ih =>
    simp only [stopQueue, List.foldl_cons]
    split
    · exact ih manager
    · next task listed =>
      refine Apart.trans ?_ (ih _)
      have stopped := apart_modify manager task (stopQueued now) rfl rfl
        (fun queued => by cases queued)
      exact stopped.trans { Apart.refl _ with }

theorem apart_stopRunning (entries : List (String × Nat)) (manager : TaskManager) :
    Apart manager (manager.stopRunning entries) := by
  induction entries generalizing manager with
  | nil => exact Apart.refl manager
  | cons entry rest ih =>
    simp only [stopRunning, List.foldl_cons]
    split
    · refine Apart.trans ?_ (ih _)
      exact apart_modify manager entry.2 requestCancellation rfl rfl (fun queued => queued)
    · exact ih manager

theorem apart_stop (manager : TaskManager) (now : Int) (files : Except String Unit) :
    Apart manager (manager.stop now files) := by
  unfold TaskManager.stop
  split
  · exact { Apart.refl manager with }
  · have stopping : Apart manager { manager with stopping := true } := { Apart.refl manager with }
    have emptied := (stopping.trans (apart_stopQueue now manager.queue _)).trans
      (apart_stopRunning manager.tasks _)
    refine Apart.trans ?_ (apart_persistNoThrow _ _)
    exact emptied.trans { Apart.refl _ with }

section Moves

variable {manager : TaskManager} {index task : Nat}
variable {worker : Worker}

/-- A waiter queue after it has been replaced. -/
theorem waiters_setWaiters (manager : TaskManager) (key : String) (ids : List String)
    (other : String) :
    (manager.setWaiters key ids).waiters other =
      if other = key then ids else manager.waiters other := by
  unfold setWaiters waiters
  dsimp only
  split_ifs with empty same same
  · rw [same, lookup_eraseKey_self]
    exact (List.isEmpty_iff.mp empty).symm
  · rw [lookup_eraseKey_ne same]
  · rw [same, lookup_assign_self]
    rfl
  · rw [lookup_assign_ne same]

variable (scheduled : Scheduled manager) (found : manager.workers[index]? = some worker)
  (carries : worker.task? = some task)
include scheduled found carries

theorem Scheduled.moved_view {moved : Worker} (view : Worker → Option Nat)
    (carried : ∀ {other : Worker} {seen : Nat}, view other = some seen → other.task? = some seen)
    (same : moved.task? = some task) (seen : Nat) :
    (∃ other ∈ manager.workers.set index moved, view other = some seen) ↔
      (seen ≠ task ∧ ∃ other ∈ manager.workers, view other = some seen) ∨
      (seen = task ∧ view moved = some task) := by
  have inside : index < manager.workers.length := (List.getElem?_eq_some_iff.mp found).1
  constructor
  · intro ⟨other, member, sees⟩
    obtain ⟨place, atPlace⟩ := List.mem_iff_getElem?.mp member
    rcases getElem?_setWorker atPlace with ⟨rfl, rfl⟩ | ⟨elsewhere, old⟩
    · -- The moved worker sees its own task or nothing.
      have equal : seen = task := Option.some.inj ((carried sees).symm.trans same)
      subst equal
      exact .inr ⟨rfl, sees⟩
    · refine .inl ⟨?_, other, List.mem_of_getElem? old, sees⟩
      intro equal
      subst equal
      exact elsewhere (scheduled.carriedOnce _ _ _ _ seen old found (carried sees) carries)
  · intro cases
    rcases cases with ⟨differs, other, member, sees⟩ | ⟨equal, sees⟩
    · obtain ⟨place, atPlace⟩ := List.mem_iff_getElem?.mp member
      have elsewhere : index ≠ place := by
        intro equal
        subst equal
        obtain rfl := Option.some.inj (found.symm.trans atPlace)
        exact differs (Option.some.inj ((carried sees).symm.trans carries))
      refine ⟨other, List.mem_iff_getElem?.mpr ⟨place, ?_⟩, sees⟩
      rw [List.getElem?_set_ne elsewhere]
      exact atPlace
    · rw [equal]
      exact ⟨moved, List.mem_set inside moved, sees⟩

theorem Scheduled.unseen (view : Worker → Option Nat)
    (carried : ∀ {other : Worker} {seen : Nat}, view other = some seen → other.task? = some seen)
    (unseen : view worker = none) : ¬∃ other ∈ manager.workers, view other = some task := by
  intro ⟨other, member, sees⟩
  obtain ⟨place, atPlace⟩ := List.mem_iff_getElem?.mp member
  obtain rfl := scheduled.carriedOnce _ _ _ _ task atPlace found (carried sees) carries
  obtain rfl := Option.some.inj (atPlace.symm.trans found)
  rw [unseen] at sees
  cases sees

theorem Scheduled.carried_unique {other : Worker} {seen : Nat} (member : other ∈ manager.workers)
    (carries' : other.task? = some seen)
    (same : (manager.objects seen).id = (manager.objects task).id) : seen = task := by
  obtain ⟨place, atPlace⟩ := List.mem_iff_getElem?.mp member
  exact (scheduled.same_worker atPlace found carries' carries same).2

omit scheduled found carries

variable (guarded : Guarded manager)
include guarded

/-- A worker takes its task into, through or out of `acquireResource`: the tables follow it. -/
theorem Guarded.move (scheduled : Scheduled manager) (found : manager.workers[index]? = some worker)
    (carries : worker.task? = some task) (moved : Worker) (carries' : moved.task? = some task)
    (past : moved.approaches? = none) (changed : ManagementTask)
    (sameId : changed.id = (manager.objects task).id)
    (sameKey : changed.resourceKey = (manager.objects task).resourceKey)
    (sameState : changed.state = (manager.objects task).state) (owners : List (String × String))
    {table : List (String × List String)} {ids : List String}
    (queues : ∀ key, (table.lookup key).getD [] =
      if key = (manager.objects task).resourceKey then ids else manager.waiters key)
    (history : TaskHistory) {extra : List (String × String)}
    (arrivals : history.arrivals = manager.history.arrivals ++ extra) (joins : extra = [] ∨
      extra = [((manager.objects task).resourceKey, (manager.objects task).id)] ∧
        worker.approaches? = some task) (owned : ∀ key id, owners.lookup key = some id ↔
      ∃ seen, ((seen ≠ task ∧ manager.Holding seen) ∨ (seen = task ∧ moved.holds? = some task)) ∧
        (manager.objects seen).resourceKey = key ∧ (manager.objects seen).id = id)
    (waiting : ∀ id, id ∈ ids ↔
      ∃ seen, ((seen ≠ task ∧ manager.Waiting seen) ∨ (seen = task ∧ moved.waits? = some task)) ∧
        (manager.objects seen).resourceKey = (manager.objects task).resourceKey ∧
        (manager.objects seen).id = id) (nodup : ids.Nodup)
    (ordered : ids.Sublist (((manager.history.arrivals ++ extra).filter
      (·.1 = (manager.objects task).resourceKey)).map Prod.snd)) :
    Guarded { manager with
      objects := Function.update manager.objects task changed
      resourceOwners := owners
      resourceWaiters := table
      workers := manager.workers.set index moved
      history } := by
  have present := List.mem_of_getElem? found
  have inside := (scheduled.carried worker present task carries).1
  have live : manager.Live task := .inr ⟨worker, present, carries⟩
  have unqueued : changed.state ≠ .queued := by
    rw [sameState]
    intro queued
    exact scheduled.queued_free queued worker present carries
  -- No task changes its id or its resource.
  have names : ∀ seen, (Function.update manager.objects task changed seen).id =
      (manager.objects seen).id ∧ (Function.update manager.objects task changed seen).resourceKey =
      (manager.objects seen).resourceKey := by
    intro seen
    by_cases target : seen = task
    · rw [target, Function.update_self]
      exact ⟨sameId, sameKey⟩
    · rw [Function.update_of_ne target]
      exact ⟨rfl, rfl⟩
  have holds := scheduled.moved_view found carries Worker.holds? Worker.task?_of_holds carries'
  have waits := scheduled.moved_view found carries Worker.waits? Worker.task?_of_waits carries'
  have approaches := scheduled.moved_view found carries Worker.approaches?
    Worker.task?_of_approaches carries'
  refine ⟨?_, ?_, ?_, ?_, ?_, ?_, ?_⟩
  · intro key id
    refine (owned key id).trans (exists_congr ?_)
    intro seen
    obtain ⟨id', key'⟩ := names seen
    simp only [id', key']
    exact and_congr_left fun _ => (holds seen).symm
  · intro key id
    show id ∈ (table.lookup key).getD [] ↔ _
    rw [queues key]
    split
    · next here =>
      subst here
      refine (waiting id).trans (exists_congr ?_)
      intro seen
      obtain ⟨id', key'⟩ := names seen
      simp only [id', key']
      exact and_congr_left fun _ => (waits seen).symm
    · -- A queue of another resource does not see this task.
      next elsewhere =>
      rw [guarded.waiting key id]
      apply exists_congr
      intro seen
      obtain ⟨id', key'⟩ := names seen
      simp only [id', key']
      apply and_congr_left
      intro ⟨resource, _⟩
      have differs : seen ≠ task := by
        intro target
        rw [target] at resource
        exact elsewhere resource.symm
      exact ⟨fun known => (waits seen).mpr (.inl ⟨differs, known⟩),
        fun known => ((waits seen).mp known).elim (fun both => both.2)
          (fun both => absurd both.1 differs)⟩
  · intro key
    show List.Nodup ((table.lookup key).getD [])
    rw [queues key]
    split
    · exact nodup
    · exact guarded.waitersNodup key
  · intro key
    show List.Sublist ((table.lookup key).getD []) ((history.arrivals.filter (·.1 = key)).map Prod.snd)
    rw [queues key, arrivals]
    split
    · next here =>
      subst here
      exact ordered
    · refine (guarded.ordered key).trans ?_
      rw [List.filter_append, List.map_append]
      exact List.sublist_append_left _ _
  · show (history.arrivals.map Prod.snd).Nodup
    rw [arrivals]
    rcases joins with none | ⟨one, ahead⟩
    · rw [none, List.append_nil]
      exact guarded.arrivedOnce
    · have new := guarded.ahead task inside (.inr ⟨worker, present, ahead⟩)
      rw [one, List.map_append]
      exact List.Nodup.append guarded.arrivedOnce (by simp) (by simpa using new)
  · intro arrival member
    replace member : arrival ∈ history.arrivals := member
    rw [arrivals] at member
    rcases List.mem_append.mp member with old | added
    · exact guarded.arrived arrival old
    · rcases joins with none | ⟨one, -⟩
      · rw [none] at added
        cases added
      · rw [one] at added
        rw [List.mem_singleton.mp added]
        exact scheduled.minted task inside live
  · intro seen below ahead
    have other : seen ≠ task ∧ manager.Ahead seen := by
      rcases ahead with queued | approaching
      · have differs : seen ≠ task := by
          intro target
          rw [target] at queued
          simp only [Function.update_self] at queued
          exact unqueued queued
        simp only [Function.update_of_ne differs] at queued
        exact ⟨differs, .inl queued⟩
      · rcases (approaches seen).mp approaching with ⟨differs, known⟩ | ⟨-, wrong⟩
        · exact ⟨differs, .inr known⟩
        · rw [past] at wrong
          cases wrong
    show (Function.update manager.objects task changed seen).id ∉ history.arrivals.map Prod.snd
    rw [(names seen).1, arrivals, List.map_append, List.mem_append]
    intro listed
    rcases listed with old | added
    · exact guarded.ahead seen below other.2 old
    · rcases joins with none | ⟨one, -⟩
      · rw [none] at added
        cases added
      · -- The newcomer shares its id with no other living task.
        rw [one] at added
        have same : (manager.objects seen).id = (manager.objects task).id := by
          simpa using added
        have alive : manager.Live seen := by
          rcases other.2 with queued | ⟨carrier, member, approaching⟩
          · exact .inl (by rw [queued]; rfl)
          · exact .inr ⟨carrier, member, Worker.task?_of_approaches approaching⟩
        exact other.1 (scheduled.unique seen below task inside alive live same)

theorem Guarded.owned_past (free : ¬manager.Holding task) {moved : Worker}
    (empty : moved.holds? = none) (key id : String) :
    manager.resourceOwners.lookup key = some id ↔
      ∃ seen, ((seen ≠ task ∧ manager.Holding seen) ∨ (seen = task ∧ moved.holds? = some task)) ∧
        (manager.objects seen).resourceKey = key ∧ (manager.objects seen).id = id := by
  rw [guarded.owned key id]
  apply exists_congr
  intro seen
  apply and_congr_left
  intro _
  constructor
  · intro holding
    exact .inl ⟨fun target => free (target ▸ holding), holding⟩
  · intro cases
    rcases cases with ⟨-, holding⟩ | ⟨-, wrong⟩
    · exact holding
    · rw [empty] at wrong
      cases wrong

/-- A task joins the end of the waiter queue of its resource. -/
theorem Guarded.enter (scheduled : Scheduled manager)
    (found : manager.workers[index]? = some (.entering task)) (now : Int)
    (files : Except String Unit) :
    Guarded ((manager.enterAcquire task now files).setWorker index (.waiting task)) := by
  have free : ¬manager.Holding task :=
    scheduled.unseen found rfl Worker.holds? Worker.task?_of_holds rfl
  have absent : ¬manager.Waiting task :=
    scheduled.unseen found rfl Worker.waits? Worker.task?_of_waits rfl
  -- Nobody else has this id, so the queue does not hold it yet.
  have new : (manager.objects task).id ∉ manager.waiters (manager.objects task).resourceKey := by
    intro member
    obtain ⟨seen, ⟨other, listed, waits⟩, -, same⟩ := (guarded.waiting _ _).mp member
    have equal := scheduled.carried_unique found rfl listed (Worker.task?_of_waits waits) same
    subst equal
    exact absent ⟨other, listed, waits⟩
  have queues := waiters_setWaiters manager (manager.objects task).resourceKey
    (manager.waiters (manager.objects task).resourceKey ++ [(manager.objects task).id])
  have moved := guarded.move scheduled found rfl (.waiting task) rfl rfl
    ((manager.objects task).joinWait now) rfl rfl rfl manager.resourceOwners queues
    { manager.history with arrivals := manager.history.arrivals ++
      [((manager.objects task).resourceKey, (manager.objects task).id)] }
    rfl (.inr ⟨rfl, rfl⟩) (guarded.owned_past free rfl) ?_ ?_ ?_
  · obtain ⟨message, shape⟩ := persistLockedNoThrow_shape { (manager.setWaiters
        (manager.objects task).resourceKey (manager.waiters (manager.objects task).resourceKey ++
          [(manager.objects task).id])).modify task (joinWait now) with
      history := { manager.history with arrivals := manager.history.arrivals ++
        [((manager.objects task).resourceKey, (manager.objects task).id)] } } files
    have entered : manager.enterAcquire task now files = _ := shape
    rw [entered]
    exact { moved with }
  · intro id
    rw [List.mem_append, guarded.waiting, List.mem_singleton]
    constructor
    · intro cases
      rcases cases with ⟨seen, waiting, named⟩ | rfl
      · exact ⟨seen, .inl ⟨fun target => absent (target ▸ waiting), waiting⟩, named⟩
      · exact ⟨task, .inr ⟨rfl, rfl⟩, rfl, rfl⟩
    · intro ⟨seen, cases, resource, named⟩
      rcases cases with ⟨-, waiting⟩ | ⟨rfl, -⟩
      · exact .inl ⟨seen, waiting, resource, named⟩
      · exact .inr named.symm
  · exact List.Nodup.append (guarded.waitersNodup _) (by simp) (by simpa using new)
  · -- It arrived last, and it stands last.
    rw [List.filter_append, List.map_append]
    refine List.Sublist.append (guarded.ordered _) ?_
    simp

theorem Guarded.leave (scheduled : Scheduled manager)
    (found : manager.workers[index]? = some (.waiting task)) (later : Int) (error : TaskError) :
    Guarded (((manager.setWaiters (manager.objects task).resourceKey
      ((manager.waiters (manager.objects task).resourceKey).filter
        (· ≠ (manager.objects task).id))).modify task
          (leaveWait later)).setWorker index (.unwinding task false error)) := by
  have free : ¬manager.Holding task :=
    scheduled.unseen found rfl Worker.holds? Worker.task?_of_holds rfl
  have queues := waiters_setWaiters manager (manager.objects task).resourceKey
    ((manager.waiters (manager.objects task).resourceKey).filter (· ≠ (manager.objects task).id))
  have moved := guarded.move scheduled found rfl (.unwinding task false error) rfl rfl
    ((manager.objects task).leaveWait later) rfl rfl rfl manager.resourceOwners queues
    manager.history (List.append_nil _).symm (.inl rfl) (guarded.owned_past free rfl) ?_
    ((guarded.waitersNodup _).filter _) ?_
  · exact moved
  · intro id
    rw [List.mem_filter, guarded.waiting]
    constructor
    · intro ⟨⟨seen, waiting, resource, named⟩, stays⟩
      have differs : seen ≠ task := by
        intro target
        rw [target] at named
        simp [named] at stays
      exact ⟨seen, .inl ⟨differs, waiting⟩, resource, named⟩
    · intro ⟨seen, cases, resource, named⟩
      rcases cases with ⟨differs, waiting⟩ | ⟨-, wrong⟩
      · refine ⟨⟨seen, waiting, resource, named⟩, ?_⟩
        -- Another waiter with this id would be the same task.
        have other : id ≠ (manager.objects task).id := by
          intro same
          obtain ⟨carrier, listed, waits⟩ := waiting
          exact differs (scheduled.carried_unique found rfl listed (Worker.task?_of_waits waits)
            (named.trans same))
        simpa using other
      · cases wrong
  · rw [List.append_nil]
    exact List.filter_sublist.trans (guarded.ordered _)

/-- The head of the waiter queue is granted a resource that nobody owns. -/
theorem Guarded.grant (scheduled : Scheduled manager)
    (found : manager.workers[index]? = some (.waiting task)) (later : Int)
    (unowned : manager.resourceOwners.lookup (manager.objects task).resourceKey = none)
    (head : (manager.waiters (manager.objects task).resourceKey).head? =
      some (manager.objects task).id) :
    Guarded ({ (manager.setWaiters (manager.objects task).resourceKey
        (manager.waiters (manager.objects task).resourceKey).tail).modify task
          (grant later) with
      resourceOwners := assign (manager.objects task).resourceKey (manager.objects task).id
        manager.resourceOwners }.setWorker index (.owning task)) := by
  have free : ¬manager.Holding task :=
    scheduled.unseen found rfl Worker.holds? Worker.task?_of_holds rfl
  have queue : manager.waiters (manager.objects task).resourceKey = (manager.objects task).id ::
      (manager.waiters (manager.objects task).resourceKey).tail :=
    List.eq_cons_of_mem_head? head
  have nodup := guarded.waitersNodup (manager.objects task).resourceKey
  rw [queue, List.nodup_cons] at nodup
  have queues := waiters_setWaiters manager (manager.objects task).resourceKey
    (manager.waiters (manager.objects task).resourceKey).tail
  have moved := guarded.move scheduled found rfl (.owning task) rfl rfl
    ((manager.objects task).grant later) rfl rfl rfl
    (assign (manager.objects task).resourceKey (manager.objects task).id manager.resourceOwners)
    queues manager.history (List.append_nil _).symm (.inl rfl) ?_ ?_ nodup.2 ?_
  · exact moved
  · intro key id
    by_cases here : key = (manager.objects task).resourceKey
    · -- Nobody held this resource, so the new owner is the only one.
      rw [here, lookup_assign_self]
      constructor
      · intro same
        exact ⟨task, .inr ⟨rfl, rfl⟩, rfl, Option.some.inj same⟩
      · intro ⟨seen, cases, resource, named⟩
        rcases cases with ⟨-, holding⟩ | ⟨rfl, -⟩
        · have listed := (guarded.owned _ _).mpr ⟨seen, holding, resource, rfl⟩
          rw [unowned] at listed
          cases listed
        · rw [named]
    · rw [lookup_assign_ne here, guarded.owned key id]
      apply exists_congr
      intro seen
      apply and_congr_left
      intro ⟨resource, _⟩
      constructor
      · intro holding
        exact .inl ⟨fun target => free (target ▸ holding), holding⟩
      · intro cases
        rcases cases with ⟨-, holding⟩ | ⟨rfl, -⟩
        · exact holding
        · exact absurd resource.symm here
  · intro id
    have known := guarded.waiting (manager.objects task).resourceKey id
    rw [queue, List.mem_cons] at known
    constructor
    · intro member
      obtain ⟨seen, waiting, resource, named⟩ := known.mp (.inr member)
      have differs : seen ≠ task := by
        intro target
        rw [target] at named
        exact nodup.1 (named ▸ member)
      exact ⟨seen, .inl ⟨differs, waiting⟩, resource, named⟩
    · intro ⟨seen, cases, resource, named⟩
      rcases cases with ⟨differs, waiting⟩ | ⟨-, wrong⟩
      · rcases known.mpr ⟨seen, waiting, resource, named⟩ with same | member
        · obtain ⟨carrier, listed, waits⟩ := waiting
          exact absurd (scheduled.carried_unique found rfl listed (Worker.task?_of_waits waits)
            (named.trans same)) differs
        · exact member
      · cases wrong
  · rw [List.append_nil]
    exact (List.tail_sublist _).trans (guarded.ordered _)

/-- A task that held its resource gives it back. -/
theorem Guarded.release (scheduled : Scheduled manager) {acquired : Bool}
    (found : manager.workers[index]? = some (.releasing task acquired)) :
    Guarded ((manager.releaseResource task).setWorker index (.finishing task)) := by
  have absent : ¬manager.Waiting task :=
    scheduled.unseen found rfl Worker.waits? Worker.task?_of_waits (by cases acquired <;> rfl)
  unfold releaseResource
  dsimp only
  split
  · next mine =>
    -- The id in the owner table is this task's, so this task holds the resource.
    have queues : ∀ key, (manager.resourceWaiters.lookup key).getD [] =
        if key = (manager.objects task).resourceKey then
          manager.waiters (manager.objects task).resourceKey else manager.waiters key := by
      intro key
      split
      · next here =>
        rw [here]
        rfl
      · rfl
    have moved := guarded.move scheduled found rfl (.finishing task) rfl rfl
      (manager.objects task) rfl rfl rfl
      (eraseKey (manager.objects task).resourceKey manager.resourceOwners) queues manager.history
      (List.append_nil _).symm (.inl rfl) ?_ ?_ (guarded.waitersNodup _) ?_
    · rw [Function.update_eq_self] at moved
      exact moved
    · intro key id
      by_cases here : key = (manager.objects task).resourceKey
      · rw [here, lookup_eraseKey_self]
        refine ⟨fun wrong => (by cases wrong), ?_⟩
        intro ⟨seen, cases, resource, named⟩
        rcases cases with ⟨differs, holding⟩ | ⟨-, wrong⟩
        · -- Two owners of one resource would have one id.
          have listed := (guarded.owned _ _).mpr ⟨seen, holding, resource, rfl⟩
          have same := Option.some.inj (listed.symm.trans mine)
          obtain ⟨carrier, member, holds⟩ := holding
          exact absurd (scheduled.carried_unique found rfl member (Worker.task?_of_holds holds)
            same) differs
        · cases wrong
      · rw [lookup_eraseKey_ne here, guarded.owned key id]
        apply exists_congr
        intro seen
        apply and_congr_left
        intro ⟨resource, _⟩
        have differs : seen ≠ task := by
          intro target
          rw [target] at resource
          exact here resource.symm
        exact ⟨fun holding => .inl ⟨differs, holding⟩, fun cases => cases.elim
          (fun both => both.2) (fun both => absurd both.1 differs)⟩
    · intro id
      rw [guarded.waiting]
      apply exists_congr
      intro seen
      apply and_congr_left
      intro _
      exact ⟨fun waiting => .inl ⟨fun target => absent (target ▸ waiting), waiting⟩,
        fun cases => cases.elim (fun both => both.2) (fun both => by cases both.2)⟩
    · rw [List.append_nil]
      exact guarded.ordered _
  · next other =>
    -- The task never got its resource, so giving it back changes nothing.
    have unacquired : acquired = false := by
      cases acquired with
      | false => rfl
      | true =>
        exact absurd ((guarded.owned _ _).mpr
          ⟨task, ⟨_, List.mem_of_getElem? found, rfl⟩, rfl, rfl⟩) other
    subst unacquired
    exact guarded.apart scheduled (apart_setWorker found (.finishing task) rfl rfl
      (fun other approaching => by cases approaching))

theorem Guarded.acquireTurn (scheduled : Scheduled manager)
    (found : manager.workers[index]? = some (.waiting task)) (now later : Int)
    (files : Except String Unit) :
    Guarded (manager.acquireTurn index task now later files) := by
  -- A blocked task notes its blocker and goes on waiting.
  have blocked : ∀ owner, Guarded ((manager.modify task (block owner)).setWorker
      index (.waiting task)) := by
    intro owner
    have noted := apart_modify manager task (block owner) rfl rfl (fun queued => queued)
    have stands : (manager.modify task (block owner)).workers[index]? =
        some (.waiting task) := found
    exact guarded.apart scheduled (noted.trans (apart_setWorker stands (.waiting task) rfl rfl
      (fun other approaching => by cases approaching)))
  unfold TaskManager.acquireTurn
  dsimp only
  split
  · exact guarded.leave scheduled found later _
  · split
    · exact blocked _
    · next unowned =>
      split
      · next head =>
        obtain ⟨message, shape⟩ := persistLockedNoThrow_shape
          ({ (manager.setWaiters (manager.objects task).resourceKey
              (manager.waiters (manager.objects task).resourceKey).tail).modify task
                (ManagementTask.grant later) with
            resourceOwners := assign (manager.objects task).resourceKey (manager.objects task).id
              manager.resourceOwners }.setWorker index (.owning task)) files
        have granted := guarded.grant scheduled found later unowned head
        refine Eq.mpr (congrArg Guarded shape) ?_
        exact { granted with }
      · exact blocked _

omit guarded

/-- A turn of the waiting loop decides anew where its worker stands. -/
theorem acquireTurn_setWorker (manager : TaskManager) (index task : Nat) (worker : Worker)
    (now later : Int) (files : Except String Unit) :
    (manager.setWorker index worker).acquireTurn index task now later files =
      manager.acquireTurn index task now later files := by
  unfold TaskManager.acquireTurn
  simp only [TaskManager.setWorker, TaskManager.setWaiters, TaskManager.modify,
    TaskManager.waiters, List.set_set]
  rfl

end Moves

/-- The invariant of the resources, beside that of the tasks. -/
structure Fair (manager : TaskManager) : Prop where
  lifecycle : Lifecycle manager
  guarded : Guarded manager

variable {manager : TaskManager} (fair : Fair manager)
include fair

theorem Fair.enter {index task : Nat} (found : manager.workers[index]? = some (.entering task))
    (now : Int) (files : Except String Unit) :
    Fair ((manager.enterAcquire task now files).setWorker index (.waiting task)) := by
  have frame := frame_enterAcquire manager task now files
  refine ⟨(fair.lifecycle.frame frame).setWorker (by rw [frame.workers]; exact found) _ ?_,
    fair.guarded.enter fair.lifecycle.scheduled found now files⟩
  intro other carries
  exact ⟨carries, rfl, fun _ => rfl⟩

theorem Fair.read (now : Int) : Fair (manager.read now) :=
  ⟨fair.lifecycle.frame (frame_read manager now), { fair.guarded with }⟩

/-- A worker that moves between two places outside the resources. -/
theorem Fair.pass {index : Nat} {worker : Worker} (found : manager.workers[index]? = some worker)
    (moved : Worker) (holds : moved.holds? = worker.holds?) (waits : moved.waits? = worker.waits?)
    (approaches : moved.approaches? = none ∨ moved.approaches? = worker.approaches?) :
    Guarded (manager.setWorker index moved) := by
  refine fair.guarded.apart fair.lifecycle.scheduled (apart_setWorker found moved holds waits ?_)
  intro task approaching
  rcases approaches with none | same
  · rw [none] at approaching
    cases approaching
  · exact .inl (same ▸ approaching)

theorem Fair.guarded_workerStep (index : Nat) (input : WorkerInput) :
    Guarded (manager.workerStep index input) := by
  have scheduled := fair.lifecycle.scheduled
  have read := fair.read input.now
  unfold workerStep
  split
  · exact fair.guarded
  · next found => exact fair.guarded.apart scheduled (apart_scanStep found input)
  · exact fair.guarded
  · next task found =>
    -- Between the pick and `acquireResource` nothing is held and nothing is waited for.
    split
    · exact read.pass found _ rfl rfl (.inl rfl)
    · exact read.pass found _ rfl rfl (.inr rfl)
  · next task found =>
    have entered := read.enter found input.now input.files
    rw [← acquireTurn_setWorker _ index task (.waiting task)]
    refine entered.guarded.acquireTurn entered.lifecycle.scheduled ?_ _ _ _
    have inside := (List.getElem?_eq_some_iff.mp found).1
    simp only [setWorker]
    rw [(frame_enterAcquire (manager.read input.now) task input.now input.files).workers]
    exact List.getElem?_set_self inside
  · next task found => exact read.guarded.acquireTurn read.lifecycle.scheduled found _ _ _
  · next task found =>
    -- From here on the resource is held until it is given back.
    split
    · exact fair.pass found _ rfl rfl (.inl rfl)
    · have called := fair.pass found (.executing task) rfl rfl (.inl rfl)
      exact { called with }
  · next task found =>
    split
    · exact fair.pass found _ rfl rfl (.inl rfl)
    · exact fair.pass found _ rfl rfl (.inl rfl)
  · next task result found =>
    split
    · exact read.pass found _ rfl rfl (.inl rfl)
    · exact read.pass found _ rfl rfl (.inl rfl)
  · next task result found =>
    have moved := apart_setWorker found (.releasing task true) rfl rfl
      (fun other approaching => by cases approaching)
    exact fair.guarded.apart scheduled (moved.trans (apart_modify _ task
      (succeed result) rfl rfl (fun queued => by cases queued)))
  · next task acquired error found =>
    have moved := apart_setWorker found (.releasing task acquired) (by cases acquired <;> rfl) rfl
      (fun other approaching => by cases approaching)
    refine fair.guarded.apart scheduled (moved.trans (apart_modify _ task
      (ManagementTask.fail error) rfl rfl ?_))
    intro queued
    cases error <;> cases queued
  · next task acquired found => exact fair.guarded.release scheduled found
  · next task found =>
    have moved := apart_setWorker found .scanning rfl rfl
      (fun other approaching => by cases approaching)
    have finished := moved.trans (apart_modify _ task (ManagementTask.finish input.now) rfl rfl
      (fun queued => queued))
    exact fair.guarded.apart scheduled ((finished.trans (apart_prune _)).trans
      (apart_persistNoThrow _ _))

/-- Every event keeps both invariants. -/
theorem Fair.step (event : TaskEvent) : Fair (manager.step event) := by
  refine ⟨fair.lifecycle.step event, ?_⟩
  have read := fair.read
  cases event with
  | submit request now files =>
    exact (read now).guarded.apart (read now).lifecycle.scheduled
      (apart_submit (read now).lifecycle.scheduled request now files)
  | cancel id now files =>
    exact (read now).guarded.apart (read now).lifecycle.scheduled (apart_cancel _ id now files)
  | stop now files =>
    exact (read now).guarded.apart (read now).lifecycle.scheduled (apart_stop _ now files)
  | worker index input => exact fair.guarded_workerStep index input
  | joined =>
    show Guarded manager.joined
    unfold TaskManager.joined
    split
    · next finished =>
      -- Exited workers hold nothing and wait for nothing.
      have exited : ∀ worker ∈ manager.workers, worker = .exited := by
        intro worker member
        have all := List.all_eq_true.mp (Bool.and_eq_true_iff.mp finished).2 worker member
        cases worker <;> first | rfl | cases all
      have none : ∀ (view : Worker → Option Nat), view .exited = none → ∀ task,
          ¬∃ worker ∈ manager.workers, view worker = some task := by
        intro view silent task ⟨worker, member, sees⟩
        rw [exited worker member, silent] at sees
        cases sees
      refine fair.guarded.apart fair.lifecycle.scheduled { Apart.refl manager with
        holding := ?_, waiting := ?_, ahead := ?_ }
      · intro task
        refine ⟨fun holding => ?_, fun holding => absurd holding (none _ rfl task)⟩
        obtain ⟨worker, member, -⟩ := holding
        cases member
      · intro task
        refine ⟨fun waiting => ?_, fun waiting => absurd waiting (none _ rfl task)⟩
        obtain ⟨worker, member, -⟩ := waiting
        cases member
      · intro task inside ahead
        rcases ahead with queued | ⟨worker, member, -⟩
        · exact .inl ⟨inside, .inl queued⟩
        · cases member
    · exact fair.guarded
  | rehash entries =>
    show Guarded (if entries.isPerm manager.tasks then _ else _)
    split
    · exact { fair.guarded with }
    · exact fair.guarded

omit fair

theorem loadLocked_resources (library : JsonLibrary) (manager : TaskManager)
    (current : Option String) (now : Int) (files : Except String Unit) :
    (manager.loadLocked library current now files).resourceOwners = manager.resourceOwners ∧
      (manager.loadLocked library current now files).resourceWaiters = manager.resourceWaiters ∧
      (manager.loadLocked library current now files).history = manager.history := by
  have adopted : ∀ (tasks : List ManagementTask) (manager : TaskManager),
      (tasks.foldl adopt manager).resourceOwners = manager.resourceOwners ∧
      (tasks.foldl adopt manager).resourceWaiters = manager.resourceWaiters ∧
      (tasks.foldl adopt manager).history = manager.history := by
    intro tasks
    induction tasks with
    | nil => exact fun manager => ⟨rfl, rfl, rfl⟩
    | cons task rest ih => exact fun manager => ih (manager.adopt task)
  unfold loadLocked
  dsimp only
  split
  · split
    · exact ⟨rfl, rfl, rfl⟩
    · next records read =>
      generalize loadTasks library manager.retention now records = tasks
      obtain ⟨table, order, pruned⟩ := pruneLocked_shape (tasks.foldl adopt
        { manager with allocated := 0, tasks := [], queue := [], order := [] })
      rw [pruned]
      obtain ⟨message, written⟩ := persistLockedNoThrow_shape { tasks.foldl adopt
            { manager with allocated := 0, tasks := [], queue := [], order := [] } with
          tasks := table, order } files
      rw [written]
      exact adopted tasks _
  · exact ⟨rfl, rfl, rfl⟩

theorem start_fair (library : JsonLibrary) (settings : TaskSettings) (current : Option String)
    (now : Int) (files : Except String Unit) :
    Fair (TaskManager.start library settings current now files) := by
  obtain ⟨owners, waiters, history⟩ := loadLocked_resources library settings.configured current
    now files
  have quiet := start_quiet library settings current now files
  -- The first workers have nothing yet, and neither have the tables.
  have none : ∀ (view : Worker → Option Nat), view .scanning = none → ∀ task,
      ¬∃ worker ∈ (TaskManager.start library settings current now files).workers,
        view worker = some task := by
    intro view silent task ⟨worker, member, sees⟩
    rw [List.eq_of_mem_replicate member, silent] at sees
    cases sees
  have empty : ∀ key, (TaskManager.start library settings current now files).waiters key = [] := by
    intro key
    show ((settings.configured.loadLocked library current now files).resourceWaiters.lookup
      key).getD [] = []
    rw [waiters]
    rfl
  have arrivals : (TaskManager.start library settings current now files).history.arrivals = [] := by
    show (settings.configured.loadLocked library current now files).history.arrivals = []
    rw [history]
    rfl
  refine ⟨quiet.lifecycle, ?_, ?_, ?_, ?_, ?_, ?_, ?_⟩
  · intro key id
    show (settings.configured.loadLocked library current now files).resourceOwners.lookup key =
      some id ↔ _
    rw [owners]
    refine ⟨fun wrong => (by cases wrong), ?_⟩
    intro ⟨task, holding, _⟩
    exact absurd holding (none _ rfl task)
  · intro key id
    rw [empty]
    refine ⟨fun wrong => (by cases wrong), ?_⟩
    intro ⟨task, waiting, _⟩
    exact absurd waiting (none _ rfl task)
  · intro key
    rw [empty]
    exact List.nodup_nil
  · intro key
    rw [empty]
    exact List.nil_sublist _
  · rw [arrivals]
    exact List.nodup_nil
  · rw [arrivals]
    intro arrival member
    cases member
  · rw [arrivals]
    intro task _ _ member
    cases member

/-- Whoever a step grants a resource was first in the queue among all who still wait for it. -/
def FirstServed (before after : TaskManager) : Prop :=
  ∀ index task : Nat, before.workers[index]? ≠ some (.owning task) →
    after.workers[index]? = some (.owning task) →
    (∀ other ∈ before.waiters (after.objects task).resourceKey,
      other ∈ (after.objects task).id :: after.waiters (after.objects task).resourceKey) ∧
    ((after.objects task).id :: after.waiters (after.objects task).resourceKey).Sublist
      (after.arrivals (after.objects task).resourceKey)

section Service

variable {before middle after : TaskManager}

/-- A step after which no worker newly owns a resource grants nothing. -/
theorem FirstServed.of_workers (same : ∀ index task : Nat,
    after.workers[index]? = some (.owning task) → before.workers[index]? = some (.owning task)) :
    FirstServed before after := by
  intro index task new owning
  exact absurd (same index task owning) new

/-- What happens before a grant may only add waiters. -/
theorem FirstServed.later (grown : ∀ key, ∀ other ∈ before.waiters key, other ∈ middle.waiters key)
    (same : ∀ index task : Nat, middle.workers[index]? = some (.owning task) →
      before.workers[index]? = some (.owning task)) (served : FirstServed middle after) :
    FirstServed before after := by
  intro index task new owning
  obtain ⟨survivors, ordered⟩ := served index task (fun known => new (same index task known)) owning
  exact ⟨fun other member => survivors other (grown _ other member), ordered⟩

theorem owning_set {workers : List Worker} {index : Nat} {moved : Worker}
    (other : ∀ task, moved ≠ .owning task) (place task : Nat)
    (owning : (workers.set index moved)[place]? = some (.owning task)) :
    workers[place]? = some (.owning task) := by
  rcases getElem?_setWorker owning with ⟨-, same⟩ | ⟨-, old⟩
  · exact absurd same.symm (other task)
  · exact old

theorem FirstServed.grant {index task : Nat} {key id : String}
    (workers : after.workers = before.workers.set index (.owning task))
    (sameKey : (after.objects task).resourceKey = key) (sameId : (after.objects task).id = id)
    (queue : before.waiters key = id :: after.waiters key)
    (ordered : (before.waiters key).Sublist (before.arrivals key))
    (arrivals : after.arrivals key = before.arrivals key) : FirstServed before after := by
  intro place other new owning
  rw [workers] at owning
  rcases getElem?_setWorker owning with ⟨-, same⟩ | ⟨-, old⟩
  · injection same with same
    rw [same, sameKey, sameId, ← queue, arrivals]
    exact ⟨fun waiter member => member, ordered⟩
  · exact absurd old new

end Service

/-- The waiting loop grants a resource only to the head of its queue. -/
theorem Guarded.served {manager : TaskManager} (guarded : Guarded manager) {index task : Nat}
    (now later : Int) (files : Except String Unit) :
    FirstServed manager (manager.acquireTurn index task now later files) := by
  unfold TaskManager.acquireTurn
  dsimp only
  split
  · exact .of_workers (owning_set (fun task wrong => by cases wrong))
  · split
    · exact .of_workers (owning_set (fun task wrong => by cases wrong))
    · split
      · next head =>
        obtain ⟨message, shape⟩ := persistLockedNoThrow_shape
          ({ (manager.setWaiters (manager.objects task).resourceKey
              (manager.waiters (manager.objects task).resourceKey).tail).modify task
                (ManagementTask.grant later) with
            resourceOwners := assign (manager.objects task).resourceKey (manager.objects task).id
              manager.resourceOwners }.setWorker index (.owning task)) files
        refine Eq.mpr (congrArg (FirstServed manager) shape) ?_
        have left := waiters_setWaiters manager (manager.objects task).resourceKey
          (manager.waiters (manager.objects task).resourceKey).tail
          (manager.objects task).resourceKey
        rw [if_pos rfl] at left
        have queue := List.eq_cons_of_mem_head? head
        rw [← left] at queue
        have object : Function.update manager.objects task ((manager.objects task).grant later)
            task = (manager.objects task).grant later := Function.update_self _ _ _
        exact .grant rfl (congrArg resourceKey object)
          (congrArg ManagementTask.id object) queue (guarded.ordered _) rfl
      · exact .of_workers (owning_set (fun task wrong => by cases wrong))

/-- Joining a queue appends to it and leaves the other queues alone. -/
theorem waiters_enterAcquire (manager : TaskManager) (task : Nat) (now : Int)
    (files : Except String Unit) (key : String) :
    (manager.enterAcquire task now files).waiters key =
      if key = (manager.objects task).resourceKey then
        manager.waiters (manager.objects task).resourceKey ++ [(manager.objects task).id]
      else manager.waiters key := by
  obtain ⟨message, shape⟩ := persistLockedNoThrow_shape { (manager.setWaiters
      (manager.objects task).resourceKey (manager.waiters (manager.objects task).resourceKey ++
        [(manager.objects task).id])).modify task (joinWait now) with
    history := { manager.history with arrivals := manager.history.arrivals ++
      [((manager.objects task).resourceKey, (manager.objects task).id)] } } files
  have entered : manager.enterAcquire task now files = _ := shape
  rw [entered]
  exact waiters_setWaiters manager (manager.objects task).resourceKey _ key

theorem served_scanStep (manager : TaskManager) (index : Nat) (input : WorkerInput) :
    FirstServed manager (manager.scanStep index input) := by
  apply FirstServed.of_workers
  intro place task owning
  unfold scanStep at owning
  obtain ⟨workers, -⟩ := scan_workers input.now input.files manager.queue (manager.read input.now)
  split at owning
  · split at owning
    · exact owning_set (fun task wrong => by cases wrong) place task owning
    · exact owning
  · dsimp only at owning
    -- Whatever the look found, the workers it started from are the same.
    rw [← show _ = manager.workers from workers]
    split at owning
    · rw [(frame_persistNoThrow _ _).workers] at owning
      exact owning_set (fun task wrong => by cases wrong) place task owning
    · split at owning
      · exact owning_set (fun task wrong => by cases wrong) place task owning
      · exact owning

/-- Only a worker's own step moves it, and only the waiting loop makes it an owner. -/
theorem Fair.served_workerStep {manager : TaskManager} (fair : Fair manager) (index : Nat)
    (input : WorkerInput) : FirstServed manager (manager.workerStep index input) := by
  have read := fair.read input.now
  unfold workerStep
  split
  · exact .of_workers fun _ _ owning => owning
  · exact served_scanStep manager index input
  · exact .of_workers fun _ _ owning => owning
  · split <;> exact .of_workers (owning_set (fun task wrong => by cases wrong))
  · next task found =>
    have entered := read.enter found input.now input.files
    rw [← acquireTurn_setWorker _ index task (.waiting task)]
    refine FirstServed.later ?_ ?_ (entered.guarded.served _ _ _)
    · -- Joining the queue only adds to it.
      intro key other member
      show other ∈ ((manager.read input.now).enterAcquire task input.now input.files).waiters key
      rw [waiters_enterAcquire]
      split
      · next here =>
        rw [here] at member
        exact List.mem_append_left _ member
      · exact member
    · intro place other owning
      have known := owning_set (fun task wrong => by cases wrong) place other owning
      rw [(frame_enterAcquire (manager.read input.now) task input.now input.files).workers] at known
      exact known
  · exact read.guarded.served _ _ _
  · split <;> exact .of_workers (owning_set (fun task wrong => by cases wrong))
  · split <;> exact .of_workers (owning_set (fun task wrong => by cases wrong))
  · split <;> exact .of_workers (owning_set (fun task wrong => by cases wrong))
  · exact .of_workers (owning_set (fun task wrong => by cases wrong))
  · exact .of_workers (owning_set (fun task wrong => by cases wrong))
  · next task acquired found =>
    unfold releaseResource
    dsimp only
    split <;> exact .of_workers (owning_set (fun task wrong => by cases wrong))
  · next task found =>
    apply FirstServed.of_workers
    intro place other owning
    rw [(frame_persistNoThrow _ _).workers, (frame_prune _).workers] at owning
    exact owning_set (fun task wrong => by cases wrong) place other owning

theorem stopQueue_workers (now : Int) (ids : List String) (manager : TaskManager) :
    (manager.stopQueue now ids).workers = manager.workers := by
  induction ids generalizing manager with
  | nil => rfl
  | cons id rest ih =>
    simp only [stopQueue, List.foldl_cons]
    split
    · exact ih manager
    · exact ih _

/-- Every event serves the waiters of a resource in the order of their arrival. -/
theorem Fair.served {manager : TaskManager} (fair : Fair manager) (event : TaskEvent) :
    FirstServed manager (manager.step event) := by
  have same : ∀ {after : TaskManager}, after.workers = manager.workers →
      FirstServed manager after := by
    intro after workers
    exact .of_workers fun place task owning => workers ▸ owning
  cases event with
  | submit request now files =>
    apply same
    simp only [TaskManager.step, TaskManager.submit]
    split_ifs
    · rfl
    · rfl
    · obtain ⟨tasks, order, pruned⟩ := pruneLocked_shape
        ((manager.read now).enqueue (request.task now (manager.read now).sequence))
      rw [pruned]
      split
      · next persisted done =>
        obtain ⟨message, shape⟩ := persistLocked_shape done
        rw [shape]
        rfl
      · rfl
  | cancel id now files =>
    apply same
    simp only [TaskManager.step, TaskManager.cancel]
    split
    · rfl
    · rw [(frame_persistNoThrow _ _).workers]
      split <;> rfl
  | stop now files =>
    apply same
    simp only [TaskManager.step, TaskManager.stop]
    split
    · rfl
    · rw [(frame_persistNoThrow _ _).workers]
      show (stopRunning _ _).workers = _
      rw [(frame_stopRunning _ _).workers, stopQueue_workers]
      rfl
  | worker index input => exact fair.served_workerStep index input
  | joined =>
    simp only [TaskManager.step, TaskManager.joined]
    split
    · exact .of_workers fun place task owning => by cases owning
    · exact same rfl
  | rehash entries =>
    apply same
    simp only [TaskManager.step]
    split <;> rfl

/-- Mutual exclusion, as every reachable manager keeps it. -/
structure ResourcesExclusive (manager : TaskManager) : Prop where
  /-- A resource has at most one worker between its `acquireResource` and `releaseResource`. -/
  oneHolder : ∀ (first second : Nat) (left right : Worker) (task other : Nat),
    manager.workers[first]? = some left → manager.workers[second]? = some right →
    left.holds? = some task → right.holds? = some other →
    (manager.objects task).resourceKey = (manager.objects other).resourceKey →
    first = second ∧ task = other
  /-- The owner table names exactly the tasks that hold their resource. -/
  owned : ∀ key id, manager.resourceOwners.lookup key = some id ↔
    ∃ task, manager.Holding task ∧ (manager.objects task).resourceKey = key ∧
      (manager.objects task).id = id
  /-- The waiter queues name exactly the tasks that wait, each of them once. -/
  waiting : ∀ key id, id ∈ manager.waiters key ↔
    ∃ task, manager.Waiting task ∧ (manager.objects task).resourceKey = key ∧
      (manager.objects task).id = id
  waitersNodup : ∀ key, (manager.waiters key).Nodup
  /-- The queues are in the order of arrival, and nobody arrives twice. -/
  ordered : ∀ key, (manager.waiters key).Sublist (manager.arrivals key)
  arrivedOnce : ∀ key, (manager.arrivals key).Nodup
  /-- A carried task that neither holds nor waits is in neither structure. -/
  gone : ∀ worker ∈ manager.workers, ∀ task, worker.task? = some task → worker.holds? = none →
    worker.waits? = none → ∀ key, manager.resourceOwners.lookup key ≠ some (manager.objects task).id ∧
      (manager.objects task).id ∉ manager.waiters key

theorem Fair.exclusive {manager : TaskManager} (fair : Fair manager) : ResourcesExclusive manager := by
  obtain ⟨⟨scheduled, -⟩, guarded⟩ := fair
  refine ⟨?_, guarded.owned, guarded.waiting, guarded.waitersNodup, guarded.ordered, ?_, ?_⟩
  · intro first second left right task other atFirst atSecond holds holds' same
    -- Both are the owner of that resource, so their ids agree.
    have owner := (guarded.owned _ _).mpr
      ⟨task, ⟨left, List.mem_of_getElem? atFirst, holds⟩, rfl, rfl⟩
    have owner' := (guarded.owned _ _).mpr
      ⟨other, ⟨right, List.mem_of_getElem? atSecond, holds'⟩, rfl, rfl⟩
    rw [same] at owner
    exact scheduled.same_worker atFirst atSecond (Worker.task?_of_holds holds)
      (Worker.task?_of_holds holds') (Option.some.inj (owner.symm.trans owner'))
  · intro key
    exact guarded.arrivedOnce.sublist (List.filter_sublist.map Prod.snd)
  · intro worker member task carries free idle key
    obtain ⟨index, found⟩ := List.mem_iff_getElem?.mp member
    constructor
    · intro owned
      obtain ⟨seen, ⟨other, listed, holds⟩, -, named⟩ := (guarded.owned _ _).mp owned
      have equal := scheduled.carried_unique found carries listed (Worker.task?_of_holds holds) named
      subst equal
      exact scheduled.unseen found carries Worker.holds? Worker.task?_of_holds free
        ⟨other, listed, holds⟩
    · intro queued
      obtain ⟨seen, ⟨other, listed, waits⟩, -, named⟩ := (guarded.waiting _ _).mp queued
      have equal := scheduled.carried_unique found carries listed (Worker.task?_of_waits waits) named
      subst equal
      exact scheduled.unseen found carries Worker.waits? Worker.task?_of_waits idle
        ⟨other, listed, waits⟩

/-- Resources are held one at a time and granted in the order of arrival, in every run. -/
theorem resources_exclusive_and_fair (library : JsonLibrary) (settings : TaskSettings)
    (current : Option String) (now : Int) (files : Except String Unit)
    (events : List TaskEvent) :
    let start := TaskManager.start library settings current now files
    Along TaskManager.step (fun manager event => FirstServed manager (manager.step event)) start
      events ∧
    ResourcesExclusive (events.foldl TaskManager.step start) := by
  intro start
  have initial : Fair start := start_fair library settings current now files
  have kept : ∀ manager event, Fair manager → True → Fair (TaskManager.step manager event) :=
    fun manager event fair _ => fair.step event
  refine ⟨Along.of_invariant kept (fun manager event fair _ => fair.served event) initial
    (Along.free _ _), ?_⟩
  exact (Along.invariant kept initial (Along.free _ _)).exclusive

end PocoDDS.Monitoring
