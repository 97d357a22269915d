import PocoDDS.Monitoring.TaskRestart

/-! A submission that fails: what is left of the retained tasks, their order and the queue. -/

namespace PocoDDS.Monitoring

open AssocList JsonModel

section Pruning

variable {manager : TaskManager}

/-- A turn of the pruning loop makes the order no longer. -/
theorem pruneOnce_order_le (manager : TaskManager) :
    manager.pruneOnce.order.length ≤ manager.order.length := by
  unfold TaskManager.pruneOnce
  split
  · exact Nat.le_refl _
  · exact List.erase_sublist.length_le

/-- Where an id may be dropped, a turn drops one. -/
theorem pruneOnce_order_lt {id : String} (listed : id ∈ manager.order)
    (removable : manager.removable id = true) :
    manager.pruneOnce.order.length < manager.order.length := by
  unfold TaskManager.pruneOnce
  split
  · next none =>
    have kept := List.find?_eq_none.mp none id listed
    exact absurd removable kept
  · next dropped found =>
    have inside := List.mem_of_find?_eq_some found
    show (manager.order.erase dropped).length < _
    rw [List.length_erase_of_mem inside]
    exact Nat.sub_lt (List.length_pos_of_mem inside) Nat.one_pos

theorem pruneOnce_iterate_order_le (manager : TaskManager) (turns : Nat) :
    (TaskManager.pruneOnce^[turns] manager).order.length ≤ manager.order.length := by
  induction turns generalizing manager with
  | zero => exact Nat.le_refl _
  | succ turns ih => exact (ih manager.pruneOnce).trans (pruneOnce_order_le manager)

/-- Nothing is pruned where there is room, or where nothing may be dropped. -/
theorem pruneLocked_eq_self (kept : manager.order.length ≤ manager.retention ∨
    ∀ id ∈ manager.order, manager.removable id = false) : manager.pruneLocked = manager := by
  unfold TaskManager.pruneLocked
  rcases kept with room | active
  · rw [Nat.sub_eq_zero_of_le room]
    rfl
  · refine Function.iterate_fixed ?_ _
    unfold TaskManager.pruneOnce
    have none : manager.order.find? manager.removable = none :=
      List.find?_eq_none.mpr fun id listed => by simp [active id listed]
    rw [none]

theorem pruneLocked_order_lt {id : String} (long : manager.retention < manager.order.length)
    (listed : id ∈ manager.order) (removable : manager.removable id = true) :
    manager.pruneLocked.order.length < manager.order.length := by
  unfold TaskManager.pruneLocked
  obtain ⟨turns, count⟩ := Nat.exists_eq_succ_of_ne_zero (Nat.sub_ne_zero_of_lt long)
  rw [count]
  exact Nat.lt_of_le_of_lt (pruneOnce_iterate_order_le manager.pruneOnce turns)
    (pruneOnce_order_lt listed removable)

end Pruning

section Submit

variable {manager : TaskManager}

/-- The retained tasks, their order and the queue are the same. -/
structure Unchanged (before after : TaskManager) : Prop where
  tasks : ∀ id, after.tasks.lookup id = before.tasks.lookup id
  objects : ∀ id task, before.tasks.lookup id = some task →
    after.objects task = before.objects task
  order : after.order = before.order
  queue : after.queue = before.queue

theorem Unchanged.refl (manager : TaskManager) : Unchanged manager manager :=
  ⟨fun _ => rfl, fun _ _ _ => rfl, rfl, rfl⟩

/-- The new id is not in use, and the new task fits into the history: there is room for it, or all
other tasks of the history are active. -/
def FitsHistory (manager : TaskManager) (now : Int) : Prop :=
  taskId now manager.sequence ∉ keys manager.tasks ∧
  (manager.order.length < manager.retention ∨
    ∀ id ∈ manager.order, id ≠ taskId now manager.sequence → manager.removable id = false)

/-- Other ids are as removable as they were before a submission. -/
theorem removable_enqueue (scheduled : Scheduled manager) {task : ManagementTask} {id : String}
    (other : id ≠ task.id) : (manager.enqueue task).removable id = manager.removable id := by
  unfold TaskManager.removable TaskManager.enqueue
  dsimp only
  rw [lookup_assign_ne other]
  cases listed : manager.tasks.lookup id with
  | none => rfl
  | some handle =>
    have inside := (scheduled.named id handle listed).1
    dsimp only
    rw [Function.update_of_ne (Nat.ne_of_lt inside)]

theorem removable_enqueue_self {task : ManagementTask} (active : task.state.active = true) :
    (manager.enqueue task).removable task.id = false := by
  unfold TaskManager.removable TaskManager.enqueue
  dsimp only
  rw [lookup_assign_self]
  simp [active]

/-- Taking back a submission for which nothing was pruned. -/
theorem Unchanged.withdraw (scheduled : Scheduled manager) {task : ManagementTask}
    (fresh : task.id ∉ keys manager.tasks) :
    Unchanged manager ((manager.enqueue task).withdraw task.id) := by
  refine ⟨fun id => ?_, fun id handle listed => ?_, List.dropLast_concat, List.dropLast_concat⟩
  · show (eraseKey task.id (assign task.id manager.allocated manager.tasks)).lookup id = _
    by_cases same : id = task.id
    · rw [same, lookup_eraseKey_self]
      exact (lookup_eq_none_iff.mpr fresh).symm
    · rw [lookup_eraseKey_ne same, lookup_assign_ne same]
  · have inside := (scheduled.named id handle listed).1
    exact Function.update_of_ne (Nat.ne_of_lt inside) _ _

/-- A submission whose persist call fails changes nothing if the new task fits into the history. -/
theorem withdraw_unchanged_iff (scheduled : Scheduled manager) (request : TaskRequest) (now : Int) :
    Unchanged manager ((manager.enqueue (request.task now manager.sequence)).pruneLocked.withdraw
      (request.task now manager.sequence).id) ↔ FitsHistory manager now := by
  have named : (request.task now manager.sequence).id = taskId now manager.sequence := rfl
  have active : (request.task now manager.sequence).state.active = true := rfl
  generalize request.task now manager.sequence = task at named active
  constructor
  · intro unchanged
    rw [FitsHistory, ← named]
    constructor
    · -- An id that was in use has been erased.
      intro used
      have erased := unchanged.tasks task.id
      have gone : (((manager.enqueue task).pruneLocked.withdraw task.id).tasks).lookup task.id =
          none := lookup_eraseKey_self _ _
      rw [gone] at erased
      exact lookup_eq_none_iff.mp erased.symm used
    · by_contra lost
      push Not at lost
      obtain ⟨long, id, listed, other, removable⟩ := lost
      rw [ne_eq, Bool.not_eq_false, ← removable_enqueue scheduled other] at removable
      have length : (manager.enqueue task).order.length = manager.order.length + 1 := by
        show (manager.order ++ [task.id]).length = _
        simp
      have surplus : (manager.enqueue task).retention < (manager.enqueue task).order.length := by
        rw [length]
        exact Nat.lt_succ_of_le long
      have shorter := pruneLocked_order_lt surplus (List.mem_append_left _ listed) removable
      have order := congrArg List.length unchanged.order
      have dropped : ((manager.enqueue task).pruneLocked.withdraw task.id).order.length =
          (manager.enqueue task).pruneLocked.order.length - 1 := List.length_dropLast
      have some := List.length_pos_of_mem listed
      omega
  · rintro ⟨fresh, kept⟩
    rw [← named] at fresh kept
    have same : (manager.enqueue task).pruneLocked = manager.enqueue task := by
      refine pruneLocked_eq_self (kept.imp ?_ ?_)
      · intro room
        show (manager.order ++ [task.id]).length ≤ manager.retention
        rw [List.length_append]
        exact room
      · intro others id listed
        by_cases here : id = task.id
        · rw [here]
          exact removable_enqueue_self active
        · rw [removable_enqueue scheduled here]
          rcases List.mem_append.mp listed with earlier | new
          · exact others id earlier here
          · exact absurd (List.mem_singleton.mp new) here
    rw [same]
    exact Unchanged.withdraw scheduled fresh

/-- A submission that throws changes nothing, unless it throws when it persists and the new task did
not fit into the history. -/
theorem submit_unchanged_iff (library : JsonLibrary) (settings : TaskSettings)
    (current : Option String) (started : Int) (loaded : Except String Unit)
    (events : List TaskEvent) (request : TaskRequest) (now : Int) (files : Except String Unit)
    (message : String) :
    let manager := events.foldl TaskManager.step
      (TaskManager.start library settings current started loaded)
    (manager.submit request now files).1 = .error message →
    (Unchanged manager (manager.submit request now files).2 ↔
      manager.stopping = true ∨ manager.capacity ≤ manager.active ∨ FitsHistory manager now) := by
  intro manager thrown
  have scheduled : Scheduled manager :=
    (reachable_listed library settings current started loaded events).1.scheduled
  clear_value manager
  unfold TaskManager.submit at thrown ⊢
  by_cases stopping : manager.stopping = true
  · simp only [stopping, if_true, true_or, iff_true]
    exact Unchanged.refl manager
  by_cases full : manager.capacity ≤ manager.active
  · simp only [stopping, Bool.false_eq_true, if_false, ge_iff_le, full, if_true, true_or, or_true,
      iff_true]
    exact Unchanged.refl manager
  simp only [stopping, Bool.false_eq_true, if_false, ge_iff_le, full, false_or] at thrown ⊢
  split at thrown
  · cases thrown
  · exact withdraw_unchanged_iff scheduled request now

def sampleCancelled : List TaskEvent :=
  [.submit sampleRequest 1000 (.ok ()), .cancel (taskId 1000 0) 1500 (.ok ())]

/-- The manager that remembers the cancelled task. -/
def sampleHistory (retention : Nat) : TaskManager :=
  sampleCancelled.foldl TaskManager.step
    (TaskManager.start (tableLibrary [] []) (sampleLimits retention) none 0 (.ok ()))

/-- With room for two tasks, a submission that cannot be persisted changes nothing. -/
theorem submit_unchanged_two :
    Unchanged (sampleHistory 2) ((sampleHistory 2).submit sampleRequest 2000
      (.error "No space left on device")).2 :=
  (submit_unchanged_iff (tableLibrary [] []) (sampleLimits 2) none 0 (.ok ()) sampleCancelled
    sampleRequest 2000 (.error "No space left on device") "No space left on device"
    rfl).mpr (.inr (.inr (by unfold FitsHistory; decide)))

/-- With room for one task, the same submission forgets the cancelled task. -/
theorem submit_forgets_history :
    ((sampleHistory 1).submit sampleRequest 2000 (.error "No space left on device")).1 =
      .error "No space left on device" ∧
    (sampleHistory 1).order = [taskId 1000 0] ∧
    ((sampleHistory 1).submit sampleRequest 2000 (.error "No space left on device")).2.order =
      [] := by
  refine ⟨rfl, ?_⟩
  decide

end Submit

end PocoDDS.Monitoring
