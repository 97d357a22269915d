import PocoDDS.Lib.Run
import PocoDDS.ProcessManagement.SubprocessConfiguration

/-! The subprocess manager: its children over every sequence of lifecycle calls and exits. -/

namespace PocoDDS.ProcessManagement

open RunLogic

/-- A child with the handle of its process. -/
structure RunningProcess where
  name : Text
  handle : Nat
  deriving DecidableEq, Repr

/-- The manager, with the children that are alive and the number of processes started so far. -/
structure Manager where
  configured : List ConfiguredProcess := []
  running : List RunningProcess := []
  live : List RunningProcess := []
  launched : Nat := 0
  deriving DecidableEq, Repr

/-- The exceptions of `start` and of the lifecycle calls. -/
inductive StartFault
  | read (fault : ReadFault)
  | launchFailed (name : Text)
  deriving DecidableEq, Repr

namespace Manager

variable (manager : Manager)

def isRunning (process : RunningProcess) : Bool :=
  manager.live.any (·.handle == process.handle)

/-- A child ends on request, or it is killed when it does not. -/
def stopProcess (process : RunningProcess) : Manager :=
  if !manager.isRunning process then manager
  else { manager with live := manager.live.filter (·.handle != process.handle) }

/-- `fails` says which processes the operating system does not start. -/
def launch (fails : Nat → Bool) (process : ConfiguredProcess) :
    Except StartFault Unit × Manager :=
  if fails manager.launched then
    (.error (.launchFailed process.name), { manager with launched := manager.launched + 1 })
  else
    let child : RunningProcess := ⟨process.name, manager.launched⟩
    (.ok (), { manager with
      running := manager.running ++ [child]
      live := manager.live ++ [child]
      launched := manager.launched + 1 })

def findConfigured (name : Text) : Option ConfiguredProcess :=
  manager.configured.find? (·.name = name)

def findRunning (name : Text) : Option RunningProcess :=
  manager.running.find? (·.name = name)

/-- The first child of a name is forgotten. -/
def erase (name : Text) : Manager :=
  { manager with running := manager.running.eraseP (·.name = name) }

/-- The last child is stopped first. -/
def stopEach : Manager :=
  manager.running.reverse.foldl stopProcess manager

def stopAll : Manager :=
  { manager.stopEach with running := [] }

def startOne (fails : Nat → Bool) (name : Text) : Except StartFault Bool × Manager :=
  match manager.findConfigured name with
  | none => (.ok false, manager)
  | some configured =>
    if configured.location ≠ "local".toList then (.ok false, manager)
    else
      match manager.findRunning name with
      | none =>
        match manager.launch fails configured with
        | (.ok _, next) => (.ok true, next)
        | (.error fault, next) => (.error fault, next)
      | some running =>
        if manager.isRunning running then (.ok true, manager)
        else
          match (manager.erase name).launch fails configured with
          | (.ok _, next) => (.ok true, next)
          | (.error fault, next) => (.error fault, next)

def stopOne (name : Text) : Bool × Manager :=
  match manager.findRunning name with
  | none => ((manager.findConfigured name).isSome, manager)
  | some running => (true, (manager.stopProcess running).erase name)

/-- A child ends by itself. -/
def exit (handle : Nat) : Manager :=
  { manager with live := manager.live.filter (·.handle != handle) }

/-- The lock is released between the stop and the start, where children can end. -/
def restartOne (fails : Nat → Bool) (ended : List Nat) (name : Text) :
    Except StartFault Bool × Manager :=
  let (stopped, next) := manager.stopOne name
  if !stopped then (.ok false, next)
  else (ended.foldl exit next).startOne fails name

/-- The loop over the entries; an entry is remembered before it is started. -/
def startEntries (fails : Nat → Bool) :
    List (Except ReadFault (Option ConfiguredProcess)) → Manager →
      Except StartFault Unit × Manager
  | [], manager => (.ok (), manager)
  | .error fault :: _, manager => (.error (.read fault), manager)
  | .ok none :: rest, manager => startEntries fails rest manager
  | .ok (some process) :: rest, manager =>
    let manager := { manager with configured := manager.configured ++ [process] }
    if process.location = "local".toList then
      match manager.launch fails process with
      | (.error fault, next) => (.error fault, next)
      | (.ok _, next) => startEntries fails rest next
    else startEntries fails rest manager

/-- `start` on the entries that it reads one by one; an exception stops what has been started. -/
def start (fails : Nat → Bool) (entries : List (Except ReadFault (Option ConfiguredProcess))) :
    Except StartFault Nat × Manager :=
  let manager := { manager.stopAll with configured := [] }
  match startEntries fails entries manager with
  | (.ok _, next) => (.ok next.running.length, next)
  | (.error fault, next) => (.error fault, next.stopAll)

end Manager

/-- What can happen to a manager that has been started. -/
inductive LifecycleEvent
  | start (name : Text) (fails : Nat → Bool)
  | stop (name : Text)
  | restart (name : Text) (ended : List Nat) (fails : Nat → Bool)
  | stopAll
  | exit (handle : Nat)

def Manager.step (manager : Manager) : LifecycleEvent → Manager
  | .start name fails => (manager.startOne fails name).2
  | .stop name => (manager.stopOne name).2
  | .restart name ended fails => (manager.restartOne fails ended name).2
  | .stopAll => manager.stopAll
  | .exit handle => manager.exit handle

/-- The entries of a configuration that are started on this host. -/
def localNames (entries : List (Except ReadFault (Option ConfiguredProcess))) : List Text :=
  (entries.filterMap fun entry =>
    match entry with
    | .ok (some process) => if process.location = "local".toList then some process else none
    | _ => none).map (·.name)

/-- No two live children have one name, and a stop that succeeds leaves none of its name. -/
def OneLiveChild (manager : Manager) : Prop :=
  (manager.live.map (·.name)).Nodup ∧
    ∀ name, (manager.stopOne name).1 = true →
      ∀ child ∈ (manager.stopOne name).2.live, child.name ≠ name

section Lifecycle

variable {manager next : Manager} {name : Text}
variable {process : RunningProcess} {entries : List (Except ReadFault (Option ConfiguredProcess))}

/-- What holds between calls: the live children are all known, each name at most once. -/
structure Supervised (manager : Manager) : Prop where
  known : ∀ child ∈ manager.live, child ∈ manager.running
  distinct : (manager.running.map (·.name)).Nodup
  alive : (manager.live.map (·.name)).Nodup

theorem Supervised.found (supervised : Supervised manager) {child : RunningProcess}
    (found : manager.findRunning name = some process) (member : child ∈ manager.running)
    (named : child.name = name) : child = process := by
  have listed := List.mem_of_find?_eq_some found
  have same : process.name = name := by simpa using List.find?_some found
  exact List.inj_on_of_nodup_map supervised.distinct member listed (named.trans same.symm)

theorem Supervised.missing (supervised : Supervised manager)
    (missing : manager.findRunning name = none) : ∀ child ∈ manager.live, child.name ≠ name := by
  intro child member named
  have absent := List.find?_eq_none.mp missing child (supervised.known child member)
  simp [named] at absent

theorem Supervised.dead (supervised : Supervised manager)
    (found : manager.findRunning name = some process) (dead : manager.isRunning process = false) :
    ∀ child ∈ manager.live, child.name ≠ name := by
  intro child member named
  -- The live child would be the one that was found.
  have same := supervised.found found (supervised.known child member) named
  unfold Manager.isRunning at dead
  rw [List.any_eq_false] at dead
  exact dead child member (by simp [same])

@[simp] theorem running_stopProcess (process : RunningProcess) :
    (manager.stopProcess process).running = manager.running := by
  unfold Manager.stopProcess
  split <;> rfl

theorem mem_live_stopProcess {child : RunningProcess} : child ∈ (manager.stopProcess process).live ↔
      child ∈ manager.live ∧ child.handle ≠ process.handle := by
  unfold Manager.stopProcess
  split
  · next dead =>
    rw [Bool.not_eq_true'] at dead
    unfold Manager.isRunning at dead
    rw [List.any_eq_false] at dead
    simp only [iff_self_and]
    exact fun member same => dead child member (by simp [same])
  · simp [List.mem_filter]

theorem sublist_live_stopProcess (process : RunningProcess) :
    (manager.stopProcess process).live.Sublist manager.live := by
  unfold Manager.stopProcess
  split
  · exact List.Sublist.refl _
  · exact List.filter_sublist

variable (supervised : Supervised manager)
include supervised

theorem Supervised.ended (running : next.running = manager.running)
    (fewer : next.live.Sublist manager.live) :
    Supervised next where
  known := by
    intro child member
    rw [running]
    exact supervised.known child (fewer.subset member)
  distinct := by
    rw [running]
    exact supervised.distinct
  alive := supervised.alive.sublist (fewer.map _)

theorem Supervised.erase (none : ∀ child ∈ manager.live, child.name ≠ name) :
    Supervised (manager.erase name) where
  known := by
    intro child member
    refine (List.mem_eraseP_of_neg ?_).mpr (supervised.known child member)
    simpa using none child member
  distinct := supervised.distinct.sublist (List.eraseP_sublist.map _)
  alive := supervised.alive

/-- After its child is forgotten, a name is not among the running ones. -/
theorem Supervised.notMem_erase : name ∉ (manager.erase name).running.map (·.name) := by
  intro member
  obtain ⟨child, kept, named⟩ := List.mem_map.mp member
  obtain ⟨first, front, back, -, firstNamed, split, erased⟩ :=
    List.exists_of_eraseP (p := fun process : RunningProcess => decide (process.name = name))
      (List.mem_of_mem_eraseP kept) (by simpa using named)
  -- The name would occur twice before.
  have distinct := supervised.distinct
  rw [split, List.map_append, List.map_cons] at distinct
  unfold Manager.erase at kept
  rw [erased] at kept
  have absent := (List.nodup_middle.mp distinct).notMem
  refine absent ?_
  rw [show first.name = name by simpa using firstNamed, ← named, ← List.map_append]
  exact List.mem_map_of_mem kept

theorem Supervised.launch {process : ConfiguredProcess} (fails : Nat → Bool)
    (absent : process.name ∉ manager.running.map (·.name)) :
    Supervised (manager.launch fails process).2 := by
  unfold Manager.launch
  split
  · exact ⟨supervised.known, supervised.distinct, supervised.alive⟩
  · have unheard : process.name ∉ manager.live.map (·.name) := by
      intro member
      obtain ⟨child, alive, named⟩ := List.mem_map.mp member
      exact absent (List.mem_map.mpr ⟨child, supervised.known child alive, named⟩)
    refine ⟨?_, ?_, ?_⟩
    · intro child member
      rcases List.mem_append.mp member with old | new
      · exact List.mem_append_left _ (supervised.known child old)
      · exact List.mem_append_right _ new
    · dsimp only
      rw [List.map_append, List.map_singleton]
      exact supervised.distinct.append (List.nodup_singleton _) (List.disjoint_singleton.mpr absent)
    · dsimp only
      rw [List.map_append, List.map_singleton]
      exact supervised.alive.append (List.nodup_singleton _) (List.disjoint_singleton.mpr unheard)

theorem Supervised.startOne (fails : Nat → Bool) (name : Text) :
    Supervised (manager.startOne fails name).2 := by
  unfold Manager.startOne
  split
  · exact supervised
  next configured found =>
  have named : configured.name = name := by simpa using List.find?_some found
  split
  · exact supervised
  split
  · next missing =>
    have absent : configured.name ∉ manager.running.map (·.name) := by
      intro member
      obtain ⟨child, listed, same⟩ := List.mem_map.mp member
      have other := List.find?_eq_none.mp missing child listed
      simp [same, named] at other
    have launched := supervised.launch fails absent
    split
    · next outcome =>
      rw [outcome] at launched
      exact launched
    · next outcome =>
      rw [outcome] at launched
      exact launched
  · next running known =>
    split
    · exact supervised
    · next dead =>
      -- The dead child of the name is forgotten before the next one is started.
      have cleared := supervised.erase (supervised.dead known (by simpa using dead))
      have absent : configured.name ∉ (manager.erase name).running.map (·.name) := by
        rw [named]
        exact supervised.notMem_erase
      have launched := cleared.launch fails absent
      split
      · next outcome =>
        rw [outcome] at launched
        exact launched
      · next outcome =>
        rw [outcome] at launched
        exact launched

theorem Supervised.stopOne_live (name : Text) :
    ∀ child ∈ (manager.stopOne name).2.live, child.name ≠ name := by
  unfold Manager.stopOne
  split
  · next missing => exact supervised.missing missing
  · next process found =>
    intro child member named
    obtain ⟨alive, other⟩ := mem_live_stopProcess.mp member
    have same := supervised.found found (supervised.known child alive) named
    exact other (congrArg RunningProcess.handle same)

theorem Supervised.stopOne (name : Text) : Supervised (manager.stopOne name).2 := by
  have none := supervised.stopOne_live name
  unfold Manager.stopOne at none ⊢
  split
  · exact supervised
  · next process found =>
    rw [found] at none
    exact (supervised.ended (running_stopProcess process) (sublist_live_stopProcess process)).erase
      none

theorem Supervised.exit (handle : Nat) : Supervised (manager.exit handle) :=
  supervised.ended rfl List.filter_sublist

theorem Supervised.restartOne (fails : Nat → Bool) (ended : List Nat) (name : Text) :
    Supervised (manager.restartOne fails ended name).2 := by
  have stopped := supervised.stopOne name
  unfold Manager.restartOne
  dsimp only
  split
  · exact stopped
  · have exited : Supervised (ended.foldl Manager.exit (manager.stopOne name).2) :=
      Along.invariant (fun _ handle supervised _ => supervised.exit handle) stopped
        (Along.free _ ended)
    exact exited.startOne fails name

omit supervised

theorem mem_live_stopEach (processes : List RunningProcess) {child : RunningProcess} :
    child ∈ (processes.foldl Manager.stopProcess manager).live ↔
      child ∈ manager.live ∧ ∀ process ∈ processes, child.handle ≠ process.handle := by
  induction processes generalizing manager with
  | nil => simp
  | cons process rest ih =>
    rw [List.foldl_cons, ih, mem_live_stopProcess, List.forall_mem_cons]
    exact and_assoc

/-- After a stop of all children none is alive. -/
theorem Supervised.stopAll_live (supervised : Supervised manager) : manager.stopAll.live = [] := by
  refine List.eq_nil_iff_forall_not_mem.mpr fun child member => ?_
  obtain ⟨alive, ended⟩ := (mem_live_stopEach _).mp member
  exact ended child (List.mem_reverse.mpr (supervised.known child alive)) rfl

theorem Supervised.stopAll (supervised : Supervised manager) : Supervised manager.stopAll where
  known := by
    intro child member
    rw [supervised.stopAll_live] at member
    cases member
  distinct := List.nodup_nil
  alive := by
    rw [supervised.stopAll_live]
    exact List.nodup_nil

theorem Supervised.step (supervised : Supervised manager) (event : LifecycleEvent) :
    Supervised (manager.step event) := by
  cases event with
  | start name fails => exact supervised.startOne fails name
  | stop name => exact supervised.stopOne name
  | restart name ended fails => exact supervised.restartOne fails ended name
  | stopAll => exact supervised.stopAll
  | exit handle => exact supervised.exit handle

theorem Supervised.oneLiveChild (supervised : Supervised manager) : OneLiveChild manager :=
  ⟨supervised.alive, fun name _ => supervised.stopOne_live name⟩

theorem startEntries_running {fails : Nat → Bool}
    (accepted : Manager.startEntries fails entries manager = (.ok (), next)) :
    ∃ children : List RunningProcess, children.map (·.name) = localNames entries ∧
      next.running = manager.running ++ children ∧ next.live = manager.live ++ children := by
  induction entries generalizing manager with
  | nil =>
    cases accepted
    exact ⟨[], rfl, by simp, by simp⟩
  | cons entry rest ih =>
    match entry with
    | .error fault => cases accepted
    | .ok none => exact ih accepted
    | .ok (some process) =>
      unfold Manager.startEntries at accepted
      dsimp only at accepted
      by_cases here : process.location = "local".toList
      · rw [if_pos here] at accepted
        unfold Manager.launch at accepted
        by_cases failed : fails manager.launched = true
        · rw [if_pos failed] at accepted
          cases accepted
        · rw [if_neg failed] at accepted
          obtain ⟨children, names, running, live⟩ := ih accepted
          refine ⟨⟨process.name, manager.launched⟩ :: children, ?_, ?_, ?_⟩
          · unfold localNames at names ⊢
            rw [List.map_cons, names, List.filterMap_cons]
            simp only [here, if_true, List.map_cons]
          · rw [running]
            exact List.append_assoc _ _ _
          · rw [live]
            exact List.append_assoc _ _ _
      · -- A remote entry is registered only.
        rw [if_neg here] at accepted
        obtain ⟨children, names, running, live⟩ := ih accepted
        refine ⟨children, ?_, running, live⟩
        unfold localNames at names ⊢
        rw [names, List.filterMap_cons]
        simp only [here, if_false]

theorem start_running {fails : Nat → Bool} {count : Nat}
    (accepted : ({} : Manager).start fails entries = (.ok count, manager)) :
    manager.running.map (·.name) = localNames entries ∧ manager.live = manager.running := by
  unfold Manager.start at accepted
  dsimp only at accepted
  split at accepted
  · next outcome =>
    obtain ⟨-, rfl⟩ := Prod.mk.inj accepted
    obtain ⟨children, names, running, live⟩ := startEntries_running outcome
    exact ⟨by rw [running]; exact names, by rw [live, running]; rfl⟩
  · obtain ⟨wrong, -⟩ := Prod.mk.inj accepted
    cases wrong

end Lifecycle

/-- Every name has at most one live child in every run of an accepted configuration, and a stop that
succeeds leaves none, exactly if the local entries have names of their own. -/
theorem oneLiveChild_iff (fails : Nat → Bool)
    (entries : List (Except ReadFault (Option ConfiguredProcess))) (count : Nat)
    (manager : Manager)
    (accepted : ({} : Manager).start fails entries = (.ok count, manager)) :
    (∀ events : List LifecycleEvent, OneLiveChild (events.foldl Manager.step manager)) ↔
      (localNames entries).Nodup := by
  obtain ⟨names, live⟩ := start_running accepted
  constructor
  · intro always
    have distinct := (always []).1
    rw [List.foldl_nil, live, names] at distinct
    exact distinct
  · intro distinct events
    have supervised : Supervised manager := by
      refine ⟨?_, ?_, ?_⟩
      · intro child member
        rwa [live] at member
      · rwa [names]
      · rwa [live, names]
    have reached : Supervised (events.foldl Manager.step manager) :=
      Along.invariant (fun _ event supervised _ => supervised.step event) supervised
        (Along.free _ events)
    exact reached.oneLiveChild

def localEntry (name : String) : Except ReadFault (Option ConfiguredProcess) :=
  .ok (some { name := name.toList, executable := "/opt/pdr/worker".toList, arguments := [],
              initialDirectory := "/opt/pdr".toList })

theorem oneLiveChild_two :
    (∀ events : List LifecycleEvent, OneLiveChild (events.foldl Manager.step
      (({} : Manager).start (fun _ => false) [localEntry "first", localEntry "second"]).2)) ↔
      (localNames [localEntry "first", localEntry "second"]).Nodup :=
  oneLiveChild_iff (fun _ => false) [localEntry "first", localEntry "second"] 2 _ (by decide)

/-- Two entries of one name are both started. -/
theorem twin_entries_both_live :
    ¬ ∀ (fails : Nat → Bool) (entries : List (Except ReadFault (Option ConfiguredProcess)))
      (count : Nat) (manager : Manager),
        ({} : Manager).start fails entries = (.ok count, manager) →
          ∀ events : List LifecycleEvent, OneLiveChild (events.foldl Manager.step manager) := by
  intro claimed
  have one := (claimed (fun _ => false) [localEntry "worker", localEntry "worker"] 2 _ rfl []).1
  exact absurd one (by decide)

end PocoDDS.ProcessManagement
