import PocoDDS.Lib.Run

/-! The lock files of the tools: processes that create, take over and remove one lock file. -/

namespace PocoDDS.Tools

open RunLogic

/-- The processes are numbered from zero, their identifiers from one. -/
def getpid (pid : Nat) : Nat := pid + 1

/-- What a process writes into its lock file. -/
structure LockNote where
  owner : Nat
  createdAt : Nat
  deriving DecidableEq, Repr

/-- Where a process is between two of its filesystem operations; `existing` is the text that it has
read, none of which is written while a file is empty. -/
inductive LockControl
  | outside
  | opening (attempt : Nat)
  | reading (attempt : Nat)
  | testing (attempt : Nat) (existing : LockNote)
  | rereading (attempt : Nat) (existing : LockNote)
  | removing (attempt : Nat) (existing : LockNote)
  | writing (file : Nat)
  | inside (file : Nat)
  | raised (message : String)
  | dead
  deriving DecidableEq, Repr

/-- The two lock functions differ in what they write and in the texts of their exceptions. -/
structure LockKind where
  stamped : Bool
  invalid : String
  locked : Nat → String
  missing : String
  changed : String
  exhausted : String

/-- `_exclusive_file_lock` of the deployment configuration. -/
def exclusiveFileLock (lock : String) : LockKind where
  stamped := true
  invalid := "isolated deployment configuration has an invalid lock: " ++ lock
  locked owner :=
    "isolated deployment configuration is locked by pid " ++ toString owner ++ ": " ++ lock
  missing := "cannot safely inspect isolated deployment configuration lock: " ++ lock
  changed := "isolated deployment configuration lock changed: " ++ lock
  exhausted := "cannot recover isolated deployment configuration lock: " ++ lock

/-- `state_lock` of the release pipeline. -/
def stateLock (lock : String) : LockKind where
  stamped := false
  invalid := "release pipeline state is locked: " ++ lock
  locked _ := "release pipeline state is locked: " ++ lock
  missing := "[Errno 2] No such file or directory: '" ++ lock ++ "'"
  changed := "release pipeline lock changed during recovery"
  exhausted := "cannot acquire release pipeline lock: " ++ lock

/-- The path of the lock, the files that have been created there, and the processes. -/
structure LockWorld where
  link : Option Nat := none
  files : Nat → Option LockNote := fun _ => none
  creator : Nat → Nat := fun _ => 0
  created : Nat := 0
  control : Nat → LockControl := fun _ => .outside

namespace LockWorld

variable (world : LockWorld)

def moved (pid : Nat) (control : LockControl) : LockWorld :=
  { world with control := fun other => if other = pid then control else world.control other }

/-- The exclusive creation of the file. -/
def create (pid : Nat) : LockWorld :=
  { world.moved pid (.writing world.created) with
    link := some world.created
    files := fun other => if other = world.created then none else world.files other
    creator := fun other => if other = world.created then pid else world.creator other
    created := world.created + 1 }

/-- The owner is written through the descriptor, whatever the path leads to by now. -/
def record (pid file : Nat) (note : LockNote) : LockWorld :=
  { world.moved pid (.inside file) with
    files := fun other => if other = file then some note else world.files other }

/-- The path is removed, whatever it leads to by now. -/
def unlink (pid : Nat) (control : LockControl) : LockWorld :=
  { world.moved pid control with link := none }

/-- `_process_exists`. -/
def exists' (owner : Nat) : Bool := world.control (owner - 1) ≠ .dead

/-- The next operation of a process, at some time. -/
def run (kind : LockKind) (pid now : Nat) : LockWorld :=
  match world.control pid with
  | .outside | .raised _ => world.moved pid (.opening 0)
  | .opening attempt =>
    match world.link with
    | none => world.create pid
    | some _ => world.moved pid (.reading attempt)
  | .reading attempt =>
    match world.link with
    | none => world.moved pid (.raised kind.missing)
    | some file =>
      match world.files file with
      | none => world.moved pid (.raised kind.invalid)
      | some existing =>
        if existing.owner = 0 then world.moved pid (.raised kind.invalid)
        else world.moved pid (.testing attempt existing)
  | .testing attempt existing =>
    if world.exists' existing.owner then world.moved pid (.raised (kind.locked existing.owner))
    else world.moved pid (.rereading attempt existing)
  | .rereading attempt existing =>
    match world.link with
    | none => world.moved pid (.raised kind.missing)
    | some file =>
      if world.files file ≠ some existing then world.moved pid (.raised kind.changed)
      else world.moved pid (.removing attempt existing)
  | .removing attempt _ =>
    match world.link with
    | none => world.moved pid (.raised kind.missing)
    | some _ =>
      -- Only the first attempt is followed by another.
      if attempt = 0 then world.unlink pid (.opening 1)
      else world.unlink pid (.raised kind.exhausted)
  | .writing file => world.record pid file ⟨getpid pid, if kind.stamped then now else 0⟩
  | .inside _ => world.unlink pid .outside
  | .dead => world

end LockWorld

inductive LockEvent
  | run (pid now : Nat)
  | die (pid : Nat)

def LockWorld.step (kind : LockKind) (world : LockWorld) : LockEvent → LockWorld
  | .run pid now => world.run kind pid now
  | .die pid => world.moved pid .dead

/-- No two processes are in the locked region. -/
def Exclusive (world : LockWorld) : Prop :=
  ∀ first second file other, world.control first = .inside file →
    world.control second = .inside other → first = second

/-- If whoever created the lock file is dead, a process that starts and runs alone gets in. -/
def Recoverable (kind : LockKind) (world : LockWorld) : Prop :=
  (∀ file, world.link = some file → world.control (world.creator file) = .dead) →
    ∀ pid, world.control pid = .outside →
      ∃ steps file, ((List.replicate steps (LockEvent.run pid 0)).foldl (LockWorld.step kind)
        world).control pid = .inside file

/-- The same, for a lock file whose owner has been recorded; an empty one keeps everybody out. -/
def RecoverableUnlessEmpty (kind : LockKind) (world : LockWorld) : Prop :=
  (∀ file, world.link = some file → world.control (world.creator file) = .dead) →
    ∀ pid, world.control pid = .outside →
      ((∃ steps file, ((List.replicate steps (LockEvent.run pid 0)).foldl (LockWorld.step kind)
        world).control pid = .inside file) ↔
        ∀ file, world.link = some file → world.files file ≠ none)

/-- A takeover removes the text that it has checked. Processes may die anywhere. -/
def Orderly (world : LockWorld) : LockEvent → Prop
  | .run pid _ => ∀ attempt existing file, world.control pid = .removing attempt existing →
      world.link = some file → world.files file = some existing
  | .die _ => True

/-- The file that a process has created and not removed yet. -/
def LockControl.file? : LockControl → Option Nat
  | .writing file | .inside file => some file
  | _ => none

/-- The text whose writer a process has found dead. -/
def LockControl.checked? : LockControl → Option LockNote
  | .rereading _ existing | .removing _ existing => some existing
  | _ => none

/-- What every orderly run keeps. -/
structure Held (world : LockWorld) : Prop where
  authored : ∀ file note, world.files file = some note →
    note.owner = getpid (world.creator file)
  holds : ∀ pid file, (world.control pid).file? = some file →
    world.link = some file ∧ world.creator file = pid
  stale : ∀ pid existing, (world.control pid).checked? = some existing →
    world.control (existing.owner - 1) = .dead

namespace Held

variable {world : LockWorld} {pid : Nat} {control : LockControl}

theorem start : Held {} where
  authored _ _ written := by cases written
  holds _ _ holding := by cases holding
  stale _ _ checked := by cases checked

variable (held : Held world)
include held

theorem unique {other file file' : Nat} (first : (world.control pid).file? = some file)
    (second : (world.control other).file? = some file') : other = pid := by
  -- Both files are the one the path leads to, and that has one creator.
  obtain ⟨linked, author⟩ := held.holds pid file first
  obtain ⟨linked', author'⟩ := held.holds other file' second
  have same : file = file' := Option.some.inj (linked.symm.trans linked')
  rw [← author, ← author', same]

/-- A step that neither creates, writes nor removes. -/
theorem moved (buried : world.control pid = .dead → control = .dead)
    (without : control.file? = none) (checked : ∀ existing, control.checked? = some existing →
      world.control (existing.owner - 1) = .dead) : Held (world.moved pid control) where
  authored := held.authored
  holds holder file holding := by
    by_cases same : holder = pid
    · simp [LockWorld.moved, same, without] at holding
    · exact held.holds holder file (by simpa [LockWorld.moved, same] using holding)
  stale holder existing found := by
    -- Whoever was dead is dead still.
    have remains : world.control (existing.owner - 1) = .dead →
        (world.moved pid control).control (existing.owner - 1) = .dead := by
      intro gone
      by_cases same : existing.owner - 1 = pid
      · simp [LockWorld.moved, same, buried (same ▸ gone)]
      · simpa [LockWorld.moved, same] using gone
    refine remains ?_
    by_cases same : holder = pid
    · exact checked existing (by simpa [LockWorld.moved, same] using found)
    · exact held.stale holder existing (by simpa [LockWorld.moved, same] using found)

/-- The exclusive creation, where the path leads nowhere. -/
theorem create (free : world.link = none) (living : world.control pid ≠ .dead) :
    Held (world.create pid) := by
  -- Nobody holds a file, since the path would lead to it.
  have idle : ∀ other, (world.control other).file? = none := by
    intro other
    refine Option.eq_none_iff_forall_ne_some.2 fun file holding => ?_
    exact absurd (held.holds other file holding).1 (by simp [free])
  constructor
  · intro file note written
    by_cases same : file = world.created
    · simp [LockWorld.create, same] at written
    · simp only [LockWorld.create, same, if_false] at written ⊢
      exact held.authored file note written
  · intro holder file holding
    by_cases same : holder = pid
    · obtain rfl : world.created = file := by
        simpa [LockWorld.create, LockWorld.moved, same, LockControl.file?] using holding
      simp [LockWorld.create, same]
    · simp [LockWorld.create, LockWorld.moved, same, idle holder] at holding
  · intro holder existing found
    by_cases same : holder = pid
    · simp [LockWorld.create, LockWorld.moved, same, LockControl.checked?] at found
    · have gone := held.stale holder existing
        (by simpa [LockWorld.create, LockWorld.moved, same] using found)
      have other : existing.owner - 1 ≠ pid := fun author => living (author ▸ gone)
      simpa [LockWorld.create, LockWorld.moved, other] using gone

theorem record {file : Nat} {note : LockNote} (writing : world.control pid = .writing file)
    (own : note.owner = getpid pid) :
    Held (world.record pid file note) := by
  have holding : (world.control pid).file? = some file := by rw [writing]; rfl
  obtain ⟨linked, author⟩ := held.holds pid file holding
  constructor
  · intro other note' written
    by_cases same : other = file
    · obtain rfl : note = note' := by simpa [LockWorld.record, same] using written
      simpa [LockWorld.record, LockWorld.moved, same, author] using own
    · exact held.authored other note' (by simpa [LockWorld.record, same] using written)
  · intro holder other holding'
    by_cases same : holder = pid
    · obtain rfl : file = other := by
        simpa [LockWorld.record, LockWorld.moved, same, LockControl.file?] using holding'
      exact ⟨linked, author.trans same.symm⟩
    · exact held.holds holder other
        (by simpa [LockWorld.record, LockWorld.moved, same] using holding')
  · intro holder existing found
    by_cases same : holder = pid
    · simp [LockWorld.record, LockWorld.moved, same, LockControl.checked?] at found
    · have gone := held.stale holder existing
        (by simpa [LockWorld.record, LockWorld.moved, same] using found)
      have other : existing.owner - 1 ≠ pid := by
        intro author'
        rw [author', writing] at gone
        cases gone
      simpa [LockWorld.record, LockWorld.moved, other] using gone

/-- A removal by a process besides which nobody holds a file. -/
theorem unlink (alone : ∀ other, other ≠ pid →
    (world.control other).file? = none) (living : world.control pid ≠ .dead)
    (without : control.file? = none) (unchecked : control.checked? = none) :
    Held (world.unlink pid control) := by
  constructor
  · exact held.authored
  · intro holder file holding
    by_cases same : holder = pid
    · simp [LockWorld.unlink, LockWorld.moved, same, without] at holding
    · simp [LockWorld.unlink, LockWorld.moved, same, alone holder same] at holding
  · intro holder existing found
    by_cases same : holder = pid
    · simp [LockWorld.unlink, LockWorld.moved, same, unchecked] at found
    · have gone := held.stale holder existing
        (by simpa [LockWorld.unlink, LockWorld.moved, same] using found)
      have other : existing.owner - 1 ≠ pid := fun author => living (author ▸ gone)
      simpa [LockWorld.unlink, LockWorld.moved, other] using gone

/-- Another process cannot hold a file that the path does not lead to by its own creation. -/
theorem alone (pid : Nat) (free : ∀ file, world.link = some file →
    world.creator file = pid ∨ world.control (world.creator file) = .dead) (other : Nat)
    (different : other ≠ pid) : (world.control other).file? = none := by
  refine Option.eq_none_iff_forall_ne_some.2 fun file holding => ?_
  -- The path leads to its file, whose creator is neither the removing process nor dead.
  obtain ⟨linked, author⟩ := held.holds other file holding
  rcases free file linked with own | gone
  · exact different (author.symm.trans own)
  · rw [author] at gone
    rw [gone] at holding
    cases holding

/-- A step of a process that keeps only what it has read and checked. -/
theorem run (kind : LockKind) (now : Nat) (orderly : Orderly world (.run pid now)) :
    Held (world.run kind pid now) := by
  -- Most steps only move the process.
  have onward (control' : LockControl) (living : world.control pid ≠ .dead)
      (without : control'.file? = none) (unchecked : control'.checked? = none) :
      Held (world.moved pid control') :=
    held.moved (fun gone => absurd gone living) without (by simp [unchecked])
  cases control : world.control pid with
  | outside | raised message =>
    simp only [LockWorld.run, control]
    exact onward _ (by simp [control]) rfl rfl
  | opening attempt =>
    simp only [LockWorld.run, control]
    cases linked : world.link with
    | none => exact held.create linked (by simp [control])
    | some file => exact onward _ (by simp [control]) rfl rfl
  | reading attempt =>
    simp only [LockWorld.run, control]
    -- Whatever is read, nothing has been checked yet.
    repeat' split
    all_goals exact onward _ (by simp [control]) rfl rfl
  | testing attempt existing =>
    simp only [LockWorld.run, control]
    split
    · exact onward _ (by simp [control]) rfl rfl
    · rename_i gone
      -- The test has found the writer dead.
      refine held.moved (by simp [control]) rfl fun checked same => ?_
      obtain rfl : existing = checked := by simpa [LockControl.checked?] using same
      simpa [LockWorld.exists'] using gone
  | rereading attempt existing =>
    have gone := held.stale pid existing (by simp [control, LockControl.checked?])
    simp only [LockWorld.run, control]
    split
    · exact onward _ (by simp [control]) rfl rfl
    · split
      · exact onward _ (by simp [control]) rfl rfl
      · refine held.moved (by simp [control]) rfl fun checked same => ?_
        obtain rfl : existing = checked := by simpa [LockControl.checked?] using same
        exact gone
  | removing attempt existing =>
    have gone := held.stale pid existing (by simp [control, LockControl.checked?])
    -- The text that was checked is there, so the file's creator is the dead writer.
    have others := held.alone pid fun file linked => Or.inr (by
      have written := orderly attempt existing file control linked
      have author := held.authored file existing written
      simpa [author, getpid] using gone)
    simp only [LockWorld.run, control]
    split
    · exact onward _ (by simp [control]) rfl rfl
    · split
      · exact held.unlink others (by simp [control]) rfl rfl
      · exact held.unlink others (by simp [control]) rfl rfl
  | writing file =>
    simp only [LockWorld.run, control]
    exact held.record control rfl
  | inside file =>
    -- The path leads to the process's own file.
    have own := held.holds pid file (by simp [control, LockControl.file?])
    have others := held.alone pid fun other linked => Or.inl (by
      rw [← Option.some.inj (own.1.symm.trans linked)]
      exact own.2)
    simp only [LockWorld.run, control]
    exact held.unlink others (by simp [control]) rfl rfl
  | dead => simpa only [LockWorld.run, control] using held

theorem step (kind : LockKind) {event : LockEvent} (orderly : Orderly world event) :
    Held (world.step kind event) := by
  cases event with
  | run pid now => exact held.run kind now orderly
  | die pid => exact held.moved (fun _ => rfl) rfl (by simp [LockControl.checked?])

/-- Two processes in the locked region hold files both. -/
theorem exclusive : Exclusive world := by
  intro first second file other inside inside'
  exact held.unique (by rw [inside']; rfl) (by rw [inside]; rfl)

end Held

namespace LockWorld

/-- A process that runs alone, step after step. -/
def alone (kind : LockKind) (pid steps : Nat) (world : LockWorld) : LockWorld :=
  (List.replicate steps (LockEvent.run pid 0)).foldl (step kind) world

@[simp] theorem alone_zero (kind : LockKind) (pid : Nat) (world : LockWorld) :
    world.alone kind pid 0 = world := rfl

@[simp] theorem alone_succ (kind : LockKind) (pid steps : Nat) (world : LockWorld) :
    world.alone kind pid (steps + 1) = (world.run kind pid 0).alone kind pid steps := rfl

/-- Where the path leads nowhere, a process that opens gets in. -/
theorem alone_opening (kind : LockKind) {world : LockWorld} {pid attempt : Nat}
    (opening : world.control pid = .opening attempt) (free : world.link = none) :
    (world.alone kind pid 2).control pid = .inside world.created := by
  simp [run, opening, free, create, moved, record]

/-- A lock of a dead process is read, tested, read again and removed. -/
theorem alone_takeover (kind : LockKind) {world : LockWorld} {pid file : Nat} {note : LockNote}
    (opening : world.control pid = .opening 0) (linked : world.link = some file)
    (written : world.files file = some note) (real : note.owner ≠ 0)
    (gone : world.control (note.owner - 1) = .dead) :
    (world.alone kind pid 5).control pid = .opening 1 ∧ (world.alone kind pid 5).link = none := by
  have other : note.owner - 1 ≠ pid := by
    intro same
    rw [same, opening] at gone
    cases gone
  simp [run, opening, linked, written, real, gone, other, moved, unlink, exists']

theorem alone_add (kind : LockKind) (pid first second : Nat) (world : LockWorld) :
    world.alone kind pid (first + second) = (world.alone kind pid first).alone kind pid second := by
  rw [alone, List.replicate_add, List.foldl_append]
  rfl

end LockWorld

/-- A process that has not read the lock. -/
def LockControl.waits : LockControl → Bool
  | .outside | .opening _ | .reading _ | .raised _ => true
  | _ => false

theorem LockWorld.alone_empty (kind : LockKind) (pid steps : Nat) {world : LockWorld}
    {file : Nat} (linked : world.link = some file) (empty : world.files file = none)
    (waits : (world.control pid).waits = true) :
    ((world.alone kind pid steps).control pid).waits = true := by
  induction steps generalizing world with
  | zero => exact waits
  | succ steps ih =>
    rw [alone_succ]
    -- The step moves the process, and leaves the path and the file as they are.
    cases control : world.control pid with
    | outside | raised | opening | reading =>
      simp only [run, control, linked, empty]
      exact ih linked empty (by simp [moved, LockControl.waits])
    | testing | rereading | removing | writing | inside | dead =>
      rw [control] at waits
      cases waits

theorem LockWorld.alone_outside_empty (kind : LockKind) {pid steps : Nat} {world : LockWorld}
    {file file' : Nat} (linked : world.link = some file) (empty : world.files file = none)
    (outside : world.control pid = .outside) :
    (world.alone kind pid steps).control pid ≠ .inside file' := by
  intro inside
  have waits := LockWorld.alone_empty kind pid steps linked empty (by rw [outside]; rfl)
  rw [inside] at waits
  cases waits

/-- Whoever created the lock is dead, so that its text, if there is one, is taken over. -/
theorem Held.recoverable {world : LockWorld} (held : Held world) (kind : LockKind) :
    RecoverableUnlessEmpty kind world := by
  intro orphaned pid outside
  constructor
  · rintro ⟨steps, file', inside⟩ file linked empty
    exact LockWorld.alone_outside_empty kind linked empty outside inside
  intro recorded
  -- The first step reaches for the file.
  have entered : world.run kind pid 0 = world.moved pid (.opening 0) := by
    simp only [LockWorld.run, outside]
  have opening : (world.moved pid (.opening 0)).control pid = .opening 0 := by
    simp [LockWorld.moved]
  cases linked : world.link with
  | none =>
    refine ⟨3, world.created, ?_⟩
    change (world.alone kind pid 3).control pid = _
    rw [LockWorld.alone_succ, entered]
    exact LockWorld.alone_opening kind opening linked
  | some file =>
    have gone := orphaned file linked
    obtain ⟨note, written⟩ := Option.ne_none_iff_exists'.mp (recorded file linked)
    -- The dead creator is the owner that the text names.
    have author := held.authored file note written
    have other : world.creator file ≠ pid := by
      intro same
      rw [same, outside] at gone
      cases gone
    have taken := LockWorld.alone_takeover kind opening linked written (by simp [author, getpid])
      (by simpa [author, getpid, LockWorld.moved, other] using gone)
    refine ⟨8, ((world.moved pid (.opening 0)).alone kind pid 5).created, ?_⟩
    change (world.alone kind pid 8).control pid = _
    rw [LockWorld.alone_succ, entered, LockWorld.alone_add kind pid 5 2]
    exact LockWorld.alone_opening kind taken.1 taken.2

/-- In every orderly run of either lock function no two processes are in the locked region, and a
lock whose creator is dead is taken over unless it is empty. -/
theorem fileLocks_heal (kind : LockKind) (events : List LockEvent)
    (orderly : Along (LockWorld.step kind) Orderly {} events) :
    Exclusive (events.foldl (LockWorld.step kind) {}) ∧
      RecoverableUnlessEmpty kind (events.foldl (LockWorld.step kind) {}) := by
  have kept : ∀ world event, Held world → Orderly world event →
      Held (LockWorld.step kind world event) :=
    fun _ _ before admitted => before.step kind admitted
  have held := Along.invariant kept Held.start orderly
  exact ⟨held.exclusive, held.recoverable kind⟩

/-- The first process locks and dies; the second takes the lock over, the third finds it locked. -/
def takeover : List LockEvent :=
  List.replicate 3 (LockEvent.run 1 0) ++ [LockEvent.die 1] ++
    List.replicate 8 (LockEvent.run 2 5) ++ List.replicate 4 (LockEvent.run 3 6)

theorem takeover_orderly (kind : LockKind) : Along (LockWorld.step kind) Orderly {} takeover := by
  simp [takeover, Along, Orderly, LockWorld.step, LockWorld.run, LockWorld.moved,
    LockWorld.create, LockWorld.record, LockWorld.unlink, LockWorld.exists', getpid]

/-- The two lock functions in a run with one takeover. -/
theorem fileLocks_heal_takeover :
    (Exclusive (takeover.foldl (LockWorld.step (exclusiveFileLock "slots.lock")) {}) ∧
      RecoverableUnlessEmpty (exclusiveFileLock "slots.lock")
        (takeover.foldl (LockWorld.step (exclusiveFileLock "slots.lock")) {})) ∧
    Exclusive (takeover.foldl (LockWorld.step (stateLock "state.lock")) {}) ∧
      RecoverableUnlessEmpty (stateLock "state.lock")
        (takeover.foldl (LockWorld.step (stateLock "state.lock")) {}) :=
  ⟨fileLocks_heal _ _ (takeover_orderly _), fileLocks_heal _ _ (takeover_orderly _)⟩

/-- Two processes have checked the lock of a dead one. One removes it and locks; the other removes
the lock of the first, and locks too. -/
def doubleTakeover : List LockEvent :=
  List.replicate 3 (LockEvent.run 1 0) ++ [LockEvent.die 1] ++
    List.replicate 5 (LockEvent.run 2 5) ++ List.replicate 5 (LockEvent.run 3 5) ++
    List.replicate 3 (LockEvent.run 2 6) ++ List.replicate 3 (LockEvent.run 3 6)

/-- A process dies between creating the lock and writing its owner. -/
def birthDeath : List LockEvent := List.replicate 2 (.run 1 0) ++ [.die 1]

theorem doubleTakeover_inside (kind : LockKind) :
    (doubleTakeover.foldl (LockWorld.step kind) {}).control 2 = .inside 1 ∧
      (doubleTakeover.foldl (LockWorld.step kind) {}).control 3 = .inside 2 := by
  simp [doubleTakeover, LockWorld.step, LockWorld.run, LockWorld.moved, LockWorld.create,
    LockWorld.record, LockWorld.unlink, LockWorld.exists', getpid]

theorem birthDeath_stuck (kind : LockKind) :
    ¬Recoverable kind (birthDeath.foldl (LockWorld.step kind) {}) := by
  intro recoverable
  have linked : (birthDeath.foldl (LockWorld.step kind) {}).link = some 0 := rfl
  -- The creator is dead, and another process starts.
  obtain ⟨steps, file, inside⟩ := recoverable
    (fun file leads => by obtain rfl : 0 = file := Option.some.inj (linked.symm.trans leads); rfl)
    2 rfl
  exact LockWorld.alone_outside_empty kind linked rfl rfl inside

/-- Neither lock function excludes in every run, and neither recovers in every run. -/
theorem fileLocks_fail :
    ¬Exclusive (doubleTakeover.foldl (LockWorld.step (exclusiveFileLock "slots.lock")) {}) ∧
      ¬Recoverable (exclusiveFileLock "slots.lock")
        (birthDeath.foldl (LockWorld.step (exclusiveFileLock "slots.lock")) {}) ∧
      ¬Exclusive (doubleTakeover.foldl (LockWorld.step (stateLock "state.lock")) {}) ∧
      ¬Recoverable (stateLock "state.lock")
        (birthDeath.foldl (LockWorld.step (stateLock "state.lock")) {}) := by
  have shared (kind : LockKind) :
      ¬Exclusive (doubleTakeover.foldl (LockWorld.step kind) {}) := by
    intro exclusive
    obtain ⟨second, third⟩ := doubleTakeover_inside kind
    exact absurd (exclusive 2 3 1 2 second third) (by decide)
  exact ⟨shared _, birthDeath_stuck _, shared _, birthDeath_stuck _⟩

end PocoDDS.Tools
