import PocoDDS.Tools.UpgradeSteps

/-! The phases of an upgrade: what a disk looks like at every point of `applyUpgrade`. -/

namespace PocoDDS.Tools

open AssocList CrashLogic ProcessLogic Process

section Phases

variable (host : ReleaseHost) (arguments : UpgradeArguments) (old : Option Tree)

/-- The journal of this upgrade, with the versions it was allowed for. -/
structure Journalled (transaction : UpgradeTransaction) : Prop where
  written : transaction = { newUpgrade host arguments old transaction.fromVersion
    transaction.toVersion with state := transaction.state }
  version : deployedVersion host old = .ok transaction.fromVersion
  versioned : old.isSome = true → transaction.fromVersion.isSome = true

/-- The one tree next to a backup that may hold mutable directories of the old release. -/
inductive Alongside (upgradeId : String) (disk : ReleaseDisk) (side : Tree) : Prop
  | target (here : disk.tree .target = some side) (failed : disk.tree (.failed upgradeId) = none)
      (staging : disk.tree (.staging upgradeId) = none)
  | failed (target : disk.tree .target = none) (here : disk.tree (.failed upgradeId) = some side)
      (staging : disk.tree (.staging upgradeId) = none)
  | staging (target : disk.tree .target = none) (failed : disk.tree (.failed upgradeId) = none)
      (here : disk.tree (.staging upgradeId) = some side)

/-- A disk on which an upgrade may be interrupted. -/
inductive Phase (disk : ReleaseDisk) : Prop
  /-- There is no journal: the upgrade has not begun, or it has ended. -/
  | closed (absent : disk.journal = none)
  /-- The target has not been touched yet. -/
  | untouched (transaction : UpgradeTransaction)
      (journal : disk.journal = some (.document transaction))
      (ours : Journalled host arguments old transaction)
      (state : transaction.state = .preflightPassed ∨ transaction.state = .stagingVerified)
      (target : disk.tree .target = old)
      (backup : disk.tree (.backup arguments.upgradeId) = none)
      (failed : disk.tree (.failed arguments.upgradeId) = none)
  /-- The old release is in the backup, which is removed only after the health check. -/
  | backed (transaction : UpgradeTransaction) (release backup side : Tree)
      (journal : disk.journal = some (.document transaction))
      (ours : Journalled host arguments old transaction) (installed : old = some release)
      (here : disk.tree (.backup arguments.upgradeId) = some backup)
      (beside : Alongside arguments.upgradeId disk side)
      (part : ∃ whole : Tree, whole.released = release.released ∧
        backup.entries <:+ whole.entries)
      (kept : transaction.state ≠ .healthPassed → backup.released = release.released ∧
        Carried host.parents release backup side)
  /-- The backup is gone again, but the journal does not say so. -/
  | unbacked (transaction : UpgradeTransaction) (release target : Tree)
      (journal : disk.journal = some (.document transaction))
      (ours : Journalled host arguments old transaction) (installed : old = some release)
      (backup : disk.tree (.backup arguments.upgradeId) = none)
      (here : disk.tree .target = some target)
      (state : transaction.state = .mutableStateTransferred ∨ transaction.state = .activated ∨
        transaction.state = .healthPassed)
      (kept : transaction.state ≠ .healthPassed → target.released = release.released)
  /-- The old release is back in place, and the journal says so. -/
  | rolledBack (transaction : UpgradeTransaction) (release target : Tree)
      (journal : disk.journal = some (.document transaction))
      (ours : Journalled host arguments old transaction) (installed : old = some release)
      (state : transaction.state = .healthFailedRollbackVerified)
      (backup : disk.tree (.backup arguments.upgradeId) = none)
      (staging : disk.tree (.staging arguments.upgradeId) = none)
      (here : disk.tree .target = some target) (kept : target.released = release.released)
      (carried : ∀ entry ∈ release.entries, IsMutable entry.1 → entry ∈ target.entries)
  /-- An initial installation, for which there is no backup. -/
  | initial (transaction : UpgradeTransaction)
      (journal : disk.journal = some (.document transaction))
      (ours : Journalled host arguments old transaction) (fresh : old = none)
      (backup : disk.tree (.backup arguments.upgradeId) = none)
      (apart : disk.tree .target = none ∨ (disk.tree (.failed arguments.upgradeId) = none ∧
        disk.tree (.staging arguments.upgradeId) = none))

/-- A step of an upgrade: it ends in a phase, and changes directories only under the lock. -/
structure Governed (before after : ReleaseDisk × UpgradeLocals) : Prop where
  phase : Phase host arguments old after.1
  locked : after.1.trees = before.1.trees ∨ before.1.lock = some arguments.upgradeId

/-- What the handler of an upgrade starts from: as long as it may clean up, the target has not been
touched. -/
structure Stopped (state : ReleaseDisk × UpgradeLocals) : Prop where
  phase : Phase host arguments old state.1
  alone : state.2.interruptedPresent = false
  lock : state.1.lock = some arguments.upgradeId ∨
    state.1.tree (.staging arguments.upgradeId) = none
  untouched : state.2.untouched = true → state.1.journal = none ∨
    (state.1.tree .target = old ∧ state.1.tree (.backup arguments.upgradeId) = none ∧
      state.1.tree (.failed arguments.upgradeId) = none ∧
      ∃ transaction, state.1.journal = some (.document transaction) ∧
        Journalled host arguments old transaction ∧
        (transaction.state = .preflightPassed ∨ transaction.state = .stagingVerified))

end Phases

section Journal

variable {faulty : Bool}
  {allowed : ReleaseDisk × UpgradeLocals → ReleaseDisk × UpgradeLocals → Prop}
  {post : Except String Unit → ReleaseDisk × UpgradeLocals → Prop}

/-- The state is noted first, so that the handler sees it even if the journal was not written. -/
theorem writeTransaction_wp {transaction : UpgradeTransaction} {state : UpgradeState}
    {disk : ReleaseDisk} {locals : UpgradeLocals} :
    (writeTransaction transaction state).wp faulty allowed post (disk, locals) ↔
      (faulty = true → allowed
        (disk, { locals with transaction := some { transaction with state } })
        (disk, { locals with transaction := some { transaction with state } }) ∧
        ∀ message, post (.error message)
          (disk, { locals with transaction := some { transaction with state } })) ∧
      allowed (disk, { locals with transaction := some { transaction with state } })
        ({ disk with journal := some (.document { transaction with state }) },
          { locals with transaction := some { transaction with state } }) ∧
      post (.ok ()) ({ disk with journal := some (.document { transaction with state }) },
        { locals with transaction := some { transaction with state } }) := by
  unfold writeTransaction
  dsimp only
  rw [wp_set_andThen, writeUpgradeJournal, wp_atomic]

end Journal

section Staging

variable {host : ReleaseHost} {arguments : UpgradeArguments} {old : Option Tree}
variable {state : ReleaseDisk × UpgradeLocals}

/-- The journal has been written, and the target has not been touched. -/
structure Ready (host : ReleaseHost) (arguments : UpgradeArguments) (old : Option Tree)
    (state : ReleaseDisk × UpgradeLocals) : Prop where
  journal : ∃ transaction, state.1.journal = some (.document transaction) ∧
    Journalled host arguments old transaction ∧
    (transaction.state = .preflightPassed ∨ transaction.state = .stagingVerified)
  target : state.1.tree .target = old
  backup : state.1.tree (.backup arguments.upgradeId) = none
  failed : state.1.tree (.failed arguments.upgradeId) = none
  lock : state.1.lock = some arguments.upgradeId
  alone : state.2.interruptedPresent = false

theorem Ready.phase (ready : Ready host arguments old state) :
    Phase host arguments old state.1 := by
  obtain ⟨transaction, journal, ours, noted⟩ := ready.journal
  exact .untouched transaction journal ours noted ready.target ready.backup ready.failed

theorem Ready.stopped (ready : Ready host arguments old state) : Stopped host arguments old state :=
  ⟨ready.phase, ready.alone, .inl ready.lock,
    fun _ => .inr ⟨ready.target, ready.backup, ready.failed, ready.journal⟩⟩

/-- Only the staging directory, and possibly the audit, has changed. -/
structure StagingOnly (upgradeId : String) (before after : ReleaseDisk) : Prop where
  journal : after.journal = before.journal
  lock : after.lock = before.lock
  others : ∀ place, place ≠ .staging upgradeId → after.tree place = before.tree place

theorem StagingOnly.put (upgradeId : String) (disk : ReleaseDisk) (tree : Tree) :
    StagingOnly upgradeId disk (disk.put (.staging upgradeId) tree) := by
  refine ⟨rfl, rfl, fun place differs => ?_⟩
  rw [ReleaseDisk.tree_put, if_neg differs]

theorem StagingOnly.refl (upgradeId : String) (disk : ReleaseDisk) :
    StagingOnly upgradeId disk disk :=
  ⟨rfl, rfl, fun _ _ => rfl⟩

theorem Ready.next {disk after : ReleaseDisk} {locals : UpgradeLocals}
    (ready : Ready host arguments old (disk, locals))
    (only : StagingOnly arguments.upgradeId disk after) :
    Ready host arguments old (after, locals) := by
  obtain ⟨transaction, journal, rest⟩ := ready.journal
  refine ⟨⟨transaction, only.journal.trans journal, rest⟩, ?_, ?_, ?_,
    only.lock.trans ready.lock, ready.alone⟩
  · exact (only.others .target (by simp)).trans ready.target
  · exact (only.others (.backup _) (by simp)).trans ready.backup
  · exact (only.others (.failed _) (by simp)).trans ready.failed

/-- A step that touches only the staging directory. -/
theorem Ready.durable_wp {action : Action ReleaseDisk}
    {post : Except String Unit → ReleaseDisk × UpgradeLocals → Prop}
    (ready : Ready host arguments old state)
    (torn : ∀ left ∈ action.torn state.1, StagingOnly arguments.upgradeId state.1 left)
    (effect : ∀ after, action.effect state.1 = .ok after →
      StagingOnly arguments.upgradeId state.1 after ∧ (Ready host arguments old (after, state.2) →
        post (.ok ()) (after, state.2)))
    (failed : ∀ message left, Ready host arguments old (left, state.2) →
      post (.error message) (left, state.2)) :
    (durable action).wp true (Governed host arguments old) post state := by
  have next : ∀ {after : ReleaseDisk}, StagingOnly arguments.upgradeId state.1 after →
      Governed host arguments old state (after, state.2) := by
    intro after only
    exact ⟨(ready.next only).phase, .inr ready.lock⟩
  rw [wp_durable]
  refine ⟨fun left member => next (torn left member), ?_, ?_⟩
  · intro _
    refine ⟨next (.refl _ _), ?_⟩
    rintro message left (rfl | member)
    · exact failed message _ ready
    · exact failed message left (ready.next (torn left member))
  · cases done : action.effect state.1 with
    | ok after =>
      obtain ⟨only, reached⟩ := effect after done
      exact ⟨next only, reached (ready.next only)⟩
    | error message => exact failed message state.1 ready

/-- The staging directory is there. -/
def Staged (host : ReleaseHost) (arguments : UpgradeArguments) (old : Option Tree)
    (state : ReleaseDisk × UpgradeLocals) : Prop :=
  Ready host arguments old state ∧ (state.1.tree (.staging arguments.upgradeId)).isSome = true

/-- How a part of the staging may end. -/
def StagedOrStopped (host : ReleaseHost) (arguments : UpgradeArguments) (old : Option Tree)
    (outcome : Except String Unit) (after : ReleaseDisk × UpgradeLocals) : Prop :=
  match outcome with
  | .ok _ => Staged host arguments old after
  | .error _ => Stopped host arguments old after

theorem makeInside_staged {path : List String} (staged : Staged host arguments old state) :
    (durable (makeInside (.staging arguments.upgradeId) path)).wp true
      (Governed host arguments old) (StagedOrStopped host arguments old) state := by
  obtain ⟨ready, present⟩ := staged
  obtain ⟨tree, here⟩ := Option.isSome_iff_exists.mp present
  refine ready.durable_wp (by simp [makeInside, Action.atomic]) ?_
    (fun _ _ left => left.stopped)
  intro after done
  simp only [makeInside, Action.atomic, here] at done
  split at done
  · cases done
  · cases done
    exact ⟨.refl _ _, fun next => ⟨next, present⟩⟩
  · cases done
    exact ⟨.put _ _ _, fun next => ⟨next, by simp⟩⟩

theorem writeInside_staged {path : List String} {content : List UInt8}
    (staged : Staged host arguments old state) :
    (durable (writeInside (.staging arguments.upgradeId) path content)).wp true
      (Governed host arguments old) (StagedOrStopped host arguments old) state := by
  obtain ⟨ready, present⟩ := staged
  obtain ⟨tree, here⟩ := Option.isSome_iff_exists.mp present
  refine ready.durable_wp ?_ ?_ (fun _ _ left => left.stopped)
  · intro left member
    simp only [writeInside, here] at member
    split at member
    · cases member
    · obtain ⟨size, -, rfl⟩ := List.mem_map.mp member
      exact .put _ _ _
  · intro after done
    simp only [writeInside, here] at done
    split at done
    · cases done
    · cases done
      exact ⟨.put _ _ _, fun next => ⟨next, by simp⟩⟩

theorem stageFile_wp {file : PackageFile} (staged : Staged host arguments old state) :
    (stageFile host (.staging arguments.upgradeId) file).wp true (Governed host arguments old)
      (StagedOrStopped host arguments old) state := by
  unfold stageFile
  rw [wp_andThen]
  refine wp_forEach (fun _ => Staged host arguments old) ?_ ?_ staged
  · intro above rest state staged
    refine wp_mono ?_ (makeInside_staged staged)
    intro outcome after ended
    cases outcome <;> exact ended
  · intro state staged
    dsimp only
    refine wp_sequence (writeInside_staged staged) (fun _ _ => id) fun _ after ended => ?_
    rw [wp_reject]
    split
    · exact Ready.stopped (And.left ended)
    · exact ended

/-- Staging keeps away from the target. -/
theorem stageFiles_wp (ready : Ready host arguments old state) :
    (stageFiles host arguments).wp true (Governed host arguments old)
      (StagedOrStopped host arguments old) state := by
  unfold stageFiles
  dsimp only
  rw [wp_andThen]
  refine ready.durable_wp (by simp [makeRoot, Action.atomic]) ?_ (fun _ _ left => left.stopped)
  intro after done
  simp only [makeRoot, Action.atomic] at done
  split at done
  · cases done
    refine ⟨.put _ _ _, fun next => ?_⟩
    dsimp only
    rw [wp_andThen]
    refine wp_forEach (fun _ => Staged host arguments old) ?_ ?_ ⟨next, by simp⟩
    · intro file rest state staged
      refine wp_mono ?_ (stageFile_wp staged)
      intro outcome after ended
      cases outcome <;> exact ended
    · intro state staged
      exact writeInside_staged staged
  · simp at done

end Staging

section Prepare

variable {host : ReleaseHost} {arguments : UpgradeArguments} {old : Option Tree}
variable {versions : Option String × String}

/-- A disk before the upgrade: the target is as it is, and the identifier is new. -/
structure Unstarted (arguments : UpgradeArguments) (old : Option Tree) (disk : ReleaseDisk) :
    Prop where
  journal : disk.journal = none
  target : disk.tree .target = old
  staging : disk.tree (.staging arguments.upgradeId) = none
  backup : disk.tree (.backup arguments.upgradeId) = none
  failed : disk.tree (.failed arguments.upgradeId) = none

theorem Unstarted.stopped {disk : ReleaseDisk} (unstarted : Unstarted arguments old disk)
    {locals : UpgradeLocals} (alone : locals.interruptedPresent = false) :
    Stopped host arguments old (disk, locals) :=
  ⟨.closed unstarted.journal, alone, .inr unstarted.staging, fun _ => .inl unstarted.journal⟩

theorem validateUpgrade_ok {target : Option Tree}
    (accepted : validateUpgrade host arguments target = .ok versions) :
    deployedVersion host target = .ok versions.1 ∧
      (target.isSome = true → versions.1.isSome = true) := by
  unfold validateUpgrade at accepted
  simp only [bind, Except.bind, pure, Except.pure, throw, throwThe, MonadExceptOf.throw] at accepted
  split at accepted
  · cases accepted
  cases deployed : deployedVersion host target with
  | error message => simp [deployed] at accepted
  | ok fromVersion =>
    simp only [deployed] at accepted
    split at accepted
    · cases accepted
    · next versioned =>
      split at accepted
      · cases accepted
      · split at accepted
        · cases accepted
        · cases accepted
          refine ⟨rfl, fun installed => ?_⟩
          cases fromVersion with
          | none => simp [installed] at versioned
          | some version => rfl

/-- The transaction that an upgrade hands on from step to step. -/
structure Noted (host : ReleaseHost) (arguments : UpgradeArguments) (old : Option Tree)
    (transaction : UpgradeTransaction) : Prop where
  made : ∃ fromVersion toVersion,
    transaction = newUpgrade host arguments old fromVersion toVersion
  journalled : ∀ state, Journalled host arguments old { transaction with state }

theorem Noted.paths {transaction : UpgradeTransaction} (noted : Noted host arguments old transaction) :
    transaction.staging = .staging arguments.upgradeId ∧
      transaction.backup = .backup arguments.upgradeId ∧
      transaction.failed = .failed arguments.upgradeId ∧
      transaction.backupInventory = inventoryOf host old := by
  obtain ⟨fromVersion, toVersion, rfl⟩ := noted.made
  exact ⟨rfl, rfl, rfl, rfl⟩

theorem newUpgrade_noted (accepted : validateUpgrade host arguments old = .ok versions) :
    Noted host arguments old (newUpgrade host arguments old versions.1 versions.2) := by
  obtain ⟨version, versioned⟩ := validateUpgrade_ok accepted
  exact ⟨⟨_, _, rfl⟩, fun state => ⟨rfl, version, versioned⟩⟩

/-- Taking the lock and writing the first journal leave the target alone. -/
theorem prepareUpgrade_wp {disk : ReleaseDisk} (unstarted : Unstarted arguments old disk) :
    (prepareUpgrade host arguments).wp true (Governed host arguments old) (fun outcome after =>
      match outcome with
      | .ok transaction => Ready host arguments old after ∧ Noted host arguments old transaction
      | .error _ => Stopped host arguments old after) (disk, {}) := by
  unfold prepareUpgrade
  rw [wp_andThen, wp_ofExcept]
  cases arguments.locations with
  | error message => exact unstarted.stopped rfl
  | ok _ =>
  dsimp only
  -- Whatever the lock holds, the rest of the disk is as before.
  have locked : ∀ lock, Unstarted arguments old { disk with lock } := by
    intro lock
    exact ⟨unstarted.journal, unstarted.target, unstarted.staging, unstarted.backup,
      unstarted.failed⟩
  have governed : ∀ lock, Governed host arguments old (disk, {}) ({ disk with lock }, {}) := by
    intro lock
    exact ⟨.closed unstarted.journal, .inl rfl⟩
  rw [wp_andThen, wp_durable]
  refine ⟨?_, ?_, ?_⟩
  · intro left member
    simp only [acquireUpgradeLock] at member
    split at member
    · cases member
    · rw [List.mem_singleton.mp member]
      exact governed _
  · intro _
    refine ⟨governed disk.lock, ?_⟩
    rintro message left (rfl | member)
    · exact unstarted.stopped rfl
    · simp only [acquireUpgradeLock] at member
      split at member
      · cases member
      · rw [List.mem_singleton.mp member]
        exact (locked _).stopped rfl
  simp only [acquireUpgradeLock]
  split
  · next after done =>
    split at done
    · cases done
    cases done
    refine ⟨governed _, ?_⟩
    have missing : disk.journal.isSome = false := by rw [unstarted.journal]; rfl
    rw [wp_set_andThen, wp_get_andThen, wp_set_andThen, wp_andThen, wp_reject]
    simp only [missing, Bool.false_eq_true, if_false]
    rw [wp_get_andThen, wp_andThen, wp_ofExcept]
    have target := (locked (some arguments.upgradeId)).target
    simp only [target]
    cases accepted : validateUpgrade host arguments old with
    | error message => exact (locked _).stopped rfl
    | ok versions =>
      have noted := newUpgrade_noted accepted
      dsimp only
      rw [wp_andThen, writeTransaction_wp]
      refine ⟨fun _ => ⟨⟨.closed unstarted.journal, .inl rfl⟩, fun message => ?_⟩, ?_⟩
      · exact (locked _).stopped rfl
      have ready : ∀ locals : UpgradeLocals, locals.interruptedPresent = false →
          Ready host arguments old ({ disk with
            lock := some arguments.upgradeId
            journal := some (.document { newUpgrade host arguments old versions.1 versions.2 with
              state := .preflightPassed }) }, locals) := by
        intro locals alone
        exact ⟨⟨_, rfl, noted.journalled _, .inl rfl⟩, unstarted.target, unstarted.backup,
          unstarted.failed, rfl, alone⟩
      refine ⟨⟨(ready _ rfl).phase, .inl rfl⟩, ?_⟩
      dsimp only
      rw [wp_andThen]
      refine (ready _ rfl).durable_wp (by simp [auditUpgrade, Action.atomic]) ?_
        (fun _ _ left => left.stopped)
      intro after done
      cases done
      exact ⟨⟨rfl, rfl, fun _ _ => rfl⟩, fun next => ⟨next, noted⟩⟩
  · exact unstarted.stopped rfl

end Prepare

section Activate

variable {host : ReleaseHost} {arguments : UpgradeArguments} {old : Option Tree}
variable {noted : UpgradeState → Prop} {state : ReleaseDisk × UpgradeLocals} {backup side : Tree}
  {disk : ReleaseDisk} {transaction : UpgradeTransaction}

/-- The target has been touched: the journal stays, and the lock is held. -/
structure Underway (host : ReleaseHost) (arguments : UpgradeArguments) (old : Option Tree)
    (noted : UpgradeState → Prop) (state : ReleaseDisk × UpgradeLocals) : Prop where
  journal : ∃ transaction, state.1.journal = some (.document transaction) ∧
    Journalled host arguments old transaction ∧ noted transaction.state
  lock : state.1.lock = some arguments.upgradeId
  alone : state.2.interruptedPresent = false
  touched : state.2.untouched = false

/-- Where the old release and its mutable directories are. -/
structure Layout (host : ReleaseHost) (upgradeId : String) (release backup side : Tree)
    (disk : ReleaseDisk) : Prop where
  here : disk.tree (.backup upgradeId) = some backup
  beside : Alongside upgradeId disk side
  released : backup.released = release.released
  carried : Carried host.parents release backup side

theorem Underway.stopped (underway : Underway host arguments old noted state)
    (phase : Phase host arguments old state.1) :
    Stopped host arguments old state := by
  refine ⟨phase, underway.alone, .inl underway.lock, fun untouched => ?_⟩
  rw [underway.touched] at untouched
  cases untouched

theorem Layout.phase {release : Tree}
    (layout : Layout host arguments.upgradeId release backup side disk)
    (journal : disk.journal = some (.document transaction))
    (ours : Journalled host arguments (some release) transaction) :
    Phase host arguments (some release) disk :=
  .backed transaction release backup side journal ours rfl layout.here layout.beside
    ⟨backup, layout.released, List.suffix_refl _⟩ fun _ => ⟨layout.released, layout.carried⟩

theorem Underway.phase {release : Tree}
    (underway : Underway host arguments (some release) noted state)
    (layout : Layout host arguments.upgradeId release backup side state.1) :
    Phase host arguments (some release) state.1 := by
  obtain ⟨transaction, journal, ours, -⟩ := underway.journal
  exact layout.phase journal ours

theorem Phase.same (phase : Phase host arguments old disk) (lock : Option String)
    (audit : List UpgradeEvent) :
    Phase host arguments old { disk with lock, audit } := by
  cases phase with
  | closed absent => exact .closed absent
  | untouched transaction journal ours noted target backup failed =>
    exact .untouched transaction journal ours noted target backup failed
  | backed transaction release backup side journal ours installed here beside part kept =>
    refine .backed transaction release backup side journal ours installed here ?_ part kept
    cases beside with
    | target here failed staging => exact .target here failed staging
    | failed target here staging => exact .failed target here staging
    | staging target failed here => exact .staging target failed here
  | unbacked transaction release target journal ours installed backup here noted kept =>
    exact .unbacked transaction release target journal ours installed backup here noted kept
  | rolledBack transaction release target journal ours installed noted backup staging here kept
      carried =>
    exact .rolledBack transaction release target journal ours installed noted backup staging here
      kept carried
  | initial transaction journal ours fresh backup apart =>
    exact .initial transaction journal ours fresh backup apart

theorem auditUpgrade_wp {event : UpgradeEvent}
    {post : Except String Unit → ReleaseDisk × UpgradeLocals → Prop}
    (phase : Phase host arguments old state.1) (failed : ∀ message, post (.error message) state)
    (ended : post (.ok ()) ({ state.1 with audit := state.1.audit ++ [event] }, state.2)) :
    (durable (auditUpgrade event)).wp true (Governed host arguments old) post state := by
  rw [auditUpgrade, wp_atomic]
  exact ⟨fun _ => ⟨⟨phase, .inl rfl⟩, failed⟩, ⟨phase.same _ _, .inl rfl⟩, ended⟩

theorem writeTouched_wp {noted : UpgradeState} {locals : UpgradeLocals}
    {post : Except String Unit → ReleaseDisk × UpgradeLocals → Prop}
    (made : Noted host arguments old transaction)
    (later : noted ≠ .preflightPassed ∧ noted ≠ .stagingVerified)
    (lock : disk.lock = some arguments.upgradeId) (alone : locals.interruptedPresent = false)
    (before : Phase host arguments old disk) (after : Phase host arguments old
      { disk with journal := some (.document { transaction with state := noted }) })
    (failed : ∀ message locals', Stopped host arguments old (disk, locals') →
      post (.error message) (disk, locals'))
    (ended : ∀ locals', Underway host arguments old (· = noted)
      ({ disk with journal := some (.document { transaction with state := noted }) }, locals') →
      post (.ok ())
        ({ disk with journal := some (.document { transaction with state := noted }) }, locals')) :
    (writeTransaction transaction noted).wp true (Governed host arguments old) post
      (disk, locals) := by
  have touched : UpgradeLocals.untouched { locals with
      transaction := some { transaction with state := noted } } = false := by
    simp [UpgradeLocals.untouched, later]
  rw [writeTransaction_wp]
  refine ⟨fun _ => ⟨⟨before, .inl rfl⟩, fun message => failed message _ ?_⟩, ⟨after, .inl rfl⟩,
    ended _ ⟨⟨_, rfl, made.journalled noted, rfl⟩, lock, alone, touched⟩⟩
  refine ⟨before, alone, .inl lock, fun untouched => ?_⟩
  rw [touched] at untouched
  cases untouched

theorem rename_wp {source destination : Place} {tree : Tree}
    {post : Except String Unit → ReleaseDisk × UpgradeLocals → Prop}
    (lock : state.1.lock = some arguments.upgradeId) (here : state.1.tree source = some tree)
    (free : state.1.tree destination = none) (phase : Phase host arguments old state.1)
    (moved : Phase host arguments old ((state.1.remove source).put destination tree))
    (failed : ∀ message, post (.error message) state)
    (ended : post (.ok ()) ((state.1.remove source).put destination tree, state.2)) :
    (durable (rename source destination)).wp true (Governed host arguments old) post state := by
  rw [rename, wp_atomic]
  simp only [here, free]
  exact ⟨fun _ => ⟨⟨phase, .inl rfl⟩, failed⟩, ⟨moved, .inr lock⟩, ended⟩

theorem survives_give (release : Tree) : SurvivesTransfer host.parents fun backup side =>
    backup.released = release.released ∧ Carried host.parents release backup side where
  made := by
    rintro backup side path above ⟨released, carried⟩ - -
    refine ⟨released, ?_⟩
    simpa using carried.append [] [(above, .directory)]
  moved := by
    rintro backup side path ⟨released, carried⟩ chosen - -
    refine ⟨?_, carried.give chosen⟩
    rw [Tree.released_without (Tree.mem_candidates.mp chosen).2.2]
    exact released

theorem survives_take (release : Tree) : SurvivesTransfer host.parents fun side backup =>
    backup.released = release.released ∧ Carried host.parents release backup side where
  made := by
    rintro side backup path above ⟨released, carried⟩ - -
    refine ⟨?_, ?_⟩
    · rw [Tree.released_makeDirectory]
      exact released
    · simpa using carried.append [(above, .directory)] []
  moved := by
    rintro side backup path ⟨released, carried⟩ chosen - -
    refine ⟨?_, carried.take chosen⟩
    rw [Tree.released_receive (Tree.mem_candidates.mp chosen).2.2]
    exact released

/-- How the displacing of the target ends. -/
def DisplacedOrStopped (host : ReleaseHost) (arguments : UpgradeArguments) (release : Tree)
    (outcome : Except String Unit) (after : ReleaseDisk × UpgradeLocals) : Prop :=
  match outcome with
  | .ok _ => ∃ backup side, Underway host arguments (some release)
      (· = .mutableStateTransferred) after ∧
      Layout host arguments.upgradeId release backup side after.1 ∧
      after.1.tree .target = none ∧ after.1.tree (.failed arguments.upgradeId) = none ∧
      after.1.tree (.staging arguments.upgradeId) = some side
  | .error _ => Stopped host arguments (some release) after

/-- The mutable directories move from the backup to the staging directory. -/
theorem giveMutable_wp {release : Tree} (noted : Noted host arguments (some release) transaction)
    (underway : Underway host arguments (some release) (· = .backupCreated) state)
    (layout : Layout host arguments.upgradeId release backup side state.1)
    (target : state.1.tree .target = none)
    (failed : state.1.tree (.failed arguments.upgradeId) = none)
    (staging : state.1.tree (.staging arguments.upgradeId) = some side) :
    (do verifyInventory host (.backup arguments.upgradeId) transaction.backupInventory
        transferMutable host (.backup arguments.upgradeId) transaction.staging
        writeTransaction transaction .mutableStateTransferred).wp true
      (Governed host arguments (some release)) (DisplacedOrStopped host arguments release) state := by
  obtain ⟨disk, locals⟩ := state
  obtain ⟨current, journal, ours, -⟩ := underway.journal
  obtain ⟨toStaging, -, -, expected⟩ := noted.paths
  -- While directories are moved, only the two trees differ.
  have phase : ∀ {disk' : ReleaseDisk} {backup side : Tree}, Trading disk
      (.backup arguments.upgradeId) (.staging arguments.upgradeId) backup side disk' →
      backup.released = release.released ∧ Carried host.parents release backup side →
      Layout host arguments.upgradeId release backup side disk' ∧
        disk'.tree .target = none ∧ disk'.tree (.failed arguments.upgradeId) = none := by
    intro disk' backup side trading kept
    have target' := (trading.others .target (by simp) (by simp)).trans target
    have failed' := (trading.others (.failed _) (by simp) (by simp)).trans failed
    exact ⟨⟨trading.origin, .staging target' failed' trading.there, kept.1, kept.2⟩,
      target', failed'⟩
  have underway' : ∀ {disk' : ReleaseDisk} {backup side : Tree}, Trading disk
      (.backup arguments.upgradeId) (.staging arguments.upgradeId) backup side disk' →
      Underway host arguments (some release) (· = .backupCreated) (disk', locals) := by
    intro disk' backup side trading
    obtain ⟨current, journal, rest⟩ := underway.journal
    exact ⟨⟨current, trading.journal.trans journal, rest⟩, trading.lock.trans underway.lock,
      underway.alone, underway.touched⟩
  rw [toStaging, expected]
  rw [wp_andThen, verifyInventory, wp_get_andThen, wp_reject]
  have intact : inventoryOf host (disk.tree (.backup arguments.upgradeId)) =
      inventoryOf host (some release) := by
    rw [layout.here]
    exact Tree.inventory_congr layout.released host.sha256
  simp only [intact, ne_eq, not_true_eq_false, decide_false, Bool.false_eq_true, if_false]
  rw [wp_andThen]
  refine transferMutable_wp (by simp) (survives_give release) ?_ ?_ ?_
    (.refl layout.here staging) ⟨layout.released, layout.carried⟩
  · intro before after origin there origin' there' first _ second kept
    exact ⟨(underway' second).phase (phase second kept).1, .inr (underway' first).lock⟩
  · intro disk' origin there message trading kept _
    exact (underway' trading).stopped ((underway' trading).phase (phase trading kept).1)
  · intro disk' origin there trading kept _
    obtain ⟨layout, target, failed⟩ := phase trading kept
    have under := underway' trading
    have next : Layout host arguments.upgradeId release origin there { disk' with
        journal := some (.document { transaction with state := .mutableStateTransferred }) } :=
      ⟨layout.here, .staging target failed trading.there, layout.released, layout.carried⟩
    dsimp only
    refine writeTouched_wp noted (by simp) under.lock under.alone (under.phase layout)
      (next.phase rfl (noted.journalled _)) (fun _ _ stopped => stopped) ?_
    intro locals' after
    exact ⟨origin, there, after, next, target, failed, trading.there⟩

/-- An installed target is moved to the backup, with all it holds. -/
theorem displaceTarget_wp {release : Tree} (staged : Staged host arguments (some release) state)
    (noted : Noted host arguments (some release) transaction) :
    (displaceTarget host transaction).wp true (Governed host arguments (some release))
      (DisplacedOrStopped host arguments release) state := by
  obtain ⟨disk, locals⟩ := state
  obtain ⟨ready, present⟩ := staged
  obtain ⟨side, staging⟩ := Option.isSome_iff_exists.mp present
  obtain ⟨current, journal, ours, -⟩ := ready.journal
  obtain ⟨-, toBackup, -, -⟩ := noted.paths
  have here : disk.tree .target = some release := ready.target
  have free : disk.tree (.backup arguments.upgradeId) = none := ready.backup
  have unfailed : disk.tree (.failed arguments.upgradeId) = none := ready.failed
  have staging : disk.tree (.staging arguments.upgradeId) = some side := staging
  -- The backup holds the whole release, so all of it is carried.
  have moved : ∀ {disk' : ReleaseDisk}, disk'.tree = ((disk.remove .target).put
      (.backup arguments.upgradeId) release).tree →
      Layout host arguments.upgradeId release release side disk' ∧ disk'.tree .target = none ∧
        disk'.tree (.failed arguments.upgradeId) = none ∧
        disk'.tree (.staging arguments.upgradeId) = some side := by
    intro disk' same
    have target' : disk'.tree .target = none := by simp [same]
    have failed' : disk'.tree (.failed arguments.upgradeId) = none := by simp [same, unfailed]
    have staging' : disk'.tree (.staging arguments.upgradeId) = some side := by
      simp [same, staging]
    exact ⟨⟨by simp [same], .staging target' failed' staging', rfl,
      fun entry member _ => .inl member⟩, target', failed', staging'⟩
  have phase : Phase host arguments (some release) ((disk.remove .target).put
      (.backup arguments.upgradeId) release) := (moved rfl).1.phase journal ours
  unfold displaceTarget
  rw [wp_get_andThen, wp_andThen, wp_whenever, toBackup]
  have installed : disk.exists' .target = true := by rw [ReleaseDisk.exists', here]; rfl
  simp only [installed, if_true]
  refine rename_wp ready.lock here free ready.phase phase (fun _ => ready.stopped) ?_
  dsimp only
  rw [wp_andThen]
  obtain ⟨layout, target', failed', staging'⟩ := moved
    (rfl : ReleaseDisk.tree { (disk.remove .target).put (.backup arguments.upgradeId) release with
      journal := some (.document { transaction with state := .backupCreated }) } = _)
  refine writeTouched_wp noted (by simp) ready.lock ready.alone phase
    (layout.phase rfl (noted.journalled _)) (fun _ _ stopped => stopped) ?_
  intro locals' underway
  dsimp only
  rw [wp_get_andThen, wp_whenever]
  have backedUp : ReleaseDisk.exists' { (disk.remove .target).put
      (.backup arguments.upgradeId) release with
      journal := some (.document { transaction with state := .backupCreated }) }
      (.backup arguments.upgradeId) = true := by
    rw [ReleaseDisk.exists', layout.here]
    rfl
  simp only [backedUp, if_true]
  exact giveMutable_wp noted underway layout target' failed' staging'

/-- An initial installation has no target to move. -/
def BegunOrStopped (host : ReleaseHost) (arguments : UpgradeArguments)
    (outcome : Except String Unit) (after : ReleaseDisk × UpgradeLocals) : Prop :=
  match outcome with
  | .ok _ => ∃ side, Underway host arguments none (· = .backupCreated) after ∧
      after.1.tree .target = none ∧ after.1.tree (.backup arguments.upgradeId) = none ∧
      after.1.tree (.failed arguments.upgradeId) = none ∧
      after.1.tree (.staging arguments.upgradeId) = some side
  | .error _ => Stopped host arguments none after

theorem displaceNothing_wp (staged : Staged host arguments none state)
    (noted : Noted host arguments none transaction) :
    (displaceTarget host transaction).wp true (Governed host arguments none)
      (BegunOrStopped host arguments) state := by
  obtain ⟨disk, locals⟩ := state
  obtain ⟨ready, present⟩ := staged
  obtain ⟨side, staging⟩ := Option.isSome_iff_exists.mp present
  obtain ⟨-, toBackup, -, -⟩ := noted.paths
  have here : disk.tree .target = none := ready.target
  have free : disk.tree (.backup arguments.upgradeId) = none := ready.backup
  have unfailed : disk.tree (.failed arguments.upgradeId) = none := ready.failed
  unfold displaceTarget
  rw [wp_get_andThen, wp_andThen, wp_whenever, toBackup]
  have missing : disk.exists' .target = false := by rw [ReleaseDisk.exists', here]; rfl
  simp only [missing, Bool.false_eq_true, if_false]
  rw [wp_andThen]
  refine writeTouched_wp noted (by simp) ready.lock ready.alone ready.phase
    (.initial _ rfl (noted.journalled _) rfl free (.inl here)) (fun _ _ stopped => stopped) ?_
  intro locals' underway
  dsimp only
  rw [wp_get_andThen, wp_whenever]
  have unbacked : ReleaseDisk.exists' { disk with
      journal := some (.document { transaction with state := .backupCreated }) }
      (.backup arguments.upgradeId) = false := by
    show (disk.tree (.backup arguments.upgradeId)).isSome = false
    rw [free]
    rfl
  simp only [unbacked, Bool.false_eq_true, if_false]
  exact ⟨side, underway, here, free, unfailed, staging⟩

/-- The new release is in place, next to the backup of the old one. -/
def ActivatedOrStopped (host : ReleaseHost) (arguments : UpgradeArguments) (release : Tree)
    (outcome : Except String Unit) (after : ReleaseDisk × UpgradeLocals) : Prop :=
  match outcome with
  | .ok _ => ∃ backup side, Underway host arguments (some release) (· = .activated) after ∧
      Layout host arguments.upgradeId release backup side after.1 ∧
      after.1.tree .target = some side ∧ after.1.tree (.failed arguments.upgradeId) = none ∧
      after.1.tree (.staging arguments.upgradeId) = none
  | .error _ => Stopped host arguments (some release) after

theorem activateRelease_wp {release : Tree}
    (noted : Noted host arguments (some release) transaction)
    (underway : Underway host arguments (some release) (· = .mutableStateTransferred) state)
    (layout : Layout host arguments.upgradeId release backup side state.1)
    (target : state.1.tree .target = none)
    (failed : state.1.tree (.failed arguments.upgradeId) = none)
    (staging : state.1.tree (.staging arguments.upgradeId) = some side) :
    (activateRelease transaction).wp true (Governed host arguments (some release))
      (ActivatedOrStopped host arguments release) state := by
  obtain ⟨disk, locals⟩ := state
  obtain ⟨current, journal, ours, reached⟩ := underway.journal
  obtain ⟨toStaging, toBackup, -, -⟩ := noted.paths
  have here : disk.tree (.backup arguments.upgradeId) = some backup := layout.here
  have phase := underway.phase layout
  -- The new release takes the place of the old one.
  have moved : ∀ {disk' : ReleaseDisk}, disk'.tree = ((disk.remove
      (.staging arguments.upgradeId)).put .target side).tree →
      Layout host arguments.upgradeId release backup side disk' ∧
        disk'.tree .target = some side ∧ disk'.tree (.failed arguments.upgradeId) = none ∧
        disk'.tree (.staging arguments.upgradeId) = none := by
    intro disk' same
    have target' : disk'.tree .target = some side := by simp [same]
    have failed' : disk'.tree (.failed arguments.upgradeId) = none := by simpa [same] using failed
    have staging' : disk'.tree (.staging arguments.upgradeId) = none := by simp [same]
    exact ⟨⟨by simpa [same] using here, .target target' failed' staging', layout.released,
      layout.carried⟩, target', failed', staging'⟩
  unfold activateRelease
  rw [wp_andThen, wp_catching, toStaging, toBackup]
  refine rename_wp underway.lock staging target phase ((moved rfl).1.phase journal ours) ?_ ?_
  · -- The old release is put back without its mutable directories, and the journal lags behind.
    intro message
    dsimp only
    rw [wp_get_andThen, wp_andThen, wp_whenever]
    split
    · refine rename_wp underway.lock here target phase ?_ ?_ ?_
      · exact .unbacked current release backup journal ours rfl (by simp) (by simp) (.inl reached)
          fun _ => layout.released
      · exact fun _ => underway.stopped phase
      · have back : Underway host arguments (some release) (· = .mutableStateTransferred)
            ((disk.remove (.backup arguments.upgradeId)).put .target backup, locals) :=
          ⟨underway.journal, underway.lock, underway.alone, underway.touched⟩
        refine back.stopped ?_
        exact .unbacked current release backup journal ours rfl (by simp) (by simp) (.inl reached)
          fun _ => layout.released
    · exact underway.stopped phase
  · dsimp only
    rw [wp_get_andThen, wp_andThen]
    have active : Underway host arguments (some release) (· = .mutableStateTransferred)
        ((disk.remove (.staging arguments.upgradeId)).put .target side, locals) :=
      ⟨underway.journal, underway.lock, underway.alone, underway.touched⟩
    refine auditUpgrade_wp (active.phase (moved rfl).1)
      (fun _ => active.stopped (active.phase (moved rfl).1)) ?_
    dsimp only
    obtain ⟨layout', target', failed', staging'⟩ := moved
      (rfl : ReleaseDisk.tree { (disk.remove (.staging arguments.upgradeId)).put .target side with
        audit := disk.audit ++ [.activated transaction.upgradeId
          (((disk.remove (.staging arguments.upgradeId)).put .target side).exists'
            (.backup arguments.upgradeId))]
        journal := some (.document { transaction with state := .activated }) } = _)
    refine writeTouched_wp noted (by simp) active.lock active.alone
      ((active.phase (moved rfl).1).same _ _) (layout'.phase rfl (noted.journalled _))
      (fun _ _ stopped => stopped) ?_
    intro locals' under
    exact ⟨backup, side, under, layout', target', failed', staging'⟩

/-- The first release is in place. -/
def InstalledOrStopped (host : ReleaseHost) (arguments : UpgradeArguments)
    (outcome : Except String Unit) (after : ReleaseDisk × UpgradeLocals) : Prop :=
  match outcome with
  | .ok _ => ∃ side, Underway host arguments none (· = .activated) after ∧
      after.1.tree .target = some side ∧ after.1.tree (.backup arguments.upgradeId) = none ∧
      after.1.tree (.failed arguments.upgradeId) = none ∧
      after.1.tree (.staging arguments.upgradeId) = none
  | .error _ => Stopped host arguments none after

theorem activateInitial_wp (noted : Noted host arguments none transaction)
    (underway : Underway host arguments none (· = .backupCreated) state)
    (target : state.1.tree .target = none)
    (backup : state.1.tree (.backup arguments.upgradeId) = none)
    (failed : state.1.tree (.failed arguments.upgradeId) = none)
    (staging : state.1.tree (.staging arguments.upgradeId) = some side) :
    (activateRelease transaction).wp true (Governed host arguments none)
      (InstalledOrStopped host arguments) state := by
  obtain ⟨disk, locals⟩ := state
  obtain ⟨current, journal, ours, -⟩ := underway.journal
  obtain ⟨toStaging, toBackup, -, -⟩ := noted.paths
  have phase : Phase host arguments none disk :=
    .initial current journal ours rfl backup (.inl target)
  have moved : ∀ {disk' : ReleaseDisk}, disk'.tree = ((disk.remove
      (.staging arguments.upgradeId)).put .target side).tree →
      disk'.tree .target = some side ∧ disk'.tree (.backup arguments.upgradeId) = none ∧
        disk'.tree (.failed arguments.upgradeId) = none ∧
        disk'.tree (.staging arguments.upgradeId) = none := by
    intro disk' same
    exact ⟨by simp [same], by simpa [same] using backup, by simpa [same] using failed,
      by simp [same]⟩
  obtain ⟨-, backup', failed', staging'⟩ := moved rfl
  have active : Phase host arguments none
      ((disk.remove (.staging arguments.upgradeId)).put .target side) :=
    .initial current journal ours rfl backup' (.inr ⟨failed', staging'⟩)
  unfold activateRelease
  rw [wp_andThen, wp_catching, toStaging, toBackup]
  refine rename_wp underway.lock staging target phase active ?_ ?_
  · -- There is no backup to put back.
    intro message
    have unbacked : disk.exists' (.backup arguments.upgradeId) = false := by
      rw [ReleaseDisk.exists', backup]
      rfl
    dsimp only
    rw [wp_get_andThen, wp_andThen, wp_whenever]
    simp only [unbacked, Bool.false_and, Bool.false_eq_true, if_false]
    exact underway.stopped phase
  · have under : Underway host arguments none (· = .backupCreated)
        ((disk.remove (.staging arguments.upgradeId)).put .target side, locals) :=
      ⟨underway.journal, underway.lock, underway.alone, underway.touched⟩
    dsimp only
    rw [wp_get_andThen, wp_andThen]
    refine auditUpgrade_wp active (fun _ => under.stopped active) ?_
    dsimp only
    refine writeTouched_wp noted (by simp) under.lock under.alone (active.same _ _)
      (.initial _ rfl (noted.journalled _) rfl backup' (.inr ⟨failed', staging'⟩))
      (fun _ _ stopped => stopped) ?_
    intro locals' after
    exact ⟨side, after, moved rfl⟩

end Activate

section Finish

variable {host : ReleaseHost} {arguments : UpgradeArguments} {old : Option Tree}
variable {state : ReleaseDisk × UpgradeLocals} {transaction : UpgradeTransaction}
  {disk : ReleaseDisk}

/-- Removing a tree deletes it part by part. -/
theorem removeTree_wp {place : Place}
    {post : Except String Unit → ReleaseDisk × UpgradeLocals → Prop} (good : ReleaseDisk → Prop)
    (lock : state.1.lock = some arguments.upgradeId ∨ state.1.tree place = none)
    (phase : ∀ disk, good disk → Phase host arguments old disk) (begun : good state.1)
    (parts : ∀ tree count, state.1.tree place = some tree →
      good (state.1.put place ⟨tree.entries.drop count⟩)) (gone : good (state.1.remove place))
    (failed : ∀ message left, good left → left.lock = state.1.lock →
      (left.tree place = none → state.1.tree place = none) →
      post (.error message) (left, state.2))
    (ended : ∀ after, good after → after.lock = state.1.lock → after.tree place = none →
      post (.ok ()) (after, state.2)) :
    (removeTree place).wp true (Governed host arguments old) post state := by
  unfold removeTree
  rw [wp_get_andThen, wp_whenever]
  cases here : state.1.tree place with
  | none =>
    have missing : state.1.exists' place = false := by rw [ReleaseDisk.exists', here]; rfl
    simp only [missing, Bool.false_eq_true, if_false]
    exact ended _ begun rfl here
  | some tree =>
    have present : state.1.exists' place = true := by rw [ReleaseDisk.exists', here]; rfl
    have held : state.1.lock = some arguments.upgradeId := by
      rcases lock with held | absent
      · exact held
      · rw [here] at absent
        cases absent
    simp only [present, if_true]
    rw [wp_durable]
    simp only [removeDirectory, here]
    refine ⟨?_, ?_, ?_, ?_⟩
    · intro left member
      obtain ⟨count, -, rfl⟩ := List.mem_map.mp member
      exact ⟨phase _ (parts tree count here), .inr held⟩
    · intro _
      refine ⟨⟨phase _ begun, .inl rfl⟩, ?_⟩
      rintro message left (rfl | member)
      · exact failed message _ begun rfl id
      · obtain ⟨count, -, rfl⟩ := List.mem_map.mp member
        exact failed message _ (parts tree count here) rfl (by simp)
    · exact ⟨phase _ gone, .inr held⟩
    · exact ended _ gone rfl (by simp)

/-- How an upgrade ends: its handler has work to do only after an exception. -/
def EndedOrStopped (host : ReleaseHost) (arguments : UpgradeArguments) (old : Option Tree)
    {α : Type} (outcome : Except String α) (after : ReleaseDisk × UpgradeLocals) : Prop :=
  match outcome with
  | .ok _ => True
  | .error _ => Stopped host arguments old after

theorem closeUpgrade_wp {noted : UpgradeState → Prop}
    (underway : Underway host arguments old noted state) (phase : Phase host arguments old state.1) :
    closeUpgrade.wp true (Governed host arguments old) (EndedOrStopped host arguments old)
      state := by
  obtain ⟨current, journal, -, -⟩ := underway.journal
  have present : state.1.journal.isNone = false := by rw [journal]; rfl
  unfold closeUpgrade releaseHeldLock
  rw [wp_andThen, unlinkUpgradeJournal, wp_atomic]
  simp only [present, Bool.false_eq_true, if_false]
  refine ⟨fun _ => ⟨⟨phase, .inl rfl⟩, fun _ => underway.stopped phase⟩,
    ⟨.closed rfl, .inl rfl⟩, ?_⟩
  rw [wp_andThen, releaseUpgradeLock, wp_atomic]
  refine ⟨fun _ => ⟨⟨.closed rfl, .inl rfl⟩, fun _ => ?_⟩, ⟨.closed rfl, .inl rfl⟩, trivial⟩
  exact ⟨.closed rfl, underway.alone, .inl underway.lock, fun _ => .inl rfl⟩

/-- The last part of a rejection: the journal says what has been done, and the failed release is
removed. -/
theorem closeRejected_wp {locals : UpgradeLocals} (noted : Noted host arguments old transaction)
    (lock : disk.lock = some arguments.upgradeId) (alone : locals.interruptedPresent = false)
    (before : Phase host arguments old disk)
    (after : ∀ disk' : ReleaseDisk, disk'.journal = some (.document
        { transaction with state := .healthFailedRollbackVerified }) →
      (∀ place, place ≠ .failed arguments.upgradeId → disk'.tree place = disk.tree place) →
      Phase host arguments old disk') :
    (do writeTransaction transaction .healthFailedRollbackVerified
        durable (auditUpgrade
          (.healthFailedRollback transaction.upgradeId transaction.fromVersion.isSome))
        removeTree (.failed arguments.upgradeId)
        closeUpgrade
        return 2 : UpgradeProcess Nat).wp true (Governed host arguments old)
      (EndedOrStopped host arguments old) (disk, locals) := by
  rw [wp_andThen]
  refine writeTouched_wp noted (by simp) lock alone before (after _ rfl fun _ _ => rfl)
    (fun _ _ stopped => stopped) ?_
  intro locals' underway
  dsimp only
  rw [wp_andThen]
  refine auditUpgrade_wp (after _ rfl fun _ _ => rfl)
    (fun _ => underway.stopped (after _ rfl fun _ _ => rfl)) ?_
  dsimp only
  rw [wp_andThen]
  -- Only the failed release changes from here on.
  have under : ∀ disk' : ReleaseDisk, disk'.journal = some (.document
      { transaction with state := .healthFailedRollbackVerified }) →
      disk'.lock = some arguments.upgradeId → Underway host arguments old
        (· = .healthFailedRollbackVerified) (disk', locals') := by
    intro disk' journal held
    exact ⟨⟨_, journal, noted.journalled _, rfl⟩, held, underway.alone, underway.touched⟩
  refine removeTree_wp (fun disk' => disk'.journal = some (.document
      { transaction with state := .healthFailedRollbackVerified }) ∧
      ∀ place, place ≠ .failed arguments.upgradeId → disk'.tree place = disk.tree place)
    (.inl underway.lock) (fun disk' good => after disk' good.1 good.2) ⟨rfl, fun _ _ => rfl⟩ ?_ ?_
    ?_ ?_
  · intro tree count _
    refine ⟨rfl, fun place differs => ?_⟩
    rw [ReleaseDisk.tree_put, if_neg differs]
    rfl
  · refine ⟨rfl, fun place differs => ?_⟩
    rw [ReleaseDisk.tree_remove, if_neg differs]
    rfl
  · intro message left good held _
    exact (under left good.1 (held.trans underway.lock)).stopped (after left good.1 good.2)
  · intro left good held _
    dsimp only
    rw [wp_andThen]
    refine wp_mono ?_ (closeUpgrade_wp (under left good.1 (held.trans underway.lock))
      (after left good.1 good.2))
    intro outcome last ended
    cases outcome <;> exact ended

/-- Putting the old release back when the new one is not healthy. -/
theorem rejectRelease_wp {release backup side : Tree}
    (noted : Noted host arguments (some release) transaction)
    (underway : Underway host arguments (some release) (· = .activated) state)
    (layout : Layout host arguments.upgradeId release backup side state.1)
    (target : state.1.tree .target = some side)
    (failed : state.1.tree (.failed arguments.upgradeId) = none)
    (staging : state.1.tree (.staging arguments.upgradeId) = none) :
    (rejectRelease host transaction).wp true (Governed host arguments (some release))
      (EndedOrStopped host arguments (some release)) state := by
  obtain ⟨disk, locals⟩ := state
  obtain ⟨current, journal, ours, reached⟩ := underway.journal
  obtain ⟨-, toBackup, toFailed, expected⟩ := noted.paths
  have phase := underway.phase layout
  have here : disk.tree (.backup arguments.upgradeId) = some backup := layout.here
  have lock : disk.lock = some arguments.upgradeId := underway.lock
  -- The new release is out of the way, next to the backup.
  have aside : ∀ {disk' : ReleaseDisk} {side' backup' : Tree}, Trading
      ((disk.remove .target).put (.failed arguments.upgradeId) side)
      (.failed arguments.upgradeId) (.backup arguments.upgradeId) side' backup' disk' →
      backup'.released = release.released ∧ Carried host.parents release backup' side' →
      Underway host arguments (some release) (· = .activated) (disk', locals) ∧
        Layout host arguments.upgradeId release backup' side' disk' ∧
        disk'.tree .target = none ∧ disk'.tree (.staging arguments.upgradeId) = none := by
    intro disk' side' backup' trading kept
    have target' : disk'.tree .target = none := by
      rw [trading.others .target (by simp) (by simp)]
      simp
    have staging' : disk'.tree (.staging arguments.upgradeId) = none := by
      rw [trading.others (.staging _) (by simp) (by simp)]
      simpa using staging
    exact ⟨⟨⟨current, trading.journal.trans journal, ours, reached⟩, trading.lock.trans lock,
      underway.alone, underway.touched⟩, ⟨trading.there, .failed target' trading.origin staging',
        kept.1, kept.2⟩, target', staging'⟩
  have begun : Trading ((disk.remove .target).put (.failed arguments.upgradeId) side)
      (.failed arguments.upgradeId) (.backup arguments.upgradeId) side backup
      ((disk.remove .target).put (.failed arguments.upgradeId) side) :=
    .refl (by simp) (by simpa using here)
  have kept := And.intro layout.released layout.carried
  obtain ⟨first, firstLayout, -, -⟩ := aside begun kept
  unfold rejectRelease
  rw [wp_andThen, toFailed, toBackup, expected]
  refine rename_wp lock target failed phase (first.phase firstLayout)
    (fun _ => underway.stopped phase) ?_
  dsimp only
  rw [wp_get_andThen, wp_andThen, wp_whenever]
  have backedUp : ((disk.remove .target).put (.failed arguments.upgradeId) side).exists'
      (.backup arguments.upgradeId) = true := by
    rw [ReleaseDisk.exists', begun.there]
    rfl
  simp only [backedUp, if_true]
  rw [wp_andThen]
  refine transferMutable_wp (by simp) (survives_take release) ?_ ?_ ?_ begun kept
  · intro before after origin there origin' there' one kept' two kept''
    exact ⟨(aside two kept'').1.phase (aside two kept'').2.1, .inr (aside one kept').1.lock⟩
  · intro disk' origin there message trading kept' _
    obtain ⟨under, layout', -, -⟩ := aside trading kept'
    exact under.stopped (under.phase layout')
  · intro disk' side' backup' trading kept' empty
    obtain ⟨under, layout', target', staging'⟩ := aside trading kept'
    -- All mutable directories are back, so the backup is the whole old release.
    have settled := kept'.2.settled empty
    have restored : Phase host arguments (some release)
        ((disk'.remove (.backup arguments.upgradeId)).put .target backup') :=
      .unbacked current release backup' (trading.journal.trans journal) ours rfl (by simp) (by simp)
        (.inr (.inl reached)) fun _ => kept'.1
    have back : Underway host arguments (some release) (· = .activated)
        ((disk'.remove (.backup arguments.upgradeId)).put .target backup', locals) :=
      ⟨under.journal, under.lock, under.alone, under.touched⟩
    dsimp only
    rw [wp_andThen]
    refine rename_wp under.lock trading.there target' (under.phase layout') restored
      (fun _ => under.stopped (under.phase layout')) ?_
    dsimp only
    rw [verifyInventory, wp_get_andThen, wp_reject]
    split
    · exact back.stopped restored
    · refine closeRejected_wp noted back.lock back.alone restored ?_
      intro disk'' journal' same
      refine .rolledBack _ release backup' journal' (noted.journalled _) rfl rfl ?_ ?_ ?_ kept'.1
        settled
      · rw [same _ (by simp)]
        simp
      · rw [same _ (by simp)]
        simpa using staging'
      · rw [same _ (by simp)]
        simp

/-- An unhealthy initial installation is only moved out of the way. -/
theorem rejectInitial_wp {side : Tree} (noted : Noted host arguments none transaction)
    (underway : Underway host arguments none (· = .activated) state)
    (target : state.1.tree .target = some side)
    (backup : state.1.tree (.backup arguments.upgradeId) = none)
    (failed : state.1.tree (.failed arguments.upgradeId) = none)
    (staging : state.1.tree (.staging arguments.upgradeId) = none) :
    (rejectRelease host transaction).wp true (Governed host arguments none)
      (EndedOrStopped host arguments none) state := by
  obtain ⟨disk, locals⟩ := state
  obtain ⟨current, journal, ours, -⟩ := underway.journal
  obtain ⟨-, toBackup, toFailed, -⟩ := noted.paths
  have phase : Phase host arguments none disk :=
    .initial current journal ours rfl backup (.inr ⟨failed, staging⟩)
  have unbacked : ((disk.remove .target).put (.failed arguments.upgradeId) side).tree
      (.backup arguments.upgradeId) = none := by simpa using backup
  have removed : ((disk.remove .target).put (.failed arguments.upgradeId) side).tree
      .target = none := by simp
  have aside : Phase host arguments none
      ((disk.remove .target).put (.failed arguments.upgradeId) side) :=
    .initial current journal ours rfl unbacked (.inl removed)
  unfold rejectRelease
  rw [wp_andThen, toFailed, toBackup]
  refine rename_wp underway.lock target failed phase aside (fun _ => underway.stopped phase) ?_
  dsimp only
  rw [wp_get_andThen, wp_andThen, wp_whenever]
  have missing : ((disk.remove .target).put (.failed arguments.upgradeId) side).exists'
      (.backup arguments.upgradeId) = false := by
    rw [ReleaseDisk.exists', unbacked]
    rfl
  simp only [missing, Bool.false_eq_true, if_false]
  refine closeRejected_wp noted underway.lock underway.alone aside ?_
  intro disk' journal' same
  refine .initial _ journal' (noted.journalled _) rfl ?_ (.inl ?_)
  · rw [same _ (by simp)]
    exact unbacked
  · rw [same _ (by simp)]
    exact removed

/-- The release has passed its health check; backups may be removed. -/
structure Passed (host : ReleaseHost) (arguments : UpgradeArguments) (old : Option Tree)
    (transaction : UpgradeTransaction) (disk : ReleaseDisk) : Prop where
  journal : disk.journal = some (.document { transaction with state := .healthPassed })
  installed : ∃ side, disk.tree .target = some side
  failed : disk.tree (.failed arguments.upgradeId) = none
  staging : disk.tree (.staging arguments.upgradeId) = none
  backup : ∀ backup, disk.tree (.backup arguments.upgradeId) = some backup →
    ∃ release whole : Tree, old = some release ∧ whole.released = release.released ∧
      backup.entries <:+ whole.entries

theorem Passed.phase (noted : Noted host arguments old transaction)
    (passed : Passed host arguments old transaction disk) : Phase host arguments old disk := by
  obtain ⟨side, target⟩ := passed.installed
  cases here : disk.tree (.backup arguments.upgradeId) with
  | some backup =>
    obtain ⟨release, whole, installed, same, part⟩ := passed.backup backup here
    exact .backed _ release backup side passed.journal (noted.journalled _) installed here
      (.target target passed.failed passed.staging) ⟨whole, same, part⟩ fun differs => absurd rfl differs
  | none =>
    cases old with
    | none =>
      exact .initial _ passed.journal (noted.journalled _) rfl here
        (.inr ⟨passed.failed, passed.staging⟩)
    | some release =>
      exact .unbacked _ release side passed.journal (noted.journalled _) rfl here target
        (.inr (.inr rfl)) fun differs => absurd rfl differs

theorem Passed.removed {after : ReleaseDisk} (passed : Passed host arguments old transaction disk)
    (upgradeId : String) (journal : after.journal = disk.journal)
    (others : ∀ place, place ≠ .backup upgradeId → after.tree place = disk.tree place)
    (part : ∀ tree, after.tree (.backup upgradeId) = some tree → ∃ whole,
      disk.tree (.backup upgradeId) = some whole ∧ tree.entries <:+ whole.entries) :
    Passed host arguments old transaction after := by
  obtain ⟨side, target⟩ := passed.installed
  refine ⟨journal.trans passed.journal, ⟨side, (others _ (by simp)).trans target⟩,
    (others _ (by simp)).trans passed.failed, (others _ (by simp)).trans passed.staging, ?_⟩
  intro backup here
  by_cases own : upgradeId = arguments.upgradeId
  · subst own
    obtain ⟨whole, before, inside⟩ := part backup here
    obtain ⟨release, full, installed, same, suffix⟩ := passed.backup whole before
    exact ⟨release, full, installed, same, inside.trans suffix⟩
  · rw [others _ (by simpa using fun same => own same.symm)] at here
    exact passed.backup backup here

/-- The journal says that the release has passed, and the lock is still held. -/
def Passing (host : ReleaseHost) (arguments : UpgradeArguments) (old : Option Tree)
    (transaction : UpgradeTransaction) (state : ReleaseDisk × UpgradeLocals) : Prop :=
  Passed host arguments old transaction state.1 ∧
    state.1.lock = some arguments.upgradeId ∧ state.2.interruptedPresent = false ∧
    state.2.untouched = false

variable (noted : Noted host arguments old transaction)
  (passing : Passing host arguments old transaction state)
include noted passing

theorem Passing.stopped :
    Stopped host arguments old state := by
  obtain ⟨passed, lock, alone, touched⟩ := passing
  refine ⟨passed.phase noted, alone, .inl lock, fun untouched => ?_⟩
  rw [touched] at untouched
  cases untouched

theorem Passing.audit_wp {event : UpgradeEvent}
    {post : Except String Unit → ReleaseDisk × UpgradeLocals → Prop}
    (ended : ∀ outcome after, Passing host arguments old transaction after → post outcome after) :
    (durable (auditUpgrade event)).wp true (Governed host arguments old) post state := by
  obtain ⟨passed, rest⟩ := passing
  refine auditUpgrade_wp (passed.phase noted) (fun _ => ended _ _ ⟨passed, rest⟩) ?_
  exact ended _ _ ⟨⟨passed.journal, passed.installed, passed.failed, passed.staging,
    passed.backup⟩, rest⟩

/-- Backups are removed one after another; nothing else is. -/
theorem pruneBackups_wp :
    (pruneBackups arguments).wp true (Governed host arguments old)
      (fun _ after => Passing host arguments old transaction after) state := by
  unfold pruneBackups
  rw [wp_get_andThen]
  dsimp only
  rw [wp_andThen]
  refine wp_forEach (fun _ => Passing host arguments old transaction) ?_ ?_ passing
  · rintro upgradeId rest ⟨disk, locals⟩ ⟨passed, lock, alone, touched⟩
    refine removeTree_wp (Passed host arguments old transaction) (.inl lock)
      (fun _ => Passed.phase noted) passed ?_ ?_ ?_ ?_
    · intro tree count here
      refine passed.removed upgradeId rfl (fun place differs => ?_) ?_
      · rw [ReleaseDisk.tree_put, if_neg differs]
      · intro left inside
        rw [ReleaseDisk.tree_put, if_pos rfl] at inside
        cases inside
        exact ⟨tree, here, List.drop_suffix _ _⟩
    · refine passed.removed upgradeId rfl (fun place differs => ?_) ?_
      · rw [ReleaseDisk.tree_remove, if_neg differs]
      · intro left inside
        rw [ReleaseDisk.tree_remove, if_pos rfl] at inside
        cases inside
    · intro message left good held _
      exact ⟨good, held.trans lock, alone, touched⟩
    · intro left good held _
      exact ⟨good, held.trans lock, alone, touched⟩
  · exact fun _ ended => ended

omit noted passing

/-- A healthy release is kept, and the oldest backups go. -/
theorem acceptRelease_wp (noted : Noted host arguments old transaction)
    (phase : Phase host arguments old state.1) (lock : state.1.lock = some arguments.upgradeId)
    (alone : state.2.interruptedPresent = false) (target : ∃ side, state.1.tree .target = some side)
    (failed : state.1.tree (.failed arguments.upgradeId) = none)
    (staging : state.1.tree (.staging arguments.upgradeId) = none)
    (backup : ∀ backup, state.1.tree (.backup arguments.upgradeId) = some backup →
      ∃ release whole : Tree, old = some release ∧ whole.released = release.released ∧
        backup.entries <:+ whole.entries) :
    (acceptRelease arguments transaction).wp true (Governed host arguments old)
      (EndedOrStopped host arguments old) state := by
  obtain ⟨disk, locals⟩ := state
  have passed : Passed host arguments old transaction
      { disk with journal := some (.document { transaction with state := .healthPassed }) } :=
    ⟨rfl, target, failed, staging, backup⟩
  unfold acceptRelease
  rw [wp_andThen]
  refine writeTouched_wp noted (by simp) lock alone phase (passed.phase noted)
    (fun _ _ stopped => stopped) ?_
  intro locals' underway
  dsimp only
  rw [wp_andThen]
  refine Passing.audit_wp noted ⟨passed, underway.lock, underway.alone, underway.touched⟩ ?_
  intro outcome after passing
  cases outcome with
  | error message => exact passing.stopped noted
  | ok _ =>
    dsimp only
    rw [wp_andThen, wp_catching, wp_andThen]
    -- Whether or not the backups could be removed, the upgrade is closed.
    have close : ∀ last, Passing host arguments old transaction last →
        (do closeUpgrade
            return 0 : UpgradeProcess Nat).wp true (Governed host arguments old)
          (EndedOrStopped host arguments old) last := by
      rintro last ⟨passed, lock, alone, touched⟩
      have under : Underway host arguments old (· = .healthPassed) last :=
        ⟨⟨_, passed.journal, noted.journalled _, rfl⟩, lock, alone, touched⟩
      rw [wp_andThen]
      refine wp_mono ?_ (closeUpgrade_wp under (passed.phase noted))
      intro outcome final ended
      cases outcome <;> exact ended
    have report : ∀ message last, Passing host arguments old transaction last →
        (durable (auditUpgrade (.backupRetentionFailed transaction.upgradeId message)) :
          UpgradeProcess Unit).wp true (Governed host arguments old) (fun outcome final =>
            match outcome with
            | .ok _ => (do closeUpgrade
                           return 0 : UpgradeProcess Nat).wp true (Governed host arguments old)
                (EndedOrStopped host arguments old) final
            | .error _ => Stopped host arguments old final) last := by
      intro message last passing
      refine passing.audit_wp noted ?_
      intro outcome final ended
      cases outcome with
      | error _ => exact ended.stopped noted
      | ok _ => exact close final ended
    refine wp_mono ?_ (pruneBackups_wp noted passing)
    intro outcome last passing
    cases outcome with
    | error message => exact report message last passing
    | ok removed =>
      dsimp only
      refine passing.audit_wp noted ?_
      intro outcome final ended
      cases outcome with
      | error message => exact report message final ended
      | ok _ => exact close final ended

/-- A disk that the handler may clean up. -/
def Cleanable (host : ReleaseHost) (arguments : UpgradeArguments) (old : Option Tree)
    (disk : ReleaseDisk) : Prop :=
  disk.journal = none ∨
    (disk.tree .target = old ∧ disk.tree (.backup arguments.upgradeId) = none ∧
      disk.tree (.failed arguments.upgradeId) = none ∧
      ∃ transaction, disk.journal = some (.document transaction) ∧
        Journalled host arguments old transaction ∧
        (transaction.state = .preflightPassed ∨ transaction.state = .stagingVerified))

theorem Cleanable.phase (cleanable : Cleanable host arguments old disk) :
    Phase host arguments old disk := by
  rcases cleanable with absent | ⟨target, backup, failed, transaction, journal, ours, noted⟩
  · exact .closed absent
  · exact .untouched transaction journal ours noted target backup failed

theorem Cleanable.next {after : ReleaseDisk} (cleanable : Cleanable host arguments old disk)
    (only : StagingOnly arguments.upgradeId disk after) : Cleanable host arguments old after := by
  rcases cleanable with absent | ⟨target, backup, failed, transaction, journal, rest⟩
  · exact .inl (only.journal.trans absent)
  · exact .inr ⟨(only.others _ (by simp)).trans target, (only.others _ (by simp)).trans backup,
      (only.others _ (by simp)).trans failed, transaction, only.journal.trans journal, rest⟩

theorem removeEvidence_wp {locked : Bool} (cleanable : Cleanable host arguments old state.1) :
    (do let journalled ← get fun state => state.1.journal.isSome
        whenever journalled (durable unlinkUpgradeJournal)
        whenever locked releaseHeldLock : UpgradeProcess Unit).wp true
      (Governed host arguments old) (fun _ _ => True) state := by
  have release : ∀ last : ReleaseDisk × UpgradeLocals, Phase host arguments old last.1 →
      (whenever locked releaseHeldLock).wp true (Governed host arguments old)
        (fun _ _ => True) last := by
    intro last phase
    rw [wp_whenever]
    split
    · rw [releaseHeldLock, wp_andThen, releaseUpgradeLock, wp_atomic]
      exact ⟨fun _ => ⟨⟨phase, .inl rfl⟩, fun _ => trivial⟩, ⟨phase.same none last.1.audit, .inl rfl⟩,
        trivial⟩
    · trivial
  rw [wp_get_andThen, wp_andThen, wp_whenever]
  split
  · next journalled =>
    rw [unlinkUpgradeJournal, wp_atomic]
    have present : state.1.journal.isNone = false := by
      cases journal : state.1.journal with
      | none => simp [journal] at journalled
      | some _ => rfl
    simp only [present, Bool.false_eq_true, if_false]
    exact ⟨fun _ => ⟨⟨cleanable.phase, .inl rfl⟩, fun _ => trivial⟩, ⟨.closed rfl, .inl rfl⟩,
      release _ (.closed rfl)⟩
  · exact release state cleanable.phase

/-- The handler removes what an upgrade has left only while the target is as it was. -/
theorem applyFailed_wp {error : String} (stopped : Stopped host arguments old state) :
    (applyFailed arguments error).wp true (Governed host arguments old) (fun _ _ => True) state := by
  obtain ⟨disk, locals⟩ := state
  unfold applyFailed
  rw [wp_andThen]
  refine auditUpgrade_wp stopped.phase (fun _ => trivial) ?_
  dsimp only
  have alone : locals.interruptedPresent = false := stopped.alone
  rw [wp_get_andThen]
  simp only [alone, Bool.false_eq_true, if_false]
  rw [wp_andThen, wp_whenever]
  split
  · next untouched =>
    have cleanable : Cleanable host arguments old disk := stopped.untouched untouched
    rw [wp_andThen]
    refine removeTree_wp (Cleanable host arguments old) stopped.lock (fun _ => Cleanable.phase)
      (cleanable.next ⟨rfl, rfl, fun _ _ => rfl⟩) ?_ ?_ (fun _ _ _ _ _ => trivial) ?_
    · intro tree count _
      refine cleanable.next ⟨rfl, rfl, fun place differs => ?_⟩
      rw [ReleaseDisk.tree_put, if_neg differs]
      rfl
    · refine cleanable.next ⟨rfl, rfl, fun place differs => ?_⟩
      rw [ReleaseDisk.tree_remove, if_neg differs]
      rfl
    · intro after good _ _
      refine wp_mono ?_ (removeEvidence_wp good)
      intro outcome last _
      cases outcome <;> trivial
  · trivial

end Finish

section Whole

variable {host : ReleaseHost} {arguments : UpgradeArguments} {old : Option Tree}
variable {transaction : UpgradeTransaction} {state : ReleaseDisk × UpgradeLocals}

/-- The second journal, before the target is touched. -/
theorem verifyStaged_wp (noted : Noted host arguments old transaction)
    (staged : Staged host arguments old state) :
    (do writeTransaction transaction .stagingVerified
        durable (auditUpgrade (.stagingVerified arguments.upgradeId arguments.files.length)) :
        UpgradeProcess Unit).wp true (Governed host arguments old)
      (StagedOrStopped host arguments old) state := by
  obtain ⟨disk, locals⟩ := state
  obtain ⟨ready, present⟩ := staged
  have noting : ∀ locals' : UpgradeLocals, locals'.interruptedPresent = false →
      Ready host arguments old (disk, locals') := fun locals' alone =>
    ⟨ready.journal, ready.target, ready.backup, ready.failed, ready.lock, alone⟩
  have next : ∀ locals' : UpgradeLocals, locals'.interruptedPresent = false →
      Ready host arguments old ({ disk with
        journal := some (.document { transaction with state := .stagingVerified }) }, locals') :=
    fun locals' alone => ⟨⟨_, rfl, noted.journalled _, .inr rfl⟩, ready.target, ready.backup,
      ready.failed, ready.lock, alone⟩
  have alone : locals.interruptedPresent = false := ready.alone
  rw [wp_andThen, writeTransaction_wp]
  refine ⟨fun _ => ⟨⟨ready.phase, .inl rfl⟩, fun _ => Ready.stopped (noting _ ?_)⟩,
    ⟨Ready.phase (next _ ?_), .inl rfl⟩, ?_⟩
  · exact alone
  · exact alone
  dsimp only
  refine Ready.durable_wp (next _ ?_) (by simp [auditUpgrade, Action.atomic]) ?_
    (fun _ _ left => left.stopped)
  · exact alone
  intro after done
  cases done
  exact ⟨⟨rfl, rfl, fun _ _ => rfl⟩, fun reached => ⟨reached, present⟩⟩

/-- From the first rename on, for an installed target. -/
theorem replaceRelease_wp {release : Tree} (noted : Noted host arguments (some release) transaction)
    (staged : Staged host arguments (some release) state) :
    (do displaceTarget host transaction
        activateRelease transaction
        if !arguments.skipHealthCheck && !arguments.healthy then rejectRelease host transaction
        else acceptRelease arguments transaction : UpgradeProcess Nat).wp true
      (Governed host arguments (some release)) (EndedOrStopped host arguments (some release))
      state := by
  refine wp_sequence (displaceTarget_wp staged noted) (fun _ _ => id) ?_
  rintro - after ⟨backup, side, underway, layout, target, failed, staging⟩
  refine wp_sequence (activateRelease_wp noted underway layout target failed staging)
    (fun _ _ => id) ?_
  rintro - after ⟨backup, side, underway, layout, target, failed, staging⟩
  split
  · exact rejectRelease_wp noted underway layout target failed staging
  · refine acceptRelease_wp noted (underway.phase layout) underway.lock underway.alone
      ⟨side, target⟩ failed staging ?_
    intro backup' here
    rw [layout.here] at here
    cases here
    exact ⟨release, backup, rfl, layout.released, List.suffix_refl _⟩

theorem installRelease_wp (noted : Noted host arguments none transaction)
    (staged : Staged host arguments none state) :
    (do displaceTarget host transaction
        activateRelease transaction
        if !arguments.skipHealthCheck && !arguments.healthy then rejectRelease host transaction
        else acceptRelease arguments transaction : UpgradeProcess Nat).wp true
      (Governed host arguments none) (EndedOrStopped host arguments none) state := by
  refine wp_sequence (displaceNothing_wp staged noted) (fun _ _ => id) ?_
  rintro - after ⟨side, underway, target, backup, failed, staging⟩
  refine wp_sequence (activateInitial_wp noted underway target backup failed staging)
    (fun _ _ => id) ?_
  rintro - after ⟨side, underway, target, backup, failed, staging⟩
  obtain ⟨current, journal, ours, -⟩ := underway.journal
  split
  · exact rejectInitial_wp noted underway target backup failed staging
  · refine acceptRelease_wp noted (.initial current journal ours rfl backup
      (.inr ⟨failed, staging⟩)) underway.lock underway.alone ⟨side, target⟩ failed staging ?_
    intro backup' here
    rw [backup] at here
    cases here

theorem applyUpgrade_wp {disk : ReleaseDisk} (unstarted : Unstarted arguments old disk) :
    (applyUpgrade host arguments).wp true (Governed host arguments old) (fun _ _ => True)
      (disk, {}) := by
  unfold applyUpgrade
  rw [wp_catching]
  have body : (applyBody host arguments).wp true (Governed host arguments old)
      (EndedOrStopped host arguments old) (disk, {}) := by
    unfold applyBody
    refine wp_sequence (prepareUpgrade_wp unstarted) (fun _ _ => id) ?_
    rintro transaction after ⟨ready, noted⟩
    refine wp_sequence (stageFiles_wp ready) (fun _ _ => id) fun _ after reached => ?_
    have verified := verifyStaged_wp noted reached
    rw [wp_andThen] at verified
    refine wp_sequence verified (fun _ _ => id) fun _ after reached => ?_
    refine wp_sequence reached (fun _ _ => id) fun _ after reached => ?_
    cases old with
    | some release => exact replaceRelease_wp noted reached
    | none => exact installRelease_wp noted reached
  refine wp_mono ?_ body
  intro outcome after ended
  cases outcome with
  | ok _ => trivial
  | error message => exact applyFailed_wp ended

theorem applyUpgrade_phase {disk : ReleaseDisk} (unstarted : Unstarted arguments old disk)
    (faults : List (Option Fault)) :
    ∀ point ∈ ((applyUpgrade host arguments).start (disk, {}) faults).2.seen,
      Phase host arguments old point.1 :=
  (start_of_wp (applyUpgrade_wp unstarted) (fun _ _ step => step.phase)
    (.closed unstarted.journal) (by simp)).1

end Whole

end PocoDDS.Tools
