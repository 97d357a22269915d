import PocoDDS.Tools.PluginInstallFailure

/-! Failed plugin rollbacks, and what the records of both transactions say of their ends. -/

namespace PocoDDS.Tools

open AssocList CrashLogic ProcessLogic Process

/-- The steps of a rollback that may raise, from the lock on. -/
inductive RollbackStep
  | acquireLock
  | makeDisplacedRoot
  | journalPrepared
  | moveCurrent
  | journalDisplaced
  | restoreBackup
  | readRestored
  | appendCommitted
  | writeReport
  | unlinkJournal
  deriving DecidableEq, Repr

/-- The steps in their order; a report is written only where one is asked for. -/
def rollbackSteps (report : Bool) : List RollbackStep :=
  ([.acquireLock, .makeDisplacedRoot, .journalPrepared, .moveCurrent, .journalDisplaced,
    .restoreBackup, .readRestored, .appendCommitted] : List RollbackStep) ++
    (if report then [.writeReport] else []) ++ [.unlinkJournal]

/-- Both copies of a plugin, as the checks of a rollback have found them. -/
structure Approved (checks : PluginChecks) (arguments : PluginRollbackArguments)
    (before : PluginStore) (place : BackupPlace) (backupInfo current : BundleInfo) : Prop where
  saved : ∃ saved, before.backups.lookup place = some saved ∧
    inspectBundle checks place.name saved.content true = .ok backupInfo
  savedName : backupInfo.symbolicName = arguments.symbolicName
  savedDigest : backupInfo.sha256 = arguments.expectedBackupSha256.toLower
  installed : ∃ installed name, inventory checks before.bundles = .ok installed ∧
    installed.filter (·.2.symbolicName = arguments.symbolicName) = [(name, current)]
  currentDigest : current.sha256 = arguments.expectedCurrentSha256.toLower

/-- The checks find one pair of copies. -/
theorem Approved.unique {checks : PluginChecks} {arguments : PluginRollbackArguments}
    {before : PluginStore} {place : BackupPlace}
    {backupInfo backupInfo' current current' : BundleInfo}
    (first : Approved checks arguments before place backupInfo current)
    (second : Approved checks arguments before place backupInfo' current') :
    backupInfo = backupInfo' ∧ current = current' := by
  obtain ⟨saved, found, opened⟩ := first.saved
  obtain ⟨saved', found', opened'⟩ := second.saved
  rw [found, Option.some.injEq] at found'
  subst found'
  rw [opened, Except.ok.injEq] at opened'
  obtain ⟨installed, name, read, only⟩ := first.installed
  obtain ⟨installed', name', read', only'⟩ := second.installed
  rw [read, Except.ok.injEq] at read'
  subst read'
  rw [only, List.cons.injEq, Prod.mk.injEq] at only'
  exact ⟨opened', only'.1.2⟩

/-- A call that returns 1, with the plugins and the chosen backup as they were. -/
structure RestoresCopies (before : PluginStore) (place : BackupPlace) (outcome : Except String Nat)
    (after : PluginStore) : Prop where
  returned : outcome = .ok 1
  bundles : SameContents before.bundles after.bundles
  backup : (after.backups.lookup place).map (·.content) =
    (before.backups.lookup place).map (·.content)

/-- Whether what a rollback finds under the restored name is the backup: nothing else was there, or
the failing step comes before the variable for the restored path is set. -/
def RollbackRestorable (checks : PluginChecks) (arguments : PluginRollbackArguments)
    (before : PluginStore) (place : BackupPlace) (due : Option Nat) : Prop :=
  ∀ step backupInfo current, due = some step →
    Approved checks arguments before place backupInfo current →
    before.bundles.lookup backupInfo.canonicalFileName = none ∨
      backupInfo.canonicalFileName = current.fileName ∨
      step < (rollbackSteps arguments.report).idxOf .restoreBackup

section Steps

variable {checks : PluginChecks} {arguments : PluginRollbackArguments} {before : PluginStore}
  {due : Option Nat} {place : BackupPlace} {backupInfo current : BundleInfo}
variable {state : PluginStore × PluginRollbackLocals}

/-- A rollback that was let through to its first move. -/
structure RollbackAdmissible (checks : PluginChecks) (arguments : PluginRollbackArguments)
    (before : PluginStore) (place : BackupPlace) (backupInfo current : BundleInfo) : Prop where
  journal : before.journal = none
  lock : before.lock = none
  approved : Approved checks arguments before place backupInfo current

/-- A rollback that has not begun to move anything. -/
structure NotBegun (before : PluginStore) (state : PluginStore × PluginRollbackLocals) : Prop where
  bundles : state.1.bundles = before.bundles
  backups : state.1.backups = before.backups
  displaced : state.2.displaced = none
  restored : state.2.restored = none
  report : state.2.report = {}

theorem admitRollback_struck (ahead : Ahead due 0) :
    (admitRollback checks arguments place).struck due (fun outcome count after =>
      match outcome with
      | .ok infos => count = 1 ∧ Ahead due 1 ∧
          RollbackAdmissible checks arguments before place infos.1 infos.2 ∧
          after = ({ before with lock := some arguments.transactionId }, { lockAcquired := true })
      | .error _ => count ≤ 1 ∧ NotBegun before after ∧ (due = none → ∀ backupInfo current,
          ¬RollbackAdmissible checks arguments before place backupInfo current)) 0
      (before, {}) := by
  have waiting : ∀ lock lockAcquired, NotBegun before
      ({ before with lock }, ({ lockAcquired } : PluginRollbackLocals)) :=
    fun _ _ => ⟨rfl, rfl, rfl, rfl, rfl⟩
  have untouched : NotBegun before (before, {}) := waiting before.lock false
  unfold admitRollback
  rw [struck_get_andThen, struck_andThen, struck_reject]
  split
  · next present =>
    refine ⟨by omega, untouched, fun _ _ _ admissible => ?_⟩
    simp [admissible.journal] at present
  next absent =>
  dsimp only
  rw [struck_andThen]
  refine struck_durable ahead ?_ fun ahead => ?_
  · intro here message left from'
    refine ⟨by omega, ?_, fun none => by simp [here] at none⟩
    rcases from' with same | member
    · rw [same]
      exact untouched
    · simp only [acquireLock] at member
      split at member
      · cases member
      · rw [List.mem_singleton.mp member]
        exact waiting _ false
  simp only [acquireLock]
  by_cases held : before.lock.isSome = true
  · rw [if_pos held]
    refine ⟨by omega, untouched, fun _ _ _ admissible => ?_⟩
    simp [admissible.lock] at held
  rw [if_neg held]
  dsimp only
  rw [struck_set_andThen, struck_get_andThen, struck_andThen, struck_ofExcept]
  -- Whatever is refused behind the lock is refused because the copies are not approved.
  have refused : (∀ backupInfo current,
      ¬Approved checks arguments before place backupInfo current) →
      (1 : Nat) ≤ 1 ∧ NotBegun before ({ before with lock := some arguments.transactionId },
        ({ lockAcquired := true } : PluginRollbackLocals)) ∧
      (due = none → ∀ backupInfo current,
        ¬RollbackAdmissible checks arguments before place backupInfo current) :=
    fun unapproved => ⟨by omega, waiting _ true,
      fun _ backupInfo current admissible => unapproved backupInfo current admissible.approved⟩
  cases found : before.backups.lookup place with
  | none =>
    simp only [PluginStore.file, found, Option.elim_none]
    refine refused fun _ _ approved => ?_
    obtain ⟨saved, there, -⟩ := approved.saved
    rw [found] at there
    cases there
  | some saved =>
    simp only [PluginStore.file, found, Option.elim_some]
    have only' : ∀ {backupInfo current}, Approved checks arguments before place backupInfo current →
        inspectBundle checks place.name saved.content true = .ok backupInfo := by
      intro backupInfo current approved
      obtain ⟨other, there, opened⟩ := approved.saved
      rw [found, Option.some.injEq] at there
      rw [there]
      exact opened
    cases opened : inspectBundle checks place.name saved.content true with
    | error message =>
      refine refused fun _ _ approved => ?_
      rw [only' approved] at opened
      cases opened
    | ok backupInfo =>
      have same : ∀ {other current}, Approved checks arguments before place other current →
          other = backupInfo := by
        intro other current approved
        have read := only' approved
        rw [opened, Except.ok.injEq] at read
        exact read.symm
      dsimp only
      rw [struck_andThen, struck_reject]
      split
      · next named =>
        refine refused fun _ _ approved => ?_
        have ours := approved.savedName
        rw [same approved] at ours
        simp [ours] at named
      next named =>
      dsimp only
      rw [struck_andThen, struck_reject]
      split
      · next digest =>
        refine refused fun _ _ approved => ?_
        have ours := approved.savedDigest
        rw [same approved] at ours
        simp [ours] at digest
      next digest =>
      dsimp only
      rw [struck_get_andThen, struck_andThen, struck_ofExcept]
      cases read : inventory checks before.bundles with
      | error message =>
        refine refused fun _ _ approved => ?_
        obtain ⟨installed, name, listed, -⟩ := approved.installed
        rw [read] at listed
        cases listed
      | ok installed =>
        have single : ∀ {other current}, Approved checks arguments before place other current →
            ∃ name, installed.filter (·.2.symbolicName = arguments.symbolicName) =
              [(name, current)] := by
          intro other current approved
          obtain ⟨installed', name, listed, only⟩ := approved.installed
          rw [read, Except.ok.injEq] at listed
          rw [listed]
          exact ⟨name, only⟩
        dsimp only
        split
        · next name current only =>
          rw [struck_andThen, struck_reject]
          split
          · next unapproved =>
            refine refused fun _ _ approved => ?_
            obtain ⟨name', only'⟩ := single approved
            rw [only, List.cons.injEq, Prod.mk.injEq] at only'
            have ours := approved.currentDigest
            rw [← only'.1.2] at ours
            simp [ours] at unapproved
          next approved =>
          exact ⟨rfl, ahead, ⟨by simpa using absent, by simpa using held, ⟨saved, found, opened⟩,
            by simpa using named, by simpa using digest, ⟨installed, name, read, only⟩,
            by simpa using approved⟩, rfl⟩
        · next several =>
          refine refused fun _ _ approved => ?_
          obtain ⟨name', only'⟩ := single approved
          exact several _ _ only'

theorem Approved.admitted (approved : Approved checks arguments before place backupInfo current) :
    Admitted checks arguments before place backupInfo current := by
  obtain ⟨installed, name, read, only⟩ := approved.installed
  have member : (name, current) ∈ installed.filter
      (·.2.symbolicName = arguments.symbolicName) := by simp [only]
  obtain ⟨listed, ours⟩ := List.mem_filter.mp member
  exact ⟨approved.saved, approved.savedName, inventory_read read _ listed, by simpa using ours⟩

/-- The place that the installed plugin is moved to. -/
def asidePlace (arguments : PluginRollbackArguments) (name : String) : BackupPlace :=
  ⟨arguments.symbolicName, arguments.transactionId, name⟩

/-- A rollback that knows both paths: whether the installed plugin has been moved away, whether the
backup is about to be put in place, whether it is there, and whether the report says so. -/
structure Exchanging (arguments : PluginRollbackArguments) {checks : PluginChecks}
    {before : PluginStore} (copies : PluginCopies checks arguments.symbolicName before)
    (target : String) (moved named placed recorded : Bool)
    (state : PluginStore × PluginRollbackLocals) : Prop where
  locked : state.2.lockAcquired = true
  displaced : state.2.displaced = some (.backup (asidePlace arguments copies.name))
  current : state.2.currentPath = some (.bundle copies.name)
  restored : state.2.restored = if named = true then some (.bundle target) else none
  bundles : ∀ other, state.1.bundles.lookup other =
    if placed = true ∧ other = target then some copies.saved
    else if moved = true ∧ other = copies.name then none
    else before.bundles.lookup other
  backups : ∀ other, state.1.backups.lookup other =
    if placed = true ∧ other = copies.place then none
    else if moved = true ∧ other = asidePlace arguments copies.name then some copies.current
    else before.backups.lookup other
  listed : (keys state.1.bundles).Nodup ∧
    ((keys before.backups).Nodup → (keys state.1.backups).Nodup)
  housed : ∀ place ∈ keys state.1.backups, (place.folder, place.transactionId) ∈ state.1.roots
  roots : ∀ root ∈ state.1.roots, root ∈ before.roots ∨ root.2 = arguments.transactionId
  passed : state.2.report.passed = recorded
  unverified : state.2.report.rollbackVerified = none

/-- What the handler finds when one of the steps behind the checks has raised. -/
def FailedExchange (arguments : PluginRollbackArguments) {checks : PluginChecks}
    {before : PluginStore} (copies : PluginCopies checks arguments.symbolicName before)
    (target : String) (due : Option Nat) (count : Nat)
    (state : PluginStore × PluginRollbackLocals) : Prop :=
  ∃ step, due = some step ∧ 0 < step ∧ count = step + 1 ∧
    Exchanging arguments copies target (decide (4 ≤ step)) (decide (5 ≤ step))
      (decide (6 ≤ step)) (decide (7 ≤ step)) state

variable {copies : PluginCopies checks arguments.symbolicName before} {target : String}

/-- The place for the installed plugin is a new one. -/
theorem FreshTransaction.aside (fresh : FreshTransaction arguments.transactionId before)
    (name : String) : before.backups.lookup (asidePlace arguments name) = none := by
  rw [lookup_eq_none_iff]
  exact fun member => fresh.roots _ (fresh.formed.housed _ member)

theorem displaceCurrent_struck (target : String)
    (fresh : FreshTransaction arguments.transactionId before)
    (named : copies.name = current.fileName) (ahead : Ahead due 1) :
    (displaceCurrent arguments place current).struck due (fun outcome count after =>
      match outcome with
      | .ok _ => count = 5 ∧ Ahead due 5 ∧ after.1.journal.isSome = true ∧
          Exchanging arguments copies target true false false false after
      | .error _ => FailedExchange arguments copies target due count after) 1
      ({ before with lock := some arguments.transactionId }, { lockAcquired := true }) := by
  -- The variables are set before anything is done.
  have waiting : ∀ (roots : List (String × String)) (journal : Option PluginJournal),
      (∀ root ∈ before.roots, root ∈ roots) →
      (∀ root ∈ roots, root ∈ before.roots ∨ root.2 = arguments.transactionId) →
      Exchanging arguments copies target false false false false
        ({ before with lock := some arguments.transactionId, roots, journal },
          ({ lockAcquired := true
             currentPath := some (.bundle current.fileName)
             displaced := some (displacedPath arguments current) } : PluginRollbackLocals)) := by
    intro roots journal more known
    refine ⟨rfl, ?_, ?_, rfl, by simp, by simp, ⟨fresh.formed.bundles, id⟩, ?_, known, rfl, rfl⟩
    · simp [displacedPath, asidePlace, named]
    · simp [named]
    · exact fun place member => more _ (fresh.formed.housed place member)
  have start := fun journal => waiting before.roots journal (fun _ => id) fun _ => .inl
  have opened := fun journal => waiting
    (before.roots ++ [(arguments.symbolicName, arguments.transactionId)]) journal
    (fun root member => List.mem_append_left _ member) (by
      intro root member
      rcases List.mem_append.mp member with old | new
      · exact .inl old
      · rw [List.mem_singleton.mp new]
        exact .inr rfl)
  have here : before.bundles.lookup current.fileName = some copies.current := by
    rw [← named]
    exact copies.installed
  unfold displaceCurrent
  dsimp only [newRollback]
  rw [struck_set_andThen]
  refine struck_step ahead ?_ fun ahead => ?_
  · exact fun due' _ => ⟨1, due', by omega, rfl, start before.journal⟩
  simp only [fresh.roots, if_false]
  refine struck_step ahead ?_ fun ahead => ?_
  · exact fun due' _ => ⟨2, due', by omega, rfl, opened before.journal⟩
  dsimp only
  refine struck_step ahead ?_ fun ahead => ?_
  · exact fun due' _ => ⟨3, due', by omega, rfl, opened _⟩
  simp only [PluginStore.file, here, PluginStore.remove, PluginStore.put, displacedPath]
  have moved : ∀ journal, Exchanging arguments copies target true false false false
      ({ before with
          lock := some arguments.transactionId
          roots := before.roots ++ [(arguments.symbolicName, arguments.transactionId)]
          bundles := eraseKey current.fileName before.bundles
          backups := assign (asidePlace arguments current.fileName) copies.current before.backups
          journal },
        ({ lockAcquired := true
           currentPath := some (.bundle current.fileName)
           displaced := some (displacedPath arguments current) } : PluginRollbackLocals)) := by
    intro journal
    have before' := opened journal
    refine ⟨rfl, before'.displaced, before'.current, rfl, ?_, ?_,
      ⟨nodup_keys_eraseKey fresh.formed.bundles _, fun old => nodup_keys_assign old _ _⟩, ?_,
      before'.roots, rfl, rfl⟩
    · intro other
      simp [lookup_eraseKey, named]
    · intro other
      simp [lookup_assign, named]
    · intro place member
      rcases mem_keys_assign.mp member with same | inside
      · rw [same]
        exact List.mem_append_right _ List.mem_cons_self
      · exact List.mem_append_left _ (fresh.formed.housed place inside)
  rw [writeRollbackJournal]
  refine struck_atomic ahead ?_ fun ahead => ?_
  · exact fun due' _ => ⟨4, due', by omega, rfl, moved _⟩
  · exact ⟨rfl, ahead, rfl, moved _⟩

/-- What a rollback leaves that came to its end. -/
structure ExchangeDone (arguments : PluginRollbackArguments) {checks : PluginChecks}
    {before : PluginStore} (copies : PluginCopies checks arguments.symbolicName before)
    (target : String) (state : PluginStore × PluginRollbackLocals) : Prop where
  exchanging : Exchanging arguments copies target true true true true state
  journal : state.1.journal = none
  audit : ∃ events symbolicName restored sha256 displaced, state.1.audit = events ++
    [.rollbackCommitted arguments.transactionId symbolicName restored sha256 displaced]
  report : arguments.report = true → state.1.report = some state.2.report

theorem restoreBackup_struck (fresh : FreshTransaction arguments.transactionId before)
    (placed : copies.place = place)
    (digest : checks.sha256 copies.saved.content = backupInfo.sha256) (ahead : Ahead due 5)
    (journalled : state.1.journal.isSome = true)
    (moved : Exchanging arguments copies backupInfo.canonicalFileName true false false false
      state) :
    (restoreBackup checks arguments place backupInfo current).struck due (fun outcome count after =>
        match outcome with
        | .ok value => value = 0 ∧ count = (rollbackSteps arguments.report).length ∧
            Ahead due count ∧ ExchangeDone arguments copies backupInfo.canonicalFileName after
        | .error _ =>
            FailedExchange arguments copies backupInfo.canonicalFileName due count after)
      5 state := by
  obtain ⟨store, locals⟩ := state
  have apart : place ≠ asidePlace arguments copies.name := by
    intro same
    have free := fresh.aside copies.name
    rw [← same, ← placed, copies.approved] at free
    cases free
  have here : store.backups.lookup place = some copies.saved := by
    have kept := moved.backups place
    simp only [Bool.false_eq_true, false_and, if_false] at kept
    rw [kept, if_neg (fun both => apart both.2), ← placed]
    exact copies.approved
  -- The path is known before the backup is moved there.
  have naming : Exchanging arguments copies backupInfo.canonicalFileName true true false false
      (store, { locals with restored := some (.bundle backupInfo.canonicalFileName) }) :=
    ⟨moved.locked, moved.displaced, moved.current, rfl, moved.bundles, moved.backups,
      moved.listed, moved.housed, moved.roots, moved.passed, moved.unverified⟩
  have there : ∀ (journal : Option PluginJournal) (audit : List PluginEvent)
      (written : Option PluginReport) (report : PluginReport), report.rollbackVerified = none →
      Exchanging arguments copies backupInfo.canonicalFileName true true true report.passed
        ({ store with
            bundles := assign backupInfo.canonicalFileName copies.saved store.bundles
            backups := eraseKey place store.backups
            journal, audit
            report := written },
          { locals with restored := some (.bundle backupInfo.canonicalFileName), report }) := by
    intro journal audit written report unverified
    refine ⟨moved.locked, moved.displaced, moved.current, rfl, ?_, ?_,
      ⟨nodup_keys_assign moved.listed.1 _ _,
        fun old => nodup_keys_eraseKey (moved.listed.2 old) _⟩, ?_, moved.roots, rfl, unverified⟩
    · intro other
      have kept := moved.bundles other
      rw [lookup_assign, kept]
      simp
    · intro other
      have kept := moved.backups other
      rw [lookup_eraseKey, kept, placed]
      simp
    · exact fun other member => moved.housed other (mem_keys_eraseKey.mp member).2
  have waiting : locals.report.passed = false := moved.passed
  have first := fun journal audit => there journal audit store.report locals.report moved.unverified
  rw [waiting] at first
  have recorded := fun journal audit written => there journal audit written { locals.report with
    passed := true
    restored := some (.bundle backupInfo.canonicalFileName)
    restoredSha256 := some backupInfo.sha256
    displaced := some (displacedPath arguments current) } moved.unverified
  unfold restoreBackup
  dsimp only
  rw [struck_set_andThen]
  refine struck_step ahead ?_ fun ahead => ?_
  · exact fun due' _ => ⟨5, due', by omega, rfl, naming⟩
  simp only [PluginStore.file, here, PluginStore.remove, PluginStore.put]
  refine (struck_andThen _ _ _ _ _).mpr (checkDigest_struck copies.saved
    ahead (lookup_assign_self _ _ _) digest ?_ fun ahead => ?_)
  · exact fun due' _ => ⟨6, due', by omega, rfl, first store.journal store.audit⟩
  dsimp only
  rw [struck_set_andThen]
  refine struck_step ahead ?_ fun ahead => ?_
  · exact fun due' _ => ⟨7, due', by omega, rfl, recorded _ _ _⟩
  dsimp only
  rw [struck_get_andThen, struck_andThen, struck_whenever]
  have present : store.journal.isNone = false := by
    have some' : store.journal.isSome = true := journalled
    rw [Option.isSome_iff_exists] at some'
    obtain ⟨journal, found⟩ := some'
    rw [found]
    rfl
  by_cases written : arguments.report = true
  · rw [if_pos written, writeReport]
    refine struck_atomic ahead ?_ fun ahead => ?_
    · exact fun due' _ => ⟨8, due', by omega, rfl, recorded _ _ _⟩
    dsimp only
    refine struck_step ahead ?_ fun ahead => ?_
    · exact fun due' _ => ⟨9, due', by omega, rfl, recorded _ _ _⟩
    simp only [present, Bool.false_and, Bool.false_eq_true, if_false]
    refine ⟨rfl, by rw [written]; rfl, ahead, recorded _ _ _, rfl, ⟨_, _, _, _, _, rfl⟩, ?_⟩
    exact fun _ => rfl
  · rw [if_neg written]
    dsimp only
    refine struck_step ahead ?_ fun ahead => ?_
    · exact fun due' _ => ⟨8, due', by omega, rfl, recorded _ _ _⟩
    simp only [present, Bool.false_and, Bool.false_eq_true, if_false]
    rw [Bool.not_eq_true] at written
    refine ⟨rfl, by rw [written]; rfl, ahead, recorded _ _ _, rfl, ⟨_, _, _, _, _, rfl⟩, ?_⟩
    intro on
    rw [written] at on
    cases on

/-- How the guarded part of a rollback ends. -/
theorem rollbackPluginBody_struck (fresh : FreshTransaction arguments.transactionId before)
    (ahead : Ahead due 0) :
    (rollbackPluginBody checks arguments place).struck due (fun outcome count after =>
      match outcome with
      | .ok value => value = 0 ∧ Ahead due count ∧ ∃ backupInfo current,
          RollbackAdmissible checks arguments before place backupInfo current ∧
          count = (rollbackSteps arguments.report).length ∧
          ∃ copies : PluginCopies checks arguments.symbolicName before,
            copies.name = current.fileName ∧ copies.place = place ∧
            ExchangeDone arguments copies backupInfo.canonicalFileName after
      | .error _ => (count ≤ 1 ∧ NotBegun before after ∧ (due = none → ∀ backupInfo current,
            ¬RollbackAdmissible checks arguments before place backupInfo current)) ∨
          ∃ backupInfo current,
            RollbackAdmissible checks arguments before place backupInfo current ∧
            ∃ copies : PluginCopies checks arguments.symbolicName before,
              copies.name = current.fileName ∧ copies.place = place ∧
              FailedExchange arguments copies backupInfo.canonicalFileName due count after) 0
      (before, {}) := by
  unfold rollbackPluginBody
  refine struck_sequence (admitRollback_struck ahead)
    (fun _ _ _ holds => .inl holds) fun infos count admitted holds => ?_
  obtain ⟨backupInfo, current⟩ := infos
  obtain ⟨rfl, ahead, admissible, rfl⟩ := holds
  obtain ⟨copies, named, placed, digest⟩ := admissible.approved.admitted.copies fresh.formed
  dsimp only
  refine struck_sequence (displaceCurrent_struck backupInfo.canonicalFileName fresh
    named ahead) (fun _ _ _ holds => .inr ⟨_, _, admissible, copies, named, placed, holds⟩) ?_
  rintro - count displaced ⟨rfl, ahead, journalled, moved⟩
  refine struck_mono ?_ (restoreBackup_struck fresh placed digest ahead journalled moved)
  intro outcome count after holds
  cases outcome with
  | error message => exact .inr ⟨_, _, admissible, copies, named, placed, holds⟩
  | ok value =>
    obtain ⟨zero, count', ahead, done⟩ := holds
    exact ⟨zero, ahead, _, _, admissible, count', copies, named, placed, done⟩

/-- The files after a failed rollback was undone. Behind the checks for the restored path, whatever
has its name is taken for the backup. -/
structure UndoneExchange {checks : PluginChecks} {symbolicName : String} {before : PluginStore}
    (copies : PluginCopies checks symbolicName before) (target : String) (named : Bool)
    (after : PluginStore) : Prop where
  bundles : ∀ other, after.bundles.lookup other =
    if named = true ∧ other = target ∧ target ≠ copies.name then none
    else before.bundles.lookup other
  saved : named = false ∨ target = copies.name ∨ before.bundles.lookup target = none →
    after.backups.lookup copies.place = some copies.saved

/-- Making a directory that may be there changes no file. -/
theorem makeDirectory_existOk (folder transactionId : String) (store : PluginStore) :
    ∃ roots, (makeDirectory folder transactionId true).effect store = .ok { store with roots } := by
  simp only [makeDirectory, Action.atomic, if_true]
  split
  · exact ⟨store.roots, rfl⟩
  · exact ⟨_, rfl⟩

/-- The second half of `undoRollback`, which brings the displaced copy back. -/
def returnDisplaced (locals : PluginRollbackLocals) : PluginProcess PluginRollbackLocals Bool := do
  let displaced ← get fun state => locals.displaced.filter state.1.exists'
  match displaced, locals.currentPath with
  | some displaced, some current =>
    durable (replace displaced current)
    get fun state => state.1.exists' current
  | _, _ => return false

/-- Undoing a rollback. -/
theorem undoRollback_exchanging (fresh : FreshTransaction arguments.transactionId before)
    {moved named placed recorded : Bool} (order : (placed = true → named = true) ∧
      (named = true → moved = true))
    (exchanging : Exchanging arguments copies target moved named placed recorded state) :
    (undoRollback copies.place).wp false (fun _ _ => True) (fun outcome after =>
      ∃ undone, outcome = .ok moved ∧ after = (undone, state.2) ∧
        UndoneExchange copies target named undone) state := by
  obtain ⟨store, locals⟩ := state
  have restored : locals.restored = if named = true then some (.bundle target) else none :=
    exchanging.restored
  have displaced : locals.displaced = some (.backup (asidePlace arguments copies.name)) :=
    exchanging.displaced
  have current : locals.currentPath = some (.bundle copies.name) := exchanging.current
  have apart : copies.place ≠ asidePlace arguments copies.name := by
    intro same
    have free := fresh.aside copies.name
    rw [← same, copies.approved] at free
    cases free
  have asideFile : store.backups.lookup (asidePlace arguments copies.name) =
      if moved = true then some copies.current else none := by
    have kept := exchanging.backups (asidePlace arguments copies.name)
    rw [if_neg (fun both => apart both.2.symm)] at kept
    simpa [fresh.aside] using kept
  -- What the first half leaves under the restored name is gone, whatever it was.
  have second : ∀ after : PluginStore, (∀ other, after.bundles.lookup other =
        if named = true ∧ other = target then none else store.bundles.lookup other) →
      after.backups.lookup (asidePlace arguments copies.name) =
        (if moved = true then some copies.current else none) →
      (named = false ∨ target = copies.name ∨ before.bundles.lookup target = none →
        after.backups.lookup copies.place = some copies.saved) →
      (returnDisplaced locals).wp false (fun _ _ => True) (fun outcome last => ∃ undone, outcome = .ok moved ∧
          last = (undone, locals) ∧ UndoneExchange copies target named undone) (after, locals) := by
    intro after bundles aside saved
    unfold returnDisplaced
    rw [wp_get_andThen, displaced, current, Option.filter_some]
    have kept : ∀ other, moved = false ∨ other ≠ copies.name → after.bundles.lookup other =
        if named = true ∧ other = target ∧ target ≠ copies.name then none
        else before.bundles.lookup other := by
      intro other elsewhere
      have was := exchanging.bundles other
      rw [bundles other]
      by_cases gone : named = true ∧ other = target
      · have differs : target ≠ copies.name := by
          rcases elsewhere with unmoved | differs
          · rw [order.2 gone.1] at unmoved
            cases unmoved
          · rw [← gone.2]
            exact differs
        rw [if_pos gone, if_pos ⟨gone.1, gone.2, differs⟩]
      · rw [if_neg gone, if_neg (fun all => gone ⟨all.1, all.2.1⟩), was,
          if_neg (fun both => gone ⟨order.1 both.1, both.2⟩), if_neg]
        rintro ⟨on, same⟩
        rcases elsewhere with unmoved | differs
        · rw [on] at unmoved
          cases unmoved
        · exact differs same
    cases moved with
    | true =>
      have present : after.exists' (.backup (asidePlace arguments copies.name)) = true := by
        rw [PluginStore.exists', PluginStore.file, aside]
        rfl
      rw [if_pos present]
      dsimp only
      rw [wp_andThen, replace, wp_atomic]
      simp only [PluginStore.file, aside, if_true, PluginStore.put, PluginStore.remove]
      refine ⟨by simp, trivial, _, ?_, rfl, ?_, ?_⟩
      · simp [PluginStore.exists', PluginStore.file]
      · intro other
        rw [lookup_assign]
        split
        · next same =>
          rw [same, copies.installed, if_neg]
          rintro ⟨-, same', differs⟩
          exact differs same'.symm
        · next differs => exact kept other (.inr differs)
      · intro restorable
        dsimp only
        rw [lookup_eraseKey_ne apart]
        exact saved restorable
    | false =>
      have absent : ¬after.exists' (.backup (asidePlace arguments copies.name)) = true := by
        rw [PluginStore.exists', PluginStore.file, aside]
        simp
      rw [if_neg absent]
      exact ⟨after, rfl, rfl, fun other => kept other (.inl rfl), saved⟩
  unfold undoRollback
  rw [wp_get_andThen, wp_get_andThen, wp_andThen]
  dsimp only
  rw [restored]
  cases named with
  | false =>
    have unplaced : placed = false := by
      cases placed with
      | false => rfl
      | true => cases order.1 rfl
    refine second store (by simp) asideFile fun _ => ?_
    have kept := exchanging.backups copies.place
    rw [unplaced] at kept
    simp only [Bool.false_eq_true, false_and, if_false, if_neg (fun both : moved = true ∧ _ =>
      apart both.2)] at kept
    rw [kept]
    exact copies.approved
  | true =>
    rw [if_pos rfl, Option.filter_some]
    by_cases present : store.exists' (.bundle target) = true
    · obtain ⟨file, found⟩ := Option.isSome_iff_exists.mp present
      have moved' : moved = true := order.2 rfl
      obtain ⟨roots, made⟩ := makeDirectory_existOk copies.place.folder copies.place.transactionId
        store
      rw [if_pos present]
      dsimp only [Option.elim_some]
      have here : ({ store with roots } : PluginStore).file (.bundle target) = some file := found
      rw [wp_andThen, wp_durable]
      simp only [made]
      refine ⟨by simp [makeDirectory, Action.atomic], by simp, trivial, ?_⟩
      rw [replace, wp_atomic]
      simp only [here]
      refine ⟨by simp, trivial, second _ ?_ ?_ ?_⟩
      · intro other
        simp [PluginStore.put, PluginStore.remove, lookup_eraseKey]
      · dsimp only [PluginStore.put, PluginStore.remove]
        rw [lookup_assign_ne apart.symm]
        exact asideFile
      · -- Only a file that was there before the rollback is mistaken for the backup.
        intro restorable
        dsimp only [PluginStore.put, PluginStore.remove]
        rw [lookup_assign_self]
        have was := exchanging.bundles target
        have found : store.bundles.lookup target = some file := found
        rw [found] at was
        by_cases on : placed = true
        · rw [if_pos ⟨on, rfl⟩] at was
          exact was
        · rw [if_neg (fun both => on both.1)] at was
          rcases restorable with unnamed | ours | free
          · cases unnamed
          · rw [if_pos ⟨moved', ours⟩] at was
            cases was
          · rw [free, ite_self] at was
            cases was
    · rw [if_neg present]
      have missing : store.bundles.lookup target = none :=
        Option.not_isSome_iff_eq_none.mp present
      refine second store ?_ asideFile fun _ => ?_
      · intro other
        split
        · next both => rw [both.2, missing]
        · rfl
      · have was := exchanging.bundles target
        have kept := exchanging.backups copies.place
        have missing : (store, locals).1.bundles.lookup target = none := missing
        rw [missing] at was
        have unplaced : ¬placed = true := by
          intro on
          rw [if_pos ⟨on, rfl⟩] at was
          cases was
        rw [if_neg (fun both => unplaced both.1), if_neg (fun both => apart both.2)] at kept
        exact kept.trans copies.approved

theorem undoRollback_notBegun (waiting : NotBegun before state) :
    (undoRollback place).wp false (fun _ _ => True) (fun outcome after =>
      ∃ undone, outcome = .ok false ∧ after = (undone, state.2) ∧ undone = state.1) state := by
  unfold undoRollback
  rw [wp_get_andThen, wp_get_andThen, wp_andThen]
  simp only [waiting.displaced, waiting.restored, Option.filter_none, Option.elim_none]
  exact ⟨state.1, rfl, rfl, rfl⟩

/-- The handler undoes what it can, and records whether that is verified. -/
theorem rollbackPluginFailed_calm {error : String} {verified : Bool} {Undone : PluginStore → Prop}
    (undo : (undoRollback place).wp false (fun _ _ => True) (fun outcome after =>
      ∃ undone, outcome = .ok verified ∧ after = (undone, state.2) ∧ Undone undone) state) :
    (rollbackPluginFailed arguments place error).wp false (fun _ _ => True) (fun outcome after =>
      outcome = .ok 1 ∧ after.2.lockAcquired = state.2.lockAcquired ∧
        ∃ undone, Undone undone ∧ after.1.bundles = undone.bundles ∧
        after.1.backups = undone.backups ∧
        after.1.audit = undone.audit ++ [.rollbackFailed arguments.transactionId
          arguments.symbolicName error verified] ∧
        (arguments.report = true → ∃ report, after.1.report = some report ∧
          report.passed = state.2.report.passed ∧ report.rollbackVerified = some verified))
      state := by
  unfold rollbackPluginFailed
  rw [wp_andThen, wp_catching]
  refine wp_mono ?_ undo
  rintro outcome after ⟨undone, rfl, rfl, holds⟩
  dsimp only
  rw [wp_set_andThen, wp_andThen, appendAudit, wp_atomic]
  refine ⟨by simp, trivial, ?_⟩
  dsimp only
  rw [wp_get_andThen, wp_andThen, wp_whenever]
  -- The report comes last, whether or not the journal is taken away.
  have last : ∀ journal, (do
      let report ← get fun state => state.2.report
      whenever arguments.report (durable (writeReport report))
      return 1 : PluginProcess PluginRollbackLocals Nat).wp false (fun _ _ => True)
      (fun outcome after => outcome = .ok 1 ∧ after.2.lockAcquired = state.2.lockAcquired ∧
        ∃ undone, Undone undone ∧ after.1.bundles = undone.bundles ∧
        after.1.backups = undone.backups ∧
        after.1.audit = undone.audit ++ [.rollbackFailed arguments.transactionId
          arguments.symbolicName error verified] ∧
        (arguments.report = true → ∃ report, after.1.report = some report ∧
          report.passed = state.2.report.passed ∧ report.rollbackVerified = some verified))
      ({ undone with
          audit := undone.audit ++ [.rollbackFailed arguments.transactionId
            arguments.symbolicName error verified]
          journal },
        { state.2 with report := { state.2.report with
            error := some error, rollbackVerified := some verified } }) := by
    intro journal
    rw [wp_get_andThen, wp_andThen, wp_whenever]
    split
    · rw [writeReport, wp_atomic]
      exact ⟨by simp, trivial, rfl, rfl, undone, holds, rfl, rfl, rfl, fun _ => ⟨_, rfl, rfl, rfl⟩⟩
    · next unwritten =>
      exact ⟨rfl, rfl, undone, holds, rfl, rfl, rfl, fun written => absurd written unwritten⟩
  split
  · rw [unlinkJournal, wp_atomic]
    simp only [Bool.not_true, Bool.and_false, Bool.false_eq_true, if_false]
    exact ⟨by simp, trivial, last none⟩
  · exact last undone.journal

theorem rollbackPluginEnd_calm :
    rollbackPluginEnd.wp false (fun _ _ => True) (fun outcome after => outcome = .ok () ∧
      after.1 = { state.1 with
        lock := if state.2.lockAcquired = true then none else state.1.lock }) state := by
  unfold rollbackPluginEnd
  rw [wp_get_andThen, wp_whenever]
  split
  · rw [releaseLock, wp_atomic]
    exact ⟨by simp, trivial, rfl, rfl⟩
  · exact ⟨rfl, rfl⟩

end Steps

section Result

variable {checks : PluginChecks} {arguments : PluginRollbackArguments} {before : PluginStore}
  {due : Option Nat} {place : BackupPlace} {backupInfo current : BundleInfo}

/-- What a refused rollback leaves. -/
structure RefusedRollback (arguments : PluginRollbackArguments) (before after : PluginStore) :
    Prop where
  bundles : after.bundles = before.bundles
  backups : after.backups = before.backups
  audit : ∃ events symbolicName error, after.audit =
    events ++ [.rollbackFailed arguments.transactionId symbolicName error false]
  report : arguments.report = true → ∃ report, after.report = some report ∧
    report.passed = false ∧ report.rollbackVerified = some false

/-- What a rollback leaves that failed in one of its steps. -/
structure FailedRollback (arguments : PluginRollbackArguments) {checks : PluginChecks}
    {before : PluginStore} (copies : PluginCopies checks arguments.symbolicName before)
    (target : String) (step : Nat) (after : PluginStore) : Prop where
  files : UndoneExchange copies target (decide (5 ≤ step)) after
  audit : ∃ events symbolicName error, after.audit = events ++
    [.rollbackFailed arguments.transactionId symbolicName error (decide (4 ≤ step))]
  report : arguments.report = true → ∃ report, after.report = some report ∧
    report.passed = decide (7 ≤ step) ∧ report.rollbackVerified = some (decide (4 ≤ step))

/-- What a successful rollback leaves. -/
structure DoneRollback (arguments : PluginRollbackArguments) {checks : PluginChecks}
    {before : PluginStore} (copies : PluginCopies checks arguments.symbolicName before)
    (target : String) (after : PluginStore) : Prop where
  bundles : ∀ other, after.bundles.lookup other =
    if other = target then some copies.saved
    else if other = copies.name then none else before.bundles.lookup other
  backups : ∀ other, after.backups.lookup other =
    if other = copies.place then none
    else if other = asidePlace arguments copies.name then some copies.current
    else before.backups.lookup other
  formed : after.WellFormed
  distinct : (keys before.backups).Nodup → (keys after.backups).Nodup
  roots : ∀ root ∈ after.roots, root ∈ before.roots ∨ root.2 = arguments.transactionId
  journal : after.journal = none
  lock : after.lock = none
  audit : ∃ events symbolicName restored sha256 displaced, after.audit = events ++
    [.rollbackCommitted arguments.transactionId symbolicName restored sha256 displaced]
  report : arguments.report = true → ∃ report, after.report = some report ∧
    report.passed = true ∧ report.rollbackVerified = none

/-- The ways in which a rollback ends that has chosen its backup. -/
inductive RollbackResult (checks : PluginChecks) (arguments : PluginRollbackArguments)
    (before : PluginStore) (place : BackupPlace) (due : Option Nat) :
    Except String Nat → PluginStore → Prop
  | refused {after : PluginStore} (early : ∀ step, due = some step → step = 0)
      (inadmissible : due = none → ∀ backupInfo current,
        ¬RollbackAdmissible checks arguments before place backupInfo current)
      (result : RefusedRollback arguments before after) :
      RollbackResult checks arguments before place due (.ok 1) after
  | failed {after : PluginStore} {step : Nat} {backupInfo current : BundleInfo}
      (due' : due = some step) (begun : 0 < step)
      (admissible : RollbackAdmissible checks arguments before place backupInfo current)
      (copies : PluginCopies checks arguments.symbolicName before)
      (named : copies.name = current.fileName) (placed : copies.place = place)
      (result : FailedRollback arguments copies backupInfo.canonicalFileName step after) :
      RollbackResult checks arguments before place due (.ok 1) after
  | done {after : PluginStore} {backupInfo current : BundleInfo} (calm : due = none)
      (admissible : RollbackAdmissible checks arguments before place backupInfo current)
      (copies : PluginCopies checks arguments.symbolicName before)
      (named : copies.name = current.fileName) (placed : copies.place = place)
      (result : DoneRollback arguments copies backupInfo.canonicalFileName after) :
      RollbackResult checks arguments before place due (.ok 0) after

/-- A rollback that passed its last step has left nothing but the lock to its last part. -/
theorem ExchangeDone.done {copies : PluginCopies checks arguments.symbolicName before}
    {target : String} {state : PluginStore × PluginRollbackLocals}
    (exchanged : ExchangeDone arguments copies target state) :
    DoneRollback arguments copies target { state.1 with
      lock := if state.2.lockAcquired = true then none else state.1.lock } := by
  have exchanging := exchanged.exchanging
  refine ⟨?_, ?_, ⟨exchanging.listed.1, exchanging.housed⟩, exchanging.listed.2, exchanging.roots,
    exchanged.journal, ?_, exchanged.audit, ?_⟩
  · intro other
    simpa using exchanging.bundles other
  · intro other
    simpa using exchanging.backups other
  · simp [exchanging.locked]
  · intro written
    exact ⟨_, exchanged.report written, exchanging.passed, exchanging.unverified⟩

/-- Every rollback with at most one failing step ends in one of the ways. -/
theorem rollbackPlugin_struck (checks : PluginChecks)
    (fresh : FreshTransaction arguments.transactionId before)
    (confirmed : arguments.confirmRuntimeStopped = true) {rest : List BackupPlace}
    (chosen : pluginBackups arguments.symbolicName before = place :: rest)
    (within : Past due ((rollbackPluginBody checks arguments place).acts (before, {}))) :
    (rollbackPlugin checks arguments).struck due
      (fun outcome _ after => RollbackResult checks arguments before place due outcome after.1) 0
      (before, {}) := by
  unfold rollbackPlugin
  simp only [confirmed, Bool.not_true, Bool.false_eq_true, if_false]
  rw [struck_get_andThen]
  simp only [chosen]
  rw [struck_ensuring, struck_catching]
  have ahead : Ahead due 0 := fun step _ => Nat.zero_le step
  refine struck_within (by simpa using within)
    (struck_mono ?_ (rollbackPluginBody_struck fresh ahead))
  -- The step that was due lies behind, so that the handler and the last part run undisturbed.
  intro outcome count after holds past
  cases outcome with
  | ok value =>
    obtain ⟨rfl, ahead, backupInfo, current, admissible, -, copies, named, placed,
      exchanged⟩ := holds
    refine struck_past past (wp_mono ?_ rollbackPluginEnd_calm)
    rintro last state ⟨rfl, same⟩ count -
    dsimp only
    rw [same]
    exact .done (ahead.none past) admissible copies named placed exchanged.done
  | error message =>
    rcases holds with ⟨early, waiting, inadmissible⟩ |
        ⟨backupInfo, current, admissible, copies, named, placed, failed⟩
    · refine struck_past past (wp_mono ?_
        (rollbackPluginFailed_calm (undoRollback_notBegun waiting)))
      rintro outcome state ⟨rfl, -, undone, rfl, bundles, backups, audit, report⟩ count past'
      refine struck_past past' (wp_mono ?_ rollbackPluginEnd_calm)
      rintro last state ⟨rfl, same⟩ count -
      dsimp only
      rw [same]
      refine .refused (fun step here => ?_) inadmissible ⟨bundles.trans waiting.bundles,
        backups.trans waiting.backups, ⟨_, _, _, audit⟩, fun written => ?_⟩
      · have bound := past step here
        omega
      · obtain ⟨written, found, passed, verified⟩ := report written
        exact ⟨written, found, passed.trans (by rw [waiting.report]), verified⟩
    · obtain ⟨step, due', begun, -, exchanging⟩ := failed
      subst placed
      refine struck_past past (wp_mono ?_ (rollbackPluginFailed_calm
        (undoRollback_exchanging fresh ⟨?_, ?_⟩ exchanging)))
      · rintro outcome state ⟨rfl, -, undone, undone', bundles, backups, audit, report⟩ count past'
        refine struck_past past' (wp_mono ?_ rollbackPluginEnd_calm)
        rintro last state ⟨rfl, same⟩ count -
        dsimp only
        rw [same]
        refine .failed due' begun admissible copies named rfl ⟨⟨?_, ?_⟩, ⟨_, _, _, audit⟩, ?_⟩
        · intro other
          dsimp only
          rw [bundles]
          exact undone'.bundles other
        · intro restorable
          dsimp only
          rw [backups]
          exact undone'.saved restorable
        · intro written
          obtain ⟨written, found, passed, verified⟩ := report written
          exact ⟨written, found, passed.trans exchanging.passed, verified⟩
      · simp only [decide_eq_true_eq]
        omega
      · simp only [decide_eq_true_eq]
        omega

end Result

section Restoring

variable {checks : PluginChecks} {arguments : PluginRollbackArguments} {before : PluginStore}
  {due : Option Nat} {place : BackupPlace}

theorem idxOf_restoreBackup (report : Bool) : (rollbackSteps report).idxOf .restoreBackup = 5 := by
  cases report <;> rfl

theorem idxOf_appendCommitted (report : Bool) :
    (rollbackSteps report).idxOf .appendCommitted = 7 := by
  cases report <;> rfl

/-- The bundles are as before exactly when nothing was mistaken for the backup. -/
theorem UndoneExchange.same_iff {symbolicName : String}
    {copies : PluginCopies checks symbolicName before} {target : String} {step : Nat}
    {after : PluginStore} (canonical : isArtifact target = true)
    (undone : UndoneExchange copies target (decide (5 ≤ step)) after) :
    SameContents before.bundles after.bundles ↔
      before.bundles.lookup target = none ∨ target = copies.name ∨ step < 5 := by
  constructor
  · intro same
    have content := same target canonical
    rw [undone.bundles target] at content
    split at content
    · rw [Option.map_none, Option.map_eq_none_iff] at content
      exact .inl content
    · next kept =>
      simp only [decide_eq_true_eq, true_and, not_and_or, not_not, ne_eq] at kept
      rcases kept with early | ours
      · exact .inr (.inr (by omega))
      · exact .inr (.inl ours)
  · intro restorable name artifact
    rw [undone.bundles name]
    split
    · next lost =>
      simp only [decide_eq_true_eq] at lost
      obtain ⟨late, same, differs⟩ := lost
      rcases restorable with free | ours | early
      · rw [same, free]
      · exact absurd ours differs
      · omega
    · rfl

/-- A rollback whose guarded part raises gives both copies back exactly when no other bundle has the
name that the backup is restored under, or the failing step comes before that. -/
theorem failed_rollback_restores_iff (checks : PluginChecks) (arguments : PluginRollbackArguments)
    (before : PluginStore) (place : BackupPlace) (rest : List BackupPlace) (due : Option Nat)
    (fault : Fault) (names : checks.WellNamed)
    (fresh : FreshTransaction arguments.transactionId before)
    (confirmed : arguments.confirmRuntimeStopped = true)
    (chosen : pluginBackups arguments.symbolicName before = place :: rest)
    (within : Past due ((rollbackPluginBody checks arguments place).acts (before, {})))
    (raised : due = none → ¬∃ backupInfo current,
      RollbackAdmissible checks arguments before place backupInfo current) :
    RestoresCopies before place
        ((rollbackPlugin checks arguments).start (before, {}) (faultAt due fault)).1
        ((rollbackPlugin checks arguments).start (before, {}) (faultAt due fault)).2.state.1 ↔
      RollbackRestorable checks arguments before place due := by
  obtain ⟨-, result⟩ := start_of_struck fault
    (rollbackPlugin_struck checks fresh confirmed chosen within)
  generalize ((rollbackPlugin checks arguments).start (before, {}) (faultAt due fault)).1 = outcome,
    ((rollbackPlugin checks arguments).start (before, {}) (faultAt due fault)).2.state.1 = after
    at result ⊢
  cases result with
  | refused early inadmissible result =>
    constructor
    · intro _ step backupInfo current due' _
      rw [idxOf_restoreBackup, early step due']
      exact .inr (.inr (by omega))
    · intro _
      exact ⟨rfl, fun name _ => by rw [result.bundles], by rw [result.backups]⟩
  | failed due' begun admissible copies named placed result =>
    rename_i step backupInfo current
    obtain ⟨saved, -, opened⟩ := admissible.approved.saved
    have canonical := (inspectBundle_names names opened).1
    have same := result.files.same_iff canonical
    rw [named] at same
    constructor
    · intro restored step' backupInfo' current' due'' approved
      obtain ⟨rfl, rfl⟩ := approved.unique admissible.approved
      rw [due', Option.some.injEq] at due''
      subst due''
      rw [idxOf_restoreBackup]
      exact same.mp restored.bundles
    · intro restorable
      have free := restorable step backupInfo current due' admissible.approved
      rw [idxOf_restoreBackup] at free
      refine ⟨rfl, same.mpr free, ?_⟩
      rw [← placed, copies.approved, result.files.saved]
      rcases free with vacant | ours | early
      · exact .inr (.inr vacant)
      · exact .inr (.inl (ours.trans named.symm))
      · exact .inl (decide_eq_false (by omega))
  | done calm admissible => exact absurd ⟨_, _, admissible⟩ (raised calm)

def twoPluginChecks : PluginChecks where
  readBundle _ content _ := .ok { samplePlugin with
    canonicalFileName := if content = [1] then "pdr.plugin.sample_1.0.0.bndl"
      else "pdr.plugin.sample_2.0.0.bndl"
    symbolicName := if content = [3] then "pdr.plugin.other" else "pdr.plugin.sample" }
  sha256 content := if content = [1] then "d1" else "d2"
  loadRuntimeContract := .ok ⟨"1.0.0", "1", "1", "abi"⟩
  verifyPluginProvenance _ := .ok ()
  versionMatches _ _ := .ok true

theorem twoPluginChecks_wellNamed : twoPluginChecks.WellNamed := by
  constructor
  · rintro name content requirePlugin info ⟨rfl⟩
    dsimp only
    split <;> decide
  · rintro name content info ⟨rfl⟩
    dsimp only
    split <;> decide

/-- The name of version 1 is free in the first directory, and taken in the second one. -/
def crowdedStore : PluginStore :=
  { sampleRollbackStore with
    bundles := sampleRollbackStore.bundles ++ [("pdr.plugin.sample_1.0.0.bndl", ⟨[3], 1⟩)] }

theorem sampleRollbackStore_fresh :
    FreshTransaction sampleRollback.transactionId sampleRollbackStore :=
  ⟨sampleRollbackStore_wellFormed, by decide, by simp [sampleRollbackStore, sampleRollback]⟩

/-- Reading the restored plugin back fails, and both copies are where they were. -/
theorem failed_sample_rollback_restores :
    RestoresCopies sampleRollbackStore
      ⟨"pdr.plugin.sample", "t1", "pdr.plugin.sample_1.0.0.bndl"⟩
      ((rollbackPlugin twoPluginChecks sampleRollback).start (sampleRollbackStore, {})
        (faultAt (some 6) ⟨"Input/output error", 0⟩)).1
      ((rollbackPlugin twoPluginChecks sampleRollback).start (sampleRollbackStore, {})
        (faultAt (some 6) ⟨"Input/output error", 0⟩)).2.state.1 := by
  refine (failed_rollback_restores_iff twoPluginChecks sampleRollback sampleRollbackStore
    ⟨"pdr.plugin.sample", "t1", "pdr.plugin.sample_1.0.0.bndl"⟩ [] (some 6) _
    twoPluginChecks_wellNamed sampleRollbackStore_fresh rfl (by decide +kernel) ?_
    (fun none => by cases none)).mpr ?_
  · rintro step ⟨rfl⟩
    decide +kernel
  · intro step backupInfo current _ approved
    obtain ⟨saved, found, opened⟩ := approved.saved
    cases found
    cases opened
    exact .inl rfl

/-- The other plugin has the name that version 1 is restored under; it ends as the backup. -/
theorem failed_rollback_loses_bundle :
    ¬∀ (checks : PluginChecks) (arguments : PluginRollbackArguments) (before : PluginStore)
      (place : BackupPlace) (rest : List BackupPlace) (due : Option Nat) (fault : Fault),
      checks.WellNamed → FreshTransaction arguments.transactionId before →
      arguments.confirmRuntimeStopped = true →
      pluginBackups arguments.symbolicName before = place :: rest →
      Past due ((rollbackPluginBody checks arguments place).acts (before, {})) →
      (due = none → ¬∃ backupInfo current,
        RollbackAdmissible checks arguments before place backupInfo current) →
      RestoresCopies before place
        ((rollbackPlugin checks arguments).start (before, {}) (faultAt due fault)).1
        ((rollbackPlugin checks arguments).start (before, {}) (faultAt due fault)).2.state.1 := by
  intro always
  have fresh : FreshTransaction sampleRollback.transactionId crowdedStore :=
    ⟨⟨by decide, by decide⟩, by decide, by simp [crowdedStore, sampleRollbackStore, sampleRollback]⟩
  have within : Past (some 5) ((rollbackPluginBody twoPluginChecks sampleRollback
      ⟨"pdr.plugin.sample", "t1", "pdr.plugin.sample_1.0.0.bndl"⟩).acts (crowdedStore, {})) := by
    rintro step ⟨rfl⟩
    decide +kernel
  have same := (always _ _ _ _ [] _ ⟨"Input/output error", 0⟩ twoPluginChecks_wellNamed fresh rfl
    (by decide +kernel) within (fun none => by cases none)).bundles
      "pdr.plugin.sample_1.0.0.bndl" (by decide)
  have lost : ((((rollbackPlugin twoPluginChecks sampleRollback).start (crowdedStore, {})
      (faultAt (some 5) ⟨"Input/output error", 0⟩)).2.state.1.bundles.lookup
        "pdr.plugin.sample_1.0.0.bndl").map (·.content)) ≠
      (crowdedStore.bundles.lookup "pdr.plugin.sample_1.0.0.bndl").map (·.content) := by
    decide +kernel
  exact lost same.symm

end Restoring

end PocoDDS.Tools
