import PocoDDS.Tools.PluginRecovery

/-! Interrupted plugin rollbacks: no copy is lost, and recovery leaves them to the operator. -/

namespace PocoDDS.Tools

open AssocList CrashLogic ProcessLogic Process

/-- A directory lists a name once, and every backup is in a directory that was made for it. -/
structure PluginStore.WellFormed (store : PluginStore) : Prop where
  bundles : (keys store.bundles).Nodup
  housed : ∀ place ∈ keys store.backups, (place.folder, place.transactionId) ∈ store.roots

/-- Whether a file is a bundle of a given symbolic name. -/
def IsBundleOf (checks : PluginChecks) (symbolicName name : String) (file : PluginFile)
    (requirePlugin : Bool) : Prop :=
  ∃ info, inspectBundle checks name file.content requirePlugin = .ok info ∧
    info.symbolicName = symbolicName

/-- The two copies of a plugin that a rollback exchanges. -/
structure PluginCopies (checks : PluginChecks) (symbolicName : String) (before : PluginStore) where
  name : String
  current : PluginFile
  place : BackupPlace
  saved : PluginFile
  installed : before.bundles.lookup name = some current
  ours : IsBundleOf checks symbolicName name current false
  approved : before.backups.lookup place = some saved
  same : IsBundleOf checks symbolicName place.name saved true

/-- How far the exchange has come. At every stage each of the copies is in exactly one place, and at
most one of them in the bundle directory. -/
inductive Exchanged (checks : PluginChecks) (symbolicName : String)
    (before after : PluginStore) : Prop
  | untouched (bundles : after.bundles = before.bundles) (backups : after.backups = before.backups)
  | displaced (copies : PluginCopies checks symbolicName before) (aside : BackupPlace)
      (apart : aside ∉ keys before.backups)
      (bundles : ∀ other, after.bundles.lookup other =
        if other = copies.name then none else before.bundles.lookup other)
      (backups : ∀ other, after.backups.lookup other =
        if other = aside then some copies.current else before.backups.lookup other)
  | restored (copies : PluginCopies checks symbolicName before) (aside : BackupPlace)
      (apart : aside ∉ keys before.backups) (target : String)
      (bundles : ∀ other, after.bundles.lookup other =
        if other = target then some copies.saved
        else if other = copies.name then none else before.bundles.lookup other)
      (backups : ∀ other, after.backups.lookup other =
        if other = copies.place then none
        else if other = aside then some copies.current else before.backups.lookup other)

/-- Recovery refuses, and touches neither the files nor the journal nor the lock. -/
structure LeftAlone (checks : PluginChecks) (recovery : RecoverArguments) (store : PluginStore) :
    Prop where
  returned : ((recoverPlugin checks recovery).start (store, {}) []).1 = .ok 1
  bundles : ((recoverPlugin checks recovery).start (store, {}) []).2.state.1.bundles = store.bundles
  backups : ((recoverPlugin checks recovery).start (store, {}) []).2.state.1.backups = store.backups
  journal : ((recoverPlugin checks recovery).start (store, {}) []).2.state.1.journal = store.journal
  lock : ((recoverPlugin checks recovery).start (store, {}) []).2.state.1.lock = store.lock

/-- What a recovery of the rollback itself would have to leave: one bundle of the plugin, the other
copy in the backup directory, and neither a journal nor a lock. -/
structure RecoversRollback (checks : PluginChecks) (arguments : PluginRollbackArguments)
    (recovery : RecoverArguments) (before crashed : PluginStore) : Prop where
  returned : ((recoverPlugin checks recovery).start (crashed, {}) []).1 = .ok 0
  single :
    let after := ((recoverPlugin checks recovery).start (crashed, {}) []).2.state.1
    ∃ copies : PluginCopies checks arguments.symbolicName before, ∃ name file place,
      after.bundles.lookup name = some file ∧
      (∀ other found, after.bundles.lookup other = some found →
        IsBundleOf checks arguments.symbolicName other found false → other = name) ∧
      ((file = copies.current ∧ after.backups.lookup place = some copies.saved) ∨
        (file = copies.saved ∧ after.backups.lookup place = some copies.current))
  unjournalled : ((recoverPlugin checks recovery).start (crashed, {}) []).2.state.1.journal = none
  unlocked : ((recoverPlugin checks recovery).start (crashed, {}) []).2.state.1.lock = none

def PluginStore.rollsBack (store : PluginStore) : Prop :=
  store.journal = none ∨ ∃ transaction, store.journal = some (.rollback transaction)

theorem recoverPlugin_leaves_rollback (checks : PluginChecks) (recovery : RecoverArguments)
    {store : PluginStore} (rolls : store.rollsBack) : LeftAlone checks recovery store := by
  have calm : (recoverPlugin checks recovery).wp false (fun _ _ => True) (fun outcome after =>
      outcome = .ok 1 ∧ after.1.bundles = store.bundles ∧ after.1.backups = store.backups ∧
        after.1.journal = store.journal ∧ after.1.lock = store.lock) (store, {}) := by
    unfold recoverPlugin
    split
    · exact ⟨rfl, rfl, rfl, rfl, rfl⟩
    · rw [wp_get_andThen]
      rcases rolls with absent | ⟨transaction, present⟩
      · simp only [absent]
        exact ⟨rfl, rfl, rfl, absent, rfl⟩
      · simp only [present]
        -- The operation is looked at before the lock is taken.
        rw [wp_ensuring, wp_catching, recoverBody, wp_andThen, wp_ofExcept]
        simp [PluginJournal.installation, recoverFailed, recoverEnd, wp_andThen, wp_durable,
          appendAudit, Action.atomic, present]
  obtain ⟨returned, bundles, backups, journal, lock⟩ := start_calm calm
  exact ⟨returned, bundles, backups, journal, lock⟩

section Exchange

variable {checks : PluginChecks} {arguments : PluginRollbackArguments} {before : PluginStore}
variable {state : PluginStore × PluginRollbackLocals} {place : BackupPlace} {current : BundleInfo}

/-- What holds wherever a rollback may die. -/
def Steady (checks : PluginChecks) (symbolicName : String) (before : PluginStore)
    (_ after : PluginStore × PluginRollbackLocals) : Prop :=
  after.1.rollsBack ∧ Exchanged checks symbolicName before after.1

/-- A rollback that has moved nothing yet, and has no journal. -/
structure Idle (before : PluginStore) (state : PluginStore × PluginRollbackLocals) : Prop where
  bundles : state.1.bundles = before.bundles
  backups : state.1.backups = before.backups
  roots : state.1.roots = before.roots
  journal : state.1.journal = none
  displaced : state.2.displaced = none
  restored : state.2.restored = none

theorem Idle.steady {earlier : PluginStore × PluginRollbackLocals} (idle : Idle before state) :
    Steady checks arguments.symbolicName before earlier state :=
  ⟨.inl idle.journal, .untouched idle.bundles idle.backups⟩

/-- What is known of both copies once they have been checked. -/
structure Admitted (checks : PluginChecks) (arguments : PluginRollbackArguments)
    (before : PluginStore) (place : BackupPlace) (backupInfo current : BundleInfo) : Prop where
  saved : ∃ saved, before.backups.lookup place = some saved ∧
    inspectBundle checks place.name saved.content true = .ok backupInfo
  savedName : backupInfo.symbolicName = arguments.symbolicName
  installed : ∃ file, (current.fileName, file) ∈ before.bundles ∧
    inspectBundle checks current.fileName file.content false = .ok current
  currentName : current.symbolicName = arguments.symbolicName

/-- Checking both copies moves nothing. -/
theorem admitRollback_wp (fresh : before.journal = none) :
    (admitRollback checks arguments place).wp false
      (Steady checks arguments.symbolicName before) (fun outcome after =>
        Idle before after ∧ ∀ infos, outcome = .ok infos →
          Admitted checks arguments before place infos.1 infos.2) (before, {}) := by
  have idle : ∀ lock locked, Idle before
      ({ before with lock }, ({ lockAcquired := locked } : PluginRollbackLocals)) := fun _ _ =>
    ⟨rfl, rfl, rfl, fresh, rfl, rfl⟩
  unfold admitRollback
  rw [wp_get_andThen, wp_andThen, wp_reject]
  simp only [fresh, Option.isSome_none, Bool.false_eq_true, if_false]
  rw [wp_andThen, wp_durable]
  refine ⟨?_, by simp, ?_⟩
  · intro left member
    simp only [acquireLock] at member
    split at member
    · cases member
    · rw [List.mem_singleton.mp member]
      exact (idle _ false).steady
  simp only [acquireLock]
  split
  · next after done =>
    split at done
    · cases done
    cases done
    refine ⟨(idle _ false).steady, ?_⟩
    have locked := idle (some arguments.transactionId) true
    rw [wp_set_andThen, wp_get_andThen, wp_andThen, wp_ofExcept]
    cases found : before.backups.lookup place with
    | none =>
      have missing : ({ before with lock := some arguments.transactionId } : PluginStore).file
          (.backup place) = none := found
      simp only [missing]
      exact ⟨locked, by simp⟩
    | some saved =>
      have present : ({ before with lock := some arguments.transactionId } : PluginStore).file
          (.backup place) = some saved := found
      simp only [present, Option.elim_some]
      cases opened : inspectBundle checks place.name saved.content true with
      | error message => exact ⟨locked, by simp⟩
      | ok backupInfo =>
        dsimp only
        rw [wp_andThen, wp_reject]
        split
        · exact ⟨locked, by simp⟩
        next named =>
        dsimp only
        rw [wp_andThen, wp_reject]
        split
        · exact ⟨locked, by simp⟩
        dsimp only
        rw [wp_get_andThen, wp_andThen, wp_ofExcept]
        cases read : inventory checks before.bundles with
        | error message =>
          dsimp only
          exact ⟨locked, by simp⟩
        | ok installed =>
          dsimp only
          split
          · next name current only =>
            rw [wp_andThen, wp_reject]
            split
            · exact ⟨locked, by simp⟩
            · refine ⟨locked, ?_⟩
              rintro infos ⟨rfl⟩
              have member : (name, current) ∈ installed.filter
                  (·.2.symbolicName = arguments.symbolicName) := by simp [only]
              obtain ⟨listed, ours⟩ := List.mem_filter.mp member
              exact ⟨⟨saved, found, opened⟩, by simpa using named,
                inventory_read read _ listed, by simpa using ours⟩
          · exact ⟨locked, by simp⟩
  · exact ⟨idle before.lock false, by simp⟩

theorem Admitted.copies {backupInfo : BundleInfo} (formed : before.WellFormed)
    (admitted : Admitted checks arguments before place backupInfo current) :
    ∃ copies : PluginCopies checks arguments.symbolicName before,
      copies.name = current.fileName ∧ copies.place = place ∧
        checks.sha256 copies.saved.content = backupInfo.sha256 := by
  obtain ⟨saved, approved, opened⟩ := admitted.saved
  obtain ⟨file, listed, read⟩ := admitted.installed
  have installed : before.bundles.lookup current.fileName = some file :=
    (lookup_eq_some_iff formed.bundles).mpr listed
  exact ⟨⟨current.fileName, file, place, saved, installed, ⟨current, read, admitted.currentName⟩,
    approved, ⟨backupInfo, opened, admitted.savedName⟩⟩, rfl, rfl, (inspectBundle_ok opened).2.symm⟩

/-- The installed plugin has been moved away. -/
structure Displaced (copies : PluginCopies checks arguments.symbolicName before)
    (aside : BackupPlace) (store : PluginStore) : Prop where
  bundles : ∀ other, store.bundles.lookup other =
    if other = copies.name then none else before.bundles.lookup other
  backups : ∀ other, store.backups.lookup other =
    if other = aside then some copies.current else before.backups.lookup other

/-- Moving the installed plugin away loses nothing. -/
theorem displaceCurrent_wp {copies : PluginCopies checks arguments.symbolicName before}
    (named : copies.name = current.fileName)
    (new : (arguments.symbolicName, arguments.transactionId) ∉ before.roots)
    (formed : before.WellFormed) (idle : Idle before state) :
    (displaceCurrent arguments place current).wp false
      (Steady checks arguments.symbolicName before) (fun outcome after => outcome = .ok () ∧
        after.1.rollsBack ∧ after.1.journal.isSome = true ∧
        (⟨arguments.symbolicName, arguments.transactionId, current.fileName⟩ : BackupPlace) ∉
          keys before.backups ∧
        Displaced copies ⟨arguments.symbolicName, arguments.transactionId, current.fileName⟩
          after.1) state := by
  obtain ⟨store, locals⟩ := state
  have apart : (⟨arguments.symbolicName, arguments.transactionId, current.fileName⟩ : BackupPlace) ∉
      keys before.backups := fun member => new (formed.housed _ member)
  have bundles : store.bundles = before.bundles := idle.bundles
  have backups : store.backups = before.backups := idle.backups
  have roots : store.roots = before.roots := idle.roots
  have absent : (arguments.symbolicName, arguments.transactionId) ∉ store.roots := by
    rw [roots]
    exact new
  have file : store.bundles.lookup current.fileName = some copies.current := by
    rw [bundles, ← named]
    exact copies.installed
  -- After the rename the bundle is gone, and it is in the new directory.
  have moved : Displaced copies ⟨arguments.symbolicName, arguments.transactionId, current.fileName⟩
      { store with
        bundles := eraseKey current.fileName store.bundles
        backups := assign ⟨arguments.symbolicName, arguments.transactionId, current.fileName⟩
          copies.current store.backups } := by
    constructor
    · intro other
      rw [bundles, named]
      split
      · next same =>
        rw [same]
        exact lookup_eraseKey_self _ _
      · next differs => exact lookup_eraseKey_ne differs _
    · intro other
      rw [backups]
      split
      · next same =>
        rw [same]
        exact lookup_assign_self _ _ _
      · next differs => exact lookup_assign_ne differs _ _
  have steady : ∀ {earlier : PluginStore × PluginRollbackLocals} {after : PluginStore} {locals'},
      after.rollsBack → after.bundles = store.bundles → after.backups = store.backups →
      Steady checks arguments.symbolicName before earlier (after, locals') := by
    intro earlier after locals' rolls one two
    exact ⟨rolls, .untouched (one.trans bundles) (two.trans backups)⟩
  unfold displaceCurrent
  rw [wp_set_andThen]
  simp only [newRollback, displacedPath]
  rw [wp_andThen, makeDirectory, wp_atomic]
  simp only [absent, if_false]
  refine ⟨by simp, steady (.inl idle.journal) rfl rfl, ?_⟩
  rw [wp_andThen, writeRollbackJournal, wp_atomic]
  refine ⟨by simp, steady (.inr ⟨_, rfl⟩) rfl rfl, ?_⟩
  dsimp only
  rw [wp_andThen, replace, wp_atomic]
  simp only [PluginStore.file, file, PluginStore.remove, PluginStore.put]
  refine ⟨by simp, ⟨.inr ⟨_, rfl⟩, .displaced copies _ apart moved.bundles moved.backups⟩, ?_⟩
  rw [writeRollbackJournal, wp_atomic]
  refine ⟨by simp, ⟨.inr ⟨_, rfl⟩, .displaced copies _ apart moved.bundles moved.backups⟩, rfl,
    .inr ⟨_, rfl⟩, rfl, apart, moved.bundles, moved.backups⟩

/-- Putting the backup in place ends the rollback. -/
theorem restoreSaved_wp {backupInfo : BundleInfo}
    {copies : PluginCopies checks arguments.symbolicName before} (placed : copies.place = place)
    (digest : checks.sha256 copies.saved.content = backupInfo.sha256) {aside : BackupPlace}
    (apart : aside ∉ keys before.backups) (rolls : state.1.rollsBack)
    (journalled : state.1.journal.isSome = true) (displaced : Displaced copies aside state.1) :
    (restoreBackup checks arguments place backupInfo current).wp false
      (Steady checks arguments.symbolicName before) (fun outcome after => outcome = .ok 0 ∧
        after.1.rollsBack ∧ Exchanged checks arguments.symbolicName before after.1) state := by
  obtain ⟨store, locals⟩ := state
  have differs : place ≠ aside := by
    rintro rfl
    refine apart (lookup_isSome_iff.mp ?_)
    rw [← placed, copies.approved]
    rfl
  have file : store.backups.lookup place = some copies.saved := by
    rw [displaced.backups, if_neg differs, ← placed]
    exact copies.approved
  -- The backup is in the bundle directory, whatever was there under its name.
  have restored : ∀ {after : PluginStore},
      after.bundles = assign backupInfo.canonicalFileName copies.saved store.bundles →
      after.backups = eraseKey place store.backups →
      Exchanged checks arguments.symbolicName before after := by
    intro after bundles backups
    refine .restored copies aside apart backupInfo.canonicalFileName ?_ ?_
    · intro other
      rw [bundles]
      split
      · next same =>
        rw [same]
        exact lookup_assign_self _ _ _
      · next other' => exact (lookup_assign_ne other' _ _).trans (displaced.bundles other)
    · intro other
      rw [backups, placed]
      split
      · next same =>
        rw [same]
        exact lookup_eraseKey_self _ _
      · next other' => exact (lookup_eraseKey_ne other' _).trans (displaced.backups other)
  unfold restoreBackup
  dsimp only
  rw [wp_set_andThen, wp_andThen, replace, wp_atomic]
  simp only [PluginStore.file, file, PluginStore.remove, PluginStore.put]
  refine ⟨by simp, ⟨rolls, restored rfl rfl⟩, ?_⟩
  rw [wp_andThen, checkDigest, wp_andThen, readBack, wp_atomic]
  refine ⟨by simp, ⟨rolls, restored rfl rfl⟩, ?_⟩
  dsimp only
  rw [wp_get_andThen]
  simp only [PluginStore.file, lookup_assign_self]
  rw [wp_reject]
  simp only [digest, bne_self_eq_false, Bool.false_eq_true, if_false]
  rw [wp_set_andThen, wp_andThen, appendAudit, wp_atomic]
  refine ⟨by simp, ⟨rolls, restored rfl rfl⟩, ?_⟩
  dsimp only
  rw [wp_get_andThen, wp_andThen, wp_whenever]
  have close : ∀ report, (do
      durable (unlinkJournal false)
      return 0 : PluginProcess PluginRollbackLocals Nat).wp false
        (Steady checks arguments.symbolicName before) (fun outcome after => outcome = .ok 0 ∧
          after.1.rollsBack ∧ Exchanged checks arguments.symbolicName before after.1)
        (({ store with
            bundles := assign backupInfo.canonicalFileName copies.saved store.bundles
            backups := eraseKey place store.backups
            audit := store.audit ++ [.rollbackCommitted arguments.transactionId
              arguments.symbolicName (.bundle backupInfo.canonicalFileName) backupInfo.sha256
              (displacedPath arguments current)]
            report } : PluginStore), { locals with
            restored := some (.bundle backupInfo.canonicalFileName)
            report := { locals.report with
              passed := true
              restored := some (.bundle backupInfo.canonicalFileName)
              restoredSha256 := some backupInfo.sha256
              displaced := some (displacedPath arguments current) } }) := by
    intro report
    have present : store.journal.isNone = false := by
      cases here : store.journal with
      | none => simp [here] at journalled
      | some _ => rfl
    rw [wp_andThen, unlinkJournal, wp_atomic]
    simp only [present, Bool.false_and, Bool.false_eq_true, if_false]
    exact ⟨by simp, ⟨.inl rfl, restored rfl rfl⟩, rfl, .inl rfl, restored rfl rfl⟩
  split
  · rw [writeReport, wp_atomic]
    exact ⟨by simp, ⟨rolls, restored rfl rfl⟩, close _⟩
  · exact close _

/-- A rollback that was not admitted has nothing to undo. -/
theorem rollbackPluginFailed_wp {error : String} (idle : Idle before state) :
    (rollbackPluginFailed arguments place error).wp false
      (Steady checks arguments.symbolicName before) (fun _ after =>
        after.1.rollsBack ∧ Exchanged checks arguments.symbolicName before after.1) state := by
  obtain ⟨store, locals⟩ := state
  have displaced : locals.displaced = none := idle.displaced
  have restored : locals.restored = none := idle.restored
  have journal : store.journal = none := idle.journal
  have steady : ∀ {earlier : PluginStore × PluginRollbackLocals} {after : PluginStore} {locals'},
      after.journal = none → after.bundles = store.bundles → after.backups = store.backups →
      Steady checks arguments.symbolicName before earlier (after, locals') := by
    intro earlier after locals' absent one two
    exact ⟨.inl absent, .untouched (one.trans idle.bundles) (two.trans idle.backups)⟩
  unfold rollbackPluginFailed
  rw [wp_andThen, wp_catching, undoRollback, wp_get_andThen, wp_get_andThen]
  simp only [displaced, restored, Option.filter_none, Option.elim_none]
  rw [wp_andThen, wp_pure]
  dsimp only
  rw [wp_get_andThen]
  dsimp only
  rw [wp_pure]
  dsimp only
  rw [wp_set_andThen, wp_andThen, appendAudit, wp_atomic]
  refine ⟨by simp, steady journal rfl rfl, ?_⟩
  dsimp only
  rw [wp_get_andThen, wp_andThen, wp_whenever]
  simp only [journal, Option.isNone_none, Bool.or_true, if_true]
  rw [unlinkJournal, wp_atomic]
  simp only [Bool.not_true, Bool.and_false, Bool.false_eq_true, if_false]
  refine ⟨by simp, steady rfl rfl rfl, ?_⟩
  rw [wp_get_andThen, wp_andThen, wp_whenever]
  split
  · rw [writeReport, wp_atomic]
    exact ⟨by simp, steady rfl rfl rfl, .inl rfl, .untouched idle.bundles idle.backups⟩
  · exact ⟨.inl rfl, .untouched idle.bundles idle.backups⟩

/-- Releasing the lock moves nothing. -/
theorem rollbackPluginEnd_wp (rolls : state.1.rollsBack)
    (exchanged : Exchanged checks arguments.symbolicName before state.1) :
    rollbackPluginEnd.wp false (Steady checks arguments.symbolicName before) (fun _ _ => True)
      state := by
  unfold rollbackPluginEnd
  rw [wp_get_andThen, wp_whenever]
  split
  · rw [releaseLock, wp_atomic]
    refine ⟨by simp, ⟨rolls, ?_⟩, trivial⟩
    cases exchanged with
    | untouched bundles backups => exact .untouched bundles backups
    | displaced copies aside apart bundles backups =>
      exact .displaced copies aside apart bundles backups
    | restored copies aside apart target bundles backups =>
      exact .restored copies aside apart target bundles backups
  · trivial

/-- At every point of a rollback the exchange of the two copies is at one of its stages. -/
theorem rollbackPlugin_wp (formed : before.WellFormed) (fresh : before.journal = none)
    (new : (arguments.symbolicName, arguments.transactionId) ∉ before.roots) :
    (rollbackPlugin checks arguments).wp false (Steady checks arguments.symbolicName before)
      (fun _ _ => True) (before, {}) := by
  unfold rollbackPlugin
  split
  · trivial
  rw [wp_get_andThen]
  dsimp only
  split
  · trivial
  next place _ _ =>
  rw [wp_ensuring, wp_catching, rollbackPluginBody, wp_andThen]
  have close : ∀ {post : Except String Unit → PluginStore × PluginRollbackLocals → Prop}
      {after : PluginStore × PluginRollbackLocals}, (∀ ended final, post ended final) →
      after.1.rollsBack ∧ Exchanged checks arguments.symbolicName before after.1 →
      rollbackPluginEnd.wp false (Steady checks arguments.symbolicName before) post after := by
    intro post after always both
    refine wp_mono ?_ (rollbackPluginEnd_wp both.1 both.2)
    intro ended final _
    exact always ended final
  refine wp_mono ?_ (admitRollback_wp fresh)
  rintro outcome after ⟨idle, facts⟩
  cases outcome with
  | error message =>
    refine wp_mono ?_ (rollbackPluginFailed_wp idle)
    exact fun result last both => close (fun ended _ => by cases ended <;> trivial) both
  | ok infos =>
    obtain ⟨backupInfo, current⟩ := infos
    obtain ⟨copies, named, placed, digest⟩ := (facts _ rfl).copies formed
    dsimp only
    rw [wp_andThen]
    refine wp_mono ?_ (displaceCurrent_wp named new formed idle)
    rintro outcome after ⟨rfl, rolls, journalled, apart, displaced⟩
    dsimp only
    refine wp_mono ?_ (restoreSaved_wp placed digest apart rolls journalled displaced)
    rintro outcome after ⟨rfl, both⟩
    exact close (fun ended _ => by cases ended <;> trivial) both

end Exchange

/-- Wherever a rollback dies, both copies of the plugin are still there, at most one of them in the
bundle directory; and recovery, which is for installations only, leaves all of it alone. -/
theorem dead_rollback_left_alone (checks : PluginChecks) (arguments : PluginRollbackArguments)
    (recovery : RecoverArguments) (before : PluginStore) (formed : before.WellFormed)
    (fresh : before.journal = none)
    (new : (arguments.symbolicName, arguments.transactionId) ∉ before.roots)
    (point : PluginStore × PluginRollbackLocals)
    (died : point ∈ ((rollbackPlugin checks arguments).start (before, {}) []).2.seen) :
    Exchanged checks arguments.symbolicName before point.1 ∧
      LeftAlone checks recovery point.1 := by
  have start : Steady checks arguments.symbolicName before (before, {}) (before, {}) :=
    ⟨.inl fresh, .untouched rfl rfl⟩
  obtain ⟨rolls, exchanged⟩ := (start_of_wp (rollbackPlugin_wp formed fresh new)
    (fun _ _ steady => steady) start (fun _ => rfl)).1 point died
  exact ⟨exchanged, recoverPlugin_leaves_rollback checks recovery rolls⟩

/-- Version 2 of a plugin is installed, and version 1 is its backup. -/
def sampleRollbackChecks : PluginChecks where
  readBundle _ content _ := .ok { samplePlugin with
    canonicalFileName := if content = [1] then "pdr.plugin.sample_1.0.0.bndl"
      else "pdr.plugin.sample_2.0.0.bndl" }
  sha256 content := if content = [1] then "d1" else "d2"
  loadRuntimeContract := .ok ⟨"1.0.0", "1", "1", "abi"⟩
  verifyPluginProvenance _ := .ok ()
  versionMatches _ _ := .ok true

def sampleRollback : PluginRollbackArguments where
  symbolicName := "pdr.plugin.sample"
  expectedCurrentSha256 := "d2"
  expectedBackupSha256 := "d1"
  confirmRuntimeStopped := true
  report := false
  transactionId := "t2"

def sampleRollbackStore : PluginStore where
  bundles := [("pdr.plugin.sample_2.0.0.bndl", ⟨[2], 5⟩)]
  backups := [(⟨"pdr.plugin.sample", "t1", "pdr.plugin.sample_1.0.0.bndl"⟩, ⟨[1], 4⟩)]
  roots := [("pdr.plugin.sample", "t1")]

theorem sampleRollbackStore_wellFormed : sampleRollbackStore.WellFormed :=
  ⟨by decide, by decide⟩

/-- The files between the two renames, when no copy is in the bundle directory. -/
def sampleRollbackPoint : PluginStore × PluginRollbackLocals :=
  ((rollbackPlugin sampleRollbackChecks sampleRollback).start (sampleRollbackStore, {}) []).2.seen.getD
    5 (sampleRollbackStore, {})

theorem sample_rollback_left_alone :
    sampleRollbackPoint ∈ ((rollbackPlugin sampleRollbackChecks sampleRollback).start
        (sampleRollbackStore, {}) []).2.seen ∧
      Exchanged sampleRollbackChecks "pdr.plugin.sample" sampleRollbackStore
        sampleRollbackPoint.1 ∧
      LeftAlone sampleRollbackChecks ⟨true, false⟩ sampleRollbackPoint.1 := by
  have died : sampleRollbackPoint ∈ ((rollbackPlugin sampleRollbackChecks sampleRollback).start
      (sampleRollbackStore, {}) []).2.seen := by
    decide +kernel
  exact ⟨died, dead_rollback_left_alone _ _ _ _ sampleRollbackStore_wellFormed rfl (by decide) _ died⟩

/-- Between the renames the journal is one that recovery does not take. -/
theorem dead_rollback_not_recovered :
    ¬∀ (checks : PluginChecks) (arguments : PluginRollbackArguments) (recovery : RecoverArguments)
      (before : PluginStore) (point : PluginStore × PluginRollbackLocals),
      before.WellFormed → before.journal = none → before.lock = none →
      (arguments.symbolicName, arguments.transactionId) ∉ before.roots →
      recovery.confirmRuntimeStopped = true →
      point ∈ ((rollbackPlugin checks arguments).start (before, {}) []).2.seen →
      point.1.journal.isSome = true →
      RecoversRollback checks arguments recovery before point.1 := by
  intro always
  have recovers := always sampleRollbackChecks sampleRollback ⟨true, false⟩ sampleRollbackStore
    sampleRollbackPoint sampleRollbackStore_wellFormed rfl rfl (by decide) rfl
    (by decide +kernel) (by decide +kernel)
  have refused : ((recoverPlugin sampleRollbackChecks ⟨true, false⟩).start
      (sampleRollbackPoint.1, {}) []).1.toOption = some 1 := by
    decide +kernel
  rw [recovers.returned] at refused
  cases refused

end PocoDDS.Tools
