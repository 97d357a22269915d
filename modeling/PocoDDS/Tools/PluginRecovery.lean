import PocoDDS.Tools.PluginManager

/-! Interrupted plugin installations: recovery stops at the lock of the dead process. -/

namespace PocoDDS.Tools

open AssocList CrashLogic ProcessLogic Process PluginStore

/-- Whether the inventory lists a file. -/
def isArtifact (name : String) : Bool :=
  ".bndl".toList.isSuffixOf name.toList

/-- Two bundle directories with the same artifacts. -/
def SameArtifacts (first second : List (String × PluginFile)) : Prop :=
  ∀ name, isArtifact name = true → first.lookup name = second.lookup name

/-- The bundle directory with the new plugin in place of the old one. -/
def replaced (arguments : PluginArguments) (evidence : PluginPreflight)
    (bundles : List (String × PluginFile)) : List (String × PluginFile) :=
  let rest := match evidence.current with
    | none => bundles
    | some current => eraseKey current.fileName bundles
  assign evidence.artifact.canonicalFileName ⟨arguments.artifact, arguments.copiedAt⟩ rest

/-- Whether a journal had reached its last state. -/
def PluginStore.isCommitted (store : PluginStore) : Bool :=
  match store.journal with
  | some (.document transaction) => transaction.state == .committed
  | _ => false

/-- What recovery has to do with the files that a dead installation left. -/
structure RecoversInstall (checks : PluginChecks) (arguments : PluginArguments)
    (recovery : RecoverArguments) (before crashed : PluginStore) : Prop where
  returned : ((recoverPlugin checks recovery).start (crashed, {}) []).1 = .ok 0
  artifacts :
    let after := ((recoverPlugin checks recovery).start (crashed, {}) []).2.state.1
    SameArtifacts after.bundles before.bundles ∨
      (crashed.isCommitted = true ∧ ∃ evidence,
        preflight checks arguments before.bundles = .ok evidence ∧
        SameArtifacts after.bundles (replaced arguments evidence before.bundles))
  unstaged : ∀ name ∈ keys ((recoverPlugin checks recovery).start (crashed, {}) []).2.state.1.bundles,
    isArtifact name = true ∨ name ∈ keys before.bundles
  unjournalled : ((recoverPlugin checks recovery).start (crashed, {}) []).2.state.1.journal = none
  unlocked : ((recoverPlugin checks recovery).start (crashed, {}) []).2.state.1.lock = none

section Files

variable (store : PluginStore) (path : PluginPath) (file : PluginFile)
variable {place : PluginPath}

@[simp] theorem PluginStore.put_lock : (store.put path file).lock = store.lock := by
  cases path <;> rfl

@[simp] theorem PluginStore.put_journal : (store.put path file).journal = store.journal := by
  cases path <;> rfl

@[simp] theorem PluginStore.remove_lock : (store.remove path).lock = store.lock := by
  cases path <;> rfl

@[simp] theorem PluginStore.remove_journal : (store.remove path).journal = store.journal := by
  cases path <;> rfl

theorem PluginStore.file_put (inside : place.withinBundles = true ∨ place.withinBackups = true) :
    (store.put place file).file place = some file := by
  cases place with
  | bundle name => exact lookup_assign_self name file store.bundles
  | backup place' => exact lookup_assign_self _ file store.backups
  | outside text => simp [PluginPath.withinBundles, PluginPath.withinBackups] at inside

/-- Putting a file somewhere touches no other one. -/
theorem PluginStore.file_put_ne (differs : place ≠ path) :
    (store.put path file).file place = store.file place := by
  cases path with
  | bundle name =>
    cases place with
    | bundle other => exact lookup_assign_ne (by simpa using differs) file store.bundles
    | backup other => rfl
    | outside text => rfl
  | backup place' =>
    cases place with
    | bundle other => rfl
    | backup other =>
      exact lookup_assign_ne (by simpa using differs) file store.backups
    | outside text => rfl
  | outside text => rfl

theorem PluginStore.exists_put_of_exists (found : store.exists' place = true) :
    (store.put path file).exists' place = true := by
  by_cases same : place = path
  · subst same
    have inside : place.withinBundles = true ∨ place.withinBackups = true := by
      cases place with
      | bundle name => exact .inl rfl
      | backup place' => exact .inr rfl
      | outside text => simp [exists', PluginStore.file] at found
    rw [exists', store.file_put file inside, Option.isSome_some]
  · rw [exists', file_put_ne store path file same]
    exact found

/-- A file that was removed is gone. -/
theorem PluginStore.exists_remove_self : (store.remove path).exists' path = false := by
  cases path with
  | bundle name => rw [exists', PluginStore.file, remove, lookup_eraseKey_self]; rfl
  | backup place' => rw [exists', PluginStore.file, remove, lookup_eraseKey_self]; rfl
  | outside text => rfl

/-- Files of the one directory do not depend on those of the other. -/
theorem PluginStore.exists_remove_bundle (kept : place.withinBackups = true) {source : PluginPath}
    (inside : source.withinBundles = true) :
    (store.remove source).exists' place = store.exists' place := by
  cases place with
  | bundle name => cases kept
  | outside text => cases kept
  | backup place' =>
    cases source with
    | bundle other => rfl
    | backup other => cases inside
    | outside text => cases inside

end Files

section Preflight

variable {checks : PluginChecks} {arguments : PluginArguments}

theorem inspectBundle_ok {name : String} {content : List UInt8} {requirePlugin : Bool}
    {info : BundleInfo} (opened : inspectBundle checks name content requirePlugin = .ok info) :
    info.fileName = name ∧ info.sha256 = checks.sha256 content := by
  unfold inspectBundle at opened
  cases raw : checks.readBundle name content requirePlugin with
  | error message => simp [raw, Except.map] at opened
  | ok read =>
    simp only [raw, Except.map, Except.ok.injEq] at opened
    rw [← opened]
    exact ⟨rfl, rfl⟩

theorem inventoryFrom_read {known files : List (String × PluginFile)}
    {result all : List (String × BundleInfo)} (read : inventoryFrom checks files result = .ok all)
    (listed : ∀ file ∈ files, file ∈ known)
    (before : ∀ entry ∈ result, ∃ file, (entry.2.fileName, file) ∈ known ∧
      inspectBundle checks entry.2.fileName file.content false = .ok entry.2) :
    ∀ entry ∈ all, ∃ file, (entry.2.fileName, file) ∈ known ∧
      inspectBundle checks entry.2.fileName file.content false = .ok entry.2 := by
  induction files generalizing result with
  | nil =>
    cases read
    exact before
  | cons first rest ih =>
    obtain ⟨name, file⟩ := first
    simp only [inventoryFrom] at read
    cases opened : inspectBundle checks name file.content false with
    | error message => simp [opened] at read
    | ok info =>
      simp only [opened] at read
      split at read
      · cases read
      · refine ih read (fun other member => listed other (List.mem_cons_of_mem _ member)) ?_
        intro entry member
        rcases List.mem_append.mp member with old | new
        · exact before entry old
        · rw [List.mem_singleton.mp new]
          dsimp only
          rw [(inspectBundle_ok opened).1]
          exact ⟨file, listed _ List.mem_cons_self, opened⟩

variable {bundles : List (String × PluginFile)} {all : List (String × BundleInfo)}
  (read : inventory checks bundles = .ok all)
include read

theorem inventory_read :
    ∀ entry ∈ all, ∃ file, (entry.2.fileName, file) ∈ bundles ∧
      inspectBundle checks entry.2.fileName file.content false = .ok entry.2 := by
  refine inventoryFrom_read read ?_ (by simp)
  intro file member
  have sorted := (List.perm_insertionSort _ _).mem_iff.mp member
  exact (List.mem_filter.mp sorted).1

theorem inventory_fileName :
    ∀ entry ∈ all, entry.2.fileName ∈ keys bundles := by
  intro entry member
  obtain ⟨file, listed, -⟩ := inventory_read read entry member
  exact List.mem_map.mpr ⟨_, listed, rfl⟩

omit read

variable {bundles : List (String × PluginFile)} {evidence : PluginPreflight}
  (passed : preflight checks arguments bundles = .ok evidence)
include passed

theorem preflight_read :
    inspectBundle checks arguments.artifactName arguments.artifact true = .ok evidence.artifact ∧
      ∃ installed, inventory checks bundles = .ok installed ∧
        installed.lookup evidence.artifact.symbolicName = evidence.current := by
  -- Everything between the readings and the result may only raise.
  unfold preflight at passed
  simp only [bind, Except.bind] at passed
  repeat' split at passed
  all_goals cases passed
  exact ⟨by assumption, _, by assumption, rfl⟩

theorem preflight_current {current : BundleInfo} (found : evidence.current = some current) :
    current.fileName ∈ keys bundles := by
  obtain ⟨-, installed, read, same⟩ := preflight_read passed
  rw [found] at same
  obtain ⟨before, after, split, -⟩ := List.lookup_eq_some_iff.mp same
  exact inventory_fileName read (evidence.artifact.symbolicName, current) (by rw [split]; simp)

end Preflight

section Guard

variable {state : PluginStore × InstallLocals} {checks : PluginChecks} {arguments : PluginArguments}

/-- A journal is on the disk only together with the lock of its process. -/
def Guarded (state : PluginStore × InstallLocals) : Prop :=
  state.1.journal.isSome = true → state.1.lock.isSome = true

/-- What an installation can be undone from. -/
structure Undoable (state : PluginStore × InstallLocals) : Prop where
  guarded : Guarded state
  published : ∀ path, state.2.published = some path → path.withinBundles = true
  backup : ∀ path, state.2.backupArtifact = some path →
    path.withinBackups = true ∧ state.1.exists' path = true

/-- The same, while the lock is held. -/
structure Working (state : PluginStore × InstallLocals) : Prop extends Undoable state where
  locked : state.1.lock.isSome = true

theorem Working.make (locked : state.1.lock.isSome = true)
    (published : ∀ path, state.2.published = some path → path.withinBundles = true)
    (backup : ∀ path, state.2.backupArtifact = some path →
      path.withinBackups = true ∧ state.1.exists' path = true) : Working state :=
  ⟨⟨fun _ => locked, published, backup⟩, locked⟩

theorem Working.next {store after : PluginStore} {locals : InstallLocals}
    (working : Working (store, locals)) (lock : after.lock = store.lock)
    (kept : ∀ place : PluginPath, place.withinBackups = true → store.exists' place = true →
      after.exists' place = true) : Working (after, locals) := by
  refine .make (by rw [lock]; exact working.locked) working.published ?_
  intro path named
  obtain ⟨inside, found⟩ := working.backup path named
  exact ⟨inside, kept path inside found⟩

/-- Reading a digest back changes nothing. -/
theorem checkDigest_wp {allowed : PluginStore × InstallLocals → PluginStore × InstallLocals → Prop}
    {path : PluginPath} {expected message : String}
    {post : Except String Unit → PluginStore × InstallLocals → Prop} (still : allowed state state)
    (holds : ∀ outcome, post outcome state) :
    (checkDigest checks path expected message).wp false allowed post state := by
  unfold checkDigest
  rw [wp_andThen, readBack, wp_atomic]
  refine ⟨by simp, still, ?_⟩
  simp only [wp_andThen, wp_get]
  split
  · exact holds _
  · rw [wp_reject]
    split
    · exact holds _
    · exact holds _

theorem admitArtifact_wp {before : PluginStore} (fresh : before.journal = none) :
    (admitArtifact checks arguments).wp false (fun _ => Guarded) (fun outcome after =>
      match outcome with
      | .ok evidence => Working after ∧ ∀ current, evidence.current = some current →
          current.fileName ∈ keys after.1.bundles
      | .error _ => Undoable after) (before, {}) := by
  have untouched : Undoable (before, {}) := by
    refine ⟨?_, by simp, by simp⟩
    intro present
    simp [fresh] at present
  have missing : before.journal.isSome = false := by rw [fresh]; rfl
  unfold admitArtifact
  simp only [wp_andThen, wp_reject, wp_get, wp_set, wp_ofExcept, wp_pure, wp_durable, acquireLock,
    missing, Bool.false_eq_true, if_false]
  split
  · exact untouched
  refine ⟨?_, by simp, ?_⟩
  · -- The lock file exists before its content is written, and there is no journal yet.
    intro left member
    split at member
    · cases member
    · rw [List.mem_singleton.mp member]
      intro _
      rfl
  split
  · next after done =>
    split at done
    · cases done
    · cases done
      refine ⟨fun _ => rfl, ?_⟩
      have locked : Working ({ before with lock := some arguments.transactionId },
          { lockAcquired := true }) := .make rfl (by simp) (by simp)
      split
      · next evidence passed =>
        split
        · exact locked.toUndoable
        · refine ⟨locked, fun current found => preflight_current passed found⟩
      · exact locked.toUndoable
  · exact untouched

theorem stageArtifact_wp {evidence : PluginPreflight} (working : Working state)
    (installed : ∀ current, evidence.current = some current →
      current.fileName ∈ keys state.1.bundles) :
    (stageArtifact checks arguments evidence).wp false (fun _ => Guarded) (fun _ after =>
      Working after ∧ ∀ current, evidence.current = some current →
        after.1.exists' (.bundle current.fileName) = true) state := by
  obtain ⟨store, locals⟩ := state
  have named : Working (store, { locals with
      published := some (publishedPath evidence.artifact)
      stage := some (stagePath arguments evidence.artifact) }) := by
    refine .make working.locked ?_ working.backup
    intro path same
    cases same
    rfl
  have journalled : Working ({ store with
      journal := some (.document (newTransaction arguments evidence)) }, { locals with
        published := some (publishedPath evidence.artifact)
        stage := some (stagePath arguments evidence.artifact) }) :=
    named.next rfl (fun _ _ found => found)
  -- Whatever part of the artifact is there, the other files are as before.
  have copied : ∀ file : PluginFile, Working
      (({ store with journal := some (.document (newTransaction arguments evidence)) } :
        PluginStore).put (stagePath arguments evidence.artifact) file, { locals with
          published := some (publishedPath evidence.artifact)
          stage := some (stagePath arguments evidence.artifact) }) := by
    intro file
    refine journalled.next (put_lock _ _ _) ?_
    intro place _ found
    exact exists_put_of_exists _ _ _ found
  unfold stageArtifact
  simp only [wp_andThen, wp_set, wp_durable, writeJournal, copyfile, Action.atomic]
  refine ⟨by simp, by simp, journalled.guarded, ?_, by simp, (copied _).guarded, ?_⟩
  · intro left member
    obtain ⟨size, -, rfl⟩ := List.mem_map.mp member
    exact (copied _).guarded
  · refine checkDigest_wp (copied _).guarded fun _ => ⟨copied _, fun current same => ?_⟩
    have present : ({ store with journal := some (.document (newTransaction arguments evidence)) } :
        PluginStore).exists' (.bundle current.fileName) = true :=
      lookup_isSome_iff.mpr (installed current same)
    exact exists_put_of_exists _ _ _ present

/-- The backup is named before it is made, and then made. -/
theorem backupCurrent_wp {evidence : PluginPreflight} (working : Working state)
    (installed : ∀ current, evidence.current = some current →
      state.1.exists' (.bundle current.fileName) = true) :
    (backupCurrent arguments evidence).wp false (fun _ => Guarded) (fun _ after => Working after) state := by
  obtain ⟨store, locals⟩ := state
  unfold backupCurrent
  cases known : evidence.current with
  | none => exact working
  | some current =>
    obtain ⟨file, found⟩ := Option.isSome_iff_exists.mp (installed current known)
    simp only [wp_andThen, wp_set, wp_pure, wp_durable, Action.atomic, makeDirectory, replace,
      writeJournal]
    refine ⟨by simp, by simp, ?_⟩
    split
    · next after made =>
      have same : after.lock = store.lock ∧ after.backups = store.backups ∧
          after.bundles = store.bundles := by
        split at made
        · cases made
        · cases made
          exact ⟨rfl, rfl, rfl⟩
      obtain ⟨lock, backups, bundles⟩ := same
      have opened : Working (after, locals) := by
        refine working.next lock fun place inside there => ?_
        cases place with
        | backup place =>
          simp only [PluginStore.exists', PluginStore.file, backups] at there ⊢
          exact there
        | bundle name => cases inside
        | outside text => cases inside
      have here : after.file (.bundle current.fileName) = some file := by
        rw [PluginStore.file, bundles]
        exact found
      simp only [here]
      -- From here on the named backup is on the disk.
      have moved : Working ((after.remove (.bundle current.fileName)).put
          (.backup ⟨evidence.artifact.symbolicName, arguments.transactionId, current.fileName⟩) file,
          { locals with backupArtifact := some (.backup
            ⟨evidence.artifact.symbolicName, arguments.transactionId, current.fileName⟩) }) := by
        refine .make ?_ working.published ?_
        · rw [put_lock, remove_lock]
          exact opened.locked
        · intro path named
          cases named
          exact ⟨rfl, by rw [PluginStore.exists', file_put _ _ (.inr rfl)]; rfl⟩
      have journalled : ∀ transaction, Working ({ (after.remove (.bundle current.fileName)).put
          (.backup ⟨evidence.artifact.symbolicName, arguments.transactionId, current.fileName⟩)
            file with journal := some (.document transaction) },
          { locals with backupArtifact := some (.backup
            ⟨evidence.artifact.symbolicName, arguments.transactionId, current.fileName⟩) }) :=
        fun transaction => moved.next rfl (fun _ _ there => there)
      refine ⟨opened.guarded, by simp, by simp, moved.guarded, by simp, by simp, ?_, ?_⟩
      · exact (journalled _).guarded
      · exact journalled _
    · exact working

theorem publishArtifact_wp {info : BundleInfo} {transaction : PluginTransaction}
    (working : Working state) :
    (publishArtifact checks arguments info transaction).wp false (fun _ => Guarded) (fun outcome after =>
      match outcome with
      | .ok _ => after.1.journal = none
      | .error _ => Undoable after) state := by
  obtain ⟨store, locals⟩ := state
  unfold publishArtifact
  simp only [wp_andThen, wp_durable, Action.atomic, replace]
  refine ⟨by simp, by simp, ?_⟩
  cases staged : store.file (stagePath arguments info) with
  | none => exact working.toUndoable
  | some file =>
    have moved : Working ((store.remove (stagePath arguments info)).put (publishedPath info) file,
        locals) := by
      refine working.next (by simp) fun place inside there => ?_
      refine exists_put_of_exists _ _ _ ?_
      rw [exists_remove_bundle _ inside rfl]
      exact there
    refine ⟨moved.guarded, checkDigest_wp moved.guarded fun outcome => ?_⟩
    cases outcome with
    | error message => exact moved.toUndoable
    | ok _ =>
      -- The journal is removed last; up to that point it is covered by the lock.
      simp only [wp_set, wp_pure, writeJournal, appendAudit, unlinkJournal, Action.atomic]
      have locked := moved.locked
      refine ⟨by simp, by simp, fun _ => locked, by simp, by simp, fun _ => locked, by simp,
        by simp, ?_⟩
      simp [Guarded]

/-- Nothing but the handler's last step takes the journal away, and it always does. -/
theorem installBody_wp {before : PluginStore} (fresh : before.journal = none) :
    (installBody checks arguments).wp false (fun _ => Guarded) (fun outcome after =>
      match outcome with
      | .ok _ => after.1.journal = none
      | .error _ => Undoable after) (before, {}) := by
  unfold installBody
  refine wp_sequence (admitArtifact_wp fresh) (fun _ _ => id) fun _ admitted holds => ?_
  refine wp_sequence (stageArtifact_wp holds.1 holds.2)
    (fun _ _ holds => holds.1.toUndoable) fun _ staged holds => ?_
  refine wp_sequence (backupCurrent_wp holds.1 holds.2)
    (fun _ _ working => working.toUndoable) fun _ backed working => ?_
  exact publishArtifact_wp working

/-- Putting an artifact aside moves one file, whether or not the directory is there. -/
theorem setAside_wp {ℓ : Type} {crash : PluginStore × ℓ → Prop} {transactionId : String}
    {path : PluginPath} {state : PluginStore × ℓ} {file : PluginFile}
    {post : Except String Unit → PluginStore × ℓ → Prop}
    (found : state.1.file path = some file)
    (safe : ∀ after : PluginStore, after.lock = state.1.lock →
      after.journal = state.1.journal → crash (after, state.2))
    (done : ∀ after : PluginStore, after.lock = state.1.lock →
      after.journal = state.1.journal → after.file = ((state.1.remove path).put
        (.backup ⟨"failed", transactionId, path.name⟩) file).file → post (.ok ()) (after, state.2)) :
    (setAside transactionId path).wp false (fun _ => crash) post state := by
  obtain ⟨store, locals⟩ := state
  -- Making a directory changes no file.
  have made : ∃ roots, (makeDirectory "failed" transactionId true).effect store =
      .ok { store with roots } := by
    simp only [makeDirectory, Action.atomic, if_true]
    split
    · exact ⟨store.roots, rfl⟩
    · exact ⟨_, rfl⟩
  obtain ⟨roots, made⟩ := made
  unfold setAside
  simp only [wp_andThen, wp_durable, made]
  refine ⟨by simp [makeDirectory, Action.atomic], by simp, safe _ rfl rfl, ?_⟩
  have there : ({ store with roots } : PluginStore).file path = some file := by
    cases path <;> exact found
  simp only [replace, Action.atomic, there]
  have files : ((({ store with roots } : PluginStore).remove path).put
      (.backup ⟨"failed", transactionId, path.name⟩) file).file =
      ((store.remove path).put (.backup ⟨"failed", transactionId, path.name⟩) file).file := by
    funext place
    cases path <;> cases place <;> rfl
  exact ⟨by simp, by simp, safe _ (by simp) (by simp), done _ (by simp) (by simp) files⟩

/-- How an undoing ends: with the lock and the journal as before, and verified wherever there was
something to undo. -/
def Undone (before : PluginStore) (outcome : Except String Bool)
    (after : PluginStore × InstallLocals) : Prop :=
  after.1.lock = before.lock ∧ after.1.journal = before.journal ∧
    match outcome with
    | .ok verified => verified = true ∨ (after.2.backupArtifact = none ∧
        after.2.published.filter after.1.exists' = none)
    | .error _ => False

theorem restoreBackup_wp {before store : PluginStore} {locals : InstallLocals}
    {artifact : PluginPath} (guarded : ∀ after : PluginStore, after.lock = before.lock →
      after.journal = before.journal → Guarded (after, locals))
    (lock : store.lock = before.lock) (journal : store.journal = before.journal)
    (present : store.exists' artifact = true) :
    (do durable (replace artifact (.bundle artifact.name))
        get fun state => state.1.exists' (.bundle artifact.name)).wp false (fun _ => Guarded)
      (Undone before) (store, locals) := by
  obtain ⟨file, found⟩ := Option.isSome_iff_exists.mp present
  simp only [wp_andThen, wp_durable, wp_get, replace, Action.atomic, found]
  have placed : ((store.remove artifact).put (.bundle artifact.name) file).exists'
      (.bundle artifact.name) = true := by
    rw [PluginStore.exists', file_put _ _ (.inl rfl), Option.isSome_some]
  exact ⟨by simp, by simp, guarded _ (by simpa) (by simpa), by simpa, by simpa, .inl placed⟩

theorem undoInstall_wp (undoable : Undoable state) :
    (undoInstall arguments).wp false (fun _ => Guarded) (Undone state.1) state := by
  obtain ⟨store, locals⟩ := state
  have guarded : ∀ after : PluginStore, after.lock = store.lock → after.journal = store.journal →
      Guarded (after, locals) := by
    intro after lock journal present
    rw [lock]
    exact undoable.guarded (by rw [← journal]; exact present)
  unfold undoInstall
  rw [wp_get_andThen, wp_get_andThen]
  dsimp only
  cases named : locals.backupArtifact with
  | some artifact =>
    obtain ⟨inside, present⟩ := undoable.backup artifact named
    simp only [Option.filter_some, present, if_true]
    rw [wp_andThen]
    cases out : locals.published.filter store.exists' with
    | none => exact restoreBackup_wp guarded rfl rfl present
    | some published =>
      obtain ⟨known, there⟩ := Option.filter_eq_some_iff.mp out
      obtain ⟨file, found⟩ := Option.isSome_iff_exists.mp there
      refine setAside_wp found guarded fun after lock journal files => ?_
      -- The backup survives the putting aside of the published artifact.
      refine restoreBackup_wp guarded lock journal ?_
      rw [PluginStore.exists', files]
      refine exists_put_of_exists _ _ _ ?_
      rw [exists_remove_bundle _ inside (undoable.published published known)]
      exact present
  | none =>
    simp only [Option.filter_none]
    cases out : locals.published.filter store.exists' with
    | none => exact ⟨rfl, rfl, .inr ⟨named, out⟩⟩
    | some published =>
      obtain ⟨known, there⟩ := Option.filter_eq_some_iff.mp out
      obtain ⟨file, found⟩ := Option.isSome_iff_exists.mp there
      dsimp only
      rw [wp_andThen]
      refine setAside_wp found guarded fun after lock journal files => ⟨lock, journal, .inl ?_⟩
      have bundled := undoable.published published known
      have elsewhere : published ≠ .backup ⟨"failed", arguments.transactionId, published.name⟩ := by
        intro same
        rw [same] at bundled
        cases bundled
      have gone : after.exists' published = false := by
        rw [PluginStore.exists', files, file_put_ne _ _ _ elsewhere]
        exact exists_remove_self store published
      simp [gone]

/-- The handler takes the journal away, so that it never outlives the lock. -/
theorem installFailed_wp {error : String} (undoable : Undoable state) :
    (installFailed arguments error).wp false (fun _ => Guarded) (fun _ after => after.1.journal = none)
      state := by
  unfold installFailed
  rw [wp_andThen, wp_catching]
  refine wp_mono ?_ (undoInstall_wp undoable)
  rintro outcome ⟨store, locals⟩ ⟨lock, journal, ended⟩
  cases outcome with
  | error message => exact ended.elim
  | ok verified =>
    have guarded : store.journal.isSome = true → store.lock.isSome = true := by
      intro present
      have lock : store.lock = state.1.lock := lock
      rw [lock]
      exact undoable.guarded (by rw [← journal]; exact present)
    simp only [wp_andThen, wp_set, wp_durable, wp_get, wp_whenever, wp_pure, appendAudit,
      unlinkJournal, Action.atomic]
    refine ⟨by simp, by simp, guarded, ?_⟩
    have settled : (verified || store.journal.isNone || (locals.backupArtifact.isNone &&
        (locals.published.filter store.exists').isNone)) = true := by
      rcases ended with done | ⟨unnamed, unpublished⟩
      · rw [done]
        rfl
      · simp only at unnamed unpublished
        simp [unnamed, unpublished]
    have kept : (fun path => PluginStore.exists' { store with
        audit := store.audit ++ [.installFailed arguments.transactionId error verified] } path) =
        store.exists' := by
      funext path
      cases path <;> rfl
    simp only [kept, settled]
    simp [Guarded]

theorem installEnd_wp (gone : state.1.journal = none) :
    (installEnd arguments).wp false (fun _ => Guarded) (fun _ _ => True) state := by
  obtain ⟨store, locals⟩ := state
  have gone : store.journal = none := gone
  unfold installEnd
  rw [wp_get_andThen, wp_get_andThen]
  dsimp only
  -- The remaining steps do not write a journal.
  have rest : ∀ after : PluginStore, after.journal = none →
      (do whenever arguments.report (durable (writeReport locals.report))
          whenever locals.lockAcquired (durable releaseLock)).wp false (fun _ => Guarded) (fun _ _ => True)
        (after, locals) := by
    intro after none
    simp only [wp_andThen, wp_whenever, wp_durable, writeReport, releaseLock, Action.atomic]
    simp [Guarded, none]
  rw [wp_andThen]
  cases locals.stage.filter store.exists' with
  | none => exact rest store gone
  | some stage =>
    simp only [Option.elim_some, wp_durable, unlink, Action.atomic]
    refine ⟨by simp, by simp, ?_, rest _ (by simpa using gone)⟩
    simp [Guarded, gone]

/-- Along every installation that no step interrupts, a journal is covered by the lock. -/
theorem installPlugin_wp {before : PluginStore} (fresh : before.journal = none) :
    (installPlugin checks arguments).wp false (fun _ => Guarded) (fun _ _ => True) (before, {}) := by
  unfold installPlugin
  rw [wp_ensuring, wp_catching]
  refine wp_mono ?_ (installBody_wp fresh)
  intro outcome after ended
  cases outcome with
  | ok value =>
    refine wp_mono ?_ (installEnd_wp ended)
    intro closed final _
    cases closed <;> trivial
  | error message =>
    refine wp_mono ?_ (installFailed_wp ended)
    intro result last gone
    refine wp_mono ?_ (installEnd_wp gone)
    intro closed final _
    cases closed <;> trivial

end Guard

theorem recoverBody_refused {checks : PluginChecks} {arguments : RecoverArguments}
    {journal : PluginJournal} {store : PluginStore} {locals : RecoverLocals}
    (held : store.lock.isSome = true) :
    (recoverBody checks arguments journal).wp false (fun _ _ => True)
      (fun outcome after => outcome.isOk = false ∧ after.2.lockAcquired = locals.lockAcquired)
      (store, locals) := by
  unfold recoverBody
  simp only [wp_andThen, wp_ofExcept]
  cases journal.installation with
  | error message => exact ⟨rfl, trivial⟩
  | ok transaction =>
    simp only [wp_set, wp_durable, acquireLock, held, if_true]
    exact ⟨by simp, by simp, rfl, trivial⟩

theorem recoverPlugin_refused (checks : PluginChecks) (arguments : RecoverArguments)
    {store : PluginStore} (guarded : store.journal.isSome = true → store.lock.isSome = true) :
    ((recoverPlugin checks arguments).start (store, {}) []).1 = .ok 1 := by
  have ended : (recoverPlugin checks arguments).wp false (fun _ _ => True)
      (fun outcome _ => outcome = .ok 1) (store, {}) := by
    unfold recoverPlugin
    split
    · rfl
    · rw [wp_get_andThen]
      cases present : store.journal with
      | none => rfl
      | some journal =>
        dsimp only
        rw [wp_ensuring, wp_catching]
        refine wp_mono ?_ (recoverBody_refused (guarded (by rw [present]; rfl)))
        rintro outcome ⟨after, locals⟩ ⟨failed, unlocked⟩
        cases outcome with
        | ok value => cases failed
        | error message =>
          -- The handler appends one audit record, and there is no lock to release.
          simp only at unlocked
          simp [recoverFailed, recoverEnd, wp_andThen, wp_durable, appendAudit, Action.atomic,
            unlocked]
  exact start_calm ended

/-- A process that dies during an installation leaves files from which recovery never succeeds: the
journal is there only together with the lock of the dead process, which recovery does not take
over. -/
theorem interrupted_install_never_recovers (checks : PluginChecks) (arguments : PluginArguments)
    (recovery : RecoverArguments) (before : PluginStore) (fresh : before.journal = none)
    (point : PluginStore × InstallLocals)
    (died : point ∈ ((installPlugin checks arguments).start (before, {}) []).2.seen) :
    ¬RecoversInstall checks arguments recovery before point.1 := by
  have start : Guarded (before, {}) := by
    intro present
    simp [fresh] at present
  have guarded := (start_of_wp (installPlugin_wp fresh) (fun _ _ fine => fine) start (fun _ => rfl)).1 point died
  intro recovers
  have refused := recoverPlugin_refused checks recovery guarded
  rw [recovers.returned] at refused
  cases refused

/-- A first installation of one plugin into an empty bundle directory. -/
def samplePlugin : BundleInfo where
  fileName := "sample.bndl"
  canonicalFileName := "pdr.plugin.sample_1.0.0.bndl"
  sha256 := "d1"
  symbolicName := "pdr.plugin.sample"
  version := "1.0.0"
  dependencies := []
  pluginContract := ⟨"1", "1", "abi", "[1.0.0,2.0.0)"⟩

def samplePluginChecks : PluginChecks where
  readBundle _ _ _ := .ok samplePlugin
  sha256 _ := "d1"
  loadRuntimeContract := .ok ⟨"1.0.0", "1", "1", "abi"⟩
  verifyPluginProvenance _ := .ok ()
  versionMatches _ _ := .ok true

def samplePluginArguments : PluginArguments where
  artifactName := "sample.bndl"
  artifact := [80, 75]
  expectedSha256 := none
  confirmRuntimeStopped := true
  report := false
  transactionId := "t1"
  copiedAt := 7

/-- The files when the process dies right after its journal was committed. -/
def committedPlugin : PluginStore × InstallLocals :=
  ({ bundles := [("pdr.plugin.sample_1.0.0.bndl", ⟨[80, 75], 7⟩)]
     journal := some (.document
      { newTransaction samplePluginArguments ⟨true, samplePlugin, none⟩ with state := .committed })
     lock := some "t1" },
   { stage := some (stagePath samplePluginArguments samplePlugin)
     published := some (publishedPath samplePlugin)
     lockAcquired := true })

theorem committed_plugin_never_recovers :
    ({} : PluginStore).journal = none ∧
      committedPlugin ∈
        ((installPlugin samplePluginChecks samplePluginArguments).start ({}, {}) []).2.seen ∧
      ¬RecoversInstall samplePluginChecks samplePluginArguments ⟨true, false⟩ {}
        committedPlugin.1 := by
  have died : committedPlugin ∈
      ((installPlugin samplePluginChecks samplePluginArguments).start ({}, {}) []).2.seen := by
    decide +kernel
  exact ⟨rfl, died, interrupted_install_never_recovers _ _ _ _ rfl _ died⟩

/-- The lock of the dead process keeps recovery from verifying the committed plugin. -/
theorem stale_lock_stops_recovery :
    ¬∀ (checks : PluginChecks) (arguments : PluginArguments) (before : PluginStore)
      (point : PluginStore × InstallLocals),
      before.journal = none → before.lock = none →
      (preflight checks arguments before.bundles).toOption.any (·.passed) = true →
      point ∈ ((installPlugin checks arguments).start (before, {}) []).2.seen →
      RecoversInstall checks arguments ⟨true, false⟩ before point.1 := by
  intro always
  have recovers := always samplePluginChecks samplePluginArguments {} committedPlugin rfl rfl
    (by decide +kernel) (by decide +kernel)
  have refused := recoverPlugin_refused samplePluginChecks ⟨true, false⟩
    (fun _ => rfl : committedPlugin.1.journal.isSome = true → committedPlugin.1.lock.isSome = true)
  rw [recovers.returned] at refused
  cases refused

end PocoDDS.Tools
