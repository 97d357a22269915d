import PocoDDS.Lib.SingleFault
import PocoDDS.Tools.PluginRollback

/-! Refused and failed plugin installations: what the one handler makes of every early exit. -/

namespace PocoDDS.Tools

open AssocList CrashLogic ProcessLogic Process

/-- The steps of an installation that may raise, from the lock on. -/
inductive InstallStep
  | acquireLock
  | journalStaging
  | copyArtifact
  | readStage
  | makeBackupRoot
  | moveCurrent
  | journalBackup
  | publish
  | readPublished
  | journalCommitted
  | appendCommitted
  | unlinkJournal
  deriving DecidableEq, Repr

/-- The steps in their order; without an installed plugin there is nothing to back up. -/
def installSteps (evidence : PluginPreflight) : List InstallStep :=
  ([.acquireLock, .journalStaging, .copyArtifact, .readStage] : List InstallStep) ++
    (if evidence.current.isSome then [.makeBackupRoot, .moveCurrent, .journalBackup] else []) ++
    [.publish, .readPublished, .journalCommitted, .appendCommitted, .unlinkJournal]

/-- How many steps come before one of them. -/
def stepsBefore (evidence : PluginPreflight) (step : InstallStep) : Nat :=
  (installSteps evidence).idxOf step

/-- An installation that does not come to a journal of its own. -/
def Refused (checks : PluginChecks) (arguments : PluginArguments) (before : PluginStore) : Prop :=
  arguments.confirmRuntimeStopped = false ∨ before.journal.isSome = true ∨
    before.lock.isSome = true ∨
    (preflight checks arguments before.bundles).toOption.any (·.passed) = false

/-- A call that returns 1, and leaves the plugins and somebody else's transaction as they are. -/
structure LeavesTransaction (before : PluginStore) (outcome : Except String Nat)
    (after : PluginStore) : Prop where
  returned : outcome = .ok 1
  bundles : after.bundles = before.bundles
  backups : after.backups = before.backups
  journal : after.journal = before.journal
  lock : after.lock = before.lock

/-- Two bundle directories with the same artifacts, of the same contents. -/
def SameContents (first second : List (String × PluginFile)) : Prop :=
  ∀ name, isArtifact name = true →
    (first.lookup name).map (·.content) = (second.lookup name).map (·.content)

/-- Whether what an installation may have put under the canonical name can be taken away again:
nothing was there before, or it was the installed plugin, which is in the backup directory. -/
def Restorable (evidence : PluginPreflight) (before : PluginStore) (step : Nat) : Prop :=
  before.bundles.lookup evidence.artifact.canonicalFileName = none ∨
    (evidence.current.any (·.fileName = evidence.artifact.canonicalFileName) = true ∧
      stepsBefore evidence .moveCurrent < step)

/-- What the reader of archives makes sure of: a canonical name has the ending that the inventory
looks for, and the symbolic name of a plugin begins as it has to. -/
structure PluginChecks.WellNamed (checks : PluginChecks) : Prop where
  canonical : ∀ name content requirePlugin info,
    checks.readBundle name content requirePlugin = .ok info →
    isArtifact info.canonicalFileName = true
  plugin : ∀ name content info, checks.readBundle name content true = .ok info →
    "pdr.plugin.".toList.isPrefixOf info.symbolicName.toList = true

/-- What a transaction may rely on: an identifier that was never used, and a directory that lists
every name once. -/
structure FreshTransaction (transactionId : String) (before : PluginStore) : Prop where
  formed : before.WellFormed
  named : isArtifact transactionId = false
  roots : ∀ folder, (folder, transactionId) ∉ before.roots

/-- A name that ends in a separator and something that is no artifact is none either. -/
theorem isArtifact_append (front : String) {last : String} (named : isArtifact last = false) :
    isArtifact (front ++ ".staging-" ++ last) = false := by
  rw [Bool.eq_false_iff] at named ⊢
  intro artifact
  refine named ?_
  unfold isArtifact at artifact ⊢
  rw [List.isSuffixOf_iff_suffix] at artifact ⊢
  rw [String.toList_append, String.toList_append] at artifact
  -- Either the ending lies in the last part, or it reaches back to the separator.
  rcases List.suffix_or_suffix_of_suffix artifact (List.suffix_append _ _) with inside | inside
  · exact inside
  · obtain ⟨reach, split⟩ := inside
    rw [← split, List.suffix_append_self_iff] at artifact
    rcases List.eq_nil_or_concat reach with none | ⟨init, character, shape⟩
    · rw [← split, none]
      exact List.suffix_rfl
    · -- The separator ends in a character that the ending does not have.
      obtain ⟨rest, reaches⟩ := artifact
      have dash : character = '-' := by
        rw [shape, List.concat_eq_append, ← List.append_assoc] at reaches
        have ends := congrArg List.getLast? reaches
        simpa using ends
      have member : '-' ∈ ".bndl".toList := by
        rw [← split, shape, dash]
        simp
      exact absurd member (by decide)

section Steps

variable {checks : PluginChecks} {arguments : PluginArguments} {before : PluginStore}
  {evidence : PluginPreflight} {due : Option Nat}
variable {state : PluginStore × InstallLocals}

theorem stepsBefore_moveCurrent :
    stepsBefore evidence .moveCurrent = if evidence.current.isSome = true then 5 else 9 := by
  unfold stepsBefore installSteps
  cases evidence.current <;> rfl

theorem stepsBefore_appendCommitted :
    stepsBefore evidence .appendCommitted = if evidence.current.isSome = true then 10 else 7 := by
  unfold stepsBefore installSteps
  cases evidence.current <;> rfl

theorem inventory_artifact {bundles : List (String × PluginFile)}
    {all : List (String × BundleInfo)} (read : inventory checks bundles = .ok all) :
    ∀ entry ∈ all, isArtifact entry.2.fileName = true := by
  intro entry member
  obtain ⟨file, listed, -⟩ :=
    inventoryFrom_read read (fun _ inside => inside) (by simp) entry member
  have sorted := (List.perm_insertionSort _ _).mem_iff.mp listed
  exact (List.mem_filter.mp sorted).2

/-- What the preflight of an admitted installation has established. -/
structure Checked (checks : PluginChecks) (arguments : PluginArguments) (before : PluginStore)
    (evidence : PluginPreflight) : Prop where
  passed : preflight checks arguments before.bundles = .ok evidence
  digest : checks.sha256 arguments.artifact = evidence.artifact.sha256
  canonical : isArtifact evidence.artifact.canonicalFileName = true
  plugin : evidence.artifact.symbolicName ≠ "failed"
  installed : ∀ current, evidence.current = some current →
    isArtifact current.fileName = true ∧ ∃ file, before.bundles.lookup current.fileName = some file

theorem inspectBundle_names (names : checks.WellNamed) {name : String} {content : List UInt8}
    {requirePlugin : Bool} {info : BundleInfo}
    (opened : inspectBundle checks name content requirePlugin = .ok info) :
    isArtifact info.canonicalFileName = true ∧
      (requirePlugin = true → info.symbolicName ≠ "failed") := by
  unfold inspectBundle at opened
  cases raw : checks.readBundle name content requirePlugin with
  | error message => simp [raw, Except.map] at opened
  | ok read =>
    simp only [raw, Except.map, Except.ok.injEq] at opened
    have fits := names.canonical _ _ _ _ raw
    rw [← opened]
    refine ⟨fits, fun required same => ?_⟩
    rw [required] at raw
    have begins := names.plugin _ _ _ raw
    simp only at same
    rw [same] at begins
    exact absurd begins (by decide)

theorem Checked.make (names : checks.WellNamed)
    (passed : preflight checks arguments before.bundles = .ok evidence) :
    Checked checks arguments before evidence := by
  obtain ⟨opened, installed, read, same⟩ := preflight_read passed
  obtain ⟨canonical, plugin⟩ := inspectBundle_names names opened
  refine ⟨passed, (inspectBundle_ok opened).2.symm, canonical, plugin rfl, ?_⟩
  intro current found
  rw [found] at same
  obtain ⟨front, rest, split, -⟩ := List.lookup_eq_some_iff.mp same
  refine ⟨inventory_artifact read (evidence.artifact.symbolicName, current)
    (by rw [split]; simp), ?_⟩
  exact Option.isSome_iff_exists.mp (lookup_isSome_iff.mpr (preflight_current passed found))

/-- The place that the installed plugin is moved to. -/
def backupPlace (arguments : PluginArguments) (evidence : PluginPreflight) (current : BundleInfo) :
    BackupPlace :=
  ⟨evidence.artifact.symbolicName, arguments.transactionId, current.fileName⟩

/-- An installation that has journalled itself: whether the installed plugin has been moved away,
whether the new one is in its place, and whether the report says so. -/
structure UnderWay (arguments : PluginArguments) (before : PluginStore)
    (evidence : PluginPreflight) (moved placed recorded : Bool)
    (state : PluginStore × InstallLocals) : Prop where
  locked : state.2.lockAcquired = true
  published : state.2.published = some (publishedPath evidence.artifact)
  stage : state.2.stage = some (stagePath arguments evidence.artifact)
  bundles : ∀ name, isArtifact name = true → state.1.bundles.lookup name =
    if placed = true ∧ name = evidence.artifact.canonicalFileName then
      some ⟨arguments.artifact, arguments.copiedAt⟩
    else if moved = true ∧ evidence.current.any (·.fileName = name) = true then none
    else before.bundles.lookup name
  aside : moved = true → ∃ current file, evidence.current = some current ∧
    before.bundles.lookup current.fileName = some file ∧
    state.2.backupArtifact = some (.backup (backupPlace arguments evidence current)) ∧
    state.1.backups = assign (backupPlace arguments evidence current) file before.backups
  still : moved = false → state.1.backups = before.backups ∧
    ∀ path, state.2.backupArtifact = some path →
      ∃ place, path = .backup place ∧ before.backups.lookup place = none
  formed : state.1.WellFormed
  roots : ∀ root ∈ state.1.roots, root ∈ before.roots ∨ root.2 = arguments.transactionId
  passed : state.2.report.passed = recorded
  unverified : state.2.report.rollbackVerified = none

/-- What the handler finds when one of the steps behind the preflight has raised. -/
def FailedStep (arguments : PluginArguments) (before : PluginStore) (evidence : PluginPreflight)
    (due : Option Nat) (count : Nat) (state : PluginStore × InstallLocals) : Prop :=
  ∃ step placed, due = some step ∧ 0 < step ∧ count = step + 1 ∧
    UnderWay arguments before evidence (decide (stepsBefore evidence .moveCurrent < step)) placed
      (decide (stepsBefore evidence .appendCommitted ≤ step)) state

theorem FailedStep.early {step : Nat} (due' : due = some step) (begun : 0 < step) (early : step ≤ 5)
    (here : UnderWay arguments before evidence false false false state) :
    FailedStep arguments before evidence due (step + 1) state := by
  refine ⟨step, false, due', begun, rfl, ?_⟩
  have unmoved : decide (stepsBefore evidence .moveCurrent < step) = false := by
    rw [stepsBefore_moveCurrent, decide_eq_false_iff_not]
    split <;> omega
  have unrecorded : decide (stepsBefore evidence .appendCommitted ≤ step) = false := by
    rw [stepsBefore_appendCommitted, decide_eq_false_iff_not]
    split <;> omega
  rw [unmoved, unrecorded]
  exact here

/-- Reading back what is known to be there can only fail by itself. -/
theorem checkDigest_struck {ℓ : Type} {path : PluginPath} (file : PluginFile)
    {expected message : String} {state : PluginStore × ℓ} {count : Nat}
    {post : Except String Unit → Nat → PluginStore × ℓ → Prop} (ahead : Ahead due count)
    (found : state.1.file path = some file) (digest : checks.sha256 file.content = expected)
    (hit : due = some count → ∀ message, post (.error message) (count + 1) state)
    (missed : Ahead due (count + 1) → post (.ok ()) (count + 1) state) :
    (checkDigest checks path expected message).struck due post count state := by
  unfold checkDigest
  refine struck_step ahead hit fun later => ?_
  simp only [struck_get_andThen, found]
  rw [struck_reject, digest, bne_self_eq_false, if_neg Bool.false_ne_true]
  exact missed later

/-- The name of the file that an artifact is copied to first. -/
def stageName (arguments : PluginArguments) (evidence : PluginPreflight) : String :=
  "." ++ evidence.artifact.canonicalFileName ++ ".staging-" ++ arguments.transactionId

/-- The staged file is none that the inventory lists. -/
theorem FreshTransaction.unstaged (fresh : FreshTransaction arguments.transactionId before)
    {name : String} (artifact : isArtifact name = true) : name ≠ stageName arguments evidence := by
  rintro rfl
  have hidden := isArtifact_append ("." ++ evidence.artifact.canonicalFileName) fresh.named
  rw [stageName, hidden] at artifact
  cases artifact

/-- The files and the variables of an installation with its artifact staged. -/
structure ArtifactStaged (arguments : PluginArguments) (before : PluginStore)
    (evidence : PluginPreflight) (state : PluginStore × InstallLocals) : Prop where
  underWay : UnderWay arguments before evidence false false false state
  copied : state.1.bundles.lookup (stageName arguments evidence) =
    some ⟨arguments.artifact, arguments.copiedAt⟩
  journalled : state.1.journal.isSome = true
  roots : state.1.roots = before.roots
  backups : state.1.backups = before.backups
  unnamed : state.2.backupArtifact = none

theorem stageArtifact_struck (fresh : FreshTransaction arguments.transactionId before)
    (checked : Checked checks arguments before evidence) (ahead : Ahead due 1) :
    (stageArtifact checks arguments evidence).struck due (fun outcome count after =>
      match outcome with
      | .ok _ => count = 4 ∧ Ahead due 4 ∧ ArtifactStaged arguments before evidence after
      | .error _ => FailedStep arguments before evidence due count after) 1
      ({ before with lock := some arguments.transactionId }, { lockAcquired := true }) := by
  -- Only the staged file differs from what was there, whatever has been copied of it.
  have bare : ∀ (journal : Option PluginJournal) (bundles : List (String × PluginFile)),
      (keys bundles).Nodup → (∀ name, isArtifact name = true →
        bundles.lookup name = before.bundles.lookup name) →
      UnderWay arguments before evidence false false false
        ({ before with lock := some arguments.transactionId, journal, bundles },
          ({ published := some (publishedPath evidence.artifact)
             stage := some (stagePath arguments evidence.artifact)
             lockAcquired := true } : InstallLocals)) := by
    intro journal bundles listed same
    refine ⟨rfl, rfl, rfl, ?_, by simp, fun _ => ⟨rfl, by simp⟩, ⟨listed, fresh.formed.housed⟩,
      fun _ => .inl, rfl, rfl⟩
    intro name artifact
    simpa using same name artifact
  have untouched := fun journal => bare journal before.bundles fresh.formed.bundles fun _ _ => rfl
  have partly := fun journal (file : PluginFile) => bare journal
    (assign (stageName arguments evidence) file before.bundles)
    (nodup_keys_assign fresh.formed.bundles _ _)
    fun name artifact => lookup_assign_ne (fresh.unstaged artifact) file before.bundles
  unfold stageArtifact
  rw [struck_set_andThen]
  refine struck_step ahead ?_ fun ahead => ?_
  · exact fun here _ => .early here (by omega) (by omega) (untouched _)
  dsimp only
  rw [struck_andThen]
  refine struck_durable ahead ?_ fun ahead => ?_
  · intro here message left from'
    -- A copy that was interrupted leaves some part of the artifact in the staged file.
    rcases from' with same | member
    · rw [same]
      exact .early here (by omega) (by omega) (untouched _)
    · obtain ⟨size, -, rfl⟩ := List.mem_map.mp member
      exact .early here (by omega) (by omega) (partly _ _)
  dsimp only [copyfile]
  have copied : ∀ journal, (({ before with lock := some arguments.transactionId, journal } :
      PluginStore).put (stagePath arguments evidence.artifact)
        ⟨arguments.artifact, arguments.copiedAt⟩).bundles.lookup (stageName arguments evidence) =
      some ⟨arguments.artifact, arguments.copiedAt⟩ :=
    fun journal => lookup_assign_self _ _ _
  refine checkDigest_struck _ ahead (copied _) checked.digest ?_ fun ahead => ?_
  · exact fun here _ => .early here (by omega) (by omega) (partly _ _)
  · exact ⟨rfl, ahead, partly _ _, copied _, rfl, rfl, rfl, rfl⟩

/-- An installation whose new plugin is the next thing to be put in place. -/
structure ReadyToPublish (arguments : PluginArguments) (before : PluginStore) (evidence : PluginPreflight)
    (state : PluginStore × InstallLocals) : Prop where
  underWay : UnderWay arguments before evidence evidence.current.isSome false false state
  copied : state.1.bundles.lookup (stageName arguments evidence) =
    some ⟨arguments.artifact, arguments.copiedAt⟩
  journalled : state.1.journal.isSome = true

theorem backupCurrent_struck (fresh : FreshTransaction arguments.transactionId before)
    (checked : Checked checks arguments before evidence) (ahead : Ahead due 4)
    (staged : ArtifactStaged arguments before evidence state) :
    (backupCurrent arguments evidence).struck due (fun outcome count after =>
      match outcome with
      | .ok _ => count = (if evidence.current.isSome = true then 7 else 4) ∧ Ahead due count ∧
          ReadyToPublish arguments before evidence after
      | .error _ => FailedStep arguments before evidence due count after) 4 state := by
  obtain ⟨store, locals⟩ := state
  unfold backupCurrent
  cases known : evidence.current with
  | none =>
    refine ⟨rfl, ahead, ?_, staged.copied, staged.journalled⟩
    rw [known]
    exact staged.underWay
  | some current =>
    obtain ⟨artifact, file, old⟩ := checked.installed current known
    have roots : store.roots = before.roots := staged.roots
    have backups : store.backups = before.backups := staged.backups
    have new : (evidence.artifact.symbolicName, arguments.transactionId) ∉ store.roots := by
      rw [roots]
      exact fresh.roots _
    have vacant : store.backups.lookup (backupPlace arguments evidence current) = none := by
      rw [backups, lookup_eq_none_iff]
      exact fun member => fresh.roots _ (fresh.formed.housed _ member)
    have here : store.bundles.lookup current.fileName = some file := by
      have same := staged.underWay.bundles current.fileName artifact
      simp only [Bool.false_eq_true, false_and, if_false] at same
      exact same.trans old
    have made : ∀ root ∈ store.roots ++ [(evidence.artifact.symbolicName,
        arguments.transactionId)], root ∈ before.roots ∨ root.2 = arguments.transactionId := by
      intro root member
      rcases List.mem_append.mp member with old | new
      · exact staged.underWay.roots root old
      · rw [List.mem_singleton.mp new]
        exact .inr rfl
    dsimp only
    refine struck_step ahead ?_ fun ahead => ?_
    · exact fun due' _ => .early due' (by omega) (by omega) staged.underWay
    simp only [new, if_false]
    rw [struck_set_andThen, struck_andThen, replace]
    -- The backup has its name before it is there.
    have opened : UnderWay arguments before evidence false false false
        ({ store with roots := store.roots ++ [(evidence.artifact.symbolicName,
            arguments.transactionId)] },
          { locals with backupArtifact := some (.backup
            (backupPlace arguments evidence current)) }) := by
      have under := staged.underWay
      refine ⟨under.locked, under.published, under.stage, under.bundles, by simp, ?_,
        ⟨under.formed.bundles, ?_⟩, ?_, under.passed, under.unverified⟩
      · intro _
        refine ⟨backups, fun path named => ?_⟩
        rw [backups] at vacant
        exact ⟨_, (Option.some.inj named).symm, vacant⟩
      · exact fun place member => List.mem_append_left _ (under.formed.housed place member)
      · exact made
    refine struck_atomic ahead ?_ fun ahead => ?_
    · exact fun due' _ => .early due' (by omega) (by omega) opened
    simp only [PluginStore.file, here, PluginStore.remove, PluginStore.put]
    have moved : ∀ journal, UnderWay arguments before evidence true false false
        ({ store with
            roots := store.roots ++ [(evidence.artifact.symbolicName, arguments.transactionId)]
            bundles := eraseKey current.fileName store.bundles
            backups := assign (backupPlace arguments evidence current) file store.backups
            journal },
          { locals with backupArtifact := some (.backup
            (backupPlace arguments evidence current)) }) := by
      intro journal
      have under := staged.underWay
      refine ⟨under.locked, under.published, under.stage, ?_, ?_, by simp,
        ⟨nodup_keys_eraseKey under.formed.bundles _, ?_⟩, made, under.passed, under.unverified⟩
      · intro name artifact
        have same := under.bundles name artifact
        simp only [Bool.false_eq_true, false_and, if_false] at same ⊢
        rw [lookup_eraseKey, same, known]
        by_cases gone : name = current.fileName
        · simp [gone]
        · have kept : ¬current.fileName = name := fun same' => gone same'.symm
          simp [gone, kept]
      · intro _
        exact ⟨current, file, known, old, rfl, by rw [backups]⟩
      · intro place member
        dsimp only at member ⊢
        rcases mem_keys_assign.mp member with same | inside
        · rw [same]
          exact List.mem_append_right _ List.mem_cons_self
        · exact List.mem_append_left _ (under.formed.housed place inside)
    refine struck_step ahead ?_ fun ahead => ?_
    · intro due' message
      refine ⟨6, false, due', by omega, rfl, ?_⟩
      have recorded : decide (stepsBefore evidence .appendCommitted ≤ 6) = false := by
        rw [stepsBefore_appendCommitted, known]
        rfl
      have past : decide (stepsBefore evidence .moveCurrent < 6) = true := by
        rw [stepsBefore_moveCurrent, known]
        rfl
      rw [recorded, past]
      exact moved _
    · refine ⟨rfl, ahead, ?_, ?_, rfl⟩
      · rw [known]
        exact moved _
      · dsimp only
        rw [lookup_eraseKey_ne (fresh.unstaged artifact).symm]
        exact staged.copied

theorem FailedStep.late {start : Nat} (late : Nat) {placed : Bool}
    (start' : start = if evidence.current.isSome = true then 7 else 4) (within : late ≤ 4)
    (due' : due = some (start + late))
    (here : UnderWay arguments before evidence evidence.current.isSome placed (decide (3 ≤ late))
      state) : FailedStep arguments before evidence due (start + late + 1) state := by
  refine ⟨start + late, placed, due', ?_, rfl, ?_⟩
  · rw [start']
    split <;> omega
  -- Both positions are counted from the same step.
  have moved : decide (stepsBefore evidence .moveCurrent < start + late) =
      evidence.current.isSome := by
    rw [stepsBefore_moveCurrent, start']
    cases evidence.current with
    | none => simpa using (by omega : ¬9 < 4 + late)
    | some current => simpa using (by omega : 5 < 7 + late)
  have recorded : decide (stepsBefore evidence .appendCommitted ≤ start + late) =
      decide (3 ≤ late) := by
    rw [stepsBefore_appendCommitted, start', decide_eq_decide]
    split <;> omega
  rw [moved, recorded]
  exact here

/-- What an installation leaves that came to its end. -/
structure Published (arguments : PluginArguments) (before : PluginStore)
    (evidence : PluginPreflight) (state : PluginStore × InstallLocals) : Prop where
  underWay : UnderWay arguments before evidence evidence.current.isSome true true state
  journal : state.1.journal = none
  audit : ∃ events backup, state.1.audit = events ++ [.installCommitted arguments.transactionId
    evidence.artifact.symbolicName evidence.artifact.version evidence.artifact.sha256 backup]

theorem publishArtifact_struck (fresh : FreshTransaction arguments.transactionId before)
    (checked : Checked checks arguments before evidence) {transaction : PluginTransaction}
    {start : Nat} (start' : start = if evidence.current.isSome = true then 7 else 4)
    (ahead : Ahead due start) (ready : ReadyToPublish arguments before evidence state) :
    (publishArtifact checks arguments evidence.artifact transaction).struck due
      (fun outcome count after =>
        match outcome with
        | .ok value => value = 0 ∧ count = start + 5 ∧ Ahead due count ∧
            Published arguments before evidence after
        | .error _ => FailedStep arguments before evidence due count after) start state := by
  obtain ⟨store, locals⟩ := state
  have copied : store.file (stagePath arguments evidence.artifact) =
      some ⟨arguments.artifact, arguments.copiedAt⟩ := ready.copied
  have under := ready.underWay
  -- From the rename on, the new plugin is in its place, whatever the journal and the report say.
  have placed : ∀ (journal : Option PluginJournal) (audit : List PluginEvent)
      (report : PluginReport), report.rollbackVerified = none →
      UnderWay arguments before evidence evidence.current.isSome true report.passed
        ({ store with
            bundles := assign evidence.artifact.canonicalFileName
              ⟨arguments.artifact, arguments.copiedAt⟩
              (eraseKey (stageName arguments evidence) store.bundles)
            journal, audit },
          { locals with report }) := by
    intro journal audit report unverified
    refine ⟨under.locked, under.published, under.stage, ?_, under.aside, under.still,
      ⟨nodup_keys_assign (nodup_keys_eraseKey under.formed.bundles _) _ _, under.formed.housed⟩,
      under.roots, rfl, unverified⟩
    intro name artifact
    rw [lookup_assign]
    by_cases same : name = evidence.artifact.canonicalFileName
    · simp [same]
    · have kept := under.bundles name artifact
      rw [if_neg same, lookup_eraseKey_ne (fresh.unstaged artifact)]
      simpa [same] using kept
  have waiting : locals.report.passed = false := under.passed
  unfold publishArtifact
  dsimp only
  refine struck_step ahead ?_ fun ahead => ?_
  · exact fun due' _ => .late 0 start' (by omega) due' under
  simp only [copied]
  have first := fun journal => placed journal store.audit locals.report under.unverified
  rw [waiting] at first
  have recorded := fun journal audit => placed journal audit { locals.report with
    passed := true
    published := some (publishedPath evidence.artifact)
    backup := transaction.backup } under.unverified
  refine (struck_andThen _ _ _ _ _).mpr (checkDigest_struck
    ⟨arguments.artifact, arguments.copiedAt⟩ ahead ?_ checked.digest ?_ fun ahead => ?_)
  · exact lookup_assign_self _ _ _
  · exact fun due' _ => .late 1 start' (by omega) due' (first store.journal)
  dsimp only
  refine struck_step ahead ?_ fun ahead => ?_
  · exact fun due' _ => .late 2 start' (by omega) due' (first store.journal)
  dsimp only
  rw [struck_set_andThen]
  refine struck_step ahead ?_ fun ahead => ?_
  · exact fun due' _ => .late 3 start' (by omega) due' (recorded _ _)
  dsimp only
  refine struck_step ahead ?_ fun ahead => ?_
  · exact fun due' _ => .late 4 start' (by omega) due' (recorded _ _)
  exact ⟨rfl, rfl, ahead, recorded _ _, rfl, _, _, rfl⟩

/-- An installation that was let through to its first journal. -/
structure Admissible (checks : PluginChecks) (arguments : PluginArguments) (before : PluginStore)
    (evidence : PluginPreflight) : Prop where
  confirmed : arguments.confirmRuntimeStopped = true
  journal : before.journal = none
  lock : before.lock = none
  passed : preflight checks arguments before.bundles = .ok evidence
  compatible : evidence.passed = true

theorem Admissible.not_refused (admissible : Admissible checks arguments before evidence) :
    ¬Refused checks arguments before := by
  rintro (unconfirmed | journal | lock | failed)
  · simp [admissible.confirmed] at unconfirmed
  · simp [admissible.journal] at journal
  · simp [admissible.lock] at lock
  · simp [admissible.passed, Except.toOption, admissible.compatible] at failed

/-- An installation that has not journalled itself. -/
structure Refusing (before : PluginStore) (state : PluginStore × InstallLocals) : Prop where
  bundles : state.1.bundles = before.bundles
  backups : state.1.backups = before.backups
  stage : state.2.stage = none
  backupArtifact : state.2.backupArtifact = none
  published : state.2.published = none
  report : state.2.report = {}

/-- The lock is the one that was there before, or the installation's own. -/
def LockKept (before : PluginStore) (state : PluginStore × InstallLocals) : Prop :=
  (state.2.lockAcquired = false ∧ state.1.lock = before.lock) ∨
    (state.2.lockAcquired = true ∧ before.lock = none)

theorem admitArtifact_struck (ahead : Ahead due 0) :
    (admitArtifact checks arguments).struck due (fun outcome count after =>
      match outcome with
      | .ok evidence => count = 1 ∧ Ahead due 1 ∧ Admissible checks arguments before evidence ∧
          after = ({ before with lock := some arguments.transactionId }, { lockAcquired := true })
      | .error _ => count ≤ 1 ∧ Refusing before after ∧
          (due = none → LockKept before after ∧ Refused checks arguments before)) 0
      (before, {}) := by
  have refusing : ∀ lock lockAcquired, Refusing before
      ({ before with lock }, ({ lockAcquired } : InstallLocals)) :=
    fun _ _ => ⟨rfl, rfl, rfl, rfl, rfl, rfl⟩
  have untouched : Refusing before (before, {}) := refusing before.lock false
  have kept : LockKept before (before, {}) := .inl ⟨rfl, rfl⟩
  unfold admitArtifact
  rw [struck_andThen, struck_reject]
  split
  · next unconfirmed =>
    exact ⟨by omega, untouched, fun _ => ⟨kept, .inl (by simpa using unconfirmed)⟩⟩
  next confirmed =>
  rw [Bool.not_eq_true', Bool.not_eq_false] at confirmed
  dsimp only
  rw [struck_get_andThen, struck_andThen, struck_reject]
  split
  · next present =>
    exact ⟨by omega, untouched, fun _ => ⟨kept, .inr (.inl present)⟩⟩
  next absent =>
  dsimp only
  rw [struck_andThen]
  refine struck_durable ahead ?_ fun ahead => ?_
  · intro here message left from'
    refine ⟨by omega, ?_, fun none => by simp [here] at none⟩
    -- A lock file without its content may be left, which is nobody's.
    rcases from' with same | member
    · rw [same]
      exact untouched
    · simp only [acquireLock] at member
      split at member
      · cases member
      · rw [List.mem_singleton.mp member]
        exact refusing _ false
  simp only [acquireLock]
  by_cases held : before.lock.isSome = true
  · rw [if_pos held]
    exact ⟨by omega, untouched, fun _ => ⟨kept, .inr (.inr (.inl held))⟩⟩
  rw [if_neg held]
  dsimp only
  rw [struck_set_andThen, struck_get_andThen, struck_andThen, struck_ofExcept]
  have own : LockKept before ({ before with lock := some arguments.transactionId },
      { lockAcquired := true }) := .inr ⟨rfl, by simpa using held⟩
  cases read : preflight checks arguments before.bundles with
  | error message =>
    refine ⟨by omega, refusing _ true, fun _ => ⟨own, .inr (.inr (.inr ?_))⟩⟩
    rw [read]
    rfl
  | ok evidence =>
    dsimp only
    rw [struck_andThen, struck_reject]
    split
    · next incompatible =>
      refine ⟨by omega, refusing _ true, fun _ => ⟨own, .inr (.inr (.inr ?_))⟩⟩
      rw [read]
      simpa [Except.toOption] using incompatible
    next compatible =>
    exact ⟨rfl, ahead, ⟨confirmed, by simpa using absent, by simpa using held, read,
      by simpa using compatible⟩, rfl⟩

/-- How the guarded part of an installation ends. -/
theorem installBody_struck (names : checks.WellNamed)
    (fresh : FreshTransaction arguments.transactionId before) (ahead : Ahead due 0) :
    (installBody checks arguments).struck due (fun outcome count after =>
      match outcome with
      | .ok value => value = 0 ∧ Ahead due count ∧ ∃ evidence,
          Admissible checks arguments before evidence ∧
          count = (installSteps evidence).length ∧ Published arguments before evidence after
      | .error _ =>
          (count ≤ 1 ∧ Refusing before after ∧
            (due = none → LockKept before after ∧ Refused checks arguments before)) ∨
          ∃ evidence, Admissible checks arguments before evidence ∧
            FailedStep arguments before evidence due count after) 0 (before, {}) := by
  unfold installBody
  refine struck_sequence (admitArtifact_struck ahead) (fun _ _ _ holds => .inl holds) ?_
  rintro evidence count admitted ⟨rfl, ahead, admissible, rfl⟩
  have checked := Checked.make names admissible.passed
  refine struck_sequence (stageArtifact_struck fresh checked ahead)
    (fun _ _ _ holds => .inr ⟨evidence, admissible, holds⟩) ?_
  rintro - count staged ⟨rfl, ahead, holds⟩
  refine struck_sequence (backupCurrent_struck fresh checked ahead holds)
    (fun _ _ _ holds => .inr ⟨evidence, admissible, holds⟩) ?_
  rintro - count backed ⟨start, ahead, ready⟩
  refine struck_mono ?_ (publishArtifact_struck fresh checked start ahead ready)
  intro outcome count after holds
  cases outcome with
  | error message => exact .inr ⟨evidence, admissible, holds⟩
  | ok value =>
    obtain ⟨zero, count', ahead, published⟩ := holds
    refine ⟨zero, ahead, evidence, admissible, ?_, published⟩
    rw [count', start]
    unfold installSteps
    cases evidence.current <;> rfl

theorem installBody_acts (names : checks.WellNamed)
    (fresh : FreshTransaction arguments.transactionId before)
    (admissible : Admissible checks arguments before evidence) :
    (installBody checks arguments).acts (before, {}) = (installSteps evidence).length := by
  have ahead : Ahead none 0 := fun step _ => Nat.zero_le step
  obtain ⟨outcome, after, holds⟩ := struck_count (installBody_struck names fresh ahead)
  cases outcome with
  | ok value =>
    obtain ⟨-, -, other, admissible', count, -⟩ := holds
    have same := admissible'.passed
    rw [admissible.passed, Except.ok.injEq] at same
    rw [same, ← count, Nat.zero_add]
  | error message =>
    rcases holds with ⟨-, -, refused⟩ | ⟨other, -, step, placed, due', -⟩
    · exact absurd (refused rfl).2 admissible.not_refused
    · cases due'

/-- The bundle directory after a failed installation was undone: the canonical name is free, unless
it was the one of the installed plugin and that had been moved away. -/
def UndoneBundles (before : PluginStore) (evidence : PluginPreflight) (moved : Bool)
    (bundles : List (String × PluginFile)) : Prop :=
  ∀ name, isArtifact name = true → bundles.lookup name =
    if moved = true ∧ evidence.current.any (·.fileName = name) = true then
      before.bundles.lookup name
    else if name = evidence.artifact.canonicalFileName then none
    else before.bundles.lookup name

/-- Undoing an installation takes away whatever is under the canonical name. -/
theorem undoInstall_underWay (checked : Checked checks arguments before evidence)
    {moved placed recorded : Bool}
    (under : UnderWay arguments before evidence moved placed recorded state) :
    (undoInstall arguments).wp false (fun _ _ => True) (fun outcome after =>
      ∃ verified undone, outcome = .ok verified ∧ after = (undone, state.2) ∧
        UndoneBundles before evidence moved undone.bundles ∧
        (verified = false → moved = false ∧
          before.bundles.lookup evidence.artifact.canonicalFileName = none)) state := by
  obtain ⟨store, locals⟩ := state
  have published : locals.published = some (publishedPath evidence.artifact) := under.published
  have safe : ∀ after : PluginStore, after.lock = store.lock → after.journal = store.journal →
      (fun _ : PluginStore × InstallLocals => True) (after, locals) := fun _ _ _ => trivial
  unfold undoInstall
  rw [wp_get_andThen, wp_get_andThen]
  dsimp only
  rw [published]
  cases moved with
  | true =>
    obtain ⟨current, file, known, old, named, saved⟩ := under.aside rfl
    have there : store.file (.backup (backupPlace arguments evidence current)) = some file := by
      rw [PluginStore.file, saved]
      exact lookup_assign_self _ _ _
    have present : store.exists' (.backup (backupPlace arguments evidence current)) = true := by
      rw [PluginStore.exists', there, Option.isSome_some]
    have named : locals.backupArtifact = some (.backup (backupPlace arguments evidence current)) :=
      named
    -- Whatever has been put aside, the backup comes back under its own name.
    have restore : ∀ after : PluginStore,
        after.file (.backup (backupPlace arguments evidence current)) = some file →
        (∀ name, isArtifact name = true → after.bundles.lookup name =
          if name = evidence.artifact.canonicalFileName then none
          else store.bundles.lookup name) →
        (do durable (replace (.backup (backupPlace arguments evidence current))
              (.bundle current.fileName))
            get fun state => state.1.exists' (.bundle current.fileName) :
          PluginProcess InstallLocals Bool).wp false (fun _ _ => True)
          (fun outcome last => ∃ verified undone, outcome = .ok verified ∧
            last = (undone, locals) ∧ UndoneBundles before evidence true undone.bundles ∧
            (verified = false → true = false ∧
              before.bundles.lookup evidence.artifact.canonicalFileName = none))
          (after, locals) := by
      intro after here bundles
      rw [wp_andThen, replace, wp_atomic]
      simp only [here]
      refine ⟨by simp, trivial, _, _, rfl, rfl, ?_, ?_⟩
      · intro name artifact
        have kept := bundles name artifact
        have was := under.bundles name artifact
        simp only [PluginStore.put, PluginStore.remove]
        rw [lookup_assign, known, Option.any_some]
        simp only [known, Option.any_some, true_and, decide_eq_true_eq] at was ⊢
        by_cases same : name = current.fileName
        · rw [if_pos same, if_pos same.symm, same, old]
        · have differs : ¬current.fileName = name := fun other => same other.symm
          rw [if_neg same, if_neg differs, kept]
          split
          · rfl
          · next other => rw [was, if_neg (fun both => other both.2), if_neg differs]
      · intro unverified
        have back := PluginStore.file_put (after.remove (.backup (backupPlace arguments evidence
          current))) file (.inl rfl : (PluginPath.bundle current.fileName).withinBundles = true ∨ _)
        dsimp only at unverified
        rw [PluginStore.exists', back] at unverified
        cases unverified
    simp only [named, Option.filter_some, present, if_true]
    rw [wp_andThen]
    by_cases out : store.exists' (publishedPath evidence.artifact) = true
    · obtain ⟨other, found⟩ := Option.isSome_iff_exists.mp out
      rw [if_pos out]
      refine setAside_wp found safe fun after lock journal files => ?_
      refine restore after ?_ ?_
      · -- A plugin is never called like the directory for failed artifacts.
        rw [files, PluginStore.file_put_ne]
        · exact there
        · simp [backupPlace, checked.plugin]
      · intro name artifact
        have same := congrFun files (.bundle name)
        simp only [PluginStore.file, PluginStore.put, PluginStore.remove, publishedPath] at same
        rw [same, lookup_eraseKey]
    · rw [if_neg out]
      refine restore store there fun name artifact => ?_
      split
      · next same =>
        rw [same]
        exact Option.not_isSome_iff_eq_none.mp out
      · rfl
  | false =>
    obtain ⟨backups, vacant⟩ := under.still rfl
    have missing : locals.backupArtifact.filter store.exists' = none := by
      rw [Option.filter_eq_none_iff]
      intro path named
      obtain ⟨place, rfl, none⟩ := vacant path named
      have backups : store.backups = before.backups := backups
      simp [PluginStore.exists', PluginStore.file, backups, none]
    simp only [missing, Option.filter_some]
    by_cases out : store.exists' (publishedPath evidence.artifact) = true
    · obtain ⟨other, found⟩ := Option.isSome_iff_exists.mp out
      rw [if_pos out]
      dsimp only
      rw [wp_andThen]
      refine setAside_wp found safe fun after lock journal files => ?_
      refine ⟨_, after, rfl, rfl, ?_, ?_⟩
      · intro name artifact
        have same := congrFun files (.bundle name)
        have was := under.bundles name artifact
        simp only [PluginStore.file, PluginStore.put, PluginStore.remove, publishedPath] at same
        simp only [Bool.false_eq_true, false_and, if_false] at was ⊢
        rw [same, lookup_eraseKey]
        split
        · rfl
        · next differs => rw [was, if_neg (fun both => differs both.2)]
      · intro unverified
        have gone : after.exists' (publishedPath evidence.artifact) = false := by
          have same := congrFun files (publishedPath evidence.artifact)
          rw [PluginStore.exists', same]
          simp [PluginStore.file, PluginStore.put, PluginStore.remove, publishedPath]
        dsimp only at unverified
        rw [gone] at unverified
        cases unverified
    · rw [if_neg out]
      -- Nothing is there, so nothing was, and the new plugin has not been put there.
      have free : store.bundles.lookup evidence.artifact.canonicalFileName = none :=
        Option.not_isSome_iff_eq_none.mp out
      have was := under.bundles _ checked.canonical
      simp only [free, Bool.false_eq_true, false_and, if_false, and_true] at was
      split at was
      · cases was
      next unplaced =>
      refine ⟨false, store, rfl, rfl, ?_, fun _ => ⟨trivial, was.symm⟩⟩
      intro name artifact
      have kept := under.bundles name artifact
      simp only [Bool.false_eq_true, false_and, if_false] at kept ⊢
      rw [kept, if_neg (fun both => unplaced both.1)]
      split
      · next same => rw [same, was]
      · rfl

theorem undoInstall_refusing (refusing : Refusing before state) :
    (undoInstall arguments).wp false (fun _ _ => True) (fun outcome after =>
      ∃ verified undone, outcome = .ok verified ∧ after = (undone, state.2) ∧
        verified = false ∧ undone = state.1) state := by
  unfold undoInstall
  rw [wp_get_andThen, wp_get_andThen]
  simp only [refusing.backupArtifact, refusing.published, Option.filter_none]
  exact ⟨false, state.1, rfl, rfl, rfl, rfl⟩

/-- The handler undoes what it can, and records whether that is verified. -/
theorem installFailed_calm {error : String} {Undone : Bool → PluginStore → Prop}
    (undo : (undoInstall arguments).wp false (fun _ _ => True) (fun outcome after =>
      ∃ verified undone, outcome = .ok verified ∧ after = (undone, state.2) ∧
        Undone verified undone) state) :
    (installFailed arguments error).wp false (fun _ _ => True) (fun outcome after =>
      outcome = .ok 1 ∧ ∃ verified undone journal, Undone verified undone ∧
        after = ({ undone with
            audit := undone.audit ++ [.installFailed arguments.transactionId error verified]
            journal },
          { state.2 with report := { state.2.report with
              error := some error, rollbackVerified := some verified } }) ∧
        (state.2.backupArtifact = none → state.2.published = none → journal = none)) state := by
  unfold installFailed
  rw [wp_andThen, wp_catching]
  refine wp_mono ?_ undo
  rintro outcome after ⟨verified, undone, rfl, rfl, holds⟩
  dsimp only
  rw [wp_set_andThen, wp_andThen, appendAudit, wp_atomic]
  refine ⟨by simp, trivial, ?_⟩
  dsimp only
  rw [wp_get_andThen, wp_andThen, wp_whenever]
  split
  · rw [unlinkJournal, wp_atomic]
    simp only [Bool.not_true, Bool.and_false, Bool.false_eq_true, if_false]
    exact ⟨by simp, trivial, rfl, verified, undone, none, holds, rfl, fun _ _ => rfl⟩
  · next unsettled =>
    refine ⟨rfl, verified, undone, undone.journal, holds, rfl, ?_⟩
    -- Without a backup and a published artifact the journal is always taken away.
    intro unnamed unpublished
    simp [unnamed, unpublished] at unsettled

/-- What the last part of an installation makes of its state. -/
def ended (arguments : PluginArguments) (state : PluginStore × InstallLocals) : PluginStore :=
  { state.1 with
    bundles := match state.2.stage with
      | some (.bundle name) => eraseKey name state.1.bundles
      | _ => state.1.bundles
    report := if arguments.report = true then some state.2.report else state.1.report
    lock := if state.2.lockAcquired = true then none else state.1.lock }

theorem installEnd_calm (staged : ∀ path, state.2.stage = some path → path.withinBundles = true) :
    (installEnd arguments).wp false (fun _ _ => True) (fun outcome after =>
      outcome = .ok () ∧ after.1 = ended arguments state) state := by
  obtain ⟨store, locals⟩ := state
  -- The report and the lock come after the staged file, if there is one.
  have rest : ∀ bundles, (do
      whenever arguments.report (durable (writeReport locals.report))
      whenever locals.lockAcquired (durable releaseLock) :
      PluginProcess InstallLocals Unit).wp false (fun _ _ => True) (fun outcome after =>
        outcome = .ok () ∧ after.1 = { store with
          bundles
          report := if arguments.report = true then some locals.report else store.report
          lock := if locals.lockAcquired = true then none else store.lock })
      ({ store with bundles }, locals) := by
    intro bundles
    simp only [wp_andThen, wp_whenever, writeReport, releaseLock, wp_atomic]
    by_cases report : arguments.report = true <;> by_cases locked : locals.lockAcquired = true <;>
      simp [report, locked]
  unfold installEnd
  rw [wp_get_andThen, wp_get_andThen, wp_andThen]
  unfold ended
  dsimp only
  cases named : locals.stage with
  | none => exact rest store.bundles
  | some path =>
    cases path with
    | backup place => cases staged _ named
    | outside text => cases staged _ named
    | bundle name =>
      rw [Option.filter_some]
      split
      · simp only [Option.elim_some, unlink, wp_atomic]
        exact ⟨by simp, trivial, rest _⟩
      · next absent =>
        have missing : name ∉ keys store.bundles := by
          rw [← lookup_isSome_iff]
          exact absent
        dsimp only
        rw [eraseKey_eq_self missing]
        exact rest store.bundles

end Steps

section Result

variable {checks : PluginChecks} {arguments : PluginArguments} {before : PluginStore}
  {evidence : PluginPreflight} {due : Option Nat}
variable {state : PluginStore × InstallLocals} {error : String} {journal : Option PluginJournal}

/-- What a refused installation leaves. -/
structure RefusedInstall (arguments : PluginArguments) (before : PluginStore) (due : Option Nat)
    (after : PluginStore) : Prop where
  bundles : after.bundles = before.bundles
  backups : after.backups = before.backups
  journal : after.journal = none
  lock : due = none → after.lock = before.lock
  audit : ∃ events error, after.audit =
    events ++ [.installFailed arguments.transactionId error false]
  report : arguments.report = true → ∃ report, after.report = some report ∧
    report.passed = false ∧ report.rollbackVerified = some false

/-- What an installation leaves that failed in one of its steps. -/
structure FailedInstall (arguments : PluginArguments) (before : PluginStore)
    (evidence : PluginPreflight) (step : Nat) (after : PluginStore) : Prop where
  bundles : UndoneBundles before evidence (decide (stepsBefore evidence .moveCurrent < step))
    after.bundles
  records : ∃ events error verified,
    after.audit = events ++ [.installFailed arguments.transactionId error verified] ∧
    (verified = false → ¬stepsBefore evidence .moveCurrent < step ∧
      before.bundles.lookup evidence.artifact.canonicalFileName = none) ∧
    (arguments.report = true → ∃ report, after.report = some report ∧
      report.passed = decide (stepsBefore evidence .appendCommitted ≤ step) ∧
      report.rollbackVerified = some verified)

/-- What a successful installation leaves. -/
structure DoneInstall (arguments : PluginArguments) (before : PluginStore)
    (evidence : PluginPreflight) (after : PluginStore) : Prop where
  bundles : ∀ name, isArtifact name = true → after.bundles.lookup name =
    if name = evidence.artifact.canonicalFileName then
      some ⟨arguments.artifact, arguments.copiedAt⟩
    else if evidence.current.any (·.fileName = name) = true then none
    else before.bundles.lookup name
  backups : match evidence.current with
    | none => after.backups = before.backups
    | some current => ∃ file, before.bundles.lookup current.fileName = some file ∧
        after.backups = assign (backupPlace arguments evidence current) file before.backups
  formed : after.WellFormed
  roots : ∀ root ∈ after.roots, root ∈ before.roots ∨ root.2 = arguments.transactionId
  journal : after.journal = none
  lock : after.lock = none
  audit : ∃ events symbolicName version sha256 backup, after.audit = events ++
    [.installCommitted arguments.transactionId symbolicName version sha256 backup]
  report : arguments.report = true → ∃ report, after.report = some report ∧
    report.passed = true ∧ report.rollbackVerified = none

/-- The three ways in which an installation ends. -/
inductive InstallResult (checks : PluginChecks) (arguments : PluginArguments)
    (before : PluginStore) (due : Option Nat) : Except String Nat → PluginStore → Prop
  | refused {after : PluginStore} (early : ∀ step, due = some step → step = 0)
      (result : RefusedInstall arguments before due after) :
      InstallResult checks arguments before due (.ok 1) after
  | failed {after : PluginStore} {evidence : PluginPreflight} {step : Nat}
      (due' : due = some step) (begun : 0 < step)
      (admissible : Admissible checks arguments before evidence)
      (result : FailedInstall arguments before evidence step after) :
      InstallResult checks arguments before due (.ok 1) after
  | done {after : PluginStore} {evidence : PluginPreflight} (calm : due = none)
      (admissible : Admissible checks arguments before evidence)
      (result : DoneInstall arguments before evidence after) :
      InstallResult checks arguments before due (.ok 0) after

/-- The end of an installation sweeps nothing but the staged file. -/
theorem UnderWay.swept (fresh : FreshTransaction arguments.transactionId before)
    {moved placed recorded : Bool}
    (under : UnderWay arguments before evidence moved placed recorded state) :
    (ended arguments state).bundles = eraseKey (stageName arguments evidence) state.1.bundles ∧
      ∀ name, isArtifact name = true →
        (ended arguments state).bundles.lookup name = state.1.bundles.lookup name := by
  have swept : (ended arguments state).bundles =
      eraseKey (stageName arguments evidence) state.1.bundles := by
    unfold ended
    rw [under.stage]
    rfl
  refine ⟨swept, fun name artifact => ?_⟩
  rw [swept, lookup_eraseKey_ne (fresh.unstaged artifact)]

theorem Published.done (fresh : FreshTransaction arguments.transactionId before)
    (published : Published arguments before evidence state) :
    DoneInstall arguments before evidence (ended arguments state) := by
  have under := published.underWay
  obtain ⟨swept, same⟩ := under.swept fresh
  obtain ⟨events, backup, audit⟩ := published.audit
  refine ⟨?_, ?_, ⟨?_, under.formed.housed⟩, under.roots, published.journal, ?_,
    ⟨events, _, _, _, backup, audit⟩, ?_⟩
  · intro name artifact
    rw [same name artifact, under.bundles name artifact]
    cases evidence.current <;> simp
  · cases known : evidence.current with
    | none => exact (under.still (by rw [known]; rfl)).1
    | some current =>
      obtain ⟨other, file, found, old, -, backups⟩ := under.aside (by rw [known]; rfl)
      rw [known, Option.some.injEq] at found
      subst found
      exact ⟨file, old, backups⟩
  · rw [swept]
    exact nodup_keys_eraseKey under.formed.bundles _
  · unfold ended
    rw [if_pos under.locked]
  · intro written
    unfold ended
    rw [if_pos written]
    exact ⟨_, rfl, under.passed, under.unverified⟩

theorem Refusing.refused (refusing : Refusing before state) (gone : journal = none)
    (kept : due = none → LockKept before state ∧ Refused checks arguments before) :
    RefusedInstall arguments before due (ended arguments
      ({ state.1 with
          audit := state.1.audit ++ [.installFailed arguments.transactionId error false], journal },
        { state.2 with report := { state.2.report with
            error := some error, rollbackVerified := some false } })) := by
  unfold ended
  rw [refusing.stage]
  refine ⟨refusing.bundles, refusing.backups, gone, ?_, ⟨_, _, rfl⟩, ?_⟩
  · -- A lock of its own is released, and there was none before.
    intro calm
    rcases (kept calm).1 with ⟨unlocked, same⟩ | ⟨locked, absent⟩
    · simpa [unlocked] using same
    · simp [locked, absent]
  · intro written
    rw [if_pos written, refusing.report]
    exact ⟨_, rfl, rfl, rfl⟩

theorem Refusing.struck {count : Nat} (post : Except String Nat → PluginStore → Prop)
    (refusing : Refusing before state) (past : Past due count)
    (kept : due = none → LockKept before state ∧ Refused checks arguments before)
    (holds : ∀ after, RefusedInstall arguments before due after → post (.ok 1) after) :
    (installFailed arguments error).struck due (fun outcome count after =>
      (installEnd arguments).struck due (fun ended _ final =>
        match ended with
        | .ok _ => post outcome final.1
        | .error message => post (.error message) final.1) count after) count state := by
  refine struck_past past (wp_mono ?_ (installFailed_calm (undoInstall_refusing refusing)))
  rintro outcome after ⟨rfl, verified, undone, journal, ⟨rfl, rfl⟩, rfl, settled⟩ count past'
  refine struck_past past' (wp_mono ?_ (installEnd_calm ?_))
  · rintro last final ⟨rfl, same⟩ count -
    dsimp only
    rw [same]
    exact holds _ (refusing.refused (settled refusing.backupArtifact refusing.published) kept)
  · intro path named
    rw [refusing.stage] at named
    cases named

theorem UnderWay.failed (fresh : FreshTransaction arguments.transactionId before) {step : Nat}
    {placed verified : Bool} {undone : PluginStore} (under : UnderWay arguments before evidence
      (decide (stepsBefore evidence .moveCurrent < step)) placed
      (decide (stepsBefore evidence .appendCommitted ≤ step)) state)
    (undone' : UndoneBundles before evidence (decide (stepsBefore evidence .moveCurrent < step))
        undone.bundles ∧
      (verified = false → decide (stepsBefore evidence .moveCurrent < step) = false ∧
        before.bundles.lookup evidence.artifact.canonicalFileName = none)) :
    FailedInstall arguments before evidence step (ended arguments
      ({ undone with
          audit := undone.audit ++ [.installFailed arguments.transactionId error verified]
          journal },
        { state.2 with report := { state.2.report with
            error := some error, rollbackVerified := some verified } })) := by
  unfold ended
  rw [under.stage]
  refine ⟨?_, _, _, verified, rfl, ?_, ?_⟩
  · intro name artifact
    exact (lookup_eraseKey_ne (fresh.unstaged artifact) undone.bundles).trans
      (undone'.1 name artifact)
  · intro unverified
    obtain ⟨unmoved, free⟩ := undone'.2 unverified
    exact ⟨of_decide_eq_false unmoved, free⟩
  · intro written
    rw [if_pos written]
    exact ⟨_, rfl, under.passed, rfl⟩

/-- Every installation with at most one failing step ends in one of the three ways. -/
theorem installPlugin_struck (names : checks.WellNamed)
    (fresh : FreshTransaction arguments.transactionId before)
    (within : Past due ((installBody checks arguments).acts (before, {}))) :
    (installPlugin checks arguments).struck due
      (fun outcome _ after => InstallResult checks arguments before due outcome after.1) 0
      (before, {}) := by
  unfold installPlugin
  rw [struck_ensuring, struck_catching]
  have ahead : Ahead due 0 := fun step _ => Nat.zero_le step
  refine struck_within (by simpa using within)
    (struck_mono ?_ (installBody_struck names fresh ahead))
  -- The step that was due lies behind, so that the handler and the last part run undisturbed.
  intro outcome count after holds past
  cases outcome with
  | ok value =>
    obtain ⟨rfl, ahead, evidence, admissible, -, published⟩ := holds
    have calm : due = none := ahead.none past
    have under := published.underWay
    refine struck_past past (wp_mono ?_ (installEnd_calm ?_))
    · rintro last state ⟨rfl, same⟩ count -
      dsimp only
      rw [same]
      exact .done calm admissible (published.done fresh)
    · intro path named
      rw [under.stage] at named
      cases named
      rfl
  | error message =>
    rcases holds with ⟨early, refusing, kept⟩ | ⟨evidence, admissible, failed⟩
    · refine refusing.struck _ past kept fun after result => .refused (fun step here => ?_) result
      have bound := past step here
      omega
    · obtain ⟨step, placed, due', begun, -, under⟩ := failed
      refine struck_past past (wp_mono ?_ (installFailed_calm
        (undoInstall_underWay (Checked.make names admissible.passed) under)))
      rintro outcome state ⟨rfl, verified, undone, journal, undone', rfl, settled⟩ count past'
      refine struck_past past' (wp_mono ?_ (installEnd_calm ?_))
      · rintro last state ⟨rfl, same⟩ count -
        dsimp only
        rw [same]
        exact .failed due' begun admissible (under.failed fresh undone')
      · intro path named
        rw [under.stage] at named
        cases named
        rfl

end Result

section Results

variable {checks : PluginChecks} {arguments : PluginArguments} {before : PluginStore}
  {evidence : PluginPreflight}

theorem installPlugin_result {due : Option Nat} (names : checks.WellNamed)
    (fresh : FreshTransaction arguments.transactionId before)
    (within : Past due ((installBody checks arguments).acts (before, {}))) (fault : Fault) :
    InstallResult checks arguments before due
      ((installPlugin checks arguments).start (before, {}) (faultAt due fault)).1
      ((installPlugin checks arguments).start (before, {}) (faultAt due fault)).2.state.1 := by
  obtain ⟨-, result⟩ := start_of_struck fault (installPlugin_struck names fresh within)
  exact result

theorem installPlugin_refused (refused : Refused checks arguments before) :
    ((installPlugin checks arguments).start (before, {}) []).1 = .ok 1 ∧
      RefusedInstall arguments before none
        ((installPlugin checks arguments).start (before, {}) []).2.state.1 := by
  have ahead : Ahead none 0 := fun step _ => Nat.zero_le step
  have calm : (installPlugin checks arguments).struck none (fun outcome _ after =>
      outcome = .ok 1 ∧ RefusedInstall arguments before none after.1) 0 (before, {}) := by
    unfold installPlugin
    rw [struck_ensuring, struck_catching, installBody, struck_andThen]
    refine struck_mono ?_ (admitArtifact_struck ahead)
    intro outcome count after holds
    have past : Past none count := fun step here => by cases here
    cases outcome with
    | ok evidence => exact absurd refused holds.2.2.1.not_refused
    | error message =>
      exact Refusing.struck (fun outcome after => outcome = .ok 1 ∧
        RefusedInstall arguments before none after) holds.2.1 past holds.2.2
        fun after result => ⟨rfl, result⟩
  obtain ⟨-, result⟩ := start_of_struck ⟨"", 0⟩ calm
  exact result

/-- A refused installation leaves the transaction of somebody else alone exactly when there is no
journal: the handler takes a journal for its own whenever it has backed up and published nothing. -/
theorem refused_install_keeps_transaction_iff (checks : PluginChecks) (arguments : PluginArguments)
    (before : PluginStore) (refused : Refused checks arguments before) :
    LeavesTransaction before ((installPlugin checks arguments).start (before, {}) []).1
        ((installPlugin checks arguments).start (before, {}) []).2.state.1 ↔
      before.journal = none := by
  obtain ⟨returned, result⟩ := installPlugin_refused refused
  constructor
  · intro kept
    rw [← kept.journal, result.journal]
  · intro absent
    exact ⟨returned, result.bundles, result.backups, result.journal.trans absent.symm,
      result.lock rfl⟩

/-- An installation into an empty directory without the confirmation that it needs. -/
theorem unconfirmed_install_keeps_transaction :
    Refused samplePluginChecks { samplePluginArguments with confirmRuntimeStopped := false } {} ∧
      LeavesTransaction {}
        ((installPlugin samplePluginChecks
          { samplePluginArguments with confirmRuntimeStopped := false }).start ({}, {}) []).1
        ((installPlugin samplePluginChecks
          { samplePluginArguments with confirmRuntimeStopped := false }).start
            ({}, {}) []).2.state.1 :=
  ⟨.inl rfl, (refused_install_keeps_transaction_iff _ _ _ (.inl rfl)).mpr rfl⟩

theorem UndoneBundles.same_iff {step : Nat} {bundles : List (String × PluginFile)}
    (canonical : isArtifact evidence.artifact.canonicalFileName = true)
    (undone : UndoneBundles before evidence (decide (stepsBefore evidence .moveCurrent < step))
      bundles) : SameContents before.bundles bundles ↔ Restorable evidence before step := by
  constructor
  · intro same
    have content := same _ canonical
    rw [undone _ canonical] at content
    split at content
    · next both => exact .inr ⟨both.2, of_decide_eq_true both.1⟩
    · rw [if_pos rfl, Option.map_none, Option.map_eq_none_iff] at content
      exact .inl content
  · intro restorable name artifact
    rw [undone name artifact]
    split
    · rfl
    next kept =>
    split
    · next same =>
      rcases restorable with free | ⟨ours, moved⟩
      · rw [same, free]
      · rw [same] at kept
        exact absurd ⟨decide_eq_true moved, ours⟩ kept
    · rfl

/-- A second installation is refused because of an interrupted one, and deletes its journal. -/
theorem refused_install_deletes_journal :
    ¬∀ (checks : PluginChecks) (arguments : PluginArguments) (before : PluginStore),
      Refused checks arguments before →
      LeavesTransaction before ((installPlugin checks arguments).start (before, {}) []).1
        ((installPlugin checks arguments).start (before, {}) []).2.state.1 := by
  intro always
  have refused : Refused samplePluginChecks samplePluginArguments committedPlugin.1 :=
    .inr (.inl rfl)
  have kept := (always _ _ _ refused).journal
  rw [(installPlugin_refused refused).2.journal] at kept
  cases kept

/-- An installation that fails behind its preflight gives the plugins back as they were exactly when
the canonical name was free, or belonged to the installed plugin that had already been moved. -/
theorem failed_install_restores_iff (checks : PluginChecks) (arguments : PluginArguments)
    (before : PluginStore) (evidence : PluginPreflight) (step : InstallStep) (fault : Fault)
    (names : checks.WellNamed) (fresh : FreshTransaction arguments.transactionId before)
    (admissible : Admissible checks arguments before evidence)
    (listed : step ∈ installSteps evidence) (begun : step ≠ .acquireLock) :
    (((installPlugin checks arguments).start (before, {})
        (faultAt (some (stepsBefore evidence step)) fault)).1 = .ok 1 ∧
      SameContents before.bundles ((installPlugin checks arguments).start (before, {})
        (faultAt (some (stepsBefore evidence step)) fault)).2.state.1.bundles) ↔
      Restorable evidence before (stepsBefore evidence step) := by
  have within : Past (some (stepsBefore evidence step))
      ((installBody checks arguments).acts (before, {})) := by
    rw [installBody_acts names fresh admissible]
    intro position same
    cases same
    exact List.idxOf_lt_length_of_mem listed
  have canonical := (Checked.make names admissible.passed).canonical
  have result := installPlugin_result names fresh within fault
  generalize ((installPlugin checks arguments).start (before, {})
    (faultAt (some (stepsBefore evidence step)) fault)).1 = outcome,
    ((installPlugin checks arguments).start (before, {})
    (faultAt (some (stepsBefore evidence step)) fault)).2.state.1 = after at result ⊢
  cases result with
  | refused early result =>
    -- Only the lock is the first step.
    have first := early _ rfl
    refine absurd ?_ begun
    have found : (installSteps evidence)[stepsBefore evidence step]? = some step :=
      List.getElem?_idxOf listed
    rw [first] at found
    exact (Option.some.inj found).symm
  | failed due' begun' admissible' result =>
    have same := admissible'.passed
    rw [admissible.passed, Except.ok.injEq] at same
    cases due'
    subst same
    rw [← result.bundles.same_iff canonical]
    exact and_iff_right rfl
  | done calm => cases calm

theorem samplePluginChecks_wellNamed : samplePluginChecks.WellNamed := by
  constructor
  · rintro name content requirePlugin info ⟨rfl⟩
    decide
  · rintro name content info ⟨rfl⟩
    decide

/-- A first installation. -/
def sampleEvidence : PluginPreflight := ⟨true, samplePlugin, none⟩

theorem sample_fresh : FreshTransaction samplePluginArguments.transactionId {} :=
  ⟨⟨by decide, by decide⟩, by decide, by simp⟩

theorem sample_admissible : Admissible samplePluginChecks samplePluginArguments {} sampleEvidence :=
  ⟨rfl, rfl, rfl, by decide +kernel, rfl⟩

/-- Publishing a first plugin fails, and the bundle directory is empty again. -/
theorem failed_first_install_restores :
    ((installPlugin samplePluginChecks samplePluginArguments).start ({}, {})
        (faultAt (some (stepsBefore sampleEvidence .publish)) ⟨"No space left", 0⟩)).1 = .ok 1 ∧
      SameContents ({} : PluginStore).bundles
        ((installPlugin samplePluginChecks samplePluginArguments).start ({}, {})
          (faultAt (some (stepsBefore sampleEvidence .publish))
            ⟨"No space left", 0⟩)).2.state.1.bundles :=
  (failed_install_restores_iff _ _ _ _ .publish _ samplePluginChecks_wellNamed sample_fresh
    sample_admissible (by decide) (by decide)).mpr (.inl rfl)

/-- The same plugin, installed before under its canonical name. -/
def reinstalledStore : PluginStore where
  bundles := [("pdr.plugin.sample_1.0.0.bndl", ⟨[80, 75], 3⟩)]

def reinstallEvidence : PluginPreflight :=
  ⟨true, samplePlugin, some { samplePlugin with fileName := "pdr.plugin.sample_1.0.0.bndl" }⟩

/-- Installing the same version again fails while it is copied, and the installed plugin is gone. -/
theorem failed_reinstall_loses_plugin :
    ¬∀ (checks : PluginChecks) (arguments : PluginArguments) (before : PluginStore)
      (evidence : PluginPreflight) (step : InstallStep) (fault : Fault),
      checks.WellNamed → FreshTransaction arguments.transactionId before →
      Admissible checks arguments before evidence →
      step ∈ installSteps evidence → step ≠ .acquireLock →
      ((installPlugin checks arguments).start (before, {})
          (faultAt (some (stepsBefore evidence step)) fault)).1 = .ok 1 ∧
        SameContents before.bundles ((installPlugin checks arguments).start (before, {})
          (faultAt (some (stepsBefore evidence step)) fault)).2.state.1.bundles := by
  intro always
  have fresh : FreshTransaction samplePluginArguments.transactionId reinstalledStore :=
    ⟨⟨by decide, by decide⟩, by decide, by simp [reinstalledStore]⟩
  have admissible : Admissible samplePluginChecks samplePluginArguments reinstalledStore
      reinstallEvidence := ⟨rfl, rfl, rfl, by decide +kernel, rfl⟩
  have same := (always _ _ _ _ .copyArtifact ⟨"No space left", 0⟩ samplePluginChecks_wellNamed fresh
    admissible (by decide) (by decide)).2 "pdr.plugin.sample_1.0.0.bndl" (by decide)
  have gone : (((installPlugin samplePluginChecks samplePluginArguments).start
      (reinstalledStore, {}) (faultAt (some (stepsBefore reinstallEvidence .copyArtifact))
        ⟨"No space left", 0⟩)).2.state.1.bundles.lookup "pdr.plugin.sample_1.0.0.bndl").map
          (·.content) ≠ (reinstalledStore.bundles.lookup "pdr.plugin.sample_1.0.0.bndl").map
            (·.content) := by
    decide +kernel
  exact gone same.symm

end Results

end PocoDDS.Tools
