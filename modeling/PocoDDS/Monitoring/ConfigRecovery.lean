import PocoDDS.Monitoring.ConfigChange
import PocoDDS.Monitoring.RequestExclusion

/-! When a failed configuration request leaves everything as it was. -/

namespace PocoDDS.Monitoring

open AssocList JsonModel

/-- What a bundle found under an item when it was last started. -/
def startedWith (plant : ConfigPlant) (bundle item : String) : Option String :=
  (plant.bundles.lookup bundle).bind (·.startedWith.lookup item)

/-- All is as it was before the request, and the ledger does not call the request completed. -/
structure Restored (requestId : String) (before after : ConfigPlant) : Prop where
  file : after.file = before.file
  preferences : ∀ item, after.preferences.lookup item = before.preferences.lookup item
  metadata : after.metadata = before.metadata
  owner : ∀ bundle item, startedWith after bundle item = startedWith before bundle item
  ledger : requestId ≠ "" → ∀ entry, after.ledger.entries.lookup requestId = some entry →
    entry.completed = false

/-- How far the owner of a changed key has come. -/
inductive OwnerProgress
  | untouched
  | stopped
  | restarted

/-- How far the rollback metadata has come. -/
inductive MetadataProgress
  | kept
  | replaced
  | forgotten

/-- How far a request has come when a step raises. -/
structure Progress where
  file : Bool
  preference : Bool
  owner : OwnerProgress
  metadata : MetadataProgress
  completed : Bool

/-- The owner after the steps that restart it, which are skipped when it does not run. -/
def ownerPassed (runs : Bool) : OwnerProgress :=
  if runs then .restarted else .untouched

/-- What has been done when a step raises. -/
def ConfigStep.progress (runs : Bool) : ConfigStep → Progress
  | .validate | .stageFile | .verifyStaged | .stageMetadata | .removeBackup | .copyBackup
  | .replaceFile => ⟨false, false, .untouched, .kept, false⟩
  | .setPreference => ⟨true, false, .untouched, .kept, false⟩
  | .setLevel | .manageOwner | .stopOwner => ⟨true, true, .untouched, .kept, false⟩
  | .ownerStopped | .startOwner => ⟨true, true, .stopped, .kept, false⟩
  | .ownerStarted | .removePrevious | .copyPrevious | .replaceMetadata =>
    ⟨true, true, ownerPassed runs, .kept, false⟩
  | .appendAudit | .forgetPrevious => ⟨true, true, ownerPassed runs, .replaced, false⟩
  | .sendResponse => ⟨true, true, ownerPassed runs, .forgotten, true⟩

/-- What the owner must have been started with for the compensation to be complete. -/
def OwnerRestorable (plant : ConfigPlant) (change : ConfigChange) : OwnerProgress → Prop
  | .untouched => True
  | .stopped => ∀ item, startedWith plant (configurationOwner change.key) item =
      (assign change.key change.oldValue plant.preferences).lookup item
  | .restarted => ∀ item, startedWith plant (configurationOwner change.key) item =
      (assign change.key change.value plant.preferences).lookup item

/-- When the compensation undoes a request that has come so far. -/
structure Restorable (plant : ConfigPlant) (requestId : String) (change : ConfigChange)
    (progress : Progress) : Prop where
  preference : progress.preference = true →
    plant.preferences.lookup change.key = some change.oldValue
  owner : OwnerRestorable plant change progress.owner
  metadata : progress.metadata = .forgotten → plant.metadata = none
  ledger : progress.completed = true → requestId = ""

/-- Whether the staged texts pass their own checks. -/
def stagesCleanly (service : ConfigService) (request : ConfigRequest) (change : ConfigChange) :
    Bool :=
  stagedAgrees service change && metadataReadsBack service request change

/-- Whether the owner of the changed key runs although it may not be restarted online. -/
def ownerRefuses (service : ConfigService) (plant : ConfigPlant) (change : ConfigChange) : Bool :=
  ownerActive plant change.key && !manageableBundle service (configurationOwner change.key)

/-- Whether a request gets as far as a step, when nothing before it is made to fail. -/
def ConfigStep.reached (service : ConfigService) (request : ConfigRequest) (plant : ConfigPlant)
    (change : ConfigChange) : ConfigStep → Bool
  | .validate | .stageFile | .verifyStaged => true
  | .stageMetadata => stagedAgrees service change
  | .removeBackup | .copyBackup | .replaceFile | .setPreference =>
    stagesCleanly service request change
  | .setLevel => stagesCleanly service request change && change.key == rootLevelKey
  | .manageOwner => stagesCleanly service request change && ownerActive plant change.key
  | .stopOwner | .ownerStopped | .startOwner | .ownerStarted =>
    stagesCleanly service request change && ownerActive plant change.key &&
      manageableBundle service (configurationOwner change.key)
  | .removePrevious | .copyPrevious | .replaceMetadata | .appendAudit | .forgetPrevious
  | .sendResponse => stagesCleanly service request change && !ownerRefuses service plant change

/-- The step at which a request stops by itself. -/
def ownFailure (service : ConfigService) (request : ConfigRequest) (plant : ConfigPlant)
    (change : ConfigChange) : Option ConfigStep :=
  if !stagedAgrees service change then some .verifyStaged
  else if !metadataReadsBack service request change then some .stageMetadata
  else if ownerRefuses service plant change then some .manageOwner
  else none

/-- The step that raises: the one that is made to fail if the request gets there. -/
def failingStep (service : ConfigService) (request : ConfigRequest) (plant : ConfigPlant)
    (change : ConfigChange) (fault : ConfigFault) : Option ConfigStep :=
  match fault with
  | some (step, _) =>
    if step.reached service request plant change then some step
    else ownFailure service request plant change
  | none => ownFailure service request plant change

/-- The change a request asks for, once it is admitted and has passed its checks. -/
def acceptedChange (service : ConfigService) (request : ConfigRequest) (plant : ConfigPlant) :
    Option ConfigChange :=
  let (guard, _, ledger) := beginManagementRequest service.requireRequestId plant.ledger
    request.requestId request.fingerprintDigest request.admittedMicroseconds request.ledgerFiles
  if guard.proceed then
    match prepare service request { plant with ledger } with
    | .error _ => none
    | .ok change => some change
  else none

section Runs

variable {plant : ConfigPlant} {guard : ManagementRequestGuard} {request : ConfigRequest}
  {change : ConfigChange}

/-- The properties file and its backup, before and after the replacement. -/
def FileAt (plant : ConfigPlant) (run : ConfigRun) : Bool → Prop
  | true => run.fileCommitted = true ∧ run.plant.backup = plant.file ∧ plant.file.isSome = true
  | false => run.fileCommitted = false ∧ run.plant.file = plant.file

/-- The preferences, before and after the new value. -/
def PreferenceAt (plant : ConfigPlant) (change : ConfigChange) (run : ConfigRun) : Bool → Prop
  | true => run.runtimeApplied = true ∧
      run.plant.preferences = assign change.key change.value plant.preferences
  | false => run.runtimeApplied = false ∧ run.plant.preferences = plant.preferences

def OwnerGiven (plant : ConfigPlant) (change : ConfigChange) (run : ConfigRun)
    (given : BundleStatus → BundleStatus) : Prop :=
  run.ownerWasActive = true ∧ run.owner = configurationOwner change.key ∧
    ∃ status, plant.bundles.lookup (configurationOwner change.key) = some status ∧
      ∀ bundle, run.plant.bundles.lookup bundle =
        if bundle = configurationOwner change.key then some (given status)
        else plant.bundles.lookup bundle

/-- The bundles along the restart of the owner. -/
def OwnerAt (plant : ConfigPlant) (change : ConfigChange) (run : ConfigRun) :
    OwnerProgress → Prop
  | .untouched => run.plant.bundles = plant.bundles ∧ (run.ownerWasActive = true →
      (plant.bundles.lookup run.owner).map (·.state) = some .active)
  | .stopped => OwnerGiven plant change run fun status => { status with state := .resolved }
  | .restarted => OwnerGiven plant change run fun _ =>
      ⟨.active, assign change.key change.value plant.preferences⟩

/-- The rollback metadata along its replacement. -/
def MetadataAt (plant : ConfigPlant) (run : ConfigRun) : MetadataProgress → Prop
  | .kept => run.metadataCommitted = false ∧ run.plant.metadata = plant.metadata
  | .replaced => run.metadataCommitted = true ∧ run.plant.previousMetadata = plant.metadata
  | .forgotten => run.metadataCommitted = true ∧ run.plant.previousMetadata = none

def LedgerAt (plant : ConfigPlant) (guard : ManagementRequestGuard) (request : ConfigRequest)
    (change : ConfigChange) (run : ConfigRun) : Bool → Prop
  | true => (run.guard, run.plant.ledger) = guard.complete plant.ledger "configuration" change.key
      change.action request.completedMicroseconds request.ledgerFiles
  | false => run.guard = guard ∧ run.plant.ledger = plant.ledger

/-- The variables and the plant of a request that has come so far. -/
structure Reached (plant : ConfigPlant) (guard : ManagementRequestGuard) (request : ConfigRequest)
    (change : ConfigChange) (progress : Progress) (run : ConfigRun) : Prop where
  action : run.action = change.action
  key : run.key = change.key
  oldValue : run.oldValue = change.oldValue
  file : FileAt plant run progress.file
  preference : PreferenceAt plant change run progress.preference
  owner : OwnerAt plant change run progress.owner
  metadata : MetadataAt plant run progress.metadata
  ledger : LedgerAt plant guard request change run progress.completed

/-- A request that goes ahead is either not tracked, or has an unfinished entry of its own. -/
def Admitted (guard : ManagementRequestGuard) (ledger : Ledger) (requestId : String) : Prop :=
  (requestId = "" ∧ guard.tracked = false) ∨
    (requestId ≠ "" ∧ guard.tracked = true ∧ guard.requestId = requestId ∧
      ∃ entry, ledger.entries.lookup requestId = some entry ∧ entry.completed = false)

theorem begin_admitted {requireRequestId : Bool} {ledger : Ledger} {requestId digest : String}
    {now : Int} {files : Except String Unit}
    (proceeds : (beginManagementRequest requireRequestId ledger requestId digest now
      files).1.proceed = true) :
    Admitted (beginManagementRequest requireRequestId ledger requestId digest now files).1
      (beginManagementRequest requireRequestId ledger requestId digest now files).2.2
      requestId := by
  by_cases empty : requestId.isEmpty
  · left
    refine ⟨by simpa using empty, ?_⟩
    cases requireRequestId <;> simp [beginManagementRequest, admitRequest, empty, refusal]
  · right
    have named : requestId ≠ "" := by simpa using empty
    -- Every answer but the first is a refusal, and a refusal does not go ahead.
    have refused : ∀ guard response answered, admitRequest requireRequestId ledger requestId
        digest now = .answered guard response answered → guard.proceed = false := by
      intro guard response answered same
      simp only [admitRequest, if_neg empty] at same
      split_ifs at same
      · cases same; rfl
      · cases same; rfl
      · split at same <;> cases same
        rfl
    rcases admitRequest_cases requireRequestId ledger requestId digest now with
      ⟨guard, response, answered, same, -⟩ | ⟨pending, same, fresh, -, -, entries⟩
    · simp only [beginManagementRequest, same] at proceeds
      rw [refused guard response answered same] at proceeds
      cases proceeds
    · simp only [beginManagementRequest, same] at proceeds ⊢
      cases persisted : persistManagementRequestsLocked pending.configuration files with
      | error message =>
        rw [persisted] at proceeds
        cases proceeds
      | ok configuration =>
        refine ⟨named, rfl, rfl, newEntry digest now, ?_, rfl⟩
        show pending.entries.lookup requestId = _
        rw [entries, lookup_append, lookup_eq_none_iff.mpr fresh]
        simp

theorem Admitted.destroyed {guard : ManagementRequestGuard} {ledger : Ledger} {requestId : String}
    (admitted : Admitted guard ledger requestId) (files : Except String Unit)
    (named : requestId ≠ "") :
    (guard.destroy ledger files).entries.lookup requestId = none := by
  rcases admitted with ⟨empty, -⟩ | ⟨-, tracked, rfl, entry, found, unfinished⟩
  · exact absurd empty named
  · have erased : withdrawn? ledger guard = some { ledger with
        entries := eraseKey guard.requestId ledger.entries } := by
      simp [withdrawn?, tracked, found, unfinished]
    simp [ManagementRequestGuard.destroy, erased]

theorem Admitted.completed {guard : ManagementRequestGuard} {ledger : Ledger} {requestId : String}
    (admitted : Admitted guard ledger requestId) (operation target action : String) (now : Int)
    (files : Except String Unit) (named : requestId ≠ "") :
    ∃ entry, ((guard.complete ledger operation target action now files).1.destroy
      (guard.complete ledger operation target action now files).2 files).entries.lookup requestId =
        some entry ∧ entry.completed = true := by
  rcases admitted with ⟨empty, -⟩ | ⟨-, tracked, rfl, entry, found, -⟩
  · exact absurd empty named
  · have marked : completed? ledger guard operation target action now = some { ledger with
        entries := adjust guard.requestId (completeEntry operation target action now)
          ledger.entries } := by
      simp [completed?, tracked, found]
    refine ⟨completeEntry operation target action now entry, ?_, rfl⟩
    -- A completed guard is not tracked any more, so its end leaves the ledger alone.
    simp only [ManagementRequestGuard.complete, marked, ManagementRequestGuard.destroy, withdrawn?,
      Bool.not_false, if_true, persistNoThrow_entries]
    rw [lookup_adjust, if_pos rfl, found]
    rfl

theorem restoreMetadata_eq (run : ConfigRun) : restoreMetadata run = { run with
    plant := { run.plant with
      metadata := if run.metadataCommitted then run.plant.previousMetadata
        else run.plant.metadata } } := by
  unfold restoreMetadata
  split <;> rfl

theorem restoreFile_eq (run : ConfigRun) : restoreFile run = { run with
    plant := { run.plant with
      file := if run.restoresFile then run.plant.backup else run.plant.file } } := by
  unfold restoreFile
  split <;> rfl

theorem restorePreference_eq (run : ConfigRun) : ∃ rootLevel, restorePreference run = { run with
    plant := { run.plant with
      rootLevel
      preferences := if run.runtimeApplied then assign run.key run.oldValue run.plant.preferences
        else run.plant.preferences } } := by
  unfold restorePreference
  split
  · exact ⟨_, rfl⟩
  · exact ⟨run.plant.rootLevel, rfl⟩

theorem restoreOwner_eq (run : ConfigRun) : restoreOwner run = { run with
    plant := { run.plant with
      bundles := if run.ownerDown then
          adjust run.owner (fun _ => ⟨.active, run.plant.preferences⟩) run.plant.bundles
        else run.plant.bundles } } := by
  unfold restoreOwner
  split <;> rfl

/-- The preferences after the compensation. -/
def restoredPreferences (run : ConfigRun) : Properties :=
  if run.runtimeApplied then assign run.key run.oldValue run.plant.preferences
  else run.plant.preferences

/-- What the `catch` block leaves of everything a restoration is about. -/
structure Undone (request : ConfigRequest) (run : ConfigRun) (plant : ConfigPlant) : Prop where
  file : plant.file = if run.restoresFile then run.plant.backup else run.plant.file
  preferences : plant.preferences = restoredPreferences run
  metadata : plant.metadata =
    if run.metadataCommitted then run.plant.previousMetadata else run.plant.metadata
  bundles : plant.bundles = if run.ownerDown then
      adjust run.owner (fun _ => ⟨.active, restoredPreferences run⟩) run.plant.bundles
    else run.plant.bundles
  ledger : plant.ledger = run.guard.destroy run.plant.ledger request.ledgerFiles

theorem answerFailure_undone (request : ConfigRequest) (message : String) (run : ConfigRun) :
    Undone request run (answerFailure request message run).2 := by
  -- One after the other, the four steps work on different parts of the plant.
  have compensated : ∃ rootLevel staged, compensate run = { run with plant := { run.plant with
      file := if run.restoresFile then run.plant.backup else run.plant.file
      preferences := restoredPreferences run
      metadata := if run.metadataCommitted then run.plant.previousMetadata else run.plant.metadata
      bundles := if run.ownerDown then
          adjust run.owner (fun _ => ⟨.active, restoredPreferences run⟩) run.plant.bundles
        else run.plant.bundles
      rootLevel
      staged
      stagedMetadata := none } } := by
    obtain ⟨rootLevel, shape⟩ := restorePreference_eq (restoreFile (restoreMetadata run))
    refine ⟨rootLevel, if run.stagedNamed then none else run.plant.staged, ?_⟩
    unfold compensate
    rw [shape, restoreOwner_eq, restoreFile_eq, restoreMetadata_eq]
    rfl
  obtain ⟨rootLevel, staged, shape⟩ := compensated
  unfold answerFailure
  rw [shape]
  exact ⟨rfl, rfl, rfl, rfl, rfl⟩

section Restoration

variable {progress : Progress} {run : ConfigRun} {after : ConfigPlant}

variable (reached : Reached plant guard request change progress run)
include reached

theorem Reached.file_restored (undone : Undone request run after) : after.file = plant.file := by
  have file := reached.file
  rw [undone.file]
  cases committed : progress.file with
  | false =>
    rw [committed] at file
    simp [ConfigRun.restoresFile, file.1, file.2]
  | true =>
    rw [committed] at file
    obtain ⟨commits, backup, present⟩ := file
    simp [ConfigRun.restoresFile, commits, backup, present]

theorem Reached.preferences_restored (undone : Undone request run after) :
    (∀ item, after.preferences.lookup item = plant.preferences.lookup item) ↔
      (progress.preference = true →
        plant.preferences.lookup change.key = some change.oldValue) := by
  have preference := reached.preference
  rw [undone.preferences]
  unfold restoredPreferences
  cases applied : progress.preference with
  | false =>
    rw [applied] at preference
    simp [preference.1, preference.2]
  | true =>
    rw [applied] at preference
    rw [preference.1, if_pos rfl, preference.2, reached.key, reached.oldValue]
    constructor
    · intro same _
      have value := same change.key
      rw [lookup_assign_self] at value
      exact value.symm
    · intro agrees item
      by_cases target : item = change.key
      · rw [target, lookup_assign_self, agrees rfl]
      · rw [lookup_assign_ne target, lookup_assign_ne target]

theorem Reached.metadata_restored (undone : Undone request run after) :
    after.metadata = plant.metadata ↔ (progress.metadata = .forgotten → plant.metadata = none) := by
  have metadata := reached.metadata
  rw [undone.metadata]
  cases stage : progress.metadata with
  | kept =>
    rw [stage] at metadata
    simp [metadata.1, metadata.2]
  | replaced =>
    rw [stage] at metadata
    simp [metadata.1, metadata.2]
  | forgotten =>
    -- The copy is gone, so the new metadata is removed and nothing takes its place.
    rw [stage] at metadata
    simp [metadata.1, metadata.2, eq_comm]

theorem Reached.ledger_restored (admitted : Admitted guard plant.ledger request.requestId)
    (undone : Undone request run after) :
    (request.requestId ≠ "" → ∀ entry, after.ledger.entries.lookup request.requestId =
        some entry → entry.completed = false) ↔
      (progress.completed = true → request.requestId = "") := by
  have ledger := reached.ledger
  rw [undone.ledger]
  cases done : progress.completed with
  | false =>
    rw [done] at ledger
    rw [ledger.1, ledger.2]
    refine ⟨fun _ wrong => (by cases wrong), ?_⟩
    intro _ named entry found
    rw [admitted.destroyed request.ledgerFiles named] at found
    cases found
  | true =>
    rw [done] at ledger
    have guard' : run.guard = _ := congrArg Prod.fst ledger
    have ledger' : run.plant.ledger = _ := congrArg Prod.snd ledger
    rw [guard', ledger']
    constructor
    · intro open' _
      by_contra named
      obtain ⟨entry, found, completed⟩ := admitted.completed "configuration" change.key
        change.action request.completedMicroseconds request.ledgerFiles named
      rw [open' named entry found] at completed
      cases completed
    · intro empty named
      exact absurd (empty rfl) named

omit reached

theorem startedWith_given {status : BundleStatus} {owner : String}
    (given : ∀ bundle, after.bundles.lookup bundle =
      if bundle = owner then some status else plant.bundles.lookup bundle) :
    (∀ bundle item, startedWith after bundle item = startedWith plant bundle item) ↔
      ∀ item, startedWith plant owner item = status.startedWith.lookup item := by
  constructor
  · intro same item
    rw [← same owner item]
    simp [startedWith, given]
  · intro agrees bundle item
    by_cases target : bundle = owner
    · rw [target, agrees item]
      simp [startedWith, given]
    · simp [startedWith, given, target]

/-- The owner is as it was if it was left alone, or ends up with what it had been started with. -/
theorem Reached.owner_restored (reached : Reached plant guard request change progress run)
    (applied : progress.owner ≠ .untouched → progress.preference = true)
    (undone : Undone request run after) :
    (∀ bundle item, startedWith after bundle item = startedWith plant bundle item) ↔
      OwnerRestorable plant change progress.owner := by
  have owner := reached.owner
  have bundles := undone.bundles
  cases stage : progress.owner with
  | untouched =>
    rw [stage] at owner
    obtain ⟨same, running⟩ := owner
    have up : run.ownerDown = false := by
      unfold ConfigRun.ownerDown
      cases active : run.ownerWasActive with
      | false => rfl
      | true =>
        rw [same, running active]
        rfl
    rw [up, same] at bundles
    refine ⟨fun _ => trivial, ?_⟩
    intro _ bundle item
    rw [startedWith, bundles]
    rfl
  | stopped =>
    rw [stage] at owner applied
    obtain ⟨active, named, status, found, given⟩ := owner
    have down : run.ownerDown = true := by
      rw [ConfigRun.ownerDown, active, named, given, if_pos rfl]
      rfl
    have preference := reached.preference
    rw [applied (by simp)] at preference
    rw [down, if_pos rfl, named] at bundles
    -- It is started again, and finds the restored preferences.
    have restarted : ∀ bundle, after.bundles.lookup bundle =
        if bundle = configurationOwner change.key then some ⟨.active, restoredPreferences run⟩
        else plant.bundles.lookup bundle := by
      intro bundle
      rw [bundles, lookup_adjust]
      split
      · next target =>
        rw [given, if_pos target]
        rfl
      · next target => rw [given, if_neg target]
    rw [startedWith_given restarted]
    unfold OwnerRestorable
    apply forall_congr'
    intro item
    unfold restoredPreferences
    rw [preference.1, if_pos rfl, preference.2, reached.key, reached.oldValue]
    by_cases target : item = change.key
    · rw [target, lookup_assign_self, lookup_assign_self]
    · rw [lookup_assign_ne target, lookup_assign_ne target, lookup_assign_ne target]
  | restarted =>
    rw [stage] at owner
    obtain ⟨active, named, status, found, given⟩ := owner
    have up : run.ownerDown = false := by
      rw [ConfigRun.ownerDown, active, named, given, if_pos rfl]
      rfl
    rw [up] at bundles
    -- It runs, so it is left with the value that has just been taken back.
    have left : ∀ bundle, after.bundles.lookup bundle =
        if bundle = configurationOwner change.key then
          some ⟨.active, assign change.key change.value plant.preferences⟩
        else plant.bundles.lookup bundle := by
      intro bundle
      rw [bundles]
      exact given bundle
    exact startedWith_given left

theorem Reached.restored_iff (reached : Reached plant guard request change progress run)
    (applied : progress.owner ≠ .untouched → progress.preference = true)
    (admitted : Admitted guard plant.ledger request.requestId)
    (undone : Undone request run after) :
    Restored request.requestId plant after ↔
      Restorable plant request.requestId change progress := by
  have preferences := reached.preferences_restored undone
  have metadata := reached.metadata_restored undone
  have owner := reached.owner_restored applied undone
  have ledger := reached.ledger_restored admitted undone
  constructor
  · intro restored
    exact ⟨preferences.mp restored.preferences, owner.mp restored.owner,
      metadata.mp restored.metadata, ledger.mp restored.ledger⟩
  · intro restorable
    exact ⟨reached.file_restored undone, preferences.mpr restorable.preference,
      metadata.mpr restorable.metadata, owner.mpr restorable.owner,
      ledger.mpr restorable.ledger⟩

end Restoration

section Steps

variable {effect : ConfigRun → ConfigRun} {rest : ConfigRun → ConfigOutcome}

/-- The place of a step among all of them. -/
def ConfigStep.position (step : ConfigStep) : Nat := step.ctorIdx

theorem ConfigStep.position_injective {left right : ConfigStep}
    (same : left.position = right.position) : left = right := by
  have back : ∀ step : ConfigStep, ConfigStep.ofNat step.position = step := by
    intro step
    cases step <;> rfl
  rw [← back left, same, back right]

variable (service : ConfigService) (request : ConfigRequest) (plant : ConfigPlant)
  (guard : ManagementRequestGuard) (change : ConfigChange) (fault : ConfigFault)

/-- Of the steps a request gets to, the first ones are not made to fail. -/
def Passed (count : Nat) : Prop :=
  ∀ step message, fault = some (step, message) →
    step.reached service request plant change = true → count ≤ step.position

/-- A part of the handler raises at the failing step, or goes on to what follows. -/
def Keeps (goes : ConfigRun → Prop) : ConfigOutcome → Prop
  | .error (_, run) => ∃ step, failingStep service request plant change fault = some step ∧
      Reached plant guard request change (step.progress (ownerActive plant change.key)) run
  | .ok run => goes run

/-- A request is about to take a step. -/
structure Before (step : ConfigStep) (run : ConfigRun) : Prop where
  passed : Passed service request plant change fault step.position
  reached : step.reached service request plant change = true
  here : Reached plant guard request change (step.progress (ownerActive plant change.key)) run

variable {service request plant guard change fault} {step : ConfigStep} {run : ConfigRun}
  {goes : ConfigRun → Prop}

theorem Passed.zero : Passed service request plant change fault 0 :=
  fun _ _ _ _ => Nat.zero_le _

theorem Passed.next (passed : Passed service request plant change fault step.position)
    (avoided : ∀ message, fault = some (step, message) →
      step.reached service request plant change = false) :
    Passed service request plant change fault (step.position + 1) := by
  intro failing message fails reached
  have least := passed failing message fails reached
  have other : step.position ≠ failing.position := by
    intro same
    cases ConfigStep.position_injective same
    rw [avoided message fails] at reached
    cases reached
  omega

theorem Passed.skipped {count later : Nat}
    (passed : Passed service request plant change fault count)
    (unreached : ∀ step : ConfigStep, count ≤ step.position → step.position < later →
      step.reached service request plant change = false) :
    Passed service request plant change fault later := by
  intro failing message fails reached
  by_contra early
  have least := passed failing message fails reached
  rw [unreached failing least (by omega)] at reached
  cases reached

theorem Passed.failingStep_eq {count : Nat}
    (passed : Passed service request plant change fault count)
    (beyond : ∀ step : ConfigStep, step.reached service request plant change = true →
      step.position < count) :
    failingStep service request plant change fault = ownFailure service request plant change := by
  unfold failingStep
  split
  · next step message =>
    refine if_neg ?_
    intro reached
    have late := passed step message rfl reached
    have early := beyond step reached
    omega
  · rfl

theorem attempt_cases (fault : ConfigFault) (step : ConfigStep) (effect : ConfigRun → ConfigRun)
    (run : ConfigRun) :
    (∃ message, fault = some (step, message) ∧
      attempt fault step effect run = .error (message, run)) ∨
    ((∀ message, fault ≠ some (step, message)) ∧
      attempt fault step effect run = .ok (effect run)) := by
  unfold attempt
  split
  · next failing message =>
    by_cases same : failing = step
    · left
      subst same
      exact ⟨message, rfl, if_pos rfl⟩
    · right
      refine ⟨?_, if_neg same⟩
      intro other equal
      cases equal
      exact same rfl
  · right
    exact ⟨fun _ equal => (by cases equal), rfl⟩

theorem Before.attempt (before : Before service request plant guard change fault step run)
    (next : Passed service request plant change fault (step.position + 1) → goes (effect run)) :
    Keeps service request plant guard change fault goes (attempt fault step effect run) := by
  rcases attempt_cases fault step effect run with ⟨message, fails, same⟩ | ⟨avoided, same⟩
  · rw [same]
    refine ⟨step, ?_, before.here⟩
    simp only [failingStep, fails, before.reached, if_true]
  · rw [same]
    exact next (before.passed.next fun message fails => absurd fails (avoided message))

theorem Keeps.andThen {outcome : ConfigOutcome} {middle : ConfigRun → Prop}
    (first : Keeps service request plant guard change fault middle outcome)
    (second : ∀ run, middle run → Keeps service request plant guard change fault goes (rest run)) :
    Keeps service request plant guard change fault goes (outcome >>= rest) := by
  cases outcome with
  | error raised => exact first
  | ok run => exact second run first

theorem Before.andThen (before : Before service request plant guard change fault step run)
    (next : Passed service request plant change fault (step.position + 1) →
      Keeps service request plant guard change fault goes (rest (effect run))) :
    Keeps service request plant guard change fault goes
      (Monitoring.attempt fault step effect run >>= rest) := by
  have first : Keeps service request plant guard change fault (fun after => after = effect run ∧
        Passed service request plant change fault (step.position + 1))
      (Monitoring.attempt fault step effect run) :=
    before.attempt fun passed => ⟨rfl, passed⟩
  refine first.andThen ?_
  rintro after ⟨rfl, passed⟩
  exact next passed

end Steps

section Phases

variable {service : ConfigService} {fault : ConfigFault} {run : ConfigRun}

/-- Nothing has been done that a restoration is about. -/
def untouchedProgress : Progress := ⟨false, false, .untouched, .kept, false⟩

/-- The file is replaced, or the request stops before. -/
theorem commitFile_keeps
    (passed : Passed service request plant change fault ConfigStep.stageFile.position)
    (here : Reached plant guard request change untouchedProgress run)
    (present : plant.file.isSome = true) :
    Keeps service request plant guard change fault
      (Before service request plant guard change fault .setPreference)
      (commitFile service request change fault run) := by
  unfold commitFile
  apply Before.andThen
  · exact ⟨passed, rfl, { here with }⟩
  intro passed
  apply Before.andThen
  · exact ⟨passed, rfl, { here with }⟩
  intro passed
  cases agrees : stagedAgrees service change with
  | false =>
    -- The staged text does not show the new value: the check is the last thing the request does.
    refine ⟨.verifyStaged, ?_, { here with }⟩
    rw [Passed.failingStep_eq passed]
    · simp [ownFailure, agrees]
    · intro step reached
      cases step <;> simp [ConfigStep.reached, stagesCleanly, agrees] at reached <;> decide
  | true =>
    apply Before.andThen
    · exact ⟨passed, agrees, { here with }⟩
    intro passed
    cases readable : metadataReadsBack service request change with
    | false =>
      refine ⟨.stageMetadata, ?_, { here with }⟩
      rw [Passed.failingStep_eq passed]
      · simp [ownFailure, agrees, readable]
      · intro step reached
        cases step <;> simp [ConfigStep.reached, stagesCleanly, agrees, readable] at reached <;>
          decide
    | true =>
      have cleanly : stagesCleanly service request change = true := by
        simp [stagesCleanly, agrees, readable]
      apply Before.andThen
      · exact ⟨passed, cleanly, { here with }⟩
      intro passed
      apply Before.andThen
      · exact ⟨passed, cleanly, { here with }⟩
      intro passed
      apply Before.attempt
      · exact ⟨passed, cleanly, { here with }⟩
      intro passed
      have unchanged : run.plant.file = plant.file := here.file.2
      exact ⟨passed, cleanly, { here with file := ⟨rfl, unchanged, present⟩ }⟩

theorem applyValue_keeps
    (before : Before service request plant guard change fault .setPreference run) :
    Keeps service request plant guard change fault
      (fun run => Passed service request plant change fault ConfigStep.manageOwner.position ∧
        Reached plant guard request change
          (ConfigStep.manageOwner.progress (ownerActive plant change.key)) run)
      (applyValue change fault run) := by
  have here := before.here
  apply before.andThen
  intro passed
  have unchanged : run.plant.preferences = plant.preferences := here.preference.2
  have applied : PreferenceAt plant change { run with
      plant := { run.plant with
        preferences := assign change.key change.value run.plant.preferences }
      runtimeApplied := true } true := ⟨rfl, by rw [unchanged]⟩
  by_cases level : change.key = rootLevelKey
  · rw [if_pos level]
    apply Before.attempt
    · refine ⟨passed, ?_, { here with preference := applied }⟩
      simpa [ConfigStep.reached, level] using before.reached
    intro passed
    exact ⟨passed, { here with preference := applied }⟩
  · rw [if_neg level]
    refine ⟨passed.skipped ?_, { here with preference := applied }⟩
    intro step late early
    cases step <;> first
      | (exfalso; revert late early; decide)
      | simp [ConfigStep.reached, level]

theorem lookup_adjust_given {bundles others : List (String × BundleStatus)} {owner : String}
    {status : BundleStatus} (given : ∀ bundle, bundles.lookup bundle =
      if bundle = owner then some status else others.lookup bundle)
    (next : BundleStatus → BundleStatus) (bundle : String) :
    (adjust owner next bundles).lookup bundle =
      if bundle = owner then some (next status) else others.lookup bundle := by
  rw [lookup_adjust]
  by_cases target : bundle = owner
  · rw [if_pos target, if_pos target, given, if_pos target]
    rfl
  · rw [if_neg target, if_neg target, given, if_neg target]

/-- A running owner is restarted with the new value. -/
theorem restartOwner_keeps (cleanly : stagesCleanly service request change = true)
    (passed : Passed service request plant change fault ConfigStep.manageOwner.position)
    (here : Reached plant guard request change
      (ConfigStep.manageOwner.progress (ownerActive plant change.key)) run) :
    Keeps service request plant guard change fault
      (Before service request plant guard change fault .removePrevious)
      (restartOwner service change fault run) := by
  obtain ⟨same, -⟩ := here.owner
  have runs : ownerActive run.plant change.key = ownerActive plant change.key := by
    simp only [ownerActive, same]
  unfold restartOwner
  simp only [runs]
  cases active : ownerActive plant change.key with
  | false =>
    -- The five steps of the restart are not for this request.
    refine ⟨passed.skipped ?_, ?_, ?_⟩
    · intro step late early
      cases step <;> first
        | (exfalso; revert late early; decide)
        | simp [ConfigStep.reached, active]
    · simp [ConfigStep.reached, cleanly, ownerRefuses, active]
    · rw [active]
      exact { here with owner := ⟨same, fun wrong => (by cases wrong)⟩ }
  | true =>
    have owned : (plant.bundles.lookup (configurationOwner change.key)).map (·.state) =
        some .active := by
      have both := active
      simp only [ownerActive, Bool.and_eq_true, beq_iff_eq] at both
      exact both.2
    have untouched : OwnerAt plant change
        { run with owner := configurationOwner change.key, ownerWasActive := true } .untouched :=
      ⟨same, fun _ => owned⟩
    apply Before.andThen
    · refine ⟨passed, ?_, { here with owner := untouched }⟩
      simp [ConfigStep.reached, cleanly, active]
    intro passed
    cases manageable : manageableBundle service (configurationOwner change.key) with
    | false =>
      refine ⟨.manageOwner, ?_, { here with owner := untouched }⟩
      have refuses : ownerRefuses service plant change = true := by
        simp [ownerRefuses, active, manageable]
      rw [Passed.failingStep_eq passed]
      · obtain ⟨agrees, readable⟩ := Bool.and_eq_true_iff.mp cleanly
        simp [ownFailure, agrees, readable, refuses]
      · intro step reached
        cases step <;> simp [ConfigStep.reached, manageable, refuses] at reached <;> decide
    | true =>
      have reached : ConfigStep.stopOwner.reached service request plant change = true := by
        simp [ConfigStep.reached, cleanly, active, manageable]
      apply Before.andThen
      · exact ⟨passed, reached, { here with owner := untouched }⟩
      intro passed
      obtain ⟨status, found, -⟩ := Option.map_eq_some_iff.mp owned
      have before : ∀ bundle, run.plant.bundles.lookup bundle =
          if bundle = configurationOwner change.key then some status
          else plant.bundles.lookup bundle := by
        intro bundle
        rw [same]
        split
        · next target => rw [target, found]
        · rfl
      have down := lookup_adjust_given before fun status => { status with state := .resolved }
      apply Before.andThen
      · exact ⟨passed, reached, { here with owner := ⟨rfl, rfl, status, found, down⟩ }⟩
      intro passed
      apply Before.andThen
      · exact ⟨passed, reached, { here with owner := ⟨rfl, rfl, status, found, down⟩ }⟩
      intro passed
      have up := lookup_adjust_given down
        fun _ => ⟨.active, assign change.key change.value plant.preferences⟩
      have preferences : run.plant.preferences =
          assign change.key change.value plant.preferences := here.preference.2
      rw [← preferences] at up
      apply Before.attempt
      · refine ⟨passed, reached, ?_⟩
        rw [active]
        exact { here with owner := ⟨rfl, rfl, status, found, by rw [← preferences]; exact up⟩ }
      intro passed
      refine ⟨passed, ?_, ?_⟩
      · simp [ConfigStep.reached, cleanly, ownerRefuses, manageable]
      · rw [active]
        exact { here with owner := ⟨rfl, rfl, status, found, by rw [← preferences]; exact up⟩ }

/-- The new metadata takes the place of the old one, which is kept aside. -/
theorem commitMetadata_keeps
    (before : Before service request plant guard change fault .removePrevious run) :
    Keeps service request plant guard change fault
      (Before service request plant guard change fault .appendAudit)
      (commitMetadata fault run) := by
  have here := before.here
  have kept : run.plant.metadata = plant.metadata := here.metadata.2
  apply before.andThen
  intro passed
  apply Before.andThen
  · exact ⟨passed, before.reached, { here with }⟩
  intro passed
  apply Before.attempt
  · exact ⟨passed, before.reached, { here with }⟩
  intro passed
  exact ⟨passed, before.reached, { here with metadata := ⟨rfl, kept⟩ }⟩

/-- Once the change is recorded, only the answer to the client can fail. -/
theorem report_keeps (before : Before service request plant guard change fault .appendAudit run) :
    Keeps service request plant guard change fault
      (fun _ => failingStep service request plant change fault = none)
      (report request fault run) := by
  have here := before.here
  have replaced := here.metadata
  obtain ⟨sameGuard, sameLedger⟩ := here.ledger
  apply before.andThen
  intro passed
  apply Before.andThen
  · exact ⟨passed, before.reached, { here with }⟩
  intro passed
  apply Before.attempt
  · refine ⟨passed, before.reached, { here with metadata := ⟨replaced.1, rfl⟩, ledger := ?_ }⟩
    show (_, _) = _
    rw [← sameGuard, ← sameLedger, ← here.key, ← here.action]
    rfl
  intro passed
  have reached : (stagesCleanly service request change && !ownerRefuses service plant change) =
    true := before.reached
  simp only [stagesCleanly, Bool.and_eq_true, Bool.not_eq_true'] at reached
  obtain ⟨⟨agrees, readable⟩, willing⟩ := reached
  rw [Passed.failingStep_eq passed]
  · simp [ownFailure, agrees, readable, willing]
  · intro step _
    cases step <;> decide

theorem commitChange_keeps
    (passed : Passed service request plant change fault ConfigStep.stageFile.position)
    (here : Reached plant guard request change untouchedProgress run)
    (present : plant.file.isSome = true) :
    Keeps service request plant guard change fault
      (fun _ => failingStep service request plant change fault = none)
      (commitChange service request change fault run) := by
  refine (commitFile_keeps passed here present).andThen ?_
  intro run before
  have cleanly : stagesCleanly service request change = true := before.reached
  refine (applyValue_keeps before).andThen ?_
  rintro run ⟨passed, here⟩
  refine (restartOwner_keeps cleanly passed here).andThen ?_
  intro run before
  refine (commitMetadata_keeps before).andThen ?_
  intro run before
  exact report_keeps before

/-- The file that is to be replaced is there once a change has passed its checks. -/
theorem prepare_file {service : ConfigService}
    (prepared : prepare service request plant = .ok change) : plant.file.isSome = true := by
  unfold prepare at prepared
  cases file : plant.file with
  | some _ => rfl
  | none =>
    rw [file] at prepared
    cases action : requestedAction service request with
    | error rejection =>
      rw [action] at prepared
      cases prepared
    | ok action' =>
      rw [action] at prepared
      change (if _ then _ else _) = _ at prepared
      split_ifs at prepared

end Phases

end Runs

section Requests

variable {service : ConfigService} {request : ConfigRequest} {plant : ConfigPlant}
  {change : ConfigChange}

theorem ConfigStep.progress_owner (step : ConfigStep) (runs : Bool) :
    (step.progress runs).owner ≠ .untouched → (step.progress runs).preference = true := by
  cases step <;> simp [ConfigStep.progress]

/-- What it takes to go ahead with a change. -/
theorem acceptedChange_some (accepted : acceptedChange service request plant = some change) :
    ∃ guard response ledger,
      beginManagementRequest service.requireRequestId plant.ledger request.requestId
        request.fingerprintDigest request.admittedMicroseconds request.ledgerFiles =
        (guard, response, ledger) ∧
      guard.proceed = true ∧ Admitted guard ledger request.requestId ∧
      prepare service request { plant with ledger } = .ok change := by
  unfold acceptedChange at accepted
  rcases begun : beginManagementRequest service.requireRequestId plant.ledger request.requestId
    request.fingerprintDigest request.admittedMicroseconds request.ledgerFiles with
    ⟨guard, response, ledger⟩
  rw [begun] at accepted
  simp only at accepted
  split at accepted
  · next proceeds =>
    have admitted : Admitted guard ledger request.requestId := by
      have all := @begin_admitted service.requireRequestId plant.ledger request.requestId
        request.fingerprintDigest request.admittedMicroseconds request.ledgerFiles
      rw [begun] at all
      exact all proceeds
    split at accepted
    · cases accepted
    · next prepared =>
      cases accepted
      exact ⟨guard, response, ledger, rfl, proceeds, admitted, prepared⟩
  · cases accepted

/-- How a request ends that has been admitted with a change. -/
theorem handle_accepted (fault : ConfigFault)
    (accepted : acceptedChange service request plant = some change) :
    (failingStep service request plant change fault = none ∧
      ∃ requestId action key value owner restarted after,
        handleConfigRequest service request fault plant =
          (.succeeded requestId action key value owner restarted, after)) ∨
    ∃ step, failingStep service request plant change fault = some step ∧
      ∃ status message action key rolledBack after,
        handleConfigRequest service request fault plant =
          (.failed status message action key rolledBack, after) ∧
        (Restored request.requestId plant after ↔ Restorable plant request.requestId change
          (step.progress (ownerActive plant change.key))) := by
  obtain ⟨guard, response, ledger, begun, proceeds, admitted, prepared⟩ :=
    acceptedChange_some accepted
  -- The plant of the run differs from the one before the request in its ledger only.
  have start : Reached { plant with ledger } guard request change untouchedProgress
      ((ConfigRun.admitted { plant with ledger } guard).accepted change) :=
    ⟨rfl, rfl, rfl, ⟨rfl, rfl⟩, ⟨rfl, rfl⟩, ⟨rfl, fun wrong => (by cases wrong)⟩, ⟨rfl, rfl⟩,
      ⟨rfl, rfl⟩⟩
  have committed : Keeps service request { plant with ledger } guard change fault
      (fun _ => failingStep service request { plant with ledger } change fault = none)
      (attempt fault .validate id ((ConfigRun.admitted { plant with ledger } guard).accepted
        change) >>= commitChange service request change fault) := by
    apply Before.andThen
    · exact ⟨Passed.zero, rfl, start⟩
    intro passed
    exact commitChange_keeps passed start (prepare_file prepared)
  unfold handleConfigRequest
  simp only [begun, proceeds, prepared, Bool.not_true, Bool.false_eq_true, if_false]
  revert committed
  generalize attempt fault .validate id ((ConfigRun.admitted { plant with ledger } guard).accepted
    change) >>= commitChange service request change fault = outcome
  intro committed
  cases outcome with
  | ok run =>
    left
    exact ⟨committed, _, _, _, _, _, _, _, rfl⟩
  | error raised =>
    right
    obtain ⟨message, run⟩ := raised
    obtain ⟨step, fails, reached⟩ := committed
    refine ⟨step, fails, _, _, _, _, _, _, rfl, ?_⟩
    have undone := answerFailure_undone request message run
    have restored := reached.restored_iff (step.progress_owner _) admitted undone
    constructor
    · intro same
      exact { restored.mp { same with } with }
    · intro restorable
      exact { restored.mpr { restorable with } with }

/-- A request that is turned down by the checks has not changed anything. -/
theorem handle_rejected (fault : ConfigFault)
    (rejected : acceptedChange service request plant = none) {status : Nat}
    {message action key : String} {rolledBack : Bool} {after : ConfigPlant}
    (answered : handleConfigRequest service request fault plant =
      (.failed status message action key rolledBack, after)) :
    Restored request.requestId plant after := by
  unfold acceptedChange at rejected
  unfold handleConfigRequest at answered
  rcases begun : beginManagementRequest service.requireRequestId plant.ledger request.requestId
    request.fingerprintDigest request.admittedMicroseconds request.ledgerFiles with
    ⟨guard, response, ledger⟩
  have admission := @begin_admitted service.requireRequestId plant.ledger request.requestId
    request.fingerprintDigest request.admittedMicroseconds request.ledgerFiles
  rw [begun] at rejected answered admission
  simp only at rejected answered admission
  cases proceeds : guard.proceed with
  | false =>
    -- A refusal by the ledger is no failure of the transaction.
    rw [proceeds] at answered
    cases answered
  | true =>
    rw [proceeds] at rejected answered
    rw [if_pos rfl] at rejected
    split at rejected
    · next rejection prepared =>
      rw [prepared] at answered
      simp only [Bool.not_true, Bool.false_eq_true, if_false] at answered
      have undone := answerFailure_undone request rejection.message
        { ConfigRun.admitted { plant with ledger } guard with
          action := rejection.action
          key := rejection.key
          conflict := rejection.conflict
          failureStatus := rejection.status }
      rw [answered] at undone
      have bundles : after.bundles = plant.bundles := undone.bundles
      have preferences : after.preferences = plant.preferences := undone.preferences
      have withdrawn : after.ledger = guard.destroy ledger request.ledgerFiles := undone.ledger
      refine ⟨undone.file, fun item => by rw [preferences], undone.metadata, ?_, ?_⟩
      · intro bundle item
        rw [startedWith, startedWith, bundles]
      · intro named entry found
        rw [withdrawn, (admission proceeds).destroyed request.ledgerFiles named] at found
        cases found
    · cases rejected

/-- A failed request leaves everything as it was exactly when it stops at a step whose
compensation is complete. -/
theorem failed_request_restored_iff (service : ConfigService) (request : ConfigRequest)
    (fault : ConfigFault) (plant : ConfigPlant) :
    (∀ status message action key rolledBack after,
      handleConfigRequest service request fault plant =
        (.failed status message action key rolledBack, after) →
      Restored request.requestId plant after) ↔
    ∀ change step, acceptedChange service request plant = some change →
      failingStep service request plant change fault = some step →
      Restorable plant request.requestId change
        (step.progress (ownerActive plant change.key)) := by
  constructor
  · intro restores change step accepted fails
    rcases handle_accepted fault accepted with
      ⟨none, -⟩ | ⟨step', fails', status, message, action, key, rolledBack, after, answered, same⟩
    · rw [none] at fails
      cases fails
    · rw [fails'] at fails
      cases fails
      exact same.mp (restores status message action key rolledBack after answered)
  · intro restorable status message action key rolledBack after answered
    cases accepted : acceptedChange service request plant with
    | none => exact handle_rejected fault accepted answered
    | some change =>
      rcases handle_accepted fault accepted with
        ⟨-, requestId, action', key', value, owner, restarted, after', succeeded⟩ |
        ⟨step, fails, status', message', action', key', rolledBack', after', failed, same⟩
      · rw [succeeded] at answered
        cases answered
      · rw [failed] at answered
        cases answered
        exact same.mpr (restorable change step accepted fails)

end Requests

/-- A properties format with one line for each item, which reads back the given documents. -/
def tableFormat (documents : List Properties) : PropertyFormat :=
  let save := fun (items : Properties) =>
    String.join (items.map fun item => item.1 ++ ": " ++ item.2 ++ "\n")
  { save, load := fun text => documents.find? fun document => save document == text }

/-- The configuration of a gateway with one pin. -/
def samplePin (value : String) : Properties := [("pdr.gpio.pin", value)]

def samplePinRequest : ConfigRequest where
  body := .obj [("key", .str "pdr.gpio.pin"), ("value", .str "18")]
  requestId := "change-1"
  fingerprintDigest := emptyTextDigest
  principal := "operator"
  remoteAddress := "192.0.2.1:50000"
  transactionId := "1000-1"
  timestampMicroseconds := 1000
  admittedMicroseconds := 1000
  completedMicroseconds := 2000
  ledgerFiles := .ok ()

def samplePinChange : ConfigChange :=
  ⟨"apply", "pdr.gpio.pin", "18", "17", samplePin "17"⟩

def samplePinService : ConfigService where
  format := tableFormat [samplePin "17", samplePin "18"]
  library := tableLibrary [changeMetadata samplePinRequest samplePinChange] []
  validate := fun _ => .ok ()
  preferencesAvailable := true
  manageableBundlePatterns := ["pdr.device.*"]
  requireRequestId := false

/-- The gateway runs with the first pin. -/
def samplePinPlant : ConfigPlant where
  file := some "pdr.gpio.pin: 17\n"
  staged := none
  backup := none
  metadata := none
  stagedMetadata := none
  previousMetadata := none
  audit := []
  preferences := samplePin "17"
  rootLevel := "information"
  bundles := [("pdr.device.gateway", ⟨.active, samplePin "17"⟩)]
  ledger := ⟨⟨false, 1024, 86400000000, "", false⟩, []⟩

theorem samplePin_accepted :
    acceptedChange samplePinService samplePinRequest samplePinPlant = some samplePinChange := by
  decide +kernel

/-- The audit cannot be written, after everything else has been committed. -/
def samplePinFault : ConfigFault := some (.appendAudit, "cannot append to the audit file")

/-- The gateway has been restarted with the new pin by then, and it is left with it. -/
theorem failed_audit_keeps_restarted_owner :
    ∃ status message action key rolledBack after,
      handleConfigRequest samplePinService samplePinRequest samplePinFault samplePinPlant =
        (.failed status message action key rolledBack, after) ∧
      startedWith samplePinPlant "pdr.device.gateway" "pdr.gpio.pin" = some "17" ∧
      startedWith after "pdr.device.gateway" "pdr.gpio.pin" = some "18" ∧
      ¬Restored samplePinRequest.requestId samplePinPlant after := by
  rcases handle_accepted samplePinFault samplePin_accepted with
    ⟨none, -⟩ | ⟨step, -, status, message, action, key, rolledBack, after, answered, -⟩
  · exact absurd none (by decide +kernel)
  · have old : startedWith samplePinPlant "pdr.device.gateway" "pdr.gpio.pin" = some "17" := by
      decide +kernel
    have new : startedWith (handleConfigRequest samplePinService samplePinRequest samplePinFault
        samplePinPlant).2 "pdr.device.gateway" "pdr.gpio.pin" = some "18" := by
      decide +kernel
    rw [answered] at new
    refine ⟨status, message, action, key, rolledBack, after, answered, old, new, ?_⟩
    intro restored
    have same := restored.owner "pdr.device.gateway" "pdr.gpio.pin"
    rw [old, new] at same
    exact absurd same (by decide)

end PocoDDS.Monitoring
