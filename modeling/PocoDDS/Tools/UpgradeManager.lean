import PocoDDS.Lib.Assoc
import PocoDDS.Lib.Process
import PocoDDS.Tools.ReleaseTree

/-! The transactions of the upgrade manager: applying, rolling back and recovering a release. -/

namespace PocoDDS.Tools

open AssocList CrashLogic ProcessLogic Process

/-- The directories next to a target, by the upgrade that made them. -/
inductive Place
  | target
  | staging (upgradeId : String)
  | backup (upgradeId : String)
  | failed (upgradeId : String)
  | displaced (upgradeId : String)
  deriving DecidableEq, Repr

inductive UpgradeState
  | preflightPassed
  | stagingVerified
  | backupCreated
  | mutableStateTransferred
  | activated
  | healthFailedRollbackVerified
  | healthPassed
  | other (text : String)
  deriving DecidableEq, Repr

structure UpgradeTransaction where
  upgradeId : String
  staging : Place
  backup : Place
  failed : Place
  fromVersion : Option String
  toVersion : String
  backupInventory : List FileRecord
  state : UpgradeState
  deriving DecidableEq, Repr

/-- A journal file, which something else may have written. -/
inductive UpgradeJournal
  | unreadable (what : String)
  | document (transaction : UpgradeTransaction)
  deriving DecidableEq, Repr

inductive UpgradeEvent
  | preflightPassed (upgradeId : String) (fromVersion : Option String) (toVersion : String)
  | stagingVerified (upgradeId : String) (files : Nat)
  | activated (upgradeId : String) (backup : Bool)
  | healthFailedRollback (upgradeId : String) (rollbackVerified : Bool)
  | healthPassed (upgradeId version : String)
  | backupRetentionApplied (upgradeId : String) (removed : List String)
  | backupRetentionFailed (upgradeId error : String)
  | upgradeFailed (upgradeId error : String)
  | manualRollback (upgradeId : String) (restoredVersion : Option String)
  | rollbackFailed (upgradeId error : String)
  | interruptedUpgradeRecovered (upgradeId outcome : String) (restoredVersion : Option String)
  | interruptedUpgradeRecoveryFailed (upgradeId error : String)
  deriving DecidableEq, Repr

structure ReleaseDisk where
  trees : List (Place × Tree) := []
  journal : Option UpgradeJournal := none
  lock : Option String := none
  audit : List UpgradeEvent := []
  deriving DecidableEq, Repr

namespace ReleaseDisk

def tree (disk : ReleaseDisk) (place : Place) : Option Tree :=
  disk.trees.lookup place

def put (disk : ReleaseDisk) (place : Place) (tree : Tree) : ReleaseDisk :=
  { disk with trees := assign place tree disk.trees }

def remove (disk : ReleaseDisk) (place : Place) : ReleaseDisk :=
  { disk with trees := eraseKey place disk.trees }

def exists' (disk : ReleaseDisk) (place : Place) : Bool :=
  (disk.tree place).isSome

end ReleaseDisk

def acquireUpgradeLock (upgradeId : String) : Action ReleaseDisk where
  effect disk :=
    if disk.lock.isSome then
      .error "upgrade lock already exists; inspect or recover the interrupted transaction"
    else .ok { disk with lock := some upgradeId }
  torn disk := if disk.lock.isSome then [] else [{ disk with lock := some "" }]

def releaseUpgradeLock : Action ReleaseDisk :=
  .atomic fun disk => .ok { disk with lock := none }

def writeUpgradeJournal (transaction : UpgradeTransaction) : Action ReleaseDisk :=
  .atomic fun disk => .ok { disk with journal := some (.document transaction) }

def unlinkUpgradeJournal : Action ReleaseDisk :=
  .atomic fun disk =>
    if disk.journal.isNone then .error "No such file or directory"
    else .ok { disk with journal := none }

def auditUpgrade (event : UpgradeEvent) : Action ReleaseDisk :=
  .atomic fun disk => .ok { disk with audit := disk.audit ++ [event] }

/-- A directory may be renamed to a place that is free, or that holds an empty directory. -/
def rename (source destination : Place) : Action ReleaseDisk :=
  .atomic fun disk =>
    match disk.tree source, disk.tree destination with
    | none, _ => .error "No such file or directory"
    | some tree, none => .ok ((disk.remove source).put destination tree)
    | some tree, some there =>
      if there.entries.isEmpty then .ok ((disk.remove source).put destination tree)
      else .error "Directory not empty"

/-- Removing a tree deletes its entries one after another. -/
def removeDirectory (place : Place) : Action ReleaseDisk where
  effect disk :=
    match disk.tree place with
    | none => .error "No such file or directory"
    | some _ => .ok (disk.remove place)
  torn disk :=
    match disk.tree place with
    | none => []
    | some tree => (List.range (tree.entries.length + 1)).map fun count =>
        disk.put place ⟨tree.entries.drop count⟩

/-- Making the directory of a tree; it may have to be new. -/
def makeRoot (place : Place) (existOk : Bool) : Action ReleaseDisk :=
  .atomic fun disk =>
    match disk.tree place with
    | none => .ok (disk.put place ⟨[]⟩)
    | some _ => if existOk then .ok disk else .error "File exists"

/-- Making a directory inside a tree, unless it is there. -/
def makeInside (place : Place) (path : List String) : Action ReleaseDisk :=
  .atomic fun disk =>
    match disk.tree place with
    | none => .error "No such file or directory"
    | some tree =>
      match tree.entry path with
      | some (.file _) => .error "File exists"
      | some .directory => .ok disk
      | none => .ok (disk.put place ⟨tree.entries ++ [(path, .directory)]⟩)

/-- Moving a directory to the same path of another tree, where nothing may be. -/
def moveDirectory (source destination : Place) (path : List String) : Action ReleaseDisk :=
  .atomic fun disk =>
    match disk.tree source, disk.tree destination with
    | some origin, some there =>
      if !origin.exists' path then .error "No such file or directory"
      else if there.exists' path then .error "Destination path already exists"
      else .ok ((disk.put source (origin.without path)).put destination
        ⟨there.entries ++ origin.below path⟩)
    | _, _ => .error "No such file or directory"

/-- Writing a file leaves a part of it when it is interrupted; a directory is not written to. -/
def writeInside (place : Place) (path : List String) (content : List UInt8) :
    Action ReleaseDisk where
  effect disk :=
    match disk.tree place with
    | none => .error "No such file or directory"
    | some tree =>
      if tree.entry path = some .directory then .error "Is a directory"
      else .ok (disk.put place ⟨tree.entries.filter (·.1 ≠ path) ++ [(path, .file content)]⟩)
  torn disk :=
    match disk.tree place with
    | none => []
    | some tree =>
      if tree.entry path = some .directory then []
      else (List.range content.length).map fun size => disk.put place
        ⟨tree.entries.filter (·.1 ≠ path) ++ [(path, .file (content.take size))]⟩

/-- The variables that the handlers of the commands read. -/
structure UpgradeLocals where
  locked : Bool := false
  interruptedPresent : Bool := false
  transaction : Option UpgradeTransaction := none
  /-- The upgrade that recovery has read from a journal. -/
  upgradeId : Option String := none
  deriving DecidableEq, Repr

abbrev UpgradeProcess (α : Type) := Process (ReleaseDisk × UpgradeLocals) α

/-- The digest, and the names of the directories above the target. -/
structure ReleaseHost where
  sha256 : List UInt8 → String
  parents : List String
  /-- The version that a release marker states, if it can be read. -/
  readMarker : List UInt8 → Except String (Option String)

def deployedVersion (host : ReleaseHost) : Option Tree → Except String (Option String)
  | none => .ok none
  | some tree =>
    match tree.released.find? (·.1 = ["pdr-release.json"]) with
    | some (_, .file content) => host.readMarker content
    | _ => .ok none

def inventoryOf (host : ReleaseHost) : Option Tree → List FileRecord
  | none => []
  | some tree => tree.inventory host.sha256

def verifyInventory (host : ReleaseHost) (place : Place) (expected : List FileRecord) :
    UpgradeProcess Unit := do
  let tree ← get fun state => state.1.tree place
  reject (inventoryOf host tree ≠ expected) "restored release integrity verification failed"

def moveMutable (source destination : Place) (path : List String) : UpgradeProcess Unit := do
  durable (makeRoot destination true)
  forEach (properPrefixes path) fun above => durable (makeInside destination above)
  durable (moveDirectory source destination path)

def transferMutable (host : ReleaseHost) (source destination : Place) : UpgradeProcess Unit := do
  let tree ← get fun state => state.1.tree source
  match tree with
  | none => return ()
  | some tree =>
    let paths := tree.candidates host.parents
    forEach paths fun path => do
      let there ← get fun state => (state.1.tree destination).any (·.exists' path)
      reject there ("mutable state destination already exists: " ++ "/".intercalate path)
    forEach paths (moveMutable source destination)

def removeTree (place : Place) : UpgradeProcess Unit := do
  let there ← get fun state => state.1.exists' place
  whenever there (durable (removeDirectory place))

/-- The state is noted in memory before the journal is replaced. -/
def writeTransaction (transaction : UpgradeTransaction) (state : UpgradeState) :
    UpgradeProcess Unit := do
  let transaction := { transaction with state }
  set fun now => (now.1, { now.2 with transaction := some transaction })
  durable (writeUpgradeJournal transaction)

def releaseHeldLock : UpgradeProcess Unit := do
  durable releaseUpgradeLock
  set fun now => (now.1, { now.2 with locked := false })

/-- A file of the package, as the manifest lists it. -/
structure PackageFile where
  path : List String
  size : Nat
  sha256 : String
  content : List UInt8
  deriving DecidableEq, Repr

structure UpgradeArguments where
  upgradeId : String
  /-- The checks of the timeout and of the locations, before the lock is taken. -/
  locations : Except String Unit
  allowInitialInstall : Bool
  /-- The signature, the trust policy, the manifest, the versions and the probes; the result is the
  version of the package. -/
  governance : (fromVersion : Option String) → Except String String
  files : List PackageFile
  marker : List UInt8
  skipHealthCheck : Bool
  /-- What the health probe will find. -/
  healthy : Bool
  keepBackups : Int
  /-- When each backup directory was modified, in nanoseconds. -/
  modified : String → Int
  /-- Where the directory above the target lists each backup. -/
  position : String → Nat

/-- An absent target has to be allowed, and an installed one needs a version. -/
def validateUpgrade (host : ReleaseHost) (arguments : UpgradeArguments) (target : Option Tree) :
    Except String (Option String × String) := do
  if target.isNone && !arguments.allowInitialInstall then
    throw "target is not installed; use --allow-initial-install explicitly"
  let fromVersion ← deployedVersion host target
  if target.isSome && fromVersion.isNone then
    throw "installed target has no valid pdr-release.json version marker"
  let toVersion ← arguments.governance fromVersion
  if arguments.keepBackups < 1 then throw "--keep-backups must be at least 1"
  return (fromVersion, toVersion)

def newUpgrade (host : ReleaseHost) (arguments : UpgradeArguments) (target : Option Tree)
    (fromVersion : Option String) (toVersion : String) : UpgradeTransaction where
  upgradeId := arguments.upgradeId
  staging := .staging arguments.upgradeId
  backup := .backup arguments.upgradeId
  failed := .failed arguments.upgradeId
  fromVersion
  toVersion
  backupInventory := inventoryOf host target
  state := .preflightPassed

/-- Taking the lock, checking the package against the target, and journalling the upgrade. -/
def prepareUpgrade (host : ReleaseHost) (arguments : UpgradeArguments) :
    UpgradeProcess UpgradeTransaction := do
  ofExcept arguments.locations
  durable (acquireUpgradeLock arguments.upgradeId)
  set fun now => (now.1, { now.2 with locked := true })
  let interrupted ← get fun state => state.1.journal.isSome
  set fun now => (now.1, { now.2 with interruptedPresent := interrupted })
  reject interrupted "interrupted upgrade transaction exists; run recover first"
  let target ← get fun state => state.1.tree .target
  let versions ← ofExcept (validateUpgrade host arguments target)
  let transaction := newUpgrade host arguments target versions.1 versions.2
  writeTransaction transaction .preflightPassed
  durable (auditUpgrade (.preflightPassed arguments.upgradeId versions.1 versions.2))
  return transaction

/-- Copying one file of the package, and checking the copy. -/
def stageFile (host : ReleaseHost) (staging : Place) (file : PackageFile) :
    UpgradeProcess Unit := do
  forEach (properPrefixes file.path) fun above => durable (makeInside staging above)
  durable (writeInside staging file.path file.content)
  reject (file.content.length ≠ file.size || host.sha256 file.content ≠ file.sha256)
    ("staged artifact verification failed: " ++ "/".intercalate file.path)

def stageFiles (host : ReleaseHost) (arguments : UpgradeArguments) : UpgradeProcess Unit := do
  let staging := Place.staging arguments.upgradeId
  durable (makeRoot staging false)
  forEach arguments.files (stageFile host staging)
  durable (writeInside staging ["pdr-release.json"] arguments.marker)

/-- Moving the old release away, and its mutable directories to the new one. -/
def displaceTarget (host : ReleaseHost) (transaction : UpgradeTransaction) :
    UpgradeProcess Unit := do
  let installed ← get fun state => state.1.exists' .target
  whenever installed (durable (rename .target transaction.backup))
  writeTransaction transaction .backupCreated
  let backedUp ← get fun state => state.1.exists' transaction.backup
  whenever backedUp do
    verifyInventory host transaction.backup transaction.backupInventory
    transferMutable host transaction.backup transaction.staging
    writeTransaction transaction .mutableStateTransferred

/-- Putting the new release in place; when that fails, the old one is put back. -/
def activateRelease (transaction : UpgradeTransaction) : UpgradeProcess Unit := do
  (durable (rename transaction.staging .target)).catching fun error => do
    let restorable ← get fun state =>
      state.1.exists' transaction.backup && !state.1.exists' .target
    whenever restorable (durable (rename transaction.backup .target))
    raise error
  let backedUp ← get fun state => state.1.exists' transaction.backup
  durable (auditUpgrade (.activated transaction.upgradeId backedUp))
  writeTransaction transaction .activated

/-- The journal and the lock are removed at the end of an upgrade. -/
def closeUpgrade : UpgradeProcess Unit := do
  durable unlinkUpgradeJournal
  releaseHeldLock

/-- Putting the old release back because the new one is not healthy. -/
def rejectRelease (host : ReleaseHost) (transaction : UpgradeTransaction) :
    UpgradeProcess Nat := do
  durable (rename .target transaction.failed)
  let backedUp ← get fun state => state.1.exists' transaction.backup
  whenever backedUp do
    transferMutable host transaction.failed transaction.backup
    durable (rename transaction.backup .target)
    verifyInventory host .target transaction.backupInventory
  writeTransaction transaction .healthFailedRollbackVerified
  durable (auditUpgrade (.healthFailedRollback transaction.upgradeId transaction.fromVersion.isSome))
  removeTree transaction.failed
  closeUpgrade
  return 2

/-- The backups of a disk, in the order in which they are listed. -/
def listBackups (position : String → Nat) (disk : ReleaseDisk) : List String :=
  let ids := (keys disk.trees).filterMap fun
    | .backup upgradeId => some upgradeId
    | _ => none
  ids.insertionSort fun first second => position first ≤ position second

/-- The backups of a disk, the newest first; those of one time stay in the order of the listing. -/
def backupsOf (modified : String → Int) (position : String → Nat) (disk : ReleaseDisk) :
    List String :=
  (listBackups position disk).insertionSort fun first second => modified first ≥ modified second

def pruneBackups (arguments : UpgradeArguments) : UpgradeProcess (List String) := do
  let backups ← get fun state => backupsOf arguments.modified arguments.position state.1
  let old := backups.drop arguments.keepBackups.toNat
  forEach old fun upgradeId => removeTree (.backup upgradeId)
  return old

/-- Keeping a release that is healthy, with the newest of the backups. -/
def acceptRelease (arguments : UpgradeArguments) (transaction : UpgradeTransaction) :
    UpgradeProcess Nat := do
  writeTransaction transaction .healthPassed
  durable (auditUpgrade (.healthPassed transaction.upgradeId transaction.toVersion))
  (do let removed ← pruneBackups arguments
      durable (auditUpgrade (.backupRetentionApplied transaction.upgradeId removed))).catching
    fun error => durable (auditUpgrade (.backupRetentionFailed transaction.upgradeId error))
  closeUpgrade
  return 0

def applyBody (host : ReleaseHost) (arguments : UpgradeArguments) : UpgradeProcess Nat := do
  let transaction ← prepareUpgrade host arguments
  stageFiles host arguments
  writeTransaction transaction .stagingVerified
  durable (auditUpgrade (.stagingVerified arguments.upgradeId arguments.files.length))
  displaceTarget host transaction
  activateRelease transaction
  if !arguments.skipHealthCheck && !arguments.healthy then rejectRelease host transaction
  else acceptRelease arguments transaction

/-- Whether an upgrade has not touched the target yet, as far as it has noted. -/
def UpgradeLocals.untouched (locals : UpgradeLocals) : Bool :=
  match locals.transaction with
  | none => true
  | some transaction =>
    transaction.state = .preflightPassed || transaction.state = .stagingVerified

/-- The handler of an upgrade: before the activation all evidence is removed, after it none. -/
def applyFailed (arguments : UpgradeArguments) (error : String) : UpgradeProcess Nat := do
  durable (auditUpgrade (.upgradeFailed arguments.upgradeId error))
  let locals ← get fun state => state.2
  if locals.interruptedPresent then whenever locals.locked releaseHeldLock
  else whenever locals.untouched do
    removeTree (.staging arguments.upgradeId)
    let journalled ← get fun state => state.1.journal.isSome
    whenever journalled (durable unlinkUpgradeJournal)
    whenever locals.locked releaseHeldLock
  return 1

def applyUpgrade (host : ReleaseHost) (arguments : UpgradeArguments) : UpgradeProcess Nat :=
  (applyBody host arguments).catching (applyFailed arguments)

/-- Whether a transaction stays with the directories of its upgrade. -/
def UpgradeTransaction.governed (transaction : UpgradeTransaction) : Except String Unit :=
  if transaction.staging ≠ .staging transaction.upgradeId then
    .error "transaction staging path is outside its governed location"
  else if transaction.backup ≠ .backup transaction.upgradeId then
    .error "transaction backup path is outside its governed location"
  else if transaction.failed ≠ .failed transaction.upgradeId then
    .error "transaction failed path is outside its governed location"
  else .ok ()

/-- Bringing the mutable directories back to the backup, and a release that was put in place out of
the way. -/
def retrieveMutable (host : ReleaseHost) (transaction : UpgradeTransaction) :
    UpgradeProcess Unit := do
  let here ← get fun state => state.1.exists'
  if here .target then do
    transferMutable host .target transaction.backup
    let evidence ← get fun state => state.1.exists' transaction.failed
    reject evidence "recovery evidence path already exists"
    durable (rename .target transaction.failed)
  else if here transaction.failed then transferMutable host transaction.failed transaction.backup
  else if here transaction.staging then transferMutable host transaction.staging transaction.backup
  else return ()

def restoreRelease (host : ReleaseHost) (transaction : UpgradeTransaction) :
    UpgradeProcess String := do
  verifyInventory host transaction.backup transaction.backupInventory
  retrieveMutable host transaction
  durable (rename transaction.backup .target)
  verifyInventory host .target transaction.backupInventory
  removeTree transaction.failed
  return "old_release_restored"

/-- Recovery decides from the directories that are there, and from the journalled state. -/
def reconcileUpgrade (host : ReleaseHost) (transaction : UpgradeTransaction) :
    UpgradeProcess String := do
  let here ← get fun state => state.1.exists'
  if here transaction.backup then restoreRelease host transaction
  else if here .target && transaction.fromVersion.isNone then do
    durable (rename .target transaction.failed)
    removeTree transaction.failed
    return "unverified_initial_install_removed"
  else if here .target && (transaction.state = .preflightPassed ||
      transaction.state = .stagingVerified) then do
    verifyInventory host .target transaction.backupInventory
    return "original_release_unchanged"
  else if here .target && here transaction.staging && transaction.state = .backupCreated then do
    verifyInventory host .target transaction.backupInventory
    return "original_release_unchanged"
  else if here .target && transaction.state = .healthFailedRollbackVerified then do
    verifyInventory host .target transaction.backupInventory
    removeTree transaction.failed
    return "verified_automatic_rollback_retained"
  else raise "cannot reconcile transaction paths safely"

def recoverUpgrade (host : ReleaseHost) (journal : UpgradeJournal) : UpgradeProcess Nat :=
  match journal with
  | .unreadable what => raise what
  | .document transaction => do
    set fun now => (now.1, { now.2 with upgradeId := some transaction.upgradeId })
    ofExcept transaction.governed
    let outcome ← reconcileUpgrade host transaction
    removeTree transaction.staging
    let target ← get fun state => state.1.tree .target
    let version ← ofExcept (deployedVersion host target)
    durable (auditUpgrade (.interruptedUpgradeRecovered transaction.upgradeId outcome version))
    durable unlinkUpgradeJournal
    durable releaseUpgradeLock
    return 0

/-- A failed recovery is audited where possible, and changes nothing else. -/
def recoverUpgradeFailed (error : String) : UpgradeProcess Nat := do
  let upgradeId ← get fun state => state.2.upgradeId
  upgradeId.elim (return ()) fun upgradeId =>
    (durable (auditUpgrade (.interruptedUpgradeRecoveryFailed upgradeId error))).catching
      fun _ => return ()
  return 1

def recover (host : ReleaseHost) : UpgradeProcess Nat := do
  let journal ← get fun state => state.1.journal
  match journal with
  | none => return 1
  | some journal => (recoverUpgrade host journal).catching recoverUpgradeFailed

structure RollbackArguments where
  upgradeId : String
  /-- When each backup directory was modified, in seconds as far as a float tells them apart. -/
  modified : String → Int
  /-- Where the directory above the target lists each backup. -/
  position : String → Nat

/-- Reading a release, which changes nothing but may fail. -/
def readRelease : Action ReleaseDisk :=
  .atomic fun disk => .ok disk

def readVersion (host : ReleaseHost) : UpgradeProcess (Option String) := do
  durable readRelease
  let target ← get fun state => state.1.tree .target
  ofExcept (deployedVersion host target)

/-- Checking and recording the release that has been put back, and removing the other one. The
version is read once more for the message at the end. -/
def confirmRollback (host : ReleaseHost) (upgradeId : String) (displaced : Place)
    (expected : List FileRecord) : UpgradeProcess Nat := do
  durable readRelease
  verifyInventory host .target expected
  let version ← readVersion host
  durable (auditUpgrade (.manualRollback upgradeId version))
  removeTree displaced
  let _ ← readVersion host
  return 0

/-- The part of a rollback that a handler guards. -/
def rollbackBody (host : ReleaseHost) (upgradeId : String) (backup displaced : Place)
    (expected : List FileRecord) : UpgradeProcess Nat := do
  let installed ← get fun state => state.1.exists' .target
  whenever installed (transferMutable host .target backup)
  let installed ← get fun state => state.1.exists' .target
  whenever installed (durable (rename .target displaced))
  durable (rename backup .target)
  confirmRollback host upgradeId displaced expected

/-- Putting the active release back after a rollback that failed. -/
def reactivate (host : ReleaseHost) (backup displaced : Place) : UpgradeProcess Unit := do
  let here ← get fun state => state.1.exists'
  if here displaced then do
    if here .target then do
      transferMutable host .target displaced
      let both ← get fun state => state.1.exists' backup
      reject both "rollback reconciliation found both target and backup"
      durable (rename .target backup)
    else if here backup then transferMutable host backup displaced
    else return ()
    durable (rename displaced .target)
  else if here .target && here backup then transferMutable host backup .target
  else return ()

def rollbackFailed (host : ReleaseHost) (upgradeId : String) (backup displaced : Place)
    (error : String) : UpgradeProcess Nat := do
  reactivate host backup displaced
  durable (auditUpgrade (.rollbackFailed upgradeId error))
  return 1

/-- A rollback looks at the journal and at the lock once, before it begins. -/
def rollback (host : ReleaseHost) (arguments : RollbackArguments) : UpgradeProcess Nat := do
  let backups ← get fun state => backupsOf arguments.modified arguments.position state.1
  let journalled ← get fun state => state.1.journal.isSome
  let locked ← get fun state => state.1.lock.isSome
  match backups with
  | [] => return 1
  | newest :: _ =>
    if journalled || locked then return 1
    else do
      let backup := Place.backup newest
      let displaced := Place.displaced arguments.upgradeId
      let tree ← get fun state => state.1.tree backup
      (rollbackBody host arguments.upgradeId backup displaced (inventoryOf host tree)).catching
        (rollbackFailed host arguments.upgradeId backup displaced)

end PocoDDS.Tools
