import PocoDDS.Lib.Assoc
import PocoDDS.Lib.Process

/-! The transactions of the plugin manager: installing a plugin, rolling one back, and recovering an
interrupted one. -/

namespace PocoDDS.Tools

open AssocList CrashLogic ProcessLogic

/-- A file with its time of modification, which a rename keeps. -/
structure PluginFile where
  content : List UInt8
  modified : Int
  deriving DecidableEq, Repr

/-- A file below the backup directory. -/
structure BackupPlace where
  folder : String
  transactionId : String
  name : String
  deriving DecidableEq, Repr

/-- Where a transaction may point: into the bundle directory, below the backup directory, or to a
place that recovery refuses. -/
inductive PluginPath
  | bundle (name : String)
  | backup (place : BackupPlace)
  | outside (path : String)
  deriving DecidableEq, Repr

def PluginPath.name : PluginPath → String
  | .bundle name => name
  | .backup place => place.name
  | .outside path => path

inductive PluginOperation
  | install
  | rollback
  | other (text : String)
  deriving DecidableEq, Repr

inductive PluginTransactionState
  | staging
  | backupCreated
  | committed
  | other (text : String)
  deriving DecidableEq, Repr

structure PluginTransaction where
  transactionId : String
  operation : PluginOperation
  state : PluginTransactionState
  symbolicName : String
  artifactSha256 : String
  target : PluginPath
  stage : PluginPath
  backup : Option PluginPath := none
  backupSha256 : Option String := none
  previousTarget : Option PluginPath
  deriving DecidableEq, Repr

/-- How far a rollback has come. -/
inductive PluginRollbackState
  | prepared
  | currentDisplaced
  deriving DecidableEq, Repr

/-- The journal of a rollback has fields of its own. -/
structure PluginRollbackTransaction where
  transactionId : String
  state : PluginRollbackState
  current : PluginPath
  backup : PluginPath
  displaced : PluginPath
  deriving DecidableEq, Repr

/-- A journal file, which something else may have written. -/
inductive PluginJournal
  | unreadable (what : String)
  | unsupported
  | document (transaction : PluginTransaction)
  | rollback (transaction : PluginRollbackTransaction)
  deriving DecidableEq, Repr

inductive PluginEvent
  | installCommitted (transactionId symbolicName version sha256 : String)
      (backup : Option PluginPath)
  | installFailed (transactionId error : String) (rollbackVerified : Bool)
  | rollbackCommitted (transactionId symbolicName : String) (restored : PluginPath)
      (restoredSha256 : String) (displaced : PluginPath)
  | rollbackFailed (transactionId symbolicName error : String) (rollbackVerified : Bool)
  | transactionRecovered (transactionId outcome : String)
  | transactionRecoveryFailed (transactionId error : String)
  deriving DecidableEq, Repr

structure PluginReport where
  passed : Bool := false
  published : Option PluginPath := none
  backup : Option PluginPath := none
  error : Option String := none
  rollbackError : Option String := none
  rollbackVerified : Option Bool := none
  outcome : Option String := none
  restored : Option PluginPath := none
  restoredSha256 : Option String := none
  displaced : Option PluginPath := none
  recoveryError : Option String := none
  deriving DecidableEq, Repr

/-- The files that the plugin manager works on. -/
structure PluginStore where
  bundles : List (String × PluginFile) := []
  backups : List (BackupPlace × PluginFile) := []
  /-- The directories that were made for the backups of a transaction. -/
  roots : List (String × String) := []
  journal : Option PluginJournal := none
  lock : Option String := none
  audit : List PluginEvent := []
  report : Option PluginReport := none
  deriving DecidableEq, Repr

namespace PluginStore

def file (store : PluginStore) : PluginPath → Option PluginFile
  | .bundle name => store.bundles.lookup name
  | .backup place => store.backups.lookup place
  | .outside _ => none

def put (store : PluginStore) (path : PluginPath) (file : PluginFile) : PluginStore :=
  match path with
  | .bundle name => { store with bundles := assign name file store.bundles }
  | .backup place => { store with backups := assign place file store.backups }
  | .outside _ => store

def remove (store : PluginStore) : PluginPath → PluginStore
  | .bundle name => { store with bundles := eraseKey name store.bundles }
  | .backup place => { store with backups := eraseKey place store.backups }
  | .outside _ => store

/-- Whether a path names a file. -/
def exists' (store : PluginStore) (path : PluginPath) : Bool :=
  (store.file path).isSome

end PluginStore

/-- The lock is created exclusively, and its content is written after that. -/
def acquireLock (transactionId : String) : Action PluginStore where
  effect store :=
    if store.lock.isSome then .error "File exists" else .ok { store with lock := some transactionId }
  torn store := if store.lock.isSome then [] else [{ store with lock := some "" }]

/-- Reading a file back changes nothing, but it may raise. -/
def readBack : Action PluginStore :=
  .atomic fun store => .ok store

def releaseLock : Action PluginStore :=
  .atomic fun store => .ok { store with lock := none }

/-- Replacing the journal through a temporary file. -/
def writeJournal (transaction : PluginTransaction) : Action PluginStore :=
  .atomic fun store => .ok { store with journal := some (.document transaction) }

def writeRollbackJournal (transaction : PluginRollbackTransaction) : Action PluginStore :=
  .atomic fun store => .ok { store with journal := some (.rollback transaction) }

def unlinkJournal (missingOk : Bool) : Action PluginStore :=
  .atomic fun store =>
    if store.journal.isNone && !missingOk then .error "No such file or directory"
    else .ok { store with journal := none }

/-- Copying leaves a part of the content when it is interrupted. -/
def copyfile (content : List UInt8) (modified : Int) (target : PluginPath) : Action PluginStore where
  effect store := .ok (store.put target ⟨content, modified⟩)
  torn store := (List.range content.length).map fun size =>
    store.put target ⟨content.take size, modified⟩

def replace (source target : PluginPath) : Action PluginStore :=
  .atomic fun store =>
    match store.file source with
    | none => .error "No such file or directory"
    | some file => .ok ((store.remove source).put target file)

def unlink (path : PluginPath) : Action PluginStore :=
  .atomic fun store => .ok (store.remove path)

/-- The directory of a backup must not exist yet, unlike that of a failed artifact. -/
def makeDirectory (folder transactionId : String) (existOk : Bool) : Action PluginStore :=
  .atomic fun store =>
    if (folder, transactionId) ∈ store.roots then
      if existOk then .ok store else .error "File exists"
    else .ok { store with roots := store.roots ++ [(folder, transactionId)] }

def appendAudit (event : PluginEvent) : Action PluginStore :=
  .atomic fun store => .ok { store with audit := store.audit ++ [event] }

def writeReport (report : PluginReport) : Action PluginStore :=
  .atomic fun store => .ok { store with report := some report }

structure PluginContract where
  apiVersion : String
  abiVersion : String
  abiFingerprint : String
  runtimeVersionRange : String
  deriving DecidableEq, Repr

structure BundleInfo where
  fileName : String
  canonicalFileName : String
  sha256 : String
  symbolicName : String
  version : String
  /-- The names and the requested versions of the required bundles. -/
  dependencies : List (String × String)
  pluginContract : PluginContract
  deriving DecidableEq, Repr

structure RuntimeContract where
  runtimeVersion : String
  pluginApiVersion : String
  pluginAbiVersion : String
  abiFingerprint : String
  deriving DecidableEq, Repr

/-- The readers of archives, contracts, signatures and versions, and the digest. -/
structure PluginChecks where
  readBundle : (fileName : String) → (content : List UInt8) → (requirePlugin : Bool) →
    Except String BundleInfo
  sha256 : List UInt8 → String
  loadRuntimeContract : Except String RuntimeContract
  verifyPluginProvenance : BundleInfo → Except String Unit
  versionMatches : (version requested : String) → Except String Bool

structure PluginArguments where
  artifactName : String
  artifact : List UInt8
  expectedSha256 : Option String
  confirmRuntimeStopped : Bool
  report : Bool
  /-- The identifier that is drawn for the transaction, and the time of the copy. -/
  transactionId : String
  copiedAt : Int

structure PluginPreflight where
  passed : Bool
  artifact : BundleInfo
  current : Option BundleInfo
  deriving DecidableEq, Repr

/-- What the archive says of itself, with the name and the digest of its file. -/
def inspectBundle (checks : PluginChecks) (fileName : String) (content : List UInt8)
    (requirePlugin : Bool) : Except String BundleInfo :=
  (checks.readBundle fileName content requirePlugin).map fun info =>
    { info with fileName, sha256 := checks.sha256 content }

/-- Reading bundles one after another; two of one symbolic name are refused. -/
def inventoryFrom (checks : PluginChecks) : List (String × PluginFile) →
    List (String × BundleInfo) → Except String (List (String × BundleInfo))
  | [], result => .ok result
  | (name, file) :: rest, result =>
    match inspectBundle checks name file.content false with
    | .error error => .error s!"cannot inventory installed Bundle {name}: {error}"
    | .ok info =>
      if (result.lookup info.symbolicName).isSome then
        .error s!"runtime contains duplicate Bundle symbolic name: {info.symbolicName}"
      else inventoryFrom checks rest (result ++ [(info.symbolicName, info)])

/-- The installed bundles by symbolic name, in the order of their file names. -/
def inventory (checks : PluginChecks) (bundles : List (String × PluginFile)) :
    Except String (List (String × BundleInfo)) :=
  let artifacts := bundles.filter fun bundle => ".bndl".toList.isSuffixOf bundle.1.toList
  inventoryFrom checks (artifacts.insertionSort fun first second => first.1 ≤ second.1) []

/-- Whether a text is a digest in hexadecimal characters. -/
def isDigest (text : String) : Bool :=
  text.length == 64 && text.toList.all fun character =>
    character.isDigit || ('a' ≤ character && character ≤ 'f')

def approveDigest (expectedSha256 : Option String) (digest : String) : Except String Unit :=
  match expectedSha256.filter (!·.isEmpty) with
  | none => .ok ()
  | some expected =>
    let normalized := expected.toLower
    if !isDigest normalized then
      .error "expected SHA-256 must contain exactly 64 hexadecimal characters"
    else if digest != normalized then
      .error "plugin artifact SHA-256 does not match the approved digest"
    else .ok ()

def contractCompatible (checks : PluginChecks) (declared : PluginContract)
    (contract : RuntimeContract) : Except String Bool := do
  let runtime ← if declared.runtimeVersionRange.isEmpty then pure false
    else checks.versionMatches contract.runtimeVersion declared.runtimeVersionRange
  return declared.apiVersion == contract.pluginApiVersion &&
    declared.abiVersion == contract.pluginAbiVersion &&
    declared.abiFingerprint == contract.abiFingerprint && runtime

/-- Whether the candidates satisfy every dependency; a version may be unreadable. -/
def dependenciesMatched (checks : PluginChecks) (candidates : List (String × BundleInfo)) :
    List (String × String) → Except String Bool
  | [] => .ok true
  | (id, requested) :: rest =>
    match candidates.lookup id with
    | none => (dependenciesMatched checks candidates rest).map fun _ => false
    | some available =>
      match checks.versionMatches available.version requested with
      | .error error => .error error
      | .ok matched => (dependenciesMatched checks candidates rest).map (matched && ·)

def preflight (checks : PluginChecks) (arguments : PluginArguments)
    (bundles : List (String × PluginFile)) : Except String PluginPreflight := do
  let info ← inspectBundle checks arguments.artifactName arguments.artifact true
  approveDigest arguments.expectedSha256 info.sha256
  let contract ← checks.loadRuntimeContract
  checks.verifyPluginProvenance info
  let compatible ← contractCompatible checks info.pluginContract contract
  let installed ← inventory checks bundles
  -- The candidate counts as installed when its own dependencies are checked.
  let candidates := assign info.symbolicName info installed
  let matched ← dependenciesMatched checks candidates info.dependencies
  return {
    passed := compatible && matched
    artifact := info
    current := installed.lookup info.symbolicName }

section Install

/-- The variables of an installation that its handlers read. -/
structure InstallLocals where
  stage : Option PluginPath := none
  backupArtifact : Option PluginPath := none
  published : Option PluginPath := none
  lockAcquired : Bool := false
  report : PluginReport := {}
  deriving DecidableEq, Repr

/-- A step of an installation or of a recovery. -/
abbrev PluginProcess (ℓ α : Type) := Process (PluginStore × ℓ) α

open Process

def checkDigest {ℓ : Type} (checks : PluginChecks) (path : PluginPath) (expected message : String) :
    PluginProcess ℓ Unit := do
  durable readBack
  let file ← get fun state => state.1.file path
  match file with
  | none => raise "No such file or directory"
  | some file => reject (checks.sha256 file.content != expected) message

/-- Taking the lock, and checking the artifact against what is installed. -/
def admitArtifact (checks : PluginChecks) (arguments : PluginArguments) :
    PluginProcess InstallLocals PluginPreflight := do
  reject (!arguments.confirmRuntimeStopped)
    "refusing plugin installation without --confirm-runtime-stopped"
  let journal ← get fun state => state.1.journal
  reject journal.isSome
    "an interrupted plugin transaction exists; inspect it before retrying"
  durable (acquireLock arguments.transactionId)
  set fun state => (state.1, { state.2 with lockAcquired := true })
  let bundles ← get fun state => state.1.bundles
  let evidence ← ofExcept (preflight checks arguments bundles)
  reject (!evidence.passed) "plugin dependency preflight failed"
  return evidence

def publishedPath (info : BundleInfo) : PluginPath :=
  .bundle info.canonicalFileName

def stagePath (arguments : PluginArguments) (info : BundleInfo) : PluginPath :=
  .bundle ("." ++ info.canonicalFileName ++ ".staging-" ++ arguments.transactionId)

/-- The journal of an installation before anything has been moved. -/
def newTransaction (arguments : PluginArguments) (evidence : PluginPreflight) :
    PluginTransaction where
  transactionId := arguments.transactionId
  operation := .install
  state := .staging
  symbolicName := evidence.artifact.symbolicName
  artifactSha256 := evidence.artifact.sha256
  target := publishedPath evidence.artifact
  stage := stagePath arguments evidence.artifact
  previousTarget := evidence.current.map fun current => .bundle current.fileName

/-- Journalling the transaction, and copying the artifact next to the installed ones. -/
def stageArtifact (checks : PluginChecks) (arguments : PluginArguments)
    (evidence : PluginPreflight) : PluginProcess InstallLocals Unit := do
  let stage := stagePath arguments evidence.artifact
  set fun state => (state.1, { state.2 with
    published := some (publishedPath evidence.artifact), stage := some stage })
  durable (writeJournal (newTransaction arguments evidence))
  durable (copyfile arguments.artifact arguments.copiedAt stage)
  checkDigest checks stage evidence.artifact.sha256 "staged plugin digest changed during copy"

/-- Moving the installed plugin, if any, away, and journalling where it is. -/
def backupCurrent (arguments : PluginArguments) (evidence : PluginPreflight) :
    PluginProcess InstallLocals PluginTransaction :=
  let transaction := newTransaction arguments evidence
  match evidence.current with
  | none => return transaction
  | some current => do
    let folder := evidence.artifact.symbolicName
    durable (makeDirectory folder arguments.transactionId false)
    let artifact := PluginPath.backup ⟨folder, arguments.transactionId, current.fileName⟩
    set fun state => (state.1, { state.2 with backupArtifact := some artifact })
    durable (replace (.bundle current.fileName) artifact)
    let transaction := { transaction with
      state := .backupCreated, backup := some artifact, backupSha256 := some current.sha256 }
    durable (writeJournal transaction)
    return transaction

/-- Putting the staged artifact in its place. -/
def publishArtifact (checks : PluginChecks) (arguments : PluginArguments)
    (info : BundleInfo) (transaction : PluginTransaction) : PluginProcess InstallLocals Nat := do
  let published := publishedPath info
  durable (replace (stagePath arguments info) published)
  checkDigest checks published info.sha256
    "published plugin digest does not match staged artifact"
  durable (writeJournal { transaction with state := .committed })
  set fun state => (state.1, { state.2 with report := { state.2.report with
    passed := true, published := some published, backup := transaction.backup } })
  durable (appendAudit (.installCommitted arguments.transactionId info.symbolicName info.version
    info.sha256 transaction.backup))
  durable (unlinkJournal false)
  return 0

/-- The part of an installation that a handler guards. -/
def installBody (checks : PluginChecks) (arguments : PluginArguments) :
    PluginProcess InstallLocals Nat := do
  let evidence ← admitArtifact checks arguments
  stageArtifact checks arguments evidence
  let transaction ← backupCurrent arguments evidence
  publishArtifact checks arguments evidence.artifact transaction

/-- Putting a failed artifact aside. -/
def setAside {ℓ : Type} (transactionId : String) (path : PluginPath) : PluginProcess ℓ Unit := do
  durable (makeDirectory "failed" transactionId true)
  durable (replace path (.backup ⟨"failed", transactionId, path.name⟩))

/-- Undoing what an installation did to the bundles; the result says whether that is verified. -/
def undoInstall (arguments : PluginArguments) : PluginProcess InstallLocals Bool := do
  let locals ← get fun state => state.2
  let here ← get fun state => fun (path : Option PluginPath) => path.filter state.1.exists'
  match here locals.backupArtifact with
  | some artifact =>
    let published := here locals.published
    published.elim (return ()) (setAside arguments.transactionId)
    let original := PluginPath.bundle artifact.name
    durable (replace artifact original)
    get fun state => state.1.exists' original
  | none =>
    match here locals.published with
    | some published =>
      setAside arguments.transactionId published
      get fun state => !state.1.exists' published
    | none => return false

/-- The handler of an installation. -/
def installFailed (arguments : PluginArguments) (error : String) :
    PluginProcess InstallLocals Nat := do
  let rollbackVerified ← (undoInstall arguments).catching fun rollbackError => do
    set fun state => (state.1, { state.2 with report := { state.2.report with
      rollbackError := some rollbackError } })
    return false
  set fun state => (state.1, { state.2 with report := { state.2.report with
    error := some error, rollbackVerified := some rollbackVerified } })
  durable (appendAudit (.installFailed arguments.transactionId error rollbackVerified))
  let settled ← get fun state => rollbackVerified || state.1.journal.isNone ||
    (state.2.backupArtifact.isNone && (state.2.published.filter state.1.exists').isNone)
  whenever settled (durable (unlinkJournal true))
  return 1

def installEnd (arguments : PluginArguments) : PluginProcess InstallLocals Unit := do
  let locals ← get fun state => state.2
  let stage ← get fun state => locals.stage.filter state.1.exists'
  stage.elim (return ()) fun stage => durable (unlink stage)
  whenever arguments.report (durable (writeReport locals.report))
  whenever locals.lockAcquired (durable releaseLock)

def installPlugin (checks : PluginChecks) (arguments : PluginArguments) :
    PluginProcess InstallLocals Nat :=
  ((installBody checks arguments).catching (installFailed arguments)).ensuring
    (installEnd arguments)

end Install

section Rollback

open Process

structure PluginRollbackArguments where
  symbolicName : String
  expectedCurrentSha256 : String
  expectedBackupSha256 : String
  confirmRuntimeStopped : Bool
  report : Bool
  /-- The identifier that is drawn for the transaction. -/
  transactionId : String

/-- The variables of a rollback that its handlers read. -/
structure PluginRollbackLocals where
  displaced : Option PluginPath := none
  restored : Option PluginPath := none
  currentPath : Option PluginPath := none
  lockAcquired : Bool := false
  report : PluginReport := {}
  deriving DecidableEq, Repr

/-- The backups of a plugin, the newest first. -/
def pluginBackups (symbolicName : String) (store : PluginStore) : List BackupPlace :=
  let candidates := store.backups.filter fun backup =>
    backup.1.folder = symbolicName && ".bndl".toList.isSuffixOf backup.1.name.toList
  (candidates.insertionSort fun first second => first.2.modified ≥ second.2.modified).map Prod.fst

/-- Taking the lock, and checking both copies against what was approved. -/
def admitRollback (checks : PluginChecks) (arguments : PluginRollbackArguments)
    (backup : BackupPlace) : PluginProcess PluginRollbackLocals (BundleInfo × BundleInfo) := do
  let journal ← get fun state => state.1.journal
  reject journal.isSome "an interrupted plugin transaction exists; inspect it before retrying"
  durable (acquireLock arguments.transactionId)
  set fun state => (state.1, { state.2 with lockAcquired := true })
  let file ← get fun state => state.1.file (.backup backup)
  let backupInfo ← ofExcept (file.elim
    (.error "plugin artifact must be an existing .bndl file")
    fun file => inspectBundle checks backup.name file.content true)
  reject (backupInfo.symbolicName != arguments.symbolicName)
    "backup symbolic name does not match rollback target"
  reject (backupInfo.sha256 != arguments.expectedBackupSha256.toLower)
    "backup SHA-256 does not match the approved digest"
  let bundles ← get fun state => state.1.bundles
  let installed ← ofExcept (inventory checks bundles)
  match installed.filter (·.2.symbolicName = arguments.symbolicName) with
  | [(_, current)] =>
    reject (current.sha256 != arguments.expectedCurrentSha256.toLower)
      "current plugin SHA-256 does not match the approved digest"
    return (backupInfo, current)
  | _ => raise "rollback requires exactly one currently installed plugin"

def displacedPath (arguments : PluginRollbackArguments) (current : BundleInfo) : PluginPath :=
  .backup ⟨arguments.symbolicName, arguments.transactionId, current.fileName⟩

def newRollback (arguments : PluginRollbackArguments) (backup : BackupPlace)
    (current : BundleInfo) : PluginRollbackTransaction where
  transactionId := arguments.transactionId
  state := .prepared
  current := .bundle current.fileName
  backup := .backup backup
  displaced := displacedPath arguments current

/-- Moving the installed plugin away; the journal is written before and after. -/
def displaceCurrent (arguments : PluginRollbackArguments) (backup : BackupPlace)
    (current : BundleInfo) : PluginProcess PluginRollbackLocals Unit := do
  let transaction := newRollback arguments backup current
  set fun state => (state.1, { state.2 with
    currentPath := some transaction.current, displaced := some transaction.displaced })
  durable (makeDirectory arguments.symbolicName arguments.transactionId false)
  durable (writeRollbackJournal transaction)
  durable (replace transaction.current transaction.displaced)
  durable (writeRollbackJournal { transaction with state := .currentDisplaced })

/-- Putting the backup in place. -/
def restoreBackup (checks : PluginChecks) (arguments : PluginRollbackArguments)
    (backup : BackupPlace) (backupInfo current : BundleInfo) :
    PluginProcess PluginRollbackLocals Nat := do
  let restored := PluginPath.bundle backupInfo.canonicalFileName
  let displaced := displacedPath arguments current
  set fun state => (state.1, { state.2 with restored := some restored })
  durable (replace (.backup backup) restored)
  checkDigest checks restored backupInfo.sha256 "restored plugin digest verification failed"
  set fun state => (state.1, { state.2 with report := { state.2.report with
    passed := true, restored := some restored, restoredSha256 := some backupInfo.sha256
    displaced := some displaced } })
  durable (appendAudit (.rollbackCommitted arguments.transactionId arguments.symbolicName restored
    backupInfo.sha256 displaced))
  let report ← get fun state => state.2.report
  whenever arguments.report (durable (writeReport report))
  durable (unlinkJournal false)
  return 0

def rollbackPluginBody (checks : PluginChecks) (arguments : PluginRollbackArguments)
    (backup : BackupPlace) : PluginProcess PluginRollbackLocals Nat := do
  let (backupInfo, current) ← admitRollback checks arguments backup
  displaceCurrent arguments backup current
  restoreBackup checks arguments backup backupInfo current

/-- Undoing a rollback; the result says whether the current plugin is verified to be back. -/
def undoRollback (backup : BackupPlace) : PluginProcess PluginRollbackLocals Bool := do
  let locals ← get fun state => state.2
  let restored ← get fun state => locals.restored.filter state.1.exists'
  restored.elim (return ()) fun restored => do
    durable (makeDirectory backup.folder backup.transactionId true)
    durable (replace restored (.backup backup))
  let displaced ← get fun state => locals.displaced.filter state.1.exists'
  match displaced, locals.currentPath with
  | some displaced, some current =>
    durable (replace displaced current)
    get fun state => state.1.exists' current
  | _, _ => return false

/-- The handler of a rollback. -/
def rollbackPluginFailed (arguments : PluginRollbackArguments) (backup : BackupPlace)
    (error : String) : PluginProcess PluginRollbackLocals Nat := do
  let rollbackVerified ← (undoRollback backup).catching fun recoveryError => do
    set fun state => (state.1, { state.2 with report := { state.2.report with
      recoveryError := some recoveryError } })
    return false
  set fun state => (state.1, { state.2 with report := { state.2.report with
    error := some error, rollbackVerified := some rollbackVerified } })
  durable (appendAudit (.rollbackFailed arguments.transactionId arguments.symbolicName error
    rollbackVerified))
  let settled ← get fun state => rollbackVerified || state.1.journal.isNone
  whenever settled (durable (unlinkJournal true))
  let report ← get fun state => state.2.report
  whenever arguments.report (durable (writeReport report))
  return 1

def rollbackPluginEnd : PluginProcess PluginRollbackLocals Unit := do
  let lockAcquired ← get fun state => state.2.lockAcquired
  whenever lockAcquired (durable releaseLock)

def rollbackPlugin (checks : PluginChecks) (arguments : PluginRollbackArguments) :
    PluginProcess PluginRollbackLocals Nat :=
  if !arguments.confirmRuntimeStopped then return 1
  else do
    let candidates ← get fun state => pluginBackups arguments.symbolicName state.1
    match candidates with
    | [] => return 1
    | backup :: _ =>
      ((rollbackPluginBody checks arguments backup).catching
        (rollbackPluginFailed arguments backup)).ensuring rollbackPluginEnd

end Rollback

section Recover

open Process

structure RecoverArguments where
  confirmRuntimeStopped : Bool
  report : Bool

structure RecoverLocals where
  transactionId : String := "unknown"
  lockAcquired : Bool := false
  deriving DecidableEq, Repr

def PluginPath.withinBundles : PluginPath → Bool
  | .bundle _ => true
  | _ => false

def PluginPath.withinBackups : PluginPath → Bool
  | .backup _ => true
  | _ => false

def PluginJournal.installation : PluginJournal → Except String PluginTransaction
  | .unreadable what => .error what
  | .unsupported | .rollback _ => .error "unsupported plugin transaction journal"
  | .document transaction =>
    if transaction.operation = .install then .ok transaction
    else .error "unsupported plugin transaction journal"

/-- Whether the paths of a transaction stay where they belong. -/
def PluginTransaction.confined (transaction : PluginTransaction) : Except String Unit :=
  if !transaction.target.withinBundles || !transaction.stage.withinBundles then
    .error "transaction target or staging path escapes the Bundle directory"
  else if transaction.backup.any (!·.withinBackups) then
    .error "transaction backup path escapes the backup directory"
  else if transaction.previousTarget.any (!·.withinBundles) then
    .error "transaction previous target escapes the Bundle directory"
  else .ok ()

/-- Bringing back the plugin that an interrupted installation moved away. -/
def restorePrevious (checks : PluginChecks) (transaction : PluginTransaction) :
    PluginProcess RecoverLocals Unit := do
  let backup ← get fun state => transaction.backup.filter state.1.exists'
  match backup, transaction.previousTarget with
  | some backup, some previous =>
    let published ← get fun state => state.1.exists' transaction.target
    whenever published (setAside transaction.transactionId transaction.target)
    durable (replace backup previous)
    (transaction.backupSha256.filter (!·.isEmpty)).elim (return ()) fun expected =>
      checkDigest checks previous expected
        "recovered plugin digest does not match transaction journal"
    durable (unlink transaction.stage)
  | _, _ => raise "backup-created transaction is missing recovery material"

/-- Reconciling the bundles with the state that the journal had reached. -/
def reconcile (checks : PluginChecks) (transaction : PluginTransaction) :
    PluginProcess RecoverLocals String :=
  match transaction.state with
  | .staging => do
    durable (unlink transaction.stage)
    return "staging-discarded"
  | .backupCreated => do
    restorePrevious checks transaction
    return "previous-plugin-restored"
  | .committed => do
    let file ← get fun state => state.1.file transaction.target
    reject (file.all fun file => checks.sha256 file.content != transaction.artifactSha256)
      "committed plugin cannot be verified"
    durable (unlink transaction.stage)
    return "committed-plugin-verified"
  | .other text => raise s!"unsupported plugin transaction state: {text}"

def recoverBody (checks : PluginChecks) (arguments : RecoverArguments) (journal : PluginJournal) :
    PluginProcess RecoverLocals Nat := do
  let transaction ← ofExcept journal.installation
  set fun state => (state.1, { state.2 with transactionId := transaction.transactionId })
  durable (acquireLock transaction.transactionId)
  set fun state => (state.1, { state.2 with lockAcquired := true })
  ofExcept transaction.confined
  let outcome ← reconcile checks transaction
  durable (unlinkJournal false)
  durable (appendAudit (.transactionRecovered transaction.transactionId outcome))
  whenever arguments.report (durable (writeReport { passed := true, outcome := some outcome }))
  return 0

def recoverFailed (error : String) : PluginProcess RecoverLocals Nat := do
  let transactionId ← get fun state => state.2.transactionId
  durable (appendAudit (.transactionRecoveryFailed transactionId error))
  return 1

def recoverEnd : PluginProcess RecoverLocals Unit := do
  let lockAcquired ← get fun state => state.2.lockAcquired
  whenever lockAcquired (durable releaseLock)

def recoverPlugin (checks : PluginChecks) (arguments : RecoverArguments) :
    PluginProcess RecoverLocals Nat :=
  if !arguments.confirmRuntimeStopped then return 1
  else do
    let journal ← get fun state => state.1.journal
    match journal with
    | none => return 1
    | some journal =>
      ((recoverBody checks arguments journal).catching recoverFailed).ensuring recoverEnd

end Recover

end PocoDDS.Tools
