import Mathlib.Data.String.Basic
import PocoDDS.Lib.Outcome
import PocoDDS.Lib.PosixPath
import PocoDDS.Lib.Process
import PocoDDS.Tools.SnapshotInspection

/-! Verifying a recovery point, and restoring the five files of a runtime from it. -/

namespace PocoDDS.Tools.RestorePoint

open CrashLogic JsonModel Monitoring OutcomeLogic PosixPaths ProcessLogic Process SnapshotInspection

section Verify

/-- What the manifest of a recovery point says of one file. -/
structure RecoveryEntry where
  role : String
  path : String
  sizeBytes : Int
  sha256 : String
  persistenceKind : Option String := none
  deriving DecidableEq, Repr

structure RecoveryManifest where
  product : String
  schemaVersion : Int
  type : String
  consistency : String
  files : List RecoveryEntry
  deriving DecidableEq, Repr

/-- A recovery point: its manifest, the recorded digest, and the other files by their paths. -/
structure RecoveryPoint where
  manifest : Option (List UInt8)
  digest : Option String
  artifacts : List (String × List UInt8)
  deriving DecidableEq, Repr

/-- The digest and the decoding of files, and the reader of a manifest. -/
structure RestoreHost where
  python : Python
  sha256 : List UInt8 → String
  /-- The text of a file, if it is UTF-8. -/
  decode : List UInt8 → Option String
  readManifest : List UInt8 → Except String RecoveryManifest

variable (host : RestoreHost)

/-- Whether a file has the size and the digest that an entry states. -/
def describes (sizeBytes : Int) (sha256 : String) (content : List UInt8) : Bool :=
  (content.length : Int) == sizeBytes && host.sha256 content == sha256

def snapshotValid (path : String) (kind : SnapshotKind) (file : Option (List UInt8)) : Bool :=
  match file with
  | none => false
  | some content =>
    match host.decode content with
    | none => false
    | some text => (inspectPersistenceSnapshot host.python path kind (some text)).valid

def safeRecoveryRelative (value : String) : Except String String :=
  let path := PosixPath.parse value
  if path.absolute || '\\' ∈ value.toList || path.parts.isEmpty || ".." ∈ path.parts then
    .error ("unsafe recovery-point path: " ++ host.python.repr (some (.str value)))
  else .ok path.asPosix

/-- The kinds of snapshots that the tool can inspect. -/
def persistenceKind : String → Option SnapshotKind
  | "tasks" => some .tasks
  | "idempotency" => some .requests
  | _ => none

/-- Checking one entry of a manifest, given the roles and the paths of the entries before it. -/
def verifyEntry (point : RecoveryPoint) (roles paths : List String) (entry : RecoveryEntry) :
    Except String String := do
  let path ← safeRecoveryRelative host entry.path
  if entry.role ∈ roles ∨ path ∈ paths then
    .error ("duplicate recovery manifest entry: " ++ entry.role ++ "/" ++ path)
  else
    match point.artifacts.lookup path with
    | none => .error ("missing recovery artifact: " ++ path)
    | some content =>
      if !describes host entry.sizeBytes entry.sha256 content then
        .error ("recovery artifact verification failed: " ++ path)
      else
        match entry.persistenceKind with
        | none => .ok path
        | some kind =>
          match persistenceKind kind with
          | none => .error ("invalid persistence kind for " ++ path)
          | some kind =>
            if !snapshotValid host path kind (some content) then
              .error ("invalid persistence snapshot: " ++ path)
            else .ok path

/-- Checking the entries one after another; the result is the roles and the paths of all of them. -/
def verifyEntries (point : RecoveryPoint) (roles paths : List String) :
    List RecoveryEntry → Except String (List String × List String)
  | [] => .ok (roles, paths)
  | entry :: rest => do
    let path ← verifyEntry host point roles paths entry
    verifyEntries point (roles ++ [entry.role]) (paths ++ [path]) rest

def requiredRoles : List String :=
  ["configuration", "management-tasks", "management-idempotency", "management-audit"]

def manifestNames : List String :=
  ["recovery-manifest.json", "recovery-manifest.sha256"]

/-- `verify_recovery_point_path`: the digest of a manifest whose files are all as it says. -/
def verifyRecoveryPoint (point : RecoveryPoint) : Except String String :=
  match point.manifest, point.digest with
  | some text, some expected => do
    if !SnapshotInspection.isDigest expected then .error "invalid recovery-manifest.sha256"
    if host.sha256 text ≠ expected then .error "recovery manifest digest mismatch"
    let manifest ← host.readManifest text
    if manifest.product ≠ "PocoDDSRuntime" ∨ manifest.schemaVersion ≠ 1 ∨
        manifest.type ≠ "management-recovery-point" ∨
        manifest.consistency ≠ "runtime-stopped" then
      .error "unsupported recovery manifest"
    if manifest.files.isEmpty then .error "recovery manifest contains no files"
    let (roles, paths) ← verifyEntries host point [] manifestNames manifest.files
    if !requiredRoles.all (· ∈ roles) then .error "recovery manifest is missing a required role"
    let actual := manifestNames ++ point.artifacts.map Prod.fst
    let sorted := fun names : List String => names.insertionSort fun first second => first ≤ second
    match sorted (actual.filter (· ∉ paths)), sorted (paths.filter (· ∉ actual)) with
    | unexpected :: _, _ => .error ("unexpected recovery artifact: " ++ unexpected)
    | [], missing :: _ => .error ("missing recovery artifact: " ++ missing)
    | [], [] => .ok (host.sha256 text)
  | _, _ => .error "recovery point, manifest or manifest digest is missing"

end Verify

/-- The files that a restore replaces. -/
inductive Role
  | configuration
  | managementTasks
  | managementIdempotency
  | managementAudit
  | managementAuditPrevious
  deriving DecidableEq, Repr

def Role.name : Role → String
  | .configuration => "configuration"
  | .managementTasks => "management-tasks"
  | .managementIdempotency => "management-idempotency"
  | .managementAudit => "management-audit"
  | .managementAuditPrevious => "management-audit-previous"

/-- The roles in the order of the destinations. -/
def Role.all : List Role :=
  [.configuration, .managementTasks, .managementIdempotency, .managementAudit,
    .managementAuditPrevious]

/-- A file of the role: where it belongs, beside it, and in the evidence of the restore. -/
inductive RestorePlace
  | destination (role : Role)
  | staged (role : Role)
  | rollbackStage (role : Role)
  | archiving (role : Role)
  | archived (role : Role)
  deriving DecidableEq, Repr

/-- What the archive says of a destination: its size and digest, if there was a file. -/
structure ArchiveEntry where
  role : Role
  existed : Option (Nat × String)
  deriving DecidableEq, Repr

inductive RestoreEvent
  | started (restoreId operator manifestSha256 : String)
  | finished (restoreId operator : String) (passed rollbackAttempted : Bool)
      (rollbackPassed : Option Bool) (error : Option String)
  deriving DecidableEq, Repr

structure RestoreReport where
  passed : Bool
  error : Option String
  rollbackAttempted : Bool
  rollbackPassed : Option Bool
  rollbackErrors : List String
  operationAuditError : Option String
  deriving DecidableEq, Repr

structure RestoreDisk where
  file : RestorePlace → Option (List UInt8)
  /-- Whether the directory of the archive is being made. -/
  archiveStaging : Bool := false
  /-- The manifest that the archive gets. -/
  preRestoreManifest : Option (List ArchiveEntry) := none
  operationAudit : List RestoreEvent := []
  report : Option RestoreReport := none

namespace RestoreDisk

def put (disk : RestoreDisk) (place : RestorePlace) (content : Option (List UInt8)) :
    RestoreDisk :=
  { disk with file := Function.update disk.file place content }

end RestoreDisk

/-- Reading a file, which changes nothing but may fail. -/
def readFile : Action RestoreDisk :=
  .atomic fun disk => .ok disk

/-- Copying a file leaves a part of it when it is interrupted. -/
def copyContent (content : List UInt8) (destination : RestorePlace) : Action RestoreDisk where
  effect disk := .ok (disk.put destination (some content))
  torn disk := (List.range content.length).map fun size =>
    disk.put destination (some (content.take size))

def copyFile (source destination : RestorePlace) : Action RestoreDisk where
  effect disk :=
    match disk.file source with
    | none => .error "No such file or directory"
    | some content => (copyContent content destination).effect disk
  torn disk :=
    match disk.file source with
    | none => []
    | some content => (copyContent content destination).torn disk

/-- Renaming a file to a path, in place of what is there. -/
def replaceFile (source destination : RestorePlace) : Action RestoreDisk :=
  .atomic fun disk =>
    match disk.file source with
    | none => .error "No such file or directory"
    | some content => .ok ((disk.put source none).put destination (some content))

def unlinkFile (place : RestorePlace) : Action RestoreDisk :=
  .atomic fun disk =>
    if (disk.file place).isNone then .error "No such file or directory"
    else .ok (disk.put place none)

/-- Making the directory of the archive, which has to be new. -/
def makeArchive : Action RestoreDisk :=
  .atomic fun disk =>
    if disk.archiveStaging then .error "File exists" else .ok { disk with archiveStaging := true }

def writeArchiveManifest (entries : List ArchiveEntry) : Action RestoreDisk :=
  .atomic fun disk => .ok { disk with preRestoreManifest := some entries }

/-- The archive gets its final name with all of its files. -/
def publishArchive : Action RestoreDisk :=
  .atomic fun disk => .ok { disk with
    archiveStaging := false
    file := fun
      | .archived role => disk.file (.archiving role)
      | .archiving _ => none
      | other => disk.file other }

/-- Removing an unfinished archive deletes its files one after another. -/
def discardArchive : Action RestoreDisk where
  effect disk := .ok { (Role.all.foldl (fun disk role => disk.put (.archiving role) none) disk) with
    archiveStaging := false
    preRestoreManifest := none }
  torn disk := (List.range (Role.all.length + 1)).map fun count =>
    (Role.all.take count).foldl (fun disk role => disk.put (.archiving role) none) disk

def appendAudit (event : RestoreEvent) : Action RestoreDisk :=
  .atomic fun disk => .ok { disk with operationAudit := disk.operationAudit ++ [event] }

def writeReport (report : RestoreReport) : Action RestoreDisk :=
  .atomic fun disk => .ok { disk with report := some report }

section Restore

structure RestoreArguments where
  restoreId : String
  operator : String
  confirmRuntimeStopped : Bool
  expectedManifestSha256 : String
  /-- The resolved paths of the destinations, of the recovery point and of the operation audit. -/
  destination : Role → String
  point : String
  operationAudit : String
  /-- Whether a report is asked for. -/
  report : Bool

/-- A destination with the entry that it is restored from, if there is one. -/
structure RestoreTarget where
  role : Role
  source : Option RecoveryEntry
  deriving DecidableEq, Repr

/-- The variables that the handlers of a restore read. -/
structure RestoreLocals where
  targets : List RestoreTarget := []
  operationAuditStarted : Bool := false
  /-- The entries of an archive while it is being made. -/
  collected : List ArchiveEntry := []
  /-- The entries of the archive once it has been published. -/
  archive : Option (List ArchiveEntry) := none
  stagedPaths : List Role := []
  mutationsStarted : Bool := false
  passed : Bool := false
  error : Option String := none
  rollbackAttempted : Bool := false
  rollbackErrors : List String := []
  rollbackPassed : Option Bool := none
  operationAuditError : Option String := none

abbrev RestoreProcess (α : Type) := Process (RestoreDisk × RestoreLocals) α

variable (host : RestoreHost) (arguments : RestoreArguments) (point : RecoveryPoint)

/-- The entry for a role; among several the last one counts. -/
def RecoveryManifest.entryOf (manifest : RecoveryManifest) (role : Role) : Option RecoveryEntry :=
  manifest.files.reverse.find? (·.role = role.name)

/-- The bytes that an entry of the manifest stands for. -/
def RecoveryPoint.artifact (point : RecoveryPoint) (entry : RecoveryEntry) :
    Option (List UInt8) :=
  (safeRecoveryRelative host entry.path).toOption.bind fun path =>
    point.artifacts.lookup path

/-- The checks of the paths, and the destinations with their sources. -/
def restoreTargets (manifest : RecoveryManifest) : Except String (List RestoreTarget) := do
  let paths := Role.all.map arguments.destination
  if ¬paths.Nodup then .error "restore destination paths must be distinct"
  if arguments.operationAudit ∈ paths then
    .error "operation audit must be outside restored destinations"
  Role.all.mapM fun role => do
    match manifest.entryOf role with
    | none => return ⟨role, none⟩
    | some entry => do
      let relative ← safeRecoveryRelative host entry.path
      if arguments.destination role = arguments.point ++ "/" ++ relative then
        .error ("restore source and destination overlap: " ++ role.name)
      return ⟨role, some entry⟩

def archiveTarget (target : RestoreTarget) : RestoreProcess Unit := do
  let there ← get fun state => (state.1.file (.destination target.role)).isSome
  if there then do
    durable (copyFile (.destination target.role) (.archiving target.role))
    durable readFile
    let copy ← get fun state => (state.1.file (.archiving target.role)).getD []
    set fun now => (now.1, { now.2 with
      collected := now.2.collected ++ [⟨target.role, some (copy.length, host.sha256 copy)⟩] })
  else set fun now => (now.1, { now.2 with
    collected := now.2.collected ++ [⟨target.role, none⟩] })

/-- Whether a file is as an entry of the archive says. -/
def matchesArchiveState (content : Option (List UInt8)) (entry : ArchiveEntry) : Bool :=
  match entry.existed with
  | none => content.isNone
  | some (sizeBytes, sha256) => content.any (describes host sizeBytes sha256)

def verifyArchived (entry : ArchiveEntry) : RestoreProcess Unit :=
  whenever entry.existed.isSome do
    durable readFile
    let copy ← get fun state => state.1.file (.archiving entry.role)
    reject (!matchesArchiveState host copy entry)
      ("pre-restore archive verification failed: " ++ entry.role.name)

/-- `archive_restore_targets`. -/
def archiveRestoreTargets (targets : List RestoreTarget) : RestoreProcess Unit :=
  (do durable makeArchive
      forEach targets (archiveTarget host)
      let entries ← get fun state => state.2.collected
      durable (writeArchiveManifest entries)
      forEach entries (verifyArchived host)
      durable publishArchive
      set fun now => (now.1, { now.2 with archive := some entries })).catching fun error => do
    let staging ← get fun state => state.1.archiveStaging
    whenever staging (durable discardArchive)
    raise error

/-- Copying the source of a destination beside it, and checking the copy. -/
def stageTarget (target : RestoreTarget) : RestoreProcess Unit :=
  match target.source with
  | none => return ()
  | some entry => do
    let there ← get fun state => (state.1.file (.staged target.role)).isSome
    reject there ("restore staging path already exists: " ++ arguments.destination target.role ++
      ".restore-" ++ arguments.restoreId ++ ".new")
    let source ← ofExcept ((point.artifact host entry).elim
      (.error "No such file or directory") .ok)
    durable (copyContent source (.staged target.role))
    durable readFile
    let staged ← get fun state => state.1.file (.staged target.role)
    reject (!staged.any (describes host entry.sizeBytes entry.sha256))
      ("staged restore verification failed: " ++ target.role.name)
    set fun now => (now.1, { now.2 with stagedPaths := now.2.stagedPaths ++ [target.role] })

def archiveEntryOf (entries : List ArchiveEntry) (role : Role) : Option ArchiveEntry :=
  entries.find? (·.role = role)

/-- Whether the archive has a copy of a destination. -/
def wasArchived (entries : List ArchiveEntry) (role : Role) : Bool :=
  (archiveEntryOf entries role).any fun entry => entry.existed.isSome

/-- `target_matches_archive_state`, on the file as it is now. -/
def checkArchiveState (entries : List ArchiveEntry) (role : Role) (message : String) :
    RestoreProcess Unit := do
  durable readFile
  let content ← get fun state => state.1.file (.destination role)
  reject (!(archiveEntryOf entries role).any (matchesArchiveState host content)) message

/-- The manifest is read again before anything is changed. -/
def checkManifest : RestoreProcess Unit := do
  durable readFile
  reject (point.manifest.map host.sha256 ≠ some arguments.expectedManifestSha256)
    "recovery manifest changed while preparing restore"

/-- Everything up to the first change of a destination. -/
def prepareRestore : RestoreProcess (List RestoreTarget) := do
  reject (!arguments.confirmRuntimeStopped) "refusing restore without --confirm-runtime-stopped"
  durable readFile
  let manifestSha256 ← ofExcept ((verifyRecoveryPoint host point).mapError
    ("invalid recovery point: " ++ ·))
  reject (manifestSha256 ≠ arguments.expectedManifestSha256)
    "recovery manifest changed since approval"
  durable readFile
  let manifest ← ofExcept (host.readManifest (point.manifest.getD []))
  let targets ← ofExcept (restoreTargets host arguments manifest)
  set fun now => (now.1, { now.2 with targets })
  durable (appendAudit (.started arguments.restoreId arguments.operator manifestSha256))
  set fun now => (now.1, { now.2 with operationAuditStarted := true })
  archiveRestoreTargets host targets
  forEach targets (stageTarget host arguments point)
  checkManifest host arguments point
  let entries ← get fun state => state.2.archive.getD []
  forEach targets fun target => checkArchiveState host entries target.role
    ("restore destination changed while preparing: " ++ target.role.name)
  return targets

def replaceTarget (target : RestoreTarget) : RestoreProcess Unit := do
  let staged ← get fun state => decide (target.role ∈ state.2.stagedPaths)
  if staged then durable (replaceFile (.staged target.role) (.destination target.role))
  else do
    let there ← get fun state => (state.1.file (.destination target.role)).isSome
    whenever there (durable (unlinkFile (.destination target.role)))

def checkRestored (target : RestoreTarget) : RestoreProcess Unit := do
  durable readFile
  let content ← get fun state => state.1.file (.destination target.role)
  match target.source with
  | none =>
    reject content.isSome ("restore expected destination to be absent: " ++ target.role.name)
  | some entry =>
    reject (!content.any (describes host entry.sizeBytes entry.sha256))
      ("post-restore verification failed: " ++ target.role.name)

def checkSnapshot (role : Role) (kind : SnapshotKind) (message : String) :
    RestoreProcess Unit := do
  durable readFile
  let content ← get fun state => state.1.file (.destination role)
  reject (!snapshotValid host (arguments.destination role) kind content) message

/-- Changing the destinations, and checking all of them. -/
def commitRestore (targets : List RestoreTarget) : RestoreProcess Unit := do
  set fun now => (now.1, { now.2 with mutationsStarted := true })
  forEach targets replaceTarget
  forEach targets (checkRestored host)
  checkSnapshot host arguments .managementTasks .tasks
    "restored task snapshot failed content verification"
  checkSnapshot host arguments .managementIdempotency .requests
    "restored idempotency snapshot failed content verification"
  set fun now => (now.1, { now.2 with passed := true })

/-- The part of a restore that a handler guards. -/
def restoreBody : RestoreProcess Unit := do
  let targets ← prepareRestore host arguments point
  commitRestore host arguments targets

def bringBack (entries : List ArchiveEntry) (target : RestoreTarget) : RestoreProcess Unit := do
  if wasArchived entries target.role then do
    durable (copyFile (.archived target.role) (.rollbackStage target.role))
    durable (replaceFile (.rollbackStage target.role) (.destination target.role))
  else do
    let there ← get fun state => (state.1.file (.destination target.role)).isSome
    whenever there (durable (unlinkFile (.destination target.role)))
  checkArchiveState host entries target.role "rollback verification failed"

/-- What fails is noted, and the next destination follows. -/
def rollbackTarget (entries : List ArchiveEntry) (target : RestoreTarget) : RestoreProcess Unit :=
  (bringBack host entries target).catching fun error => set fun now => (now.1, { now.2 with
    rollbackErrors := now.2.rollbackErrors ++ [target.role.name ++ ": " ++ error] })

/-- The handler: once a destination has been changed, all of them are brought back. -/
def restoreFailed (error : String) : RestoreProcess Nat := do
  set fun now => (now.1, { now.2 with error := some error })
  let locals ← get fun state => state.2
  match locals.mutationsStarted, locals.archive with
  | true, some entries => do
    set fun now => (now.1, { now.2 with rollbackAttempted := true })
    forEach locals.targets (rollbackTarget host entries)
    let errors ← get fun state => state.2.rollbackErrors
    set fun now => (now.1, { now.2 with rollbackPassed := some errors.isEmpty })
    return if errors.isEmpty then 2 else 3
  | _, _ => return 2

def removeStaged (role : Role) : RestoreProcess Unit := do
  let there ← get fun state => (state.1.file (.staged role)).isSome
  whenever there (durable (unlinkFile (.staged role)))

/-- A restore up to its finishing records; the result is the code so far. -/
def settleRestore : RestoreProcess Nat := do
  let code ← (do restoreBody host arguments point
                 return 0 : RestoreProcess Nat).catching (restoreFailed host)
  let staged ← get fun state => state.2.stagedPaths
  forEach staged removeStaged
  return code

def reportOf (locals : RestoreLocals) : RestoreReport where
  passed := locals.passed
  error := locals.error
  rollbackAttempted := locals.rollbackAttempted
  rollbackPassed := locals.rollbackPassed
  rollbackErrors := locals.rollbackErrors
  operationAuditError := locals.operationAuditError

/-- The record that a restore ends with, once it has begun one; where that cannot be written, a
success is none. -/
def recordFinish (code : Nat) : RestoreProcess Nat := do
  let locals ← get fun state => state.2
  if locals.operationAuditStarted then
    (do durable (appendAudit (.finished arguments.restoreId arguments.operator locals.passed
          locals.rollbackAttempted locals.rollbackPassed locals.error))
        return code : RestoreProcess Nat).catching fun error => do
      set fun now => (now.1, { now.2 with operationAuditError := some error })
      if code = 0 then do
        set fun now => (now.1, { now.2 with passed := false })
        return 3
      else return code
  else return code

def finishRestore (code : Nat) : RestoreProcess Nat := do
  let code ← recordFinish arguments code
  let report ← get fun state => reportOf state.2
  whenever arguments.report (durable (writeReport report))
  return code

def restoreRecoveryPoint : RestoreProcess Nat := do
  let code ← settleRestore host arguments point
  finishRestore arguments code

end Restore

end PocoDDS.Tools.RestorePoint
