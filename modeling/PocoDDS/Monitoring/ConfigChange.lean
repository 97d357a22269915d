import PocoDDS.Lib.Assoc
import PocoDDS.Lib.Json
import PocoDDS.Monitoring.RequestLedger
import PocoDDS.Monitoring.Snapshot

/-! Online configuration changes: the steps of one request, and how a failed one is undone. -/

namespace PocoDDS.Monitoring

open AssocList JsonModel

/-- Configuration items by key. -/
abbrev Properties := List (String × String)

/-- The text format of a properties file. -/
structure PropertyFormat where
  load : String → Option Properties
  save : Properties → String

inductive BundleState
  | uninstalled
  | installed
  | resolved
  | starting
  | active
  | stopping
  deriving DecidableEq, Repr

/-- A bundle: its state, and the configuration it found when it was last started. -/
structure BundleStatus where
  state : BundleState
  startedWith : Properties
  deriving DecidableEq, Repr

/-- Everything a configuration request reads or changes outside its own variables. -/
structure ConfigPlant where
  file : Option String
  staged : Option String
  backup : Option String
  metadata : Option String
  stagedMetadata : Option String
  previousMetadata : Option String
  audit : List Json
  preferences : Properties
  rootLevel : String
  bundles : List (String × BundleStatus)
  ledger : Ledger

/-- What the handler is configured with. -/
structure ConfigService where
  format : PropertyFormat
  library : JsonLibrary
  validate : Properties → Except String Unit
  preferencesAvailable : Bool
  manageableBundlePatterns : List String
  requireRequestId : Bool

/-- A request as it is after authorisation, with the clock readings and file outcomes it meets. -/
structure ConfigRequest where
  body : Json
  requestId : String
  fingerprintDigest : String
  principal : String
  remoteAddress : String
  transactionId : String
  timestampMicroseconds : Int
  admittedMicroseconds : Int
  completedMicroseconds : Int
  ledgerFiles : Except String Unit

/-- The steps that may raise, in the order in which a request takes them. -/
inductive ConfigStep
  | validate
  | stageFile
  | verifyStaged
  | stageMetadata
  | removeBackup
  | copyBackup
  | replaceFile
  | setPreference
  | setLevel
  | manageOwner
  | stopOwner
  | ownerStopped
  | startOwner
  | ownerStarted
  | removePrevious
  | copyPrevious
  | replaceMetadata
  | appendAudit
  | forgetPrevious
  | sendResponse
  deriving DecidableEq, Repr

/-- The local variables of the handler, beside the plant. -/
structure ConfigRun where
  plant : ConfigPlant
  action : String
  key : String
  value : String
  oldValue : String
  owner : String
  fileCommitted : Bool
  metadataCommitted : Bool
  runtimeApplied : Bool
  ownerWasActive : Bool
  conflict : Bool
  failureStatus : Nat
  /-- The name of the staged file is only known after the checks. -/
  stagedNamed : Bool
  guard : ManagementRequestGuard

/-- A part of the handler: it goes on, or it raises and leaves its variables to the handler. -/
abbrev ConfigOutcome := Except (String × ConfigRun) ConfigRun

/-- The step that fails in a request, if any, and the text of its exception. -/
abbrev ConfigFault := Option (ConfigStep × String)

def attempt (fault : ConfigFault) (step : ConfigStep) (effect : ConfigRun → ConfigRun)
    (run : ConfigRun) : ConfigOutcome :=
  match fault with
  | some (failing, message) =>
    if failing = step then .error (message, run) else .ok (effect run)
  | none => .ok (effect run)

def ConfigRun.update (run : ConfigRun) (change : ConfigPlant → ConfigPlant) : ConfigRun :=
  { run with plant := change run.plant }

/-- Whether a text begins with another. -/
def hasPrefix (text start : String) : Bool :=
  start.toList.isPrefixOf text.toList

/-- Bundles that are never managed online. -/
def protectedBundle (id : String) : Bool :=
  hasPrefix id "osp." || hasPrefix id "com.appinf.osp." || hasPrefix id "poco." ||
    hasPrefix id "pdr.platform." || hasPrefix id "pdr.webui."

/-- Whether a configured pattern covers a bundle; a final star stands for any rest. -/
def matchesPattern (id pattern : String) : Bool :=
  if pattern.toList.getLast? = some '*' then pattern.toList.dropLast.isPrefixOf id.toList
  else id == pattern

def manageableBundle (service : ConfigService) (id : String) : Bool :=
  !protectedBundle id && service.manageableBundlePatterns.any (matchesPattern id)

/-- The key of the root logger's level, which is applied at once. -/
def rootLevelKey : String := "logging.loggers.root.level"

/-- The keys that may be changed online. -/
def editableConfiguration (key : String) : Bool :=
  key == rootLevelKey || hasPrefix key "deviceStatus." || hasPrefix key "mobile." ||
    hasPrefix key "pdr.modbus." || hasPrefix key "pdr.serial." || hasPrefix key "pdr.gnss." ||
    hasPrefix key "pdr.gpio." || hasPrefix key "pdr.xbee." || hasPrefix key "pdr.can." ||
    hasPrefix key "pdr.led."

/-- The bundle that has to be restarted when a key changes; empty if there is none. -/
def configurationOwner (key : String) : String :=
  if hasPrefix key "deviceStatus." then "pdr.service.deviceStatus"
  else if hasPrefix key "mobile." then "pdr.service.mobile"
  else if hasPrefix key "pdr." then "pdr.device.gateway"
  else ""

/-- A text member that must be there. -/
def getText (library : JsonLibrary) (object : Json) (key : String) : Except String String :=
  match (object.member key).bind library.convertString with
  | none => .error ("missing " ++ key)
  | some text => .ok text

/-- Why a request is turned down before anything is written, and what was known of it by then. -/
structure Rejection where
  message : String
  action : String
  key : String
  conflict : Bool
  status : Nat

/-- A change that has passed every check. -/
structure ConfigChange where
  action : String
  key : String
  value : String
  oldValue : String
  /-- The properties of the file, before the change. -/
  properties : Properties
  deriving DecidableEq, Repr

/-- The key and the value a request asks for; a rollback takes both from the stored metadata. -/
def requestedChange (service : ConfigService) (request : ConfigRequest) (plant : ConfigPlant)
    (action : String) (properties : Properties) : Except Rejection (String × String) :=
  let plain := fun (key message : String) => (⟨message, action, key, false, 400⟩ : Rejection)
  let conflicting := fun (key message : String) => (⟨message, action, key, true, 400⟩ : Rejection)
  if action = "rollback" then do
    match ← (readJsonObject service.library plant.metadata).mapError (plain "") with
    | none => .error (conflicting "" "没有可回退的配置事务")
    | some metadata =>
      if plant.backup.isNone then .error (conflicting "" "没有可回退的配置事务")
      else
        let requestedId ← (getText service.library request.body "transactionId").mapError (plain "")
        let transactionId ← (getText service.library metadata "transactionId").mapError (plain "")
        if requestedId ≠ transactionId then
          .error (conflicting "" "回退事务已过期，请刷新后重试")
        else
          let key ← (getText service.library metadata "key").mapError (plain "")
          let value ← (getText service.library metadata "previousValue").mapError (plain key)
          match properties.lookup key with
          | none => .error (conflicting key "当前配置已被外部修改，拒绝覆盖")
          | some present =>
            let current ← (getText service.library metadata "currentValue").mapError (plain key)
            if present ≠ current then .error (conflicting key "当前配置已被外部修改，拒绝覆盖")
            else .ok (key, value)
  else do
    let key ← (getText service.library request.body "key").mapError (plain "")
    let value ← (getText service.library request.body "value").mapError (plain key)
    .ok (key, value)

/-- The action a request names; without one it applies a value. -/
def requestedAction (service : ConfigService) (request : ConfigRequest) :
    Except Rejection String :=
  match request.body.member "action" with
  | none => .ok "apply"
  | some _ => (getText service.library request.body "action").mapError
      fun message => ⟨message, "apply", "", false, 400⟩

/-- The checks before the first file is touched. -/
def prepare (service : ConfigService) (request : ConfigRequest) (plant : ConfigPlant) :
    Except Rejection ConfigChange := do
  let action ← requestedAction service request
  let rejected := fun (key message : String) (status : Nat) =>
    (⟨message, action, key, false, status⟩ : Rejection)
  if action ≠ "apply" ∧ action ≠ "rollback" then
    .error (rejected "" "action must be apply or rollback" 400)
  else
    match plant.file.bind service.format.load with
    | none => .error (rejected "" "cannot read the properties file" 400)
    | some properties =>
      let (key, value) ← requestedChange service request plant action properties
      if !editableConfiguration key then .error (rejected key "该配置项为只读" 403)
      else match properties.lookup key with
        | none => .error (rejected key "配置项不存在" 404)
        | some oldValue =>
          if !service.preferencesAvailable then
            .error (rejected key "全局配置服务不可用" 400)
          else
            -- The candidate is what the preferences would be, not what the file would be.
            let _ ← (service.validate (assign key value plant.preferences)).mapError
              (fun message => rejected key message 400)
            .ok ⟨action, key, value, oldValue, properties⟩

/-- The rollback metadata a change leaves behind. -/
def changeMetadata (request : ConfigRequest) (change : ConfigChange) : Json :=
  .obj [("transactionId", .str request.transactionId),
    ("action", .str change.action),
    ("key", .str change.key),
    ("previousValue", .str change.oldValue),
    ("currentValue", .str change.value),
    ("timestampMicroseconds", .num request.timestampMicroseconds)]

/-- The text of the new properties file. -/
def changedText (service : ConfigService) (change : ConfigChange) : String :=
  service.format.save (assign change.key change.value change.properties)

/-- Whether the staged file shows the new value when it is read back. -/
def stagedAgrees (service : ConfigService) (change : ConfigChange) : Bool :=
  (service.format.load (changedText service change)).bind (·.lookup change.key) ==
    some change.value

/-- Whether the staged metadata can be read back. -/
def metadataReadsBack (service : ConfigService) (request : ConfigRequest)
    (change : ConfigChange) : Bool :=
  (readJsonObject service.library
    (some (service.library.stringify (changeMetadata request change)))).isOk

/-- Staging the new file and its metadata, keeping a backup, and replacing the file. -/
def commitFile (service : ConfigService) (request : ConfigRequest) (change : ConfigChange)
    (fault : ConfigFault) (run : ConfigRun) : ConfigOutcome := do
  let run := { run with stagedNamed := true }
  let run ← attempt fault .stageFile (·.update fun plant =>
    { plant with staged := some (changedText service change) }) run
  let run ← attempt fault .verifyStaged id run
  if !stagedAgrees service change then .error ("暂存配置校验失败", run)
  else
    let run ← attempt fault .stageMetadata (·.update fun plant => { plant with
      stagedMetadata := some (service.library.stringify (changeMetadata request change)) }) run
    if !metadataReadsBack service request change then .error ("JSON syntax error", run)
    else
      let run ← attempt fault .removeBackup (·.update fun plant =>
        { plant with backup := none }) run
      let run ← attempt fault .copyBackup (·.update fun plant =>
        { plant with backup := plant.file }) run
      attempt fault .replaceFile (fun run => { run with
        plant := { run.plant with file := run.plant.staged, staged := none }
        fileCommitted := true }) run

/-- Making the new value effective in the running process. -/
def applyValue (change : ConfigChange) (fault : ConfigFault) (run : ConfigRun) :
    ConfigOutcome := do
  let run ← attempt fault .setPreference (fun run => { run with
    plant := { run.plant with
      preferences := assign change.key change.value run.plant.preferences }
    runtimeApplied := true }) run
  if change.key = rootLevelKey then
    attempt fault .setLevel (·.update fun plant => { plant with rootLevel := change.value }) run
  else .ok run

/-- Stopping a bundle commits its state before the listeners are told. -/
def stopBundle (owner : String) (plant : ConfigPlant) : ConfigPlant :=
  { plant with
    bundles := adjust owner (fun status => { status with state := .resolved }) plant.bundles }

/-- Starting a bundle lets it read the preferences as they are now. -/
def startBundle (owner : String) (plant : ConfigPlant) : ConfigPlant :=
  { plant with bundles := adjust owner (fun _ => ⟨.active, plant.preferences⟩) plant.bundles }

/-- Whether the owner of a key runs. -/
def ownerActive (plant : ConfigPlant) (key : String) : Bool :=
  configurationOwner key ≠ "" &&
    ((plant.bundles.lookup (configurationOwner key)).map (·.state)) == some .active

def restartOwner (service : ConfigService) (change : ConfigChange) (fault : ConfigFault)
    (run : ConfigRun) : ConfigOutcome := do
  let owner := configurationOwner change.key
  let run := { run with owner, ownerWasActive := ownerActive run.plant change.key }
  if !run.ownerWasActive then .ok run
  else
    let run ← attempt fault .manageOwner id run
    if !manageableBundle service owner then .error ("配置所属 Bundle 不允许在线重启", run)
    else
      let run ← attempt fault .stopOwner (·.update (stopBundle owner)) run
      let run ← attempt fault .ownerStopped id run
      let run ← attempt fault .startOwner (·.update (startBundle owner)) run
      attempt fault .ownerStarted id run

/-- Replacing the rollback metadata, with a copy of the old one kept until the end. -/
def commitMetadata (fault : ConfigFault) (run : ConfigRun) : ConfigOutcome := do
  let run ← attempt fault .removePrevious (·.update fun plant =>
    { plant with previousMetadata := none }) run
  let run ← attempt fault .copyPrevious (·.update fun plant =>
    { plant with previousMetadata := plant.metadata }) run
  attempt fault .replaceMetadata (fun run => { run with
    plant := { run.plant with metadata := run.plant.stagedMetadata, stagedMetadata := none }
    metadataCommitted := true }) run

/-- The audit record of a committed change. -/
def committedAudit (request : ConfigRequest) (run : ConfigRun) : Json :=
  .obj [("transactionId", .str request.transactionId),
    ("timestampMicroseconds", .num request.timestampMicroseconds),
    ("action", .str run.action),
    ("key", .str run.key),
    ("status", .str "committed"),
    ("owner", .str run.owner),
    ("ownerRestarted", .bool run.ownerWasActive),
    ("remoteAddress", .str request.remoteAddress),
    ("requestId", .str run.guard.requestId),
    ("principal", .str request.principal)]

/-- Recording and reporting a committed change; the ledger learns of it before the client. -/
def report (request : ConfigRequest) (fault : ConfigFault) (run : ConfigRun) :
    ConfigOutcome := do
  let run ← attempt fault .appendAudit (fun run => run.update fun plant =>
    { plant with audit := plant.audit ++ [committedAudit request run] }) run
  let run ← attempt fault .forgetPrevious (·.update fun plant =>
    { plant with previousMetadata := none }) run
  let completion := run.guard.complete run.plant.ledger "configuration" run.key run.action
    request.completedMicroseconds request.ledgerFiles
  let run := { run with
    plant := { run.plant with ledger := completion.2 }
    guard := completion.1 }
  attempt fault .sendResponse id run

/-- The body of the handler's `try` block, once a change has passed its checks. -/
def commitChange (service : ConfigService) (request : ConfigRequest) (change : ConfigChange)
    (fault : ConfigFault) (run : ConfigRun) : ConfigOutcome := do
  let run ← commitFile service request change fault run
  let run ← applyValue change fault run
  let run ← restartOwner service change fault run
  let run ← commitMetadata fault run
  report request fault run

/-- The old metadata is put back; without a copy of it the new one is removed. -/
def restoreMetadata (run : ConfigRun) : ConfigRun :=
  if run.metadataCommitted then
    run.update fun plant => { plant with metadata := plant.previousMetadata }
  else run

/-- Whether there is a replaced file and a backup to restore it from. -/
def ConfigRun.restoresFile (run : ConfigRun) : Bool :=
  run.fileCommitted && run.plant.backup.isSome

def restoreFile (run : ConfigRun) : ConfigRun :=
  if run.restoresFile then run.update fun plant => { plant with file := plant.backup } else run

/-- The preference is set to the old value of the file. -/
def restorePreference (run : ConfigRun) : ConfigRun :=
  if run.runtimeApplied then
    run.update fun plant => { plant with
      preferences := assign run.key run.oldValue plant.preferences
      rootLevel := if run.key = rootLevelKey then run.oldValue else plant.rootLevel }
  else run

/-- Whether an owner that ran before the request does not run now. -/
def ConfigRun.ownerDown (run : ConfigRun) : Bool :=
  run.ownerWasActive && ((run.plant.bundles.lookup run.owner).map (·.state)) != some .active

def restoreOwner (run : ConfigRun) : ConfigRun :=
  if run.ownerDown then run.update (startBundle run.owner) else run

/-- The staged files are removed, as far as their names are known. -/
def removeStagedFiles (run : ConfigRun) : ConfigRun :=
  run.update fun plant => { plant with
    staged := if run.stagedNamed then none else plant.staged
    stagedMetadata := none }

/-- The compensating steps of the handler's `catch` block. -/
def compensate (run : ConfigRun) : ConfigRun :=
  removeStagedFiles (restoreOwner (restorePreference (restoreFile (restoreMetadata run))))

/-- The audit record of a failed change. -/
def failedAudit (request : ConfigRequest) (run : ConfigRun) (rolledBack : Bool)
    (message : String) : Json :=
  .obj [("transactionId", .str request.transactionId),
    ("timestampMicroseconds", .num request.timestampMicroseconds),
    ("action", .str run.action),
    ("key", .str run.key),
    ("status", .str (if rolledBack then "rolled-back" else "rejected")),
    ("rolledBack", .bool rolledBack),
    ("error", .str message),
    ("remoteAddress", .str request.remoteAddress),
    ("requestId", .str run.guard.requestId),
    ("principal", .str request.principal)]

/-- What the client is answered. -/
inductive ConfigAnswer
  /-- The request was not admitted by the ledger. -/
  | refused (response : Response)
  | succeeded (requestId action key value owner : String) (ownerRestarted : Bool)
  | failed (status : Nat) (message action key : String) (rolledBack : Bool)

/-- The end of the handler after an exception. -/
def answerFailure (request : ConfigRequest) (message : String) (run : ConfigRun) :
    ConfigAnswer × ConfigPlant :=
  let rolledBack := run.restoresFile
  let run := compensate run
  let plant := { run.plant with
    audit := run.plant.audit ++ [failedAudit request run rolledBack message]
    -- The guard is destroyed when the handler returns.
    ledger := run.guard.destroy run.plant.ledger request.ledgerFiles }
  (.failed (if run.fileCommitted || run.conflict then 409 else run.failureStatus) message
    run.action run.key rolledBack, plant)

/-- The variables of the handler when the request has been admitted. -/
def ConfigRun.admitted (plant : ConfigPlant) (guard : ManagementRequestGuard) : ConfigRun where
  plant
  action := "apply"
  key := ""
  value := ""
  oldValue := ""
  owner := ""
  fileCommitted := false
  metadataCommitted := false
  runtimeApplied := false
  ownerWasActive := false
  conflict := false
  failureStatus := 400
  stagedNamed := false
  guard

/-- The variables of the handler when a change has passed its checks. -/
def ConfigRun.accepted (run : ConfigRun) (change : ConfigChange) : ConfigRun :=
  { run with
    action := change.action, key := change.key, value := change.value, oldValue := change.oldValue }

def handleConfigRequest (service : ConfigService) (request : ConfigRequest)
    (fault : ConfigFault) (plant : ConfigPlant) : ConfigAnswer × ConfigPlant :=
  let (guard, response, ledger) := beginManagementRequest service.requireRequestId plant.ledger
    request.requestId request.fingerprintDigest request.admittedMicroseconds request.ledgerFiles
  let plant := { plant with ledger }
  if !guard.proceed then (.refused response, plant)
  else
    let run := ConfigRun.admitted plant guard
    match prepare service request plant with
    | .error rejection =>
      answerFailure request rejection.message { run with
        action := rejection.action
        key := rejection.key
        conflict := rejection.conflict
        failureStatus := rejection.status }
    | .ok change =>
      match attempt fault .validate id (run.accepted change) >>=
          commitChange service request change fault with
      | .error (message, run) => answerFailure request message run
      | .ok run =>
        (.succeeded run.guard.requestId run.action run.key run.value run.owner run.ownerWasActive,
          { run.plant with
            ledger := run.guard.destroy run.plant.ledger request.ledgerFiles })

end PocoDDS.Monitoring
