import PocoDDS.Lib.Outcome
import PocoDDS.Lib.PyJson
import PocoDDS.Monitoring.RequestLedger
import PocoDDS.Monitoring.TaskManager

/-! The gate that approves management writes after a restore. -/

namespace PocoDDS.Monitoring

open JsonModel

/-- The retained tasks, newest first. -/
def TaskManager.retained (manager : TaskManager) : List ManagementTask :=
  manager.order.reverse.filterMap fun id => (manager.tasks.lookup id).map manager.objects

/-- `list`: the newest tasks that pass the filters, an empty filter passing all. -/
def TaskManager.list (manager : TaskManager) (limit : Nat) (state operation : String) :
    List Json :=
  ((manager.retained.filter fun task =>
    (state.isEmpty || task.state.name == state) &&
      (operation.isEmpty || task.operation == operation)).take limit).map managementTaskJson

/-- `persistenceStatus`. -/
def TaskManager.persistenceStatus (manager : TaskManager) : Json :=
  .obj [("enabled", .bool manager.persistenceEnabled),
    ("healthy", .bool (!manager.persistenceEnabled || manager.lastPersistenceError.isEmpty)),
    ("error", .str manager.lastPersistenceError),
    ("recoveryRequired", .bool manager.persistenceRecoveryRequired),
    ("schemaVersion", .num 2),
    ("integrityAlgorithm", .str "SHA-256")]

def Ledger.interruptedCount (ledger : Ledger) : Nat :=
  ledger.entries.countP fun entry => !entry.2.completed && entry.2.interrupted

/-- `managementRequestLedgerStatus`. -/
def Ledger.status (ledger : Ledger) : Json :=
  .obj [("enabled", .bool ledger.configuration.persistenceEnabled),
    ("healthy", .bool (!ledger.configuration.persistenceEnabled ||
      ledger.configuration.lastPersistenceError.isEmpty)),
    ("error", .str ledger.configuration.lastPersistenceError),
    ("recoveryRequired", .bool ledger.configuration.recoveryRequired),
    ("schemaVersion", .num 2),
    ("integrityAlgorithm", .str "SHA-256"),
    ("count", .num ledger.entries.length),
    ("completed", .num (ledger.entries.countP fun entry => entry.2.completed)),
    ("interrupted", .num ledger.interruptedCount)]

/-- The document that the task collection answers with, without the scheduler's figures. -/
def taskInventory (manager : TaskManager) (ledger : Ledger) (limit : Nat) (state operation : String) :
    Json :=
  let tasks := manager.list limit state operation
  .obj [("schemaVersion", .num 1),
    ("count", .num tasks.length),
    ("tasks", .arr tasks),
    ("persistence", manager.persistenceStatus),
    ("idempotency", ledger.status)]

end PocoDDS.Monitoring

namespace PocoDDS.Tools.RestoredRuntime

open JsonModel OutcomeLogic PocoDDS.Monitoring

/-- The exceptions that the gate turns into a finding, and those that end it. -/
inductive PyError
  | value (message : String)
  | type (message : String)

/-- What is noted of a restore whose transaction evidence is valid. -/
structure TransactionEvidence where
  restoreId : String
  recoveryPointId : Option Json
  manifestSha256 : Option Json
  restoreOperator : Option Json
  transactionMode : Option Json

/-- `validate_restore_transaction_evidence`, on the parsed report and the parsed audit lines. -/
def validateRestoreTransactionEvidence (report : Except String Json)
    (audit : Except String (List Json)) (expectedRestoreId : String) :
    Except String TransactionEvidence := do
  let report ← report
  if !report.isObject ||
      !Json.isText (report.member "operation") "persistence-restore-recovery-point" ||
      !Json.isText (report.member "restoreId") expectedRestoreId ||
      !Json.truthy (report.member "passed") then
    .error "restore report is not a successful matching transaction"
  let lines ← audit
  let events := lines.filter fun event => Json.isText (event.member "restoreId") expectedRestoreId
  let started := events.filter fun event => Json.isText (event.member "event") "restore-started"
  let finished := events.filter fun event => Json.isText (event.member "event") "restore-finished"
  match started, finished with
  | [first], [last] =>
    if !Json.truthy (last.member "passed") then
      .error "restore operation audit is incomplete or unsuccessful"
    else if !Json.same (first.member "manifestSha256") (report.member "manifestSha256") then
      .error "restore report and operation audit manifest digests differ"
    else .ok {
      restoreId := expectedRestoreId
      recoveryPointId := report.member "recoveryPointId"
      manifestSha256 := report.member "manifestSha256"
      restoreOperator := report.member "operator"
      transactionMode := report.member "transactionMode" }
  | _, _ => .error "restore operation audit is incomplete or unsuccessful"

/-- `accepted`: an allowed decision with a verified state and evidence. -/
def accepted (item : Json) : Except PyError Bool :=
  match item.member "decision" with
  -- Looking up a list or a dictionary in a set raises.
  | some (.arr _) => .error (.type "unhashable type: 'list'")
  | some (.obj _) => .error (.type "unhashable type: 'dict'")
  | decision => .ok ((Json.isText decision "no-retry" ||
      Json.isText decision "retry-with-new-request-id") &&
      Json.filled (item.member "verifiedState") && Json.filled (item.member "evidence"))

def isTaskItem (id : String) (item : Json) : Bool :=
  item.isObject && Json.isText (item.member "type") "management-task" &&
    Json.isText (item.member "id") id

/-- The item for the ledger as a whole. -/
def isAggregateItem (count : Int) (item : Json) : Bool :=
  item.isObject && Json.isText (item.member "type") "idempotency-ledger" &&
    Json.isText (item.member "id") "aggregate" && Json.isInt (item.member "count") count

/-- The only item of a kind has to be there and to be accepted. -/
def requireItem (matching : List Json) (message : String) : Except PyError Unit :=
  match matching with
  | [item] => do
    let fine ← accepted item
    if fine then .ok () else .error (.value message)
  | _ => .error (.value message)

/-- Every listed task needs its item. -/
def requireTaskItems (items : List Json) : List String → Except PyError Unit
  | [] => .ok ()
  | id :: rest => do
    requireItem (items.filter (isTaskItem id)) ("missing or invalid disposition for task: " ++ id)
    requireTaskItems items rest

def checkDispositions (document : Json) (restoreId : String) (ids : List String)
    (ledgerCount : Int) : Except PyError Unit := do
  match document.member "items" with
  | some (.arr items) =>
    if !document.isObject || !Json.isInt (document.member "schemaVersion") 1 ||
        !Json.isText (document.member "restoreId") restoreId ||
        !Json.filled (document.member "approvedBy") ||
        !Json.filled (document.member "approvedAt") then
      .error (.value "invalid interrupted disposition document")
    else do
      requireTaskItems items ids
      if ledgerCount ≠ 0 then
        requireItem (items.filter (isAggregateItem ledgerCount))
          "missing or invalid idempotency interrupted disposition"
  | _ => .error (.value "invalid interrupted disposition document")

/-- What the gate notes about the dispositions. -/
structure DispositionEvidence where
  required : Bool
  valid : Bool
  taskIds : List String
  idempotencyInterrupted : Int
  error : Option String := none

/-- The id of a task of the inventory; the runtime's ids are strings. -/
def taskIdText (task : Json) : String :=
  (Json.str? (task.member "id")).getD ""

/-- `validate_interrupted_dispositions`; no file was named, or it was read and parsed. -/
def validateInterruptedDispositions (file : Option (Except String Json)) (restoreId : String)
    (tasks : List Json) (ledgerCount : Int) : Except String DispositionEvidence :=
  let required := !tasks.isEmpty || ledgerCount ≠ 0
  let evidence := fun (valid : Bool) (error : Option String) =>
    { required, valid, taskIds := tasks.map taskIdText, idempotencyInterrupted := ledgerCount, error }
  if !required then .ok (evidence true none)
  else match file with
    | none => .ok (evidence false (some "interrupted operations require a disposition file"))
    | some (.error message) => .ok (evidence false (some message))
    | some (.ok document) =>
      match checkDispositions document restoreId (tasks.map taskIdText) ledgerCount with
      | .ok () => .ok (evidence true none)
      | .error (.value message) => .ok (evidence false (some message))
      | .error (.type message) => .error message

/-- The answer of one endpoint; an unreachable one has neither status nor document. -/
structure Endpoint where
  status : Option Nat := none
  json : Option Json := none

/-- One round of the polling loop. -/
structure Poll where
  live : Endpoint
  ready : Endpoint
  detail : Endpoint
  managementTasks : Endpoint

def Endpoint.member (endpoint : Endpoint) (key : String) : Option Json :=
  endpoint.json.bind fun document => document.member key

/-- Whether a round found the runtime ready. -/
def Poll.runtimeReady (poll : Poll) : Bool :=
  poll.live.status == some 200 && Json.isTrue (poll.live.member "live") &&
  poll.ready.status == some 200 && Json.isTrue (poll.ready.member "ready") &&
  poll.detail.status == some 200 && Json.isTrue (poll.detail.member "ready") &&
  Json.isText (poll.detail.member "status") "UP" &&
  poll.managementTasks.status == some 200 && poll.managementTasks.json.any Json.isObject

/-- The arguments of the command, with the files they name as read and parsed. -/
structure ValidationArguments where
  expectedRestoreId : String
  restoreReport : Except String Json
  operationAudit : Except String (List Json)
  scheme : String := "https"
  hostname : String
  timeout : ℚ := 60
  requestTimeout : ℚ := 2
  pollInterval : ℚ := 1 / 2
  /-- The value of the environment variable, if one was named. -/
  authorizationToken : Option String := none
  dispositions : Option (Except String Json) := none

/-- What is checked before the runtime is asked. -/
def checkArguments (arguments : ValidationArguments) : Except String TransactionEvidence :=
  match validateRestoreTransactionEvidence arguments.restoreReport arguments.operationAudit
      arguments.expectedRestoreId with
  | .error message => .error ("invalid restore transaction evidence: " ++ message)
  | .ok transaction =>
    if (arguments.scheme ≠ "http" && arguments.scheme ≠ "https") || arguments.hostname.isEmpty then
      .error "base URL must be an absolute HTTP(S) URL"
    else if arguments.scheme ≠ "https" &&
        !(["127.0.0.1", "localhost", "::1"].contains arguments.hostname) then
      .error "plain HTTP is allowed only for loopback validation"
    else if arguments.timeout ≤ 0 ∨ arguments.requestTimeout ≤ 0 ∨ arguments.pollInterval ≤ 0 then
      .error "timeout, request timeout and poll interval must be positive"
    else if arguments.authorizationToken = some "" then
      .error "authorization environment variable is empty or missing"
    else .ok transaction

/-- A store that reports itself healthy, in the expected format. -/
def storeHealthy (status : Json) : Bool :=
  Json.isTrue (status.member "healthy") && Json.isFalse (status.member "recoveryRequired") &&
    Json.isInt (status.member "schemaVersion") 2 &&
    Json.isText (status.member "integrityAlgorithm") "SHA-256"

/-- An interrupted task that can be decided on: it has an id, and is not retried unseen. -/
def policyValid (task : Json) : Bool :=
  (Json.str? (task.member "id")).any (!·.isEmpty) &&
    Json.isText (task.member "recoveryPolicy") "verify-before-retry"

/-- The number of interrupted requests, or `-1` for what is no such number. -/
def interruptedCount (idempotency : Json) : Int :=
  match idempotency.member "interrupted" with
  | none => 0
  | some value =>
    match Json.int? (some value) with
    | some count => if count < 0 then -1 else count
    | none => -1

/-- The report of the gate, without its times and the copies of the endpoints' documents. -/
structure ValidationReport where
  returnCode : Nat
  denialReasons : List String
  evidenceError : Option String := none
  transaction : Option TransactionEvidence := none
  attempts : Nat := 0
  interruptedTasks : List Json := []
  dispositions : Option DispositionEvidence := none

/-- Whether management writes are approved. -/
def ValidationReport.approvedForManagementWrites (report : ValidationReport) : Bool :=
  report.returnCode == 0

/-- The reasons to deny the approval, one for each condition that does not hold. -/
def denialReasons (persistence idempotency counted policies dispositions : Bool) : List String :=
  (if persistence then [] else ["TASK_PERSISTENCE_UNHEALTHY"]) ++
  (if idempotency then [] else ["IDEMPOTENCY_PERSISTENCE_UNHEALTHY"]) ++
  (if counted then [] else ["IDEMPOTENCY_INTERRUPTED_INVALID"]) ++
  (if policies then [] else ["INTERRUPTED_TASK_POLICY_INVALID"]) ++
  (if dispositions then [] else ["INTERRUPTED_DISPOSITIONS_INCOMPLETE"])

/-- The findings on the inventory of a ready runtime. -/
def judgeInventory (arguments : ValidationArguments) (transaction : TransactionEvidence)
    (attempts : Nat) (inventory : Json) : Except String ValidationReport := do
  let persistence := (inventory.member "persistence").getD (.obj [])
  let idempotency := (inventory.member "idempotency").getD (.obj [])
  let interruptedTasks := ((inventory.getArray "tasks").getD []).filter fun task =>
    task.isObject && Json.isText (task.member "state") "interrupted"
  let count := interruptedCount idempotency
  let dispositions ← validateInterruptedDispositions arguments.dispositions
    arguments.expectedRestoreId interruptedTasks count
  let reasons := denialReasons (storeHealthy persistence) (storeHealthy idempotency)
    (0 ≤ count) (interruptedTasks.all policyValid) dispositions.valid
  return {
    returnCode := if reasons.isEmpty then 0 else 1
    denialReasons := reasons
    transaction := some transaction
    attempts, interruptedTasks
    dispositions := some dispositions }

/-- `validate_restored_runtime`, with the rounds that fit into its time. -/
def validateRestoredRuntime (arguments : ValidationArguments) (polls : List Poll) :
    Except String ValidationReport :=
  match checkArguments arguments with
  | .error message => .ok {
      returnCode := 2
      denialReasons := ["VALIDATION_EVIDENCE_INVALID"]
      evidenceError := some message }
  | .ok transaction =>
    match polls.find? Poll.runtimeReady with
    | none => .ok {
        returnCode := 1
        denialReasons := ["RUNTIME_NOT_READY"]
        transaction := some transaction
        attempts := polls.length }
    | some poll =>
      judgeInventory arguments transaction (polls.findIdx Poll.runtimeReady + 1)
        (poll.managementTasks.json.getD .null)

/-- The items of the disposition file, if there is one. -/
def ValidationArguments.items (arguments : ValidationArguments) : List Json :=
  match arguments.dispositions with
  | some (.ok document) => (document.getArray "items").getD []
  | _ => []

/-- What has to be known before management writes are approved. -/
structure DispositionsComplete (manager : TaskManager) (ledger : Ledger)
    (arguments : ValidationArguments) : Prop where
  tasks : ∀ task ∈ manager.retained, task.state = .interrupted →
    ∃ item, arguments.items.filter (isTaskItem task.id) = [item] ∧ accepted item = .ok true
  aggregate : ledger.interruptedCount ≠ 0 →
    ∃ item ∈ arguments.items, isAggregateItem ledger.interruptedCount item = true ∧
      accepted item = .ok true
  taskStore : (!manager.persistenceEnabled || manager.lastPersistenceError.isEmpty) = true ∧
    manager.persistenceRecoveryRequired = false
  ledgerStore : (!ledger.configuration.persistenceEnabled ||
      ledger.configuration.lastPersistenceError.isEmpty) = true ∧
    ledger.configuration.recoveryRequired = false

/-- The task collection answers with the runtime's inventory, in the newest 1000 tasks. -/
def Answers (manager : TaskManager) (ledger : Ledger) (polls : List Poll) : Prop :=
  ∀ poll ∈ polls, poll.managementTasks.status = some 200 →
    poll.managementTasks.json = some (taskInventory manager ledger 1000 "" "")

/-- The tasks that the gate sees as interrupted. -/
def listedInterrupted (manager : TaskManager) : List ManagementTask :=
  (manager.retained.take 1000).filter fun task => task.state = .interrupted

/-- The runtime itself gives no reason to deny the approval. -/
structure Approvable (manager : TaskManager) (ledger : Ledger) : Prop where
  taskStore : storeHealthy manager.persistenceStatus = true
  ledgerStore : storeHealthy ledger.status = true
  policies : ∀ task ∈ listedInterrupted manager,
    task.id ≠ "" ∧ task.recoveryPolicy = "verify-before-retry"

section Inventory

variable {manager : TaskManager} {ledger : Ledger}

@[simp] theorem managementTaskJson_isObject (task : ManagementTask) :
    (managementTaskJson task).isObject = true := rfl

@[simp] theorem managementTaskJson_id (task : ManagementTask) :
    (managementTaskJson task).member "id" = some (.str task.id) := rfl

@[simp] theorem managementTaskJson_state (task : ManagementTask) :
    (managementTaskJson task).member "state" = some (.str task.state.name) := rfl

@[simp] theorem managementTaskJson_recoveryPolicy (task : ManagementTask) :
    (managementTaskJson task).member "recoveryPolicy" = some (.str task.recoveryPolicy) := rfl

theorem name_eq_interrupted {state : TaskState} :
    state.name = "interrupted" ↔ state = .interrupted := by
  constructor
  · intro same
    rw [← TaskState.ofName_name state, same]
    rfl
  · rintro rfl
    rfl

theorem interrupted_of_inventory :
    (((taskInventory manager ledger 1000 "" "").getArray "tasks").getD []).filter (fun task =>
      task.isObject && Json.isText (task.member "state") "interrupted") =
    (listedInterrupted manager).map managementTaskJson := by
  have listing : ((taskInventory manager ledger 1000 "" "").getArray "tasks").getD [] =
      (manager.retained.take 1000).map managementTaskJson := by
    have noFilter : "".isEmpty = true := rfl
    show manager.list 1000 "" "" = _
    simp [TaskManager.list, noFilter]
  have same : ∀ task : ManagementTask, Json.isText (some (.str task.state.name)) "interrupted" =
        decide (task.state = .interrupted) := by
    intro task
    by_cases interrupted : task.state = .interrupted
    · simp [interrupted, TaskState.name, Json.isText, Json.str?]
    · have named : task.state.name ≠ "interrupted" := mt name_eq_interrupted.mp interrupted
      simp [interrupted, named, Json.isText, Json.str?]
  rw [listing, List.filter_map, listedInterrupted]
  congr 1
  refine List.filter_congr fun task _ => ?_
  simp [Function.comp, same]

theorem interruptedCount_status : interruptedCount ledger.status = ledger.interruptedCount := by
  have found : ledger.status.member "interrupted" = some (.num ledger.interruptedCount) := rfl
  have natural : ¬((ledger.interruptedCount : Int) < 0) := by omega
  simp [interruptedCount, found, Json.int?, natural]

theorem denialReasons_isEmpty (persistence idempotency counted policies dispositions : Bool) :
    (denialReasons persistence idempotency counted policies dispositions).isEmpty =
      (persistence && idempotency && counted && policies && dispositions) := by
  cases persistence <;> cases idempotency <;> cases counted <;> cases policies <;>
    cases dispositions <;> rfl

theorem returnCode_zero {clean : Bool} : (if clean = true then 0 else 1) = 0 ↔ clean = true := by
  cases clean <;> decide

theorem policies_valid : ((listedInterrupted manager).map managementTaskJson).all policyValid = true ↔
    ∀ task ∈ listedInterrupted manager,
      task.id ≠ "" ∧ task.recoveryPolicy = "verify-before-retry" := by
  have empty : ∀ text : String, text.isEmpty = false ↔ text ≠ "" := by
    intro text
    rw [← Bool.not_eq_true, String.isEmpty_iff]
  simp [policyValid, Json.str?, Json.isText, empty]

theorem judgeInventory_approves (arguments : ValidationArguments)
    (transaction : TransactionEvidence) (attempts : Nat) :
    (∃ report, judgeInventory arguments transaction attempts
        (taskInventory manager ledger 1000 "" "") = .ok report ∧ report.returnCode = 0) ↔
      Approvable manager ledger ∧
      ∃ evidence, validateInterruptedDispositions arguments.dispositions
        arguments.expectedRestoreId ((listedInterrupted manager).map managementTaskJson)
        ledger.interruptedCount = .ok evidence ∧ evidence.valid = true := by
  have persistence : ((taskInventory manager ledger 1000 "" "").member "persistence").getD
      (.obj []) = manager.persistenceStatus := rfl
  have idempotency : ((taskInventory manager ledger 1000 "" "").member "idempotency").getD
      (.obj []) = ledger.status := rfl
  have counted : decide ((0 : Int) ≤ ledger.interruptedCount) = true := by simp
  have approvable : Approvable manager ledger ↔ storeHealthy manager.persistenceStatus = true ∧
      storeHealthy ledger.status = true ∧
      ((listedInterrupted manager).map managementTaskJson).all policyValid = true := by
    rw [policies_valid]
    exact ⟨fun fine => ⟨fine.taskStore, fine.ledgerStore, fine.policies⟩,
      fun fine => ⟨fine.1, fine.2.1, fine.2.2⟩⟩
  simp only [judgeInventory, persistence, idempotency, interrupted_of_inventory,
    interruptedCount_status, bind_eq_ok, pure_eq_ok, counted, denialReasons_isEmpty, approvable]
  constructor
  · rintro ⟨report, ⟨evidence, checked, rfl⟩, approved⟩
    have all := returnCode_zero.mp approved
    simp only [Bool.and_eq_true] at all
    exact ⟨⟨all.1.1.1.1, all.1.1.1.2, all.1.2⟩, evidence, checked, all.2⟩
  · rintro ⟨⟨tasks, requests, policies⟩, evidence, checked, valid⟩
    refine ⟨_, ⟨evidence, checked, rfl⟩, returnCode_zero.mpr ?_⟩
    simp [tasks, requests, policies, valid]

end Inventory

theorem requireItem_ok {found : List Json} {message : String} :
    requireItem found message = .ok () ↔ ∃ item, found = [item] ∧ accepted item = .ok true := by
  match found with
  | [] => simp [requireItem]
  | [item] =>
    simp only [requireItem, bind_eq_ok, List.cons.injEq, and_true, exists_eq_left']
    constructor
    · rintro ⟨fine, checked, passed⟩
      cases fine with
      | false => simp at passed
      | true => exact checked
    · intro checked
      exact ⟨true, checked, rfl⟩
  | _ :: _ :: _ => simp [requireItem]

theorem requireTaskItems_ok {items : List Json} {ids : List String} :
    requireTaskItems items ids = .ok () ↔
      ∀ id ∈ ids, ∃ item, items.filter (isTaskItem id) = [item] ∧ accepted item = .ok true := by
  induction ids with
  | nil => simp [requireTaskItems]
  | cons id rest ih =>
    rw [requireTaskItems, bind_eq_ok, List.forall_mem_cons, ← ih]
    constructor
    · rintro ⟨_, here, later⟩
      exact ⟨requireItem_ok.mp here, later⟩
    · rintro ⟨here, later⟩
      exact ⟨(), requireItem_ok.mpr here, later⟩

/-- A document with the right header and all its items. -/
structure Decided (document : Json) (restoreId : String) (ids : List String) (count : Int)
    (items : List Json) : Prop where
  listed : document.member "items" = some (.arr items)
  schemaVersion : Json.isInt (document.member "schemaVersion") 1 = true
  restoreId : Json.isText (document.member "restoreId") restoreId = true
  approvedBy : Json.filled (document.member "approvedBy") = true
  approvedAt : Json.filled (document.member "approvedAt") = true
  tasks : ∀ id ∈ ids, ∃ item, items.filter (isTaskItem id) = [item] ∧ accepted item = .ok true
  aggregate : count ≠ 0 →
    ∃ item, items.filter (isAggregateItem count) = [item] ∧ accepted item = .ok true

theorem isObject_of_member {document value : Json} {key : String}
    (found : document.member key = some value) : document.isObject = true := by
  cases document <;> simp_all [Json.member, Json.isObject]

theorem checkDispositions_ok {document : Json} {restoreId : String} {ids : List String}
    {count : Int} : checkDispositions document restoreId ids count = .ok () ↔
      ∃ items, Decided document restoreId ids count items := by
  constructor
  · intro checked
    unfold checkDispositions at checked
    split at checked
    · next items listed =>
      split at checked
      · simp at checked
      · next header =>
        simp only [isObject_of_member listed, Bool.not_true, Bool.false_or, Bool.or_eq_true,
          Bool.not_eq_true', not_or, Bool.not_eq_false] at header
        obtain ⟨_, tasks, aggregate⟩ := bind_eq_ok.mp checked
        refine ⟨items, listed, header.1.1.1, header.1.1.2, header.1.2, header.2,
          requireTaskItems_ok.mp tasks, fun counted => ?_⟩
        exact requireItem_ok.mp (by simpa [counted] using aggregate)
    · simp at checked
  · rintro ⟨items, decided⟩
    unfold checkDispositions
    simp only [decided.listed, isObject_of_member decided.listed, decided.schemaVersion,
      decided.restoreId, decided.approvedBy, decided.approvedAt, Bool.not_true, Bool.or_false,
      Bool.false_eq_true, if_false]
    refine bind_eq_ok.mpr ⟨(), requireTaskItems_ok.mpr decided.tasks, ?_⟩
    by_cases counted : count = 0
    · simp [counted, pure, Except.pure]
    · simpa [counted] using requireItem_ok.mpr (decided.aggregate counted)

theorem validateInterruptedDispositions_valid {file : Option (Except String Json)}
    {restoreId : String} {tasks : List Json} {count : Int} :
    (∃ evidence, validateInterruptedDispositions file restoreId tasks count = .ok evidence ∧
      evidence.valid = true) ↔
      (tasks = [] ∧ count = 0) ∨ ∃ document items, file = some (.ok document) ∧
        Decided document restoreId (tasks.map taskIdText) count items := by
  unfold validateInterruptedDispositions
  by_cases nothing : tasks = [] ∧ count = 0
  · simp [nothing]
  · have required : (!(!tasks.isEmpty || decide (count ≠ 0))) = false := by
      by_contra absent
      simp at absent
      exact nothing absent
    simp only [required, Bool.false_eq_true, if_false, nothing, false_or]
    match file with
    | none => simp
    | some (.error message) => simp
    | some (.ok document) =>
      simp only [Option.some.injEq, Except.ok.injEq, ← checkDispositions_ok, exists_eq_left',
        exists_and_left]
      cases checked : checkDispositions document restoreId (tasks.map taskIdText) count with
      | ok _ => simp
      | error failure => cases failure <;> simp

section Approval

variable {arguments : ValidationArguments}

/-- The item of a file that decides on a task. -/
def taskItem (id : String) : Json :=
  .obj [("type", .str "management-task"), ("id", .str id), ("decision", .str "no-retry"),
    ("verifiedState", .str "bundle already active"), ("evidence", .str "change ticket")]

/-- The item of a file that decides on the ledger. -/
def aggregateItem (count : Int) : Json :=
  .obj [("type", .str "idempotency-ledger"), ("id", .str "aggregate"), ("count", .num count),
    ("decision", .str "no-retry"), ("verifiedState", .str "target state verified"),
    ("evidence", .str "change ticket")]

/-- A file that decides on the tasks with given ids and on the ledger, and on nothing else. -/
def sampleDispositions (ids : List String) (count : Int) : Json :=
  .obj [("schemaVersion", .num 1), ("restoreId", .str "restore-1"), ("approvedBy", .str "reviewer"),
    ("approvedAt", .str "2026-08-01T18:00:00Z"),
    ("items", .arr (ids.map taskItem ++ [aggregateItem count]))]

/-- The command with a valid restore transaction and such a file. -/
def sampleArguments (ids : List String) (count : Int) : ValidationArguments where
  expectedRestoreId := "restore-1"
  restoreReport := .ok (.obj [("operation", .str "persistence-restore-recovery-point"),
    ("restoreId", .str "restore-1"), ("passed", .bool true), ("manifestSha256", .str "9f86d081")])
  operationAudit := .ok
    [.obj [("restoreId", .str "restore-1"), ("event", .str "restore-started"),
      ("manifestSha256", .str "9f86d081")],
    .obj [("restoreId", .str "restore-1"), ("event", .str "restore-finished"),
      ("passed", .bool true)]]
  hostname := "runtime"
  dispositions := some (.ok (sampleDispositions ids count))

/-- A round that finds the runtime ready. -/
def samplePoll (manager : TaskManager) (ledger : Ledger) : Poll where
  live := ⟨some 200, some (.obj [("live", .bool true)])⟩
  ready := ⟨some 200, some (.obj [("ready", .bool true)])⟩
  detail := ⟨some 200, some (.obj [("ready", .bool true), ("status", .str "UP")])⟩
  managementTasks := ⟨some 200, some (taskInventory manager ledger 1000 "" "")⟩

theorem sample_checked (ids : List String) (count : Int) :
    ∃ transaction, checkArguments (sampleArguments ids count) = .ok transaction := by
  obtain ⟨transaction, evidence⟩ : ∃ transaction, validateRestoreTransactionEvidence
      (sampleArguments ids count).restoreReport (sampleArguments ids count).operationAudit
      (sampleArguments ids count).expectedRestoreId = .ok transaction := ⟨_, rfl⟩
  have scheme : (sampleArguments ids count).scheme = "https" := rfl
  have hostname : (sampleArguments ids count).hostname.isEmpty = false := rfl
  have token : (sampleArguments ids count).authorizationToken = none := rfl
  have timed : ¬((sampleArguments ids count).timeout ≤ 0 ∨
      (sampleArguments ids count).requestTimeout ≤ 0 ∨
      (sampleArguments ids count).pollInterval ≤ 0) := by
    norm_num [sampleArguments]
  refine ⟨transaction, ?_⟩
  rw [checkArguments, evidence]
  simp [scheme, hostname, token, timed]

theorem isTaskItem_taskItem (id other : String) : isTaskItem id (taskItem other) = (other == id) := by
  have kind : (taskItem other).member "type" = some (.str "management-task") := rfl
  have named : (taskItem other).member "id" = some (.str other) := rfl
  have object : (taskItem other).isObject = true := rfl
  simp [isTaskItem, kind, named, object, Json.isText, Json.str?]

theorem sample_taskItems {ids : List String} (distinct : ids.Nodup) {count : Int} {id : String} :
    (ids.map taskItem ++ [aggregateItem count]).filter (isTaskItem id) =
      if id ∈ ids then [taskItem id] else [] := by
  have noTask : isTaskItem id (aggregateItem count) = false := rfl
  rw [List.filter_append, List.filter_map]
  have keys : (isTaskItem id ∘ taskItem) = fun other => other == id :=
    funext fun other => isTaskItem_taskItem id other
  rw [keys, List.filter_beq]
  by_cases member : id ∈ ids
  · simp [noTask, member, List.count_eq_one_of_mem distinct member]
  · simp [noTask, member, List.count_eq_zero_of_not_mem member]

theorem sample_decided {ids needed : List String} (distinct : ids.Nodup)
    (covered : ∀ id ∈ needed, id ∈ ids) (count : Int) :
    Decided (sampleDispositions ids count) "restore-1" needed count
      (ids.map taskItem ++ [aggregateItem count]) where
  listed := rfl
  schemaVersion := rfl
  restoreId := rfl
  approvedBy := rfl
  approvedAt := rfl
  tasks := by
    intro id member
    refine ⟨taskItem id, ?_, rfl⟩
    rw [sample_taskItems distinct, if_pos (covered id member)]
  aggregate := by
    intro _
    have noAggregate : ∀ id, isAggregateItem count (taskItem id) = false := fun _ => rfl
    have same : isAggregateItem count (aggregateItem count) = true := by
      have counted : (aggregateItem count).member "count" = some (.num count) := rfl
      have kind : (aggregateItem count).member "type" = some (.str "idempotency-ledger") := rfl
      have named : (aggregateItem count).member "id" = some (.str "aggregate") := rfl
      have object : (aggregateItem count).isObject = true := rfl
      simp [isAggregateItem, counted, kind, named, object, Json.isText, Json.isInt, Json.str?,
        Json.int?]
    refine ⟨aggregateItem count, ?_, rfl⟩
    simp [List.filter_append, same, noAggregate]

theorem validate_approves {manager : TaskManager} {ledger : Ledger} {polls : List Poll}
    {report : ValidationReport} (answers : Answers manager ledger polls)
    (validated : validateRestoredRuntime arguments polls = .ok report)
    (approved : report.returnCode = 0) :
    ∃ transaction attempts, judgeInventory arguments transaction attempts
      (taskInventory manager ledger 1000 "" "") = .ok report := by
  unfold validateRestoredRuntime at validated
  cases checked : checkArguments arguments with
  | error message =>
    rw [checked] at validated
    obtain rfl := Except.ok.inj validated
    simp at approved
  | ok transaction =>
    rw [checked] at validated
    cases found : polls.find? Poll.runtimeReady with
    | none =>
      simp only [found] at validated
      obtain rfl := Except.ok.inj validated
      simp at approved
    | some poll =>
      simp only [found] at validated
      have ready : poll.runtimeReady = true := List.find?_some found
      have status : poll.managementTasks.status = some 200 := by
        simp only [Poll.runtimeReady, Bool.and_eq_true, beq_iff_eq] at ready
        exact ready.1.2
      rw [answers poll (List.mem_of_find?_eq_some found) status] at validated
      exact ⟨transaction, _, validated⟩

variable {manager : TaskManager} {ledger : Ledger}

/-- The ids of the interrupted tasks that the gate sees. -/
def listedIds (manager : TaskManager) : List String :=
  (listedInterrupted manager).map ManagementTask.id

theorem taskIdText_listed :
    ((listedInterrupted manager).map managementTaskJson).map taskIdText = listedIds manager := by
  simp [listedIds, Function.comp_def, taskIdText, Json.str?]

theorem mem_listedIds {id : String} : id ∈ listedIds manager ↔
    ∃ listed ∈ manager.retained.take 1000, listed.state = .interrupted ∧ listed.id = id := by
  simp [listedIds, listedInterrupted, and_assoc]

/-- For the approval, a file that decides on the listed tasks only is enough. -/
theorem sample_approved (approvable : Approvable manager ledger) : ∃ report, validateRestoredRuntime
      (sampleArguments (listedIds manager).dedup ledger.interruptedCount)
      [samplePoll manager ledger] = .ok report ∧ report.returnCode = 0 := by
  obtain ⟨transaction, checked⟩ :=
    sample_checked (listedIds manager).dedup ledger.interruptedCount
  have decided : Decided
      (sampleDispositions (listedIds manager).dedup ledger.interruptedCount) "restore-1"
      (((listedInterrupted manager).map managementTaskJson).map taskIdText) ledger.interruptedCount
      ((listedIds manager).dedup.map taskItem ++ [aggregateItem ledger.interruptedCount]) := by
    rw [taskIdText_listed]
    exact sample_decided (List.nodup_dedup _) (by simp) _
  have valid := validateInterruptedDispositions_valid.mpr (.inr ⟨_, _, rfl, decided⟩)
  obtain ⟨report, judged, approved⟩ := (judgeInventory_approves
    (sampleArguments (listedIds manager).dedup ledger.interruptedCount) transaction 1).mpr
    ⟨approvable, valid⟩
  have ready : (samplePoll manager ledger).runtimeReady = true := rfl
  have first : [samplePoll manager ledger].findIdx Poll.runtimeReady = 0 := by
    simp [List.findIdx_cons, ready]
  refine ⟨report, ?_, approved⟩
  unfold validateRestoredRuntime
  simp only [checked, List.find?_cons, ready, first]
  exact judged

theorem complete_of_approved {polls : List Poll} {report : ValidationReport}
    (answers : Answers manager ledger polls)
    (validated : validateRestoredRuntime arguments polls = .ok report)
    (approved : report.returnCode = 0)
    (listing : Approvable manager ledger → ∀ task ∈ manager.retained, task.state = .interrupted →
      task.id ∈ listedIds manager) : DispositionsComplete manager ledger arguments := by
  obtain ⟨transaction, attempts, judged⟩ := validate_approves answers validated approved
  obtain ⟨approvable, valid⟩ :=
    (judgeInventory_approves arguments transaction attempts).mp ⟨report, judged, approved⟩
  rw [validateInterruptedDispositions_valid, taskIdText_listed] at valid
  -- The stores report what the runtime knows of them.
  have tasks := approvable.taskStore
  have requests := approvable.ledgerStore
  simp only [storeHealthy, Bool.and_eq_true] at tasks requests
  have taskStore : (!manager.persistenceEnabled || manager.lastPersistenceError.isEmpty) = true ∧
      (!manager.persistenceRecoveryRequired) = true := ⟨tasks.1.1.1, tasks.1.1.2⟩
  have ledgerStore : (!ledger.configuration.persistenceEnabled ||
      ledger.configuration.lastPersistenceError.isEmpty) = true ∧
      (!ledger.configuration.recoveryRequired) = true := ⟨requests.1.1.1, requests.1.1.2⟩
  refine ⟨?_, ?_, ⟨taskStore.1, by simpa using taskStore.2⟩,
    ⟨ledgerStore.1, by simpa using ledgerStore.2⟩⟩
  · intro task retained interrupted
    have seen := listing approvable task retained interrupted
    rcases valid with ⟨none, -⟩ | ⟨document, items, file, decided⟩
    · simp [listedIds, List.map_eq_nil_iff.mp none] at seen
    · have same : arguments.items = items := by
        simp [ValidationArguments.items, file, Json.getArray, decided.listed, Json.items?]
      rw [same]
      exact decided.tasks task.id seen
  · intro counted
    rcases valid with ⟨-, none⟩ | ⟨document, items, file, decided⟩
    · exact absurd (by exact_mod_cast none) counted
    · have same : arguments.items = items := by
        simp [ValidationArguments.items, file, Json.getArray, decided.listed, Json.items?]
      obtain ⟨item, only, fine⟩ := decided.aggregate (by exact_mod_cast counted)
      have member : item ∈ items.filter (isAggregateItem ledger.interruptedCount) := by simp [only]
      obtain ⟨listed, matching⟩ := List.mem_filter.mp member
      rw [same]
      exact ⟨item, listed, matching, fine⟩

theorem unlisted_uncovered (approvable : Approvable manager ledger) {task : ManagementTask}
    (retained : task ∈ manager.retained) (interrupted : task.state = .interrupted)
    (unlisted : task.id ∉ listedIds manager) :
    ∃ arguments polls report, Answers manager ledger polls ∧
      validateRestoredRuntime arguments polls = .ok report ∧ report.returnCode = 0 ∧
      ¬DispositionsComplete manager ledger arguments := by
  obtain ⟨report, validated, approved⟩ := sample_approved approvable
  refine ⟨_, [samplePoll manager ledger], report, ?_, validated, approved, ?_⟩
  · intro poll member _
    rw [List.mem_singleton.mp member]
    rfl
  · intro complete
    obtain ⟨item, only, -⟩ := complete.tasks task retained interrupted
    -- The file has no item for a task that it was not made for.
    have items : (sampleArguments (listedIds manager).dedup ledger.interruptedCount).items =
        (listedIds manager).dedup.map taskItem ++ [aggregateItem ledger.interruptedCount] := rfl
    rw [items, sample_taskItems (List.nodup_dedup _)] at only
    simp [unlisted] at only

/-- The approval covers every retained task exactly when the runtime denies it by itself, or every
interrupted task is among the newest thousand that the gate asks for. -/
theorem approval_complete_iff (manager : TaskManager) (ledger : Ledger) :
    (∀ arguments polls report, Answers manager ledger polls →
      validateRestoredRuntime arguments polls = .ok report → report.returnCode = 0 →
      DispositionsComplete manager ledger arguments) ↔
    (Approvable manager ledger → ∀ task ∈ manager.retained, task.state = .interrupted →
      ∃ listed ∈ manager.retained.take 1000, listed.state = .interrupted ∧ listed.id = task.id) := by
  simp only [← mem_listedIds]
  constructor
  · intro complete approvable task retained interrupted
    by_contra unlisted
    obtain ⟨arguments, polls, report, answers, validated, approved, incomplete⟩ :=
      unlisted_uncovered approvable retained interrupted unlisted
    exact incomplete (complete arguments polls report answers validated approved)
  · intro condition arguments polls report answers validated approved
    exact complete_of_approved answers validated approved condition

def sampleTask (sequence : Nat) : ManagementTask :=
  { ManagementTask.fresh with
    id := taskId 1722500000000000 sequence
    state := if sequence = 0 then .interrupted else .succeeded }

/-- A runtime that retains one interrupted task and a number of newer ones. -/
def sampleManager (newer : Nat) : TaskManager :=
  { TaskSettings.configured ⟨2, 100, 2000, true⟩ with
    objects := sampleTask
    allocated := newer + 1
    tasks := (List.range (newer + 1)).map fun sequence => ((sampleTask sequence).id, sequence)
    order := (List.range (newer + 1)).map fun sequence => (sampleTask sequence).id }

def sampleLedger : Ledger where
  configuration := ⟨true, 1000, 86400000000, "", false⟩
  entries := []

theorem sampleManager_retained (newer : Nat) :
    (sampleManager newer).retained = (List.range (newer + 1)).reverse.map sampleTask := by
  have injective : Function.Injective fun sequence => (sampleTask sequence).id :=
    fun first second same => taskId_sequence same
  have distinct : (AssocList.keys (sampleManager newer).tasks).Nodup := by
    have keys : AssocList.keys (sampleManager newer).tasks =
        (List.range (newer + 1)).map fun sequence => (sampleTask sequence).id := by
      simp only [AssocList.keys, sampleManager, List.map_map]
      rfl
    rw [keys]
    exact List.nodup_range.map injective
  have found : ∀ sequence ∈ (List.range (newer + 1)).reverse,
      ((fun id => ((sampleManager newer).tasks.lookup id).map (sampleManager newer).objects) ∘
        fun sequence => (sampleTask sequence).id) sequence = some (sampleTask sequence) := by
    intro sequence member
    have listed : ((sampleTask sequence).id, sequence) ∈ (sampleManager newer).tasks :=
      List.mem_map.mpr ⟨sequence, List.mem_reverse.mp member, rfl⟩
    simp only [Function.comp, (AssocList.lookup_eq_some_iff distinct).mpr listed]
    rfl
  have order : (sampleManager newer).order.reverse =
      (List.range (newer + 1)).reverse.map fun sequence => (sampleTask sequence).id := by
    simp only [sampleManager, List.map_reverse]
  rw [TaskManager.retained, order, List.filterMap_map, List.filterMap_congr found]
  exact congrFun List.filterMap_eq_map _

theorem sampleManager_newer (newer : Nat) :
    (((sampleManager newer).retained.take newer).filter fun task =>
      task.state = .interrupted) = [] := by
  have split : (List.range (newer + 1)).reverse =
      ((List.range newer).map Nat.succ).reverse ++ [0] := by
    rw [List.range_succ_eq_map, List.reverse_cons]
  have length : (((List.range newer).map Nat.succ).reverse.map sampleTask).length = newer := by
    simp
  rw [sampleManager_retained, split, List.map_append, List.take_left' length]
  refine List.filter_eq_nil_iff.mpr fun task member => ?_
  obtain ⟨sequence, listed, rfl⟩ := List.mem_map.mp member
  obtain ⟨before, -, rfl⟩ := List.mem_map.mp (List.mem_reverse.mp listed)
  simp [sampleTask]

/-- The gate approves a runtime that retains an interrupted task behind a thousand newer ones,
although nothing was decided about that task. -/
theorem old_interrupted_task_uncovered :
    ¬∀ (manager : TaskManager) (ledger : Ledger) arguments polls report,
      Answers manager ledger polls → validateRestoredRuntime arguments polls = .ok report →
      report.returnCode = 0 → DispositionsComplete manager ledger arguments := by
  intro always
  have listed : listedInterrupted (sampleManager 1000) = [] := sampleManager_newer 1000
  have approvable : Approvable (sampleManager 1000) sampleLedger := by
    refine ⟨rfl, rfl, ?_⟩
    rw [listed]
    simp
  have retained : sampleTask 0 ∈ (sampleManager 1000).retained := by
    rw [sampleManager_retained]
    exact List.mem_map.mpr ⟨0, List.mem_reverse.mpr (List.mem_range.mpr (by decide)), rfl⟩
  have unlisted : (sampleTask 0).id ∉ listedIds (sampleManager 1000) := by
    simp [listedIds, listed]
  obtain ⟨arguments, polls, report, answers, validated, approved, incomplete⟩ :=
    unlisted_uncovered approvable retained rfl unlisted
  exact incomplete (always _ _ arguments polls report answers validated approved)

end Approval

end PocoDDS.Tools.RestoredRuntime
