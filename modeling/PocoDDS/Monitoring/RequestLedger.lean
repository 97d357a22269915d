import PocoDDS.Lib.Assoc

/-! The idempotency ledger: admission of management requests and the guards that resolve them. -/

namespace PocoDDS.Monitoring

open AssocList

/-- What the ledger records about one request id. -/
structure ManagementRequestEntry where
  fingerprintDigest : String
  operation : String
  target : String
  action : String
  updatedMicroseconds : Int
  completed : Bool
  interrupted : Bool
  deriving DecidableEq, Repr

/-- The settings of the ledger and the state of its persistence. -/
structure ManagementRequestLedgerConfiguration where
  persistenceEnabled : Bool
  retention : Nat
  ttlMicroseconds : Int
  lastPersistenceError : String
  recoveryRequired : Bool
  deriving DecidableEq, Repr

/-- The ledger shared by all requests; the entries are listed in the order the table iterates. -/
structure Ledger where
  configuration : ManagementRequestLedgerConfiguration
  entries : List (String × ManagementRequestEntry)
  deriving DecidableEq, Repr

/-- The first entry with the smallest time stamp. -/
def oldestEntry : List (String × ManagementRequestEntry) →
    Option (String × ManagementRequestEntry)
  | [] => none
  | first :: rest => some (rest.foldl (fun smallest entry =>
      if entry.2.updatedMicroseconds < smallest.2.updatedMicroseconds then entry
      else smallest) first)

/-- Removing the oldest entry. -/
def eraseOldest (entries : List (String × ManagementRequestEntry)) :
    List (String × ManagementRequestEntry) :=
  match oldestEntry entries with
  | none => entries
  | some oldest => eraseKey oldest.1 entries

/-- Whether an entry has outlived its time to live. -/
def expired (ttlMicroseconds now : Int) (entry : ManagementRequestEntry) : Bool :=
  now - entry.updatedMicroseconds > ttlMicroseconds

/-- Pruning drops expired entries first, and then the oldest ones beyond the retention limit. -/
def pruneManagementRequestsLocked (ledger : Ledger) (now : Int) : Ledger :=
  let live := ledger.entries.filter fun entry =>
    !expired ledger.configuration.ttlMicroseconds now entry.2
  -- The loop removes one entry a turn, so it turns once for each surplus entry.
  { ledger with entries := eraseOldest^[live.length - ledger.configuration.retention] live }

/-- Making room for one more entry in a full ledger. -/
def makeRoom (ledger : Ledger) : Ledger :=
  if ledger.entries.length ≥ ledger.configuration.retention then
    { ledger with entries := eraseOldest ledger.entries }
  else ledger

/-- The outcome of a persist call, given the outcome of its file work. -/
def persistManagementRequestsLocked (configuration : ManagementRequestLedgerConfiguration)
    (files : Except String Unit) : Except String ManagementRequestLedgerConfiguration :=
  if !configuration.persistenceEnabled then .ok configuration
  else if configuration.recoveryRequired then
    .error "management idempotency persistence requires operator recovery"
  else match files with
    | .error message => .error message
    | .ok () => .ok { configuration with lastPersistenceError := "" }

/-- The latch set by every failed persist call. -/
def latchFailure (configuration : ManagementRequestLedgerConfiguration) (message : String) :
    ManagementRequestLedgerConfiguration :=
  { configuration with lastPersistenceError := message, recoveryRequired := true }

/-- A persist call that swallows its exception. -/
def persistManagementRequestsNoThrowLocked (ledger : Ledger) (files : Except String Unit) :
    Ledger :=
  match persistManagementRequestsLocked ledger.configuration files with
  | .ok configuration => { ledger with configuration }
  | .error message => { ledger with configuration := latchFailure ledger.configuration message }

/-- A guard as its owner holds it. -/
structure ManagementRequestGuard where
  requestId : String
  proceed : Bool
  tracked : Bool
  deriving DecidableEq, Repr

/-- What the client is sent while a request is being admitted. -/
inductive Response
  | none
  | error (status : Nat) (message : String)
  | replay (requestId operation target action : String)
  deriving DecidableEq, Repr

def refusal : ManagementRequestGuard := ⟨"", false, false⟩

def validRequestId (requestId : String) : Bool :=
  requestId.length ≤ 128 &&
    match requestId.toList with
    | [] => false
    | first :: rest => first.isAlphanum &&
        rest.all fun char => char.isAlphanum || char ∈ ['_', '.', ':', '-']

/-- The answer to a request whose id the ledger already holds. -/
def answerExisting (requestId digest : String) (existing : ManagementRequestEntry) : Response :=
  if existing.fingerprintDigest ≠ digest then
    .error 409 "X-PDR-Request-Id 已用于不同的管理操作。"
  else if existing.interrupted then
    .error 409 "该管理请求在 Runtime 重启前未确认完成；请先核对目标状态，再使用新的请求 ID。"
  else if !existing.completed then .error 409 "相同管理请求仍在执行。"
  else .replay requestId existing.operation existing.target existing.action

/-- A request either ends at once or waits for its new entry to be persisted. -/
inductive Admission
  | answered (guard : ManagementRequestGuard) (response : Response) (ledger : Ledger)
  | recorded (ledger : Ledger)
  deriving DecidableEq, Repr

/-- Admission up to the persist call. -/
def admitRequest (requireRequestId : Bool) (ledger : Ledger) (requestId digest : String)
    (now : Int) : Admission :=
  if requestId.isEmpty then
    if !requireRequestId then .answered ⟨"", true, false⟩ .none ledger
    else .answered refusal (.error 428 "管理写操作需要 X-PDR-Request-Id。") ledger
  else if !validRequestId requestId then
    .answered refusal (.error 400 "X-PDR-Request-Id 格式无效。") ledger
  else if ledger.configuration.persistenceEnabled && ledger.configuration.recoveryRequired then
    .answered refusal (.error 503 "管理幂等账本需要运维恢复，当前拒绝执行新的管理写操作。") ledger
  else
    let pruned := pruneManagementRequestsLocked ledger now
    match pruned.entries.lookup requestId with
    | some existing => .answered refusal (answerExisting requestId digest existing) pruned
    | none =>
      let room := makeRoom pruned
      .recorded { room with
        entries := room.entries ++ [(requestId, ⟨digest, "", "", "", now, false, false⟩)] }

/-- The end of admission: a failed persist call takes the new entry back. -/
def finishAdmission (ledger : Ledger) (requestId : String)
    (persisted : Except String ManagementRequestLedgerConfiguration) :
    ManagementRequestGuard × Response × Ledger :=
  match persisted with
  | .ok configuration => (⟨requestId, true, true⟩, .none, { ledger with configuration })
  | .error message =>
    (refusal, .error 503 "管理幂等账本无法持久化，当前拒绝执行管理写操作。",
      ⟨latchFailure ledger.configuration message, eraseKey requestId ledger.entries⟩)

def beginManagementRequest (requireRequestId : Bool) (ledger : Ledger) (requestId digest : String)
    (now : Int) (files : Except String Unit) : ManagementRequestGuard × Response × Ledger :=
  match admitRequest requireRequestId ledger requestId digest now with
  | .answered guard response ledger => (guard, response, ledger)
  | .recorded pending =>
    finishAdmission pending requestId
      (persistManagementRequestsLocked pending.configuration files)

/-- The entry a completed request leaves behind. -/
def completeEntry (operation target action : String) (now : Int)
    (entry : ManagementRequestEntry) : ManagementRequestEntry :=
  { entry with
    operation, target, action, completed := true, interrupted := false, updatedMicroseconds := now }

/-- The ledger a completion persists, if the guard is tracked and its id is still present. -/
def completed? (ledger : Ledger) (guard : ManagementRequestGuard)
    (operation target action : String) (now : Int) : Option Ledger :=
  if !guard.tracked then none
  else match ledger.entries.lookup guard.requestId with
    | none => none
    | some _ => some { ledger with
        entries := adjust guard.requestId (completeEntry operation target action now) ledger.entries }

/-- Completion marks whatever entry stands under the guard's id. -/
def ManagementRequestGuard.complete (guard : ManagementRequestGuard) (ledger : Ledger)
    (operation target action : String) (now : Int) (files : Except String Unit) :
    ManagementRequestGuard × Ledger :=
  match completed? ledger guard operation target action now with
  | none => (guard, ledger)
  | some marked => ({ guard with tracked := false }, persistManagementRequestsNoThrowLocked marked files)

/-- The ledger a destruction persists, if the guard is tracked and its id is unfinished. -/
def withdrawn? (ledger : Ledger) (guard : ManagementRequestGuard) : Option Ledger :=
  if !guard.tracked then none
  else match ledger.entries.lookup guard.requestId with
    | none => none
    | some entry =>
      if entry.completed then none
      else some { ledger with entries := eraseKey guard.requestId ledger.entries }

/-- Destruction erases whatever unfinished entry stands under the guard's id. -/
def ManagementRequestGuard.destroy (guard : ManagementRequestGuard) (ledger : Ledger)
    (files : Except String Unit) : Ledger :=
  match withdrawn? ledger guard with
  | none => ledger
  | some erased => persistManagementRequestsNoThrowLocked erased files

end PocoDDS.Monitoring
