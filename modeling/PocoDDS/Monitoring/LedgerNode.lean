import PocoDDS.Monitoring.LedgerFile
import PocoDDS.Monitoring.RequestExclusion

/-! A runtime over one ledger file: requests, crashes inside the file work, and restarts. -/

namespace PocoDDS.Monitoring

open AssocList CrashLogic JsonModel

/-- The ledger settings a runtime is started with. -/
structure LedgerSettings where
  retention : Nat
  ttlMicroseconds : Int
  requireRequestId : Bool

/-- The ledger configuration at the beginning of every start. -/
def LedgerSettings.configuration (settings : LedgerSettings) :
    ManagementRequestLedgerConfiguration :=
  ⟨true, settings.retention, settings.ttlMicroseconds, "", false⟩

/-- What happens during one persist call: its clock reading, its exceptions, an optional crash. -/
structure FileWork where
  savedAtMicroseconds : Int
  faults : List (Option Fault)
  crash : Option Nat

/-- A persist call only touches the files while persistence is enabled and healthy. -/
def Ledger.persists (ledger : Ledger) : Bool :=
  ledger.configuration.persistenceEnabled && !ledger.configuration.recoveryRequired

/-- The operation on the snapshot files behind one persist call. -/
def FileWork.operation (work : FileWork) (ledger : Ledger) : Persist :=
  ⟨ledgerRecords ledger.entries, work.savedAtMicroseconds, work.faults, work.crash⟩

/-- The document one persist call writes. -/
def FileWork.document (library : JsonLibrary) (work : FileWork) (ledger : Ledger) : Json :=
  snapshotDocument library .requests (ledgerRecords ledger.entries) work.savedAtMicroseconds

/-- The file work of one critical section: its outcome, or nothing when the process dies in it. -/
def FileWork.commit (library : JsonLibrary) (work : FileWork) (pending : Option Ledger)
    (files : SnapshotFiles) : Option (Except String Unit) × SnapshotFiles :=
  match pending with
  | none => (some (.ok ()), files)
  | some ledger =>
    if !ledger.persists then (some (.ok ()), files)
    else
      let outcome := ((persistSnapshot library .requests (ledgerRecords ledger.entries)
        work.savedAtMicroseconds).run files work.faults).1
      -- A crash leaves the files as they were at its point and never returns to the caller.
      (if work.crash.isSome then none else some outcome,
        (work.operation ledger).leaves library .requests files)

/-- An admitted request that its guard has not taken back. -/
structure Claim where
  requestId : String
  /-- The time its entry is at least as young as. -/
  stamp : Int
  /-- The guard that was handed out for it. -/
  owner : Nat
  /-- Whether a later clock reading was beyond its time to live. -/
  expired : Bool
  deriving DecidableEq, Repr

/-- A clock reading may end a claim. -/
def Claim.observe (ttlMicroseconds now : Int) (claim : Claim) : Claim :=
  { claim with expired := claim.expired || decide (now - claim.stamp > ttlMicroseconds) }

/-- Completion renews the entry of a claim, unless the clock was set back. -/
def Claim.renew (requestId : String) (now : Int) (claim : Claim) : Claim :=
  if claim.requestId = requestId then { claim with stamp := min claim.stamp now } else claim

/-- The files, the process while it lives, and the history of claims and touched request ids. -/
structure LedgerNode where
  files : SnapshotFiles
  running : Bool
  system : RequestSystem
  claims : List Claim
  touched : List (String × Int)

/-- The events of a runtime; each critical section carries its clock reading and file work. -/
inductive NodeEvent
  | configure (now : Int) (work : FileWork)
  | begin (requestId fingerprint : String) (now : Int) (work : FileWork)
  | complete (guard : Nat) (operation target action : String) (now : Int) (work : FileWork)
  | destroy (guard : Nat) (work : FileWork)
  | rehash (order : List (String × ManagementRequestEntry))
  | die

/-- The guard at an index, if it still exists. -/
def RequestSystem.liveGuard (system : RequestSystem) (index : Nat) :
    Option ManagementRequestGuard :=
  match system.guards[index]? with
  | none => none
  | some record => if record.destroyed then none else some record.guard

/-- The ledger a critical section hands to its persist call, if it makes one. -/
def LedgerNode.pending (library : JsonLibrary) (settings : LedgerSettings) (node : LedgerNode) :
    NodeEvent → Option Ledger
  | .configure now _ =>
    -- A failed read never gets as far as persisting.
    match configured? library settings.configuration node.files.current now with
    | .ok pruned => pruned
    | .error _ => none
  | .begin requestId fingerprint now _ =>
    match admitRequest settings.requireRequestId node.system.ledger requestId
        (library.sha256 fingerprint) now with
    | .recorded pending => some pending
    | .answered _ _ _ => none
  | .complete index operation target action now _ =>
    (node.system.liveGuard index).bind fun guard =>
      completed? node.system.ledger guard operation target action now
  | .destroy index _ =>
    (node.system.liveGuard index).bind fun guard => withdrawn? node.system.ledger guard
  | .rehash _ => none
  | .die => none

/-- The process is gone, and with it every guard; no destructor has run. -/
def LedgerNode.crashed (node : LedgerNode) (files : SnapshotFiles) : LedgerNode :=
  { node with
    files
    running := false
    system := { node.system with
      guards := node.system.guards.map fun record => { record with destroyed := true } } }

/-- A clock reading that entries are pruned by. -/
def LedgerNode.observe (settings : LedgerSettings) (node : LedgerNode) (now : Int) : LedgerNode :=
  { node with claims := node.claims.map (Claim.observe settings.ttlMicroseconds now) }

/-- The start of a runtime reads the file, prunes it and writes it back. -/
def LedgerNode.configureStep (library : JsonLibrary) (settings : LedgerSettings)
    (node : LedgerNode) (now : Int) (work : FileWork) : LedgerNode :=
  let observed := node.observe settings now
  match work.commit library (node.pending library settings (.configure now work)) node.files with
  | (none, files) => observed.crashed files
  | (some outcome, files) =>
    { observed with
      files
      running := true
      system := { node.system with
        ledger := configureManagementRequestLedger library settings.configuration
          node.files.current now outcome } }

/-- What the client of an admission gets, unless the process dies first. -/
def LedgerNode.answer (library : JsonLibrary) (settings : LedgerSettings) (node : LedgerNode)
    (requestId fingerprint : String) (now : Int) (work : FileWork) :
    Option (ManagementRequestGuard × Response) :=
  if !node.running then none
  else
    let pending := node.pending library settings (.begin requestId fingerprint now work)
    (work.commit library pending node.files).1.map fun outcome =>
      let (guard, response, _) := beginManagementRequest settings.requireRequestId
        node.system.ledger requestId (library.sha256 fingerprint) now outcome
      (guard, response)

/-- Admission in a runtime; a request that may proceed becomes a claim. -/
def LedgerNode.beginStep (library : JsonLibrary) (settings : LedgerSettings) (node : LedgerNode)
    (requestId fingerprint : String) (now : Int) (work : FileWork) : LedgerNode :=
  let observed := node.observe settings now
  let pending := node.pending library settings (.begin requestId fingerprint now work)
  let touched := if pending.isSome then node.touched ++ [(requestId, now)] else node.touched
  match work.commit library pending node.files with
  | (none, files) => { observed with touched }.crashed files
  | (some outcome, files) =>
    let (guard, _, _) := beginManagementRequest settings.requireRequestId node.system.ledger
      requestId (library.sha256 fingerprint) now outcome
    { observed with
      files
      touched
      system := node.system.step settings.requireRequestId
        (.begin requestId (library.sha256 fingerprint) now outcome)
      claims := if guard.tracked then
          observed.claims ++ [⟨requestId, now, node.system.guards.length, false⟩]
        else observed.claims }

def LedgerNode.completeStep (library : JsonLibrary) (settings : LedgerSettings)
    (node : LedgerNode) (index : Nat) (operation target action : String) (now : Int)
    (work : FileWork) : LedgerNode :=
  let pending := node.pending library settings (.complete index operation target action now work)
  let renewed := match pending, node.system.liveGuard index with
    | some _, some guard =>
      { node with
        claims := node.claims.map (Claim.renew guard.requestId now)
        touched := node.touched ++ [(guard.requestId, now)] }
    | _, _ => node
  match work.commit library pending node.files with
  | (none, files) => renewed.crashed files
  | (some outcome, files) =>
    { renewed with
      files
      system := node.system.step settings.requireRequestId
        (.complete index operation target action now outcome) }

/-- Destruction in a runtime takes back the claim of an unresolved guard. -/
def LedgerNode.destroyStep (library : JsonLibrary) (settings : LedgerSettings)
    (node : LedgerNode) (index : Nat) (work : FileWork) : LedgerNode :=
  let pending := node.pending library settings (.destroy index work)
  let unresolved := match node.system.guards[index]? with
    | none => false
    | some record => record.unresolved
  let withdrawn := if unresolved then
      { node with claims := node.claims.filter fun claim => claim.owner ≠ index }
    else node
  match work.commit library pending node.files with
  | (none, files) => withdrawn.crashed files
  | (some outcome, files) =>
    { withdrawn with
      files
      system := node.system.step settings.requireRequestId (.destroy index outcome) }

/-- One event; only a start does anything while there is no process. -/
def LedgerNode.step (library : JsonLibrary) (settings : LedgerSettings) (node : LedgerNode)
    (event : NodeEvent) : LedgerNode :=
  match event with
  | .configure now work =>
    if node.running then node else node.configureStep library settings now work
  | .begin requestId fingerprint now work =>
    if node.running then node.beginStep library settings requestId fingerprint now work else node
  | .complete index operation target action now work =>
    if node.running then
      node.completeStep library settings index operation target action now work
    else node
  | .destroy index work =>
    if node.running then node.destroyStep library settings index work else node
  | .rehash order =>
    if node.running then
      { node with system := node.system.step settings.requireRequestId (.rehash order) }
    else node
  | .die => node.crashed node.files

/-- A machine on which no ledger has been written yet. -/
def LedgerNode.initial (settings : LedgerSettings) (files : SnapshotFiles) : LedgerNode where
  files := { files with current := none }
  running := false
  system := .initial ⟨settings.configuration, []⟩
  claims := []
  touched := []

/-- The distinct request ids whose entries were touched within one time to live. -/
def recentIds (touched : List (String × Int)) (ttlMicroseconds now : Int) : List String :=
  ((touched.filter fun touch => decide (now - touch.2 ≤ ttlMicroseconds)).map Prod.fst).dedup

/-- Fewer than `retention` distinct request ids within one time to live of a pruning. -/
def FewRequestIds (settings : LedgerSettings) (node : LedgerNode) : NodeEvent → Prop
  | .configure now _ =>
    (recentIds node.touched settings.ttlMicroseconds now).length < settings.retention
  | .begin _ _ now _ =>
    (recentIds node.touched settings.ttlMicroseconds now).length < settings.retention
  | _ => True

instance (settings : LedgerSettings) (node : LedgerNode) (event : NodeEvent) :
    Decidable (FewRequestIds settings node event) :=
  match event with
  | .configure _ _ => inferInstanceAs (Decidable (_ < _))
  | .begin _ _ _ _ => inferInstanceAs (Decidable (_ < _))
  | .complete _ _ _ _ _ _ => inferInstanceAs (Decidable True)
  | .destroy _ _ => inferInstanceAs (Decidable True)
  | .rehash _ => inferInstanceAs (Decidable True)
  | .die => inferInstanceAs (Decidable True)

/-- The clock readings and crash points of an event's file work. -/
def NodeEvent.work? : NodeEvent → Option FileWork
  | .configure _ work => some work
  | .begin _ _ _ work => some work
  | .complete _ _ _ _ _ work => some work
  | .destroy _ work => some work
  | .rehash _ => none
  | .die => none

def DocumentReadsBack (library : JsonLibrary) (settings : LedgerSettings) (node : LedgerNode)
    (event : NodeEvent) : Prop :=
  ∀ ledger work, node.pending library settings event = some ledger → event.work? = some work →
    library.ReadsBack (work.document library ledger)

def WithdrawsOwnEntry (node : LedgerNode) : NodeEvent → Prop
  | .destroy index _ => ∀ guard entry, node.system.liveGuard index = some guard →
      guard.tracked = true → node.system.ledger.entries.lookup guard.requestId = some entry →
      entry.completed = false → node.system.creators.lookup guard.requestId = some index
  | _ => True

/-- The answers that do not execute a request: replay, conflict or service unavailable. -/
def Response.refuses : Response → Bool
  | .none => false
  | .error status _ => status == 409 || status == 503
  | .replay _ _ _ _ => true

/-- While a claim on its id is alive, a request is answered without being executed. -/
def NotReexecuted (library : JsonLibrary) (settings : LedgerSettings) (node : LedgerNode) :
    NodeEvent → Prop
  | .begin requestId fingerprint now work => ∀ claim ∈ node.claims, claim.requestId = requestId →
      (claim.observe settings.ttlMicroseconds now).expired = false → ∀ guard response,
      node.answer library settings requestId fingerprint now work = some (guard, response) →
      guard.proceed = false ∧ response.refuses = true
  | _ => True

end PocoDDS.Monitoring
