import PocoDDS.Monitoring.RequestLedger
import PocoDDS.Monitoring.Snapshot

/-! The idempotency ledger on disk: its records, and what a restart reads back from them. -/

namespace PocoDDS.Monitoring

open AssocList JsonModel

/-- The state text of a record. -/
def ledgerState (entry : ManagementRequestEntry) : String :=
  if entry.completed then "completed"
  else if entry.interrupted then "interrupted"
  else "in-progress"

/-- The record written for one entry. -/
def ledgerRecord (item : String × ManagementRequestEntry) : Json :=
  .obj [("requestId", .str item.1),
    ("fingerprintSha256", .str item.2.fingerprintDigest),
    ("operation", .str item.2.operation),
    ("target", .str item.2.target),
    ("action", .str item.2.action),
    ("updatedMicroseconds", .num item.2.updatedMicroseconds),
    ("state", .str (ledgerState item.2))]

/-- The entries ordered by their time stamps, as they are written. -/
def orderedEntries (entries : List (String × ManagementRequestEntry)) :
    List (String × ManagementRequestEntry) :=
  entries.insertionSort fun left right =>
    left.2.updatedMicroseconds ≤ right.2.updatedMicroseconds

theorem orderedEntries_perm (entries : List (String × ManagementRequestEntry)) :
    (orderedEntries entries).Perm entries :=
  List.perm_insertionSort _ _

def ledgerRecords (entries : List (String × ManagementRequestEntry)) : List Json :=
  (orderedEntries entries).map ledgerRecord

/-- Reading one record; anything without an id or a full digest is skipped. -/
def loadRecord (library : JsonLibrary) (source : Json) :
    Option (String × ManagementRequestEntry) :=
  if !source.isObject then none
  else
    let text := fun key default => JsonLibrary.optValue library.convertString source key default
    let requestId := text "requestId" ""
    let completed := text "state" "interrupted" == "completed"
    let entry : ManagementRequestEntry :=
      { fingerprintDigest := text "fingerprintSha256" ""
        operation := text "operation" ""
        target := text "target" ""
        action := text "action" ""
        updatedMicroseconds :=
          JsonLibrary.optValue library.convertInt source "updatedMicroseconds" 0
        completed
        interrupted := !completed }
    if !requestId.isEmpty && entry.fingerprintDigest.utf8ByteSize == 64 then some (requestId, entry)
    else none

/-- The table built from the records in order; a later record replaces an earlier one. -/
def loadRecords (library : JsonLibrary) (records : List Json) :
    List (String × ManagementRequestEntry) :=
  (records.filterMap (loadRecord library)).foldl
    (fun table entry => assign entry.1 entry.2 table) []

/-- Reading the ledger file at start. -/
def loadRequests (library : JsonLibrary) (text : String) :
    Except String (List (String × ManagementRequestEntry)) :=
  match library.parse text with
  | none => .error "JSON syntax error"
  | some root =>
    if !root.isObject then .error "Can not convert to object"
    else
      let schemaVersion := JsonLibrary.optValue library.convertInt root "schemaVersion" 0
      if schemaVersion ≠ 1 ∧ schemaVersion ≠ 2 then
        .error "unsupported management idempotency ledger schema"
      else match root.getArray "requests" with
        | none => .error "management idempotency ledger is missing requests array"
        | some requests =>
          if schemaVersion = 2 ∧
              JsonLibrary.optValue library.convertString root "contentSha256" "" ≠
                library.sha256 (library.stringify (.arr requests)) then
            .error "management idempotency ledger integrity check failed"
          else .ok (loadRecords library requests)

/-- The ledger a start persists again: what the file holds, pruned. -/
def configured? (library : JsonLibrary) (configuration : ManagementRequestLedgerConfiguration)
    (current : Option String) (now : Int) : Except String (Option Ledger) :=
  match current with
  | none => .ok none
  | some text => (loadRequests library text).map fun entries =>
      some (pruneManagementRequestsLocked ⟨configuration, entries⟩ now)

/-- The ledger after a start, given the outcome of the file work of its persist call. -/
def configureManagementRequestLedger (library : JsonLibrary)
    (configuration : ManagementRequestLedgerConfiguration) (current : Option String) (now : Int)
    (files : Except String Unit) : Ledger :=
  if !configuration.persistenceEnabled then ⟨configuration, []⟩
  else match configured? library configuration current now with
    | .error message => ⟨latchFailure configuration message, []⟩
    | .ok none => ⟨configuration, []⟩
    | .ok (some pruned) =>
      match persistManagementRequestsLocked pruned.configuration files with
      | .ok configuration => { pruned with configuration }
      | .error message => ⟨latchFailure configuration message, []⟩

/-- What a restart makes of an entry: everything unfinished is interrupted. -/
def reloaded (entry : ManagementRequestEntry) : ManagementRequestEntry :=
  { entry with interrupted := !entry.completed }

/-- An entry that the reader does not skip. -/
def Readable (item : String × ManagementRequestEntry) : Prop :=
  item.1 ≠ "" ∧ item.2.fingerprintDigest.utf8ByteSize = 64

section Reload

variable {library : JsonLibrary}
variable {entries : List (String × ManagementRequestEntry)}

theorem loadRecord_ledgerRecord (converts : library.Converts)
    {item : String × ManagementRequestEntry} (readable : Readable item) :
    loadRecord library (ledgerRecord item) = some (item.1, reloaded item.2) := by
  -- Every member is looked up under the key it was written under.
  have text : ∀ {key value : String}, (ledgerRecord item).member key = some (.str value) →
      ∀ default, JsonLibrary.optValue library.convertString (ledgerRecord item) key default =
        value := fun found default => converts.optString found default
  have state : (ledgerState item.2 == "completed") = item.2.completed := by
    unfold ledgerState
    cases item.2.completed <;> cases item.2.interrupted <;> rfl
  have stamp := converts.optInt (show (ledgerRecord item).member "updatedMicroseconds" =
    some (.num item.2.updatedMicroseconds) from rfl) 0
  simp only [loadRecord, show (ledgerRecord item).isObject = true from rfl,
    text (show (ledgerRecord item).member "requestId" = some (.str item.1) from rfl),
    text (show (ledgerRecord item).member "fingerprintSha256" =
      some (.str item.2.fingerprintDigest) from rfl),
    text (show (ledgerRecord item).member "operation" = some (.str item.2.operation) from rfl),
    text (show (ledgerRecord item).member "target" = some (.str item.2.target) from rfl),
    text (show (ledgerRecord item).member "action" = some (.str item.2.action) from rfl),
    text (show (ledgerRecord item).member "state" = some (.str (ledgerState item.2)) from rfl),
    stamp, state, readable.2]
  have named : item.1.isEmpty = false := by
    simpa using readable.1
  simp [named, reloaded]

variable (converts : library.Converts) (distinct : (keys entries).Nodup)
  (readable : ∀ item ∈ entries, Readable item)
include converts distinct readable

theorem loadRecords_ledgerRecords :
    loadRecords library (ledgerRecords entries) =
      (orderedEntries entries).map fun item => (item.1, reloaded item.2) := by
  have sorted := orderedEntries_perm entries
  have read : (ledgerRecords entries).filterMap (loadRecord library) =
      (orderedEntries entries).map fun item => (item.1, reloaded item.2) := by
    rw [ledgerRecords, List.filterMap_map, ← List.filterMap_eq_map]
    apply List.filterMap_congr
    intro item member
    exact loadRecord_ledgerRecord converts (readable item (sorted.mem_iff.mp member))
  have listed : keys ((orderedEntries entries).map fun item => (item.1, reloaded item.2)) =
      keys (orderedEntries entries) := by
    simp [keys]
  rw [loadRecords, read, foldl_assign]
  · simp
  · rw [listed]
    exact (sorted.map Prod.fst).nodup_iff.mpr distinct
  · simp [keys]

theorem loadRequests_written {savedAtMicroseconds : Int} (readsBack : library.ReadsBack
      (snapshotDocument library .requests (ledgerRecords entries) savedAtMicroseconds)) :
    loadRequests library (library.stringify
        (snapshotDocument library .requests (ledgerRecords entries) savedAtMicroseconds)) =
      .ok ((orderedEntries entries).map fun item => (item.1, reloaded item.2)) := by
  have schema := converts.optInt (show (snapshotDocument library .requests
    (ledgerRecords entries) savedAtMicroseconds).member "schemaVersion" = some (.num 2) from rfl) 0
  have digest := converts.optString (show (snapshotDocument library .requests
    (ledgerRecords entries) savedAtMicroseconds).member "contentSha256" =
      some (.str (library.sha256 (library.stringify (.arr (ledgerRecords entries))))) from rfl) ""
  have array : (snapshotDocument library .requests (ledgerRecords entries)
      savedAtMicroseconds).getArray "requests" = some (ledgerRecords entries) := rfl
  have object : (snapshotDocument library .requests (ledgerRecords entries)
      savedAtMicroseconds).isObject = true := rfl
  unfold loadRequests
  simp only [show library.parse (library.stringify _) = some _ from readsBack]
  simp [object, schema, digest, array, loadRecords_ledgerRecords converts distinct readable]

end Reload

end PocoDDS.Monitoring
