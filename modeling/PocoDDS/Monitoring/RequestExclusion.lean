import PocoDDS.Lib.Run
import PocoDDS.Monitoring.RequestLedger

/-! Concurrent requests over one ledger: who may be executing, and whose entry a guard touches. -/

namespace PocoDDS.Monitoring

open AssocList RunLogic

/-- A guard together with what has happened to it so far. -/
structure GuardRecord where
  guard : ManagementRequestGuard
  completeCalled : Bool
  destroyed : Bool
  deriving DecidableEq, Repr

/-- A guard whose request was admitted and is neither completed nor abandoned. -/
def GuardRecord.unresolved (record : GuardRecord) : Bool :=
  record.guard.tracked && record.guard.proceed && !record.completeCalled && !record.destroyed

/-- The ledger, every guard handed out so far, and the guard that created each entry. -/
structure RequestSystem where
  ledger : Ledger
  guards : List GuardRecord
  creators : List (String × Nat)
  deriving DecidableEq, Repr

/-- The critical sections, with the clock reading and the outcome of the file work of each. -/
inductive RequestEvent
  | begin (requestId digest : String) (now : Int) (files : Except String Unit)
  | complete (guard : Nat) (operation target action : String) (now : Int)
      (files : Except String Unit)
  | destroy (guard : Nat) (files : Except String Unit)
  /-- The hash table may iterate in any other order after it has been changed. -/
  | rehash (order : List (String × ManagementRequestEntry))

/-- Admission creates a guard, and records it as creator when the request may proceed. -/
def beginStep (requireRequestId : Bool) (system : RequestSystem) (requestId digest : String)
    (now : Int) (files : Except String Unit) : RequestSystem :=
  let (guard, _, ledger) :=
    beginManagementRequest requireRequestId system.ledger requestId digest now files
  { ledger
    guards := system.guards ++ [⟨guard, false, false⟩]
    creators := if guard.tracked then assign requestId system.guards.length system.creators
      else system.creators }

/-- Completion by a guard that still exists. -/
def completeStep (system : RequestSystem) (index : Nat) (operation target action : String)
    (now : Int) (files : Except String Unit) : RequestSystem :=
  match system.guards[index]? with
  | none => system
  | some record =>
    if record.destroyed then system
    else
      let (guard, ledger) := record.guard.complete system.ledger operation target action now files
      { system with ledger, guards := system.guards.set index ⟨guard, true, false⟩ }

/-- Destruction of a guard that still exists. -/
def destroyStep (system : RequestSystem) (index : Nat) (files : Except String Unit) :
    RequestSystem :=
  match system.guards[index]? with
  | none => system
  | some record =>
    if record.destroyed then system
    else { system with
      ledger := record.guard.destroy system.ledger files
      guards := system.guards.set index { record with destroyed := true } }

/-- One critical section. -/
def RequestSystem.step (requireRequestId : Bool) (system : RequestSystem) :
    RequestEvent → RequestSystem
  | .begin requestId digest now files =>
    beginStep requireRequestId system requestId digest now files
  | .complete index operation target action now files =>
    completeStep system index operation target action now files
  | .destroy index files => destroyStep system index files
  | .rehash order =>
    if order.isPerm system.ledger.entries then
      { system with ledger := { system.ledger with entries := order } }
    else system

/-- A ledger before any guard exists; it may already hold entries loaded from disk. -/
def RequestSystem.initial (ledger : Ledger) : RequestSystem :=
  ⟨ledger, [], []⟩

/-- Whether admission gets as far as pruning the ledger. -/
def reachesPruning (ledger : Ledger) (requestId : String) : Bool :=
  !requestId.isEmpty && validRequestId requestId &&
    !(ledger.configuration.persistenceEnabled && ledger.configuration.recoveryRequired)

/-- The entries that pruning and the make-room step leave when a request is admitted. -/
def spared (ledger : Ledger) (requestId : String) (now : Int) :
    List (String × ManagementRequestEntry) :=
  if !reachesPruning ledger requestId then ledger.entries
  else if ((pruneManagementRequestsLocked ledger now).entries.lookup requestId).isSome then
    (pruneManagementRequestsLocked ledger now).entries
  else (makeRoom (pruneManagementRequestsLocked ledger now)).entries

/-- No admission evicts the entry of a request that is still being executed. -/
def SparesActive (system : RequestSystem) : RequestEvent → Prop
  | .begin requestId _ now _ => ∀ record ∈ system.guards, record.unresolved = true →
      record.guard.requestId ∈ keys (spared system.ledger requestId now)
  | _ => True

def Exclusive (system : RequestSystem) : Prop :=
  ∀ (first second : Nat) (left right : GuardRecord), system.guards[first]? = some left →
    system.guards[second]? = some right → left.unresolved = true → right.unresolved = true →
    left.guard.requestId = right.guard.requestId → first = second

/-- A guard's own completion or destruction leaves the entries of other guards alone. -/
def TouchesOwnEntry (system next : RequestSystem) : RequestEvent → Prop
  | .complete index _ _ _ _ _ => ∀ requestId, system.creators.lookup requestId ≠ some index →
      next.ledger.entries.lookup requestId = system.ledger.entries.lookup requestId
  | .destroy index _ => ∀ requestId, system.creators.lookup requestId ≠ some index →
      next.ledger.entries.lookup requestId = system.ledger.entries.lookup requestId
  | _ => True

theorem eraseOldest_sublist (entries : List (String × ManagementRequestEntry)) :
    (eraseOldest entries).Sublist entries := by
  unfold eraseOldest
  split
  · exact List.Sublist.refl _
  · exact List.filter_sublist

theorem eraseOldest_iterate_sublist (count : Nat)
    (entries : List (String × ManagementRequestEntry)) :
    (eraseOldest^[count] entries).Sublist entries := by
  induction count generalizing entries with
  | zero => exact List.Sublist.refl _
  | succ count ih =>
    rw [Function.iterate_succ_apply]
    exact (ih _).trans (eraseOldest_sublist entries)

theorem prune_sublist (ledger : Ledger) (now : Int) :
    (pruneManagementRequestsLocked ledger now).entries.Sublist ledger.entries :=
  (eraseOldest_iterate_sublist _ _).trans List.filter_sublist

theorem makeRoom_sublist (ledger : Ledger) : (makeRoom ledger).entries.Sublist ledger.entries := by
  unfold makeRoom
  split
  · exact eraseOldest_sublist _
  · exact List.Sublist.refl _

theorem makeRoom_configuration (ledger : Ledger) :
    (makeRoom ledger).configuration = ledger.configuration := by
  unfold makeRoom
  split <;> rfl

theorem spared_sublist (ledger : Ledger) (requestId : String) (now : Int) :
    (spared ledger requestId now).Sublist ledger.entries := by
  unfold spared
  split
  · exact List.Sublist.refl _
  · split
    · exact prune_sublist ledger now
    · exact (makeRoom_sublist _).trans (prune_sublist ledger now)

/-- The entry of a request that has just been admitted. -/
def newEntry (digest : String) (now : Int) : ManagementRequestEntry :=
  ⟨digest, "", "", "", now, false, false⟩

/-- Admission either answers at once over the spared entries or adds the new entry to them. -/
theorem admitRequest_cases (requireRequestId : Bool) (ledger : Ledger)
    (requestId digest : String) (now : Int) :
    (∃ guard response ledger', admitRequest requireRequestId ledger requestId digest now =
        .answered guard response ledger' ∧ guard.tracked = false ∧
        ledger'.configuration = ledger.configuration ∧
        ledger'.entries = spared ledger requestId now) ∨
    (∃ ledger', admitRequest requireRequestId ledger requestId digest now = .recorded ledger' ∧
        requestId ∉ keys (spared ledger requestId now) ∧
        reachesPruning ledger requestId = true ∧ ledger'.configuration = ledger.configuration ∧
        ledger'.entries = spared ledger requestId now ++ [(requestId, newEntry digest now)]) := by
  -- The first three refusals leave the ledger as it was.
  by_cases early : reachesPruning ledger requestId = true
  case neg =>
    have kept : spared ledger requestId now = ledger.entries := by
      simp [spared, early]
    left
    rw [kept]
    simp only [reachesPruning] at early
    unfold admitRequest
    split_ifs with empty free valid latched
    · exact ⟨_, _, _, rfl, rfl, rfl, rfl⟩
    · exact ⟨_, _, _, rfl, rfl, rfl, rfl⟩
    · exact ⟨_, _, _, rfl, rfl, rfl, rfl⟩
    · exact ⟨_, _, _, rfl, rfl, rfl, rfl⟩
    · simp_all
  have nonempty : requestId.isEmpty = false := by
    simp only [reachesPruning] at early
    simp_all
  have valid : validRequestId requestId = true := by
    simp only [reachesPruning] at early
    simp_all
  have open' :
      (ledger.configuration.persistenceEnabled && ledger.configuration.recoveryRequired) = false := by
    simp only [reachesPruning, Bool.and_eq_true] at early
    exact Bool.eq_false_of_not_eq_true' early.2
  simp only [admitRequest, nonempty, valid, open', Bool.not_true, Bool.false_eq_true, if_false]
  cases found : (pruneManagementRequestsLocked ledger now).entries.lookup requestId with
  | some existing =>
    left
    exact ⟨_, _, _, rfl, rfl, rfl, by simp [spared, early, found]⟩
  | none =>
    right
    have kept : spared ledger requestId now =
        (makeRoom (pruneManagementRequestsLocked ledger now)).entries := by
      simp [spared, early, found]
    refine ⟨_, rfl, ?_, early, makeRoom_configuration _, by rw [kept]; rfl⟩
    intro member
    rw [kept] at member
    have listed := ((makeRoom_sublist _).map Prod.fst).subset member
    exact lookup_eq_none_iff.mp found listed

theorem begin_cases (requireRequestId : Bool) (ledger : Ledger) (requestId digest : String)
    (now : Int) (files : Except String Unit) :
    let result := beginManagementRequest requireRequestId ledger requestId digest now files
    (result.1.tracked = false ∧ result.2.2.entries = spared ledger requestId now) ∨
    (result.1.tracked = false ∧ requestId ∉ keys (spared ledger requestId now) ∧
      result.2.2.entries = eraseKey requestId
        (spared ledger requestId now ++ [(requestId, newEntry digest now)])) ∨
    (result.1 = ⟨requestId, true, true⟩ ∧ requestId ∉ keys (spared ledger requestId now) ∧
      result.2.2.entries = spared ledger requestId now ++ [(requestId, newEntry digest now)]) := by
  intro result
  simp only [result, beginManagementRequest]
  rcases admitRequest_cases requireRequestId ledger requestId digest now with
    ⟨guard, response, answered, eq, untracked, -, entries⟩ | ⟨pending, eq, fresh, -, -, entries⟩
  · left
    rw [eq]
    exact ⟨untracked, entries⟩
  · right
    rw [eq]
    dsimp only
    cases persistManagementRequestsLocked pending.configuration files with
    | error message =>
      left
      exact ⟨rfl, fresh, by rw [← entries]; rfl⟩
    | ok configuration =>
      right
      exact ⟨rfl, fresh, entries⟩

/-- Every executing request holds its entry and is recorded as the entry's creator. -/
structure Owned (system : RequestSystem) : Prop where
  distinct : (keys system.ledger.entries).Nodup
  present : ∀ (index : Nat) (record : GuardRecord), system.guards[index]? = some record →
    record.unresolved = true → record.guard.requestId ∈ keys system.ledger.entries
  creator : ∀ (index : Nat) (record : GuardRecord), system.guards[index]? = some record →
    record.unresolved = true → system.creators.lookup record.guard.requestId = some index
  live : ∀ (index : Nat) (record : GuardRecord), system.guards[index]? = some record →
    record.guard.tracked = true → record.destroyed = false → record.unresolved = true

/-- The creator of an entry is unique, so two executing requests cannot share an id. -/
theorem Owned.exclusive {system : RequestSystem} (owned : Owned system) : Exclusive system := by
  intro first second left right atFirst atSecond active active' same
  have byFirst := owned.creator first left atFirst active
  have bySecond := owned.creator second right atSecond active'
  rw [same, bySecond] at byFirst
  exact (Option.some.inj byFirst).symm

theorem initial_owned {ledger : Ledger} (distinct : (keys ledger.entries).Nodup) :
    Owned (.initial ledger) := by
  refine ⟨distinct, ?_, ?_, ?_⟩ <;>
  · intro index record found
    simp [RequestSystem.initial] at found

theorem getElem?_append_singleton {guards : List GuardRecord} {last record : GuardRecord}
    {index : Nat} (found : (guards ++ [last])[index]? = some record) :
    guards[index]? = some record ∨ (index = guards.length ∧ record = last) := by
  rcases Nat.lt_or_ge index guards.length with inside | outside
  · left
    rwa [List.getElem?_append_left inside] at found
  · right
    rw [List.getElem?_append_right outside, List.getElem?_singleton] at found
    split at found
    · exact ⟨by omega, (Option.some.inj found).symm⟩
    · cases found

theorem Owned.refused {system : RequestSystem} (owned : Owned system) {ledger : Ledger}
    {guard : ManagementRequestGuard} (untracked : guard.tracked = false)
    (distinct : (keys ledger.entries).Nodup)
    (kept : ∀ record ∈ system.guards, record.unresolved = true →
      record.guard.requestId ∈ keys ledger.entries) :
    Owned { system with ledger, guards := system.guards ++ [⟨guard, false, false⟩] } := by
  have idle : ∀ {index : Nat} {record : GuardRecord}, record.guard.tracked = true →
      (system.guards ++ [⟨guard, false, false⟩])[index]? = some record →
      system.guards[index]? = some record := by
    intro index record tracked found
    rcases getElem?_append_singleton found with old | ⟨-, rfl⟩
    · exact old
    · rw [untracked] at tracked
      cases tracked
  have tracked : ∀ {record : GuardRecord}, record.unresolved = true →
      record.guard.tracked = true := by
    intro record active
    simp only [GuardRecord.unresolved, Bool.and_eq_true] at active
    exact active.1.1.1
  refine ⟨distinct, ?_, ?_, ?_⟩
  · intro index record found active
    exact kept record (List.mem_of_getElem? (idle (tracked active) found)) active
  · intro index record found active
    exact owned.creator index record (idle (tracked active) found) active
  · intro index record found held undestroyed
    exact owned.live index record (idle held found) held undestroyed

/-- A granted admission owns the entry it has just added. -/
theorem Owned.granted {system : RequestSystem} (owned : Owned system) {ledger : Ledger}
    {requestId digest : String} {now : Int}
    {part : List (String × ManagementRequestEntry)} (distinct : (keys part).Nodup)
    (fresh : requestId ∉ keys part)
    (kept : ∀ record ∈ system.guards, record.unresolved = true → record.guard.requestId ∈ keys part)
    (entries : ledger.entries = part ++ [(requestId, newEntry digest now)]) :
    Owned
      { ledger
        guards := system.guards ++ [⟨⟨requestId, true, true⟩, false, false⟩]
        creators := assign requestId system.guards.length system.creators } := by
  have listed : keys ledger.entries = keys part ++ [requestId] := by
    simp [entries, keys]
  refine ⟨?_, ?_, ?_, ?_⟩
  · show (keys ledger.entries).Nodup
    rw [listed]
    exact List.Nodup.append distinct (by simp) (by simpa using fresh)
  · intro index record found active
    show record.guard.requestId ∈ keys ledger.entries
    rw [listed, List.mem_append]
    rcases getElem?_append_singleton found with old | ⟨-, rfl⟩
    · exact .inl (kept record (List.mem_of_getElem? old) active)
    · exact .inr (by simp)
  · intro index record found active
    rcases getElem?_append_singleton found with old | ⟨rfl, rfl⟩
    · -- The id is fresh among the spared entries, so no executing request has it.
      have differs : record.guard.requestId ≠ requestId := by
        intro same
        exact fresh (same ▸ kept record (List.mem_of_getElem? old) active)
      rw [lookup_assign_ne differs]
      exact owned.creator index record old active
    · exact lookup_assign_self _ _ _
  · intro index record found held undestroyed
    rcases getElem?_append_singleton found with old | ⟨-, rfl⟩
    · exact owned.live index record old held undestroyed
    · rfl

/-- Admission keeps ownership as long as it evicts no executing request. -/
theorem beginStep_owned (requireRequestId : Bool) {system : RequestSystem} (owned : Owned system)
    {requestId digest : String} {now : Int} {files : Except String Unit}
    (spares : SparesActive system (.begin requestId digest now files)) :
    Owned (beginStep requireRequestId system requestId digest now files) := by
  have distinct : (keys (spared system.ledger requestId now)).Nodup :=
    owned.distinct.sublist ((spared_sublist system.ledger requestId now).map Prod.fst)
  unfold beginStep
  rcases begin_cases requireRequestId system.ledger requestId digest now files with
    ⟨untracked, entries⟩ | ⟨untracked, fresh, entries⟩ | ⟨guard, fresh, entries⟩
  · simp only [untracked, Bool.false_eq_true, if_false]
    exact owned.refused untracked (by rw [entries]; exact distinct) (by rw [entries]; exact spares)
  · -- Taking the new entry back restores the spared entries.
    rw [eraseKey_append_self fresh] at entries
    simp only [untracked, Bool.false_eq_true, if_false]
    exact owned.refused untracked (by rw [entries]; exact distinct) (by rw [entries]; exact spares)
  · simp only [guard, if_true]
    exact owned.granted distinct fresh spares entries

@[simp] theorem persistNoThrow_entries (ledger : Ledger) (files : Except String Unit) :
    (persistManagementRequestsNoThrowLocked ledger files).entries = ledger.entries := by
  unfold persistManagementRequestsNoThrowLocked
  split <;> rfl

theorem completed?_eq_some {ledger pending : Ledger} {guard : ManagementRequestGuard}
    {operation target action : String} {now : Int}
    (marked : completed? ledger guard operation target action now = some pending) :
    guard.tracked = true ∧ pending = { ledger with
      entries := adjust guard.requestId (completeEntry operation target action now)
        ledger.entries } := by
  cases tracked : guard.tracked with
  | false => simp [completed?, tracked] at marked
  | true =>
    simp only [completed?, tracked, Bool.not_true, Bool.false_eq_true, if_false] at marked
    split at marked
    · cases marked
    · exact ⟨rfl, (Option.some.inj marked).symm⟩

theorem withdrawn?_eq_some {ledger pending : Ledger} {guard : ManagementRequestGuard}
    (erased : withdrawn? ledger guard = some pending) :
    guard.tracked = true ∧ (∃ entry, ledger.entries.lookup guard.requestId = some entry ∧
      entry.completed = false) ∧
    pending = { ledger with entries := eraseKey guard.requestId ledger.entries } := by
  cases tracked : guard.tracked with
  | false => simp [withdrawn?, tracked] at erased
  | true =>
    simp only [withdrawn?, tracked, Bool.not_true, Bool.false_eq_true, if_false] at erased
    split at erased
    · cases erased
    · next entry found =>
      split at erased
      · cases erased
      · next unfinished =>
        exact ⟨rfl, ⟨entry, found, by simpa using unfinished⟩, (Option.some.inj erased).symm⟩

theorem complete_entries (guard : ManagementRequestGuard) (ledger : Ledger)
    (operation target action : String) (now : Int) (files : Except String Unit) :
    let next := (guard.complete ledger operation target action now files).2
    keys next.entries = keys ledger.entries ∧ ∀ requestId,
      (guard.tracked = true → requestId ≠ guard.requestId) →
      next.entries.lookup requestId = ledger.entries.lookup requestId := by
  intro next
  cases marked : completed? ledger guard operation target action now with
  | none => simp [next, ManagementRequestGuard.complete, marked]
  | some pending =>
    obtain ⟨tracked, rfl⟩ := completed?_eq_some marked
    simp only [next, ManagementRequestGuard.complete, marked, persistNoThrow_entries,
      keys_adjust, true_and]
    intro requestId differs
    rw [lookup_adjust, if_neg (differs tracked)]

theorem destroy_entries (guard : ManagementRequestGuard) (ledger : Ledger)
    (files : Except String Unit) :
    (guard.destroy ledger files).entries = ledger.entries ∨ (guard.tracked = true ∧
        (guard.destroy ledger files).entries = eraseKey guard.requestId ledger.entries) := by
  cases erased : withdrawn? ledger guard with
  | none => simp [ManagementRequestGuard.destroy, erased]
  | some pending =>
    right
    obtain ⟨tracked, -, rfl⟩ := withdrawn?_eq_some erased
    refine ⟨tracked, ?_⟩
    simp [ManagementRequestGuard.destroy, erased]

variable {system : RequestSystem} (owned : Owned system)
include owned

theorem Owned.resolved {ledger : Ledger} {index : Nat} {done : GuardRecord}
    (idle : done.guard.tracked = false ∨ done.destroyed = true)
    (distinct : (keys ledger.entries).Nodup) (kept : ∀ requestId ∈ keys system.ledger.entries,
      system.creators.lookup requestId ≠ some index → requestId ∈ keys ledger.entries) :
    Owned { system with ledger, guards := system.guards.set index done } := by
  -- The replaced guard has nothing to resolve; every other one stands where it stood.
  have other : ∀ {place : Nat} {record : GuardRecord},
      (system.guards.set index done)[place]? = some record →
      record.guard.tracked = true → record.destroyed = false →
      place ≠ index ∧ system.guards[place]? = some record := by
    intro place record found tracked undestroyed
    rw [List.getElem?_set] at found
    split at found
    · split at found
      · obtain rfl := Option.some.inj found
        rcases idle with untracked | gone
        · rw [untracked] at tracked
          cases tracked
        · rw [gone] at undestroyed
          cases undestroyed
      · cases found
    · exact ⟨by omega, found⟩
  have active : ∀ {record : GuardRecord}, record.unresolved = true →
      record.guard.tracked = true ∧ record.destroyed = false := by
    intro record unresolved
    simp only [GuardRecord.unresolved, Bool.and_eq_true, Bool.not_eq_true'] at unresolved
    exact ⟨unresolved.1.1.1, unresolved.2⟩
  refine ⟨distinct, ?_, ?_, ?_⟩
  · intro place record found unresolved
    obtain ⟨differs, old⟩ := other found (active unresolved).1 (active unresolved).2
    apply kept _ (owned.present place record old unresolved)
    rw [owned.creator place record old unresolved]
    intro same
    exact differs (Option.some.inj same)
  · intro place record found unresolved
    obtain ⟨-, old⟩ := other found (active unresolved).1 (active unresolved).2
    exact owned.creator place record old unresolved
  · intro place record found tracked undestroyed
    exact owned.live place record (other found tracked undestroyed).2 tracked undestroyed

variable {record : GuardRecord} {index : Nat} (found : system.guards[index]? = some record)
  (undestroyed : ¬record.destroyed = true)
include found undestroyed

theorem Owned.creator_of_tracked (tracked : record.guard.tracked = true) :
    system.creators.lookup record.guard.requestId = some index :=
  owned.creator index record found
    (owned.live index record found tracked (by simpa using undestroyed))

theorem Owned.complete_untracks (operation target action : String) (now : Int)
    (files : Except String Unit) :
    (record.guard.complete system.ledger operation target action now files).1.tracked = false := by
  cases tracked : record.guard.tracked with
  | false => simp [ManagementRequestGuard.complete, completed?, tracked]
  | true =>
    have active := owned.live index record found tracked (by simpa using undestroyed)
    have present := owned.present index record found active
    obtain ⟨entry, entryFound⟩ := Option.isSome_iff_exists.mp (lookup_isSome_iff.mpr present)
    simp [ManagementRequestGuard.complete, completed?, tracked, entryFound]

omit found undestroyed

theorem completeStep_owned (index : Nat) (operation target action : String) (now : Int)
    (files : Except String Unit) :
    Owned (completeStep system index operation target action now files) := by
  unfold completeStep
  split
  · exact owned
  · next record found =>
    split
    · exact owned
    · next undestroyed =>
      obtain ⟨listed, -⟩ :=
        complete_entries record.guard system.ledger operation target action now files
      have untracked :=
        owned.complete_untracks found undestroyed operation target action now files
      refine owned.resolved (.inl untracked) (listed ▸ owned.distinct) ?_
      intro requestId member _
      exact listed ▸ member

theorem destroyStep_owned (index : Nat) (files : Except String Unit) :
    Owned (destroyStep system index files) := by
  unfold destroyStep
  split
  · exact owned
  · next record found =>
    split
    · exact owned
    · next undestroyed =>
      apply owned.resolved (.inr rfl)
      · rcases destroy_entries record.guard system.ledger files with same | ⟨-, erased⟩
        · rw [same]
          exact owned.distinct
        · rw [erased]
          exact nodup_keys_eraseKey owned.distinct _
      · intro requestId member foreign
        rcases destroy_entries record.guard system.ledger files with same | ⟨tracked, erased⟩
        · rw [same]
          exact member
        · have differs : requestId ≠ record.guard.requestId := by
            intro same
            subst same
            exact foreign (owned.creator_of_tracked found undestroyed tracked)
          rw [erased, ← lookup_isSome_iff, lookup_eraseKey_ne differs, lookup_isSome_iff]
          exact member

omit owned

/-- Every critical section keeps ownership, if admissions evict no executing request. -/
theorem step_owned (requireRequestId : Bool) (system : RequestSystem) (event : RequestEvent)
    (owned : Owned system) (spares : SparesActive system event) :
    Owned (system.step requireRequestId event) := by
  cases event with
  | begin requestId digest now files => exact beginStep_owned requireRequestId owned spares
  | complete index operation target action now files =>
    exact completeStep_owned owned index operation target action now files
  | destroy index files => exact destroyStep_owned owned index files
  | rehash order =>
    simp only [RequestSystem.step]
    split
    · next perm =>
      have same := (List.isPerm_iff.mp perm).map Prod.fst
      exact ⟨same.nodup_iff.mpr owned.distinct,
        fun index record found active => same.mem_iff.mpr (owned.present index record found active),
        owned.creator, owned.live⟩
    · exact owned

/-- Completion and destruction reach no entry that another guard created. -/
theorem Owned.touchesOwnEntry (requireRequestId : Bool) (system : RequestSystem)
    (event : RequestEvent) (owned : Owned system) :
    TouchesOwnEntry system (system.step requireRequestId event) event := by
  cases event with
  | begin requestId digest now files => trivial
  | rehash order => trivial
  | complete index operation target action now files =>
    intro requestId foreign
    simp only [RequestSystem.step, completeStep]
    split
    · rfl
    · next record found =>
      split
      · rfl
      · next undestroyed =>
        apply (complete_entries record.guard system.ledger operation target action now files).2
        intro tracked same
        subst same
        exact foreign (owned.creator_of_tracked found undestroyed tracked)
  | destroy index files =>
    intro requestId foreign
    simp only [RequestSystem.step, destroyStep]
    split
    · rfl
    · next record found =>
      split
      · rfl
      · next undestroyed =>
        rcases destroy_entries record.guard system.ledger files with same | ⟨tracked, erased⟩
        · simp only [same]
        · have differs : requestId ≠ record.guard.requestId := by
            intro same
            subst same
            exact foreign (owned.creator_of_tracked found undestroyed tracked)
          simp only [erased]
          exact lookup_eraseKey_ne differs _

/-- While admissions evict no executing request, each id executes at most once at a time and no
guard's resolution touches an entry that another guard created. -/
theorem at_most_one_execution (requireRequestId : Bool) (ledger : Ledger)
    (distinct : (keys ledger.entries).Nodup) (events : List RequestEvent)
    (spares : Along (RequestSystem.step requireRequestId) SparesActive (.initial ledger) events) :
    Along (RequestSystem.step requireRequestId)
      (fun system event => Exclusive system ∧
        TouchesOwnEntry system (system.step requireRequestId event) event)
      (.initial ledger) events ∧
    Exclusive (events.foldl (RequestSystem.step requireRequestId) (.initial ledger)) := by
  have start := initial_owned distinct
  refine ⟨spares.of_invariant (step_owned requireRequestId) ?_ start,
    (spares.invariant (step_owned requireRequestId) start).exclusive⟩
  intro system event owned _
  exact ⟨owned.exclusive, owned.touchesOwnEntry requireRequestId system event⟩

/-- A ledger with room for a single request. -/
def tinyLedger : Ledger :=
  ⟨⟨false, 1, 1000000, "", false⟩, []⟩

/-- One request that is admitted and completed meets the condition. -/
theorem at_most_one_execution_single :
    Along (RequestSystem.step true)
      (fun system event => Exclusive system ∧
        TouchesOwnEntry system (system.step true event) event)
      (.initial tinyLedger)
      [.begin "a" "digest" 0 (.ok ()), .complete 0 "start" "bundle" "start" 5 (.ok ())] ∧
    Exclusive ([RequestEvent.begin "a" "digest" 0 (.ok ()),
      .complete 0 "start" "bundle" "start" 5 (.ok ())].foldl (RequestSystem.step true)
        (.initial tinyLedger)) := by
  apply at_most_one_execution
  · decide
  · refine ⟨?_, trivial, trivial⟩
    intro record member
    simp [RequestSystem.initial] at member

/-- A second request evicts the first, whose retry is then executed alongside it. -/
theorem not_exclusive_after_eviction :
    ¬Exclusive ([RequestEvent.begin "a" "digest" 0 (.ok ()), .begin "b" "digest" 1 (.ok ()),
      .begin "a" "digest" 2 (.ok ())].foldl (RequestSystem.step true)
        (.initial tinyLedger)) := by
  intro exclusive
  have same := exclusive 0 2 ⟨⟨"a", true, true⟩, false, false⟩ ⟨⟨"a", true, true⟩, false, false⟩
    (by decide) (by decide) rfl rfl rfl
  cases same

end PocoDDS.Monitoring
