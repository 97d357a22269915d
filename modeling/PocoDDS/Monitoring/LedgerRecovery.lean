import PocoDDS.Monitoring.LedgerCover

/-! No request is executed twice within its time to live, across crashes and restarts. -/

namespace PocoDDS.Monitoring

open AssocList JsonModel RunLogic RequestSystem

/-- What is known about a living claim: its id was accepted, and its guard owns the entry. -/
structure Held (system : RequestSystem) (claim : Claim) : Prop where
  named : claim.requestId ≠ ""
  valid : validRequestId claim.requestId = true
  creator : system.creators.lookup claim.requestId = some claim.owner
  record : ∃ record, system.guards[claim.owner]? = some record ∧
    record.guard.requestId = claim.requestId ∧ record.guard.proceed = true ∧
    (record.destroyed = false → record.completeCalled = true → record.guard.tracked = false)

theorem Held.ledger {system : RequestSystem} {claim : Claim} (held : Held system claim)
    (ledger : Ledger) : Held { system with ledger } claim :=
  ⟨held.named, held.valid, held.creator, held.record⟩

/-- The ledger in memory answers for every living claim, or refuses every request. -/
def MemoryCovers (claims : List Claim) (touched : List (String × Int)) (system : RequestSystem) :
    Prop :=
  (system.ledger.configuration.recoveryRequired = true ∧
    ∀ index guard, system.liveGuard index = some guard → guard.tracked = false) ∨
  Covers claims touched system.ledger.entries

/-- The invariant of a runtime: its claims are covered on disk and, while it runs, in memory. -/
structure Recoverable (library : JsonLibrary) (settings : LedgerSettings) (node : LedgerNode) :
    Prop where
  disk : DiskCovers library node.claims node.touched node.files.current
  memory : node.running = true → MemoryCovers node.claims node.touched node.system
  configured : node.running = true →
    node.system.ledger.configuration.persistenceEnabled = true ∧
    node.system.ledger.configuration.retention = settings.retention ∧
    node.system.ledger.configuration.ttlMicroseconds = settings.ttlMicroseconds
  stopped : node.running = false → ∀ index, node.system.liveGuard index = none
  held : ∀ claim ∈ node.claims, claim.expired = false → Held node.system claim

theorem initial_recoverable (library : JsonLibrary) (settings : LedgerSettings)
    (files : SnapshotFiles) : Recoverable library settings (.initial settings files) := by
  refine ⟨.inl ⟨rfl, ?_⟩, ?_, ?_, ?_, ?_⟩
  · intro claim member
    cases member
  · intro running
    cases running
  · intro running
    cases running
  · intro _ index
    rfl
  · intro claim member
    cases member

/-- Claims that were alive before are still held while the guards and creators stay. -/
theorem held_inherits {claims later : List Claim} {system : RequestSystem}
    (held : ∀ claim ∈ claims, claim.expired = false → Held system claim)
    (inherits : Inherits later claims) :
    ∀ claim ∈ later, claim.expired = false → Held system claim := by
  intro claim member alive
  obtain ⟨old, listed, oldAlive, sameId, sameOwner, -⟩ := inherits claim member alive
  obtain ⟨named, valid, creator, record⟩ := held old listed oldAlive
  exact ⟨sameId ▸ named, sameId ▸ valid, by rw [← sameId, ← sameOwner]; exact creator,
    by rw [← sameOwner, ← sameId]; exact record⟩

theorem liveGuard_eq_some {system : RequestSystem} {index : Nat} {guard : ManagementRequestGuard} :
    system.liveGuard index = some guard ↔
      ∃ record, system.guards[index]? = some record ∧ record.destroyed = false ∧
        record.guard = guard := by
  unfold liveGuard
  cases system.guards[index]? with
  | none => simp
  | some record => cases record.destroyed <;> simp

/-- After a crash no guard is left, and nothing is remembered but the files and the history. -/
theorem Recoverable.crashed {library : JsonLibrary} {settings : LedgerSettings}
    {node : LedgerNode} {files : SnapshotFiles}
    (disk : DiskCovers library node.claims node.touched files.current)
    (held : ∀ claim ∈ node.claims, claim.expired = false → Held node.system claim) :
    Recoverable library settings (node.crashed files) := by
  refine ⟨disk, ?_, ?_, ?_, ?_⟩
  · intro running
    cases running
  · intro running
    cases running
  · intro _ index
    simp only [LedgerNode.crashed, liveGuard, List.getElem?_map]
    cases node.system.guards[index]? <;> rfl
  · intro claim member alive
    obtain ⟨named, valid, creator, record, found, sameId, proceeds, -⟩ := held claim member alive
    refine ⟨named, valid, creator, { record with destroyed := true }, ?_, sameId, proceeds, ?_⟩
    · simp [LedgerNode.crashed, found]
    · intro undestroyed
      cases undestroyed

theorem answered_refuses {requireRequestId : Bool} {ledger answered : Ledger}
    {requestId digest : String} {now : Int} {guard : ManagementRequestGuard} {response : Response}
    (named : requestId ≠ "") (valid : validRequestId requestId = true)
    (answer : admitRequest requireRequestId ledger requestId digest now =
      .answered guard response answered) :
    guard.proceed = false ∧ response.refuses = true := by
  have nonempty : requestId.isEmpty = false := by
    simpa using named
  simp only [admitRequest, nonempty, valid, Bool.not_true, Bool.false_eq_true, if_false] at answer
  split at answer
  · cases answer
    exact ⟨rfl, rfl⟩
  · split at answer
    · cases answer
      refine ⟨rfl, ?_⟩
      -- Every branch over an existing entry is a conflict or a replay.
      unfold answerExisting
      split_ifs <;> rfl
    · cases answer

section Step

variable {library : JsonLibrary} {settings : LedgerSettings} {node : LedgerNode}
variable {requestId : String} {now : Int} {creators : List (String × Nat)} {index : Nat}
  {guard : ManagementRequestGuard} {files : SnapshotFiles} {touched : List (String × Int)}
  {old : GuardRecord}

theorem Recoverable.recorded_covers (recoverable : Recoverable library settings node)
    (running : node.running = true) (reaches : reachesPruning node.system.ledger requestId = true) :
    Covers node.claims node.touched node.system.ledger.entries := by
  rcases recoverable.memory running with ⟨latched, -⟩ | covers
  · simp [reachesPruning, (recoverable.configured running).1, latched] at reaches
  · exact covers

theorem Recoverable.spared_covers (recoverable : Recoverable library settings node)
    (running : node.running = true) {fingerprint : String} {work : FileWork}
    (few : FewRequestIds settings node (.begin requestId fingerprint now work))
    (covers : Covers node.claims node.touched node.system.ledger.entries) :
    Covers (node.claims.map (Claim.observe settings.ttlMicroseconds now)) node.touched
      (spared node.system.ledger requestId now) := by
  obtain ⟨-, retention, ttl⟩ := recoverable.configured running
  have pruned := covers.admission requestId now (by rw [retention, ttl]; exact few)
  rwa [ttl] at pruned

/-- A living claim on the id of a request keeps it from being executed. -/
theorem Recoverable.notReexecuted (recoverable : Recoverable library settings node)
    (event : NodeEvent) (few : FewRequestIds settings node event) :
    NotReexecuted library settings node event := by
  cases event with
  | begin requestId fingerprint now work =>
    intro claim member same alive guard response answer
    have running : node.running = true := by
      by_contra stopped
      simp [LedgerNode.answer, stopped] at answer
    subst same
    have living : claim.expired = false := by
      simp only [Claim.observe, Bool.or_eq_false_iff] at alive
      exact alive.1
    obtain ⟨named, valid, -, -⟩ := recoverable.held claim member living
    simp only [LedgerNode.answer, running, Bool.not_true, Bool.false_eq_true, if_false,
      Option.map_eq_some_iff] at answer
    obtain ⟨outcome, -, result⟩ := answer
    rcases admitRequest_cases settings.requireRequestId node.system.ledger claim.requestId
      (library.sha256 fingerprint) now with
        ⟨answered, reply, ledger, admitted, -⟩ | ⟨pending, admitted, fresh, reaches, -⟩
    · simp only [beginManagementRequest, admitted, Prod.mk.injEq] at result
      obtain ⟨rfl, rfl⟩ := result
      exact answered_refuses named valid admitted
    · -- The pruned table still holds the claim's entry, so the id is not fresh.
      have covers := recoverable.spared_covers running few
        (recoverable.recorded_covers running reaches)
      obtain ⟨entry, found, -⟩ := covers.claimed _ (List.mem_map_of_mem member) alive
      rw [Claim.observe, lookup_eq_none_iff.mpr fresh] at found
      cases found
  | configure now work => trivial
  | complete index operation target action now work => trivial
  | destroy index work => trivial
  | rehash order => trivial
  | die => trivial

theorem Held.append {system : RequestSystem} {claim : Claim} (held : Held system claim)
    {ledger : Ledger} (added : GuardRecord)
    (same : creators.lookup claim.requestId = system.creators.lookup claim.requestId) :
    Held ⟨ledger, system.guards ++ [added], creators⟩ claim := by
  obtain ⟨record, found, facts⟩ := held.record
  have inside : claim.owner < system.guards.length := (List.getElem?_eq_some_iff.mp found).1
  refine ⟨held.named, held.valid, by rw [same]; exact held.creator, record, ?_, facts⟩
  rw [List.getElem?_append_left inside]
  exact found

theorem liveGuard_append {ledger : Ledger} {guards : List GuardRecord} {added : GuardRecord}
    (live : liveGuard ⟨ledger, guards ++ [added], creators⟩ index = some guard) :
    liveGuard ⟨ledger, guards, creators⟩ index = some guard ∨ guard = added.guard := by
  obtain ⟨record, found, undestroyed, rfl⟩ := liveGuard_eq_some.mp live
  rcases getElem?_append_singleton found with old | ⟨-, rfl⟩
  · exact .inl (liveGuard_eq_some.mpr ⟨record, old, undestroyed, rfl⟩)
  · exact .inr rfl

variable (recoverable : Recoverable library settings node) (running : node.running = true)
include recoverable running

theorem Recoverable.refused {ledger : Ledger} (untracked : guard.tracked = false)
    (disk : DiskCovers library (node.claims.map (Claim.observe settings.ttlMicroseconds now))
      touched files.current) (configured : ledger.configuration.persistenceEnabled = true ∧
      ledger.configuration.retention = settings.retention ∧
      ledger.configuration.ttlMicroseconds = settings.ttlMicroseconds)
    (latches : node.system.ledger.configuration.recoveryRequired = true →
      ledger.configuration.recoveryRequired = true)
    (covers : Covers node.claims node.touched node.system.ledger.entries →
      Covers (node.claims.map (Claim.observe settings.ttlMicroseconds now)) touched
        ledger.entries) :
    Recoverable library settings { node.observe settings now with
        files
        touched
        system := ⟨ledger, node.system.guards ++ [⟨guard, false, false⟩],
          node.system.creators⟩ } := by
  refine ⟨disk, ?_, fun _ => configured, ?_, ?_⟩
  · intro _
    rcases recoverable.memory running with ⟨latched, idle⟩ | covered
    · left
      refine ⟨latches latched, ?_⟩
      intro index live found
      rcases liveGuard_append found with old | rfl
      · exact idle index live old
      · exact untracked
    · exact .inr (covers covered)
  · intro stopped
    rw [show node.running = false from stopped] at running
    cases running
  · intro claim member alive
    have inherits := inherits_observe settings.ttlMicroseconds now node.claims
    exact (held_inherits recoverable.held inherits claim member alive).append _ rfl

theorem Recoverable.granted {ledger : Ledger}
    (named : requestId ≠ "" ∧ validRequestId requestId = true)
    (fresh : ∀ claim ∈ node.claims.map (Claim.observe settings.ttlMicroseconds now),
      claim.expired = false → claim.requestId ≠ requestId)
    (disk : DiskCovers library (node.claims.map (Claim.observe settings.ttlMicroseconds now) ++
      [⟨requestId, now, node.system.guards.length, false⟩]) touched files.current)
    (configured : ledger.configuration.persistenceEnabled = true ∧
      ledger.configuration.retention = settings.retention ∧
      ledger.configuration.ttlMicroseconds = settings.ttlMicroseconds)
    (covers : Covers (node.claims.map (Claim.observe settings.ttlMicroseconds now) ++
      [⟨requestId, now, node.system.guards.length, false⟩]) touched ledger.entries) :
    Recoverable library settings { node.observe settings now with
        files
        touched
        system := ⟨ledger, node.system.guards ++ [⟨⟨requestId, true, true⟩, false, false⟩],
          assign requestId node.system.guards.length node.system.creators⟩
        claims := node.claims.map (Claim.observe settings.ttlMicroseconds now) ++
          [⟨requestId, now, node.system.guards.length, false⟩] } := by
  refine ⟨disk, fun _ => .inr covers, fun _ => configured, ?_, ?_⟩
  · intro stopped
    rw [show node.running = false from stopped] at running
    cases running
  · intro claim member alive
    rcases List.mem_append.mp member with old | added
    · -- The other living claims have other ids, so their creators stay.
      have inherits := inherits_observe settings.ttlMicroseconds now node.claims
      exact (held_inherits recoverable.held inherits claim old alive).append _
        (lookup_assign_ne (fresh claim old alive) _ _)
    · rw [List.mem_singleton.mp added]
      refine ⟨named.1, named.2, lookup_assign_self _ _ _, ?_⟩
      exact ⟨⟨⟨requestId, true, true⟩, false, false⟩, by simp, rfl, rfl, by simp⟩

/-- Admission keeps every living claim covered, and covers the one it adds. -/
theorem Recoverable.begin (digests : ∀ text, (library.sha256 text).utf8ByteSize = 64)
    {fingerprint : String} {work : FileWork}
    (few : FewRequestIds settings node (.begin requestId fingerprint now work))
    (readsBack : DocumentReadsBack library settings node (.begin requestId fingerprint now work)) :
    Recoverable library settings
      (node.beginStep library settings requestId fingerprint now work) := by
  have inherits := inherits_observe settings.ttlMicroseconds now node.claims
  have configured := recoverable.configured running
  rcases admitRequest_cases settings.requireRequestId node.system.ledger requestId
    (library.sha256 fingerprint) now with
      ⟨guard, response, ledger, admitted, untracked, configuration, entries⟩ |
      ⟨pending, admitted, fresh, reaches, configuration, entries⟩
  · -- No file work: the ledger is at most pruned.
    have result : node.beginStep library settings requestId fingerprint now work =
        { node.observe settings now with
          system := ⟨ledger, node.system.guards ++ [⟨guard, false, false⟩],
            node.system.creators⟩ } := by
      simp [LedgerNode.beginStep, LedgerNode.pending, admitted, FileWork.commit,
        RequestSystem.step, beginStep, beginManagementRequest, untracked, LedgerNode.observe]
    rw [result]
    apply recoverable.refused running untracked
    · exact recoverable.disk.weaken inherits (List.Subset.refl _)
    · rw [configuration]
      exact configured
    · rw [configuration]
      exact id
    · rw [entries]
      exact recoverable.spared_covers running few
  · have written : node.pending library settings (.begin requestId fingerprint now work) =
        some pending := by
      simp [LedgerNode.pending, admitted]
    have covers := recoverable.spared_covers running few
      (recoverable.recorded_covers running reaches)
    have named : requestId ≠ "" ∧ validRequestId requestId = true := by
      simp only [reachesPruning, Bool.and_eq_true, Bool.not_eq_true'] at reaches
      exact ⟨by simpa using reaches.1.1, reaches.1.2⟩
    have healthy : pending.configuration.recoveryRequired = false := by
      simp only [reachesPruning, Bool.and_eq_true, Bool.not_eq_true', configured.1] at reaches
      simpa [configuration] using reaches.2
    have enabled : pending.configuration.persistenceEnabled = true := by
      rw [configuration]
      exact configured.1
    have readable : Readable (requestId, newEntry (library.sha256 fingerprint) now) :=
      ⟨named.1, digests fingerprint⟩
    -- The pending table covers the old claims and the one about to be added.
    have added := covers.add fresh readable node.system.guards.length
    rw [← entries] at added
    have before : Inherits (node.claims.map (Claim.observe settings.ttlMicroseconds now))
        (node.claims.map (Claim.observe settings.ttlMicroseconds now) ++
          [⟨requestId, now, node.system.guards.length, false⟩]) := by
      intro claim member alive
      exact ⟨claim, List.mem_append_left _ member, alive, rfl, rfl, le_refl _⟩
    have kept := added.weaken before (List.Subset.refl _)
    have disk : DiskCovers library (node.claims.map (Claim.observe settings.ttlMicroseconds now))
        (node.touched ++ [(requestId, now)])
        (work.commit library (some pending) node.files).2.current := by
      apply (recoverable.disk.weaken inherits (List.subset_append_left _ _)).commit
      · intro ledger same
        exact readsBack ledger work (by rw [written, same]) rfl
      · intro ledger same
        cases same
        exact kept
    rcases committed : work.commit library (some pending) node.files with ⟨result, files⟩
    rw [committed] at disk
    cases result with
    | none =>
      have crashed : node.beginStep library settings requestId fingerprint now work =
          { node.observe settings now with
            touched := node.touched ++ [(requestId, now)] }.crashed files := by
        simp [LedgerNode.beginStep, written, committed]
      rw [crashed]
      exact Recoverable.crashed disk (held_inherits recoverable.held inherits)
    | some outcome =>
      cases outcome with
      | error message =>
        -- The new entry is taken back from memory; on disk it may have stayed.
        have failed : node.beginStep library settings requestId fingerprint now work =
            { node.observe settings now with
              files
              touched := node.touched ++ [(requestId, now)]
              system := ⟨⟨latchFailure pending.configuration message,
                  eraseKey requestId pending.entries⟩,
                node.system.guards ++ [⟨refusal, false, false⟩], node.system.creators⟩ } := by
          simp [LedgerNode.beginStep, written, committed, RequestSystem.step, beginStep,
            beginManagementRequest, admitted, persistManagementRequestsLocked, enabled, healthy,
            finishAdmission, refusal, LedgerNode.observe]
        rw [failed, entries, eraseKey_append_self fresh]
        apply recoverable.refused running rfl disk
        · rw [configuration]
          exact configured
        · intro _
          rfl
        · intro _
          exact covers.weaken (Inherits.refl _) (List.subset_append_left _ _)
      | ok done =>
        have granted : node.beginStep library settings requestId fingerprint now work =
            { node.observe settings now with
              files
              touched := node.touched ++ [(requestId, now)]
              system := ⟨{ pending with
                  configuration := { pending.configuration with lastPersistenceError := "" } },
                node.system.guards ++ [⟨⟨requestId, true, true⟩, false, false⟩],
                assign requestId node.system.guards.length node.system.creators⟩
              claims := node.claims.map (Claim.observe settings.ttlMicroseconds now) ++
                [⟨requestId, now, node.system.guards.length, false⟩] } := by
          simp [LedgerNode.beginStep, written, committed, RequestSystem.step, beginStep,
            beginManagementRequest, admitted, persistManagementRequestsLocked, enabled, healthy,
            finishAdmission, LedgerNode.observe]
        rw [granted]
        apply recoverable.granted running named
        · intro claim member alive same
          obtain ⟨entry, found, -⟩ := covers.claimed claim member alive
          rw [same, lookup_eq_none_iff.mpr fresh] at found
          cases found
        · have persists : pending.persists = true := by
            simp [Ledger.persists, enabled, healthy]
          have replaced := @FileWork.commit_written library work pending node.files persists
            (by rw [committed])
          rw [committed] at replaced
          exact .inr ⟨pending.entries, work.savedAtMicroseconds, replaced,
            readsBack pending work written rfl, added⟩
        · rw [configuration]
          exact configured
        · exact added

omit recoverable running

theorem Held.set {system : RequestSystem} {claim : Claim} (held : Held system claim)
    {ledger : Ledger} {done : GuardRecord} (found : system.guards[index]? = some old)
    (sameId : done.guard.requestId = old.guard.requestId)
    (sameProceed : done.guard.proceed = old.guard.proceed)
    (untracks : claim.owner = index → done.destroyed = false → done.completeCalled = true →
      done.guard.tracked = false) :
    Held ⟨ledger, system.guards.set index done, system.creators⟩ claim := by
  obtain ⟨record, owned, recordId, proceeds, facts⟩ := held.record
  refine ⟨held.named, held.valid, held.creator, ?_⟩
  by_cases place : claim.owner = index
  · subst place
    have inside : claim.owner < system.guards.length := (List.getElem?_eq_some_iff.mp found).1
    rw [found] at owned
    obtain rfl := Option.some.inj owned
    exact ⟨done, by simp [inside], sameId.trans recordId, sameProceed.trans proceeds, untracks rfl⟩
  · exact ⟨record, by rw [List.getElem?_set_ne (Ne.symm place)]; exact owned, recordId, proceeds,
      facts⟩

theorem liveGuard_set {ledger : Ledger} {guards : List GuardRecord} {done : GuardRecord}
    {place : Nat} (live : liveGuard ⟨ledger, guards.set index done, creators⟩ place = some guard) :
    liveGuard ⟨ledger, guards, creators⟩ place = some guard ∨
      (done.destroyed = false ∧ guard = done.guard) := by
  obtain ⟨record, found, undestroyed, rfl⟩ := liveGuard_eq_some.mp live
  simp only [List.getElem?_set] at found
  split at found
  · split at found
    · obtain rfl := Option.some.inj found
      exact .inr ⟨undestroyed, rfl⟩
    · cases found
  · exact .inl (liveGuard_eq_some.mpr ⟨record, found, undestroyed, rfl⟩)

theorem persistNoThrow_configuration (ledger : Ledger) (files : Except String Unit) :
    let next := (persistManagementRequestsNoThrowLocked ledger files).configuration
    next.persistenceEnabled = ledger.configuration.persistenceEnabled ∧
      next.retention = ledger.configuration.retention ∧
      next.ttlMicroseconds = ledger.configuration.ttlMicroseconds := by
  obtain ⟨⟨enabled, retention, ttl, lastError, recovery⟩, entries⟩ := ledger
  -- Only the error text and the latch are ever written.
  cases files <;> cases enabled <;> cases recovery <;> exact ⟨rfl, rfl, rfl⟩

variable (recoverable : Recoverable library settings node)
include recoverable

theorem Recoverable.tracked_covers (running : node.running = true)
    (live : node.system.liveGuard index = some guard) (tracked : guard.tracked = true) :
    Covers node.claims node.touched node.system.ledger.entries := by
  rcases recoverable.memory running with ⟨-, idle⟩ | covers
  · rw [idle index guard live] at tracked
    cases tracked
  · exact covers

theorem Recoverable.replaceGuard (running : node.running = true) (done : GuardRecord)
    (found : node.system.guards[index]? = some old) (undestroyed : old.destroyed = false)
    (sameId : done.guard.requestId = old.guard.requestId)
    (sameProceed : done.guard.proceed = old.guard.proceed)
    (untracked : done.guard.tracked = true → old.guard.tracked = true) {claims : List Claim}
    (inherits : Inherits claims node.claims)
    (untracks : ∀ claim ∈ claims, claim.expired = false → claim.owner = index →
      done.destroyed = false → done.completeCalled = true → done.guard.tracked = false) :
    Recoverable library settings { node with
        claims
        system := { node.system with guards := node.system.guards.set index done } } := by
  refine ⟨recoverable.disk.weaken inherits (List.Subset.refl _), ?_, recoverable.configured, ?_, ?_⟩
  · intro _
    rcases recoverable.memory running with ⟨latched, idle⟩ | covers
    · left
      refine ⟨latched, ?_⟩
      intro place guard live
      rcases liveGuard_set live with same | ⟨-, rfl⟩
      · exact idle place guard same
      · have asleep := idle index old.guard (liveGuard_eq_some.mpr ⟨old, found, undestroyed, rfl⟩)
        by_contra awake
        rw [untracked (by simpa using awake)] at asleep
        cases asleep
    · exact .inr (covers.weaken inherits (List.Subset.refl _))
  · intro stopped
    rw [show node.running = false from stopped] at running
    cases running
  · intro claim member alive
    exact (held_inherits recoverable.held inherits claim member alive).set found sameId
      sameProceed (untracks claim member alive)

/-- A step that rewrites the table and resolves one guard keeps the invariant. -/
theorem Recoverable.rewritten (running : node.running = true) (done : GuardRecord)
    (found : node.system.guards[index]? = some old)
    (sameId : done.guard.requestId = old.guard.requestId)
    (sameProceed : done.guard.proceed = old.guard.proceed)
    (asleep : done.guard.tracked = false ∨ done.destroyed = true) {claims : List Claim}
    (inherits : Inherits claims node.claims)
    (disk : DiskCovers library claims touched files.current) (pending : Ledger)
    (configuration : pending.configuration = node.system.ledger.configuration)
    (covers : Covers claims touched pending.entries) (outcome : Except String Unit) :
    Recoverable library settings { node with
        files
        claims
        touched
        system := ⟨persistManagementRequestsNoThrowLocked pending outcome,
          node.system.guards.set index done, node.system.creators⟩ } := by
  refine ⟨disk, ?_, ?_, ?_, ?_⟩
  · intro _
    right
    show Covers claims touched (persistManagementRequestsNoThrowLocked pending outcome).entries
    rw [persistNoThrow_entries]
    exact covers
  · intro _
    obtain ⟨enabled, retention, ttl⟩ := persistNoThrow_configuration pending outcome
    have configured := recoverable.configured running
    rw [← configuration] at configured
    exact ⟨enabled.trans configured.1, retention.trans configured.2.1, ttl.trans configured.2.2⟩
  · intro stopped
    rw [show node.running = false from stopped] at running
    cases running
  · intro claim member alive
    apply (held_inherits recoverable.held inherits claim member alive).set found sameId sameProceed
    intro _ undestroyed _
    rcases asleep with untracked | destroyed
    · exact untracked
    · rw [undestroyed] at destroyed
      cases destroyed

/-- Completion keeps the claims covered, with their renewed stamps. -/
theorem Recoverable.complete (running : node.running = true) {operation target action : String}
    {work : FileWork} (readsBack : DocumentReadsBack library settings node
      (.complete index operation target action now work)) :
    Recoverable library settings
      (node.completeStep library settings index operation target action now work) := by
  cases live : node.system.liveGuard index with
  | none =>
    -- There is no such guard, so nothing happens.
    have unchanged : node.completeStep library settings index operation target action now work =
        node := by
      have asleep : completeStep node.system index operation target action now (.ok ()) =
          node.system := by
        unfold liveGuard at live
        unfold completeStep
        split
        · rfl
        · next record found =>
          simp only [found] at live
          split at live
          · next gone => rw [if_pos gone]
          · cases live
      simp [LedgerNode.completeStep, LedgerNode.pending, live, FileWork.commit,
        RequestSystem.step, asleep]
    rw [unchanged]
    exact recoverable
  | some guard =>
    obtain ⟨record, found, undestroyed, rfl⟩ := liveGuard_eq_some.mp live
    have stepped : ∀ outcome, completeStep node.system index operation target action now outcome =
        { node.system with
          ledger := (record.guard.complete node.system.ledger operation target action now
            outcome).2
          guards := node.system.guards.set index ⟨(record.guard.complete node.system.ledger
            operation target action now outcome).1, true, false⟩ } := by
      intro outcome
      simp [completeStep, found, undestroyed]
    cases marked : completed? node.system.ledger record.guard operation target action now with
    | none =>
      have noted : node.completeStep library settings index operation target action now work =
          { node with system := { node.system with
              guards := node.system.guards.set index ⟨record.guard, true, false⟩ } } := by
        simp [LedgerNode.completeStep, LedgerNode.pending, live, marked, FileWork.commit,
          RequestSystem.step, stepped, ManagementRequestGuard.complete]
      rw [noted]
      apply recoverable.replaceGuard running ⟨record.guard, true, false⟩ found undestroyed rfl rfl
        id (Inherits.refl _)
      intro claim member alive owner _ _
      -- A living claim of this guard would have an entry to complete.
      by_contra tracked
      have tracked' : record.guard.tracked = true := by
        simpa using tracked
      have covers := recoverable.tracked_covers running live tracked'
      obtain ⟨entry, listed, -⟩ := covers.claimed claim member alive
      obtain ⟨owned, ownedFound, sameId, -⟩ := (recoverable.held claim member alive).record
      rw [owner, found] at ownedFound
      obtain rfl := Option.some.inj ownedFound
      simp [completed?, tracked', sameId, listed] at marked
    | some pending =>
      obtain ⟨tracked, marking⟩ := completed?_eq_some marked
      have covers := (recoverable.tracked_covers running live tracked).complete
        record.guard.requestId operation target action now
      have entries : pending.entries = adjust record.guard.requestId
          (completeEntry operation target action now) node.system.ledger.entries := by
        rw [marking]
      have configuration : pending.configuration = node.system.ledger.configuration := by
        rw [marking]
      rw [← entries] at covers
      have inherits := inherits_renew record.guard.requestId now node.claims
      have written : node.pending library settings
          (.complete index operation target action now work) = some pending := by
        simp [LedgerNode.pending, live, marked]
      have disk := (recoverable.disk.weaken inherits
        (List.subset_append_left _ [(record.guard.requestId, now)])).commit
          (fun ledger same => readsBack ledger work (written.trans same) rfl)
          (fun ledger same => Option.some.inj same ▸ covers)
      unfold LedgerNode.completeStep
      simp only [written, live]
      rcases committed : work.commit library (some pending) node.files with ⟨result, files⟩
      rw [committed] at disk
      cases result with
      | none =>
        exact @Recoverable.crashed library settings
          { node with
            claims := node.claims.map (Claim.renew record.guard.requestId now)
            touched := node.touched ++ [(record.guard.requestId, now)] }
          files disk (held_inherits recoverable.held inherits)
      | some outcome =>
        simp only [RequestSystem.step, stepped, ManagementRequestGuard.complete, marked]
        exact recoverable.rewritten running
          ⟨{ record.guard with tracked := false }, true, false⟩ found rfl rfl (.inl rfl)
          inherits disk pending configuration covers outcome

/-- Destruction keeps the claims of all other guards covered. -/
theorem Recoverable.destroy (running : node.running = true) {work : FileWork}
    (own : WithdrawsOwnEntry node (.destroy index work))
    (readsBack : DocumentReadsBack library settings node (.destroy index work)) :
    Recoverable library settings (node.destroyStep library settings index work) := by
  cases live : node.system.liveGuard index with
  | none =>
    -- There is no such guard, so nothing happens.
    have unchanged : node.destroyStep library settings index work = node := by
      unfold liveGuard at live
      cases found : node.system.guards[index]? with
      | none =>
        simp [LedgerNode.destroyStep, LedgerNode.pending, liveGuard, found,
          FileWork.commit, RequestSystem.step, destroyStep]
      | some record =>
        have gone : record.destroyed = true := by
          by_contra there
          simp [found, there] at live
        simp [LedgerNode.destroyStep, LedgerNode.pending, liveGuard, found, gone,
          GuardRecord.unresolved, FileWork.commit, RequestSystem.step, destroyStep]
    rw [unchanged]
    exact recoverable
  | some guard =>
    obtain ⟨record, found, undestroyed, rfl⟩ := liveGuard_eq_some.mp live
    -- The claims that survive: those of other guards, if this one was unresolved.
    let claims := if record.unresolved then
      node.claims.filter fun claim => claim.owner ≠ index else node.claims
    have inherits : Inherits claims node.claims := by
      simp only [claims]
      split
      · exact inherits_filter _ _
      · exact Inherits.refl _
    have stepped : ∀ outcome, destroyStep node.system index outcome =
        { node.system with
          ledger := record.guard.destroy node.system.ledger outcome
          guards := node.system.guards.set index { record with destroyed := true } } := by
      intro outcome
      simp [destroyStep, found, undestroyed]
    let committed := work.commit library (node.pending library settings (.destroy index work))
    have shape : node.destroyStep library settings index work =
        (committed node.files).1.elim ({ node with claims }.crashed (committed node.files).2)
          fun outcome => { node with
            files := (committed node.files).2
            claims
            system := destroyStep node.system index outcome } := by
      unfold LedgerNode.destroyStep
      simp only [found, claims, committed]
      rcases work.commit library (node.pending library settings (.destroy index work))
        node.files with ⟨_ | outcome, files⟩
      · cases record.unresolved <;> rfl
      · cases record.unresolved <;> rfl
    rw [shape]
    cases erased : withdrawn? node.system.ledger record.guard with
    | none =>
      simp only [committed, LedgerNode.pending, live, Option.bind_some, erased, FileWork.commit,
        stepped, ManagementRequestGuard.destroy, Option.elim_some]
      apply recoverable.replaceGuard running { record with destroyed := true } found undestroyed
        rfl rfl id inherits
      intro _ _ _ _ destroyed
      cases destroyed
    | some pending =>
      obtain ⟨tracked, ⟨entry, listed, unfinished⟩, erasing⟩ := withdrawn?_eq_some erased
      have configuration : pending.configuration = node.system.ledger.configuration := by
        rw [erasing]
      have covers : Covers claims node.touched pending.entries := by
        rw [erasing]
        apply (recoverable.tracked_covers running live tracked).erase inherits
        intro claim member alive same
        -- The erased entry was created by this guard, so the claim is its own and was dropped.
        obtain ⟨old, oldMember, oldAlive, sameId, sameOwner, -⟩ := inherits claim member alive
        obtain ⟨-, -, creator, owned, ownedFound, -, proceeds, untracks⟩ :=
          recoverable.held old oldMember oldAlive
        have owner : old.owner = index := by
          rw [sameId, same, own record.guard entry live tracked listed unfinished] at creator
          exact (Option.some.inj creator).symm
        rw [owner, found] at ownedFound
        obtain rfl := Option.some.inj ownedFound
        have pendingCall : record.completeCalled = false := by
          by_contra called
          rw [untracks undestroyed (by simpa using called)] at tracked
          cases tracked
        have unresolved : record.unresolved = true := by
          simp [GuardRecord.unresolved, tracked, proceeds, pendingCall, undestroyed]
        simp only [claims, unresolved, if_true] at member
        have foreign := (List.mem_filter.mp member).2
        rw [← sameOwner, owner] at foreign
        simp at foreign
      have written : node.pending library settings (.destroy index work) = some pending := by
        simp [LedgerNode.pending, live, erased]
      have disk := (recoverable.disk.weaken inherits (List.Subset.refl _)).commit
        (fun ledger same => readsBack ledger work (written.trans same) rfl)
        (fun ledger same => Option.some.inj same ▸ covers)
      simp only [committed, written]
      rcases ended : work.commit library (some pending) node.files with ⟨result, files⟩
      rw [ended] at disk
      cases result with
      | none =>
        exact @Recoverable.crashed library settings { node with claims } files disk
          (held_inherits recoverable.held inherits)
      | some outcome =>
        simp only [stepped, ManagementRequestGuard.destroy, erased]
        exact recoverable.rewritten running { record with destroyed := true } found rfl rfl
          (.inr rfl) inherits disk pending configuration covers outcome

theorem Recoverable.started (stopped : node.running = false) {ledger : Ledger}
    (disk : DiskCovers library (node.claims.map (Claim.observe settings.ttlMicroseconds now))
      node.touched files.current) (configured : ledger.configuration.persistenceEnabled = true ∧
      ledger.configuration.retention = settings.retention ∧
      ledger.configuration.ttlMicroseconds = settings.ttlMicroseconds)
    (covers : ledger.configuration.recoveryRequired = true ∨
      Covers (node.claims.map (Claim.observe settings.ttlMicroseconds now)) node.touched
        ledger.entries) :
    Recoverable library settings { node.observe settings now with
        files
        running := true
        system := { node.system with ledger } } := by
  refine ⟨disk, ?_, fun _ => configured, ?_, ?_⟩
  · intro _
    rcases covers with latched | covers
    · left
      refine ⟨latched, ?_⟩
      intro index guard live
      -- The guards of the previous process are gone.
      have none := recoverable.stopped stopped index
      rw [show node.system.liveGuard index = some guard from live] at none
      cases none
    · exact .inr covers
  · intro off
    cases off
  · intro claim member alive
    have inherits := inherits_observe settings.ttlMicroseconds now node.claims
    exact (held_inherits recoverable.held inherits claim member alive).ledger ledger

/-- A restart reads back every living claim, or refuses every request. -/
theorem Recoverable.configure (stopped : node.running = false) (converts : library.Converts)
    {work : FileWork} (few : FewRequestIds settings node (.configure now work))
    (readsBack : DocumentReadsBack library settings node (.configure now work)) :
    Recoverable library settings (node.configureStep library settings now work) := by
  have inherits := inherits_observe settings.ttlMicroseconds now node.claims
  have disk := recoverable.disk.weaken inherits (List.Subset.refl _)
  rcases recoverable.disk with ⟨absent, ended⟩ | ⟨entries, savedAt, text, readable, covers⟩
  · -- Nothing has been written yet, and no claim is alive.
    have fresh : node.configureStep library settings now work =
        { node.observe settings now with
          running := true
          system := { node.system with ledger := ⟨settings.configuration, []⟩ } } := by
      simp [LedgerNode.configureStep, LedgerNode.pending, configured?, absent, FileWork.commit,
        configureManagementRequestLedger, LedgerSettings.configuration, LedgerNode.observe]
    rw [fresh]
    apply recoverable.started stopped disk ⟨rfl, rfl, rfl⟩
    right
    refine ⟨by simp [keys], by simp, by simp, ?_⟩
    intro claim member alive
    obtain ⟨old, listed, oldAlive, -⟩ := inherits claim member alive
    rw [ended old listed] at oldAlive
    cases oldAlive
  · have loaded := loadRequests_written converts covers.distinct covers.readable readable
    have written : node.pending library settings (.configure now work) =
        some (pruneManagementRequestsLocked ⟨settings.configuration,
          (orderedEntries entries).map fun item => (item.1, reloaded item.2)⟩ now) := by
      simp [LedgerNode.pending, configured?, text, loaded, Except.map]
    have pruned := @Covers.prune _ _ ⟨settings.configuration,
      (orderedEntries entries).map fun item => (item.1, reloaded item.2)⟩ covers.reload now few
    have disk := disk.commit (fun ledger same => readsBack ledger work (written.trans same) rfl)
      (fun ledger same => Option.some.inj same ▸ pruned)
    unfold LedgerNode.configureStep
    simp only [written]
    rcases committed : work.commit library _ node.files with ⟨result, files⟩
    rw [committed] at disk
    cases result with
    | none => exact Recoverable.crashed disk (held_inherits recoverable.held inherits)
    | some outcome =>
      apply recoverable.started stopped disk
      · cases outcome <;>
          simp [configureManagementRequestLedger, configured?, text, loaded, Except.map,
            LedgerSettings.configuration, persistManagementRequestsLocked, latchFailure,
            pruneManagementRequestsLocked]
      · cases outcome with
        | error message =>
          left
          simp [configureManagementRequestLedger, configured?, text, loaded, Except.map,
            LedgerSettings.configuration, persistManagementRequestsLocked, latchFailure,
            pruneManagementRequestsLocked]
        | ok done =>
          right
          have ledger : configureManagementRequestLedger library settings.configuration
              node.files.current now (.ok ()) = pruneManagementRequestsLocked
                ⟨settings.configuration,
                  (orderedEntries entries).map fun item => (item.1, reloaded item.2)⟩ now := by
            simp [configureManagementRequestLedger, configured?, text, loaded, Except.map,
              LedgerSettings.configuration, persistManagementRequestsLocked,
              pruneManagementRequestsLocked]
          rw [ledger]
          exact pruned

/-- Every event keeps the invariant, under the conditions on its step. -/
theorem Recoverable.step (converts : library.Converts)
    (digests : ∀ text, (library.sha256 text).utf8ByteSize = 64) (event : NodeEvent)
    (few : FewRequestIds settings node event)
    (readsBack : DocumentReadsBack library settings node event) (own : WithdrawsOwnEntry node event) :
    Recoverable library settings (node.step library settings event) := by
  cases event with
  | configure now work =>
    simp only [LedgerNode.step]
    split
    · exact recoverable
    · next stopped => exact recoverable.configure (by simpa using stopped) converts few readsBack
  | begin requestId fingerprint now work =>
    simp only [LedgerNode.step]
    split
    · next running => exact recoverable.begin running digests few readsBack
    · exact recoverable
  | complete index operation target action now work =>
    simp only [LedgerNode.step]
    split
    · next running => exact recoverable.complete running readsBack
    · exact recoverable
  | destroy index work =>
    simp only [LedgerNode.step]
    split
    · next running => exact recoverable.destroy running own readsBack
    · exact recoverable
  | rehash order =>
    simp only [LedgerNode.step]
    split
    · next running =>
      simp only [RequestSystem.step]
      split
      · next perm =>
        refine ⟨recoverable.disk, ?_, recoverable.configured, recoverable.stopped,
          fun claim member alive => (recoverable.held claim member alive).ledger _⟩
        intro _
        rcases recoverable.memory running with latched | covers
        · exact .inl latched
        · exact .inr (covers.perm (List.isPerm_iff.mp perm))
      · exact recoverable
    · exact recoverable
  | die => exact Recoverable.crashed recoverable.disk recoverable.held

end Step

/--
No re-execution across crashes and restarts.

In every run of a runtime over one ledger file that starts without a ledger, in which fewer than
`retention` request ids are touched within one time to live, the documents written read back, and
no guard withdraws an entry that another guard created: a request id on which a claim is alive is
never admitted again, in the same process or a later one.
-/
theorem ledger_never_reexecutes {library : JsonLibrary} (converts : library.Converts)
    (digests : ∀ text, (library.sha256 text).utf8ByteSize = 64) (settings : LedgerSettings)
    (files : SnapshotFiles) (events : List NodeEvent)
    (run : Along (LedgerNode.step library settings)
      (fun node event => FewRequestIds settings node event ∧
        DocumentReadsBack library settings node event ∧ WithdrawsOwnEntry node event)
      (.initial settings files) events) :
    Along (LedgerNode.step library settings) (NotReexecuted library settings)
      (.initial settings files) events := by
  apply Along.of_invariant _ _ (initial_recoverable library settings files) run
  · intro node event recoverable condition
    exact recoverable.step converts digests event condition.1 condition.2.1 condition.2.2
  · intro node event recoverable condition
    exact recoverable.notReexecuted event condition.1

/-- SHA-256 of the fingerprint used in the runs below. -/
def sampleDigest : String :=
  "252f10c83610ebca1a059c0bae8255eba2f95be4d1d7bcfa89d7248a82d9f111"

/-- The entry of request `a`, admitted at a given time. -/
def sampleEntries (admitted : Int) (interrupted : Bool) :
    List (String × ManagementRequestEntry) :=
  [("a", ⟨sampleDigest, "", "", "", admitted, false, interrupted⟩)]

/-- The SHA-256 digests of the texts hashed in the runs below. -/
def sampleDigests : List (String × String) :=
  let text := fun entries => (Json.arr (ledgerRecords entries)).render
  [("f", sampleDigest),
    ("[]", emptyArrayDigest),
    (text (sampleEntries 0 false),
      "6ba143289e784a7052f638edbfe46164a7f06b1fa7e46179d673cce58f552588"),
    (text (sampleEntries 2000 false),
      "3616b13adf3d87e6919afba17550e46be467336c63d4c6fbb9d246fe284c61d2"),
    (text (sampleEntries 0 true),
      "dc874e9e87eb35ce906035574aa577b615203837020f53e5e273281c8c413b68"),
    (text (sampleEntries 2001 false),
      "0a0a56e619a832fa6ce1a9adf5ce1c278fb086d076f86b5c0cd94115c8275719")]

/-- The document for a ledger saved at a given time. -/
def sampleDocument (entries : List (String × ManagementRequestEntry)) (savedAt : Int) : Json :=
  snapshotDocument (tableLibrary [] sampleDigests) .requests (ledgerRecords entries) savedAt

/-- Every document the runs below write. -/
def sampleDocuments : List Json :=
  [sampleDocument (sampleEntries 0 false) 0, sampleDocument (sampleEntries 0 true) 10,
    sampleDocument (sampleEntries 2000 false) 2000, sampleDocument [] 2000,
    sampleDocument (sampleEntries 2001 false) 2001]

/-- The library of the runs below. -/
def sampleLibrary : JsonLibrary :=
  tableLibrary sampleDocuments sampleDigests

def sampleSettings : LedgerSettings := ⟨1000, 1000, true⟩

/-- Uninterrupted file work at a given time. -/
def calmWork (savedAt : Int) : FileWork := ⟨savedAt, [], none⟩

/-- A request is admitted, the process dies, and the request is retried after the restart. -/
def retriedRun : List NodeEvent :=
  [.configure 0 (calmWork 0), .begin "a" "f" 0 (calmWork 0), .die, .configure 10 (calmWork 10),
    .begin "a" "f" 20 (calmWork 20)]

/-- A guard outlives its time to live, and is destroyed after a retry was admitted. -/
def staleRun : List NodeEvent :=
  [.configure 0 (calmWork 0), .begin "a" "f" 0 (calmWork 0), .begin "a" "f" 2000 (calmWork 2000),
    .destroy 0 (calmWork 2000), .begin "a" "f" 2001 (calmWork 2001)]

def emptyFiles : SnapshotFiles := ⟨none, none, none, none⟩

/-- The state of a run after its first events. -/
def sampleNode (events : List NodeEvent) : LedgerNode :=
  events.foldl (LedgerNode.step sampleLibrary sampleSettings)
    (.initial sampleSettings emptyFiles)

theorem sample_readsBack : ∀ document ∈ sampleDocuments, sampleLibrary.ReadsBack document := by
  -- No two of the documents have the same text.
  have distinct : sampleDocuments.Pairwise
      fun left right => (left.render == right.render) = false := by
    decide +kernel
  intro document member
  obtain ⟨before, after, split⟩ := List.append_of_mem member
  rw [split, List.pairwise_append] at distinct
  rw [sampleLibrary, split]
  apply tableLibrary_readsBack
  intro other listed
  exact distinct.2.2 other listed document (by simp)

theorem sample_documentReadsBack {node : LedgerNode} {event : NodeEvent} {work : FileWork}
    {ledger : Ledger} (written : node.pending sampleLibrary sampleSettings event = some ledger)
    (at' : event.work? = some work)
    (known : work.document sampleLibrary ledger ∈ sampleDocuments) :
    DocumentReadsBack sampleLibrary sampleSettings node event := by
  intro pending works same sameWork
  rw [written] at same
  rw [at'] at sameWork
  obtain rfl := Option.some.inj same
  obtain rfl := Option.some.inj sameWork
  exact sample_readsBack _ known

theorem silent_documentReadsBack {node : LedgerNode} {event : NodeEvent}
    (silent : (node.pending sampleLibrary sampleSettings event).isNone = true) :
    DocumentReadsBack sampleLibrary sampleSettings node event := by
  intro pending works same
  rw [same] at silent
  cases silent

theorem retriedRun_evaluated :
    Along (LedgerNode.step sampleLibrary sampleSettings) (FewRequestIds sampleSettings)
      (.initial sampleSettings emptyFiles) retriedRun ∧
    ((sampleNode []).pending sampleLibrary sampleSettings (.configure 0 (calmWork 0))).isNone = true ∧
    (sampleNode (retriedRun.take 1)).pending sampleLibrary sampleSettings
      (.begin "a" "f" 0 (calmWork 0)) = some ⟨sampleSettings.configuration, sampleEntries 0 false⟩ ∧
    (sampleNode (retriedRun.take 3)).pending sampleLibrary sampleSettings
      (.configure 10 (calmWork 10)) = some ⟨sampleSettings.configuration, sampleEntries 0 true⟩ ∧
    ((sampleNode (retriedRun.take 4)).pending sampleLibrary sampleSettings
      (.begin "a" "f" 20 (calmWork 20))).isNone = true := by
  decide +kernel

/-- The theorem applied to a retry after a crash, which is answered as interrupted. -/
theorem ledger_never_reexecutes_retried :
    Along (LedgerNode.step sampleLibrary sampleSettings)
      (NotReexecuted sampleLibrary sampleSettings) (.initial sampleSettings emptyFiles)
      retriedRun := by
  apply ledger_never_reexecutes (tableLibrary_converts _ _)
    (tableLibrary_digests _ _ (by decide +kernel))
  obtain ⟨few, configured, begun, restarted, refused⟩ := retriedRun_evaluated
  simp -implicitDefEqProofs only [sampleNode, retriedRun, List.take_succ_cons, List.take_zero,
    List.foldl_cons, List.foldl_nil] at configured begun restarted refused
  -- The first start and the refused retry write nothing.
  refine ⟨⟨few.1, silent_documentReadsBack configured, trivial⟩, ⟨few.2.1, ?_, trivial⟩,
    ⟨trivial, silent_documentReadsBack rfl, trivial⟩, ⟨few.2.2.2.1, ?_, trivial⟩,
    ⟨few.2.2.2.2.1, silent_documentReadsBack refused, trivial⟩, trivial⟩
  · exact sample_documentReadsBack begun rfl List.mem_cons_self
  · exact sample_documentReadsBack restarted rfl (List.mem_cons_of_mem _ List.mem_cons_self)

theorem staleRun_evaluated :
    Along (LedgerNode.step sampleLibrary sampleSettings) (FewRequestIds sampleSettings)
      (.initial sampleSettings emptyFiles) staleRun ∧
    ⟨"a", 2000, 1, false⟩ ∈ (sampleNode (staleRun.take 4)).claims ∧
    (sampleNode (staleRun.take 4)).answer sampleLibrary sampleSettings "a" "f" 2001
      (calmWork 2001) = some (⟨"a", true, true⟩, .none) := by
  decide +kernel

/-- A guard that outlived its entry withdraws the entry of the retry, which is then repeated. -/
theorem ledger_reexecutes_after_stale_destroy :
    Along (LedgerNode.step sampleLibrary sampleSettings)
      (fun node event => FewRequestIds sampleSettings node event)
      (.initial sampleSettings emptyFiles) staleRun ∧
    ¬Along (LedgerNode.step sampleLibrary sampleSettings)
      (NotReexecuted sampleLibrary sampleSettings) (.initial sampleSettings emptyFiles)
      staleRun := by
  obtain ⟨few, claimed, admitted⟩ := staleRun_evaluated
  simp -implicitDefEqProofs only [sampleNode, staleRun, List.take_succ_cons, List.take_zero,
    List.foldl_cons, List.foldl_nil] at claimed admitted
  refine ⟨few, fun safe => ?_⟩
  -- The retry admitted at 2000 is one microsecond old and still executing.
  have refused := safe.2.2.2.2.1 ⟨"a", 2000, 1, false⟩ claimed rfl rfl ⟨"a", true, true⟩ .none
    admitted
  cases refused.1

end PocoDDS.Monitoring
