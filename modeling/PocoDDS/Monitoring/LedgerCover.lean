import PocoDDS.Monitoring.LedgerNode

/-! Ledger tables and ledger files that answer for every living claim. -/

namespace PocoDDS.Monitoring

open AssocList JsonModel

/-- A table that still answers for every claim that is alive. -/
structure Covers (claims : List Claim) (touched : List (String × Int))
    (entries : List (String × ManagementRequestEntry)) : Prop where
  distinct : (keys entries).Nodup
  readable : ∀ item ∈ entries, Readable item
  stamped : ∀ item ∈ entries, (item.1, item.2.updatedMicroseconds) ∈ touched
  claimed : ∀ claim ∈ claims, claim.expired = false → ∃ entry,
    entries.lookup claim.requestId = some entry ∧ claim.stamp ≤ entry.updatedMicroseconds

/-- Every living claim of the new list was already alive, at least as young. -/
def Inherits (later earlier : List Claim) : Prop :=
  ∀ claim ∈ later, claim.expired = false → ∃ old ∈ earlier, old.expired = false ∧
    old.requestId = claim.requestId ∧ old.owner = claim.owner ∧ claim.stamp ≤ old.stamp

theorem Inherits.refl (claims : List Claim) : Inherits claims claims := by
  intro claim member alive
  exact ⟨claim, member, alive, rfl, rfl, le_refl _⟩

theorem inherits_observe (ttlMicroseconds now : Int) (claims : List Claim) :
    Inherits (claims.map (Claim.observe ttlMicroseconds now)) claims := by
  intro claim member alive
  obtain ⟨old, listed, rfl⟩ := List.mem_map.mp member
  simp only [Claim.observe, Bool.or_eq_false_iff] at alive
  exact ⟨old, listed, alive.1, rfl, rfl, le_refl _⟩

theorem inherits_renew (requestId : String) (now : Int) (claims : List Claim) :
    Inherits (claims.map (Claim.renew requestId now)) claims := by
  intro claim member alive
  obtain ⟨old, listed, rfl⟩ := List.mem_map.mp member
  unfold Claim.renew at alive ⊢
  by_cases same : old.requestId = requestId
  · simp only [same, if_true] at alive ⊢
    exact ⟨old, listed, alive, same, rfl, min_le_left _ _⟩
  · simp only [same, if_false] at alive ⊢
    exact ⟨old, listed, alive, rfl, rfl, le_refl _⟩

theorem inherits_filter (keep : Claim → Bool) (claims : List Claim) :
    Inherits (claims.filter keep) claims := by
  intro claim member alive
  exact ⟨claim, List.mem_of_mem_filter member, alive, rfl, rfl, le_refl _⟩

section Tables

variable {claims : List Claim} {touched : List (String × Int)}
  {entries : List (String × ManagementRequestEntry)}

theorem Covers.weaken (covers : Covers claims touched entries) {later : List Claim}
    {history : List (String × Int)} (inherits : Inherits later claims)
    (grown : touched ⊆ history) : Covers later history entries := by
  refine ⟨covers.distinct, covers.readable, ?_, ?_⟩
  · intro item member
    exact grown (covers.stamped item member)
  · intro claim member alive
    -- The old claim's entry is at least as young as the old claim, hence as the new one.
    obtain ⟨old, listed, oldAlive, sameId, -, younger⟩ := inherits claim member alive
    obtain ⟨entry, found, stamp⟩ := covers.claimed old listed oldAlive
    exact ⟨entry, sameId ▸ found, le_trans younger stamp⟩

theorem Covers.sublist (covers : Covers claims touched entries)
    {part : List (String × ManagementRequestEntry)} (sub : part.Sublist entries)
    {later : List Claim} (inherits : Inherits later claims)
    (kept : ∀ claim ∈ later, claim.expired = false → claim.requestId ∈ keys part) :
    Covers later touched part := by
  have narrowed := covers.weaken inherits (List.Subset.refl _)
  refine ⟨covers.distinct.sublist (sub.map Prod.fst), ?_, ?_, ?_⟩
  · intro item member
    exact covers.readable item (sub.subset member)
  · intro item member
    exact covers.stamped item (sub.subset member)
  · intro claim member alive
    rw [lookup_sublist covers.distinct sub (kept claim member alive)]
    exact narrowed.claimed claim member alive

theorem Covers.live_length (covers : Covers claims touched entries) (ttlMicroseconds now : Int) :
    (entries.filter fun entry => !expired ttlMicroseconds now entry.2).length ≤
      (recentIds touched ttlMicroseconds now).length := by
  have distinct := nodup_keys_filter covers.distinct
    fun entry => !expired ttlMicroseconds now entry.2
  have recent : keys (entries.filter fun entry => !expired ttlMicroseconds now entry.2) ⊆
      recentIds touched ttlMicroseconds now := by
    intro requestId member
    obtain ⟨item, listed, rfl⟩ := List.mem_map.mp member
    obtain ⟨stored, young⟩ := List.mem_filter.mp listed
    -- The entry carries the stamp of a touch that is within the time to live.
    simp only [expired, Bool.not_eq_true', decide_eq_false_iff_not, not_lt] at young
    rw [recentIds, List.mem_dedup]
    refine List.mem_map.mpr ⟨_, List.mem_filter.mpr ⟨covers.stamped item stored, ?_⟩, rfl⟩
    simpa using young
  have shorter := (List.subperm_of_subset distinct recent).length_le
  simpa [keys] using shorter

theorem Covers.prune_entries {ledger : Ledger} (covers : Covers claims touched ledger.entries)
    {now : Int} (few : (recentIds touched ledger.configuration.ttlMicroseconds now).length <
      ledger.configuration.retention) :
    (pruneManagementRequestsLocked ledger now).entries = ledger.entries.filter
      fun entry => !expired ledger.configuration.ttlMicroseconds now entry.2 := by
  have short := covers.live_length ledger.configuration.ttlMicroseconds now
  have surplus : (ledger.entries.filter fun entry =>
      !expired ledger.configuration.ttlMicroseconds now entry.2).length -
      ledger.configuration.retention = 0 := by
    omega
  simp only [pruneManagementRequestsLocked, surplus]
  rfl

theorem Covers.prune {ledger : Ledger} (covers : Covers claims touched ledger.entries)
    {now : Int} (few : (recentIds touched ledger.configuration.ttlMicroseconds now).length <
      ledger.configuration.retention) :
    Covers (claims.map (Claim.observe ledger.configuration.ttlMicroseconds now)) touched
      (pruneManagementRequestsLocked ledger now).entries := by
  apply covers.sublist (prune_sublist ledger now) (inherits_observe _ _ _)
  intro claim member alive
  obtain ⟨old, listed, rfl⟩ := List.mem_map.mp member
  simp only [Claim.observe, Bool.or_eq_false_iff, decide_eq_false_iff_not] at alive
  obtain ⟨entry, found, stamp⟩ := covers.claimed old listed alive.1
  have young : (pruneManagementRequestsLocked ledger now).entries.lookup old.requestId =
      some entry := by
    rw [covers.prune_entries few, lookup_filter covers.distinct]
    refine ⟨found, ?_⟩
    simp only [expired, Bool.not_eq_true', decide_eq_false_iff_not]
    omega
  show old.requestId ∈ keys (pruneManagementRequestsLocked ledger now).entries
  rw [← lookup_isSome_iff, young]
  rfl

theorem Covers.admission {ledger : Ledger} (covers : Covers claims touched ledger.entries)
    (requestId : String) (now : Int)
    (few : (recentIds touched ledger.configuration.ttlMicroseconds now).length <
      ledger.configuration.retention) :
    Covers (claims.map (Claim.observe ledger.configuration.ttlMicroseconds now)) touched
      (spared ledger requestId now) := by
  have roomy : (makeRoom (pruneManagementRequestsLocked ledger now)).entries =
      (pruneManagementRequestsLocked ledger now).entries := by
    have short := covers.live_length ledger.configuration.ttlMicroseconds now
    have small : ¬(pruneManagementRequestsLocked ledger now).entries.length ≥
        (pruneManagementRequestsLocked ledger now).configuration.retention := by
      rw [covers.prune_entries few, show (pruneManagementRequestsLocked ledger now).configuration =
        ledger.configuration from rfl]
      omega
    rw [makeRoom, if_neg small]
  unfold spared
  simp only [roomy, ite_self]
  split
  · exact covers.weaken (inherits_observe _ _ _) (List.Subset.refl _)
  · exact covers.prune few

theorem Covers.add (covers : Covers claims touched entries) {requestId digest : String}
    {now : Int} (fresh : requestId ∉ keys entries)
    (readable : Readable (requestId, newEntry digest now)) (owner : Nat) :
    Covers (claims ++ [⟨requestId, now, owner, false⟩]) (touched ++ [(requestId, now)])
      (entries ++ [(requestId, newEntry digest now)]) := by
  refine ⟨?_, ?_, ?_, ?_⟩
  · simp only [keys, List.map_append]
    exact List.Nodup.append covers.distinct (by simp) (by simpa [keys] using fresh)
  · intro item member
    rcases List.mem_append.mp member with old | added
    · exact covers.readable item old
    · rw [List.mem_singleton.mp added]
      exact readable
  · intro item member
    rcases List.mem_append.mp member with old | added
    · exact List.mem_append_left _ (covers.stamped item old)
    · rw [List.mem_singleton.mp added]
      exact List.mem_append_right _ (by simp [newEntry])
  · intro claim member alive
    rw [lookup_append]
    rcases List.mem_append.mp member with old | added
    · obtain ⟨entry, found, stamp⟩ := covers.claimed claim old alive
      exact ⟨entry, by simp [found], stamp⟩
    · rw [List.mem_singleton.mp added, lookup_eq_none_iff.mpr fresh]
      exact ⟨newEntry digest now, by simp, le_refl _⟩

theorem Covers.complete (covers : Covers claims touched entries) (requestId : String)
    (operation target action : String) (now : Int) :
    Covers (claims.map (Claim.renew requestId now)) (touched ++ [(requestId, now)])
      (adjust requestId (completeEntry operation target action now) entries) := by
  refine ⟨?_, ?_, ?_, ?_⟩
  · rw [keys_adjust]
    exact covers.distinct
  · intro item member
    obtain ⟨old, listed, rfl⟩ := List.mem_map.mp member
    have readable := covers.readable old listed
    split
    · exact readable
    · exact readable
  · intro item member
    obtain ⟨old, listed, rfl⟩ := List.mem_map.mp member
    split
    · next same => exact List.mem_append_right _ (by simp [completeEntry, same])
    · exact List.mem_append_left _ (covers.stamped old listed)
  · intro claim member alive
    obtain ⟨old, listed, rfl⟩ := List.mem_map.mp member
    rw [lookup_adjust]
    unfold Claim.renew at alive ⊢
    by_cases same : old.requestId = requestId
    · simp only [same, if_true] at alive ⊢
      obtain ⟨entry, found, -⟩ := covers.claimed old listed alive
      rw [← same, found]
      exact ⟨_, rfl, min_le_right _ _⟩
    · simp only [same, if_false] at alive ⊢
      exact covers.claimed old listed alive

theorem Covers.erase (covers : Covers claims touched entries) {requestId : String}
    {later : List Claim} (inherits : Inherits later claims)
    (gone : ∀ claim ∈ later, claim.expired = false → claim.requestId ≠ requestId) :
    Covers later touched (eraseKey requestId entries) := by
  apply covers.sublist List.filter_sublist inherits
  intro claim member alive
  obtain ⟨old, listed, oldAlive, sameId, -, -⟩ := inherits claim member alive
  obtain ⟨entry, found, -⟩ := covers.claimed old listed oldAlive
  rw [← lookup_isSome_iff]
  show ((eraseKey requestId entries).lookup claim.requestId).isSome
  rw [lookup_eraseKey_ne (gone claim member alive), ← sameId, found]
  rfl

/-- The order of the table does not matter. -/
theorem Covers.perm (covers : Covers claims touched entries)
    {order : List (String × ManagementRequestEntry)} (same : order.Perm entries) :
    Covers claims touched order := by
  have distinct : (keys order).Nodup := (same.map Prod.fst).nodup_iff.mpr covers.distinct
  refine ⟨distinct, ?_, ?_, ?_⟩
  · intro item member
    exact covers.readable item (same.mem_iff.mp member)
  · intro item member
    exact covers.stamped item (same.mem_iff.mp member)
  · intro claim member alive
    rw [lookup_perm distinct same]
    exact covers.claimed claim member alive

theorem Covers.reload (covers : Covers claims touched entries) : Covers claims touched
      ((orderedEntries entries).map fun item => (item.1, reloaded item.2)) := by
  have sorted := covers.perm (orderedEntries_perm entries)
  refine ⟨?_, ?_, ?_, ?_⟩
  · simpa [keys, Function.comp_def] using sorted.distinct
  · intro item member
    obtain ⟨old, listed, rfl⟩ := List.mem_map.mp member
    exact sorted.readable old listed
  · intro item member
    obtain ⟨old, listed, rfl⟩ := List.mem_map.mp member
    exact sorted.stamped old listed
  · intro claim member alive
    obtain ⟨entry, found, stamp⟩ := sorted.claimed claim member alive
    refine ⟨reloaded entry, ?_, stamp⟩
    rw [lookup_map_values]
    exact congrArg (Option.map reloaded) found

end Tables

section Disk

variable {library : JsonLibrary} {claims : List Claim} {touched : List (String × Int)}

theorem FileWork.commit_current (work : FileWork) (pending : Option Ledger)
    (files : SnapshotFiles) :
    (work.commit library pending files).2.current = files.current ∨ ∃ ledger,
      pending = some ledger ∧ (work.commit library pending files).2.current =
        some (library.stringify (work.document library ledger)) := by
  cases pending with
  | none => exact .inl rfl
  | some ledger =>
    unfold FileWork.commit
    by_cases persists : ledger.persists = true
    · simp only [persists, Bool.not_true, Bool.false_eq_true, if_false]
      rcases ((work.operation ledger).leaves_kept library .requests files).current with
        same | replaced
      · exact .inl same
      · exact .inr ⟨ledger, rfl, replaced⟩
    · simp [persists]

/-- A critical section that survives its file work without an exception has replaced the file. -/
theorem FileWork.commit_written (work : FileWork) {ledger : Ledger} (files : SnapshotFiles)
    (persists : ledger.persists = true)
    (done : (work.commit library (some ledger) files).1 = some (.ok ())) :
    (work.commit library (some ledger) files).2.current =
      some (library.stringify (work.document library ledger)) := by
  unfold FileWork.commit at done ⊢
  simp only [persists, Bool.not_true, Bool.false_eq_true, if_false] at done ⊢
  cases crash : work.crash with
  | some point => simp [crash] at done
  | none =>
    simp only [crash, Option.isSome_none, Bool.false_eq_true, if_false, Option.some.injEq] at done
    exact (work.operation ledger).leaves_written library .requests files crash done

/-- The ledger file answers for every claim that is alive. -/
def DiskCovers (library : JsonLibrary) (claims : List Claim) (touched : List (String × Int))
    (current : Option String) : Prop :=
  (current = none ∧ ∀ claim ∈ claims, claim.expired = true) ∨
    ∃ entries savedAtMicroseconds,
      current = some (library.stringify (snapshotDocument library .requests
        (ledgerRecords entries) savedAtMicroseconds)) ∧
      library.ReadsBack (snapshotDocument library .requests (ledgerRecords entries)
        savedAtMicroseconds) ∧
      Covers claims touched entries

theorem DiskCovers.weaken {current : Option String} (disk : DiskCovers library claims touched current)
    {later : List Claim} {history : List (String × Int)} (inherits : Inherits later claims)
    (grown : touched ⊆ history) : DiskCovers library later history current := by
  rcases disk with ⟨absent, ended⟩ | ⟨entries, savedAt, text, readsBack, covers⟩
  · left
    refine ⟨absent, ?_⟩
    intro claim member
    by_contra alive
    obtain ⟨old, listed, oldAlive, -⟩ := inherits claim member (by simpa using alive)
    rw [ended old listed] at oldAlive
    cases oldAlive
  · exact .inr ⟨entries, savedAt, text, readsBack, covers.weaken inherits grown⟩

theorem DiskCovers.commit {files : SnapshotFiles} {work : FileWork} {pending : Option Ledger}
    (disk : DiskCovers library claims touched files.current)
    (readsBack : ∀ ledger, pending = some ledger → library.ReadsBack (work.document library ledger))
    (covers : ∀ ledger, pending = some ledger → Covers claims touched ledger.entries) :
    DiskCovers library claims touched (work.commit library pending files).2.current := by
  rcases work.commit_current pending files with same | ⟨ledger, written, replaced⟩
  · rw [same]
    exact disk
  · exact .inr ⟨ledger.entries, work.savedAtMicroseconds, replaced,
      readsBack ledger written, covers ledger written⟩

end Disk

end PocoDDS.Monitoring
