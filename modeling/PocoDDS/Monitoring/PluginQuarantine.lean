import PocoDDS.Lib.Assoc
import PocoDDS.Lib.Run

/-! Plugin quarantine: when the start flags of all plugins follow the quarantine state. -/

namespace PocoDDS.Monitoring

open AssocList RunLogic

structure PluginQuarantineRecord where
  totalFailures : UInt64 := 0
  consecutiveFailures : UInt64 := 0
  quarantined : Bool := false
  updatedMicroseconds : Int := 0
  lastError : String := ""

/-- The manager, without the path of its file. -/
structure PluginQuarantineManager where
  enabled : Bool := true
  threshold : UInt64 := 3
  records : List (String × PluginQuarantineRecord) := []
  recoveryRequired : Bool := false
  lastPersistenceError : String := ""

/-- The manager and the flags of the loaded bundles, by symbolic name. -/
structure Quarantine where
  manager : PluginQuarantineManager := {}
  bundles : List (String × Bool)

/-- What is found in the file: the items of a snapshot may themselves be unreadable. -/
inductive QuarantineFile
  | absent
  | unreadable (what : String)
  | plugins (items : List (Except String (String × PluginQuarantineRecord)))

/-- The values and the file that `configure` reads, each of which may raise. -/
structure QuarantineSettings where
  enabled : Except String Bool
  failureThreshold : Except String Int
  path : Except String Unit
  exists' : Except String Unit
  file : QuarantineFile

/-- The calls, each with the outcome of its write and with the clock. -/
inductive QuarantineCall
  | configure (settings : QuarantineSettings)
  | failure (bundle error : String) (written : Except String Unit) (now : Int)
  | success (bundle : String) (written : Except String Unit) (now : Int)
  | reset (bundle : String) (confirmRecovery : Bool) (written : Except String Unit)

/-- Whether a bundle is an external plugin. -/
def isPlugin (id : String) : Bool :=
  "pdr.plugin.".toList.isPrefixOf id.toList

/-- Whether a record says that its plugin is quarantined. -/
def PluginQuarantineManager.quarantined (manager : PluginQuarantineManager) (id : String) : Bool :=
  (manager.records.lookup id).any (·.quarantined)

def PluginQuarantineManager.blocked (manager : PluginQuarantineManager) (id : String) : Bool :=
  manager.enabled && isPlugin id && (manager.recoveryRequired || manager.quarantined id)

/-- The items of a snapshot up to the first bad one, and what is wrong with that. -/
def loadPluginRecords : List (Except String (String × PluginQuarantineRecord)) →
    List (String × PluginQuarantineRecord) → List (String × PluginQuarantineRecord) × Option String
  | [], records => (records, none)
  | .error what :: _, records => (records, some what)
  | .ok (id, record) :: rest, records =>
    if !isPlugin id || (records.lookup id).isSome then
      (records, some "plugin quarantine snapshot contains an invalid or duplicate id")
    else loadPluginRecords rest (records ++ [(id, record)])

/-- A manager that has read its file; a bad file asks for recovery. -/
def PluginQuarantineManager.load (manager : PluginQuarantineManager) (file : QuarantineFile) :
    PluginQuarantineManager :=
  if !manager.enabled then manager
  else match file with
    | .absent => manager
    | .unreadable what => { manager with recoveryRequired := true, lastPersistenceError := what }
    | .plugins items =>
      match loadPluginRecords items [] with
      | (records, none) => { manager with records }
      | (records, some what) =>
        { manager with records, recoveryRequired := true, lastPersistenceError := what }

def Quarantine.setAutoStartBlocked (state : Quarantine) (bundle : String) (value : Bool) :
    Quarantine :=
  { state with bundles := adjust bundle (fun _ => value) state.bundles }

/-- The flags of all plugins are written. -/
def Quarantine.applyFlags (state : Quarantine) : Quarantine :=
  { state with
    bundles := state.bundles.map fun bundle =>
      if isPlugin bundle.1 then (bundle.1, state.manager.blocked bundle.1) else bundle }

def Quarantine.configure (state : Quarantine) (settings : QuarantineSettings) :
    Except String Unit × Quarantine :=
  match settings.enabled with
  | .error what => (.error what, state)
  | .ok enabled =>
    let manager := { state.manager with enabled }
    match settings.failureThreshold with
    | .error what => (.error what, { state with manager })
    | .ok threshold =>
      let manager := { manager with threshold := UInt64.ofNat (max 1 threshold).toNat }
      match settings.path with
      | .error what => (.error what, { state with manager })
      | .ok _ =>
        let manager := { manager with
          records := []
          recoveryRequired := false
          lastPersistenceError := "" }
        -- The file is looked for only when quarantine is enabled.
        match if enabled then settings.exists' else .ok () with
        | .error what => (.error what, { state with manager })
        | .ok _ => (.ok (), { state with manager := manager.load settings.file }.applyFlags)

def PluginQuarantineManager.persistLocked (manager : PluginQuarantineManager)
    (written : Except String Unit) : Except String PluginQuarantineManager :=
  if !manager.enabled then .ok manager
  else if manager.recoveryRequired then
    .error "plugin quarantine persistence requires operator recovery"
  else written.map fun _ => { manager with lastPersistenceError := "" }

def PluginQuarantineManager.persistNoThrowLocked (manager : PluginQuarantineManager)
    (written : Except String Unit) : PluginQuarantineManager :=
  match manager.persistLocked written with
  | .ok manager => manager
  | .error what => { manager with lastPersistenceError := what, recoveryRequired := true }

def PluginQuarantineRecord.failed (threshold : UInt64) (error : String) (now : Int)
    (record : PluginQuarantineRecord) : PluginQuarantineRecord where
  totalFailures := record.totalFailures + 1
  consecutiveFailures := record.consecutiveFailures + 1
  quarantined := record.quarantined || decide (record.consecutiveFailures + 1 ≥ threshold)
  updatedMicroseconds := now
  lastError := error

def Quarantine.failure (state : Quarantine) (bundle error : String) (written : Except String Unit)
    (now : Int) : Quarantine :=
  if !state.manager.enabled || !isPlugin bundle then state
  else
    let failed := PluginQuarantineRecord.failed state.manager.threshold error now
    let manager := { state.manager with
      records := upsert bundle (failed {}) failed state.manager.records }
    let persisted := manager.persistNoThrowLocked written
    -- The flag is written before and after the attempt to persist; the last write counts.
    { state with manager := persisted }.setAutoStartBlocked bundle
      (persisted.quarantined bundle || persisted.recoveryRequired)

def Quarantine.success (state : Quarantine) (bundle : String) (written : Except String Unit)
    (now : Int) : Quarantine :=
  if !state.manager.enabled || !isPlugin bundle then state
  else match state.manager.records.lookup bundle with
    | none => state
    | some record =>
      if record.consecutiveFailures = 0 then state
      else
        let reset := fun (record : PluginQuarantineRecord) =>
          { record with consecutiveFailures := 0, updatedMicroseconds := now }
        let manager := { state.manager with
          records := adjust bundle reset state.manager.records }
        { state with manager := manager.persistNoThrowLocked written }

def Quarantine.reset (state : Quarantine) (bundle : String) (confirmRecovery : Bool)
    (written : Except String Unit) : Except String Unit × Quarantine :=
  if !isPlugin bundle then (.error "only external plugins have quarantine state", state)
  else if state.manager.recoveryRequired && !confirmRecovery then
    (.error "plugin quarantine persistence requires explicit recovery confirmation", state)
  else
    let cleared := if state.manager.recoveryRequired then
        { state.manager with records := [], recoveryRequired := false, lastPersistenceError := "" }
      else state.manager
    let manager := { cleared with records := eraseKey bundle cleared.records }
    match manager.persistLocked written with
    | .ok manager => (.ok (), { state with manager }.setAutoStartBlocked bundle false)
    | .error what => (.error what, { state with manager })

def Quarantine.step (state : Quarantine) : QuarantineCall → Quarantine
  | .configure settings => (state.configure settings).2
  | .failure bundle error written now => state.failure bundle error written now
  | .success bundle written now => state.success bundle written now
  | .reset bundle confirmRecovery written => (state.reset bundle confirmRecovery written).2

/-- Bundles that have just been loaded, before the first call. -/
def Quarantine.loaded (bundles : List String) : Quarantine :=
  { bundles := bundles.map (·, false) }

open PluginQuarantineManager

/-- The flag of every loaded plugin says whether it is blocked. -/
def Quarantine.Consistent (state : Quarantine) : Prop :=
  ∀ bundle ∈ state.bundles, isPlugin bundle.1 = true → bundle.2 = state.manager.blocked bundle.1

def BlocksConsistently (state : Quarantine) (call : QuarantineCall) : Prop :=
  (state.step call).Consistent ∧
    match call with
    | .reset bundle confirmRecovery written =>
      ∀ what, (state.reset bundle confirmRecovery written).1 = .error what →
        ∀ id, (state.step call).manager.blocked id = state.manager.blocked id
    | _ => True

def PluginQuarantineManager.holds (manager : PluginQuarantineManager) (id : String) : Prop :=
  manager.recoveryRequired = true ∨ manager.quarantined id = true

/-- The loaded plugins. -/
def Quarantine.plugins (state : Quarantine) : List String :=
  (keys state.bundles).filter isPlugin

/-- What a call needs for that. -/
def AffectsOnlyItsBundle (state : Quarantine) : QuarantineCall → Prop
  | .configure settings =>
    match settings.enabled, settings.failureThreshold, settings.path with
    | .error _, _, _ => True
    | .ok enabled, .ok _, .ok _ =>
      -- The file can be looked for, or nothing was blocked.
      enabled = false ∨ settings.exists' = .ok () ∨ state.manager.enabled = false ∨
        ∀ id ∈ state.plugins, ¬state.manager.holds id
    | .ok enabled, _, _ =>
      enabled = state.manager.enabled ∨ ∀ id ∈ state.plugins, ¬state.manager.holds id
  | .failure bundle _ written _ =>
    state.manager.enabled = false ∨ isPlugin bundle = false ∨ written = .ok () ∨
      ∀ id ∈ state.plugins, id ≠ bundle → state.manager.holds id
  | .success bundle written _ =>
    state.manager.enabled = false ∨ isPlugin bundle = false ∨ written = .ok () ∨
      ((state.manager.records.lookup bundle).all (·.consecutiveFailures = 0)) = true ∨
      ∀ id ∈ state.plugins, state.manager.holds id
  | .reset bundle confirmRecovery written =>
    state.manager.enabled = false ∨ isPlugin bundle = false ∨
      (if state.manager.recoveryRequired then
        confirmRecovery = false ∨ (written = .ok () ∧ ∀ id ∈ state.plugins, id = bundle)
      else written = .ok () ∨ state.manager.quarantined bundle = false)

section Proofs

variable {state : Quarantine} {id : String} {manager : PluginQuarantineManager} {bundle : String}

theorem Quarantine.mem_plugins :
    id ∈ state.plugins ↔ isPlugin id = true ∧ ∃ flag, (id, flag) ∈ state.bundles := by
  simp [Quarantine.plugins, keys, and_comm]

theorem PluginQuarantineManager.blocked_iff (plugin : isPlugin id = true) :
    manager.blocked id = true ↔ manager.enabled = true ∧ manager.holds id := by
  simp [blocked, PluginQuarantineManager.holds, plugin]

theorem PluginQuarantineManager.blocked_congr {first second : PluginQuarantineManager}
    (plugin : isPlugin id = true) :
    first.blocked id = second.blocked id ↔
      (first.enabled = true ∧ first.holds id ↔ second.enabled = true ∧ second.holds id) := by
  rw [Bool.eq_iff_iff, blocked_iff plugin, blocked_iff plugin]

theorem Quarantine.Consistent.same_flags (consistent : state.Consistent)
    (manager : PluginQuarantineManager) :
    ({ state with manager } : Quarantine).Consistent ↔
      ∀ id ∈ state.plugins, manager.blocked id = state.manager.blocked id := by
  constructor
  · intro next id listed
    obtain ⟨plugin, flag, member⟩ := mem_plugins.mp listed
    exact (next _ member plugin).symm.trans (consistent _ member plugin)
  · intro same bundle member plugin
    rw [consistent _ member plugin, same bundle.1 (mem_plugins.mpr ⟨plugin, bundle.2, member⟩)]

/-- The same, where one flag is written too. -/
theorem Quarantine.Consistent.one_flag (consistent : state.Consistent)
    (manager : PluginQuarantineManager) (bundle : String) (value : Bool) :
    (({ state with manager } : Quarantine).setAutoStartBlocked bundle value).Consistent ↔
      ∀ id ∈ state.plugins,
        manager.blocked id = if id = bundle then value else state.manager.blocked id := by
  have flags : ∀ entry ∈ state.bundles, isPlugin entry.1 = true →
      (if entry.1 = bundle then (entry.1, value) else entry).2 =
        if entry.1 = bundle then value else state.manager.blocked entry.1 := by
    intro entry member plugin
    split
    · rfl
    · exact consistent _ member plugin
  constructor
  · intro next id listed
    obtain ⟨plugin, flag, member⟩ := mem_plugins.mp listed
    have written := next _ (List.mem_map_of_mem member)
    have name : (if id = bundle then (id, value) else (id, flag)).1 = id := by split <;> rfl
    simp only [name] at written
    exact (written plugin).symm.trans (flags _ member plugin)
  · intro same entry member plugin
    obtain ⟨old, listed, rfl⟩ := List.mem_map.mp member
    have name : (if old.1 = bundle then (old.1, value) else old).1 = old.1 := by split <;> rfl
    rw [name] at plugin ⊢
    rw [flags old listed plugin]
    exact (same _ (mem_plugins.mpr ⟨plugin, _, listed⟩)).symm

/-- Writing all flags makes them right. -/
theorem Quarantine.applyFlags_consistent (state : Quarantine) : state.applyFlags.Consistent := by
  intro entry member plugin
  obtain ⟨old, -, rfl⟩ := List.mem_map.mp member
  have name : (if isPlugin old.1 then (old.1, state.manager.blocked old.1) else old).1 = old.1 := by
    split <;> rfl
  rw [name] at plugin ⊢
  simp [plugin, Quarantine.applyFlags]

theorem Quarantine.loaded_consistent (bundles : List String) : (loaded bundles).Consistent := by
  intro entry member _
  obtain ⟨name, -, rfl⟩ := List.mem_map.mp member
  simp [loaded, blocked, quarantined]

theorem Quarantine.Consistent.switched (consistent : state.Consistent) (enabled : Bool)
    (threshold : UInt64) :
    ({ state with manager := { state.manager with enabled, threshold } } : Quarantine).Consistent ↔
      enabled = state.manager.enabled ∨ ∀ id ∈ state.plugins, ¬state.manager.holds id := by
  rw [consistent.same_flags]
  constructor
  · intro same
    by_cases kept : enabled = state.manager.enabled
    · exact .inl kept
    · refine .inr fun id listed held => kept (Bool.eq_iff_iff.mpr ?_)
      -- A held plugin is blocked exactly while quarantine is on.
      have both := (blocked_congr (mem_plugins.mp listed).1).mp (same id listed)
      exact ⟨fun on => (both.mp ⟨on, held⟩).1, fun on => (both.mpr ⟨on, held⟩).1⟩
  · rintro (rfl | free) id listed
    · rfl
    · refine (blocked_congr (mem_plugins.mp listed).1).mpr ?_
      exact ⟨fun blocked => absurd blocked.2 (free id listed),
        fun blocked => absurd blocked.2 (free id listed)⟩

theorem Quarantine.Consistent.dropped (consistent : state.Consistent)
    (records : manager.records = []) (recovered : manager.recoveryRequired = false) :
    ({ state with manager } : Quarantine).Consistent ↔
      state.manager.enabled = false ∨ ∀ id ∈ state.plugins, ¬state.manager.holds id := by
  have free : ∀ id, ¬manager.holds id := by
    simp [PluginQuarantineManager.holds, quarantined, records, recovered]
  rw [consistent.same_flags]
  constructor
  · intro same
    by_cases off : state.manager.enabled = false
    · exact .inl off
    · refine .inr fun id listed held => ?_
      have both := (blocked_congr (mem_plugins.mp listed).1).mp (same id listed)
      exact free id (both.mpr ⟨by simpa using off, held⟩).2
  · intro unheld id listed
    refine (blocked_congr (mem_plugins.mp listed).1).mpr ?_
    refine ⟨fun blocked => absurd blocked.2 (free id), fun blocked => ?_⟩
    rcases unheld with off | none
    · simp [off] at blocked
    · exact absurd blocked.2 (none id listed)

theorem Quarantine.Consistent.configure_iff (consistent : state.Consistent)
    (settings : QuarantineSettings) :
    BlocksConsistently state (.configure settings) ↔
      AffectsOnlyItsBundle state (.configure settings) := by
  obtain ⟨enabled, failureThreshold, path, found, file⟩ := settings
  simp only [BlocksConsistently, Quarantine.step, Quarantine.configure, AffectsOnlyItsBundle,
    and_true]
  rcases enabled with what | enabled
  · exact iff_of_true consistent trivial
  rcases failureThreshold with what | threshold
  · exact consistent.switched enabled state.manager.threshold
  rcases path with what | _
  · exact consistent.switched enabled _
  cases enabled with
  | false => exact iff_of_true (applyFlags_consistent _) (.inl rfl)
  | true =>
    rcases found with what | _
    · -- The records are gone, but no flag has been written.
      simpa using consistent.dropped rfl rfl
    · exact iff_of_true (applyFlags_consistent _) (.inr (.inl rfl))

/-- What the attempt to persist leaves behind. -/
theorem PluginQuarantineManager.persistNoThrowLocked_holds (on : manager.enabled = true)
    (written : Except String Unit) (id : String) :
    (manager.persistNoThrowLocked written).holds id ↔ manager.holds id ∨ written ≠ .ok () := by
  cases required : manager.recoveryRequired <;> cases written <;>
    simp [persistNoThrowLocked, persistLocked, holds, quarantined, on, required, Except.map]

@[simp] theorem PluginQuarantineManager.persistNoThrowLocked_enabled
    (manager : PluginQuarantineManager) (written : Except String Unit) :
    (manager.persistNoThrowLocked written).enabled = manager.enabled := by
  unfold persistNoThrowLocked persistLocked
  split
  · next persisted done =>
    split at done
    · cases done; rfl
    · split at done
      · cases done
      · cases written
        · cases done
        · cases done; rfl
  · rfl

theorem PluginQuarantineManager.holds_upsert_ne (differs : id ≠ bundle)
    (fresh : PluginQuarantineRecord) (change : PluginQuarantineRecord → PluginQuarantineRecord) :
    ({ manager with records := upsert bundle fresh change manager.records } :
      PluginQuarantineManager).holds id ↔ manager.holds id := by
  simp [holds, quarantined, lookup_upsert, differs]

theorem PluginQuarantineManager.persistNoThrowLocked_blocked {changed : PluginQuarantineManager}
    (plugin : isPlugin id = true) (on : manager.enabled = true)
    (same : changed.holds id ↔ manager.holds id) {written : Except String Unit}
    (still : changed.enabled = manager.enabled := by rfl) :
    (changed.persistNoThrowLocked written).blocked id = manager.blocked id ↔
      written = .ok () ∨ manager.holds id := by
  rw [blocked_congr plugin, persistNoThrowLocked_holds (still.trans on), same]
  by_cases stored : written = .ok () <;> simp [still, on, stored]

theorem Quarantine.Consistent.failure_iff (consistent : state.Consistent) (bundle error : String)
    (written : Except String Unit) (now : Int) :
    BlocksConsistently state (.failure bundle error written now) ↔
      AffectsOnlyItsBundle state (.failure bundle error written now) := by
  simp only [BlocksConsistently, Quarantine.step, Quarantine.failure, AffectsOnlyItsBundle,
    and_true]
  by_cases ignored : state.manager.enabled = false ∨ isPlugin bundle = false
  · have quiet : (!state.manager.enabled || !isPlugin bundle) = true := by simpa using ignored
    rw [if_pos quiet]
    exact iff_of_true consistent (ignored.imp_right .inl)
  obtain ⟨on, plugin⟩ := not_or.mp ignored
  have loud : ¬(!state.manager.enabled || !isPlugin bundle) = true := by simpa using ignored
  rw [if_neg loud, consistent.one_flag, or_iff_right on, or_iff_right plugin]
  simp only [Bool.not_eq_false] at on plugin
  -- The flag of the bundle itself is right in any case; the others must be blocked as before.
  have own : ∀ manager : PluginQuarantineManager, manager.enabled = true →
      manager.blocked bundle = (manager.quarantined bundle || manager.recoveryRequired) := by
    intro manager enabled
    simp [PluginQuarantineManager.blocked, enabled, plugin, Bool.or_comm]
  constructor
  · intro same
    by_cases stored : written = .ok ()
    · exact .inl stored
    · refine .inr fun id listed differs => ?_
      have both := same id listed
      rw [if_neg differs] at both
      exact ((persistNoThrowLocked_blocked (mem_plugins.mp listed).1 on
        (holds_upsert_ne differs _ _)).mp both).resolve_left stored
  · intro safe id listed
    split
    · next same => subst same; exact own _ (by simpa using on)
    · next differs =>
      exact (persistNoThrowLocked_blocked (mem_plugins.mp listed).1 on
        (holds_upsert_ne differs _ _)).mpr
        (safe.imp_right fun held => held id listed differs)

/-- Putting the failures in a row back to none leaves all that is held as it is. -/
theorem PluginQuarantineManager.holds_adjust (manager : PluginQuarantineManager)
    (bundle id : String) {change : PluginQuarantineRecord → PluginQuarantineRecord}
    (kept : ∀ record, (change record).quarantined = record.quarantined) :
    ({ manager with records := adjust bundle change manager.records } :
      PluginQuarantineManager).holds id ↔ manager.holds id := by
  simp only [holds, quarantined, lookup_adjust]
  split
  · cases manager.records.lookup id <;> simp [kept]
  · rfl

theorem Quarantine.Consistent.success_iff (consistent : state.Consistent) (bundle : String)
    (written : Except String Unit) (now : Int) :
    BlocksConsistently state (.success bundle written now) ↔
      AffectsOnlyItsBundle state (.success bundle written now) := by
  simp only [BlocksConsistently, Quarantine.step, Quarantine.success, AffectsOnlyItsBundle,
    and_true]
  by_cases ignored : state.manager.enabled = false ∨ isPlugin bundle = false
  · have quiet : (!state.manager.enabled || !isPlugin bundle) = true := by simpa using ignored
    rw [if_pos quiet]
    exact iff_of_true consistent (ignored.imp_right .inl)
  obtain ⟨on, plugin⟩ := not_or.mp ignored
  have loud : ¬(!state.manager.enabled || !isPlugin bundle) = true := by simpa using ignored
  rw [if_neg loud, or_iff_right on, or_iff_right plugin]
  simp only [Bool.not_eq_false] at on
  cases state.manager.records.lookup bundle with
  | none => exact iff_of_true consistent (.inr (.inl rfl))
  | some record =>
    by_cases clean : record.consecutiveFailures = 0
    · simp only [clean, if_true]
      exact iff_of_true consistent (.inr (.inl (by simpa using clean)))
    simp only [clean, if_false, Option.all_some, decide_false, Bool.false_eq_true, false_or]
    rw [consistent.same_flags]
    refine (forall₂_congr fun id listed =>
      persistNoThrowLocked_blocked (mem_plugins.mp listed).1 on
        (holds_adjust _ _ _ (by intro _; rfl))).trans ?_
    by_cases stored : written = .ok () <;> simp [stored]

theorem PluginQuarantineManager.quarantined_erase (manager : PluginQuarantineManager)
    (bundle id : String) :
    ({ manager with records := eraseKey bundle manager.records } :
      PluginQuarantineManager).quarantined id = (decide (id ≠ bundle) && manager.quarantined id) := by
  by_cases same : id = bundle
  · simp [quarantined, same]
  · simp [quarantined, same, lookup_eraseKey_ne same]

variable (consistent : state.Consistent)
include consistent

theorem Quarantine.Consistent.reset_recovery_iff (plugin : isPlugin bundle = true)
    (on : state.manager.enabled = true) (required : state.manager.recoveryRequired = true)
    (written : Except String Unit) :
    BlocksConsistently state (.reset bundle true written) ↔
      written = .ok () ∧ ∀ id ∈ state.plugins, id = bundle := by
  -- Every plugin is blocked before the call, and none is after it.
  have before : ∀ id, isPlugin id = true → state.manager.blocked id = true := by
    intro id external
    simp [PluginQuarantineManager.blocked, on, required, external]
  cases written with
  | error what =>
    refine iff_of_false ?_ (by simp)
    rintro ⟨-, unchanged⟩
    have same := unchanged what (by simp [Quarantine.reset, persistLocked, plugin, required, on,
        Except.map]) bundle
    simp [Quarantine.step, Quarantine.reset, persistLocked, plugin,
      required, on, Except.map, PluginQuarantineManager.blocked,
      quarantined, eraseKey] at same
  | ok _ =>
    have reached : state.reset bundle true (.ok ()) =
        (.ok (), { state with manager := { state.manager with
          records := [], recoveryRequired := false, lastPersistenceError := "" } }
            |>.setAutoStartBlocked bundle false) := by
      simp [Quarantine.reset, persistLocked, plugin, required, on, Except.map, eraseKey]
    simp only [BlocksConsistently, Quarantine.step, reached, true_and]
    rw [consistent.one_flag]
    simp only [reduceCtorEq, false_imp_iff, implies_true, and_true]
    refine forall₂_congr fun id listed => ?_
    obtain ⟨external, -⟩ := mem_plugins.mp listed
    rw [before id external]
    simp [PluginQuarantineManager.blocked, quarantined]

/-- A reset while no recovery is required. -/
theorem Quarantine.Consistent.reset_healthy_iff (plugin : isPlugin bundle = true)
    (on : state.manager.enabled = true) (healthy : state.manager.recoveryRequired = false)
    (confirmRecovery : Bool) (written : Except String Unit) :
    BlocksConsistently state (.reset bundle confirmRecovery written) ↔
      written = .ok () ∨ state.manager.quarantined bundle = false := by
  have erased : ∀ id, isPlugin id = true →
      ({ state.manager with records := eraseKey bundle state.manager.records } :
        PluginQuarantineManager).blocked id =
          if id = bundle then false else state.manager.blocked id := by
    intro id external
    rw [PluginQuarantineManager.blocked, quarantined_erase]
    split <;> simp [PluginQuarantineManager.blocked, *]
  cases written with
  | error what =>
    have reached : state.reset bundle confirmRecovery (.error what) =
        (.error what, { state with manager := { state.manager with
          records := eraseKey bundle state.manager.records } }) := by
      simp [Quarantine.reset, persistLocked, plugin, healthy, on, Except.map]
    simp only [BlocksConsistently, Quarantine.step, reached, reduceCtorEq, false_or]
    constructor
    · rintro ⟨-, unchanged⟩
      -- The bundle is no longer blocked, so it was not before.
      have same := unchanged what rfl bundle
      rw [erased bundle plugin] at same
      simpa [PluginQuarantineManager.blocked, on, plugin, healthy] using same.symm
    · intro free
      have same : ∀ id, ({ state.manager with records := eraseKey bundle state.manager.records } :
          PluginQuarantineManager).blocked id = state.manager.blocked id := by
        intro id
        by_cases external : isPlugin id = true
        · rw [erased id external]
          split
          · next name => subst name; simp [PluginQuarantineManager.blocked, healthy, free]
          · rfl
        · simp [PluginQuarantineManager.blocked, external]
      exact ⟨(consistent.same_flags _).mpr fun id _ => same id, fun _ _ id => same id⟩
  | ok _ =>
    refine iff_of_true ?_ (.inl rfl)
    have reached : state.reset bundle confirmRecovery (.ok ()) =
        (.ok (), { state with manager := { state.manager with
          records := eraseKey bundle state.manager.records, lastPersistenceError := "" } }
            |>.setAutoStartBlocked bundle false) := by
      simp [Quarantine.reset, persistLocked, plugin, healthy, on, Except.map]
    simp only [BlocksConsistently, Quarantine.step, reached, reduceCtorEq, false_imp_iff,
      implies_true, and_true]
    refine (consistent.one_flag _ _ _).mpr fun id listed => ?_
    exact erased id (mem_plugins.mp listed).1

theorem Quarantine.Consistent.reset_off (off : state.manager.enabled = false) (bundle : String)
    (confirmRecovery : Bool) (written : Except String Unit) :
    BlocksConsistently state (.reset bundle confirmRecovery written) := by
  have never : ∀ manager : PluginQuarantineManager, manager.enabled = false →
      ∀ id, manager.blocked id = false := by
    intro manager disabled id
    simp [blocked, disabled]
  -- Nothing is written while quarantine is off, so the write cannot fail.
  have unwritten : ∀ manager : PluginQuarantineManager, manager.enabled = false →
      manager.persistLocked written = .ok manager := by
    intro manager disabled
    simp [persistLocked, disabled]
  simp only [BlocksConsistently, Quarantine.step, Quarantine.reset]
  split
  · exact ⟨consistent, fun _ _ _ => rfl⟩
  split
  · exact ⟨consistent, fun _ _ _ => rfl⟩
  rw [unwritten _ (by split <;> exact off)]
  refine ⟨(consistent.one_flag _ _ _).mpr fun id _ => ?_, by simp⟩
  rw [never _ (by split <;> exact off), never _ off, ite_self]

theorem Quarantine.Consistent.reset_iff (bundle : String) (confirmRecovery : Bool)
    (written : Except String Unit) :
    BlocksConsistently state (.reset bundle confirmRecovery written) ↔
      AffectsOnlyItsBundle state (.reset bundle confirmRecovery written) := by
  simp only [AffectsOnlyItsBundle]
  cases on : state.manager.enabled with
  | false => exact iff_of_true (consistent.reset_off on _ _ _) (.inl rfl)
  | true =>
    cases plugin : isPlugin bundle with
    | false =>
      refine iff_of_true ?_ (.inr (.inl rfl))
      simp [BlocksConsistently, Quarantine.step, Quarantine.reset, plugin, consistent]
    | true =>
      simp only [Bool.true_eq_false, false_or]
      cases required : state.manager.recoveryRequired with
      | false => simpa using consistent.reset_healthy_iff plugin on required _ _
      | true =>
        cases confirmRecovery with
        | false =>
          refine iff_of_true ?_ (by simp)
          simp [BlocksConsistently, Quarantine.step, Quarantine.reset, plugin, required, consistent]
        | true => simpa using consistent.reset_recovery_iff plugin on required written

theorem Quarantine.Consistent.step_iff (call : QuarantineCall) :
    BlocksConsistently state call ↔ AffectsOnlyItsBundle state call := by
  cases call with
  | configure settings => exact consistent.configure_iff settings
  | failure bundle error written now => exact consistent.failure_iff bundle error written now
  | success bundle written now => exact consistent.success_iff bundle written now
  | reset bundle confirmRecovery written =>
    exact consistent.reset_iff bundle confirmRecovery written

end Proofs

/-- Quarantine blocks consistently in exactly the runs whose calls each affect only the bundle they
are about: a failed write of the state, which blocks or frees every plugin, has to leave the other
loaded plugins as they were. -/
theorem quarantine_consistent_iff (bundles : List String) (calls : List QuarantineCall) :
    Along Quarantine.step BlocksConsistently (.loaded bundles) calls ↔
      Along Quarantine.step AffectsOnlyItsBundle (.loaded bundles) calls := by
  have kept : ∀ (state : Quarantine) (call : QuarantineCall), state.Consistent →
      AffectsOnlyItsBundle state call → (state.step call).Consistent := by
    intro state call consistent only
    exact ((consistent.step_iff call).mpr only).1
  have same : ∀ (state : Quarantine) (call : QuarantineCall), state.Consistent →
      (BlocksConsistently state call ↔ AffectsOnlyItsBundle state call) := by
    intro state call consistent
    exact consistent.step_iff call
  exact Along.congr kept same (Quarantine.loaded_consistent bundles) calls

/-- A failure of one plugin that cannot be written down blocks the other, whose flag stays. -/
theorem failed_write_blocks_others :
    ¬∀ (bundles : List String) (calls : List QuarantineCall),
      Along Quarantine.step BlocksConsistently (.loaded bundles) calls := by
  intro always
  obtain ⟨-, ⟨consistent, -⟩, -⟩ := always ["pdr.plugin.a", "pdr.plugin.b"]
    [.configure ⟨.ok true, .ok 3, .ok (), .ok (), .absent⟩,
      .failure "pdr.plugin.a" "crash" (.error "disk full") 1]
  have flag := consistent ("pdr.plugin.b", false) (by decide) (by decide)
  revert flag
  decide

end PocoDDS.Monitoring
