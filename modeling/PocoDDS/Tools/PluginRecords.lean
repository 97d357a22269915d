import PocoDDS.Tools.PluginRollbackFailure

/-! What the report and the audit log of a plugin transaction say of its end. -/

namespace PocoDDS.Tools

open AssocList CrashLogic ProcessLogic Process

/-- A transaction of the plugin manager. -/
inductive PluginCall
  | install (arguments : PluginArguments)
  | rollback (arguments : PluginRollbackArguments)

namespace PluginCall

def transactionId : PluginCall → String
  | .install arguments => arguments.transactionId
  | .rollback arguments => arguments.transactionId

/-- Whether a report file is asked for. -/
def report : PluginCall → Bool
  | .install arguments => arguments.report
  | .rollback arguments => arguments.report

/-- The result of a call, and the files it leaves. -/
def start (checks : PluginChecks) (call : PluginCall) (before : PluginStore)
    (faults : List (Option Fault)) : Except String Nat × PluginStore :=
  match call with
  | .install arguments =>
    let done := (installPlugin checks arguments).start (before, {}) faults
    (done.1, done.2.state.1)
  | .rollback arguments =>
    let done := (rollbackPlugin checks arguments).start (before, {}) faults
    (done.1, done.2.state.1)

/-- How many steps the guarded part takes. -/
def guardedSteps (checks : PluginChecks) (before : PluginStore) : PluginCall → Nat
  | .install arguments => (installBody checks arguments).acts (before, {})
  | .rollback arguments =>
    match pluginBackups arguments.symbolicName before with
    | [] => 0
    | place :: _ => if arguments.confirmRuntimeStopped then
        (rollbackPluginBody checks arguments place).acts (before, {}) else 0

end PluginCall

def PluginEvent.transactionId : PluginEvent → String
  | .installCommitted transactionId .. => transactionId
  | .installFailed transactionId .. => transactionId
  | .rollbackCommitted transactionId .. => transactionId
  | .rollbackFailed transactionId .. => transactionId
  | .transactionRecovered transactionId .. => transactionId
  | .transactionRecoveryFailed transactionId .. => transactionId

/-- Whether an event says that a transaction was committed. -/
def PluginEvent.isCommitted : PluginEvent → Bool
  | .installCommitted .. => true
  | .rollbackCommitted .. => true
  | _ => false

/-- Whether an event says that the plugins are verified to be back. -/
def PluginEvent.saysRestored : PluginEvent → Bool
  | .installFailed _ _ rollbackVerified => rollbackVerified
  | .rollbackFailed _ _ _ rollbackVerified => rollbackVerified
  | _ => false

def lastEvent (transactionId : String) (audit : List PluginEvent) : Option PluginEvent :=
  (audit.filter (·.transactionId = transactionId)).getLast?

/-- The records of a call agree with its result and with the files. -/
structure TruthfulRecords (call : PluginCall) (before : PluginStore) (outcome : Except String Nat)
    (after : PluginStore) : Prop where
  passed : call.report = true → (after.report.any (·.passed) = true ↔ outcome = .ok 0)
  verified : (call.report = true ∧ after.report.any (·.rollbackVerified = some true) = true) ∨
      (lastEvent call.transactionId after.audit).any (·.saysRestored) = true →
    SameContents before.bundles after.bundles
  committed : (lastEvent call.transactionId after.audit).any (·.isCommitted) = true ↔
    outcome = .ok 0

/-- No step fails behind the point where the report says that the call has passed, and what the
handler moves away is what the call has put there. -/
def RecordsHold (checks : PluginChecks) (before : PluginStore) (due : Option Nat) :
    PluginCall → Prop
  | .install arguments =>
    ∀ step evidence, due = some step → 0 < step →
      preflight checks arguments before.bundles = .ok evidence →
      (arguments.report = true → step < stepsBefore evidence .appendCommitted) ∧
        Restorable evidence before step
  | .rollback arguments =>
    match pluginBackups arguments.symbolicName before with
    | [] => arguments.report = true → before.report.any (·.passed) = false
    | place :: _ =>
      if arguments.confirmRuntimeStopped then
        (∀ step, due = some step → arguments.report = true →
          step < (rollbackSteps arguments.report).idxOf .appendCommitted) ∧
        RollbackRestorable checks arguments before place due
      else arguments.report = true → before.report.any (·.passed) = false

theorem lastEvent_append {transactionId : String} {events : List PluginEvent} {event : PluginEvent}
    (own : event.transactionId = transactionId) :
    lastEvent transactionId (events ++ [event]) = some event := by
  simp [lastEvent, List.filter_append, own]

theorem lastEvent_unused {transactionId : String} {audit : List PluginEvent}
    (unused : ∀ event ∈ audit, event.transactionId ≠ transactionId) :
    lastEvent transactionId audit = none := by
  have empty : audit.filter (·.transactionId = transactionId) = [] := by
    rw [List.filter_eq_nil_iff]
    intro event member
    simpa using unused event member
  rw [lastEvent, empty]
  rfl

section Results

variable {checks : PluginChecks} {before after : PluginStore} {due : Option Nat}
  {outcome : Except String Nat}
variable {events : List PluginEvent} {event : PluginEvent}

variable {call : PluginCall} (audit : after.audit = events ++ [event])
  (own : event.transactionId = call.transactionId)
include audit own

theorem TruthfulRecords.failed (uncommitted : event.isCommitted = false)
    (passed : call.report = true → after.report.any (·.passed) = false)
    (verified : call.report = true → ∀ report, after.report = some report →
      report.rollbackVerified = some event.saysRestored)
    (restored : event.saysRestored = true → SameContents before.bundles after.bundles) :
    TruthfulRecords call before (.ok 1) after := by
  have last : lastEvent call.transactionId after.audit = some event := by
    rw [audit]
    exact lastEvent_append own
  refine ⟨?_, ?_, ?_⟩
  · intro written
    rw [passed written]
    simp
  · rintro (⟨written, claimed⟩ | claimed)
    · cases found : after.report with
      | none => simp [found] at claimed
      | some report =>
        have same := verified written report found
        simp only [found, Option.any_some, same, decide_eq_true_eq, Option.some.injEq] at claimed
        exact restored claimed
    · rw [last] at claimed
      exact restored claimed
  · rw [last, Option.any_some, uncommitted]
    simp

theorem TruthfulRecords.done (committed : event.isCommitted = true)
    (silent : event.saysRestored = false)
    (report : call.report = true → ∃ report, after.report = some report ∧ report.passed = true ∧
      report.rollbackVerified = none) : TruthfulRecords call before (.ok 0) after := by
  have last : lastEvent call.transactionId after.audit = some event := by
    rw [audit]
    exact lastEvent_append own
  refine ⟨?_, ?_, ?_⟩
  · intro written
    obtain ⟨document, found, passed, -⟩ := report written
    simp [found, passed]
  · rintro (⟨written, claimed⟩ | claimed)
    · obtain ⟨document, found, -, unverified⟩ := report written
      simp [found, unverified] at claimed
    · rw [last, Option.any_some, silent] at claimed
      cases claimed
  · simp [last, committed]

omit audit own

theorem TruthfulRecords.restored {call : PluginCall}
    (truthful : TruthfulRecords call before outcome after) (audit : after.audit = events ++ [event])
    (own : event.transactionId = call.transactionId) (claimed : event.saysRestored = true) :
    SameContents before.bundles after.bundles := by
  refine truthful.verified (.inr ?_)
  rw [audit, lastEvent_append own]
  exact claimed

/-- A call that returns before its guarded part leaves an older report as it is. -/
theorem TruthfulRecords.declined_iff {call : PluginCall}
    (unused : ∀ event ∈ before.audit, event.transactionId ≠ call.transactionId) :
    TruthfulRecords call before (.ok 1) before ↔
      (call.report = true → before.report.any (·.passed) = false) := by
  constructor
  · intro truthful written
    have passed := truthful.passed written
    rw [Bool.eq_false_iff]
    intro stale
    have zero := passed.mp stale
    cases zero
  · intro fresh
    refine ⟨?_, fun _ _ _ => rfl, ?_⟩
    · intro written
      rw [fresh written]
      simp
    · rw [lastEvent_unused unused]
      simp

theorem install_records_iff (arguments : PluginArguments) (names : checks.WellNamed)
    (result : InstallResult checks arguments before due outcome after) :
    TruthfulRecords (.install arguments) before outcome after ↔
      RecordsHold checks before due (.install arguments) := by
  cases result with
  | refused early result =>
    obtain ⟨events, error, audit⟩ := result.audit
    constructor
    · intro _ step evidence due' begun
      rw [early step due'] at begun
      exact absurd begun (Nat.lt_irrefl 0)
    · intro _
      refine .failed audit rfl rfl (fun written => ?_) (fun written report found => ?_)
        fun claimed => by cases claimed
      · obtain ⟨report, found, passed, -⟩ := result.report written
        simp [found, passed]
      · obtain ⟨report', found', -, verified⟩ := result.report written
        rw [found', Option.some.injEq] at found
        rw [← found]
        exact verified
  | failed due' begun admissible result =>
    rename_i evidence step
    obtain ⟨events, error, verified, audit, unverified, written'⟩ := result.records
    have canonical := (Checked.make names admissible.passed).canonical
    have same := result.bundles.same_iff canonical
    constructor
    · intro truthful step' evidence' due'' _ read
      rw [due', Option.some.injEq] at due''
      rw [admissible.passed, Except.ok.injEq] at read
      subst due'' read
      refine ⟨fun written => ?_, ?_⟩
      · obtain ⟨report, found, passed, -⟩ := written' written
        have claims := truthful.passed written
        rw [found, Option.any_some, passed] at claims
        by_contra late
        have zero := claims.mp (decide_eq_true (by omega))
        cases zero
      · -- Where nothing was moved back, the canonical name was free.
        cases verified with
        | false => exact .inl (unverified rfl).2
        | true => exact same.mp (truthful.restored audit rfl rfl)
    · intro hold
      obtain ⟨early, restorable⟩ := hold step evidence due' begun admissible.passed
      refine .failed audit rfl rfl (fun written => ?_) (fun written report found => ?_)
        fun _ => same.mpr restorable
      · obtain ⟨report, found, passed, -⟩ := written' written
        have before' := early written
        rw [found, Option.any_some, passed]
        exact decide_eq_false (by omega)
      · obtain ⟨report', found', -, verified⟩ := written' written
        rw [found', Option.some.injEq] at found
        rw [← found]
        exact verified
  | done calm admissible result =>
    obtain ⟨events, symbolicName, version, sha256, backup, audit⟩ := result.audit
    constructor
    · intro _ step evidence due'
      rw [calm] at due'
      cases due'
    · intro _
      exact .done audit rfl rfl rfl result.report

theorem rollback_records_iff (arguments : PluginRollbackArguments) (names : checks.WellNamed)
    {place : BackupPlace}
    (result : RollbackResult checks arguments before place due outcome after) :
    TruthfulRecords (.rollback arguments) before outcome after ↔
      (∀ step, due = some step → arguments.report = true →
        step < (rollbackSteps arguments.report).idxOf .appendCommitted) ∧
      RollbackRestorable checks arguments before place due := by
  rw [idxOf_appendCommitted]
  unfold RollbackRestorable
  rw [idxOf_restoreBackup]
  cases result with
  | refused early inadmissible result =>
    obtain ⟨events, symbolicName, error, audit⟩ := result.audit
    constructor
    · intro _
      refine ⟨fun step due' _ => ?_, fun step _ _ due' _ => .inr (.inr ?_)⟩ <;>
        rw [early step due'] <;> omega
    · intro _
      refine .failed audit rfl rfl (fun written => ?_) (fun written report found => ?_)
        fun claimed => by cases claimed
      · obtain ⟨report, found, passed, -⟩ := result.report written
        simp [found, passed]
      · obtain ⟨report', found', -, verified⟩ := result.report written
        rw [found', Option.some.injEq] at found
        rw [← found]
        exact verified
  | failed due' begun admissible copies named placed result =>
    rename_i step backupInfo current
    obtain ⟨events, symbolicName, error, audit⟩ := result.audit
    obtain ⟨saved, -, opened⟩ := admissible.approved.saved
    have same := result.files.same_iff (inspectBundle_names names opened).1
    rw [named] at same
    constructor
    · intro truthful
      refine ⟨fun step' due'' written => ?_, fun step' backupInfo' current' due'' approved => ?_⟩
      · rw [due', Option.some.injEq] at due''
        subst due''
        obtain ⟨report, found, passed, -⟩ := result.report written
        have claims := truthful.passed written
        rw [found, Option.any_some, passed] at claims
        by_contra late
        have zero := claims.mp (decide_eq_true (by omega))
        cases zero
      · obtain ⟨rfl, rfl⟩ := approved.unique admissible.approved
        rw [due', Option.some.injEq] at due''
        subst due''
        -- Before the installed plugin has been moved there is nothing to verify.
        rcases Nat.lt_or_ge step 4 with early | late
        · exact .inr (.inr (by omega))
        · exact same.mp (truthful.restored audit rfl (decide_eq_true late))
    · rintro ⟨early, restorable⟩
      refine .failed audit rfl rfl (fun written => ?_) (fun written report found => ?_)
        fun _ => same.mpr (restorable step _ _ due' admissible.approved)
      · obtain ⟨report, found, passed, -⟩ := result.report written
        have before' := early step due' written
        rw [found, Option.any_some, passed]
        exact decide_eq_false (by omega)
      · obtain ⟨report', found', -, verified⟩ := result.report written
        rw [found', Option.some.injEq] at found
        rw [← found]
        exact verified
  | done calm admissible copies named placed result =>
    obtain ⟨events, symbolicName, restored, sha256, displaced, audit⟩ := result.audit
    constructor
    · intro _
      refine ⟨fun step due' => ?_, fun step _ _ due' => ?_⟩ <;> rw [calm] at due' <;> cases due'
    · intro _
      exact .done audit rfl rfl rfl result.report

/-- The records of a call with at most one failing step in its guarded part are true exactly when no
step fails behind the point where the report has passed, and the handler takes no other file for its
own. -/
theorem plugin_records_truthful_iff (checks : PluginChecks) (call : PluginCall)
    (before : PluginStore) (due : Option Nat) (fault : Fault) (names : checks.WellNamed)
    (fresh : FreshTransaction call.transactionId before)
    (unused : ∀ event ∈ before.audit, event.transactionId ≠ call.transactionId)
    (within : Past due (call.guardedSteps checks before)) :
    TruthfulRecords call before (call.start checks before (faultAt due fault)).1
        (call.start checks before (faultAt due fault)).2 ↔
      RecordsHold checks before due call := by
  cases call with
  | install arguments =>
    exact install_records_iff arguments names (installPlugin_result names fresh within fault)
  | rollback arguments =>
    dsimp only [RecordsHold, PluginCall.guardedSteps] at within ⊢
    -- A call that is declined takes no step that could fail.
    have declined : Past due 0 →
        (rollbackPlugin checks arguments).struck none
          (fun outcome _ after => outcome = .ok 1 ∧ after.1 = before) 0 (before, {}) →
        (TruthfulRecords (.rollback arguments) before
            ((PluginCall.rollback arguments).start checks before (faultAt due fault)).1
            ((PluginCall.rollback arguments).start checks before (faultAt due fault)).2 ↔
          (arguments.report = true → before.report.any (·.passed) = false)) := by
      intro past calm
      have none' : due = none := Ahead.none (fun step _ => Nat.zero_le step) past
      obtain ⟨-, returned, same⟩ := start_of_struck fault calm
      rw [none']
      dsimp only [PluginCall.start]
      rw [returned, same]
      exact TruthfulRecords.declined_iff unused
    cases chosen : pluginBackups arguments.symbolicName before with
    | nil =>
      rw [chosen] at within
      refine declined within ?_
      unfold rollbackPlugin
      split
      · exact ⟨rfl, rfl⟩
      · rw [struck_get_andThen]
        simp only [chosen]
        exact ⟨rfl, rfl⟩
    | cons place rest =>
      rw [chosen] at within
      by_cases confirmed : arguments.confirmRuntimeStopped = true
      · simp only [confirmed, if_true] at within ⊢
        obtain ⟨-, result⟩ := start_of_struck fault
          (rollbackPlugin_struck checks fresh confirmed chosen within)
        exact rollback_records_iff arguments names result
      · simp only [confirmed, Bool.false_eq_true, if_false] at within ⊢
        refine declined within ?_
        unfold rollbackPlugin
        rw [if_pos (by simpa using confirmed)]
        exact ⟨rfl, rfl⟩

/-- A first installation that writes a report. -/
def reportedInstall : PluginCall := .install { samplePluginArguments with report := true }

theorem reportedInstall_within :
    Past (some 7) (reportedInstall.guardedSteps samplePluginChecks {}) := by
  rintro step ⟨rfl⟩
  decide +kernel

/-- Publishing fails, and the records say so. -/
theorem failed_publish_recorded :
    TruthfulRecords reportedInstall {}
      (reportedInstall.start samplePluginChecks {} (faultAt (some 4) ⟨"No space left", 0⟩)).1
      (reportedInstall.start samplePluginChecks {} (faultAt (some 4) ⟨"No space left", 0⟩)).2 := by
  refine (plugin_records_truthful_iff samplePluginChecks reportedInstall {} (some 4) _
    samplePluginChecks_wellNamed sample_fresh (by simp) ?_).mpr ?_
  · rintro step ⟨rfl⟩
    have bound := reportedInstall_within 7 rfl
    omega
  · rintro step evidence ⟨rfl⟩ - read
    refine ⟨fun _ => ?_, .inl rfl⟩
    rw [stepsBefore_appendCommitted]
    split <;> omega

/-- The audit log cannot be written, the call fails, and the report says that it has passed. -/
theorem failed_audit_reported_as_passed :
    ¬∀ (checks : PluginChecks) (call : PluginCall) (before : PluginStore) (due : Option Nat)
      (fault : Fault), checks.WellNamed → FreshTransaction call.transactionId before →
      (∀ event ∈ before.audit, event.transactionId ≠ call.transactionId) →
      Past due (call.guardedSteps checks before) →
      TruthfulRecords call before (call.start checks before (faultAt due fault)).1
        (call.start checks before (faultAt due fault)).2 := by
  intro always
  have truthful := always _ reportedInstall {} _ ⟨"No space left", 0⟩ samplePluginChecks_wellNamed sample_fresh
    (by simp) reportedInstall_within
  have passed : (reportedInstall.start samplePluginChecks {}
      (faultAt (some 7) ⟨"No space left", 0⟩)).2.report.any (·.passed) = true := by
    decide +kernel
  have failed : (reportedInstall.start samplePluginChecks {}
      (faultAt (some 7) ⟨"No space left", 0⟩)).1.toOption = some 1 := by
    decide +kernel
  rw [(truthful.passed rfl).mp passed] at failed
  cases failed

end Results

end PocoDDS.Tools
