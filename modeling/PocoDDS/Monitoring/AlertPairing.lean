import PocoDDS.Lib.Run
import PocoDDS.Monitoring.Alerts

/-! When every alert that was opened is still retained or has been resolved. -/

namespace PocoDDS.Monitoring

open AssocList RunLogic

/-- The events emitted for one alert, oldest first. -/
def eventsOf (id : TraceId) (emissions : List Emission) : List AlertEventKind :=
  (emissions.filter (·.alert.id = id)).map (·.event)

/-- Opened first, then escalated at most once, then resolved at most once. -/
def WellPaired (events : List AlertEventKind) : Prop :=
  events ∈ [[], [.opened], [.opened, .escalated], [.opened, .resolved],
    [.opened, .escalated, .resolved]]

/-- Whether an alert was emitted as opened and not as resolved. -/
def OpenIn (emissions : List Emission) (id : TraceId) : Prop :=
  .opened ∈ eventsOf id emissions ∧ .resolved ∉ eventsOf id emissions

/-- The tracker, and everything it has emitted. -/
abbrev Observed := DiagnosticEventTracker × List Emission

def observing (policy : AlertPolicy) (current : Observed) (observation : Observation) : Observed :=
  let next := current.1.observe policy observation
  (next.1, current.2 ++ next.2)

/-- The events pair up, and what is open is what is retained as firing or silenced. -/
structure PairsUp (current : Observed) : Prop where
  order : ∀ id, WellPaired (eventsOf id current.2)
  retained : ∀ id, OpenIn current.2 id ↔ ∃ key alert,
    current.1.alerts.lookup key = some alert ∧ alert.id = id ∧ alert.status.isOpen = true

/-- Whether an open alert is kept under a key. -/
def openAt (tracker : DiagnosticEventTracker) (key : String) : Bool :=
  (tracker.alerts.lookup key).any (·.status.isOpen)

/-- Whether an observation replaces an open alert, or drops one to make room for a new key. -/
def drops (policy : AlertPolicy) (tracker : DiagnosticEventTracker) (observation : Observation) :
    Bool :=
  observation.failure.active && !observation.failure.code.isEmpty &&
    match tracker.alerts.lookup observation.key with
    | some alert => alert.status.isOpen && alert.code != observation.failure.code
    | none => (tracker.alertOrder.drop (policy.retention - 1)).any (openAt tracker)

section Records

/-- What has been emitted for an alert. -/
def History (alert : AlertRecord) (events : List AlertEventKind) : Prop :=
  match alert.status with
  | .pending => alert.severity = .warning ∧ events = []
  | .firing | .silenced =>
    (alert.severity = .warning ∧ events = [.opened]) ∨
      (alert.severity = .critical ∧ events = [.opened, .escalated])
  | .resolved => events = [] ∨ events = [.opened, .resolved] ∨ events = [.opened, .escalated, .resolved]

variable {alert : AlertRecord} {events : List AlertEventKind}

theorem History.wellPaired (history : History alert events) : WellPaired events := by
  unfold History at history
  split at history
  · rw [history.2]
    simp [WellPaired]
  · rcases history with ⟨-, same⟩ | ⟨-, same⟩ <;> simp [WellPaired, same]
  · rcases history with ⟨-, same⟩ | ⟨-, same⟩ <;> simp [WellPaired, same]
  · rcases history with same | same | same <;> simp [WellPaired, same]

theorem History.open_iff (history : History alert events) :
    (.opened ∈ events ∧ .resolved ∉ events) ↔ alert.status.isOpen = true := by
  unfold History at history
  split at history
  · next status => simp [history.2, status, AlertStatus.isOpen]
  · next status => rcases history with ⟨-, same⟩ | ⟨-, same⟩ <;> simp [same, status, AlertStatus.isOpen]
  · next status => rcases history with ⟨-, same⟩ | ⟨-, same⟩ <;> simp [same, status, AlertStatus.isOpen]
  · next status => rcases history with same | same | same <;> simp [same, status, AlertStatus.isOpen]

/-- What a step on an alert leaves behind. -/
structure Follows (alert : AlertRecord) (after : AlertRecord × List Emission) : Prop where
  same : after.1.id = alert.id
  own : ∀ emission ∈ after.2, emission.alert.id = alert.id
  history : ∀ events, History alert events → History after.1 (events ++ after.2.map (·.event))

theorem follows_open (policy : AlertPolicy) (now : Int) (alert : AlertRecord) :
    Follows alert (alert.open policy now) := by
  unfold AlertRecord.open
  split
  · next due =>
    refine ⟨rfl, by simp, ?_⟩
    intro events history
    simp only [History, due.1] at history
    -- A pending alert has emitted nothing.
    rw [history.2]
    cases alert.silenced <;> simp [History, history.1]
  · exact ⟨rfl, by simp, fun events history => by simpa using history⟩

theorem follows_escalate (policy : AlertPolicy) (now : Int) (alert : AlertRecord) :
    Follows alert (alert.escalate policy now) := by
  unfold AlertRecord.escalate
  split
  · next due =>
    refine ⟨rfl, by simp, ?_⟩
    intro events history
    obtain ⟨isOpen, mild, -, -⟩ := due
    cases status : alert.status with
    | pending => simp [status, AlertStatus.isOpen] at isOpen
    | resolved => simp [status, AlertStatus.isOpen] at isOpen
    | _ =>
      simp only [History, status] at history ⊢
      -- It has not been escalated, so it has only been opened.
      rcases history with ⟨-, same⟩ | ⟨critical, -⟩
      · exact .inr ⟨trivial, by simp [same]⟩
      · exact absurd critical mild
  · exact ⟨rfl, by simp, fun events history => by simpa using history⟩

theorem follows_advance (policy : AlertPolicy) (now : Int) (alert : AlertRecord) :
    Follows alert (alert.advance policy now) := by
  have first := follows_open policy now alert
  have second := follows_escalate policy now (alert.open policy now).1
  refine ⟨second.same.trans first.same, ?_, ?_⟩
  · intro emission member
    rcases List.mem_append.mp member with opened | escalated
    · exact first.own emission opened
    · exact (second.own emission escalated).trans first.same
  · intro events history
    have both := second.history _ (first.history events history)
    simpa [AlertRecord.advance] using both

theorem follows_resolve (now : Int) {alert : AlertRecord} (live : alert.status ≠ .resolved) :
    Follows alert (alert.resolve now) := by
  refine ⟨rfl, ?_, ?_⟩
  · intro emission member
    simp only [AlertRecord.resolve] at member
    split at member
    · rw [List.mem_singleton.mp member]
    · cases member
  · intro events history
    cases status : alert.status with
    | resolved => exact absurd status live
    | pending =>
      simp only [History, status] at history
      simp [AlertRecord.resolve, status, History, history.2]
    | _ =>
      simp only [History, status] at history
      rcases history with ⟨-, same⟩ | ⟨-, same⟩ <;>
        simp [AlertRecord.resolve, status, History, same]

end Records

section Tracking

variable {tracker : DiagnosticEventTracker} {emissions : List Emission}

/-- What holds of a tracker and its emissions at all times. -/
structure Tracked (tracker : DiagnosticEventTracker) (emissions : List Emission) : Prop where
  listed : ∀ key, key ∈ tracker.alertOrder ↔ (tracker.alerts.lookup key).isSome
  distinct : tracker.alertOrder.Nodup
  known : ∀ key alert, tracker.alerts.lookup key = some alert → alert.id.sequence ≤ tracker.sequence
  unique : ∀ first second one two, tracker.alerts.lookup first = some one →
    tracker.alerts.lookup second = some two → one.id = two.id → first = second
  emitted : ∀ emission ∈ emissions, emission.alert.id.sequence ≤ tracker.sequence
  history : ∀ key alert, tracker.alerts.lookup key = some alert →
    History alert (eventsOf alert.id emissions)
  paired : ∀ id, WellPaired (eventsOf id emissions)

theorem tracked_initial : Tracked {} [] where
  listed := by simp
  distinct := List.nodup_nil
  known := by simp
  unique := by simp
  emitted := by simp
  history := by simp
  paired := by simp [eventsOf, WellPaired]

theorem eventsOf_append {id : TraceId} {new : List Emission}
    (own : ∀ emission ∈ new, emission.alert.id = id) (other : TraceId) :
    eventsOf other (emissions ++ new) =
      eventsOf other emissions ++ if other = id then new.map (·.event) else [] := by
  unfold eventsOf
  rw [List.filter_append, List.map_append]
  congr 1
  split
  · next same =>
    rw [List.filter_eq_self.mpr]
    intro emission member
    simpa [same] using own emission member
  · next differs =>
    rw [List.filter_eq_nil_iff.mpr, List.map_nil]
    intro emission member wrong
    exact differs ((by simpa using wrong : emission.alert.id = other).symm.trans (own emission member))

/-- An alert takes a key, with an id that no other alert has. -/
theorem Tracked.put (tracked : Tracked tracker emissions) {key : String} {alert : AlertRecord}
    {new : List Emission} {order : List String} {sequence : Nat}
    (later : tracker.sequence ≤ sequence) (numbered : alert.id.sequence ≤ sequence)
    (own : ∀ emission ∈ new, emission.alert.id = alert.id)
    (mine : ∀ other old, tracker.alerts.lookup other = some old → old.id = alert.id → other = key)
    (history : History alert (eventsOf alert.id emissions ++ new.map (·.event)))
    (distinct : order.Nodup)
    (listed : ∀ other, other ∈ order ↔ other = key ∨ other ∈ tracker.alertOrder) :
    Tracked { tracker.put key alert with alertOrder := order, sequence } (emissions ++ new) := by
  have lookup : ∀ other, (tracker.put key alert).alerts.lookup other =
      if other = key then some alert else tracker.alerts.lookup other := by
    intro other
    rw [DiagnosticEventTracker.put, lookup_upsert]
    cases tracker.alerts.lookup key <;> rfl
  refine ⟨?_, distinct, ?_, ?_, ?_, ?_, ?_⟩
  · intro other
    simp only
    rw [listed, lookup, tracked.listed]
    split
    · next same => simp [same]
    · next differs => simp [differs]
  · intro other found held
    simp only at held
    rw [lookup] at held
    split at held
    · cases held
      exact numbered
    · exact (tracked.known other found held).trans later
  · intro first second one two held held' same
    simp only at held held'
    rw [lookup] at held held'
    split at held <;> split at held'
    · next left right => rw [left, right]
    · next left _ =>
      cases held
      exact left.trans (mine second two held' same.symm).symm
    · next right =>
      cases held'
      exact (mine first one held same).trans right.symm
    · exact tracked.unique first second one two held held' same
  · intro emission member
    rcases List.mem_append.mp member with old | added
    · exact (tracked.emitted emission old).trans later
    · rw [own emission added]
      exact numbered
  · intro other found held
    simp only at held
    rw [lookup] at held
    split at held
    · cases held
      rw [eventsOf_append own, if_pos rfl]
      exact history
    · next differs =>
      rw [eventsOf_append own, if_neg, List.append_nil]
      · exact tracked.history other found held
      · exact fun same => differs (mine other found held same)
  · intro id
    rw [eventsOf_append own]
    split
    · next same =>
      rw [same]
      exact history.wellPaired
    · rw [List.append_nil]
      exact tracked.paired id

theorem lookup_eraseAll (dropped : List String) (alerts : List (String × AlertRecord))
    (key : String) :
    (dropped.foldl (fun alerts key => eraseKey key alerts) alerts).lookup key =
      if key ∈ dropped then none else alerts.lookup key := by
  induction dropped generalizing alerts with
  | nil => simp
  | cons first rest ih =>
    rw [List.foldl_cons, ih]
    by_cases later : key ∈ rest
    · simp [later]
    · by_cases here : key = first
      · simp [here]
      · simp [later, here, lookup_eraseKey_ne here]

theorem lookup_trim (tracker : DiagnosticEventTracker) (retention : Nat) (key : String) :
    (tracker.trim retention).alerts.lookup key =
      if key ∈ tracker.alertOrder.drop retention then none else tracker.alerts.lookup key := by
  rw [DiagnosticEventTracker.trim, lookup_eraseAll]
  simp

/-- Dropping the oldest alerts. -/
theorem Tracked.trim (tracked : Tracked tracker emissions) (retention : Nat) :
    Tracked (tracker.trim retention) emissions := by
  have kept : ∀ key alert, (tracker.trim retention).alerts.lookup key = some alert →
      tracker.alerts.lookup key = some alert := by
    intro key alert found
    rw [lookup_trim] at found
    split at found
    · cases found
    · exact found
  -- A key of the order is in exactly one of its two parts.
  have parts : ∀ key, key ∈ tracker.alertOrder.take retention ↔
      key ∈ tracker.alertOrder ∧ key ∉ tracker.alertOrder.drop retention := by
    intro key
    have distinct := tracked.distinct
    rw [← List.take_append_drop retention tracker.alertOrder, List.nodup_append] at distinct
    constructor
    · intro member
      exact ⟨List.mem_of_mem_take member, fun dropped => distinct.2.2 key member key dropped rfl⟩
    · rintro ⟨member, spared⟩
      rw [← List.take_append_drop retention tracker.alertOrder] at member
      exact (List.mem_append.mp member).resolve_right spared
  refine ⟨?_, tracked.distinct.sublist (List.take_sublist _ _), ?_, ?_, tracked.emitted, ?_,
    tracked.paired⟩
  · intro key
    rw [lookup_trim]
    change key ∈ tracker.alertOrder.take retention ↔ _
    rw [parts, tracked.listed]
    split
    · next dropped => simp [dropped]
    · next spared => simp [spared]
  · intro key alert found
    exact tracked.known key alert (kept key alert found)
  · intro first second one two held held'
    exact tracked.unique first second one two (kept _ _ held) (kept _ _ held')
  · intro key alert found
    exact tracked.history key alert (kept key alert found)

/-- Only the running number matters to later ids. -/
theorem Tracked.later (tracked : Tracked tracker emissions) {after : DiagnosticEventTracker}
    (alerts : after.alerts = tracker.alerts) (order : after.alertOrder = tracker.alertOrder)
    (sequence : tracker.sequence ≤ after.sequence) : Tracked after emissions where
  listed := by rw [alerts, order]; exact tracked.listed
  distinct := by rw [order]; exact tracked.distinct
  known := by
    rw [alerts]
    exact fun key alert found => (tracked.known key alert found).trans sequence
  unique := by rw [alerts]; exact tracked.unique
  emitted := fun emission member => (tracked.emitted emission member).trans sequence
  history := by rw [alerts]; exact tracked.history
  paired := tracked.paired

end Tracking

section Steps

variable {policy : AlertPolicy} {tracker : DiagnosticEventTracker} {emissions : List Emission}
  {observation : Observation}

theorem trim_eq_self {retention : Nat} (short : tracker.alertOrder.length ≤ retention) :
    tracker.trim retention = tracker := by
  simp [DiagnosticEventTracker.trim, List.drop_eq_nil_of_le short, List.take_of_length_le short]

theorem recordEvent_spec (tracker : DiagnosticEventTracker) (observation : Observation) :
    (tracker.recordEvent observation).alerts = tracker.alerts ∧
      (tracker.recordEvent observation).alertOrder = tracker.alertOrder ∧
      tracker.sequence ≤ (tracker.recordEvent observation).sequence := by
  unfold DiagnosticEventTracker.recordEvent
  simp only
  split
  · exact ⟨rfl, rfl, Nat.le_refl _⟩
  · split
    · exact ⟨rfl, rfl, Nat.le_refl _⟩
    · exact ⟨rfl, rfl, Nat.le_succ _⟩

/-- What a tracker with room for an alert keeps. -/
structure Retains (policy : AlertPolicy) (current : Observed) : Prop where
  tracked : Tracked current.1 current.2
  short : current.1.alertOrder.length ≤ policy.retention

/-- The keys that a new alert pushes out. -/
def pushedOut (policy : AlertPolicy) (tracker : DiagnosticEventTracker) (key : String) :
    List String :=
  (key :: tracker.alertOrder.filter (· ≠ key)).drop policy.retention

/-- Everything an update of the alerts can do. -/
inductive Updated (policy : AlertPolicy) (tracker : DiagnosticEventTracker)
    (observation : Observation) (after : Observed) : Prop
  | quiet (alerts : ∀ key, after.1.alerts.lookup key = tracker.alerts.lookup key)
      (silent : after.2 = []) (kept : drops policy tracker observation = false)
  | changed (old alert : AlertRecord) (before : tracker.alerts.lookup observation.key = some old)
      (same : alert.id = old.id) (own : ∀ emission ∈ after.2, emission.alert.id = alert.id)
      (alerts : ∀ key, after.1.alerts.lookup key =
        if key = observation.key then some alert else tracker.alerts.lookup key)
      (kept : drops policy tracker observation = false)
  | raised (alert : AlertRecord) (fresh : alert.id.sequence = tracker.sequence + 1)
      (own : ∀ emission ∈ after.2, emission.alert.id = alert.id)
      (alerts : ∀ key, after.1.alerts.lookup key =
        if key ∈ pushedOut policy tracker observation.key then none
        else if key = observation.key then some alert else tracker.alerts.lookup key)
      (inside : observation.key ∉ pushedOut policy tracker observation.key)
      (decided : drops policy tracker observation = true ↔ ∃ key, openAt tracker key = true ∧
        (key = observation.key ∨ key ∈ pushedOut policy tracker observation.key))

variable (retains : Retains policy (tracker, emissions))
include retains

theorem updated_changed {old : AlertRecord}
    (before : tracker.alerts.lookup observation.key = some old)
    {after : AlertRecord × List Emission} (follows : Follows old after) :
    Retains policy ((tracker.put observation.key after.1).trim policy.retention,
        emissions ++ after.2) ∧
      (drops policy tracker observation = false → Updated policy tracker observation
          ((tracker.put observation.key after.1).trim policy.retention, after.2)) := by
  have tracked := retains.tracked
  have short : (tracker.put observation.key after.1).alertOrder.length ≤ policy.retention :=
    retains.short
  have inOrder : observation.key ∈ tracker.alertOrder := by
    rw [tracked.listed, before]
    rfl
  rw [trim_eq_self short]
  refine ⟨⟨?_, short⟩, ?_⟩
  · refine tracked.put (Nat.le_refl _) ?_ ?_ ?_ ?_ tracked.distinct ?_
    · rw [follows.same]
      exact tracked.known _ old before
    · rw [follows.same]
      exact follows.own
    · intro other found held same
      exact tracked.unique other _ found old held before (same.trans follows.same)
    · rw [follows.same]
      exact follows.history _ (tracked.history _ old before)
    · intro other
      constructor
      · exact .inr
      · rintro (rfl | member)
        · exact inOrder
        · exact member
  · intro kept
    refine .changed old after.1 before follows.same ?_ ?_ kept
    · intro emission member
      exact (follows.own emission member).trans follows.same.symm
    · intro key
      simp only [DiagnosticEventTracker.put]
      rw [lookup_upsert, before]
      rfl

theorem pushedOut_eq (positive : 1 ≤ policy.retention) (key : String) :
    pushedOut policy tracker key =
      if (tracker.alerts.lookup key).isSome then []
      else tracker.alertOrder.drop (policy.retention - 1) := by
  have listed := retains.tracked.listed key
  have short : tracker.alertOrder.length ≤ policy.retention := retains.short
  unfold pushedOut
  split
  · next known =>
    -- Moving a key to the front does not make the order longer.
    have member := listed.mpr known
    apply List.drop_eq_nil_of_le
    have fewer : (tracker.alertOrder.filter (· ≠ key)).length < tracker.alertOrder.length :=
      List.length_filter_lt_length_iff_exists.mpr ⟨key, member, by simp⟩
    rw [List.length_cons]
    omega
  · next unknown =>
    have absent : key ∉ tracker.alertOrder := fun member => unknown (listed.mp member)
    have all : tracker.alertOrder.filter (· ≠ key) = tracker.alertOrder := by
      apply List.filter_eq_self.mpr
      intro other member
      simp only [decide_eq_true_eq]
      rintro rfl
      exact absent member
    obtain ⟨room, same⟩ := Nat.exists_eq_succ_of_ne_zero (by omega : policy.retention ≠ 0)
    rw [all, same]
    rfl

variable (positive : 1 ≤ policy.retention) (active : observation.failure.active = true)
  (coded : observation.failure.code.isEmpty = false)
  (replaced : ∀ old, tracker.alerts.lookup observation.key = some old → old.status = .resolved ∨ old.code ≠ observation.failure.code)
include positive active coded replaced

theorem drops_iff_pushedOut :
    drops policy tracker observation = true ↔ ∃ key, openAt tracker key = true ∧
      (key = observation.key ∨ key ∈ pushedOut policy tracker observation.key) := by
  rw [pushedOut_eq retains positive]
  cases before : tracker.alerts.lookup observation.key with
  | some old =>
    have here : openAt tracker observation.key = old.status.isOpen := by
      simp [openAt, before]
    simp only [drops, active, coded, before, Bool.not_false, Bool.true_and, Bool.and_eq_true,
      bne_iff_ne, Option.isSome_some, if_true, List.not_mem_nil, or_false]
    constructor
    · rintro ⟨isOpen, -⟩
      exact ⟨observation.key, here.trans isOpen, rfl⟩
    · rintro ⟨key, isOpen, rfl⟩
      rw [here] at isOpen
      refine ⟨isOpen, ?_⟩
      -- An open alert is not resolved, so it is replaced for its code.
      rcases replaced old before with resolved | differs
      · simp [resolved, AlertStatus.isOpen] at isOpen
      · exact differs
  | none =>
    have here : openAt tracker observation.key = false := by simp [openAt, before]
    simp only [drops, active, coded, before, Bool.not_false, Bool.true_and, List.any_eq_true,
      Option.isSome_none, Bool.false_eq_true, if_false]
    constructor
    · rintro ⟨key, dropped, isOpen⟩
      exact ⟨key, isOpen, .inr dropped⟩
    · rintro ⟨key, isOpen, same | dropped⟩
      · rw [same, here] at isOpen
        cases isOpen
      · exact ⟨key, dropped, isOpen⟩

/-- A new alert is raised. -/
theorem updated_raised :
    let raised := DiagnosticEventTracker.updateAlert.raise policy observation tracker
    Retains policy (raised.1.trim policy.retention, emissions ++ raised.2) ∧
      Updated policy tracker observation (raised.1.trim policy.retention, raised.2) := by
  intro raised
  have tracked := retains.tracked
  let id : TraceId := ⟨observation.clock.alertId, tracker.sequence + 1⟩
  have follows := follows_advance policy observation.clock.now
    (AlertRecord.raise policy observation id)
  have named : ((AlertRecord.raise policy observation id).advance policy
      observation.clock.now).1.id = id := follows.same
  -- The id is new, so nothing was emitted for it and no alert has it.
  have unused : eventsOf id emissions = [] := by
    rw [eventsOf, List.map_eq_nil_iff, List.filter_eq_nil_iff]
    intro emission member same
    have bound := tracked.emitted emission member
    rw [of_decide_eq_true same] at bound
    simp only [id] at bound
    omega
  have put : Tracked raised.1 (emissions ++ raised.2) := by
    refine tracked.put (Nat.le_succ _) ?_ ?_ ?_ ?_ ?_ ?_
    · rw [named]
    · rw [named]
      exact follows.own
    · intro other old held same
      have bound := tracked.known other old held
      rw [same, named] at bound
      simp only [id] at bound
      omega
    · rw [named, unused]
      exact follows.history [] ⟨rfl, rfl⟩
    · rw [List.nodup_cons]
      exact ⟨by simp, tracked.distinct.filter _⟩
    · intro other
      by_cases same : other = observation.key <;> simp [same]
  have order : raised.1.alertOrder = observation.key ::
      tracker.alertOrder.filter (· ≠ observation.key) := rfl
  have inside : observation.key ∉ pushedOut policy tracker observation.key := by
    have nodup := put.distinct
    rw [order, List.nodup_cons] at nodup
    obtain ⟨room, same⟩ := Nat.exists_eq_succ_of_ne_zero (by omega : policy.retention ≠ 0)
    rw [pushedOut, same, List.drop_succ_cons]
    exact fun member => nodup.1 (List.mem_of_mem_drop member)
  refine ⟨⟨put.trim _, List.length_take_le _ _⟩, .raised
    ((AlertRecord.raise policy observation id).advance policy observation.clock.now).1 ?_ ?_ ?_ inside
    (drops_iff_pushedOut retains positive active coded replaced)⟩
  · rw [named]
  · rw [named]
    exact follows.own
  · intro key
    have lookup : raised.1.alerts.lookup key = if key = observation.key then
        some ((AlertRecord.raise policy observation id).advance policy observation.clock.now).1
        else tracker.alerts.lookup key := by
      change (AssocList.upsert observation.key _ _ tracker.alerts).lookup key = _
      rw [lookup_upsert]
      cases tracker.alerts.lookup observation.key <;> rfl
    simp only
    rw [lookup_trim, order, lookup]
    rfl

omit positive active coded replaced

/-- An update that leaves the alerts alone. -/
theorem updated_quiet (kept : drops policy tracker observation = false) :
    Retains policy (tracker.trim policy.retention, emissions ++ []) ∧
      Updated policy tracker observation (tracker.trim policy.retention, []) := by
  rw [trim_eq_self retains.short, List.append_nil]
  exact ⟨retains, .quiet (fun _ => rfl) rfl kept⟩

theorem updateAlert_spec (positive : 1 ≤ policy.retention)
    (coded : observation.failure.code.isEmpty = false) :
    Retains policy ((tracker.updateAlert policy observation).1,
        emissions ++ (tracker.updateAlert policy observation).2) ∧
      Updated policy tracker observation (tracker.updateAlert policy observation) := by
  have raised := @updated_raised policy tracker emissions observation retains positive
  simp only at raised
  simp only [DiagnosticEventTracker.updateAlert]
  cases before : tracker.alerts.lookup observation.key with
  | some alert =>
    cases active : observation.failure.active with
    | true =>
      by_cases replaced : alert.status = .resolved ∨ alert.code ≠ observation.failure.code
      · simp only [if_true, if_pos replaced]
        refine raised active coded ?_
        intro old found
        rw [before] at found
        cases found
        exact replaced
      · simp only [if_true, if_neg replaced]
        push Not at replaced
        have follows := follows_advance policy observation.clock.now (alert.again observation.clock.now)
        obtain ⟨retains', updated⟩ := updated_changed retains before
          ⟨follows.same, follows.own, fun events history => follows.history events history⟩
        exact ⟨retains', updated (by simp [drops, before, replaced.2])⟩
    | false =>
      have kept : drops policy tracker observation = false := by simp [drops, active]
      by_cases live : alert.status ≠ .resolved
      · simp only [Bool.false_eq_true, if_false, if_pos live]
        obtain ⟨retains', updated⟩ := updated_changed retains before
          (follows_resolve observation.clock.now live)
        exact ⟨retains', updated kept⟩
      · simp only [Bool.false_eq_true, if_false, if_neg live]
        exact updated_quiet retains kept
  | none =>
    cases active : observation.failure.active with
    | true =>
      simp only [if_true]
      refine raised active coded ?_
      intro old found
      rw [before] at found
      cases found
    | false =>
      simp only [Bool.false_eq_true, if_false]
      exact updated_quiet retains (by simp [drops, active])

omit retains

theorem Updated.congr {after after' : Observed} (updated : Updated policy tracker observation after)
    (alerts : after'.1.alerts = after.1.alerts) (same : after'.2 = after.2) :
    Updated policy tracker observation after' := by
  cases updated with
  | quiet alerts' silent kept => exact .quiet (by rw [alerts]; exact alerts') (same.trans silent) kept
  | changed old alert before same' own alerts' kept =>
    exact .changed old alert before same' (by rw [same]; exact own) (by rw [alerts]; exact alerts') kept
  | raised alert fresh own alerts' inside decided =>
    exact .raised alert fresh (by rw [same]; exact own) (by rw [alerts]; exact alerts') inside decided

theorem observe_spec (retains : Retains policy (tracker, emissions))
    (positive : 1 ≤ policy.retention) (observation : Observation) :
    Retains policy (observing policy (tracker, emissions) observation) ∧
      Updated policy tracker observation (tracker.observe policy observation) := by
  unfold observing DiagnosticEventTracker.observe
  cases coded : observation.failure.code.isEmpty with
  | true =>
    simp only [if_true, List.append_nil]
    exact ⟨retains, .quiet (fun _ => rfl) rfl (by simp [drops, coded])⟩
  | false =>
    simp only [Bool.false_eq_true, if_false]
    obtain ⟨retains', updated⟩ := updateAlert_spec retains positive coded
    obtain ⟨alerts, order, sequence⟩ :=
      recordEvent_spec (tracker.updateAlert policy observation).1 observation
    refine ⟨⟨retains'.tracked.later alerts order sequence, ?_⟩, updated.congr alerts rfl⟩
    simp only
    rw [order]
    exact retains'.short

end Steps

section Coverage

variable {policy : AlertPolicy} {tracker : DiagnosticEventTracker} {emissions : List Emission}
  {observation : Observation}

/-- Every open alert is retained. -/
def Covered (current : Observed) : Prop :=
  ∀ id, OpenIn current.2 id →
    ∃ key alert, current.1.alerts.lookup key = some alert ∧ alert.id = id

theorem pairsUp_iff_covered {current : Observed} (tracked : Tracked current.1 current.2) :
    PairsUp current ↔ Covered current := by
  constructor
  · intro pairs id isOpen
    obtain ⟨key, alert, held, same, -⟩ := (pairs.retained id).mp isOpen
    exact ⟨key, alert, held, same⟩
  · intro covered
    refine ⟨tracked.paired, ?_⟩
    intro id
    constructor
    · intro isOpen
      obtain ⟨key, alert, held, rfl⟩ := covered id isOpen
      exact ⟨key, alert, held, rfl, (tracked.history key alert held).open_iff.mp isOpen⟩
    · rintro ⟨key, alert, held, rfl, isOpen⟩
      exact (tracked.history key alert held).open_iff.mpr isOpen

theorem openIn_append {id other : TraceId} {new : List Emission}
    (own : ∀ emission ∈ new, emission.alert.id = id) (differs : other ≠ id) :
    OpenIn (emissions ++ new) other ↔ OpenIn emissions other := by
  rw [OpenIn, eventsOf_append own, if_neg differs, List.append_nil, OpenIn]

theorem openAt_of_openIn (tracked : Tracked tracker emissions) {key : String} {alert : AlertRecord}
    (held : tracker.alerts.lookup key = some alert) :
    OpenIn emissions alert.id ↔ openAt tracker key = true := by
  rw [OpenIn, (tracked.history key alert held).open_iff]
  simp [openAt, held]

/-- An update keeps the open alerts covered exactly if it drops none of them. -/
theorem covered_iff (tracked : Tracked tracker emissions) (covered : Covered (tracker, emissions))
    {after : Observed} (updated : Updated policy tracker observation after) :
    Covered (after.1, emissions ++ after.2) ↔ drops policy tracker observation = false := by
  cases updated with
  | quiet alerts silent kept =>
    refine iff_of_true ?_ kept
    intro id isOpen
    simp only [silent, List.append_nil] at isOpen
    obtain ⟨key, alert, held, same⟩ := covered id isOpen
    exact ⟨key, alert, (alerts key).trans held, same⟩
  | changed old alert before same own alerts kept =>
    refine iff_of_true ?_ kept
    intro id isOpen
    by_cases mine : id = alert.id
    · exact ⟨observation.key, alert, by rw [alerts, if_pos rfl], mine.symm⟩
    · obtain ⟨key, other, held, rfl⟩ := covered id ((openIn_append own mine).mp isOpen)
      refine ⟨key, other, ?_, rfl⟩
      -- The alert that changes has the other id.
      rw [alerts, if_neg, held]
      rintro rfl
      rw [before] at held
      cases held
      exact mine same.symm
  | raised alert fresh own alerts inside decided =>
    have newId : ∀ key old, tracker.alerts.lookup key = some old → old.id ≠ alert.id := by
      intro key old held same
      have bound := tracked.known key old held
      rw [same] at bound
      omega
    constructor
    · intro covered'
      by_contra dropped
      obtain ⟨key, isOpen, gone⟩ := decided.mp (by simpa using dropped)
      obtain ⟨old, held, -⟩ := (Option.any_eq_true _ _).mp isOpen
      have before := (openAt_of_openIn tracked held).mpr isOpen
      obtain ⟨key', found, held', same⟩ :=
        covered' old.id ((openIn_append own (newId key old held)).mpr before)
      -- Whoever holds the id now held it before, under the key that is gone.
      simp only at held'
      rw [alerts] at held'
      split at held'
      · cases held'
      · next spared =>
        split at held'
        · cases held'
          exact newId key old held same.symm
        · next notKey =>
          have where' := tracked.unique key' key found old held' held same
          rcases gone with here | pushed
          · exact notKey (where'.trans here)
          · exact spared (where' ▸ pushed)
    · intro kept id isOpen
      by_cases mine : id = alert.id
      · exact ⟨observation.key, alert, by rw [alerts, if_neg inside, if_pos rfl], mine.symm⟩
      · obtain ⟨key, other, held, rfl⟩ := covered id ((openIn_append own mine).mp isOpen)
        have wasOpen := (openAt_of_openIn tracked held).mp ((openIn_append own mine).mp isOpen)
        have stays : ¬(key = observation.key ∨ key ∈ pushedOut policy tracker observation.key) := by
          intro gone
          rw [decided.mpr ⟨key, wasOpen, gone⟩] at kept
          cases kept
        push Not at stays
        exact ⟨key, other, by rw [alerts, if_neg stays.2, if_neg stays.1, held], rfl⟩

/-- After every call the notifications pair up exactly if no observation drops an open alert. -/
theorem notifications_pair_up_iff (policy : AlertPolicy) (positive : 1 ≤ policy.retention)
    (observations : List Observation) :
    Along (observing policy)
        (fun current observation => PairsUp (observing policy current observation)) ({}, [])
        observations ↔
      Along (observing policy)
        (fun current observation => drops policy current.1 observation = false) ({}, [])
        observations := by
  have start : Retains policy (({}, []) : Observed) ∧ Covered (({}, []) : Observed) :=
    ⟨⟨tracked_initial, Nat.zero_le _⟩, by simp [Covered, OpenIn, eventsOf]⟩
  have same : ∀ (current : Observed) (observation : Observation),
      Retains policy current ∧ Covered current →
      (PairsUp (observing policy current observation) ↔
        drops policy current.1 observation = false) := by
    rintro current observation ⟨retains, covered⟩
    obtain ⟨retains', updated⟩ := observe_spec retains positive observation
    rw [pairsUp_iff_covered retains'.tracked]
    exact covered_iff retains.tracked covered updated
  have kept : ∀ (current : Observed) (observation : Observation),
      Retains policy current ∧ Covered current → drops policy current.1 observation = false →
      Retains policy (observing policy current observation) ∧
        Covered (observing policy current observation) := by
    rintro current observation ⟨retains, covered⟩ spared
    obtain ⟨retains', updated⟩ := observe_spec retains positive observation
    exact ⟨retains', (covered_iff retains.tracked covered updated).mpr spared⟩
  exact Along.congr kept same start observations

def sampleObservation (code : String) (active : Bool) (now : Int) : Observation :=
  ⟨"device", "one", { code, active }, { now }⟩

/-- A failure that comes and goes. -/
theorem notifications_pair_up_single :
    Along (observing {})
      (fun current observation => PairsUp (observing {} current observation)) ({}, [])
      [sampleObservation "timeout" true 10, sampleObservation "timeout" false 20] :=
  (notifications_pair_up_iff {} (by decide) _).mpr
    ⟨by decide +kernel, by decide +kernel, trivial⟩

/-- A failure whose code changes while it is active. -/
def changingCode : Observed :=
  [sampleObservation "timeout" true 10, sampleObservation "refused" true 20].foldl
    (observing {}) ({}, [])

/-- The first alert was opened, and is neither resolved nor retained. -/
theorem replaced_alert_stays_open :
    eventsOf ⟨10, 1⟩ changingCode.2 = [.opened] ∧
      changingCode.1.alerts.map (·.2.id) = [⟨20, 3⟩] ∧ ¬PairsUp changingCode := by
  have opened : eventsOf ⟨10, 1⟩ changingCode.2 = [.opened] := by decide +kernel
  have kept : changingCode.1.alerts.map (·.2.id) = [⟨20, 3⟩] := by decide +kernel
  refine ⟨opened, kept, ?_⟩
  intro pairs
  obtain ⟨key, alert, held, same, -⟩ := (pairs.retained ⟨10, 1⟩).mp (by
    rw [OpenIn, opened]
    decide)
  have member : alert.id ∈ changingCode.1.alerts.map (·.2.id) := by
    obtain ⟨before, after, split, -⟩ := List.lookup_eq_some_iff.mp held
    rw [split]
    simp
  rw [kept, same] at member
  exact absurd member (by decide)

end Coverage

end PocoDDS.Monitoring
