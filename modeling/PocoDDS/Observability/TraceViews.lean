import PocoDDS.Lib.Run
import PocoDDS.Observability.TraceStore

/-! When the summary of a trace in memory and its row in the database say the same. -/

namespace PocoDDS.Observability

open AssocList RunLogic

/-- The snapshots of one trace, oldest first. -/
def updatesOf (traceId : String) (calls : List UpsertCall) : List SpanSnapshot :=
  (calls.map (·.span)).filter (·.traceId = traceId)

/-- The last snapshot of every span, in the order in which the spans were first seen. -/
def latest (updates : List SpanSnapshot) : List SpanSnapshot :=
  updates.foldl (fun spans span => putSpan span spans) []

/-- Whether a call pushes an entry out of memory. -/
def evicts (store : TraceStore) (call : UpsertCall) : Bool :=
  decide (store.capacity < (putSpan call.span store.spans).length)

/-- What both views report of a trace. -/
def SameFacts (summary row : TraceSummary) : Prop :=
  summary.status = row.status ∧
    summary.startedUnixMicroseconds = row.startedUnixMicroseconds ∧
    summary.durationNanoseconds = row.durationNanoseconds ∧
    summary.stepCount = row.stepCount ∧
    summary.failedOperation = row.failedOperation

def failed (span : SpanSnapshot) : Bool := span.status == "failed"

def running (span : SpanSnapshot) : Bool := span.status == "running"

/-- The first status that is not empty. -/
def firstResult (spans : List SpanSnapshot) : String :=
  ((spans.map (·.status)).find? (· ≠ "")).getD ""

def lastFailure (spans : List SpanSnapshot) : Option String :=
  ((spans.filter failed).getLast?).map (·.operation)

/-- What the history of a trace must keep for its last snapshots to sum it up. -/
structure InStep (updates current : List SpanSnapshot) : Prop where
  /-- A failure that was ever reported is still the result of some span. -/
  failure : updates.any failed = true → current.any failed = true
  /-- Without a failure, the last update has the status of the trace. -/
  status : updates.any failed = false → ∀ last, updates.getLast? = some last →
    last.status = if current.any running = true then "running" else firstResult current
  /-- The earliest start is still that of some span, of the newest one if it is zero. -/
  start : ∃ span ∈ current,
    (∀ update ∈ updates, span.startedUnixMicroseconds ≤ update.startedUnixMicroseconds) ∧
    (span.startedUnixMicroseconds = 0 → current.getLast? = some span)
  /-- The longest duration is not negative, and is zero or still that of some span. -/
  duration : ∃ update ∈ updates, 0 ≤ update.durationNanoseconds ∧
    (∀ other ∈ updates, other.durationNanoseconds ≤ update.durationNanoseconds) ∧
    (update.durationNanoseconds = 0 ∨
      ∃ span ∈ current, span.durationNanoseconds = update.durationNanoseconds)
  /-- The failure reported last and the newest failed span are of the same operation. -/
  operation : lastFailure updates = lastFailure current

section Latest

variable {traceId : String}

/-- What identifies a span. -/
def SpanSnapshot.key (span : SpanSnapshot) : String × String := (span.traceId, span.spanId)

theorem sameSpan_iff (current span : SpanSnapshot) :
    sameSpan current span = true ↔ current.key = span.key := by
  simp [sameSpan, SpanSnapshot.key]

theorem putSpan_cons (span current : SpanSnapshot) (rest : List SpanSnapshot) :
    putSpan span (current :: rest) =
      if sameSpan current span then span :: rest else current :: putSpan span rest := rfl

theorem latest_append (updates : List SpanSnapshot) (span : SpanSnapshot) :
    latest (updates ++ [span]) = putSpan span (latest updates) := by
  simp [latest]

theorem mem_putSpan {item span : SpanSnapshot} {spans : List SpanSnapshot}
    (member : item ∈ putSpan span spans) : item = span ∨ item ∈ spans := by
  induction spans with
  | nil => exact .inl (List.mem_singleton.mp member)
  | cons current rest ih =>
    unfold putSpan at member
    split at member
    · rcases List.mem_cons.mp member with new | old
      · exact .inl new
      · exact .inr (List.mem_cons_of_mem _ old)
    · rcases List.mem_cons.mp member with head | tail
      · exact .inr (head ▸ List.mem_cons_self)
      · exact (ih tail).imp_right (List.mem_cons_of_mem _)

theorem mem_of_mem_latest {item : SpanSnapshot} {updates : List SpanSnapshot}
    (member : item ∈ latest updates) : item ∈ updates := by
  induction updates using List.reverseRecOn with
  | nil => cases member
  | append_singleton earlier span ih =>
    rw [latest_append] at member
    rcases mem_putSpan member with rfl | old
    · simp
    · exact List.mem_append_left _ (ih old)

theorem map_key_putSpan (span : SpanSnapshot) (spans : List SpanSnapshot) :
    (putSpan span spans).map SpanSnapshot.key =
      if span.key ∈ spans.map SpanSnapshot.key then spans.map SpanSnapshot.key
      else spans.map SpanSnapshot.key ++ [span.key] := by
  induction spans with
  | nil => simp [putSpan]
  | cons current rest ih =>
    unfold putSpan
    by_cases same : sameSpan current span = true
    · rw [if_pos same, List.map_cons, List.map_cons, (sameSpan_iff _ _).mp same]
      simp
    · have differs : span.key ≠ current.key := fun equal => same ((sameSpan_iff _ _).mpr equal.symm)
      rw [if_neg same, List.map_cons, ih]
      split
      · next known => rw [if_pos (by simpa using .inr (by simpa using known))]; rfl
      · next unknown => rw [if_neg (by simpa [differs] using unknown)]; rfl

theorem filter_putSpan (span : SpanSnapshot) (spans : List SpanSnapshot) :
    (putSpan span spans).filter (·.traceId = traceId) =
      if span.traceId = traceId then putSpan span (spans.filter (·.traceId = traceId))
      else spans.filter (·.traceId = traceId) := by
  induction spans with
  | nil => by_cases mine : span.traceId = traceId <;> simp [putSpan, mine]
  | cons current rest ih =>
    rw [putSpan_cons]
    by_cases same : sameSpan current span = true
    · -- The replaced entry is of the same trace as the new one.
      have alike : current.traceId = span.traceId := by
        simp only [sameSpan, Bool.and_eq_true, beq_iff_eq] at same
        exact same.1
      by_cases mine : span.traceId = traceId
      · simp [same, alike, mine, putSpan_cons]
      · simp [same, alike, mine]
    · rw [if_neg same]
      by_cases mine : span.traceId = traceId <;> by_cases other : current.traceId = traceId <;>
        simp [mine, other, ih, putSpan_cons, same]

end Latest

/-- What a summary says of the spans it was made from. -/
structure Sums (spans : List SpanSnapshot) (summary : TraceSummary) : Prop where
  steps : summary.stepCount = spans.length
  status : summary.status = if spans.any failed = true then "failed"
    else if spans.any running = true then "running" else firstResult spans
  operation : summary.failedOperation = (lastFailure spans).getD ""
  held : spans ≠ [] → ∃ span ∈ spans, span.startedUnixMicroseconds = summary.startedUnixMicroseconds
  unset : spans = [] → summary.startedUnixMicroseconds = 0
  least : ∀ span ∈ spans, span.startedUnixMicroseconds ≠ 0 →
    (∀ other ∈ spans, span.startedUnixMicroseconds ≤ other.startedUnixMicroseconds) →
    summary.startedUnixMicroseconds = span.startedUnixMicroseconds
  zero : (∀ span ∈ spans, 0 ≤ span.startedUnixMicroseconds) → ∀ last, spans.getLast? = some last →
    (summary.startedUnixMicroseconds = 0 ↔ last.startedUnixMicroseconds = 0)
  longest : 0 ≤ summary.durationNanoseconds ∧
    (∀ span ∈ spans, span.durationNanoseconds ≤ summary.durationNanoseconds) ∧
    (summary.durationNanoseconds = 0 ∨
      ∃ span ∈ spans, span.durationNanoseconds = summary.durationNanoseconds)

theorem firstResult_cases (spans : List SpanSnapshot) :
    firstResult spans = "" ∨ ∃ span ∈ spans, span.status = firstResult spans := by
  unfold firstResult
  cases found : (spans.map (·.status)).find? (· ≠ "") with
  | none => exact .inl rfl
  | some status =>
    obtain ⟨span, member, same⟩ := List.mem_map.mp (List.mem_of_find?_eq_some found)
    exact .inr ⟨span, member, same⟩

theorem firstResult_ne_failed {spans : List SpanSnapshot} (none' : spans.any failed = false) :
    firstResult spans ≠ "failed" := by
  intro wrong
  rcases firstResult_cases spans with empty | ⟨span, member, same⟩
  · rw [wrong] at empty
    exact absurd empty (by decide)
  · have clean := List.any_eq_false.mp none' span member
    simp [failed, same, wrong] at clean

theorem firstResult_append (spans : List SpanSnapshot) (span : SpanSnapshot) :
    firstResult (spans ++ [span]) =
      if firstResult spans = "" then span.status else firstResult spans := by
  unfold firstResult
  rw [List.map_append, List.find?_append]
  cases found : (spans.map (·.status)).find? (· ≠ "") with
  | none =>
    by_cases empty : span.status = "" <;> simp [empty]
  | some status =>
    have nonempty : status ≠ "" := by simpa using List.find?_some found
    simp [nonempty]

theorem lastFailure_append (spans : List SpanSnapshot) (span : SpanSnapshot) :
    lastFailure (spans ++ [span]) =
      if span.status = "failed" then some span.operation else lastFailure spans := by
  unfold lastFailure
  by_cases bad : span.status = "failed" <;> simp [List.filter_append, failed, bad]

theorem Sums.empty : Sums [] {} where
  steps := rfl
  status := rfl
  operation := rfl
  held := fun wrong => absurd rfl wrong
  unset := fun _ => rfl
  least := by simp
  zero := by simp
  longest := ⟨by simp, by simp, .inl rfl⟩

/-- One more span. -/
theorem Sums.add {spans : List SpanSnapshot} {summary : TraceSummary} (sums : Sums spans summary)
    (span : SpanSnapshot) : Sums (spans ++ [span]) (summary.add span) where
  steps := by simp [TraceSummary.add, sums.steps]
  status := by
    have old := sums.status
    -- The old status is a failure exactly if some old span failed.
    have clean : spans.any failed = false → summary.status ≠ "failed" := by
      intro none'
      rw [old, none']
      simp only [Bool.false_eq_true, if_false]
      split
      · decide
      · exact firstResult_ne_failed none'
    simp only [TraceSummary.add, List.any_append, List.any_cons, List.any_nil, Bool.or_false,
      firstResult_append]
    by_cases bad : span.status = "failed"
    · simp [bad, failed]
    · have skipped : failed span = false := by simpa [failed] using bad
      rw [if_neg bad, skipped, Bool.or_false]
      cases some' : spans.any failed with
      | true =>
        have stays : summary.status = "failed" := by rw [old, some']; rfl
        simp [stays]
      | false =>
        have moving := clean some'
        by_cases going : span.status = "running"
        · have runs : running span = true := by simpa [running] using going
          simp [moving, going, runs]
        · have idle : running span = false := by simpa [running] using going
          rw [if_neg (fun both => going both.2), idle, Bool.or_false]
          cases busy : spans.any running with
          | true =>
            have stays : summary.status = "running" := by rw [old, some', busy]; rfl
            simp [stays]
          | false =>
            have same : summary.status = firstResult spans := by rw [old, some', busy]; rfl
            simp [same]
  operation := by
    rw [lastFailure_append]
    by_cases bad : span.status = "failed" <;> simp [TraceSummary.add, bad, sums.operation]
  held := by
    intro _
    simp only [TraceSummary.add]
    split
    · exact ⟨span, by simp, rfl⟩
    · next kept =>
      push Not at kept
      have nonempty : spans ≠ [] := fun empty => kept.1 (sums.unset empty)
      obtain ⟨other, member, same⟩ := sums.held nonempty
      exact ⟨other, List.mem_append_left _ member, same⟩
  unset := by simp
  least := by
    intro first member nonzero below
    have belowOld : ∀ other ∈ spans,
        first.startedUnixMicroseconds ≤ other.startedUnixMicroseconds :=
      fun other old => below other (List.mem_append_left _ old)
    have belowNew := below span (by simp)
    simp only [TraceSummary.add]
    rcases List.mem_append.mp member with old | new
    · have same := sums.least first old nonzero belowOld
      rw [if_neg (by rw [same]; omega), same]
    · rw [List.mem_singleton.mp new] at belowOld ⊢
      split
      · rfl
      · next kept =>
        -- The old start is that of a span, and none starts before the new one.
        push Not at kept
        obtain ⟨other, held, same⟩ := sums.held fun empty => kept.1 (sums.unset empty)
        have bound := belowOld other held
        omega
  zero := by
    intro positive last found
    have same : last = span := by simpa using found.symm
    have positiveNew := positive span (by simp)
    simp only [TraceSummary.add]
    rw [same]
    split
    · rfl
    · next kept =>
      push Not at kept
      obtain ⟨other, held, same⟩ := sums.held fun empty => kept.1 (sums.unset empty)
      have positiveOld := positive other (List.mem_append_left _ held)
      omega
  longest := by
    obtain ⟨positive, above, attained⟩ := sums.longest
    simp only [TraceSummary.add]
    refine ⟨by omega, ?_, ?_⟩
    · intro other member
      rcases List.mem_append.mp member with old | new
      · have bound := above other old
        omega
      · rw [List.mem_singleton.mp new]
        omega
    · rcases le_total span.durationNanoseconds summary.durationNanoseconds with shorter | longer
      · rw [max_eq_left shorter]
        refine attained.imp_right ?_
        rintro ⟨other, member, same⟩
        exact ⟨other, List.mem_append_left _ member, same⟩
      · rw [max_eq_right longer]
        exact .inr ⟨span, by simp, rfl⟩

theorem sums_foldl (spans : List SpanSnapshot) : Sums spans (spans.foldl TraceSummary.add {}) := by
  induction spans using List.reverseRecOn with
  | nil => exact Sums.empty
  | append_singleton earlier span ih =>
    rw [List.foldl_append]
    exact ih.add span

/-- What a row says of the updates it was merged from. -/
structure Describes (updates : List SpanSnapshot) (row : TraceRow) : Prop where
  steps : row.stepCount = (latest updates).length
  failure : row.status = "failed" ↔ updates.any failed = true
  last : row.status ≠ "failed" → ∀ last, updates.getLast? = some last → row.status = last.status
  operation : row.failedOperation = (lastFailure updates).getD ""
  earliest : (∃ update ∈ updates, update.startedUnixMicroseconds = row.startedUs) ∧
    ∀ update ∈ updates, row.startedUs ≤ update.startedUnixMicroseconds
  longest : (∃ update ∈ updates, update.durationNanoseconds = row.durationNs) ∧
    ∀ update ∈ updates, update.durationNanoseconds ≤ row.durationNs

theorem describes_insert (span : SpanSnapshot) : Describes [span] (.insert span) where
  steps := rfl
  failure := by simp [TraceRow.insert, failed]
  last := by simp [TraceRow.insert]
  operation := by
    have single := lastFailure_append [] span
    rw [List.nil_append] at single
    rw [single]
    by_cases bad : span.status = "failed" <;> simp [TraceRow.insert, bad, lastFailure]
  earliest := by simp [TraceRow.insert]
  longest := by simp [TraceRow.insert]

/-- One more update of a known trace. -/
theorem Describes.update {updates : List SpanSnapshot} {row : TraceRow}
    (known : Describes updates row) (span : SpanSnapshot) {count : Nat}
    (counted : count = (latest (updates ++ [span])).length) :
    Describes (updates ++ [span]) (row.update span count) where
  steps := counted
  failure := by
    by_cases old : row.status = "failed"
    · have some' := known.failure.mp old
      simp [TraceRow.update, old, some']
    · have none' : updates.any failed = false := by
        rw [← Bool.not_eq_true]
        exact fun wrong => old (known.failure.mpr wrong)
      rw [List.any_append, none']
      by_cases bad : span.status = "failed" <;> simp [TraceRow.update, old, bad, failed]
  last := by
    intro clean last found
    have same : last = span := by simpa using found.symm
    rw [same]
    by_cases old : row.status = "failed"
    · exact absurd (by simp [TraceRow.update, old]) clean
    · simp only [TraceRow.update, if_neg old, ite_self]
  operation := by
    rw [lastFailure_append]
    by_cases bad : span.status = "failed" <;> simp [TraceRow.update, bad, known.operation]
  earliest := by
    obtain ⟨⟨first, member, same⟩, below⟩ := known.earliest
    simp only [TraceRow.update]
    refine ⟨?_, ?_⟩
    · rcases le_total row.startedUs span.startedUnixMicroseconds with before | after
      · exact ⟨first, List.mem_append_left _ member, by rw [min_eq_left before, same]⟩
      · exact ⟨span, by simp, by rw [min_eq_right after]⟩
    · intro other listed
      rcases List.mem_append.mp listed with old | new
      · have bound := below other old
        omega
      · rw [List.mem_singleton.mp new]
        omega
  longest := by
    obtain ⟨⟨first, member, same⟩, above⟩ := known.longest
    simp only [TraceRow.update]
    refine ⟨?_, ?_⟩
    · rcases le_total span.durationNanoseconds row.durationNs with shorter | longer
      · exact ⟨first, List.mem_append_left _ member, by rw [max_eq_left shorter, same]⟩
      · exact ⟨span, by simp, by rw [max_eq_right longer]⟩
    · intro other listed
      rcases List.mem_append.mp listed with old | new
      · have bound := above other old
        omega
      · rw [List.mem_singleton.mp new]
        omega

section Storing

variable {retention key : Int} {traceId : String} {updates : List SpanSnapshot}
  {persistence : Persistence}
variable {shard : TraceShard} {span : SpanSnapshot}

/-- What the database of a trace's hour holds of it. -/
structure Holds (traceId : String) (updates : List SpanSnapshot) (shard : TraceShard) : Prop where
  missing : shard.traces.lookup traceId = none → updates = []
  row : ∀ row, shard.traces.lookup traceId = some row → Describes updates row
  spans : (keys shard.spans).filter (·.1 = traceId) = (latest updates).map SpanSnapshot.key

theorem holds_empty (traceId : String) : Holds traceId [] {} where
  missing := fun _ => rfl
  row := by simp
  spans := rfl

theorem length_filter_trace (spans : List ((String × String) × Int)) :
    (spans.filter (·.1.1 = traceId)).length = ((keys spans).filter (·.1 = traceId)).length := by
  rw [keys, List.filter_map, List.length_map]
  rfl

/-- Another trace's snapshot leaves this trace alone. -/
theorem Holds.other (holds : Holds traceId updates shard) (foreign : span.traceId ≠ traceId) :
    Holds traceId updates (shard.upsert span) := by
  have untouched : (shard.upsert span).traces.lookup traceId = shard.traces.lookup traceId := by
    simp only [TraceShard.upsert]
    rw [lookup_upsert, if_neg foreign.symm]
  refine ⟨?_, ?_, ?_⟩
  · rw [untouched]
    exact holds.missing
  · rw [untouched]
    exact holds.row
  · simp only [TraceShard.upsert]
    rw [keys_upsert]
    split
    · exact holds.spans
    · rw [List.filter_append, holds.spans]
      simp [foreign]

/-- A snapshot of the trace itself. -/
theorem Holds.mine (holds : Holds span.traceId updates shard) :
    Holds span.traceId (updates ++ [span]) (shard.upsert span) := by
  have spans : (keys (shard.upsert span).spans).filter (·.1 = span.traceId) =
      (latest (updates ++ [span])).map SpanSnapshot.key := by
    simp only [TraceShard.upsert]
    rw [latest_append, map_key_putSpan, keys_upsert, ← holds.spans]
    have alike : (span.traceId, span.spanId) ∈ keys shard.spans ↔
        span.key ∈ (keys shard.spans).filter (·.1 = span.traceId) := by
      simp [SpanSnapshot.key]
    by_cases known : (span.traceId, span.spanId) ∈ keys shard.spans
    · rw [if_pos known, if_pos (alike.mp known)]
    · rw [if_neg known, if_neg (fun listed => known (alike.mpr listed)), List.filter_append]
      simp [SpanSnapshot.key]
  have counted : ((shard.upsert span).spans.filter (·.1.1 = span.traceId)).length =
      (latest (updates ++ [span])).length := by
    rw [length_filter_trace, spans, List.length_map]
  have row : (shard.upsert span).traces.lookup span.traceId =
      some (((shard.traces.lookup span.traceId).map
        (.update span ((shard.upsert span).spans.filter (·.1.1 = span.traceId)).length)).getD
        (.insert span)) := by
    conv_lhs => simp only [TraceShard.upsert]
    rw [lookup_upsert, if_pos rfl]
    rfl
  refine ⟨by simp [row], ?_, spans⟩
  intro found lookup
  rw [row] at lookup
  cases Option.some.inj lookup
  cases old : shard.traces.lookup span.traceId with
  | none =>
    -- The first snapshot of the trace inserts its row.
    rw [holds.missing old]
    exact describes_insert span
  | some before => exact (holds.row before old).update span counted

/-- What the databases hold of a trace whose spans all start in one hour. -/
structure Stored (retention : Int) (traceId : String) (key : Int) (updates : List SpanSnapshot)
    (persistence : Persistence) : Prop where
  period : persistence.retentionMicroseconds = retention
  distinct : (keys persistence.files).Nodup
  hours : ∀ entry ∈ persistence.catalog, entry.2.endUs = entry.1 + hour - 1
  tables : ∀ other shard, persistence.files.lookup other = some shard → (keys shard.traces).Nodup
  elsewhere : ∀ other shard, persistence.files.lookup other = some shard → other ≠ key →
    shard.traces.lookup traceId = none
  unseen : persistence.files.lookup key = none → updates = []
  here : ∀ shard, persistence.files.lookup key = some shard → Holds traceId updates shard

theorem stored_configured (retention : Int) (traceId : String) (key : Int) :
    Stored retention traceId key [] { retentionMicroseconds := retention } where
  period := rfl
  distinct := by simp [keys]
  hours := by simp
  tables := by simp
  elsewhere := by simp
  unseen := fun _ => rfl
  here := by simp

theorem lookup_write (persistence : Persistence) (span : SpanSnapshot) (other : Int) :
    (persistence.write span).files.lookup other =
      if other = hourStartMicroseconds span.startedUnixMicroseconds then
        some (((persistence.files.lookup other).getD {}).upsert span)
      else persistence.files.lookup other := by
  simp only [Persistence.write]
  rw [lookup_upsert]
  split
  · next same =>
    rw [same]
    cases persistence.files.lookup (hourStartMicroseconds span.startedUnixMicroseconds) <;> rfl
  · rfl

def extended (traceId : String) (updates : List SpanSnapshot) (span : SpanSnapshot) :
    List SpanSnapshot :=
  if span.traceId = traceId then updates ++ [span] else updates

theorem nodup_traces_upsert (distinct : (keys shard.traces).Nodup) (span : SpanSnapshot) :
    (keys (shard.upsert span).traces).Nodup :=
  nodup_keys_upsert distinct _ _ _

variable (stored : Stored retention traceId key updates persistence)
include stored

theorem Stored.write
    (hourly : span.traceId = traceId → hourStartMicroseconds span.startedUnixMicroseconds = key) :
    Stored retention traceId key (extended traceId updates span) (persistence.write span) where
  period := stored.period
  distinct := nodup_keys_upsert stored.distinct _ _ _
  hours := by
    intro entry member
    simp only [Persistence.write] at member
    unfold AssocList.upsert at member
    split at member
    · obtain ⟨old, listed, rfl⟩ := List.mem_map.mp member
      split
      · exact stored.hours old listed
      · exact stored.hours old listed
    · rcases List.mem_append.mp member with old | new
      · exact stored.hours entry old
      · rw [List.mem_singleton.mp new]
  tables := by
    intro other shard found
    rw [lookup_write] at found
    split at found
    · cases found
      apply nodup_traces_upsert
      cases before : persistence.files.lookup other with
      | none => simp [keys]
      | some old => exact stored.tables other old before
    · exact stored.tables other shard found
  elsewhere := by
    intro other shard found differs
    rw [lookup_write] at found
    split at found
    · next same =>
      -- The hour that is written is not the trace's, so the snapshot is of another trace.
      cases found
      have foreign : span.traceId ≠ traceId := fun mine => differs (same.trans (hourly mine))
      simp only [TraceShard.upsert]
      rw [lookup_upsert, if_neg foreign.symm]
      cases before : persistence.files.lookup other with
      | none => rfl
      | some old => exact stored.elsewhere other old before differs
    · exact stored.elsewhere other shard found differs
  unseen := by
    intro absent
    rw [lookup_write] at absent
    split at absent
    · cases absent
    · next differs =>
      have foreign : span.traceId ≠ traceId := fun mine => differs (hourly mine).symm
      rw [extended, if_neg foreign]
      exact stored.unseen absent
  here := by
    intro shard found
    rw [lookup_write] at found
    split at found
    · next same =>
      cases found
      have before : Holds traceId updates ((persistence.files.lookup key).getD {}) := by
        cases old : persistence.files.lookup key with
        | none =>
          rw [stored.unseen old]
          exact holds_empty traceId
        | some shard => exact stored.here shard old
      by_cases mine : span.traceId = traceId
      · subst mine
        rw [extended, if_pos rfl]
        exact before.mine
      · rw [extended, if_neg mine]
        exact before.other mine
    · next differs =>
      have foreign : span.traceId ≠ traceId := fun mine => differs (hourly mine).symm
      rw [extended, if_neg foreign]
      exact stored.here shard found

theorem Stored.purgeExpired {now : Int} (within : now - retention ≤ key + hour - 1) :
    Stored retention traceId key updates (persistence.purgeExpired now) := by
  have kept : ∀ other shard, (persistence.purgeExpired now).files.lookup other = some shard →
      persistence.files.lookup other = some shard := by
    intro other shard found
    exact ((lookup_filter stored.distinct _).mp found).1
  have spared : key ∉ keys (persistence.catalog.filter (·.2.endUs < now - retention)) := by
    intro listed
    obtain ⟨entry, member, same⟩ := List.mem_map.mp listed
    obtain ⟨catalogued, expired⟩ := List.mem_filter.mp member
    have ends := stored.hours entry catalogued
    simp only [decide_eq_true_eq] at expired
    rw [same] at ends
    omega
  refine ⟨stored.period, nodup_keys_filter stored.distinct _, ?_, ?_, ?_, ?_, ?_⟩
  · intro entry member
    exact stored.hours entry (List.mem_of_mem_filter member)
  · intro other shard found
    exact stored.tables other shard (kept other shard found)
  · intro other shard found
    exact stored.elsewhere other shard (kept other shard found)
  · intro absent
    cases before : persistence.files.lookup key with
    | none => exact stored.unseen before
    | some shard =>
      have still : (persistence.purgeExpired now).files.lookup key = some shard := by
        refine (lookup_filter stored.distinct _).mpr ⟨before, ?_⟩
        rw [stored.period]
        simpa using spared
      rw [absent] at still
      cases still
  · intro shard found
    exact stored.here shard (kept key shard found)

/-- A snapshot that is not too old is written, and the purge after it spares the trace's hour. -/
theorem Stored.upsert {call : UpsertCall} (hourly : call.span.traceId = traceId →
      hourStartMicroseconds call.span.startedUnixMicroseconds = key)
    (young : call.span.traceId = traceId →
      call.checked - retention ≤ call.span.startedUnixMicroseconds)
    (within : call.purged - retention ≤ key + hour - 1) :
    Stored retention traceId key (extended traceId updates call.span) (persistence.upsert call) := by
  unfold Persistence.upsert
  split
  · next old =>
    have foreign : call.span.traceId ≠ traceId := by
      intro mine
      have bound := young mine
      rw [stored.period] at old
      omega
    rw [extended, if_neg foreign]
    exact stored
  · have written := stored.write hourly
    simp only
    split
    · -- Only the counter changes before the purge.
      have reset : Stored retention traceId key (extended traceId updates call.span)
          { persistence.write call.span with writesSincePurge := 0 } :=
        ⟨written.period, written.distinct, written.hours, written.tables, written.elsewhere,
          written.unseen, written.here⟩
      exact reset.purgeExpired within
    · exact written

end Storing

section Comparing

variable {updates : List SpanSnapshot} {summary : TraceSummary} {row : TraceRow}

variable (sums : Sums (latest updates) summary) (describes : Describes updates row)
include sums describes

theorem status_agrees_iff (nonempty : updates ≠ []) : summary.status = row.status ↔
      (updates.any failed = true → (latest updates).any failed = true) ∧
      (updates.any failed = false → ∀ last, updates.getLast? = some last →
        last.status = if (latest updates).any running = true then "running"
          else firstResult (latest updates)) := by
  have shown := sums.status
  cases ever : updates.any failed with
  | true =>
    -- The row has failed for good, and the summary only if a span still says so.
    rw [describes.failure.mpr ever]
    cases still : (latest updates).any failed with
    | true => simp [shown, still]
    | false =>
      simp only [still, Bool.false_eq_true, if_false] at shown
      simp only [Bool.false_eq_true, imp_false, not_true_eq_false, false_and, iff_false, shown]
      split
      · decide
      · exact firstResult_ne_failed still
  | false =>
    have clean : (latest updates).any failed = false := by
      rw [List.any_eq_false] at ever ⊢
      exact fun span member => ever span (mem_of_mem_latest member)
    have unfailed : row.status ≠ "failed" := by
      intro wrong
      rw [describes.failure.mp wrong] at ever
      cases ever
    obtain ⟨last, found⟩ := Option.isSome_iff_exists.mp (List.getLast?_isSome.mpr nonempty)
    have same := describes.last unfailed last found
    simp only [clean, Bool.false_eq_true, if_false] at shown
    constructor
    · intro equal
      refine ⟨by simp, ?_⟩
      intro _ other found'
      rw [found] at found'
      cases found'
      rw [← same, ← equal, shown]
    · rintro ⟨-, last'⟩
      rw [same, last' rfl last found, shown]

theorem start_agrees_iff (nonempty : latest updates ≠ []) :
    summary.startedUnixMicroseconds = row.startedUs ↔ ∃ span ∈ latest updates,
        (∀ update ∈ updates, span.startedUnixMicroseconds ≤ update.startedUnixMicroseconds) ∧
        (span.startedUnixMicroseconds = 0 → (latest updates).getLast? = some span) := by
  obtain ⟨⟨first, listed, same⟩, below⟩ := describes.earliest
  obtain ⟨last, found⟩ := Option.isSome_iff_exists.mp (List.getLast?_isSome.mpr nonempty)
  have lastMember : last ∈ latest updates := List.mem_of_getLast? found
  constructor
  · intro equal
    by_cases unset : row.startedUs = 0
    · -- Nothing starts before zero, so the newest span is what the summary kept.
      have positive : ∀ span ∈ latest updates, 0 ≤ span.startedUnixMicroseconds := by
        intro span member
        have bound := below span (mem_of_mem_latest member)
        omega
      have zero := (sums.zero positive last found).mp (equal.trans unset)
      refine ⟨last, lastMember, ?_, fun _ => found⟩
      intro update member
      have bound := below update member
      omega
    · obtain ⟨span, member, held⟩ := sums.held nonempty
      refine ⟨span, member, ?_, ?_⟩
      · intro update listed'
        rw [held, equal]
        exact below update listed'
      · intro zero
        exact absurd (equal.symm.trans (held.symm.trans zero)) unset
  · rintro ⟨span, member, least, newest⟩
    have reached : span.startedUnixMicroseconds = row.startedUs := by
      have above := below span (mem_of_mem_latest member)
      have under := least first listed
      omega
    by_cases unset : span.startedUnixMicroseconds = 0
    · have positive : ∀ other ∈ latest updates, 0 ≤ other.startedUnixMicroseconds := by
        intro other member'
        have bound := least other (mem_of_mem_latest member')
        omega
      rw [(sums.zero positive span (newest unset)).mpr unset, ← reached, unset]
    · rw [← reached]
      exact sums.least span member unset fun other member' =>
        least other (mem_of_mem_latest member')

theorem duration_agrees_iff : summary.durationNanoseconds = row.durationNs ↔
      ∃ update ∈ updates, 0 ≤ update.durationNanoseconds ∧
        (∀ other ∈ updates, other.durationNanoseconds ≤ update.durationNanoseconds) ∧
        (update.durationNanoseconds = 0 ∨
          ∃ span ∈ latest updates, span.durationNanoseconds = update.durationNanoseconds) := by
  obtain ⟨⟨longest, listed, same⟩, above⟩ := describes.longest
  obtain ⟨positive, covers, attained⟩ := sums.longest
  constructor
  · intro equal
    refine ⟨longest, listed, by omega, ?_, ?_⟩
    · intro other member
      rw [same]
      exact above other member
    · rw [same, ← equal]
      exact attained
  · rintro ⟨update, member, lower, greatest, held⟩
    have reached : update.durationNanoseconds = row.durationNs := by
      have bound := above update member
      have under := greatest longest listed
      omega
    -- The summary is never above the row, since its spans are among the updates.
    have bounded : summary.durationNanoseconds ≤ row.durationNs := by
      rcases attained with zero | ⟨span, inside, equal⟩
      · omega
      · rw [← equal]
        exact above span (mem_of_mem_latest inside)
    rcases held with zero | ⟨span, inside, equal⟩
    · omega
    · have bound := covers span inside
      omega

theorem operation_agrees_iff
    (failure : updates.any failed = true → (latest updates).any failed = true) :
    summary.failedOperation = row.failedOperation ↔ lastFailure updates = lastFailure (latest updates) := by
  have reports : ∀ spans, spans.any failed = true → ∃ operation, lastFailure spans = some operation := by
    intro spans some'
    obtain ⟨span, member, bad⟩ := List.any_eq_true.mp some'
    have nonempty : spans.filter failed ≠ [] := List.ne_nil_of_mem (List.mem_filter.mpr ⟨member, bad⟩)
    obtain ⟨last, found⟩ := Option.isSome_iff_exists.mp (List.getLast?_isSome.mpr nonempty)
    exact ⟨last.operation, by rw [lastFailure, found]; rfl⟩
  rw [sums.operation, describes.operation]
  cases ever : updates.any failed with
  | true =>
    obtain ⟨one, first⟩ := reports _ ever
    obtain ⟨two, second⟩ := reports _ (failure ever)
    rw [first, second]
    simpa using eq_comm
  | false =>
    have clean : (latest updates).any failed = false := by
      rw [List.any_eq_false] at ever ⊢
      exact fun span member => ever span (mem_of_mem_latest member)
    have silent : ∀ spans, spans.any failed = false → lastFailure spans = none := by
      intro spans none'
      have empty : spans.filter failed = [] :=
        List.filter_eq_nil_iff.mpr (List.any_eq_false.mp none')
      rw [lastFailure, empty]
      rfl
    rw [silent _ ever, silent _ clean]
    simp

theorem sameFacts_iff (traceId : String) :
    SameFacts summary (row.summary traceId) ↔ InStep updates (latest updates) := by
  have nonempty : updates ≠ [] := by
    obtain ⟨⟨first, listed, -⟩, -⟩ := describes.earliest
    exact List.ne_nil_of_mem listed
  have spans : latest updates ≠ [] := by
    obtain ⟨earlier, span, rfl⟩ := List.eq_nil_or_concat updates |>.resolve_left nonempty
    rw [List.concat_eq_append, latest_append]
    cases latest earlier with
    | nil => simp [putSpan]
    | cons current rest =>
      rw [putSpan_cons]
      split <;> simp
  have steps : summary.stepCount = row.stepCount := sums.steps.trans describes.steps.symm
  constructor
  · rintro ⟨status, start, duration, -, operation⟩
    obtain ⟨failure, last⟩ := (status_agrees_iff sums describes nonempty).mp status
    exact ⟨failure, last, (start_agrees_iff sums describes spans).mp start,
      (duration_agrees_iff sums describes).mp duration,
      (operation_agrees_iff sums describes failure).mp operation⟩
  · intro inStep
    exact ⟨(status_agrees_iff sums describes nonempty).mpr ⟨inStep.failure, inStep.status⟩,
      (start_agrees_iff sums describes spans).mpr inStep.start,
      (duration_agrees_iff sums describes).mpr inStep.duration, steps,
      (operation_agrees_iff sums describes inStep.failure).mpr inStep.operation⟩

end Comparing

section Runs

variable {retention key : Int} {traceId : String} {updates : List SpanSnapshot}
  {store : TraceStore}

/-- Memory and databases after some snapshots of a trace. -/
structure Mirrors (retention : Int) (traceId : String) (key : Int) (updates : List SpanSnapshot)
    (store : TraceStore) : Prop where
  memory : store.spans.filter (·.traceId = traceId) = latest updates
  stored : ∃ persistence, store.persistence = some persistence ∧
    Stored retention traceId key updates persistence

theorem Mirrors.upsert (mirrors : Mirrors retention traceId key updates store) {call : UpsertCall}
    (room : evicts store call = false)
    (hourly : call.span.traceId = traceId →
      hourStartMicroseconds call.span.startedUnixMicroseconds = key)
    (young : call.span.traceId = traceId →
      call.checked - retention ≤ call.span.startedUnixMicroseconds)
    (within : call.purged - retention ≤ key + hour - 1) :
    Mirrors retention traceId key (extended traceId updates call.span) (store.upsert call) := by
  obtain ⟨persistence, configured, stored⟩ := mirrors.stored
  refine ⟨?_, persistence.upsert call, by simp [TraceStore.upsert, configured], ?_⟩
  · -- There is room, so nothing is dropped.
    simp only [evicts, decide_eq_false_iff_not, Nat.not_lt] at room
    simp only [TraceStore.upsert, Nat.sub_eq_zero_of_le room, List.drop_zero]
    rw [filter_putSpan, mirrors.memory, extended]
    split
    · rw [latest_append]
    · rfl
  · exact stored.upsert hourly young within

theorem updatesOf_cons (traceId : String) (call : UpsertCall) (calls : List UpsertCall) :
    extended traceId updates call.span ++ updatesOf traceId calls =
      updates ++ updatesOf traceId (call :: calls) := by
  unfold extended updatesOf
  by_cases mine : call.span.traceId = traceId <;> simp [mine]

/-- Memory and databases after a whole run. -/
theorem Mirrors.run (mirrors : Mirrors retention traceId key updates store)
    {calls : List UpsertCall}
    (room : Along TraceStore.upsert (fun store call => evicts store call = false) store calls)
    (hourly : ∀ call ∈ calls, call.span.traceId = traceId →
      hourStartMicroseconds call.span.startedUnixMicroseconds = key)
    (young : ∀ call ∈ calls, call.span.traceId = traceId →
      call.checked - retention ≤ call.span.startedUnixMicroseconds)
    (within : ∀ call ∈ calls, call.purged - retention ≤ key + hour - 1) :
    Mirrors retention traceId key (updates ++ updatesOf traceId calls)
      (calls.foldl TraceStore.upsert store) := by
  induction calls generalizing store updates with
  | nil => simpa [updatesOf] using mirrors
  | cons call rest ih =>
    have first := mirrors.upsert room.1 (hourly call (by simp)) (young call (by simp))
      (within call (by simp))
    have later := ih first room.2 (fun other member => hourly other (List.mem_cons_of_mem _ member))
      (fun other member => young other (List.mem_cons_of_mem _ member))
      (fun other member => within other (List.mem_cons_of_mem _ member))
    rw [updatesOf_cons] at later
    exact later

theorem le_hourEnd (value : Int) : value ≤ hourStartMicroseconds value + hour - 1 := by
  have bound := Int.lt_tdiv_add_one_mul_self value (show 0 < hour by decide)
  rw [Int.add_mul, Int.one_mul] at bound
  unfold hourStartMicroseconds
  omega

end Runs

theorem summaries_append (spans : List SpanSnapshot) (span : SpanSnapshot) :
    summaries (spans ++ [span]) =
      upsert span.traceId (TraceSummary.add {} span) (·.add span) (summaries spans) := by
  simp [summaries]

/-- Every trace in memory has an entry. -/
theorem mem_keys_summaries {span : SpanSnapshot} {spans : List SpanSnapshot}
    (member : span ∈ spans) : span.traceId ∈ keys (summaries spans) := by
  induction spans using List.reverseRecOn with
  | nil => cases member
  | append_singleton earlier last ih =>
    rw [summaries_append, keys_upsert]
    rcases List.mem_append.mp member with old | new
    · have known := ih old
      split
      · exact known
      · exact List.mem_append_left _ known
    · rw [List.mem_singleton.mp new]
      split
      · assumption
      · simp

theorem summaries_spec {spans : List SpanSnapshot} {entry : String × TraceSummary}
    (member : entry ∈ summaries spans) :
    entry.2 = (spans.filter (·.traceId = entry.1)).foldl TraceSummary.add {} ∧
      entry.2.traceId = entry.1 := by
  induction spans using List.reverseRecOn generalizing entry with
  | nil => cases member
  | append_singleton earlier span ih =>
    rw [summaries_append] at member
    unfold AssocList.upsert at member
    rw [List.filter_append]
    split at member
    · obtain ⟨old, listed, rfl⟩ := List.mem_map.mp member
      obtain ⟨same, named⟩ := ih listed
      by_cases mine : old.1 = span.traceId
      · have changed : (if old.1 = span.traceId then (old.1, old.2.add span) else old) =
            (span.traceId, old.2.add span) := by rw [if_pos mine, mine]
        have last : [span].filter (·.traceId = span.traceId) = [span] := by simp
        rw [changed]
        simp only
        rw [last, List.foldl_append, ← mine, ← same]
        exact ⟨rfl, mine.symm⟩
      · have foreign : ¬span.traceId = old.1 := fun wrong => mine wrong.symm
        simp [mine, foreign, ← same, named]
    · next absent =>
      rcases List.mem_append.mp member with old | new
      · have differs : ¬span.traceId = entry.1 := by
          intro wrong
          exact absent (wrong ▸ List.mem_map_of_mem old)
        obtain ⟨same, named⟩ := ih old
        simp [differs, ← same, named]
      · -- The first span of a trace finds none of it before.
        have first : earlier.filter (·.traceId = span.traceId) = [] := by
          apply List.filter_eq_nil_iff.mpr
          intro other inside wrong
          have known := mem_keys_summaries inside
          simp only [decide_eq_true_eq] at wrong
          exact absent (wrong ▸ known)
        rw [List.mem_singleton.mp new]
        simp [first, TraceSummary.add]

theorem mem_recent {store : TraceStore} {limit : Nat} {summary : TraceSummary}
    (shown : summary ∈ store.recent limit) :
    summary = (store.spans.filter (·.traceId = summary.traceId)).foldl TraceSummary.add {} := by
  have sorted := List.mem_of_mem_take shown
  rw [List.mem_mergeSort] at sorted
  obtain ⟨entry, listed, rfl⟩ := List.mem_map.mp sorted
  obtain ⟨same, named⟩ := summaries_spec listed
  rw [named]
  exact same

/-- A returned row comes from a database. -/
theorem mem_history {like : String → String → Bool} {store : TraceStore} {query : TraceHistoryQuery}
    {nowUs : Int} {row : TraceSummary} (listed : row ∈ (store.history like query nowUs).records) :
    ∃ persistence hourKey shard stored, store.persistence = some persistence ∧
      persistence.files.lookup hourKey = some shard ∧ (row.traceId, stored) ∈ shard.traces ∧
      row = stored.summary row.traceId := by
  unfold TraceStore.history at listed
  cases configured : store.persistence with
  | none => simp [configured] at listed
  | some persistence =>
    simp only [configured, Persistence.history] at listed
    have sorted := List.mem_of_mem_take (List.mem_of_mem_drop listed)
    rw [List.mem_mergeSort] at sorted
    obtain ⟨shard, opened, chosen⟩ := List.mem_flatMap.mp sorted
    obtain ⟨entry, -, found⟩ := List.mem_filterMap.mp opened
    have ordered := List.mem_of_mem_take chosen
    rw [List.mem_mergeSort] at ordered
    obtain ⟨stored, kept, rfl⟩ := List.mem_map.mp ordered
    exact ⟨persistence, entry.1, shard, stored.2, rfl, found, List.mem_of_mem_filter kept, rfl⟩

theorem exists_hour {calls : List UpsertCall} {updates : List SpanSnapshot} {retention : Int}
    (hourly : ∀ first ∈ updates, ∀ second ∈ updates,
      hourStartMicroseconds first.startedUnixMicroseconds =
        hourStartMicroseconds second.startedUnixMicroseconds)
    (young : ∀ call ∈ calls, ∀ span ∈ updates,
      call.purged - retention ≤ span.startedUnixMicroseconds) :
    ∃ key, (∀ span ∈ updates, hourStartMicroseconds span.startedUnixMicroseconds = key) ∧
      ∀ call ∈ calls, call.purged - retention ≤ key + hour - 1 := by
  cases updates with
  | nil =>
    obtain ⟨bound, above⟩ := (calls.map (·.purged)).toFinset.exists_le
    refine ⟨bound - retention, by simp, ?_⟩
    intro call member
    have earlier := above call.purged (by simpa using ⟨call, member, rfl⟩)
    have positive : 1 ≤ hour := by decide
    omega
  | cons span rest =>
    refine ⟨hourStartMicroseconds span.startedUnixMicroseconds, ?_, ?_⟩
    · intro other member
      exact hourly other member span (by simp)
    · intro call member
      have after := young call member span (by simp)
      have before := le_hourEnd span.startedUnixMicroseconds
      omega

/-- Both views of a trace say the same exactly if the trace stayed in step. -/
theorem views_agree_iff (like : String → String → Bool) (capacity : Nat) (retention : Int)
    (calls : List UpsertCall) (traceId : String)
    (room : Along TraceStore.upsert (fun store call => evicts store call = false)
      (.configured capacity retention) calls)
    (hourly : ∀ first ∈ updatesOf traceId calls, ∀ second ∈ updatesOf traceId calls,
      hourStartMicroseconds first.startedUnixMicroseconds =
        hourStartMicroseconds second.startedUnixMicroseconds)
    (young : ∀ call ∈ calls, ∀ span ∈ updatesOf traceId calls,
      call.checked - retention ≤ span.startedUnixMicroseconds ∧
        call.purged - retention ≤ span.startedUnixMicroseconds)
    (limit : Nat) (query : TraceHistoryQuery) (nowUs : Int) (summary row : TraceSummary)
    (shown : summary ∈ (calls.foldl TraceStore.upsert (.configured capacity retention)).recent limit)
    (listed : row ∈ ((calls.foldl TraceStore.upsert
      (.configured capacity retention)).history like query nowUs).records)
    (first : summary.traceId = traceId) (second : row.traceId = traceId) :
    SameFacts summary row ↔ InStep (updatesOf traceId calls) (latest (updatesOf traceId calls)) := by
  have mine : ∀ call ∈ calls, call.span.traceId = traceId → call.span ∈ updatesOf traceId calls := by
    intro call member same
    exact List.mem_filter.mpr ⟨List.mem_map_of_mem member, by simpa using same⟩
  obtain ⟨key, inHour, within⟩ := exists_hour hourly fun call member span inside =>
    (young call member span inside).2
  have start : Mirrors retention traceId key [] (.configured capacity retention) :=
    ⟨rfl, _, rfl, stored_configured retention traceId key⟩
  have mirrors := start.run room (fun call member same => inHour _ (mine call member same))
    (fun call member same => (young call member _ (mine call member same)).1) within
  rw [List.nil_append] at mirrors
  -- The summary is made from the last snapshots, and the row from all of them.
  have sums : Sums (latest (updatesOf traceId calls)) summary := by
    rw [mem_recent shown, first, mirrors.memory]
    exact sums_foldl _
  obtain ⟨persistence, hourKey, shard, stored, configured, found, member, same⟩ := mem_history listed
  obtain ⟨persistence', configured', holds⟩ := mirrors.stored
  rw [configured] at configured'
  cases configured'
  rw [second] at member same
  have lookup : shard.traces.lookup traceId = some stored :=
    (lookup_eq_some_iff (holds.tables hourKey shard found)).mpr member
  have describes : Describes (updatesOf traceId calls) stored := by
    by_cases here : hourKey = key
    · rw [here] at found
      exact (holds.here shard found).row stored lookup
    · rw [holds.elsewhere hourKey shard found here] at lookup
      cases lookup
  rw [same]
  exact sameFacts_iff sums describes traceId

def sampleSnapshot (spanId status : String) (duration : Int) : SpanSnapshot where
  businessName := "order"
  businessInstanceId := "order-1"
  operation := "order"
  traceId := "trace"
  spanId := spanId
  parentSpanId := ""
  traceParent := ""
  status := status
  startedUnixMicroseconds := 5000
  durationNanoseconds := duration
  inputs := []

def sampleCall (spanId status : String) (duration : Int) : UpsertCall :=
  ⟨sampleSnapshot spanId status duration, 10000, 10000⟩

/-- A store with room for ten spans, after some calls. -/
def sampleStore (calls : List UpsertCall) : TraceStore :=
  calls.foldl TraceStore.upsert (.configured 10 864000000000)

theorem sampleStore_views (calls : List UpsertCall) (summary : TraceSummary) (row : TraceRow)
    (spans : List ((String × String) × Int)) (writes : Nat)
    (memory : summaries (sampleStore calls).spans = [("trace", summary)])
    (databases : (sampleStore calls).persistence =
      some ⟨864000000000, [(0, ⟨0, 3599999999⟩)], [(0, ⟨spans, [("trace", row)]⟩)], writes⟩)
    (within : -863999980000 ≤ row.startedUs ∧ row.startedUs ≤ 20000) :
    (sampleStore calls).recent 200 = [summary] ∧
      ((sampleStore calls).history (fun _ _ => true) {} 20000).records = [row.summary "trace"] := by
  constructor
  · simp [TraceStore.recent, memory]
  · simp [TraceStore.history, databases, Persistence.history, TraceHistoryQuery.resolved,
      TraceShard.select, List.lookup_cons, List.lookup_nil, within]

/-- One span that runs and then succeeds. -/
def steadyCalls : List UpsertCall := [sampleCall "a" "running" 0, sampleCall "a" "success" 7]

/-- A trace with a single span looks the same in both views. -/
theorem views_agree_single : ∃ summary ∈ (sampleStore steadyCalls).recent 200,
    ∃ row ∈ ((sampleStore steadyCalls).history (fun _ _ => true) {} 20000).records,
      summary.traceId = "trace" ∧ row.traceId = "trace" ∧ SameFacts summary row := by
  obtain ⟨shown, listed⟩ := sampleStore_views steadyCalls
    ⟨"trace", "order", "order-1", "success", 5000, 7, 1, ""⟩
    ⟨"order", "order-1", "success", 5000, 7, 1, ""⟩ [(("trace", "a"), 5000)] 2 (by decide +kernel)
    (by decide +kernel) (by decide)
  have first : (⟨"trace", "order", "order-1", "success", 5000, 7, 1, ""⟩ : TraceSummary) ∈
      (sampleStore steadyCalls).recent 200 := by simp [shown]
  have second : TraceRow.summary "trace" ⟨"order", "order-1", "success", 5000, 7, 1, ""⟩ ∈
      ((sampleStore steadyCalls).history (fun _ _ => true) {} 20000).records := by simp [listed]
  refine ⟨_, first, _, second, rfl, rfl, ?_⟩
  refine (views_agree_iff (fun _ _ => true) 10 864000000000 steadyCalls "trace"
    ⟨by decide +kernel, by decide +kernel, trivial⟩ ?_ ?_ 200 {} 20000 _ _ first second rfl rfl).mpr ?_
  · simp [updatesOf, steadyCalls, sampleCall, sampleSnapshot]
  · simp [updatesOf, steadyCalls, sampleCall, sampleSnapshot]
  · have updates : updatesOf "trace" steadyCalls =
        [sampleSnapshot "a" "running" 0, sampleSnapshot "a" "success" 7] := rfl
    have current : latest (updatesOf "trace" steadyCalls) = [sampleSnapshot "a" "success" 7] := by
      rw [updates]
      rfl
    rw [current, updates]
    exact ⟨by decide +kernel, by simp [sampleSnapshot, firstResult, running], by simp [sampleSnapshot],
      by simp [sampleSnapshot], by decide +kernel⟩

/-- Two spans, of which the second ends while the first goes on. -/
def overlappingCalls : List UpsertCall :=
  [sampleCall "a" "running" 0, sampleCall "b" "running" 0, sampleCall "b" "success" 7]

/-- The trace is running in one view and has succeeded in the other. -/
theorem overlapping_views_differ :
    Along TraceStore.upsert (fun store call => evicts store call = false)
        (.configured 10 864000000000) overlappingCalls ∧
      (sampleStore overlappingCalls).recent 200 =
        [⟨"trace", "order", "order-1", "running", 5000, 7, 2, ""⟩] ∧
      ((sampleStore overlappingCalls).history (fun _ _ => true) {} 20000).records =
        [⟨"trace", "order", "order-1", "success", 5000, 7, 2, ""⟩] ∧
      ¬SameFacts ⟨"trace", "order", "order-1", "running", 5000, 7, 2, ""⟩
        ⟨"trace", "order", "order-1", "success", 5000, 7, 2, ""⟩ := by
  obtain ⟨shown, listed⟩ := sampleStore_views overlappingCalls
    ⟨"trace", "order", "order-1", "running", 5000, 7, 2, ""⟩
    ⟨"order", "order-1", "success", 5000, 7, 2, ""⟩ [(("trace", "a"), 5000), (("trace", "b"), 5000)]
    3 (by decide +kernel) (by decide +kernel) (by decide)
  exact ⟨⟨by decide +kernel, by decide +kernel, by decide +kernel, trivial⟩, shown, listed,
    fun same => absurd same.1 (by decide)⟩

end PocoDDS.Observability
