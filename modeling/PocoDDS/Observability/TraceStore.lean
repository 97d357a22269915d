import PocoDDS.Lib.Assoc
import PocoDDS.Observability.Span

/-! The trace store: the spans in memory, the hourly databases, and the two summaries of a trace. -/

namespace PocoDDS.Observability

open AssocList

structure TraceSummary where
  traceId : String := ""
  businessName : String := ""
  businessInstanceId : String := ""
  status : String := ""
  startedUnixMicroseconds : Int := 0
  durationNanoseconds : Int := 0
  stepCount : Nat := 0
  failedOperation : String := ""
  deriving DecidableEq, Repr

/-- A row of the `traces` table, without its key. -/
structure TraceRow where
  businessName : String
  instanceId : String
  status : String
  startedUs : Int
  durationNs : Int
  stepCount : Nat
  failedOperation : String
  deriving DecidableEq, Repr

/-- The database of one hour: its spans by trace and span id, and its traces by trace id. -/
structure TraceShard where
  spans : List ((String × String) × Int) := []
  traces : List (String × TraceRow) := []
  deriving DecidableEq

/-- The hour a database covers, both ends included. -/
structure CatalogRow where
  startUs : Int
  endUs : Int
  deriving DecidableEq

/-- Databases and their catalogue, by the start of their hour. -/
structure Persistence where
  retentionMicroseconds : Int
  catalog : List (Int × CatalogRow) := []
  files : List (Int × TraceShard) := []
  writesSincePurge : Nat := 0
  deriving DecidableEq

structure TraceStore where
  capacity : Nat
  spans : List SpanSnapshot := []
  persistence : Option Persistence := none

structure TraceHistoryQuery where
  fromUnixMicroseconds : Int := 0
  toUnixMicroseconds : Int := 0
  businessName : String := ""
  status : String := ""
  limit : Nat := 100
  offset : Nat := 0

structure TraceHistoryResult where
  records : List TraceSummary := []
  hasMore : Bool := false

/-- A snapshot, with the clock when its age is checked and when old databases are purged. -/
structure UpsertCall where
  span : SpanSnapshot
  checked : Int
  purged : Int

def sameSpan (current span : SpanSnapshot) : Bool :=
  current.traceId == span.traceId && current.spanId == span.spanId

/-- The first entry of the same span is replaced; a new span goes to the end. -/
def putSpan (span : SpanSnapshot) : List SpanSnapshot → List SpanSnapshot
  | [] => [span]
  | current :: rest => if sameSpan current span then span :: rest else current :: putSpan span rest

def TraceSummary.add (summary : TraceSummary) (span : SpanSnapshot) : TraceSummary where
  traceId := span.traceId
  businessName := span.businessName
  businessInstanceId := span.businessInstanceId
  -- A failure stays, a running span comes before any other result, and the first result stays.
  status :=
    if span.status = "failed" then "failed"
    else if summary.status ≠ "failed" ∧ span.status = "running" then "running"
    else if summary.status.isEmpty then span.status
    else summary.status
  -- Zero stands for a start that is not known yet.
  startedUnixMicroseconds :=
    if summary.startedUnixMicroseconds = 0 ∨
        span.startedUnixMicroseconds < summary.startedUnixMicroseconds then
      span.startedUnixMicroseconds
    else summary.startedUnixMicroseconds
  durationNanoseconds := max summary.durationNanoseconds span.durationNanoseconds
  stepCount := summary.stepCount + 1
  failedOperation := if span.status = "failed" then span.operation else summary.failedOperation

def summaries (spans : List SpanSnapshot) : List (String × TraceSummary) :=
  spans.foldl
    (fun table span =>
      upsert span.traceId (TraceSummary.add {} span) (·.add span) table)
    []

/-- The latest start comes first. -/
def latestFirst (left right : TraceSummary) : Bool :=
  decide (left.startedUnixMicroseconds ≥ right.startedUnixMicroseconds)

def TraceStore.recent (store : TraceStore) (limit : Nat) : List TraceSummary :=
  (((summaries store.spans).map Prod.snd).mergeSort latestFirst).take limit

/-- The length of an hour in microseconds. -/
def hour : Int := 60 * 60 * 1000000

/-- Division rounds towards zero. -/
def hourStartMicroseconds (value : Int) : Int :=
  value.tdiv hour * hour

/-- The row of a trace seen for the first time. -/
def TraceRow.insert (span : SpanSnapshot) : TraceRow where
  businessName := span.businessName
  instanceId := span.businessInstanceId
  status := span.status
  startedUs := span.startedUnixMicroseconds
  durationNs := span.durationNanoseconds
  stepCount := 1
  failedOperation := if span.status = "failed" then span.operation else ""

/-- The row of a known trace, given how many of its spans the database holds. -/
def TraceRow.update (span : SpanSnapshot) (count : Nat) (row : TraceRow) : TraceRow where
  businessName := span.businessName
  instanceId := span.businessInstanceId
  -- The last two branches of the statement are the same.
  status :=
    if row.status = "failed" then row.status
    else if span.status = "failed" then span.status
    else if span.status = "running" then span.status
    else span.status
  startedUs := min row.startedUs span.startedUnixMicroseconds
  durationNs := max row.durationNs span.durationNanoseconds
  stepCount := count
  failedOperation := if span.status = "failed" then span.operation else row.failedOperation

/-- Both statements, the span first. -/
def TraceShard.upsert (shard : TraceShard) (span : SpanSnapshot) : TraceShard :=
  let spans := AssocList.upsert (span.traceId, span.spanId) span.startedUnixMicroseconds
    (fun _ => span.startedUnixMicroseconds) shard.spans
  let count := (spans.filter (·.1.1 = span.traceId)).length
  { spans
    traces := AssocList.upsert span.traceId (.insert span) (.update span count) shard.traces }

/-- Databases whose hour is over for longer than the retention period are removed. -/
def Persistence.purgeExpired (persistence : Persistence) (now : Int) : Persistence :=
  let cutoff := now - persistence.retentionMicroseconds
  let expired := keys (persistence.catalog.filter (·.2.endUs < cutoff))
  { persistence with
    catalog := persistence.catalog.filter (¬·.2.endUs < cutoff)
    files := persistence.files.filter (·.1 ∉ expired) }

/-- The statements that a snapshot runs on the database of its hour and on the catalogue. -/
def Persistence.write (persistence : Persistence) (span : SpanSnapshot) : Persistence :=
  let key := hourStartMicroseconds span.startedUnixMicroseconds
  { persistence with
    -- A database that is not there yet is created empty.
    files := AssocList.upsert key (TraceShard.upsert {} span) (·.upsert span) persistence.files
    catalog := AssocList.upsert key ⟨key, key + hour - 1⟩ id persistence.catalog
    writesSincePurge := persistence.writesSincePurge + 1 }

def Persistence.upsert (persistence : Persistence) (call : UpsertCall) : Persistence :=
  if call.span.startedUnixMicroseconds < call.checked - persistence.retentionMicroseconds then
    persistence
  else
    let written := persistence.write call.span
    -- Every thousandth write looks for old databases.
    if written.writesSincePurge ≥ 1000 then
      { written with writesSincePurge := 0 }.purgeExpired call.purged
    else written

/-- A row as it is returned. -/
def TraceRow.summary (traceId : String) (row : TraceRow) : TraceSummary where
  traceId
  businessName := row.businessName
  businessInstanceId := row.instanceId
  status := row.status
  startedUnixMicroseconds := row.startedUs
  durationNanoseconds := row.durationNs
  stepCount := row.stepCount
  failedOperation := row.failedOperation

/-- The rows of one database that a query asks for; `like` is the operator of SQL. -/
def TraceShard.select (like : String → String → Bool) (query : TraceHistoryQuery)
    (perShardLimit : Nat) (shard : TraceShard) : List TraceSummary :=
  let chosen := shard.traces.filter fun entry =>
    decide (query.fromUnixMicroseconds ≤ entry.2.startedUs) &&
      decide (entry.2.startedUs ≤ query.toUnixMicroseconds) &&
      (query.businessName.isEmpty || like ("%" ++ query.businessName ++ "%") entry.2.businessName) &&
      (query.status.isEmpty || entry.2.status == query.status)
  ((chosen.map fun entry => entry.2.summary entry.1).mergeSort latestFirst).take perShardLimit

/-- A query with its defaults filled in. -/
def TraceHistoryQuery.resolved (query : TraceHistoryQuery) (retention nowUs : Int) :
    TraceHistoryQuery :=
  let toUs := if query.toUnixMicroseconds ≤ 0 then nowUs else query.toUnixMicroseconds
  { query with
    limit := max 1 (min query.limit 1000)
    toUnixMicroseconds := toUs
    fromUnixMicroseconds :=
      if query.fromUnixMicroseconds ≤ 0 then toUs - retention else query.fromUnixMicroseconds }

def Persistence.history (like : String → String → Bool) (persistence : Persistence)
    (configured : TraceHistoryQuery) (nowUs : Int) : TraceHistoryResult :=
  let query := configured.resolved persistence.retentionMicroseconds nowUs
  let rows := persistence.catalog.filter fun entry =>
    decide (entry.2.endUs ≥ query.fromUnixMicroseconds) &&
      decide (entry.2.startUs ≤ query.toUnixMicroseconds)
  let ordered := rows.mergeSort fun left right => decide (left.2.startUs ≥ right.2.startUs)
  let perShardLimit := min ((query.limit + query.offset + 1) % 2 ^ 64) 5000
  -- A catalogued database whose file is missing is skipped.
  let shards := ordered.filterMap fun entry => persistence.files.lookup entry.1
  let all := (shards.flatMap (·.select like query perShardLimit)).mergeSort latestFirst
  let first := min query.offset all.length
  let last := min (first + query.limit) all.length
  { records := (all.take last).drop first
    hasMore := decide (last < all.length) }

/-- A store with a fresh database directory. -/
def TraceStore.configured (capacity : Nat) (retentionMicroseconds : Int) : TraceStore :=
  { capacity, persistence := some { retentionMicroseconds } }

def TraceStore.upsert (store : TraceStore) (call : UpsertCall) : TraceStore :=
  let spans := putSpan call.span store.spans
  { store with
    -- The oldest entries make room.
    spans := spans.drop (spans.length - store.capacity)
    persistence := store.persistence.map (·.upsert call) }

def TraceStore.history (like : String → String → Bool) (store : TraceStore)
    (query : TraceHistoryQuery) (nowUs : Int) : TraceHistoryResult :=
  match store.persistence with
  | some persistence => persistence.history like query nowUs
  | none => {}

end PocoDDS.Observability
