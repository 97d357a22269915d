import PocoDDS.Lib.Paging
import PocoDDS.Observability.TraceViews

/-! The pages of the trace history: when they list every matching trace once. -/

namespace PocoDDS.Observability

open AssocList RunLogic TraceHistoryQuery

/-- The time that pages are ordered by. -/
def TraceSummary.start (summary : TraceSummary) : Int := summary.startedUnixMicroseconds

/-- The rows of one database that a query asks for, before they are sorted and limited. -/
def TraceShard.matching (like : String → String → Bool) (query : TraceHistoryQuery)
    (shard : TraceShard) : List TraceSummary :=
  let chosen := shard.traces.filter fun entry =>
    decide (query.fromUnixMicroseconds ≤ entry.2.startedUs) &&
      decide (entry.2.startedUs ≤ query.toUnixMicroseconds) &&
      (query.businessName.isEmpty || like ("%" ++ query.businessName ++ "%") entry.2.businessName) &&
      (query.status.isEmpty || entry.2.status == query.status)
  chosen.map fun entry => entry.2.summary entry.1

/-- The databases that a query opens, the latest hour first. -/
def Persistence.visited (persistence : Persistence) (query : TraceHistoryQuery) :
    List TraceShard :=
  let rows := persistence.catalog.filter fun entry =>
    decide (entry.2.endUs ≥ query.fromUnixMicroseconds) &&
      decide (entry.2.startUs ≤ query.toUnixMicroseconds)
  let ordered := rows.mergeSort fun left right => decide (left.2.startUs ≥ right.2.startUs)
  ordered.filterMap fun entry => persistence.files.lookup entry.1

/-- The rows of one database that a query gets at most. -/
def TraceHistoryQuery.perShardLimit (query : TraceHistoryQuery) : Nat :=
  min ((query.limit + query.offset + 1) % 2 ^ 64) 5000

/-- What `history` may answer: rows that start at the same time may come in any order out of each
database, and out of `std::sort`. -/
def Persistence.Answers (like : String → String → Bool) (persistence : Persistence)
    (configured : TraceHistoryQuery) (nowUs : Int) (result : TraceHistoryResult) : Prop :=
  let query := configured.resolved persistence.retentionMicroseconds nowUs
  ∃ (selected : List (List TraceSummary)) (all : List TraceSummary),
    List.Forall₂ (fun shard rows => ∃ sorted,
      Paging.Ordered TraceSummary.start (shard.matching like query) sorted ∧
        rows = sorted.take query.perShardLimit) (persistence.visited query) selected ∧
    Paging.Ordered TraceSummary.start selected.flatten all ∧
    let first := min query.offset all.length
    let last := min (first + query.limit) all.length
    result = { records := (all.take last).drop first, hasMore := decide (last < all.length) }

/-- Every persisted trace that a query matches, database by database. -/
def Persistence.matching (like : String → String → Bool) (persistence : Persistence)
    (query : TraceHistoryQuery) : List TraceSummary :=
  persistence.files.flatMap fun entry => entry.2.matching like query

section Answering

variable {like : String → String → Bool} {persistence : Persistence}

theorem latestFirst_ordered (rows : List TraceSummary) :
    Paging.Ordered TraceSummary.start rows (rows.mergeSort latestFirst) := by
  refine ⟨List.mergeSort_perm _ _, ?_⟩
  have sorted : (rows.mergeSort latestFirst).Pairwise fun left right =>
      latestFirst left right = true := by
    refine List.pairwise_mergeSort ?_ ?_ rows
    · intro first second third below further
      simp only [latestFirst, decide_eq_true_eq] at below further ⊢
      omega
    · intro first second
      simp only [latestFirst, Bool.or_eq_true, decide_eq_true_eq]
      omega
  exact sorted.imp fun below => of_decide_eq_true below

/-- The stable sorts of `history` give one of the answers. -/
theorem history_answers (configured : TraceHistoryQuery) (nowUs : Int) :
    persistence.Answers like configured nowUs (persistence.history like configured nowUs) := by
  refine ⟨(persistence.visited (configured.resolved persistence.retentionMicroseconds nowUs)).map
    fun shard => shard.select like (configured.resolved persistence.retentionMicroseconds nowUs)
      (configured.resolved persistence.retentionMicroseconds nowUs).perShardLimit,
    _, ?_, latestFirst_ordered _, ?_⟩
  · rw [List.forall₂_map_right_iff, List.forall₂_same]
    exact fun shard _ => ⟨_, latestFirst_ordered _, rfl⟩
  · rw [← List.flatMap_def]
    rfl

/-- A result as a page of the rows in the visited databases. -/
def TraceHistoryResult.page (result : TraceHistoryResult) : Paging.Page TraceSummary :=
  ⟨result.records, result.hasMore⟩

theorem answers_iff {configured : TraceHistoryQuery} {nowUs : Int} {result : TraceHistoryResult} :
    persistence.Answers like configured nowUs result ↔
      let query := configured.resolved persistence.retentionMicroseconds nowUs
      Paging.Answer TraceSummary.start
        ((persistence.visited query).map (·.matching like query)) query.perShardLimit
        query.offset query.limit result.page := by
  unfold Persistence.Answers Paging.Answer
  simp only [List.forall₂_map_left_iff]
  refine exists_congr fun selected => exists_congr fun all => and_congr_right fun _ =>
    and_congr_right fun _ => ?_
  constructor
  · rintro rfl
    rfl
  · intro same
    obtain ⟨records, more⟩ := result
    cases same
    rfl

end Answering

section Filing

variable {retention : Int} {persistence : Persistence}

/-- How databases and catalogue go together. -/
structure Filed (retention : Int) (persistence : Persistence) : Prop where
  period : persistence.retentionMicroseconds = retention
  catalogued : (keys persistence.catalog).Nodup
  distinct : (keys persistence.files).Nodup
  same : ∀ key, key ∈ keys persistence.catalog ↔ key ∈ keys persistence.files
  hours : ∀ entry ∈ persistence.catalog, entry.2 = ⟨entry.1, entry.1 + hour - 1⟩
  /-- A trace starts in the hour of its database. -/
  rows : ∀ file ∈ persistence.files, ∀ entry ∈ file.2.traces,
    hourStartMicroseconds entry.2.startedUs = file.1

theorem filed_configured (retention : Int) :
    Filed retention { retentionMicroseconds := retention } where
  period := rfl
  catalogued := by simp [keys]
  distinct := by simp [keys]
  same := by simp [keys]
  hours := by simp
  rows := by simp

theorem rows_upsert {shard : TraceShard} {key : Int} {span : SpanSnapshot}
    (own : ∀ entry ∈ shard.traces, hourStartMicroseconds entry.2.startedUs = key)
    (hourly : hourStartMicroseconds span.startedUnixMicroseconds = key) :
    ∀ entry ∈ (shard.upsert span).traces, hourStartMicroseconds entry.2.startedUs = key := by
  intro entry member
  rcases mem_upsert member with old | rfl | ⟨row, listed, rfl⟩
  · exact own entry old
  · exact hourly
  · -- The earlier of two starts in the hour is in the hour.
    have before := own _ listed
    show hourStartMicroseconds (min row.startedUs span.startedUnixMicroseconds) = key
    rcases min_choice row.startedUs span.startedUnixMicroseconds with first | second
    · rw [first]
      exact before
    · rw [second]
      exact hourly

theorem Filed.write (filed : Filed retention persistence) (span : SpanSnapshot) :
    Filed retention (persistence.write span) where
  period := filed.period
  catalogued := nodup_keys_upsert filed.catalogued _ _ _
  distinct := nodup_keys_upsert filed.distinct _ _ _
  same := by
    intro key
    simp only [Persistence.write, keys_upsert, filed.same]
    split
    · exact filed.same key
    · simp [filed.same key]
  hours := by
    intro entry member
    rcases mem_upsert member with old | rfl | ⟨row, listed, rfl⟩
    · exact filed.hours entry old
    · rfl
    · exact filed.hours _ listed
  rows := by
    intro file member
    rcases mem_upsert member with old | rfl | ⟨shard, listed, rfl⟩
    · exact filed.rows file old
    · have nothing : ∀ entry ∈ ({} : TraceShard).traces, hourStartMicroseconds entry.2.startedUs =
            hourStartMicroseconds span.startedUnixMicroseconds := by simp
      exact rows_upsert nothing rfl
    · exact rows_upsert (filed.rows _ listed) rfl

/-- A purge removes an hour from the catalogue together with its database. -/
theorem Filed.purgeExpired (filed : Filed retention persistence) (now : Int) :
    Filed retention (persistence.purgeExpired now) where
  period := filed.period
  catalogued := nodup_keys_filter filed.catalogued _
  distinct := nodup_keys_filter filed.distinct _
  same := by
    intro key
    constructor
    · intro kept
      obtain ⟨entry, member, rfl⟩ := List.mem_map.mp kept
      obtain ⟨listed, current⟩ := List.mem_filter.mp member
      obtain ⟨file, stored, named⟩ := List.mem_map.mp
        ((filed.same entry.1).mp (List.mem_map_of_mem listed))
      refine List.mem_map.mpr ⟨file, List.mem_filter.mpr ⟨stored, ?_⟩, named⟩
      -- Another entry of the hour would end at the same time.
      simp only [decide_eq_true_eq] at current ⊢
      intro expired
      obtain ⟨other, late, same⟩ := List.mem_map.mp expired
      obtain ⟨otherListed, ended⟩ := List.mem_filter.mp late
      simp only [decide_eq_true_eq] at ended
      rw [filed.hours other otherListed, same, named] at ended
      rw [filed.hours entry listed] at current
      exact current ended
    · intro kept
      obtain ⟨file, member, rfl⟩ := List.mem_map.mp kept
      obtain ⟨stored, spared⟩ := List.mem_filter.mp member
      obtain ⟨entry, listed, named⟩ := List.mem_map.mp
        ((filed.same file.1).mpr (List.mem_map_of_mem stored))
      refine List.mem_map.mpr ⟨entry, List.mem_filter.mpr ⟨listed, ?_⟩, named⟩
      simp only [decide_eq_true_eq] at spared ⊢
      intro ended
      exact spared (named ▸ List.mem_map_of_mem
        (List.mem_filter.mpr ⟨listed, decide_eq_true ended⟩))
  hours := fun entry member => filed.hours entry (List.mem_of_mem_filter member)
  rows := fun file member => filed.rows file (List.mem_of_mem_filter member)

theorem Filed.upsert (filed : Filed retention persistence) (call : UpsertCall) :
    Filed retention (persistence.upsert call) := by
  unfold Persistence.upsert
  split
  · exact filed
  · have written := filed.write call.span
    simp only
    split
    · have reset : Filed retention { persistence.write call.span with writesSincePurge := 0 } :=
        ⟨written.period, written.catalogued, written.distinct, written.same, written.hours,
          written.rows⟩
      exact reset.purgeExpired call.purged
    · exact written

theorem filed_run (retention : Int) (calls : List UpsertCall) :
    Filed retention (calls.foldl Persistence.upsert { retentionMicroseconds := retention }) :=
  Along.invariant (fun _ call filed _ => filed.upsert call) (filed_configured retention)
    (Along.free _ calls)

end Filing

section Visiting

variable {like : String → String → Bool} {retention : Int} {persistence : Persistence}
  {query : TraceHistoryQuery}

theorem perm_filterMap_lookup {files : List (Int × TraceShard)} (distinct : (keys files).Nodup)
    {wanted : List Int} (once : wanted.Nodup) (known : ∀ key ∈ wanted, key ∈ keys files) :
    (wanted.filterMap fun key => files.lookup key).Perm ((files.filter (·.1 ∈ wanted)).map Prod.snd) := by
  have chosen : (keys (files.filter (·.1 ∈ wanted))).Perm wanted := by
    refine (List.perm_ext_iff_of_nodup (nodup_keys_filter distinct _) once).mpr fun key => ?_
    constructor
    · intro member
      obtain ⟨file, kept, rfl⟩ := List.mem_map.mp member
      simpa using (List.mem_filter.mp kept).2
    · intro member
      obtain ⟨file, stored, rfl⟩ := List.mem_map.mp (known key member)
      exact List.mem_map_of_mem (List.mem_filter.mpr ⟨stored, by simpa using member⟩)
  have values : ((keys (files.filter (·.1 ∈ wanted))).filterMap fun key => files.lookup key) =
      (files.filter (·.1 ∈ wanted)).map Prod.snd := by
    have found : ∀ file ∈ files.filter (·.1 ∈ wanted), files.lookup file.1 = some file.2 :=
      fun file member => (lookup_eq_some_iff distinct).mpr (List.mem_of_mem_filter member)
    rw [keys, List.filterMap_map, ← List.filterMap_eq_map]
    exact List.filterMap_congr found
  rw [← values]
  exact (chosen.filterMap _).symm

theorem flatMap_filter_of_nil {α β : Type} {rows : List α} {keep : α → Bool} {inside : α → List β}
    (empty : ∀ row ∈ rows, keep row = false → inside row = []) :
    (rows.filter keep).flatMap inside = rows.flatMap inside := by
  induction rows with
  | nil => rfl
  | cons row rest ih =>
    have later := ih fun other member => empty other (List.mem_cons_of_mem _ member)
    cases kept : keep row with
    | true => simp [kept, later]
    | false => simp [kept, later, empty row List.mem_cons_self kept]

theorem hourStart_le {value bound : Int} (within : value ≤ bound) (epoch : 0 ≤ bound) :
    hourStartMicroseconds value ≤ bound := by
  unfold hourStartMicroseconds
  rcases Int.le_total 0 value with after | before
  · rw [Int.tdiv_eq_ediv_of_nonneg after]
    exact (Int.ediv_mul_le value (show hour ≠ 0 by decide)).trans within
  · have rounded : 0 ≤ (-value).tdiv hour := Int.tdiv_nonneg (by omega) (by decide)
    rw [Int.neg_tdiv] at rounded
    have scaled : value.tdiv hour * hour ≤ 0 :=
      Int.mul_nonpos_of_nonpos_of_nonneg (by omega) (by decide)
    exact scaled.trans epoch

/-- A query with an end that is not before the epoch opens every database with a match. -/
theorem exists_opened (like : String → String → Bool) (filed : Filed retention persistence)
    (ends : 0 ≤ query.toUnixMicroseconds) :
    ∃ keep : Int × TraceShard → Bool,
      (persistence.visited query).Perm ((persistence.files.filter keep).map Prod.snd) ∧
        ∀ file ∈ persistence.files, keep file = false → file.2.matching like query = [] := by
  obtain ⟨wanted, shape⟩ : ∃ wanted, wanted = persistence.catalog.filter fun entry =>
    decide (entry.2.endUs ≥ query.fromUnixMicroseconds) &&
      decide (entry.2.startUs ≤ query.toUnixMicroseconds) := ⟨_, rfl⟩
  refine ⟨fun file => decide (file.1 ∈ keys wanted), ?_, ?_⟩
  · have once : (keys wanted).Nodup := by
      rw [shape]
      exact nodup_keys_filter filed.catalogued _
    have known : ∀ key ∈ keys wanted, key ∈ keys persistence.files := by
      intro key member
      obtain ⟨entry, listed, rfl⟩ := List.mem_map.mp member
      rw [shape] at listed
      exact (filed.same entry.1).mp (List.mem_map_of_mem (List.mem_of_mem_filter listed))
    have chosen := perm_filterMap_lookup filed.distinct once known
    rw [keys, List.filterMap_map] at chosen
    refine List.Perm.trans ?_ chosen
    unfold Persistence.visited
    rw [← shape]
    exact (List.mergeSort_perm _ _).filterMap _
  · -- A match lies in the hour of its database, which then meets the query's period.
    intro file stored skipped
    rw [decide_eq_false_iff_not] at skipped
    unfold TraceShard.matching
    rw [List.map_eq_nil_iff, List.filter_eq_nil_iff]
    intro entry member selected
    simp only [Bool.and_eq_true, decide_eq_true_eq] at selected
    obtain ⟨⟨⟨late, early⟩, -⟩, -⟩ := selected
    obtain ⟨row, listed, named⟩ := List.mem_map.mp
      ((filed.same file.1).mpr (List.mem_map_of_mem stored))
    have own := filed.rows file stored entry member
    have ending := le_hourEnd entry.2.startedUs
    have starting := hourStart_le early ends
    rw [own] at ending starting
    refine skipped (named ▸ List.mem_map_of_mem ?_)
    rw [shape, List.mem_filter, filed.hours row listed]
    simp only [Bool.and_eq_true, decide_eq_true_eq, named]
    exact ⟨listed, by omega, starting⟩

theorem matching_visited (filed : Filed retention persistence)
    (ends : 0 ≤ query.toUnixMicroseconds) :
    ((persistence.visited query).map (·.matching like query)).flatten.Perm
      (persistence.matching like query) := by
  obtain ⟨keep, opened, empty⟩ := exists_opened like filed ends
  have flat := (opened.map fun shard => shard.matching like query).flatten
  rw [List.map_map] at flat
  unfold Persistence.matching
  rw [← flatMap_filter_of_nil empty, List.flatMap_def]
  exact flat

theorem small_visited_iff (filed : Filed retention persistence)
    (ends : 0 ≤ query.toUnixMicroseconds) (bound : Nat) :
    (∀ part ∈ (persistence.visited query).map (·.matching like query), part.length ≤ bound) ↔
      ∀ file ∈ persistence.files, (file.2.matching like query).length ≤ bound := by
  obtain ⟨keep, opened, empty⟩ := exists_opened like filed ends
  constructor
  · intro small file stored
    cases kept : keep file with
    | false => simp [empty file stored kept]
    | true =>
      refine small _ (List.mem_map_of_mem (opened.mem_iff.mpr ?_))
      exact List.mem_map_of_mem (List.mem_filter.mpr ⟨stored, kept⟩)
  · intro small part listed
    obtain ⟨shard, visited, rfl⟩ := List.mem_map.mp listed
    obtain ⟨file, kept, rfl⟩ := List.mem_map.mp (opened.mem_iff.mp visited)
    exact small file (List.mem_of_mem_filter kept)

end Visiting

section Paged

def TraceHistoryQuery.paged (query : TraceHistoryQuery) (size call : Nat) : TraceHistoryQuery :=
  { query with limit := size, offset := call * size }

/-- The pages up to the first that announces no more list every row once and in order, each under an
id of its own, and a page announces more exactly if a later one has some. -/
def ListsOnce (rows : List TraceSummary) (pages : Nat → TraceHistoryResult) : Prop :=
  (∃ last, (∀ call < last, (pages call).hasMore = true) ∧ (pages last).hasMore = false ∧
    let shown := (List.range (last + 1)).flatMap fun call => (pages call).records
    (shown.map (·.traceId)).Nodup ∧ Paging.Ordered TraceSummary.start rows shown) ∧
  ∀ call, (pages call).hasMore = true ↔ ∃ later > call, (pages later).records ≠ []

/-- What the pages of a query rely on. -/
structure Pageable (like : String → String → Bool) (persistence : Persistence)
    (query : TraceHistoryQuery) (size : Nat) : Prop where
  /-- No trace has a matching row in two databases. -/
  once : ((persistence.matching like query).map (·.traceId)).Nodup
  /-- No database has more matches than a query gets of it. -/
  small : ∀ file ∈ persistence.files, (file.2.matching like query).length ≤ 5000
  /-- Traces that start at the same time are on one page. -/
  separated : ∀ call, Paging.Separated TraceSummary.start (persistence.matching like query)
    (call * size)

variable {like : String → String → Bool} {retention : Int} {persistence : Persistence}
  {query : TraceHistoryQuery} {size : Nat} {nows : Nat → Int}

/-- The rows of one database that a page gets at most. -/
def pageLimit (size call : Nat) : Nat := min ((size + call * size + 1) % 2 ^ 64) 5000

theorem listsOnce_iff {rows others : List TraceSummary} (same : rows.Perm others)
    (once : (others.map (·.traceId)).Nodup) {pages : Nat → TraceHistoryResult} :
    ListsOnce others pages ↔
      Paging.Partitions TraceSummary.start rows fun call => (pages call).page := by
  unfold ListsOnce Paging.Partitions
  refine and_congr_left' (exists_congr fun last => and_congr_right fun _ =>
    and_congr_right fun _ => ?_)
  constructor
  · rintro ⟨-, ordered⟩
    exact ordered.trans_perm same.symm
  · intro ordered
    have listed := ordered.trans_perm same
    exact ⟨(listed.1.map _).nodup_iff.mpr once, listed⟩

theorem enough_pageLimit {parts : List (List TraceSummary)}
    (fits : parts.flatten.length + 1000 < 2 ^ 64) (sized : 1 ≤ size ∧ size ≤ 1000)
    (small : ∀ part ∈ parts, part.length ≤ 5000) :
    Paging.Enough parts (pageLimit size) size := by
  intro call inside
  unfold pageLimit
  rw [Nat.mod_eq_of_lt (by omega)]
  rcases Nat.le_total (size + call * size + 1) 5000 with narrow | wide
  · left
    omega
  · right
    rw [Nat.min_eq_right wide]
    exact small

variable (filed : Filed retention persistence) (sized : 1 ≤ size ∧ size ≤ 1000)
  (steady : ∀ call, (query.resolved retention (nows call)).fromUnixMicroseconds =
      (query.resolved retention (nows 0)).fromUnixMicroseconds ∧
    (query.resolved retention (nows call)).toUnixMicroseconds =
      (query.resolved retention (nows 0)).toUnixMicroseconds)
  (clock : 0 ≤ nows 0)

include filed sized steady clock

omit filed clock in
theorem resolved_paged (call : Nat) : (query.paged size call).resolved retention (nows call) =
      (query.resolved retention (nows 0)).paged size call := by
  obtain ⟨first, last⟩ := steady call
  have limit : max 1 (min size 1000) = size := by omega
  unfold resolved paged at *
  simp only [mk.injEq] at *
  exact ⟨first, last, trivial, trivial, limit, trivial⟩

omit clock in
theorem answers_paged_iff (call : Nat) (result : TraceHistoryResult) :
    persistence.Answers like (query.paged size call) (nows call) result ↔
      Paging.Answer TraceSummary.start
        ((persistence.visited (query.resolved retention (nows 0))).map
          (·.matching like (query.resolved retention (nows 0)))) (pageLimit size call)
        (call * size) size result.page := by
  rw [answers_iff, filed.period]
  dsimp only
  rw [resolved_paged sized steady]
  exact Iff.rfl

omit sized steady in
theorem rows_perm_matching : ((persistence.visited (query.resolved retention (nows 0))).map
      (·.matching like (query.resolved retention (nows 0)))).flatten.Perm
        (persistence.matching like (query.resolved retention (nows 0))) := by
  refine matching_visited filed ?_
  unfold resolved
  dsimp only
  split <;> omega

omit filed sized steady in
theorem resolved_ends : 0 ≤ (query.resolved retention (nows 0)).toUnixMicroseconds := by
  unfold resolved
  dsimp only
  split <;> omega

omit filed sized steady clock in
theorem once_of_listsOnce {rows : List TraceSummary} (lists : ∀ pages : Nat → TraceHistoryResult,
      (∀ call, persistence.Answers like (query.paged size call) (nows call) (pages call)) →
        ListsOnce rows pages) : (rows.map (·.traceId)).Nodup := by
  obtain ⟨⟨last, -, -, distinct, ordered⟩, -⟩ := lists
    (fun call => persistence.history like (query.paged size call) (nows call))
    fun call => history_answers _ _
  exact (ordered.1.map _).nodup_iff.mp distinct

theorem partitions_of_listsOnce (lists : ∀ pages : Nat → TraceHistoryResult,
      (∀ call, persistence.Answers like (query.paged size call) (nows call) (pages call)) →
        ListsOnce (persistence.matching like (query.resolved retention (nows 0))) pages)
    (pages : Nat → Paging.Page TraceSummary)
    (answers : ∀ call, Paging.Answer TraceSummary.start
      ((persistence.visited (query.resolved retention (nows 0))).map
        (·.matching like (query.resolved retention (nows 0)))) (pageLimit size call)
      (call * size) size (pages call)) :
    Paging.Partitions TraceSummary.start
      ((persistence.visited (query.resolved retention (nows 0))).map
        (·.matching like (query.resolved retention (nows 0)))).flatten pages := by
  have listed := lists (fun call => ⟨(pages call).rows, (pages call).more⟩)
    fun call => (answers_paged_iff filed sized steady call _).mpr (answers call)
  exact (listsOnce_iff (rows_perm_matching filed clock) (once_of_listsOnce lists)).mp listed

/-- Only databases within the limit are listed whole. -/
theorem small_of_listsOnce (lists : ∀ pages : Nat → TraceHistoryResult,
      (∀ call, persistence.Answers like (query.paged size call) (nows call) (pages call)) →
        ListsOnce (persistence.matching like (query.resolved retention (nows 0))) pages) :
    ∀ file ∈ persistence.files,
      (file.2.matching like (query.resolved retention (nows 0))).length ≤ 5000 := by
  have distinct := (rows_perm_matching filed clock).nodup_iff.mpr
    (List.Nodup.of_map _ (once_of_listsOnce lists))
  refine (small_visited_iff filed (resolved_ends clock) 5000).mp fun part listed => ?_
  exact Paging.small_of_partitions distinct (partitions_of_listsOnce filed sized steady clock lists)
    (fun call => Nat.min_le_right _ _) listed

theorem listsOnce_iff_pageable
    (fits : (persistence.matching like (query.resolved retention (nows 0))).length + 1000 <
      2 ^ 64) :
    (∀ pages : Nat → TraceHistoryResult,
      (∀ call, persistence.Answers like (query.paged size call) (nows call) (pages call)) →
        ListsOnce (persistence.matching like (query.resolved retention (nows 0))) pages) ↔
      Pageable like persistence (query.resolved retention (nows 0)) size := by
  have same := @rows_perm_matching like retention persistence query nows filed clock
  have bounded := @small_visited_iff like retention persistence (query.resolved retention (nows 0))
    filed (resolved_ends clock) 5000
  rw [← same.length_eq] at fits
  constructor
  · intro lists
    have once := once_of_listsOnce lists
    have small := small_of_listsOnce filed sized steady clock lists
    refine ⟨once, small, fun call => ?_⟩
    exact (Paging.separated_of_partitions (same.nodup_iff.mpr (List.Nodup.of_map _ once))
      (partitions_of_listsOnce filed sized steady clock lists) (by omega)
      (enough_pageLimit fits sized (bounded.mpr small)) call).perm same
  · intro pageable pages answers
    rw [listsOnce_iff same pageable.once]
    refine Paging.partitions_of_separated
      (fun call => (answers_paged_iff filed sized steady call _).mp (answers call)) (by omega)
      (enough_pageLimit fits sized (bounded.mpr pageable.small)) fun call => ?_
    exact (pageable.separated call).perm same.symm

end Paged

section Overfull

/-- Another trace for each number, which starts that many microseconds later. -/
def crowdSpan (number : Nat) : SpanSnapshot :=
  { sampleSnapshot "span" "success" 0 with
    traceId := String.ofList (List.replicate number 'a')
    startedUnixMicroseconds := 5000 + number }

/-- That many traces in one hour. -/
def crowdCalls (count : Nat) : List UpsertCall :=
  (List.range count).map fun number => ⟨crowdSpan number, 20000, 20000⟩

variable {retention key : Int} {traceId : String} {updates : List SpanSnapshot}
  {persistence : Persistence}

theorem Stored.run (stored : Stored retention traceId key updates persistence)
    {calls : List UpsertCall}
    (hourly : ∀ call ∈ calls, call.span.traceId = traceId →
      hourStartMicroseconds call.span.startedUnixMicroseconds = key)
    (young : ∀ call ∈ calls, call.span.traceId = traceId →
      call.checked - retention ≤ call.span.startedUnixMicroseconds)
    (within : ∀ call ∈ calls, call.purged - retention ≤ key + hour - 1) :
    Stored retention traceId key (updates ++ updatesOf traceId calls)
      (calls.foldl Persistence.upsert persistence) := by
  induction calls generalizing persistence updates with
  | nil => simpa [updatesOf] using stored
  | cons call rest ih =>
    have first := stored.upsert (hourly call (by simp)) (young call (by simp))
      (within call (by simp))
    have later := ih first (fun other member => hourly other (List.mem_cons_of_mem _ member))
      (fun other member => young other (List.mem_cons_of_mem _ member))
      (fun other member => within other (List.mem_cons_of_mem _ member))
    rw [updatesOf_cons] at later
    exact later

theorem crowd_hour {number : Nat} (small : number < 10000) :
    hourStartMicroseconds (5000 + number) = 0 := by
  unfold hourStartMicroseconds
  rw [Int.tdiv_eq_zero_of_lt (by omega) (by unfold hour; omega), Int.zero_mul]

theorem crowd_stored (number : Nat) {count : Nat} (small : count ≤ 10000) :
    Stored 864000000000 (crowdSpan number).traceId 0
      (updatesOf (crowdSpan number).traceId (crowdCalls count))
      ((crowdCalls count).foldl Persistence.upsert { retentionMicroseconds := 864000000000 }) := by
  refine (stored_configured 864000000000 (crowdSpan number).traceId 0).run ?_ ?_ ?_
  · intro call member _
    obtain ⟨other, early, rfl⟩ := List.mem_map.mp member
    exact crowd_hour ((List.mem_range.mp early).trans_le small)
  · intro call member _
    obtain ⟨other, early, rfl⟩ := List.mem_map.mp member
    show (20000 : Int) - 864000000000 ≤ 5000 + other
    omega
  · intro call member
    obtain ⟨other, early, rfl⟩ := List.mem_map.mp member
    show (20000 : Int) - 864000000000 ≤ 0 + hour - 1
    unfold hour
    omega

theorem crowd_rows {count : Nat} (positive : 0 < count) (small : count ≤ 10000) :
    ∃ shard, (0, shard) ∈ ((crowdCalls count).foldl Persistence.upsert
        { retentionMicroseconds := 864000000000 }).files ∧
      ∀ number < count, ∃ row, (String.ofList (List.replicate number 'a'), row) ∈ shard.traces ∧
        5000 ≤ row.startedUs ∧ row.startedUs ≤ 15000 := by
  have spans : (crowdCalls count).map (·.span) = (List.range count).map crowdSpan := List.map_map
  have seen {number : Nat} (early : number < count) :
      crowdSpan number ∈ updatesOf (crowdSpan number).traceId (crowdCalls count) := by
    unfold updatesOf
    rw [spans]
    refine List.mem_filter.mpr ⟨List.mem_map_of_mem (List.mem_range.mpr early), ?_⟩
    exact decide_eq_true rfl
  obtain ⟨shard, found⟩ : ∃ shard, ((crowdCalls count).foldl Persistence.upsert
      { retentionMicroseconds := 864000000000 }).files.lookup 0 = some shard := by
    refine Option.ne_none_iff_exists'.mp fun absent => ?_
    exact List.ne_nil_of_mem (seen positive) ((crowd_stored 0 small).unseen absent)
  refine ⟨shard, (lookup_eq_some_iff (crowd_stored 0 small).distinct).mp found,
    fun number early => ?_⟩
  have stored := crowd_stored number small
  have holds := stored.here shard found
  obtain ⟨row, listed⟩ : ∃ row, shard.traces.lookup (crowdSpan number).traceId = some row := by
    refine Option.ne_none_iff_exists'.mp fun absent => ?_
    exact List.ne_nil_of_mem (seen early) (holds.missing absent)
  -- The row starts with one of the spans.
  obtain ⟨⟨update, among, start⟩, -⟩ := (holds.row row listed).earliest
  unfold updatesOf at among
  rw [spans] at among
  obtain ⟨other, bound, rfl⟩ := List.mem_map.mp (List.mem_of_mem_filter among)
  have before := List.mem_range.mp bound
  change (5000 : Int) + other = row.startedUs at start
  refine ⟨row, (lookup_eq_some_iff (stored.tables 0 shard found)).mp listed, ?_, ?_⟩
  · omega
  · omega

theorem crowd_ids_nodup (count : Nat) :
    ((List.range count).map fun number => String.ofList (List.replicate number 'a')).Nodup := by
  refine List.Nodup.map (fun first second same => ?_) List.nodup_range
  have lengths := congrArg (fun text : String => text.toList.length) same
  simpa using lengths

theorem crowd_matching (count : Nat) (positive : 0 < count) (small : count ≤ 10000) :
    ∃ shard, (0, shard) ∈ ((crowdCalls count).foldl Persistence.upsert
        { retentionMicroseconds := 864000000000 }).files ∧
      count ≤ (shard.matching (fun _ _ => true) (resolved {} 864000000000 20000)).length := by
  obtain ⟨shard, stored, rows⟩ := crowd_rows positive small
  refine ⟨shard, stored, ?_⟩
  have inside : ((List.range count).map fun number => String.ofList (List.replicate number 'a')) ⊆
      (shard.matching (fun _ _ => true) (resolved {} 864000000000 20000)).map (·.traceId) := by
    intro id member
    obtain ⟨number, early, rfl⟩ := List.mem_map.mp member
    obtain ⟨row, listed, after, before⟩ := rows number (List.mem_range.mp early)
    refine List.mem_map.mpr ⟨row.summary _, List.mem_map.mpr ⟨(_, row), ?_, rfl⟩, rfl⟩
    refine List.mem_filter.mpr ⟨listed, ?_⟩
    simp [resolved]
    omega
  have bound := ((crowd_ids_nodup count).subperm inside).length_le
  rwa [List.length_map, List.length_range, List.length_map] at bound

end Overfull

end PocoDDS.Observability
