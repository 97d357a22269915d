import PocoDDS.Observability.Metrics

/-! When the metrics registry keeps its series apart and counts each of them exactly. -/

namespace PocoDDS.Observability

open AssocList Metrics

def MetricCall.series : MetricCall → MetricSeries
  | .addCounter name _ attributes _ _ _ => ⟨.counter, name, attributes⟩
  | .recordHistogram name _ attributes _ _ _ => ⟨.histogram, name, attributes⟩

def MetricCall.amount : MetricCall → ℚ
  | .addCounter _ value _ _ _ _ => value.toNat
  | .recordHistogram _ value _ _ _ _ => value

/-- The key under which a series is kept. -/
def MetricSeries.key (series : MetricSeries) : String :=
  seriesKey series.name series.attributes

/-- The point a call starts a series with. -/
def MetricCall.initial : MetricCall → MetricPoint
  | .addCounter name _ attributes description unit _ =>
    { name, description, unit, kind := .counter, attributes }
  | .recordHistogram name _ attributes description unit _ =>
    { name, description, unit, kind := .histogram, attributes }

/-- What a call does to the point it finds under its key. -/
def MetricCall.change : MetricCall → MetricPoint → MetricPoint
  | .addCounter _ value _ _ _ now => (·.add value now)
  | .recordHistogram _ value _ _ _ now => (·.record value now)

/-- Calls without a name are not looked at. -/
def MetricCall.named (call : MetricCall) : Bool :=
  !call.series.name.isEmpty

/-- The items of a list in the order in which they first appear. -/
def firstSeen {α : Type} [DecidableEq α] (items : List α) : List α :=
  items.foldl (fun seen item => if item ∈ seen then seen else seen ++ [item]) []

/-- The calls the registry looks at. -/
def seenCalls (calls : List MetricCall) : List MetricCall :=
  calls.filter (·.named)

/-- The first distinct series, as many as there is room for. -/
def acceptedSeries (limit : Nat) (calls : List MetricCall) : List MetricSeries :=
  (firstSeen ((seenCalls calls).map (·.series))).take limit

/-- The calls for series beyond the room there is. -/
def rejectedCalls (limit : Nat) (calls : List MetricCall) : List MetricCall :=
  (seenCalls calls).filter fun call => call.series ∉ acceptedSeries limit calls

/-- The amounts of one series, in order. -/
def amountsOf (series : MetricSeries) (calls : List MetricCall) : List ℚ :=
  ((seenCalls calls).filter (·.series = series)).map (·.amount)

/-- Whether a value falls into a bucket: not below the bounds before it, below those after it. -/
def inBucket (bounds : List ℚ) (index : Nat) (value : ℚ) : Bool :=
  (bounds.take index).all (· ≤ value) && (bounds.drop index).all (value < ·)

/-- What the point of a series has to show. -/
structure PointCounts (amounts : List ℚ) (point : MetricPoint) : Prop where
  counter : point.kind = .counter → point.value = amounts.sum
  count : point.kind = .histogram → point.count = amounts.length
  buckets : point.kind = .histogram → point.count = point.bucketCounts.sum
  shape : point.kind = .histogram → point.bucketCounts.length = point.explicitBounds.length + 1
  bucket : point.kind = .histogram → ∀ index, index < point.bucketCounts.length →
    point.bucketCounts[index]? =
      some (amounts.countP (inBucket point.explicitBounds index))

/-- One point for each accepted series, with its own updates, and the number of rejected calls. -/
def SeriesKept (limit : Nat) (calls : List MetricCall) (snapshot : List MetricPoint) : Prop :=
  ∃ kept dropped, snapshot = kept ++ dropped ∧
    (kept.map (·.series)).Perm (acceptedSeries limit calls) ∧
    (∀ point ∈ kept, PointCounts (amountsOf point.series calls) point) ∧
    if (rejectedCalls limit calls).length = 0 then dropped = []
    else ∃ point, dropped = [point] ∧ point.name = droppedSeriesName ∧
      point.value = (rejectedCalls limit calls).length

/-- No call shares the key of an accepted series without being of that series. -/
def KeysSeparate (limit : Nat) (calls : List MetricCall) : Prop :=
  ∀ series ∈ acceptedSeries limit calls, ∀ call ∈ seenCalls calls,
    call.series.key = series.key → call.series = series

section FirstSeen

variable {α : Type} [DecidableEq α]

theorem firstSeen_append_singleton (items : List α) (item : α) : firstSeen (items ++ [item]) =
      if item ∈ firstSeen items then firstSeen items else firstSeen items ++ [item] := by
  rw [firstSeen, List.foldl_append]
  rfl

@[simp] theorem mem_firstSeen {items : List α} {item : α} : item ∈ firstSeen items ↔ item ∈ items := by
  induction items using List.reverseRecOn with
  | nil => simp [firstSeen]
  | append_singleton items last ih =>
    rw [firstSeen_append_singleton]
    by_cases known : last ∈ firstSeen items
    · rw [if_pos known, ih, List.mem_append, List.mem_singleton]
      constructor
      · exact Or.inl
      · rintro (before | rfl)
        · exact before
        · exact ih.mp known
    · rw [if_neg known, List.mem_append, List.mem_append, ih]

/-- A shorter run has seen a part of what a longer one sees first. -/
theorem firstSeen_grows (items more : List α) : firstSeen items <+: firstSeen (items ++ more) := by
  induction more using List.reverseRecOn with
  | nil => simp
  | append_singleton more last ih =>
    rw [← List.append_assoc, firstSeen_append_singleton]
    split
    · exact ih
    · exact ih.trans (List.prefix_append _ _)

end FirstSeen

theorem inBucket_iff {bounds : List ℚ} (sorted : bounds.Pairwise (· < ·)) (value : ℚ) {index : Nat}
    (within : index ≤ bounds.length) :
    inBucket bounds index value = true ↔ upperBound bounds value = index := by
  induction bounds generalizing index with
  | nil =>
    have start : index = 0 := by simpa using within
    simp [inBucket, upperBound, start]
  | cons bound rest ih =>
    obtain ⟨least, sorted⟩ := List.pairwise_cons.mp sorted
    by_cases below : value < bound
    · -- Below the first bound, the value is below every bound.
      have everywhere : ∀ other ∈ rest, value < other := by
        intro other member
        exact lt_trans below (least other member)
      have first : upperBound (bound :: rest) value = 0 := by
        simp [upperBound, List.findIdx_cons, below]
      rw [first]
      cases index with
      | zero => simpa [inBucket, below] using everywhere
      | succ index => simp [inBucket, below]
    · have further : upperBound (bound :: rest) value = upperBound rest value + 1 := by
        simp [upperBound, List.findIdx_cons, below]
      have above : bound ≤ value := not_lt.mp below
      rw [further]
      cases index with
      | zero => simp [inBucket, above]
      | succ index =>
        have step : inBucket rest index value = true ↔ upperBound rest value = index :=
          ih sorted (by simpa using within)
        simp only [inBucket] at step
        simp [inBucket, above, ← step]

/-- Counting one more value changes the total by one. -/
theorem sum_modify_succ (counts : List Nat) {index : Nat} (within : index < counts.length) :
    (counts.modify index (· + 1)).sum = counts.sum + 1 := by
  induction counts generalizing index with
  | nil => simp at within
  | cons first rest ih =>
    cases index with
    | zero =>
      simp
      omega
    | succ index =>
      have step : (rest.modify index (· + 1)).sum = rest.sum + 1 := ih (by simpa using within)
      simp [step]
      omega

theorem defaultBounds_sorted : defaultBounds.Pairwise (· < ·) := by
  decide

theorem upperBound_le (bounds : List ℚ) (value : ℚ) : upperBound bounds value ≤ bounds.length :=
  List.findIdx_le_length

/-- A point and the amounts that made it: buckets are there from the first value on. -/
structure Counts (amounts : List ℚ) (point : MetricPoint) : Prop where
  counter : point.kind = .counter → point.value = amounts.sum
  count : point.kind = .histogram → point.count = amounts.length
  bounds : point.kind = .histogram → point.explicitBounds = defaultBounds
  shape : point.kind = .histogram → point.bucketCounts.length = defaultBounds.length + 1
  buckets : point.kind = .histogram → point.count = point.bucketCounts.sum
  bucket : point.kind = .histogram → ∀ index, index < defaultBounds.length + 1 →
    point.bucketCounts[index]? = some (amounts.countP (inBucket defaultBounds index))

theorem Counts.pointCounts {amounts : List ℚ} {point : MetricPoint} (counts : Counts amounts point) :
    PointCounts amounts point where
  counter := counts.counter
  count := counts.count
  buckets := counts.buckets
  shape := fun kind => by rw [counts.shape kind, counts.bounds kind]
  bucket := fun kind index within => by
    rw [counts.bounds kind]
    exact counts.bucket kind index (by rw [← counts.shape kind]; exact within)

@[simp] theorem MetricCall.initial_series (call : MetricCall) : call.initial.series = call.series := by
  cases call <;> rfl

@[simp] theorem MetricCall.change_series (call : MetricCall) (point : MetricPoint) :
    (call.change point).series = point.series := by
  cases call with
  | addCounter => rfl
  | recordHistogram =>
    simp only [MetricCall.change, MetricPoint.record, MetricPoint.prepareBuckets, MetricPoint.series]
    split <;> rfl

theorem record_bucket (counts : List Nat) (amounts : List ℚ) (value : ℚ)
    (bucket : ∀ index, index < defaultBounds.length + 1 →
      counts[index]? = some (amounts.countP (inBucket defaultBounds index)))
    {index : Nat} (within : index < defaultBounds.length + 1) :
    (counts.modify (upperBound defaultBounds value) (· + 1))[index]? =
      some ((amounts ++ [value]).countP (inBucket defaultBounds index)) := by
  have hit := inBucket_iff defaultBounds_sorted value (Nat.le_of_lt_succ within)
  rw [List.getElem?_modify, bucket index within, List.countP_append, List.countP_singleton]
  by_cases here : upperBound defaultBounds value = index
  · simp [here, hit.mpr here]
  · have miss : inBucket defaultBounds index value = false := by
      simpa using fun inside => here (hit.mp inside)
    simp [here, miss]

theorem Counts.change {amounts : List ℚ} {point : MetricPoint} (counts : Counts amounts point)
    (call : MetricCall) (own : point.series = call.series) :
    Counts (amounts ++ [call.amount]) (call.change point) := by
  cases call with
  | addCounter name value attributes description unit now =>
    have kind : point.kind = .counter := congrArg MetricSeries.kind own
    have other : ∀ (point : MetricPoint), point.kind = .counter → point.kind ≠ .histogram := by
      intro point counter histogram
      rw [counter] at histogram
      cases histogram
    refine ⟨fun _ => ?_, ?_, ?_, ?_, ?_, ?_⟩
    · simp [MetricCall.change, MetricPoint.add, MetricCall.amount, counts.counter kind]
    all_goals exact fun wrong => absurd wrong (other _ kind)
  | recordHistogram name value attributes description unit now =>
    have kind : point.kind = .histogram := congrArg MetricSeries.kind own
    have prepared : point.prepareBuckets = point := by
      simp [MetricPoint.prepareBuckets, counts.bounds kind, defaultBounds]
    have inside : upperBound defaultBounds value < point.bucketCounts.length := by
      rw [counts.shape kind]
      exact Nat.lt_succ_of_le (upperBound_le _ _)
    simp only [MetricCall.change, MetricPoint.record, prepared, MetricCall.amount]
    refine ⟨fun wrong => ?_, fun _ => ?_, fun _ => counts.bounds kind, fun _ => ?_, fun _ => ?_,
      fun _ index within => ?_⟩
    · rw [show point.kind = _ from wrong] at kind
      cases kind
    · simp [counts.count kind]
    · simp [counts.shape kind]
    · simp only [counts.bounds kind]
      rw [sum_modify_succ _ inside, counts.buckets kind]
    · simp only [counts.bounds kind]
      exact record_bucket _ _ _ (counts.bucket kind) within

/-- The first update of a series. -/
theorem Counts.first (call : MetricCall) : Counts [call.amount] (call.change call.initial) := by
  cases call with
  | addCounter name value attributes description unit now =>
    refine ⟨fun _ => ?_, ?_, ?_, ?_, ?_, ?_⟩
    · simp [MetricCall.change, MetricPoint.add, MetricCall.amount, MetricCall.initial]
    all_goals exact fun wrong => (by cases wrong)
  | recordHistogram name value attributes description unit now =>
    have empty : ∀ index, index < defaultBounds.length + 1 →
        (List.replicate (defaultBounds.length + 1) 0)[index]? =
          some (([] : List ℚ).countP (inBucket defaultBounds index)) := by
      intro index within
      simp [within]
    have inside : upperBound defaultBounds value < (List.replicate (defaultBounds.length + 1) 0).length := by
      rw [List.length_replicate]
      exact Nat.lt_succ_of_le (upperBound_le _ _)
    refine ⟨fun wrong => (by cases wrong), fun _ => rfl, fun _ => rfl, fun _ => ?_, fun _ => ?_,
      fun _ index within => ?_⟩
    · simp [MetricCall.change, MetricPoint.record, MetricPoint.prepareBuckets, MetricCall.initial]
    · have total := sum_modify_succ _ inside
      rw [List.sum_replicate] at total
      exact total.symm
    · exact record_bucket _ [] value empty within

/-- The registry after a sequence of calls. -/
def Metrics.after (maximumSeries : Nat) (calls : List MetricCall) : Metrics :=
  calls.foldl Metrics.update (Metrics.initializeWith maximumSeries)

/-- Both kinds of calls go the same way through the registry. -/
theorem Metrics.update_eq (metrics : Metrics) (call : MetricCall) : metrics.update call =
      if !call.named then metrics
      else
        let added := metrics.addSeries call.series.key call.initial
        if !added.1 then added.2
        else { added.2 with points := adjust call.series.key call.change added.2.points } := by
  cases call <;> simp only [MetricCall.named, Bool.not_not] <;> rfl

/-- Everything a call can do. -/
theorem Metrics.update_cases (metrics : Metrics) (call : MetricCall) :
    (call.named = false ∧ metrics.update call = metrics) ∨
    (call.named = true ∧ call.series.key ∈ keys metrics.points ∧ metrics.update call =
      { metrics with points := adjust call.series.key call.change metrics.points }) ∨
    (call.named = true ∧ call.series.key ∉ keys metrics.points ∧
      metrics.maximumSeries ≤ metrics.points.length ∧
      metrics.update call = { metrics with droppedSeries := metrics.droppedSeries + 1 }) ∨
    (call.named = true ∧ call.series.key ∉ keys metrics.points ∧
      metrics.points.length < metrics.maximumSeries ∧ metrics.update call = { metrics with
        points := metrics.points ++ [(call.series.key, call.change call.initial)] }) := by
  rw [metrics.update_eq call]
  cases named : call.named with
  | false => exact .inl ⟨rfl, rfl⟩
  | true =>
    right
    by_cases known : call.series.key ∈ keys metrics.points
    · left
      have found : (metrics.points.lookup call.series.key).isSome = true := by
        simpa using lookup_isSome_iff.mpr known
      refine ⟨rfl, known, ?_⟩
      simp [addSeries, found]
    · right
      have missing : (metrics.points.lookup call.series.key).isSome = false := by
        rw [lookup_eq_none_iff.mpr known]
        rfl
      by_cases full : metrics.maximumSeries ≤ metrics.points.length
      · left
        refine ⟨rfl, known, full, ?_⟩
        simp [addSeries, missing, full]
      · right
        refine ⟨rfl, known, not_le.mp full, ?_⟩
        simp [addSeries, missing, full, adjust_append_self known]

/-- What holds of every registry, whatever the keys. -/
structure Sound (limit : Nat) (metrics : Metrics) : Prop where
  maximum : metrics.maximumSeries = limit
  distinct : (keys metrics.points).Nodup
  keyed : ∀ entry ∈ metrics.points, entry.1 = entry.2.series.key
  bounded : metrics.points.length ≤ limit
  full : metrics.droppedSeries ≠ 0 → limit ≤ metrics.points.length

theorem mem_adjust {key : String} {change : MetricPoint → MetricPoint}
    {points : List (String × MetricPoint)} {entry : String × MetricPoint}
    (member : entry ∈ adjust key change points) :
    ∃ before ∈ points, entry = if before.1 = key then (before.1, change before.2) else before := by
  obtain ⟨before, old, same⟩ := List.mem_map.mp member
  exact ⟨before, old, same.symm⟩

theorem Sound.update {limit : Nat} {metrics : Metrics} (sound : Sound limit metrics)
    (call : MetricCall) : Sound limit (metrics.update call) := by
  rcases metrics.update_cases call with
    ⟨-, same⟩ | ⟨-, -, same⟩ | ⟨-, -, full, same⟩ | ⟨-, fresh, room, same⟩
  · rw [same]
    exact sound
  · rw [same]
    refine ⟨sound.maximum, by simpa using sound.distinct, ?_, ?_, ?_⟩
    · intro entry member
      obtain ⟨before, old, rfl⟩ := mem_adjust member
      split
      · simpa using sound.keyed before old
      · exact sound.keyed before old
    · simpa [adjust] using sound.bounded
    · simpa [adjust] using sound.full
  · rw [same]
    exact ⟨sound.maximum, sound.distinct, sound.keyed, sound.bounded,
      fun _ => sound.maximum ▸ full⟩
  · rw [same]
    refine ⟨sound.maximum, ?_, ?_, ?_, ?_⟩
    · simp only [keys, List.map_append, List.map_cons, List.map_nil]
      exact List.Nodup.append sound.distinct (by simp) (List.disjoint_singleton.mpr fresh)
    · intro entry member
      rcases List.mem_append.mp member with old | new
      · exact sound.keyed entry old
      · rw [List.mem_singleton.mp new]
        simp
    · rw [sound.maximum] at room
      simpa using room
    · intro dropped
      have full := sound.full dropped
      rw [sound.maximum] at room
      omega

theorem Sound.run {limit : Nat} {metrics : Metrics} (sound : Sound limit metrics)
    (calls : List MetricCall) : Sound limit (calls.foldl Metrics.update metrics) := by
  induction calls generalizing metrics with
  | nil => exact sound
  | cons call rest ih => exact ih (sound.update call)

theorem Sound.initializeWith (maximumSeries : Nat) :
    Sound (Metrics.initializeWith maximumSeries).maximumSeries (Metrics.initializeWith maximumSeries) :=
  ⟨rfl, by simp [Metrics.initializeWith, keys], by simp [Metrics.initializeWith],
    by simp [Metrics.initializeWith], fun dropped => absurd rfl dropped⟩

section Separation

variable {limit : Nat} {calls : List MetricCall} {metrics : Metrics}

theorem seenCalls_append_named (calls : List MetricCall) {call : MetricCall}
    (named : call.named = true) : seenCalls (calls ++ [call]) = seenCalls calls ++ [call] := by
  simp [seenCalls, named]

theorem seenCalls_append_unnamed (calls : List MetricCall) {call : MetricCall}
    (unnamed : call.named = false) : seenCalls (calls ++ [call]) = seenCalls calls := by
  simp [seenCalls, unnamed]

theorem acceptedSeries_grows (limit : Nat) (calls more : List MetricCall) :
    acceptedSeries limit calls <+: acceptedSeries limit (calls ++ more) := by
  unfold acceptedSeries seenCalls
  rw [List.filter_append, List.map_append]
  exact (firstSeen_grows _ _).take limit

theorem KeysSeparate.before {more : List MetricCall} (separate : KeysSeparate limit (calls ++ more)) :
    KeysSeparate limit calls := by
  intro series accepted call member same
  refine separate series ((acceptedSeries_grows limit calls more).subset accepted) call ?_ same
  rw [seenCalls, List.filter_append]
  exact List.mem_append_left _ member

theorem acceptedSeries_of_room (room : (acceptedSeries limit calls).length < limit) :
    acceptedSeries limit calls = firstSeen ((seenCalls calls).map (·.series)) := by
  unfold acceptedSeries at room ⊢
  rw [List.length_take] at room
  exact List.take_of_length_le (by omega)

theorem acceptedSeries_length_le (limit : Nat) (calls : List MetricCall) :
    (acceptedSeries limit calls).length ≤ limit := by
  simp [acceptedSeries]

theorem acceptedSeries_append {call : MetricCall} (named : call.named = true) :
    acceptedSeries limit (calls ++ [call]) =
      if call.series ∉ acceptedSeries limit calls ∧ (acceptedSeries limit calls).length < limit
      then acceptedSeries limit calls ++ [call.series] else acceptedSeries limit calls := by
  by_cases room : (acceptedSeries limit calls).length < limit
  · have all := acceptedSeries_of_room room
    rw [all] at room ⊢
    rw [acceptedSeries, seenCalls_append_named calls named, List.map_append, List.map_singleton,
      firstSeen_append_singleton]
    by_cases known : call.series ∈ firstSeen ((seenCalls calls).map (·.series))
    · rw [if_pos known, if_neg (by simp [known]), List.take_of_length_le (by omega)]
    · rw [if_neg known, if_pos ⟨known, room⟩, List.take_of_length_le (by simp; omega)]
  · -- A full list is the whole of every longer one.
    rw [if_neg (fun both => room both.2)]
    have longer := acceptedSeries_grows limit calls [call]
    have least := acceptedSeries_length_le limit (calls ++ [call])
    exact (longer.eq_of_length_le (by omega)).symm

/-- The registry shows exactly what has been asked for. -/
structure Exact (limit : Nat) (calls : List MetricCall) (metrics : Metrics) : Prop where
  series : metrics.points.map (·.2.series) = acceptedSeries limit calls
  counts : ∀ entry ∈ metrics.points, Counts (amountsOf entry.2.series calls) entry.2
  dropped : metrics.droppedSeries = (rejectedCalls limit calls).length

theorem Exact.mem_accepted (exact' : Exact limit calls metrics) {entry : String × MetricPoint}
    (member : entry ∈ metrics.points) : entry.2.series ∈ acceptedSeries limit calls := by
  rw [← exact'.series]
  exact List.mem_map.mpr ⟨entry, member, rfl⟩

theorem Exact.mem_points (exact' : Exact limit calls metrics) {series : MetricSeries}
    (accepted : series ∈ acceptedSeries limit calls) :
    ∃ entry ∈ metrics.points, entry.2.series = series := by
  rw [← exact'.series] at accepted
  exact List.mem_map.mp accepted

theorem amountsOf_append_own {call : MetricCall} (named : call.named = true) :
    amountsOf call.series (calls ++ [call]) = amountsOf call.series calls ++ [call.amount] := by
  simp [amountsOf, seenCalls_append_named calls named]

theorem amountsOf_append_other {call : MetricCall} {series : MetricSeries}
    (other : call.series ≠ series) : amountsOf series (calls ++ [call]) = amountsOf series calls := by
  cases named : call.named with
  | false => rw [amountsOf, seenCalls_append_unnamed calls named, amountsOf]
  | true => simp [amountsOf, seenCalls_append_named calls named, other]

theorem amountsOf_fresh {series : MetricSeries}
    (fresh : series ∉ (seenCalls calls).map (·.series)) : amountsOf series calls = [] := by
  rw [amountsOf, List.map_eq_nil_iff, List.filter_eq_nil_iff]
  intro call member own
  exact fresh (List.mem_map.mpr ⟨call, member, by simpa using own⟩)

theorem rejectedCalls_append {call : MetricCall} (named : call.named = true)
    (same : acceptedSeries limit (calls ++ [call]) = acceptedSeries limit calls) :
    (rejectedCalls limit (calls ++ [call])).length = (rejectedCalls limit calls).length +
      if call.series ∈ acceptedSeries limit calls then 0 else 1 := by
  unfold rejectedCalls
  rw [same, seenCalls_append_named calls named, List.filter_append, List.length_append]
  split
  · next known => simp [known]
  · next unknown => simp [unknown]

/-- A call that shares no key with another series keeps the registry exact. -/
theorem Exact.update (exact' : Exact limit calls metrics) (sound : Sound limit metrics)
    {call : MetricCall} (separate : KeysSeparate limit (calls ++ [call])) :
    Exact limit (calls ++ [call]) (metrics.update call) := by
  have size : metrics.points.length = (acceptedSeries limit calls).length := by
    rw [← exact'.series, List.length_map]
  -- A key in the registry belongs to an accepted series, so an unknown one does not.
  have unknown : call.series.key ∉ keys metrics.points →
      call.series ∉ acceptedSeries limit calls := by
    intro fresh accepted
    obtain ⟨entry, member, own⟩ := exact'.mem_points accepted
    refine fresh (List.mem_map.mpr ⟨entry, member, ?_⟩)
    rw [sound.keyed entry member, own]
  rcases metrics.update_cases call with
    ⟨unnamed, same⟩ | ⟨named, known, same⟩ | ⟨named, fresh, full, same⟩ | ⟨named, fresh, room, same⟩
  · rw [same]
    have unseen := seenCalls_append_unnamed calls unnamed
    refine ⟨?_, ?_, ?_⟩
    · rw [acceptedSeries, unseen]
      exact exact'.series
    · intro entry member
      rw [amountsOf, unseen]
      exact exact'.counts entry member
    · rw [rejectedCalls, acceptedSeries, unseen]
      exact exact'.dropped
  · -- The entry under the key is of the call's own series.
    have own : ∀ entry ∈ metrics.points, entry.1 = call.series.key →
        entry.2.series = call.series := by
      intro entry member under
      have accepted := (acceptedSeries_grows limit calls [call]).subset (exact'.mem_accepted member)
      refine (separate _ accepted call ?_ ?_).symm
      · rw [seenCalls_append_named calls named]
        simp
      · rw [← under, sound.keyed entry member]
    obtain ⟨entry, member, under⟩ := List.mem_map.mp known
    have accepted : call.series ∈ acceptedSeries limit calls := by
      rw [← own entry member under]
      exact exact'.mem_accepted member
    have still : acceptedSeries limit (calls ++ [call]) = acceptedSeries limit calls := by
      rw [acceptedSeries_append named, if_neg (fun both => both.1 accepted)]
    rw [same]
    refine ⟨?_, ?_, ?_⟩
    · rw [still, ← exact'.series, adjust, List.map_map]
      apply List.map_congr_left
      intro entry _
      by_cases under : entry.1 = call.series.key <;> simp [under]
    · intro entry member
      obtain ⟨before, old, rfl⟩ := mem_adjust member
      by_cases under : before.1 = call.series.key
      · rw [if_pos under, call.change_series, own before old under, amountsOf_append_own named]
        have counted := exact'.counts before old
        rw [own before old under] at counted
        exact counted.change call (own before old under)
      · have other : call.series ≠ before.2.series := by
          intro same
          exact under (by rw [sound.keyed before old, same])
        rw [if_neg under, amountsOf_append_other other]
        exact exact'.counts before old
    · rw [rejectedCalls_append named still, if_pos accepted]
      exact exact'.dropped
  · -- There is no room, and the series is not among the accepted ones.
    rw [sound.maximum, size] at full
    have still : acceptedSeries limit (calls ++ [call]) = acceptedSeries limit calls := by
      rw [acceptedSeries_append named, if_neg (fun both => absurd both.2 (by omega))]
    rw [same]
    refine ⟨?_, ?_, ?_⟩
    · rw [still]
      exact exact'.series
    · intro entry member
      have other : call.series ≠ entry.2.series := by
        intro same
        exact unknown fresh (same ▸ exact'.mem_accepted member)
      rw [amountsOf_append_other other]
      exact exact'.counts entry member
    · rw [rejectedCalls_append named still, if_neg (unknown fresh), ← exact'.dropped]
  · -- The series is new, and so are its amounts.
    rw [sound.maximum, size] at room
    have grown : acceptedSeries limit (calls ++ [call]) =
        acceptedSeries limit calls ++ [call.series] := by
      rw [acceptedSeries_append named, if_pos ⟨unknown fresh, room⟩]
    have unseen : call.series ∉ (seenCalls calls).map (·.series) := by
      have absent := unknown fresh
      rwa [acceptedSeries_of_room room, mem_firstSeen] at absent
    rw [same]
    refine ⟨?_, ?_, ?_⟩
    · rw [grown, ← exact'.series]
      simp
    · intro entry member
      rcases List.mem_append.mp member with old | new
      · have other : call.series ≠ entry.2.series := by
          intro same
          exact unknown fresh (same ▸ exact'.mem_accepted old)
        rw [amountsOf_append_other other]
        exact exact'.counts entry old
      · rw [List.mem_singleton.mp new]
        simp only [call.change_series, call.initial_series]
        rw [amountsOf_append_own named, amountsOf_fresh unseen]
        exact Counts.first call
    · rw [exact'.dropped]
      -- With room for all series seen so far, no call has been rejected, and none is now.
      have none : ∀ calls', (acceptedSeries limit calls') =
          firstSeen ((seenCalls calls').map (·.series)) → rejectedCalls limit calls' = [] := by
        intro calls' all
        rw [rejectedCalls, List.filter_eq_nil_iff]
        intro other member
        rw [all]
        simp only [mem_firstSeen, List.mem_map, not_exists, not_and, decide_eq_true_eq, not_forall]
        exact ⟨other, member, fun wrong => wrong rfl⟩
      have before := none calls (acceptedSeries_of_room room)
      have after := none (calls ++ [call]) (by
        rw [grown, acceptedSeries_of_room room, seenCalls_append_named calls named,
          List.map_append, List.map_singleton, firstSeen_append_singleton, if_neg]
        rwa [mem_firstSeen])
      rw [before, after]

theorem exact_run (maximumSeries : Nat) (calls : List MetricCall)
    (separate : KeysSeparate (initializeWith maximumSeries).maximumSeries calls) :
    Exact (initializeWith maximumSeries).maximumSeries calls (after maximumSeries calls) := by
  induction calls using List.reverseRecOn with
  | nil =>
    refine ⟨?_, ?_, ?_⟩
    · simp [after, initializeWith, acceptedSeries, seenCalls, firstSeen]
    · simp [after, initializeWith]
    · simp [after, initializeWith, rejectedCalls, seenCalls]
  | append_singleton calls call ih =>
    have sound := (Sound.initializeWith maximumSeries).run calls
    have step := (ih separate.before).update sound separate
    rwa [Metrics.after, List.foldl_append]

theorem Exact.kept (exact' : Exact limit calls metrics) (now : Int) :
    SeriesKept limit calls (metrics.snapshot now) := by
  refine ⟨metrics.points.map Prod.snd, _, rfl, ?_, ?_, ?_⟩
  · rw [List.map_map, ← exact'.series]
    exact List.Perm.refl _
  · intro point member
    obtain ⟨entry, listed, rfl⟩ := List.mem_map.mp member
    exact (exact'.counts entry listed).pointCounts
  · rw [← exact'.dropped]
    split
    · rfl
    · exact ⟨_, rfl, rfl, rfl⟩

theorem exists_first_collision (mixed : ¬KeysSeparate limit calls) :
    ∃ before call after, calls = before ++ call :: after ∧ KeysSeparate limit before ∧
      ¬KeysSeparate limit (before ++ [call]) := by
  induction calls using List.reverseRecOn with
  | nil =>
    refine absurd ?_ mixed
    intro series _ call member
    simp [seenCalls] at member
  | append_singleton calls last ih =>
    by_cases separate : KeysSeparate limit calls
    · exact ⟨calls, last, [], rfl, separate, mixed⟩
    · obtain ⟨before, call, after, rfl, rest⟩ := ih separate
      exact ⟨before, call, after ++ [last], by simp, rest⟩

theorem collision_of_first {call : MetricCall} (separate : KeysSeparate limit calls)
    (mixed : ¬KeysSeparate limit (calls ++ [call])) :
    call.named = true ∧ ∃ other ∈ acceptedSeries limit calls,
      other.key = call.series.key ∧ other ≠ call.series := by
  cases named : call.named with
  | false =>
    refine absurd ?_ mixed
    unfold KeysSeparate acceptedSeries
    rw [seenCalls_append_unnamed calls named]
    exact separate
  | true =>
    refine ⟨rfl, ?_⟩
    unfold KeysSeparate at mixed
    push Not at mixed
    obtain ⟨series, accepted, other, member, same, differs⟩ := mixed
    rw [seenCalls_append_named calls named, List.mem_append, List.mem_singleton] at member
    by_cases old : series ∈ acceptedSeries limit calls
    · -- The series was there, so the call itself is the one that differs.
      rcases member with before | rfl
      · exact absurd (separate series old other before same) differs
      · exact ⟨series, old, same.symm, fun wrong => differs wrong.symm⟩
    · -- The call's own series is new, so an earlier call has its key.
      rw [acceptedSeries_append named] at accepted
      split at accepted
      · next new =>
        rcases List.mem_append.mp accepted with wrong | newest
        · exact absurd wrong old
        · have own : series = call.series := List.mem_singleton.mp newest
          subst own
          rcases member with before | rfl
          · refine ⟨other.series, ?_, same, differs⟩
            rw [acceptedSeries_of_room new.2, mem_firstSeen]
            exact List.mem_map.mpr ⟨other, before, rfl⟩
          · exact absurd rfl differs
      · exact absurd accepted old

theorem lookup_run (metrics : Metrics) (calls : List MetricCall) {key : String} {point : MetricPoint}
    (found : metrics.points.lookup key = some point) :
    ∃ later, (calls.foldl update metrics).points.lookup key = some later ∧
      later.series = point.series := by
  induction calls generalizing metrics point with
  | nil => exact ⟨point, found, rfl⟩
  | cons call rest ih =>
    have step : ∃ next, (metrics.update call).points.lookup key = some next ∧
        next.series = point.series := by
      rcases metrics.update_cases call with
        ⟨-, same⟩ | ⟨-, -, same⟩ | ⟨-, -, -, same⟩ | ⟨-, -, -, same⟩
      · rw [same]
        exact ⟨point, found, rfl⟩
      · rw [same]
        simp only [lookup_adjust, found, Option.map_some]
        split
        · exact ⟨_, rfl, by simp⟩
        · exact ⟨_, rfl, rfl⟩
      · rw [same]
        exact ⟨point, found, rfl⟩
      · rw [same]
        simp only [lookup_append, found, Option.some_or]
        exact ⟨point, rfl, rfl⟩
    obtain ⟨next, found', series⟩ := step
    obtain ⟨later, end', series'⟩ := ih (metrics.update call) found'
    exact ⟨later, end', series'.trans series⟩

theorem dropped_of_full (sound : Sound limit metrics) (full : limit ≤ metrics.points.length)
    (calls : List MetricCall) :
    keys (calls.foldl update metrics).points = keys metrics.points ∧
    (calls.foldl update metrics).droppedSeries = metrics.droppedSeries +
      ((seenCalls calls).filter fun call => call.series.key ∉ keys metrics.points).length := by
  induction calls generalizing metrics with
  | nil => simp [seenCalls]
  | cons call rest ih =>
    have next := sound.update call
    rw [List.foldl_cons]
    rcases metrics.update_cases call with
      ⟨unnamed, same⟩ | ⟨named, known, same⟩ | ⟨named, fresh, -, same⟩ | ⟨-, -, room, -⟩
    · have both := ih sound full
      rw [same]
      simpa [seenCalls, unnamed] using both
    · rw [same] at next ⊢
      have both := ih next (by simpa [adjust] using full)
      simpa [seenCalls, named, known] using both
    · rw [same] at next ⊢
      have both := ih next full
      simp only [seenCalls] at both ⊢
      refine ⟨both.1, ?_⟩
      rw [both.2]
      simp [named, fresh]
      omega
    · rw [sound.maximum] at room
      omega

theorem kept_subset_points (sound : Sound limit metrics) {now : Int}
    {kept dropped : List MetricPoint} (split : metrics.snapshot now = kept ++ dropped)
    (short : kept.length ≤ limit) : ∀ point ∈ kept, point ∈ metrics.points.map Prod.snd := by
  have ahead : kept <+: metrics.snapshot now := by
    rw [split]
    exact List.prefix_append _ _
  by_cases none : metrics.droppedSeries = 0
  · have all : metrics.snapshot now = metrics.points.map Prod.snd := by
      simp [Metrics.snapshot, none]
    rw [all] at ahead
    exact fun point member => ahead.subset member
  · -- The dropped-series point is only there when the registry is full.
    have full := sound.full none
    have first : metrics.points.map Prod.snd <+: metrics.snapshot now := List.prefix_append _ _
    have inside := List.prefix_of_prefix_length_le ahead first (by rw [List.length_map]; omega)
    exact fun point member => inside.subset member

/-- A registry that shows what has been asked for has never mixed two series. -/
theorem separate_of_kept (maximumSeries : Nat) (calls : List MetricCall) (now : Int)
    (shown : SeriesKept (initializeWith maximumSeries).maximumSeries calls
      ((Metrics.after maximumSeries calls).snapshot now)) :
    KeysSeparate (initializeWith maximumSeries).maximumSeries calls := by
  by_contra mixed
  obtain ⟨before, call, after, rfl, separate, collides⟩ := exists_first_collision mixed
  obtain ⟨named, other, accepted, sameKey, differs⟩ := collision_of_first separate collides
  generalize limitSame : (initializeWith maximumSeries).maximumSeries = limit at *
  have start := Sound.initializeWith maximumSeries
  rw [limitSame] at start
  have sound : Sound limit (Metrics.after maximumSeries before) := start.run before
  have soundEnd : Sound limit (Metrics.after maximumSeries (before ++ call :: after)) :=
    start.run _
  have exact' := exact_run maximumSeries before (limitSame ▸ separate)
  rw [limitSame] at exact'
  have runs : Metrics.after maximumSeries (before ++ call :: after) =
      (call :: after).foldl update (Metrics.after maximumSeries before) := by
    rw [Metrics.after, Metrics.after, List.foldl_append]
  -- The other series has its point under the key of the call, then and at the end.
  obtain ⟨entry, member, own⟩ := exact'.mem_points accepted
  have under : entry.1 = call.series.key := by rw [sound.keyed entry member, own, sameKey]
  have found := (lookup_eq_some_iff sound.distinct).mpr
    (show (call.series.key, entry.2) ∈ _ from under ▸ member)
  obtain ⟨later, foundLater, ownLater⟩ := lookup_run _ (call :: after) found
  rw [← runs] at foundLater
  obtain ⟨kept, dropped, split, series, -, reported⟩ := shown
  have lengths : kept.length = (acceptedSeries limit (before ++ call :: after)).length := by
    rw [← series.length_eq, List.length_map]
  by_cases listed : call.series ∈ acceptedSeries limit (before ++ call :: after)
  · -- The call's own series has no point, since its key is taken.
    obtain ⟨point, pointKept, pointOwn⟩ := List.mem_map.mp (series.mem_iff.mpr listed)
    have short : kept.length ≤ limit := by
      rw [lengths]
      exact acceptedSeries_length_le _ _
    obtain ⟨shownEntry, shownMember, rfl⟩ :=
      List.mem_map.mp (kept_subset_points soundEnd split short point pointKept)
    have shownKey : shownEntry.1 = call.series.key := by
      rw [soundEnd.keyed shownEntry shownMember, pointOwn]
    have shownFound := (lookup_eq_some_iff soundEnd.distinct).mpr
      (show (call.series.key, shownEntry.2) ∈ _ from shownKey ▸ shownMember)
    rw [foundLater] at shownFound
    have same : later = shownEntry.2 := by simpa using shownFound
    exact differs (by rw [← own, ← ownLater, same, pointOwn])
  · -- The call should have been rejected, but its key was known.
    have longer := acceptedSeries_grows limit (before ++ [call]) after
    rw [List.append_assoc, List.singleton_append] at longer
    have outside : call.series ∉ acceptedSeries limit (before ++ [call]) :=
      fun wrong => listed (longer.subset wrong)
    have full : limit ≤ (acceptedSeries limit before).length := by
      by_contra room
      have new : call.series ∉ acceptedSeries limit before :=
        fun wrong => outside ((acceptedSeries_grows limit before [call]).subset wrong)
      rw [acceptedSeries_append named, if_pos ⟨new, not_le.mp room⟩] at outside
      exact outside (by simp)
    have size : (Metrics.after maximumSeries before).points.length =
        (acceptedSeries limit before).length := by
      rw [← exact'.series, List.length_map]
    have settled : acceptedSeries limit before =
        acceptedSeries limit (before ++ call :: after) := by
      have least := acceptedSeries_length_le limit (before ++ call :: after)
      exact (acceptedSeries_grows limit before (call :: after)).eq_of_length_le (by omega)
    have knownKey : call.series.key ∈ keys (Metrics.after maximumSeries before).points :=
      List.mem_map.mpr ⟨entry, member, under⟩
    -- From here on, a call that is counted as dropped is one that had to be rejected.
    have fewer : ((seenCalls (call :: after)).filter fun later =>
          later.series.key ∉ keys (Metrics.after maximumSeries before).points).length <
        ((seenCalls (call :: after)).filter fun later =>
          later.series ∉ acceptedSeries limit before).length := by
      have unlisted : call.series ∉ acceptedSeries limit before := settled ▸ listed
      simp only [seenCalls, List.filter_cons, named, if_true]
      rw [if_neg (by simpa using knownKey), if_pos (by simpa using unlisted), List.length_cons,
        Nat.lt_succ_iff, ← List.countP_eq_length_filter, ← List.countP_eq_length_filter]
      apply List.countP_mono_left
      intro later _ unknown
      simp only [decide_eq_true_eq] at unknown ⊢
      intro wrong
      obtain ⟨holder, held, holds⟩ := exact'.mem_points wrong
      exact unknown (List.mem_map.mpr ⟨holder, held, by rw [sound.keyed holder held, holds]⟩)
    obtain ⟨sameKeys, counted⟩ := dropped_of_full sound (by omega) (call :: after)
    rw [← runs] at sameKeys counted
    have rejected : (rejectedCalls limit (before ++ call :: after)).length =
        (Metrics.after maximumSeries before).droppedSeries +
          ((seenCalls (call :: after)).filter fun later =>
            later.series ∉ acceptedSeries limit before).length := by
      rw [exact'.dropped, rejectedCalls, rejectedCalls, ← settled, seenCalls, List.filter_append,
        List.filter_append, List.length_append]
      rfl
    rw [if_neg (by omega)] at reported
    obtain ⟨point, rfl, -, value⟩ := reported
    have sizeEnd : (Metrics.after maximumSeries (before ++ call :: after)).points.length =
        (Metrics.after maximumSeries before).points.length := by
      have equal := congrArg List.length sameKeys
      simpa [keys] using equal
    -- The snapshot ends with the dropped-series point, whose value is one too small.
    obtain ⟨-, tail⟩ := List.append_inj split (by
      rw [List.length_map, sizeEnd, size, lengths, settled])
    split at tail
    · cases tail
    · have same : point = (Metrics.after maximumSeries (before ++ call :: after)).droppedPoint now := by
        simpa using tail.symm
      rw [same] at value
      have equal : (Metrics.after maximumSeries (before ++ call :: after)).droppedSeries =
          (rejectedCalls limit (before ++ call :: after)).length := by
        exact_mod_cast (show ((Metrics.after maximumSeries
          (before ++ call :: after)).droppedSeries : ℚ) = _ from value)
      omega

/-- The snapshot shows each series on its own exactly when no key is shared with an accepted one. -/
theorem snapshot_keeps_series_iff (maximumSeries : Nat) (calls : List MetricCall) (now : Int) :
    SeriesKept (Metrics.initializeWith maximumSeries).maximumSeries calls
        ((Metrics.after maximumSeries calls).snapshot now) ↔
      KeysSeparate (Metrics.initializeWith maximumSeries).maximumSeries calls := by
  constructor
  · exact separate_of_kept maximumSeries calls now
  · intro separate
    exact (exact_run maximumSeries calls separate).kept now

end Separation

def sampleCommands : List MetricCall :=
  [.addCounter "pdr.device.commands" 1
      ⟨[("operation", "read"), ("result", "success")], by decide⟩ "Device commands" "" 1,
    .addCounter "pdr.device.commands" 1
      ⟨[("operation", "read\x1fresult=success")], by simp⟩ "Device commands" "" 2]

/-- Both commands end up in one point. -/
theorem snapshot_merges_series :
    ((Metrics.after 2000 sampleCommands).snapshot 3).map (·.value) = [2] ∧
      ¬SeriesKept (Metrics.initializeWith 2000).maximumSeries sampleCommands
        ((Metrics.after 2000 sampleCommands).snapshot 3) := by
  refine ⟨by decide +kernel, ?_⟩
  intro kept
  have separate := separate_of_kept 2000 sampleCommands 3 kept
  have same := separate ⟨.counter, "pdr.device.commands",
      ⟨[("operation", "read"), ("result", "success")], by decide⟩⟩ (by decide +kernel)
    (.addCounter "pdr.device.commands" 1 ⟨[("operation", "read\x1fresult=success")], by simp⟩
      "Device commands" "" 2)
    (by simp [seenCalls, sampleCommands, MetricCall.named, MetricCall.series]) (by decide +kernel)
  exact absurd same (by decide +kernel)

end PocoDDS.Observability
