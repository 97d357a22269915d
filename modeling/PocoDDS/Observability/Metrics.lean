import Mathlib.Algebra.Order.Ring.Rat
import PocoDDS.Lib.Assoc

/-! The metrics registry: local series with a cardinality guard, and their snapshot. -/

namespace PocoDDS.Observability

open AssocList

/-- Attributes by name, in the order of their names. -/
structure MetricAttributes where
  entries : List (String × String)
  sorted : entries.Pairwise fun left right => left.1 < right.1
  deriving DecidableEq

inductive MetricKind
  | counter
  | histogram
  deriving DecidableEq, Repr

/-- What a series is about. -/
structure MetricSeries where
  kind : MetricKind
  name : String
  attributes : MetricAttributes
  deriving DecidableEq

structure MetricPoint where
  name : String
  description : String
  unit : String
  kind : MetricKind
  attributes : MetricAttributes
  value : ℚ := 0
  count : Nat := 0
  sum : ℚ := 0
  minimum : ℚ := 0
  maximum : ℚ := 0
  explicitBounds : List ℚ := []
  bucketCounts : List Nat := []
  timestampUnixNano : Int := 0

def MetricPoint.series (point : MetricPoint) : MetricSeries :=
  ⟨point.kind, point.name, point.attributes⟩

/-- An update, with the clock reading it meets. -/
inductive MetricCall
  | addCounter (name : String) (value : UInt64) (attributes : MetricAttributes)
      (description unit : String) (now : Int)
  | recordHistogram (name : String) (value : ℚ) (attributes : MetricAttributes)
      (description unit : String) (now : Int)

/-- The registry after `initialize`. -/
structure Metrics where
  maximumSeries : Nat
  points : List (String × MetricPoint)
  droppedSeries : Nat

/-- The key of a series in the registry. -/
def seriesKey (name : String) (attributes : MetricAttributes) : String :=
  attributes.entries.foldl
    (fun key item => key ++ "\x1f" ++ item.1 ++ "=" ++ item.2) name

def Metrics.initializeWith (maximumSeries : Nat) : Metrics where
  maximumSeries := if maximumSeries = 0 then 1 else maximumSeries
  points := []
  droppedSeries := 0

/-- A known key is accepted; a new one is accepted while there is room, and counted otherwise. -/
def Metrics.addSeries (metrics : Metrics) (key : String) (point : MetricPoint) : Bool × Metrics :=
  if (metrics.points.lookup key).isSome then (true, metrics)
  else if metrics.points.length ≥ metrics.maximumSeries then
    (false, { metrics with droppedSeries := metrics.droppedSeries + 1 })
  else (true, { metrics with points := metrics.points ++ [(key, point)] })

/-- One increment of a counter. -/
def MetricPoint.add (value : UInt64) (now : Int) (point : MetricPoint) : MetricPoint :=
  { point with value := point.value + value.toNat, timestampUnixNano := now }

def Metrics.addCounter (metrics : Metrics) (name : String) (value : UInt64)
    (attributes : MetricAttributes) (description unit : String) (now : Int) : Metrics :=
  if name.isEmpty then metrics
  else
    let key := seriesKey name attributes
    let initial : MetricPoint := { name, description, unit, kind := .counter, attributes }
    let (accepted, metrics) := metrics.addSeries key initial
    if !accepted then metrics
    else { metrics with points := adjust key (·.add value now) metrics.points }

def defaultBounds : List ℚ := [1, 5, 10, 25, 50, 100, 250, 500, 1000, 5000]

/-- The bounds are set up with the first value. -/
def MetricPoint.prepareBuckets (point : MetricPoint) : MetricPoint :=
  if point.explicitBounds.isEmpty then
    { point with
      explicitBounds := defaultBounds
      bucketCounts := List.replicate (defaultBounds.length + 1) 0 }
  else point

/-- The position of the first bound above a value. -/
def upperBound (bounds : List ℚ) (value : ℚ) : Nat :=
  bounds.findIdx fun bound => value < bound

/-- One value of a histogram. -/
def MetricPoint.record (value : ℚ) (now : Int) (point : MetricPoint) : MetricPoint :=
  let point := point.prepareBuckets
  { point with
    value
    sum := point.sum + value
    minimum := if point.count = 0 ∨ value < point.minimum then value else point.minimum
    maximum := if point.count = 0 ∨ value > point.maximum then value else point.maximum
    count := point.count + 1
    bucketCounts := point.bucketCounts.modify (upperBound point.explicitBounds value) (· + 1)
    timestampUnixNano := now }

def Metrics.recordHistogram (metrics : Metrics) (name : String) (value : ℚ)
    (attributes : MetricAttributes) (description unit : String) (now : Int) : Metrics :=
  if name.isEmpty then metrics
  else
    let key := seriesKey name attributes
    let initial : MetricPoint := { name, description, unit, kind := .histogram, attributes }
    let (accepted, metrics) := metrics.addSeries key initial
    if !accepted then metrics
    else { metrics with points := adjust key (·.record value now) metrics.points }

def Metrics.update (metrics : Metrics) : MetricCall → Metrics
  | .addCounter name value attributes description unit now =>
    metrics.addCounter name value attributes description unit now
  | .recordHistogram name value attributes description unit now =>
    metrics.recordHistogram name value attributes description unit now

def droppedSeriesName : String := "pdr.metrics.series.dropped"

/-- The point that reports the cardinality guard. -/
def Metrics.droppedPoint (metrics : Metrics) (now : Int) : MetricPoint where
  name := droppedSeriesName
  description := "Metric series rejected by cardinality guard"
  unit := "\x7bseries\x7d"
  kind := .counter
  attributes := ⟨[], .nil⟩
  value := metrics.droppedSeries
  timestampUnixNano := now

def Metrics.snapshot (metrics : Metrics) (now : Int) : List MetricPoint :=
  metrics.points.map Prod.snd ++
    if metrics.droppedSeries = 0 then [] else [metrics.droppedPoint now]

end PocoDDS.Observability
