import Telemetry.Exemplar
import Telemetry.MetricType

/-!
# Points and records

A record holds the finished points of one family, all of one kind. The points of every kind share a header: labels,
start and time in nanoseconds since the epoch, and whether the series has ended.
-/

namespace Telemetry

/-- What the points of every kind have. -/
structure PointHeader where
  labels : List Label
  start : UInt64
  time : UInt64
  /-- Set when a stale marker was received: there is no recorded value. -/
  stale : Bool
deriving DecidableEq, Repr

structure ScalarPoint extends PointHeader where
  value : Binary64
  exemplars : List Exemplar
deriving DecidableEq, Repr

/-- An exemplar with the index of its bucket. -/
structure PlacedExemplar where
  bucket : Nat
  exemplar : Exemplar
deriving DecidableEq, Repr

/-- There is one bucket more than there are explicit bounds: the last one is unbounded above. -/
structure HistogramPoint extends PointHeader where
  count : UInt64
  sum : Option Binary64
  bucketCounts : List UInt64
  explicitBounds : List Binary64
  exemplars : List PlacedExemplar
deriving DecidableEq, Repr

structure QuantileValue where
  quantile : Binary64
  value : Binary64
deriving DecidableEq, Repr

structure SummaryPoint extends PointHeader where
  count : UInt64
  sum : Binary64
  quantiles : List QuantileValue
deriving DecidableEq, Repr

/-- The points of one family. -/
inductive Points
  | scalar (points : List ScalarPoint)
  | histogram (points : List HistogramPoint)
  | summary (points : List SummaryPoint)
deriving DecidableEq, Repr

namespace Points

def size : Points → Nat
  | scalar points => points.length
  | histogram points => points.length
  | summary points => points.length

def isEmpty (points : Points) : Bool := points.size == 0

def headers : Points → List PointHeader
  | scalar points => points.map (·.toPointHeader)
  | histogram points => points.map (·.toPointHeader)
  | summary points => points.map (·.toPointHeader)

def doubles : Points → List Binary64
  | scalar points => points.flatMap fun p => p.value :: p.exemplars.map Exemplar.value
  | histogram points => points.flatMap fun p =>
      p.sum.toList ++ p.explicitBounds ++ p.exemplars.map fun e => e.exemplar.value
  | summary points => points.flatMap fun p => p.sum :: p.quantiles.flatMap fun q => [q.quantile, q.value]

end Points

/-- A finished family. -/
structure Record where
  name : String
  type : MetricType
  help : String
  unit : String
  points : Points
deriving DecidableEq, Repr

/-- Whether the record equals itself when doubles are compared as numbers: it holds no NaN. -/
def Record.equalsItself (record : Record) : Bool := record.points.doubles.all fun x => x.sameNumber x

end Telemetry
