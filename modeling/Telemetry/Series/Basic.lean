import Telemetry.Exemplar
import Telemetry.MetricType
import Telemetry.Series.Boundary
import Telemetry.Series.Identity

/-!
# Series

One time series of a family and what its samples have told about it. Each sample feeds one part; the last value of
a part holds. A stale marker is kept as the value of a scalar series; elsewhere it leaves the part in place with 0.
-/

namespace Telemetry

/-- The part of a series that a sample feeds. -/
inductive Part
  /-- The value of a scalar series. -/
  | value
  | count
  | sum
  /-- A bucket by its upper bound, or a quantile. -/
  | boundary (bound : Binary64)
  /-- The start of the series, in nanoseconds since the epoch. -/
  | created (start : UInt64)
deriving DecidableEq, Repr

/-- Count, sum and the values at the boundaries of a histogram or summary. -/
structure Tally where
  count : Option Binary64
  sum : Option Binary64
  entries : BoundaryMap
deriving DecidableEq, Repr

namespace Tally

def empty : Tally := ⟨none, none, .empty⟩

def isEmpty (t : Tally) : Bool := t.count.isNone && t.sum.isNone && t.entries.isEmpty

/-- Sets a part. Parts that a tally does not have change nothing. -/
def set (t : Tally) (value : Binary64) : Part → Tally
  | .count => { t with count := some value }
  | .sum => { t with sum := some value }
  | .boundary b => { t with entries := t.entries.insert b value }
  | .value | .created _ => t

end Tally

/-- The values of a series, by the shape of its family. -/
inductive SeriesData
  | scalar (value : Option Binary64)
  | histogram (tally : Tally)
  | summary (tally : Tally)
deriving DecidableEq, Repr

namespace SeriesData

def empty : Shape → SeriesData
  | .scalar => scalar none
  | .histogram => histogram .empty
  | .summary => summary .empty

def shape : SeriesData → Shape
  | scalar _ => .scalar
  | histogram _ => .histogram
  | summary _ => .summary

/-- Sets the value of a part. A scalar series has one value, whatever the part. -/
def set (data : SeriesData) (part : Part) (value : Binary64) : SeriesData :=
  match data with
  | scalar _ => scalar (some value)
  | histogram t => histogram (t.set value part)
  | summary t => summary (t.set value part)

end SeriesData

structure Series where
  key : SeriesKey
  labels : List Label
  /-- The time of its points, in milliseconds. -/
  timestamp : Int
  /-- When it was first seen, in milliseconds. -/
  firstSeen : Int
  /-- The start that a `_created` sample gave, in nanoseconds. -/
  created : Option UInt64
  stale : Bool
  exemplars : List Exemplar
  data : SeriesData
deriving DecidableEq, Repr

namespace Series

/-- A series of which only the first sample's time is known. -/
def start (shape : Shape) (identity : Identity) (timestamp : Int) : Series :=
  ⟨identity.key, identity.labels, timestamp, timestamp, none, false, [], .empty shape⟩

def kept (part : Part) (value : Binary64) : Binary64 :=
  if value.isStale ∧ part ≠ .value then .zero else value

def record (s : Series) (part : Part) (value : Binary64) : Series :=
  let s := { s with stale := s.stale || value.isStale }
  match part with
  | .created start => if value.isStale then s else { s with created := some start }
  | part => { s with data := s.data.set part (kept part value) }

def pushExemplar (s : Series) (e : Exemplar) : Series := { s with exemplars := s.exemplars ++ [e] }

end Series

end Telemetry
