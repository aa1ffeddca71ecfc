import Telemetry.Binary64.Decimal
import Telemetry.Point
import Telemetry.Series.Basic
import Telemetry.Series.LabelOrder

/-!
# The point of a series

A series becomes one point of its shape, or a failure says why it cannot. Cumulative buckets become counts per
bucket, and each exemplar is placed in its bucket.
-/

namespace Telemetry

/-- Why a series yields no point. -/
inductive PointFailure
  /-- Nothing was received that a point could show. -/
  | emptySeries
  /-- There is a count or a sum and no bucket. -/
  | missingBuckets
  /-- A bucket holds less than the one before it. -/
  | nonMonotonicBuckets (bound cumulative previous : Binary64)
  | nonFiniteBucket (bound value : Binary64)
  | nonFiniteCount (value : Binary64)
deriving DecidableEq, Repr

def PointFailure.message : PointFailure → String
  | emptySeries => "group has no contributing samples"
  | missingBuckets => "histogram group has count or sum but no buckets"
  | nonMonotonicBuckets bound cumulative previous =>
    "bucket le=" ++ bound.toText ++ " holds " ++ cumulative.toText ++ ", below " ++ previous.toText
      ++ " of the bucket before it"
  | nonFiniteBucket bound value => "bucket le=" ++ bound.toText ++ " holds non-finite value " ++ value.toText
  | nonFiniteCount value => "non-finite count " ++ value.toText

/-! ## Buckets -/

/-- The buckets of a histogram: all bounds, ascending, the count of each bucket, and the highest cumulative value. -/
structure BucketLayout where
  bounds : List Binary64
  counts : List UInt64
  total : Binary64
deriving DecidableEq, Repr

namespace BucketLayout

/-- All bounds but the last, whose bucket is unbounded above. -/
def explicitBounds (layout : BucketLayout) : List Binary64 := layout.bounds.dropLast

/-- The count of each bucket: what it holds beyond the bucket before it, truncated. -/
def perBucket (previous : Binary64) : List (Binary64 × Binary64) → Except PointFailure (List UInt64)
  | [] => .ok []
  | (bound, cumulative) :: rest =>
    if !cumulative.isFinite then .error (.nonFiniteBucket bound cumulative)
    else
      let added := cumulative.sub previous
      if added.lt .zero then .error (.nonMonotonicBuckets bound cumulative previous)
      else match perBucket cumulative rest with
        | .ok counts => .ok (added.truncToUInt64 :: counts)
        | .error failure => .error failure

/-- The layout of cumulative buckets, which are finite and never decrease. -/
def ofCumulative (buckets : BoundaryMap) : Except PointFailure BucketLayout :=
  match buckets.entries.getLast? with
  | none => .error .missingBuckets
  | some (_, total) =>
    match perBucket .zero buckets.entries with
    | .ok counts => .ok ⟨buckets.entries.map Prod.fst, counts, total⟩
    | .error failure => .error failure

end BucketLayout

/-- The first bucket whose bound is at or above the value, or the last one if there is none. -/
def bucketIndex (bounds : List Binary64) (value : Binary64) : Nat :=
  (bounds.findIdx? value.le).getD (bounds.length - 1)

/-- The exemplars in their buckets, by bucket, in order of arrival within one. -/
def placeExemplars (bounds : List Binary64) (exemplars : List Exemplar) : List PlacedExemplar :=
  sortBy (fun a b => decide (a.bucket ≤ b.bucket)) (exemplars.map fun e => ⟨bucketIndex bounds e.value, e⟩)

/-- A count, truncated; negative ones become 0. -/
def truncateCount (value : Binary64) : Except PointFailure UInt64 :=
  if value.isFinite then .ok value.truncToUInt64 else .error (.nonFiniteCount value)

/-! ## Points -/

namespace Series

/-- Cumulative series start when they were created or first seen; the others at the time of the point. -/
def startNanos (s : Series) (cumulative : Bool) : UInt64 :=
  if cumulative then s.created.getD (nanosOfMillis s.firstSeen) else nanosOfMillis s.timestamp

def header (s : Series) (order : LabelOrder) (cumulative : Bool) : PointHeader :=
  ⟨order.arrange s.labels, s.startNanos cumulative, nanosOfMillis s.timestamp, s.stale⟩

def scalarPoint (s : Series) (order : LabelOrder) (cumulative : Bool) : Except PointFailure ScalarPoint :=
  match s.data with
  | .scalar (some value) => .ok { s.header order cumulative with value, exemplars := s.exemplars }
  | _ => .error .emptySeries

def histogramPoint (s : Series) (order : LabelOrder) (cumulative : Bool) : Except PointFailure HistogramPoint :=
  match s.data with
  | .histogram t =>
    if t.isEmpty then .error .emptySeries
    else do
      let layout ← BucketLayout.ofCumulative t.entries
      let count ← truncateCount (t.count.getD layout.total)
      return { s.header order cumulative with
        count, sum := t.sum, bucketCounts := layout.counts, explicitBounds := layout.explicitBounds,
        exemplars := placeExemplars layout.bounds s.exemplars }
  | _ => .error .emptySeries

def summaryPoint (s : Series) (order : LabelOrder) (cumulative : Bool) : Except PointFailure SummaryPoint :=
  match s.data with
  | .summary t =>
    if t.isEmpty then .error .emptySeries
    else do
      let count ← match t.count with
        | some value => truncateCount value
        | none => .ok 0
      return { s.header order cumulative with
        count, sum := t.sum.getD .zero, quantiles := t.entries.entries.map fun (q, v) => ⟨q, v⟩ }
  | _ => .error .emptySeries

end Series

end Telemetry
