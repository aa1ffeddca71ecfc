import Telemetry.Binary64.Decimal
import Telemetry.MetricType
import Telemetry.Sample
import Telemetry.Suffix

/-!
# Synthetic samples

The samples that a scrape would show for known observations, against which assembly can be checked.
-/

namespace Telemetry.Synthetic

/-- Declares one family of every type, under the name of the type. -/
def metadata : MetadataStore :=
  let entry (type : MetricType) (unit : String) : String × Metadata := (type.name, ⟨type, "This is some help", unit⟩)
  .ofList [entry .counter "By", entry .gauge "1", entry .gaugeHistogram "?", entry .histogram "ms", entry .summary "?",
    entry .unknown "?"]

def sample (name : String) (labels : List Label) (timestamp : Int) (value : Binary64) : Sample :=
  ⟨name, labels, timestamp, value, none⟩

/-- The number of observations at or below a bound. -/
def cumulative (observations : List Binary64) (bound : Binary64) : Nat := observations.countP fun x => x.le bound

/-- One histogram series: a cumulative bucket for every bound and for infinity, then the sum and the count. -/
def histogramSamples (family : String) (series : List Label) (bounds observations : List Binary64)
    (timestamp : Int) : List Sample :=
  let bucket (bound : String) (count : Nat) : Sample :=
    sample (family ++ Suffix.bucket.text) (series ++ [⟨bucketLabel, bound⟩]) timestamp (.ofNat count)
  bounds.map (fun bound => bucket bound.toText (cumulative observations bound)) ++
    [bucket "+Inf" observations.length,
     sample (family ++ Suffix.sum.text) series timestamp (.sum observations),
     sample (family ++ Suffix.count.text) series timestamp (.ofNat observations.length)]

/-- One summary series: its quantiles, then the sum and the count. -/
def summarySamples (family : String) (series : List Label) (quantiles : List (Binary64 × Binary64)) (count : UInt64)
    (sum : Binary64) (timestamp : Int) : List Sample :=
  quantiles.map (fun (quantile, value) =>
      sample family (series ++ [⟨quantileLabel, quantile.toText⟩]) timestamp value) ++
    [sample (family ++ Suffix.sum.text) series timestamp sum,
     sample (family ++ Suffix.count.text) series timestamp (.ofNat count.toNat)]

end Telemetry.Synthetic
