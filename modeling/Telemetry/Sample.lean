import Telemetry.Binary64.Basic
import Telemetry.Label

/-!
# Samples

What a scrape delivers: a name, labels, a time in milliseconds and a value, perhaps with an exemplar. A value with
the bits of the stale marker says that the series has ended.
-/

namespace Telemetry

/-- An exemplar as it comes with a sample. -/
structure AttachedExemplar where
  value : Binary64
  timestamp : Int
  labels : List Label
deriving DecidableEq, Repr

/-- One scraped value. Timestamps count milliseconds since the epoch. -/
structure Sample where
  name : String
  labels : List Label
  timestamp : Int
  value : Binary64
  exemplar : Option AttachedExemplar
deriving DecidableEq, Repr

/-- The NaN that marks the end of a series. -/
def Binary64.staleMarker : Binary64 := ⟨0x7ff0000000000002⟩

/-- Whether these are the bits of the stale marker; no other NaN is one. -/
def Binary64.isStale (x : Binary64) : Bool := x == .staleMarker

/-- Nanoseconds since the epoch: 0 for times before it, and the largest value for times too late to be counted. -/
def nanosOfMillis (timestamp : Int) : UInt64 := UInt64.ofNat (min (timestamp.toNat * 1000000) (UInt64.size - 1))

end Telemetry
