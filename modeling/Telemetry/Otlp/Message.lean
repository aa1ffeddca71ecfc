import Telemetry.Binary64.Basic

/-!
# OTLP messages

The part of the OpenTelemetry metrics protocol that an export of records uses.
-/

namespace Telemetry.Otlp

structure Attribute where
  key : String
  value : String
deriving DecidableEq, Repr

structure Exemplar where
  attributes : List Attribute
  time : UInt64
  /-- Empty if there is none. -/
  spanId : List UInt8
  /-- Empty if there is none. -/
  traceId : List UInt8
  value : Binary64
deriving DecidableEq, Repr

structure NumberPoint where
  attributes : List Attribute
  start : UInt64
  time : UInt64
  value : Binary64
  exemplars : List Exemplar
  flags : UInt32
deriving DecidableEq, Repr

structure HistogramPoint where
  attributes : List Attribute
  start : UInt64
  time : UInt64
  count : UInt64
  sum : Option Binary64
  bucketCounts : List UInt64
  explicitBounds : List Binary64
  exemplars : List Exemplar
  flags : UInt32
deriving DecidableEq, Repr

structure QuantileValue where
  quantile : Binary64
  value : Binary64
deriving DecidableEq, Repr

structure SummaryPoint where
  attributes : List Attribute
  start : UInt64
  time : UInt64
  count : UInt64
  sum : Binary64
  quantiles : List QuantileValue
  flags : UInt32
deriving DecidableEq, Repr

inductive Temporality
  | unspecified
  | delta
  | cumulative
deriving DecidableEq, Repr

def Temporality.code : Temporality → Nat
  | unspecified => 0
  | delta => 1
  | cumulative => 2

inductive Data
  | gauge (points : List NumberPoint)
  | sum (points : List NumberPoint) (temporality : Temporality) (monotonic : Bool)
  | histogram (points : List HistogramPoint) (temporality : Temporality)
  | summary (points : List SummaryPoint)
deriving DecidableEq, Repr

structure Metric where
  name : String
  description : String
  unit : String
  data : Data
  metadata : List Attribute
deriving DecidableEq, Repr

/-- What produced the metrics. -/
structure Scope where
  name : String
  version : String
deriving DecidableEq, Repr

structure ScopeMetrics where
  scope : Scope
  metrics : List Metric
deriving DecidableEq, Repr

structure ResourceMetrics where
  /-- The attributes of the resource. -/
  resource : List Attribute
  scopes : List ScopeMetrics
deriving DecidableEq, Repr

/-- What is sent to a collector. -/
structure ExportRequest where
  resources : List ResourceMetrics
deriving DecidableEq, Repr

end Telemetry.Otlp
