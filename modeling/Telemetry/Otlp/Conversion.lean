import Telemetry.Otlp.Message
import Telemetry.Point
import Telemetry.Target

/-!
# Records as OTLP metrics

One record becomes one metric, the records of one target one resource. Counters become monotonic cumulative sums,
other scalars gauges; a histogram is cumulative if its type is.
-/

namespace Telemetry.Otlp

def typeKey : String := "prometheus.type"

/-- What the export names as its producer. -/
def scope : Scope := ⟨"assembler", "0.1.0"⟩

def flagsOf (stale : Bool) : UInt32 := if stale then 1 else 0

def attributesOf (labels : List Label) : List Attribute := labels.map fun l => ⟨l.name, l.value⟩

def exemplarOf (e : Telemetry.Exemplar) : Exemplar :=
  { attributes := attributesOf e.labels
    time := nanosOfMillis e.timestamp
    spanId := (e.spanId.map (·.toList)).getD []
    traceId := (e.traceId.map (·.toList)).getD []
    value := e.value }

def numberPointOf (p : ScalarPoint) : NumberPoint :=
  { attributes := attributesOf p.labels
    start := p.start
    time := p.time
    value := p.value
    exemplars := p.exemplars.map exemplarOf
    flags := flagsOf p.stale }

def histogramPointOf (p : Telemetry.HistogramPoint) : HistogramPoint :=
  { attributes := attributesOf p.labels
    start := p.start
    time := p.time
    count := p.count
    sum := p.sum
    bucketCounts := p.bucketCounts
    explicitBounds := p.explicitBounds
    exemplars := p.exemplars.map fun placed => exemplarOf placed.exemplar
    flags := flagsOf p.stale }

def summaryPointOf (p : Telemetry.SummaryPoint) : SummaryPoint :=
  { attributes := attributesOf p.labels
    start := p.start
    time := p.time
    count := p.count
    sum := p.sum
    quantiles := p.quantiles.map fun q => ⟨q.quantile, q.value⟩
    flags := flagsOf p.stale }

def dataOf (type : MetricType) : Points → Data
  | .scalar points =>
    let points := points.map numberPointOf
    if type = .counter then .sum points .cumulative true else .gauge points
  | .histogram points =>
    .histogram (points.map histogramPointOf) (if type.isCumulative then .cumulative else .unspecified)
  | .summary points => .summary (points.map summaryPointOf)

def metricOf (record : Record) : Metric :=
  { name := record.name
    description := record.help
    unit := record.unit
    data := dataOf record.type record.points
    metadata := if record.type = .unknown then [] else [⟨typeKey, record.type.name⟩] }

def attributeUnlessEmpty (key value : String) : List Attribute := if value.isEmpty then [] else [⟨key, value⟩]

/-- The records of one target as one resource. -/
def resourceOf (target : Target) (records : List Record) : ResourceMetrics :=
  { resource := attributeUnlessEmpty "service.name" target.job
      ++ attributeUnlessEmpty "service.instance.id" target.instanceName
    scopes := [⟨scope, records.map metricOf⟩] }

def exportRequest (target : Target) (records : List Record) : ExportRequest := ⟨[resourceOf target records]⟩

end Telemetry.Otlp
