import Telemetry.Otlp.Conversion
import Telemetry.Wire.Field

/-!
# The bytes of OTLP messages

The members of every message as wire fields, in ascending order of their numbers.
-/

namespace Telemetry.Otlp
open Wire

def Attribute.fields (a : Attribute) : List Field := plainText 1 a.key ++ message 2 (presentText 1 a.value)

def Exemplar.fields (e : Exemplar) : List Field :=
  plainWord 2 e.time ++ presentDouble 3 e.value ++ plainBytes 4 e.spanId ++ plainBytes 5 e.traceId
    ++ messages 7 e.attributes Attribute.fields

def NumberPoint.fields (p : NumberPoint) : List Field :=
  plainWord 2 p.start ++ plainWord 3 p.time ++ presentDouble 4 p.value ++ messages 5 p.exemplars Exemplar.fields
    ++ messages 7 p.attributes Attribute.fields ++ plainInt 8 p.flags.toUInt64

def HistogramPoint.fields (p : HistogramPoint) : List Field :=
  plainWord 2 p.start ++ plainWord 3 p.time ++ plainWord 4 p.count ++ optionalDouble 5 p.sum
    ++ packedWords 6 p.bucketCounts ++ packedWords 7 (p.explicitBounds.map Binary64.bits)
    ++ messages 8 p.exemplars Exemplar.fields ++ messages 9 p.attributes Attribute.fields
    ++ plainInt 10 p.flags.toUInt64

def QuantileValue.fields (q : QuantileValue) : List Field := plainDouble 1 q.quantile ++ plainDouble 2 q.value

def SummaryPoint.fields (p : SummaryPoint) : List Field :=
  plainWord 2 p.start ++ plainWord 3 p.time ++ plainWord 4 p.count ++ plainDouble 5 p.sum
    ++ messages 6 p.quantiles QuantileValue.fields ++ messages 7 p.attributes Attribute.fields
    ++ plainInt 8 p.flags.toUInt64

/-- The one member of a metric that holds its points. -/
def Data.fields : Data → List Field
  | gauge points => message 5 (messages 1 points NumberPoint.fields)
  | sum points temporality monotonic =>
    message 7 (messages 1 points NumberPoint.fields ++ plainInt 2 (UInt64.ofNat temporality.code)
      ++ plainInt 3 (if monotonic then 1 else 0))
  | histogram points temporality =>
    message 9 (messages 1 points HistogramPoint.fields ++ plainInt 2 (UInt64.ofNat temporality.code))
  | summary points => message 11 (messages 1 points SummaryPoint.fields)

def Metric.fields (m : Metric) : List Field :=
  plainText 1 m.name ++ plainText 2 m.description ++ plainText 3 m.unit ++ m.data.fields
    ++ messages 12 m.metadata Attribute.fields

def Scope.fields (s : Scope) : List Field := plainText 1 s.name ++ plainText 2 s.version

def ScopeMetrics.fields (s : ScopeMetrics) : List Field :=
  message 1 s.scope.fields ++ messages 2 s.metrics Metric.fields

def ResourceMetrics.fields (r : ResourceMetrics) : List Field :=
  message 1 (messages 1 r.resource Attribute.fields) ++ messages 2 r.scopes ScopeMetrics.fields

def ExportRequest.fields (r : ExportRequest) : List Field := messages 1 r.resources ResourceMetrics.fields

def Metric.encode (m : Metric) : List UInt8 := Wire.encode m.fields

def ExportRequest.encode (r : ExportRequest) : List UInt8 := Wire.encode r.fields

end Telemetry.Otlp
