import Telemetry.Otlp.Message
import Telemetry.Wire.Decoding

/-!
# Reading OTLP messages

Every message from its wire fields, by the rules of proto3. Messages outside the part of the protocol that an export
uses, such as attributes whose value is no text, are refused.
-/

namespace Telemetry.Otlp
open Wire

def Attribute.ofFields? (fields : List Field) : Option Attribute := do
  return ⟨← textAt? 1 fields, ← presentTextAt? 1 (← messageAt? 2 fields)⟩

def Exemplar.ofFields? (fields : List Field) : Option Exemplar := do
  return {
    attributes := ← messagesAt? 7 fields Attribute.ofFields?
    time := ← wordAt? 2 fields
    spanId := ← bytesAt? 4 fields
    traceId := ← bytesAt? 5 fields
    value := ← presentDoubleAt? 3 fields }

def NumberPoint.ofFields? (fields : List Field) : Option NumberPoint := do
  return {
    attributes := ← messagesAt? 7 fields Attribute.ofFields?
    start := ← wordAt? 2 fields
    time := ← wordAt? 3 fields
    value := ← presentDoubleAt? 4 fields
    exemplars := ← messagesAt? 5 fields Exemplar.ofFields?
    flags := (← intAt? 8 fields).toUInt32 }

def HistogramPoint.ofFields? (fields : List Field) : Option HistogramPoint := do
  return {
    attributes := ← messagesAt? 9 fields Attribute.ofFields?
    start := ← wordAt? 2 fields
    time := ← wordAt? 3 fields
    count := ← wordAt? 4 fields
    sum := ← optionalDoubleAt? 5 fields
    bucketCounts := ← wordsAt? 6 fields
    explicitBounds := (← wordsAt? 7 fields).map Binary64.mk
    exemplars := ← messagesAt? 8 fields Exemplar.ofFields?
    flags := (← intAt? 10 fields).toUInt32 }

def QuantileValue.ofFields? (fields : List Field) : Option QuantileValue := do
  return ⟨← doubleAt? 1 fields, ← doubleAt? 2 fields⟩

def SummaryPoint.ofFields? (fields : List Field) : Option SummaryPoint := do
  return {
    attributes := ← messagesAt? 7 fields Attribute.ofFields?
    start := ← wordAt? 2 fields
    time := ← wordAt? 3 fields
    count := ← wordAt? 4 fields
    sum := ← doubleAt? 5 fields
    quantiles := ← messagesAt? 6 fields QuantileValue.ofFields?
    flags := (← intAt? 8 fields).toUInt32 }

def Temporality.ofCode? : Nat → Option Temporality
  | 0 => some unspecified
  | 1 => some delta
  | 2 => some cumulative
  | _ => none

def Data.ofFields? (fields : List Field) : Option Data := do
  let (member, content) ← chosenAt? [5, 7, 9, 11] fields
  match member with
  | 5 => return gauge (← messagesAt? 1 content NumberPoint.ofFields?)
  | 7 =>
    return sum (← messagesAt? 1 content NumberPoint.ofFields?) (← Temporality.ofCode? (← intAt? 2 content).toNat)
      (decide ((← intAt? 3 content) ≠ 0))
  | 9 =>
    return histogram (← messagesAt? 1 content HistogramPoint.ofFields?)
      (← Temporality.ofCode? (← intAt? 2 content).toNat)
  | _ => return summary (← messagesAt? 1 content SummaryPoint.ofFields?)

def Metric.ofFields? (fields : List Field) : Option Metric := do
  return {
    name := ← textAt? 1 fields
    description := ← textAt? 2 fields
    unit := ← textAt? 3 fields
    data := ← Data.ofFields? fields
    metadata := ← messagesAt? 12 fields Attribute.ofFields? }

def Scope.ofFields? (fields : List Field) : Option Scope := do
  return ⟨← textAt? 1 fields, ← textAt? 2 fields⟩

def ScopeMetrics.ofFields? (fields : List Field) : Option ScopeMetrics := do
  return ⟨← Scope.ofFields? (← messageAt? 1 fields), ← messagesAt? 2 fields Metric.ofFields?⟩

def ResourceMetrics.ofFields? (fields : List Field) : Option ResourceMetrics := do
  return ⟨← messagesAt? 1 (← messageAt? 1 fields) Attribute.ofFields?, ← messagesAt? 2 fields ScopeMetrics.ofFields?⟩

def ExportRequest.ofFields? (fields : List Field) : Option ExportRequest := do
  return ⟨← messagesAt? 1 fields ResourceMetrics.ofFields?⟩

/-- The request that bytes hold, all of them. -/
def ExportRequest.decode? (bytes : List UInt8) : Option ExportRequest := (Wire.decode? bytes).bind ofFields?

end Telemetry.Otlp
