/-!
# Metric types

The declared type of a family decides its shape: what its samples feed and which of their labels name a part of a
series rather than the series.
-/

namespace Telemetry

/-- How the samples of a family are laid out. -/
inductive Shape
  | scalar
  | histogram
  | summary
deriving DecidableEq, Repr

inductive MetricType
  | counter
  | gauge
  | histogram
  | gaugeHistogram
  | summary
  | unknown
deriving DecidableEq, Repr, Inhabited

def bucketLabel : String := "le"

def quantileLabel : String := "quantile"

namespace MetricType

def name : MetricType → String
  | counter => "counter"
  | gauge => "gauge"
  | histogram => "histogram"
  | gaugeHistogram => "gaugehistogram"
  | summary => "summary"
  | unknown => "unknown"

/-- The type of this name in any ASCII case; every other name is `unknown`. -/
def ofName (text : String) : MetricType :=
  match text.toLower with
  | "counter" => counter
  | "gauge" => gauge
  | "histogram" => histogram
  | "gaugehistogram" => gaugeHistogram
  | "summary" => summary
  | _ => unknown

/-- Whether values of this type accumulate since a start time. -/
def isCumulative : MetricType → Bool
  | counter | histogram => true
  | _ => false

theorem isCumulative_iff {type : MetricType} : type.isCumulative = true ↔ type = counter ∨ type = histogram := by
  cases type <;> decide

def shape : MetricType → Shape
  | histogram | gaugeHistogram => .histogram
  | summary => .summary
  | counter | gauge | unknown => .scalar

/-- The labels that name a part of a series. -/
def partLabels (type : MetricType) : List String :=
  match type.shape with
  | .scalar => []
  | .histogram => [bucketLabel]
  | .summary => [quantileLabel]

end MetricType

/-- What a scrape declares about a family. -/
structure Metadata where
  type : MetricType
  help : String
  unit : String
deriving DecidableEq, Repr

namespace Metadata

def undeclared : Metadata := ⟨.unknown, "", ""⟩

end Metadata

abbrev MetadataStore := String → Option Metadata

namespace MetadataStore

def empty : MetadataStore := fun _ => none

/-- Looks a name up in a list of declarations, of which the last for a name holds. -/
def ofList (declared : List (String × Metadata)) : MetadataStore := fun name => declared.reverse.lookup name

end MetadataStore

end Telemetry
