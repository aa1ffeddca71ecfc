import Telemetry.MetricType

/-!
# Rejections

Why a sample is not accepted. The message of each is what a user sees.
-/

namespace Telemetry

inductive Rejection
  /-- A label name occurs twice. -/
  | duplicateLabel (name : String)
  /-- No sample is a bucket and a quantile at once. -/
  | bucketAndQuantile
  /-- The key of the sample belongs to a series with other labels. -/
  | inconsistentSeries (family key labels : String)
  /-- A bucket or quantile sample lacks the label with its bound. -/
  | missingBoundary (family label : String)
  /-- The bound is not a number. -/
  | invalidBoundary (label value : String)
deriving DecidableEq, Repr

def Rejection.message : Rejection → String
  | duplicateLabel name => s!"malformed labels: duplicate label key '{name}'"
  | bucketAndQuantile => s!"malformed labels: both '{bucketLabel}' and '{quantileLabel}' present"
  | inconsistentSeries family key labels =>
    s!"labels \x7b{labels}\x7d collide with group '{key}' of family '{family}'"
  | missingBoundary family label =>
    s!"missing '{label}' label on a bucket or quantile sample of family '{family}'"
  | invalidBoundary label value => s!"invalid '{label}' value '{value}'"

end Telemetry
