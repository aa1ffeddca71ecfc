/-!
# Name suffixes

The endings that a sample name may carry behind the name of its family.
-/

namespace Telemetry

inductive Suffix
  | bucket
  | count
  | sum
  | total
  | created
  | gaugeCount
  | gaugeSum
deriving DecidableEq, Repr

namespace Suffix

def text : Suffix → String
  | bucket => "_bucket"
  | count => "_count"
  | sum => "_sum"
  | total => "_total"
  | created => "_created"
  | gaugeCount => "_gcount"
  | gaugeSum => "_gsum"

def all : List Suffix := [bucket, count, sum, total, created, gaugeCount, gaugeSum]

/-- The name before this suffix, if the name ends in it. -/
def strip? (suffix : Suffix) (name : String) : Option String :=
  (suffix.text.toList.isSuffixOf? name.toList).map String.ofList

/-- The suffix that is left of a name behind `base`. -/
def behind? (base name : String) : Option Suffix := all.find? fun suffix => base ++ suffix.text == name

end Suffix

end Telemetry
