import Telemetry.Rejection
import Telemetry.Label
import Telemetry.Sorting

/-!
# Series identity

A series is identified by the labels that remain without the metric name and the labels that name a part. They
are kept sorted by name; `SeriesKey` is their canonical text, in which names escape `\` and `=` and values escape
`\` and `"`, so that a key never belongs to two label sets.
-/

namespace Telemetry

/-- The canonical text of a series identity. -/
structure SeriesKey where
  text : String
deriving DecidableEq, Repr

namespace SeriesKey

/-- A backslash before every backslash and every `delimiter`. -/
def escape (delimiter : Char) : List Char → List Char
  | [] => []
  | c :: rest => if c = '\\' ∨ c = delimiter then '\\' :: c :: escape delimiter rest else c :: escape delimiter rest

/-- One label: its name, an equals sign, its value in quotes. -/
def pair (l : Label) : List Char := escape '=' l.name.toList ++ '=' :: '"' :: escape '"' l.value.toList ++ ['"']

/-- The key of labels that are sorted by name: the pairs, joined by commas. -/
def ofSorted (labels : List Label) : SeriesKey := ⟨String.ofList (List.intercalate [','] (labels.map pair))⟩

end SeriesKey

/-- The identity labels of a series, sorted by name, with their key. -/
structure Identity where
  key : SeriesKey
  labels : List Label
deriving DecidableEq, Repr

namespace Identity

/-- Whether a label identifies the series: it is neither the metric name nor the name of a part. -/
def isIdentifying (nameLabel : String) (partLabels : List String) (l : Label) : Bool :=
  l.name != nameLabel && !partLabels.contains l.name

def labelsOf (nameLabel : String) (partLabels : List String) (labels : List Label) : List Label :=
  sortBy (fun a b => decide (a.name ≤ b.name)) (labels.filter (isIdentifying nameLabel partLabels))

/-- The identity that a sample's labels resolve to. -/
def ofLabels (nameLabel : String) (partLabels : List String) (labels : List Label) : Except Rejection Identity :=
  match Label.repeatedName? [] labels with
  | some name => .error (.duplicateLabel name)
  | none =>
    if (Label.lookup? labels bucketLabel).isSome ∧ (Label.lookup? labels quantileLabel).isSome then
      .error .bucketAndQuantile
    else
      let identifying := labelsOf nameLabel partLabels labels
      .ok ⟨.ofSorted identifying, identifying⟩

end Identity

end Telemetry
