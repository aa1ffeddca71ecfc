import Telemetry.Event
import Telemetry.Series.Point
import Telemetry.Settings
import Telemetry.Suffix

/-!
# Families

All series that share a base name during one scrape. A family sends each sample to the series that its labels
identify and to the part that its name and labels select, and yields one record at the end. A sample that is
rejected changes nothing.
-/

namespace Telemetry

structure Family where
  name : String
  metadata : Metadata
  settings : AssemblySettings
  labelOrder : LabelOrder
  /-- The series in the order in which they were first seen. -/
  series : List Series
deriving DecidableEq, Repr

namespace Family

/-- A family without series, declared as the store says. -/
def declared (name : String) (store : MetadataStore) (settings : AssemblySettings) : Family :=
  ⟨name, (store name).getD .undeclared, settings, .empty, []⟩

def type (f : Family) : MetricType := f.metadata.type

def shape (f : Family) : Shape := f.type.shape

def isCumulative (f : Family) : Bool := f.type.isCumulative

/-! ## Samples -/

/-- The identity that labels have in this family. -/
def identify (f : Family) (labels : List Label) : Except Rejection Identity :=
  Identity.ofLabels f.settings.nameLabel f.type.partLabels labels

def find? (f : Family) (key : SeriesKey) : Option Series := f.series.find? fun s => s.key == key

/-- The start that a `_created` sample tells: its value counts seconds, finite and not negative. -/
def createdNanos? (seconds : Binary64) : Option UInt64 :=
  if seconds.isFinite && Binary64.zero.le seconds then some (seconds.mulNat 1000000000).roundToUInt64 else none

/-- The boundary in the label of this name. -/
def boundaryOf (f : Family) (labelName : String) (labels : List Label) : Except Rejection Part :=
  match Label.lookup? labels labelName with
  | none => .error (.missingBoundary f.name labelName)
  | some text =>
    match boundary? text with
    | none => .error (.invalidBoundary labelName text)
    | some bound => .ok (.boundary bound)

def namedPart? (f : Family) : Suffix → Option Part
  | .count => some .count
  | .sum => some .sum
  | .gaugeCount => if f.type = .gaugeHistogram then some .count else none
  | .gaugeSum => if f.type = .gaugeHistogram then some .sum else none
  | .bucket | .total | .created => none

/-- The part of a histogram or summary that a sample feeds: the one its suffix names, otherwise that of its boundary. -/
def tallyPart (f : Family) (boundaryLabel : String) (suffix : Option Suffix) (labels : List Label) :
    Except Rejection Part :=
  match suffix.bind f.namedPart? with
  | some part => .ok part
  | none => f.boundaryOf boundaryLabel labels

/-- The part that a sample feeds; `none` if it is accepted and carries nothing to record. -/
def partOf (f : Family) (sample : Sample) : Except Rejection (Option Part) :=
  let suffix := Suffix.behind? f.name sample.name
  if suffix = some .created then
    .ok (if f.settings.honorCreated then (createdNanos? sample.value).map .created else none)
  else match f.shape with
    | .scalar => .ok (some .value)
    | .histogram => (f.tallyPart bucketLabel suffix sample.labels).map some
    | .summary => (f.tallyPart quantileLabel suffix sample.labels).map some

/-- The family with a series for this identity. -/
def openSeries (f : Family) (identity : Identity) (sample : Sample) : Except Rejection Family :=
  match f.find? identity.key with
  | some series =>
    if series.labels = identity.labels then .ok f
    else .error (.inconsistentSeries f.name identity.key.text (Label.render identity.labels))
  | none =>
    .ok { f with
      labelOrder := f.labelOrder.observe
        (sample.labels.filter (Identity.isIdentifying f.settings.nameLabel f.type.partLabels))
      series := f.series ++ [.start f.shape identity sample.timestamp] }

def feed (f : Family) (sample : Sample) (part : Option Part) (s : Series) : Series :=
  let s := match sample.exemplar with
    | some attached =>
      if f.settings.exemplars ∧ f.shape ≠ .summary then s.pushExemplar (.ofAttached sample.labels attached) else s
    | none => s
  match part with
  | some part => s.record part sample.value
  | none => s

/-- The family with a sample taken in. -/
def ingest (f : Family) (sample : Sample) : Except Rejection Family := do
  let identity ← f.identify sample.labels
  let part ← f.partOf sample
  let opened ← f.openSeries identity sample
  return { opened with
    series := opened.series.map fun s => if s.key = identity.key then f.feed sample part s else s }

/-- The family after a sample; one that is rejected leaves it as it is. -/
def take (f : Family) (sample : Sample) : Family :=
  match f.ingest sample with
  | .ok fed => fed
  | .error _ => f

/-- The family after samples, in their order. -/
def extend (f : Family) (samples : List Sample) : Family := samples.foldl take f

/-! ## Records -/

/-- The points that `build` makes of the series; a series that fails is left out. -/
def collect {P : Type} (f : Family) (build : Series → LabelOrder → Bool → Except PointFailure P) : List P :=
  f.series.filterMap fun s => (build s f.labelOrder f.isCumulative).toOption

def points (f : Family) : Points :=
  match f.shape with
  | .scalar => .scalar (f.collect Series.scalarPoint)
  | .histogram => .histogram (f.collect Series.histogramPoint)
  | .summary => .summary (f.collect Series.summaryPoint)

/-- The record of the family, if any of its series yields a point. -/
def record? (f : Family) : Option Record :=
  if f.points.isEmpty then none
  else some ⟨f.name, f.type, f.metadata.help, f.metadata.unit, f.points⟩

/-! ## Events -/

/-- The event of a series that `build` makes no point of. -/
def failureEvent? {P : Type} (f : Family) (build : Series → LabelOrder → Bool → Except PointFailure P)
    (s : Series) : Option Event :=
  match build s f.labelOrder f.isCumulative with
  | .ok _ => none
  | .error .emptySeries => some (.skippedSeries f.name (Label.render s.labels))
  | .error failure => some (.droppedSeries f.name (Label.render s.labels) failure)

/-- What making the record reports: the series left out, and whether no point remained. -/
def recordEvents (f : Family) : List Event :=
  let failures := match f.shape with
    | .scalar => f.series.filterMap (f.failureEvent? Series.scalarPoint)
    | .histogram => f.series.filterMap (f.failureEvent? Series.histogramPoint)
    | .summary => f.series.filterMap (f.failureEvent? Series.summaryPoint)
  failures ++ if f.points.isEmpty then [.noPoints f.name f.series.length] else []

end Family

end Telemetry
