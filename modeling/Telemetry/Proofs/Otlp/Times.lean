import Mathlib.Data.List.Perm.Basic
import Telemetry.Proofs.Acceptance
import Telemetry.Proofs.Otlp.Faithful

/-!
# The times of exported points

Whether values accumulate is decided twice: by the family, when it gives its points a start, and by the export, when
it chooses the kind and the temporality of the data. Both decisions agree (`Otlp.temporality?_dataOf`), so a start
of its own is exported with cumulative data only, and there it is the one that the last sample with a start told;
every point has the time of the first sample of its series (`Otlp.times_tell_history`).
-/

namespace Telemetry

theorem Family.Tells.start_header {f : Family} {history : List Sample} {s : Series} (h : f.Tells history s)
    (order : LabelOrder) (cumulative : Bool) : (s.header order cumulative).start =
      if cumulative then ((lastWhere f.tellsStart history).map fun x => Family.startOf x.value).getD
        (s.header order cumulative).time
      else (s.header order cumulative).time := by
  have hfirst : s.firstSeen = s.timestamp := Option.some.inj (h.firstSeen.symm.trans h.timestamp)
  simp only [Series.header, Series.startNanos, h.created, hfirst]

namespace Otlp

/-! ## Points of any kind -/

/-- What the points of every kind say about their series and its times. -/
structure Stamp where
  attributes : List Attribute
  start : UInt64
  time : UInt64
deriving DecidableEq

namespace Data

def stamps : Data → List Stamp
  | gauge points | sum points _ _ => points.map fun p => ⟨p.attributes, p.start, p.time⟩
  | histogram points _ => points.map fun p => ⟨p.attributes, p.start, p.time⟩
  | summary points => points.map fun p => ⟨p.attributes, p.start, p.time⟩

def temporality? : Data → Option Temporality
  | gauge _ | summary _ => none
  | sum _ temporality _ | histogram _ temporality => some temporality

end Data

theorem stamps_dataOf (type : MetricType) (points : Points) :
    (dataOf type points).stamps = points.headers.map fun h => ⟨attributesOf h.labels, h.start, h.time⟩ := by
  cases points with
  | scalar points =>
    by_cases hcounter : type = .counter <;>
      simp [dataOf, hcounter, Data.stamps, Points.headers, numberPointOf, Function.comp_def]
  | histogram points => simp [dataOf, Data.stamps, Points.headers, histogramPointOf, Function.comp_def]
  | summary points => simp [dataOf, Data.stamps, Points.headers, summaryPointOf, Function.comp_def]

theorem temporality?_dataOf {type : MetricType} {points : Points} (h : points.shape = type.shape) :
    (dataOf type points).temporality? = some .cumulative ↔ type.isCumulative = true := by
  cases points <;> cases type <;>
    simp_all [dataOf, Data.temporality?, MetricType.isCumulative, Points.shape, MetricType.shape]

/-! ## Times -/

/-- The samples among those taken in that belong to the series of this name and these attributes, in whatever order the
attributes stand. -/
def samplesOf (store : MetadataStore) (settings : AssemblySettings) (name : String) (attributes : List Attribute)
    (taken : List Sample) : List Sample :=
  taken.filter fun x => Cycle.familyName store x.name = name ∧
    (attributesOf ((Family.declared name store settings).identityLabels x)).Perm attributes

section Run

variable {target other : Target} {store : MetadataStore} {settings : AssemblySettings} {xs : List Sample}

/-- The attributes of a point tell which samples its series took in. -/
theorem samplesOf_eq {f : Family} (hf : f ∈ ((Cycle.start target store settings).extend xs).families) {s : Series}
    (hs : s ∈ f.series) (order : LabelOrder) :
    samplesOf store settings f.name (attributesOf (order.arrange s.labels))
        ((Cycle.start target store settings).accepted xs) =
      (((Cycle.start target store settings).accepted xs).filter fun x => Cycle.familyName store x.name = f.name).filter
        fun x => (Family.declared f.name store settings).keyOf x = s.key := by
  have hsound : f.SoundSeries s := (Cycle.sound_of_mem_families hf).1.series s hs
  have hshown : (attributesOf (order.arrange s.labels)).Perm (attributesOf s.labels) :=
    (order.perm_arrange s.labels).map _
  rw [List.filter_filter]
  refine List.filter_congr fun x hx => ?_
  rw [Cycle.accepted_start, List.mem_filter, Bool.and_eq_true] at hx
  by_cases hname : Cycle.familyName store x.name = f.name
  · have hacc : (Family.declared f.name store settings).accepts x = true := by
      have hxacc := hx.2.2
      rwa [Cycle.familyOf, hname] at hxacc
    have hattributes : (attributesOf ((Family.declared f.name store settings).identityLabels x)).Perm
        (attributesOf (order.arrange s.labels)) ↔
        ((Family.declared f.name store settings).identityLabels x).Perm s.labels :=
      hshown.congr_right _ |>.trans (List.map_perm_map_iff attribute_injective)
    simp [hname, hattributes, hsound.key, Family.keyOf_eq_iff_perm hacc hsound.sorted]
  · simp [hname]

theorem series_of_mem_stamps {m : Metric}
    (hm : m ∈ (resourceOf other ((Cycle.start target store settings).extend xs).records).scopes.flatMap
      ScopeMetrics.metrics) {p : Stamp} (hp : p ∈ m.data.stamps) :
    ∃ f ∈ ((Cycle.start target store settings).extend xs).families, ∃ s ∈ f.series, m.name = f.name ∧
      (m.data.temporality? = some .cumulative ↔ f.isCumulative = true) ∧
      p.attributes = attributesOf (f.labelOrder.arrange s.labels) ∧
      p.start = (s.header f.labelOrder f.isCumulative).start ∧
      p.time = (s.header f.labelOrder f.isCumulative).time := by
  have hmetrics : (resourceOf other ((Cycle.start target store settings).extend xs).records).scopes.flatMap
      ScopeMetrics.metrics = ((Cycle.start target store settings).extend xs).records.map metricOf := by
    simp [resourceOf]
  rw [hmetrics] at hm
  obtain ⟨r, hr, rfl⟩ := List.mem_map.1 hm
  change p ∈ (dataOf r.type r.points).stamps at hp
  rw [stamps_dataOf] at hp
  obtain ⟨header, hheader, rfl⟩ := List.mem_map.1 hp
  obtain ⟨f, hf, s, hs, hrecord, rfl⟩ := Cycle.header_of_mem_records _ _ _ _ hr hheader
  obtain ⟨-, rfl⟩ := Family.record?_eq_some_iff.1 hrecord
  exact ⟨f, hf, s, hs, rfl, temporality?_dataOf f.shape_points, rfl, rfl, rfl⟩

/-- **The times of an exported point tell the history of its series.** Its time is that of the first sample taken
in, from the epoch on and as far as nanoseconds count. Its start is that time, unless the data is cumulative and a
`_created` sample that counts was taken in: then it is the start that the last one told. -/
theorem times_tell_history {m : Metric}
    (hm : m ∈ (resourceOf other ((Cycle.start target store settings).extend xs).records).scopes.flatMap
      ScopeMetrics.metrics) {p : Stamp} (hp : p ∈ m.data.stamps) :
    let history := samplesOf store settings m.name p.attributes ((Cycle.start target store settings).accepted xs)
    let told? := lastWhere (Family.declared m.name store settings).tellsStart history
    (∃ first, history.head? = some first ∧
      (p.time.toNat : Int) = min (max first.timestamp 0 * 1000000) 18446744073709551615) ∧
    (p.start ≠ p.time → m.data.temporality? = some .cumulative ∧ told?.isSome = true) ∧
    (m.data.temporality? = some .cumulative → ∀ x, told? = some x → p.start = Family.startOf x.value) ∧
    (m.data.temporality? ≠ some .cumulative → p.start = p.time) := by
  intro history told?
  obtain ⟨f, hf, s, hs, hname, htemporality, hattributes, hpstart, hptime⟩ := series_of_mem_stamps hm hp
  have htells : (Family.declared m.name store settings).Tells history s := by
    show (Family.declared m.name store settings).Tells (samplesOf store settings m.name p.attributes _) s
    rw [hname, hattributes, samplesOf_eq hf hs]
    exact Cycle.tells_of_mem_families hf hs
  have hstart : p.start =
      if f.isCumulative then (told?.map fun x => Family.startOf x.value).getD p.time else p.time := by
    rw [hpstart, hptime]
    exact htells.start_header f.labelOrder f.isCumulative
  refine ⟨?_, fun hne => ?_, fun hcumulative x hx => ?_, fun hcumulative => ?_⟩
  · obtain ⟨first, hfirst, htime⟩ := Option.map_eq_some_iff.1 htells.timestamp
    refine ⟨first, hfirst, ?_⟩
    rw [hptime, htime]
    exact toNat_nanosOfMillis s.timestamp
  · rw [hstart] at hne
    cases hc : f.isCumulative with
    | false => simp [hc] at hne
    | true =>
      refine ⟨htemporality.2 hc, Option.isSome_iff_ne_none.2 fun hnone => hne ?_⟩
      rw [if_pos hc, hnone, Option.map_none, Option.getD_none]
  · rw [hstart, if_pos (htemporality.1 hcumulative), hx, Option.map_some, Option.getD_some]
  · rw [hstart, if_neg fun hc => hcumulative (htemporality.2 hc)]

end Run

/-- A counter first seen before the epoch; of two later samples that are to tell its start, the second has no number. -/
theorem start_of_created_requests :
    let store : MetadataStore := fun name => if name = "requests" then some ⟨.counter, "", ""⟩ else none
    let xs : List Sample :=
      [⟨"requests", [⟨"zone", "a"⟩, ⟨"host", "b"⟩], -7, .ofNat 5, none⟩,
        ⟨"requests_created", [⟨"host", "b"⟩, ⟨"zone", "a"⟩], 9, ⟨0x3ff8000000000000⟩, none⟩,
        ⟨"requests_created", [⟨"host", "b"⟩, ⟨"zone", "a"⟩], 9, .nan, none⟩]
    let metrics := (resourceOf ⟨"node", "host"⟩
      ((Cycle.start ⟨"node", "host"⟩ store .default).extend xs).records).scopes.flatMap ScopeMetrics.metrics
    let p : Stamp := ⟨[⟨"zone", "a"⟩, ⟨"host", "b"⟩], 1500000000, 0⟩
    ∃ m ∈ metrics, p ∈ m.data.stamps ∧ p.start ≠ p.time ∧ m.data.temporality? = some .cumulative := by
  intro store xs metrics p
  have hpoint : ∃ m ∈ metrics, p ∈ m.data.stamps := by decide +kernel
  obtain ⟨m, hm, hp⟩ := hpoint
  have hstart : p.start ≠ p.time := by decide +kernel
  exact ⟨m, hm, hp, hstart, ((times_tell_history hm hp).2.1 hstart).1⟩

end Otlp

end Telemetry
