import Mathlib.Data.List.Find
import Telemetry.Proofs.Buckets
import Telemetry.Proofs.Records
import Telemetry.Proofs.SingleSeries

/-!
# Assembly inverts the generator of histograms

The samples that `histogramSamples` makes of observations belong to one series, and the point of this series shows the
observations: `record?_histogramSamples`. Each sample feeds one slot that no other one feeds, so the slots of the series
hold what the generator put into them (`held_histogramSamples`), and this tally has one layout.
-/

namespace Telemetry

namespace Synthetic
open Family

/-! ## The samples -/

section Samples

variable (family : String) (series : List Label) (bounds observations : List Binary64) (timestamp : Int)

def bucketSample (upper : Option Binary64) : Sample :=
  sample (family ++ Suffix.bucket.text) (series ++ [⟨bucketLabel, upper.elim "+Inf" Binary64.toText⟩]) timestamp
    (.ofNat (between observations none upper))

def sumSample : Sample := sample (family ++ Suffix.sum.text) series timestamp (.sum observations)

def countSample : Sample := sample (family ++ Suffix.count.text) series timestamp (.ofNat observations.length)

theorem histogramSamples_eq : histogramSamples family series bounds observations timestamp =
    (limits bounds).map (bucketSample family series observations timestamp) ++
      [sumSample family series observations timestamp] ++ [countSample family series observations timestamp] := by
  simp [histogramSamples, limits, bucketSample, sumSample, countSample, cumulative_eq_between, ← length_eq_between]

end Samples

section Series

variable {f : Family} {series : List Label} {bounds observations : List Binary64} {timestamp : Int}

/-! ## What each sample feeds -/

theorem boundary?_limit {upper : Option Binary64} (hfinite : ∀ b ∈ upper, b.isFinite = true) :
    boundary? (upper.elim "+Inf" Binary64.toText) = some (limitBoundary upper) := by
  cases upper with
  | none => decide +kernel
  | some b => exact boundary?_toText (Binary64.isNaN_of_isFinite (hfinite b rfl))

theorem isFinite_of_mem_limits (hfinite : ∀ b ∈ bounds, b.isFinite = true) {upper : Option Binary64}
    (hupper : upper ∈ limits bounds) : ∀ b ∈ upper, b.isFinite = true := by
  rcases List.mem_append.1 hupper with hmem | hmem
  · obtain ⟨b, hb, rfl⟩ := List.mem_map.1 hmem
    rintro c ⟨⟩
    exact hfinite b hb
  · rw [List.mem_singleton.1 hmem]
    rintro c ⟨⟩

variable (hshape : f.shape = .histogram) (hdistinct : Label.Distinct series)
  (hseries : ∀ l ∈ series, l.name ≠ bucketLabel ∧ l.name ≠ quantileLabel)

theorem ne_scalar_of_histogram (hshape : f.shape = .histogram) : f.shape ≠ .scalar := by
  rw [hshape]
  decide

theorem boundaryLabel_of_histogram (hshape : f.shape = .histogram) : bucketLabel ∈ f.shape.boundaryLabel? := by
  rw [hshape]
  rfl

include hshape hseries in
theorem partOf_bucketSample {upper : Option Binary64} (hfinite : ∀ b ∈ upper, b.isFinite = true) :
    f.partOf (bucketSample f.name series observations timestamp upper) =
      .ok (some (.boundary (limitBoundary upper))) := by
  refine partOf_bucket (ne_scalar_of_histogram hshape) rfl ?_
  rw [boundOf?_of_carries hseries (boundaryLabel_of_histogram hshape) rfl, boundary?_limit hfinite]

include hshape in
theorem partOf_sumSample : f.partOf (sumSample f.name series observations timestamp) = .ok (some .sum) :=
  partOf_sum (ne_scalar_of_histogram hshape) rfl

include hshape in
theorem partOf_countSample : f.partOf (countSample f.name series observations timestamp) = .ok (some .count) :=
  partOf_count (ne_scalar_of_histogram hshape) rfl

theorem mem_histogramSamples {family : String} {x : Sample} :
    x ∈ histogramSamples family series bounds observations timestamp ↔
      (∃ upper ∈ limits bounds, x = bucketSample family series observations timestamp upper) ∨
      x = sumSample family series observations timestamp ∨ x = countSample family series observations timestamp := by
  simp [histogramSamples_eq, eq_comm]

include hshape in
theorem carries_of_mem {family : String} {x : Sample}
    (hx : x ∈ histogramSamples family series bounds observations timestamp) : f.Carries series x := by
  rcases mem_histogramSamples.1 hx with ⟨upper, -, rfl⟩ | rfl | rfl
  · exact Or.inr ⟨bucketLabel, boundaryLabel_of_histogram hshape, _, rfl⟩
  · exact Or.inl rfl
  · exact Or.inl rfl

include hshape hdistinct hseries in
theorem accepts_of_mem (hfinite : ∀ b ∈ bounds, b.isFinite = true) {x : Sample}
    (hx : x ∈ histogramSamples f.name series bounds observations timestamp) : f.accepts x = true := by
  have hcarries : f.Carries series x := carries_of_mem hshape hx
  rcases mem_histogramSamples.1 hx with ⟨upper, hupper, rfl⟩ | rfl | rfl
  · exact accepts_of_carries hseries hdistinct hcarries
      (partOf_bucketSample hshape hseries (isFinite_of_mem_limits hfinite hupper))
  · exact accepts_of_carries hseries hdistinct hcarries (partOf_sumSample hshape)
  · exact accepts_of_carries hseries hdistinct hcarries (partOf_countSample hshape)

/-! ## The series -/

def tally (bounds observations : List Binary64) : Tally :=
  ⟨some (.ofNat observations.length), some (.sum observations), buckets bounds observations⟩

variable (hobs : ∀ x ∈ observations, x.isFinite = true) (hlength : observations.length < 2 ^ 53)
  (hfinite : ∀ b ∈ bounds, b.isFinite = true) (hasc : bounds.Pairwise fun a b => a.lt b)

include hshape hseries hfinite in
theorem feeds_bucketSample {upper : Option Binary64} (hupper : upper ∈ limits bounds) (slot : Slot) :
    f.feeds (bucketSample f.name series observations timestamp upper) slot =
      (Part.boundary (limitBoundary upper)).fits slot := by
  rw [feeds_eq (partOf_bucketSample hshape hseries (isFinite_of_mem_limits hfinite hupper))]
  rfl

include hshape in
theorem feeds_sumSample (slot : Slot) :
    f.feeds (sumSample f.name series observations timestamp) slot = Part.sum.fits slot :=
  feeds_eq (partOf_sumSample hshape) slot

include hshape in
theorem feeds_countSample (slot : Slot) :
    f.feeds (countSample f.name series observations timestamp) slot = Part.count.fits slot :=
  feeds_eq (partOf_countSample hshape) slot

include hshape hseries hlength hfinite hasc in
theorem held_buckets (x : Binary64) :
    (lastWhere (fun y => f.feeds y (.boundary x))
        ((limits bounds).map (bucketSample f.name series observations timestamp))).map
      (fun y => (Slot.boundary x).kept y.value) = (buckets bounds observations).at? x := by
  have hfeeds : ∀ upper ∈ limits bounds,
      f.feeds (bucketSample f.name series observations timestamp upper) (.boundary x) =
        (limitBoundary upper).sameNumber x := fun upper hupper => feeds_bucketSample hshape hseries hfinite hupper _
  -- no two limits are one number
  have hapart : ((limits bounds).map (bucketSample f.name series observations timestamp)).Pairwise fun y z =>
      ¬ (f.feeds y (.boundary x) = true ∧ f.feeds z (.boundary x) = true) := by
    refine List.pairwise_map.2 ((pairwise_limits hfinite hasc).imp_of_mem fun {a b} ha hb hab => ?_)
    rw [hfeeds a ha, hfeeds b hb]
    rintro ⟨hax, hbx⟩
    exact Binary64.not_sameNumber_of_lt hab (Binary64.sameNumber_trans hax (Binary64.sameNumber_symm hbx))
  have hfind : (limits bounds).find? ((fun y => f.feeds y (.boundary x)) ∘
      bucketSample f.name series observations timestamp) =
      (limits bounds).find? fun upper => (limitBoundary upper).sameNumber x := List.find?_congr hfeeds
  have hvalue : (fun y : Sample => (Slot.boundary x).kept y.value) ∘
      bucketSample f.name series observations timestamp = fun upper => .ofNat (between observations none upper) := by
    funext upper
    rw [Function.comp_apply, bucketSample, sample, Slot.kept_ofNat ((between_le_length none upper).trans hlength.le)]
  rw [lastWhere_eq_find? hapart, List.find?_map, Option.map_map, hfind, hvalue, BoundaryMap.at?, buckets,
    List.find?_map, Option.map_map]
  rfl

include hshape hseries hobs hlength hfinite hasc in
/-- **Each slot holds what the one sample that feeds it brought.** -/
theorem held_histogramSamples (slot : Slot) :
    (lastWhere (fun y => f.feeds y slot) (histogramSamples f.name series bounds observations timestamp)).map
      (fun y => slot.kept y.value) = (SeriesData.histogram (tally bounds observations)).held slot := by
  rw [histogramSamples_eq, lastWhere_append, lastWhere_append, feeds_sumSample hshape, feeds_countSample hshape]
  cases slot with
  | value =>
    have hnone : lastWhere (fun y => f.feeds y .value)
        ((limits bounds).map (bucketSample f.name series observations timestamp)) = none := by
      unfold lastWhere
      rw [List.filter_eq_nil_iff.2, List.getLast?_nil]
      intro y hy
      obtain ⟨upper, hupper, rfl⟩ := List.mem_map.1 hy
      rw [feeds_bucketSample hshape hseries hfinite hupper]
      simp [Part.fits]
    simp [hnone, Part.fits, SeriesData.held, Tally.held]
  | count => exact congrArg some (Slot.kept_ofNat hlength.le _)
  | sum => exact congrArg some (Slot.kept_of_not_stale (Binary64.not_isStale_of_isNaN (Binary64.isNaN_sum hobs)))
  | boundary x => exact held_buckets hshape hseries hlength hfinite hasc x

end Series

/-! ## The record -/

/-- Whether a point shows the observations of a series: one bucket for each gap between the bounds, counting what lies
in it, and the labels of the series in their order. -/
structure Shows (series : List Label) (nameLabel : String) (bounds observations : List Binary64)
    (p : HistogramPoint) : Prop where
  labels : p.labels = series.filter fun l => l.name ≠ nameLabel
  explicitBounds : List.Forall₂ (fun b c => b.sameNumber c = true) p.explicitBounds bounds
  bucketCounts : p.bucketCounts.map UInt64.toNat =
    List.zipWith (between observations) (none :: bounds.map some) (bounds.map some ++ [none])
  count : p.count.toNat = observations.length
  total : (p.bucketCounts.map UInt64.toNat).sum = observations.length
  sum : p.sum = some (.sum observations)

section Record

variable {family : String} {store : MetadataStore} {settings : AssemblySettings}
  {series : List Label} {bounds observations : List Binary64} {timestamp : Int}
  (hdistinct : Label.Distinct series)
  (hseries : ∀ l ∈ series, l.name ≠ bucketLabel ∧ l.name ≠ quantileLabel)
  (hfinite : ∀ b ∈ bounds, b.isFinite = true) (hasc : bounds.Pairwise fun a b => a.lt b)
  (hobs : ∀ x ∈ observations, x.isFinite = true) (hlength : observations.length < 2 ^ 53)

include hdistinct hseries hfinite hasc hobs hlength in
/-- **The samples make one series**, which holds what they tell and shows its labels in their order. -/
theorem series_histogramSamples (hshape : (declared family store settings).shape = .histogram) :
    ∃ s : Series, ((declared family store settings).extend
        (histogramSamples family series bounds observations timestamp)).series = [s] ∧
      s.data = .histogram (tally bounds observations) ∧
      ((declared family store settings).extend
          (histogramSamples family series bounds observations timestamp)).labelOrder.arrange s.labels =
        series.filter fun l => l.name ≠ settings.nameLabel := by
  have hne : histogramSamples family series bounds observations timestamp ≠ [] := by simp [histogramSamples_eq]
  have haccepts : ∀ x ∈ histogramSamples family series bounds observations timestamp,
      (declared family store settings).accepts x = true :=
    fun x hx => accepts_of_mem hshape hdistinct hseries hfinite hx
  have hcarries : ∀ x ∈ histogramSamples family series bounds observations timestamp,
      (declared family store settings).Carries series x := fun x hx => carries_of_mem hshape hx
  obtain ⟨s, hrun, hlabels, htells⟩ := exists_series hne haccepts hcarries
  have hsound : (SeriesData.histogram (tally bounds observations)).Sound (declared family store settings).shape :=
    ⟨hshape.symm, ordered_buckets hfinite hasc⟩
  refine ⟨s, hrun, htells.data.ext hsound fun slot => (htells.held slot).trans ?_, ?_⟩
  · exact held_histogramSamples hshape hseries hobs hlength hfinite hasc slot
  · rw [hlabels]
    exact arrange_series hne haccepts hcarries hseries hdistinct

theorem forall₂_dropLast_limits (hfinite : ∀ b ∈ bounds, b.isFinite = true) :
    List.Forall₂ (fun b c => b.sameNumber c = true) ((limits bounds).map limitBoundary).dropLast bounds := by
  have hdrop : ((limits bounds).map limitBoundary).dropLast = bounds.map fun b => limitBoundary (some b) := by
    simp [limits]
  rw [hdrop, List.forall₂_map_left_iff, List.forall₂_same]
  exact fun b hb => (limitBoundary_some (hfinite b hb)).1

include hfinite hasc hobs hlength in
theorem shows_of_tally {s : Series} {order : LabelOrder} {nameLabel : String}
    (hdata : s.data = .histogram (tally bounds observations))
    (horder : order.arrange s.labels = series.filter fun l => l.name ≠ nameLabel) (cumulative : Bool) :
    ∃ p, s.histogramPoint order cumulative = .ok p ∧ Shows series nameLabel bounds observations p := by
  obtain ⟨counts, hlayout, hcounts, htotal⟩ := ofCumulative_buckets
    (fun x hx => Binary64.isNaN_of_isFinite (hobs x hx)) hlength hfinite hasc
  obtain ⟨count, hcount, hnat⟩ := truncateCount_ofNat hlength.le
  refine ⟨_, Series.histogramPoint_eq_ok_iff.2 ⟨_, _, _, hdata, rfl, hlayout, hcount, rfl⟩, ?_⟩
  exact
    { labels := horder
      explicitBounds := forall₂_dropLast_limits hfinite
      bucketCounts := hcounts
      count := hnat
      total := htotal
      sum := rfl }

end Record

/-- **Assembling the samples of known observations shows the observations.** A family of histograms accepts all of them,
and its record has one point, which counts the observations bucket by bucket. -/
theorem record?_histogramSamples {family help unit : String} {type : MetricType} {store : MetadataStore}
    {settings : AssemblySettings} {series : List Label} {bounds observations : List Binary64} {timestamp : Int}
    (hstore : store family = some ⟨type, help, unit⟩) (htype : type = .histogram ∨ type = .gaugeHistogram)
    (hdistinct : (series.map Label.name).Nodup)
    (hseries : ∀ l ∈ series, l.name ≠ bucketLabel ∧ l.name ≠ quantileLabel)
    (hasc : bounds.Pairwise fun a b => a.lt b) (hfinite : ∀ b ∈ bounds, b.isFinite = true)
    (hobs : ∀ x ∈ observations, x.isFinite = true) (hlength : observations.length < 2 ^ 53) :
    let f := declared family store settings
    let samples := histogramSamples family series bounds observations timestamp
    f.accepted samples = samples ∧
    ∃ p, (f.extend samples).record? = some ⟨family, type, help, unit, .histogram [p]⟩ ∧
      Shows series settings.nameLabel bounds observations p := by
  intro f samples
  have hmetadata : f.metadata = ⟨type, help, unit⟩ := by
    change (store family).getD .undeclared = _
    rw [hstore]
    rfl
  have htypeof : f.type = type := congrArg Metadata.type hmetadata
  have hshape : f.shape = .histogram := by
    rw [shape, htypeof]
    rcases htype with rfl | rfl <;> rfl
  have haccepts : ∀ x ∈ samples, f.accepts x = true := fun x hx =>
    accepts_of_mem hshape hdistinct hseries hfinite hx
  refine ⟨by rw [accepted_eq (keyed_declared family store settings), List.filter_eq_self.2 haccepts], ?_⟩
  obtain ⟨s, hrun, hdata, horder⟩ : ∃ s : Series, (f.extend samples).series = [s] ∧
      s.data = .histogram (tally bounds observations) ∧
      (f.extend samples).labelOrder.arrange s.labels = series.filter fun l => l.name ≠ settings.nameLabel :=
    series_histogramSamples hdistinct hseries hfinite hasc hobs hlength hshape
  obtain ⟨p, hpoint, hshows⟩ := shows_of_tally hfinite hasc hobs hlength hdata horder (f.extend samples).isCumulative
  have hpoints : (f.extend samples).points = .histogram [p] := by
    rw [points, (shape_extend samples f).1, hshape]
    exact congrArg Points.histogram (collect_of_series hrun hpoint)
  exact ⟨p, record?_extend hstore hpoints Nat.one_pos, hshows⟩

/-- An observation on a bound belongs to the bucket below it, and `-0.0` and `0.0` are one bound. -/
theorem record?_of_latency :
    let store : MetadataStore := fun name => if name = "latency" then some ⟨.gaugeHistogram, "", "s"⟩ else none
    let series : List Label := [⟨"zone", "b"⟩, ⟨"__name__", "latency"⟩, ⟨"host", "a"⟩]
    let bounds : List Binary64 := [⟨0xbff0000000000000⟩, .negZero, ⟨0x4004000000000000⟩]
    let observations : List Binary64 := [⟨0x4004000000000000⟩, .zero, ⟨0xc008000000000000⟩, .negZero]
    let f := declared "latency" store .default
    let samples := histogramSamples "latency" series bounds observations 7
    f.accepted samples = samples ∧
    ∃ p, (f.extend samples).record? = some ⟨"latency", .gaugeHistogram, "", "s", .histogram [p]⟩ ∧
      Shows series "__name__" bounds observations p ∧ p.bucketCounts.map UInt64.toNat = [1, 2, 1, 0] := by
  intro store series bounds observations f samples
  obtain ⟨haccepted, p, hrecord, hshows⟩ : f.accepted samples = samples ∧
      ∃ p, (f.extend samples).record? = some ⟨"latency", .gaugeHistogram, "", "s", .histogram [p]⟩ ∧
        Shows series "__name__" bounds observations p :=
    record?_histogramSamples rfl (Or.inr rfl) (by decide) (by decide) (by decide) (by decide) (by decide) (by decide)
  exact ⟨haccepted, p, hrecord, hshows, hshows.bucketCounts.trans (by decide)⟩

end Synthetic

end Telemetry
