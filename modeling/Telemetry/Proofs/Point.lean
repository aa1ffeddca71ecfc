import Telemetry.Proofs.Series
import Telemetry.Series.Point

/-!
# The points of sound series

What it takes for a series to become a point, and what the point is then (`Series.scalarPoint_eq_ok_iff`,
`Series.histogramPoint_eq_ok_iff`, `Series.summaryPoint_eq_ok_iff`). Ordered boundaries make every such point well
formed (`Series.wellFormed_histogramPoint`, `Series.wellFormed_summaryPoint`).
-/

namespace Telemetry
open Binary64

/-- One bucket more than there are explicit bounds, which are numbers below infinity in strictly ascending order; every
exemplar lies in one of the buckets. -/
structure HistogramPoint.WellFormed (p : HistogramPoint) : Prop where
  nonempty : p.bucketCounts ≠ []
  sizes : p.explicitBounds.length + 1 = p.bucketCounts.length
  ascending : p.explicitBounds.Pairwise fun a b => a.lt b
  proper : ∀ b ∈ p.explicitBounds, b.isNaN = false ∧ b ≠ .negZero ∧ b ≠ .inf
  placed : ∀ e ∈ p.exemplars, e.bucket < p.bucketCounts.length

structure SummaryPoint.WellFormed (p : SummaryPoint) : Prop where
  ascending : p.quantiles.Pairwise fun a b => a.quantile.lt b.quantile
  proper : ∀ q ∈ p.quantiles, q.quantile.isNaN = false ∧ q.quantile ≠ .negZero

/-! ## Buckets -/

namespace BucketLayout

theorem perBucket_cons_eq_ok_iff {previous bound cumulative : Binary64} {rest : List (Binary64 × Binary64)}
    {counts : List UInt64} : perBucket previous ((bound, cumulative) :: rest) = .ok counts ↔
      cumulative.isFinite = true ∧ (cumulative.sub previous).lt .zero = false ∧
      ∃ others, perBucket cumulative rest = .ok others ∧
        counts = (cumulative.sub previous).truncToUInt64 :: others := by
  simp only [perBucket]
  cases hfinite : cumulative.isFinite with
  | false => simp
  | true =>
    cases hbelow : (cumulative.sub previous).lt .zero with
    | true => simp
    | false => cases perBucket cumulative rest <;> simp [eq_comm]

theorem length_perBucket {previous : Binary64} {entries : List (Binary64 × Binary64)} {counts : List UInt64}
    (h : perBucket previous entries = .ok counts) : counts.length = entries.length := by
  induction entries generalizing previous counts with
  | nil =>
    cases h
    rfl
  | cons e rest ih =>
    obtain ⟨-, -, others, hothers, rfl⟩ := perBucket_cons_eq_ok_iff.1 h
    rw [List.length_cons, List.length_cons, ih hothers]

def top (previous : Binary64) (entries : List (Binary64 × Binary64)) : Binary64 :=
  (entries.map Prod.snd).getLastD previous

theorem top_cons {previous bound value : Binary64} {rest : List (Binary64 × Binary64)} :
    top previous ((bound, value) :: rest) = top value rest := by
  rw [top, top, List.map_cons, List.getLastD_cons]

theorem ofCumulative_eq_ok_iff {buckets : BoundaryMap} {layout : BucketLayout} : ofCumulative buckets = .ok layout ↔
    buckets.entries ≠ [] ∧ ∃ counts, perBucket .zero buckets.entries = .ok counts ∧
      layout = ⟨buckets.entries.map Prod.fst, counts, top .zero buckets.entries⟩ := by
  unfold ofCumulative top
  rw [List.getLastD_eq_getLast?, List.getLast?_map]
  cases hlast : buckets.entries.getLast? with
  | none => simp [List.getLast?_eq_none_iff.1 hlast]
  | some e =>
    have hne : buckets.entries ≠ [] := by
      intro hnil
      rw [hnil] at hlast
      cases hlast
    cases perBucket .zero buckets.entries <;> simp [hne, eq_comm]

theorem of_ofCumulative {buckets : BoundaryMap} {layout : BucketLayout} (h : ofCumulative buckets = .ok layout) :
    layout.bounds = buckets.entries.map Prod.fst ∧ layout.bounds ≠ [] ∧
    layout.counts.length = layout.bounds.length := by
  obtain ⟨hne, counts, hcounts, rfl⟩ := ofCumulative_eq_ok_iff.1 h
  exact ⟨rfl, by simpa using hne, by rw [length_perBucket hcounts, List.length_map]⟩

end BucketLayout

theorem bucketIndex_lt {bounds : List Binary64} (h : bounds ≠ []) (value : Binary64) :
    bucketIndex bounds value < bounds.length := by
  have hpos : 0 < bounds.length := List.length_pos_iff.2 h
  unfold bucketIndex
  cases hfind : bounds.findIdx? value.le with
  | none => simp; omega
  | some i => exact (List.findIdx?_eq_some_iff_getElem.1 hfind).1

/-- Placing only reorders the exemplars, each with its bucket. -/
theorem placeExemplars_perm_map (bounds : List Binary64) (exemplars : List Exemplar) :
    (placeExemplars bounds exemplars).Perm (exemplars.map fun e => ⟨bucketIndex bounds e.value, e⟩) := perm_sortBy _ _

theorem eq_of_mem_placeExemplars {bounds : List Binary64} {exemplars : List Exemplar} {e : PlacedExemplar}
    (he : e ∈ placeExemplars bounds exemplars) : e.bucket = bucketIndex bounds e.exemplar.value := by
  obtain ⟨x, -, rfl⟩ := List.mem_map.1 ((placeExemplars_perm_map bounds exemplars).mem_iff.1 he)
  rfl

theorem bucket_of_mem_placeExemplars {bounds : List Binary64} (h : bounds ≠ []) {exemplars : List Exemplar}
    {e : PlacedExemplar} (he : e ∈ placeExemplars bounds exemplars) : e.bucket < bounds.length := by
  rw [eq_of_mem_placeExemplars he]
  exact bucketIndex_lt h e.exemplar.value

theorem ne_inf_of_mem_dropLast {bounds : List Binary64} (h : bounds.Pairwise fun a b => a.lt b) {b : Binary64}
    (hb : b ∈ bounds.dropLast) : b ≠ .inf := by
  rintro rfl
  have hne : bounds ≠ [] := by
    rintro rfl
    cases hb
  rw [← List.dropLast_concat_getLast hne, List.pairwise_append] at h
  exact not_inf_lt _ (h.2.2 _ hb _ (List.mem_singleton_self _))

/-! ## The points of a series -/

namespace Series

variable {s : Series} {order : LabelOrder} {cumulative : Bool}

theorem scalarPoint_eq_ok_iff {p : ScalarPoint} :
    s.scalarPoint order cumulative = .ok p ↔
      ∃ value, s.data = .scalar (some value) ∧
        p = { s.header order cumulative with value, exemplars := s.exemplars } := by
  unfold scalarPoint
  split
  · rename_i value hdata
    simp [hdata, eq_comm]
  · rename_i hdata
    simp only [reduceCtorEq, false_iff, not_exists, not_and]
    exact fun value heq => absurd heq (hdata value)

theorem histogramPoint_eq_ok_iff {p : HistogramPoint} :
    s.histogramPoint order cumulative = .ok p ↔
      ∃ t layout count, s.data = .histogram t ∧ t.isEmpty = false ∧
        BucketLayout.ofCumulative t.entries = .ok layout ∧ truncateCount (t.count.getD layout.total) = .ok count ∧
        p = { s.header order cumulative with
          count, sum := t.sum, bucketCounts := layout.counts, explicitBounds := layout.explicitBounds,
          exemplars := placeExemplars layout.bounds s.exemplars } := by
  unfold histogramPoint
  split
  · rename_i t hdata
    rw [hdata]
    cases hempty : t.isEmpty with
    | true => simp [hempty]
    | false =>
      rw [if_neg (by decide), bind_eq_ok_iff]
      constructor
      · rintro ⟨layout, hlayout, h⟩
        obtain ⟨count, hcount, h⟩ := bind_eq_ok_iff.1 h
        exact ⟨t, layout, count, rfl, hempty, hlayout, hcount, (Except.ok.inj h).symm⟩
      · rintro ⟨_, layout, count, ht, -, hlayout, hcount, rfl⟩
        cases ht
        exact ⟨layout, hlayout, bind_eq_ok_iff.2 ⟨count, hcount, rfl⟩⟩
  · rename_i hdata
    simp only [reduceCtorEq, false_iff, not_exists, not_and]
    exact fun t layout count heq => absurd heq (hdata t)

theorem summaryPoint_eq {t : Tally} (hdata : s.data = .summary t) : s.summaryPoint order cumulative =
    if t.isEmpty then .error .emptySeries
    else (t.count.elim (.ok 0) truncateCount).map fun count =>
      { s.header order cumulative with
        count, sum := t.sum.getD .zero, quantiles := t.entries.entries.map fun e => ⟨e.1, e.2⟩ } := by
  unfold summaryPoint
  rw [hdata]
  dsimp only
  cases t.isEmpty with
  | true => rfl
  | false =>
    cases t.count with
    | none => rfl
    | some value =>
      simp only [Bool.false_eq_true, if_false, bind, Except.bind, Option.elim_some]
      cases truncateCount value <;> rfl

theorem summaryPoint_eq_ok_iff {p : SummaryPoint} :
    s.summaryPoint order cumulative = .ok p ↔
      ∃ t count, s.data = .summary t ∧ t.isEmpty = false ∧ t.count.elim (.ok 0) truncateCount = .ok count ∧
        p = { s.header order cumulative with
          count, sum := t.sum.getD .zero, quantiles := t.entries.entries.map fun e => ⟨e.1, e.2⟩ } := by
  constructor
  · intro h
    cases hdata : s.data with
    | summary t =>
      rw [summaryPoint_eq hdata] at h
      cases hempty : t.isEmpty with
      | true =>
        rw [hempty, if_pos rfl] at h
        cases h
      | false =>
        rw [hempty, if_neg (by decide)] at h
        obtain ⟨count, hcount, rfl⟩ := map_eq_ok_iff.1 h
        exact ⟨t, count, rfl, hempty, hcount, rfl⟩
    | scalar | histogram =>
      rw [summaryPoint, hdata] at h
      cases h
  · rintro ⟨t, count, hdata, hempty, hcount, rfl⟩
    rw [summaryPoint_eq hdata, hempty, if_neg (by decide), hcount]
    rfl

/-! ### The same data -/

section Data

variable {t : Series} {other : LabelOrder} {accumulates : Bool} (change : PointHeader → PointHeader)
  (hdata : t.data = s.data) (hheader : t.header other accumulates = change (s.header order cumulative))

include hdata hheader

/-- Two series that hold the same data fail alike, and their points differ in headers and exemplars only. -/
theorem scalarPoint_of_data (pick : List Exemplar → List Exemplar) (hpick : t.exemplars = pick s.exemplars) :
    t.scalarPoint other accumulates = (s.scalarPoint order cumulative).map fun p =>
      { p with toPointHeader := change p.toPointHeader, exemplars := pick p.exemplars } := by
  unfold scalarPoint
  rw [hdata, hheader, hpick]
  cases s.data with
  | scalar value => cases value <;> rfl
  | histogram | summary => rfl

theorem histogramPoint_of_data (pick : List PlacedExemplar → List PlacedExemplar)
    (hpick : ∀ bounds, placeExemplars bounds t.exemplars = pick (placeExemplars bounds s.exemplars)) :
    t.histogramPoint other accumulates = (s.histogramPoint order cumulative).map fun p =>
      { p with toPointHeader := change p.toPointHeader, exemplars := pick p.exemplars } := by
  unfold histogramPoint
  rw [hdata, hheader]
  cases s.data with
  | histogram tally =>
    dsimp only
    cases tally.isEmpty with
    | true => rfl
    | false =>
      cases BucketLayout.ofCumulative tally.entries with
      | error failure => rfl
      | ok layout =>
        simp only [Bool.false_eq_true, if_false, bind, Except.bind, hpick]
        cases truncateCount (tally.count.getD layout.total) <;> rfl
  | scalar | summary => rfl

theorem summaryPoint_of_data : t.summaryPoint other accumulates =
    (s.summaryPoint order cumulative).map fun p => { p with toPointHeader := change p.toPointHeader } := by
  cases hs : s.data with
  | summary tally =>
    rw [summaryPoint_eq hs, summaryPoint_eq (hdata.trans hs), hheader]
    cases tally.isEmpty with
    | true => rfl
    | false => cases tally.count.elim (.ok 0) truncateCount <;> rfl
  | scalar | histogram =>
    rw [summaryPoint, summaryPoint, hdata, hs]
    rfl

end Data

/-! ### Headers -/

theorem header_scalarPoint {p : ScalarPoint} (h : s.scalarPoint order cumulative = .ok p) :
    p.toPointHeader = s.header order cumulative := by
  obtain ⟨_, -, rfl⟩ := scalarPoint_eq_ok_iff.1 h
  rfl

theorem header_histogramPoint {p : HistogramPoint} (h : s.histogramPoint order cumulative = .ok p) :
    p.toPointHeader = s.header order cumulative := by
  obtain ⟨_, _, _, -, -, -, -, rfl⟩ := histogramPoint_eq_ok_iff.1 h
  rfl

theorem header_summaryPoint {p : SummaryPoint} (h : s.summaryPoint order cumulative = .ok p) :
    p.toPointHeader = s.header order cumulative := by
  obtain ⟨_, _, -, -, -, rfl⟩ := summaryPoint_eq_ok_iff.1 h
  rfl

/-! ### Well-formed points -/

/-- Ordered boundaries make a well-formed histogram point, with or without a bucket that is unbounded above. -/
theorem wellFormed_histogramPoint (hs : s.data.boundaries.Ordered) {p : HistogramPoint}
    (h : s.histogramPoint order cumulative = .ok p) : p.WellFormed := by
  obtain ⟨t, layout, count, hdata, -, hlayout, -, rfl⟩ := histogramPoint_eq_ok_iff.1 h
  obtain ⟨hbounds, hne, hlength⟩ := BucketLayout.of_ofCumulative hlayout
  have ht : t.entries.Ordered := by
    rw [hdata] at hs
    exact hs
  have hascending : layout.bounds.Pairwise fun a b => a.lt b := by
    rw [hbounds, List.pairwise_map]
    exact ht.ascending
  have hregular : ∀ b ∈ layout.bounds, b.Regular := by
    rw [hbounds]
    intro b hb
    obtain ⟨e, he, rfl⟩ := List.mem_map.1 hb
    exact ht.regular e he
  have hpos : 0 < layout.bounds.length := List.length_pos_iff.2 hne
  exact
    { nonempty := by
        rw [← List.length_pos_iff]
        exact hlength ▸ hpos
      sizes := by
        change layout.bounds.dropLast.length + 1 = layout.counts.length
        rw [hlength, List.length_dropLast]
        omega
      ascending := hascending.sublist (List.dropLast_sublist _)
      proper := fun b hb =>
        have hreg := hregular b ((List.dropLast_sublist _).subset hb)
        ⟨hreg.1, hreg.2, ne_inf_of_mem_dropLast hascending hb⟩
      placed := fun e he => hlength ▸ bucket_of_mem_placeExemplars hne he }

theorem wellFormed_summaryPoint (hs : s.data.boundaries.Ordered) {p : SummaryPoint}
    (h : s.summaryPoint order cumulative = .ok p) : p.WellFormed := by
  obtain ⟨t, count, hdata, -, -, rfl⟩ := summaryPoint_eq_ok_iff.1 h
  have ht : t.entries.Ordered := by
    rw [hdata] at hs
    exact hs
  refine ⟨List.pairwise_map.2 ht.ascending, fun q hq => ?_⟩
  obtain ⟨e, he, rfl⟩ := List.mem_map.1 hq
  exact ht.regular e he

end Series

end Telemetry
