import Telemetry.Proofs.Family
import Telemetry.Proofs.Point

/-!
# Where exemplars are placed

Exemplars are placed by all bounds of a histogram, of which the last one is not shown. It does not matter for the
bucket of a value (`bucketIndex_eq_dropLast`), so the bucket can be told from the bounds that are shown: as many of
them lie below the value as there are buckets before its own, and no other bucket encloses it (`enclosed_iff`).
Placing is a stable sort, so no exemplar is lost and those of one bucket stay in the order in which they came
(`Family.exemplars_placed`).
-/

namespace Telemetry

/-! ## Bounds that enclose a value -/

/-- Whether a bucket encloses a value: the bounds before it lie below the value and the others do not. -/
structure Enclosed (bounds : List Binary64) (bucket : Nat) (value : Binary64) : Prop where
  within : bucket ≤ bounds.length
  below : ∀ b ∈ bounds.take bucket, b.lt value
  above : ∀ b ∈ bounds.drop bucket, value.le b

section Enclosed

variable {bounds : List Binary64} {bucket : Nat} {value : Binary64}

theorem Enclosed.bucket_eq (h : Enclosed bounds bucket value) : bucket = bounds.countP fun b => b.lt value := by
  have hbelow : (bounds.take bucket).countP (fun b => b.lt value) = bucket := by
    rw [List.countP_eq_length.2 h.below, List.length_take, Nat.min_eq_left h.within]
  have habove : (bounds.drop bucket).countP (fun b => b.lt value) = 0 :=
    List.countP_eq_zero.2 fun b hb => Binary64.not_lt_of_le (h.above b hb)
  calc bucket
      = (bounds.take bucket).countP (fun b => b.lt value) + (bounds.drop bucket).countP fun b => b.lt value := by
        rw [hbelow, habove, Nat.add_zero]
    _ = bounds.countP fun b => b.lt value := by rw [← List.countP_append, List.take_append_drop]

section Ascending

variable (hnumbers : ∀ b ∈ bounds, b.isNaN = false) (hasc : bounds.Pairwise fun a b => a.lt b)
  (hvalue : value.isNaN = false)

include hnumbers hasc hvalue

theorem enclosed_findIdx? : Enclosed bounds ((bounds.findIdx? value.le).getD bounds.length) value := by
  have hlt : ∀ b ∈ bounds, value.le b = false → b.lt value := by
    intro b hb h
    rwa [Binary64.le_eq_not_lt hvalue (hnumbers b hb), Bool.not_eq_false'] at h
  cases hfind : bounds.findIdx? value.le with
  | none =>
    refine ⟨Nat.le_refl _, fun b hb => ?_, by simp⟩
    rw [Option.getD_none, List.take_length] at hb
    exact hlt b hb (List.findIdx?_eq_none_iff.1 hfind b hb)
  | some i =>
    obtain ⟨hi, hle, hbefore⟩ := List.findIdx?_eq_some_iff_getElem.1 hfind
    refine ⟨Nat.le_of_lt hi, fun b hb => ?_, fun b hb => ?_⟩
    · obtain ⟨j, hj, rfl⟩ := List.mem_take_iff_getElem.1 hb
      have hji : j < i := (Nat.lt_min.1 hj).1
      exact hlt _ (List.getElem_mem _) (Bool.eq_false_iff.2 (hbefore j hji))
    · -- what follows the first bound at or above the value lies above that bound
      have hdrop : (bounds.drop i).Pairwise fun a b => a.lt b := hasc.sublist (List.drop_sublist i bounds)
      rw [Option.getD_some, List.drop_eq_getElem_cons hi] at hb
      rw [List.drop_eq_getElem_cons hi] at hdrop
      rcases List.mem_cons.1 hb with rfl | hb
      · exact hle
      · exact Binary64.le_trans hle (Binary64.le_of_lt ((List.pairwise_cons.1 hdrop).1 b hb))

/-- **One bucket encloses a number**, the one with as many bounds before it as lie below the number. -/
theorem enclosed_iff : Enclosed bounds bucket value ↔ bucket = bounds.countP fun b => b.lt value := by
  have hfirst := enclosed_findIdx? hnumbers hasc hvalue
  refine ⟨Enclosed.bucket_eq, ?_⟩
  rintro rfl
  rwa [← hfirst.bucket_eq]

end Ascending

theorem findIdx?_le_of_isNaN (hvalue : value.isNaN = true) : bounds.findIdx? value.le = none := by
  refine List.findIdx?_eq_none_iff.2 fun b _ => ?_
  simp [Binary64.le, hvalue]

end Enclosed

/-! ## Buckets by the bounds that are shown -/

namespace HistogramPoint

/-- Every exemplar lies in the first bucket whose explicit bound is at or above its value, or else in the last one. -/
def Placed (p : HistogramPoint) : Prop :=
  ∀ e ∈ p.exemplars, e.bucket = (p.explicitBounds.findIdx? e.exemplar.value.le).getD p.explicitBounds.length

/-- The bucket of a value by what a point shows: one bucket comes before it for every bound below the value, and a NaN
lies in the last one. -/
def bucketOf (p : HistogramPoint) (value : Binary64) : Nat :=
  if value.isNaN then p.bucketCounts.length - 1 else p.explicitBounds.countP fun b => b.lt value

theorem WellFormed.numbers {p : HistogramPoint} (h : p.WellFormed) : ∀ b ∈ p.explicitBounds, b.isNaN = false :=
  fun b hb => (h.proper b hb).1

theorem WellFormed.enclosed_iff {p : HistogramPoint} (h : p.WellFormed) {value : Binary64}
    (hvalue : value.isNaN = false)
    (bucket : Nat) : Enclosed p.explicitBounds bucket value ↔ bucket = p.bucketOf value := by
  rw [Telemetry.enclosed_iff h.numbers h.ascending hvalue, bucketOf, hvalue, if_neg (by decide)]

theorem WellFormed.findIdx?_eq {p : HistogramPoint} (h : p.WellFormed) (value : Binary64) :
    (p.explicitBounds.findIdx? value.le).getD p.explicitBounds.length = p.bucketOf value := by
  cases hvalue : value.isNaN with
  | true =>
    have hsizes := h.sizes
    rw [findIdx?_le_of_isNaN hvalue, Option.getD_none, bucketOf, hvalue, if_pos rfl]
    omega
  | false => exact (h.enclosed_iff hvalue _).1 (enclosed_findIdx? h.numbers h.ascending hvalue)

end HistogramPoint

/-- The last bound does not matter for the bucket of a value: what lies in no other bucket lies in the last one. -/
theorem bucketIndex_eq_dropLast {bounds : List Binary64} (h : bounds ≠ []) (value : Binary64) :
    bucketIndex bounds value = (bounds.dropLast.findIdx? value.le).getD bounds.dropLast.length := by
  obtain ⟨init, last, rfl⟩ : ∃ init last, bounds = init ++ [last] :=
    ⟨bounds.dropLast, bounds.getLast h, (List.dropLast_concat_getLast h).symm⟩
  rw [bucketIndex, List.dropLast_concat, List.findIdx?_append]
  cases hfind : init.findIdx? value.le with
  | some i => rfl
  | none => cases hlast : value.le last <;> simp [List.findIdx?_cons, hlast]

/-! ## Placing -/

section Placing

variable (bounds : List Binary64) (exemplars : List Exemplar)

theorem perm_placeExemplars : ((placeExemplars bounds exemplars).map PlacedExemplar.exemplar).Perm exemplars := by
  have hmap := (placeExemplars_perm_map bounds exemplars).map PlacedExemplar.exemplar
  rwa [List.map_map, Function.comp_def, List.map_id'] at hmap

theorem pairwise_placeExemplars :
    (placeExemplars bounds exemplars).Pairwise fun d e => d.bucket ≤ e.bucket := by
  have hsorted : (placeExemplars bounds exemplars).Pairwise fun d e => decide (d.bucket ≤ e.bucket) = true := by
    refine pairwise_sortBy (fun a b c hab hbc => ?_) (fun a b => ?_) _
    · simp only [decide_eq_true_eq] at *
      omega
    · simp only [Bool.or_eq_true, decide_eq_true_eq]
      omega
  exact hsorted.imp of_decide_eq_true

theorem filter_placeExemplars (i : Nat) :
    ((placeExemplars bounds exemplars).filter fun e => e.bucket = i).map PlacedExemplar.exemplar =
      exemplars.filter fun e => bucketIndex bounds e.value = i := by
  rw [placeExemplars, filter_sortBy, List.filter_map, List.map_map]
  · exact List.map_id' _
  · intro d _ e _ hd he
    simp only [decide_eq_true_eq] at *
    omega

end Placing

/-! ## Points of series -/

namespace Series

variable {s : Series} {order : LabelOrder} {cumulative : Bool} {p : HistogramPoint}

theorem placed_histogramPoint (h : s.histogramPoint order cumulative = .ok p) : p.Placed := by
  obtain ⟨t, layout, count, -, -, hlayout, -, rfl⟩ := histogramPoint_eq_ok_iff.1 h
  obtain ⟨-, hne, -⟩ := BucketLayout.of_ofCumulative hlayout
  intro e he
  rw [eq_of_mem_placeExemplars he]
  exact bucketIndex_eq_dropLast hne e.exemplar.value

theorem exemplars_histogramPoint (hs : s.data.boundaries.Ordered) (h : s.histogramPoint order cumulative = .ok p) :
    ∃ bounds, p.exemplars = placeExemplars bounds s.exemplars ∧
      ∀ value, bucketIndex bounds value = p.bucketOf value := by
  have hformed := wellFormed_histogramPoint hs h
  obtain ⟨t, layout, count, -, -, hlayout, -, rfl⟩ := histogramPoint_eq_ok_iff.1 h
  obtain ⟨-, hne, -⟩ := BucketLayout.of_ofCumulative hlayout
  exact ⟨layout.bounds, rfl, fun value => (bucketIndex_eq_dropLast hne value).trans (hformed.findIdx?_eq value)⟩

end Series

namespace Family

variable (name : String) (store : MetadataStore) (settings : AssemblySettings) (xs : List Sample)

/-- **No exemplar is lost or misplaced.** The point of a histogram that a run leaves shows the exemplars recorded
for it, by bucket and in the order of arrival within one. The bucket of each is told by the bounds that the point
shows, with or without a bucket up to infinity: it is the number of bounds below the value, or the last bucket for a
NaN, and no other bucket encloses the value. -/
theorem exemplars_placed {s : Series} (hs : s ∈ ((declared name store settings).extend xs).series) {order : LabelOrder}
    {cumulative : Bool} {p : HistogramPoint} (h : s.histogramPoint order cumulative = .ok p) :
    (p.exemplars.map PlacedExemplar.exemplar).Perm s.exemplars ∧
    p.exemplars.Pairwise (fun d e => d.bucket ≤ e.bucket) ∧
    (∀ i, (p.exemplars.filter fun e => e.bucket = i).map PlacedExemplar.exemplar =
      s.exemplars.filter fun e => p.bucketOf e.value = i) ∧
    ∀ e ∈ p.exemplars,
      e.bucket = p.bucketOf e.exemplar.value ∧
      (e.exemplar.value.isNaN = false →
        ∀ bucket, Enclosed p.explicitBounds bucket e.exemplar.value ↔ bucket = e.bucket) := by
  have hordered := ((sound_extend_declared name store settings xs).series s hs).data.ordered
  have hformed := Series.wellFormed_histogramPoint hordered h
  have hplaced : ∀ e ∈ p.exemplars, e.bucket = p.bucketOf e.exemplar.value := fun e he =>
    (Series.placed_histogramPoint h e he).trans (hformed.findIdx?_eq _)
  obtain ⟨bounds, hexemplars, hbucket⟩ := Series.exemplars_histogramPoint hordered h
  refine ⟨?_, ?_, fun i => ?_, fun e he => ⟨hplaced e he, fun hvalue bucket => ?_⟩⟩
  · rw [hexemplars]
    exact perm_placeExemplars bounds s.exemplars
  · rw [hexemplars]
    exact pairwise_placeExemplars bounds s.exemplars
  · rw [hexemplars, filter_placeExemplars]
    simp only [hbucket]
  · rw [hplaced e he]
    exact hformed.enclosed_iff hvalue bucket

/-- Two buckets, none of them up to infinity: exemplars above both bounds, on the lower one and without a number. -/
theorem exemplars_of_latency_placed :
    let f := declared "latency" (fun _ => some ⟨.histogram, "", "s"⟩) .default
    let xs : List Sample :=
      [⟨"latency_bucket", [⟨"le", "2"⟩], 7, .ofNat 5, some ⟨.ofNat 9, 6, []⟩⟩,
        ⟨"latency_bucket", [⟨"le", "1"⟩], 7, .ofNat 3, some ⟨.nan, 6, []⟩⟩,
        ⟨"latency_bucket", [⟨"le", "1"⟩], 7, .ofNat 4, some ⟨.ofNat 1, 6, []⟩⟩]
    ∃ s ∈ (f.extend xs).series, s.exemplars.length = 3 ∧
      ∃ p, s.histogramPoint (f.extend xs).labelOrder (f.extend xs).isCumulative = .ok p ∧
        (p.exemplars.map PlacedExemplar.exemplar).Perm s.exemplars ∧
        ∀ e ∈ p.exemplars, e.bucket = p.bucketOf e.exemplar.value := by
  intro f xs
  obtain ⟨s, hs, hlength, hok⟩ : ∃ s ∈ (f.extend xs).series, s.exemplars.length = 3 ∧
      (s.histogramPoint (f.extend xs).labelOrder (f.extend xs).isCumulative).isOk = true := by decide +kernel
  obtain ⟨p, hp⟩ : ∃ p, s.histogramPoint (f.extend xs).labelOrder (f.extend xs).isCumulative = .ok p := by
    cases h : s.histogramPoint (f.extend xs).labelOrder (f.extend xs).isCumulative with
    | ok p => exact ⟨p, rfl⟩
    | error failure =>
      rw [h] at hok
      cases hok
  obtain ⟨hperm, -, -, hbucket⟩ := exemplars_placed "latency" _ _ xs hs hp
  exact ⟨s, hs, hlength, p, hp, hperm, fun e he => (hbucket e he).1⟩

end Family

end Telemetry
