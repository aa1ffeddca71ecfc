import Telemetry.Proofs.Outcome

/-!
# What stale buckets cost

A bucket whose last value is the stale marker stays in the layout, and counts as if it held 0. That is less than
what any live bucket with observations holds, so a stale bucket behind such a one makes the whole histogram fall,
and costs it its point; behind buckets that hold 0 it costs nothing (`BucketLayout.rises_iff_of_stale`).
`Family.point_of_stale_buckets` says it of the histograms that a run leaves, in terms of the values they last
received.
-/

namespace Telemetry
open Binary64

/-! ## Buckets that hold 0 instead of a value -/

namespace BucketLayout

theorem rises_iff {previous : Binary64} {entries : List (Binary64 × Binary64)} : Rises previous entries ↔
    (∀ e ∈ entries, e.2.isFinite = true ∧ previous.le e.2) ∧ entries.Pairwise fun d e => d.2.le e.2 := by
  induction entries generalizing previous with
  | nil => exact iff_of_true rises_nil ⟨by simp, .nil⟩
  | cons e rest ih =>
    obtain ⟨bound, value⟩ := e
    rw [rises_cons, ih, List.pairwise_cons, List.forall_mem_cons]
    constructor
    · rintro ⟨hvalue, hle, hrest, hpairwise⟩
      exact ⟨⟨⟨hvalue, hle⟩, fun e he => ⟨(hrest e he).1, le_trans hle (hrest e he).2⟩⟩,
        fun e he => (hrest e he).2, hpairwise⟩
    · rintro ⟨⟨⟨hvalue, hle⟩, hrest⟩, hvalues, hpairwise⟩
      exact ⟨hvalue, hle, fun e he => ⟨(hrest e he).1, hvalues e he⟩, hpairwise⟩

section Stale

variable {entries : List (Binary64 × Binary64)} {stale : Binary64 → Bool}
  (hstale : ∀ e ∈ entries, stale e.1 = true → e.2 = zero) (hlive : Rises zero (entries.filter fun e => !stale e.1))

include hstale hlive

theorem finite_of_stale : ∀ e ∈ entries, e.2.isFinite = true ∧ zero.le e.2 := by
  intro e he
  cases h : stale e.1 with
  | true =>
    rw [hstale e he h]
    decide
  | false => exact (rises_iff.1 hlive).1 e (List.mem_filter.2 ⟨he, by simp [h]⟩)

theorem pairwise_of_live : entries.Pairwise fun d e => stale e.1 = false → d.2.le e.2 := by
  have hpairwise := List.pairwise_filter.1 (rises_iff.1 hlive).2
  refine hpairwise.imp_of_mem fun {d e} hd he hle hlive' => ?_
  cases h : stale d.1 with
  | true =>
    rw [hstale d hd h]
    exact (finite_of_stale hstale hlive e he).2
  | false => exact hle (by simp [h]) (by simp [hlive'])

/-- **Stale buckets break the rise behind a positive value**, and only there. -/
theorem rises_iff_of_stale :
    Rises zero entries ↔ entries.Pairwise fun d e => stale e.1 = true → ¬ zero.lt d.2 := by
  have hfinite := finite_of_stale hstale hlive
  have hnot : ∀ d ∈ entries, d.2.le zero ↔ ¬ zero.lt d.2 := fun d hd => by
    rw [le_eq_not_lt (isNaN_of_isFinite (hfinite d hd).1) (by decide), Bool.not_eq_true', Bool.not_eq_true]
  rw [rises_iff]
  constructor
  · rintro ⟨-, hpairwise⟩
    refine hpairwise.imp_of_mem fun {d e} hd he hle h => ?_
    rw [hstale e he h] at hle
    exact (hnot d hd).1 hle
  · intro hpairwise
    refine ⟨hfinite, (hpairwise.and (pairwise_of_live hstale hlive)).imp_of_mem fun {d e} hd he hboth => ?_⟩
    cases h : stale e.1 with
    | true =>
      rw [hstale e he h]
      exact (hnot d hd).2 (hboth.1 h)
    | false => exact hboth.2 h

/-- The first fault is a stale bucket behind a positive value. -/
theorem firstFault_of_stale {failure : PointFailure} (h : FirstFault zero entries failure) :
    ∃ bound previous, stale bound = true ∧ zero.lt previous ∧ failure = .nonMonotonicBuckets bound zero previous := by
  obtain ⟨before, bound, value, after, rfl, -, hfault⟩ := h
  have hmem : (bound, value) ∈ before ++ (bound, value) :: after := by simp
  obtain ⟨hfinite, hzero⟩ := finite_of_stale hstale hlive _ hmem
  cases hfault with
  | nonFinite h =>
    rw [hfinite] at h
    cases h
  | falling _ hlt =>
    cases hbound : stale bound with
    | true =>
      have hvalue : value = zero := hstale _ hmem hbound
      subst hvalue
      exact ⟨bound, _, hbound, hlt, rfl⟩
    | false =>
      -- a live bucket holds at least what all buckets before it hold
      have hbefore := (List.pairwise_append.1 (pairwise_of_live hstale hlive)).2.2
      have hall : ∀ v ∈ zero :: before.map Prod.snd, v.le value := by
        rw [List.forall_mem_cons, List.forall_mem_map]
        exact ⟨hzero, fun d hd => hbefore d hd _ List.mem_cons_self hbound⟩
      exact absurd hlt (not_lt_of_le (hall _ (List.getLastD_mem_cons ..)))

end Stale

end BucketLayout

/-! ## Histograms -/

namespace Family

/-- Whether the last value that a slot received is the stale marker. -/
def endsStale (f : Family) (history : List Sample) (slot : Slot) : Bool :=
  (lastWhere (fun x => f.feeds x slot) history).any fun x => x.value.isStale

variable {f : Family} {history : List Sample} {s : Series} {t : Tally}

theorem Reflects.eq_zero_of_endsStale (hs : f.Reflects history s) (hdata : s.data = .histogram t)
    {e : Binary64 × Binary64} (he : e ∈ t.entries.entries) (h : f.endsStale history (.boundary e.1) = true) :
    e.2 = zero := by
  have hordered : t.entries.Ordered := by
    have := hs.data.ordered
    rwa [hdata] at this
  have hheld := hs.held (.boundary e.1)
  have hvalue : t.entries.at? e.1 = some e.2 := (hordered.mem_iff (hordered.regular e he)).1 he
  rw [hdata, SeriesData.held, Tally.held, hvalue] at hheld
  obtain ⟨x, hx, hkept⟩ := Option.map_eq_some_iff.1 hheld.symm
  rw [endsStale, hx, Option.any_some] at h
  rw [← hkept, Slot.kept, if_pos ⟨h, by simp⟩]

theorem Reflects.isFinite_count (hs : f.Reflects history s) (hdata : s.data = .histogram t)
    (h : ∀ x ∈ lastWhere (fun x => f.feeds x .count) history, x.value.isStale = true ∨ x.value.isFinite = true) :
    ∀ v ∈ t.count, v.isFinite = true := by
  intro v hv
  have hheld := hs.held .count
  rw [hdata, SeriesData.held, Tally.held, Option.mem_def.1 hv] at hheld
  obtain ⟨x, hx, rfl⟩ := Option.map_eq_some_iff.1 hheld.symm
  cases hstale : x.value.isStale with
  | true => simp [Slot.kept, hstale, show zero.isFinite = true by decide]
  | false => simpa [Slot.kept, hstale] using h x hx

section Declared

variable (name : String) (store : MetadataStore) (settings : AssemblySettings) (xs : List Sample)

/-- **What stale buckets cost.** Say the buckets of a histogram that did not end stale hold finite values that rise
from 0, and its count, if it has one, ended stale or finite. Then it comes to a point exactly if no bucket that
ended stale lies above one with a positive value. The point keeps all bounds and has no recorded value if any bucket
was ever stale; otherwise the failure blames a stale bucket for holding 0, less than the positive value below it. -/
theorem point_of_stale_buckets (hs : s ∈ ((declared name store settings).extend xs).series)
    (hdata : s.data = .histogram t) (hsome : t.entries.entries ≠ []) :
    let f := declared name store settings
    let history := (f.accepted xs).filter fun x => f.keyOf x = s.key
    let stale := fun bound => f.endsStale history (.boundary bound)
    BucketLayout.Rises zero (t.entries.entries.filter fun e => !stale e.1) →
    (∀ x ∈ lastWhere (fun x => f.feeds x .count) history, x.value.isStale = true ∨ x.value.isFinite = true) →
    ∀ order cumulative,
      ((∃ p, s.histogramPoint order cumulative = .ok p) ↔
        t.entries.entries.Pairwise fun d e => stale e.1 = true → ¬ zero.lt d.2) ∧
      (∀ p, s.histogramPoint order cumulative = .ok p →
        p.explicitBounds = (t.entries.entries.map Prod.fst).dropLast ∧
        p.bucketCounts.length = t.entries.entries.length ∧
        ((∃ x ∈ history, x.value.isStale = true ∧ ∃ bound, f.feeds x (.boundary bound) = true) → p.stale = true)) ∧
      ∀ failure, s.histogramPoint order cumulative = .error failure → ∃ bound previous,
        stale bound = true ∧ zero.lt previous ∧ failure = .nonMonotonicBuckets bound zero previous := by
  intro f history stale hlive hcount order cumulative
  have htells : f.Tells history s := by
    rw [series_extend_declared] at hs
    simp only [history, f, accepted_eq (keyed_declared name store settings)]
    exact tells_of_mem hs
  have hstale : ∀ e ∈ t.entries.entries, stale e.1 = true → e.2 = zero := fun e he h =>
    htells.eq_zero_of_endsStale hdata he h
  have hfinite := htells.isFinite_count hdata hcount
  refine ⟨?_, fun p hp => ?_, fun failure hfailure => ?_⟩
  · rw [Series.exists_histogramPoint_iff hdata, SeriesData.Yields, ← BucketLayout.rises_iff_of_stale hstale hlive]
    exact (and_iff_right hsome).trans (and_iff_left hfinite)
  · obtain ⟨u, layout, count, hu, -, hlayout, -, rfl⟩ := Series.histogramPoint_eq_ok_iff.1 hp
    obtain ⟨hbounds, -, hlength⟩ := BucketLayout.of_ofCumulative hlayout
    cases hdata.symm.trans hu
    refine ⟨by rw [← hbounds]; rfl, by rw [hlength, hbounds, List.length_map], ?_⟩
    rintro ⟨x, hx, hmarker, bound, hfeeds⟩
    show s.stale = true
    rw [htells.stale, List.any_eq_true]
    exact ⟨x, hx, by rw [hmarker, f.isCreated_of_feeds x hfeeds]; rfl⟩
  · cases (Series.histogramPoint_eq_error_iff hdata).1 hfailure with
    | emptyHistogram hempty => exact absurd (Tally.isEmpty_iff.1 hempty).2.2 hsome
    | noBucket _ hnone => exact absurd hnone hsome
    | bucket hfault => exact BucketLayout.firstFault_of_stale hstale hlive hfault
    | histogramCount _ _ hsomeCount hv =>
      rw [hfinite _ hsomeCount] at hv
      cases hv

/-- A bucket of five observations below a stale one: the histogram has no point. -/
theorem no_point_of_stale_highest_bucket :
    let f := declared "latency" (fun _ => some ⟨.histogram, "", "s"⟩) .default
    let xs : List Sample :=
      [⟨"latency_bucket", [⟨"le", "1"⟩], 7, .ofNat 5, none⟩,
        ⟨"latency_bucket", [⟨"le", "+Inf"⟩], 7, .staleMarker, none⟩,
        ⟨"latency_count", [], 7, .ofNat 5, none⟩]
    ∃ s ∈ (f.extend xs).series,
      ¬ ∃ p, s.histogramPoint (f.extend xs).labelOrder (f.extend xs).isCumulative = .ok p := by
  intro f xs
  have hseries : ∃ s ∈ (f.extend xs).series, s.key = .ofSorted [] ∧
      s.data = .histogram ⟨some (.ofNat 5), none, ⟨[(.ofNat 1, .ofNat 5), (.inf, .zero)]⟩⟩ := by decide +kernel
  obtain ⟨s, hs, hkey, hdata⟩ := hseries
  have hstale : f.endsStale ((f.accepted xs).filter fun x => f.keyOf x = s.key) (.boundary .inf) = true := by
    rw [hkey]
    decide +kernel
  have hfilter : [(ofNat 1, ofNat 5), (inf, zero)].filter (fun e =>
      !f.endsStale ((f.accepted xs).filter fun x => f.keyOf x = s.key) (.boundary e.1)) = [(ofNat 1, ofNat 5)] := by
    rw [hkey]
    decide +kernel
  have hlive : BucketLayout.Rises zero [(ofNat 1, ofNat 5)] :=
    BucketLayout.rises_cons.2 ⟨by decide +kernel, by decide +kernel, BucketLayout.rises_nil⟩
  have hcount : ∀ x ∈ lastWhere (fun x => f.feeds x .count) ((f.accepted xs).filter fun x => f.keyOf x = s.key),
      x.value.isStale = true ∨ x.value.isFinite = true := by
    rw [hkey]
    decide +kernel
  have hiff := (point_of_stale_buckets "latency" _ _ xs hs hdata (by decide) (hfilter.symm ▸ hlive) hcount
    (f.extend xs).labelOrder (f.extend xs).isCumulative).1
  refine ⟨s, hs, fun hpoint => ?_⟩
  exact List.rel_of_pairwise_cons (hiff.1 hpoint) List.mem_cons_self hstale (by decide +kernel)

end Declared

end Family

end Telemetry
