import Telemetry.Proofs.Outcome

/-!
# What the counts of the buckets add up to

Each bucket counts what it holds beyond the one before it, as a rounded difference of two doubles, truncated. Up to
2^53 the counts of the lowest buckets never add up to more than the integer part of what the last of them holds, and
between integers they add up to just this (`BucketLayout.countUpTo_perBucket`), so that a histogram of integers
counts as many in its buckets as it does altogether (`Series.counts_accumulate`).
-/

namespace Telemetry
open Binary64

namespace BucketLayout

def countUpTo (counts : List UInt64) (i : Nat) : Nat := ((counts.take (i + 1)).map UInt64.toNat).sum

theorem countUpTo_zero (count : UInt64) (counts : List UInt64) : countUpTo (count :: counts) 0 = count.toNat := by
  simp [countUpTo]

theorem countUpTo_succ (count : UInt64) (counts : List UInt64) (i : Nat) :
    countUpTo (count :: counts) (i + 1) = count.toNat + countUpTo counts i := by
  simp [countUpTo]

/-- **Counts accumulate** to no more than what the buckets hold, and to all of it where that is an integer. -/
theorem countUpTo_perBucket {previous : Binary64} {entries : List (Binary64 × Binary64)} {counts : List UInt64}
    (hprevious : previous.isFinite = true) (hzero : zero.le previous) (hrises : Rises previous entries)
    (hmax : ∀ e ∈ entries, e.2.le (ofNat (2 ^ 53))) (h : perBucket previous entries = .ok counts) (i : Nat)
    (hi : i < entries.length) :
    previous.truncToUInt64.toNat + countUpTo counts i ≤ entries[i].2.truncToUInt64.toNat ∧
    (previous.IsWhole → (∀ e ∈ entries, e.2.IsWhole) →
      previous.truncToUInt64.toNat + countUpTo counts i = entries[i].2.truncToUInt64.toNat) := by
  -- counted on top of the integer part of `previous`, so that every step is one of the lemmas on integer parts
  induction entries generalizing previous counts i with
  | nil => exact absurd hi (Nat.not_lt_zero i)
  | cons e rest ih =>
    obtain ⟨bound, value⟩ := e
    obtain ⟨hvalue, -, others, hothers, rfl⟩ := perBucket_cons_eq_ok_iff.1 h
    obtain ⟨-, hle, hrest⟩ := rises_cons.1 hrises
    have hbelow := hmax _ List.mem_cons_self
    have hstep := trunc_add_trunc_sub_le hvalue hprevious hzero hle hbelow
    have hwhole := trunc_add_trunc_sub_eq hvalue hprevious hzero hle hbelow
    cases i with
    | zero =>
      rw [countUpTo_zero, List.getElem_cons_zero]
      exact ⟨hstep, fun hw _ => hwhole hw⟩
    | succ i =>
      obtain ⟨ihle, iheq⟩ := ih hvalue (le_trans hzero hle) hrest (fun e he => hmax e (List.mem_cons_of_mem _ he))
        hothers i (Nat.lt_of_succ_lt_succ hi)
      rw [countUpTo_succ, List.getElem_cons_succ]
      refine ⟨by omega, fun hw hall => ?_⟩
      have := hwhole hw
      have := iheq (hall _ List.mem_cons_self) fun e he => hall e (List.mem_cons_of_mem _ he)
      omega

theorem countUpTo_last (counts : List UInt64) (h : counts ≠ []) :
    countUpTo counts (counts.length - 1) = (counts.map UInt64.toNat).sum := by
  have hpos : 0 < counts.length := List.length_pos_iff.2 h
  rw [countUpTo, Nat.sub_add_cancel hpos, List.take_length]

theorem top_eq_getElem {previous : Binary64} {entries : List (Binary64 × Binary64)} {i : Nat}
    (hi : i < entries.length) (hlast : i + 1 = entries.length) : top previous entries = entries[i].2 := by
  have hi' : entries.length - 1 = i := by omega
  rw [top, List.getLastD_eq_getLast?, List.getLast?_eq_getElem?, List.length_map, hi', List.getElem?_map,
    List.getElem?_eq_getElem hi]
  rfl

theorem total_ofCumulative {buckets : BoundaryMap} {layout : BucketLayout} (h : ofCumulative buckets = .ok layout) :
    layout.total = top zero buckets.entries := by
  obtain ⟨-, counts, -, rfl⟩ := ofCumulative_eq_ok_iff.1 h
  rfl

theorem truncateCount_getD_total {buckets : BoundaryMap} {layout : BucketLayout} (h : ofCumulative buckets = .ok layout)
    {count : Option Binary64} (hcount : ∀ v ∈ count, v.sameNumber (top zero buckets.entries)) :
    truncateCount (count.getD layout.total) = .ok layout.total.truncToUInt64 := by
  have htotal := isFinite_total h
  rw [truncateCount_eq_ok_iff]
  cases count with
  | none => exact ⟨htotal, rfl⟩
  | some v =>
    have hv : v.sameNumber layout.total := total_ofCumulative h ▸ hcount v rfl
    have hfinite := isFinite_of_sameNumber hv htotal
    exact ⟨hfinite, (truncToUInt64_of_sameNumber hfinite htotal hv).symm⟩

section Layout

variable {buckets : BoundaryMap} {layout : BucketLayout} (h : ofCumulative buckets = .ok layout)
  (hmax : ∀ e ∈ buckets.entries, e.2.le (ofNat (2 ^ 53)))

include h hmax

theorem countUpTo_ofCumulative (i : Nat) (hi : i < buckets.entries.length) :
    countUpTo layout.counts i ≤ buckets.entries[i].2.truncToUInt64.toNat ∧
    ((∀ e ∈ buckets.entries, e.2.IsWhole) →
      countUpTo layout.counts i = buckets.entries[i].2.truncToUInt64.toNat) := by
  obtain ⟨-, counts, hcounts, rfl⟩ := ofCumulative_eq_ok_iff.1 h
  have hzero : zero.truncToUInt64.toNat = 0 := by decide +kernel
  have hrises : Rises zero buckets.entries := (exists_perBucket_iff (by decide)).1 ⟨counts, hcounts⟩
  have hsum := countUpTo_perBucket (by decide) (by decide) hrises hmax hcounts i hi
  rw [hzero, Nat.zero_add] at hsum
  exact ⟨hsum.1, hsum.2 (ofNat_zero ▸ isWhole_ofNat (by decide))⟩

theorem sum_counts_ofCumulative (hwhole : ∀ e ∈ buckets.entries, e.2.IsWhole) :
    (layout.counts.map UInt64.toNat).sum = layout.total.truncToUInt64.toNat := by
  obtain ⟨hbounds, hne, hlength⟩ := of_ofCumulative h
  rw [hbounds, List.length_map] at hlength
  have hpos : 0 < buckets.entries.length := by simpa [hbounds, List.length_pos_iff] using hne
  have hcounts : layout.counts ≠ [] := List.length_pos_iff.1 (hlength ▸ hpos)
  rw [total_ofCumulative h, top_eq_getElem (i := buckets.entries.length - 1) (by omega) (by omega),
    ← countUpTo_last _ hcounts, hlength]
  exact (countUpTo_ofCumulative h hmax _ (by omega)).2 hwhole

end Layout

end BucketLayout

namespace Series

/-- **Counts accumulate.** For cumulative buckets that rise from 0 to at most 2^53 the counts of the buckets up to
any one of them come to no more than the integer part of what it holds, and to just this if all of them hold
integers. So a histogram of integers, with no count or with that of its highest bucket, counts as many in its
buckets as altogether. -/
theorem counts_accumulate {buckets : BoundaryMap} (hne : buckets.entries ≠ [])
    (hrises : BucketLayout.Rises zero buckets.entries) (hmax : ∀ e ∈ buckets.entries, e.2.le (ofNat (2 ^ 53))) :
    (∃ layout, BucketLayout.ofCumulative buckets = .ok layout ∧ layout.counts.length = buckets.entries.length ∧
      ∀ i (hi : i < buckets.entries.length),
        BucketLayout.countUpTo layout.counts i ≤ buckets.entries[i].2.truncToUInt64.toNat ∧
        ((∀ e ∈ buckets.entries, e.2.IsWhole) →
          BucketLayout.countUpTo layout.counts i = buckets.entries[i].2.truncToUInt64.toNat)) ∧
    ∀ (s : Series) (t : Tally) (order : LabelOrder) (cumulative : Bool), s.data = .histogram t → t.entries = buckets →
      (∀ e ∈ buckets.entries, e.2.IsWhole) →
      (∀ v ∈ t.count, v.sameNumber (BucketLayout.top zero buckets.entries)) →
      ∃ p, s.histogramPoint order cumulative = .ok p ∧ p.count.toNat = (p.bucketCounts.map UInt64.toNat).sum := by
  obtain ⟨layout, hlayout⟩ := BucketLayout.exists_ofCumulative_iff.2 ⟨hne, hrises⟩
  obtain ⟨hbounds, -, hlength⟩ := BucketLayout.of_ofCumulative hlayout
  refine ⟨⟨layout, hlayout, by rw [hlength, hbounds, List.length_map],
    BucketLayout.countUpTo_ofCumulative hlayout hmax⟩, ?_⟩
  rintro s t order cumulative hdata rfl hwhole hcount
  have htruncated := BucketLayout.truncateCount_getD_total hlayout hcount
  refine ⟨_, histogramPoint_eq_ok_iff.2 ⟨t, layout, _, hdata, Tally.isEmpty_eq_false hne, hlayout, htruncated, rfl⟩, ?_⟩
  exact (BucketLayout.sum_counts_ofCumulative hlayout hmax hwhole).symm

/-- Two buckets of a histogram without a count. -/
theorem counts_accumulate_of_latency :
    let t : Tally := ⟨none, none, ⟨[(ofNat 1, ofNat 2), (inf, ofNat 7)]⟩⟩
    let s : Series := { start .histogram ⟨.ofSorted [], []⟩ 7 with data := .histogram t }
    ∃ p, s.histogramPoint .empty true = .ok p ∧ p.count.toNat = (p.bucketCounts.map UInt64.toNat).sum := by
  intro t s
  have hrises : BucketLayout.Rises zero t.entries.entries :=
    BucketLayout.rises_cons.2 ⟨by decide +kernel, by decide +kernel,
      BucketLayout.rises_cons.2 ⟨by decide +kernel, by decide +kernel, BucketLayout.rises_nil⟩⟩
  have hmax : ∀ e ∈ t.entries.entries, e.2.le (ofNat (2 ^ 53)) := by decide +kernel
  have hwhole : ∀ e ∈ t.entries.entries, e.2.IsWhole := by
    simp only [t, List.forall_mem_cons]
    exact ⟨isWhole_ofNat (by decide), isWhole_ofNat (by decide), by simp⟩
  exact (counts_accumulate (by decide) hrises hmax).2 s t .empty true rfl rfl hwhole (by simp [t])

end Series

end Telemetry
