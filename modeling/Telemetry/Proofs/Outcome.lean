import Mathlib.Tactic.MkIffOfInductiveProp
import Telemetry.Proofs.Binary64.Difference
import Telemetry.Proofs.Isolation

/-!
# Which series come to a point

Cumulative buckets make a layout exactly if their values are finite, the first one is at least 0 and none is less
than the one before (`BucketLayout.Rises`); otherwise the failure names the lowest bucket that breaks this rule
(`BucketLayout.FirstFault`). Each bucket is judged by the sign of a rounded difference, which is that of the
difference. What a series of any shape holds thus decides whether it comes to a point (`SeriesData.Yields`) and why
it does not (`SeriesData.Fails`): `Family.outcome_of_data` says it of every series that a run leaves.
-/

namespace Telemetry
open Binary64

/-! ## Buckets -/

namespace BucketLayout

/-- The values are finite and never fall: the first one not below `previous`, no other one below that before it. -/
structure Rises (previous : Binary64) (entries : List (Binary64 × Binary64)) : Prop where
  finite : ∀ e ∈ entries, e.2.isFinite = true
  ascending : (previous :: entries.map Prod.snd).IsChain fun v w => v.le w

/-- What is wrong with a bucket behind one that holds `previous`. -/
@[mk_iff]
inductive Fault (previous bound value : Binary64) : PointFailure → Prop
  | nonFinite (h : value.isFinite = false) : Fault previous bound value (.nonFiniteBucket bound value)
  | falling (hfinite : value.isFinite = true) (h : value.lt previous) :
    Fault previous bound value (.nonMonotonicBuckets bound value previous)

/-- The failure names the first entry at fault: all before it are sound. -/
def FirstFault (previous : Binary64) (entries : List (Binary64 × Binary64)) (failure : PointFailure) : Prop :=
  ∃ before bound value after, entries = before ++ (bound, value) :: after ∧ Rises previous before ∧
    Fault (top previous before) bound value failure

variable {previous bound value : Binary64} {rest entries : List (Binary64 × Binary64)} {failure : PointFailure}

theorem FirstFault.ne_nil (h : FirstFault previous entries failure) : entries ≠ [] := by
  obtain ⟨before, bound, value, after, rfl, -, -⟩ := h
  simp

theorem rises_nil : Rises previous [] := ⟨by simp, by simp⟩

theorem rises_cons : Rises previous ((bound, value) :: rest) ↔
    value.isFinite = true ∧ previous.le value ∧ Rises value rest := by
  constructor
  · rintro ⟨hfinite, hascending⟩
    obtain ⟨hle, hascending⟩ := List.isChain_cons_cons.1 hascending
    exact ⟨hfinite _ List.mem_cons_self, hle, fun e he => hfinite e (List.mem_cons_of_mem _ he), hascending⟩
  · rintro ⟨hvalue, hle, hfinite, hascending⟩
    refine ⟨fun e he => ?_, List.isChain_cons_cons.2 ⟨hle, hascending⟩⟩
    rcases List.mem_cons.1 he with rfl | he
    · exact hvalue
    · exact hfinite e he

theorem Rises.isFinite_top (h : Rises previous entries) (hprevious : previous.isFinite = true) :
    (top previous entries).isFinite = true := by
  induction entries generalizing previous with
  | nil => exact hprevious
  | cons e rest ih =>
    obtain ⟨hvalue, -, hrest⟩ := rises_cons.1 h
    rw [top_cons]
    exact ih hrest hvalue

theorem exists_perBucket_iff (hprevious : previous.isFinite = true) :
    (∃ counts, perBucket previous entries = .ok counts) ↔ Rises previous entries := by
  induction entries generalizing previous with
  | nil => exact iff_of_true ⟨[], rfl⟩ rises_nil
  | cons e rest ih =>
    obtain ⟨bound, value⟩ := e
    rw [rises_cons]
    constructor
    · rintro ⟨counts, h⟩
      obtain ⟨hvalue, hsign, others, hothers, -⟩ := perBucket_cons_eq_ok_iff.1 h
      exact ⟨hvalue, (sub_lt_zero_eq_false_iff hvalue hprevious).1 hsign, (ih hvalue).1 ⟨others, hothers⟩⟩
    · rintro ⟨hvalue, hle, hrest⟩
      obtain ⟨others, hothers⟩ := (ih hvalue).2 hrest
      have hsign := (sub_lt_zero_eq_false_iff hvalue hprevious).2 hle
      exact ⟨_, perBucket_cons_eq_ok_iff.2 ⟨hvalue, hsign, others, hothers, rfl⟩⟩

theorem perBucket_cons_eq_error_iff (hprevious : previous.isFinite = true) :
    perBucket previous ((bound, value) :: rest) = .error failure ↔
      Fault previous bound value failure ∨
      (value.isFinite = true ∧ previous.le value ∧ perBucket value rest = .error failure) := by
  rw [fault_iff, perBucket, eq_comm (a := failure), eq_comm (a := failure)]
  cases hvalue : value.isFinite with
  | false => simp
  | true =>
    have hle := sub_lt_zero_eq_false_iff hvalue hprevious
    have hlt := sub_lt_zero_iff hvalue hprevious
    dsimp only
    cases hsign : (value.sub previous).lt .zero with
    | true =>
      have hnot : ¬ previous.le value := fun h => by simp [hle.2 h] at hsign
      simp [hlt.1 hsign, hnot]
    | false =>
      have hnot : ¬ value.lt previous := fun h => by simp [hlt.2 h] at hsign
      cases perBucket value rest <;> simp [hle.1 hsign, hnot]

/-- **The first fault is the failure.** -/
theorem perBucket_eq_error_iff (hprevious : previous.isFinite = true) :
    perBucket previous entries = .error failure ↔ FirstFault previous entries failure := by
  induction entries generalizing previous with
  | nil => simp [perBucket, FirstFault]
  | cons e rest ih =>
    obtain ⟨bound, value⟩ := e
    rw [perBucket_cons_eq_error_iff hprevious]
    constructor
    · rintro (hfault | ⟨hvalue, hle, hrest⟩)
      · exact ⟨[], bound, value, rest, rfl, rises_nil, hfault⟩
      · obtain ⟨before, b, v, after, rfl, hbefore, hfault⟩ := (ih hvalue).1 hrest
        exact ⟨(bound, value) :: before, b, v, after, rfl, rises_cons.2 ⟨hvalue, hle, hbefore⟩, by rwa [top_cons]⟩
    · rintro ⟨before, b, v, after, heq, hbefore, hfault⟩
      cases before with
      | nil =>
        obtain ⟨hhead, -⟩ := List.cons.inj heq
        cases hhead
        exact Or.inl hfault
      | cons e before =>
        obtain ⟨rfl, rfl⟩ := List.cons.inj heq
        obtain ⟨hvalue, hle, hbefore⟩ := rises_cons.1 hbefore
        rw [top_cons] at hfault
        exact Or.inr ⟨hvalue, hle, (ih hvalue).2 ⟨before, b, v, after, rfl, hbefore, hfault⟩⟩

variable {buckets : BoundaryMap}

/-- **Rising buckets have a layout**, if there are any, and no other buckets have one. -/
theorem exists_ofCumulative_iff :
    (∃ layout, ofCumulative buckets = .ok layout) ↔ buckets.entries ≠ [] ∧ Rises .zero buckets.entries := by
  rw [← exists_perBucket_iff (by decide)]
  constructor
  · rintro ⟨layout, h⟩
    obtain ⟨hne, counts, hcounts, -⟩ := ofCumulative_eq_ok_iff.1 h
    exact ⟨hne, counts, hcounts⟩
  · rintro ⟨hne, counts, hcounts⟩
    exact ⟨_, ofCumulative_eq_ok_iff.2 ⟨hne, counts, hcounts, rfl⟩⟩

theorem isFinite_total {layout : BucketLayout} (h : ofCumulative buckets = .ok layout) :
    layout.total.isFinite = true := by
  obtain ⟨-, counts, hcounts, rfl⟩ := ofCumulative_eq_ok_iff.1 h
  exact ((exists_perBucket_iff (by decide)).1 ⟨counts, hcounts⟩).isFinite_top (by decide)

theorem ofCumulative_eq_error_iff : ofCumulative buckets = .error failure ↔
    buckets.entries = [] ∧ failure = .missingBuckets ∨ FirstFault .zero buckets.entries failure := by
  rw [← perBucket_eq_error_iff (by decide)]
  unfold ofCumulative
  cases hlast : buckets.entries.getLast? with
  | none =>
    rw [List.getLast?_eq_none_iff.1 hlast]
    simp [perBucket, eq_comm]
  | some e =>
    have hne : buckets.entries ≠ [] := by
      intro hnil
      rw [hnil] at hlast
      cases hlast
    cases perBucket .zero buckets.entries <;> simp [hne]

end BucketLayout

/-! ## Counts -/

theorem truncateCount_eq_ok_iff {value : Binary64} {count : UInt64} :
    truncateCount value = .ok count ↔ value.isFinite = true ∧ count = value.truncToUInt64 := by
  unfold truncateCount
  cases value.isFinite <;> simp [eq_comm]

theorem truncateCount_eq_error_iff {value : Binary64} {failure : PointFailure} :
    truncateCount value = .error failure ↔ value.isFinite = false ∧ failure = .nonFiniteCount value := by
  unfold truncateCount
  cases value.isFinite <;> simp [eq_comm]

theorem exists_count_iff {count : Option Binary64} :
    (∃ n, count.elim (.ok 0) truncateCount = .ok n) ↔ ∀ v ∈ count, v.isFinite = true := by
  cases count <;> simp [truncateCount_eq_ok_iff]

/-- The count of a histogram. If it has none the highest bucket stands in, and that is finite. -/
theorem isFinite_count_iff {buckets : BoundaryMap} {layout : BucketLayout}
    (h : BucketLayout.ofCumulative buckets = .ok layout) {count : Option Binary64} :
    (count.getD layout.total).isFinite = true ↔ ∀ v ∈ count, v.isFinite = true := by
  cases count <;> simp [BucketLayout.isFinite_total h]

/-! ## Series -/

namespace Tally

variable {t : Tally}

theorem isEmpty_iff : t.isEmpty = true ↔ t.count = none ∧ t.sum = none ∧ t.entries.entries = [] := by
  simp [isEmpty, BoundaryMap.isEmpty, and_assoc]

theorem isEmpty_eq_false (h : t.entries.entries ≠ []) : t.isEmpty = false := by
  rw [Bool.eq_false_iff]
  exact fun hempty => h (isEmpty_iff.1 hempty).2.2

end Tally

namespace SeriesData

/-- Whether the data makes a point: a value; a summary of which something was received, with no count or a finite one;
buckets that rise, with no count or a finite one. -/
def Yields : SeriesData → Prop
  | scalar value => value.isSome
  | summary t => t.isEmpty = false ∧ ∀ v ∈ t.count, v.isFinite = true
  | histogram t => t.entries.entries ≠ [] ∧ BucketLayout.Rises .zero t.entries.entries ∧
      ∀ v ∈ t.count, v.isFinite = true

/-- Why data makes no point. -/
inductive Fails : SeriesData → PointFailure → Prop
  | noValue : Fails (scalar none) .emptySeries
  | emptySummary {t : Tally} (hempty : t.isEmpty = true) : Fails (summary t) .emptySeries
  | summaryCount {t : Tally} {v : Binary64} (hcount : t.count = some v) (hv : v.isFinite = false) :
    Fails (summary t) (.nonFiniteCount v)
  | emptyHistogram {t : Tally} (hempty : t.isEmpty = true) : Fails (histogram t) .emptySeries
  | noBucket {t : Tally} (hsome : t.isEmpty = false) (hnone : t.entries.entries = []) :
    Fails (histogram t) .missingBuckets
  | bucket {t : Tally} {failure : PointFailure} (hfault : BucketLayout.FirstFault .zero t.entries.entries failure) :
    Fails (histogram t) failure
  /-- The count is looked at when all buckets are sound. -/
  | histogramCount {t : Tally} {v : Binary64} (hsome : t.entries.entries ≠ [])
    (hrises : BucketLayout.Rises .zero t.entries.entries) (hcount : t.count = some v) (hv : v.isFinite = false) :
    Fails (histogram t) (.nonFiniteCount v)

end SeriesData

namespace Series

variable {s : Series} {order : LabelOrder} {cumulative : Bool} {failure : PointFailure}

theorem scalarPoint_eq_error_iff {value : Option Binary64} (hdata : s.data = .scalar value) :
    s.scalarPoint order cumulative = .error failure ↔ (SeriesData.scalar value).Fails failure := by
  unfold scalarPoint
  rw [hdata]
  constructor
  · intro herror
    cases value with
    | none => cases herror; exact .noValue
    | some v => cases herror
  · rintro ⟨⟩
    rfl

theorem summaryPoint_eq_error_iff {t : Tally} (hdata : s.data = .summary t) :
    s.summaryPoint order cumulative = .error failure ↔ (SeriesData.summary t).Fails failure := by
  rw [summaryPoint_eq hdata]
  constructor
  · intro herror
    cases hempty : t.isEmpty with
    | true =>
      rw [hempty, if_pos rfl] at herror
      cases herror
      exact .emptySummary hempty
    | false =>
      rw [hempty, if_neg (by decide), map_eq_error_iff] at herror
      cases hcount : t.count with
      | none =>
        rw [hcount] at herror
        cases herror
      | some v =>
        rw [hcount] at herror
        obtain ⟨hv, rfl⟩ := truncateCount_eq_error_iff.1 herror
        exact .summaryCount hcount hv
  · intro hfails
    cases hfails with
    | emptySummary hempty => rw [hempty, if_pos rfl]
    | summaryCount hcount hv =>
      have hsome : ¬ t.isEmpty = true := fun hempty => by simp [(Tally.isEmpty_iff.1 hempty).1] at hcount
      rw [if_neg hsome, hcount, map_eq_error_iff]
      exact truncateCount_eq_error_iff.2 ⟨hv, rfl⟩

theorem histogramPoint_eq_error_iff {t : Tally} (hdata : s.data = .histogram t) :
    s.histogramPoint order cumulative = .error failure ↔ (SeriesData.histogram t).Fails failure := by
  unfold histogramPoint
  rw [hdata]
  dsimp only
  constructor
  · intro herror
    cases hempty : t.isEmpty with
    | true =>
      rw [hempty, if_pos rfl] at herror
      cases herror
      exact .emptyHistogram hempty
    | false =>
      rw [hempty, if_neg (by decide)] at herror
      rcases bind_eq_error_iff.1 herror with herror | ⟨layout, hlayout, herror⟩
      · rcases BucketLayout.ofCumulative_eq_error_iff.1 herror with ⟨hnone, rfl⟩ | hfault
        · exact .noBucket hempty hnone
        · exact .bucket hfault
      · obtain ⟨hsome, hrises⟩ := BucketLayout.exists_ofCumulative_iff.1 ⟨layout, hlayout⟩
        rcases bind_eq_error_iff.1 herror with herror | ⟨_, -, hok⟩
        · obtain ⟨hv, rfl⟩ := truncateCount_eq_error_iff.1 herror
          cases hcount : t.count with
          | none =>
            rw [hcount, (isFinite_count_iff hlayout).2 (by simp)] at hv
            cases hv
          | some v =>
            rw [hcount] at hv
            exact .histogramCount hsome hrises hcount hv
        · cases hok
  · intro hfails
    cases hfails with
    | emptyHistogram hempty => rw [hempty, if_pos rfl]
    | noBucket hsome hnone =>
      rw [hsome, if_neg (by decide)]
      exact bind_eq_error_iff.2 (Or.inl (BucketLayout.ofCumulative_eq_error_iff.2 (Or.inl ⟨hnone, rfl⟩)))
    | bucket hfault =>
      rw [Tally.isEmpty_eq_false hfault.ne_nil, if_neg (by decide)]
      exact bind_eq_error_iff.2 (Or.inl (BucketLayout.ofCumulative_eq_error_iff.2 (Or.inr hfault)))
    | histogramCount hsome hrises hcount hv =>
      obtain ⟨layout, hlayout⟩ := BucketLayout.exists_ofCumulative_iff.2 ⟨hsome, hrises⟩
      rw [Tally.isEmpty_eq_false hsome, if_neg (by decide), hcount]
      refine bind_eq_error_iff.2 (Or.inr ⟨layout, hlayout, bind_eq_error_iff.2 (Or.inl ?_)⟩)
      exact truncateCount_eq_error_iff.2 ⟨hv, rfl⟩

theorem exists_scalarPoint_iff {value : Option Binary64} (hdata : s.data = .scalar value) :
    (∃ p, s.scalarPoint order cumulative = .ok p) ↔ (SeriesData.scalar value).Yields := by
  simp only [scalarPoint_eq_ok_iff, hdata, SeriesData.Yields]
  cases value <;> simp

theorem exists_summaryPoint_iff {t : Tally} (hdata : s.data = .summary t) :
    (∃ p, s.summaryPoint order cumulative = .ok p) ↔ (SeriesData.summary t).Yields := by
  rw [SeriesData.Yields, ← exists_count_iff]
  simp only [summaryPoint_eq_ok_iff, hdata]
  constructor
  · rintro ⟨_, u, count, hu, hsome, hcount, -⟩
    cases hu
    exact ⟨hsome, count, hcount⟩
  · rintro ⟨hsome, count, hcount⟩
    exact ⟨_, t, count, rfl, hsome, hcount, rfl⟩

theorem exists_histogramPoint_iff {t : Tally} (hdata : s.data = .histogram t) :
    (∃ p, s.histogramPoint order cumulative = .ok p) ↔ (SeriesData.histogram t).Yields := by
  simp only [histogramPoint_eq_ok_iff, hdata]
  constructor
  · rintro ⟨_, u, layout, count, hu, -, hlayout, hcount, -⟩
    cases hu
    obtain ⟨hsome, hrises⟩ := BucketLayout.exists_ofCumulative_iff.1 ⟨layout, hlayout⟩
    exact ⟨hsome, hrises, (isFinite_count_iff hlayout).1 (truncateCount_eq_ok_iff.1 hcount).1⟩
  · rintro ⟨hsome, hrises, hfinite⟩
    obtain ⟨layout, hlayout⟩ := BucketLayout.exists_ofCumulative_iff.2 ⟨hsome, hrises⟩
    have hcount := truncateCount_eq_ok_iff.2 ⟨(isFinite_count_iff hlayout).2 hfinite, rfl⟩
    exact ⟨_, t, layout, _, rfl, Tally.isEmpty_eq_false hsome, hlayout, hcount, rfl⟩

/-- What a series holds decides why it comes to no point. -/
theorem point_eq_error_iff {shape : Shape} (hshape : s.data.shape = shape) :
    s.point shape order cumulative = .error failure ↔ s.data.Fails failure := by
  subst hshape
  cases hdata : s.data with
  | scalar value => exact map_eq_error_iff.trans (scalarPoint_eq_error_iff hdata)
  | histogram t => exact map_eq_error_iff.trans (histogramPoint_eq_error_iff hdata)
  | summary t => exact map_eq_error_iff.trans (summaryPoint_eq_error_iff hdata)

theorem exists_point_iff {shape : Shape} (hshape : s.data.shape = shape) :
    (∃ p, s.point shape order cumulative = .ok p) ↔ s.data.Yields := by
  have hmap : ∀ {P : Type} {x : Except PointFailure P} {kind : P → Point},
      (∃ p, x.map kind = .ok p) ↔ ∃ p, x = .ok p := by
    intro P x kind
    cases x <;> simp [Except.map]
  subst hshape
  cases hdata : s.data with
  | scalar value => exact hmap.trans (exists_scalarPoint_iff hdata)
  | histogram t => exact hmap.trans (exists_histogramPoint_iff hdata)
  | summary t => exact hmap.trans (exists_summaryPoint_iff hdata)

end Series

namespace Family

variable (name : String) (store : MetadataStore) (settings : AssemblySettings) (xs : List Sample)

/-- **What a series holds decides its outcome.** Whatever samples made it, it comes to a point exactly if its data
yields one, and otherwise fails for the reason that its data gives; its boundaries ascend, so that the first bucket
at fault is the lowest one. -/
theorem outcome_of_data {s : Series} (hs : s ∈ ((declared name store settings).extend xs).series)
    (order : LabelOrder) (cumulative : Bool) :
    let f := (declared name store settings).extend xs
    ((∃ p, s.point f.shape order cumulative = .ok p) ↔ s.data.Yields) ∧
    (∀ failure, s.point f.shape order cumulative = .error failure ↔ s.data.Fails failure) ∧
    s.data.boundaries.Ordered := by
  intro f
  have hdata := ((sound_extend_declared name store settings xs).series s hs).data
  exact ⟨Series.exists_point_iff hdata.shape, fun _ => Series.point_eq_error_iff hdata.shape, hdata.ordered⟩

/-- Of a count without a number and two buckets at fault, the lowest bucket is named. -/
theorem failure_of_lowest_bucket :
    let f := (declared "latency" (fun _ => some ⟨.histogram, "", "s"⟩) .default).extend
      [⟨"latency_count", [], 7, .nan, none⟩,
        ⟨"latency_bucket", [⟨"le", "+Inf"⟩], 7, .inf, none⟩,
        ⟨"latency_bucket", [⟨"le", "2"⟩], 7, .ofNat 3, none⟩,
        ⟨"latency_bucket", [⟨"le", "1"⟩], 7, .ofNat 5, none⟩]
    ∃ s ∈ f.series, s.point f.shape f.labelOrder f.isCumulative =
      .error (.nonMonotonicBuckets (.ofNat 2) (.ofNat 3) (.ofNat 5)) := by
  intro f
  have hseries : ∃ s ∈ f.series, s.data =
      .histogram ⟨some .nan, none, ⟨[(.ofNat 1, .ofNat 5), (.ofNat 2, .ofNat 3), (.inf, .inf)]⟩⟩ := by
    decide +kernel
  obtain ⟨s, hs, hdata⟩ := hseries
  refine ⟨s, hs, ((outcome_of_data _ _ _ _ hs _ _).2.1 _).2 ?_⟩
  rw [hdata]
  have hrises : BucketLayout.Rises .zero [(.ofNat 1, .ofNat 5)] :=
    BucketLayout.rises_cons.2 ⟨by decide +kernel, by decide +kernel, BucketLayout.rises_nil⟩
  have hfault : BucketLayout.Fault (.ofNat 5) (.ofNat 2) (.ofNat 3)
      (.nonMonotonicBuckets (.ofNat 2) (.ofNat 3) (.ofNat 5)) := .falling (by decide +kernel) (by decide +kernel)
  exact .bucket ⟨_, _, _, _, rfl, hrises, hfault⟩

end Family

end Telemetry
