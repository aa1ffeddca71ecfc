import Mathlib.Data.List.Perm.Basic
import Telemetry.Proofs.Matching
import Telemetry.Proofs.Synthetic

/-!
# Assembly inverts the generator of summaries

The samples that `summarySamples` makes of quantiles belong to one series. The bare family name makes a sample that of a
quantile, whose text is read back (`boundary?_toText`), so the series holds the quantiles that went in, sorted
(`Synthetic.exists_tally`). Main statement: `Synthetic.record?_summarySamples`.
-/

namespace Telemetry.Synthetic
open Family

/-! ## The samples -/

def quantileSample (family : String) (series : List Label) (timestamp : Int) (q : Binary64 × Binary64) : Sample :=
  sample family (series ++ [⟨quantileLabel, q.1.toText⟩]) timestamp q.2

section Samples

variable {family : String} {series : List Label} {quantiles : List (Binary64 × Binary64)} {count : UInt64}
  {sum : Binary64} {timestamp : Int}

theorem summarySamples_eq : summarySamples family series quantiles count sum timestamp =
    quantiles.map (quantileSample family series timestamp) ++
      [sample (family ++ Suffix.sum.text) series timestamp sum] ++
      [sample (family ++ Suffix.count.text) series timestamp (.ofNat count.toNat)] := by
  rw [summarySamples, List.append_assoc]
  rfl

theorem mem_summarySamples {x : Sample} : x ∈ summarySamples family series quantiles count sum timestamp ↔
    (∃ q ∈ quantiles, x = quantileSample family series timestamp q) ∨
    x = sample (family ++ Suffix.sum.text) series timestamp sum ∨
    x = sample (family ++ Suffix.count.text) series timestamp (.ofNat count.toNat) := by
  simp [summarySamples_eq, eq_comm]

theorem timestamp_of_mem {x : Sample} (hx : x ∈ summarySamples family series quantiles count sum timestamp) :
    x.timestamp = timestamp := by
  rcases mem_summarySamples.1 hx with ⟨q, -, rfl⟩ | rfl | rfl <;> rfl

end Samples

section Series

variable {f : Family} {series : List Label} {quantiles : List (Binary64 × Binary64)} {count : UInt64} {sum : Binary64}
  {timestamp : Int} (hshape : f.shape = .summary) (hdistinct : Label.Distinct series)
  (hseries : ∀ l ∈ series, l.name ≠ bucketLabel ∧ l.name ≠ quantileLabel)
  (hnumbers : ∀ q ∈ quantiles, q.1.isNaN = false ∧ q.2.isStale = false)
  (hapart : quantiles.Pairwise fun a b => ¬ a.1.sameNumber b.1)

/-! ## What each sample feeds -/

theorem ne_scalar_of_summary (hshape : f.shape = .summary) : f.shape ≠ .scalar := by
  rw [hshape]
  decide

theorem boundaryLabel_of_summary (hshape : f.shape = .summary) : quantileLabel ∈ f.shape.boundaryLabel? := by
  rw [hshape]
  rfl

include hshape hseries in
/-- A quantile comes under the bare name of the family. -/
theorem partOf_quantileSample {q : Binary64 × Binary64} (hq : q.1.isNaN = false) :
    f.partOf (quantileSample f.name series timestamp q) = .ok (some (.boundary q.1.canonical)) := by
  refine partOf_plain (ne_scalar_of_summary hshape) rfl ?_
  rw [boundOf?_of_carries hseries (boundaryLabel_of_summary hshape) rfl, boundary?_toText hq]

include hshape in
theorem carries_of_mem_summarySamples {family : String} {x : Sample}
    (hx : x ∈ summarySamples family series quantiles count sum timestamp) : f.Carries series x := by
  rcases mem_summarySamples.1 hx with ⟨q, -, rfl⟩ | rfl | rfl
  · exact Or.inr ⟨quantileLabel, boundaryLabel_of_summary hshape, _, rfl⟩
  · exact Or.inl rfl
  · exact Or.inl rfl

include hshape hdistinct hseries hnumbers in
theorem accepts_of_mem_summarySamples {x : Sample}
    (hx : x ∈ summarySamples f.name series quantiles count sum timestamp) : f.accepts x = true := by
  have hcarries : f.Carries series x := carries_of_mem_summarySamples hshape hx
  rcases mem_summarySamples.1 hx with ⟨q, hq, rfl⟩ | rfl | rfl
  · exact accepts_of_carries hseries hdistinct hcarries (partOf_quantileSample hshape hseries (hnumbers q hq).1)
  · exact accepts_of_carries hseries hdistinct hcarries (partOf_sum (ne_scalar_of_summary hshape) rfl)
  · exact accepts_of_carries hseries hdistinct hcarries (partOf_count (ne_scalar_of_summary hshape) rfl)

/-! ## The slots of the series -/

/-- The entries that quantiles make, both zeros under `0`. -/
def entriesOf (quantiles : List (Binary64 × Binary64)) : List (Binary64 × Binary64) :=
  quantiles.map fun q => (q.1.canonical, q.2)

include hnumbers in
theorem regular_entriesOf : ∀ e ∈ entriesOf quantiles, e.1.Regular := by
  intro e he
  obtain ⟨q, hq, rfl⟩ := List.mem_map.1 he
  exact Binary64.regular_canonical (hnumbers q hq).1

include hnumbers hapart in
theorem apart_entriesOf : (entriesOf quantiles).Pairwise fun d e => ¬ d.1.sameNumber e.1 := by
  refine List.pairwise_map.2 (hapart.imp_of_mem fun {a b} ha hb hab hsame => hab ?_)
  have hleft := Binary64.sameNumber_symm (Binary64.sameNumber_canonical (hnumbers a ha).1)
  exact Binary64.sameNumber_trans (Binary64.sameNumber_trans hleft hsame)
    (Binary64.sameNumber_canonical (hnumbers b hb).1)

include hshape hseries hnumbers hapart in
/-- A number holds the value of the one quantile that is this number. -/
theorem held_quantiles (x : Binary64) :
    (lastWhere (fun y => f.feeds y (.boundary x)) (summarySamples f.name series quantiles count sum timestamp)).map
      (fun y => (Slot.boundary x).kept y.value) =
      ((entriesOf quantiles).find? fun e => e.1.sameNumber x).map Prod.snd := by
  have hfeeds : ∀ q ∈ quantiles, f.feeds (quantileSample f.name series timestamp q) (.boundary x) =
      q.1.canonical.sameNumber x := fun q hq =>
    feeds_eq (partOf_quantileSample hshape hseries (hnumbers q hq).1) _
  -- no two quantiles are one number
  have hone : (quantiles.map (quantileSample f.name series timestamp)).Pairwise fun y z =>
      ¬ (f.feeds y (.boundary x) = true ∧ f.feeds z (.boundary x) = true) := by
    have hentries := List.pairwise_map.1 (apart_entriesOf hnumbers hapart)
    refine List.pairwise_map.2 (hentries.imp_of_mem fun {a b} ha hb hab => ?_)
    rw [hfeeds a ha, hfeeds b hb]
    rintro ⟨hax, hbx⟩
    exact hab (Binary64.sameNumber_trans hax (Binary64.sameNumber_symm hbx))
  have hsum : f.feeds (sample (f.name ++ Suffix.sum.text) series timestamp sum) (.boundary x) = false :=
    feeds_eq (partOf_sum (ne_scalar_of_summary hshape) rfl) _
  have hcount : f.feeds (sample (f.name ++ Suffix.count.text) series timestamp (.ofNat count.toNat)) (.boundary x) =
      false := feeds_eq (partOf_count (ne_scalar_of_summary hshape) rfl) _
  have hfind : quantiles.find? ((fun y => f.feeds y (.boundary x)) ∘ quantileSample f.name series timestamp) =
      quantiles.find? fun q => q.1.canonical.sameNumber x := List.find?_congr hfeeds
  rw [summarySamples_eq, lastWhere_append, lastWhere_append, hsum, hcount, if_neg Bool.false_ne_true,
    if_neg Bool.false_ne_true, lastWhere_eq_find? hone, List.find?_map, hfind, entriesOf, List.find?_map]
  change Option.map _ (Option.map _ (quantiles.find? _)) = Option.map _ (Option.map _ (quantiles.find? _))
  rw [Option.map_map, Option.map_map]
  refine Option.map_congr fun q hq => ?_
  exact Slot.kept_of_not_stale (hnumbers q (List.mem_of_find?_eq_some hq)).2

include hshape in
theorem held_count (hcount : count.toNat ≤ 2 ^ 53) :
    (lastWhere (fun y => f.feeds y .count) (summarySamples f.name series quantiles count sum timestamp)).map
      (fun y => Slot.count.kept y.value) = some (.ofNat count.toNat) := by
  have hfeeds : f.feeds (sample (f.name ++ Suffix.count.text) series timestamp (.ofNat count.toNat)) .count = true :=
    feeds_eq (partOf_count (ne_scalar_of_summary hshape) rfl) _
  rw [summarySamples_eq, lastWhere_append, if_pos hfeeds]
  exact congrArg some (Slot.kept_ofNat hcount _)

include hshape in
theorem held_sum (hsum : sum.isStale = false) :
    (lastWhere (fun y => f.feeds y .sum) (summarySamples f.name series quantiles count sum timestamp)).map
      (fun y => Slot.sum.kept y.value) = some sum := by
  have hcount : f.feeds (sample (f.name ++ Suffix.count.text) series timestamp (.ofNat count.toNat)) .sum = false :=
    feeds_eq (partOf_count (ne_scalar_of_summary hshape) rfl) _
  have hfeeds : f.feeds (sample (f.name ++ Suffix.sum.text) series timestamp sum) .sum = true :=
    feeds_eq (partOf_sum (ne_scalar_of_summary hshape) rfl) _
  rw [summarySamples_eq, lastWhere_append, lastWhere_append, hcount, if_neg Bool.false_ne_true, if_pos hfeeds]
  exact congrArg some (Slot.kept_of_not_stale hsum)

/-- Whether a tally holds a count, a sum and, sorted, the entries of quantiles. -/
structure Holds (quantiles : List (Binary64 × Binary64)) (count : UInt64) (sum : Binary64) (t : Tally) : Prop where
  count : t.count = some (.ofNat count.toNat)
  sum : t.sum = some sum
  ordered : t.entries.Ordered
  entries : t.entries.entries.Perm (entriesOf quantiles)

include hshape hseries hnumbers hapart in
/-- **A series of these samples holds what they tell.** -/
theorem exists_tally {s : Series} (htells : f.Tells (summarySamples f.name series quantiles count sum timestamp) s)
    (hcount : count.toNat ≤ 2 ^ 53) (hsum : sum.isStale = false) :
    ∃ t, s.data = .summary t ∧ Holds quantiles count sum t := by
  have hdata := htells.data
  have hheld := htells.held
  rw [hshape] at hdata
  cases hs : s.data with
  | scalar value =>
    rw [hs] at hdata
    cases hdata.shape
  | histogram t =>
    rw [hs] at hdata
    cases hdata.shape
  | summary t =>
    rw [hs] at hdata hheld
    refine ⟨t, rfl, ?_, ?_, hdata.ordered, ?_⟩
    · exact (hheld .count).trans (held_count hshape hcount)
    · exact (hheld .sum).trans (held_sum hshape hsum)
    · refine hdata.ordered.perm (apart_entriesOf hnumbers hapart) (regular_entriesOf hnumbers) fun x => ?_
      exact (hheld (.boundary x)).trans (held_quantiles hshape hseries hnumbers hapart x)

end Series

/-! ## The record -/

/-- Whether a point shows the quantiles of a series, in ascending order: each with its value, and the labels of the
series in their order. -/
structure ShowsQuantiles (series : List Label) (nameLabel : String) (quantiles : List (Binary64 × Binary64))
    (count : UInt64) (sum : Binary64) (timestamp : Int) (p : SummaryPoint) : Prop where
  labels : p.labels = series.filter fun l => l.name ≠ nameLabel
  ascending : p.quantiles.Pairwise fun a b => a.quantile.lt b.quantile
  values : Matched (fun e q => e.quantile.sameNumber q.1 = true ∧ e.value = q.2) p.quantiles quantiles
  count : p.count = count
  sum : p.sum = sum
  stale : p.stale = false
  start : p.start = nanosOfMillis timestamp
  time : p.time = nanosOfMillis timestamp

section Record

variable {quantiles : List (Binary64 × Binary64)} (hnumbers : ∀ q ∈ quantiles, q.1.isNaN = false ∧ q.2.isStale = false)

include hnumbers in
theorem matched_of_perm {es : List (Binary64 × Binary64)} (h : es.Perm (entriesOf quantiles)) :
    Matched (fun (e : QuantileValue) q => e.quantile.sameNumber q.1 = true ∧ e.value = q.2)
      (es.map fun e => ⟨e.1, e.2⟩) quantiles := by
  have hall : List.Forall₂ (fun (e q : Binary64 × Binary64) => e.1.sameNumber q.1 = true ∧ e.2 = q.2)
      (entriesOf quantiles) quantiles := by
    rw [entriesOf, List.forall₂_map_left_iff, List.forall₂_same]
    exact fun q hq => ⟨Binary64.sameNumber_canonical (hnumbers q hq).1, rfl⟩
  obtain ⟨qs, hqs, hperm⟩ := List.perm_comp_forall₂ h hall
  exact ⟨qs, hperm, List.forall₂_map_left_iff.2 hqs⟩

variable {f : Family} {family : String} {series : List Label} {count : UInt64} {sum : Binary64} {timestamp : Int}

theorem exemplarOf?_of_mem {x : Sample} (hx : x ∈ summarySamples family series quantiles count sum timestamp) :
    f.exemplarOf? x = none := by
  have hnone : x.exemplar = none := by rcases mem_summarySamples.1 hx with ⟨q, -, rfl⟩ | rfl | rfl <;> rfl
  simp [exemplarOf?, hnone]

include hnumbers in
theorem not_isStale_of_mem (hcount : count.toNat ≤ 2 ^ 53) (hsum : sum.isStale = false) {x : Sample}
    (hx : x ∈ summarySamples family series quantiles count sum timestamp) : x.value.isStale = false := by
  rcases mem_summarySamples.1 hx with ⟨q, hq, rfl⟩ | rfl | rfl
  · exact (hnumbers q hq).2
  · exact hsum
  · exact Binary64.not_isStale_of_isNaN (Binary64.isNaN_of_isFinite (Binary64.isFinite_ofNat hcount))

include hnumbers in
theorem plain_of_tells {s : Series} (htells : f.Tells (summarySamples family series quantiles count sum timestamp) s)
    (hcount : count.toNat ≤ 2 ^ 53) (hsum : sum.isStale = false) :
    s.exemplars = [] ∧ s.stale = false ∧ s.timestamp = timestamp := by
  refine ⟨?_, ?_, ?_⟩
  · rw [htells.exemplars, List.filterMap_eq_nil_iff]
    exact fun x hx => exemplarOf?_of_mem hx
  · rw [htells.stale, List.any_eq_false]
    intro x hx
    rw [not_isStale_of_mem hnumbers hcount hsum hx]
    exact Bool.false_ne_true
  · obtain ⟨x, hhead, htime⟩ := Option.map_eq_some_iff.1 htells.timestamp
    exact htime.symm.trans (timestamp_of_mem (List.mem_of_mem_head? hhead))

include hnumbers in
theorem shows_of_holds {s : Series} {t : Tally} (hdata : s.data = .summary t) (ht : Holds quantiles count sum t)
    (hcount : count.toNat ≤ 2 ^ 53) (hstale : s.stale = false) {order : LabelOrder} {nameLabel : String}
    (horder : order.arrange s.labels = series.filter fun l => l.name ≠ nameLabel) :
    ∃ p, s.summaryPoint order false = .ok p ∧
      ShowsQuantiles series nameLabel quantiles count sum s.timestamp p := by
  obtain ⟨n, htruncate, hn⟩ := truncateCount_ofNat hcount
  refine ⟨_, Series.summaryPoint_eq_ok_iff.2 ⟨t, n, hdata, ?_, ?_, rfl⟩, ?_⟩
  · rw [Tally.isEmpty, ht.count]
    rfl
  · rw [ht.count, Option.elim_some, htruncate]
  · exact
      { labels := horder
        ascending := List.pairwise_map.2 ht.ordered.ascending
        values := matched_of_perm hnumbers ht.entries
        count := UInt64.toNat_inj.1 hn
        sum := congrArg (Option.getD · .zero) ht.sum
        stale := hstale
        start := rfl
        time := rfl }

end Record

/-- **Assembling the samples of known quantiles shows the quantiles.** A family of summaries accepts all of them,
whatever their order, and its record has one point, with the quantiles ascending and each value as it came. -/
theorem record?_summarySamples {family help unit : String} {store : MetadataStore} {settings : AssemblySettings}
    {series : List Label} {quantiles : List (Binary64 × Binary64)} {count : UInt64} {sum : Binary64} {timestamp : Int}
    (hstore : store family = some ⟨.summary, help, unit⟩) (hdistinct : (series.map Label.name).Nodup)
    (hseries : ∀ l ∈ series, l.name ≠ bucketLabel ∧ l.name ≠ quantileLabel)
    (hnumbers : ∀ q ∈ quantiles, q.1.isNaN = false ∧ q.2.isStale = false)
    (hapart : quantiles.Pairwise fun a b => ¬ a.1.sameNumber b.1) (hcount : count.toNat ≤ 2 ^ 53)
    (hsum : sum.isStale = false) :
    let f := declared family store settings
    let samples := summarySamples family series quantiles count sum timestamp
    f.accepted samples = samples ∧ (∀ s ∈ (f.extend samples).series, s.exemplars = []) ∧
    ∃ p, (f.extend samples).record? = some ⟨family, .summary, help, unit, .summary [p]⟩ ∧
      ShowsQuantiles series settings.nameLabel quantiles count sum timestamp p := by
  intro f samples
  have htype : f.type = .summary := by
    change ((store family).getD .undeclared).type = _
    rw [hstore]
    rfl
  have hshape : f.shape = .summary := by
    rw [shape, htype]
    rfl
  have hne : samples ≠ [] := by simp [samples, summarySamples_eq]
  have haccepts : ∀ x ∈ samples, f.accepts x = true := fun x hx =>
    accepts_of_mem_summarySamples hshape hdistinct hseries hnumbers hx
  have hcarries : ∀ x ∈ samples, f.Carries series x := fun x hx => carries_of_mem_summarySamples hshape hx
  refine ⟨accepted_eq_self haccepts, ?_⟩
  obtain ⟨s, hrun, hlabels, htells⟩ := exists_series hne haccepts hcarries
  obtain ⟨hexemplars, hstale, htime⟩ := plain_of_tells hnumbers htells hcount hsum
  constructor
  · intro t ht
    rw [hrun, List.mem_singleton] at ht
    rw [ht, hexemplars]
  obtain ⟨t, hdata, ht⟩ := exists_tally hshape hseries hnumbers hapart htells hcount hsum
  have horder : (f.extend samples).labelOrder.arrange s.labels =
      series.filter fun l => l.name ≠ settings.nameLabel := by
    rw [hlabels]
    exact arrange_series hne haccepts hcarries hseries hdistinct
  obtain ⟨p, hpoint, hshows⟩ := shows_of_holds hnumbers hdata ht hcount hstale horder
  -- a summary does not accumulate, so its start is the time of the point
  have hcumulative : (f.extend samples).isCumulative = false := by
    rw [(shape_extend samples f).2, isCumulative, htype]
    rfl
  have hpoints : (f.extend samples).points = .summary [p] := by
    rw [points, (shape_extend samples f).1, hshape]
    exact congrArg Points.summary (collect_of_series hrun (hcumulative ▸ hpoint))
  exact ⟨p, record?_extend hstore hpoints Nat.one_pos, htime ▸ hshows⟩

/-- Quantiles out of order, among them `-0.0` and both infinities, with values that are no numbers and as many
observations as a double can count. -/
theorem record?_of_durations :
    let store : MetadataStore := fun name => if name = "durations" then some ⟨.summary, "", "s"⟩ else none
    let series : List Label := [⟨"zone", "b"⟩, ⟨"__name__", "durations"⟩, ⟨"host", "a"⟩]
    let quantiles : List (Binary64 × Binary64) :=
      [(.inf, ⟨0xfff0000000000000⟩), (⟨0x3feccccccccccccd⟩, ⟨0x7ff8000000000000⟩), (⟨0xfff0000000000000⟩, .negZero),
        (.negZero, .inf)]
    let f := declared "durations" store .default
    let samples := summarySamples "durations" series quantiles 9007199254740992 ⟨0xfff8000000000001⟩ 7
    f.accepted samples = samples ∧ (∀ s ∈ (f.extend samples).series, s.exemplars = []) ∧
    ∃ p, (f.extend samples).record? = some ⟨"durations", .summary, "", "s", .summary [p]⟩ ∧
      ShowsQuantiles series "__name__" quantiles 9007199254740992 ⟨0xfff8000000000001⟩ 7 p :=
  record?_summarySamples rfl (by decide) (by decide) (by decide) (by decide) (by decide) (by decide)

end Telemetry.Synthetic
