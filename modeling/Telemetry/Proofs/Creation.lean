import Telemetry.Proofs.Arrival
import Telemetry.Proofs.Isolation

/-!
# What `_created` samples change

A `_created` sample opens a family and a series as every accepted sample does. It may be the first or the only one
of its series, stale or without a number, and yet it feeds no slot: without such samples a series holds the same
data, and one that only they opened comes to no point. The records of the two runs correspond, and no more than
times differ; where the samples of each series share one time, no more than the starts of what accumulates
(`Cycle.created_moves_starts`).
-/

namespace Telemetry

/-! ## Points -/

/-- Whether two headers are one but for the order of their labels and their times. If `aligned`, the times of the
points are one as well, and so are the starts unless values of the type accumulate. -/
structure PointHeader.SameButTimes (type : MetricType) (aligned : Prop) (p q : PointHeader) : Prop where
  labels : p.labels.Perm q.labels
  stale : p.stale = q.stale
  time : aligned → p.time = q.time
  start : aligned → type ≠ .counter → type ≠ .histogram → p.start = q.start

/-- Whether two points have the same values, and headers that `H` relates; exemplars do not count. -/
inductive Point.Alike (H : PointHeader → PointHeader → Prop) : Point → Point → Prop
  | scalar {p q : ScalarPoint} (header : H p.toPointHeader q.toPointHeader) (value : p.value = q.value) :
    Alike H (.scalar p) (.scalar q)
  | histogram {p q : HistogramPoint} (header : H p.toPointHeader q.toPointHeader) (count : p.count = q.count)
    (sum : p.sum = q.sum) (bucketCounts : p.bucketCounts = q.bucketCounts)
    (explicitBounds : p.explicitBounds = q.explicitBounds) : Alike H (.histogram p) (.histogram q)
  | summary {p q : SummaryPoint} (header : H p.toPointHeader q.toPointHeader) (count : p.count = q.count)
    (sum : p.sum = q.sum) (quantiles : p.quantiles = q.quantiles) : Alike H (.summary p) (.summary q)

structure Record.Alike (H : MetricType → PointHeader → PointHeader → Prop) (r q : Record) : Prop where
  name : r.name = q.name
  type : r.type = q.type
  help : r.help = q.help
  unit : r.unit = q.unit
  points : Matched (Point.Alike (H r.type)) r.points.toList q.points.toList

namespace Series

variable {s t : Series} {shape : Shape} {order other : LabelOrder} {cumulative : Bool}

theorem alike_point {H : PointHeader → PointHeader → Prop} (hdata : s.data = t.data)
    (hheader : H (s.header order cumulative) (t.header other cumulative)) {p : Point}
    (hp : s.point shape order cumulative = .ok p) :
    ∃ q, t.point shape other cumulative = .ok q ∧ p.Alike H q := by
  cases shape with
  | scalar =>
    obtain ⟨_, hscalar, rfl⟩ := map_eq_ok_iff.1 hp
    obtain ⟨value, hvalue, rfl⟩ := scalarPoint_eq_ok_iff.1 hscalar
    refine ⟨_, map_eq_ok_iff.2 ⟨_, scalarPoint_eq_ok_iff.2 ⟨value, hdata ▸ hvalue, rfl⟩, rfl⟩, ?_⟩
    exact .scalar hheader rfl
  | histogram =>
    obtain ⟨_, hhistogram, rfl⟩ := map_eq_ok_iff.1 hp
    obtain ⟨tally, layout, count, htally, hne, hlayout, hcount, rfl⟩ := histogramPoint_eq_ok_iff.1 hhistogram
    refine ⟨_, map_eq_ok_iff.2 ⟨_, histogramPoint_eq_ok_iff.2
      ⟨tally, layout, count, hdata ▸ htally, hne, hlayout, hcount, rfl⟩, rfl⟩, ?_⟩
    exact .histogram hheader rfl rfl rfl rfl
  | summary =>
    obtain ⟨_, hsummary, rfl⟩ := map_eq_ok_iff.1 hp
    obtain ⟨tally, count, htally, hne, hcount, rfl⟩ := summaryPoint_eq_ok_iff.1 hsummary
    refine ⟨_, map_eq_ok_iff.2 ⟨_, summaryPoint_eq_ok_iff.2 ⟨tally, count, hdata ▸ htally, hne, hcount, rfl⟩, rfl⟩, ?_⟩
    exact .summary hheader rfl rfl rfl

theorem rel_point {H : PointHeader → PointHeader → Prop} (hdata : s.data = t.data)
    (hheader : H (s.header order cumulative) (t.header other cumulative)) :
    Option.Rel (Point.Alike H) (s.point shape order cumulative).toOption (t.point shape other cumulative).toOption := by
  refine rel_toOption (fun p hp => alike_point hdata hheader hp) fun q hq => ?_
  have hback : ∃ p, s.point shape order cumulative = .ok p ∧ q.Alike (fun _ _ => True) p :=
    alike_point hdata.symm trivial hq
  exact hback.imp fun _ hp => hp.1

theorem point_of_data_eq_empty (h : s.data = .empty shape) :
    s.point shape order cumulative = .error .emptySeries := by
  cases shape <;> simp only [point, scalarPoint, histogramPoint, summaryPoint, h, SeriesData.empty] <;> rfl

end Series

/-! ## Series -/

namespace Family

def uncreated (f : Family) (xs : List Sample) : List Sample := xs.filter fun x => !f.isCreated x

variable {f : Family}

theorem having_uncreated (key : SeriesKey) (xs : List Sample) :
    f.grouping.having key ((f.uncreated xs).filter f.accepts) =
      f.uncreated (f.grouping.having key (xs.filter f.accepts)) := by
  simp only [Grouping.having, uncreated, List.filter_filter]
  refine List.filter_congr fun x _ => ?_
  rw [Bool.and_comm (f.accepts x), Bool.and_left_comm]

namespace Tells

variable {history : List Sample} {s t : Series}

theorem held_uncreated (hs : f.Tells history s) (slot : Slot) :
    s.data.held slot =
      (lastWhere (fun x => f.feeds x slot) (f.uncreated history)).map fun x => slot.kept x.value := by
  rw [hs.held, uncreated, lastWhere_filter fun x hx => by rw [f.isCreated_of_feeds x hx, Bool.not_false]]

theorem data_uncreated (hs : f.Tells history s) (ht : f.Tells (f.uncreated history) t) : s.data = t.data :=
  hs.data.ext ht.data fun slot => (hs.held_uncreated slot).trans (ht.held slot).symm

/-- A series that is only said to be created holds nothing. -/
theorem data_of_uncreated_eq_nil (hs : f.Tells history s) (h : f.uncreated history = []) : s.data = .empty f.shape := by
  refine hs.data.ext (SeriesData.sound_empty f.shape) fun slot => ?_
  rw [hs.held_uncreated, h, SeriesData.held_empty]
  rfl

theorem header_uncreated (hs : f.Tells history s) (ht : f.Tells (f.uncreated history) t) {aligned : Prop}
    (h : aligned → history.Pairwise fun x y => x.timestamp = y.timestamp) (order other : LabelOrder) :
    (s.header order f.isCumulative).SameButTimes f.type aligned (t.header other f.isCumulative) := by
  -- `x` set the times of one series and `y` those of the other; `y` is in both histories
  obtain ⟨x, hx, hsx⟩ := Option.map_eq_some_iff.1 hs.timestamp
  obtain ⟨y, hy, hty⟩ := Option.map_eq_some_iff.1 ht.timestamp
  have hxmem : x ∈ history := List.mem_of_mem_head? hx
  have hyrest : y ∈ f.uncreated history := List.mem_of_mem_head? hy
  have hymem : y ∈ history := (List.mem_filter.1 hyrest).1
  have hlabels : s.labels = t.labels :=
    Label.eq_of_perm_of_ascending ((hs.labels y hymem).trans (ht.labels y hyrest).symm) hs.sorted ht.sorted
  have htime : aligned → nanosOfMillis s.timestamp = nanosOfMillis t.timestamp := fun ha => by
    rw [← hsx, ← hty, timestamp_eq_of_pairwise (h ha) hxmem hymem]
  refine ⟨?_, ?_, htime, fun ha hcounter hhistogram => ?_⟩
  · show (order.arrange s.labels).Perm (other.arrange t.labels)
    rw [hlabels]
    exact order.arrange_perm_arrange other _
  · show s.stale = t.stale
    rw [hs.stale, ht.stale, uncreated, List.any_filter]
    congr 1
    funext x
    cases f.isCreated x <;> simp
  · have hcumulative : f.isCumulative = false :=
      Bool.eq_false_iff.2 fun h => (MetricType.isCumulative_iff.1 h).elim hcounter hhistogram
    show s.startNanos f.isCumulative = t.startNanos f.isCumulative
    rw [hcumulative]
    exact htime ha

end Tells

/-- The series of a key comes to a point of the same values without its `_created` samples, or to none either way. -/
theorem rel_point_uncreated (xs : List Sample) (key : SeriesKey) {aligned : Prop}
    (h : aligned → (f.grouping.having key (xs.filter f.accepts)).Pairwise fun x y => x.timestamp = y.timestamp)
    (order other : LabelOrder) :
    Option.Rel (Point.Alike (PointHeader.SameButTimes f.type aligned))
      ((f.grouping.valueOf? (f.grouping.having key (xs.filter f.accepts))).bind fun s =>
        (s.point f.shape order f.isCumulative).toOption)
      ((f.grouping.valueOf? (f.grouping.having key ((f.uncreated xs).filter f.accepts))).bind fun t =>
        (t.point f.shape other f.isCumulative).toOption) := by
  cases hs : f.grouping.valueOf? (f.grouping.having key (xs.filter f.accepts)) with
  | none =>
    rw [having_uncreated, f.grouping.valueOf?_eq_none_iff.1 hs]
    exact .none
  | some s =>
    have hstells := tells_of_valueOf? hs
    cases ht : f.grouping.valueOf? (f.grouping.having key ((f.uncreated xs).filter f.accepts)) with
    | none =>
      -- only `_created` samples came, and the series is still empty
      rw [having_uncreated, f.grouping.valueOf?_eq_none_iff] at ht
      rw [Option.bind_some, Series.point_of_data_eq_empty (hstells.data_of_uncreated_eq_nil ht)]
      exact .none
    | some t =>
      have httells := tells_of_valueOf? ht
      rw [having_uncreated] at httells
      exact Series.rel_point (hstells.data_uncreated httells) (hstells.header_uncreated httells h order other)

/-! ## Families -/

section Run

variable (name : String) (store : MetadataStore) (settings : AssemblySettings) (xs : List Sample) {aligned : Prop}
  (h : aligned → (xs.filter (declared name store settings).accepts).Pairwise fun x y =>
    (declared name store settings).keyOf x = (declared name store settings).keyOf y → x.timestamp = y.timestamp)

include h

/-- The points of a run without `_created` samples are those of the run with them, but for their times. -/
theorem matched_points_uncreated :
    Matched (Point.Alike (PointHeader.SameButTimes (declared name store settings).type aligned))
      ((declared name store settings).extend xs).points.toList
      ((declared name store settings).extend ((declared name store settings).uncreated xs)).points.toList := by
  rw [toList_points, toList_points, series_extend_declared, series_extend_declared, (shape_extend _ _).1,
    (shape_extend _ _).1, (shape_extend _ _).2, (shape_extend _ _).2]
  refine (declared name store settings).grouping.matched_filterMap_run fun key => ?_
  refine rel_point_uncreated xs key (fun ha => ?_) _ _
  refine ((h ha).filter _).imp_of_mem fun {x y} hx hy hxy => hxy ?_
  have hxkey : (declared name store settings).keyOf x = key :=
    (declared name store settings).grouping.key_of_mem_having hx
  have hykey : (declared name store settings).keyOf y = key :=
    (declared name store settings).grouping.key_of_mem_having hy
  exact hxkey.trans hykey.symm

theorem rel_record?_uncreated :
    Option.Rel (Record.Alike fun type => PointHeader.SameButTimes type aligned)
      ((declared name store settings).extend xs).record?
      ((declared name store settings).extend ((declared name store settings).uncreated xs)).record? := by
  have hpoints := matched_points_uncreated name store settings xs h
  have hsize := hpoints.length_eq
  rw [length_toList, length_toList] at hsize
  obtain ⟨hname, hmetadata, -⟩ := (declared name store settings).extend_fixed xs
  obtain ⟨hname', hmetadata', -⟩ := (declared name store settings).extend_fixed
    ((declared name store settings).uncreated xs)
  unfold record? Points.isEmpty
  rw [← hsize]
  split
  · exact .none
  · refine .some ⟨hname.trans hname'.symm, ?_, ?_, ?_, ?_⟩
    · show ((declared name store settings).extend xs).metadata.type = _
      rw [hmetadata, ← hmetadata']
      rfl
    · show ((declared name store settings).extend xs).metadata.help = _
      rw [hmetadata, hmetadata']
    · show ((declared name store settings).extend xs).metadata.unit = _
      rw [hmetadata, hmetadata']
    · show Matched
        (Point.Alike (PointHeader.SameButTimes ((declared name store settings).extend xs).metadata.type _)) _ _
      rw [hmetadata]
      exact hpoints

end Run

end Family

/-! ## Cycles -/

namespace Cycle

def isCreated (store : MetadataStore) (x : Sample) : Bool := x.name == familyName store x.name ++ Suffix.created.text

section Run

variable (target : Target) (store : MetadataStore) (settings : AssemblySettings) (xs : List Sample)

theorem share_uncreated (name : String) :
    share store settings name (xs.filter fun x => !isCreated store x) =
      (Family.declared name store settings).uncreated (share store settings name xs) := by
  rw [share, share, Family.uncreated, List.filter_filter, List.filter_filter]
  refine List.filter_congr fun x _ => ?_
  by_cases hname : familyName store x.name = name
  · rw [isCreated, hname, Family.isCreated, Bool.and_comm]
    rfl
  · simp [beq_false_of_ne hname]

theorem filter_share (name : String) :
    (share store settings name xs).filter (Family.declared name store settings).accepts =
      ((start target store settings).accepted xs).filter fun x => familyName store x.name = name := by
  rw [filter_accepted, ← having_eq_share]
  rfl

/-- **`_created` samples move starts.** A run and the run without all `_created` samples have records for the same
families, and these have points for the same label sets, with the same values and stale marks. If all samples that
the first run took into one series have one time, so do the points of both runs, and no more than starts of counters
and histograms differ. -/
theorem created_moves_starts :
    Matched
      (Record.Alike fun type => PointHeader.SameButTimes type
        (((start target store settings).accepted xs).Pairwise fun x y =>
          SameSeries store settings x y → x.timestamp = y.timestamp))
      ((start target store settings).extend xs).records
      ((start target store settings).extend (xs.filter fun x => !isCreated store x)).records := by
  refine matched_records target store settings xs fun name => ?_
  rw [share_uncreated]
  refine Family.rel_record?_uncreated name store settings _ fun haligned => ?_
  rw [filter_share target]
  refine (haligned.filter _).imp_of_mem fun {x y} hx hy hxy hkey => ?_
  have hxname : familyName store x.name = name := by simpa using (List.mem_filter.1 hx).2
  have hyname : familyName store y.name = name := by simpa using (List.mem_filter.1 hy).2
  refine hxy ⟨hxname.trans hyname.symm, ?_⟩
  rw [familyOf, hxname]
  exact hkey

end Run

/-- A counter first seen by a `_created` sample that moves its start, a gauge by one that is stale, and a histogram
of which nothing else is known. -/
theorem records_of_uncreated_requests :
    let store : MetadataStore := fun name =>
      if name = "requests" then some ⟨.counter, "", ""⟩
      else if name = "load" then some ⟨.gauge, "", ""⟩
      else if name = "latency" then some ⟨.histogram, "", "s"⟩ else none
    let xs : List Sample :=
      [⟨"latency_created", [], 7, .ofNat 1, none⟩,
        ⟨"load_created", [⟨"zone", "a"⟩], 9, .staleMarker, none⟩,
        ⟨"requests_created", [⟨"zone", "a"⟩, ⟨"host", "b"⟩], 8, ⟨0x3ff8000000000000⟩, none⟩,
        ⟨"requests_total", [⟨"host", "b"⟩, ⟨"zone", "a"⟩], 8, .ofNat 5, none⟩,
        ⟨"load", [⟨"zone", "a"⟩], 9, .nan, none⟩]
    let run := fun ys => ((start ⟨"node", "host"⟩ store .default).extend ys).records
    (run xs).length = 2 ∧
    Matched (Record.Alike fun type => PointHeader.SameButTimes type True) (run xs)
      (run (xs.filter fun x => !isCreated store x)) := by
  intro store xs run
  have haligned : ((start ⟨"node", "host"⟩ store .default).accepted xs).Pairwise fun x y =>
      SameSeries store .default x y → x.timestamp = y.timestamp := by decide +kernel
  have hmatched := created_moves_starts ⟨"node", "host"⟩ store .default xs
  rw [eq_true haligned] at hmatched
  exact ⟨by decide +kernel, hmatched⟩

end Cycle

end Telemetry
