import Telemetry.Proofs.Conservation

/-!
# What the settings switch

`Family.Follows` says that a change of families goes with a change of the settings: it comes to the same whether the
family is changed before a sample is taken in or after. It is enough that this holds of each series and each sample
fed to it (`Family.Switches.follows`). A run under the new settings then is the changed run under the old ones, as
long as both let the same samples through (`Cycle.add_switched`).

One switch decides what is let through at all: to drop stale markers on arrival is the same as never to receive them
(`Cycle.dropping_is_never_receiving`). The other two change what is recorded, one the exemplars, one the starts, and
show in these alone (`Cycle.switches_are_orthogonal`).
-/

namespace Telemetry

/-- Whether a family can be changed along with the settings, before its samples come or after. -/
structure Family.Follows (change : Family → Family) (before after : AssemblySettings) : Prop where
  name : ∀ f, (change f).name = f.name
  declared : ∀ name store, change (.declared name store before) = .declared name store after
  ingest : ∀ f x, (change f).ingest x = (f.ingest x).map change

namespace Family

/-- The family under changed settings, with each of its series changed. -/
def switch (settings : AssemblySettings → AssemblySettings) (series : Series → Series) (f : Family) : Family :=
  { f with
    settings := settings f.settings
    series := f.series.map series }

/-- Whether series can be changed along with the settings, before they are fed or after. What identifies a series
must not change, and a sample must be fit for one of them when it is for the other. -/
structure Switches (settings : AssemblySettings → AssemblySettings) (series : Series → Series) : Prop where
  nameLabel : ∀ a, (settings a).nameLabel = a.nameLabel
  key : ∀ s, (series s).key = s.key
  labels : ∀ s, (series s).labels = s.labels
  start : ∀ shape identity timestamp, series (.start shape identity timestamp) = .start shape identity timestamp
  feed : ∀ (f : Family) (x : Sample), ((f.switch settings series).partOf x).map
      (fun part s => (f.switch settings series).feed x part (series s)) =
    (f.partOf x).map fun part s => series (f.feed x part s)

namespace Switches

variable {settings : AssemblySettings → AssemblySettings} {series : Series → Series} (h : Switches settings series)

include h

theorem openSeries (f : Family) (identity : Identity) (x : Sample) :
    (f.switch settings series).openSeries identity x = (f.openSeries identity x).map (switch settings series) := by
  have hfind : (f.switch settings series).find? identity.key = (f.find? identity.key).map series := by
    unfold find? switch
    rw [List.find?_map]
    simp only [Function.comp_def, h.key]
  unfold Family.openSeries
  rw [hfind]
  cases f.find? identity.key with
  | none =>
    simp only [Option.map_none, Except.map, switch, h.nameLabel, List.map_append, List.map_singleton, h.start]
    rfl
  | some s =>
    simp only [Option.map_some, h.labels]
    split <;> rfl

theorem map_feed {part part' : Option Part} {f : Family} {x : Sample} (key : SeriesKey)
    (hfeed : ∀ s, (f.switch settings series).feed x part' (series s) = series (f.feed x part s)) (ss : List Series) :
    ((ss.map series).map fun s => if s.key = key then (f.switch settings series).feed x part' s else s) =
      (ss.map fun s => if s.key = key then f.feed x part s else s).map series := by
  rw [List.map_map, List.map_map]
  refine List.map_congr_left fun s _ => ?_
  simp only [Function.comp_apply, h.key]
  split
  · exact hfeed s
  · rfl

theorem follows (before : AssemblySettings) : Follows (switch settings series) before (settings before) where
  name _ := rfl
  declared _ _ := rfl
  ingest f x := by
    have hidentify : (f.switch settings series).identify x.labels = f.identify x.labels := by
      show Identity.ofLabels (settings f.settings).nameLabel _ _ = _
      rw [h.nameLabel]
      rfl
    have hfeed := h.feed f x
    unfold ingest
    rw [hidentify]
    cases f.identify x.labels with
    | error reason => rfl
    | ok identity =>
      cases hpart : f.partOf x with
      | error reason =>
        cases hpart' : (f.switch settings series).partOf x with
        | error other =>
          rw [hpart, hpart'] at hfeed
          cases hfeed
          rfl
        | ok part' =>
          rw [hpart, hpart'] at hfeed
          cases hfeed
      | ok part =>
        cases hpart' : (f.switch settings series).partOf x with
        | error other =>
          rw [hpart, hpart'] at hfeed
          cases hfeed
        | ok part' =>
          rw [hpart, hpart'] at hfeed
          have hone := congrFun (Except.ok.inj hfeed)
          simp only [bind, Except.bind, h.openSeries]
          cases f.openSeries identity x with
          | error reason => rfl
          | ok opened =>
            have hmap := h.map_feed identity.key hone opened.series
            exact congrArg (fun ss => Except.ok { opened.switch settings series with series := ss }) hmap

end Switches

end Family

/-! ## Cycles -/

namespace Cycle

/-- The cycle with its families changed, under these settings, and with this many more samples dropped. -/
def switched (c : Cycle) (change : Family → Family) (settings : AssemblySettings) (dropped : Nat) : Cycle :=
  { c with
    settings
    families := c.families.map change
    stats := { c.stats with droppedStale := c.stats.droppedStale + dropped } }

section Switched

variable {change : Family → Family} {before after : AssemblySettings} (h : Family.Follows change before after)
variable {c : Cycle} (hc : c.settings = before) (dropped : Nat)

include h

theorem family?_switched (c : Cycle) (name : String) :
    (c.switched change after dropped).family? name = (c.family? name).map change := by
  unfold family? switched
  rw [List.find?_map]
  simp only [Function.comp_def, h.name]

include hc in
theorem openFamily_switched (name : String) : (c.switched change after dropped).openFamily name =
    ((c.openFamily name).1.switched change after dropped, change (c.openFamily name).2) := by
  unfold openFamily
  rw [family?_switched h]
  cases c.family? name with
  | some f => rfl
  | none =>
    have hfamily : change (.declared name c.metadata c.settings) = .declared name c.metadata after :=
      hc ▸ h.declared name c.metadata
    simp only [Option.map_none, switched, List.map_append, List.map_singleton, hfamily]
    rfl

theorem deliver_switched (c : Cycle) (f : Family) (x : Sample) :
    (c.switched change after dropped).deliver (change f) x =
    ((c.deliver f x).1.switched change after dropped, (c.deliver f x).2) := by
  unfold deliver
  rw [h.ingest]
  cases f.ingest x with
  | error reason => rfl
  | ok g =>
    have hreplace : (c.families.map change).map (fun k => if k.name = (change g).name then change g else k) =
        (c.families.map fun k => if k.name = g.name then g else k).map change := by
      rw [List.map_map, List.map_map]
      refine List.map_congr_left fun k _ => ?_
      simp only [Function.comp_apply, h.name]
      split <;> rfl
    simp only [Except.map, replaceFamily, switched, hreplace]

include hc in
/-- A sample that is let through both before and after the switch, or neither time, gets the same answer and leaves the
same cycle, switched. -/
theorem add_switched {x : Sample} (hx : reaches before x = reaches after x) : (c.switched change after dropped).add x =
    ((c.add x).1.switched change after dropped, (c.add x).2) := by
  rw [add_eq, add_eq]
  change (if reaches after x then
    ((c.switched change after dropped).openFamily (familyName c.metadata x.name)).1.deliver
      ((c.switched change after dropped).openFamily (familyName c.metadata x.name)).2 x
    else _) = _
  rw [hc, hx]
  cases reaches after x with
  | false => simp [switched, Nat.add_right_comm]
  | true =>
    rw [if_pos rfl, if_pos rfl, openFamily_switched h hc]
    exact deliver_switched h dropped _ _ x

end Switched

end Cycle

/-! ## Stale markers -/

namespace AssemblySettings

def keepingStale (settings : AssemblySettings) (keep : Bool) : AssemblySettings := { settings with keepStale := keep }

end AssemblySettings

namespace Family

def keepingStale (keep : Bool) (f : Family) : Family := { f with settings := f.settings.keepingStale keep }

theorem keepingStale_eq (keep : Bool) : keepingStale keep = switch (·.keepingStale keep) id := by
  funext f
  simp [keepingStale, switch]

theorem follows_keepingStale (settings : AssemblySettings) (keep : Bool) :
    Follows (keepingStale keep) settings (settings.keepingStale keep) := by
  rw [keepingStale_eq]
  have hswitches : Switches (·.keepingStale keep) id :=
    { nameLabel := fun _ => rfl
      key := fun _ => rfl
      labels := fun _ => rfl
      start := fun _ _ _ => rfl
      feed := fun f x => by
        have hpart : (f.switch (·.keepingStale keep) id).partOf x = f.partOf x := rfl
        rw [hpart]
        rfl }
  exact hswitches.follows settings

theorem record?_keepingStale (keep : Bool) (f : Family) : (f.keepingStale keep).record? = f.record? := rfl

end Family

namespace Cycle

/-- A run that drops stale markers is one that keeps them and never receives any, but for the count of what was
dropped. -/
theorem extend_dropping (target : Target) (store : MetadataStore) (settings : AssemblySettings) (xs : List Sample) :
    (start target store (settings.keepingStale false)).extend xs =
    ((start target store (settings.keepingStale true)).extend (xs.filter fun x => !x.value.isStale)).switched
      (Family.keepingStale false) (settings.keepingStale false) (xs.countP fun x => x.value.isStale) := by
  induction xs using List.reverseRecOn with
  | nil => rfl
  | append_singleton xs x ih =>
    rw [extend_append, ih, List.filter_append, List.countP_append]
    cases hx : x.value.isStale with
    | true =>
      rw [add_eq]
      simp [hx, switched, reaches, AssemblySettings.keepingStale, Nat.add_assoc]
    | false =>
      obtain ⟨-, hsettings⟩ := extend_fixed target store (settings.keepingStale true)
        (xs.filter fun x => !x.value.isStale)
      have hfollows : Family.Follows (Family.keepingStale false) (settings.keepingStale true)
          (settings.keepingStale false) :=
        Family.follows_keepingStale _ false
      have hreach : reaches (settings.keepingStale true) x = reaches (settings.keepingStale false) x := by
        simp [reaches, hx]
      rw [add_switched hfollows hsettings _ hreach]
      simp [hx, extend_append]

/-- **To drop stale markers is never to receive them.** A run that drops them on arrival comes to the families, records,
log, and counts of the run that keeps them and is fed without them, but for the count of the dropped ones, which are all
samples with the bits of the marker; and none of its points is marked as stale. -/
theorem dropping_is_never_receiving (target : Target) (store : MetadataStore) (settings : AssemblySettings)
    (xs : List Sample) :
    let dropping := (start target store { settings with keepStale := false }).extend xs
    let keeping := (start target store { settings with keepStale := true }).extend
      (xs.filter fun x => !x.value.isStale)
    dropping.families = keeping.families.map (fun f => { f with settings := { f.settings with keepStale := false } }) ∧
    dropping.records = keeping.records ∧
    dropping.log = keeping.log ∧
    dropping.stats.accepted = keeping.stats.accepted ∧
    dropping.stats.rejected = keeping.stats.rejected ∧
    dropping.stats.droppedStale = xs.countP (fun x => x.value.isStale) ∧
    ∀ r ∈ dropping.records, ∀ p ∈ r.points.headers, p.stale = false := by
  intro dropping keeping
  have hstate : dropping = keeping.switched (Family.keepingStale false) (settings.keepingStale false)
      (xs.countP fun x => x.value.isStale) := extend_dropping target store settings xs
  have hnone : keeping.stats.droppedStale = 0 := by
    rw [stats_extend]
    exact List.countP_eq_zero.2 fun x _ => by simp [reaches]
  refine ⟨congrArg families hstate, ?_, ?_, ?_, ?_, ?_, fun r hr p hp => ?_⟩
  · rw [hstate]
    change (keeping.families.map (Family.keepingStale false)).filterMap Family.record? = _
    rw [List.filterMap_map]
    exact List.filterMap_congr fun f _ => Family.record?_keepingStale false f
  · rw [hstate]
    rfl
  · rw [hstate]
    rfl
  · rw [hstate]
    rfl
  · rw [hstate]
    simp [switched, hnone]
  · obtain ⟨f, hf, s, hs, -, rfl⟩ := header_of_mem_records _ _ _ _ hr hp
    change s.stale = false
    rw [(tells_of_mem_families hf hs).stale, List.any_eq_false]
    intro x hx
    have hmem := (List.mem_filter.1 (List.mem_filter.1 hx).1).1
    rw [accepted_start, List.mem_filter] at hmem
    simp_all [reaches]

end Cycle

/-! ## Exemplars and starts -/

namespace Points

def map (scalars : ScalarPoint → ScalarPoint) (histograms : HistogramPoint → HistogramPoint)
    (summaries : SummaryPoint → SummaryPoint) : Points → Points
  | scalar points => scalar (points.map scalars)
  | histogram points => histogram (points.map histograms)
  | summary points => summary (points.map summaries)

def withoutExemplars (points : Points) : Points :=
  points.map (fun p => { p with exemplars := [] }) (fun p => { p with exemplars := [] }) id

/-- The points with no start told. -/
def withoutStarts (points : Points) : Points :=
  points.map (fun p => { p with start := 0 }) (fun p => { p with start := 0 }) (fun p => { p with start := 0 })

theorem map_id (points : Points) : points.map id id id = points := by
  cases points <;> simp [map]

@[simp] theorem isEmpty_map {scalars : ScalarPoint → ScalarPoint} {histograms : HistogramPoint → HistogramPoint}
    {summaries : SummaryPoint → SummaryPoint} (points : Points) :
    (points.map scalars histograms summaries).isEmpty = points.isEmpty := by
  cases points <;> simp [map, isEmpty, size]

theorem exemplars_withoutExemplars (points : Points) : points.withoutExemplars.exemplars = [] := by
  cases points <;> simp [withoutExemplars, map, exemplars]

theorem withoutExemplars_withoutExemplars (points : Points) :
    points.withoutExemplars.withoutExemplars = points.withoutExemplars := by
  cases points <;> simp [withoutExemplars, map]

end Points

namespace Record

def withoutExemplars (r : Record) : Record := { r with points := r.points.withoutExemplars }

/-- The record without the starts of its points, if it is that of a counter or of a histogram. -/
def withoutStarts (r : Record) : Record :=
  if r.type = .counter ∨ r.type = .histogram then { r with points := r.points.withoutStarts } else r

end Record

namespace AssemblySettings

def recordingExemplars (record : Bool) (settings : AssemblySettings) : AssemblySettings :=
  { settings with exemplars := record }

def honoringCreated (honor : Bool) (settings : AssemblySettings) : AssemblySettings :=
  { settings with honorCreated := honor }

end AssemblySettings

def PointHeader.startedAt (start : UInt64) (h : PointHeader) : PointHeader := { h with start }

namespace Series

def withoutExemplars (s : Series) : Series := { s with exemplars := [] }

theorem data_withoutExemplars (s : Series) : s.withoutExemplars.data = s.data := rfl

theorem header_withoutExemplars (s : Series) (order : LabelOrder) (cumulative : Bool) :
    s.withoutExemplars.header order cumulative = id (s.header order cumulative) := rfl

def withoutCreated (s : Series) : Series := { s with created := none }

theorem data_withoutCreated (s : Series) : s.withoutCreated.data = s.data := rfl

theorem header_withoutCreated (s : Series) (order : LabelOrder) (cumulative : Bool) :
    s.withoutCreated.header order cumulative =
      (s.header order cumulative).startedAt (s.withoutCreated.startNanos cumulative) := rfl

/-- A point that does not accumulate starts with its sample, whatever start was told. -/
theorem header_withoutCreated_of_current (s : Series) (order : LabelOrder) :
    s.withoutCreated.header order false = id (s.header order false) := by
  simp [header, startNanos, withoutCreated]

end Series

namespace Family

/-! ### What is taken in -/

/-- No answer and no key shows whether exemplars are recorded. -/
theorem switches_exemplars : Switches (AssemblySettings.recordingExemplars false) Series.withoutExemplars where
  nameLabel _ := rfl
  key _ := rfl
  labels _ := rfl
  start _ _ _ := rfl
  feed f x := by
    let g := f.switch (AssemblySettings.recordingExemplars false) Series.withoutExemplars
    have hpart : g.partOf x = f.partOf x := rfl
    have hnone : g.exemplarOf? x = none := by simp [g, exemplarOf?, switch, AssemblySettings.recordingExemplars]
    show (g.partOf x).map _ = _
    rw [hpart]
    cases f.partOf x with
    | error reason => rfl
    | ok part =>
      refine congrArg Except.ok (funext fun s => ?_)
      show g.feed x part s.withoutExemplars = (f.feed x part s).withoutExemplars
      rw [feed_eq, feed_eq, hnone]
      cases part <;> simp [Series.withoutExemplars, Series.record_eq]

/-- Nor does whether starts are honoured: a `_created` sample is answered alike, and whether it comes or not shows
in the start only. -/
theorem switches_created : Switches (AssemblySettings.honoringCreated false) Series.withoutCreated where
  nameLabel _ := rfl
  key _ := rfl
  labels _ := rfl
  start _ _ _ := rfl
  feed f x := by
    let g := f.switch (AssemblySettings.honoringCreated false) Series.withoutCreated
    have hexemplar : g.exemplarOf? x = f.exemplarOf? x := rfl
    show (g.partOf x).map _ = _
    cases hc : f.isCreated x with
    | true =>
      have hnone : g.partOf x = .ok none := g.partOf_of_isCreated x hc
      have htold : f.partOf x = .ok (if f.tellsStart x then some (.created (startOf x.value)) else none) := by
        have hpart := f.partOf_of_isCreated x hc
        rcases created_or_data hpart with ⟨-, heq⟩ | ⟨hnot, -⟩
        · rw [hpart, heq]
        · rw [hc] at hnot
          cases hnot
      rw [hnone, htold]
      refine congrArg Except.ok (funext fun s => ?_)
      show g.feed x none s.withoutCreated = (f.feed x _ s).withoutCreated
      rw [feed_eq, feed_eq, hexemplar]
      cases htells : f.tellsStart x with
      | true => simp [Series.withoutCreated, Series.record_eq, not_isStale_of_tellsStart htells]
      | false => rfl
    | false =>
      have hpart : g.partOf x = f.partOf x := by
        have hnot : Suffix.behind? f.name x.name ≠ some .created := by simp [suffix_eq_created_iff, hc]
        show (if Suffix.behind? f.name x.name = some .created then _ else _) = _
        rw [if_neg hnot, partOf, if_neg hnot]
        rfl
      rw [hpart]
      cases hp : f.partOf x with
      | error reason => rfl
      | ok part =>
        obtain ⟨p, rfl, hdata⟩ : ∃ p, part = some p ∧ ∀ start, p ≠ .created start := by
          simpa [hc] using created_or_data hp
        refine congrArg Except.ok (funext fun s => ?_)
        show g.feed x (some p) s.withoutCreated = (f.feed x (some p) s).withoutCreated
        rw [feed_eq, feed_eq, hexemplar]
        cases p with
        | created start => exact absurd rfl (hdata start)
        | value | count | sum | boundary => rfl

/-! ### What is exported -/

section Points

variable {series : Series → Series} (f : Family) (settings : AssemblySettings → AssemblySettings)

theorem map_collect_switch {P Q : Type} {build : Series → LabelOrder → Bool → Except PointFailure P}
    {read other : P → Q}
    (h : ∀ s, (build (series s) f.labelOrder f.isCumulative).map read =
      (build s f.labelOrder f.isCumulative).map other) :
    ((f.switch settings series).collect build).map read = (f.collect build).map other := by
  rw [map_collect, map_collect]
  show (f.series.map series).filterMap _ = _
  rw [List.filterMap_map]
  refine List.filterMap_congr fun s _ => ?_
  exact congrArg Except.toOption (h s)

theorem map_points_switch {scalars scalars' : ScalarPoint → ScalarPoint}
    {histograms histograms' : HistogramPoint → HistogramPoint} {summaries summaries' : SummaryPoint → SummaryPoint}
    (hscalar : ∀ s, ((series s).scalarPoint f.labelOrder f.isCumulative).map scalars =
      (s.scalarPoint f.labelOrder f.isCumulative).map scalars')
    (hhistogram : ∀ s, ((series s).histogramPoint f.labelOrder f.isCumulative).map histograms =
      (s.histogramPoint f.labelOrder f.isCumulative).map histograms')
    (hsummary : ∀ s, ((series s).summaryPoint f.labelOrder f.isCumulative).map summaries =
      (s.summaryPoint f.labelOrder f.isCumulative).map summaries') :
    (f.switch settings series).points.map scalars histograms summaries =
      f.points.map scalars' histograms' summaries' := by
  have hshape : (f.switch settings series).shape = f.shape := rfl
  unfold points
  rw [hshape]
  cases f.shape with
  | scalar => exact congrArg Points.scalar (f.map_collect_switch settings hscalar)
  | histogram => exact congrArg Points.histogram (f.map_collect_switch settings hhistogram)
  | summary => exact congrArg Points.summary (f.map_collect_switch settings hsummary)

theorem points_switch_exemplars :
    (f.switch settings Series.withoutExemplars).points = f.points.withoutExemplars := by
  rw [← Points.map_id (f.switch settings Series.withoutExemplars).points]
  refine f.map_points_switch settings (fun s => ?_) (fun s => ?_) fun s => ?_
  · rw [Except.map_id]
    exact Series.scalarPoint_of_data id s.data_withoutExemplars (s.header_withoutExemplars _ _) (fun _ => []) rfl
  · rw [Except.map_id]
    exact Series.histogramPoint_of_data id s.data_withoutExemplars (s.header_withoutExemplars _ _) (fun _ => [])
      fun _ => rfl
  · rfl

theorem withoutStarts_points_switch :
    (f.switch settings Series.withoutCreated).points.withoutStarts = f.points.withoutStarts := by
  refine f.map_points_switch settings (fun s => ?_) (fun s => ?_) fun s => ?_
  · rw [Series.scalarPoint_of_data (PointHeader.startedAt _) s.data_withoutCreated (s.header_withoutCreated _ _) id rfl]
    cases s.scalarPoint f.labelOrder f.isCumulative <;> rfl
  · rw [Series.histogramPoint_of_data (PointHeader.startedAt _) s.data_withoutCreated (s.header_withoutCreated _ _) id
      fun _ => rfl]
    cases s.histogramPoint f.labelOrder f.isCumulative <;> rfl
  · rw [Series.summaryPoint_of_data (PointHeader.startedAt _) s.data_withoutCreated (s.header_withoutCreated _ _)]
    cases s.summaryPoint f.labelOrder f.isCumulative <;> rfl

variable {f} in
theorem points_switch_created (h : f.isCumulative = false) :
    (f.switch settings Series.withoutCreated).points = f.points := by
  have hheader : ∀ s : Series, s.withoutCreated.header f.labelOrder f.isCumulative =
      id (s.header f.labelOrder f.isCumulative) := fun s => by
    rw [h]
    exact s.header_withoutCreated_of_current _
  rw [← Points.map_id (f.switch settings Series.withoutCreated).points, ← Points.map_id f.points]
  refine f.map_points_switch settings (fun s => ?_) (fun s => ?_) fun s => ?_
  · rw [Series.scalarPoint_of_data id s.data_withoutCreated (hheader s) id rfl]
    cases s.scalarPoint f.labelOrder f.isCumulative <;> rfl
  · rw [Series.histogramPoint_of_data id s.data_withoutCreated (hheader s) id fun _ => rfl]
    cases s.histogramPoint f.labelOrder f.isCumulative <;> rfl
  · rw [Series.summaryPoint_of_data id s.data_withoutCreated (hheader s)]
    cases s.summaryPoint f.labelOrder f.isCumulative <;> rfl

theorem record?_switch_exemplars :
    (f.switch settings Series.withoutExemplars).record? = f.record?.map Record.withoutExemplars := by
  unfold record?
  rw [points_switch_exemplars, Points.withoutExemplars, Points.isEmpty_map]
  cases f.points.isEmpty <;> rfl

theorem record?_switch_created :
    (f.switch settings Series.withoutCreated).record?.map Record.withoutStarts =
      f.record?.map Record.withoutStarts := by
  have herased := f.withoutStarts_points_switch settings
  have hempty : (f.switch settings Series.withoutCreated).points.isEmpty = f.points.isEmpty := by
    have hisEmpty := congrArg Points.isEmpty herased
    rwa [Points.withoutStarts, Points.withoutStarts, Points.isEmpty_map, Points.isEmpty_map] at hisEmpty
  have htype : (f.switch settings Series.withoutCreated).type = f.type := rfl
  unfold record?
  rw [hempty]
  cases f.points.isEmpty with
  | true => rfl
  | false =>
    refine congrArg some ?_
    unfold Record.withoutStarts
    rw [htype]
    by_cases haccumulates : f.type = .counter ∨ f.type = .histogram
    · rw [if_pos haccumulates, if_pos haccumulates, herased]
      rfl
    · have hcumulative : f.isCumulative = false :=
        Bool.eq_false_iff.2 fun h => haccumulates (MetricType.isCumulative_iff.1 h)
      rw [if_neg haccumulates, if_neg haccumulates, points_switch_created settings hcumulative]
      rfl

end Points

end Family

/-! ### Runs -/

namespace Cycle

/-- Whether two cycles answer every sample of a run alike, count alike, and come to the same records but for what
`erase` takes away. -/
structure AgreeBut (erase : Record → Record) (c d : Cycle) (xs : List Sample) : Prop where
  answers : c.answers xs = d.answers xs
  stats : (c.extend xs).stats = (d.extend xs).stats
  records : (c.extend xs).records.map erase = (d.extend xs).records.map erase

section Run

variable {change : Family → Family} {before after : AssemblySettings} (h : Family.Follows change before after)
  (hkeep : after.keepStale = before.keepStale)
  (target : Target) (store : MetadataStore) (xs : List Sample)

include h hkeep

theorem extend_switched : (start target store after).extend xs =
    ((start target store before).extend xs).switched change after 0 := by
  induction xs using List.reverseRecOn with
  | nil => rfl
  | append_singleton xs x ih =>
    have hreach : reaches before x = reaches after x := by simp [reaches, hkeep]
    obtain ⟨-, hsettings⟩ := extend_fixed target store before xs
    rw [extend_append, extend_append, ih, add_switched h hsettings 0 hreach]

theorem answers_switched : (start target store after).answers xs = (start target store before).answers xs := by
  induction xs using List.reverseRecOn with
  | nil => rfl
  | append_singleton xs x ih =>
    have hreach : reaches before x = reaches after x := by simp [reaches, hkeep]
    obtain ⟨-, hsettings⟩ := extend_fixed target store before xs
    rw [answers_append, answers_append, ih, extend_switched h hkeep, add_switched h hsettings 0 hreach]

/-- A switch that changes no record but in what `erase` takes away changes no run in more. -/
theorem agreeBut_switched {erase : Record → Record}
    (hrecord : ∀ f : Family, (change f).record?.map erase = f.record?.map erase) :
    AgreeBut erase (start target store before) (start target store after) xs where
  answers := (answers_switched h hkeep target store xs).symm
  stats := by
    rw [extend_switched h hkeep]
    rfl
  records := by
    rw [extend_switched h hkeep]
    show _ = ((((start target store before).extend xs).families.map change).filterMap Family.record?).map erase
    rw [records, List.map_filterMap, List.map_filterMap, List.filterMap_map]
    exact List.filterMap_congr fun f _ => (hrecord f).symm

end Run

/-- **The switches do not get in each other's way.** Whether exemplars are recorded shows in no answer, in no count,
and in the records in their exemplars only, of which there are none if they are not recorded. Whether `_created`
samples are honoured shows in no answer, in no count, and in the records in the starts of counters and histograms
only. -/
theorem switches_are_orthogonal (target : Target) (store : MetadataStore) (settings : AssemblySettings)
    (xs : List Sample) :
    AgreeBut Record.withoutExemplars (start target store { settings with exemplars := true })
      (start target store { settings with exemplars := false }) xs ∧
    (∀ r ∈ ((start target store { settings with exemplars := false }).extend xs).records, r.points.exemplars = []) ∧
    AgreeBut Record.withoutStarts (start target store { settings with honorCreated := true })
      (start target store { settings with honorCreated := false }) xs := by
  refine ⟨?_, ?_, ?_⟩
  · have hfollows := Family.switches_exemplars.follows { settings with exemplars := true }
    refine agreeBut_switched hfollows rfl target store xs fun f => ?_
    rw [Family.record?_switch_exemplars, Option.map_map]
    congr 1
    funext r
    exact congrArg (fun points => { r with points }) r.points.withoutExemplars_withoutExemplars
  · intro r hr
    have hfollows := Family.switches_exemplars.follows { settings with exemplars := true }
    have hrun : (start target store { settings with exemplars := false }).extend xs = _ :=
      extend_switched hfollows rfl target store xs
    rw [hrun] at hr
    obtain ⟨f, hf, hrecord⟩ := List.mem_filterMap.1 hr
    obtain ⟨g, -, rfl⟩ := List.mem_map.1 hf
    rw [Family.record?_switch_exemplars] at hrecord
    obtain ⟨q, -, rfl⟩ := Option.map_eq_some_iff.1 hrecord
    exact q.points.exemplars_withoutExemplars
  · have hfollows := Family.switches_created.follows { settings with honorCreated := true }
    exact agreeBut_switched hfollows rfl target store xs fun f => f.record?_switch_created _

end Cycle

end Telemetry
