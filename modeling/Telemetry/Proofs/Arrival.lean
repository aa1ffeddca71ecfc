import Telemetry.Proofs.Acceptance
import Telemetry.Proofs.History
import Telemetry.Proofs.Matching
import Telemetry.Proofs.Records

/-!
# Order of arrival

Where the samples of a series have one time and feed different slots, the order in which they come shows in no more than
the order of labels, exemplars, points and records (`Cycle.records_of_perm`). The state of a series is a reading of its
history, and of the last sample to feed a slot it does not matter which one that is if there is only one.
-/

namespace Telemetry

/-! ## Series -/

/-- Whether two series are one but for the order of their exemplars. -/
structure Series.Same (s t : Series) : Prop where
  labels : s.labels = t.labels
  timestamp : s.timestamp = t.timestamp
  firstSeen : s.firstSeen = t.firstSeen
  created : s.created = t.created
  stale : s.stale = t.stale
  exemplars : s.exemplars.Perm t.exemplars
  data : s.data = t.data

namespace Family

variable {f : Family}

/-- Whether either of two samples of a series may come first: they have one time, feed different slots, and do not both
tell the start. -/
structure Compatible (f : Family) (x y : Sample) : Prop where
  timestamp : x.timestamp = y.timestamp
  slots : ∀ slot, ¬ (f.feeds x slot = true ∧ f.feeds y slot = true)
  start : ¬ (f.tellsStart x = true ∧ f.tellsStart y = true)

theorem compatible_iff {x y : Sample} : f.Compatible x y ↔
    x.timestamp = y.timestamp ∧
    (∀ slot ∈ [Slot.value, .count, .sum], ¬ (f.feeds x slot = true ∧ f.feeds y slot = true)) ∧
    (∀ b ∈ f.boundOf? x, ¬ (f.feeds x (.boundary b) = true ∧ f.feeds y (.boundary b) = true)) ∧
    ¬ (f.tellsStart x = true ∧ f.tellsStart y = true) := by
  constructor
  · exact fun h => ⟨h.timestamp, fun slot _ => h.slots slot, fun b _ => h.slots (.boundary b), h.start⟩
  · rintro ⟨htime, hplain, hbound, hstart⟩
    refine ⟨htime, fun slot => ?_, hstart⟩
    cases slot with
    | value | count | sum => exact hplain _ (by simp)
    | boundary c =>
      rintro ⟨hx, hy⟩
      simp only [feeds, Bool.and_eq_true, Option.any_eq_true] at hx hy hbound
      obtain ⟨hxname, b, hb, hbc⟩ := hx
      obtain ⟨hyname, d, hd, hdc⟩ := hy
      have hbb : b.sameNumber b := Binary64.sameNumber_trans hbc (Binary64.sameNumber_symm hbc)
      have hdb : d.sameNumber b := Binary64.sameNumber_trans hdc (Binary64.sameNumber_symm hbc)
      exact hbound b hb ⟨⟨hxname, b, hb, hbb⟩, hyname, d, hd, hdb⟩

instance (x y : Sample) : Decidable (f.Compatible x y) := decidable_of_iff' _ compatible_iff

theorem timestamp_eq_of_pairwise {history : List Sample} (h : history.Pairwise fun x y => x.timestamp = y.timestamp)
    {x y : Sample} (hx : x ∈ history) (hy : y ∈ history) : x.timestamp = y.timestamp := by
  have hsymm : Std.Symm fun x y : Sample => x.timestamp = y.timestamp := ⟨fun _ _ hxy => hxy.symm⟩
  by_cases hxy : x = y
  · rw [hxy]
  · exact h.forall hx hy hxy

/-- **A series tells its history in whatever order it came**, if the samples are compatible. -/
theorem Tells.same {history other : List Sample} {s t : Series} (hs : f.Tells history s) (ht : f.Tells other t)
    (hperm : history.Perm other) (hc : history.Pairwise f.Compatible) : s.Same t := by
  obtain ⟨x, hx⟩ : ∃ x, x ∈ history := by
    cases history with
    | nil => cases hs.timestamp
    | cons x rest => exact ⟨x, List.mem_cons_self⟩
  -- another sample may come first, but they all have the time of `x`
  have htime : ∀ {history' : List Sample} {time : Int}, (∀ y ∈ history', y ∈ history) →
      history'.head?.map Sample.timestamp = some time → time = x.timestamp := by
    intro history' time hsub hhead
    obtain ⟨y, hy, rfl⟩ := Option.map_eq_some_iff.1 hhead
    exact timestamp_eq_of_pairwise (hc.imp fun hxy => hxy.timestamp) (hsub y (List.mem_of_mem_head? hy)) hx
  have hself : ∀ y ∈ history, y ∈ history := fun _ hy => hy
  have hback : ∀ y ∈ other, y ∈ history := fun y hy => hperm.mem_iff.2 hy
  have hheld : ∀ slot, s.data.held slot = t.data.held slot := fun slot => by
    rw [hs.held, ht.held, lastWhere_perm hperm (hc.imp fun hxy => hxy.slots slot)]
  exact
    { labels := Label.eq_of_perm_of_ascending ((hs.labels x hx).trans (ht.labels x (hperm.mem_iff.1 hx)).symm)
        hs.sorted ht.sorted
      timestamp := (htime hself hs.timestamp).trans (htime hback ht.timestamp).symm
      firstSeen := (htime hself hs.firstSeen).trans (htime hback ht.firstSeen).symm
      created := by rw [hs.created, ht.created, lastWhere_perm hperm (hc.imp fun hxy => hxy.start)]
      stale := by rw [hs.stale, ht.stale, hperm.any_eq]
      exemplars := by
        rw [hs.exemplars, ht.exemplars]
        exact hperm.filterMap _
      data := hs.data.ext ht.data hheld }

theorem matched_series {xs ys : List Sample} (h : xs.Perm ys)
    (hc : (xs.filter f.accepts).Pairwise fun x y => f.keyOf x = f.keyOf y → f.Compatible x y) :
    Matched Series.Same (f.grouping.run (xs.filter f.accepts)) (f.grouping.run (ys.filter f.accepts)) := by
  refine f.grouping.matched_run (h.filter _) fun s hs t ht hkey => ?_
  have hkey : s.key = t.key := hkey
  refine (tells_of_mem hs).same (tells_of_mem ht) ?_ ?_
  · rw [hkey]
    exact (h.filter _).filter _
  · refine (hc.filter _).imp_of_mem fun {x y} hx hy hxy => hxy ?_
    have hxk : f.keyOf x = s.key := by simpa using (List.mem_filter.1 hx).2
    have hyk : f.keyOf y = s.key := by simpa using (List.mem_filter.1 hy).2
    exact hxk.trans hyk.symm

end Family

/-! ## Points -/

structure PointHeader.Same (p q : PointHeader) : Prop where
  labels : p.labels.Perm q.labels
  start : p.start = q.start
  time : p.time = q.time
  stale : p.stale = q.stale

structure ScalarPoint.Same (p q : ScalarPoint) : Prop where
  header : p.toPointHeader.Same q.toPointHeader
  value : p.value = q.value
  exemplars : p.exemplars.Perm q.exemplars

structure HistogramPoint.Same (p q : HistogramPoint) : Prop where
  header : p.toPointHeader.Same q.toPointHeader
  count : p.count = q.count
  sum : p.sum = q.sum
  bucketCounts : p.bucketCounts = q.bucketCounts
  explicitBounds : p.explicitBounds = q.explicitBounds
  exemplars : p.exemplars.Perm q.exemplars

structure SummaryPoint.Same (p q : SummaryPoint) : Prop where
  header : p.toPointHeader.Same q.toPointHeader
  count : p.count = q.count
  sum : p.sum = q.sum
  quantiles : p.quantiles = q.quantiles

/-- Whether points are of one kind and correspond one to one. -/
def Points.Same : Points → Points → Prop
  | scalar ps, scalar qs => Matched ScalarPoint.Same ps qs
  | histogram ps, histogram qs => Matched HistogramPoint.Same ps qs
  | summary ps, summary qs => Matched SummaryPoint.Same ps qs
  | _, _ => False

/-- Whether two records are one but for the order of points, labels and exemplars. -/
structure Record.Same (r q : Record) : Prop where
  name : r.name = q.name
  type : r.type = q.type
  help : r.help = q.help
  unit : r.unit = q.unit
  points : r.points.Same q.points

theorem rel_toOption {ε α : Type} {R : α → α → Prop} {x y : Except ε α}
    (hxy : ∀ p, x = .ok p → ∃ q, y = .ok q ∧ R p q) (hyx : ∀ q, y = .ok q → ∃ p, x = .ok p) :
    Option.Rel R x.toOption y.toOption := by
  cases x with
  | ok p =>
    obtain ⟨q, rfl, hpq⟩ := hxy p rfl
    exact .some hpq
  | error reason =>
    cases y with
    | ok q =>
      obtain ⟨p, hp⟩ := hyx q rfl
      cases hp
    | error other => exact .none

namespace Series.Same

variable {s t : Series} {order other : LabelOrder} {cumulative : Bool}

theorem symm (h : s.Same t) : t.Same s where
  labels := h.labels.symm
  timestamp := h.timestamp.symm
  firstSeen := h.firstSeen.symm
  created := h.created.symm
  stale := h.stale.symm
  exemplars := h.exemplars.symm
  data := h.data.symm

theorem header (h : s.Same t) : (s.header order cumulative).Same (t.header other cumulative) where
  labels := by
    change (order.arrange s.labels).Perm (other.arrange t.labels)
    rw [h.labels]
    exact order.arrange_perm_arrange other _
  start := by
    change s.startNanos cumulative = t.startNanos cumulative
    rw [startNanos, startNanos, h.created, h.firstSeen, h.timestamp]
  time := congrArg nanosOfMillis h.timestamp
  stale := h.stale

theorem scalarPoint (h : s.Same t) {p : ScalarPoint} (hp : s.scalarPoint order cumulative = .ok p) :
    ∃ q, t.scalarPoint other cumulative = .ok q ∧ p.Same q := by
  obtain ⟨value, hdata, rfl⟩ := scalarPoint_eq_ok_iff.1 hp
  refine ⟨_, scalarPoint_eq_ok_iff.2 ⟨value, h.data ▸ hdata, rfl⟩, ?_⟩
  exact ⟨h.header, rfl, h.exemplars⟩

theorem placeExemplars_perm (bounds : List Binary64) {as bs : List Exemplar} (h : as.Perm bs) :
    (placeExemplars bounds as).Perm (placeExemplars bounds bs) :=
  (placeExemplars_perm_map bounds as).trans ((h.map _).trans (placeExemplars_perm_map bounds bs).symm)

theorem histogramPoint (h : s.Same t) {p : HistogramPoint} (hp : s.histogramPoint order cumulative = .ok p) :
    ∃ q, t.histogramPoint other cumulative = .ok q ∧ p.Same q := by
  obtain ⟨tally, layout, count, hdata, hne, hlayout, hcount, rfl⟩ := histogramPoint_eq_ok_iff.1 hp
  refine ⟨_, histogramPoint_eq_ok_iff.2 ⟨tally, layout, count, h.data ▸ hdata, hne, hlayout, hcount, rfl⟩, ?_⟩
  exact ⟨h.header, rfl, rfl, rfl, rfl, placeExemplars_perm layout.bounds h.exemplars⟩

theorem summaryPoint (h : s.Same t) {p : SummaryPoint} (hp : s.summaryPoint order cumulative = .ok p) :
    ∃ q, t.summaryPoint other cumulative = .ok q ∧ p.Same q := by
  obtain ⟨tally, count, hdata, hne, hcount, rfl⟩ := summaryPoint_eq_ok_iff.1 hp
  refine ⟨_, summaryPoint_eq_ok_iff.2 ⟨tally, count, h.data ▸ hdata, hne, hcount, rfl⟩, ?_⟩
  exact ⟨h.header, rfl, rfl, rfl⟩

end Series.Same

/-! ## Families -/

structure Family.Same (f g : Family) : Prop where
  name : f.name = g.name
  metadata : f.metadata = g.metadata
  series : Matched Series.Same f.series g.series

namespace Family.Same

variable {f g : Family}

theorem type (h : f.Same g) : f.type = g.type := congrArg Metadata.type h.metadata

/-- The points of one kind correspond if those of corresponding series do, whatever the order of labels. -/
theorem collect {P : Type} {R : P → P → Prop} {build : Series → LabelOrder → Bool → Except PointFailure P}
    (h : f.Same g) (hbuild : ∀ {s t order other cumulative p}, Series.Same s t → build s order cumulative = .ok p →
      ∃ q, build t other cumulative = .ok q ∧ R p q) : Matched R (f.collect build) (g.collect build) := by
  have hcumulative : f.isCumulative = g.isCumulative := by rw [isCumulative, isCumulative, h.type]
  refine h.series.filterMap fun s t hst => rel_toOption (fun p hp => ?_) fun q hq => ?_
  · rw [← hcumulative]
    exact hbuild hst hp
  · rw [← hcumulative] at hq
    have hback : ∃ p, build s f.labelOrder f.isCumulative = .ok p ∧ R q p := hbuild hst.symm hq
    exact hback.imp fun _ hp => hp.1

theorem points (h : f.Same g) : f.points.Same g.points := by
  have hshape : f.shape = g.shape := by rw [shape, shape, h.type]
  unfold Family.points
  rw [← hshape]
  cases f.shape with
  | scalar => exact h.collect fun hst hp => hst.scalarPoint hp
  | histogram => exact h.collect fun hst hp => hst.histogramPoint hp
  | summary => exact h.collect fun hst hp => hst.summaryPoint hp

end Family.Same

theorem Points.Same.size_eq {p q : Points} (h : p.Same q) : p.size = q.size := by
  cases p <;> cases q <;> first | exact Matched.length_eq h | cases h

theorem Family.Same.record? {f g : Family} (h : f.Same g) : Option.Rel Record.Same f.record? g.record? := by
  have hsize := h.points.size_eq
  unfold Family.record? Points.isEmpty
  rw [← hsize]
  split
  · exact .none
  · refine .some ⟨h.name, h.type, ?_, ?_, h.points⟩
    · exact congrArg Metadata.help h.metadata
    · exact congrArg Metadata.unit h.metadata

/-! ## Cycles -/

namespace Cycle

def SameSeries (store : MetadataStore) (settings : AssemblySettings) (x y : Sample) : Prop :=
  familyName store x.name = familyName store y.name ∧
    (familyOf store settings x).keyOf x = (familyOf store settings x).keyOf y

instance (store : MetadataStore) (settings : AssemblySettings) (x y : Sample) :
    Decidable (SameSeries store settings x y) := inferInstanceAs (Decidable (_ ∧ _))

variable {target : Target} {store : MetadataStore} {settings : AssemblySettings} {xs ys : List Sample}

section Reordered

variable (h : xs.Perm ys)
  (hc : ((start target store settings).accepted xs).Pairwise fun x y =>
    SameSeries store settings x y → (familyOf store settings x).Compatible x y)

include h hc

theorem same_family (name : String) :
    ((Family.declared name store settings).extend
        ((xs.filter (reaches settings)).filter fun x => familyName store x.name = name)).Same
      ((Family.declared name store settings).extend
        ((ys.filter (reaches settings)).filter fun x => familyName store x.name = name)) := by
  obtain ⟨hxname, hxmeta, -⟩ := (Family.declared name store settings).extend_fixed
    ((xs.filter (reaches settings)).filter fun x => familyName store x.name = name)
  obtain ⟨hyname, hymeta, -⟩ := (Family.declared name store settings).extend_fixed
    ((ys.filter (reaches settings)).filter fun x => familyName store x.name = name)
  refine ⟨hxname.trans hyname.symm, hxmeta.trans hymeta.symm, ?_⟩
  rw [Family.series_extend_declared, Family.series_extend_declared]
  refine Family.matched_series ((h.filter _).filter _) ?_
  rw [← filter_accepted target]
  refine (hc.filter _).imp_of_mem fun {x y} hx hy hxy hkey => ?_
  have hxname : familyName store x.name = name := by simpa using (List.mem_filter.1 hx).2
  have hyname : familyName store y.name = name := by simpa using (List.mem_filter.1 hy).2
  have hfamily : familyOf store settings x = .declared name store settings := by rw [familyOf, hxname]
  rw [← hfamily] at hkey ⊢
  exact hxy ⟨hxname.trans hyname.symm, hkey⟩

theorem matched_families :
    Matched Family.Same ((start target store settings).extend xs).families
      ((start target store settings).extend ys).families := by
  rw [families_extend, families_extend]
  refine (grouping store settings).matched_run (h.filter _) fun f hf g hg hname => ?_
  rw [← families_extend target] at hf hg
  have hname : f.name = g.name := hname
  have hfamily := same_family h hc f.name
  have hother := family_eq_extend hg
  rw [← hname] at hother
  rwa [← family_eq_extend hf, ← hother] at hfamily

end Reordered

/-- **The order of arrival shows in the order of what is exported only.** -/
theorem records_of_perm (h : xs.Perm ys)
    (hc : ((start target store settings).accepted xs).Pairwise fun x y =>
      SameSeries store settings x y → (familyOf store settings x).Compatible x y) :
    Matched Record.Same ((start target store settings).extend xs).records
      ((start target store settings).extend ys).records :=
  (matched_families h hc).filterMap fun _ _ hfg => hfg.record?

/-- A histogram with exemplars and a start, a sample that is rejected, and a stale family that nothing declares, read
backwards. -/
theorem records_of_reversed_latency :
    let c := start ⟨"node", "host"⟩ (fun name => if name = "latency" then some ⟨.histogram, "", "s"⟩ else none) .default
    let xs : List Sample :=
      [⟨"latency_bucket", [⟨"le", "0.5"⟩, ⟨"zone", "a"⟩, ⟨"host", "b"⟩], 7, ⟨0x3ff0000000000000⟩,
          some ⟨⟨0x3fd0000000000000⟩, 5, []⟩⟩,
        ⟨"up", [⟨"zone", "a"⟩], 7, .staleMarker, none⟩,
        ⟨"latency_bucket", [⟨"host", "b"⟩, ⟨"zone", "a"⟩, ⟨"le", "+Inf"⟩], 7, ⟨0x4000000000000000⟩,
          some ⟨⟨0x4000000000000000⟩, 6, []⟩⟩,
        ⟨"latency_bucket", [⟨"le", "0.5"⟩, ⟨"quantile", "0.5"⟩], 9, ⟨0x3ff0000000000000⟩, none⟩,
        ⟨"latency_created", [⟨"zone", "a"⟩, ⟨"host", "b"⟩], 7, ⟨0x3ff0000000000000⟩, none⟩]
    (c.accepted xs).length = 4 ∧ (c.extend xs).records.length = 2 ∧
    Matched Record.Same (c.extend xs).records (c.extend xs.reverse).records :=
  ⟨by decide +kernel, by decide +kernel, records_of_perm (List.reverse_perm _).symm (by decide +kernel)⟩

end Cycle

end Telemetry
