import Telemetry.Proofs.Cycle
import Telemetry.Proofs.LabelOrder
import Telemetry.Proofs.Point

/-!
# The records of a cycle

Whatever samples a cycle received, its records repeat no name, no label set within a record and no label name within a
point (`Cycle.records_distinct`), and every one of them is well formed (`Cycle.records_wellFormed`). Both come from the
soundness of the families, a point of a sound family at a time.
-/

namespace Telemetry

def Points.shape : Points → Shape
  | scalar _ => .scalar
  | histogram _ => .histogram
  | summary _ => .summary

def Points.exemplars : Points → List Exemplar
  | scalar points => points.flatMap ScalarPoint.exemplars
  | histogram points => points.flatMap fun p => p.exemplars.map PlacedExemplar.exemplar
  | summary _ => []

def Points.WellFormed : Points → Prop
  | scalar _ => True
  | histogram points => ∀ p ∈ points, p.WellFormed
  | summary points => ∀ p ∈ points, p.WellFormed

/-- The record has points, all of the kind of its type and well formed. -/
structure Record.WellFormed (r : Record) : Prop where
  nonempty : 0 < r.points.size
  shape : r.points.shape = r.type.shape
  points : r.points.WellFormed

namespace Family

variable {f : Family}

theorem record?_eq_some_iff {r : Record} :
    f.record? = some r ↔ 0 < f.points.size ∧ r = ⟨f.name, f.type, f.metadata.help, f.metadata.unit, f.points⟩ := by
  have hempty : f.points.isEmpty = true ↔ ¬ 0 < f.points.size := by simp [Points.isEmpty]
  unfold record?
  split
  · rename_i h
    exact iff_of_false (by simp) fun hr => hempty.1 h hr.1
  · rename_i h
    rw [hempty, not_not] at h
    exact ⟨fun hr => ⟨h, (Option.some.inj hr).symm⟩, fun hr => hr.2 ▸ rfl⟩

theorem record?_extend {name help unit : String} {type : MetricType} {store : MetadataStore}
    {settings : AssemblySettings}
    (hstore : store name = some ⟨type, help, unit⟩) {xs : List Sample} {points : Points}
    (hpoints : ((declared name store settings).extend xs).points = points) (hsome : 0 < points.size) :
    ((declared name store settings).extend xs).record? = some ⟨name, type, help, unit, points⟩ := by
  obtain ⟨hname, hmeta, -⟩ := (declared name store settings).extend_fixed xs
  have hmetadata : (declared name store settings).metadata = ⟨type, help, unit⟩ := by
    change (store name).getD .undeclared = _
    rw [hstore]
    rfl
  refine record?_eq_some_iff.2 ⟨hpoints ▸ hsome, ?_⟩
  rw [hname, Family.type, hmeta, hmetadata, hpoints]
  rfl

theorem collect_of_series {P : Type} {build : Series → LabelOrder → Bool → Except PointFailure P} {s : Series} {p : P}
    (hseries : f.series = [s]) (h : build s f.labelOrder f.isCumulative = .ok p) : f.collect build = [p] := by
  simp [collect, hseries, h, Except.toOption]

theorem record?_declared (name : String) (store : MetadataStore) (settings : AssemblySettings) :
    (declared name store settings).record? = none := by
  have hempty : (declared name store settings).points.isEmpty = true := by
    unfold points
    split <;> rfl
  rw [record?, if_pos hempty]

theorem mem_collect {P : Type} {build : Series → LabelOrder → Bool → Except PointFailure P} {p : P} :
    p ∈ f.collect build ↔ ∃ s ∈ f.series, build s f.labelOrder f.isCumulative = .ok p := by
  unfold collect
  rw [List.mem_filterMap]
  refine exists_congr fun s => and_congr_right fun _ => ?_
  cases build s f.labelOrder f.isCumulative <;> simp [Except.toOption]

theorem map_collect {P Q : Type} (build : Series → LabelOrder → Bool → Except PointFailure P) (kind : P → Q) :
    (f.collect build).map kind =
      f.series.filterMap fun s => ((build s f.labelOrder f.isCumulative).map kind).toOption := by
  rw [collect, List.map_filterMap]
  refine List.filterMap_congr fun s _ => ?_
  cases build s f.labelOrder f.isCumulative <;> rfl

/-! ## Labels of points -/

theorem headers_collect {P : Type} {build : Series → LabelOrder → Bool → Except PointFailure P}
    {headerOf : P → PointHeader}
    (hbuild : ∀ {s p}, build s f.labelOrder f.isCumulative = .ok p →
      headerOf p = s.header f.labelOrder f.isCumulative) :
    ((f.collect build).map headerOf).Sublist (f.series.map fun s => s.header f.labelOrder f.isCumulative) := by
  unfold collect
  induction f.series with
  | nil => exact List.Sublist.slnil
  | cons s rest ih =>
    rw [List.filterMap_cons, List.map_cons]
    cases h : build s f.labelOrder f.isCumulative with
    | error failure => exact ih.cons _
    | ok p =>
      change (headerOf p :: List.map headerOf _).Sublist _
      rw [hbuild h]
      exact ih.cons_cons _

theorem headers_points :
    f.points.headers.Sublist (f.series.map fun s => s.header f.labelOrder f.isCumulative) := by
  unfold points
  split
  · exact headers_collect Series.header_scalarPoint
  · exact headers_collect Series.header_histogramPoint
  · exact headers_collect Series.header_summaryPoint

namespace SoundSeries

variable {s t : Series}

theorem distinct (hs : f.SoundSeries s) : Label.Distinct s.labels := .of_ascending hs.sorted

/-- Series whose labels map names to the same values, in whatever order they are shown, are one. -/
theorem key_eq (hs : f.SoundSeries s) (ht : f.SoundSeries t) {as bs : List Label} (ha : as.Perm s.labels)
    (hb : bs.Perm t.labels) (h : ∀ name, Label.lookup? as name = Label.lookup? bs name) : s.key = t.key := by
  have hab : as.Perm bs := (hs.distinct.perm ha.symm).perm_of_lookup? (ht.distinct.perm hb.symm) h
  have hlabels : s.labels = t.labels :=
    Label.eq_of_perm_of_ascending (ha.symm.trans (hab.trans hb)) hs.sorted ht.sorted
  rw [hs.key, ht.key, hlabels]

end SoundSeries

theorem Sound.headers_distinct (hf : f.Sound) :
    f.points.headers.Pairwise fun p q => ∃ name, Label.lookup? p.labels name ≠ Label.lookup? q.labels name := by
  refine List.Pairwise.sublist headers_points (List.pairwise_map.2 ?_)
  refine (List.pairwise_map.1 hf.distinct).imp_of_mem fun {s t} hs ht hkey => ?_
  by_contra hsame
  push Not at hsame
  exact hkey ((hf.series s hs).key_eq (hf.series t ht) (f.labelOrder.perm_arrange _) (f.labelOrder.perm_arrange _)
    hsame)

theorem Sound.labels_header (hf : f.Sound) {p : PointHeader} (hp : p ∈ f.points.headers) :
    (p.labels.map Label.name).Nodup ∧ ∀ l ∈ p.labels, l.name ≠ f.settings.nameLabel ∧ l.name ∉ f.type.partLabels := by
  obtain ⟨s, hs, rfl⟩ := List.mem_map.1 (headers_points.subset hp)
  have hsound := hf.series s hs
  have hperm := f.labelOrder.perm_arrange s.labels
  exact ⟨hsound.distinct.perm hperm.symm, fun l hl => hsound.identifying l (hperm.subset hl)⟩

/-! ## Well-formed points -/

theorem shape_points (f : Family) : f.points.shape = f.shape := by
  unfold points
  cases f.shape <;> rfl

theorem Sound.wellFormed_points (hf : f.Sound) : f.points.WellFormed := by
  unfold points
  split
  · trivial
  · intro p hp
    obtain ⟨s, hs, h⟩ := mem_collect.1 hp
    exact Series.wellFormed_histogramPoint (hf.series s hs).data.ordered h
  · intro p hp
    obtain ⟨s, hs, h⟩ := mem_collect.1 hp
    exact Series.wellFormed_summaryPoint (hf.series s hs).data.ordered h

end Family

/-! ## Records -/

namespace Cycle

variable (target : Target) (store : MetadataStore) (settings : AssemblySettings) (xs : List Sample)

/-- The header of a point of a record is that of a series of its family. -/
theorem header_of_mem_records {r : Record} (hr : r ∈ ((start target store settings).extend xs).records)
    {p : PointHeader} (hp : p ∈ r.points.headers) :
    ∃ f ∈ ((start target store settings).extend xs).families, ∃ s ∈ f.series,
      f.record? = some r ∧ p = s.header f.labelOrder f.isCumulative := by
  obtain ⟨f, hf, hrecord⟩ := List.mem_filterMap.1 hr
  obtain ⟨-, rfl⟩ := Family.record?_eq_some_iff.1 hrecord
  obtain ⟨s, hs, rfl⟩ := List.mem_map.1 (Family.headers_points.subset hp)
  exact ⟨f, hf, s, hs, hrecord, rfl⟩

/-- **No series is exported twice.** Records have distinct names; within a record no two points have the same labels as
a map from names to values; and within a point every label name stands once and is neither that of the metric name nor
that of a part. -/
theorem records_distinct :
    (((start target store settings).extend xs).records.map Record.name).Nodup ∧
    ∀ r ∈ ((start target store settings).extend xs).records,
      (r.points.headers.Pairwise fun p q => ∃ name, Label.lookup? p.labels name ≠ Label.lookup? q.labels name) ∧
      ∀ p ∈ r.points.headers,
        (p.labels.map Label.name).Nodup ∧
        ∀ l ∈ p.labels, l.name ≠ settings.nameLabel ∧ l.name ∉ r.type.partLabels := by
  constructor
  · have hnames := nodup_families target store settings xs
    refine List.pairwise_map.2 ((List.pairwise_map.1 hnames).filterMap _ fun f g hne r hr q hq => ?_)
    obtain ⟨-, rfl⟩ := Family.record?_eq_some_iff.1 hr
    obtain ⟨-, rfl⟩ := Family.record?_eq_some_iff.1 hq
    exact hne
  · intro r hr
    obtain ⟨f, hsound, rfl, hrecord⟩ := family_of_mem_records hr
    obtain ⟨-, rfl⟩ := Family.record?_eq_some_iff.1 hrecord
    exact ⟨hsound.headers_distinct, fun p hp => hsound.labels_header hp⟩

/-- **Every record of a run is well formed.** -/
theorem records_wellFormed : ∀ r ∈ ((start target store settings).extend xs).records, r.WellFormed := by
  intro r hr
  obtain ⟨f, hsound, -, hrecord⟩ := family_of_mem_records hr
  obtain ⟨hsize, rfl⟩ := Family.record?_eq_some_iff.1 hrecord
  exact ⟨hsize, f.shape_points, hsound.wellFormed_points⟩

/-- The bucket without a bound may arrive first, and a bound may be spelled `-0.0`. -/
theorem wellFormed_record_of_latency :
    let run := (start ⟨"node", "host"⟩ (fun name => if name = "latency" then some ⟨.histogram, "", ""⟩ else none)
      .default).extend
        [⟨"latency_bucket", [⟨"le", "+Inf"⟩], 0, ⟨0x4008000000000000⟩, none⟩,
          ⟨"latency_bucket", [⟨"le", "-0.0"⟩], 0, ⟨0x3ff0000000000000⟩, none⟩]
    ∃ r ∈ run.records, r.WellFormed := by
  intro run
  have hne : run.records ≠ [] := by decide +kernel
  exact ⟨run.records.head hne, List.head_mem hne, records_wellFormed _ _ _ _ _ (List.head_mem hne)⟩

end Cycle

end Telemetry
