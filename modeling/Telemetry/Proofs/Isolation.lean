import Telemetry.Proofs.History
import Telemetry.Proofs.Matching
import Telemetry.Proofs.Records

/-!
# What stands apart

The families of a cycle share nothing but their order: each is what its own samples make of it, and the cycle is no
more than these families side by side (`Cycle.product_of_families`). Within a family the series share the order of
label names and nothing else: without the samples of all the others a series comes to the same point, or fails for
the same reason, but for the order of its labels (`Family.outcome_of_own_samples`).
-/

namespace Telemetry

/-! ## Families -/

namespace Cycle

/-- The samples of a run that go to the family of a name: the settings let them through, and their names lead there. -/
def share (store : MetadataStore) (settings : AssemblySettings) (name : String) (xs : List Sample) : List Sample :=
  xs.filter fun x => reaches settings x && familyName store x.name == name

section Run

variable (target : Target) (store : MetadataStore) (settings : AssemblySettings) (xs : List Sample)

theorem having_eq_share (name : String) :
    (grouping store settings).having name (xs.filter (reaches settings)) = share store settings name xs := by
  rw [Grouping.having, List.filter_filter, share]
  refine List.filter_congr fun x _ => ?_
  rw [Bool.and_comm]
  rfl

theorem valueOf?_having (name : String) :
    (grouping store settings).valueOf? ((grouping store settings).having name (xs.filter (reaches settings))) =
      if share store settings name xs = [] then none
      else some ((Family.declared name store settings).extend (share store settings name xs)) := by
  rw [having_eq_share]
  cases h : share store settings name xs with
  | nil => rfl
  | cons x rest =>
    have hx : x ∈ share store settings name xs := h ▸ List.mem_cons_self
    have hname : familyName store x.name = name := by
      have := (List.mem_filter.1 hx).2
      simp only [Bool.and_eq_true, beq_iff_eq] at this
      exact this.2
    rw [if_neg (List.cons_ne_nil x rest), ← hname]
    rfl

theorem family?_extend (name : String) : ((start target store settings).extend xs).family? name =
    if share store settings name xs = [] then none
    else some ((Family.declared name store settings).extend (share store settings name xs)) := by
  rw [← valueOf?_having, ← Grouping.find?_run, ← families_extend target]
  rfl

theorem record?_share (name : String) :
    ((grouping store settings).valueOf? ((grouping store settings).having name (xs.filter (reaches settings)))).bind
      Family.record? = ((Family.declared name store settings).extend (share store settings name xs)).record? := by
  rw [valueOf?_having]
  split
  · rename_i hnone
    rw [hnone]
    exact (Family.record?_declared name store settings).symm
  · rfl

theorem records_extend : ((start target store settings).extend xs).records =
    ((xs.filter (reaches settings)).map fun x => familyName store x.name).eraseDups.filterMap fun name =>
      ((Family.declared name store settings).extend (share store settings name xs)).record? := by
  rw [records, families_extend, Grouping.run_eq, List.filterMap_filterMap]
  exact List.filterMap_congr fun name _ => record?_share store settings xs name

/-- The records of two runs correspond, if the samples of each name come to corresponding records. -/
theorem matched_records {R : Record → Record → Prop} {ys : List Sample}
    (h : ∀ name, Option.Rel R ((Family.declared name store settings).extend (share store settings name xs)).record?
      ((Family.declared name store settings).extend (share store settings name ys)).record?) :
    Matched R ((start target store settings).extend xs).records ((start target store settings).extend ys).records := by
  rw [records, records, families_extend, families_extend]
  refine (grouping store settings).matched_filterMap_run fun name => ?_
  rw [record?_share, record?_share]
  exact h name

/-- **A cycle is the product of its families.** Under any name it holds what the samples that go there make of a family
by themselves, and nothing if there are none, rejected ones included; its records are the records of these families, in
the order in which the first of their samples came. -/
theorem product_of_families :
    (∀ name, ((start target store settings).extend xs).family? name =
      if share store settings name xs = [] then none
      else some ((Family.declared name store settings).extend (share store settings name xs))) ∧
    ((start target store settings).extend xs).records =
      ((xs.filter (reaches settings)).map fun x => familyName store x.name).eraseDups.filterMap fun name =>
        ((Family.declared name store settings).extend (share store settings name xs)).record? :=
  ⟨family?_extend target store settings xs, records_extend target store settings xs⟩

end Run

end Cycle

/-! ## Points of any kind -/

inductive Point
  | scalar (p : ScalarPoint)
  | histogram (p : HistogramPoint)
  | summary (p : SummaryPoint)
deriving DecidableEq, Repr

namespace Point

def labels : Point → List Label
  | scalar p => p.labels
  | histogram p => p.labels
  | summary p => p.labels

def withLabels (labels : List Label) : Point → Point
  | scalar p => scalar { p with labels }
  | histogram p => histogram { p with labels }
  | summary p => summary { p with labels }

/-- Whether two points are one but for the order of their labels. -/
def Reordered (p q : Point) : Prop := p.labels.Perm q.labels ∧ p.withLabels q.labels = q

end Point

/-- Whether two outcomes are one but for the order of labels: points that differ in no more, or the same failure. -/
def SameOutcome : Except PointFailure Point → Except PointFailure Point → Prop
  | .ok p, .ok q => p.Reordered q
  | .error a, .error b => a = b
  | _, _ => False

theorem exists_ok_iff_of_sameOutcome {a b : Option (Except PointFailure Point)} (h : Option.Rel SameOutcome a b) :
    (∃ p, a = some (.ok p)) ↔ ∃ q, b = some (.ok q) := by
  cases h with
  | none => simp
  | @some x y hxy =>
    cases x with
    | ok p =>
      cases y with
      | ok q => simp
      | error failure => cases hxy
    | error failure =>
      cases y with
      | ok q => cases hxy
      | error other => simp

def Points.toList : Points → List Point
  | scalar points => points.map .scalar
  | histogram points => points.map .histogram
  | summary points => points.map .summary

namespace Series

def point (s : Series) (shape : Shape) (order : LabelOrder) (cumulative : Bool) : Except PointFailure Point :=
  match shape with
  | .scalar => (s.scalarPoint order cumulative).map .scalar
  | .histogram => (s.histogramPoint order cumulative).map .histogram
  | .summary => (s.summaryPoint order cumulative).map .summary

section Order

variable (s : Series) (order other : LabelOrder) (cumulative : Bool)

theorem point_order (shape : Shape) : s.point shape other cumulative =
    (s.point shape order cumulative).map (Point.withLabels (other.arrange s.labels)) := by
  let relabel : PointHeader → PointHeader := fun h => { h with labels := other.arrange s.labels }
  have hheader : s.header other cumulative = relabel (s.header order cumulative) := rfl
  cases shape with
  | scalar =>
    have hscalar := scalarPoint_of_data relabel rfl hheader id rfl
    simp only [point, hscalar]
    cases s.scalarPoint order cumulative <;> rfl
  | histogram =>
    have hhistogram := histogramPoint_of_data relabel rfl hheader id fun _ => rfl
    simp only [point, hhistogram]
    cases s.histogramPoint order cumulative <;> rfl
  | summary =>
    have hsummary := summaryPoint_of_data relabel rfl hheader
    simp only [point, hsummary]
    cases s.summaryPoint order cumulative <;> rfl

end Order

theorem labels_point {s : Series} {shape : Shape} {order : LabelOrder} {cumulative : Bool} {p : Point}
    (h : s.point shape order cumulative = .ok p) : p.labels = order.arrange s.labels := by
  cases shape with
  | scalar =>
    obtain ⟨q, hq, rfl⟩ := map_eq_ok_iff.1 h
    exact congrArg PointHeader.labels (header_scalarPoint hq)
  | histogram =>
    obtain ⟨q, hq, rfl⟩ := map_eq_ok_iff.1 h
    exact congrArg PointHeader.labels (header_histogramPoint hq)
  | summary =>
    obtain ⟨q, hq, rfl⟩ := map_eq_ok_iff.1 h
    exact congrArg PointHeader.labels (header_summaryPoint hq)

/-- A series comes to the same outcome under every order of label names, but for the order of its labels. -/
theorem sameOutcome_point (s : Series) (shape : Shape) (order other : LabelOrder) (cumulative : Bool) :
    SameOutcome (s.point shape order cumulative) (s.point shape other cumulative) := by
  rw [s.point_order order other]
  cases h : s.point shape order cumulative with
  | error failure => rfl
  | ok p =>
    have hlabels : (p.withLabels (other.arrange s.labels)).labels = other.arrange s.labels := by cases p <;> rfl
    refine ⟨?_, ?_⟩
    · rw [hlabels, labels_point h]
      exact order.arrange_perm_arrange other _
    · rw [hlabels]

end Series

/-! ## Series -/

namespace Family

/-- Whether labels resolve to a key in this family. -/
def resolvesTo (f : Family) (key : SeriesKey) (labels : List Label) : Bool :=
  match f.identify labels with
  | .ok identity => identity.key == key
  | .error _ => false

def outcome? (f : Family) (key : SeriesKey) : Option (Except PointFailure Point) :=
  (f.find? key).map fun s => s.point f.shape f.labelOrder f.isCumulative

/-- Whether the record of a family holds a point whose labels resolve to a key. -/
def Exports (f : Family) (key : SeriesKey) (p : Point) : Prop :=
  ∃ r, f.record? = some r ∧ p ∈ r.points.toList ∧ f.resolvesTo key p.labels = true

variable {f : Family}

/-! ### Points of a record -/

theorem toList_points : f.points.toList =
    f.series.filterMap fun s => (s.point f.shape f.labelOrder f.isCumulative).toOption := by
  unfold points Series.point
  cases f.shape <;> exact map_collect _ _

theorem mem_points {p : Point} :
    p ∈ f.points.toList ↔ ∃ s ∈ f.series, s.point f.shape f.labelOrder f.isCumulative = .ok p := by
  rw [toList_points, List.mem_filterMap]
  refine exists_congr fun s => and_congr_right fun _ => ?_
  cases s.point f.shape f.labelOrder f.isCumulative <;> simp [Except.toOption]

theorem length_toList (points : Points) : points.toList.length = points.size := by
  cases points <;> exact List.length_map _

theorem mem_record {p : Point} :
    (∃ r, f.record? = some r ∧ p ∈ r.points.toList) ↔
      ∃ s ∈ f.series, s.point f.shape f.labelOrder f.isCumulative = .ok p := by
  rw [← mem_points]
  constructor
  · rintro ⟨r, hr, hp⟩
    obtain ⟨-, rfl⟩ := record?_eq_some_iff.1 hr
    exact hp
  · intro hp
    have hsize : 0 < f.points.size := length_toList f.points ▸ List.length_pos_of_mem hp
    exact ⟨_, record?_eq_some_iff.2 ⟨hsize, rfl⟩, hp⟩

/-! ### Keys of labels -/

theorem resolvesTo_of_accepts {x : Sample} (h : f.accepts x = true) (key : SeriesKey) :
    f.resolvesTo key x.labels = (f.keyOf x == key) := by
  obtain ⟨identity, hid⟩ := ((f.accepts_iff x).1 h).1
  rw [resolvesTo, hid, f.eq_of_identify x hid]

theorem isSome_lookup?_of_subset {as bs : List Label} (h : ∀ l ∈ as, l ∈ bs) {name : String}
    (hname : (Label.lookup? as name).isSome) : (Label.lookup? bs name).isSome := by
  simp only [Label.lookup?, Option.isSome_map, List.find?_isSome] at hname ⊢
  obtain ⟨l, hl, hname⟩ := hname
  exact ⟨l, h l hl, hname⟩

theorem resolvesTo_of_perm {x : Sample} (h : f.accepts x = true) {labels : List Label}
    (hperm : labels.Perm (x.labels.filter (Identity.isIdentifying f.settings.nameLabel f.type.partLabels)))
    (key : SeriesKey) : f.resolvesTo key labels = (f.keyOf x == key) := by
  obtain ⟨identity, hid⟩ := ((f.accepts_iff x).1 h).1
  obtain ⟨hdistinct, hnot, -⟩ := f.identify_eq_ok_iff.1 hid
  -- what the labels leave out of the sample, they could not have shown in its key either
  have hown : Label.Distinct labels := (hdistinct.filter _).perm hperm.symm
  have hmem : ∀ l, l ∈ labels ↔ l ∈ x.labels ∧ l.name ≠ f.settings.nameLabel ∧ l.name ∉ f.type.partLabels := by
    intro l
    rw [hperm.mem_iff, List.mem_filter]
    simp [Identity.isIdentifying]
  have hsub : ∀ l ∈ labels, l ∈ x.labels := fun l hl => ((hmem l).1 hl).1
  have hsame : Identity.labelsOf f.settings.nameLabel f.type.partLabels labels = f.identityLabels x :=
    (Identity.labelsOf_eq_iff hown hdistinct).2 fun l hname hpart => by rw [hmem]; simp [hname, hpart]
  have hok : f.identify labels = .ok ⟨f.keyOf x, f.identityLabels x⟩ := by
    refine f.identify_eq_ok_iff.2 ⟨hown, fun hboth => hnot ?_, by rw [hsame]; rfl⟩
    exact ⟨isSome_lookup?_of_subset hsub hboth.1, isSome_lookup?_of_subset hsub hboth.2⟩
  rw [resolvesTo, hok]

/-! ### One series in a run -/

section Run

variable (name : String) (store : MetadataStore) (settings : AssemblySettings) (xs : List Sample)

theorem shape_extend (f : Family) : (f.extend xs).shape = f.shape ∧ (f.extend xs).isCumulative = f.isCumulative := by
  obtain ⟨-, hmetadata, -⟩ := f.extend_fixed xs
  simp only [shape, isCumulative, type, hmetadata, and_self]

theorem resolvesTo_extend (f : Family) (key : SeriesKey) (labels : List Label) :
    (f.extend xs).resolvesTo key labels = f.resolvesTo key labels := by
  obtain ⟨-, hmetadata, hsettings⟩ := f.extend_fixed xs
  simp only [resolvesTo, identify, type, hmetadata, hsettings]

/-- The state of a series is what its own samples make of it. -/
theorem find?_extend_declared (key : SeriesKey) :
    ((declared name store settings).extend xs).find? key =
      (declared name store settings).grouping.valueOf? ((declared name store settings).grouping.having key
        (xs.filter (declared name store settings).accepts)) := by
  rw [find?, series_extend_declared]
  exact (declared name store settings).grouping.find?_run _ key

theorem find?_own_samples (key : SeriesKey) :
    ((declared name store settings).extend
        (xs.filter fun x => (declared name store settings).resolvesTo key x.labels)).find? key =
      ((declared name store settings).extend xs).find? key := by
  rw [find?_extend_declared, find?_extend_declared, Grouping.having, Grouping.having, List.filter_filter,
    List.filter_filter, List.filter_filter]
  -- both runs feed the series the accepted samples of its key; one that is not accepted need not resolve at all
  refine congrArg _ (List.filter_congr fun x _ => ?_)
  cases hacc : (declared name store settings).accepts x with
  | false => simp
  | true =>
    rw [resolvesTo_of_accepts hacc]
    by_cases hkey : (declared name store settings).keyOf x = key <;> simp [grouping, hkey]

theorem resolvesTo_of_mem {s : Series} (hs : s ∈ ((declared name store settings).extend xs).series)
    {labels : List Label} (hperm : labels.Perm s.labels) (key : SeriesKey) :
    (declared name store settings).resolvesTo key labels = (s.key == key) := by
  rw [series_extend_declared] at hs
  obtain ⟨x, rest, hhaving, -⟩ := history_of_mem hs
  have htells := tells_of_mem hs
  have hx : x ∈ (xs.filter (declared name store settings).accepts).filter fun y =>
      (declared name store settings).keyOf y = s.key := by
    change x ∈ (declared name store settings).grouping.having s.key _
    rw [hhaving]
    exact List.mem_cons_self
  have hacc := (List.mem_filter.1 (List.mem_filter.1 hx).1).2
  rw [resolvesTo_of_perm hacc (hperm.trans (htells.labels x hx)), htells.key x hx]

theorem exports_iff {key : SeriesKey} {p : Point} :
    ((declared name store settings).extend xs).Exports key p ↔
      ((declared name store settings).extend xs).outcome? key = some (.ok p) := by
  have hfind : ∀ s, ((declared name store settings).extend xs).find? key = some s ↔
      s ∈ ((declared name store settings).extend xs).series ∧ s.key = key := by
    intro s
    rw [find?_extend_declared, series_extend_declared]
    exact ((declared name store settings).grouping.mem_run_and_keyOf).symm
  have hlabels : ∀ s ∈ ((declared name store settings).extend xs).series,
      s.point ((declared name store settings).extend xs).shape ((declared name store settings).extend xs).labelOrder
        ((declared name store settings).extend xs).isCumulative = .ok p →
      ((declared name store settings).extend xs).resolvesTo key p.labels = (s.key == key) := by
    intro s hs hp
    rw [resolvesTo_extend, Series.labels_point hp]
    exact resolvesTo_of_mem name store settings xs hs (perm_sortBy _ _) key
  rw [outcome?, Option.map_eq_some_iff]
  constructor
  · rintro ⟨r, hr, hmem, hkey⟩
    obtain ⟨s, hs, hp⟩ := mem_record.1 ⟨r, hr, hmem⟩
    rw [hlabels s hs hp, beq_iff_eq] at hkey
    exact ⟨s, (hfind s).2 ⟨hs, hkey⟩, hp⟩
  · rintro ⟨s, hs, hp⟩
    obtain ⟨hmem, hkey⟩ := (hfind s).1 hs
    obtain ⟨r, hr, hpoint⟩ := mem_record.2 ⟨s, hmem, hp⟩
    exact ⟨r, hr, hpoint, by rw [hlabels s hmem hp, beq_iff_eq, hkey]⟩

theorem sameOutcome_own_samples (key : SeriesKey) : Option.Rel SameOutcome
    (((declared name store settings).extend xs).outcome? key)
    (((declared name store settings).extend
      (xs.filter fun x => (declared name store settings).resolvesTo key x.labels)).outcome? key) := by
  simp only [outcome?, find?_own_samples, shape_extend]
  cases ((declared name store settings).extend xs).find? key with
  | none => exact .none
  | some s => exact .some (s.sameOutcome_point _ _ _ _)

/-- **Series stand apart.** Whatever the other series of a family receive, the series of a key comes to the same
point, or fails for the same reason, as without all samples that do not resolve to this key, but for the order of
its labels. So the record holds a point under this key in both runs or in neither, and it is the same one. -/
theorem outcome_of_own_samples (key : SeriesKey) :
    let full := (declared name store settings).extend xs
    let alone := (declared name store settings).extend
      (xs.filter fun x => (declared name store settings).resolvesTo key x.labels)
    Option.Rel SameOutcome (full.outcome? key) (alone.outcome? key) ∧
    ((∃ p, full.Exports key p) ↔ ∃ q, alone.Exports key q) ∧
    ∀ p q, full.Exports key p → alone.Exports key q → p.Reordered q := by
  intro full alone
  have hrel := sameOutcome_own_samples name store settings xs key
  refine ⟨hrel, ?_, fun p q hp hq => ?_⟩
  · simp only [full, alone, exports_iff]
    exact exists_ok_iff_of_sameOutcome hrel
  · rw [exports_iff] at hp hq
    rw [hp, hq] at hrel
    cases hrel with
    | some hpq => exact hpq

end Run

/-- A histogram is exported beside one whose buckets decrease and beside a rejected sample of its own. -/
theorem exports_beside_decreasing_buckets :
    let f := declared "latency" (fun _ => some ⟨.histogram, "", "s"⟩) .default
    let xs : List Sample :=
      [⟨"latency_bucket", [⟨"zone", "a"⟩, ⟨"le", "1"⟩], 7, .ofNat 5, none⟩,
        ⟨"latency_bucket", [⟨"zone", "b"⟩, ⟨"le", "1"⟩], 7, .ofNat 5, none⟩,
        ⟨"latency_bucket", [⟨"zone", "b"⟩, ⟨"le", "2"⟩], 7, .ofNat 3, none⟩,
        ⟨"latency_bucket", [⟨"zone", "a"⟩], 8, .ofNat 6, none⟩,
        ⟨"latency_bucket", [⟨"zone", "a"⟩, ⟨"le", "+Inf"⟩], 9, .ofNat 7, none⟩]
    let own := fun zone => xs.filter fun x => f.resolvesTo (.ofSorted [⟨"zone", zone⟩]) x.labels
    (own "a").length = 3 ∧
    (f.extend xs).outcome? (.ofSorted [⟨"zone", "b"⟩]) =
      some (.error (.nonMonotonicBuckets (.ofNat 2) (.ofNat 3) (.ofNat 5))) ∧
    ∃ q, (f.extend (own "a")).Exports (.ofSorted [⟨"zone", "a"⟩]) q := by
  intro f xs own
  refine ⟨by decide +kernel, by decide +kernel, ?_⟩
  refine (outcome_of_own_samples "latency" _ _ xs _).2.1.1 ⟨.histogram ?_, (exports_iff _ _ _ xs).2 ?_⟩
  · exact ⟨⟨[⟨"zone", "a"⟩], 7000000, 7000000, false⟩, 7, none, [5, 2], [.ofNat 1], []⟩
  · decide +kernel

end Family

end Telemetry
