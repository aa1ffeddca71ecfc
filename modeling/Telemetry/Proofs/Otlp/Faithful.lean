import Telemetry.Otlp.Conversion
import Telemetry.Proofs.Placement
import Telemetry.Proofs.Records

/-!
# The conversion to OTLP is faithful

What an export says about its records tells them apart (`Otlp.resourceOf_faithful`). Most members are copied; three
things are recovered. The type of a record is named by its metadata, except for the one type without a name there. An id
of an exemplar is never empty, so an empty one says that there is none. And the bucket of an exemplar, which is not
exported, is the first whose bound is at or above the value: the explicit bounds are enough to find it, since what lies
above them all lies in the last bucket.
-/

namespace Telemetry

/-! ## Lists that an injective function tells apart -/

theorem eq_of_map_eq {α β : Type} {f : α → β} {xs ys : List α} (h : xs.map f = ys.map f)
    (hf : ∀ x ∈ xs, ∀ y ∈ ys, f x = f y → x = y) : xs = ys := by
  induction xs generalizing ys with
  | nil => exact (List.map_eq_nil_iff.1 h.symm).symm
  | cons x xs ih =>
    obtain ⟨y, zs, rfl⟩ := List.exists_cons_of_ne_nil (l := ys) (by rintro rfl; simp at h)
    rw [List.map_cons, List.map_cons, List.cons.injEq] at h
    have hhead : x = y := hf x List.mem_cons_self y List.mem_cons_self h.1
    have htail : xs = zs := ih h.2 fun a ha b hb => hf a (List.mem_cons_of_mem x ha) b (List.mem_cons_of_mem y hb)
    rw [hhead, htail]

/-! ## Times -/

/-- Times before the epoch are counted as 0, and those too late to be counted as the largest number there is. -/
theorem toNat_nanosOfMillis (timestamp : Int) :
    ((nanosOfMillis timestamp).toNat : Int) = min (max timestamp 0 * 1000000) 18446744073709551615 := by
  have hsize : UInt64.size = 18446744073709551616 := rfl
  rw [nanosOfMillis, UInt64.toNat_ofNat']
  omega

/-- Whether the nanoseconds since the epoch count a time without loss. -/
def Counted (timestamp : Int) : Prop := 0 ≤ timestamp ∧ timestamp ≤ 18446744073709

theorem Counted.nanosOfMillis_inj {s t : Int} (hs : Counted s) (ht : Counted t)
    (h : nanosOfMillis s = nanosOfMillis t) : s = t := by
  have heq : min (max s 0 * 1000000) 18446744073709551615 = min (max t 0 * 1000000) 18446744073709551615 := by
    rw [← toNat_nanosOfMillis, ← toNat_nanosOfMillis, h]
  obtain ⟨hs0, hs1⟩ := hs
  obtain ⟨ht0, ht1⟩ := ht
  omega

/-! ## Buckets of exemplars -/

namespace Points

def Placed : Points → Prop
  | histogram points => ∀ p ∈ points, p.Placed
  | scalar _ | summary _ => True

end Points

theorem Family.placed_points (f : Family) : f.points.Placed := by
  unfold points
  split
  · trivial
  · intro p hp
    obtain ⟨s, -, h⟩ := mem_collect.1 hp
    exact Series.placed_histogramPoint h
  · trivial

/-! ## Members of a metric -/

namespace Otlp

theorem attribute_injective : Function.Injective fun l : Label => (⟨l.name, l.value⟩ : Attribute) := by
  intro l m h
  obtain ⟨hname, hvalue⟩ := Attribute.mk.inj h
  cases l
  cases m
  exact Label.mk.injEq .. ▸ ⟨hname, hvalue⟩

theorem attributesOf_injective : Function.Injective attributesOf := List.map_injective_iff.2 attribute_injective

theorem flagsOf_injective : Function.Injective flagsOf := by
  intro a b h
  cases a <;> cases b <;> first | rfl | exact absurd h (by decide)

theorem id_injective {n : Nat} (hn : 0 < n) :
    Function.Injective fun id : Option (Vector UInt8 n) => (id.map (·.toList)).getD [] := by
  have hne : ∀ v : Vector UInt8 n, v.toList ≠ [] := fun v hnil => by
    have hlength := v.length_toList
    rw [hnil] at hlength
    exact absurd hlength (by simp; omega)
  intro a b h
  cases a with
  | none =>
    cases b with
    | none => rfl
    | some w => exact absurd h.symm (hne w)
  | some v =>
    cases b with
    | none => exact absurd h (hne v)
    | some w => exact congrArg some (Vector.toList_inj.1 h)

theorem exemplarOf_inj {e d : Telemetry.Exemplar} (he : Counted e.timestamp) (hd : Counted d.timestamp)
    (h : exemplarOf e = exemplarOf d) : e = d := by
  simp only [exemplarOf, Exemplar.mk.injEq] at h
  obtain ⟨hlabels, htime, hspan, htrace, hvalue⟩ := h
  have hlabels := attributesOf_injective hlabels
  have htime := he.nanosOfMillis_inj hd htime
  have hspan := id_injective (by decide) hspan
  have htrace := id_injective (by decide) htrace
  cases e
  cases d
  simp_all

theorem numberPointOf_inj {p q : ScalarPoint} (hp : ∀ e ∈ p.exemplars, Counted e.timestamp)
    (hq : ∀ e ∈ q.exemplars, Counted e.timestamp) (h : numberPointOf p = numberPointOf q) : p = q := by
  simp only [numberPointOf, NumberPoint.mk.injEq] at h
  obtain ⟨hlabels, hstart, htime, hvalue, hexemplars, hflags⟩ := h
  have hlabels := attributesOf_injective hlabels
  have hflags := flagsOf_injective hflags
  have hexemplars : p.exemplars = q.exemplars :=
    eq_of_map_eq hexemplars fun e he d hd => exemplarOf_inj (hp e he) (hq d hd)
  obtain ⟨⟨_, _, _, _⟩, _, _⟩ := p
  obtain ⟨⟨_, _, _, _⟩, _, _⟩ := q
  simp_all

theorem histogramPointOf_inj {p q : Telemetry.HistogramPoint} (hp : p.Placed) (hq : q.Placed)
    (hpe : ∀ e ∈ p.exemplars, Counted e.exemplar.timestamp) (hqe : ∀ e ∈ q.exemplars, Counted e.exemplar.timestamp)
    (h : histogramPointOf p = histogramPointOf q) : p = q := by
  simp only [histogramPointOf, HistogramPoint.mk.injEq] at h
  obtain ⟨hlabels, hstart, htime, hcount, hsum, hcounts, hbounds, hexemplars, hflags⟩ := h
  have hlabels := attributesOf_injective hlabels
  have hflags := flagsOf_injective hflags
  have hexemplars : p.exemplars = q.exemplars := by
    refine eq_of_map_eq hexemplars fun e he d hd heq => ?_
    have hexemplar : e.exemplar = d.exemplar := exemplarOf_inj (hpe e he) (hqe d hd) heq
    -- the bucket is not exported, but the bounds and the value are
    have hbucket : e.bucket = d.bucket := by rw [hp e he, hq d hd, hbounds, hexemplar]
    cases e
    cases d
    exact PlacedExemplar.mk.injEq .. ▸ ⟨hbucket, hexemplar⟩
  obtain ⟨⟨_, _, _, _⟩, _, _, _, _, _⟩ := p
  obtain ⟨⟨_, _, _, _⟩, _, _, _, _, _⟩ := q
  simp_all

theorem summaryPointOf_injective : Function.Injective summaryPointOf := by
  intro p q h
  simp only [summaryPointOf, SummaryPoint.mk.injEq] at h
  obtain ⟨hlabels, hstart, htime, hcount, hsum, hquantiles, hflags⟩ := h
  have hlabels := attributesOf_injective hlabels
  have hflags := flagsOf_injective hflags
  have hquantiles : p.quantiles = q.quantiles := by
    refine List.map_injective_iff.2 (fun x y hxy => ?_) hquantiles
    obtain ⟨hquantile, hvalue⟩ := QuantileValue.mk.inj hxy
    cases x
    cases y
    exact Telemetry.QuantileValue.mk.injEq .. ▸ ⟨hquantile, hvalue⟩
  obtain ⟨⟨_, _, _, _⟩, _, _, _⟩ := p
  obtain ⟨⟨_, _, _, _⟩, _, _, _⟩ := q
  simp_all

/-! ## Records -/

/-- A record whose exemplars lie in the buckets of their values, at times that nanoseconds count. -/
structure Recoverable (r : Record) : Prop where
  placed : r.points.Placed
  counted : ∀ e ∈ r.points.exemplars, Counted e.timestamp

/-- Numbers, of a counter or not, become data that no other kind of points becomes, and these tell the numbers. -/
theorem eq_scalar_of_dataOf {type : MetricType} {ps : List ScalarPoint} {q : Points}
    (h : dataOf type (.scalar ps) = dataOf type q) :
    ∃ qs, q = .scalar qs ∧ ps.map numberPointOf = qs.map numberPointOf := by
  cases q with
  | scalar qs =>
    refine ⟨qs, rfl, ?_⟩
    by_cases hcounter : type = .counter <;> simpa [dataOf, hcounter] using h
  | histogram qs => by_cases hcounter : type = .counter <;> simp [dataOf, hcounter] at h
  | summary qs => by_cases hcounter : type = .counter <;> simp [dataOf, hcounter] at h

theorem dataOf_inj {type : MetricType} {p q : Points} (hp : p.Placed) (hq : q.Placed)
    (hpe : ∀ e ∈ p.exemplars, Counted e.timestamp) (hqe : ∀ e ∈ q.exemplars, Counted e.timestamp)
    (h : dataOf type p = dataOf type q) : p = q := by
  cases p with
  | scalar ps =>
    obtain ⟨qs, rfl, hpoints⟩ := eq_scalar_of_dataOf h
    refine congrArg Points.scalar (eq_of_map_eq hpoints fun x hx y hy hxy => ?_)
    refine numberPointOf_inj (fun e he => hpe e ?_) (fun e he => hqe e ?_) hxy
    · exact List.mem_flatMap_of_mem hx he
    · exact List.mem_flatMap_of_mem hy he
  | histogram ps =>
    cases q with
    | scalar qs =>
      obtain ⟨_, hkind, -⟩ := eq_scalar_of_dataOf h.symm
      cases hkind
    | histogram qs =>
      have hpoints : ps.map histogramPointOf = qs.map histogramPointOf := (Data.histogram.inj h).1
      refine congrArg Points.histogram (eq_of_map_eq hpoints fun x hx y hy hxy => ?_)
      refine histogramPointOf_inj (hp x hx) (hq y hy) (fun e he => hpe _ ?_) (fun e he => hqe _ ?_) hxy
      · exact List.mem_flatMap_of_mem hx (List.mem_map_of_mem he)
      · exact List.mem_flatMap_of_mem hy (List.mem_map_of_mem he)
    | summary qs => cases h
  | summary ps =>
    cases q with
    | scalar qs =>
      obtain ⟨_, hkind, -⟩ := eq_scalar_of_dataOf h.symm
      cases hkind
    | histogram qs => cases h
    | summary qs =>
      exact congrArg Points.summary (List.map_injective_iff.2 summaryPointOf_injective (Data.summary.inj h))

/-- The metadata of a metric tells its type: `unknown` alone has no entry there. -/
theorem typeMetadata_injective :
    Function.Injective fun type : MetricType => if type = .unknown then [] else [Attribute.mk typeKey type.name] := by
  intro s t h
  cases s <;> cases t <;> first | rfl | exact absurd h (by decide)

theorem metricOf_inj {r q : Record} (hr : Recoverable r) (hq : Recoverable q) (h : metricOf r = metricOf q) :
    r = q := by
  simp only [metricOf, Metric.mk.injEq] at h
  obtain ⟨hname, hhelp, hunit, hdata, hmetadata⟩ := h
  have htype : r.type = q.type := typeMetadata_injective hmetadata
  have hpoints : r.points = q.points := by
    rw [← htype] at hdata
    exact dataOf_inj hr.placed hq.placed hr.counted hq.counted hdata
  cases r
  cases q
  simp_all

/-- The attributes of a resource tell its target: an empty member is the one without an attribute. -/
theorem target_inj {t u : Target}
    (h : attributeUnlessEmpty "service.name" t.job ++ attributeUnlessEmpty "service.instance.id" t.instanceName =
      attributeUnlessEmpty "service.name" u.job ++ attributeUnlessEmpty "service.instance.id" u.instanceName) :
    t = u := by
  obtain ⟨job, inst⟩ := t
  obtain ⟨job', inst'⟩ := u
  by_cases h1 : job = "" <;> by_cases h2 : inst = "" <;> by_cases h3 : job' = "" <;> by_cases h4 : inst' = "" <;>
    simp_all [attributeUnlessEmpty, String.isEmpty_iff]

def Finished (records : List Record) : Prop :=
  ∃ target store settings xs, ((Cycle.start target store settings).extend xs).records = records

theorem placed_of_finished {records : List Record} (h : Finished records) : ∀ r ∈ records, r.points.Placed := by
  obtain ⟨target, store, settings, xs, rfl⟩ := h
  intro r hr
  obtain ⟨f, -, hrecord⟩ := List.mem_filterMap.1 hr
  obtain ⟨-, rfl⟩ := Family.record?_eq_some_iff.1 hrecord
  exact f.placed_points

/-- **An export tells its target and its records**, as long as the times of their exemplars can be counted in
nanoseconds: everything a record holds is exported, or can be told from what is. -/
theorem resourceOf_faithful {target other : Target} {rs qs : List Record} (hrs : Finished rs) (hqs : Finished qs)
    (hr : ∀ r ∈ rs, ∀ e ∈ r.points.exemplars, 0 ≤ e.timestamp ∧ e.timestamp ≤ 18446744073709)
    (hq : ∀ q ∈ qs, ∀ e ∈ q.points.exemplars, 0 ≤ e.timestamp ∧ e.timestamp ≤ 18446744073709)
    (h : resourceOf target rs = resourceOf other qs) : target = other ∧ rs = qs := by
  simp only [resourceOf, ResourceMetrics.mk.injEq, List.cons.injEq, ScopeMetrics.mk.injEq, true_and, and_true] at h
  obtain ⟨htarget, hrecords⟩ := h
  refine ⟨target_inj htarget, eq_of_map_eq hrecords fun r hmem q hmem' hrq => ?_⟩
  have hrec : Recoverable r := ⟨placed_of_finished hrs r hmem, hr r hmem⟩
  have hqec : Recoverable q := ⟨placed_of_finished hqs q hmem', hq q hmem'⟩
  exact metricOf_inj hrec hqec hrq

/-- A rejected sample leaves no trace in an export, nor in the records, exemplars with trace ids included. -/
theorem same_export_despite_rejection :
    let store : MetadataStore := fun name => if name = "latency" then some ⟨.histogram, "", "s"⟩ else none
    let records := fun xs => ((Cycle.start ⟨"node", "host"⟩ store .default).extend xs).records
    let exemplar : AttachedExemplar :=
      ⟨⟨0x3fe0000000000000⟩, 1700000000000, [⟨"trace_id", "000102030405060708090a0b0c0d0e0f"⟩]⟩
    let samples : List Sample :=
      [⟨"latency_bucket", [⟨"path", "/"⟩, ⟨"le", "1"⟩], 5, ⟨0x3ff0000000000000⟩, some exemplar⟩,
        ⟨"latency_bucket", [⟨"path", "/"⟩, ⟨"le", "+Inf"⟩], 5, ⟨0x4000000000000000⟩, none⟩]
    let rejected : Sample := ⟨"latency_bucket", [⟨"path", "/"⟩], 5, ⟨0x4000000000000000⟩, none⟩
    (∃ r ∈ records samples, r.points.exemplars ≠ []) ∧
      resourceOf ⟨"node", ""⟩ (records samples) = resourceOf ⟨"node", ""⟩ (records (samples ++ [rejected])) ∧
      records samples = records (samples ++ [rejected]) := by
  intro store records exemplar samples rejected
  have hexport : resourceOf ⟨"node", ""⟩ (records samples) =
      resourceOf ⟨"node", ""⟩ (records (samples ++ [rejected])) := by
    decide +kernel
  refine ⟨by decide +kernel, hexport, ?_⟩
  exact (resourceOf_faithful ⟨_, _, _, samples, rfl⟩ ⟨_, _, _, samples ++ [rejected], rfl⟩ (by decide +kernel)
    (by decide +kernel) hexport).2

end Otlp

end Telemetry
