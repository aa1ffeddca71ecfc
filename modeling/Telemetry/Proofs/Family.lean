import Telemetry.Proofs.Grouping
import Telemetry.Proofs.Identity
import Telemetry.Proofs.Series

/-!
# What a run of samples leaves in a family

A family accepts a sample when its labels make an identity and its name and labels select a part; nothing it holds
matters (`Family.ingest_eq`), for a key never stands for two label lists. The series of a run are therefore the groups
of the accepted samples by key (`Family.series_extend_declared`), each fed by its own samples alone.
-/

namespace Telemetry.Family

variable (f : Family) (x : Sample)

/-! ## One sample -/

/-- The labels that tell the series of a sample from others, sorted by name. -/
def identityLabels : List Label := Identity.labelsOf f.settings.nameLabel f.type.partLabels x.labels

def keyOf : SeriesKey := .ofSorted (f.identityLabels x)

def exemplarOf? : Option Exemplar :=
  if f.settings.exemplars ∧ f.shape ≠ .summary then x.exemplar.map (.ofAttached x.labels) else none

/-- Whether a sample can be taken in. -/
def accepts : Bool := (f.identify x.labels).isOk && (f.partOf x).isOk

/-- The series after one of its samples. -/
def fed (s : Series) : Series :=
  match f.partOf x with
  | .ok part => f.feed x part s
  | .error _ => s

theorem accepts_iff : f.accepts x = true ↔
    (∃ identity, f.identify x.labels = .ok identity) ∧ ∃ part, f.partOf x = .ok part := by
  unfold accepts
  cases f.identify x.labels <;> cases f.partOf x <;> simp [Except.isOk, Except.toBool]

theorem identify_eq_ok_iff {labels : List Label} {identity : Identity} :
    f.identify labels = .ok identity ↔
      Label.Distinct labels ∧
      ¬ ((Label.lookup? labels bucketLabel).isSome ∧ (Label.lookup? labels quantileLabel).isSome) ∧
      identity = ⟨.ofSorted (Identity.labelsOf f.settings.nameLabel f.type.partLabels labels),
        Identity.labelsOf f.settings.nameLabel f.type.partLabels labels⟩ :=
  Identity.ofLabels_eq_ok_iff

theorem eq_of_identify {identity : Identity} (h : f.identify x.labels = .ok identity) :
    identity = ⟨f.keyOf x, f.identityLabels x⟩ :=
  ((f.identify_eq_ok_iff).1 h).2.2

theorem distinct_of_accepts (h : f.accepts x = true) : Label.Distinct x.labels := by
  obtain ⟨identity, hid⟩ := ((f.accepts_iff x).1 h).1
  exact ((f.identify_eq_ok_iff).1 hid).1

variable {f x} in
theorem keyOf_eq_iff_perm (hacc : f.accepts x = true) {labels : List Label}
    (hsorted : labels.Pairwise fun a b => a.name < b.name) :
    f.keyOf x = .ofSorted labels ↔ (f.identityLabels x).Perm labels := by
  have hascending : (f.identityLabels x).Pairwise fun a b => a.name < b.name :=
    Identity.pairwise_lt_labelsOf (f.distinct_of_accepts x hacc)
  constructor
  · intro hkey
    rw [SeriesKey.ofSorted_injective hkey]
  · intro hperm
    exact congrArg SeriesKey.ofSorted (Label.eq_of_perm_of_ascending hperm hascending hsorted)

theorem feed_eq (part : Option Part) (s : Series) :
    f.feed x part s =
      let kept : Series := { s with exemplars := s.exemplars ++ (f.exemplarOf? x).toList }
      match part with
      | some part => kept.record part x.value
      | none => kept := by
  unfold feed exemplarOf?
  cases x.exemplar with
  | none => cases part <;> simp
  | some attached =>
    by_cases h : f.settings.exemplars ∧ f.shape ≠ .summary
    · cases part <;> simp [h, Series.pushExemplar]
    · cases part <;> simp [h]

theorem fed_fixed (s : Series) : (f.fed x s).key = s.key ∧ (f.fed x s).labels = s.labels ∧
    (f.fed x s).timestamp = s.timestamp ∧ (f.fed x s).firstSeen = s.firstSeen := by
  unfold fed
  split
  · rename_i part _
    rw [feed_eq]
    cases part <;> simp [Series.record_eq]
  · exact ⟨rfl, rfl, rfl, rfl⟩

@[simp] theorem key_fed (s : Series) : (f.fed x s).key = s.key := (f.fed_fixed x s).1

@[simp] theorem labels_fed (s : Series) : (f.fed x s).labels = s.labels := (f.fed_fixed x s).2.1

def grouping : Grouping Sample SeriesKey Series where
  key := f.keyOf
  keyOf := Series.key
  fresh x := .start f.shape ⟨f.keyOf x, f.identityLabels x⟩ x.timestamp
  step s x := f.fed x s
  keyOf_fresh _ := rfl
  keyOf_step s x := f.key_fed x s

/-- The family with an accepted sample taken in. -/
def after : Family :=
  { f with
    labelOrder := if f.keyOf x ∈ f.series.map Series.key then f.labelOrder else f.labelOrder.observe
      (x.labels.filter (Identity.isIdentifying f.settings.nameLabel f.type.partLabels))
    series := f.grouping.absorb f.series x }

/-! ## What a sample never changes -/

theorem ingest_fixed {g : Family} (h : f.ingest x = .ok g) :
    g.name = f.name ∧ g.metadata = f.metadata ∧ g.settings = f.settings := by
  unfold ingest at h
  obtain ⟨identity, -, h⟩ := bind_eq_ok_iff.1 h
  obtain ⟨part, -, h⟩ := bind_eq_ok_iff.1 h
  obtain ⟨opened, hopen, h⟩ := bind_eq_ok_iff.1 h
  have hg := Except.ok.inj h
  subst hg
  unfold openSeries at hopen
  split at hopen
  · split at hopen <;> cases hopen
    exact ⟨rfl, rfl, rfl⟩
  · cases hopen
    exact ⟨rfl, rfl, rfl⟩

theorem take_fixed : (f.take x).name = f.name ∧ (f.take x).metadata = f.metadata ∧
    (f.take x).settings = f.settings := by
  unfold take
  split
  · rename_i g h
    exact f.ingest_fixed x h
  · exact ⟨rfl, rfl, rfl⟩

theorem extend_fixed (xs : List Sample) : (f.extend xs).name = f.name ∧ (f.extend xs).metadata = f.metadata ∧
    (f.extend xs).settings = f.settings := by
  induction xs generalizing f with
  | nil => exact ⟨rfl, rfl, rfl⟩
  | cons x xs ih =>
    obtain ⟨hname, hmeta, hset⟩ := f.take_fixed x
    obtain ⟨ihname, ihmeta, ihset⟩ := ih (f.take x)
    exact ⟨ihname.trans hname, ihmeta.trans hmeta, ihset.trans hset⟩

/-! ## Keys name label lists -/

/-- Every series is kept under the key of its own labels. -/
def Keyed : Prop := ∀ s ∈ f.series, s.key = .ofSorted s.labels

theorem keyed_declared (name : String) (store : MetadataStore) (settings : AssemblySettings) :
    (declared name store settings).Keyed := by
  intro s hs
  cases hs

variable {f}

theorem Keyed.after (hf : f.Keyed) : (f.after x).Keyed := by
  refine f.grouping.forall_mem_absorb hf ?_ fun s hs => ?_
  · change (f.fed x _).key = .ofSorted (f.fed x _).labels
    rw [key_fed, labels_fed]
    rfl
  · change (f.fed x s).key = .ofSorted (f.fed x s).labels
    rw [key_fed, labels_fed, hs]

theorem openSeries_eq (hf : f.Keyed) :
    f.openSeries ⟨f.keyOf x, f.identityLabels x⟩ x = .ok
      { f with
        labelOrder := if f.keyOf x ∈ f.series.map Series.key then f.labelOrder else f.labelOrder.observe
          (x.labels.filter (Identity.isIdentifying f.settings.nameLabel f.type.partLabels))
        series := if f.keyOf x ∈ f.series.map Series.key then f.series
          else f.series ++ [.start f.shape ⟨f.keyOf x, f.identityLabels x⟩ x.timestamp] } := by
  unfold openSeries
  cases hfind : f.find? (f.keyOf x) with
  | some series =>
    have hmem : series ∈ f.series := List.mem_of_find?_eq_some hfind
    have hkey : series.key = f.keyOf x := by
      unfold find? at hfind
      simpa using List.find?_some hfind
    have hlabels : series.labels = f.identityLabels x :=
      SeriesKey.ofSorted_injective ((hf series hmem).symm.trans hkey)
    have hseen : f.keyOf x ∈ f.series.map Series.key := hkey ▸ List.mem_map_of_mem hmem
    simp only [hlabels, hseen, if_true]
  | none =>
    have hnew : f.keyOf x ∉ f.series.map Series.key := by
      unfold find? at hfind
      simpa using hfind
    simp only [hnew, if_false]

theorem fed_eq {part : Option Part} (h : f.partOf x = .ok part) (s : Series) : f.fed x s = f.feed x part s := by
  simp [fed, h]

/-- Feeding the series of a key after it was opened is absorbing the sample. -/
theorem map_fed_opened :
    ((if f.keyOf x ∈ f.series.map Series.key then f.series
      else f.series ++ [.start f.shape ⟨f.keyOf x, f.identityLabels x⟩ x.timestamp]).map fun s =>
        if s.key = f.keyOf x then f.fed x s else s) = f.grouping.absorb f.series x := by
  change _ = if f.keyOf x ∈ f.series.map Series.key then _ else _
  split
  · rfl
  · rename_i hnew
    have hold : ∀ s ∈ f.series, s.key ≠ f.keyOf x := fun s hs h => hnew (h ▸ List.mem_map_of_mem hs)
    have hstart : (Series.start f.shape ⟨f.keyOf x, f.identityLabels x⟩ x.timestamp).key = f.keyOf x := rfl
    rw [List.map_append, List.map_congr_left fun s hs => if_neg (hold s hs), List.map_id', List.map_singleton,
      if_pos hstart]
    rfl

/-- **Taking a sample in depends on the sample alone**, not on what the family holds: no key ever belongs to a series
with other labels. -/
theorem ingest_eq (hf : f.Keyed) :
    f.ingest x = (f.identify x.labels).bind fun _ => (f.partOf x).bind fun _ => .ok (f.after x) := by
  unfold ingest
  cases hid : f.identify x.labels with
  | error reason => rfl
  | ok identity =>
    cases hpart : f.partOf x with
    | error reason => rfl
    | ok part =>
      rw [f.eq_of_identify x hid]
      change ((f.openSeries ⟨f.keyOf x, f.identityLabels x⟩ x).bind fun opened => _) = Except.ok (f.after x)
      rw [openSeries_eq x hf]
      simp only [Except.bind, Family.after, ← map_fed_opened, fed_eq x hpart]
      rfl

theorem ingest_eq_ok_iff (hf : f.Keyed) {g : Family} :
    f.ingest x = .ok g ↔ f.accepts x = true ∧ g = f.after x := by
  rw [ingest_eq x hf, accepts_iff]
  cases f.identify x.labels <;> cases f.partOf x <;> simp [Except.bind, eq_comm]

theorem take_eq (hf : f.Keyed) : f.take x = if f.accepts x then f.after x else f := by
  unfold take
  cases h : f.ingest x with
  | ok g =>
    obtain ⟨hacc, rfl⟩ := (ingest_eq_ok_iff x hf).1 h
    simp [hacc]
  | error reason =>
    have hrej : ¬ f.accepts x = true := fun hacc => by
      rw [(ingest_eq_ok_iff x hf).2 ⟨hacc, rfl⟩] at h
      cases h
    simp [hrej]

/-! ## A run of samples -/

theorem extend_eq (hf : f.Keyed) (xs : List Sample) : f.extend xs = (xs.filter f.accepts).foldl after f := by
  induction xs generalizing f with
  | nil => rfl
  | cons x xs ih =>
    change (f.take x).extend xs = _
    rw [take_eq x hf]
    cases hx : f.accepts x with
    | true =>
      rw [if_pos rfl, ih (hf.after x), List.filter_cons_of_pos hx, List.foldl_cons]
      rfl
    | false => rw [if_neg (by decide), ih hf, List.filter_cons_of_neg (by simp [hx])]

theorem series_foldl_after (xs : List Sample) : (xs.foldl after f).series = xs.foldl f.grouping.absorb f.series := by
  induction xs generalizing f with
  | nil => rfl
  | cons x xs ih => exact ih

section Declared

variable (name : String) (store : MetadataStore) (settings : AssemblySettings) (xs : List Sample)

/-- **The series of a run** are the groups of the accepted samples by key. -/
theorem series_extend_declared :
    ((declared name store settings).extend xs).series =
      (declared name store settings).grouping.run (xs.filter (declared name store settings).accepts) := by
  rw [extend_eq (keyed_declared name store settings), series_foldl_after]
  rfl

end Declared

/-! ## Every series of a run -/

/-- What holds of every series that a family keeps. -/
structure SoundSeries (f : Family) (s : Series) : Prop where
  key : s.key = .ofSorted s.labels
  sorted : s.labels.Pairwise fun a b => a.name < b.name
  identifying : ∀ l ∈ s.labels, l.name ≠ f.settings.nameLabel ∧ l.name ∉ f.type.partLabels
  data : s.data.Sound f.shape

theorem soundSeries_start (h : f.accepts x = true) :
    f.SoundSeries (.start f.shape ⟨f.keyOf x, f.identityLabels x⟩ x.timestamp) where
  key := rfl
  sorted := Identity.pairwise_lt_labelsOf (f.distinct_of_accepts x h)
  identifying _ hl := (Identity.mem_labelsOf.1 hl).2
  data := SeriesData.sound_empty f.shape

theorem sound_fed {s : Series} (h : s.data.Sound f.shape) : (f.fed x s).data.Sound f.shape := by
  unfold fed
  split
  · rename_i part hpart
    rw [feed_eq]
    cases part with
    | none => exact h
    | some part =>
      have hkept : ({ s with exemplars := s.exemplars ++ (f.exemplarOf? x).toList } : Series).data.Sound f.shape := h
      exact Series.sound_record hkept (suits_of_partOf hpart) x.value
  · exact h

theorem SoundSeries.fed {s : Series} (h : f.SoundSeries s) : f.SoundSeries (f.fed x s) where
  key := by rw [key_fed, labels_fed, h.key]
  sorted := by rw [labels_fed]; exact h.sorted
  identifying := by rw [labels_fed]; exact h.identifying
  data := sound_fed x h.data

theorem SoundSeries.foldl_fed {s : Series} (h : f.SoundSeries s) (xs : List Sample) :
    f.SoundSeries (xs.foldl (fun s x => f.fed x s) s) := by
  induction xs generalizing s with
  | nil => exact h
  | cons x xs ih => exact ih (h.fed x)

/-- The samples of one series, and the series as they leave it. -/
theorem history_of_mem {xs : List Sample} {s : Series} (hs : s ∈ f.grouping.run (xs.filter f.accepts)) :
    ∃ x rest, f.grouping.having s.key (xs.filter f.accepts) = x :: rest ∧
      s = (x :: rest).foldl (fun s x => f.fed x s) (.start f.shape ⟨f.keyOf x, f.identityLabels x⟩ x.timestamp) := by
  obtain ⟨x, rest, hhaving, hfold⟩ := f.grouping.valueOf?_eq_some_iff.1 (f.grouping.mem_run.1 hs)
  refine ⟨x, rest, hhaving, ?_⟩
  rw [hhaving] at hfold
  exact hfold.symm

theorem soundSeries_of_mem {xs : List Sample} {s : Series} (hs : s ∈ f.grouping.run (xs.filter f.accepts)) :
    f.SoundSeries s := by
  obtain ⟨x, rest, hhaving, rfl⟩ := history_of_mem hs
  have hx : x ∈ xs.filter f.accepts := List.mem_of_mem_filter (hhaving ▸ List.mem_cons_self)
  exact (soundSeries_start x (List.mem_filter.1 hx).2).foldl_fed _

/-- Every series is sound, and no two have one key. -/
structure Sound (f : Family) : Prop where
  series : ∀ s ∈ f.series, f.SoundSeries s
  distinct : (f.series.map Series.key).Nodup

theorem Sound.keyed (hf : f.Sound) : f.Keyed := fun s hs => (hf.series s hs).key

/-- **Every run leaves a sound family.** -/
theorem sound_extend_declared (name : String) (store : MetadataStore) (settings : AssemblySettings)
    (xs : List Sample) : ((declared name store settings).extend xs).Sound where
  series s hs := by
    rw [series_extend_declared] at hs
    obtain ⟨-, hmeta, hset⟩ := (declared name store settings).extend_fixed xs
    have hsound := soundSeries_of_mem hs
    have htype : ((declared name store settings).extend xs).type = (declared name store settings).type :=
      congrArg Metadata.type hmeta
    exact
      { key := hsound.key
        sorted := hsound.sorted
        identifying := by rw [hset, htype]; exact hsound.identifying
        data := by rw [shape, htype]; exact hsound.data }
  distinct := by
    rw [series_extend_declared]
    exact (declared name store settings).grouping.nodup_run _

end Telemetry.Family
