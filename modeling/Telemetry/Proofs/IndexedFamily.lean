import Telemetry.Proofs.Fragment
import Telemetry.Proofs.LabelNames
import Telemetry.Proofs.Places

/-!
# Families with an index

A family may keep the place of every series under its key instead of searching for it, and record fragments instead
of parts. It then looks at places that a list might not have, and meets data that a fragment might not fit. Neither
happens: the places index the series as long as these have the shape of the family, so that one sample by places
comes to what `Family.ingest` does (`IndexedFamily.run_ingest`), and so does every run
(`IndexedFamily.extend_declared`).
-/

namespace Telemetry

/-- Why an attempt to take a sample in ends early. -/
inductive Halt
  | rejected (reason : Rejection)
  | outOfRange (look : OutOfRange)
deriving DecidableEq, Repr

/-- The state that an attempt leaves; a rejection leaves one, a look at a place that is not there does not. -/
def leftBy {σ : Type} : EStateM.Result Halt σ Unit → Except OutOfRange σ
  | .ok () state | .error (.rejected _) state => .ok state
  | .error (.outOfRange look) _ => .error look

section Run

variable {ε σ α : Type} {step : σ → α → Except ε σ}

theorem foldlM_append_of_ok {s t u : σ} {xs : List α} {x : α} (hrun : xs.foldlM step s = .ok t)
    (hstep : step t x = .ok u) : (xs ++ [x]).foldlM step s = .ok u := by
  rw [List.foldlM_append, hrun]
  change [x].foldlM step t = .ok u
  rw [List.foldlM_cons, hstep]
  rfl

/-- A run whose every step goes on keeps what each step keeps. -/
theorem exists_foldlM {R : List α → σ → Prop} {s : σ} (hstart : R [] s)
    (hstep : ∀ xs s x, R xs s → ∃ s', step s x = .ok s' ∧ R (xs ++ [x]) s') (xs : List α) :
    ∃ s', xs.foldlM step s = .ok s' ∧ R xs s' := by
  induction xs using List.reverseRecOn with
  | nil => exact ⟨s, rfl, hstart⟩
  | append_singleton xs x ih =>
    obtain ⟨t, hrun, ht⟩ := ih
    obtain ⟨u, hgoes, hu⟩ := hstep xs t x ht
    exact ⟨u, foldlM_append_of_ok hrun hgoes, hu⟩

end Run

/-! ## Families -/

namespace Family

variable {f : Family} {x : Sample}

theorem openSeries_cases {identity : Identity} {opened : Family} (h : f.openSeries identity x = .ok opened) :
    opened = f ∨ ∃ order, opened = { f with
      labelOrder := order, series := f.series ++ [.start f.shape identity x.timestamp] } := by
  unfold openSeries at h
  split at h
  · split at h <;> cases h
    exact Or.inl rfl
  · cases h
    exact Or.inr ⟨_, rfl⟩

theorem shape_openSeries {identity : Identity} {opened : Family} (h : f.openSeries identity x = .ok opened)
    (hshape : ∀ s ∈ f.series, s.data.shape = f.shape) :
    opened.shape = f.shape ∧ ∀ s ∈ opened.series, s.data.shape = opened.shape := by
  rcases openSeries_cases h with rfl | ⟨order, rfl⟩
  · exact ⟨rfl, hshape⟩
  · refine ⟨rfl, fun s hs => ?_⟩
    rcases List.mem_append.1 hs with hs | hs
    · exact hshape s hs
    · rw [List.mem_singleton.1 hs]
      exact (SeriesData.sound_empty f.shape).shape

theorem feed_openSeries {identity : Identity} {opened : Family} (h : f.openSeries identity x = .ok opened)
    (part : Option Part) (s : Series) : opened.feed x part s = f.feed x part s := by
  rcases openSeries_cases h with rfl | ⟨order, rfl⟩ <;> rfl

theorem key_feed (part : Option Part) (s : Series) : (f.feed x part s).key = s.key := by
  rw [feed_eq]
  cases part with
  | none => rfl
  | some part => simp only [Series.record_eq]

theorem Sound.shape_eq (hf : f.Sound) : ∀ s ∈ f.series, s.data.shape = f.shape :=
  fun s hs => (hf.series s hs).data.shape

theorem isSome_find?_extend {name : String} {store : MetadataStore} {settings : AssemblySettings}
    {xs : List Sample} {labels : List Label} {identity : Identity}
    (h : (declared name store settings).identify labels = .ok identity) :
    (((declared name store settings).extend xs).find? identity.key).isSome ↔
      ∃ x ∈ (declared name store settings).accepted xs, ((declared name store settings).identifying x).Perm
        (labels.filter (Identity.isIdentifying settings.nameLabel (declared name store settings).type.partLabels)) := by
  obtain ⟨hdistinct, -, rfl⟩ := (declared name store settings).identify_eq_ok_iff.1 h
  rw [find?_extend_declared, Grouping.isSome_valueOf?_having, List.mem_map,
    accepted_eq (keyed_declared name store settings)]
  refine exists_congr fun x => and_congr_right fun hx => ?_
  refine (keyOf_eq_iff_perm (List.mem_filter.1 hx).2 (Identity.pairwise_lt_labelsOf hdistinct)).trans ?_
  exact (List.Perm.congr_left (perm_sortBy _ _) _).trans (List.Perm.congr_right (perm_sortBy _ _) _)

end Family

instance : Hashable SeriesKey := ⟨fun key => hash key.text⟩

/-- A family that keeps the place of every series under its key, and reports what does not fit. -/
structure IndexedFamily extends Family where
  places : Std.HashMap SeriesKey Nat
  misfits : List Misfit

namespace IndexedFamily

def declared (name : String) (store : MetadataStore) (settings : AssemblySettings) : IndexedFamily :=
  ⟨.declared name store settings, ∅, []⟩

/-- The place of the series of a sample with this identity. -/
def openPlace (identity : Identity) (x : Sample) : EStateM Halt IndexedFamily Nat := do
  let g ← get
  match g.places[identity.key]? with
  | some place =>
    let s ← ofExcept ((valueAt g.series place).mapError Halt.outOfRange)
    if s.labels ≠ identity.labels then
      throw (.rejected (.inconsistentSeries g.name identity.key.text (Label.render identity.labels)))
    return place
  | none =>
    modify fun g => { g with
      labelOrder := g.labelOrder.observe
        (x.labels.filter (Identity.isIdentifying g.settings.nameLabel g.type.partLabels)) }
    let place := (← get).series.length
    modify fun g => { g with series := g.series ++ [.start g.shape identity x.timestamp] }
    modify fun g => { g with places := g.places.insert identity.key place }
    return place

/-- Feeds the series at a place: first the exemplar of the sample, then its fragment. -/
def feedAt (x : Sample) (fragment : Option Fragment) (place : Nat) : EStateM Halt IndexedFamily Unit := do
  let g ← get
  let s ← ofExcept ((valueAt g.series place).mapError Halt.outOfRange)
  let s := g.feed x none s
  let (s, misfit) := match fragment with
    | some fragment => s.fill fragment x.value
    | none => (s, none)
  set { g with series := g.series.set place s, misfits := g.misfits ++ misfit.toList }

def ingest (x : Sample) : EStateM Halt IndexedFamily Unit := do
  let g ← get
  let identity ← ofExcept ((g.identify x.labels).mapError Halt.rejected)
  let fragment ← ofExcept ((g.fragmentOf x).mapError Halt.rejected)
  let place ← openPlace identity x
  feedAt x fragment place

def extend (g : IndexedFamily) (xs : List Sample) : Except OutOfRange IndexedFamily :=
  xs.foldlM (fun g x => leftBy ((ingest x).run g)) g

/-- The key of the series that labels resolve to. -/
def keyFor (g : IndexedFamily) (labels : List Label) : Except Rejection SeriesKey :=
  (g.identify labels).map Identity.key

def series? (g : IndexedFamily) (key : SeriesKey) : Except OutOfRange (Option Series) :=
  valueOf? g.series g.places key

/-! ### One sample -/

/-- Whether an indexed family holds what a family does, with the place of every series under its key and no misfit. -/
structure Shows (g : IndexedFamily) (f : Family) : Prop where
  family : g.toFamily = f
  index : Indexes Series.key f.series g.places
  fits : g.misfits = []

theorem shows_declared (name : String) (store : MetadataStore) (settings : AssemblySettings) :
    (declared name store settings).Shows (.declared name store settings) := ⟨rfl, .empty, rfl⟩

section Step

variable {f : Family} {places : Std.HashMap SeriesKey Nat} (h : Indexes Series.key f.series places)

include h in
/-- Opening the place of a series opens the series; it fails before it changes anything. -/
theorem run_openPlace (identity : Identity) (x : Sample) :
    match f.openSeries identity x with
    | .ok opened => ∃ place places', (openPlace identity x).run ⟨f, places, []⟩ = .ok place ⟨opened, places', []⟩ ∧
        Indexes Series.key opened.series places' ∧ places'[identity.key]? = some place
    | .error reason => (openPlace identity x).run ⟨f, places, []⟩ = .error (.rejected reason) ⟨f, places, []⟩ := by
  unfold openPlace Family.openSeries Family.find?
  simp only [EStateM.run_bind, EStateM.run_get]
  cases hplace : places[identity.key]? with
  | none =>
    have hnone := h.find?_of_none hplace
    simp only [hnone]
    refine ⟨_, _, rfl, ?_, ?_⟩
    · exact h.push hplace
    · simp
  | some place =>
    obtain ⟨s, hs, -, hat⟩ := h.exists_valueAt hplace
    have hfind := h.find?_of_place hplace hs
    simp only [hfind, hat, Except.mapError, ofExcept, EStateM.run_bind, EStateM.run_pure]
    by_cases hlabels : s.labels = identity.labels
    · simp only [hlabels, ne_eq, not_true_eq_false, if_false, if_true]
      exact ⟨place, places, rfl, h, hplace⟩
    · simp only [hlabels, ne_eq, not_false_eq_true, if_false, if_true]
      rfl

include h in
/-- Feeding a place feeds the series of the key there. -/
theorem run_feedAt {key : SeriesKey} {place : Nat} (hplace : places[key]? = some place)
    (hshape : ∀ s ∈ f.series, s.data.shape = f.shape) (x : Sample) {fragment : Option Fragment}
    (hfits : ∀ p ∈ fragment, p.fits f.shape = true) :
    (feedAt x fragment place).run ⟨f, places, []⟩ = .ok ()
      ⟨{ f with series := f.series.map fun s => if s.key = key then f.feed x (fragment.map Fragment.part) s else s },
        places, []⟩ := by
  obtain ⟨s, hs, -, hat⟩ := h.exists_valueAt hplace
  rw [h.map_eq_set hplace hs]
  unfold feedAt
  simp only [EStateM.run_bind, EStateM.run_get, hat, Except.mapError, ofExcept, EStateM.run_pure]
  cases fragment with
  | none => rfl
  | some p =>
    have hfed : (f.feed x none s).data.shape = f.shape := by
      rw [f.feed_eq]
      exact hshape s (List.mem_of_getElem? hs)
    simp only [Series.fill_eq, hfed, hfits p rfl, if_true]
    rfl

end Step

/-- **Taking a sample in by places is taking it in.** Where the sample is rejected, nothing has changed. -/
theorem run_ingest {g : IndexedFamily} {f : Family} (h : g.Shows f) (hshape : ∀ s ∈ f.series, s.data.shape = f.shape)
    (x : Sample) :
    match f.ingest x with
    | .ok fed => ∃ g', (ingest x).run g = .ok () g' ∧ g'.Shows fed
    | .error reason => (ingest x).run g = .error (.rejected reason) g := by
  obtain ⟨f, places, misfits⟩ := g
  obtain ⟨rfl, hindex, rfl⟩ := h
  unfold ingest Family.ingest
  rw [f.partOf_eq]
  simp only [EStateM.run_bind, EStateM.run_get]
  cases hidentity : f.identify x.labels with
  | error reason => rfl
  | ok identity =>
    simp only [Except.mapError, ofExcept, EStateM.run_pure, bind, Except.bind]
    cases hfragment : f.fragmentOf x with
    | error reason => rfl
    | ok fragment =>
      simp only [Except.map, EStateM.run_pure]
      have hopen := run_openPlace hindex identity x
      cases hopened : f.openSeries identity x with
      | error reason =>
        rw [hopened] at hopen
        simp only [hopen]
      | ok opened =>
        rw [hopened] at hopen
        obtain ⟨place, places', hrun, hindex, hplace⟩ := hopen
        obtain ⟨hopenedShape, hseries⟩ := Family.shape_openSeries hopened hshape
        have hfits : ∀ p ∈ fragment, p.fits opened.shape = true := by
          rintro p rfl
          rw [hopenedShape]
          exact f.fits_of_fragmentOf hfragment
        simp only [hrun, run_feedAt hindex hplace hseries x hfits, Family.feed_openSeries hopened]
        refine ⟨_, rfl, rfl, indexes_map.2 (hindex.congr fun s _ => ?_), rfl⟩
        split
        · exact Family.key_feed _ s
        · rfl

/-- What every run keeps of an indexed family: each series is in the one place under the key of its own labels,
which are sorted by name and identify it, and its data has the shape of the family, so that nothing came that does
not fit. -/
structure Sound (g : IndexedFamily) : Prop where
  index : Indexes (fun s => SeriesKey.ofSorted s.labels) g.series g.places
  sorted : ∀ s ∈ g.series, s.labels.Pairwise fun a b => a.name < b.name
  identifying : ∀ s ∈ g.series, ∀ l ∈ s.labels, l.name ≠ g.settings.nameLabel ∧ l.name ∉ g.type.partLabels
  shape : ∀ s ∈ g.series, s.data.shape = g.shape
  fits : g.misfits = []

theorem Shows.sound {g : IndexedFamily} (h : g.Shows g.toFamily) (hf : g.toFamily.Sound) : g.Sound where
  index := h.index.congr fun s hs => (hf.keyed s hs).symm
  sorted s hs := (hf.series s hs).sorted
  identifying s hs := (hf.series s hs).identifying
  shape := hf.shape_eq
  fits := h.fits

/-! ### A run -/

theorem leftBy_ingest {g : IndexedFamily} {f : Family} (h : g.Shows f) (hf : f.Sound) (x : Sample) :
    ∃ g', leftBy ((ingest x).run g) = .ok g' ∧ g'.Shows (f.take x) := by
  have hrun := run_ingest h hf.shape_eq x
  unfold Family.take
  cases hingest : f.ingest x with
  | error reason =>
    rw [hingest] at hrun
    exact ⟨g, by simp only [hrun, leftBy], h⟩
  | ok fed =>
    rw [hingest] at hrun
    obtain ⟨g', hrun, hshows⟩ := hrun
    exact ⟨g', by simp only [hrun, leftBy], hshows⟩

/-- A run by places never looks out of range, and leaves what the run does. -/
theorem extend_declared (name : String) (store : MetadataStore) (settings : AssemblySettings) (xs : List Sample) :
    ∃ g, (declared name store settings).extend xs = .ok g ∧
      g.Shows ((Family.declared name store settings).extend xs) := by
  refine exists_foldlM (R := fun xs (g : IndexedFamily) => g.Shows ((Family.declared name store settings).extend xs))
    (shows_declared name store settings) (fun xs g x hshows => ?_) xs
  obtain ⟨g', hleft, hshows'⟩ := leftBy_ingest hshows (Family.sound_extend_declared name store settings xs) x
  refine ⟨g', hleft, ?_⟩
  simpa [Family.extend] using hshows'

namespace Shows

theorem series?_eq {g : IndexedFamily} {f : Family} (h : g.Shows f) (key : SeriesKey) :
    g.series? key = .ok (f.find? key) := by
  rw [series?, h.family]
  exact h.index.valueOf?_eq key

/-- Looking up the key of some labels finds a series once a sample with the same identifying labels was accepted. -/
theorem isSome_find?_iff {name : String} {store : MetadataStore} {settings : AssemblySettings} {xs : List Sample}
    {g : IndexedFamily} (h : g.Shows ((Family.declared name store settings).extend xs)) {labels : List Label}
    {key : SeriesKey} (hkey : g.keyFor labels = .ok key) :
    let f := Family.declared name store settings
    (g.find? key).isSome ↔ ∃ x ∈ f.accepted xs, (f.identifying x).Perm
      (labels.filter (Identity.isIdentifying settings.nameLabel f.type.partLabels)) := by
  intro f
  have hfamily : g.toFamily = f.extend xs := h.family
  obtain ⟨identity, hidentity, rfl⟩ := map_eq_ok_iff.1 hkey
  obtain ⟨-, hmetadata, hsettings⟩ := f.extend_fixed xs
  have hsame : f.identify labels = .ok identity := by
    rw [← hidentity, hfamily, Family.identify, Family.identify, Family.type, Family.type, hmetadata, hsettings]
  rw [hfamily]
  exact Family.isSome_find?_extend hsame

end Shows

/-- Whether a run of the family that the store declares under the name of this one leaves it. -/
def Reached (store : MetadataStore) (settings : AssemblySettings) (g : IndexedFamily) : Prop :=
  ∃ xs, (declared g.name store settings).extend xs = .ok g

namespace Reached

variable {store : MetadataStore} {settings : AssemblySettings} {g g' : IndexedFamily}

theorem declared (name : String) (store : MetadataStore) (settings : AssemblySettings) :
    Reached store settings (declared name store settings) := ⟨[], rfl⟩

theorem shows (h : Reached store settings g) : g.Shows g.toFamily ∧ g.toFamily.Sound := by
  obtain ⟨xs, hrun⟩ := h
  obtain ⟨k, hk, hshows⟩ := extend_declared g.name store settings xs
  rw [hrun] at hk
  cases hk
  rw [hshows.family]
  exact ⟨hshows, Family.sound_extend_declared _ _ _ _⟩

theorem ingest (h : Reached store settings g) {x : Sample} (hrun : (ingest x).run g = .ok () g')
    (hname : g'.name = g.name) : Reached store settings g' := by
  obtain ⟨xs, hxs⟩ := h
  refine ⟨xs ++ [x], ?_⟩
  rw [hname]
  exact foldlM_append_of_ok hxs (by rw [hrun, leftBy])

end Reached

end IndexedFamily

end Telemetry
