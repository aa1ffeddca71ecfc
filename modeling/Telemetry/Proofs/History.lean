import Telemetry.Proofs.Family

/-!
# What a series says about its samples

The state of a series is a reading of its history, the list of the accepted samples that belong to it: the last sample
that feeds a slot decides what the slot holds, the first one the times, and every exemplar stays. `Family.Reflects` is
the part that builds up sample by sample, `Family.Tells` the whole, and `Family.series_tell_history` says it of every
series that a run leaves.
-/

namespace Telemetry

/-! ## The last element of a kind -/

section LastWhere

variable {α : Type} (p : α → Bool)

def lastWhere (xs : List α) : Option α := (xs.filter p).getLast?

theorem lastWhere_append (xs : List α) (x : α) :
    lastWhere p (xs ++ [x]) = if p x then some x else lastWhere p xs := by
  unfold lastWhere
  by_cases h : p x <;> simp [h]

variable {p}

theorem lastWhere_filter {q : α → Bool} (h : ∀ x, p x = true → q x = true) (xs : List α) :
    lastWhere p (xs.filter q) = lastWhere p xs := by
  rw [lastWhere, lastWhere, List.filter_filter]
  congr 1
  refine List.filter_congr fun x _ => ?_
  cases hx : p x with
  | false => rfl
  | true => rw [h x hx, Bool.and_true]

theorem lastWhere_perm {xs ys : List α} (h : xs.Perm ys)
    (hp : xs.Pairwise fun x y => ¬ (p x = true ∧ p y = true)) : lastWhere p xs = lastWhere p ys := by
  have hfilter : (xs.filter p).Pairwise fun _ _ => False := by
    refine (hp.filter p).imp_of_mem fun {x y} hx hy hxy => hxy ⟨?_, ?_⟩
    · exact (List.mem_filter.1 hx).2
    · exact (List.mem_filter.1 hy).2
  have hperm : (xs.filter p).Perm (ys.filter p) := h.filter p
  have heq : xs.filter p = ys.filter p := by
    match hxs : xs.filter p with
    | [] => rw [hxs] at hperm; exact hperm.nil_eq
    | [x] => rw [hxs] at hperm; exact List.singleton_perm.1 hperm
    | x :: y :: rest =>
      -- two elements of the kind are a pair that `hp` rules out
      rw [hxs] at hfilter
      exact absurd (List.rel_of_pairwise_cons hfilter List.mem_cons_self) id
  rw [lastWhere, lastWhere, heq]

/-- An element that is the only one of its kind is the first one as well as the last. -/
theorem lastWhere_eq_find? {xs : List α} (hp : xs.Pairwise fun x y => ¬ (p x = true ∧ p y = true)) :
    lastWhere p xs = xs.find? p := by
  rw [lastWhere_perm (List.reverse_perm xs).symm hp, lastWhere, List.filter_reverse, List.getLast?_reverse,
    List.head?_filter]

end LastWhere

theorem Binary64.not_isStale_of_isNaN {x : Binary64} (h : x.isNaN = false) : x.isStale = false := by
  cases hs : x.isStale with
  | false => rfl
  | true =>
    rw [beq_iff_eq.1 hs] at h
    exact absurd h (by decide)

namespace Family

variable (f : Family) (x : Sample)

def startOf (seconds : Binary64) : UInt64 := (seconds.mulNat 1000000000).roundToUInt64

/-- Whether a sample tells a start that counts: it is a `_created` sample, its value is finite and not negative, and
the settings honour it. -/
def tellsStart : Bool :=
  f.settings.honorCreated && (f.isCreated x && (x.value.isFinite && Binary64.zero.le x.value))

/-! ## One sample -/

variable {f x}

theorem exemplars_fed (h : f.accepts x = true) (s : Series) :
    (f.fed x s).exemplars = s.exemplars ++ (f.exemplarOf? x).toList := by
  obtain ⟨part, hpart⟩ := ((f.accepts_iff x).1 h).2
  rw [fed_eq x hpart, feed_eq]
  cases part <;> simp [Series.record_eq]

theorem not_isStale_of_tellsStart (h : f.tellsStart x = true) : x.value.isStale = false := by
  simp only [tellsStart, Bool.and_eq_true] at h
  exact Binary64.not_isStale_of_isNaN (Binary64.isNaN_of_isFinite h.2.2.1)

/-- The part of a `_created` sample is the start that it tells, that of any other sample is no start. -/
theorem created_or_data {part : Option Part} (h : f.partOf x = .ok part) :
    (f.isCreated x = true ∧ part = if f.tellsStart x then some (.created (startOf x.value)) else none) ∨
    (f.isCreated x = false ∧ ∃ p, part = some p ∧ ∀ start, p ≠ .created start) := by
  cases partOf_eq_ok_iff.1 h with
  | created hc =>
    refine Or.inl ⟨hc, ?_⟩
    rw [tellsStart, hc, createdNanos?]
    cases f.settings.honorCreated <;> cases x.value.isFinite && Binary64.zero.le x.value <;> rfl
  | value hc | count hc | sum hc | boundary hc => exact Or.inr ⟨hc, _, rfl, by simp⟩

theorem created_fed (h : f.accepts x = true) (s : Series) :
    (f.fed x s).created = if f.tellsStart x then some (startOf x.value) else s.created := by
  obtain ⟨part, hpart⟩ := ((f.accepts_iff x).1 h).2
  rw [fed_eq x hpart, feed_eq]
  rcases created_or_data hpart with ⟨-, rfl⟩ | ⟨hc, p, rfl, hp⟩
  · cases ht : f.tellsStart x with
    | true => simp [Series.record_eq, not_isStale_of_tellsStart ht]
    | false => rfl
  · rw [if_neg (by simp [tellsStart, hc])]
    cases p with
    | created start => exact absurd rfl (hp start)
    | value | count | sum | boundary => rfl

theorem stale_fed (h : f.accepts x = true) (s : Series) :
    (f.fed x s).stale = (s.stale || (x.value.isStale && !f.isCreated x)) := by
  obtain ⟨part, hpart⟩ := ((f.accepts_iff x).1 h).2
  rw [fed_eq x hpart, feed_eq]
  rcases created_or_data hpart with ⟨hc, rfl⟩ | ⟨hc, p, rfl, hp⟩
  · cases ht : f.tellsStart x with
    | true => simp [Series.record_eq, not_isStale_of_tellsStart ht]
    | false => simp [hc]
  · simp [Series.record_eq, hc]

/-- An accepted sample writes the slots that it feeds. -/
theorem held_fed (h : f.accepts x = true) {s : Series} (hs : s.data.Sound f.shape) (slot : Slot) :
    (f.fed x s).data.held slot = if f.feeds x slot then some (slot.kept x.value) else s.data.held slot := by
  obtain ⟨part, hpart⟩ := ((f.accepts_iff x).1 h).2
  rw [fed_eq x hpart, feed_eq, feeds_eq hpart]
  have hkept : ({ s with exemplars := s.exemplars ++ (f.exemplarOf? x).toList } : Series).data.Sound f.shape := hs
  cases part with
  | none => rfl
  | some p => exact Series.held_record hkept (suits_of_partOf hpart) x.value slot

/-! ## A history -/

/-- The part of the state of a series that builds up with its samples. -/
structure Reflects (f : Family) (history : List Sample) (s : Series) : Prop where
  data : s.data.Sound f.shape
  /-- A slot holds the value of the last sample that feeds it. -/
  held : ∀ slot, s.data.held slot = (lastWhere (fun x => f.feeds x slot) history).map fun x => slot.kept x.value
  /-- The start is the last one told. -/
  created : s.created = (lastWhere f.tellsStart history).map fun x => startOf x.value
  /-- A stale marker marks the series unless it comes as the time of creation. -/
  stale : s.stale = history.any fun x => x.value.isStale && !f.isCreated x
  exemplars : s.exemplars = history.filterMap f.exemplarOf?

theorem reflects_start (identity : Identity) (timestamp : Int) :
    f.Reflects [] (.start f.shape identity timestamp) where
  data := SeriesData.sound_empty f.shape
  held := SeriesData.held_empty f.shape
  created := rfl
  stale := rfl
  exemplars := rfl

theorem Reflects.fed {history : List Sample} {s : Series} (hs : f.Reflects history s) (h : f.accepts x = true) :
    f.Reflects (history ++ [x]) (f.fed x s) where
  data := sound_fed x hs.data
  held slot := by
    rw [held_fed h hs.data, hs.held, lastWhere_append]
    split <;> rfl
  created := by
    rw [created_fed h, hs.created, lastWhere_append]
    split <;> rfl
  stale := by rw [stale_fed h, hs.stale, List.any_append, List.any_cons, List.any_nil, Bool.or_false]
  exemplars := by
    rw [exemplars_fed h, hs.exemplars, List.filterMap_append, List.filterMap_cons]
    cases f.exemplarOf? x <;> rfl

theorem Reflects.foldl_fed {history xs : List Sample} {s : Series} (hs : f.Reflects history s)
    (hxs : ∀ x ∈ xs, f.accepts x = true) : f.Reflects (history ++ xs) (xs.foldl (fun s x => f.fed x s) s) := by
  induction xs generalizing history s with
  | nil => simpa using hs
  | cons x xs ih =>
    have hx := hs.fed (hxs x List.mem_cons_self)
    have hrest := ih hx fun y hy => hxs y (List.mem_cons_of_mem x hy)
    rw [List.append_assoc] at hrest
    exact hrest

/-- The times of a series are set once, by the first of its samples. -/
theorem times_foldl_fed (s : Series) (xs : List Sample) :
    (xs.foldl (fun s x => f.fed x s) s).timestamp = s.timestamp ∧
    (xs.foldl (fun s x => f.fed x s) s).firstSeen = s.firstSeen := by
  induction xs generalizing s with
  | nil => exact ⟨rfl, rfl⟩
  | cons x xs ih =>
    obtain ⟨-, -, ht, hf⟩ := f.fed_fixed x s
    obtain ⟨iht, ihf⟩ := ih (f.fed x s)
    exact ⟨iht.trans ht, ihf.trans hf⟩

/-- What the state of a series says about its history, the accepted samples with its key. -/
structure Tells (f : Family) (history : List Sample) (s : Series) : Prop extends f.Reflects history s where
  key : ∀ x ∈ history, s.key = f.keyOf x
  /-- The labels are those of every sample without the metric name and the names of parts. -/
  labels : ∀ x ∈ history,
    s.labels.Perm (x.labels.filter (Identity.isIdentifying f.settings.nameLabel f.type.partLabels))
  sorted : s.labels.Pairwise fun a b => a.name < b.name
  timestamp : history.head?.map Sample.timestamp = some s.timestamp
  firstSeen : history.head?.map Sample.timestamp = some s.firstSeen

/-- **A history leaves room for one state only.** -/
theorem Tells.unique {history : List Sample} {s t : Series} (hs : f.Tells history s) (ht : f.Tells history t) :
    s = t := by
  obtain ⟨x, rest, rfl⟩ : ∃ x rest, history = x :: rest := by
    cases history with
    | nil => cases hs.timestamp
    | cons x rest => exact ⟨x, rest, rfl⟩
  have hx : x ∈ x :: rest := List.mem_cons_self
  have hkey : s.key = t.key := (hs.key x hx).trans (ht.key x hx).symm
  have hlabels : s.labels = t.labels :=
    Label.eq_of_perm_of_ascending ((hs.labels x hx).trans (ht.labels x hx).symm) hs.sorted ht.sorted
  have htimestamp : s.timestamp = t.timestamp := Option.some.inj (hs.timestamp.symm.trans ht.timestamp)
  have hfirst : s.firstSeen = t.firstSeen := Option.some.inj (hs.firstSeen.symm.trans ht.firstSeen)
  have hcreated : s.created = t.created := hs.created.trans ht.created.symm
  have hstale : s.stale = t.stale := hs.stale.trans ht.stale.symm
  have hexemplars : s.exemplars = t.exemplars := hs.exemplars.trans ht.exemplars.symm
  have hdata : s.data = t.data := hs.data.ext ht.data fun slot => (hs.held slot).trans (ht.held slot).symm
  cases s
  cases t
  simp_all

/-! ## The samples that a run accepts -/

/-- The samples of a run that are not rejected, each judged by the family as the ones before it left it. -/
def accepted (f : Family) : List Sample → List Sample
  | [] => []
  | x :: xs =>
    match f.ingest x with
    | .ok g => x :: g.accepted xs
    | .error _ => f.accepted xs

theorem accepted_eq (hf : f.Keyed) (xs : List Sample) : f.accepted xs = xs.filter f.accepts := by
  induction xs generalizing f with
  | nil => rfl
  | cons x xs ih =>
    unfold accepted
    cases h : f.ingest x with
    | ok g =>
      obtain ⟨hacc, rfl⟩ := (ingest_eq_ok_iff x hf).1 h
      rw [List.filter_cons_of_pos hacc]
      exact congrArg (x :: ·) (ih (hf.after x))
    | error reason =>
      have hrej : ¬ f.accepts x = true := fun hacc => by
        rw [(ingest_eq_ok_iff x hf).2 ⟨hacc, rfl⟩] at h
        cases h
      rw [List.filter_cons_of_neg hrej]
      exact ih hf

theorem tells_of_mem {xs : List Sample} {s : Series} (hs : s ∈ f.grouping.run (xs.filter f.accepts)) :
    f.Tells ((xs.filter f.accepts).filter fun x => f.keyOf x = s.key) s := by
  have hsound := soundSeries_of_mem hs
  obtain ⟨x, rest, hhaving, hfold⟩ := history_of_mem hs
  have hhistory : (xs.filter f.accepts).filter (fun x => f.keyOf x = s.key) = x :: rest := hhaving
  have hmem : ∀ y ∈ x :: rest, f.accepts y = true ∧ f.keyOf y = s.key := by
    intro y hy
    rw [← hhistory, List.mem_filter, List.mem_filter] at hy
    exact ⟨hy.1.2, by simpa using hy.2⟩
  rw [hhistory]
  have hreflects : f.Reflects (x :: rest) s := by
    rw [hfold]
    exact (reflects_start _ _).foldl_fed fun y hy => (hmem y hy).1
  have hlabels : ∀ y ∈ x :: rest, s.labels = f.identityLabels y := fun y hy =>
    SeriesKey.ofSorted_injective (hsound.key.symm.trans (hmem y hy).2.symm)
  obtain ⟨htimestamp, hfirst⟩ := times_foldl_fed (f := f) (.start f.shape ⟨f.keyOf x, f.identityLabels x⟩ x.timestamp)
    (x :: rest)
  rw [← hfold] at htimestamp hfirst
  exact
    { hreflects with
      key := fun y hy => (hmem y hy).2.symm
      labels := fun y hy => hlabels y hy ▸ perm_sortBy _ _
      sorted := hsound.sorted
      timestamp := congrArg some htimestamp.symm
      firstSeen := congrArg some hfirst.symm }

theorem tells_of_valueOf? {xs : List Sample} {key : SeriesKey} {s : Series}
    (hs : f.grouping.valueOf? (f.grouping.having key (xs.filter f.accepts)) = some s) :
    f.Tells (f.grouping.having key (xs.filter f.accepts)) s := by
  obtain ⟨hmem, rfl⟩ := f.grouping.mem_run_and_keyOf.2 hs
  exact tells_of_mem hmem

theorem map_labels_run (xs : List Sample) :
    (f.grouping.run (xs.filter f.accepts)).map Series.labels =
      ((xs.filter f.accepts).map f.identityLabels).eraseDups := by
  refine List.map_injective_iff.2 SeriesKey.ofSorted_injective ?_
  calc ((f.grouping.run (xs.filter f.accepts)).map Series.labels).map SeriesKey.ofSorted
      = (f.grouping.run (xs.filter f.accepts)).map Series.key := by
        rw [List.map_map]
        exact List.map_congr_left fun s hs => (soundSeries_of_mem hs).key.symm
    _ = ((xs.filter f.accepts).map f.keyOf).eraseDups := f.grouping.map_keyOf_run _
    _ = (((xs.filter f.accepts).map f.identityLabels).map SeriesKey.ofSorted).eraseDups := by
        rw [List.map_map]
        rfl
    _ = ((xs.filter f.accepts).map f.identityLabels).eraseDups.map SeriesKey.ofSorted :=
        eraseDups_map SeriesKey.ofSorted_injective _

section Declared

variable (name : String) (store : MetadataStore) (settings : AssemblySettings) (xs : List Sample)

/-- **The series of a run tell the history of their samples.** There is one series for each set of identity labels among
the accepted samples, in the order in which these sets first came, and its state is the only one that tells what the
accepted samples with its key did. -/
theorem series_tell_history :
    ((declared name store settings).extend xs).series.map Series.labels =
      (((declared name store settings).accepted xs).map (declared name store settings).identityLabels).eraseDups ∧
    ∀ s ∈ ((declared name store settings).extend xs).series,
      let history := ((declared name store settings).accepted xs).filter fun x =>
        (declared name store settings).keyOf x = s.key
      (declared name store settings).Tells history s ∧ ∀ t, (declared name store settings).Tells history t → t = s := by
  rw [series_extend_declared, accepted_eq (keyed_declared name store settings)]
  refine ⟨map_labels_run xs, fun s hs => ?_⟩
  have htells := tells_of_mem hs
  exact ⟨htells, fun t ht => ht.unique htells⟩

end Declared

end Family

end Telemetry
