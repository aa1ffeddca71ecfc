import Telemetry.Proofs.Isolation
import Telemetry.Proofs.LabelOrder

/-!
# The label names of a run

A family looks at the label names of a sample only when the sample opens a series. It misses nothing: a later sample
of the series has the same key, so it has the same identity labels and their names are known
(`Family.labelOrder_after`). The label order of a run is therefore that of all its accepted samples
(`Family.names_tell_history`). A table that writes down the place of a name once, when the name is first seen, has
the place that the order tells (`LabelTable.Shows`).

New names come behind the others and every series has known names only, so the labels of a point keep their order
for good and no two points disagree about it (`Family.labels_keep_order`).
-/

namespace Telemetry

/-! ## Accepted samples -/

namespace Family

variable (f : Family) (x : Sample)

/-- The labels of a sample that identify its series, in the order of the sample. -/
def identifying : List Label := x.labels.filter (Identity.isIdentifying f.settings.nameLabel f.type.partLabels)

/-- The label names of every series are known to the label order. -/
def Registered : Prop := ∀ s ∈ f.series, ∀ l ∈ s.labels, l.name ∈ f.labelOrder.names

variable {f}

theorem mem_identityLabels {l : Label} : l ∈ f.identityLabels x ↔ l ∈ f.identifying x := (perm_sortBy _ _).mem_iff

/-- **Observing nothing for a series that is there is observing every accepted sample**: its names are known. -/
theorem labelOrder_after (hkeyed : f.Keyed) (hreg : f.Registered) :
    (f.after x).labelOrder = f.labelOrder.observe (f.identifying x) := by
  change (if f.keyOf x ∈ f.series.map Series.key then f.labelOrder else f.labelOrder.observe (f.identifying x)) = _
  split
  · rename_i hseen
    obtain ⟨s, hs, hkey⟩ := List.mem_map.1 hseen
    -- equal keys stand for equal labels
    have hlabels : s.labels = f.identityLabels x := SeriesKey.ofSorted_injective ((hkeyed s hs).symm.trans hkey)
    refine (LabelOrder.observe_of_known fun l hl => hreg s hs l ?_).symm
    rw [hlabels]
    exact (mem_identityLabels x).2 hl
  · rfl

theorem Registered.after (hkeyed : f.Keyed) (hreg : f.Registered) : (f.after x).Registered := by
  unfold Registered
  rw [labelOrder_after x hkeyed hreg]
  refine f.grouping.forall_mem_absorb (fun s hs l hl => ?_) (fun l hl => ?_) fun s hs => ?_
  · exact LabelOrder.mem_names_observe.2 (Or.inl (hreg s hs l hl))
  · have hlabels : (f.grouping.step (f.grouping.fresh x) x).labels = f.identityLabels x := f.labels_fed x _
    rw [hlabels] at hl
    exact LabelOrder.mem_names_observe.2 (Or.inr ⟨l, (mem_identityLabels x).1 hl, rfl⟩)
  · have hlabels : (f.grouping.step s x).labels = s.labels := f.labels_fed x s
    rwa [hlabels]

theorem labelOrder_foldl (hkeyed : f.Keyed) (hreg : f.Registered) (xs : List Sample) :
    (xs.foldl Family.after f).labelOrder = f.labelOrder.observe (xs.flatMap f.identifying) ∧
    (xs.foldl Family.after f).Registered := by
  induction xs generalizing f with
  | nil => exact ⟨rfl, hreg⟩
  | cons x xs ih =>
    obtain ⟨horder, hregistered⟩ := ih (hkeyed.after x) (Registered.after x hkeyed hreg)
    refine ⟨?_, hregistered⟩
    have hidentifying : (f.after x).identifying = f.identifying := rfl
    rw [List.foldl_cons, horder, labelOrder_after x hkeyed hreg, hidentifying, List.flatMap_cons,
      LabelOrder.observe_append]

/-- A run observes the identifying labels of its accepted samples. -/
theorem labelOrder_extend (hkeyed : f.Keyed) (hreg : f.Registered) (xs : List Sample) :
    (f.extend xs).labelOrder = f.labelOrder.observe ((f.accepted xs).flatMap f.identifying) ∧
    (f.extend xs).Registered := by
  rw [extend_eq hkeyed, accepted_eq hkeyed]
  exact labelOrder_foldl hkeyed hreg _

section Declared

variable (name : String) (store : MetadataStore) (settings : AssemblySettings) (xs : List Sample)

theorem registered_declared : (declared name store settings).Registered := by
  intro s hs
  cases hs

theorem labelOrder_extend_declared : ((declared name store settings).extend xs).labelOrder =
    LabelOrder.empty.observe (((declared name store settings).accepted xs).flatMap
      (declared name store settings).identifying) :=
  (labelOrder_extend (keyed_declared name store settings) (registered_declared name store settings) xs).1

theorem names_extend_declared : ((declared name store settings).extend xs).labelOrder.names =
    ((((declared name store settings).accepted xs).flatMap (declared name store settings).identifying).map
      Label.name).eraseDups := by
  have hempty : LabelOrder.empty.names = ([] : List String).eraseDups := rfl
  rw [labelOrder_extend_declared, LabelOrder.names_observe_eq hempty, List.nil_append]

variable {xs} in
theorem labelOrder_extend_of_same {own : List Label} (hne : (declared name store settings).accepted xs ≠ [])
    (hsame : ∀ x ∈ (declared name store settings).accepted xs, (declared name store settings).identifying x = own) :
    ((declared name store settings).extend xs).labelOrder = LabelOrder.empty.observe own := by
  obtain ⟨x, rest, haccepted⟩ := List.exists_cons_of_ne_nil hne
  rw [haccepted] at hsame
  rw [labelOrder_extend_declared, haccepted, List.flatMap_cons, LabelOrder.observe_append,
    hsame x List.mem_cons_self]
  refine LabelOrder.observe_of_known fun l hl => ?_
  obtain ⟨y, hy, hly⟩ := List.mem_flatMap.1 hl
  rw [hsame y (List.mem_cons_of_mem x hy)] at hly
  exact LabelOrder.mem_names_observe.2 (Or.inr ⟨l, hly, rfl⟩)

end Declared

end Family

/-! ## A table of places -/

/-- Label names with their places, each written down when the name is first seen. -/
structure LabelTable where
  names : List String
  places : Std.HashMap String Nat

namespace LabelTable

def empty : LabelTable := ⟨[], ∅⟩

def insert (table : LabelTable) (name : String) : LabelTable :=
  if table.places.contains name then table
  else ⟨table.names ++ [name], table.places.insert name table.names.length⟩

def observe (table : LabelTable) (labels : List Label) : LabelTable := labels.foldl (fun t l => t.insert l.name) table

/-- The table has the names of the order and their positions for places. -/
structure Shows (table : LabelTable) (order : LabelOrder) : Prop where
  names : table.names = order.names
  places : ∀ name, table.places[name]? = order.position? name

variable {table : LabelTable} {order : LabelOrder}

theorem shows_empty : empty.Shows .empty := ⟨rfl, fun _ => Std.HashMap.getElem?_empty⟩

theorem Shows.contains_iff (h : table.Shows order) (name : String) :
    table.places.contains name = true ↔ name ∈ order.names := by
  rw [Std.HashMap.contains_eq_isSome_getElem?, h.places, LabelOrder.position?, List.isSome_idxOf?]

theorem Shows.insert (h : table.Shows order) (name : String) : (table.insert name).Shows (order.insert name) := by
  by_cases hmem : name ∈ order.names
  · have htable : table.insert name = table := if_pos ((h.contains_iff name).2 hmem)
    have horder : order.insert name = order := if_pos hmem
    rwa [htable, horder]
  · have htable : table.insert name = ⟨table.names ++ [name], table.places.insert name table.names.length⟩ :=
      if_neg fun hcontains => hmem ((h.contains_iff name).1 hcontains)
    have horder : order.insert name = ⟨order.names ++ [name]⟩ := if_neg hmem
    rw [htable, horder]
    refine ⟨by rw [h.names], fun other => ?_⟩
    rw [Std.HashMap.getElem?_insert, LabelOrder.position?_append_new hmem, h.places, h.names]

theorem Shows.observe (h : table.Shows order) (labels : List Label) :
    (table.observe labels).Shows (order.observe labels) := by
  induction labels generalizing table order with
  | nil => exact h
  | cons l rest ih => exact ih (h.insert l.name)

end LabelTable

namespace Family

variable {f : Family} {table : LabelTable}

/-- The table that a run leaves if it looks at a sample only when the sample opens a series. -/
def tableAfter (f : Family) (table : LabelTable) : List Sample → LabelTable
  | [] => table
  | x :: xs =>
    match f.ingest x with
    | .ok g => g.tableAfter (if (f.find? (f.keyOf x)).isSome then table else table.observe (f.identifying x)) xs
    | .error _ => f.tableAfter table xs

theorem isSome_find?_iff (key : SeriesKey) : (f.find? key).isSome ↔ key ∈ f.series.map Series.key := by
  simp [find?]

theorem shows_tableAfter (hkeyed : f.Keyed) (h : table.Shows f.labelOrder) (xs : List Sample) :
    (f.tableAfter table xs).Shows (f.extend xs).labelOrder := by
  induction xs generalizing f table with
  | nil => exact h
  | cons x xs ih =>
    change (f.tableAfter table (x :: xs)).Shows ((f.take x).extend xs).labelOrder
    unfold tableAfter take
    cases hingest : f.ingest x with
    | error reason => exact ih hkeyed h
    | ok g =>
      obtain ⟨-, rfl⟩ := (ingest_eq_ok_iff x hkeyed).1 hingest
      refine ih (hkeyed.after x) ?_
      change LabelTable.Shows _ (if f.keyOf x ∈ f.series.map Series.key then f.labelOrder
        else f.labelOrder.observe (f.identifying x))
      by_cases hseen : f.keyOf x ∈ f.series.map Series.key
      · rwa [if_pos hseen, if_pos ((isSome_find?_iff _).2 hseen)]
      · rw [if_neg hseen, if_neg fun hsome => hseen ((isSome_find?_iff _).1 hsome)]
        exact h.observe _

/-- **The label names of a run tell its history**, though most samples are not looked at for them. They are the
names of the identifying labels of the accepted samples, each where it first appears; the position of a name is
where it stands; and a table that writes places down as names come has just these names and positions. -/
theorem names_tell_history (name : String) (store : MetadataStore) (settings : AssemblySettings) (xs : List Sample) :
    let f := declared name store settings
    let order := (f.extend xs).labelOrder
    order.names = (((f.accepted xs).flatMap f.identifying).map Label.name).eraseDups ∧
    (∀ key i, order.position? key = some i ↔ order.names[i]? = some key) ∧
    (f.tableAfter .empty xs).Shows order := by
  intro f order
  have hkeyed := keyed_declared name store settings
  have hnames : order.names = (((f.accepted xs).flatMap f.identifying).map Label.name).eraseDups :=
    names_extend_declared name store settings xs
  have hnodup : order.names.Nodup := by
    rw [hnames]
    exact nodup_eraseDups _
  exact ⟨hnames, fun _ _ => LabelOrder.position?_eq_some_iff hnodup, shows_tableAfter hkeyed LabelTable.shows_empty xs⟩

end Family

/-! ## Labels of points -/

namespace Family

section Declared

variable (name : String) (store : MetadataStore) (settings : AssemblySettings) (xs : List Sample)

theorem known_of_mem {s : Series} (hs : s ∈ ((declared name store settings).extend xs).series) :
    ∀ l ∈ s.labels, l.name ∈ ((declared name store settings).extend xs).labelOrder.names :=
  (labelOrder_extend (keyed_declared name store settings) (registered_declared name store settings) xs).2 s hs

theorem find?_extend_of_mem {s : Series} (hs : s ∈ ((declared name store settings).extend xs).series)
    (ys : List Sample) :
    ∃ t, (((declared name store settings).extend xs).extend ys).find? s.key = some t ∧ t.labels = s.labels := by
  have hextend : ((declared name store settings).extend xs).extend ys =
      (declared name store settings).extend (xs ++ ys) :=
    List.foldl_append.symm
  have hkey : s.key ∈ ((xs ++ ys).filter (declared name store settings).accepts).map
      (declared name store settings).keyOf := by
    rw [series_extend_declared] at hs
    have hmem : s.key ∈
        (declared name store settings).grouping.keys (xs.filter (declared name store settings).accepts) := by
      rw [← Grouping.map_keyOf_run]
      exact List.mem_map_of_mem hs
    rw [List.filter_append, List.map_append]
    exact List.mem_append_left _ ((Grouping.mem_keys _).1 hmem)
  obtain ⟨t, ht⟩ := Option.isSome_iff_exists.1
    ((declared name store settings).grouping.isSome_valueOf?_having.2 hkey)
  rw [← find?_extend_declared, ← hextend] at ht
  refine ⟨t, ht, ?_⟩
  have htmem : t ∈ (((declared name store settings).extend xs).extend ys).series := List.mem_of_find?_eq_some ht
  have htkey : t.key = s.key := by simpa using List.find?_some ht
  rw [hextend] at htmem
  have hsound := (sound_extend_declared name store settings xs).series s hs
  have htsound := (sound_extend_declared name store settings (xs ++ ys)).series t htmem
  exact SeriesKey.ofSorted_injective (htsound.key.symm.trans (htkey.trans hsound.key))

theorem pairwise_before_header {p : PointHeader} (hp : p ∈ ((declared name store settings).extend xs).points.headers) :
    (p.labels.map Label.name).Pairwise ((declared name store settings).extend xs).labelOrder.Before := by
  obtain ⟨s, hs, rfl⟩ := List.mem_map.1 (headers_points.subset hp)
  have hsound := (sound_extend_declared name store settings xs).series s hs
  exact List.pairwise_map.2 (LabelOrder.pairwise_arrange hsound.distinct (known_of_mem name store settings xs hs))

end Declared

/-- **Points agree on the order of labels, and keep it.** Each series of a run shows its own labels, all of them
with known names and in the order of the positions of these names; two points of its record have the names that they
share in the same order; and whatever the family takes in later, the series is there and shows its labels in the
same order. -/
theorem labels_keep_order (name : String) (store : MetadataStore) (settings : AssemblySettings) (xs : List Sample) :
    let f := (declared name store settings).extend xs
    (∀ s ∈ f.series,
      (∀ p, s.point f.shape f.labelOrder f.isCumulative = .ok p → p.labels = f.labelOrder.arrange s.labels) ∧
      (f.labelOrder.arrange s.labels).Perm s.labels ∧
      (∀ l ∈ s.labels, (f.labelOrder.position? l.name).isSome) ∧
      (f.labelOrder.arrange s.labels).Pairwise (fun a b => f.labelOrder.Before a.name b.name) ∧
      ∀ ys, ∃ t, (f.extend ys).find? s.key = some t ∧ t.labels = s.labels ∧
        (f.extend ys).labelOrder.arrange t.labels = f.labelOrder.arrange s.labels) ∧
    ∀ r, f.record? = some r → ∀ p ∈ r.points.headers, ∀ q ∈ r.points.headers,
      (p.labels.map Label.name).filter (· ∈ q.labels.map Label.name) =
        (q.labels.map Label.name).filter (· ∈ p.labels.map Label.name) := by
  intro f
  have hkeyed : f.Keyed := (sound_extend_declared name store settings xs).keyed
  have hregistered : f.Registered := fun s hs => known_of_mem name store settings xs hs
  refine ⟨fun s hs => ?_, fun r hr p hp q hq => ?_⟩
  · have hdistinct : Label.Distinct s.labels := ((sound_extend_declared name store settings xs).series s hs).distinct
    have hknown : ∀ l ∈ s.labels, l.name ∈ f.labelOrder.names := hregistered s hs
    refine ⟨fun p hp => Series.labels_point hp, f.labelOrder.perm_arrange s.labels,
      fun l hl => LabelOrder.isSome_position?_iff.2 (hknown l hl), LabelOrder.pairwise_arrange hdistinct hknown,
      fun ys => ?_⟩
    obtain ⟨t, ht, hlabels⟩ := find?_extend_of_mem name store settings xs hs ys
    refine ⟨t, ht, hlabels, ?_⟩
    rw [hlabels, (labelOrder_extend hkeyed hregistered ys).1]
    exact LabelOrder.arrange_of_prefix (LabelOrder.prefix_observe _ _) hdistinct hknown
  · obtain ⟨-, rfl⟩ := record?_eq_some_iff.1 hr
    exact LabelOrder.filter_shared (pairwise_before_header name store settings xs hp)
      (pairwise_before_header name store settings xs hq)

/-- Hosts that name their labels in different orders, and a later sample with a name that was not seen before. -/
theorem labels_of_hosts_keep_order :
    let f := (declared "load" (fun _ => some ⟨.gauge, "", ""⟩) .default).extend
      [⟨"load", [⟨"zone", "eu"⟩, ⟨"host", "a"⟩], 7, .ofNat 1, none⟩,
        ⟨"load", [⟨"host", "b"⟩, ⟨"rack", "1"⟩, ⟨"zone", "us"⟩], 7, .ofNat 2, none⟩]
    let later : List Sample := [⟨"load", [⟨"area", "9"⟩, ⟨"host", "c"⟩], 8, .ofNat 3, none⟩]
    let shown : List Label := [⟨"zone", "us"⟩, ⟨"host", "b"⟩, ⟨"rack", "1"⟩]
    (∃ s ∈ f.series, f.labelOrder.arrange s.labels = shown ∧
      ∃ t, (f.extend later).find? s.key = some t ∧ (f.extend later).labelOrder.arrange t.labels = shown) ∧
    ∃ r, f.record? = some r ∧ r.points.headers.length = 2 ∧ ∀ p ∈ r.points.headers, ∀ q ∈ r.points.headers,
      (p.labels.map Label.name).filter (· ∈ q.labels.map Label.name) =
        (q.labels.map Label.name).filter (· ∈ p.labels.map Label.name) := by
  intro f later shown
  obtain ⟨hseries, hrecord⟩ := labels_keep_order "load" (fun _ => some ⟨.gauge, "", ""⟩) .default
    [⟨"load", [⟨"zone", "eu"⟩, ⟨"host", "a"⟩], 7, .ofNat 1, none⟩,
      ⟨"load", [⟨"host", "b"⟩, ⟨"rack", "1"⟩, ⟨"zone", "us"⟩], 7, .ofNat 2, none⟩]
  constructor
  · obtain ⟨s, hs, hshown⟩ : ∃ s ∈ f.series, f.labelOrder.arrange s.labels = shown := by decide +kernel
    obtain ⟨-, -, -, -, hlater⟩ := hseries s hs
    obtain ⟨t, ht, -, harrange⟩ := hlater later
    exact ⟨s, hs, hshown, t, ht, harrange.trans hshown⟩
  · have hsome : f.record?.isSome = true := by decide +kernel
    have hlength : ∀ r ∈ f.record?, r.points.headers.length = 2 := by decide +kernel
    obtain ⟨r, hr⟩ := Option.isSome_iff_exists.1 hsome
    exact ⟨r, hr, hlength r hr, hrecord r hr⟩

end Family

end Telemetry
