import Mathlib.Data.List.Nodup
import Telemetry.Series.Identity

/-!
# Keys are canonical

A key can be read back: an escaped text ends at its first bare delimiter, so the names and values of a key are those
of one list of labels (`SeriesKey.ofSorted_injective`). Sorting by name makes that list a canonical form of the label
set, since the names of accepted labels are distinct. Main statement: `Identity.key_eq_iff_same_labels`.
-/

namespace Telemetry

/-! ## Reading a key back -/

namespace SeriesKey

theorem escape_cons_of_special {d c : Char} (h : c = '\\' ∨ c = d) (cs : List Char) :
    escape d (c :: cs) = '\\' :: c :: escape d cs := by
  rw [escape, if_pos h]

theorem escape_cons_of_plain {d c : Char} (h : ¬ (c = '\\' ∨ c = d)) (cs : List Char) :
    escape d (c :: cs) = c :: escape d cs := by
  rw [escape, if_neg h]

/-- No escaped text goes on where another one has ended. -/
theorem escape_cons_ne_delimiter {d : Char} (hd : d ≠ '\\') (c : Char) (cs r s : List Char) :
    escape d (c :: cs) ++ r ≠ d :: s := by
  by_cases hc : c = '\\' ∨ c = d
  · rw [escape_cons_of_special hc]
    simp [hd.symm]
  · rw [escape_cons_of_plain hc]
    intro h
    exact hc (Or.inr (List.cons.inj h).1)

/-- Two escaped texts, each ended by the delimiter, agree only if the texts and what follows them do. -/
theorem escape_append_inj {d : Char} (hd : d ≠ '\\') {xs ys r s : List Char}
    (h : escape d xs ++ d :: r = escape d ys ++ d :: s) : xs = ys ∧ r = s := by
  induction xs generalizing ys with
  | nil =>
    cases ys with
    | nil => exact ⟨rfl, (List.cons.inj h).2⟩
    | cons y ys => exact absurd h.symm (escape_cons_ne_delimiter hd y ys _ _)
  | cons x xs ih =>
    cases ys with
    | nil => exact absurd h (escape_cons_ne_delimiter hd x xs _ _)
    | cons y ys =>
      have step : x = y ∧ escape d xs ++ d :: r = escape d ys ++ d :: s := by
        by_cases hx : x = '\\' ∨ x = d <;> by_cases hy : y = '\\' ∨ y = d
        · rw [escape_cons_of_special hx, escape_cons_of_special hy] at h
          simpa using h
        · -- the backslash before `x` would be the plain character `y`
          rw [escape_cons_of_special hx, escape_cons_of_plain hy] at h
          exact absurd (Or.inl (List.cons.inj h).1.symm) hy
        · rw [escape_cons_of_plain hx, escape_cons_of_special hy] at h
          exact absurd (Or.inl (List.cons.inj h).1) hx
        · rw [escape_cons_of_plain hx, escape_cons_of_plain hy] at h
          simpa using h
      obtain ⟨rfl, hrest⟩ := step
      obtain ⟨rfl, rfl⟩ := ih hrest
      exact ⟨rfl, rfl⟩

theorem pair_append_inj {a b : Label} {r s : List Char} (h : pair a ++ r = pair b ++ s) : a = b ∧ r = s := by
  obtain ⟨name, value⟩ := a
  obtain ⟨name', value'⟩ := b
  simp only [pair, List.append_assoc, List.cons_append, List.nil_append] at h
  obtain ⟨hname, h⟩ := escape_append_inj (by decide) h
  obtain ⟨hvalue, h⟩ := escape_append_inj (by decide) (List.cons.inj h).2
  rw [String.toList_inj] at hname hvalue
  exact ⟨by rw [hname, hvalue], h⟩

/-- What stands in a key behind the first pair. -/
def others (labels : List Label) : List Char :=
  labels.flatMap fun l => ',' :: pair l

theorem intercalate_pairs (l : Label) (labels : List Label) :
    List.intercalate [','] ((l :: labels).map pair) = pair l ++ others labels := by
  induction labels generalizing l with
  | nil => simp [List.intercalate, others]
  | cons m labels ih =>
    have h := ih m
    simp only [List.intercalate, List.map_cons, List.intersperse_cons_cons, List.flatten_cons] at h ⊢
    rw [h]
    simp [others]

theorem others_inj {as bs : List Label} (h : others as = others bs) : as = bs := by
  induction as generalizing bs with
  | nil => cases bs with
    | nil => rfl
    | cons b bs => simp [others] at h
  | cons a as ih => cases bs with
    | nil => simp [others] at h
    | cons b bs =>
      simp only [others, List.flatMap_cons, List.cons_append] at h
      obtain ⟨rfl, hrest⟩ := pair_append_inj (List.cons.inj h).2
      rw [ih hrest]

/-- **A key belongs to one list of labels**, whatever characters its names and values hold. -/
theorem ofSorted_injective : Function.Injective ofSorted := by
  intro as bs h
  have h : List.intercalate [','] (as.map pair) = List.intercalate [','] (bs.map pair) := by
    simpa [ofSorted, String.ofList_inj] using h
  cases as with
  | nil => cases bs with
    | nil => rfl
    | cons b bs =>
      rw [intercalate_pairs] at h
      simp [pair, List.intercalate] at h
  | cons a as => cases bs with
    | nil =>
      rw [intercalate_pairs] at h
      simp [pair, List.intercalate] at h
    | cons b bs =>
      rw [intercalate_pairs, intercalate_pairs] at h
      obtain ⟨rfl, hrest⟩ := pair_append_inj h
      rw [others_inj hrest]

end SeriesKey

/-! ## Distinct names -/

namespace Label

def Distinct (labels : List Label) : Prop := (labels.map Label.name).Nodup

theorem repeatedName?_eq_none_iff {seen : List String} {labels : List Label} :
    repeatedName? seen labels = none ↔ Distinct labels ∧ ∀ l ∈ labels, l.name ∉ seen := by
  induction labels generalizing seen with
  | nil => simp [repeatedName?, Distinct]
  | cons l rest ih =>
    unfold repeatedName?
    split
    · rename_i hl
      simp only [reduceCtorEq, List.mem_cons, forall_eq_or_imp, false_iff]
      exact fun h => h.2.1 hl
    · rename_i hl
      rw [ih]
      simp only [Distinct, List.map_cons, List.nodup_cons, List.mem_map, List.mem_cons, not_or, forall_eq_or_imp]
      constructor
      · rintro ⟨hd, hrest⟩
        exact ⟨⟨fun ⟨m, hm, hname⟩ => (hrest m hm).1 hname, hd⟩, hl, fun m hm => (hrest m hm).2⟩
      · rintro ⟨⟨hfresh, hd⟩, -, hrest⟩
        exact ⟨hd, fun m hm => ⟨fun hname => hfresh ⟨m, hm, hname⟩, hrest m hm⟩⟩

theorem Distinct.eq_of_name {labels : List Label} (h : Distinct labels) {a b : Label} (ha : a ∈ labels)
    (hb : b ∈ labels) (hname : a.name = b.name) : a = b := List.inj_on_of_nodup_map h ha hb hname

theorem Distinct.nodup {labels : List Label} (h : Distinct labels) : labels.Nodup :=
  List.Pairwise.of_map Label.name (fun _ _ hne heq => hne (congrArg Label.name heq)) h

theorem Distinct.filter {labels : List Label} (h : Distinct labels) (p : Label → Bool) :
    Distinct (labels.filter p) :=
  List.Pairwise.sublist (List.filter_sublist.map Label.name) h

theorem Distinct.perm {as bs : List Label} (h : Distinct as) (hp : as.Perm bs) : Distinct bs :=
  (hp.map Label.name).nodup h

theorem Distinct.lookup? {labels : List Label} (h : Distinct labels) {name value : String} :
    Label.lookup? labels name = some value ↔ ⟨name, value⟩ ∈ labels := by
  simp only [Label.lookup?, Option.map_eq_some_iff]
  constructor
  · rintro ⟨l, hfind, rfl⟩
    have hname : l.name = name := by simpa using List.find?_some hfind
    exact hname ▸ List.mem_of_find?_eq_some hfind
  · intro hmem
    obtain ⟨l, hfind⟩ : ∃ l, labels.find? (fun l => l.name == name) = some l :=
      Option.isSome_iff_exists.1 (List.find?_isSome.2 ⟨_, hmem, by simp⟩)
    have hname : l.name = name := by simpa using List.find?_some hfind
    exact ⟨l, hfind, by rw [h.eq_of_name (List.mem_of_find?_eq_some hfind) hmem hname]⟩

theorem Distinct.perm_of_lookup? {as bs : List Label} (ha : Distinct as) (hb : Distinct bs)
    (h : ∀ name, Label.lookup? as name = Label.lookup? bs name) : as.Perm bs := by
  have hmem : ∀ l, l ∈ as ↔ l ∈ bs := fun l => by rw [← ha.lookup?, ← hb.lookup?, h]
  exact (List.perm_ext_iff_of_nodup ha.nodup hb.nodup).2 hmem

theorem Distinct.of_ascending {labels : List Label} (h : labels.Pairwise fun a b => a.name < b.name) :
    Distinct labels := by
  refine List.pairwise_map.2 (h.imp fun {a b} hlt heq => ?_)
  rw [heq] at hlt
  exact String.lt_irrefl _ hlt

theorem eq_of_perm_of_ascending {as bs : List Label} (h : as.Perm bs) (ha : as.Pairwise fun a b => a.name < b.name)
    (hb : bs.Pairwise fun a b => a.name < b.name) : as = bs := by
  refine h.eq_of_pairwise (fun a b _ _ hab hba => ?_) ha hb
  exact absurd (String.lt_trans hab hba) (String.lt_irrefl _)

end Label

/-! ## Identity labels -/

namespace Identity

variable {nameLabel : String} {partLabels : List String} {labels as bs : List Label}

theorem mem_labelsOf {l : Label} :
    l ∈ labelsOf nameLabel partLabels labels ↔ l ∈ labels ∧ l.name ≠ nameLabel ∧ l.name ∉ partLabels := by
  rw [labelsOf, (perm_sortBy _ _).mem_iff, List.mem_filter]
  simp [isIdentifying]

theorem distinct_labelsOf (h : Label.Distinct labels) : Label.Distinct (labelsOf nameLabel partLabels labels) :=
  (h.filter _).perm (perm_sortBy _ _).symm

theorem pairwise_labelsOf : (labelsOf nameLabel partLabels labels).Pairwise fun a b => a.name ≤ b.name := by
  have h : (labelsOf nameLabel partLabels labels).Pairwise fun a b => decide (a.name ≤ b.name) := by
    refine pairwise_sortBy (fun a b c hab hbc => ?_) (fun a b => ?_) _
    · exact decide_eq_true (String.le_trans (of_decide_eq_true hab) (of_decide_eq_true hbc))
    · simpa using String.le_total a.name b.name
  exact h.imp of_decide_eq_true

theorem pairwise_lt_labelsOf (h : Label.Distinct labels) :
    (labelsOf nameLabel partLabels labels).Pairwise fun a b => a.name < b.name := by
  have hne : Label.Distinct (labelsOf nameLabel partLabels labels) := distinct_labelsOf h
  refine (pairwise_labelsOf.and (List.pairwise_map.1 hne)).imp fun {a b} hab => ?_
  exact String.not_le.1 fun hle => hab.2 (String.le_antisymm hab.1 hle)

/-- Sorting by name is canonical: two lists have the same identity labels when they carry the same ones. -/
theorem labelsOf_eq_iff (ha : Label.Distinct as) (hb : Label.Distinct bs) :
    labelsOf nameLabel partLabels as = labelsOf nameLabel partLabels bs ↔
      ∀ l : Label, l.name ≠ nameLabel → l.name ∉ partLabels → (l ∈ as ↔ l ∈ bs) := by
  constructor
  · intro h l hname hpart
    have := congrArg (l ∈ ·) h
    simpa [mem_labelsOf, hname, hpart] using this
  · intro h
    have hmem : ∀ l, l ∈ labelsOf nameLabel partLabels as ↔ l ∈ labelsOf nameLabel partLabels bs := by
      intro l
      rw [mem_labelsOf, mem_labelsOf]
      exact ⟨fun ⟨hl, hn, hp⟩ => ⟨(h l hn hp).1 hl, hn, hp⟩, fun ⟨hl, hn, hp⟩ => ⟨(h l hn hp).2 hl, hn, hp⟩⟩
    have hperm := (List.perm_ext_iff_of_nodup (distinct_labelsOf ha).nodup (distinct_labelsOf hb).nodup).2 hmem
    exact Label.eq_of_perm_of_ascending hperm (pairwise_lt_labelsOf ha) (pairwise_lt_labelsOf hb)

theorem ofLabels_eq_ok_iff {identity : Identity} :
    ofLabels nameLabel partLabels labels = .ok identity ↔
      Label.Distinct labels ∧
      ¬ ((Label.lookup? labels bucketLabel).isSome ∧ (Label.lookup? labels quantileLabel).isSome) ∧
      identity = ⟨.ofSorted (labelsOf nameLabel partLabels labels), labelsOf nameLabel partLabels labels⟩ := by
  unfold ofLabels
  split
  · rename_i name hname
    have hnot : ¬ Label.Distinct labels := fun h => by
      rw [Label.repeatedName?_eq_none_iff.2 ⟨h, by simp⟩] at hname
      cases hname
    simp [hnot]
  · rename_i hnone
    have hdistinct := (Label.repeatedName?_eq_none_iff.1 hnone).1
    split
    · rename_i hboth
      simp [hboth]
    · rename_i hboth
      simp only [Except.ok.injEq, hdistinct, hboth, not_false_eq_true, true_and]
      exact eq_comm

/-- **Keys are a canonical form of series identity.** Of two accepted label lists the keys agree exactly if the lists
carry the same labels apart from the metric name and the labels that name a part, in whatever order. -/
theorem key_eq_iff_same_labels {i j : Identity} (hi : ofLabels nameLabel partLabels as = .ok i)
    (hj : ofLabels nameLabel partLabels bs = .ok j) :
    i.key = j.key ↔ ∀ l : Label, l.name ≠ nameLabel → l.name ∉ partLabels → (l ∈ as ↔ l ∈ bs) := by
  obtain ⟨ha, -, rfl⟩ := ofLabels_eq_ok_iff.1 hi
  obtain ⟨hb, -, rfl⟩ := ofLabels_eq_ok_iff.1 hj
  rw [← labelsOf_eq_iff ha hb]
  exact SeriesKey.ofSorted_injective.eq_iff

/-- Commas, quotes and equals signs in a value do not make one label look like two. -/
theorem key_of_delimiters_is_its_own :
    ∃ i j, ofLabels "__name__" [bucketLabel] [⟨"__name__", "h"⟩, ⟨"a", "1\",b=\"2"⟩] = .ok i ∧
      ofLabels "__name__" [bucketLabel] [⟨"le", "0.5"⟩, ⟨"b", "2"⟩, ⟨"a", "1"⟩] = .ok j ∧ i.key ≠ j.key := by
  obtain ⟨i, hi⟩ : ∃ i, ofLabels "__name__" [bucketLabel] [⟨"__name__", "h"⟩, ⟨"a", "1\",b=\"2"⟩] = .ok i := ⟨_, rfl⟩
  obtain ⟨j, hj⟩ : ∃ j, ofLabels "__name__" [bucketLabel] [⟨"le", "0.5"⟩, ⟨"b", "2"⟩, ⟨"a", "1"⟩] = .ok j := ⟨_, rfl⟩
  refine ⟨i, j, hi, hj, fun h => ?_⟩
  have hb := (key_eq_iff_same_labels hi hj).1 h ⟨"b", "2"⟩ (by decide) (by decide)
  exact absurd (hb.2 (by decide)) (by decide)

end Identity

end Telemetry
