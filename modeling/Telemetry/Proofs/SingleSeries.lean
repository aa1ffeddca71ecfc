import Telemetry.Proofs.Binary64.Rounding
import Telemetry.Proofs.LabelNames

/-!
# Runs of one series

A sample carries the labels of a series if it has these labels and at most one more behind them, the one with its
boundary. Such samples have one identity, so a run of them that a family accepts leaves one series, whose history is
the whole run (`Family.exists_series`), and shows the labels as the samples carry them (`Family.arrange_series`).
-/

namespace Telemetry

theorem Label.lookup?_append_self {labels : List Label} {name value : String} (h : ∀ l ∈ labels, l.name ≠ name) :
    lookup? (labels ++ [⟨name, value⟩]) name = some value := by
  have hnone : labels.find? (fun l => l.name == name) = none := List.find?_eq_none.2 fun l hl => by simpa using h l hl
  simp [lookup?, List.find?_append, hnone]

theorem Slot.kept_of_not_stale {slot : Slot} {value : Binary64} (h : value.isStale = false) :
    slot.kept value = value := by
  simp [kept, h]

theorem Slot.kept_ofNat {n : Nat} (hn : n ≤ 2 ^ 53) (slot : Slot) : slot.kept (.ofNat n) = .ofNat n :=
  kept_of_not_stale (Binary64.not_isStale_of_isNaN (Binary64.isNaN_of_isFinite (Binary64.isFinite_ofNat hn)))

namespace Family

variable {f : Family} {own : List Label} {x : Sample}

/-! ## One sample -/

theorem partLabels_eq (f : Family) : f.type.partLabels = f.shape.boundaryLabel?.toList := by
  unfold MetricType.partLabels shape
  cases f.type.shape <;> rfl

/-- Whether a sample carries the labels of a series, and behind them at most the label with its boundary. -/
def Carries (f : Family) (own : List Label) (x : Sample) : Prop :=
  x.labels = own ∨ ∃ label ∈ f.shape.boundaryLabel?, ∃ value, x.labels = own ++ [⟨label, value⟩]

theorem identifying_of_carries (h : f.Carries own x) :
    f.identifying x = own.filter (Identity.isIdentifying f.settings.nameLabel f.type.partLabels) := by
  rcases h with h | ⟨label, hlabel, value, h⟩
  · rw [identifying, h]
  · have hpart : ¬ Identity.isIdentifying f.settings.nameLabel f.type.partLabels ⟨label, value⟩ = true := by
      simp [Identity.isIdentifying, partLabels_eq, Option.mem_def.1 hlabel]
    rw [identifying, h, List.filter_append, List.filter_cons_of_neg hpart, List.filter_nil, List.append_nil]

theorem identityLabels_of_carries (h : f.Carries own x) :
    f.identityLabels x = Identity.labelsOf f.settings.nameLabel f.type.partLabels own :=
  congrArg (sortBy fun a b : Label => decide (a.name ≤ b.name)) (identifying_of_carries h)

theorem mem_of_boundaryLabel {shape : Shape} {label : String} (h : label ∈ shape.boundaryLabel?) :
    label = bucketLabel ∨ label = quantileLabel := by
  cases shape <;> cases h
  · exact Or.inl rfl
  · exact Or.inr rfl

section Plain

variable (hplain : ∀ l ∈ own, l.name ≠ bucketLabel ∧ l.name ≠ quantileLabel)

include hplain

theorem ne_of_boundaryLabel {shape : Shape} {label : String} (h : label ∈ shape.boundaryLabel?) :
    ∀ l ∈ own, l.name ≠ label := by
  intro l hl
  rcases mem_of_boundaryLabel h with rfl | rfl
  · exact (hplain l hl).1
  · exact (hplain l hl).2

theorem boundOf?_of_carries {label value : String} (hlabel : label ∈ f.shape.boundaryLabel?)
    (h : x.labels = own ++ [⟨label, value⟩]) : f.boundOf? x = boundary? value := by
  have hlookup : Label.lookup? x.labels label = some value := by
    rw [h]
    exact Label.lookup?_append_self (ne_of_boundaryLabel hplain hlabel)
  rw [boundOf?, Option.mem_def.1 hlabel, Option.bind_some, hlookup, Option.bind_some]

theorem not_both_of_carries (h : f.Carries own x) :
    ¬ ((Label.lookup? x.labels bucketLabel).isSome ∧ (Label.lookup? x.labels quantileLabel).isSome) := by
  have hmem : ∀ name, (Label.lookup? x.labels name).isSome → ∃ l ∈ x.labels, l.name = name := by
    intro name hname
    rw [Label.lookup?, Option.isSome_map, List.find?_isSome] at hname
    simpa using hname
  rintro ⟨hbucket, hquantile⟩
  obtain ⟨l, hl, hlname⟩ := hmem _ hbucket
  obtain ⟨m, hm, hmname⟩ := hmem _ hquantile
  rcases h with h | ⟨label, -, value, h⟩
  · rw [h] at hl
    exact (hplain l hl).1 hlname
  · rw [h, List.mem_append, List.mem_singleton] at hl hm
    rcases hl with hl | rfl
    · exact (hplain l hl).1 hlname
    · rcases hm with hm | rfl
      · exact (hplain m hm).2 hmname
      · exact absurd (hlname.symm.trans hmname) (by decide)

theorem identify_of_carries (hdistinct : Label.Distinct own) (h : f.Carries own x) :
    ∃ identity, f.identify x.labels = .ok identity := by
  refine ⟨_, f.identify_eq_ok_iff.2 ⟨?_, not_both_of_carries hplain h, rfl⟩⟩
  rcases h with h | ⟨label, hlabel, value, h⟩
  · rwa [h]
  · rw [h, Label.Distinct, List.map_append, List.nodup_append]
    refine ⟨hdistinct, List.nodup_singleton _, ?_⟩
    rintro name hname other hother rfl
    obtain ⟨l, hl, rfl⟩ := List.mem_map.1 hname
    exact ne_of_boundaryLabel hplain hlabel l hl (List.mem_singleton.1 hother)

theorem accepts_of_carries (hdistinct : Label.Distinct own) (h : f.Carries own x) {part : Option Part}
    (hpart : f.partOf x = .ok part) : f.accepts x = true :=
  (f.accepts_iff x).2 ⟨identify_of_carries hplain hdistinct h, part, hpart⟩

theorem filter_isIdentifying (f : Family) : own.filter (Identity.isIdentifying f.settings.nameLabel f.type.partLabels) =
    own.filter fun l => l.name ≠ f.settings.nameLabel := by
  refine List.filter_congr fun l hl => ?_
  have hother : l.name ∉ f.type.partLabels := by
    rw [partLabels_eq, Option.mem_toList]
    exact fun hlabel => ne_of_boundaryLabel hplain hlabel l hl rfl
  simp [Identity.isIdentifying, hother, bne, beq_eq_decide]

end Plain

/-! ## A run -/

section Run

variable {name : String} {store : MetadataStore} {settings : AssemblySettings} {xs : List Sample} (hne : xs ≠ [])
  (haccepts : ∀ x ∈ xs, (declared name store settings).accepts x = true)
  (hcarries : ∀ x ∈ xs, (declared name store settings).Carries own x)

include haccepts in
theorem accepted_eq_self : (declared name store settings).accepted xs = xs := by
  rw [accepted_eq (keyed_declared name store settings), List.filter_eq_self.2 haccepts]

include hne haccepts hcarries

/-- **The samples of one series make one series**, and the whole run is its history. -/
theorem exists_series : ∃ s : Series, ((declared name store settings).extend xs).series = [s] ∧
    s.labels = Identity.labelsOf settings.nameLabel (declared name store settings).type.partLabels own ∧
    (declared name store settings).Tells xs s := by
  have hidentity : ∀ x ∈ xs, (declared name store settings).identityLabels x =
      Identity.labelsOf settings.nameLabel (declared name store settings).type.partLabels own := fun x hx =>
    identityLabels_of_carries (hcarries x hx)
  have hrun := (declared name store settings).map_labels_run xs
  rw [List.filter_eq_self.2 haccepts, eraseDups_of_forall_eq (by simpa using hne) (List.forall_mem_map.2 hidentity),
    List.map_eq_singleton_iff] at hrun
  obtain ⟨s, hrun, hlabels⟩ := hrun
  have hmem : s ∈ (declared name store settings).grouping.run
      (xs.filter (declared name store settings).accepts) := by
    rw [List.filter_eq_self.2 haccepts, hrun]
    exact List.mem_singleton_self s
  have hkey : ∀ x ∈ xs, decide ((declared name store settings).keyOf x = s.key) = true := fun x hx => by
    rw [(soundSeries_of_mem hmem).key, hlabels, ← hidentity x hx]
    exact decide_eq_true rfl
  have htells := tells_of_mem hmem
  rw [List.filter_eq_self.2 haccepts, List.filter_eq_self.2 hkey] at htells
  exact ⟨s, by rw [series_extend_declared, List.filter_eq_self.2 haccepts, hrun], hlabels, htells⟩

/-- The series shows its labels as the samples carry them. -/
theorem arrange_series (hplain : ∀ l ∈ own, l.name ≠ bucketLabel ∧ l.name ≠ quantileLabel)
    (hdistinct : Label.Distinct own) :
    ((declared name store settings).extend xs).labelOrder.arrange
        (Identity.labelsOf settings.nameLabel (declared name store settings).type.partLabels own) =
      own.filter fun l => l.name ≠ settings.nameLabel := by
  have haccepted : (declared name store settings).accepted xs = xs := accepted_eq_self haccepts
  have hsome : (declared name store settings).accepted xs ≠ [] := by rwa [haccepted]
  have horder := labelOrder_extend_of_same name store settings hsome fun x hx =>
    identifying_of_carries (hcarries x (haccepted ▸ hx))
  have hperm : (Identity.labelsOf settings.nameLabel (declared name store settings).type.partLabels own).Perm
      (own.filter (Identity.isIdentifying settings.nameLabel (declared name store settings).type.partLabels)) :=
    perm_sortBy _ _
  rw [horder]
  exact (LabelOrder.arrange_observe (hdistinct.filter _) hperm).trans
    (filter_isIdentifying hplain (declared name store settings))

end Run

end Family

end Telemetry
