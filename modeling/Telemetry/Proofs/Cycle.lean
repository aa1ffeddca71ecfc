import Mathlib.Data.List.Nodup
import Telemetry.Cycle
import Telemetry.Proofs.Family

/-!
# The families of a cycle

A cycle sends every sample that it does not drop to one family, by name alone, so its families are the groups of these
samples (`Cycle.families_extend`). Each is what its own samples make of the family that the store declares
(`Cycle.family_eq_extend`), whatever came for the others in between.
-/

namespace Telemetry.Cycle

/-- Whether the settings let a sample through to its family. -/
def reaches (settings : AssemblySettings) (x : Sample) : Bool := settings.keepStale || !x.value.isStale

def grouping (store : MetadataStore) (settings : AssemblySettings) : Grouping Sample String Family where
  key x := familyName store x.name
  keyOf := Family.name
  fresh x := .declared (familyName store x.name) store settings
  step := Family.take
  keyOf_fresh _ := rfl
  keyOf_step f x := (f.take_fixed x).1

theorem grouping_keyOf (store : MetadataStore) (settings : AssemblySettings) :
    (grouping store settings).keyOf = Family.name := rfl

theorem add_eq (c : Cycle) (x : Sample) : c.add x =
    if reaches c.settings x then
      (c.openFamily (familyName c.metadata x.name)).1.deliver (c.openFamily (familyName c.metadata x.name)).2 x
    else ({ c with stats.droppedStale := c.stats.droppedStale + 1 }, .ok ()) := by
  have hreach : (!c.settings.keepStale && x.value.isStale) = !reaches c.settings x := by simp [reaches]
  unfold add
  rw [hreach]
  cases reaches c.settings x <;> rfl

section Step

variable {c : Cycle}

/-- Where names are distinct, changing every family of a name is changing the one that has it. -/
theorem map_replace_eq {families : List Family} (hc : (families.map Family.name).Nodup) {f : Family}
    (hf : f ∈ families) (change : Family → Family) :
    (families.map fun g => if g.name = f.name then change f else g) =
      families.map fun g => if g.name = f.name then change g else g := by
  refine List.map_congr_left fun g hg => ?_
  by_cases hname : g.name = f.name
  · rw [List.inj_on_of_nodup_map hc hg hf hname]
  · rw [if_neg hname, if_neg hname]

theorem families_deliver (hc : (c.families.map Family.name).Nodup) {f : Family} (hf : f ∈ c.families) (x : Sample) :
    (c.deliver f x).1.families = c.families.map fun g => if g.name = f.name then g.take x else g := by
  rw [← map_replace_eq hc hf (fun g => g.take x)]
  unfold deliver
  cases h : f.ingest x with
  | ok g =>
    have htake : f.take x = g := by simp [Family.take, h]
    simp [replaceFamily, htake, (f.ingest_fixed x h).1]
  | error reason =>
    have htake : f.take x = f := by simp [Family.take, h]
    rw [htake, map_replace_eq hc hf fun g => g]
    simp

/-- The family of a name is in the cycle once it was opened; if there was none, it is declared behind the others. -/
theorem openFamily_spec (c : Cycle) (name : String) :
    (c.openFamily name).2 ∈ (c.openFamily name).1.families ∧ (c.openFamily name).2.name = name ∧
    (c.openFamily name).1.families =
      if name ∈ c.families.map Family.name then c.families
      else c.families ++ [.declared name c.metadata c.settings] := by
  unfold openFamily
  cases h : c.family? name with
  | some f =>
    have hmem : f ∈ c.families := List.mem_of_find?_eq_some h
    have hname : f.name = name := by
      unfold family? at h
      simpa using List.find?_some h
    exact ⟨hmem, hname, by rw [if_pos (hname ▸ List.mem_map_of_mem hmem)]⟩
  | none =>
    have hnew : name ∉ c.families.map Family.name := by
      unfold family? at h
      simpa using h
    exact ⟨List.mem_append_right _ (List.mem_singleton_self _), rfl, by rw [if_neg hnew]⟩

theorem nodup_openFamily (hc : (c.families.map Family.name).Nodup) (name : String) :
    ((c.openFamily name).1.families.map Family.name).Nodup := by
  rw [(c.openFamily_spec name).2.2]
  split
  · exact hc
  · rename_i hnew
    rw [List.map_append, List.nodup_append]
    refine ⟨hc, List.nodup_singleton _, fun a ha b hb => ?_⟩
    rintro rfl
    have hname : a = name := List.mem_singleton.1 hb
    exact hnew (hname ▸ ha)

theorem families_add (hc : (c.families.map Family.name).Nodup) (x : Sample) :
    (c.add x).1.families =
      if reaches c.settings x then (grouping c.metadata c.settings).absorb c.families x else c.families := by
  rw [add_eq]
  cases reaches c.settings x with
  | false => rfl
  | true =>
    obtain ⟨hmem, hname, hfamilies⟩ := c.openFamily_spec (familyName c.metadata x.name)
    rw [if_pos rfl, if_pos rfl, families_deliver (nodup_openFamily hc _) hmem, hname, hfamilies]
    change _ = if familyName c.metadata x.name ∈ c.families.map Family.name then _ else _
    split
    · rfl
    · rename_i hnew
      have hold : ∀ g ∈ c.families, g.name ≠ familyName c.metadata x.name := fun g hg h =>
        hnew (h ▸ List.mem_map_of_mem hg)
      rw [List.map_append, List.map_congr_left fun g hg => if_neg (hold g hg), List.map_id']
      simp [Family.declared, grouping]

end Step

/-! ## A run of samples -/

theorem deliver_fixed (c : Cycle) (f : Family) (x : Sample) :
    (c.deliver f x).1.metadata = c.metadata ∧ (c.deliver f x).1.settings = c.settings := by
  unfold deliver
  split <;> exact ⟨rfl, rfl⟩

theorem openFamily_fixed (c : Cycle) (name : String) :
    (c.openFamily name).1.metadata = c.metadata ∧ (c.openFamily name).1.settings = c.settings := by
  unfold openFamily
  split <;> exact ⟨rfl, rfl⟩

theorem add_fixed (c : Cycle) (x : Sample) : (c.add x).1.metadata = c.metadata ∧ (c.add x).1.settings = c.settings := by
  unfold add
  split
  · exact ⟨rfl, rfl⟩
  · obtain ⟨hmeta, hset⟩ := c.openFamily_fixed (familyName c.metadata x.name)
    obtain ⟨hdmeta, hdset⟩ := deliver_fixed (c.openFamily (familyName c.metadata x.name)).1
      (c.openFamily (familyName c.metadata x.name)).2 x
    exact ⟨hdmeta.trans hmeta, hdset.trans hset⟩

section Run

variable (target : Target) (store : MetadataStore) (settings : AssemblySettings) (xs : List Sample)

theorem extend_append (c : Cycle) (x : Sample) : c.extend (xs ++ [x]) = ((c.extend xs).add x).1 := by
  simp [extend]

theorem extend_fixed : ((start target store settings).extend xs).metadata = store ∧
    ((start target store settings).extend xs).settings = settings := by
  induction xs using List.reverseRecOn with
  | nil => exact ⟨rfl, rfl⟩
  | append_singleton xs x ih =>
    rw [extend_append]
    obtain ⟨hmeta, hset⟩ := add_fixed ((start target store settings).extend xs) x
    exact ⟨hmeta.trans ih.1, hset.trans ih.2⟩

/-- **The families of a run** are the groups of the samples that reach them, by name. -/
theorem families_extend : ((start target store settings).extend xs).families =
    (grouping store settings).run (xs.filter (reaches settings)) := by
  induction xs using List.reverseRecOn with
  | nil => rfl
  | append_singleton xs x ih =>
    have hnodup := (grouping store settings).nodup_run (xs.filter (reaches settings))
    rw [grouping_keyOf, ← ih] at hnodup
    obtain ⟨hmeta, hset⟩ := extend_fixed target store settings xs
    rw [extend_append, families_add hnodup, hmeta, hset, ih, List.filter_append]
    cases h : reaches settings x with
    | true => simp [h, Grouping.run_append]
    | false => simp [h]

theorem nodup_families : (((start target store settings).extend xs).families.map Family.name).Nodup := by
  rw [families_extend]
  exact (grouping store settings).nodup_run _

variable {target store settings xs}

/-- **A family is what its own samples make of it**, whatever reached the other families. -/
theorem family_eq_extend {f : Family} (hf : f ∈ ((start target store settings).extend xs).families) :
    f = (Family.declared f.name store settings).extend
      ((xs.filter (reaches settings)).filter fun x => familyName store x.name = f.name) := by
  rw [families_extend] at hf
  obtain ⟨x, rest, hhaving, hfold⟩ := (grouping store settings).valueOf?_eq_some_iff.1
    ((grouping store settings).mem_run.1 hf)
  have hkey : familyName store x.name = f.name :=
    (grouping store settings).key_of_mem_having (hhaving ▸ List.mem_cons_self)
  have hfresh : (grouping store settings).fresh x = .declared f.name store settings :=
    congrArg (fun name => Family.declared name store settings) hkey
  rw [hfresh] at hfold
  exact hfold.symm

theorem sound_of_mem_families {f : Family} (hf : f ∈ ((start target store settings).extend xs).families) :
    f.Sound ∧ f.settings = settings := by
  rw [family_eq_extend hf]
  exact ⟨Family.sound_extend_declared _ _ _ _, (Family.extend_fixed _ _).2.2⟩

theorem family_of_mem_records {r : Record} (hr : r ∈ ((start target store settings).extend xs).records) :
    ∃ f : Family, f.Sound ∧ f.settings = settings ∧ f.record? = some r := by
  obtain ⟨f, hf, hrecord⟩ := List.mem_filterMap.1 hr
  obtain ⟨hsound, hset⟩ := sound_of_mem_families hf
  exact ⟨f, hsound, hset, hrecord⟩

end Run

end Telemetry.Cycle
