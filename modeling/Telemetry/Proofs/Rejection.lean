import Telemetry.Proofs.Acceptance
import Telemetry.Proofs.IndexedFamily
import Telemetry.Proofs.Isolation

/-!
# What a rejection leaves behind

Every check that can reject a sample comes before the first change that it makes, so ingestion in place, which would
not take a change back, comes to the same as `Family.ingest`, whether the family searches for a series
(`Family.ingestInPlace_eq`) or keeps its place (`IndexedFamily.run_ingest_extend`). A cycle keeps the family that a
rejected sample opened, but a family without series has no record, and the run might as well have gone without the
sample (`Cycle.rejection_leaves_no_trace`).
-/

namespace Telemetry

/-! ## Families -/

namespace Family

/-- Takes a sample in by changes to the family, one after the other; they stay made when a later step fails. -/
def ingestInPlace (x : Sample) : EStateM Rejection Family Unit := do
  let f ← get
  let identity ← ofExcept (f.identify x.labels)
  let part ← ofExcept (f.partOf x)
  match f.find? identity.key with
  | some series =>
    if series.labels ≠ identity.labels then
      throw (.inconsistentSeries f.name identity.key.text (Label.render identity.labels))
  | none =>
    modify fun f => { f with
      labelOrder := f.labelOrder.observe
        (x.labels.filter (Identity.isIdentifying f.settings.nameLabel f.type.partLabels)) }
    modify fun f => { f with series := f.series ++ [.start f.shape identity x.timestamp] }
  modify fun f => { f with series := f.series.map fun s => if s.key = identity.key then f.feed x part s else s }

/-- Ingestion in place fails before it changes anything, or comes to the family with the sample taken in. -/
theorem ingestInPlace_eq (f : Family) (x : Sample) : (ingestInPlace x).run f =
    match f.ingest x with
    | .ok g => .ok () g
    | .error reason => .error reason f := by
  unfold ingestInPlace ingest
  simp only [EStateM.run_bind, EStateM.run_get]
  cases f.identify x.labels with
  | error reason => rfl
  | ok identity =>
    simp only [bind, Except.bind]
    cases f.partOf x with
    | error reason => rfl
    | ok part =>
      simp only [openSeries, ofExcept, EStateM.run_pure]
      cases f.find? identity.key with
      | none => rfl
      | some series =>
        -- the last check that can fail, and still nothing has changed
        by_cases hlabels : series.labels = identity.labels
        · simp only [hlabels, ne_eq, not_true_eq_false, if_false, if_true]
          rfl
        · simp only [hlabels, ne_eq, not_false_eq_true, if_false, if_true]
          rfl

theorem extend_filter_accepts (name : String) (store : MetadataStore) (settings : AssemblySettings) (xs : List Sample) :
    (declared name store settings).extend (xs.filter (declared name store settings).accepts) =
      (declared name store settings).extend xs := by
  have hkeyed := keyed_declared name store settings
  rw [extend_eq hkeyed, extend_eq hkeyed, List.filter_filter]
  simp

end Family

/-- Behind any run the samples of a family with an index are taken in whole, or not at all. -/
theorem IndexedFamily.run_ingest_extend (name : String) (store : MetadataStore) (settings : AssemblySettings)
    (xs : List Sample) :
    ∃ g, (declared name store settings).extend xs = .ok g ∧
      g.Shows ((Family.declared name store settings).extend xs) ∧
      ∀ x, match g.toFamily.ingest x with
        | .ok fed => ∃ g', (ingest x).run g = .ok () g' ∧ g'.Shows fed
        | .error reason => (ingest x).run g = .error (.rejected reason) g := by
  obtain ⟨g, hrun, hshows⟩ := extend_declared name store settings xs
  refine ⟨g, hrun, hshows, fun x => ?_⟩
  rw [hshows.family]
  exact run_ingest hshows (Family.sound_extend_declared name store settings xs).shape_eq x

/-! ## Cycles -/

namespace Cycle

def unrejected : Cycle → List Sample → List Sample := kept fun c x => (c.add x).2.isOk

section Run

variable (target : Target) (store : MetadataStore) (settings : AssemblySettings) (xs : List Sample)

theorem unrejected_start : (start target store settings).unrejected xs =
    xs.filter fun x => !reaches settings x || (familyOf store settings x).accepts x := by
  refine kept_start target store settings xs fun ys x => ?_
  rw [answer_extend]
  cases reaches settings x with
  | false => rfl
  | true => exact Family.isOk_verdict _ x

theorem share_unrejected (name : String) :
    share store settings name ((start target store settings).unrejected xs) =
      (share store settings name xs).filter (Family.declared name store settings).accepts := by
  rw [unrejected_start, share, share, List.filter_filter, List.filter_filter]
  refine List.filter_congr fun x _ => ?_
  by_cases hname : familyName store x.name = name
  · cases reaches settings x <;> simp [familyOf, hname]
  · simp [beq_false_of_ne hname]

/-- The records do not show that there were rejected samples, but for the order of families that one of them opened. -/
theorem perm_records_unrejected : ((start target store settings).extend xs).records.Perm
    ((start target store settings).extend ((start target store settings).unrejected xs)).records := by
  refine (matched_records target store settings xs fun name => ?_).perm
  rw [share_unrejected, Family.extend_filter_accepts]
  cases ((Family.declared name store settings).extend (share store settings name xs)).record? with
  | none => exact .none
  | some r => exact .some rfl

theorem stats_unrejected : ((start target store settings).extend ((start target store settings).unrejected xs)).stats =
    { ((start target store settings).extend xs).stats with rejected := 0 } := by
  rw [stats_extend, stats_extend, unrejected_start, List.countP_filter, List.countP_filter, List.countP_filter]
  congr 1
  · refine List.countP_congr fun x _ => ?_
    cases reaches settings x <;> simp
  · refine List.countP_eq_zero.2 fun x _ => ?_
    cases reaches settings x <;> simp
  · refine List.countP_congr fun x _ => ?_
    cases reaches settings x <;> simp

theorem length_unrejected : xs.length = ((start target store settings).unrejected xs).length +
    ((start target store settings).extend xs).stats.rejected := by
  rw [stats_extend, unrejected_start, ← List.countP_eq_length_filter,
    List.length_eq_countP_add_countP fun x => !reaches settings x || (familyOf store settings x).accepts x]
  congr 1
  refine List.countP_congr fun x _ => ?_
  simp

/-- **A rejection leaves no trace.** Changing a family step by step comes to the same answer and the same family as
taking the sample in at once, and where the sample is rejected the family is as it was: behind any run so are its
series, the places that its index has for them, and its label order. A run has the records of the run without the
samples that it rejects, though a family that one of these opened may stand in another place, and the same counts
but for the rejected samples, which are exactly those missing. -/
theorem rejection_leaves_no_trace :
    (∀ f x, (Family.ingestInPlace x).run f =
      match f.ingest x with
      | .ok g => .ok () g
      | .error reason => .error reason f) ∧
    (∀ name ys, ∃ g, (IndexedFamily.declared name store settings).extend ys = .ok g ∧
      g.Shows ((Family.declared name store settings).extend ys) ∧
      ∀ x, match g.toFamily.ingest x with
        | .ok fed => ∃ g', (IndexedFamily.ingest x).run g = .ok () g' ∧ g'.Shows fed
        | .error reason => (IndexedFamily.ingest x).run g = .error (.rejected reason) g) ∧
    let c := start target store settings
    let kept := c.unrejected xs
    (c.extend xs).records.Perm (c.extend kept).records ∧
    (c.extend xs).stats.accepted = (c.extend kept).stats.accepted ∧
    (c.extend xs).stats.droppedStale = (c.extend kept).stats.droppedStale ∧
    xs.length = kept.length + (c.extend xs).stats.rejected := by
  refine ⟨Family.ingestInPlace_eq, fun name ys => IndexedFamily.run_ingest_extend name store settings ys,
    perm_records_unrejected target store settings xs, ?_, ?_, length_unrejected target store settings xs⟩
  · rw [stats_unrejected]
  · rw [stats_unrejected]

/-- A rejected sample opens its family ahead of the others, and the order of the records shows this. -/
example :
    let c := start ⟨"node", "host"⟩ (fun _ => none) .default
    let xs : List Sample :=
      [⟨"b", [⟨"le", "1"⟩, ⟨"le", "1"⟩], 7, .ofNat 1, none⟩,
        ⟨"a", [], 7, .ofNat 1, none⟩,
        ⟨"b", [], 7, .ofNat 1, none⟩]
    (c.extend xs).records.map Record.name = ["b", "a"] ∧
      (c.extend (c.unrejected xs)).records.map Record.name = ["a", "b"] := by
  decide +kernel

end Run

end Cycle

end Telemetry
