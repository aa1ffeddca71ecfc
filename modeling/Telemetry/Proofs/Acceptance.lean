import Telemetry.Proofs.Cycle
import Telemetry.Proofs.History

/-!
# What a cycle takes in

The answer to a sample is the verdict of its family as the store declares it, if the settings let the sample
through; what came before does not matter (`Cycle.answer_extend`). The samples taken in by a run are therefore those
of a filter (`Cycle.accepted_start`), its statistics count the samples of a run by what becomes of each
(`Cycle.stats_extend`), and its series tell the histories of the samples taken in (`Cycle.tells_of_mem_families`).
-/

namespace Telemetry

namespace Family

variable {f : Family}

/-- What a family answers to a sample, whatever series it holds. -/
def verdict (f : Family) (x : Sample) : Except Rejection Unit :=
  (f.identify x.labels).bind fun _ => (f.partOf x).map fun _ => ()

theorem verdict_congr {g : Family} (hname : f.name = g.name) (hmeta : f.metadata = g.metadata)
    (hset : f.settings = g.settings) (x : Sample) : f.verdict x = g.verdict x := by
  obtain ⟨_, _, _, _, _⟩ := f
  obtain ⟨_, _, _, _, _⟩ := g
  subst hname hmeta hset
  rfl

theorem isOk_verdict (f : Family) (x : Sample) : (f.verdict x).isOk = f.accepts x := by
  unfold verdict accepts
  cases f.identify x.labels <;> cases f.partOf x <;> rfl

theorem answer_ingest (hf : f.Keyed) (x : Sample) : (f.ingest x).map (fun _ => ()) = f.verdict x := by
  rw [ingest_eq x hf, verdict]
  cases f.identify x.labels <;> cases f.partOf x <;> rfl

end Family

namespace Cycle

def takes (c : Cycle) (x : Sample) : Bool := reaches c.settings x && (c.add x).2.isOk

/-- The samples of a run that are taken in, each judged by the cycle as the ones before it left it. -/
def accepted (c : Cycle) : List Sample → List Sample
  | [] => []
  | x :: xs => if c.takes x then x :: (c.add x).1.accepted xs else (c.add x).1.accepted xs

/-- The samples of a run that `keep` picks out, each as the cycle stands when it comes. -/
def kept (keep : Cycle → Sample → Bool) (c : Cycle) : List Sample → List Sample
  | [] => []
  | x :: xs => if keep c x then x :: (c.add x).1.kept keep xs else (c.add x).1.kept keep xs

def familyOf (store : MetadataStore) (settings : AssemblySettings) (x : Sample) : Family :=
  .declared (familyName store x.name) store settings

theorem answer_deliver (c : Cycle) (f : Family) (x : Sample) :
    (c.deliver f x).2 = (f.ingest x).map fun _ => () := by
  unfold deliver
  cases f.ingest x <;> rfl

theorem answer_add (c : Cycle) (x : Sample) : (c.add x).2 =
    if reaches c.settings x then ((c.openFamily (familyName c.metadata x.name)).2.ingest x).map fun _ => ()
    else .ok () := by
  rw [add_eq]
  cases reaches c.settings x with
  | false => rfl
  | true => exact answer_deliver _ _ x

/-- Each sample is counted once: as dropped, accepted or rejected. -/
theorem stats_add (c : Cycle) (x : Sample) : (c.add x).1.stats =
    if reaches c.settings x then
      if (c.add x).2.isOk then { c.stats with accepted := c.stats.accepted + 1 }
      else { c.stats with rejected := c.stats.rejected + 1 }
    else { c.stats with droppedStale := c.stats.droppedStale + 1 } := by
  have hopen : (c.openFamily (familyName c.metadata x.name)).1.stats = c.stats := by
    unfold openFamily
    split <;> rfl
  rw [add_eq]
  cases reaches c.settings x with
  | false => rfl
  | true =>
    rw [if_pos rfl, if_pos rfl, ← hopen]
    unfold deliver
    cases (c.openFamily (familyName c.metadata x.name)).2.ingest x <;> rfl

section Run

variable (target : Target) (store : MetadataStore) (settings : AssemblySettings) (xs : List Sample)

theorem opened_spec (name : String) :
    (((start target store settings).extend xs).openFamily name).2.Keyed ∧
    (((start target store settings).extend xs).openFamily name).2.name = name ∧
    (((start target store settings).extend xs).openFamily name).2.metadata =
      (Family.declared name store settings).metadata ∧
    (((start target store settings).extend xs).openFamily name).2.settings = settings := by
  obtain ⟨hmetadata, hsettings⟩ := extend_fixed target store settings xs
  unfold openFamily
  cases hfind : ((start target store settings).extend xs).family? name with
  | some f =>
    have hmem : f ∈ ((start target store settings).extend xs).families := List.mem_of_find?_eq_some hfind
    have hname : f.name = name := by
      unfold family? at hfind
      simpa using List.find?_some hfind
    have hextend := family_eq_extend hmem
    rw [hname] at hextend
    refine ⟨(sound_of_mem_families hmem).1.keyed, hname, ?_, (sound_of_mem_families hmem).2⟩
    change f.metadata = _
    rw [hextend]
    exact (Family.extend_fixed _ _).2.1
  | none =>
    rw [hmetadata, hsettings]
    exact ⟨Family.keyed_declared name store settings, rfl, rfl, rfl⟩

/-- **The answer to a sample depends on the sample alone.** -/
theorem answer_extend (x : Sample) : (((start target store settings).extend xs).add x).2 =
    if reaches settings x then (familyOf store settings x).verdict x else .ok () := by
  obtain ⟨hmetadata, hsettings⟩ := extend_fixed target store settings xs
  obtain ⟨hkeyed, hname, hmeta, hset⟩ := opened_spec target store settings xs (familyName store x.name)
  rw [answer_add, hmetadata, hsettings, Family.answer_ingest hkeyed, Family.verdict_congr hname hmeta hset]
  rfl

theorem takes_extend (x : Sample) : ((start target store settings).extend xs).takes x =
    (reaches settings x && (familyOf store settings x).accepts x) := by
  obtain ⟨-, hsettings⟩ := extend_fixed target store settings xs
  rw [takes, hsettings, answer_extend]
  cases reaches settings x with
  | false => rfl
  | true => exact Family.isOk_verdict _ x

theorem stats_extend : ((start target store settings).extend xs).stats =
    { accepted := xs.countP fun x => reaches settings x && (familyOf store settings x).accepts x
      rejected := xs.countP fun x => reaches settings x && !(familyOf store settings x).accepts x
      droppedStale := xs.countP fun x => !reaches settings x } := by
  induction xs using List.reverseRecOn with
  | nil => rfl
  | append_singleton xs x ih =>
    obtain ⟨-, hsettings⟩ := extend_fixed target store settings xs
    rw [extend_append, stats_add, hsettings, answer_extend, ih]
    simp only [List.countP_append, List.countP_singleton]
    cases reaches settings x with
    | false => rfl
    | true =>
      simp only [if_true, Family.isOk_verdict]
      cases (familyOf store settings x).accepts x <;> rfl

theorem kept_append (keep : Cycle → Sample → Bool) (c : Cycle) (xs ys : List Sample) :
    c.kept keep (xs ++ ys) = c.kept keep xs ++ (c.extend xs).kept keep ys := by
  induction xs generalizing c with
  | nil => rfl
  | cons x xs ih =>
    rw [List.cons_append, kept, kept, ih]
    split <;> rfl

/-- What a run keeps is a filter of it, if the cycle does not matter to the choice. -/
theorem kept_start {keep : Cycle → Sample → Bool} {p : Sample → Bool}
    (h : ∀ ys x, keep ((start target store settings).extend ys) x = p x) :
    (start target store settings).kept keep xs = xs.filter p := by
  induction xs using List.reverseRecOn with
  | nil => rfl
  | append_singleton xs x ih =>
    rw [kept_append, ih, List.filter_append, kept, h, kept, List.filter_cons, List.filter_nil]

theorem accepted_eq_kept (c : Cycle) (xs : List Sample) : c.accepted xs = c.kept takes xs := by
  induction xs generalizing c with
  | nil => rfl
  | cons x xs ih => rw [accepted, kept, ih]

theorem accepted_start : (start target store settings).accepted xs =
    xs.filter fun x => reaches settings x && (familyOf store settings x).accepts x := by
  rw [accepted_eq_kept]
  exact kept_start target store settings xs fun ys x => takes_extend target store settings ys x

theorem filter_accepted (name : String) :
    ((start target store settings).accepted xs).filter (fun x => familyName store x.name = name) =
      ((xs.filter (reaches settings)).filter fun x => familyName store x.name = name).filter
        (Family.declared name store settings).accepts := by
  rw [accepted_start, List.filter_filter, List.filter_filter, List.filter_filter]
  refine List.filter_congr fun x _ => ?_
  by_cases hname : familyName store x.name = name
  · simp [familyOf, hname, Bool.and_comm]
  · simp [hname]

variable {target store settings xs}

theorem tells_of_mem_families {f : Family} (hf : f ∈ ((start target store settings).extend xs).families) {s : Series}
    (hs : s ∈ f.series) : (Family.declared f.name store settings).Tells
      ((((start target store settings).accepted xs).filter fun x => familyName store x.name = f.name).filter fun x =>
        (Family.declared f.name store settings).keyOf x = s.key) s := by
  rw [family_eq_extend hf, Family.series_extend_declared] at hs
  rw [filter_accepted]
  exact Family.tells_of_mem hs

end Run

end Cycle

end Telemetry
