import Mathlib.Data.List.Pairwise
import Telemetry.Proofs.Binary64.Order
import Telemetry.Series.Boundary

/-!
# Boundaries and their map

Every boundary that a label spells is regular (`regular_of_boundary?`), so a map that only such boundaries enter stays
in strictly ascending order of the numbers (`Ordered.insert`) and keeps one value for each number (`at?_insert`), and
these values are all there is to it (`Ordered.ext`).
-/

namespace Telemetry
open Binary64

theorem regular_of_boundary? {text : String} {bound : Binary64} (h : boundary? text = some bound) :
    bound.Regular := by
  unfold boundary? at h
  split at h
  · rename_i x _
    split at h
    · cases h
    · rename_i hnan
      split at h <;> cases h
      · exact regular_zero
      · rename_i hzero
        refine ⟨by simpa using hnan, ?_⟩
        rintro rfl
        exact hzero (by decide)
  · cases h

namespace BoundaryMap

/-- The boundaries are regular and ascend strictly, as numbers. -/
structure Ordered (m : BoundaryMap) : Prop where
  regular : ∀ e ∈ m.entries, e.1.Regular
  ascending : m.entries.Pairwise fun a b => a.1.lt b.1

def at? (m : BoundaryMap) (x : Binary64) : Option Binary64 :=
  (m.entries.find? fun e => e.1.sameNumber x).map Prod.snd

theorem ordered_empty : Ordered .empty := ⟨by simp [empty], by simp [empty]⟩

theorem mem_insertEntry {b v : Binary64} {es : List (Binary64 × Binary64)} {e : Binary64 × Binary64}
    (h : e ∈ insertEntry b v es) : e = (b, v) ∨ e ∈ es := by
  induction es with
  | nil => exact Or.inl (List.mem_singleton.1 h)
  | cons d rest ih =>
    obtain ⟨c, w⟩ := d
    unfold insertEntry at h
    split at h
    · exact List.mem_cons.1 h
    · rename_i hcmp
      rw [totalCompare_eq_eq.1 hcmp]
      rcases List.mem_cons.1 h with rfl | h
      · exact Or.inl rfl
      · exact Or.inr (List.mem_cons_of_mem _ h)
    · rcases List.mem_cons.1 h with rfl | h
      · exact Or.inr List.mem_cons_self
      · exact (ih h).imp_right (List.mem_cons_of_mem _)

theorem pairwise_insertEntry {b v : Binary64} (hb : b.Regular) {es : List (Binary64 × Binary64)}
    (hreg : ∀ e ∈ es, e.1.Regular) (hasc : es.Pairwise fun a b => a.1.lt b.1) :
    (insertEntry b v es).Pairwise fun a b => a.1.lt b.1 := by
  induction es with
  | nil => exact List.pairwise_singleton _ _
  | cons d rest ih =>
    obtain ⟨c, w⟩ := d
    obtain ⟨hc, hrest⟩ := List.pairwise_cons.1 hasc
    have hcreg : c.Regular := hreg _ List.mem_cons_self
    have hrreg : ∀ e ∈ rest, e.1.Regular := fun e he => hreg e (List.mem_cons_of_mem _ he)
    unfold insertEntry
    split
    · rename_i hcmp
      have hbc : b.lt c := (hb.lt_iff hcreg).2 (totalCompare_eq_lt.1 hcmp)
      refine List.pairwise_cons.2 ⟨fun e he => ?_, hasc⟩
      rcases List.mem_cons.1 he with rfl | he
      · exact hbc
      · exact lt_trans hbc (hc e he)
    · exact List.pairwise_cons.2 ⟨hc, hrest⟩
    · rename_i hcmp
      have hcb : c.lt b := (hcreg.lt_iff hb).2 (totalCompare_eq_gt.1 hcmp)
      refine List.pairwise_cons.2 ⟨fun e he => ?_, ih hrreg hrest⟩
      rcases mem_insertEntry he with rfl | he
      · exact hcb
      · exact hc e he

theorem Ordered.insert {m : BoundaryMap} (h : m.Ordered) {b : Binary64} (hb : b.Regular) (v : Binary64) :
    (m.insert b v).Ordered where
  regular e he := by
    rcases mem_insertEntry he with rfl | he
    · exact hb
    · exact h.regular e he
  ascending := pairwise_insertEntry hb h.regular h.ascending

theorem find?_insertEntry {b v : Binary64} (hb : b.Regular) {es : List (Binary64 × Binary64)}
    (hreg : ∀ e ∈ es, e.1.Regular) (x : Binary64) :
    ((insertEntry b v es).find? fun e => e.1.sameNumber x) =
      if b.sameNumber x then some (b, v) else es.find? fun e => e.1.sameNumber x := by
  induction es with
  | nil => simp [insertEntry, List.find?_cons]; split <;> simp_all
  | cons d rest ih =>
    obtain ⟨c, w⟩ := d
    have hcreg : c.Regular := hreg _ List.mem_cons_self
    have hrest := ih fun e he => hreg e (List.mem_cons_of_mem _ he)
    unfold insertEntry
    split
    · rw [List.find?_cons]
      split <;> simp_all
    · rename_i hcmp
      rw [totalCompare_eq_eq.1 hcmp, List.find?_cons, List.find?_cons]
      split <;> simp_all
    · rename_i hcmp
      -- a number that is `c` is not `b`, which lies above `c`
      have hne : c.sameNumber x → ¬ b.sameNumber x := fun hcx hbx => by
        have hcb := (hcreg.sameNumber_iff hb).1 (sameNumber_trans hcx (sameNumber_symm hbx))
        rw [totalCompare_eq_gt, hcb] at hcmp
        exact Int.lt_irrefl _ hcmp
      rw [List.find?_cons, List.find?_cons, hrest]
      split
      · rename_i hcx
        rw [if_neg (hne hcx)]
      · rfl

theorem at?_insert {m : BoundaryMap} (h : m.Ordered) {b : Binary64} (hb : b.Regular) (v x : Binary64) :
    (m.insert b v).at? x = if b.sameNumber x then some v else m.at? x := by
  rw [at?, insert, find?_insertEntry hb h.regular]
  split <;> rfl

/-- Of entries with regular and distinct numbers, those are there that are found by their number. -/
theorem mem_iff_find? {es : List (Binary64 × Binary64)} (hapart : es.Pairwise fun d e => ¬ d.1.sameNumber e.1)
    (hreg : ∀ e ∈ es, e.1.Regular) {b : Binary64} (hb : b.Regular) {v : Binary64} :
    (b, v) ∈ es ↔ (es.find? fun e => e.1.sameNumber b).map Prod.snd = some v := by
  have hself : b.sameNumber b := (hb.sameNumber_iff hb).2 rfl
  have hsymm : Std.Symm fun d e : Binary64 × Binary64 => ¬ d.1.sameNumber e.1 :=
    ⟨fun _ _ hde hed => hde (sameNumber_symm hed)⟩
  rw [Option.map_eq_some_iff]
  constructor
  · intro hmem
    cases hfind : es.find? fun e => e.1.sameNumber b with
    | none => exact absurd hself (List.find?_eq_none.1 hfind _ hmem)
    | some e =>
      have hsame := List.find?_some hfind
      refine ⟨e, rfl, ?_⟩
      by_contra hne
      have he : e ≠ (b, v) := fun heq => hne (heq ▸ rfl)
      exact hapart.forall (List.mem_of_find?_eq_some hfind) hmem he hsame
  · rintro ⟨e, hfind, rfl⟩
    have hmem := List.mem_of_find?_eq_some hfind
    have hsame := List.find?_some hfind
    rw [← ((hreg e hmem).sameNumber_iff hb).1 hsame]
    exact hmem

theorem Ordered.apart {m : BoundaryMap} (h : m.Ordered) : m.entries.Pairwise fun d e => ¬ d.1.sameNumber e.1 :=
  h.ascending.imp not_sameNumber_of_lt

theorem Ordered.mem_iff {m : BoundaryMap} (h : m.Ordered) {b : Binary64} (hb : b.Regular) {v : Binary64} :
    (b, v) ∈ m.entries ↔ m.at? b = some v := mem_iff_find? h.apart h.regular hb

/-- **An ordered map sorts the entries that it holds**, if these have regular and distinct numbers. -/
theorem Ordered.perm {m : BoundaryMap} (h : m.Ordered) {es : List (Binary64 × Binary64)}
    (hapart : es.Pairwise fun d e => ¬ d.1.sameNumber e.1) (hreg : ∀ e ∈ es, e.1.Regular)
    (hat : ∀ x, m.at? x = (es.find? fun e => e.1.sameNumber x).map Prod.snd) : m.entries.Perm es := by
  have hnodup : ∀ {ds : List (Binary64 × Binary64)}, (ds.Pairwise fun d e => ¬ d.1.sameNumber e.1) →
      (∀ e ∈ ds, e.1.Regular) → ds.Nodup := by
    intro ds hds hdreg
    refine hds.imp_of_mem fun {d e} hd _ hde heq => hde ?_
    rw [← heq]
    exact ((hdreg d hd).sameNumber_iff (hdreg d hd)).2 rfl
  refine (List.perm_ext_iff_of_nodup (hnodup h.apart h.regular) (hnodup hapart hreg)).2 fun e => ?_
  constructor
  · intro he
    have hb := h.regular e he
    exact (mem_iff_find? hapart hreg hb).2 (hat e.1 ▸ (h.mem_iff hb).1 he)
  · intro he
    have hb := hreg e he
    exact (h.mem_iff hb).2 ((hat e.1).symm ▸ (mem_iff_find? hapart hreg hb).1 he)

/-- An ordered map is what it holds at every number. -/
theorem Ordered.ext {m n : BoundaryMap} (hm : m.Ordered) (hn : n.Ordered) (h : ∀ x, m.at? x = n.at? x) : m = n := by
  have hperm := hm.perm hn.apart hn.regular h
  have heq : m.entries = n.entries :=
    hperm.eq_of_pairwise (fun d e _ _ hde hed => absurd (lt_trans hde hed) not_lt_self) hm.ascending hn.ascending
  cases m
  cases n
  exact congrArg BoundaryMap.mk heq

end BoundaryMap

end Telemetry
