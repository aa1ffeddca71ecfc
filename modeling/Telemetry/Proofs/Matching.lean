import Mathlib.Data.List.Forall2
import Telemetry.Proofs.Grouping

/-!
# Lists that correspond one to one

`Matched R as bs` says that the elements of two lists correspond one to one, in whatever order they stand. Leaving
elements out on both sides alike keeps it (`Matched.filterMap`). What two groupings leave corresponds if it does key
by key (`Grouping.matched_filterMap_run`), and so a grouping of the same elements in another order leaves
corresponding values, if each key's elements do (`Grouping.matched_run`).
-/

namespace Telemetry

variable {α β γ δ : Type}

theorem isSome_eq_of_rel {R : α → β → Prop} {x : Option α} {y : Option β} (h : Option.Rel R x y) :
    x.isSome = y.isSome := by
  cases h <;> rfl

theorem filterMap_filter_isSome (f : α → Option β) (as : List α) :
    (as.filter fun a => (f a).isSome).filterMap f = as.filterMap f := by
  rw [List.filterMap_filter]
  refine List.filterMap_congr fun a _ => ?_
  cases f a <;> rfl

theorem forall₂_filterMap (f : α → Option β) (as : List α) :
    List.Forall₂ (fun a b => f a = some b) (as.filter fun a => (f a).isSome) (as.filterMap f) := by
  induction as with
  | nil => exact .nil
  | cons a as ih =>
    rw [List.filter_cons, List.filterMap_cons]
    cases h : f a with
    | none => exact ih
    | some b => exact .cons h ih

/-- Some order of `bs` is related to `as`, element by element. -/
def Matched (R : α → β → Prop) (as : List α) (bs : List β) : Prop := ∃ cs : List β, cs.Perm bs ∧ List.Forall₂ R as cs

namespace Matched

variable {R : α → β → Prop} {as : List α} {bs : List β}

theorem length_eq (h : Matched R as bs) : as.length = bs.length := by
  obtain ⟨cs, hperm, hall⟩ := h
  rw [hall.length_eq, hperm.length_eq]

theorem perm {as bs : List α} (h : Matched (· = ·) as bs) : as.Perm bs := by
  obtain ⟨cs, hperm, hall⟩ := h
  rw [List.forall₂_eq_eq_eq] at hall
  exact hall ▸ hperm

theorem filterMap {S : γ → δ → Prop} {f : α → Option γ} {g : β → Option δ} (h : Matched R as bs)
    (hfg : ∀ a b, R a b → Option.Rel S (f a) (g b)) : Matched S (as.filterMap f) (bs.filterMap g) := by
  obtain ⟨cs, hperm, hall⟩ := h
  exact ⟨cs.filterMap g, hperm.filterMap g, List.rel_filterMap (fun {a b} hab => hfg a b hab) hall⟩

/-- What `f` and `g` make of keys corresponds if it does key by key, and both lists hold those of which they make
anything. -/
theorem of_nodup {S : γ → δ → Prop} {f : α → Option γ} {g : α → Option δ} {as bs : List α} (ha : as.Nodup)
    (hb : bs.Nodup)
    (hfg : ∀ a, Option.Rel S (f a) (g a)) (h : ∀ a, (f a).isSome → (a ∈ as ↔ a ∈ bs)) :
    Matched S (as.filterMap f) (bs.filterMap g) := by
  have hsome : (fun a => (f a).isSome) = fun a => (g a).isSome := funext fun a => isSome_eq_of_rel (hfg a)
  have hperm : (as.filter fun a => (f a).isSome).Perm (bs.filter fun a => (f a).isSome) := by
    refine (List.perm_ext_iff_of_nodup (ha.filter _) (hb.filter _)).2 fun a => ?_
    rw [List.mem_filter, List.mem_filter]
    exact and_congr_left fun ha => h a ha
  have hkeys : Matched (· = ·) (as.filter fun a => (f a).isSome) (bs.filter fun a => (f a).isSome) :=
    ⟨_, hperm, List.forall₂_same.2 fun _ _ => rfl⟩
  rw [← filterMap_filter_isSome f as, ← filterMap_filter_isSome g bs, ← hsome]
  exact hkeys.filterMap fun a b hab => hab ▸ hfg a

end Matched

namespace Grouping

variable {E K V : Type} [DecidableEq K] (g : Grouping E K V)

theorem mem_keys_of_isSome {f : V → Option γ} {es : List E} {k : K}
    (h : ((g.valueOf? (g.having k es)).bind f).isSome) : k ∈ g.keys es := by
  rw [mem_keys, ← isSome_valueOf?_having]
  cases hv : g.valueOf? (g.having k es) with
  | none => simp [hv] at h
  | some v => rfl

/-- **What two runs come to** corresponds, if it does for each key by itself. -/
theorem matched_filterMap_run {S : γ → δ → Prop} {p : V → Option γ} {q : V → Option δ} {es ds : List E}
    (h : ∀ k, Option.Rel S ((g.valueOf? (g.having k es)).bind p) ((g.valueOf? (g.having k ds)).bind q)) :
    Matched S ((g.run es).filterMap p) ((g.run ds).filterMap q) := by
  rw [run_eq, run_eq, List.filterMap_filterMap, List.filterMap_filterMap]
  refine Matched.of_nodup (g.nodup_keys es) (g.nodup_keys ds) h fun k hsome => ?_
  exact iff_of_true (g.mem_keys_of_isSome hsome) (g.mem_keys_of_isSome (isSome_eq_of_rel (h k) ▸ hsome))

/-- **Another order of the elements** leaves corresponding values, if those of one key correspond. -/
theorem matched_run {R : V → V → Prop} {es ds : List E} (h : es.Perm ds)
    (hvalue : ∀ v ∈ g.run es, ∀ w ∈ g.run ds, g.keyOf v = g.keyOf w → R v w) : Matched R (g.run es) (g.run ds) := by
  have hsome : ∀ k, (g.valueOf? (g.having k es)).isSome ↔ (g.valueOf? (g.having k ds)).isSome := fun k => by
    rw [isSome_valueOf?_having, isSome_valueOf?_having, (h.map g.key).mem_iff]
  have hrel : ∀ k, Option.Rel R (g.valueOf? (g.having k es)) (g.valueOf? (g.having k ds)) := fun k => by
    cases hv : g.valueOf? (g.having k es) with
    | none =>
      cases hw : g.valueOf? (g.having k ds) with
      | none => exact .none
      | some w => simpa [hv, hw] using hsome k
    | some v =>
      cases hw : g.valueOf? (g.having k ds) with
      | none => simpa [hv, hw] using hsome k
      | some w =>
        obtain ⟨hvmem, hvk⟩ := g.mem_run_and_keyOf.2 hv
        obtain ⟨hwmem, hwk⟩ := g.mem_run_and_keyOf.2 hw
        exact .some (hvalue v hvmem w hwmem (hvk.trans hwk.symm))
  have hrun : Matched R ((g.run es).filterMap some) ((g.run ds).filterMap some) :=
    g.matched_filterMap_run fun k => by simpa using hrel k
  simpa using hrun

end Grouping

end Telemetry
