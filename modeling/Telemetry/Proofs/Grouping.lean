import Mathlib.Data.List.Basic
import Mathlib.Data.List.Induction

/-!
# Grouping in first-seen order

A family keeps its series, and a cycle its families, in one way: a list of values with distinct keys, to which each
element goes by its key; the value of a new key is started behind the others. `Grouping.run_eq` says what such a run
leaves: for every key, in the order of first appearance, the value that the elements of this key alone come to.
-/

namespace Telemetry

/-! ## First appearances -/

section EraseDups

variable {α β : Type} [BEq α] [LawfulBEq α] [BEq β] [LawfulBEq β]

theorem eraseDups_append_of_mem {xs : List α} {x : α} (h : x ∈ xs) : (xs ++ [x]).eraseDups = xs.eraseDups := by
  have hnone : [x].removeAll xs = [] := by
    rw [List.removeAll, List.filter_eq_nil_iff]
    simpa using h
  rw [List.eraseDups_append, hnone, List.eraseDups_nil, List.append_nil]

theorem eraseDups_append_of_not_mem {xs : List α} {x : α} (h : x ∉ xs) :
    (xs ++ [x]).eraseDups = xs.eraseDups ++ [x] := by
  have hself : [x].removeAll xs = [x] := by
    rw [List.removeAll, List.filter_eq_self]
    simpa using h
  rw [List.eraseDups_append, hself]
  rfl

theorem nodup_eraseDups (xs : List α) : xs.eraseDups.Nodup := by
  induction xs using List.reverseRecOn with
  | nil => simp
  | append_singleton xs x ih =>
    by_cases h : x ∈ xs
    · rw [eraseDups_append_of_mem h]
      exact ih
    · rw [eraseDups_append_of_not_mem h, List.nodup_append]
      refine ⟨ih, by simp, fun y hy z hz => ?_⟩
      rintro rfl
      rw [List.mem_singleton.1 hz] at hy
      exact h (List.mem_eraseDups.1 hy)

theorem eraseDups_of_nodup {xs : List α} (h : xs.Nodup) : xs.eraseDups = xs := by
  induction xs using List.reverseRecOn with
  | nil => rfl
  | append_singleton xs x ih =>
    obtain ⟨hxs, -, hne⟩ := List.nodup_append.1 h
    have hx : x ∉ xs := fun hmem => hne x hmem x (List.mem_singleton_self x) rfl
    rw [eraseDups_append_of_not_mem hx, ih hxs]

theorem eraseDups_map {f : α → β} (hf : Function.Injective f) (xs : List α) :
    (xs.map f).eraseDups = xs.eraseDups.map f := by
  induction xs using List.reverseRecOn with
  | nil => rfl
  | append_singleton xs x ih =>
    rw [List.map_append, List.map_singleton]
    by_cases h : x ∈ xs
    · rw [eraseDups_append_of_mem (List.mem_map_of_mem h), eraseDups_append_of_mem h, ih]
    · have hf' : f x ∉ xs.map f := fun hmem => h ((List.mem_map_of_injective hf).1 hmem)
      rw [eraseDups_append_of_not_mem hf', eraseDups_append_of_not_mem h, ih, List.map_append, List.map_singleton]

theorem eraseDups_of_forall_eq {a : α} {as : List α} (hne : as ≠ []) (h : ∀ b ∈ as, b = a) : as.eraseDups = [a] := by
  cases as with
  | nil => exact absurd rfl hne
  | cons b rest =>
    have hrest : rest.filter (fun c => !c == b) = [] := by
      refine List.filter_eq_nil_iff.2 fun c hc => ?_
      rw [h c (List.mem_cons_of_mem b hc), h b List.mem_cons_self]
      simp
    rw [List.eraseDups_cons, hrest, List.eraseDups_nil, h b List.mem_cons_self]

end EraseDups

/-! ## Values by key -/

/-- How elements are taken into values by key. -/
structure Grouping (E K V : Type) where
  key : E → K
  keyOf : V → K
  /-- The value that the first element of its key starts. -/
  fresh : E → V
  step : V → E → V
  keyOf_fresh : ∀ e, keyOf (fresh e) = key e
  keyOf_step : ∀ v e, keyOf (step v e) = keyOf v

namespace Grouping

variable {E K V : Type} [DecidableEq K] (g : Grouping E K V)

/-- Takes one element in: into the value that has its key, otherwise into a fresh value behind the others. -/
def absorb (held : List V) (e : E) : List V :=
  if g.key e ∈ held.map g.keyOf then held.map fun v => if g.keyOf v = g.key e then g.step v e else v
  else held ++ [g.step (g.fresh e) e]

def run (es : List E) : List V := es.foldl g.absorb []

/-- The value that the elements of one key come to. -/
def valueOf? : List E → Option V
  | [] => none
  | e :: es => some ((e :: es).foldl g.step (g.fresh e))

def having (k : K) (es : List E) : List E := es.filter fun e => g.key e = k

def keys (es : List E) : List K := (es.map g.key).eraseDups

/-- What every step keeps and a fresh value has after its first element holds of all values. -/
theorem forall_mem_absorb {P : V → Prop} {held : List V} {e : E} (hheld : ∀ v ∈ held, P v)
    (hfresh : P (g.step (g.fresh e) e)) (hstep : ∀ v, P v → P (g.step v e)) : ∀ v ∈ g.absorb held e, P v := by
  intro v hv
  unfold absorb at hv
  split at hv
  · obtain ⟨w, hw, rfl⟩ := List.mem_map.1 hv
    split
    · exact hstep w (hheld w hw)
    · exact hheld w hw
  · rcases List.mem_append.1 hv with hv | hv
    · exact hheld v hv
    · exact List.mem_singleton.1 hv ▸ hfresh

theorem run_append (es : List E) (e : E) : g.run (es ++ [e]) = g.absorb (g.run es) e := by simp [run]

theorem keys_append_of_mem {es : List E} {e : E} (h : g.key e ∈ es.map g.key) : g.keys (es ++ [e]) = g.keys es := by
  rw [keys, List.map_append, List.map_singleton, eraseDups_append_of_mem h, keys]

theorem keys_append_of_not_mem {es : List E} {e : E} (h : g.key e ∉ es.map g.key) :
    g.keys (es ++ [e]) = g.keys es ++ [g.key e] := by
  rw [keys, List.map_append, List.map_singleton, eraseDups_append_of_not_mem h, keys]

theorem mem_keys {es : List E} {k : K} : k ∈ g.keys es ↔ k ∈ es.map g.key := List.mem_eraseDups

theorem nodup_keys (es : List E) : (g.keys es).Nodup := nodup_eraseDups _

theorem having_append_of_ne {es : List E} {e : E} {k : K} (h : g.key e ≠ k) :
    g.having k (es ++ [e]) = g.having k es := by
  simp [having, h]

theorem having_append_self (es : List E) (e : E) :
    g.having (g.key e) (es ++ [e]) = g.having (g.key e) es ++ [e] := by
  simp [having]

theorem having_eq_nil_iff {es : List E} {k : K} : g.having k es = [] ↔ k ∉ es.map g.key := by
  simp [having]

theorem key_of_mem_having {es : List E} {k : K} {e : E} (h : e ∈ g.having k es) : g.key e = k := by
  simpa using (List.mem_filter.1 h).2

omit [DecidableEq K] in
theorem keyOf_foldl_step (v : V) (es : List E) : g.keyOf (es.foldl g.step v) = g.keyOf v := by
  induction es generalizing v with
  | nil => rfl
  | cons e es ih => rw [List.foldl_cons, ih, g.keyOf_step]

omit [DecidableEq K] in
theorem valueOf?_eq_none_iff {es : List E} : g.valueOf? es = none ↔ es = [] := by
  cases es <;> simp [valueOf?]

omit [DecidableEq K] in
theorem valueOf?_append (es : List E) (e : E) :
    g.valueOf? (es ++ [e]) = some (g.step ((g.valueOf? es).getD (g.fresh e)) e) := by
  cases es with
  | nil => rfl
  | cons d es => simp [valueOf?, List.foldl_append]

omit [DecidableEq K] in
theorem valueOf?_eq_some_iff {es : List E} {v : V} :
    g.valueOf? es = some v ↔ ∃ e rest, es = e :: rest ∧ es.foldl g.step (g.fresh e) = v := by
  cases es with
  | nil => simp [valueOf?]
  | cons e es =>
    rw [valueOf?, Option.some.injEq]
    constructor
    · exact fun h => ⟨e, es, rfl, h⟩
    · rintro ⟨d, ds, heq, h⟩
      cases heq
      exact h

theorem keyOf_of_valueOf? {es : List E} {k : K} {v : V} (h : g.valueOf? (g.having k es) = some v) : g.keyOf v = k := by
  cases hes : g.having k es with
  | nil => simp [hes, valueOf?] at h
  | cons e rest =>
    have he : g.key e = k := g.key_of_mem_having (hes ▸ List.mem_cons_self)
    rw [hes, valueOf?, Option.some.injEq] at h
    rw [← h, keyOf_foldl_step, g.keyOf_fresh, he]

theorem isSome_valueOf?_having {es : List E} {k : K} : (g.valueOf? (g.having k es)).isSome ↔ k ∈ es.map g.key := by
  rw [← not_iff_not, ← having_eq_nil_iff]
  cases g.having k es <;> simp [valueOf?]

theorem map_keyOf_filterMap (es : List E) :
    ((g.keys es).filterMap fun k => g.valueOf? (g.having k es)).map g.keyOf = g.keys es := by
  rw [List.map_filterMap]
  refine (List.filterMap_congr fun k hk => ?_).trans List.filterMap_some
  obtain ⟨v, hv⟩ := Option.isSome_iff_exists.1 (g.isSome_valueOf?_having.2 (g.mem_keys.1 hk))
  rw [hv, Option.map_some, g.keyOf_of_valueOf? hv]

/-- **What a run leaves**: the value of every key, in the order in which the keys first appear, and each value made of
the elements of its key alone. -/
theorem run_eq (es : List E) : g.run es = (g.keys es).filterMap fun k => g.valueOf? (g.having k es) := by
  induction es using List.reverseRecOn with
  | nil => rfl
  | append_singleton es e ih =>
    rw [run_append, ih, absorb, map_keyOf_filterMap]
    simp only [mem_keys]
    split
    · rename_i hseen
      rw [keys_append_of_mem g hseen, List.map_filterMap]
      refine List.filterMap_congr fun k hk => ?_
      by_cases hek : g.key e = k
      · subst hek
        obtain ⟨v, hv⟩ := Option.isSome_iff_exists.1 (g.isSome_valueOf?_having.2 hseen)
        rw [having_append_self, valueOf?_append, hv]
        simp [g.keyOf_of_valueOf? hv]
      · rw [having_append_of_ne g hek]
        cases hv : g.valueOf? (g.having k es) with
        | none => rfl
        | some v => simp [g.keyOf_of_valueOf? hv, Ne.symm hek]
    · rename_i hnew
      rw [keys_append_of_not_mem g hnew, List.filterMap_append]
      congr 1
      · refine List.filterMap_congr fun k hk => ?_
        rw [having_append_of_ne]
        rintro rfl
        exact hnew (g.mem_keys.1 hk)
      · rw [List.filterMap_cons, having_append_self, g.having_eq_nil_iff.2 hnew]
        rfl

theorem map_keyOf_run (es : List E) : (g.run es).map g.keyOf = g.keys es := by
  rw [run_eq, map_keyOf_filterMap]

theorem nodup_run (es : List E) : ((g.run es).map g.keyOf).Nodup := by
  rw [map_keyOf_run]
  exact g.nodup_keys es

/-- Each value is what the elements of its key come to. -/
theorem mem_run {es : List E} {v : V} : v ∈ g.run es ↔ g.valueOf? (g.having (g.keyOf v) es) = some v := by
  rw [run_eq, List.mem_filterMap]
  constructor
  · rintro ⟨k, -, hv⟩
    rw [g.keyOf_of_valueOf? hv]
    exact hv
  · intro hv
    exact ⟨_, g.mem_keys.2 (g.isSome_valueOf?_having.1 (hv ▸ rfl)), hv⟩

theorem mem_run_and_keyOf {es : List E} {k : K} {v : V} :
    v ∈ g.run es ∧ g.keyOf v = k ↔ g.valueOf? (g.having k es) = some v := by
  rw [mem_run]
  constructor
  · rintro ⟨hv, rfl⟩
    exact hv
  · intro hv
    have hk := g.keyOf_of_valueOf? hv
    exact ⟨hk.symm ▸ hv, hk⟩

theorem find?_run (es : List E) (k : K) : (g.run es).find? (fun v => g.keyOf v == k) = g.valueOf? (g.having k es) := by
  cases hfind : (g.run es).find? fun v => g.keyOf v == k with
  | some v =>
    have hk : g.keyOf v = k := by simpa using List.find?_some hfind
    exact (g.mem_run_and_keyOf.1 ⟨List.mem_of_find?_eq_some hfind, hk⟩).symm
  | none =>
    cases hv : g.valueOf? (g.having k es) with
    | none => rfl
    | some v =>
      obtain ⟨hmem, hk⟩ := g.mem_run_and_keyOf.2 hv
      exact absurd (beq_iff_eq.2 hk) (List.find?_eq_none.1 hfind v hmem)

end Grouping

end Telemetry
