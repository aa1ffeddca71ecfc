import Mathlib.Data.List.Basic

/-!
# Places of keys

A store keeps its values in a list, in the order in which they came, and writes the place of each down under its
key. Its places index the list if each value is found under its own key and under no other (`Indexes`). Putting a
value behind the others under a new key keeps this (`Indexes.push`), and so does changing a value in its place, but
for its key (`Indexes.set`). Looking a key up then finds the value that has it, and never looks outside the list
(`Indexes.valueOf?_eq`).
-/

namespace Telemetry

/-- A look at a place that a list of this size does not have. -/
structure OutOfRange where
  place : Nat
  size : Nat
deriving DecidableEq, Repr

section Places

variable {K V W : Type} [BEq K] [Hashable K]

def valueAt (values : List V) (place : Nat) : Except OutOfRange V :=
  match values[place]? with
  | some v => .ok v
  | none => .error ⟨place, values.length⟩

/-- The value at the place that is written down for a key. -/
def valueOf? (values : List V) (places : Std.HashMap K Nat) (key : K) : Except OutOfRange (Option V) :=
  match places[key]? with
  | some place => (valueAt values place).map some
  | none => .ok none

/-- Every place of the list is written down, each under one key, which is that of the value there. -/
structure Indexes (keyOf : V → K) (values : List V) (places : Std.HashMap K Nat) : Prop where
  found : ∀ (key : K) (place : Nat), places[key]? = some place → ∃ v, values[place]? = some v ∧ keyOf v = key
  unique : ∀ place < values.length, ∃! key : K, places[key]? = some place

variable {keyOf : V → K} {values : List V} {places : Std.HashMap K Nat} {key : K} {place : Nat} {v w : V}

/-- A place is written down under a key exactly if the value there has this key. -/
theorem indexes_iff : Indexes keyOf values places ↔
    ∀ (key : K) (place : Nat), places[key]? = some place ↔ ∃ v, values[place]? = some v ∧ keyOf v = key := by
  constructor
  · intro h key place
    refine ⟨h.found key place, ?_⟩
    rintro ⟨v, hv, rfl⟩
    obtain ⟨key, hkey, -⟩ := h.unique place (List.getElem?_eq_some_iff.1 hv).1
    obtain ⟨w, hw, rfl⟩ := h.found key place hkey
    rw [hv] at hw
    exact Option.some.inj hw ▸ hkey
  · intro h
    refine ⟨fun key place => (h key place).1, fun place hplace => ?_⟩
    refine ⟨keyOf values[place], (h _ _).2 ⟨_, List.getElem?_eq_getElem hplace, rfl⟩, fun key hkey => ?_⟩
    obtain ⟨v, hv, rfl⟩ := (h key place).1 hkey
    rw [List.getElem?_eq_getElem hplace] at hv
    exact congrArg keyOf (Option.some.inj hv).symm

theorem indexes_map {keyOf : W → K} {f : V → W} :
    Indexes keyOf (values.map f) places ↔ Indexes (fun v => keyOf (f v)) values places := by
  simp [indexes_iff]

namespace Indexes

theorem congr {other : V → K} (h : Indexes keyOf values places) (hkeys : ∀ v ∈ values, other v = keyOf v) :
    Indexes other values places := by
  refine indexes_iff.2 fun key place => (indexes_iff.1 h key place).trans ?_
  refine exists_congr fun v => and_congr_right fun hv => ?_
  rw [hkeys v (List.mem_of_getElem? hv)]

theorem place_eq (h : Indexes keyOf values places) (hplace : places[key]? = some place) {i : Nat}
    (hv : values[i]? = some v) (hkey : keyOf v = key) : place = i := by
  have hother : places[key]? = some i := (indexes_iff.1 h key i).2 ⟨v, hv, hkey⟩
  rw [hplace] at hother
  exact Option.some.inj hother

/-- **No place that is written down is out of range.** -/
theorem exists_valueAt (h : Indexes keyOf values places) (hplace : places[key]? = some place) :
    ∃ v, values[place]? = some v ∧ keyOf v = key ∧ valueAt values place = .ok v := by
  obtain ⟨v, hv, hkey⟩ := h.found key place hplace
  exact ⟨v, hv, hkey, by rw [valueAt, hv]⟩

theorem getElem?_eq_none_iff (h : Indexes keyOf values places) : places[key]? = none ↔ key ∉ values.map keyOf := by
  rw [Option.eq_none_iff_forall_ne_some, List.mem_map]
  constructor
  · rintro hnone ⟨v, hv, rfl⟩
    obtain ⟨place, hplace⟩ := List.getElem?_of_mem hv
    exact hnone place ((indexes_iff.1 h _ _).2 ⟨v, hplace, rfl⟩)
  · intro hnew place hplace
    obtain ⟨v, hv, hkey⟩ := h.found key place hplace
    exact hnew ⟨v, List.mem_of_getElem? hv, hkey⟩

/-- A value changes in its place and keeps its key. -/
theorem set (h : Indexes keyOf values places) (hv : values[place]? = some v) (hkey : keyOf w = keyOf v) :
    Indexes keyOf (values.set place w) places := by
  refine indexes_iff.2 fun key i => (indexes_iff.1 h key i).trans ?_
  by_cases hi : place = i
  · subst hi
    rw [List.getElem?_set_self (List.getElem?_eq_some_iff.1 hv).1, hv]
    simp [hkey]
  · rw [List.getElem?_set_ne hi]

theorem map_eq_set [DecidableEq K] (h : Indexes keyOf values places) (hplace : places[key]? = some place)
    (hv : values[place]? = some v) (change : V → V) :
    (values.map fun w => if keyOf w = key then change w else w) = values.set place (change v) := by
  refine List.ext_getElem? fun i => ?_
  rw [List.getElem?_map]
  by_cases hi : place = i
  · subst hi
    obtain ⟨w, hw, hkey⟩ := h.found key place hplace
    rw [hv] at hw
    cases hw
    rw [List.getElem?_set_self (List.getElem?_eq_some_iff.1 hv).1, hv, Option.map_some, if_pos hkey]
  · rw [List.getElem?_set_ne hi]
    cases hw : values[i]? with
    | none => rfl
    | some w => rw [Option.map_some, if_neg fun hkey => hi (h.place_eq hplace hw hkey)]

variable [LawfulBEq K]

theorem empty : Indexes keyOf [] (∅ : Std.HashMap K Nat) := indexes_iff.2 fun key place => by simp

omit [BEq K] [Hashable K] [LawfulBEq K] in
theorem getElem?_append_singleton {i : Nat} :
    (values ++ [v])[i]? = some w ↔ values[i]? = some w ∨ i = values.length ∧ v = w := by
  rw [List.getElem?_append]
  split
  · rename_i hlt
    simp [Nat.ne_of_lt hlt]
  · rename_i hge
    have hlast : i - values.length = 0 ↔ i = values.length := by omega
    simp [List.getElem?_eq_none (Nat.le_of_not_lt hge), List.getElem?_singleton, hlast]

/-- A value whose key is new goes behind the others. -/
theorem push (h : Indexes keyOf values places) (hnew : places[keyOf v]? = none) :
    Indexes keyOf (values ++ [v]) (places.insert (keyOf v) values.length) := by
  refine indexes_iff.2 fun key i => ?_
  have hsplit : (∃ w, (values ++ [v])[i]? = some w ∧ keyOf w = key) ↔
      places[key]? = some i ∨ i = values.length ∧ keyOf v = key := by
    rw [indexes_iff.1 h key i]
    constructor
    · rintro ⟨w, hw, hkey⟩
      rcases getElem?_append_singleton.1 hw with hw | ⟨hi, rfl⟩
      · exact Or.inl ⟨w, hw, hkey⟩
      · exact Or.inr ⟨hi, hkey⟩
    · rintro (⟨w, hw, hkey⟩ | ⟨hi, hkey⟩)
      · exact ⟨w, getElem?_append_singleton.2 (Or.inl hw), hkey⟩
      · exact ⟨v, getElem?_append_singleton.2 (Or.inr ⟨hi, rfl⟩), hkey⟩
  rw [hsplit, Std.HashMap.getElem?_insert]
  by_cases hkey : keyOf v = key
  · subst hkey
    simp [hnew, eq_comm]
  · simp [hkey]

theorem find?_of_none (h : Indexes keyOf values places) (hplace : places[key]? = none) :
    values.find? (fun v => keyOf v == key) = none := by
  have hnew := h.getElem?_eq_none_iff.1 hplace
  exact List.find?_eq_none.2 fun v hv hkey => hnew (eq_of_beq hkey ▸ List.mem_map_of_mem hv)

theorem find?_of_place (h : Indexes keyOf values places) (hplace : places[key]? = some place)
    (hv : values[place]? = some v) : values.find? (fun v => keyOf v == key) = some v := by
  obtain ⟨w, hw, hkey⟩ := h.found key place hplace
  cases hfind : values.find? fun v => keyOf v == key with
  | none => exact absurd (beq_iff_eq.2 hkey) (List.find?_eq_none.1 hfind w (List.mem_of_getElem? hw))
  | some u =>
    obtain ⟨i, hi⟩ := List.getElem?_of_mem (List.mem_of_find?_eq_some hfind)
    have hukey : keyOf u = key := by simpa using List.find?_some hfind
    rw [← h.place_eq hplace hi hukey, hv] at hi
    exact hi.symm

/-- **Looking a key up finds the value that has it**, and no place is out of range. -/
theorem valueOf?_eq (h : Indexes keyOf values places) (key : K) :
    valueOf? values places key = .ok (values.find? fun v => keyOf v == key) := by
  unfold valueOf?
  cases hplace : places[key]? with
  | none => rw [h.find?_of_none hplace]
  | some place =>
    obtain ⟨v, hv, -, hat⟩ := h.exists_valueAt hplace
    simp only [hat, Except.map, h.find?_of_place hplace hv]

end Indexes

end Places

end Telemetry
