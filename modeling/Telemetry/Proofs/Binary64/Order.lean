import Telemetry.Binary64.Basic

/-!
# Numeric order against total order

The two orders of doubles disagree on `-0` and on the NaNs only. On the other bit patterns, the `Regular` ones, being
one number is being one double (`Regular.sameNumber_iff`) and the total order is the order of the numbers
(`Regular.lt_iff`).
-/

namespace Telemetry.Binary64

theorem eq_of_isNegative_of_magnitude {x y : Binary64} (hs : x.isNegative = y.isNegative)
    (hm : x.magnitude = y.magnitude) : x = y := by
  have hx := x.bits.toNat_lt
  have hy := y.bits.toNat_lt
  simp only [isNegative, decide_eq_decide, magnitude, Nat.pow_eq] at hs hm
  have hbits : x.bits = y.bits := UInt64.toNat_inj.1 (by omega)
  cases x
  cases y
  exact congrArg mk hbits

/-! ## Finite doubles and NaNs -/

theorem isFinite_iff {x : Binary64} : x.isFinite = true ↔ x.magnitude < infMagnitude := by simp [isFinite]

theorem isNaN_eq_false_iff {x : Binary64} : x.isNaN = false ↔ x.magnitude ≤ infMagnitude := by simp [isNaN]

theorem isNaN_of_isFinite {x : Binary64} (h : x.isFinite = true) : x.isNaN = false :=
  isNaN_eq_false_iff.2 (Nat.le_of_lt (isFinite_iff.1 h))

theorem isFinite_or_infinite {x : Binary64} (h : x.isNaN = false) : x.isFinite = true ∨ x = inf ∨ x = negInf := by
  have hle := isNaN_eq_false_iff.1 h
  rcases Nat.lt_or_eq_of_le hle with hlt | heq
  · exact Or.inl (isFinite_iff.2 hlt)
  · cases hs : x.isNegative with
    | false => exact Or.inr (Or.inl (eq_of_isNegative_of_magnitude (hs.trans (by decide)) (heq.trans (by decide))))
    | true => exact Or.inr (Or.inr (eq_of_isNegative_of_magnitude (hs.trans (by decide)) (heq.trans (by decide))))

/-! ## Numeric order -/

theorem lt_iff {x y : Binary64} : x.lt y ↔ x.isNaN = false ∧ y.isNaN = false ∧ x.rank < y.rank := by
  simp [lt, and_assoc]

theorem le_iff {x y : Binary64} : x.le y ↔ x.isNaN = false ∧ y.isNaN = false ∧ x.rank ≤ y.rank := by
  simp [le, and_assoc]

theorem sameNumber_iff {x y : Binary64} :
    x.sameNumber y ↔ x.isNaN = false ∧ y.isNaN = false ∧ x.rank = y.rank := by
  simp [sameNumber, and_assoc]

theorem lt_trans {x y z : Binary64} (hxy : x.lt y) (hyz : y.lt z) : x.lt z := by
  rw [lt_iff] at *
  exact ⟨hxy.1, hyz.2.1, by omega⟩

theorem not_lt_self {x : Binary64} : ¬ x.lt x := fun h => Int.lt_irrefl _ (lt_iff.1 h).2.2

theorem not_sameNumber_of_lt {x y : Binary64} (h : x.lt y) : ¬ x.sameNumber y := by
  rw [lt_iff] at h
  rw [sameNumber_iff]
  omega

theorem sameNumber_symm {x y : Binary64} (h : x.sameNumber y) : y.sameNumber x := by
  rw [sameNumber_iff] at *
  exact ⟨h.2.1, h.1, h.2.2.symm⟩

theorem sameNumber_trans {x y z : Binary64} (hxy : x.sameNumber y) (hyz : y.sameNumber z) : x.sameNumber z := by
  rw [sameNumber_iff] at *
  exact ⟨hxy.1, hyz.2.1, hxy.2.2.trans hyz.2.2⟩

theorem lt_of_sameNumber {x x' y y' : Binary64} (hx : x'.sameNumber x) (hy : y'.sameNumber y) (h : x.lt y) :
    x'.lt y' := by
  rw [sameNumber_iff] at hx hy
  rw [lt_iff] at *
  exact ⟨hx.1, hy.1, by omega⟩

theorem le_eq_not_lt {x y : Binary64} (hx : x.isNaN = false) (hy : y.isNaN = false) : x.le y = !y.lt x := by
  simp only [le, lt, hx, hy, Bool.not_false, Bool.true_and, ← decide_not, Int.not_lt]

theorem le_trans {x y z : Binary64} (hxy : x.le y) (hyz : y.le z) : x.le z := by
  rw [le_iff] at *
  exact ⟨hxy.1, hyz.2.1, by omega⟩

theorem le_of_lt {x y : Binary64} (h : x.lt y) : x.le y := by
  rw [lt_iff] at h
  rw [le_iff]
  exact ⟨h.1, h.2.1, Int.le_of_lt h.2.2⟩

theorem not_lt_of_le {x y : Binary64} (h : x.le y) : ¬ y.lt x := by
  rw [le_iff] at h
  rw [lt_iff]
  omega

theorem isFinite_of_sameNumber {x y : Binary64} (h : x.sameNumber y) (hy : y.isFinite = true) : x.isFinite = true := by
  have hrank := (sameNumber_iff.1 h).2.2
  rw [isFinite_iff] at hy ⊢
  unfold rank at hrank
  split at hrank <;> split at hrank <;> omega

theorem sameNumber_zero_iff {x : Binary64} : x.sameNumber zero ↔ x = zero ∨ x = negZero := by
  constructor
  · intro h
    have hrank : x.rank = 0 := (sameNumber_iff.1 h).2.2
    have hmagnitude : x.magnitude = 0 := by
      unfold rank at hrank
      split at hrank <;> omega
    cases hs : x.isNegative with
    | true => exact Or.inr (eq_of_isNegative_of_magnitude hs hmagnitude)
    | false => exact Or.inl (eq_of_isNegative_of_magnitude hs hmagnitude)
  · rintro (rfl | rfl) <;> decide

theorem not_inf_lt (x : Binary64) : ¬ inf.lt x := by
  rw [lt_iff]
  rintro ⟨-, hnan, hrank⟩
  have hinf : inf.rank = infMagnitude := by decide
  rw [hinf] at hrank
  have : x.magnitude ≤ infMagnitude := by simpa [isNaN] using hnan
  unfold rank at hrank
  split at hrank <;> omega

theorem lt_inf {x : Binary64} (h : x.isFinite = true) : x.lt inf := by
  have hlt := isFinite_iff.1 h
  have hinf : inf.rank = infMagnitude := by decide
  rw [lt_iff]
  refine ⟨isNaN_of_isFinite h, by decide, ?_⟩
  rw [hinf]
  unfold rank
  split <;> omega

/-! ## Total order -/

theorem totalRank_injective {x y : Binary64} (h : x.totalRank = y.totalRank) : x = y := by
  have hs : x.isNegative = y.isNegative := by
    unfold totalRank at h
    cases hx : x.isNegative <;> cases hy : y.isNegative <;> simp_all <;> omega
  refine eq_of_isNegative_of_magnitude hs ?_
  simp only [totalRank, hs] at h
  split at h <;> omega

theorem totalCompare_eq_lt {x y : Binary64} : x.totalCompare y = .lt ↔ x.totalRank < y.totalRank :=
  Int.compare_eq_lt

theorem totalCompare_eq_gt {x y : Binary64} : x.totalCompare y = .gt ↔ y.totalRank < x.totalRank :=
  Int.compare_eq_gt

theorem totalCompare_eq_eq {x y : Binary64} : x.totalCompare y = .eq ↔ x = y :=
  ⟨fun h => totalRank_injective (Int.compare_eq_eq.1 h), fun h => h ▸ Int.compare_eq_eq.2 rfl⟩

/-- Neither a NaN nor `-0`: the only bit pattern of its number. -/
def Regular (x : Binary64) : Prop := x.isNaN = false ∧ x ≠ negZero

theorem regular_zero : Regular zero := ⟨by decide, by decide⟩

theorem Regular.magnitude_pos {x : Binary64} (hx : x.Regular) (hneg : x.isNegative = true) : 0 < x.magnitude := by
  refine Nat.pos_of_ne_zero fun hzero => hx.2 (eq_of_isNegative_of_magnitude ?_ ?_)
  · rw [hneg]
    decide
  · rw [hzero]
    decide

theorem Regular.rank_lt_iff {x y : Binary64} (hx : x.Regular) (hy : y.Regular) :
    x.rank < y.rank ↔ x.totalRank < y.totalRank := by
  have px := hx.magnitude_pos
  have py := hy.magnitude_pos
  unfold rank totalRank
  cases hxs : x.isNegative <;> cases hys : y.isNegative <;> simp_all <;> omega

/-- Between regular doubles the total order is the order of the numbers. -/
theorem Regular.lt_iff {x y : Binary64} (hx : x.Regular) (hy : y.Regular) :
    x.lt y ↔ x.totalRank < y.totalRank := by
  rw [Binary64.lt_iff, hx.rank_lt_iff hy]
  simp [hx.1, hy.1]

/-- Regular doubles that are one number are one double. -/
theorem Regular.sameNumber_iff {x y : Binary64} (hx : x.Regular) (hy : y.Regular) : x.sameNumber y ↔ x = y := by
  constructor
  · intro h
    have hrank := (Binary64.sameNumber_iff.1 h).2.2
    have h1 := hx.rank_lt_iff hy
    have h2 := hy.rank_lt_iff hx
    exact totalRank_injective (by omega)
  · rintro rfl
    exact Binary64.sameNumber_iff.2 ⟨hx.1, hx.1, rfl⟩

end Telemetry.Binary64
