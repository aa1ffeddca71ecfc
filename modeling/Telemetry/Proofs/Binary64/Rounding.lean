import Mathlib.Tactic.Positivity.Basic
import Mathlib.Tactic.Ring
import Telemetry.Binary64.Rounding
import Telemetry.Proofs.Binary64.Order

/-!
# What rounding leaves exact

A finite magnitude is a significand below 2^53, doubled some number of times (`Normal`), and rounding leaves a number of
this form as it is (`nearest_units`, `units_nearest`). So the naturals up to 2^53 are doubles (`units_ofNat`) whose
differences and integer parts are exact (`sub_ofNat`, `truncToUInt64_ofNat`). A sum of finite doubles may overflow, but
it is a number (`isNaN_sum`).
-/

namespace Telemetry.Binary64

/-! ## Parts -/

section Parts

variable (negative : Bool) {m : Nat} (h : m < 2 ^ 63)

include h

theorem toNat_ofParts : (ofParts negative m).bits.toNat = m + if negative then 2 ^ 63 else 0 := by
  unfold ofParts
  rw [UInt64.toNat_ofNat', Nat.pow_eq]
  apply Nat.mod_eq_of_lt
  split <;> omega

theorem magnitude_ofParts : (ofParts negative m).magnitude = m := by
  unfold magnitude
  rw [toNat_ofParts negative h, Nat.pow_eq]
  split <;> omega

theorem isNegative_ofParts : (ofParts negative m).isNegative = negative := by
  unfold isNegative
  rw [toNat_ofParts negative h, Nat.pow_eq]
  cases negative with
  | false => simpa using h
  | true => simp

end Parts

theorem ofParts_parts (x : Binary64) : ofParts x.isNegative x.magnitude = x := by
  have hm : x.magnitude < 2 ^ 63 := Nat.mod_lt _ (by decide)
  exact eq_of_isNegative_of_magnitude (isNegative_ofParts _ hm) (magnitude_ofParts _ hm)

theorem infMagnitude_lt : infMagnitude < 2 ^ 63 := by decide

theorem isNaN_ofParts (negative : Bool) {m : Nat} (h : m ≤ infMagnitude) : (ofParts negative m).isNaN = false := by
  rw [isNaN_eq_false_iff, magnitude_ofParts _ (h.trans_lt infMagnitude_lt)]
  exact h

/-! ## Significands -/

/-- A significand that, doubled `s` times, is the value of a magnitude. -/
structure Normal (m s : Nat) : Prop where
  lt : m < 2 ^ 53
  lead : 2 ^ 52 ≤ m ∨ s = 0

/-- Every magnitude is a significand with a count of doublings. -/
theorem exists_normal (mag : Nat) : ∃ m s, Normal m s ∧ mag = s * 2 ^ 52 + m ∧ units mag = m * 2 ^ s := by
  refine ⟨mag - scale mag * 2 ^ 52, scale mag, ⟨?_, ?_⟩, ?_, rfl⟩
  · unfold scale
    rw [Nat.pow_eq]
    omega
  · unfold scale
    rw [Nat.pow_eq]
    omega
  · unfold scale
    rw [Nat.pow_eq]
    omega

theorem units_pos {mag : Nat} (h : mag ≠ 0) : 0 < units mag := by
  obtain ⟨m, s, hnormal, hmag, hunits⟩ := exists_normal mag
  have hm : 0 < m := by
    rcases hnormal.lead with hlead | hzero
    · omega
    · rw [hzero] at hmag
      omega
  rw [hunits]
  exact Nat.mul_pos hm (Nat.two_pow_pos s)

theorem units_eq {m s : Nat} (h : Normal m s) : units (s * 2 ^ 52 + m) = m * 2 ^ s := by
  have hlt := h.lt
  have hscale : scale (s * 2 ^ 52 + m) = s := by
    unfold scale
    rw [Nat.pow_eq]
    rcases h.lead with hlead | hzero <;> omega
  unfold units
  rw [hscale, Nat.pow_eq, Nat.add_sub_cancel_left, Nat.pow_eq]

/-- Whatever is made of fewer than 53 binary digits has a normal form. -/
theorem exists_normal_eq {m : Nat} (hm : m < 2 ^ 53) (k : Nat) : ∃ n s, Normal n s ∧ s ≤ k ∧ m * 2 ^ k = n * 2 ^ s := by
  -- a significand without its leading bit takes in one of the doublings
  induction k generalizing m with
  | zero => exact ⟨m, 0, ⟨hm, Or.inr rfl⟩, le_refl 0, rfl⟩
  | succ k ih =>
    by_cases hlead : 2 ^ 52 ≤ m
    · exact ⟨m, k + 1, ⟨hm, Or.inl hlead⟩, le_refl _, rfl⟩
    · obtain ⟨n, s, hn, hs, heq⟩ := ih (m := 2 * m) (by omega)
      refine ⟨n, s, hn, hs.trans k.le_succ, ?_⟩
      rw [← heq, Nat.pow_succ]
      ring

theorem log2_eq {m s : Nat} (h : Normal m s) : (m * 2 ^ s).log2 - 52 = s := by
  rcases h.lead with hlead | rfl
  · have hpos : m * 2 ^ s ≠ 0 := Nat.mul_ne_zero (by omega) (Nat.two_pow_pos s).ne'
    have hlow : 2 ^ (52 + s) ≤ m * 2 ^ s := by
      rw [Nat.pow_add]
      exact Nat.mul_le_mul_right _ hlead
    have hhigh : m * 2 ^ s < 2 ^ (53 + s) := by
      rw [Nat.pow_add]
      exact Nat.mul_lt_mul_of_pos_right h.lt (Nat.two_pow_pos s)
    have := (Nat.le_log2 hpos).2 hlow
    have := (Nat.log2_lt hpos).2 hhigh
    omega
  · rw [Nat.pow_zero, Nat.mul_one]
    by_cases hzero : m = 0
    · rw [hzero, Nat.log2_zero]
    · have := (Nat.log2_lt hzero).2 h.lt
      omega

/-! ## Rounding -/

theorem roundHalfEven_mul (n : Nat) {d : Nat} (hd : 0 < d) : roundHalfEven (n * d) d = n := by
  unfold roundHalfEven
  rw [Nat.mul_mod_left, Nat.mul_div_cancel _ hd]
  simp [hd.ne]

/-- A common factor does not change how a fraction rounds. -/
theorem roundHalfEven_mul_mul (num den : Nat) {c : Nat} (hc : 0 < c) :
    roundHalfEven (num * c) (den * c) = roundHalfEven num den := by
  have hlt : den * c < 2 * (num % den * c) ↔ den < 2 * (num % den) := by
    rw [← Nat.mul_assoc]
    exact Nat.mul_lt_mul_right hc
  have heq : 2 * (num % den * c) = den * c ↔ 2 * (num % den) = den := by
    rw [← Nat.mul_assoc]
    exact Nat.mul_left_inj hc.ne'
  simp only [roundHalfEven, Nat.mul_div_mul_right _ _ hc, Nat.mul_mod_mul_right, hlt, heq]

theorem nearest_eq {num den s : Nat} (h : (num / den).log2 - 52 = s) :
    nearest num den = min (s * 2 ^ 52 + roundHalfEven num (den * 2 ^ s)) infMagnitude := by
  subst h
  rfl

theorem nearest_mul_mul (num den : Nat) {c : Nat} (hc : 0 < c) : nearest (num * c) (den * c) = nearest num den := by
  have hshift : (num * c / (den * c)).log2 - 52 = (num / den).log2 - 52 := by rw [Nat.mul_div_mul_right _ _ hc]
  rw [nearest_eq hshift, Nat.mul_right_comm den c, roundHalfEven_mul_mul _ _ hc, nearest_eq rfl]

theorem nearest_le (num den : Nat) : nearest num den ≤ infMagnitude := Nat.min_le_right _ _

theorem nearest_normal {m s : Nat} (h : Normal m s) (hfinite : s * 2 ^ 52 + m < infMagnitude) :
    nearest (m * 2 ^ s) 1 = s * 2 ^ 52 + m := by
  have hshift : (m * 2 ^ s / 1).log2 - 52 = s := by rw [Nat.div_one, log2_eq h]
  rw [nearest_eq hshift, Nat.one_mul, roundHalfEven_mul m (Nat.two_pow_pos s)]
  exact Nat.min_eq_left hfinite.le

/-- **A double rounds to itself.** -/
theorem nearest_units {mag : Nat} (h : mag < infMagnitude) : nearest (units mag) 1 = mag := by
  obtain ⟨m, s, hnormal, rfl, hunits⟩ := exists_normal mag
  rw [hunits, nearest_normal hnormal h]

/-- **A number of at most 2^53 steps of one size is exact**, if it lies in the range of the format. -/
theorem units_nearest {m k : Nat} (hm : m ≤ 2 ^ 53) (hk : k ≤ 2044) :
    nearest (m * 2 ^ k) 1 < infMagnitude ∧ units (nearest (m * 2 ^ k) 1) = m * 2 ^ k := by
  obtain ⟨n, s, hnormal, hs, heq⟩ : ∃ n s, Normal n s ∧ s ≤ k + 1 ∧ m * 2 ^ k = n * 2 ^ s := by
    rcases hm.lt_or_eq with hlt | rfl
    · obtain ⟨n, s, hnormal, hs, heq⟩ := exists_normal_eq hlt k
      exact ⟨n, s, hnormal, hs.trans k.le_succ, heq⟩
    · exact ⟨2 ^ 52, k + 1, ⟨by decide, Or.inl (le_refl _)⟩, le_refl _, by ring⟩
  have hfinite : s * 2 ^ 52 + n < infMagnitude := by
    have := hnormal.lt
    unfold infMagnitude
    rw [Nat.pow_eq]
    omega
  rw [heq, nearest_normal hnormal hfinite]
  exact ⟨hfinite, units_eq hnormal⟩

/-! ## Negation and addition -/

theorem neg_parts (x : Binary64) : x.neg.isNegative = !x.isNegative ∧ x.neg.magnitude = x.magnitude := by
  have hm : x.magnitude < 2 ^ 63 := Nat.mod_lt _ (by decide)
  exact ⟨isNegative_ofParts _ hm, magnitude_ofParts _ hm⟩

theorem exact_neg (x : Binary64) : x.neg.exact = -x.exact := by
  obtain ⟨hs, hm⟩ := x.neg_parts
  unfold exact
  rw [hs, hm]
  cases x.isNegative <;> simp

theorem isFinite_neg (x : Binary64) : x.neg.isFinite = x.isFinite := by
  unfold isFinite
  rw [x.neg_parts.2]

theorem add_eq_ofUnits {x y : Binary64} (hx : x.isFinite = true) (hy : y.isFinite = true) :
    x.add y = ofUnits (x.isNegative && y.isNegative) (x.exact + y.exact) := by
  unfold add
  simp [isNaN_of_isFinite hx, isNaN_of_isFinite hy, hx, hy]

theorem sub_eq_ofUnits {x y : Binary64} (hx : x.isFinite = true) (hy : y.isFinite = true) :
    x.sub y = ofUnits (x.isNegative && !y.isNegative) (x.exact - y.exact) := by
  have hneg : y.neg.isFinite = true := (isFinite_neg y).trans hy
  unfold sub
  rw [isNaN_of_isFinite hy, Bool.false_and, if_neg (by decide), add_eq_ofUnits hx hneg, y.neg_parts.1, exact_neg,
    Int.sub_eq_add_neg]

/-! ## Integer parts -/

theorem toNat_truncToUInt64 {x : Binary64} (hx : x.isFinite = true) :
    x.truncToUInt64.toNat = min (x.exact.toNat / unitsPerOne) (UInt64.size - 1) := by
  unfold truncToUInt64 exact
  rw [isNaN_of_isFinite hx, hx, Bool.false_or]
  cases x.isNegative with
  | true => simp
  | false =>
    have hsize : min (units x.magnitude / unitsPerOne) (UInt64.size - 1) < UInt64.size :=
      (Nat.min_le_right _ _).trans_lt (by decide)
    rw [if_neg (by decide), if_pos rfl, if_neg (by decide), Int.toNat_natCast, UInt64.toNat_ofNat_of_lt' hsize]

/-! ## Naturals -/

section Naturals

variable {m n : Nat}

theorem magnitude_ofNat (n : Nat) : (ofNat n).magnitude = nearest (n * unitsPerOne) 1 :=
  magnitude_ofParts _ ((nearest_le _ _).trans_lt infMagnitude_lt)

theorem isNegative_ofNat (n : Nat) : (ofNat n).isNegative = false :=
  isNegative_ofParts _ ((nearest_le _ _).trans_lt infMagnitude_lt)

theorem ofNat_zero : ofNat 0 = zero := by decide +kernel

theorem unitsPerOne_eq : unitsPerOne = 2 ^ 1074 := by decide +kernel

theorem unitsPerOne_pos : 0 < unitsPerOne := by
  rw [unitsPerOne_eq]
  positivity

theorem isFinite_ofNat (hn : n ≤ 2 ^ 53) : (ofNat n).isFinite = true := by
  rw [isFinite_iff, magnitude_ofNat, unitsPerOne_eq]
  exact (units_nearest hn (by decide)).1

theorem units_ofNat (hn : n ≤ 2 ^ 53) : units (ofNat n).magnitude = n * unitsPerOne := by
  rw [magnitude_ofNat, unitsPerOne_eq]
  exact (units_nearest hn (by decide)).2

theorem exact_ofNat (hn : n ≤ 2 ^ 53) : (ofNat n).exact = (n * unitsPerOne : Nat) := by
  unfold exact
  rw [isNegative_ofNat, units_ofNat hn]
  rfl

/-- **Differences of naturals are exact.** -/
theorem sub_ofNat (hm : m ≤ 2 ^ 53) (hnm : n ≤ m) : (ofNat m).sub (ofNat n) = ofNat (m - n) := by
  have hn : n ≤ 2 ^ 53 := hnm.trans hm
  have hexact : (ofNat m).exact - (ofNat n).exact = ((m - n) * unitsPerOne : Nat) := by
    rw [exact_ofNat hm, exact_ofNat hn, Nat.sub_mul]
    have := Nat.mul_le_mul_right unitsPerOne hnm
    omega
  rw [sub_eq_ofUnits (isFinite_ofNat hm) (isFinite_ofNat hn), hexact, isNegative_ofNat]
  unfold ofUnits ofNat
  by_cases hzero : (m - n) * unitsPerOne = 0
  · simp [hzero, nearest, roundHalfEven]
  · have hpos : ¬ ((((m - n) * unitsPerOne : Nat) : Int) < 0) := by omega
    have hne : (((m - n) * unitsPerOne : Nat) : Int) ≠ 0 := by omega
    rw [if_neg hne, decide_eq_false hpos, Int.natAbs_natCast]

theorem rank_ofNat (n : Nat) : (ofNat n).rank = (ofNat n).magnitude := by
  unfold rank
  rw [isNegative_ofNat, if_neg (by decide)]

theorem not_ofNat_lt_zero (n : Nat) : (ofNat n).lt zero = false := by
  have hzero : zero.rank = 0 := by decide
  refine Bool.eq_false_iff.2 fun h => ?_
  have hrank := (lt_iff.1 h).2.2
  rw [hzero, rank_ofNat] at hrank
  omega

/-- **The integer part of a natural is the natural.** -/
theorem truncToUInt64_ofNat (hn : n ≤ 2 ^ 53) : ((ofNat n).truncToUInt64).toNat = n := by
  rw [toNat_truncToUInt64 (isFinite_ofNat hn), exact_ofNat hn, Int.toNat_natCast, Nat.mul_div_cancel _ unitsPerOne_pos]
  exact Nat.min_eq_left (hn.trans (by decide))

end Naturals

/-! ## Sums -/

theorem isNaN_ofUnits (zeroNegative : Bool) (n : Int) : (ofUnits zeroNegative n).isNaN = false := by
  unfold ofUnits
  split
  · exact isNaN_ofParts _ (Nat.zero_le _)
  · exact isNaN_ofParts _ (nearest_le _ _)

theorem isNaN_add {x y : Binary64} (hx : x.isNaN = false) (hy : y.isFinite = true) : (x.add y).isNaN = false := by
  cases hfinite : x.isFinite with
  | true =>
    rw [add_eq_ofUnits hfinite hy]
    exact isNaN_ofUnits _ _
  | false =>
    unfold add
    simp [hx, isNaN_of_isFinite hy, hfinite, hy]

/-- **The sum of finite doubles is a number**, if perhaps an infinite one. -/
theorem isNaN_sum {xs : List Binary64} (h : ∀ x ∈ xs, x.isFinite = true) : (sum xs).isNaN = false := by
  have hfold : ∀ start : Binary64, start.isNaN = false → (xs.foldl add start).isNaN = false := by
    induction xs with
    | nil => exact fun _ hstart => hstart
    | cons x xs ih =>
      intro start hstart
      exact ih (fun y hy => h y (List.mem_cons_of_mem x hy)) _ (isNaN_add hstart (h x List.mem_cons_self))
  exact hfold negZero (by decide)

end Telemetry.Binary64
