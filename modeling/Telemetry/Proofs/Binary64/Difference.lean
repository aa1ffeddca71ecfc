import Mathlib.Order.Monotone.Basic
import Telemetry.Proofs.Binary64.Rounding

/-!
# Rounded differences

Units ascend with magnitudes (`strictMono_units`), and rounding keeps their order (`nearest_mono`). So the
difference of two finite doubles has the sign that it has without rounding: it lies below zero exactly if the first
number lies below the second (`sub_lt_zero_iff`), however close or far apart the two are. The integer parts of a
double and of what a second one exceeds it by never add up to more than that of the second
(`trunc_add_trunc_sub_le`), even though the difference may have been rounded up to an integer; between integers they
add up to as much (`trunc_add_trunc_sub_eq`).
-/

namespace Telemetry.Binary64

/-! ## Units -/

theorem units_lt_units_succ (mag : Nat) : units mag < units (mag + 1) := by
  obtain ⟨m, s, hnormal, rfl, hunits⟩ := exists_normal mag
  have hlt := hnormal.lt
  rw [hunits]
  by_cases hroom : m + 1 < 2 ^ 53
  · have hnext : Normal (m + 1) s := ⟨hroom, hnormal.lead.imp_left fun h => h.trans m.le_succ⟩
    rw [Nat.add_assoc, units_eq hnext]
    exact Nat.mul_lt_mul_of_pos_right m.lt_succ_self (Nat.two_pow_pos s)
  · -- the last significand of its scale is followed by the first one of the next
    have hm : m + 1 = 2 ^ 53 := by omega
    have hnext : Normal (2 ^ 52) (s + 1) := ⟨by decide, Or.inl (le_refl _)⟩
    have hmag : s * 2 ^ 52 + m + 1 = (s + 1) * 2 ^ 52 + 2 ^ 52 := by omega
    rw [hmag, units_eq hnext]
    calc m * 2 ^ s < 2 ^ 53 * 2 ^ s := Nat.mul_lt_mul_of_pos_right hlt (Nat.two_pow_pos s)
      _ = 2 ^ 52 * 2 ^ (s + 1) := by ring

/-- **Units ascend with magnitudes.** -/
theorem strictMono_units : StrictMono units := strictMono_nat_of_lt_succ units_lt_units_succ

theorem units_zero : units 0 = 0 := by decide

theorem exact_lt_exact_iff {x y : Binary64} : x.exact < y.exact ↔ x.rank < y.rank := by
  have hxy : units x.magnitude < units y.magnitude ↔ x.magnitude < y.magnitude := strictMono_units.lt_iff_lt
  have hyx : units y.magnitude < units x.magnitude ↔ y.magnitude < x.magnitude := strictMono_units.lt_iff_lt
  have hx : units 0 < units x.magnitude ↔ 0 < x.magnitude := strictMono_units.lt_iff_lt
  have hy : units 0 < units y.magnitude ↔ 0 < y.magnitude := strictMono_units.lt_iff_lt
  rw [units_zero] at hx hy
  unfold exact rank
  cases x.isNegative <;> cases y.isNegative <;> simp only [Bool.false_eq_true, if_false, if_true] <;> omega

theorem exact_of_sameNumber {x y : Binary64} (h : x.sameNumber y) : x.exact = y.exact := by
  have hrank := (sameNumber_iff.1 h).2.2
  have hlt : ¬ x.exact < y.exact := by rw [exact_lt_exact_iff]; omega
  have hgt : ¬ y.exact < x.exact := by rw [exact_lt_exact_iff]; omega
  omega

theorem exact_zero : zero.exact = 0 := by decide

theorem lt_iff_exact {x y : Binary64} (hx : x.isNaN = false) (hy : y.isNaN = false) :
    x.lt y ↔ x.exact < y.exact := by
  rw [lt_iff, exact_lt_exact_iff]
  simp [hx, hy]

theorem le_iff_exact {x y : Binary64} (hx : x.isNaN = false) (hy : y.isNaN = false) :
    x.le y ↔ x.exact ≤ y.exact := by
  rw [le_eq_not_lt hx hy, Bool.not_eq_true', Bool.eq_false_iff, ne_eq, lt_iff_exact hy hx, Int.not_lt]

/-! ## Rounding -/

theorem div_le_roundHalfEven (num den : Nat) : num / den ≤ roundHalfEven num den := by
  unfold roundHalfEven
  dsimp only
  split <;> omega

theorem roundHalfEven_le_div_succ (num den : Nat) : roundHalfEven num den ≤ num / den + 1 := by
  unfold roundHalfEven
  dsimp only
  split <;> omega

theorem roundHalfEven_mono {n m : Nat} (den : Nat) (h : n ≤ m) : roundHalfEven n den ≤ roundHalfEven m den := by
  rcases (Nat.div_le_div_right h : n / den ≤ m / den).lt_or_eq with hquotient | hquotient
  · calc roundHalfEven n den ≤ n / den + 1 := roundHalfEven_le_div_succ n den
      _ ≤ m / den := hquotient
      _ ≤ roundHalfEven m den := div_le_roundHalfEven m den
  · -- of two numbers between the same integers the larger one rounds up if the other does
    have hrest : n % den ≤ m % den := by
      have hn := Nat.div_add_mod n den
      have hm := Nat.div_add_mod m den
      rw [hquotient] at hn
      omega
    unfold roundHalfEven
    dsimp only
    rw [hquotient]
    split <;> split <;> omega

/-- What lies in the binade of `s` doublings rounds to a significand with or without its leading bit full. -/
theorem roundHalfEven_le {n s : Nat} (h : n < 2 ^ (s + 53)) : roundHalfEven n (2 ^ s) ≤ 2 ^ 53 := by
  have hquotient : n / 2 ^ s < 2 ^ 53 := by
    rw [Nat.div_lt_iff_lt_mul (Nat.two_pow_pos s), ← Nat.pow_add, Nat.add_comm]
    exact h
  exact (roundHalfEven_le_div_succ n (2 ^ s)).trans hquotient

theorem le_roundHalfEven {n s : Nat} (h : 2 ^ (s + 52) ≤ n) : 2 ^ 52 ≤ roundHalfEven n (2 ^ s) := by
  refine Nat.le_trans ?_ (div_le_roundHalfEven n (2 ^ s))
  rw [Nat.le_div_iff_mul_le (Nat.two_pow_pos s), ← Nat.pow_add, Nat.add_comm]
  exact h

theorem log2_le_log2 {n m : Nat} (hn : n ≠ 0) (h : n ≤ m) : n.log2 ≤ m.log2 :=
  (Nat.le_log2 (by omega)).2 ((Nat.log2_self_le hn).trans h)

theorem nearest_zero : nearest 0 1 = 0 := by decide

/-- **Rounding keeps order.** -/
theorem nearest_mono {n m : Nat} (h : n ≤ m) : nearest n 1 ≤ nearest m 1 := by
  by_cases hn : n = 0
  · subst hn
    rw [nearest_zero]
    exact Nat.zero_le _
  · obtain ⟨s, hs⟩ : ∃ s, n.log2 - 52 = s := ⟨_, rfl⟩
    obtain ⟨t, ht⟩ : ∃ t, m.log2 - 52 = t := ⟨_, rfl⟩
    have hlog : n.log2 ≤ m.log2 := log2_le_log2 hn h
    rw [nearest_eq (s := s) (by rw [Nat.div_one, hs]), nearest_eq (s := t) (by rw [Nat.div_one, ht]), Nat.one_mul,
      Nat.one_mul]
    apply min_le_min_right
    rcases Nat.lt_or_ge s t with hst | hst
    · -- in a lower binade even what rounds up stays at or below the first number of the next one
      have hlow : n < 2 ^ (s + 53) := (Nat.log2_lt hn).1 (by omega)
      have hhigh : 2 ^ (t + 52) ≤ m := (Nat.le_log2 (by omega)).1 (by omega)
      have := roundHalfEven_le hlow
      have := le_roundHalfEven hhigh
      omega
    · have heq : s = t := by omega
      subst heq
      exact Nat.add_le_add_left (roundHalfEven_mono _ h) _

theorem nearest_pos {n : Nat} (h : 0 < n) : 0 < nearest n 1 := by
  have hone : nearest 1 1 = 1 := by decide
  have hmono : nearest 1 1 ≤ nearest n 1 := nearest_mono h
  omega

/-! ## Signs of differences -/

theorem magnitude_ofUnits (zeroNegative : Bool) (n : Int) :
    (ofUnits zeroNegative n).magnitude = nearest n.natAbs 1 := by
  unfold ofUnits
  split
  · rename_i hzero
    rw [magnitude_ofParts _ (by decide), hzero, Int.natAbs_zero, nearest_zero]
  · exact magnitude_ofParts _ ((nearest_le _ _).trans_lt infMagnitude_lt)

theorem exact_ofUnits (zeroNegative : Bool) (n : Int) : (ofUnits zeroNegative n).exact =
    if n < 0 then -(units (nearest n.natAbs 1) : Int) else units (nearest n.natAbs 1) := by
  unfold exact
  rw [magnitude_ofUnits]
  by_cases hzero : n = 0
  · simp [hzero, nearest_zero, units_zero]
  · have hsign : (ofUnits zeroNegative n).isNegative = decide (n < 0) := by
      unfold ofUnits
      rw [if_neg hzero]
      exact isNegative_ofParts _ ((nearest_le _ _).trans_lt infMagnitude_lt)
    simp only [hsign, decide_eq_true_eq]

theorem ofUnits_lt_zero_iff (zeroNegative : Bool) (n : Int) : (ofUnits zeroNegative n).lt zero ↔ n < 0 := by
  rw [lt_iff_exact (isNaN_ofUnits _ _) (by decide), exact_zero, exact_ofUnits]
  by_cases hneg : n < 0
  · have hpos : 0 < units (nearest n.natAbs 1) := units_pos (nearest_pos (Int.natAbs_pos.2 hneg.ne)).ne'
    rw [if_pos hneg]
    omega
  · rw [if_neg hneg]
    omega

/-- **A rounded difference has the sign of the difference.** -/
theorem sub_lt_zero_iff {x y : Binary64} (hx : x.isFinite = true) (hy : y.isFinite = true) :
    (x.sub y).lt zero ↔ x.lt y := by
  rw [sub_eq_ofUnits hx hy, ofUnits_lt_zero_iff, lt_iff_exact (isNaN_of_isFinite hx) (isNaN_of_isFinite hy)]
  omega

theorem sub_lt_zero_eq_false_iff {x y : Binary64} (hx : x.isFinite = true) (hy : y.isFinite = true) :
    (x.sub y).lt zero = false ↔ y.le x := by
  rw [le_eq_not_lt (isNaN_of_isFinite hy) (isNaN_of_isFinite hx), Bool.not_eq_true', ← Bool.not_eq_true,
    ← Bool.not_eq_true, sub_lt_zero_iff hx hy]

/-! ## Integer parts of differences -/

/-- A finite double without a fraction. -/
structure IsWhole (x : Binary64) : Prop where
  isFinite : x.isFinite = true
  dvd : (unitsPerOne : Int) ∣ x.exact

theorem isWhole_ofNat {n : Nat} (hn : n ≤ 2 ^ 53) : (ofNat n).IsWhole := by
  refine ⟨isFinite_ofNat hn, ?_⟩
  rw [exact_ofNat hn]
  exact Int.natCast_dvd_natCast.2 (Nat.dvd_mul_left unitsPerOne n)

theorem exact_of_nonneg {x : Binary64} (h : 0 ≤ x.exact) : x.exact = units x.magnitude := by
  unfold exact at h ⊢
  cases hneg : x.isNegative with
  | true =>
    rw [hneg, if_pos rfl] at h
    rw [if_pos rfl]
    omega
  | false => rfl

theorem truncToUInt64_of_sameNumber {x y : Binary64} (hx : x.isFinite = true) (hy : y.isFinite = true)
    (h : x.sameNumber y) : x.truncToUInt64 = y.truncToUInt64 := by
  rw [← UInt64.toNat_inj, toNat_truncToUInt64 hx, toNat_truncToUInt64 hy, exact_of_sameNumber h]

/-- A magnitude that does not exceed 2^53 steps of one size is a number of such steps, or of smaller ones. -/
theorem exists_eq_mul_two_pow {mag e : Nat} (h : units mag ≤ 2 ^ 53 * 2 ^ e) :
    ∃ m k, m ≤ 2 ^ 53 ∧ k ≤ e ∧ units mag = m * 2 ^ k := by
  obtain ⟨m, s, hnormal, -, hunits⟩ := exists_normal mag
  rcases Nat.lt_or_ge e s with hs | hs
  · obtain ⟨t, rfl⟩ := Nat.exists_eq_add_of_lt hs
    have hsteps : m * 2 ^ (e + t + 1) = m * 2 ^ (t + 1) * 2 ^ e := by ring
    rw [hunits, hsteps] at h ⊢
    exact ⟨m * 2 ^ (t + 1), e, Nat.le_of_mul_le_mul_right h (Nat.two_pow_pos e), le_refl e, rfl⟩
  · exact ⟨m, s, hnormal.lt.le, hs, hunits⟩

/-- What is left of a double up to 2^53 when whole ones are taken away is exact. -/
theorem units_nearest_sub {mag n : Nat} (h : units mag ≤ 2 ^ 53 * unitsPerOne) :
    units (nearest (units mag - n * unitsPerOne) 1) = units mag - n * unitsPerOne := by
  rw [unitsPerOne_eq] at *
  obtain ⟨m, k, hm, hk, hunits⟩ := exists_eq_mul_two_pow h
  have hrest : units mag - n * 2 ^ 1074 = (m - n * 2 ^ (1074 - k)) * 2 ^ k := by
    rw [hunits, Nat.sub_mul, Nat.mul_assoc, ← Nat.pow_add, Nat.sub_add_cancel hk]
  rw [hrest]
  exact (units_nearest ((Nat.sub_le _ _).trans hm) (hk.trans (by decide))).2

theorem toNat_truncToUInt64_of_le {x : Binary64} (hx : x.isFinite = true) {n : Nat} (hexact : x.exact = n)
    (hn : n ≤ 2 ^ 53 * unitsPerOne) : x.truncToUInt64.toNat = n / unitsPerOne := by
  rw [toNat_truncToUInt64 hx, hexact, Int.toNat_natCast]
  have hquotient : n / unitsPerOne ≤ 2 ^ 53 := Nat.div_le_of_le_mul (Nat.mul_comm _ _ ▸ hn)
  exact Nat.min_eq_left (hquotient.trans (by decide))

theorem add_sub_mul_div {q n d : Nat} (hd : 0 < d) (h : q * d ≤ n) : q + (n - q * d) / d = n / d := by
  have hq : q ≤ n / d := (Nat.le_div_iff_mul_le hd).2 h
  rw [Nat.mul_comm, Nat.sub_mul_div, Nat.add_sub_cancel' hq]

theorem nearest_sub_le {x : Binary64} (hx : x.isFinite = true) (n : Nat) :
    nearest (units x.magnitude - n) 1 ≤ x.magnitude := by
  calc nearest (units x.magnitude - n) 1 ≤ nearest (units x.magnitude) 1 := nearest_mono (Nat.sub_le _ _)
    _ = x.magnitude := nearest_units (isFinite_iff.1 hx)

theorem sub_of_nonneg {x y : Binary64} (hx : x.isFinite = true) (hy : y.isFinite = true) (hzero : 0 ≤ y.exact)
    (hle : y.exact ≤ x.exact) : (x.sub y).isFinite = true ∧
      (x.sub y).exact = units (nearest (units x.magnitude - units y.magnitude) 1) := by
  have hyunits := exact_of_nonneg hzero
  have hxunits := exact_of_nonneg (hzero.trans hle)
  have hdiff : x.exact - y.exact = (units x.magnitude - units y.magnitude : Nat) := by omega
  rw [sub_eq_ofUnits hx hy, hdiff]
  constructor
  · rw [isFinite_iff, magnitude_ofUnits, Int.natAbs_natCast]
    exact (nearest_sub_le hx _).trans_lt (isFinite_iff.1 hx)
  · rw [exact_ofUnits, if_neg (by omega), Int.natAbs_natCast]

section Trunc

variable {x y : Binary64} (hx : x.isFinite = true) (hy : y.isFinite = true) (hzero : zero.le y) (hle : y.le x)
  (hmax : x.le (ofNat (2 ^ 53)))

include hx hy hzero hle hmax

/-- The integer parts of two numbers in this range and of their difference, in units. -/
theorem trunc_parts : ∃ a b, a ≤ units b ∧ units b ≤ 2 ^ 53 * unitsPerOne ∧ y.exact = a ∧
    y.truncToUInt64.toNat = a / unitsPerOne ∧ x.truncToUInt64.toNat = units b / unitsPerOne ∧
    (x.sub y).truncToUInt64.toNat = units (nearest (units b - a) 1) / unitsPerOne := by
  rw [le_iff_exact (by decide) (isNaN_of_isFinite hy), exact_zero] at hzero
  rw [le_iff_exact (isNaN_of_isFinite hy) (isNaN_of_isFinite hx)] at hle
  rw [le_iff_exact (isNaN_of_isFinite hx) (isNaN_of_isFinite (isFinite_ofNat (le_refl _))),
    exact_ofNat (le_refl _)] at hmax
  have hyunits := exact_of_nonneg hzero
  have hxunits := exact_of_nonneg (hzero.trans hle)
  have hyx : units y.magnitude ≤ units x.magnitude := by omega
  have hxmax : units x.magnitude ≤ 2 ^ 53 * unitsPerOne := by omega
  obtain ⟨hfinite, hexact⟩ := sub_of_nonneg hx hy hzero hle
  have hround : units (nearest (units x.magnitude - units y.magnitude) 1) ≤ units x.magnitude :=
    strictMono_units.monotone (nearest_sub_le hx _)
  refine ⟨units y.magnitude, x.magnitude, hyx, hxmax, hyunits, ?_, ?_, ?_⟩
  · exact toNat_truncToUInt64_of_le hy hyunits (hyx.trans hxmax)
  · exact toNat_truncToUInt64_of_le hx hxunits hxmax
  · exact toNat_truncToUInt64_of_le hfinite hexact (hround.trans hxmax)

/-- **Integer parts never overshoot**: that of a number and that of what is added to it come to no more than that of the
sum, even if the difference was rounded up. -/
theorem trunc_add_trunc_sub_le :
    y.truncToUInt64.toNat + (x.sub y).truncToUInt64.toNat ≤ x.truncToUInt64.toNat := by
  obtain ⟨a, b, hab, hb, -, hy, hx, hsub⟩ := trunc_parts hx hy hzero hle hmax
  have hpart : a / unitsPerOne * unitsPerOne ≤ a := Nat.div_mul_le_self a unitsPerOne
  -- without the fraction of `y` the difference is larger, and exact
  have hround : units (nearest (units b - a) 1) ≤ units b - a / unitsPerOne * unitsPerOne := by
    calc units (nearest (units b - a) 1) ≤ units (nearest (units b - a / unitsPerOne * unitsPerOne) 1) :=
        strictMono_units.monotone (nearest_mono (Nat.sub_le_sub_left hpart _))
      _ = units b - a / unitsPerOne * unitsPerOne := units_nearest_sub hb
  rw [hy, hx, hsub]
  calc a / unitsPerOne + units (nearest (units b - a) 1) / unitsPerOne
      ≤ a / unitsPerOne + (units b - a / unitsPerOne * unitsPerOne) / unitsPerOne :=
        Nat.add_le_add_left (Nat.div_le_div_right hround) _
    _ = units b / unitsPerOne := add_sub_mul_div unitsPerOne_pos (hpart.trans hab)

/-- **Integer parts add up** above an integer. -/
theorem trunc_add_trunc_sub_eq (hwhole : y.IsWhole) :
    y.truncToUInt64.toNat + (x.sub y).truncToUInt64.toNat = x.truncToUInt64.toNat := by
  obtain ⟨a, b, hab, hb, hexact, hy, hx, hsub⟩ := trunc_parts hx hy hzero hle hmax
  have hdvd : unitsPerOne ∣ a := by
    have := hwhole.dvd
    rw [hexact] at this
    exact Int.natCast_dvd_natCast.1 this
  have hpart : a / unitsPerOne * unitsPerOne = a := Nat.div_mul_cancel hdvd
  have hround : units (nearest (units b - a) 1) = units b - a / unitsPerOne * unitsPerOne := by
    calc units (nearest (units b - a) 1) = units (nearest (units b - a / unitsPerOne * unitsPerOne) 1) := by rw [hpart]
      _ = units b - a / unitsPerOne * unitsPerOne := units_nearest_sub hb
  rw [hy, hx, hsub, hround]
  exact add_sub_mul_div unitsPerOne_pos (hpart.le.trans hab)

end Trunc

-- the smallest double above 0 is lost in a difference that is rounded up to an integer
example : (ofNat 1).sub ⟨1⟩ = ofNat 1 := by decide +kernel

end Telemetry.Binary64
