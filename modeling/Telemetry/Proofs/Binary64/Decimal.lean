import Mathlib.Data.List.TakeWhile
import Telemetry.Binary64.Decimal
import Telemetry.Proofs.Binary64.Rounding

/-!
# What is written reads back

The digits of a finite double read back as the double, whichever grid they are found on (`Decimal.magnitude_shortest`),
and the positional text of a number reads back as this number (`Decimal.exists_spelling`), so the text of every finite
double spells it (`ofText?_toText`).
-/

namespace Telemetry.Binary64

namespace Decimal

/-! ## Digits that read back -/

theorem le_log2_mul_pow {n : Nat} (hn : 0 < n) (k : Nat) : k ≤ (n * Nat.pow 5 k).log2 := by
  have hpow : 0 < Nat.pow 5 k := Nat.pow_pos (by decide)
  refine (Nat.le_log2 (Nat.mul_pos hn hpow).ne').2 ?_
  calc 2 ^ k ≤ 5 ^ k := Nat.pow_le_pow_left (by decide) k
    _ ≤ n * Nat.pow 5 k := Nat.le_mul_of_pos_left _ hn

/-- So many digits are not too few for their exponent: the number is rounded. -/
theorem magnitude_mul_five_pow {n : Nat} (hn : 0 < n) (k : Nat) :
    magnitude ⟨n * Nat.pow 5 (k + 1), .negSucc k⟩ =
      nearest (n * Nat.pow 5 (k + 1) * unitsPerOne) (Nat.pow 10 (k + 1)) := by
  have hpow : 0 < Nat.pow 5 (k + 1) := Nat.pow_pos (by decide)
  have hlog := le_log2_mul_pow hn (k + 1)
  have hlow : ¬ (((n * Nat.pow 5 (k + 1)).log2 : Int) + 1 + Int.negSucc k < -330) := by omega
  have hhigh : ¬ (330 < Int.negSucc k) := by omega
  unfold magnitude
  rw [if_neg (not_or.2 ⟨(Nat.mul_pos hn hpow).ne', hlow⟩), if_neg hhigh]

theorem magnitude_full {mag : Nat} (h : mag < infMagnitude) (hpos : mag ≠ 0) : (full mag).magnitude = mag := by
  have hten : 0 < Nat.pow 10 1074 := by decide +kernel
  have hcancel : Nat.pow 5 1074 * unitsPerOne = Nat.pow 10 1074 := by decide +kernel
  calc (full mag).magnitude
      = nearest (units mag * Nat.pow 5 1074 * unitsPerOne) (Nat.pow 10 1074) :=
        magnitude_mul_five_pow (units_pos hpos) 1073
    _ = nearest (units mag * Nat.pow 10 1074) (1 * Nat.pow 10 1074) := by rw [Nat.mul_assoc, hcancel, Nat.one_mul]
    _ = nearest (units mag) 1 := nearest_mul_mul _ _ hten
    _ = mag := nearest_units h

theorem magnitude_of_onGrid? {mag : Nat} {exponent : Int} {d : Decimal} (h : onGrid? mag exponent = some d) :
    d.magnitude = mag := by
  unfold onGrid? at h
  have hd := List.find?_some h
  exact beq_iff_eq.1 hd

theorem magnitude_search {mag : Nat} (h : mag < infMagnitude) (hpos : mag ≠ 0) (exponent : Int) (tries : Nat) :
    (search mag exponent tries).magnitude = mag := by
  induction tries generalizing exponent with
  | zero => exact magnitude_full h hpos
  | succ tries ih =>
    unfold search
    cases hgrid : onGrid? mag exponent with
    | none => exact ih _
    | some d => exact magnitude_of_onGrid? hgrid

/-- **The digits of a finite double read back.** -/
theorem magnitude_shortest {mag : Nat} (h : mag < infMagnitude) : (shortest mag).magnitude = mag := by
  unfold shortest
  split
  · rename_i hzero
    rw [hzero]
    rfl
  · rename_i hpos
    exact magnitude_search h hpos _ _

/-! ## Numerals -/

theorem digitsValue_append (start : Nat) (ds es : List Char) :
    digitsValue start (ds ++ es) = digitsValue (digitsValue start ds) es := List.foldl_append

theorem digitsValue_toDigits (n : Nat) : digitsValue 0 (Nat.toDigits 10 n) = n :=
  Nat.ofDigitChars_toDigits (by decide) (by decide)

theorem digitsValue_replicate_zero (start k : Nat) : digitsValue start (List.replicate k '0') = 10 ^ k * start :=
  Nat.ofDigitChars_replicate_zero

def pointed (whole fraction : List Char) : List Char := whole ++ if fraction = [] then [] else '.' :: fraction

theorem ofText?_pointed {whole fraction : List Char} (hne : whole ≠ [])
    (hdigits : ∀ c ∈ whole ++ fraction, c.isDigit = true) :
    ofText? (pointed whole fraction) = some ⟨digitsValue 0 (whole ++ fraction), -(fraction.length : Int)⟩ := by
  have hwhole : ∀ c ∈ whole, c.isDigit = true := fun c hc => hdigits c (List.mem_append_left _ hc)
  have hfraction : ∀ c ∈ fraction, c.isDigit = true := fun c hc => hdigits c (List.mem_append_right _ hc)
  unfold ofText? pointed
  rw [List.takeWhile_append_of_pos hwhole, List.dropWhile_append_of_pos hwhole]
  by_cases hempty : fraction = []
  · subst hempty
    simp [hne, exponent?, digitsValue]
  · simp only [if_neg hempty]
    have htake : fraction.takeWhile Char.isDigit = fraction := List.takeWhile_eq_self_iff.2 hfraction
    have hdrop : fraction.dropWhile Char.isDigit = [] := List.dropWhile_eq_nil_iff.2 hfraction
    rw [List.takeWhile_cons_of_neg (by decide), List.dropWhile_cons_of_neg (by decide)]
    simp [hne, htake, hdrop, exponent?, digitsValue_append]

theorem magnitude_ofNat_of_lt {n k : Nat} (hn : n ≠ 0) (h : magnitude ⟨n, .ofNat k⟩ < infMagnitude) :
    magnitude ⟨n, .ofNat k⟩ = nearest (n * Nat.pow 10 k * unitsPerOne) 1 := by
  have hlow : ¬ ((n.log2 : Int) + 1 + Int.ofNat k < -330) := by
    rw [Int.ofNat_eq_natCast]
    omega
  unfold magnitude at h ⊢
  simp only [hn, hlow, or_self, if_false] at h ⊢
  split at h
  · exact absurd h (lt_irrefl _)
  · rename_i hhigh
    rw [if_neg hhigh]

theorem magnitude_mul_pow {n k : Nat} (h : magnitude ⟨n, .ofNat k⟩ < infMagnitude) :
    magnitude ⟨n * 10 ^ k, 0⟩ = magnitude ⟨n, .ofNat k⟩ := by
  by_cases hzero : n = 0
  · simp [hzero, magnitude]
  · have hne : n * 10 ^ k ≠ 0 := Nat.mul_ne_zero hzero (Nat.pow_pos (by decide)).ne'
    have hlow : ¬ (((n * 10 ^ k).log2 : Int) + 1 + 0 < -330) := by omega
    have hhigh : ¬ ((330 : Int) < 0) := by decide
    rw [magnitude_ofNat_of_lt hzero h]
    unfold magnitude
    rw [if_neg (not_or.2 ⟨hne, hlow⟩), if_neg hhigh]
    change nearest (n * 10 ^ k * 1 * unitsPerOne) 1 = nearest (n * 10 ^ k * unitsPerOne) 1
    rw [Nat.mul_one]

/-- Digits to stand before and behind a point, at least one of them before it, that read as this magnitude. -/
structure Spelling (mag : Nat) (whole fraction : List Char) : Prop where
  nonempty : whole ≠ []
  digits : ∀ c ∈ whole ++ fraction, c.isDigit = true
  reads : magnitude ⟨digitsValue 0 (whole ++ fraction), -(fraction.length : Int)⟩ = mag

theorem isDigit_of_mem_toDigits {n : Nat} : ∀ c ∈ Nat.toDigits 10 n, c.isDigit = true := fun _ hc =>
  Nat.isDigit_of_mem_toDigits (by decide) (by decide) hc

theorem isDigit_of_mem_replicate {k : Nat} : ∀ c ∈ List.replicate k '0', c.isDigit = true := by
  intro c hc
  rw [(List.mem_replicate.1 hc).2]
  decide

theorem spelling_ofNat {n k : Nat} (h : magnitude ⟨n, .ofNat k⟩ < infMagnitude) :
    ∃ whole fraction, toText ⟨n, .ofNat k⟩ = pointed whole fraction ∧
      Spelling (magnitude ⟨n, .ofNat k⟩) whole fraction := by
  by_cases hzero : n = 0
  · subst hzero
    refine ⟨Nat.toDigits 10 0, [], rfl, Nat.toDigits_ne_nil, ?_, ?_⟩
    · rw [List.append_nil]
      exact isDigit_of_mem_toDigits
    · rw [List.append_nil, digitsValue_toDigits]
      simp [magnitude]
  · refine ⟨Nat.toDigits 10 n ++ List.replicate k '0', [], ?_, ?_, ?_, ?_⟩
    · simp [toText, pointed, hzero]
    · simp
    · rw [List.append_nil]
      exact List.forall_mem_append.2 ⟨isDigit_of_mem_toDigits, isDigit_of_mem_replicate⟩
    · rw [List.append_nil, digitsValue_append, digitsValue_toDigits, digitsValue_replicate_zero, Nat.mul_comm]
      exact magnitude_mul_pow h

theorem spelling_negSucc (n k : Nat) :
    ∃ whole fraction, toText ⟨n, .negSucc k⟩ = pointed whole fraction ∧
      Spelling (magnitude ⟨n, .negSucc k⟩) whole fraction := by
  have hpadded : List.leftpad (k + 2) '0' (Nat.toDigits 10 n) =
      List.replicate (k + 2 - (Nat.toDigits 10 n).length) '0' ++ Nat.toDigits 10 n := rfl
  have hall : ∀ c ∈ List.leftpad (k + 2) '0' (Nat.toDigits 10 n), c.isDigit = true := by
    rw [hpadded]
    exact List.forall_mem_append.2 ⟨isDigit_of_mem_replicate, isDigit_of_mem_toDigits⟩
  have hvalue : digitsValue 0 (List.leftpad (k + 2) '0' (Nat.toDigits 10 n)) = n := by
    rw [hpadded, digitsValue_append, digitsValue_replicate_zero, Nat.mul_zero, digitsValue_toDigits]
  have hlength : k + 2 ≤ (List.leftpad (k + 2) '0' (Nat.toDigits 10 n)).length := by
    rw [hpadded, List.length_append, List.length_replicate]
    omega
  have htext : toText ⟨n, .negSucc k⟩ =
      let padded := List.leftpad (k + 2) '0' (Nat.toDigits 10 n)
      padded.take (padded.length - (k + 1)) ++ '.' :: padded.drop (padded.length - (k + 1)) := rfl
  rw [htext]
  generalize List.leftpad (k + 2) '0' (Nat.toDigits 10 n) = padded at hall hvalue hlength ⊢
  have hfraction : (padded.drop (padded.length - (k + 1))).length = k + 1 := by
    rw [List.length_drop]
    omega
  have hne : padded.drop (padded.length - (k + 1)) ≠ [] := List.ne_nil_of_length_eq_add_one hfraction
  have hexponent : -((k + 1 : Nat) : Int) = .negSucc k := rfl
  refine ⟨padded.take (padded.length - (k + 1)), padded.drop (padded.length - (k + 1)), ?_, ?_, ?_, ?_⟩
  · simp only [pointed, if_neg hne]
  · rw [← List.length_pos_iff, List.length_take]
    omega
  · rw [List.take_append_drop]
    exact hall
  · rw [List.take_append_drop, hvalue, hfraction, hexponent]

/-- **The text of a number reads back as this number.** -/
theorem exists_spelling {d : Decimal} (h : d.magnitude < infMagnitude) :
    ∃ whole fraction, d.toText = pointed whole fraction ∧ Spelling d.magnitude whole fraction := by
  obtain ⟨digits, exponent⟩ := d
  cases exponent with
  | ofNat k => exact spelling_ofNat h
  | negSucc k => exact spelling_negSucc digits k

end Decimal

/-! ## The text of a double -/

section Text

variable {x : Binary64}

theorem toLower_of_isDigit {c : Char} (h : c.isDigit = true) : c.toLower = c := by
  have hle : c.toNat ≤ 57 := (Char.isDigit_iff_toNat.1 h).2
  unfold Char.toLower
  split
  · rename_i hupper
    have : 65 ≤ c.toNat := hupper.1
    omega
  · rfl

theorem toText_eq (h : x.isFinite = true) : ∃ whole fraction, Decimal.Spelling x.magnitude whole fraction ∧
    x.toText.toList = (if x.isNegative then ['-'] else []) ++ Decimal.pointed whole fraction := by
  have hmagnitude := Decimal.magnitude_shortest (isFinite_iff.1 h)
  obtain ⟨whole, fraction, htext, hspelling⟩ := Decimal.exists_spelling (hmagnitude.symm ▸ isFinite_iff.1 h)
  refine ⟨whole, fraction, hmagnitude ▸ hspelling, ?_⟩
  unfold toText
  rw [isNaN_of_isFinite h, h, ← htext]
  cases x.isNegative <;> simp

theorem splitSign_pointed {c : Char} (hc : c.isDigit = true) (negative : Bool) (rest fraction : List Char) :
    Decimal.splitSign ((if negative then ['-'] else []) ++ Decimal.pointed (c :: rest) fraction) =
      (negative, Decimal.pointed (c :: rest) fraction) := by
  cases negative with
  | true => rfl
  | false =>
    change Decimal.splitSign (c :: (rest ++ _)) = (false, c :: (rest ++ _))
    unfold Decimal.splitSign
    split
    · rename_i heq
      cases heq
      exact absurd hc (by decide)
    · rename_i heq
      cases heq
      exact absurd hc (by decide)
    · rfl

/-- **The text of a finite double spells it.** -/
theorem ofText?_toText (h : x.isFinite = true) : ofText? x.toText = some x := by
  obtain ⟨whole, fraction, hspelling, htext⟩ := toText_eq h
  obtain ⟨c, rest, rfl⟩ := List.exists_cons_of_ne_nil hspelling.nonempty
  have hc : c.isDigit = true := hspelling.digits c List.mem_cons_self
  -- the words for the other doubles start with a letter
  have hword : ∀ d : Char, d.isDigit = false → ∀ ds,
      (Decimal.pointed (c :: rest) fraction).map Char.toLower ≠ d :: ds := by
    intro d hd ds heq
    have hhead : c.toLower = d := (List.cons.inj heq).1
    rw [toLower_of_isDigit hc] at hhead
    rw [hhead, hd] at hc
    cases hc
  have hinf : (Decimal.pointed (c :: rest) fraction).map Char.toLower ≠ "inf".toList := hword 'i' (by decide) _
  have hinfinity : (Decimal.pointed (c :: rest) fraction).map Char.toLower ≠ "infinity".toList :=
    hword 'i' (by decide) _
  have hnan : (Decimal.pointed (c :: rest) fraction).map Char.toLower ≠ "nan".toList := hword 'n' (by decide) _
  unfold ofText?
  rw [htext, splitSign_pointed hc]
  simp only
  rw [if_neg (not_or.2 ⟨hinf, hinfinity⟩), if_neg hnan,
    Decimal.ofText?_pointed hspelling.nonempty hspelling.digits, Option.map_some, hspelling.reads, ofParts_parts]

end Text

end Telemetry.Binary64
