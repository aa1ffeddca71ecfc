import Telemetry.Binary64.Basic

/-!
# Binary64: rounding to nearest

`nearest num den` is the magnitude of the double nearest to `num / den` units, a tie going to the even
significand. Every operation here computes its result exactly, as an integer or a fraction, and rounds once.
-/

namespace Telemetry.Binary64

/-- `num / den` rounded to an integer, a half to the even neighbour. -/
def roundHalfEven (num den : Nat) : Nat :=
  let q := num / den
  let twice := 2 * (num % den)
  if den < twice ∨ (twice = den ∧ q % 2 = 1) then q + 1 else q

/-- The magnitude nearest to `num / den` units; past the largest finite double it is that of infinity. -/
def nearest (num den : Nat) : Nat :=
  let shift := (num / den).log2 - 52
  min (shift * Nat.pow 2 52 + roundHalfEven num (den * Nat.pow 2 shift)) infMagnitude

/-- The double nearest to an integer number of units; 0 takes the sign `zeroNegative`. -/
def ofUnits (zeroNegative : Bool) (n : Int) : Binary64 :=
  if n = 0 then ofParts zeroNegative 0 else ofParts (decide (n < 0)) (nearest n.natAbs 1)

/-- The double nearest to a natural number. -/
def ofNat (n : Nat) : Binary64 := ofParts false (nearest (n * unitsPerOne) 1)

/-- The NaN with the bit set that marks it as quiet. -/
def quiet (x : Binary64) : Binary64 := ⟨x.bits ||| 0x0008000000000000⟩

/-- What an operation without a result gives: a quiet NaN whose sign bit is set. -/
def invalid : Binary64 := ⟨0xfff8000000000000⟩

/-- Sum. Of NaN operands the first is kept and made quiet. -/
def add (x y : Binary64) : Binary64 :=
  if x.isNaN then x.quiet
  else if y.isNaN then y.quiet
  else if x.isFinite then
    if y.isFinite then ofUnits (x.isNegative && y.isNegative) (x.exact + y.exact) else y
  else if y.isFinite || x.isNegative == y.isNegative then x
  else invalid

/-- Difference. Of NaN operands the first is kept and made quiet. -/
def sub (x y : Binary64) : Binary64 := if y.isNaN && !x.isNaN then y.quiet else add x y.neg

/-- The sum from left to right, started at `-0`, which leaves every first summand as it is. -/
def sum (xs : List Binary64) : Binary64 := xs.foldl add negZero

/-- The integer part, clamped to 64 bits without a sign: 0 for negative numbers and for a NaN. -/
def truncToUInt64 (x : Binary64) : UInt64 :=
  if x.isNaN || x.isNegative then 0
  else if x.isFinite then UInt64.ofNat (min (units x.magnitude / unitsPerOne) (UInt64.size - 1))
  else UInt64.ofNat (UInt64.size - 1)

/-- The integer nearest to `x`, a half away from zero, clamped to 64 bits without a sign. -/
def roundToUInt64 (x : Binary64) : UInt64 :=
  if x.isNaN || x.isNegative then 0
  else if x.isFinite then
    UInt64.ofNat (min ((2 * units x.magnitude + unitsPerOne) / (2 * unitsPerOne)) (UInt64.size - 1))
  else UInt64.ofNat (UInt64.size - 1)

/-- A finite double times a natural number. -/
def mulNat (x : Binary64) (n : Nat) : Binary64 := ofParts x.isNegative (nearest (units x.magnitude * n) 1)

end Telemetry.Binary64
