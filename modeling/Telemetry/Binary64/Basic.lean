/-!
# Binary64: the interchange format and its two orders

A double is kept as its 64 bits, so that the payload of a NaN survives every copy. `rank` orders the numbers
(both zeros are one number, a NaN is none); `totalRank` orders the bit patterns, `-0` below `0` and the NaNs
outermost. `exact` gives a finite double as an integer number of units of 2^-1074, the distance between the
smallest doubles: every finite double is such a multiple.
-/

namespace Telemetry

/-- A double, by its bits. -/
structure Binary64 where
  bits : UInt64
deriving DecidableEq, Repr, Inhabited

namespace Binary64

/-- The bits below the sign, as a number. Of two magnitudes the larger belongs to the larger absolute value. -/
def magnitude (x : Binary64) : Nat := x.bits.toNat % Nat.pow 2 63

def isNegative (x : Binary64) : Bool := decide (Nat.pow 2 63 ≤ x.bits.toNat)

def ofParts (negative : Bool) (magnitude : Nat) : Binary64 :=
  ⟨UInt64.ofNat (magnitude + if negative then Nat.pow 2 63 else 0)⟩

/-- The magnitude of the infinities; the NaNs lie above it, the finite doubles below. -/
def infMagnitude : Nat := 2047 * Nat.pow 2 52

def isNaN (x : Binary64) : Bool := decide (infMagnitude < x.magnitude)

def isFinite (x : Binary64) : Bool := decide (x.magnitude < infMagnitude)

def zero : Binary64 := ⟨0⟩

def negZero : Binary64 := ⟨0x8000000000000000⟩

def inf : Binary64 := ⟨0x7ff0000000000000⟩

def negInf : Binary64 := ⟨0xfff0000000000000⟩

def nan : Binary64 := ⟨0x7ff8000000000000⟩

def neg (x : Binary64) : Binary64 := ofParts (!x.isNegative) x.magnitude

/-! ## Units -/

/-- How often the significand of a double of this magnitude has been doubled. -/
def scale (magnitude : Nat) : Nat := magnitude / Nat.pow 2 52 - 1

/-- The absolute value of a double of this magnitude, in units of 2^-1074. -/
def units (magnitude : Nat) : Nat := (magnitude - scale magnitude * Nat.pow 2 52) * Nat.pow 2 (scale magnitude)

/-- The value of a finite double, in units of 2^-1074. -/
def exact (x : Binary64) : Int := if x.isNegative then -(units x.magnitude : Int) else units x.magnitude

def unitsPerOne : Nat := Nat.pow 2 1074

/-! ## Numeric order -/

/-- Position among the numbers: `-0` and `0` share position 0. -/
def rank (x : Binary64) : Int := if x.isNegative then -(x.magnitude : Int) else x.magnitude

/-- Whether both are numbers and `x` is below `y`. -/
def lt (x y : Binary64) : Bool := !x.isNaN && !y.isNaN && decide (x.rank < y.rank)

/-- Whether both are numbers and `x` is at most `y`. -/
def le (x y : Binary64) : Bool := !x.isNaN && !y.isNaN && decide (x.rank ≤ y.rank)

/-- Whether both are one number. -/
def sameNumber (x y : Binary64) : Bool := !x.isNaN && !y.isNaN && decide (x.rank = y.rank)

/-! ## Total order -/

/-- Position among all bit patterns: -NaN, -inf, …, -0, 0, …, inf, NaN. -/
def totalRank (x : Binary64) : Int := if x.isNegative then -(x.magnitude : Int) - 1 else x.magnitude

def totalCompare (x y : Binary64) : Ordering := compare x.totalRank y.totalRank

def totalLe (x y : Binary64) : Bool := decide (x.totalRank ≤ y.totalRank)

end Binary64

end Telemetry
