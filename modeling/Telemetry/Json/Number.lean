import Telemetry.Binary64.Decimal
import Telemetry.Json.Basic

/-!
# Numbers of JSON as integers and doubles

An integer is written without fraction and exponent. A double is the one nearest to the number, however many digits it
has; a number beyond the largest double is refused, one too small to be told from zero is zero.
-/

namespace Telemetry.Json.Number

/-- The integer that the number spells, if it has neither fraction nor exponent. A negative zero is none. -/
def toInt? (n : Number) : Option Int :=
  if n.fraction ≠ [] ∨ n.exponent.isSome then none
  else
    let value := Binary64.Decimal.digitsValue 0 n.whole
    if n.negative then (if value = 0 then none else some (-value)) else some value

def toInt64? (n : Number) : Option Int :=
  n.toInt?.filter fun i => decide (-Nat.pow 2 63 ≤ i ∧ i < Nat.pow 2 63)

/-- The power of ten behind the digits as they are written. -/
def power (n : Number) : Int :=
  match n.exponent with
  | none => 0
  | some (negative, digits) =>
    let e : Int := Binary64.Decimal.digitsValue 0 digits
    if negative then -e else e

def toDecimal (n : Number) : Binary64.Decimal :=
  ⟨Binary64.Decimal.digitsValue 0 (n.whole ++ n.fraction), n.power - n.fraction.length⟩

/-- The double nearest to the number, if it is finite. -/
def toBinary64? (n : Number) : Option Binary64 :=
  let magnitude := n.toDecimal.magnitude
  if magnitude = Binary64.infMagnitude then none else some (.ofParts n.negative magnitude)

end Telemetry.Json.Number
