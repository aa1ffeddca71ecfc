import Telemetry.Binary64.Rounding

/-!
# Binary64: decimal text

`Decimal` is a digit string with a power of ten, and `Decimal.magnitude` the double nearest to it.

*Writing* takes the fewest digits that read back, always in positional notation: the coarsest grid of powers of ten
that holds a number reading back as the double gives its digits; of two such neighbours the nearer one is taken
and the upper one in a tie. The search tests each candidate by reading it, so what is written always reads back.

*Reading* takes an optional sign, then `inf`, `infinity` or `nan` in any case, or digits with an optional point and
an optional exponent, and rounds once.
-/

namespace Telemetry.Binary64

/-- The number `digits * 10 ^ exponent`. -/
structure Decimal where
  digits : Nat
  exponent : Int
deriving DecidableEq, Repr

namespace Decimal

/-- The magnitude of the nearest double. Numbers far outside the range of the format are settled by their order of
magnitude alone, so that no huge power is formed: there are fewer decimal digits than binary ones. -/
def magnitude (d : Decimal) : Nat :=
  if d.digits = 0 ∨ (d.digits.log2 : Int) + 1 + d.exponent < -330 then 0
  else if 330 < d.exponent then infMagnitude
  else match d.exponent with
    | .ofNat k => nearest (d.digits * Nat.pow 10 k * unitsPerOne) 1
    | .negSucc k => nearest (d.digits * unitsPerOne) (Nat.pow 10 (k + 1))

/-! ## Writing -/

/-- The two neighbours of `mag` on the grid of multiples of 10 ^ exponent, the nearer one first. -/
def neighbours (mag : Nat) (exponent : Int) : List Decimal :=
  let (num, den) := match exponent with
    | .ofNat k => (units mag, Nat.pow 10 k * unitsPerOne)
    | .negSucc k => (units mag * Nat.pow 10 (k + 1), unitsPerOne)
  let lower := num / den
  if 2 * (num % den) < den then [⟨lower, exponent⟩, ⟨lower + 1, exponent⟩]
  else [⟨lower + 1, exponent⟩, ⟨lower, exponent⟩]

/-- The nearest multiple of 10 ^ exponent that reads back as `mag`. -/
def onGrid? (mag : Nat) (exponent : Int) : Option Decimal :=
  (neighbours mag exponent).find? fun d => d.magnitude == mag

/-- The finite magnitude in full, down to the last unit. -/
def full (mag : Nat) : Decimal := ⟨units mag * Nat.pow 5 1074, -1074⟩

/-- The first hit on `tries` grids, each ten times finer than the one before. -/
def search (mag : Nat) (exponent : Int) : Nat → Decimal
  | 0 => full mag
  | tries + 1 => (onGrid? mag exponent).getD (search mag (exponent - 1) tries)

/-- An exponent of ten above the finite magnitude: 30103 / 100000 is just more than the logarithm of 2. -/
def above (mag : Nat) : Int := (((units mag).log2 : Int) - 1073) * 30103 / 100000 + 2

/-- The fewest digits that read back as the finite magnitude. Seventeen always do. -/
def shortest (mag : Nat) : Decimal := if mag = 0 then ⟨0, 0⟩ else search mag (above mag) 22

/-- Positional notation: no exponent, and no point without digits behind it. -/
def toText (d : Decimal) : List Char :=
  match d.exponent with
  | .ofNat k => Nat.toDigits 10 d.digits ++ if d.digits = 0 then [] else List.replicate k '0'
  | .negSucc k =>
    let padded := List.leftpad (k + 2) '0' (Nat.toDigits 10 d.digits)
    padded.take (padded.length - (k + 1)) ++ '.' :: padded.drop (padded.length - (k + 1))

end Decimal

def toText (x : Binary64) : String :=
  if x.isNaN then "NaN"
  else
    let body := if x.isFinite then (Decimal.shortest x.magnitude).toText else "inf".toList
    String.ofList (if x.isNegative then '-' :: body else body)

/-! ## Reading -/

namespace Decimal

/-- The value of a digit string, read after the digits of `start`. -/
def digitsValue (start : Nat) (ds : List Char) : Nat :=
  ds.foldl (fun n c => 10 * n + (c.toNat - '0'.toNat)) start

/-- An optional sign, and what follows it. -/
def splitSign : List Char → Bool × List Char
  | '-' :: rest => (true, rest)
  | '+' :: rest => (false, rest)
  | rest => (false, rest)

/-- An exponent that fills the whole rest of a numeral: nothing, or a mark, an optional sign and digits. -/
def exponent? : List Char → Option Int
  | [] => some 0
  | mark :: rest =>
    let (negative, ds) := splitSign rest
    if (mark = 'e' ∨ mark = 'E') ∧ ds ≠ [] ∧ ds.all Char.isDigit then
      some (if negative then -(digitsValue 0 ds : Int) else digitsValue 0 ds)
    else none

def ofText? (text : List Char) : Option Decimal :=
  let whole := text.takeWhile Char.isDigit
  let (fraction, rest) := match text.dropWhile Char.isDigit with
    | '.' :: after => (after.takeWhile Char.isDigit, after.dropWhile Char.isDigit)
    | rest => ([], rest)
  if whole = [] ∧ fraction = [] then none
  else (exponent? rest).map fun e => ⟨digitsValue (digitsValue 0 whole) fraction, e - fraction.length⟩

end Decimal

def ofText? (text : String) : Option Binary64 :=
  let (negative, body) := Decimal.splitSign text.toList
  let word := body.map Char.toLower
  if word = "inf".toList ∨ word = "infinity".toList then some (ofParts negative infMagnitude)
  else if word = "nan".toList then some (ofParts negative nan.magnitude)
  else (Decimal.ofText? body).map fun d => ofParts negative d.magnitude

end Telemetry.Binary64
