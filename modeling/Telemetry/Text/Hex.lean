/-!
# Hexadecimal text

`decode?` reads two digits of either case to a byte, `encode` writes a byte as two lower-case digits, and `scalar?`
reads the number of a character.
-/

namespace Telemetry.Text.Hex

/-- The value of a hexadecimal digit of either case. -/
def digit? (c : Char) : Option Nat :=
  if c.isDigit then some (c.toNat - '0'.toNat)
  else if 'a' ≤ c ∧ c ≤ 'f' then some (c.toNat - 'a'.toNat + 10)
  else if 'A' ≤ c ∧ c ≤ 'F' then some (c.toNat - 'A'.toNat + 10)
  else none

/-- The character whose code point the digits spell; surrogates are none. -/
def scalar? (digits : List Char) : Option Char := do
  let n ← digits.foldlM (fun n c => (digit? c).map (16 * n + ·)) 0
  if n < 0xd800 ∨ (0xe000 ≤ n ∧ n < 0x110000) then some (Char.ofNat n) else none

/-- The bytes that a text spells. -/
def decode? : List Char → Option (List UInt8)
  | [] => some []
  | [_] => none
  | hi :: lo :: rest =>
    match digit? hi, digit? lo, decode? rest with
    | some h, some l, some bytes => some (UInt8.ofNat (16 * h + l) :: bytes)
    | _, _, _ => none

def digit (n : Nat) : Char := Nat.digitChar n

def encode (bytes : List UInt8) : List Char := bytes.flatMap fun b => [digit (b.toNat / 16), digit (b.toNat % 16)]

end Telemetry.Text.Hex
