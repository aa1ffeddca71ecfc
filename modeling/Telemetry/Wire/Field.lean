import Telemetry.Binary64.Basic

/-!
# Wire fields

The protobuf wire format: a message is a list of numbered fields, each with a varint, a fixed word of 64 or 32 bits, or
a payload of bytes with their count before them. A member of a message becomes fields of its number; in proto3 a plain
member that equals its default is not written.
-/

namespace Telemetry.Wire

inductive Payload
  | varint (value : UInt64)
  | fixed64 (word : UInt64)
  | fixed32 (word : UInt32)
  | bytes (content : List UInt8)
deriving DecidableEq, Repr

structure Field where
  number : Nat
  payload : Payload
deriving DecidableEq, Repr

/-! ## Bytes -/

/-- Seven bits a byte, the lowest first; all but the last byte have their top bit set. -/
def varint (n : Nat) : List UInt8 :=
  if n < 128 then [UInt8.ofNat n] else UInt8.ofNat (n % 128 + 128) :: varint (n / 128)
termination_by n
decreasing_by omega

/-- The low `count` bytes of a number, the lowest first. -/
def littleEndian : Nat → Nat → List UInt8
  | 0, _ => []
  | count + 1, n => UInt8.ofNat (n % 256) :: littleEndian count (n / 256)

def word (w : UInt64) : List UInt8 := littleEndian 8 w.toNat

/-- The code of a payload's form, which is part of a field's tag. -/
def Payload.form : Payload → Nat
  | varint _ => 0
  | fixed64 _ => 1
  | bytes _ => 2
  | fixed32 _ => 5

def Payload.encode : Payload → List UInt8
  | varint value => Wire.varint value.toNat
  | fixed64 w => word w
  | fixed32 w => littleEndian 4 w.toNat
  | bytes content => Wire.varint content.length ++ content

def Field.encode (f : Field) : List UInt8 := varint (f.number * 8 + f.payload.form) ++ f.payload.encode

def encode (fields : List Field) : List UInt8 := fields.flatMap Field.encode

/-! ## Members -/

def plainWord (number : Nat) (w : UInt64) : List Field := if w = 0 then [] else [⟨number, .fixed64 w⟩]

def plainInt (number : Nat) (n : UInt64) : List Field := if n = 0 then [] else [⟨number, .varint n⟩]

/-- A double that is written whatever its value. -/
def presentDouble (number : Nat) (x : Binary64) : List Field := [⟨number, .fixed64 x.bits⟩]

/-- A double that may be absent. -/
def optionalDouble (number : Nat) : Option Binary64 → List Field
  | some x => presentDouble number x
  | none => []

/-- A plain double; both zeros equal the default. -/
def plainDouble (number : Nat) (x : Binary64) : List Field :=
  if x.sameNumber .zero then [] else presentDouble number x

def plainBytes (number : Nat) (content : List UInt8) : List Field :=
  if content.isEmpty then [] else [⟨number, .bytes content⟩]

def utf8 (text : String) : List UInt8 := text.toUTF8.data.toList

/-- A text that is written even when empty. -/
def presentText (number : Nat) (text : String) : List Field := [⟨number, .bytes (utf8 text)⟩]

def plainText (number : Nat) (text : String) : List Field := plainBytes number (utf8 text)

/-- A message within the message, written even when empty. -/
def message (number : Nat) (fields : List Field) : List Field := [⟨number, .bytes (encode fields)⟩]

def messages {α : Type} (number : Nat) (items : List α) (fields : α → List Field) : List Field :=
  items.flatMap fun item => message number (fields item)

def packedWords (number : Nat) (words : List UInt64) : List Field := plainBytes number (words.flatMap word)

end Telemetry.Wire
