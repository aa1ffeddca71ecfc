import Telemetry.Wire.Field

/-!
# Reading wire fields

`decode?` takes bytes apart into fields and fails unless every byte belongs to one. The members of a message are then
asked for by number, by the rules of proto3: fields of other numbers are passed over, the last value of a plain member
holds, a missing one has its default, and a message that occurs again is continued.
-/

namespace Telemetry.Wire

/-! ## Bytes -/

/-- A varint of at most `limit` bytes, and what follows it. -/
def varint? : Nat → List UInt8 → Option (Nat × List UInt8)
  | 0, _ => none
  | _ + 1, [] => none
  | limit + 1, b :: rest =>
    if b.toNat < 128 then some (b.toNat, rest)
    else (varint? limit rest).map fun (n, after) => (b.toNat - 128 + 128 * n, after)

/-- A varint of 64 bits, which takes at most ten bytes. -/
def varint64? (bytes : List UInt8) : Option (Nat × List UInt8) :=
  (varint? 10 bytes).filter fun (n, _) => decide (n < UInt64.size)

/-- The number that bytes spell, the lowest first. -/
def ofLittleEndian (bytes : List UInt8) : Nat := bytes.foldr (fun b n => b.toNat + 256 * n) 0

/-- The first `count` bytes, if there are as many, and what follows them. -/
def take? (count : Nat) (bytes : List UInt8) : Option (List UInt8 × List UInt8) :=
  if count ≤ bytes.length then some (bytes.take count, bytes.drop count) else none

/-- A payload of the form with this code. A count is bounded by the bytes that follow it and needs no other limit. -/
def payload? (form : Nat) (bytes : List UInt8) : Option (Payload × List UInt8) :=
  match form with
  | 0 => (varint64? bytes).map fun (n, rest) => (.varint (UInt64.ofNat n), rest)
  | 1 => (take? 8 bytes).map fun (w, rest) => (.fixed64 (UInt64.ofNat (ofLittleEndian w)), rest)
  | 2 => (varint? bytes.length bytes).bind fun (count, rest) =>
    (take? count rest).map fun (c, after) => (.bytes c, after)
  | 5 => (take? 4 bytes).map fun (w, rest) => (.fixed32 (UInt32.ofNat (ofLittleEndian w)), rest)
  | _ => none

/-- A field at the start. No field has the number 0. -/
def field? (bytes : List UInt8) : Option (Field × List UInt8) :=
  (varint64? bytes).bind fun (tag, rest) =>
    if tag / 8 = 0 then none
    else (payload? (tag % 8) rest).map fun (payload, after) => (⟨tag / 8, payload⟩, after)

/-- The fields up to the end. Each takes a byte at least, so the number of bytes is fuel enough. -/
def fields? : Nat → List UInt8 → Option (List Field)
  | _, [] => some []
  | 0, _ => none
  | fuel + 1, bytes => (field? bytes).bind fun (f, rest) => (fields? fuel rest).map (f :: ·)

def decode? (bytes : List UInt8) : Option (List Field) := fields? bytes.length bytes

/-! ## Members -/

def payloads (number : Nat) (fields : List Field) : List Payload :=
  (fields.filter fun f => f.number == number).map Field.payload

/-- A word that is missing if it equals its default. -/
def wordAt? (number : Nat) (fields : List Field) : Option UInt64 :=
  match (payloads number fields).getLast? with
  | none => some 0
  | some (.fixed64 w) => some w
  | some _ => none

def intAt? (number : Nat) (fields : List Field) : Option UInt64 :=
  match (payloads number fields).getLast? with
  | none => some 0
  | some (.varint n) => some n
  | some _ => none

/-- A double that is missing if it equals its default. -/
def doubleAt? (number : Nat) (fields : List Field) : Option Binary64 := (wordAt? number fields).map Binary64.mk

/-- A double that may be absent. -/
def optionalDoubleAt? (number : Nat) (fields : List Field) : Option (Option Binary64) :=
  match (payloads number fields).getLast? with
  | none => some none
  | some (.fixed64 w) => some (some ⟨w⟩)
  | some _ => none

def presentDoubleAt? (number : Nat) (fields : List Field) : Option Binary64 := (optionalDoubleAt? number fields).join

def Payload.content? : Payload → Option (List UInt8)
  | bytes content => some content
  | _ => none

/-- A byte string that is missing if it is empty. -/
def bytesAt? (number : Nat) (fields : List Field) : Option (List UInt8) :=
  match (payloads number fields).getLast? with
  | none => some []
  | some payload => payload.content?

def ofUtf8? (content : List UInt8) : Option String := String.fromUTF8? ⟨content.toArray⟩

/-- A text that is missing if it is empty. -/
def textAt? (number : Nat) (fields : List Field) : Option String := (bytesAt? number fields).bind ofUtf8?

def presentTextAt? (number : Nat) (fields : List Field) : Option String :=
  match (payloads number fields).getLast? with
  | none => none
  | some payload => payload.content?.bind ofUtf8?

/-- The message that fields hold one after the other. -/
def joined? (payloads : List Payload) : Option (List Field) :=
  (payloads.mapM Payload.content?).bind fun contents => decode? contents.flatten

/-- A message that is there, however often it is continued. -/
def messageAt? (number : Nat) (fields : List Field) : Option (List Field) :=
  match payloads number fields with
  | [] => none
  | found => joined? found

/-- The repeated messages of a number, each read by `read`. -/
def messagesAt? {α : Type} (number : Nat) (fields : List Field) (read : List Field → Option α) : Option (List α) :=
  (payloads number fields).mapM fun payload => (payload.content?.bind decode?).bind read

def unpack? : Nat → List UInt8 → Option (List UInt64)
  | _, [] => some []
  | 0, _ => none
  | fuel + 1, bytes =>
    (take? 8 bytes).bind fun (w, rest) => (unpack? fuel rest).map (UInt64.ofNat (ofLittleEndian w) :: ·)

/-- The words in one payload, packed or a single one. -/
def Payload.words? : Payload → Option (List UInt64)
  | bytes content => unpack? content.length content
  | fixed64 w => some [w]
  | _ => none

def wordsAt? (number : Nat) (fields : List Field) : Option (List UInt64) :=
  ((payloads number fields).mapM Payload.words?).map List.flatten

/-- Of members of which a message has one at most, the number of the last that occurs, and the message it holds. -/
def chosenAt? (numbers : List Nat) (fields : List Field) : Option (Nat × List Field) :=
  let members := (fields.filter fun f => numbers.contains f.number).reverse
  match members.head? with
  | none => none
  | some last =>
    let run := (members.takeWhile fun f => f.number == last.number).reverse
    (joined? (run.map Field.payload)).map fun content => (last.number, content)

end Telemetry.Wire
