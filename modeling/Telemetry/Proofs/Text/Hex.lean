import Mathlib.Data.List.Basic
import Telemetry.Text.Hex

/-!
# Hexadecimal text and the bytes that it spells

A text of either case spells the bytes whose lower-case text it is when its own letters are made lower-case. Exactly
such texts decode, to these bytes (`decode?_eq_some_iff`): the texts that decode are those of hexadecimal digits, an
even number of them (`isSome_decode?`).
-/

namespace Telemetry.Text.Hex

def isHexDigit (c : Char) : Bool := c.isDigit || decide ('a' ≤ c ∧ c ≤ 'f') || decide ('A' ≤ c ∧ c ≤ 'F')

theorem toNat_toLower (c : Char) :
    c.toLower.toNat = if 65 ≤ c.toNat ∧ c.toNat ≤ 90 then c.toNat + 32 else c.toNat := by
  unfold Char.toLower
  split
  · rename_i h
    have hlow : 65 ≤ c.toNat := h.1
    have hhigh : c.toNat ≤ 90 := h.2
    rw [if_pos ⟨hlow, hhigh⟩]
    change (c.val + ('a'.val - 'A'.val)).toNat = c.toNat + 32
    have hval : c.val.toNat = c.toNat := rfl
    have hshift : ('a'.val - 'A'.val).toNat = 32 := by decide
    rw [UInt32.toNat_add]
    omega
  · rename_i h
    rw [if_neg]
    exact h

theorem toNat_digit {n : Nat} (h : n < 16) : (digit n).toNat = if n < 10 then n + 48 else n + 87 := by
  have hall : ∀ n < 16, (digit n).toNat = if n < 10 then n + 48 else n + 87 := by decide
  exact hall n h

theorem digit?_eq (c : Char) : digit? c =
    if 48 ≤ c.toNat ∧ c.toNat ≤ 57 then some (c.toNat - 48)
    else if 97 ≤ c.toNat ∧ c.toNat ≤ 102 then some (c.toNat - 87)
    else if 65 ≤ c.toNat ∧ c.toNat ≤ 70 then some (c.toNat - 55)
    else none := by
  have hdigit : c.isDigit = true ↔ 48 ≤ c.toNat ∧ c.toNat ≤ 57 := Char.isDigit_iff_toNat
  have hlower : 'a' ≤ c ∧ c ≤ 'f' ↔ 97 ≤ c.toNat ∧ c.toNat ≤ 102 := Iff.rfl
  have hupper : 'A' ≤ c ∧ c ≤ 'F' ↔ 65 ≤ c.toNat ∧ c.toNat ≤ 70 := Iff.rfl
  have h0 : '0'.toNat = 48 := rfl
  have ha : 'a'.toNat = 97 := rfl
  have hA : 'A'.toNat = 65 := rfl
  unfold digit?
  simp only [hdigit, hlower, hupper, h0, ha, hA]
  split
  · rfl
  · split
    · congr 1
      omega
    · split
      · congr 1
        omega
      · rfl

theorem digit?_eq_some_iff {c : Char} {n : Nat} : digit? c = some n ↔ n < 16 ∧ digit n = c.toLower := by
  rw [digit?_eq, ← Char.toNat_inj]
  constructor
  · intro h
    have hn : n < 16 := by grind
    rw [toNat_digit hn, toNat_toLower]
    grind
  · rintro ⟨hn, h⟩
    rw [toNat_digit hn, toNat_toLower] at h
    grind

theorem isSome_digit? (c : Char) : (digit? c).isSome = isHexDigit c := by
  unfold digit? isHexDigit
  split
  · simp [*]
  · split
    · simp [*]
    · split <;> simp [*]

theorem decode?_cons_cons_eq_some_iff {hi lo : Char} {rest : List Char} {bytes : List UInt8} :
    decode? (hi :: lo :: rest) = some bytes ↔ ∃ h l tail, digit? hi = some h ∧ digit? lo = some l ∧
      decode? rest = some tail ∧ bytes = UInt8.ofNat (16 * h + l) :: tail := by
  rw [decode?]
  cases digit? hi <;> cases digit? lo <;> cases decode? rest <;> simp [eq_comm]

theorem encode_cons (b : UInt8) (bytes : List UInt8) :
    encode (b :: bytes) = digit (b.toNat / 16) :: digit (b.toNat % 16) :: encode bytes := rfl

/-- **A text decodes to the bytes that it spells**: these are written as its lower-case form. -/
theorem decode?_eq_some_iff {text : List Char} {bytes : List UInt8} :
    decode? text = some bytes ↔ encode bytes = text.map Char.toLower := by
  induction bytes generalizing text with
  | nil =>
    match text with
    | [] => simp [decode?, encode]
    | [_] => simp [decode?, encode]
    | hi :: lo :: rest => simp [decode?_cons_cons_eq_some_iff, encode]
  | cons b tail ih =>
    match text with
    | [] => simp [decode?, encode_cons]
    | [_] => simp [decode?, encode_cons]
    | hi :: lo :: rest =>
      have hb : b.toNat < 256 := b.toNat_lt
      rw [decode?_cons_cons_eq_some_iff, encode_cons, List.map_cons, List.map_cons]
      constructor
      · rintro ⟨h, l, _, hhi, hlo, htail, heq⟩
        obtain ⟨rfl, rfl⟩ := List.cons.inj heq
        obtain ⟨hh, hhi⟩ := digit?_eq_some_iff.1 hhi
        obtain ⟨hl, hlo⟩ := digit?_eq_some_iff.1 hlo
        have hbyte : (UInt8.ofNat (16 * h + l)).toNat = 16 * h + l := by
          rw [UInt8.toNat_ofNat']
          omega
        have hhigh : (16 * h + l) / 16 = h := by omega
        have hlow : (16 * h + l) % 16 = l := by omega
        rw [hbyte, hhigh, hlow, hhi, hlo, ih.1 htail]
      · intro h
        obtain ⟨hhi, h⟩ := List.cons.inj h
        obtain ⟨hlo, h⟩ := List.cons.inj h
        refine ⟨b.toNat / 16, b.toNat % 16, tail, digit?_eq_some_iff.2 ⟨by omega, hhi⟩,
          digit?_eq_some_iff.2 ⟨by omega, hlo⟩, ih.2 h, ?_⟩
        have hbyte : 16 * (b.toNat / 16) + b.toNat % 16 = b.toNat := by omega
        rw [hbyte, UInt8.ofNat_toNat]

theorem length_encode (bytes : List UInt8) : (encode bytes).length = 2 * bytes.length := by
  induction bytes with
  | nil => rfl
  | cons b tail ih =>
    rw [encode_cons, List.length_cons, List.length_cons, List.length_cons, ih]
    omega

/-- The texts that decode are the digits, an even number of them. -/
theorem isSome_decode? (text : List Char) :
    (decode? text).isSome = (decide (text.length % 2 = 0) && text.all isHexDigit) := by
  match text with
  | [] => rfl
  | [_] => rfl
  | hi :: lo :: rest =>
    have hrest := isSome_decode? rest
    have heven : (hi :: lo :: rest).length % 2 = rest.length % 2 := Nat.add_mod_right rest.length 2
    rw [heven, List.all_cons, List.all_cons, ← isSome_digit? hi, ← isSome_digit? lo, Bool.and_left_comm,
      Bool.and_left_comm (decide _), ← hrest, decode?]
    cases digit? hi <;> cases digit? lo <;> cases decode? rest <;> rfl

theorem length_of_decode? {text : List Char} {bytes : List UInt8} (h : decode? text = some bytes) :
    text.length = 2 * bytes.length := by
  rw [← length_encode, decode?_eq_some_iff.1 h, List.length_map]

end Telemetry.Text.Hex
