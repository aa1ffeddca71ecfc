import Mathlib.Algebra.Order.Ring.Nat
import Telemetry.Wire.Decoding

/-!
# Fields and their bytes

The bytes of a field read back to the field, whatever stands behind them (`field?_encode`). A message is therefore read
back field by field, down to its last byte (`decode?_encode`), as long as its fields have numbers that the format
allows.
-/

namespace Telemetry.Wire

/-! ## Numbers -/

theorem toNat_uint8_of_lt {n : Nat} (h : n < 256) : (UInt8.ofNat n).toNat = n := by
  rw [UInt8.toNat_ofNat']
  exact Nat.mod_eq_of_lt h

/-- A number of at most `limit + 1` groups of seven bits reads back. -/
theorem varint?_varint {limit n : Nat} (h : n < 128 ^ (limit + 1)) (rest : List UInt8) :
    varint? (limit + 1) (varint n ++ rest) = some (n, rest) := by
  induction limit generalizing n with
  | zero =>
    have hn : n < 128 := by simpa using h
    rw [varint, if_pos hn]
    simp [varint?, toNat_uint8_of_lt (show n < 256 by omega), hn]
  | succ limit ih =>
    rw [varint]
    split
    · rename_i hn
      simp [varint?, toNat_uint8_of_lt (show n < 256 by omega), hn]
    · have hquot : n / 128 < 128 ^ (limit + 1) := by
        rw [Nat.div_lt_iff_lt_mul (by decide), ← pow_succ]
        exact h
      have hbyte : (UInt8.ofNat (n % 128 + 128)).toNat = n % 128 + 128 := toNat_uint8_of_lt (by omega)
      have hcontinues : ¬ n % 128 + 128 < 128 := by omega
      rw [List.cons_append, varint?, hbyte, if_neg hcontinues, ih hquot]
      simp only [Option.map_some, Option.some.injEq, Prod.mk.injEq, and_true]
      omega

theorem varint64?_varint {n : Nat} (h : n < UInt64.size) (rest : List UInt8) :
    varint64? (varint n ++ rest) = some (n, rest) := by
  have hgroups : n < 128 ^ (9 + 1) := lt_of_lt_of_le h (by decide)
  rw [varint64?, varint?_varint hgroups]
  exact Option.filter_some_pos (decide_eq_true h)

theorem varint_ne_nil (n : Nat) : varint n ≠ [] := by
  rw [varint]
  split <;> simp

theorem length_littleEndian (count n : Nat) : (littleEndian count n).length = count := by
  induction count generalizing n with
  | zero => rfl
  | succ count ih => rw [littleEndian, List.length_cons, ih]

theorem ofLittleEndian_littleEndian {count n : Nat} (h : n < 256 ^ count) :
    ofLittleEndian (littleEndian count n) = n := by
  induction count generalizing n with
  | zero =>
    have hn : n = 0 := by simpa using h
    rw [hn]
    rfl
  | succ count ih =>
    have hquot : n / 256 < 256 ^ count := by
      rw [Nat.div_lt_iff_lt_mul (by decide), ← pow_succ]
      exact h
    have hstep : ofLittleEndian (littleEndian (count + 1) n)
        = (UInt8.ofNat (n % 256)).toNat + 256 * ofLittleEndian (littleEndian count (n / 256)) := rfl
    rw [hstep, toNat_uint8_of_lt (Nat.mod_lt n (by decide)), ih hquot]
    omega

theorem take?_append {count : Nat} {taken : List UInt8} (h : taken.length = count) (rest : List UInt8) :
    take? count (taken ++ rest) = some (taken, rest) := by
  have hle : count ≤ (taken ++ rest).length := by
    rw [List.length_append]
    omega
  rw [take?, if_pos hle, ← h, List.take_left, List.drop_left]

theorem ofLittleEndian_word (w : UInt64) : UInt64.ofNat (ofLittleEndian (word w)) = w := by
  have hw : w.toNat < 256 ^ 8 := w.toNat_lt
  rw [word, ofLittleEndian_littleEndian hw, UInt64.ofNat_toNat]

theorem length_word (w : UInt64) : (word w).length = 8 := length_littleEndian 8 w.toNat

/-! ## Fields -/

/-- The form of a payload, read from the field's tag, is enough to read the payload back. -/
theorem payload?_encode (p : Payload) (rest : List UInt8) : payload? p.form (p.encode ++ rest) = some (p, rest) := by
  cases p with
  | varint value =>
    simp only [Payload.form, Payload.encode, payload?]
    rw [varint64?_varint value.toNat_lt, Option.map_some, UInt64.ofNat_toNat]
  | fixed64 w =>
    simp only [Payload.form, Payload.encode, payload?]
    rw [take?_append (length_word w), Option.map_some, ofLittleEndian_word]
  | fixed32 w =>
    have hw : w.toNat < 256 ^ 4 := w.toNat_lt
    simp only [Payload.form, Payload.encode, payload?]
    rw [take?_append (length_littleEndian 4 w.toNat), Option.map_some, ofLittleEndian_littleEndian hw,
      UInt32.ofNat_toNat]
  | bytes content =>
    -- the count is below the number of bytes that follow it, so these are groups enough
    obtain ⟨limit, hlimit⟩ : ∃ limit, (Wire.varint content.length ++ content ++ rest).length = limit + 1 := by
      refine Nat.exists_eq_succ_of_ne_zero fun hzero => varint_ne_nil content.length ?_
      simp only [List.length_eq_zero_iff, List.append_eq_nil_iff] at hzero
      exact hzero.1.1
    have hcount : content.length < 128 ^ (limit + 1) := by
      have hle : content.length ≤ limit + 1 := by
        rw [← hlimit, List.length_append, List.length_append]
        omega
      exact lt_of_lt_of_le (Nat.lt_pow_self (by decide)) (Nat.pow_le_pow_right (by decide) hle)
    simp only [Payload.form, Payload.encode, payload?]
    rw [hlimit, List.append_assoc, varint?_varint hcount, Option.bind_some]
    simp only
    rw [take?_append rfl, Option.map_some]

/-- A field with a number that the format allows. -/
def Field.Proper (f : Field) : Prop := 0 < f.number ∧ f.number < 2 ^ 29

theorem field?_encode {f : Field} (h : f.Proper) (rest : List UInt8) : field? (f.encode ++ rest) = some (f, rest) := by
  obtain ⟨hpos, hlt⟩ := h
  have hform : f.payload.form < 8 := by cases f.payload <;> simp [Payload.form]
  have htag : f.number * 8 + f.payload.form < UInt64.size := by
    have hsize : UInt64.size = 2 ^ 64 := rfl
    omega
  have hnumber : (f.number * 8 + f.payload.form) / 8 = f.number := by omega
  have hcode : (f.number * 8 + f.payload.form) % 8 = f.payload.form := by omega
  rw [field?, Field.encode, List.append_assoc, varint64?_varint htag, Option.bind_some]
  simp only [hnumber, hcode]
  rw [if_neg (by omega), payload?_encode]
  rfl

theorem length_encode_pos (f : Field) : 0 < f.encode.length := by
  rw [Field.encode, List.length_append]
  exact Nat.add_pos_left (List.length_pos_iff.2 (varint_ne_nil _)) _

theorem fields?_encode {fields : List Field} (h : ∀ f ∈ fields, f.Proper) {fuel : Nat}
    (hfuel : (encode fields).length ≤ fuel) : fields? fuel (encode fields) = some fields := by
  induction fields generalizing fuel with
  | nil => cases fuel <;> rfl
  | cons f rest ih =>
    have hf := field?_encode (h f List.mem_cons_self) (encode rest)
    have hrest : ∀ g ∈ rest, g.Proper := fun g hg => h g (List.mem_cons_of_mem f hg)
    have hpos := length_encode_pos f
    have hbytes : encode (f :: rest) = f.encode ++ encode rest := rfl
    rw [hbytes] at hfuel ⊢
    rw [List.length_append] at hfuel
    obtain ⟨fuel, rfl⟩ : ∃ k, fuel = k + 1 := ⟨fuel - 1, by omega⟩
    obtain ⟨b, bs, hcons⟩ : ∃ b bs, f.encode ++ encode rest = b :: bs :=
      List.exists_cons_of_ne_nil fun hnil => by
        rw [List.append_eq_nil_iff] at hnil
        rw [hnil.1] at hpos
        exact Nat.lt_irrefl _ hpos
    rw [hcons, fields?, ← hcons, hf, Option.bind_some]
    · simp only
      rw [ih hrest (by omega), Option.map_some]
    · exact List.cons_ne_nil b bs

/-- **Every byte of a message belongs to one of its fields**, which read back in order. -/
theorem decode?_encode {fields : List Field} (h : ∀ f ∈ fields, f.Proper) : decode? (encode fields) = some fields :=
  fields?_encode h (Nat.le_refl _)

end Telemetry.Wire
