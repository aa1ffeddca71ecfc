import Telemetry.Proofs.Binary64.Order
import Telemetry.Proofs.Wire.Bytes

/-!
# Members read back

What is written for a member of a message is read back under its number, whatever fields of other numbers stand around
it: each lemma `…At?_eq` asks only that the fields of the member's number be those that were written for it. The simp
lemmas about `select` find them among the fields of a whole message.
-/

namespace Telemetry.Wire

/-! ## Fields by number -/

def select (p : Nat → Bool) (fields : List Field) : List Field := fields.filter fun f => p f.number

section Select

variable {p : Nat → Bool} {n : Nat}

@[simp] theorem select_append (as bs : List Field) : select p (as ++ bs) = select p as ++ select p bs :=
  List.filter_append as bs

@[simp] theorem select_nil : select p [] = [] := rfl

@[simp] theorem select_field (h : p n = false) (payload : Payload) : select p [⟨n, payload⟩] = [] := by
  simp [select, h]

@[simp] theorem select_field_self (h : p n = true) (payload : Payload) : select p [⟨n, payload⟩] = [⟨n, payload⟩] := by
  simp [select, h]

@[simp] theorem select_plainWord (h : p n = false) (w : UInt64) : select p (plainWord n w) = [] := by
  unfold plainWord
  split <;> simp [h]

@[simp] theorem select_plainInt (h : p n = false) (i : UInt64) : select p (plainInt n i) = [] := by
  unfold plainInt
  split <;> simp [h]

@[simp] theorem select_presentDouble (h : p n = false) (x : Binary64) : select p (presentDouble n x) = [] :=
  select_field h _

@[simp] theorem select_optionalDouble (h : p n = false) (x : Option Binary64) : select p (optionalDouble n x) = [] := by
  cases x with
  | none => rfl
  | some x => exact select_field h _

@[simp] theorem select_plainDouble (h : p n = false) (x : Binary64) : select p (plainDouble n x) = [] := by
  unfold plainDouble
  split <;> simp [h]

@[simp] theorem select_plainBytes (h : p n = false) (content : List UInt8) : select p (plainBytes n content) = [] := by
  unfold plainBytes
  split <;> simp [h]

@[simp] theorem select_plainText (h : p n = false) (text : String) : select p (plainText n text) = [] :=
  select_plainBytes h _

@[simp] theorem select_presentText (h : p n = false) (text : String) : select p (presentText n text) = [] :=
  select_field h _

@[simp] theorem select_packedWords (h : p n = false) (words : List UInt64) : select p (packedWords n words) = [] :=
  select_plainBytes h _

@[simp] theorem select_message (h : p n = false) (fields : List Field) : select p (message n fields) = [] :=
  select_field h _

@[simp] theorem select_messages {α : Type} (h : p n = false) (items : List α) (fields : α → List Field) :
    select p (messages n items fields) = [] := by
  rw [select, List.filter_eq_nil_iff]
  intro f hf
  obtain ⟨item, -, hmem⟩ := List.mem_flatMap.1 hf
  rw [List.mem_singleton.1 hmem, h]
  decide

end Select

theorem payloads_eq (n : Nat) (fields : List Field) :
    payloads n fields = (select (fun m => m == n) fields).map Field.payload := rfl

/-- Whether the format allows no field of this number. -/
def outOfRange (n : Nat) : Bool := n == 0 || decide (2 ^ 29 ≤ n)

theorem proper_of_select {fields : List Field} (h : select outOfRange fields = []) : ∀ f ∈ fields, f.Proper := by
  intro f hf
  have hin := List.filter_eq_nil_iff.1 h f hf
  simp only [outOfRange, Bool.or_eq_true, beq_iff_eq, decide_eq_true_eq, not_or] at hin
  exact ⟨by omega, by omega⟩

theorem payloads_field (n : Nat) (payload : Payload) : payloads n [⟨n, payload⟩] = [payload] := by
  simp [payloads]

theorem payloads_messages {α : Type} (n : Nat) (items : List α) (fields : α → List Field) :
    payloads n (messages n items fields) = items.map fun item => .bytes (encode (fields item)) := by
  induction items with
  | nil => rfl
  | cons item rest ih =>
    have hcons : payloads n (messages n (item :: rest) fields)
        = payloads n (message n (fields item)) ++ payloads n (messages n rest fields) := by
      simp [payloads_eq, messages]
    rw [hcons, ih, message, payloads_field, List.map_cons, List.singleton_append]

section Members

variable {n : Nat} {fields : List Field}

/-! ## Plain members -/

theorem wordAt?_eq {w : UInt64} (h : payloads n fields = payloads n (plainWord n w)) : wordAt? n fields = some w := by
  rw [wordAt?, h, plainWord]
  by_cases hw : w = 0
  · rw [if_pos hw, hw]
    rfl
  · rw [if_neg hw, payloads_field]
    rfl

theorem intAt?_eq {i : UInt64} (h : payloads n fields = payloads n (plainInt n i)) : intAt? n fields = some i := by
  rw [intAt?, h, plainInt]
  by_cases hi : i = 0
  · rw [if_pos hi, hi]
    rfl
  · rw [if_neg hi, payloads_field]
    rfl

theorem bytesAt?_eq {content : List UInt8} (h : payloads n fields = payloads n (plainBytes n content)) :
    bytesAt? n fields = some content := by
  rw [bytesAt?, h, plainBytes]
  cases content with
  | nil => rfl
  | cons b rest =>
    rw [if_neg (by simp), payloads_field]
    rfl

theorem ofUtf8?_utf8 (text : String) : ofUtf8? (utf8 text) = some text := by
  have hbytes : (⟨(utf8 text).toArray⟩ : ByteArray) = text.toUTF8 := by
    rw [utf8, Array.toArray_toList]
  rw [ofUtf8?, hbytes, String.fromUTF8?, String.toUTF8_eq_toByteArray, dif_pos text.isValidUTF8]
  rfl

theorem textAt?_eq {text : String} (h : payloads n fields = payloads n (plainText n text)) :
    textAt? n fields = some text := by
  rw [textAt?, bytesAt?_eq h, Option.bind_some, ofUtf8?_utf8]

/-! ## Doubles -/

/-- An absent double and a zero are told apart: whatever there is was written. -/
theorem optionalDoubleAt?_eq {x : Option Binary64} (h : payloads n fields = payloads n (optionalDouble n x)) :
    optionalDoubleAt? n fields = some x := by
  rw [optionalDoubleAt?, h]
  cases x with
  | none => rfl
  | some x =>
    rw [optionalDouble, presentDouble, payloads_field]
    rfl

theorem presentDoubleAt?_eq {x : Binary64} (h : payloads n fields = payloads n (presentDouble n x)) :
    presentDoubleAt? n fields = some x := by
  have hpresent : optionalDoubleAt? n fields = some (some x) := optionalDoubleAt?_eq h
  rw [presentDoubleAt?, hpresent]
  rfl

def positiveZero (x : Binary64) : Binary64 := if x = .negZero then .zero else x

/-- A plain double reads back; one that equals its default is not written and comes back as `0`. -/
theorem doubleAt?_eq {x : Binary64} (h : payloads n fields = payloads n (plainDouble n x)) :
    doubleAt? n fields = some (positiveZero x) := by
  rw [doubleAt?, wordAt?, h, plainDouble, positiveZero]
  by_cases hx : x.sameNumber .zero
  · rw [if_pos hx]
    rcases Binary64.sameNumber_zero_iff.1 hx with rfl | rfl <;> rfl
  · have hne : x ≠ .negZero := fun heq => hx (Binary64.sameNumber_zero_iff.2 (Or.inr heq))
    rw [if_neg hx, if_neg hne, presentDouble, payloads_field]
    rfl

/-! ## Words -/

theorem unpack?_words (words : List UInt64) {fuel : Nat} (hfuel : words.length ≤ fuel) :
    unpack? fuel (words.flatMap word) = some words := by
  induction words generalizing fuel with
  | nil => cases fuel <;> rfl
  | cons w rest ih =>
    rw [List.length_cons] at hfuel
    obtain ⟨fuel, rfl⟩ : ∃ k, fuel = k + 1 := ⟨fuel - 1, by omega⟩
    have hne : word w ++ rest.flatMap word ≠ [] := fun hnil => by
      have hlen := length_word w
      rw [(List.append_eq_nil_iff.1 hnil).1] at hlen
      cases hlen
    rw [List.flatMap_cons, unpack?, take?_append (length_word w), Option.bind_some]
    · simp only
      rw [ih (by omega), ofLittleEndian_word, Option.map_some]
    · exact hne

theorem wordsAt?_eq {words : List UInt64} (h : payloads n fields = payloads n (packedWords n words)) :
    wordsAt? n fields = some words := by
  have hlength : words.length ≤ (words.flatMap word).length := by
    rw [List.length_flatMap]
    simp only [length_word]
    rw [List.map_const', List.sum_replicate_nat]
    omega
  rw [wordsAt?, h, packedWords, plainBytes]
  cases words with
  | nil => rfl
  | cons w rest =>
    have hne : ¬ ((w :: rest).flatMap word).isEmpty = true := by
      have hlen := length_word w
      cases hw : word w with
      | nil => rw [hw] at hlen; cases hlen
      | cons b bs => simp [hw]
    rw [if_neg hne, payloads_field, List.mapM_cons, Payload.words?, unpack?_words _ hlength]
    simp

/-! ## Messages -/

theorem presentTextAt?_eq {text : String} (h : payloads n fields = payloads n (presentText n text)) :
    presentTextAt? n fields = some text := by
  rw [presentTextAt?, h, presentText, payloads_field]
  exact ofUtf8?_utf8 text

theorem joined?_single {content : List Field} (hc : ∀ f ∈ content, f.Proper) :
    joined? [.bytes (encode content)] = some content := by
  rw [joined?, List.mapM_cons]
  simp [Payload.content?, decode?_encode hc]

theorem messageAt?_eq {content : List Field} (hc : ∀ f ∈ content, f.Proper)
    (h : payloads n fields = payloads n (message n content)) : messageAt? n fields = some content := by
  rw [messageAt?, h, message, payloads_field]
  exact joined?_single hc

/-- Repeated messages read back if each does, to what `image` makes of it. -/
theorem messagesAt?_eq {α β : Type} {items : List α} {write : α → List Field} {read : List Field → Option β}
    {image : α → β} (hproper : ∀ item, ∀ f ∈ write item, f.Proper)
    (hread : ∀ item, read (write item) = some (image item))
    (h : payloads n fields = payloads n (messages n items write)) :
    messagesAt? n fields read = some (items.map image) := by
  rw [messagesAt?, h, payloads_messages]
  clear h
  induction items with
  | nil => rfl
  | cons item rest ih =>
    have hitem : ((Payload.content? (.bytes (encode (write item)))).bind decode?).bind read = some (image item) := by
      rw [Payload.content?, Option.bind_some, decode?_encode (hproper item), Option.bind_some]
      exact hread item
    rw [List.map_cons, List.mapM_cons, hitem, ih]
    rfl

theorem messagesAt?_eq_items {α : Type} {items : List α} {write : α → List Field} {read : List Field → Option α}
    (hproper : ∀ item, ∀ f ∈ write item, f.Proper) (hread : ∀ item, read (write item) = some item)
    (h : payloads n fields = payloads n (messages n items write)) : messagesAt? n fields read = some items := by
  have himage : messagesAt? n fields read = some (items.map fun item => item) := messagesAt?_eq hproper hread h
  rwa [List.map_id'] at himage

/-- The member that is written of several is the one that is chosen. -/
theorem chosenAt?_eq {numbers : List Nat} {content : List Field} (hc : ∀ f ∈ content, f.Proper)
    (h : select (fun m => numbers.contains m) fields = message n content) :
    chosenAt? numbers fields = some (n, content) := by
  have hmembers : fields.filter (fun f => numbers.contains f.number) = [⟨n, .bytes (encode content)⟩] := h
  rw [chosenAt?, hmembers]
  simp [joined?_single hc]

end Members

end Telemetry.Wire
