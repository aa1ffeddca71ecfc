import Telemetry.Family
import Telemetry.Proofs.Boundary

/-!
# Which slot a sample feeds

A series has a slot for its value, its count, its sum, and for every number that is a boundary. `Family.feeds` says by
name and labels which slot a sample feeds, and `Family.feeds_eq` that the part selected for an accepted sample fits
that slot and no other. `Part.Suits` is what every selected part satisfies.
-/

namespace Telemetry

/-- The place of a value in a series; boundaries are told apart as numbers. -/
inductive Slot
  | value
  | count
  | sum
  | boundary (x : Binary64)
deriving DecidableEq

/-- What a slot keeps of a value: a stale marker shows only as the value of a scalar series. -/
def Slot.kept (slot : Slot) (value : Binary64) : Binary64 := if value.isStale ∧ slot ≠ .value then .zero else value

def Shape.boundaryLabel? : Shape → Option String
  | .scalar => none
  | .histogram => some bucketLabel
  | .summary => some quantileLabel

namespace Part

/-- Whether a part is the one that the slot keeps. -/
def fits : Part → Slot → Bool
  | .value, .value | .count, .count | .sum, .sum => true
  | .boundary b, .boundary x => b.sameNumber x
  | _, _ => false

/-- The parts that the series of a shape have. -/
def Suits (shape : Shape) : Part → Prop
  | .value => shape = .scalar
  | .count | .sum => shape ≠ .scalar
  | .boundary b => shape ≠ .scalar ∧ b.Regular
  | .created _ => True

end Part

theorem bind_eq_ok_iff {ε α β : Type} {x : Except ε α} {next : α → Except ε β} {b : β} :
    (x >>= next) = .ok b ↔ ∃ a, x = .ok a ∧ next a = .ok b := by
  cases x <;> simp [bind, Except.bind]

theorem bind_eq_error_iff {ε α β : Type} {x : Except ε α} {next : α → Except ε β} {e : ε} :
    (x >>= next) = .error e ↔ x = .error e ∨ ∃ a, x = .ok a ∧ next a = .error e := by
  cases x <;> simp [bind, Except.bind]

theorem map_eq_ok_iff {ε α β : Type} {x : Except ε α} {f : α → β} {b : β} :
    x.map f = .ok b ↔ ∃ a, x = .ok a ∧ f a = b := by
  cases x <;> simp [Except.map]

theorem map_eq_error_iff {ε α β : Type} {x : Except ε α} {f : α → β} {e : ε} :
    x.map f = .error e ↔ x = .error e := by
  cases x <;> simp [Except.map]

/-! ## Suffixes -/

theorem Suffix.text_injective {s t : Suffix} (h : s.text = t.text) : s = t := by
  cases s <;> cases t <;> first | rfl | exact absurd h (by decide)

theorem Suffix.text_ne_empty (s : Suffix) : s.text ≠ "" := by cases s <;> decide

theorem Suffix.mem_all (s : Suffix) : s ∈ all := by cases s <;> decide

theorem Suffix.behind?_eq_some_iff {base name : String} {s : Suffix} :
    behind? base name = some s ↔ name = base ++ s.text := by
  constructor
  · intro h
    unfold behind? at h
    have hs := List.find?_some h
    exact (beq_iff_eq.1 hs).symm
  · rintro rfl
    cases h : behind? base (base ++ s.text) with
    | none => exact absurd (List.find?_eq_none.1 h s s.mem_all) (by simp)
    | some t =>
      unfold behind? at h
      have ht := List.find?_some h
      rw [text_injective ((String.append_right_inj base).1 (beq_iff_eq.1 ht))]

namespace Family

variable (f : Family) (x : Sample)

/-- Whether a sample tells when its series was created. -/
def isCreated : Bool := x.name == f.name ++ Suffix.created.text

def isCount : Bool :=
  x.name == f.name ++ Suffix.count.text ||
    (f.type == .gaugeHistogram && x.name == f.name ++ Suffix.gaugeCount.text)

def isSum : Bool :=
  x.name == f.name ++ Suffix.sum.text || (f.type == .gaugeHistogram && x.name == f.name ++ Suffix.gaugeSum.text)

def boundOf? : Option Binary64 :=
  f.shape.boundaryLabel?.bind fun name => (Label.lookup? x.labels name).bind boundary?

/-- Whether the name and labels of a sample send its value to a slot. -/
def feeds : Slot → Bool
  | .value => f.shape == .scalar && !f.isCreated x
  | .count => f.shape != .scalar && f.isCount x
  | .sum => f.shape != .scalar && f.isSum x
  | .boundary b =>
    !f.isCreated x && !f.isCount x && !f.isSum x && (f.boundOf? x).any fun bound => bound.sameNumber b

theorem suffix_eq_created_iff : Suffix.behind? f.name x.name = some .created ↔ f.isCreated x = true := by
  rw [Suffix.behind?_eq_some_iff]
  simp [isCreated]

theorem namedPart_suffix :
    (Suffix.behind? f.name x.name).bind f.namedPart? =
      if f.isCount x then some .count else if f.isSum x then some .sum else none := by
  cases h : Suffix.behind? f.name x.name with
  | none =>
    have hne : ∀ s : Suffix, x.name ≠ f.name ++ s.text := fun s hs => by
      rw [Suffix.behind?_eq_some_iff.2 hs] at h
      cases h
    simp [isCount, isSum, hne]
  | some s =>
    have hs := Suffix.behind?_eq_some_iff.1 h
    have hiff : ∀ t : Suffix, x.name = f.name ++ t.text ↔ s = t := fun t => by
      rw [hs, String.append_right_inj]
      exact ⟨Suffix.text_injective, congrArg _⟩
    cases s <;> by_cases hg : f.type = .gaugeHistogram <;> simp [isCount, isSum, hiff, namedPart?, hg]

theorem isSum_of_isCount (h : f.isCount x = true) : f.isSum x = false := by
  cases hm : f.isSum x with
  | false => rfl
  | true =>
    simp only [isCount, isSum, Bool.or_eq_true, Bool.and_eq_true, beq_iff_eq] at h hm
    have hne : ∀ s t : Suffix, x.name = f.name ++ s.text → x.name = f.name ++ t.text → s = t := fun s t hs ht =>
      Suffix.text_injective ((String.append_right_inj f.name).1 (hs.symm.trans ht))
    rcases h with h | ⟨-, h⟩ <;> rcases hm with hm | ⟨-, hm⟩ <;> exact absurd (hne _ _ h hm) (by decide)

theorem isCount_of_isCreated (h : f.isCreated x = true) : f.isCount x = false ∧ f.isSum x = false := by
  have hs := (f.suffix_eq_created_iff x).2 h
  have := f.namedPart_suffix x
  rw [hs] at this
  cases hc : f.isCount x <;> cases hs : f.isSum x <;> simp_all [namedPart?]

/-- A sample that feeds a slot does not tell when its series was created. -/
theorem isCreated_of_feeds {slot : Slot} (h : f.feeds x slot = true) : f.isCreated x = false := by
  refine Bool.eq_false_iff.2 fun hc => ?_
  obtain ⟨hcount, hsum⟩ := f.isCount_of_isCreated x hc
  cases slot <;> simp [feeds, hc, hcount, hsum] at h

/-! ## The part of an accepted sample -/

theorem partOf_of_isCreated (h : f.isCreated x = true) :
    f.partOf x = .ok (if f.settings.honorCreated then (createdNanos? x.value).map .created else none) := by
  rw [partOf, if_pos ((f.suffix_eq_created_iff x).2 h)]

theorem partOf_of_scalar (h : f.isCreated x = false) (hs : f.shape = .scalar) : f.partOf x = .ok (some .value) := by
  rw [partOf, if_neg (by simp [suffix_eq_created_iff, h])]
  simp [hs]

theorem partOf_of_tally (h : f.isCreated x = false) {label : String} (hl : f.shape.boundaryLabel? = some label) :
    f.partOf x =
      if f.isCount x then .ok (some .count) else if f.isSum x then .ok (some .sum)
      else (f.boundaryOf label x.labels).map some := by
  have htally : f.partOf x = (f.tallyPart label (Suffix.behind? f.name x.name) x.labels).map some := by
    rw [partOf, if_neg (by simp [suffix_eq_created_iff, h])]
    cases hs : f.shape <;> simp_all [Shape.boundaryLabel?]
  rw [htally, tallyPart, namedPart_suffix]
  cases f.isCount x <;> cases f.isSum x <;> rfl

theorem boundaryOf_eq_ok_iff {label : String} (hl : f.shape.boundaryLabel? = some label) {part : Part} :
    f.boundaryOf label x.labels = .ok part ↔ ∃ bound, f.boundOf? x = some bound ∧ part = .boundary bound := by
  simp only [boundaryOf, boundOf?, hl, Option.bind_some]
  cases Label.lookup? x.labels label with
  | none => simp
  | some text =>
    simp only [Option.bind_some]
    cases boundary? text <;> simp [eq_comm]

theorem boundOf?_regular {bound : Binary64} (h : f.boundOf? x = some bound) : bound.Regular := by
  simp only [boundOf?, Option.bind_eq_some_iff] at h
  obtain ⟨_, -, _, -, hbound⟩ := h
  exact regular_of_boundary? hbound

theorem boundOf?_of_scalar (h : f.shape = .scalar) : f.boundOf? x = none := by
  simp [boundOf?, h, Shape.boundaryLabel?]

theorem exists_boundaryLabel (h : f.shape ≠ .scalar) : ∃ label, f.shape.boundaryLabel? = some label := by
  cases hs : f.shape
  · exact absurd hs h
  · exact ⟨_, rfl⟩
  · exact ⟨_, rfl⟩

/-- The part of an accepted sample, said by its name and labels. -/
inductive Routes (f : Family) (x : Sample) : Option Part → Prop
  | created (hc : f.isCreated x = true) :
    Routes f x (if f.settings.honorCreated then (createdNanos? x.value).map .created else none)
  | value (hc : f.isCreated x = false) (hs : f.shape = .scalar) : Routes f x (some .value)
  | count (hc : f.isCreated x = false) (hs : f.shape ≠ .scalar) (hn : f.isCount x = true) : Routes f x (some .count)
  | sum (hc : f.isCreated x = false) (hs : f.shape ≠ .scalar) (hn : f.isCount x = false) (hm : f.isSum x = true) :
    Routes f x (some .sum)
  | boundary (hc : f.isCreated x = false) (hs : f.shape ≠ .scalar) (hn : f.isCount x = false)
    (hm : f.isSum x = false) {bound : Binary64} (hb : f.boundOf? x = some bound) : Routes f x (some (.boundary bound))

variable {f x}

theorem partOf_eq_ok_iff {part : Option Part} : f.partOf x = .ok part ↔ Routes f x part := by
  constructor
  · intro h
    cases hc : f.isCreated x with
    | true =>
      rw [f.partOf_of_isCreated x hc] at h
      exact Except.ok.inj h ▸ .created hc
    | false =>
      by_cases hs : f.shape = .scalar
      · rw [f.partOf_of_scalar x hc hs] at h
        exact Except.ok.inj h ▸ .value hc hs
      · obtain ⟨label, hl⟩ := f.exists_boundaryLabel hs
        rw [f.partOf_of_tally x hc hl] at h
        cases hn : f.isCount x with
        | true =>
          rw [hn, if_pos rfl] at h
          exact Except.ok.inj h ▸ .count hc hs hn
        | false =>
          rw [hn, if_neg (by decide)] at h
          cases hm : f.isSum x with
          | true =>
            rw [hm, if_pos rfl] at h
            exact Except.ok.inj h ▸ .sum hc hs hn hm
          | false =>
            rw [hm, if_neg (by decide)] at h
            cases hp : f.boundaryOf label x.labels with
            | error reason =>
              rw [hp] at h
              cases h
            | ok p =>
              rw [hp] at h
              obtain ⟨bound, hb, rfl⟩ := (f.boundaryOf_eq_ok_iff x hl).1 hp
              exact Except.ok.inj h ▸ .boundary hc hs hn hm hb
  · intro h
    cases h with
    | created hc => exact f.partOf_of_isCreated x hc
    | value hc hs => exact f.partOf_of_scalar x hc hs
    | count hc hs hn =>
      obtain ⟨label, hl⟩ := f.exists_boundaryLabel hs
      rw [f.partOf_of_tally x hc hl, hn, if_pos rfl]
    | sum hc hs hn hm =>
      obtain ⟨label, hl⟩ := f.exists_boundaryLabel hs
      rw [f.partOf_of_tally x hc hl, hn, hm, if_neg (by decide), if_pos rfl]
    | boundary hc hs hn hm hb =>
      obtain ⟨label, hl⟩ := f.exists_boundaryLabel hs
      rw [f.partOf_of_tally x hc hl, hn, hm, if_neg (by decide), if_neg (by decide),
        (f.boundaryOf_eq_ok_iff x hl).2 ⟨_, hb, rfl⟩]
      rfl

theorem created_of_mem {part : Part}
    (h : (if f.settings.honorCreated then (createdNanos? x.value).map Part.created else none) = some part) :
    f.settings.honorCreated = true ∧ ∃ start, createdNanos? x.value = some start ∧ part = .created start := by
  split at h
  · rename_i hon
    obtain ⟨start, hstart, rfl⟩ := Option.map_eq_some_iff.1 h
    exact ⟨hon, start, hstart, rfl⟩
  · cases h

theorem suits_of_partOf {part : Part} (h : f.partOf x = .ok (some part)) : part.Suits f.shape := by
  generalize hp : some part = p at h
  cases partOf_eq_ok_iff.1 h with
  | created hc =>
    obtain ⟨-, start, -, rfl⟩ := created_of_mem hp.symm
    trivial
  | value hc hs => exact Option.some.inj hp ▸ hs
  | count hc hs hn => exact Option.some.inj hp ▸ hs
  | sum hc hs hn hm => exact Option.some.inj hp ▸ hs
  | boundary hc hs hn hm hb => exact Option.some.inj hp ▸ ⟨hs, f.boundOf?_regular x hb⟩

/-- **An accepted sample feeds the slots that its part fits.** -/
theorem feeds_eq {part : Option Part} (h : f.partOf x = .ok part) (slot : Slot) :
    f.feeds x slot = part.any fun p => p.fits slot := by
  cases partOf_eq_ok_iff.1 h with
  | created hc =>
    have hnone : f.feeds x slot = false := Bool.eq_false_iff.2 fun h => by simp [f.isCreated_of_feeds x h] at hc
    rw [hnone]
    cases hp : (if f.settings.honorCreated then (createdNanos? x.value).map Part.created else none) with
    | none => rfl
    | some part =>
      obtain ⟨-, start, -, rfl⟩ := created_of_mem hp
      cases slot <;> rfl
  | value hc hs => cases slot <;> simp [feeds, Part.fits, hc, hs, boundOf?_of_scalar]
  | count hc hs hn =>
    have hm : f.isSum x = false := f.isSum_of_isCount x hn
    cases slot <;> simp [feeds, Part.fits, hc, hs, hn, hm]
  | sum hc hs hn hm => cases slot <;> simp [feeds, Part.fits, hc, hs, hn, hm]
  | boundary hc hs hn hm hb => cases slot <;> simp [feeds, Part.fits, hc, hs, hn, hm, hb]

/-! ## Parts by name -/

theorem named_by_suffix {s : Suffix} (hname : x.name = f.name ++ s.text) (t : Suffix) :
    (x.name == f.name ++ t.text) = decide (s = t) := by
  rw [hname, beq_eq_decide, decide_eq_decide, String.append_right_inj]
  exact ⟨Suffix.text_injective, congrArg _⟩

theorem named_by_family (hname : x.name = f.name) (t : Suffix) : (x.name == f.name ++ t.text) = false := by
  rw [beq_eq_false_iff_ne, hname]
  intro h
  exact t.text_ne_empty (String.append_eq_left_iff.1 h.symm)

theorem partOf_bucket (hshape : f.shape ≠ .scalar) (hname : x.name = f.name ++ Suffix.bucket.text) {b : Binary64}
    (hb : f.boundOf? x = some b) : f.partOf x = .ok (some (.boundary b)) := by
  refine partOf_eq_ok_iff.2 (.boundary ?_ hshape ?_ ?_ hb)
  · exact named_by_suffix hname .created
  · simp [isCount, named_by_suffix hname]
  · simp [isSum, named_by_suffix hname]

theorem partOf_plain (hshape : f.shape ≠ .scalar) (hname : x.name = f.name) {b : Binary64}
    (hb : f.boundOf? x = some b) : f.partOf x = .ok (some (.boundary b)) := by
  refine partOf_eq_ok_iff.2 (.boundary ?_ hshape ?_ ?_ hb)
  · exact named_by_family hname .created
  · simp [isCount, named_by_family hname]
  · simp [isSum, named_by_family hname]

theorem partOf_sum (hshape : f.shape ≠ .scalar) (hname : x.name = f.name ++ Suffix.sum.text) :
    f.partOf x = .ok (some .sum) := by
  refine partOf_eq_ok_iff.2 (.sum ?_ hshape ?_ ?_)
  · exact named_by_suffix hname .created
  · simp [isCount, named_by_suffix hname]
  · simp [isSum, named_by_suffix hname]

theorem partOf_count (hshape : f.shape ≠ .scalar) (hname : x.name = f.name ++ Suffix.count.text) :
    f.partOf x = .ok (some .count) := by
  refine partOf_eq_ok_iff.2 (.count ?_ hshape ?_)
  · exact named_by_suffix hname .created
  · simp [isCount, named_by_suffix hname]

end Family

end Telemetry
