import Telemetry.Proofs.Routing

/-!
# Fragments

A `Part` does not say whether a boundary is the bound of a bucket or a quantile; a fragment does, and data of
another shape has no place for it. A fragment without a place would be left out and reported (`Series.fill_eq`), but
a family selects fragments by the shape of its series (`Family.fits_of_fragmentOf`). Else fragments are parts
(`Family.partOf_eq`).
-/

namespace Telemetry

/-- What a sample feeds: as a part, but the bound of a bucket is no quantile. -/
inductive Fragment
  | value
  | count
  | sum
  | bucket (bound : Binary64)
  | quantile (quantile : Binary64)
  /-- The start of the series, in nanoseconds since the epoch. -/
  | created (start : UInt64)
deriving DecidableEq, Repr

namespace Fragment

def part : Fragment → Part
  | value => .value
  | count => .count
  | sum => .sum
  | bucket b | quantile b => .boundary b
  | created start => .created start

/-- Whether data of a shape has a place for a fragment; a scalar has one for all. -/
def fits : Fragment → Shape → Bool
  | value, .histogram | value, .summary => false
  | bucket _, .summary | quantile _, .histogram => false
  | _, _ => true

end Fragment

/-! ## Selecting a fragment -/

namespace Family

variable (f : Family)

def boundIn (labelName : String) (labels : List Label) : Except Rejection Binary64 :=
  match Label.lookup? labels labelName with
  | none => .error (.missingBoundary f.name labelName)
  | some text =>
    match boundary? text with
    | none => .error (.invalidBoundary labelName text)
    | some bound => .ok bound

/-- The fragment of a histogram or summary: the one that the suffix names, otherwise the one at the boundary. -/
def tallyFragment (atBoundary : Binary64 → Fragment) (labelName : String) (suffix : Option Suffix)
    (labels : List Label) : Except Rejection Fragment :=
  if suffix = some .count ∨ f.type = .gaugeHistogram ∧ suffix = some .gaugeCount then .ok .count
  else if suffix = some .sum ∨ f.type = .gaugeHistogram ∧ suffix = some .gaugeSum then .ok .sum
  else (f.boundIn labelName labels).map atBoundary

/-- The fragment that a sample carries; `none` if it is accepted and carries nothing to record. -/
def fragmentOf (x : Sample) : Except Rejection (Option Fragment) :=
  let suffix := Suffix.behind? f.name x.name
  if suffix = some .created then
    .ok (if f.settings.honorCreated then (createdNanos? x.value).map .created else none)
  else match f.shape with
    | .scalar => .ok (some .value)
    | .histogram => (f.tallyFragment .bucket bucketLabel suffix x.labels).map some
    | .summary => (f.tallyFragment .quantile quantileLabel suffix x.labels).map some

variable {f} {x : Sample}

theorem boundaryOf_eq (labelName : String) (labels : List Label) :
    f.boundaryOf labelName labels = (f.boundIn labelName labels).map .boundary := by
  unfold boundaryOf boundIn
  cases Label.lookup? labels labelName with
  | none => rfl
  | some text =>
    dsimp only
    cases boundary? text <;> rfl

theorem tallyPart_eq {atBoundary : Binary64 → Fragment} (hpart : ∀ b, (atBoundary b).part = .boundary b)
    (labelName : String) (suffix : Option Suffix) (labels : List Label) : f.tallyPart labelName suffix labels =
      (f.tallyFragment atBoundary labelName suffix labels).map Fragment.part := by
  have hbound : f.boundaryOf labelName labels = ((f.boundIn labelName labels).map atBoundary).map Fragment.part := by
    rw [boundaryOf_eq]
    cases f.boundIn labelName labels with
    | error reason => rfl
    | ok b => exact congrArg Except.ok (hpart b).symm
  unfold tallyPart tallyFragment
  cases suffix with
  | none => simpa using hbound
  | some s =>
    cases s <;> by_cases hg : f.type = .gaugeHistogram <;>
      simp [namedPart?, hg, hbound, Except.map, Fragment.part]

/-- **A sample feeds the part that its fragment is**, and is rejected for the same reason. -/
theorem partOf_eq (f : Family) (x : Sample) : f.partOf x = (f.fragmentOf x).map (Option.map Fragment.part) := by
  have hmap : ∀ fragment : Except Rejection Fragment, (fragment.map Fragment.part).map some =
      (fragment.map some).map (Option.map Fragment.part) := fun fragment => by cases fragment <;> rfl
  unfold partOf fragmentOf
  simp only
  split
  · cases f.settings.honorCreated with
    | false => rfl
    | true => cases createdNanos? x.value <;> rfl
  · cases f.shape with
    | scalar => rfl
    | histogram => exact (congrArg (Except.map some) (tallyPart_eq (fun _ => rfl) _ _ _)).trans (hmap _)
    | summary => exact (congrArg (Except.map some) (tallyPart_eq (fun _ => rfl) _ _ _)).trans (hmap _)

theorem fits_of_tallyFragment {atBoundary : Binary64 → Fragment} {shape : Shape}
    (hfits : ∀ b, (atBoundary b).fits shape = true) {labelName : String} {suffix : Option Suffix} {labels : List Label}
    {fragment : Fragment} (h : f.tallyFragment atBoundary labelName suffix labels = .ok fragment) :
    fragment.fits shape = true := by
  unfold tallyFragment at h
  split at h
  · cases h
    cases shape <;> rfl
  · split at h
    · cases h
      cases shape <;> rfl
    · obtain ⟨b, -, rfl⟩ := map_eq_ok_iff.1 h
      exact hfits b

/-- **The fragment of a sample fits the shape of the family**, whatever its type and the suffix of the sample. -/
theorem fits_of_fragmentOf {fragment : Fragment} (h : f.fragmentOf x = .ok (some fragment)) :
    fragment.fits f.shape = true := by
  unfold fragmentOf at h
  simp only at h
  split at h
  · have h := Except.ok.inj h
    split at h
    · obtain ⟨start, -, rfl⟩ := Option.map_eq_some_iff.1 h
      rfl
    · cases h
  · cases hshape : f.shape with
    | scalar =>
      rw [hshape] at h
      cases h
      rfl
    | histogram =>
      rw [hshape] at h
      obtain ⟨fragment, hfragment, heq⟩ := map_eq_ok_iff.1 h
      cases heq
      exact fits_of_tallyFragment (fun _ => rfl) hfragment
    | summary =>
      rw [hshape] at h
      obtain ⟨fragment, hfragment, heq⟩ := map_eq_ok_iff.1 h
      cases heq
      exact fits_of_tallyFragment (fun _ => rfl) hfragment

end Family

/-! ## Recording a fragment -/

/-- A fragment that came to data without a place for it. -/
structure Misfit where
  fragment : Fragment
  data : SeriesData
deriving DecidableEq, Repr

namespace Series

/-- Records the value of a fragment. One that does not fit the data is left out and reported. -/
def fill (s : Series) (fragment : Fragment) (value : Binary64) : Series × Option Misfit :=
  let stale := value.isStale
  let s := if stale then { s with stale := true } else s
  let value := if stale ∧ fragment ≠ .value then .zero else value
  match s.data, fragment with
  | _, .created start => (if stale then s else { s with created := some start }, none)
  | .scalar _, _ => ({ s with data := .scalar (some value) }, none)
  | .histogram t, .count => ({ s with data := .histogram { t with count := some value } }, none)
  | .summary t, .count => ({ s with data := .summary { t with count := some value } }, none)
  | .histogram t, .sum => ({ s with data := .histogram { t with sum := some value } }, none)
  | .summary t, .sum => ({ s with data := .summary { t with sum := some value } }, none)
  | .histogram t, .bucket b => ({ s with data := .histogram { t with entries := t.entries.insert b value } }, none)
  | .summary t, .quantile b => ({ s with data := .summary { t with entries := t.entries.insert b value } }, none)
  | data, fragment => (s, some ⟨fragment, data⟩)

/-- **A fragment that fits is recorded as its part**, and only one that does not fit is reported. -/
theorem fill_eq (s : Series) (fragment : Fragment) (value : Binary64) : s.fill fragment value =
    if fragment.fits s.data.shape then (s.record fragment.part value, none)
    else ({ s with stale := s.stale || value.isStale }, some ⟨fragment, s.data⟩) := by
  obtain ⟨key, labels, timestamp, firstSeen, created, stale, exemplars, data⟩ := s
  unfold fill record kept
  cases hstale : value.isStale <;> cases data <;> cases fragment <;>
    simp [Fragment.fits, Fragment.part, SeriesData.shape, SeriesData.set, Tally.set]

end Series

end Telemetry
