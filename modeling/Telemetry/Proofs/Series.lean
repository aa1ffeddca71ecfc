import Telemetry.Proofs.Routing

/-!
# What one sample changes in a series

`SeriesData.held` reads a slot of a series. Recording the value of a part writes the slots that the part fits and leaves
the others (`Series.held_record`); `SeriesData.Sound` is kept on the way: the data has the shape of its family, and its
boundaries are ordered.
-/

namespace Telemetry

def Tally.held (t : Tally) : Slot → Option Binary64
  | .value => none
  | .count => t.count
  | .sum => t.sum
  | .boundary x => t.entries.at? x

namespace SeriesData

/-- The value in a slot. -/
def held : SeriesData → Slot → Option Binary64
  | scalar value, .value => value
  | scalar _, _ => none
  | histogram t, slot | summary t, slot => t.held slot

def boundaries : SeriesData → BoundaryMap
  | scalar _ => .empty
  | histogram t | summary t => t.entries

/-- The data has this shape and its boundaries are ordered. -/
structure Sound (shape : Shape) (data : SeriesData) : Prop where
  shape : data.shape = shape
  ordered : data.boundaries.Ordered

variable {shape : Shape} {data : SeriesData} {part : Part}

theorem sound_empty (shape : Shape) : Sound shape (.empty shape) := by
  cases shape <;> exact ⟨rfl, BoundaryMap.ordered_empty⟩

theorem held_empty (shape : Shape) (slot : Slot) : (SeriesData.empty shape).held slot = none := by
  cases shape <;> cases slot <;> rfl

theorem Sound.set (h : Sound shape data) (hp : part.Suits shape) (v : Binary64) : Sound shape (data.set part v) := by
  have htally : ∀ t : Tally, t.entries.Ordered → shape ≠ .scalar → (t.set v part).entries.Ordered := by
    intro t ht hs
    cases part with
    | boundary b => exact ht.insert hp.2 v
    | value | count | sum | created => exact ht
  cases data with
  | scalar value => exact ⟨h.shape, BoundaryMap.ordered_empty⟩
  | histogram t => exact ⟨h.shape, htally t h.ordered (by rintro rfl; cases h.shape)⟩
  | summary t => exact ⟨h.shape, htally t h.ordered (by rintro rfl; cases h.shape)⟩

theorem held_tally_set {t : Tally} (ht : t.entries.Ordered) (hp : part.Suits shape) (hs : shape ≠ .scalar)
    (v : Binary64) (slot : Slot) : (t.set v part).held slot = if part.fits slot then some v else t.held slot := by
  cases part with
  | value => exact absurd hp hs
  | count => cases slot <;> rfl
  | sum => cases slot <;> rfl
  | boundary b =>
    cases slot with
    | boundary x => exact BoundaryMap.at?_insert ht hp.2 v x
    | value | count | sum => rfl
  | created start => cases slot <;> rfl

theorem held_set (h : Sound shape data) (hp : part.Suits shape) (hc : ∀ start, part ≠ .created start) (v : Binary64)
    (slot : Slot) : (data.set part v).held slot = if part.fits slot then some v else data.held slot := by
  cases data with
  | scalar value =>
    have hs : shape = .scalar := h.shape.symm
    cases part with
    | value => cases slot <;> rfl
    | count => exact absurd hs hp
    | sum => exact absurd hs hp
    | boundary b => exact absurd hs hp.1
    | created start => exact absurd rfl (hc start)
  | histogram t => exact held_tally_set h.ordered hp (by rintro rfl; cases h.shape) v slot
  | summary t => exact held_tally_set h.ordered hp (by rintro rfl; cases h.shape) v slot

theorem Sound.ext {other : SeriesData} (hd : Sound shape data) (ho : Sound shape other)
    (h : ∀ slot, data.held slot = other.held slot) : data = other := by
  have htally : ∀ {t u : Tally}, t.entries.Ordered → u.entries.Ordered →
      (∀ slot, t.held slot = u.held slot) → t = u := by
    intro t u ht hu heq
    have hentries : t.entries = u.entries := ht.ext hu fun x => heq (.boundary x)
    cases t
    cases u
    exact Tally.mk.injEq .. ▸ ⟨heq .count, heq .sum, hentries⟩
  have hshape : data.shape = other.shape := hd.shape.trans ho.shape.symm
  cases data <;> cases other <;> cases hshape
  · exact congrArg scalar (h .value)
  · exact congrArg histogram (htally hd.ordered ho.ordered h)
  · exact congrArg summary (htally hd.ordered ho.ordered h)

end SeriesData

namespace Series

theorem kept_of_fits {part : Part} {slot : Slot} (h : part.fits slot = true) (v : Binary64) :
    kept part v = slot.kept v := by
  cases part <;> cases slot <;> simp_all [Part.fits, kept, Slot.kept]

/-- Recording a part changes the stale mark, and either the start or the data. -/
theorem record_eq (s : Series) (part : Part) (v : Binary64) :
    s.record part v = { s with
      stale := s.stale || v.isStale
      created := match part with
        | .created start => if v.isStale then s.created else some start
        | _ => s.created
      data := match part with
        | .created _ => s.data
        | part => s.data.set part (kept part v) } := by
  cases part with
  | created start => cases h : v.isStale <;> simp [record, h]
  | value | count | sum | boundary => rfl

/-- Recording a part writes the slots that it fits. -/
theorem held_record {s : Series} {shape : Shape} {part : Part} (h : s.data.Sound shape) (hp : part.Suits shape)
    (v : Binary64) (slot : Slot) :
    (s.record part v).data.held slot = if part.fits slot then some (slot.kept v) else s.data.held slot := by
  rw [record_eq]
  cases part with
  | created start => cases slot <;> rfl
  | value | count | sum | boundary =>
    rw [SeriesData.held_set h hp (by simp)]
    split
    · rename_i hfit
      rw [kept_of_fits hfit]
    · rfl

theorem sound_record {s : Series} {shape : Shape} {part : Part} (h : s.data.Sound shape) (hp : part.Suits shape)
    (v : Binary64) : (s.record part v).data.Sound shape := by
  rw [record_eq]
  cases part with
  | created start => exact h
  | value | count | sum | boundary => exact h.set hp _

end Series

end Telemetry
