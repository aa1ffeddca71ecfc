import Telemetry.Proofs.Grouping
import Telemetry.Proofs.Identity
import Telemetry.Series.LabelOrder

/-!
# The order in which points show their labels

Labels with known names stand by the positions of these names (`LabelOrder.pairwise_arrange`), and stay so when
names come behind (`LabelOrder.arrange_of_prefix`). They come back in the order in which they were first seen,
however they were sorted in between (`LabelOrder.arrange_observe`).
-/

namespace Telemetry

namespace LabelOrder

variable {order : LabelOrder} {labels : List Label} {seen : List String}

/-! ## Observed names -/

theorem names_insert (h : order.names = seen.eraseDups) (name : String) :
    (order.insert name).names = (seen ++ [name]).eraseDups := by
  unfold insert
  by_cases hmem : name ∈ seen
  · rw [eraseDups_append_of_mem hmem, if_pos (h ▸ List.mem_eraseDups.2 hmem), h]
  · have hnew : name ∉ order.names := fun hname => hmem (List.mem_eraseDups.1 (h ▸ hname))
    rw [eraseDups_append_of_not_mem hmem, if_neg hnew, h]

theorem names_observe_eq (h : order.names = seen.eraseDups) (labels : List Label) :
    (order.observe labels).names = (seen ++ labels.map Label.name).eraseDups := by
  induction labels generalizing order seen with
  | nil => simpa [observe] using h
  | cons l rest ih =>
    change ((order.insert l.name).observe rest).names = _
    rw [ih (names_insert h l.name), List.map_cons, List.append_assoc, List.singleton_append]

theorem observe_append (order : LabelOrder) (as bs : List Label) :
    order.observe (as ++ bs) = (order.observe as).observe bs := List.foldl_append

theorem observe_of_known (h : ∀ l ∈ labels, l.name ∈ order.names) : order.observe labels = order := by
  induction labels with
  | nil => rfl
  | cons l rest ih =>
    have hinsert : order.insert l.name = order := if_pos (h l List.mem_cons_self)
    change (order.insert l.name).observe rest = order
    rw [hinsert]
    exact ih fun m hm => h m (List.mem_cons_of_mem l hm)

theorem mem_names_insert {name other : String} :
    other ∈ (order.insert name).names ↔ other ∈ order.names ∨ other = name := by
  unfold insert
  split
  · rename_i hmem
    refine ⟨Or.inl, ?_⟩
    rintro (h | rfl)
    · exact h
    · exact hmem
  · simp

theorem mem_names_observe {name : String} :
    name ∈ (order.observe labels).names ↔ name ∈ order.names ∨ ∃ l ∈ labels, l.name = name := by
  induction labels generalizing order with
  | nil => simp [observe]
  | cons l rest ih =>
    change name ∈ ((order.insert l.name).observe rest).names ↔ _
    rw [ih, mem_names_insert, List.exists_mem_cons_iff, or_assoc, eq_comm]

theorem prefix_observe (order : LabelOrder) (labels : List Label) : order.names <+: (order.observe labels).names := by
  induction labels generalizing order with
  | nil => exact List.prefix_rfl
  | cons l rest ih =>
    have hinsert : order.names <+: (order.insert l.name).names := by
      unfold insert
      split
      · exact List.prefix_rfl
      · exact List.prefix_append _ _
    exact hinsert.trans (ih (order.insert l.name))

/-! ## Positions -/

theorem isSome_position?_iff {name : String} : (order.position? name).isSome ↔ name ∈ order.names := List.isSome_idxOf?

theorem position?_of_mem {name : String} (h : name ∈ order.names) :
    order.position? name = some (order.names.idxOf name) := by
  obtain ⟨i, hi⟩ := Option.isSome_iff_exists.1 (isSome_position?_iff.2 h)
  have hidx : order.names.idxOf name = i := by
    rw [List.idxOf_eq_getD_idxOf?]
    exact congrArg (Option.getD · _) hi
  rw [hi, hidx]

theorem position?_eq_some_iff (h : order.names.Nodup) {name : String} {i : Nat} :
    order.position? name = some i ↔ order.names[i]? = some name := by
  unfold position?
  rw [List.idxOf?_eq_some_iff, List.getElem?_eq_some_iff]
  constructor
  · rintro ⟨hi, hname, -⟩
    exact ⟨hi, hname⟩
  · rintro ⟨hi, rfl⟩
    refine ⟨hi, rfl, fun j hj hsame => ?_⟩
    exact absurd (h.getElem_inj_iff.1 hsame) (Nat.ne_of_lt hj)

theorem position?_append_new {name : String} (h : name ∉ order.names) (other : String) :
    position? ⟨order.names ++ [name]⟩ other =
      if name == other then some order.names.length else order.position? other := by
  unfold position? List.idxOf?
  rw [List.findIdx?_append, List.findIdx?_singleton]
  by_cases hother : name = other
  · subst hother
    have hnone : order.names.findIdx? (· == name) = none := List.idxOf?_eq_none_iff.2 h
    simp [hnone]
  · simp [hother]

/-- A name keeps its position when others come behind. -/
theorem position?_of_prefix {other : LabelOrder} (h : order.names <+: other.names) {name : String} {i : Nat}
    (hi : order.position? name = some i) : other.position? name = some i := by
  obtain ⟨more, hmore⟩ := h
  unfold position? List.idxOf? at hi ⊢
  rw [← hmore, List.findIdx?_append, hi, Option.some_or]

/-- Whether two names are known and the first stands before the second. -/
def Before (order : LabelOrder) (a b : String) : Prop :=
  ∃ i j, order.position? a = some i ∧ order.position? b = some j ∧ i < j

theorem Before.asymm {a b : String} (h : order.Before a b) : ¬ order.Before b a := by
  rintro ⟨k, l, hk, hl, hlt⟩
  obtain ⟨i, j, hi, hj, hlt'⟩ := h
  have hjk : j = k := Option.some.inj (hj.symm.trans hk)
  have hil : i = l := Option.some.inj (hi.symm.trans hl)
  omega

theorem Before.of_prefix {other : LabelOrder} (hgrown : order.names <+: other.names) {a b : String}
    (h : order.Before a b) : other.Before a b := by
  obtain ⟨i, j, hi, hj, hlt⟩ := h
  exact ⟨i, j, position?_of_prefix hgrown hi, position?_of_prefix hgrown hj, hlt⟩

/-- Two lists of names in one order have the names that they share in the same order. -/
theorem filter_shared {as bs : List String} (ha : as.Pairwise order.Before) (hb : bs.Pairwise order.Before) :
    as.filter (· ∈ bs) = bs.filter (· ∈ as) := by
  have hnodup : ∀ {names : List String}, names.Pairwise order.Before → names.Nodup := fun h =>
    h.imp fun {a b} hab heq => by
      subst heq
      exact hab.asymm hab
  have hmem : ∀ name, name ∈ as.filter (· ∈ bs) ↔ name ∈ bs.filter (· ∈ as) := fun name => by
    simp [and_comm]
  have hperm := (List.perm_ext_iff_of_nodup ((hnodup ha).filter _) ((hnodup hb).filter _)).2 hmem
  exact hperm.eq_of_pairwise (fun a b _ _ hab hba => absurd hba hab.asymm) (ha.filter _) (hb.filter _)

/-! ## Arranged labels -/

theorem le_trans (a b c : Label) (hab : order.le a b) (hbc : order.le b c) : order.le a c := by
  simp only [le, Bool.or_eq_true, Bool.and_eq_true, decide_eq_true_eq, beq_iff_eq] at *
  rcases hab with hab | ⟨hab, hab'⟩ <;> rcases hbc with hbc | ⟨hbc, hbc'⟩
  · exact Or.inl (Nat.lt_trans hab hbc)
  · exact Or.inl (hbc ▸ hab)
  · exact Or.inl (hab ▸ hbc)
  · exact Or.inr ⟨hab.trans hbc, String.le_trans hab' hbc'⟩

theorem le_total (a b : Label) : order.le a b || order.le b a := by
  simp only [le, Bool.or_eq_true, Bool.and_eq_true, decide_eq_true_eq, beq_iff_eq]
  rcases Nat.lt_trichotomy (order.names.idxOf a.name) (order.names.idxOf b.name) with h | h | h
  · exact Or.inl (Or.inl h)
  · rcases String.le_total a.name b.name with hle | hle
    · exact Or.inl (Or.inr ⟨h, hle⟩)
    · exact Or.inr (Or.inr ⟨h.symm, hle⟩)
  · exact Or.inr (Or.inl h)

theorem perm_arrange (order : LabelOrder) (labels : List Label) : (order.arrange labels).Perm labels := perm_sortBy _ _

theorem arrange_perm_arrange (order other : LabelOrder) (labels : List Label) :
    (order.arrange labels).Perm (other.arrange labels) :=
  (order.perm_arrange labels).trans (other.perm_arrange labels).symm

/-- Labels with distinct known names are arranged by position alone. -/
theorem pairwise_arrange (hdistinct : Label.Distinct labels) (hknown : ∀ l ∈ labels, l.name ∈ order.names) :
    (order.arrange labels).Pairwise fun a b => order.Before a.name b.name := by
  have hsorted : (order.arrange labels).Pairwise fun a b => order.le a b := pairwise_sortBy le_trans le_total labels
  have hnames : (order.arrange labels).Pairwise fun a b => a.name ≠ b.name :=
    List.pairwise_map.1 (hdistinct.perm (order.perm_arrange labels).symm)
  refine (hsorted.and hnames).imp_of_mem fun {a b} ha hb hab => ?_
  have haknown := hknown a ((order.perm_arrange labels).mem_iff.1 ha)
  have hbknown := hknown b ((order.perm_arrange labels).mem_iff.1 hb)
  refine ⟨_, _, position?_of_mem haknown, position?_of_mem hbknown, ?_⟩
  have hle := hab.1
  simp only [le, Bool.or_eq_true, Bool.and_eq_true, decide_eq_true_eq, beq_iff_eq] at hle
  rcases hle with hlt | ⟨hsame, -⟩
  · exact hlt
  · exact absurd ((List.idxOf_inj haknown).1 hsame) hab.2

/-- Names that come behind do not change how labels with known names are arranged. -/
theorem arrange_of_prefix {other : LabelOrder} (hgrown : order.names <+: other.names)
    (hdistinct : Label.Distinct labels)
    (hknown : ∀ l ∈ labels, l.name ∈ order.names) : other.arrange labels = order.arrange labels := by
  have hother : (other.arrange labels).Pairwise fun a b => other.Before a.name b.name :=
    pairwise_arrange hdistinct fun l hl => hgrown.subset (hknown l hl)
  have horder : (order.arrange labels).Pairwise fun a b => other.Before a.name b.name :=
    (pairwise_arrange hdistinct hknown).imp fun h => h.of_prefix hgrown
  have hperm := (other.perm_arrange labels).trans (order.perm_arrange labels).symm
  exact hperm.eq_of_pairwise (fun a b _ _ hab hba => absurd hba hab.asymm) hother horder

/-- **Labels come back in the order in which they were seen.** -/
theorem arrange_observe {own : List Label} (hdistinct : Label.Distinct own) (h : labels.Perm own) :
    (empty.observe own).arrange labels = own := by
  have hnames : (empty.observe own).names = own.map Label.name := by
    have hempty : empty.names = ([] : List String).eraseDups := rfl
    rw [names_observe_eq hempty, List.nil_append, eraseDups_of_nodup hdistinct]
  have hposition : ∀ i (hi : i < own.length), (empty.observe own).position? own[i].name = some i := fun i hi => by
    rw [position?_eq_some_iff (hnames ▸ hdistinct), hnames]
    simp [hi]
  have hown : own.Pairwise fun a b => (empty.observe own).Before a.name b.name := by
    rw [List.pairwise_iff_getElem]
    exact fun i j hi hj hij => ⟨i, j, hposition i hi, hposition j hj, hij⟩
  have hknown : ∀ l ∈ labels, l.name ∈ (empty.observe own).names := fun l hl =>
    hnames ▸ List.mem_map_of_mem (h.mem_iff.1 hl)
  have harranged := pairwise_arrange (hdistinct.perm h.symm) hknown
  have hperm := ((empty.observe own).perm_arrange labels).trans h
  exact hperm.eq_of_pairwise (fun a b _ _ hab hba => absurd hba hab.asymm) harranged hown

end LabelOrder

end Telemetry
