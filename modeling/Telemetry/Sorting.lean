/-!
# Stable sorting

`sortBy le` sorts by insertion, which evaluates by plain recursion on the list and suits the short lists here. It keeps
the elements (`perm_sortBy`), puts them in order (`pairwise_sortBy`), and leaves elements of equal rank in the order in
which they came (`filter_sortBy`).
-/

namespace Telemetry

variable {α : Type}

/-- Puts `x` before the first element that it may stand before. -/
def insertBy (le : α → α → Bool) (x : α) : List α → List α
  | [] => [x]
  | y :: ys => if le x y then x :: y :: ys else y :: insertBy le x ys

/-- The elements in ascending order; elements of equal rank keep their order. -/
def sortBy (le : α → α → Bool) : List α → List α
  | [] => []
  | x :: xs => insertBy le x (sortBy le xs)

theorem perm_insertBy (le : α → α → Bool) (x : α) (ys : List α) : (insertBy le x ys).Perm (x :: ys) := by
  induction ys with
  | nil => exact List.Perm.refl _
  | cons y ys ih =>
    unfold insertBy
    split
    · exact List.Perm.refl _
    · exact (ih.cons y).trans (List.Perm.swap x y ys)

theorem perm_sortBy (le : α → α → Bool) (xs : List α) : (sortBy le xs).Perm xs := by
  induction xs with
  | nil => exact List.Perm.refl _
  | cons x xs ih => exact (perm_insertBy le x _).trans (ih.cons x)

theorem pairwise_insertBy {le : α → α → Bool} (trans : ∀ a b c, le a b → le b c → le a c)
    (total : ∀ a b, le a b || le b a) (x : α) {ys : List α} (h : ys.Pairwise fun a b => le a b) :
    (insertBy le x ys).Pairwise fun a b => le a b := by
  induction ys with
  | nil => simp [insertBy]
  | cons y ys ih =>
    have hy := List.pairwise_cons.1 h
    unfold insertBy
    split
    · rename_i hxy
      refine List.pairwise_cons.2 ⟨fun z hz => ?_, h⟩
      rcases List.mem_cons.1 hz with rfl | hz
      · exact hxy
      · exact trans x y z hxy (hy.1 z hz)
    · rename_i hxy
      refine List.pairwise_cons.2 ⟨fun z hz => ?_, ih hy.2⟩
      rcases List.mem_cons.1 ((perm_insertBy le x ys).mem_iff.1 hz) with rfl | hz
      · have := total z y
        simp_all
      · exact hy.1 z hz

theorem pairwise_sortBy {le : α → α → Bool} (trans : ∀ a b c, le a b → le b c → le a c)
    (total : ∀ a b, le a b || le b a) (xs : List α) : (sortBy le xs).Pairwise fun a b => le a b := by
  induction xs with
  | nil => exact List.Pairwise.nil
  | cons x xs ih => exact pairwise_insertBy trans total x ih

theorem filter_insertBy {le : α → α → Bool} {p : α → Bool} (x : α) (ys : List α)
    (h : ∀ y ∈ ys, p x → p y → le x y) : (insertBy le x ys).filter p = (x :: ys).filter p := by
  induction ys with
  | nil => rfl
  | cons y ys ih =>
    unfold insertBy
    split
    · rfl
    · rename_i hxy
      have hyx : ¬(p x ∧ p y) := fun hp => hxy (h y List.mem_cons_self hp.1 hp.2)
      have := ih fun z hz => h z (List.mem_cons_of_mem y hz)
      by_cases hx : p x <;> by_cases hy : p y <;> simp_all

/-- Elements that may stand before one another keep the order in which they came. -/
theorem filter_sortBy {le : α → α → Bool} {p : α → Bool} (xs : List α)
    (h : ∀ x ∈ xs, ∀ y ∈ xs, p x → p y → le x y) : (sortBy le xs).filter p = xs.filter p := by
  induction xs with
  | nil => rfl
  | cons x xs ih =>
    have hmem : ∀ y ∈ sortBy le xs, y ∈ xs := fun y hy => (perm_sortBy le xs).mem_iff.1 hy
    have step : (insertBy le x (sortBy le xs)).filter p = (x :: sortBy le xs).filter p :=
      filter_insertBy x _ fun y hy => h x List.mem_cons_self y (List.mem_cons_of_mem x (hmem y hy))
    have rest := ih fun a ha b hb => h a (List.mem_cons_of_mem x ha) b (List.mem_cons_of_mem x hb)
    simp only [sortBy, step, List.filter_cons, rest]

end Telemetry
