import Telemetry.Proofs.Binary64.Decimal
import Telemetry.Proofs.Point
import Telemetry.Synthetic

/-!
# Buckets of known observations

A bucket is told by its upper limit, `none` for the last one. Where the limits ascend, the numbers of observations at or
below them are cumulative buckets in order (`Synthetic.ordered_buckets`), and their differences count the observations
between one limit and the next (`Synthetic.ofCumulative_buckets`).
-/

namespace Telemetry

/-! ## Boundaries in text -/

namespace Text

theorem not_isBlank_of_isDigit {c : Char} (h : c.isDigit = true) : isBlank c = false := by
  obtain ⟨hlow, hhigh⟩ := Char.isDigit_iff_toNat.1 h
  have hlow : 48 ≤ c.toNat := hlow
  have hhigh : c.toNat ≤ 57 := hhigh
  simp only [isBlank, blankRanges, List.any_cons, List.any_nil, Bool.or_false, Bool.or_eq_false_iff,
    Bool.and_eq_false_iff, decide_eq_false_iff_not]
  omega

theorem trim_eq_self {text : List Char} (h : ∀ c ∈ text, isBlank c = false) : trim text = text := by
  have hdrop : ∀ cs : List Char, (∀ c ∈ cs, isBlank c = false) → cs.dropWhile isBlank = cs := by
    intro cs hcs
    cases cs with
    | nil => rfl
    | cons c rest => exact List.dropWhile_cons_of_neg (by simp [hcs c List.mem_cons_self])
  unfold trim
  rw [hdrop text h, hdrop text.reverse fun c hc => h c (List.mem_reverse.1 hc), List.reverse_reverse]

end Text

namespace Binary64

theorem not_isBlank_of_mem_toText {x : Binary64} (h : x.isFinite = true) :
    ∀ c ∈ x.toText.toList, Text.isBlank c = false := by
  obtain ⟨whole, fraction, hspelling, htext⟩ := toText_eq h
  intro c hc
  have hmem : c = '-' ∨ c = '.' ∨ c ∈ whole ++ fraction := by
    rw [htext, Decimal.pointed] at hc
    rcases List.mem_append.1 hc with hc | hc
    · split at hc
      · exact Or.inl (List.mem_singleton.1 hc)
      · cases hc
    · rcases List.mem_append.1 hc with hc | hc
      · exact Or.inr (Or.inr (List.mem_append_left _ hc))
      · split at hc
        · cases hc
        · rcases List.mem_cons.1 hc with hc | hc
          · exact Or.inr (Or.inl hc)
          · exact Or.inr (Or.inr (List.mem_append_right _ hc))
  rcases hmem with rfl | rfl | hc
  · decide
  · decide
  · exact Text.not_isBlank_of_isDigit (hspelling.digits c hc)

end Binary64

/-- The double that stands for a number: of the two zeros it is `0`. -/
def Binary64.canonical (x : Binary64) : Binary64 := if x.sameNumber .zero then .zero else x

/-- **A number is the boundary that its text spells**, but that both zeros spell `0`. -/
theorem boundary?_toText {x : Binary64} (h : x.isNaN = false) : boundary? x.toText = some x.canonical := by
  rcases Binary64.isFinite_or_infinite h with hfinite | rfl | rfl
  · unfold boundary?
    rw [Text.trim_eq_self (Binary64.not_isBlank_of_mem_toText hfinite), String.ofList_toList,
      Binary64.ofText?_toText hfinite]
    simp only
    rw [h]
    rfl
  · decide +kernel
  · decide +kernel

namespace Binary64

variable {x : Binary64}

theorem regular_canonical (h : x.isNaN = false) : x.canonical.Regular := regular_of_boundary? (boundary?_toText h)

theorem sameNumber_canonical (h : x.isNaN = false) : x.canonical.sameNumber x := by
  unfold canonical
  split
  · rename_i hzero
    exact sameNumber_symm hzero
  · exact sameNumber_iff.2 ⟨h, h, rfl⟩

end Binary64

theorem truncateCount_ofNat {n : Nat} (hn : n ≤ 2 ^ 53) :
    ∃ count, truncateCount (.ofNat n) = .ok count ∧ count.toNat = n :=
  ⟨_, if_pos (Binary64.isFinite_ofNat hn), Binary64.truncToUInt64_ofNat hn⟩

namespace Synthetic
open Binary64

/-! ## Limits -/

/-- The number of observations above the lower limit and at or below the upper one, as far as these are given. -/
def between (observations : List Binary64) (lower upper : Option Binary64) : Nat :=
  observations.countP fun x => lower.all (fun b => b.lt x) && upper.all fun b => x.le b

/-- The number of observations at or below a limit: none is, where there is no limit below. -/
def below (observations : List Binary64) (lower : Option Binary64) : Nat := lower.elim 0 (cumulative observations)

def limits (bounds : List Binary64) : List (Option Binary64) := bounds.map some ++ [none]

def limitBoundary : Option Binary64 → Binary64
  | some b => if b.sameNumber .zero then .zero else b
  | none => .inf

def buckets (bounds observations : List Binary64) : BoundaryMap :=
  ⟨(limits bounds).map fun upper => (limitBoundary upper, .ofNat (between observations none upper))⟩

variable {bounds observations : List Binary64}

theorem between_none (upper : Option Binary64) :
    between observations none upper = observations.countP fun x => upper.all fun b => x.le b := by
  simp [between]

theorem cumulative_eq_between (bound : Binary64) :
    cumulative observations bound = between observations none (some bound) := by
  simp [between, cumulative]

theorem length_eq_between : observations.length = between observations none none := by
  simp [between]

theorem between_le_length (lower upper : Option Binary64) : between observations lower upper ≤ observations.length :=
  List.countP_le_length

theorem below_add_between (hobs : ∀ x ∈ observations, x.isNaN = false) (lower upper : Option Binary64)
    (h : ∀ l ∈ lower, l.isNaN = false ∧ ∀ u ∈ upper, l.lt u) :
    below observations lower + between observations lower upper = between observations none upper := by
  cases lower with
  | none => exact Nat.zero_add _
  | some l =>
    obtain ⟨hl, hlu⟩ := h l rfl
    have hbelow : below observations (some l) = (observations.filter fun x => !l.lt x).countP
        (fun x => upper.all fun b => x.le b) := by
      rw [List.countP_filter]
      refine List.countP_congr fun x hx => ?_
      rw [le_eq_not_lt (hobs x hx) hl]
      cases hlx : l.lt x with
      | true => simp
      | false =>
        cases upper with
        | none => simp
        | some u =>
          have hxu : x.le u = true := by
            have hnan := hobs x hx
            have := lt_iff.1 (hlu u rfl)
            have hrank : ¬ l.rank < x.rank := fun hlt => by
              rw [lt_iff.2 ⟨hl, hnan, hlt⟩] at hlx
              cases hlx
            simp [le, hnan, this.2.1]
            omega
          simp [hxu]
    have hbetween : between observations (some l) upper = (observations.filter fun x => l.lt x).countP
        (fun x => upper.all fun b => x.le b) := by
      rw [List.countP_filter]
      exact List.countP_congr fun x _ => by simp [and_comm]
    rw [hbelow, hbetween, between_none, Nat.add_comm]
    have hsplit := List.countP_eq_countP_filter_add observations (fun x => upper.all fun b => x.le b) fun x => l.lt x
    simpa using hsplit.symm

/-! ## Cumulative buckets -/

theorem limitBoundary_some {b : Binary64} (hb : b.isFinite = true) :
    (limitBoundary (some b)).sameNumber b ∧ (limitBoundary (some b)).Regular :=
  ⟨sameNumber_canonical (isNaN_of_isFinite hb), regular_canonical (isNaN_of_isFinite hb)⟩

theorem regular_limitBoundary (hfinite : ∀ b ∈ bounds, b.isFinite = true) :
    ∀ upper ∈ limits bounds, (limitBoundary upper).Regular := by
  intro upper hmem
  rcases List.mem_append.1 hmem with hmem | hmem
  · obtain ⟨b, hb, rfl⟩ := List.mem_map.1 hmem
    exact (limitBoundary_some (hfinite b hb)).2
  · rw [List.mem_singleton.1 hmem]
    exact ⟨by decide, by decide⟩

theorem pairwise_limits (hfinite : ∀ b ∈ bounds, b.isFinite = true) (hasc : bounds.Pairwise fun a b => a.lt b) :
    (limits bounds).Pairwise fun a b => (limitBoundary a).lt (limitBoundary b) := by
  refine List.pairwise_append.2 ⟨?_, List.pairwise_singleton _ _, ?_⟩
  · refine List.pairwise_map.2 (hasc.imp_of_mem fun {a b} ha hb hab => ?_)
    exact lt_of_sameNumber (limitBoundary_some (hfinite a ha)).1 (limitBoundary_some (hfinite b hb)).1 hab
  · intro upper hmem last hlast
    obtain ⟨b, hb, rfl⟩ := List.mem_map.1 hmem
    rw [List.mem_singleton.1 hlast]
    have hinf : inf.sameNumber inf := by decide
    exact lt_of_sameNumber (limitBoundary_some (hfinite b hb)).1 hinf (lt_inf (hfinite b hb))

theorem ordered_buckets (hfinite : ∀ b ∈ bounds, b.isFinite = true) (hasc : bounds.Pairwise fun a b => a.lt b) :
    (buckets bounds observations).Ordered where
  regular e he := by
    obtain ⟨upper, hmem, rfl⟩ := List.mem_map.1 he
    exact regular_limitBoundary hfinite upper hmem
  ascending := List.pairwise_map.2 (pairwise_limits hfinite hasc)

section Differences

variable (hobs : ∀ x ∈ observations, x.isNaN = false) (hlength : observations.length < 2 ^ 53)

include hlength in
/-- One cumulative bucket adds to the ones before it what lies between its limits. -/
theorem perBucket_cons {lower upper : Option Binary64}
    (hsum : below observations lower + between observations lower upper = between observations none upper)
    (boundary : Binary64) {rest : List (Binary64 × Binary64)} {counts : List UInt64}
    (hrest : BucketLayout.perBucket (.ofNat (between observations none upper)) rest = .ok counts) :
    ∃ count, count.toNat = between observations lower upper ∧
      BucketLayout.perBucket (.ofNat (below observations lower))
        ((boundary, .ofNat (between observations none upper)) :: rest) = .ok (count :: counts) := by
  have hupper : between observations none upper < 2 ^ 53 := (between_le_length none upper).trans_lt hlength
  have hadded : (ofNat (between observations none upper)).sub (ofNat (below observations lower)) =
      ofNat (between observations lower upper) := by
    rw [sub_ofNat hupper.le (by omega)]
    congr 1
    omega
  refine ⟨_, truncToUInt64_ofNat (by omega),
    BucketLayout.perBucket_cons_eq_ok_iff.2 ⟨isFinite_ofNat hupper.le, ?_, counts, hrest, ?_⟩⟩
  · rw [hadded]
    exact not_ofNat_lt_zero _
  · rw [hadded]

include hobs hlength in
/-- The differences of cumulative buckets count the observations between one limit and the next. -/
theorem perBucket_limits (lower : Option Binary64) (hlower : ∀ l ∈ lower, l.isNaN = false ∧ ∀ b ∈ bounds, l.lt b)
    (hbounds : ∀ b ∈ bounds, b.isNaN = false) (hasc : bounds.Pairwise fun a b => a.lt b) :
    ∃ counts, BucketLayout.perBucket (.ofNat (below observations lower)) (buckets bounds observations).entries =
        .ok counts ∧
      counts.map UInt64.toNat = List.zipWith (between observations) (lower :: bounds.map some) (limits bounds) ∧
      below observations lower + (counts.map UInt64.toNat).sum = observations.length := by
  -- the lower limit moves up with the bounds: what was counted so far is what lies below it
  induction bounds generalizing lower with
  | nil =>
    have hsum := below_add_between hobs lower none fun l hl => ⟨(hlower l hl).1, by simp⟩
    have hnil : BucketLayout.perBucket (.ofNat (between observations none none)) [] = .ok [] := rfl
    obtain ⟨count, hcount, hbuckets⟩ := perBucket_cons hlength hsum .inf hnil
    refine ⟨[count], hbuckets, ?_, ?_⟩
    · simp [limits, hcount]
    · simp [hcount, hsum, ← length_eq_between]
  | cons b bounds ih =>
    obtain ⟨hb, hasc⟩ := List.pairwise_cons.1 hasc
    have hsum := below_add_between hobs lower (some b) fun l hl =>
      ⟨(hlower l hl).1, fun u hu => Option.mem_some_iff.1 hu ▸ (hlower l hl).2 b List.mem_cons_self⟩
    have hnext : ∀ l ∈ some b, l.isNaN = false ∧ ∀ c ∈ bounds, l.lt c := by
      rintro l ⟨⟩
      exact ⟨hbounds b List.mem_cons_self, hb⟩
    have hothers : ∀ c ∈ bounds, c.isNaN = false := fun c hc => hbounds c (List.mem_cons_of_mem b hc)
    obtain ⟨counts, hrest, hcounts, htotal⟩ := ih (some b) hnext hothers hasc
    have hbelow : below observations (some b) = between observations none (some b) := cumulative_eq_between b
    rw [hbelow] at hrest htotal
    obtain ⟨count, hcount, hbuckets⟩ := perBucket_cons hlength hsum (limitBoundary (some b)) hrest
    refine ⟨count :: counts, hbuckets, ?_, ?_⟩
    · rw [List.map_cons, hcount, hcounts]
      rfl
    · rw [List.map_cons, hcount, List.sum_cons]
      omega

include hobs hlength in
/-- **The layout of cumulative buckets** counts the observations between one limit and the next, and all of them. -/
theorem ofCumulative_buckets (hfinite : ∀ b ∈ bounds, b.isFinite = true) (hasc : bounds.Pairwise fun a b => a.lt b) :
    ∃ counts, BucketLayout.ofCumulative (buckets bounds observations) =
        .ok ⟨(limits bounds).map limitBoundary, counts, .ofNat observations.length⟩ ∧
      counts.map UInt64.toNat = List.zipWith (between observations) (none :: bounds.map some) (limits bounds) ∧
      (counts.map UInt64.toNat).sum = observations.length := by
  obtain ⟨counts, hbuckets, hcounts, htotal⟩ := perBucket_limits hobs hlength none (by simp)
    (fun b hb => isNaN_of_isFinite (hfinite b hb)) hasc
  have hlast : (buckets bounds observations).entries.getLast? = some (.inf, .ofNat observations.length) := by
    rw [length_eq_between]
    simp [buckets, limits, limitBoundary]
  have hstart : BucketLayout.perBucket .zero (buckets bounds observations).entries = .ok counts := by
    rw [← ofNat_zero]
    exact hbuckets
  refine ⟨counts, ?_, hcounts, by simpa [below] using htotal⟩
  simp only [BucketLayout.ofCumulative, hlast, hstart]
  rw [buckets, List.map_map]
  rfl

end Differences

end Synthetic

end Telemetry
