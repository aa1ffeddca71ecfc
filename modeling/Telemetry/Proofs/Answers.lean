import Telemetry.Proofs.Acceptance

/-!
# The answer to a sample

`Family.Answers` says, in terms of the labels and the name of a sample, which answer it gets. Labels are looked at
first, and only then the boundary that a bucket or a quantile needs; the verdict of a family is that answer and no
other (`Family.verdict_eq_iff`). A cycle gives it whatever came before, so the order of samples does not show in how
many of them are accepted, rejected or dropped (`Cycle.answer_of_sample`).
-/

namespace Telemetry

/-! ## Labels -/

namespace Label

/-- Whether this name is the first to occur again. -/
def Repeats (name : String) (labels : List Label) : Prop :=
  ∃ before l after, labels = before ++ l :: after ∧ l.name = name ∧ Distinct before ∧ name ∈ before.map Label.name

def NamesBoth (labels : List Label) : Prop :=
  (lookup? labels bucketLabel).isSome ∧ (lookup? labels quantileLabel).isSome

def Proper (labels : List Label) : Prop := Distinct labels ∧ ¬ NamesBoth labels

-- the names in `seen` count as occurring in front of the labels
theorem repeatedName?_eq_some_iff {seen : List String} {labels : List Label} {name : String} :
    repeatedName? seen labels = some name ↔
      ∃ before l after, labels = before ++ l :: after ∧ l.name = name ∧ repeatedName? seen before = none ∧
        (name ∈ seen ∨ name ∈ before.map Label.name) := by
  induction labels generalizing seen with
  | nil => simp [repeatedName?]
  | cons m rest ih =>
    by_cases hm : m.name ∈ seen
    · rw [repeatedName?, if_pos hm]
      constructor
      · intro h
        obtain rfl := Option.some.inj h
        exact ⟨[], m, rest, rfl, rfl, rfl, Or.inl hm⟩
      · rintro ⟨before, l, after, heq, hl, hnone, -⟩
        cases before with
        | nil =>
          obtain ⟨rfl, -⟩ := List.cons.inj heq
          rw [hl]
        | cons b before =>
          obtain ⟨rfl, -⟩ := List.cons.inj heq
          rw [repeatedName?, if_pos hm] at hnone
          cases hnone
    · rw [repeatedName?, if_neg hm, ih]
      constructor
      · rintro ⟨before, l, after, rfl, hl, hnone, hname⟩
        refine ⟨m :: before, l, after, rfl, hl, ?_, ?_⟩
        · rw [repeatedName?, if_neg hm]
          exact hnone
        · rw [List.mem_cons, or_assoc] at hname
          rw [List.map_cons, List.mem_cons]
          tauto
      · rintro ⟨before, l, after, heq, hl, hnone, hname⟩
        cases before with
        | nil =>
          obtain ⟨rfl, -⟩ := List.cons.inj heq
          rw [hl] at hm
          rcases hname with hname | hname
          · exact absurd hname hm
          · cases hname
        | cons b before =>
          obtain ⟨rfl, rfl⟩ := List.cons.inj heq
          rw [repeatedName?, if_neg hm] at hnone
          refine ⟨before, l, after, rfl, hl, hnone, ?_⟩
          rw [List.map_cons, List.mem_cons] at hname
          rw [List.mem_cons, or_assoc]
          tauto

theorem repeats_iff {labels : List Label} {name : String} :
    Repeats name labels ↔ repeatedName? [] labels = some name := by
  rw [repeatedName?_eq_some_iff]
  simp [Repeats, repeatedName?_eq_none_iff]

theorem exists_repeats_iff {labels : List Label} : (∃ name, Repeats name labels) ↔ ¬ Distinct labels := by
  simp only [repeats_iff, ← Option.isSome_iff_exists]
  rw [← Option.ne_none_iff_isSome, ne_eq, repeatedName?_eq_none_iff]
  simp

end Label

/-- The number that the value of a label spells, blanks around it dropped. -/
def spelled? (text : String) : Option Binary64 := Binary64.ofText? (String.ofList (Text.trim text.toList))

theorem boundary?_eq_none_iff {text : String} :
    boundary? text = none ↔ ∀ n, spelled? text = some n → n.isNaN = true := by
  unfold boundary? spelled?
  cases Binary64.ofText? (String.ofList (Text.trim text.toList)) with
  | none => simp
  | some n => cases h : n.isNaN <;> simp [h]

/-! ## Families -/

namespace Family

/-- The label that a sample cannot do without: the one with its boundary, if its value goes to a bucket or a
quantile. -/
def neededLabel? (f : Family) (x : Sample) : Option String :=
  if f.isCreated x || f.isCount x || f.isSum x then none else f.shape.boundaryLabel?

def Answers (f : Family) (x : Sample) : Except Rejection Unit → Prop
  | .error (.duplicateLabel name) => Label.Repeats name x.labels
  | .error .bucketAndQuantile => Label.Distinct x.labels ∧ Label.NamesBoth x.labels
  | .error (.missingBoundary family label) =>
    Label.Proper x.labels ∧ f.neededLabel? x = some label ∧ Label.lookup? x.labels label = none ∧ family = f.name
  | .error (.invalidBoundary label text) =>
    Label.Proper x.labels ∧ f.neededLabel? x = some label ∧ Label.lookup? x.labels label = some text ∧
      ∀ n, spelled? text = some n → n.isNaN = true
  | .error (.inconsistentSeries ..) => False
  | .ok () =>
    Label.Proper x.labels ∧ ∀ label, f.neededLabel? x = some label →
      ∃ text n, Label.lookup? x.labels label = some text ∧ spelled? text = some n ∧ n.isNaN = false

variable {f : Family} {x : Sample}

theorem identify_eq_error_iff {labels : List Label} {reason : Rejection} : f.identify labels = .error reason ↔
    (∃ name, Label.Repeats name labels ∧ reason = .duplicateLabel name) ∨
    (Label.Distinct labels ∧ Label.NamesBoth labels ∧ reason = .bucketAndQuantile) := by
  unfold identify Identity.ofLabels
  cases hname : Label.repeatedName? [] labels with
  | some name =>
    have hnot : ¬ Label.Distinct labels := Label.exists_repeats_iff.1 ⟨name, Label.repeats_iff.2 hname⟩
    simp [Label.repeats_iff, hname, hnot, eq_comm]
  | none =>
    have hdistinct : Label.Distinct labels := (Label.repeatedName?_eq_none_iff.1 hname).1
    by_cases hboth : (Label.lookup? labels bucketLabel).isSome ∧ (Label.lookup? labels quantileLabel).isSome
    · simp [Label.repeats_iff, Label.NamesBoth, hname, hdistinct, hboth, eq_comm]
    · simp [Label.repeats_iff, Label.NamesBoth, hname, hdistinct, hboth]

theorem exists_identify_iff {labels : List Label} :
    (∃ identity, f.identify labels = .ok identity) ↔ Label.Proper labels := by
  simp only [identify_eq_ok_iff, Label.Proper, Label.NamesBoth]
  constructor
  · rintro ⟨-, hdistinct, hnot, -⟩
    exact ⟨hdistinct, hnot⟩
  · rintro ⟨hdistinct, hnot⟩
    exact ⟨_, hdistinct, hnot, rfl⟩

theorem partOf_of_needs_none (h : f.neededLabel? x = none) : ∃ part, f.partOf x = .ok part := by
  cases hc : f.isCreated x with
  | true => exact ⟨_, f.partOf_of_isCreated x hc⟩
  | false =>
    by_cases hs : f.shape = .scalar
    · exact ⟨_, f.partOf_of_scalar x hc hs⟩
    · obtain ⟨label, hl⟩ := f.exists_boundaryLabel hs
      rw [f.partOf_of_tally x hc hl]
      cases hn : f.isCount x with
      | true => exact ⟨_, rfl⟩
      | false =>
        cases hm : f.isSum x with
        | true => exact ⟨_, rfl⟩
        | false => simp [neededLabel?, hc, hn, hm, hl] at h

theorem partOf_of_needs {label : String} (h : f.neededLabel? x = some label) :
    f.partOf x = (f.boundaryOf label x.labels).map some := by
  unfold neededLabel? at h
  split at h
  · cases h
  · rename_i hnone
    simp only [Bool.or_eq_true, not_or, Bool.not_eq_true] at hnone
    rw [f.partOf_of_tally x hnone.1.1 h, hnone.1.2, hnone.2, if_neg (by decide), if_neg (by decide)]

theorem partOf_eq_error_iff {reason : Rejection} : f.partOf x = .error reason ↔
    ∃ label, f.neededLabel? x = some label ∧
      ((Label.lookup? x.labels label = none ∧ reason = .missingBoundary f.name label) ∨
        ∃ text, Label.lookup? x.labels label = some text ∧ boundary? text = none ∧
          reason = .invalidBoundary label text) := by
  cases hneeds : f.neededLabel? x with
  | none =>
    obtain ⟨part, hpart⟩ := partOf_of_needs_none hneeds
    simp [hpart]
  | some label =>
    rw [partOf_of_needs hneeds, boundaryOf]
    cases hlookup : Label.lookup? x.labels label with
    | none => simp [Except.map, hlookup, eq_comm]
    | some text => cases hbound : boundary? text <;> simp [Except.map, hlookup, hbound, eq_comm]

theorem exists_partOf_iff : (∃ part, f.partOf x = .ok part) ↔ ∀ label, f.neededLabel? x = some label →
    ∃ text n, Label.lookup? x.labels label = some text ∧ spelled? text = some n ∧ n.isNaN = false := by
  cases hneeds : f.neededLabel? x with
  | none => simp [partOf_of_needs_none hneeds]
  | some label =>
    have hbound : ∀ text, (∃ bound, boundary? text = some bound) ↔ ∃ n, spelled? text = some n ∧ n.isNaN = false := by
      intro text
      rw [← Option.isSome_iff_exists, ← Option.ne_none_iff_isSome, ne_eq, boundary?_eq_none_iff]
      simp
    simp only [Option.some.injEq, forall_eq']
    rw [partOf_of_needs hneeds, boundaryOf]
    cases hlookup : Label.lookup? x.labels label with
    | none => simp [Except.map]
    | some text =>
      simp only [Option.some.injEq, exists_and_left, exists_eq_left', ← hbound]
      cases boundary? text <;> simp [Except.map]

theorem verdict_eq_error_iff {reason : Rejection} : f.verdict x = .error reason ↔
    f.identify x.labels = .error reason ∨ (Label.Proper x.labels ∧ f.partOf x = .error reason) := by
  rw [← exists_identify_iff (f := f)]
  unfold verdict
  cases f.identify x.labels <;> cases f.partOf x <;> simp [Except.bind, Except.map]

theorem verdict_eq_ok_iff : f.verdict x = .ok () ↔ Label.Proper x.labels ∧ ∃ part, f.partOf x = .ok part := by
  rw [← exists_identify_iff (f := f)]
  unfold verdict
  cases f.identify x.labels <;> cases f.partOf x <;> simp [Except.bind, Except.map]

/-- **The verdict of a family** is the answer that labels and name of a sample call for. -/
theorem verdict_eq_iff {answer : Except Rejection Unit} : f.verdict x = answer ↔ f.Answers x answer := by
  cases answer with
  | ok _ => rw [verdict_eq_ok_iff, exists_partOf_iff, Answers]
  | error reason =>
    rw [verdict_eq_error_iff, identify_eq_error_iff, partOf_eq_error_iff]
    cases reason <;> simp [Answers, boundary?_eq_none_iff]

end Family

/-! ## Cycles -/

namespace Cycle

section Run

variable (target : Target) (store : MetadataStore) (settings : AssemblySettings) (xs : List Sample)

/-- **A sample is answered by what it is**, not by what came before it. It is dropped with no complaint if the
settings drop its stale marker, and otherwise gets the answer that its family, as the store declares it, has for it.
So the order of the samples of a run does not show in its statistics. -/
theorem answer_of_sample :
    (∀ x answer, (((start target store settings).extend xs).add x).2 = answer ↔
      if reaches settings x then (familyOf store settings x).Answers x answer else answer = .ok ()) ∧
    ∀ ys, xs.Perm ys →
      ((start target store settings).extend xs).stats = ((start target store settings).extend ys).stats := by
  constructor
  · intro x answer
    rw [answer_extend]
    cases reaches settings x with
    | true => exact Family.verdict_eq_iff
    | false => exact eq_comm
  · intro ys h
    rw [stats_extend, stats_extend, h.countP_eq, h.countP_eq, h.countP_eq]

end Run

/-- A bucket without a bound is rejected behind a bucket with one, a bound that is no number, labels of both kinds,
and a sum, which needs no bound; read backwards these count alike. -/
theorem answer_behind_rejections :
    let c := start ⟨"node", "host"⟩ (fun name => if name = "latency" then some ⟨.histogram, "", "s"⟩ else none) .default
    let xs : List Sample :=
      [⟨"latency_bucket", [⟨"zone", "a"⟩, ⟨"le", " 0.5 "⟩], 7, .ofNat 1, none⟩,
        ⟨"latency_bucket", [⟨"zone", "a"⟩, ⟨"le", "NaN"⟩], 7, .ofNat 1, none⟩,
        ⟨"latency_bucket", [⟨"le", "0.5"⟩, ⟨"quantile", "0.5"⟩], 7, .ofNat 1, none⟩,
        ⟨"latency_sum", [⟨"zone", "a"⟩], 7, .ofNat 1, none⟩]
    ((c.extend xs).add ⟨"latency_bucket", [⟨"zone", "a"⟩], 7, .ofNat 1, none⟩).2 =
        .error (.missingBoundary "latency" "le") ∧
      (c.extend xs).stats.rejected = 2 ∧ (c.extend xs).stats = (c.extend xs.reverse).stats := by
  intro c xs
  refine ⟨?_, by decide +kernel, ?_⟩
  · refine ((answer_of_sample _ _ _ xs).1 _ _).2 ?_
    rw [if_pos (by decide)]
    have hproper : Label.Proper [⟨"zone", "a"⟩] := ⟨List.nodup_singleton _, fun h => absurd h.1 (by decide)⟩
    exact ⟨hproper, by decide, by decide, rfl⟩
  · exact (answer_of_sample _ _ _ xs).2 _ (List.reverse_perm _).symm

end Cycle

end Telemetry
