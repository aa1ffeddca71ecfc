import Mathlib.Data.List.Infix
import Telemetry.Proofs.Acceptance

/-!
# The family of a sample name

A cycle takes a suffix off the end of a sample name to find its family, and the family reads what stands behind its own
name. No suffix ends in another one, so at most one can be taken off (`Suffix.eq_of_strip?`) and the order in which they
are tried is of no account (`Cycle.familyNameBy_eq`). `Cycle.Sends` is what the store alone says about a name, and
`Cycle.family_of_name` that the cycle does just that and the family reads the suffix that the cycle took off.
-/

namespace Telemetry

namespace Suffix

def rest? (base name : String) : Option String := (base.toList.isPrefixOf? name.toList).map String.ofList

theorem rest?_eq_some_iff {base name rest : String} : rest? base name = some rest ↔ name = base ++ rest := by
  simp only [rest?, Option.map_eq_some_iff, List.isPrefixOf?_eq_some_iff_append_eq]
  constructor
  · rintro ⟨chars, hchars, rfl⟩
    rw [← String.toList_inj, String.toList_append, String.toList_ofList, hchars]
  · rintro rfl
    exact ⟨rest.toList, (String.toList_append ..).symm, String.ofList_toList⟩

theorem strip?_eq_some_iff {s : Suffix} {name base : String} : s.strip? name = some base ↔ name = base ++ s.text := by
  simp only [strip?, Option.map_eq_some_iff, List.isSuffixOf?_eq_some_iff_append_eq]
  constructor
  · rintro ⟨chars, hchars, rfl⟩
    rw [← String.toList_inj, String.toList_append, String.toList_ofList, hchars]
  · rintro rfl
    exact ⟨base.toList, (String.toList_append ..).symm, String.ofList_toList⟩

theorem behind?_eq_some_iff_rest? {base name : String} {s : Suffix} :
    behind? base name = some s ↔ rest? base name = some s.text :=
  behind?_eq_some_iff.trans rest?_eq_some_iff.symm

theorem eq_of_text_isSuffix {s t : Suffix} (h : s.text.toList <:+ t.text.toList) : s = t := by
  revert h
  cases s <;> cases t <;> decide

/-- **A name ends in one suffix at most**, and so it has one base. -/
theorem eq_of_append_text {s t : Suffix} {base other : String} (h : base ++ s.text = other ++ t.text) :
    s = t ∧ base = other := by
  have hlist : base.toList ++ s.text.toList = other.toList ++ t.text.toList := by
    simpa using congrArg String.toList h
  have hsuffix : s = t := by
    -- of two endings of one name, the shorter ends the longer
    rcases List.suffix_or_suffix_of_suffix ⟨_, hlist⟩ ⟨_, rfl⟩ with hs | ht
    · exact eq_of_text_isSuffix hs
    · exact (eq_of_text_isSuffix ht).symm
  subst hsuffix
  exact ⟨rfl, (String.append_left_inj _).1 h⟩

theorem eq_of_strip? {s t : Suffix} {name : String} (hs : (s.strip? name).isSome) (ht : (t.strip? name).isSome) :
    s = t := by
  obtain ⟨base, hs⟩ := Option.isSome_iff_exists.1 hs
  obtain ⟨other, ht⟩ := Option.isSome_iff_exists.1 ht
  exact (eq_of_append_text ((strip?_eq_some_iff.1 hs).symm.trans (strip?_eq_some_iff.1 ht))).1

end Suffix

namespace Cycle

/-- The name of the family that a sample name belongs to, with the suffixes tried in this order. -/
def familyNameBy (suffixes : List Suffix) (store : MetadataStore) (name : String) : String :=
  if (store name).isSome then name
  else ((suffixes.filterMap fun suffix => suffix.strip? name).find? fun base => (store base).isSome).getD name

/-- What the store says about a sample name: the family that it is sent to and the suffix that is taken off for it. -/
inductive Sends (store : MetadataStore) (name : String) : String → Option Suffix → Prop
  /-- The name is declared itself. -/
  | whole (h : (store name).isSome) : Sends store name name none
  /-- The name is not declared, and a base of it is. -/
  | base {base : String} {s : Suffix} (h : store name = none) (hname : name = base ++ s.text)
    (hbase : (store base).isSome) : Sends store name base (some s)
  /-- Neither the name nor a base of it is declared. -/
  | alone (h : store name = none) (hbases : ∀ base s, name = base ++ Suffix.text s → store base = none) :
    Sends store name name none

section Names

variable {store : MetadataStore} {name : String}

theorem familyNameBy_all : familyNameBy Suffix.all store name = familyName store name := rfl

/-- A name is sent to one family, and one suffix is taken off for it. -/
theorem Sends.unique {f g : String} {s t : Option Suffix} (hs : Sends store name f s) (ht : Sends store name g t) :
    f = g ∧ s = t := by
  cases hs with
  | whole h =>
    cases ht with
    | whole => exact ⟨rfl, rfl⟩
    | base h' => simp [h'] at h
    | alone h' => simp [h'] at h
  | base h hname hbase =>
    cases ht with
    | whole h' => simp [h] at h'
    | base _ hname' =>
      obtain ⟨rfl, rfl⟩ := Suffix.eq_of_append_text (hname.symm.trans hname')
      exact ⟨rfl, rfl⟩
    | alone _ hbases => simp [hbases _ _ hname] at hbase
  | alone h hbases =>
    cases ht with
    | whole h' => simp [h] at h'
    | base _ hname hbase => simp [hbases _ _ hname] at hbase
    | alone => exact ⟨rfl, rfl⟩

/-- What was taken off the end of a name is all that is left of it behind the name of its family. -/
theorem Sends.rest?_eq {base : String} {s : Option Suffix} (h : Sends store name base s) :
    Suffix.rest? base name = some (s.elim "" Suffix.text) := by
  rw [Suffix.rest?_eq_some_iff]
  cases h with
  | whole | alone => simp
  | base _ hname => exact hname

theorem Sends.behind?_eq {base : String} {s : Option Suffix} (h : Sends store name base s) :
    Suffix.behind? base name = s := by
  refine Option.ext fun t => ?_
  rw [Suffix.behind?_eq_some_iff_rest?, h.rest?_eq, Option.some_inj]
  cases s with
  | none => simpa using t.text_ne_empty.symm
  | some s =>
    exact ⟨fun htext => congrArg some (Suffix.text_injective htext), fun hs => by rw [Option.some.inj hs]; rfl⟩

theorem sends_familyNameBy (store : MetadataStore) (name : String) {suffixes : List Suffix} (hall : ∀ s, s ∈ suffixes) :
    ∃ s, Sends store name (familyNameBy suffixes store name) s := by
  unfold familyNameBy
  split
  · rename_i h
    exact ⟨none, .whole h⟩
  · rename_i h
    have hnone : store name = none := by simpa using h
    cases hfind : (suffixes.filterMap fun suffix => suffix.strip? name).find? fun base => (store base).isSome with
    | some base =>
      have hbase := List.find?_some hfind
      obtain ⟨s, -, hs⟩ := List.mem_filterMap.1 (List.mem_of_find?_eq_some hfind)
      exact ⟨some s, .base hnone (Suffix.strip?_eq_some_iff.1 hs) hbase⟩
    | none =>
      -- a declared base would have been found, since every suffix was tried
      refine ⟨none, .alone hnone fun base s hname => ?_⟩
      have hmem : base ∈ suffixes.filterMap fun suffix => suffix.strip? name :=
        List.mem_filterMap.2 ⟨s, hall s, Suffix.strip?_eq_some_iff.2 hname⟩
      simpa using List.find?_eq_none.1 hfind base hmem

theorem sends_familyName : Sends store name (familyName store name) (Suffix.behind? (familyName store name) name) := by
  obtain ⟨s, h⟩ := sends_familyNameBy store name Suffix.mem_all
  rw [familyNameBy_all] at h
  rwa [h.behind?_eq]

theorem sends_iff {base : String} {s : Option Suffix} : Sends store name base s ↔
    base = familyName store name ∧ s = Suffix.behind? (familyName store name) name := by
  constructor
  · exact fun h => h.unique sends_familyName
  · rintro ⟨rfl, rfl⟩
    exact sends_familyName

/-- **The order in which suffixes are tried is of no account.** -/
theorem familyNameBy_eq {suffixes : List Suffix} (hall : ∀ s, s ∈ suffixes) :
    familyNameBy suffixes store name = familyName store name := by
  obtain ⟨s, h⟩ := sends_familyNameBy store name hall
  exact (sends_iff.1 h).1

end Names

/-- **The family of a name is unambiguous, and it reads the suffix that the cycle took off.** One suffix at most can
be taken off a name, and trying them in any order leads to the family that `Sends` says. The family that the cycle
opens for a sample after any others finds just this suffix behind its own name, and nothing where the name is its
own. -/
theorem family_of_name (target : Target) (store : MetadataStore) (settings : AssemblySettings) (xs : List Sample)
    (x : Sample) :
    let family := (((start target store settings).extend xs).openFamily (familyName store x.name)).2
    (∀ s t : Suffix, (s.strip? x.name).isSome → (t.strip? x.name).isSome → s = t) ∧
    (∀ suffixes : List Suffix, suffixes.Perm Suffix.all →
      familyNameBy suffixes store x.name = familyName store x.name) ∧
    (∀ base suffix, Sends store x.name base suffix ↔
      base = family.name ∧ suffix = Suffix.behind? family.name x.name) ∧
    Suffix.rest? family.name x.name = some ((Suffix.behind? family.name x.name).elim "" Suffix.text) := by
  intro family
  have hname : family.name = familyName store x.name := (opened_spec target store settings xs _).2.1
  rw [hname]
  refine ⟨fun s t => Suffix.eq_of_strip?, fun suffixes hperm => ?_, fun base suffix => sends_iff, ?_⟩
  · exact familyNameBy_eq fun s => hperm.mem_iff.2 s.mem_all
  · exact sends_familyName.rest?_eq

/-- The base before the last suffix and the base before the last two are both declared, and the first of them is
open. -/
theorem family_of_two_suffixes :
    let store := MetadataStore.ofList [("wait", ⟨.histogram, "", ""⟩), ("wait_sum", ⟨.summary, "", ""⟩)]
    let before : List Sample := [⟨"wait_sum", [⟨"path", "/"⟩, ⟨"quantile", "0.5"⟩], 7, .ofNat 2, none⟩]
    let x : Sample := ⟨"wait_sum_count", [⟨"path", "/"⟩], 7, .ofNat 3, none⟩
    let family := (((start ⟨"api", "a:1"⟩ store .default).extend before).openFamily (familyName store x.name)).2
    family.name = "wait_sum" ∧ Sends store x.name family.name (some .count) ∧
    Suffix.rest? family.name x.name = some "_count" ∧
    familyNameBy Suffix.all.reverse store x.name = "wait_sum" ∧ ¬ (Suffix.strip? .sum x.name).isSome := by
  intro store before x family
  obtain ⟨hunique, horder, hsends, hrest⟩ := family_of_name ⟨"api", "a:1"⟩ store .default before x
  have hname : family.name = "wait_sum" := by decide +kernel
  have hbehind : Suffix.behind? family.name x.name = some .count := by decide +kernel
  refine ⟨hname, (hsends _ _).2 ⟨rfl, hbehind.symm⟩, ?_, ?_, fun hsum => ?_⟩
  · exact hrest.trans (congrArg (fun suffix => some (suffix.elim "" Suffix.text)) hbehind)
  · exact (horder _ Suffix.all.reverse_perm).trans (by decide +kernel)
  · exact absurd (hunique .sum .count hsum (by decide +kernel)) (by decide)

end Cycle

end Telemetry
