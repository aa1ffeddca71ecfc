import Telemetry.Proofs.History
import Telemetry.Proofs.Matching
import Telemetry.Proofs.Text.Hex

/-!
# What an exemplar keeps

Of the labels of an attached exemplar those go that the sample carries. Of the rest the first that holds a trace id
and the first that holds a span id are taken out (`Exemplar.foldl_absorb`), and all others stay as they are:
`Exemplar.Keeps` says so without the loop, and leaves room for one exemplar only (`Exemplar.keeps_iff`). Main
statement: `Family.exemplars_keep_labels`.
-/

namespace Telemetry

namespace Exemplar

/-! ## Ids -/

theorem id?_eq_some_iff_decode? {n : Nat} {text : String} {id : Vector UInt8 n} :
    id? n text = some id ↔ Text.Hex.decode? text.toList = some id.toList := by
  unfold id?
  cases Text.Hex.decode? text.toList with
  | none => simp
  | some bytes =>
    obtain ⟨array, hn⟩ := id
    subst hn
    simp only [Option.some.injEq, Vector.toList_mk]
    constructor
    · intro h
      split at h
      · have harray := congrArg Vector.toArray (Option.some.inj h)
        exact congrArg Array.toList harray
      · cases h
    · rintro rfl
      simp

/-- A text is read as the id whose bytes it spells. -/
theorem id?_eq_some_iff {n : Nat} {text : String} {id : Vector UInt8 n} :
    id? n text = some id ↔ Text.Hex.encode id.toList = text.toList.map Char.toLower := by
  rw [id?_eq_some_iff_decode?, Text.Hex.decode?_eq_some_iff]

theorem isSome_id?_iff (n : Nat) (text : String) :
    (id? n text).isSome ↔ text.toList.length = 2 * n ∧ ∀ c ∈ text.toList, Text.Hex.isHexDigit c = true := by
  have hall := Text.Hex.isSome_decode? text.toList
  constructor
  · intro h
    obtain ⟨id, hid⟩ := Option.isSome_iff_exists.1 h
    have hdecode := id?_eq_some_iff_decode?.1 hid
    have htwo := Text.Hex.length_of_decode? hdecode
    rw [hdecode, Option.isSome_some, eq_comm, Bool.and_eq_true, List.all_eq_true] at hall
    exact ⟨by rw [htwo, Vector.length_toList], hall.2⟩
  · rintro ⟨htwo, hdigits⟩
    rw [List.all_eq_true.2 hdigits, htwo, Nat.mul_mod_right] at hall
    obtain ⟨bytes, hdecode⟩ := Option.isSome_iff_exists.1 hall
    have hsize : bytes.length = n := by
      have := Text.Hex.length_of_decode? hdecode
      omega
    have hid : id? n text = some ⟨bytes.toArray, hsize⟩ := id?_eq_some_iff_decode?.2 hdecode
    rw [hid]
    rfl

/-! ## Labels with ids -/

def idOf? (name : String) (n : Nat) (l : Label) : Option (Vector UInt8 n) :=
  if l.name = name then id? n l.value else none

/-- Whether a label of this name holds an id: two hexadecimal digits of either case for every byte, and nothing else. -/
def holdsId (name : String) (n : Nat) (l : Label) : Bool :=
  l.name == name && l.value.length == 2 * n && l.value.toList.all Text.Hex.isHexDigit

/-- Whether an id is what the first label that holds one spells; there is none if no label does. -/
def IsFirstId (name : String) (n : Nat) (labels : List Label) (id : Option (Vector UInt8 n)) : Prop :=
  id.map (fun id => Text.Hex.encode id.toList) =
    (labels.find? (holdsId name n)).map fun l => l.value.toList.map Char.toLower

section Labels

variable {name : String} {n : Nat} {l : Label} {labels : List Label}

theorem isSome_idOf? : (idOf? name n l).isSome = holdsId name n l := by
  have hid := isSome_id?_iff n l.value
  rw [Bool.eq_iff_iff, holdsId, Bool.and_eq_true, Bool.and_eq_true, beq_iff_eq, beq_iff_eq, List.all_eq_true, and_assoc]
  unfold idOf?
  by_cases hname : l.name = name
  · rw [if_pos hname, hid]
    exact (and_iff_right hname).symm
  · simp [hname]

theorem isFirstId_iff {id : Option (Vector UInt8 n)} :
    IsFirstId name n labels id ↔ id = labels.findSome? (idOf? name n) := by
  unfold IsFirstId
  induction labels with
  | nil => simp
  | cons l labels ih =>
    rw [List.find?_cons, List.findSome?_cons, ← isSome_idOf?]
    cases hread : idOf? name n l with
    | none => exact ih
    | some first =>
      have hfirst : id? n l.value = some first := by
        unfold idOf? at hread
        split at hread
        · exact hread
        · cases hread
      cases id with
      | none => simp
      | some id =>
        simp only [Option.isSome_some, Option.map_some, Option.some.injEq]
        rw [← id?_eq_some_iff, hfirst, Option.some.injEq, eq_comm]

/-- The labels without the first that holds an id, unless an id of the kind was found before. -/
def withoutFirst (found : Option (Vector UInt8 n)) (name : String) (labels : List Label) : List Label :=
  if found.isSome then labels else labels.eraseP (holdsId name n)

theorem withoutFirst_cons_of_id {id : Vector UInt8 n} (h : idOf? name n l = some id) :
    withoutFirst (none : Option (Vector UInt8 n)) name (l :: labels) = labels := by
  have hl : holdsId name n l = true := by rw [← isSome_idOf?, h, Option.isSome_some]
  exact List.eraseP_cons_of_pos hl

variable {found : Option (Vector UInt8 n)} (h : found.isSome ∨ idOf? name n l = none)

include h

theorem withoutFirst_cons : withoutFirst found name (l :: labels) = l :: withoutFirst found name labels := by
  unfold withoutFirst
  rcases h with h | h
  · rw [if_pos h, if_pos h]
  · have hl : ¬ holdsId name n l = true := by simp [← isSome_idOf?, h]
    rw [List.eraseP_cons_of_neg hl]
    split <;> rfl

theorem or_findSome?_cons :
    found.or ((l :: labels).findSome? (idOf? name n)) = found.or (labels.findSome? (idOf? name n)) := by
  rcases h with h | h
  · rw [Option.or_of_isSome h, Option.or_of_isSome h]
  · rw [List.findSome?_cons, h]

end Labels

/-- No label holds an id of both kinds. -/
theorem spanIdOf?_of_traceIdOf? {l : Label} {id : TraceId} (h : traceIdOf? l = some id) : spanIdOf? l = none := by
  unfold traceIdOf? at h
  split at h
  · rename_i hname
    exact if_neg (hname ▸ by decide)
  · cases h

/-- A label is taken in as the first id of one kind or the other, or else as a label. -/
inductive Absorbs (e : Exemplar) (l : Label) : Exemplar → Prop
  | traceId {id : TraceId} (hnone : e.traceId = none) (hid : traceIdOf? l = some id) :
    Absorbs e l { e with traceId := some id }
  | spanId {id : SpanId} (htrace : e.traceId.isSome ∨ traceIdOf? l = none) (hnone : e.spanId = none)
    (hid : spanIdOf? l = some id) : Absorbs e l { e with spanId := some id }
  | label (htrace : e.traceId.isSome ∨ traceIdOf? l = none) (hspan : e.spanId.isSome ∨ spanIdOf? l = none) :
    Absorbs e l { e with labels := e.labels ++ [l] }

theorem absorbs_absorb (e : Exemplar) (l : Label) : Absorbs e l (e.absorb l) := by
  unfold absorb
  split
  · rename_i hnone hid
    exact .traceId hnone hid
  · rename_i hother
    have htrace : e.traceId.isSome ∨ traceIdOf? l = none := by
      cases htrace : e.traceId with
      | some id => exact Or.inl rfl
      | none =>
        cases hid : traceIdOf? l with
        | none => exact Or.inr rfl
        | some id => exact absurd hid (hother id htrace)
    split
    · rename_i hnone hid
      exact .spanId htrace hnone hid
    · rename_i hother
      refine .label htrace ?_
      cases hspan : e.spanId with
      | some id => exact Or.inl rfl
      | none =>
        cases hid : spanIdOf? l with
        | none => exact Or.inr rfl
        | some id => exact absurd hid (hother id hspan)

/-- **Taking in labels lifts the first id of each kind**, and appends all other labels. -/
theorem foldl_absorb (e : Exemplar) (labels : List Label) :
    labels.foldl absorb e = { e with
      labels := e.labels ++ withoutFirst e.spanId spanIdLabel (withoutFirst e.traceId traceIdLabel labels)
      traceId := e.traceId.or (labels.findSome? (idOf? traceIdLabel 16))
      spanId := e.spanId.or (labels.findSome? (idOf? spanIdLabel 8)) } := by
  induction labels generalizing e with
  | nil => simp [withoutFirst]
  | cons l labels ih =>
    rw [List.foldl_cons, ih]
    have habsorbs := absorbs_absorb e l
    generalize e.absorb l = after at habsorbs
    cases habsorbs with
    | traceId hnone hid =>
      have hspan : idOf? spanIdLabel 8 l = none := spanIdOf?_of_traceIdOf? hid
      have hfirst : idOf? traceIdLabel 16 l = _ := hid
      rw [hnone, withoutFirst_cons_of_id hid, or_findSome?_cons (Or.inr hspan), List.findSome?_cons, hfirst]
      rfl
    | spanId htrace hnone hid =>
      have hfirst : idOf? spanIdLabel 8 l = _ := hid
      rw [hnone, withoutFirst_cons htrace, withoutFirst_cons_of_id hid, or_findSome?_cons htrace, List.findSome?_cons,
        hfirst]
      rfl
    | label htrace hspan =>
      rw [withoutFirst_cons htrace, withoutFirst_cons hspan, or_findSome?_cons htrace, or_findSome?_cons hspan,
        List.append_assoc]
      rfl

/-! ## What is kept -/

/-- The labels of an attached exemplar that the sample does not carry. -/
def foreign (sampleLabels : List Label) (attached : AttachedExemplar) : List Label :=
  attached.labels.filter fun l => l.name ∉ sampleLabels.map Label.name

/-- What an exemplar keeps of the attached one, beside a sample with these labels. -/
structure Keeps (sampleLabels : List Label) (attached : AttachedExemplar) (e : Exemplar) : Prop where
  value : e.value = attached.value
  timestamp : e.timestamp = attached.timestamp
  traceId : IsFirstId traceIdLabel 16 (foreign sampleLabels attached) e.traceId
  spanId : IsFirstId spanIdLabel 8 (foreign sampleLabels attached) e.spanId
  /-- Only the labels that these two ids come from are taken out; all others stay, in their order. -/
  labels : e.labels =
    ((foreign sampleLabels attached).eraseP (holdsId traceIdLabel 16)).eraseP (holdsId spanIdLabel 8)

variable {sampleLabels : List Label} {attached : AttachedExemplar} {e : Exemplar}

theorem remaining_eq_foreign : remaining sampleLabels attached = foreign sampleLabels attached := by
  refine List.filter_congr fun l _ => ?_
  rw [Bool.eq_iff_iff]
  simp

theorem ofAttached_eq : ofAttached sampleLabels attached =
    ⟨attached.value, attached.timestamp,
      ((foreign sampleLabels attached).eraseP (holdsId traceIdLabel 16)).eraseP (holdsId spanIdLabel 8),
      (foreign sampleLabels attached).findSome? (idOf? traceIdLabel 16),
      (foreign sampleLabels attached).findSome? (idOf? spanIdLabel 8)⟩ := by
  rw [ofAttached, remaining_eq_foreign, foldl_absorb]
  simp [withoutFirst]

theorem keeps_iff : Keeps sampleLabels attached e ↔ e = ofAttached sampleLabels attached := by
  rw [ofAttached_eq]
  constructor
  · intro h
    have htrace := isFirstId_iff.1 h.traceId
    have hspan := isFirstId_iff.1 h.spanId
    rw [← htrace, ← hspan, ← h.labels, ← h.value, ← h.timestamp]
  · rintro rfl
    exact ⟨rfl, rfl, isFirstId_iff.2 rfl, isFirstId_iff.2 rfl, rfl⟩

end Exemplar

namespace Family

theorem exemplarOf?_eq_some_iff {f : Family} {x : Sample} {e : Exemplar} : f.exemplarOf? x = some e ↔
    (f.settings.exemplars = true ∧ f.shape ≠ .summary) ∧
      ∃ attached, x.exemplar = some attached ∧ Exemplar.ofAttached x.labels attached = e := by
  unfold exemplarOf?
  split <;> simp [*]

theorem isSome_exemplarOf? (f : Family) (x : Sample) :
    (f.exemplarOf? x).isSome = (f.settings.exemplars && f.shape != .summary && x.exemplar.isSome) := by
  unfold exemplarOf?
  split <;> simp_all [bne_iff_ne]

variable (name : String) (store : MetadataStore) (settings : AssemblySettings) (xs : List Sample)

/-- **An exemplar keeps every label that it should.** What is kept of an attached exemplar is one exemplar only: its
value and time, the first trace id and the first span id among the labels that the sample does not carry, and all
other of these labels in their order, a second id and a text that is none included. The exemplars of a series are
what is kept of the attached ones of its samples, as far as the family records them. -/
theorem exemplars_keep_labels :
    (∀ sampleLabels attached e, Exemplar.Keeps sampleLabels attached e ↔ e = .ofAttached sampleLabels attached) ∧
    let f := declared name store settings
    ∀ s ∈ (f.extend xs).series,
      let history := (f.accepted xs).filter fun x => f.keyOf x = s.key
      List.Forall₂ (fun x e => ∃ attached, x.exemplar = some attached ∧ e.Keeps x.labels attached)
        (history.filter fun x => settings.exemplars && f.shape != .summary && x.exemplar.isSome) s.exemplars := by
  refine ⟨fun _ _ _ => Exemplar.keeps_iff, ?_⟩
  intro f s hs history
  have hhistory : history = (xs.filter f.accepts).filter fun x => f.keyOf x = s.key := by
    rw [← accepted_eq (keyed_declared name store settings)]
  rw [series_extend_declared] at hs
  have hrecorded : (history.filter fun x => settings.exemplars && f.shape != .summary && x.exemplar.isSome) =
      history.filter fun x => (f.exemplarOf? x).isSome := List.filter_congr fun x _ => (isSome_exemplarOf? f x).symm
  rw [hrecorded, hhistory, (tells_of_mem hs).exemplars]
  refine (forall₂_filterMap f.exemplarOf? _).imp fun x e he => ?_
  obtain ⟨-, attached, hattached, rfl⟩ := exemplarOf?_eq_some_iff.1 he
  exact ⟨attached, hattached, Exemplar.keeps_iff.2 rfl⟩

/-- An id of odd length, one with a letter that is no digit and a second good one stay labels; one that the sample
carries goes altogether. -/
theorem exemplar_of_traced_request :
    let id := "0AF7651916cd43dd8448eb211c80319c"
    let attached : AttachedExemplar := ⟨.inf, 7, [⟨"trace_id", "0af"⟩, ⟨"zone", "b"⟩, ⟨"span_id", "00f067aa0ba902bx"⟩,
      ⟨"trace_id", id⟩, ⟨"span_id", "00f067aa0ba902b7"⟩, ⟨"trace_id", id⟩, ⟨"user", "é"⟩]⟩
    let x : Sample := ⟨"requests", [⟨"zone", "a"⟩], 7, .zero, some attached⟩
    let f := declared "requests" (fun _ => some ⟨.counter, "", "1"⟩) .default
    ∃ s ∈ (f.extend [x]).series, ∃ e, s.exemplars = [e] ∧ Exemplar.Keeps x.labels attached e ∧
      e.traceId.map (fun id => Text.Hex.encode id.toList) = some "0af7651916cd43dd8448eb211c80319c".toList ∧
      e.labels = [⟨"trace_id", "0af"⟩, ⟨"span_id", "00f067aa0ba902bx"⟩, ⟨"trace_id", id⟩, ⟨"user", "é"⟩] := by
  intro id attached x f
  obtain ⟨s, hs, hkey⟩ : ∃ s ∈ (f.extend [x]).series, f.keyOf x = s.key := by decide +kernel
  have hexemplars : List.Forall₂
      (fun x e => ∃ attached, x.exemplar = some attached ∧ Exemplar.Keeps x.labels attached e) [x] s.exemplars := by
    have hall := (exemplars_keep_labels "requests" (fun _ => some ⟨.counter, "", "1"⟩) .default [x]).2 s hs
    have haccepted : f.accepted [x] = [x] := by decide +kernel
    have hhistory : (f.accepted [x]).filter (fun x => f.keyOf x = s.key) = [x] := by
      simp [haccepted, hkey]
    rw [hhistory] at hall
    exact hall
  obtain ⟨e, rest, ⟨_, hattached, hkeeps⟩, hrest, hexemplars⟩ := List.forall₂_cons_left_iff.1 hexemplars
  cases hattached
  cases hrest
  refine ⟨s, hs, e, hexemplars, hkeeps, ?_, ?_⟩
  · exact hkeeps.traceId.trans (by decide +kernel)
  · exact hkeeps.labels.trans (by decide +kernel)

end Family

end Telemetry
