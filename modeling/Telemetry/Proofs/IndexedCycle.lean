import Telemetry.Proofs.IndexedFamily

/-!
# Cycles with an index

A cycle may keep the place of every family under its name. The place of a new family is written down before the
family is there, and still each sample goes where `Cycle.add` sends it (`IndexedCycle.run_add`). Main statement: no
run of a family or a cycle looks out of range, and what it leaves is indexed (`IndexedCycle.runs_stay_in_range`).
-/

namespace Telemetry

/-- How an attempt ends that gives this answer and leaves this state. -/
def answering {σ : Type} (state : σ) : Except Rejection Unit → EStateM.Result Halt σ Unit
  | .ok () => .ok () state
  | .error reason => .error (.rejected reason) state

theorem leftBy_answering {σ : Type} (state : σ) (answer : Except Rejection Unit) :
    leftBy (answering state answer) = .ok state := by
  cases answer <;> rfl

/-- A cycle that keeps the place of every family under its name. -/
structure IndexedCycle where
  target : Target
  metadata : MetadataStore
  settings : AssemblySettings
  families : List IndexedFamily
  places : Std.HashMap String Nat
  stats : Stats
  log : List Event

namespace IndexedCycle

def start (target : Target) (metadata : MetadataStore) (settings : AssemblySettings) : IndexedCycle :=
  ⟨target, metadata, settings, [], ∅, ⟨0, 0, 0⟩, []⟩

def toCycle (c : IndexedCycle) : Cycle :=
  ⟨c.target, c.metadata, c.settings, c.families.map IndexedFamily.toFamily, c.stats, c.log⟩

def openPlace (name : String) : EStateM Halt IndexedCycle Nat := do
  let c ← get
  match c.places[name]? with
  | some place => return place
  | none =>
    let family := IndexedFamily.declared name c.metadata c.settings
    modify fun c => { c with log := c.log ++ [.newFamily family.name family.type] }
    modify fun c => { c with places := c.places.insert name c.families.length }
    modify fun c => { c with families := c.families ++ [family] }
    return (← get).families.length - 1

def deliverAt (x : Sample) (place : Nat) : EStateM Halt IndexedCycle Unit := do
  let c ← get
  let family ← ofExcept ((valueAt c.families place).mapError Halt.outOfRange)
  match (IndexedFamily.ingest x).run family with
  | .ok () fed =>
    set { c with families := c.families.set place fed, stats.accepted := c.stats.accepted + 1 }
  | .error (.rejected reason) left =>
    set { c with
      families := c.families.set place left
      stats.rejected := c.stats.rejected + 1
      log := c.log ++ [Event.rejectedSample c.target x.name reason] }
    throw (.rejected reason)
  | .error (.outOfRange look) _ => throw (.outOfRange look)

def add (x : Sample) : EStateM Halt IndexedCycle Unit := do
  let c ← get
  if !c.settings.keepStale && x.value.isStale then
    set { c with stats.droppedStale := c.stats.droppedStale + 1 }
  else
    let place ← openPlace (Cycle.familyName c.metadata x.name)
    deliverAt x place

def extend (c : IndexedCycle) (xs : List Sample) : Except OutOfRange IndexedCycle :=
  xs.foldlM (fun c x => leftBy ((add x).run c)) c

def family? (c : IndexedCycle) (name : String) : Except OutOfRange (Option IndexedFamily) :=
  valueOf? c.families c.places name

/-- Whether an indexed cycle holds what a cycle does, with the place of every family under its name. -/
structure Shows (c : IndexedCycle) (d : Cycle) : Prop where
  cycle : c.toCycle = d
  index : Indexes (fun g => g.name) c.families c.places
  reached : ∀ g ∈ c.families, g.Reached c.metadata c.settings

theorem shows_start (target : Target) (store : MetadataStore) (settings : AssemblySettings) :
    (start target store settings).Shows (.start target store settings) :=
  ⟨rfl, .empty, by rintro g ⟨⟩⟩

theorem family?_toCycle (c : IndexedCycle) (name : String) :
    c.toCycle.family? name = (c.families.find? fun g => g.name == name).map IndexedFamily.toFamily := List.find?_map

/-! ### One sample -/

section Step

variable {c : IndexedCycle} (h : c.Shows c.toCycle)

include h

theorem run_openPlace (name : String) :
    ∃ c' place g, (openPlace name).run c = .ok place c' ∧ c'.Shows (c.toCycle.openFamily name).1 ∧
      c'.families[place]? = some g ∧ c'.places[name]? = some place ∧ g.toFamily = (c.toCycle.openFamily name).2 := by
  unfold openPlace Cycle.openFamily
  rw [family?_toCycle]
  simp only [EStateM.run_bind, EStateM.run_get]
  cases hplace : c.places[name]? with
  | some place =>
    obtain ⟨g, hg, -, -⟩ := h.index.exists_valueAt hplace
    rw [h.index.find?_of_place hplace hg]
    exact ⟨c, place, g, rfl, h, hg, hplace, rfl⟩
  | none =>
    rw [h.index.find?_of_none hplace]
    let g := IndexedFamily.declared name c.metadata c.settings
    let c' : IndexedCycle := { c with
      families := c.families ++ [g]
      places := c.places.insert name c.families.length
      log := c.log ++ [.newFamily g.name g.type] }
    have hlast : (c.families ++ [g]).length - 1 = c.families.length := by simp
    refine ⟨c', c.families.length, g, ?_, ⟨?_, h.index.push hplace, fun k hk => ?_⟩, ?_, ?_, rfl⟩
    · exact congrArg (EStateM.Result.ok · c') hlast
    · simp only [c', toCycle, List.map_append]
      rfl
    · rcases List.mem_append.1 hk with hk | hk
      · exact h.reached k hk
      · rw [List.mem_singleton.1 hk]
        exact .declared name c.metadata c.settings
    · exact List.getElem?_concat_length
    · exact Std.HashMap.getElem?_insert_self

theorem map_toFamily_set {place : Nat} {g g' : IndexedFamily} (hg : c.families[place]? = some g)
    (hplace : c.places[g.name]? = some place) (hname : g'.name = g.name) :
    (c.families.set place g').map IndexedFamily.toFamily =
      (c.families.map IndexedFamily.toFamily).map fun f => if f.name = g'.name then g'.toFamily else f := by
  have hindex : Indexes Family.name (c.families.map IndexedFamily.toFamily) c.places := indexes_map.2 h.index
  have hget : (c.families.map IndexedFamily.toFamily)[place]? = some g.toFamily := by
    rw [List.getElem?_map, hg, Option.map_some]
  rw [List.map_set, hname, hindex.map_eq_set hplace hget fun _ => g'.toFamily]

theorem run_deliverAt {place : Nat} {g : IndexedFamily} (hg : c.families[place]? = some g)
    (hplace : c.places[g.name]? = some place) (x : Sample) :
    ∃ c', (deliverAt x place).run c = answering c' (c.toCycle.deliver g.toFamily x).2 ∧
      c'.Shows (c.toCycle.deliver g.toFamily x).1 := by
  have hat : valueAt c.families place = .ok g := by rw [valueAt, hg]
  have hreached := h.reached g (List.mem_of_getElem? hg)
  obtain ⟨hshows, hsound⟩ := hreached.shows
  have hingested := IndexedFamily.run_ingest hshows hsound.shape_eq x
  unfold deliverAt Cycle.deliver
  simp only [EStateM.run_bind, EStateM.run_get, hat, Except.mapError, ofExcept, EStateM.run_pure]
  cases hingest : g.toFamily.ingest x with
  | error reason =>
    rw [hingest] at hingested
    have hself : c.families.set place g = c.families := by
      obtain ⟨hlt, rfl⟩ := List.getElem?_eq_some_iff.1 hg
      exact List.set_getElem_self hlt
    simp only [hingested, hself]
    exact ⟨_, rfl, rfl, h.index, h.reached⟩
  | ok fed =>
    rw [hingest] at hingested
    obtain ⟨g', hrun, hshows'⟩ := hingested
    obtain rfl : g'.toFamily = fed := hshows'.family
    have hname : g'.name = g.name := (g.toFamily.ingest_fixed x hingest).1
    simp only [hrun]
    refine ⟨_, rfl, ?_, h.index.set hg hname, fun k hk => ?_⟩
    · simp only [toCycle, map_toFamily_set h hg hplace hname, Cycle.replaceFamily]
    · rcases List.mem_or_eq_of_mem_set hk with hk | rfl
      · exact h.reached k hk
      · exact hreached.ingest hrun hname

/-- **Sending a sample to a place is sending it to its family**, with the same answer. -/
theorem run_add (x : Sample) :
    ∃ c', (add x).run c = answering c' (c.toCycle.add x).2 ∧ c'.Shows (c.toCycle.add x).1 := by
  have hsettings : c.toCycle.settings = c.settings := rfl
  have hmetadata : c.toCycle.metadata = c.metadata := rfl
  unfold add Cycle.add
  simp only [EStateM.run_bind, EStateM.run_get, hsettings, hmetadata]
  cases (!c.settings.keepStale && x.value.isStale) with
  | true => exact ⟨_, rfl, rfl, h.index, h.reached⟩
  | false =>
    obtain ⟨c', place, g, hrun, hopened, hg, hplace, hfamily⟩ := run_openPlace h (Cycle.familyName c.metadata x.name)
    have hname : g.name = Cycle.familyName c.metadata x.name :=
      (congrArg Family.name hfamily).trans (c.toCycle.openFamily_spec _).2.1
    obtain ⟨d, hdeliver, hshows⟩ := run_deliverAt (hopened.cycle.symm ▸ hopened) hg (hname ▸ hplace) x
    rw [hopened.cycle, hfamily] at hdeliver hshows
    simp only [Bool.false_eq_true, if_false, EStateM.run_bind, hrun]
    exact ⟨d, hdeliver, hshows⟩

end Step

/-! ### A run -/

variable (target : Target) (store : MetadataStore) (settings : AssemblySettings) (xs : List Sample)

theorem extend_start : ∃ c, (start target store settings).extend xs = .ok c ∧
    c.Shows ((Cycle.start target store settings).extend xs) := by
  refine exists_foldlM (R := fun xs (c : IndexedCycle) => c.Shows ((Cycle.start target store settings).extend xs))
    (shows_start target store settings) (fun xs c x hshows => ?_) xs
  obtain ⟨c', hrun, hshows'⟩ := run_add (hshows.cycle.symm ▸ hshows) x
  refine ⟨c', by rw [hrun, leftBy_answering], ?_⟩
  rwa [hshows.cycle, ← Cycle.extend_append] at hshows'

/-! ### What runs leave -/

/-- **No store looks out of range.** A run of a family by places goes through and leaves a sound family, the one
that a run without places leaves; looking up the key of some labels finds a series exactly if a sample with the same
identifying labels was accepted. A run of a cycle goes through as well: each family is in the one place under its
own name, was left by such a run, and is found where the cycle without places finds it. -/
theorem runs_stay_in_range (store : MetadataStore) (settings : AssemblySettings) :
    (∀ name xs,
      let f := Family.declared name store settings
      ∃ g, (IndexedFamily.declared name store settings).extend xs = .ok g ∧
        g.toFamily = f.extend xs ∧ g.Sound ∧ (∀ key, g.series? key = .ok (g.find? key)) ∧
        ∀ labels key, g.keyFor labels = .ok key → ((g.find? key).isSome ↔
          ∃ x ∈ f.accepted xs, (f.identifying x).Perm
            (labels.filter (Identity.isIdentifying settings.nameLabel f.type.partLabels)))) ∧
    ∀ target xs, ∃ c, (start target store settings).extend xs = .ok c ∧
      c.toCycle = (Cycle.start target store settings).extend xs ∧
      Indexes (fun g => g.name) c.families c.places ∧
      (∀ g ∈ c.families, g.Reached store settings ∧ g.Sound) ∧
      ∀ name, ∃ found, c.family? name = .ok found ∧ found.map IndexedFamily.toFamily = c.toCycle.family? name := by
  constructor
  · intro name xs f
    obtain ⟨g, hrun, hshows⟩ := IndexedFamily.extend_declared name store settings xs
    have hfamily : g.toFamily = f.extend xs := hshows.family
    have hsound : g.toFamily.Sound := hfamily ▸ Family.sound_extend_declared name store settings xs
    have hself : g.Shows g.toFamily := hfamily ▸ hshows
    exact ⟨g, hrun, hfamily, hself.sound hsound, hself.series?_eq, fun _ _ hkey => hshows.isSome_find?_iff hkey⟩
  · intro target xs
    obtain ⟨c, hrun, hshows⟩ := extend_start target store settings xs
    obtain ⟨hstore, hsettings⟩ := Cycle.extend_fixed target store settings xs
    have hmetadata : c.metadata = store := (congrArg Cycle.metadata hshows.cycle).trans hstore
    have hset : c.settings = settings := (congrArg Cycle.settings hshows.cycle).trans hsettings
    refine ⟨c, hrun, hshows.cycle, hshows.index, fun g hg => ?_, fun name => ?_⟩
    · have hreached := hshows.reached g hg
      rw [hmetadata, hset] at hreached
      exact ⟨hreached, hreached.shows.1.sound hreached.shows.2⟩
    · exact ⟨_, hshows.index.valueOf?_eq name, (family?_toCycle c name).symm⟩

/-- Samples with the same labels in another order share a place, and a sample that is rejected leaves none. -/
theorem places_of_rpc_durations :
    let store : MetadataStore := fun name => if name = "rpc" then some ⟨.gaugeHistogram, "", "s"⟩ else none
    let xs : List Sample :=
      [⟨"rpc_bucket", [⟨"zone", "a"⟩, ⟨"le", "0.5"⟩, ⟨"host", "b"⟩], 7, ⟨0x3ff0000000000000⟩, none⟩,
        ⟨"rpc_bucket", [⟨"zone", "c"⟩], 7, ⟨0x3ff0000000000000⟩, none⟩,
        ⟨"rpc_gsum", [⟨"host", "b"⟩, ⟨"zone", "a"⟩], 7, .staleMarker, none⟩,
        ⟨"rpc_created", [⟨"host", "b"⟩], 7, .inf, none⟩]
    (∃ g, (IndexedFamily.declared "rpc" store .default).extend xs = .ok g ∧ g.Sound ∧
      (∃ key s, g.keyFor [⟨"host", "b"⟩, ⟨"le", "1"⟩, ⟨"zone", "a"⟩] = .ok key ∧ g.series? key = .ok (some s)) ∧
      ∃ key, g.keyFor [⟨"zone", "c"⟩] = .ok key ∧ g.series? key = .ok none) ∧
    ∃ c, (start ⟨"node", "host"⟩ store .default).extend xs = .ok c ∧
      Indexes (fun g => g.name) c.families c.places := by
  intro store xs
  obtain ⟨hfamily, hcycle⟩ := runs_stay_in_range store .default
  obtain ⟨g, hrun, hmodel, hsound, hlookup, hfound⟩ := hfamily "rpc" xs
  obtain ⟨c, hcrun, -, hindex, -⟩ := hcycle ⟨"node", "host"⟩ xs
  refine ⟨⟨g, hrun, hsound, ?_, ?_⟩, c, hcrun, hindex⟩
  · have hkey : g.keyFor [⟨"host", "b"⟩, ⟨"le", "1"⟩, ⟨"zone", "a"⟩] =
        .ok (.ofSorted [⟨"host", "b"⟩, ⟨"zone", "a"⟩]) := by
      rw [IndexedFamily.keyFor, hmodel]
      decide +kernel
    obtain ⟨s, hs⟩ := Option.isSome_iff_exists.1 ((hfound _ _ hkey).2 (by decide +kernel))
    exact ⟨_, s, hkey, hs ▸ hlookup _⟩
  · have hkey : g.keyFor [⟨"zone", "c"⟩] = .ok (.ofSorted [⟨"zone", "c"⟩]) := by
      rw [IndexedFamily.keyFor, hmodel]
      decide +kernel
    have hnone : ¬ (g.find? (.ofSorted [⟨"zone", "c"⟩])).isSome := fun hsome =>
      absurd ((hfound _ _ hkey).1 hsome) (by decide +kernel)
    refine ⟨_, hkey, ?_⟩
    rw [hlookup, Option.not_isSome_iff_eq_none.1 hnone]

end IndexedCycle

end Telemetry
