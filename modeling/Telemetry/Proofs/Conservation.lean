import Telemetry.Proofs.Acceptance
import Telemetry.Proofs.Records

/-!
# What is counted and reported

Nothing that a cycle receives or builds up goes missing without a report. While samples come in, every family that
is opened and every sample that is rejected leaves an event (`Cycle.Balanced`); when the cycle is finished, every
series becomes a point or an event of its family (`Family.length_series`), and every family a record or an event
(`Family.record_or_event`). `Cycle.all_accounted_for` puts the books of a whole run together.
-/

namespace Telemetry

/-! ## Events -/

namespace Event

def carries (level : EventLevel) (message : String) (e : Event) : Bool := e.level == level && e.message == message

/-- Whether an event names this family. -/
def isAbout (family : String) (e : Event) : Bool := e.fields.contains ("family", family)

def arrivalMessages : List String := ["New metric family", "Rejected sample"]

def recordMessages : List String := ["Skipping empty group", "Dropping group", "Family produced no points"]

def finalMessages : List String := ["Scrape cycle finished"]

theorem not_mem_of_arrival : ∀ message ∈ arrivalMessages, message ∉ recordMessages ∧ message ∉ finalMessages := by
  decide

theorem not_mem_of_record : ∀ message ∈ recordMessages, message ∉ arrivalMessages ∧ message ∉ finalMessages := by
  decide

theorem countP_eq_zero {es : List Event} {messages : List String} (h : ∀ e ∈ es, e.message ∈ messages)
    {p : Event → Bool} {message : String} (hp : ∀ e, p e = true → e.message = message) (hmessage : message ∉ messages) :
    es.countP p = 0 := by
  refine List.countP_eq_zero.2 fun e he hpe => hmessage ?_
  rw [← hp e hpe]
  exact h e he

theorem message_of_carries {level : EventLevel} {message : String} (e : Event) (h : e.carries level message = true) :
    e.message = message := by
  simp only [carries, Bool.and_eq_true, beq_iff_eq] at h
  exact h.2

end Event

/-! ## The series of a family -/

namespace Family

/-- A series that makes no point is reported as dropped, or as skipped if it holds nothing. -/
theorem length_eq_points_add_failures {P : Type} (f : Family)
    (build : Series → LabelOrder → Bool → Except PointFailure P) (ss : List Series) :
    ss.length = (ss.filterMap fun s => (build s f.labelOrder f.isCumulative).toOption).length +
      (ss.filterMap (f.failureEvent? build)).countP (Event.carries .warn "Dropping group") +
      (ss.filterMap (f.failureEvent? build)).countP (Event.carries .debug "Skipping empty group") := by
  induction ss with
  | nil => rfl
  | cons s ss ih =>
    rw [List.length_cons, ih, List.filterMap_cons, List.filterMap_cons, failureEvent?]
    cases build s f.labelOrder f.isCumulative with
    | ok p =>
      simp only [Except.toOption, List.length_cons]
      omega
    | error failure =>
      cases failure with
      | emptySeries =>
        simp [Except.toOption, Event.carries, Event.level, Event.message]
        omega
      | _ =>
        simp [Except.toOption, Event.carries, Event.level, Event.message]
        omega

def failures (f : Family) : List Event :=
  match f.shape with
  | .scalar => f.series.filterMap (f.failureEvent? Series.scalarPoint)
  | .histogram => f.series.filterMap (f.failureEvent? Series.histogramPoint)
  | .summary => f.series.filterMap (f.failureEvent? Series.summaryPoint)

theorem recordEvents_eq (f : Family) :
    f.recordEvents = f.failures ++ if f.points.isEmpty then [.noPoints f.name f.series.length] else [] := rfl

theorem mem_failures {f : Family} {e : Event} (h : e ∈ f.failures) : ∃ labels,
    e = .skippedSeries f.name labels ∨ ∃ reason, e = .droppedSeries f.name labels reason := by
  have hone : ∀ {P : Type} {build : Series → LabelOrder → Bool → Except PointFailure P},
      e ∈ f.series.filterMap (f.failureEvent? build) → ∃ labels,
        e = .skippedSeries f.name labels ∨ ∃ reason, e = .droppedSeries f.name labels reason := by
    intro P build h
    obtain ⟨s, -, hs⟩ := List.mem_filterMap.1 h
    unfold failureEvent? at hs
    split at hs
    · cases hs
    · exact ⟨_, Or.inl (Option.some.inj hs).symm⟩
    · exact ⟨_, Or.inr ⟨_, (Option.some.inj hs).symm⟩⟩
  unfold failures at h
  split at h <;> exact hone h

theorem message_of_mem_failures {f : Family} {e : Event} (h : e ∈ f.failures) :
    e.message ∈ ["Skipping empty group", "Dropping group"] := by
  obtain ⟨labels, rfl | ⟨reason, rfl⟩⟩ := mem_failures h <;> simp [Event.message]

theorem message_of_mem_recordEvents {f : Family} {e : Event} (h : e ∈ f.recordEvents) :
    e.message ∈ Event.recordMessages := by
  rw [recordEvents_eq] at h
  rcases List.mem_append.1 h with h | h
  · exact List.mem_append_left ["Family produced no points"] (message_of_mem_failures h)
  · split at h
    · rw [List.mem_singleton.1 h]
      simp [Event.message, Event.recordMessages]
    · cases h

/-- Every series becomes a point, or the record reports it as dropped or as skipped. -/
theorem length_series (f : Family) : f.series.length = f.points.size +
    f.recordEvents.countP (Event.carries .warn "Dropping group") +
    f.recordEvents.countP (Event.carries .debug "Skipping empty group") := by
  have hlast : ∀ level message, message ≠ "Family produced no points" →
      f.recordEvents.countP (Event.carries level message) =
      f.failures.countP (Event.carries level message) := by
    intro level message hmessage
    rw [recordEvents_eq, List.countP_append]
    split <;> simp [Event.carries, Event.message, hmessage.symm]
  rw [hlast _ _ (by decide), hlast _ _ (by decide), failures, points]
  cases f.shape <;> exact f.length_eq_points_add_failures _ f.series

/-- Every family becomes a record, or reports that it has no points. -/
theorem record_or_event (f : Family) :
    f.record?.toList.length + f.recordEvents.countP (Event.carries .debug "Family produced no points") = 1 := by
  have hnone : f.failures.countP (Event.carries .debug "Family produced no points") = 0 :=
    Event.countP_eq_zero (fun _ he => message_of_mem_failures he) Event.message_of_carries (by decide)
  rw [recordEvents_eq, List.countP_append, hnone, record?]
  cases f.points.isEmpty <;> rfl

theorem isAbout_of_mem {f : Family} {e : Event} (h : e ∈ f.recordEvents) (name : String) :
    e.isAbout name = (name == f.name) := by
  have hfields : ∃ rest, e.fields = ("family", f.name) :: rest ∧ ∀ p ∈ rest, p.1 ≠ "family" := by
    rw [recordEvents_eq] at h
    rcases List.mem_append.1 h with h | h
    · obtain ⟨labels, rfl | ⟨reason, rfl⟩⟩ := mem_failures h
      · exact ⟨_, rfl, by simp⟩
      · exact ⟨_, rfl, by simp⟩
    · split at h
      · rw [List.mem_singleton.1 h]
        exact ⟨_, rfl, by simp⟩
      · cases h
  obtain ⟨rest, hfields, hrest⟩ := hfields
  have hnot : ("family", name) ∉ rest := fun hmem => hrest _ hmem rfl
  rw [Event.isAbout, hfields, List.contains_cons]
  simp [hnot]

end Family

/-! ## Cycles -/

namespace Cycle

def answers (c : Cycle) : List Sample → List (Except Rejection Unit)
  | [] => []
  | x :: xs => (c.add x).2 :: (c.add x).1.answers xs

def pointsOf (c : Cycle) (name : String) : Nat :=
  ((c.records.filter fun r => r.name == name).flatMap fun r => r.points.headers).length

/-- What holds of the books of a cycle while samples come in. -/
structure Balanced (c : Cycle) : Prop where
  families : c.families.length = c.log.countP (Event.carries .debug "New metric family")
  rejected : c.stats.rejected = c.log.countP (Event.carries .debug "Rejected sample")
  arrivals : ∀ e ∈ c.log, e.message ∈ Event.arrivalMessages

theorem balanced_start (target : Target) (store : MetadataStore) (settings : AssemblySettings) :
    (start target store settings).Balanced :=
  ⟨rfl, rfl, fun _ he => absurd he List.not_mem_nil⟩

theorem Balanced.openFamily {c : Cycle} (h : c.Balanced) (name : String) : (c.openFamily name).1.Balanced := by
  unfold Cycle.openFamily
  split
  · exact h
  · refine ⟨?_, ?_, fun e he => ?_⟩
    · simp [h.families, Event.carries, Event.level, Event.message]
    · simp [h.rejected, Event.carries, Event.level, Event.message]
    · rcases List.mem_append.1 he with he | he
      · exact h.arrivals e he
      · rw [List.mem_singleton.1 he]
        simp [Event.message, Event.arrivalMessages]

theorem Balanced.deliver {c : Cycle} (h : c.Balanced) (f : Family) (x : Sample) : (c.deliver f x).1.Balanced := by
  unfold Cycle.deliver
  split
  · refine ⟨?_, h.rejected, h.arrivals⟩
    change (c.families.map _).length = _
    rw [List.length_map, h.families]
    rfl
  · refine ⟨?_, ?_, fun e he => ?_⟩
    · simp [h.families, Event.carries, Event.level, Event.message]
    · simp [h.rejected, Event.carries, Event.level, Event.message]
    · rcases List.mem_append.1 he with he | he
      · exact h.arrivals e he
      · rw [List.mem_singleton.1 he]
        simp [Event.message, Event.arrivalMessages]

theorem Balanced.add {c : Cycle} (h : c.Balanced) (x : Sample) : (c.add x).1.Balanced := by
  rw [add_eq]
  split
  · exact (h.openFamily _).deliver _ x
  · exact ⟨h.families, h.rejected, h.arrivals⟩

section Run

variable (target : Target) (store : MetadataStore) (settings : AssemblySettings) (xs : List Sample)

theorem balanced_extend : ((start target store settings).extend xs).Balanced := by
  induction xs using List.reverseRecOn with
  | nil => exact balanced_start target store settings
  | append_singleton xs x ih =>
    rw [extend_append]
    exact ih.add x

theorem answers_append (c : Cycle) (x : Sample) :
    c.answers (xs ++ [x]) = c.answers xs ++ [((c.extend xs).add x).2] := by
  induction xs generalizing c with
  | nil => rfl
  | cons y ys ih =>
    rw [List.cons_append, answers, answers, ih]
    rfl

theorem stats_add_balance (c : Cycle) (x : Sample) :
    (c.add x).1.stats.accepted + (c.add x).1.stats.rejected + (c.add x).1.stats.droppedStale =
      c.stats.accepted + c.stats.rejected + c.stats.droppedStale + 1 ∧
    (c.add x).1.stats.rejected = c.stats.rejected + if (c.add x).2.isOk then 0 else 1 := by
  have hdropped : reaches c.settings x = false → (c.add x).2.isOk = true := fun h => by
    rw [answer_add, h]
    rfl
  rw [stats_add]
  cases hreach : reaches c.settings x with
  | false =>
    rw [hdropped hreach]
    exact ⟨rfl, rfl⟩
  | true =>
    cases (c.add x).2.isOk with
    | true => exact ⟨by simp; omega, rfl⟩
    | false => exact ⟨by simp; omega, rfl⟩

theorem stats_balance :
    ((start target store settings).extend xs).stats.accepted +
      ((start target store settings).extend xs).stats.rejected +
      ((start target store settings).extend xs).stats.droppedStale = xs.length ∧
    ((start target store settings).extend xs).stats.rejected =
      ((start target store settings).answers xs).countP fun answer => !answer.isOk := by
  induction xs using List.reverseRecOn with
  | nil => exact ⟨rfl, rfl⟩
  | append_singleton xs x ih =>
    obtain ⟨htotal, hrejected⟩ := ih
    obtain ⟨hstep, hanswer⟩ := stats_add_balance ((start target store settings).extend xs) x
    rw [extend_append, answers_append]
    refine ⟨?_, ?_⟩
    · rw [hstep, htotal, List.length_append, List.length_singleton]
    · rw [hanswer, hrejected, List.countP_append, List.countP_singleton]
      cases (((start target store settings).extend xs).add x).2.isOk <;> rfl

end Run

/-! ### Finishing -/

theorem exists_alone {families : List Family} (h : (families.map Family.name).Nodup) {f : Family} (hf : f ∈ families) :
    ∃ before after, families = before ++ f :: after ∧ ∀ g ∈ before ++ after, g.name ≠ f.name := by
  obtain ⟨before, after, rfl⟩ := List.append_of_mem hf
  refine ⟨before, after, rfl, fun g hg => ?_⟩
  rw [List.map_append, List.map_cons, List.nodup_middle, List.nodup_cons, ← List.map_append] at h
  intro hname
  exact h.1 (hname ▸ List.mem_map_of_mem hg)

theorem message_of_mem_flatMap {families : List Family} {e : Event} (h : e ∈ families.flatMap Family.recordEvents) :
    e.message ∈ Event.recordMessages := by
  obtain ⟨f, -, hf⟩ := List.mem_flatMap.1 h
  exact Family.message_of_mem_recordEvents hf

theorem message_of_finished {target : Target} {families records accepted rejected : Nat} :
    ∀ e ∈ [Event.cycleFinished target families records accepted rejected], e.message ∈ Event.finalMessages := by
  simp [Event.message, Event.finalMessages]

section FinalLog

variable {c : Cycle} (h : c.Balanced) {p : Event → Bool} {message : String}
  (hp : ∀ e, p e = true → e.message = message)

include hp

/-- What is reported while samples come in stands in the log before the cycle is finished. -/
theorem countP_arrival (hmessage : message ∈ Event.arrivalMessages) : c.finalLog.countP p = c.log.countP p := by
  obtain ⟨hrecord, hfinal⟩ := Event.not_mem_of_arrival message hmessage
  rw [finalLog, List.countP_append, List.countP_append,
    Event.countP_eq_zero (fun _ he => message_of_mem_flatMap he) hp hrecord,
    Event.countP_eq_zero message_of_finished hp hfinal]
  rfl

include h in
/-- What is reported when records are made is what the families report. -/
theorem countP_records (hmessage : message ∈ Event.recordMessages) :
    c.finalLog.countP p = (c.families.flatMap Family.recordEvents).countP p := by
  obtain ⟨harrival, hfinal⟩ := Event.not_mem_of_record message hmessage
  rw [finalLog, List.countP_append, List.countP_append, Event.countP_eq_zero h.arrivals hp harrival,
    Event.countP_eq_zero message_of_finished hp hfinal, Nat.zero_add]
  rfl

end FinalLog

theorem countP_about {families : List Family} (h : (families.map Family.name).Nodup) {f : Family} (hf : f ∈ families)
    (p : Event → Bool) : (families.flatMap Family.recordEvents).countP (fun e => p e && e.isAbout f.name) =
      f.recordEvents.countP p := by
  obtain ⟨before, after, rfl, hothers⟩ := exists_alone h hf
  have hnone : ∀ gs : List Family, (∀ g ∈ gs, g.name ≠ f.name) →
      (gs.flatMap Family.recordEvents).countP (fun e => p e && e.isAbout f.name) = 0 := by
    intro gs hgs
    refine List.countP_eq_zero.2 fun e he => ?_
    obtain ⟨g, hg, heg⟩ := List.mem_flatMap.1 he
    simp [Family.isAbout_of_mem heg, (hgs g hg).symm]
  have hown : f.recordEvents.countP (fun e => p e && e.isAbout f.name) = f.recordEvents.countP p :=
    List.countP_congr fun e he => by simp [Family.isAbout_of_mem he]
  rw [List.flatMap_append, List.flatMap_cons, List.countP_append, List.countP_append, hown,
    hnone before fun g hg => hothers g (List.mem_append_left _ hg),
    hnone after fun g hg => hothers g (List.mem_append_right _ hg)]
  omega

theorem pointsOf_name {c : Cycle} (h : (c.families.map Family.name).Nodup) {f : Family} (hf : f ∈ c.families) :
    c.pointsOf f.name = f.points.size := by
  obtain ⟨before, after, hfamilies, hothers⟩ := exists_alone h hf
  have hnone : ∀ gs : List Family, (∀ g ∈ gs, g.name ≠ f.name) →
      (gs.filterMap Family.record?).filter (fun r => r.name == f.name) = [] := by
    intro gs hgs
    refine List.filter_eq_nil_iff.2 fun r hr => ?_
    obtain ⟨g, hg, hrecord⟩ := List.mem_filterMap.1 hr
    obtain ⟨-, rfl⟩ := Family.record?_eq_some_iff.1 hrecord
    simpa using hgs g hg
  rw [pointsOf, records, hfamilies, List.filterMap_append, List.filterMap_cons, List.filter_append,
    hnone before fun g hg => hothers g (List.mem_append_left _ hg), List.nil_append]
  cases hrecord : f.record? with
  | none =>
    rw [hnone after fun g hg => hothers g (List.mem_append_right _ hg)]
    cases hsize : f.points.size with
    | zero => rfl
    | succ n => simp [Family.record?, Points.isEmpty, hsize] at hrecord
  | some r =>
    obtain ⟨-, rfl⟩ := Family.record?_eq_some_iff.1 hrecord
    have hlength : f.points.headers.length = f.points.size := by cases f.points <;> exact List.length_map _
    rw [List.filter_cons_of_pos (by simp), hnone after fun g hg => hothers g (List.mem_append_right _ hg)]
    simpa using hlength

theorem length_families (families : List Family) : families.length = (families.filterMap Family.record?).length +
    (families.flatMap Family.recordEvents).countP (Event.carries .debug "Family produced no points") := by
  induction families with
  | nil => rfl
  | cons f rest ih =>
    have hf := f.record_or_event
    rw [List.length_cons, ih, List.filterMap_cons, List.flatMap_cons, List.countP_append]
    cases hrecord : f.record? with
    | none =>
      simp only [hrecord, Option.toList_none, List.length_nil] at hf ⊢
      omega
    | some r =>
      simp only [hrecord, Option.toList_some, List.length_cons] at hf ⊢
      omega

/-- **All is accounted for.** Every sample of a run is accepted, rejected or dropped, and counted so; the rejected
ones are those answered by an error, and those reported. When the run is finished, every series of a family has
become a point, or is reported as dropped or as skipped; and every family, of which each was reported when it was
opened, has become a record, or is reported to have no points. -/
theorem all_accounted_for (target : Target) (store : MetadataStore) (settings : AssemblySettings) (xs : List Sample) :
    let c := (start target store settings).extend xs
    c.stats.accepted + c.stats.rejected + c.stats.droppedStale = xs.length ∧
    c.stats.rejected = ((start target store settings).answers xs).countP (fun answer => !answer.isOk) ∧
    c.stats.rejected = c.finalLog.countP (Event.carries .debug "Rejected sample") ∧
    (∀ f ∈ c.families, f.series.length = c.pointsOf f.name +
      c.finalLog.countP (fun e => e.carries .warn "Dropping group" && e.isAbout f.name) +
      c.finalLog.countP (fun e => e.carries .debug "Skipping empty group" && e.isAbout f.name)) ∧
    c.families.length = c.finalLog.countP (Event.carries .debug "New metric family") ∧
    c.families.length = c.records.length + c.finalLog.countP (Event.carries .debug "Family produced no points") := by
  intro c
  have hbalanced : c.Balanced := balanced_extend target store settings xs
  have hnodup : (c.families.map Family.name).Nodup := nodup_families target store settings xs
  obtain ⟨htotal, hrejected⟩ := stats_balance target store settings xs
  refine ⟨htotal, hrejected, ?_, fun f hf => ?_, ?_, ?_⟩
  · rw [countP_arrival Event.message_of_carries (by decide)]
    exact hbalanced.rejected
  · have habout : ∀ level message, ∀ e : Event, (e.carries level message && e.isAbout f.name) = true →
        e.message = message := fun level message e he => Event.message_of_carries e (Bool.and_eq_true_iff.1 he).1
    rw [countP_records hbalanced (habout _ _) (by decide), countP_records hbalanced (habout _ _) (by decide),
      countP_about hnodup hf, countP_about hnodup hf, pointsOf_name hnodup hf]
    exact f.length_series
  · rw [countP_arrival Event.message_of_carries (by decide)]
    exact hbalanced.families
  · rw [countP_records hbalanced Event.message_of_carries (by decide)]
    exact length_families c.families

end Cycle

end Telemetry
