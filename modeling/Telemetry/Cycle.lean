import Telemetry.Family
import Telemetry.Text.Quoted

/-!
# Scrape cycles

One scrape of one target: samples are sent to their families, and every family becomes a record once the scrape is
complete. A rejected sample is counted and reported; the rest of the cycle goes on.
-/

namespace Telemetry

structure Stats where
  accepted : Nat
  rejected : Nat
  /-- Stale markers that were dropped on arrival. -/
  droppedStale : Nat
deriving DecidableEq, Repr

structure Cycle where
  target : Target
  metadata : MetadataStore
  settings : AssemblySettings
  /-- The families in the order in which they were first seen. -/
  families : List Family
  stats : Stats
  /-- What was reported so far. -/
  log : List Event

namespace Cycle

def start (target : Target) (metadata : MetadataStore) (settings : AssemblySettings) : Cycle :=
  ⟨target, metadata, settings, [], ⟨0, 0, 0⟩, []⟩

/-- The name of the family that a sample name belongs to. Metadata alone decides: the whole name if it is declared,
otherwise the name before a suffix if that is declared, otherwise the whole name. -/
def familyName (metadata : MetadataStore) (sampleName : String) : String :=
  if (metadata sampleName).isSome then sampleName
  else ((Suffix.all.filterMap fun suffix => suffix.strip? sampleName).find? fun base =>
    (metadata base).isSome).getD sampleName

def family? (c : Cycle) (name : String) : Option Family := c.families.find? fun f => f.name == name

/-- The family of this name, and the cycle that holds it. -/
def openFamily (c : Cycle) (name : String) : Cycle × Family :=
  match c.family? name with
  | some family => (c, family)
  | none =>
    let family := Family.declared name c.metadata c.settings
    ({ c with families := c.families ++ [family], log := c.log ++ [.newFamily name family.type] }, family)

/-- Puts a family in the place of the one that has its name. -/
def replaceFamily (c : Cycle) (family : Family) : Cycle :=
  { c with families := c.families.map fun f => if f.name = family.name then family else f }

/-- Sends a sample to a family of the cycle. -/
def deliver (c : Cycle) (family : Family) (sample : Sample) : Cycle × Except Rejection Unit :=
  match family.ingest sample with
  | .ok fed => ({ c.replaceFamily fed with stats.accepted := c.stats.accepted + 1 }, .ok ())
  | .error reason =>
    ({ c with
        stats.rejected := c.stats.rejected + 1
        log := c.log ++ [.rejectedSample c.target sample.name reason] }, .error reason)

def add (c : Cycle) (sample : Sample) : Cycle × Except Rejection Unit :=
  if !c.settings.keepStale && sample.value.isStale then
    ({ c with stats.droppedStale := c.stats.droppedStale + 1 }, .ok ())
  else
    let (opened, family) := c.openFamily (familyName c.metadata sample.name)
    opened.deliver family sample

def extend (c : Cycle) (samples : List Sample) : Cycle := samples.foldl (fun c s => (c.add s).1) c

/-- The records of the families, in the order in which the families were first seen. -/
def records (c : Cycle) : List Record := c.families.filterMap Family.record?

/-- The whole log, with what finishing the cycle reports. -/
def finalLog (c : Cycle) : List Event :=
  c.log ++ c.families.flatMap Family.recordEvents ++
    [.cycleFinished c.target c.families.length c.records.length c.stats.accepted c.stats.rejected]

/-- The state of the cycle in one line, for diagnostics. -/
def describe (c : Cycle) : String :=
  "ScrapeCycle \x7b target: ScrapeTarget \x7b job: " ++ Text.quoted c.target.job ++ ", instance: "
    ++ Text.quoted c.target.instanceName ++ " \x7d, families: " ++ toString c.families.length
    ++ ", stats: CycleStats \x7b accepted: " ++ toString c.stats.accepted ++ ", rejected: " ++ toString c.stats.rejected
    ++ ", dropped_stale: " ++ toString c.stats.droppedStale ++ " \x7d \x7d"

end Cycle

end Telemetry
