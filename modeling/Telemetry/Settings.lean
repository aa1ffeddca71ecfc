/-!
# Settings

How samples are assembled, and what is logged.
-/

namespace Telemetry

structure AssemblySettings where
  /-- The label that holds the metric name; it is never part of the identity of a series. -/
  nameLabel : String
  /-- Whether `_created` samples set the start of cumulative series. -/
  honorCreated : Bool
  /-- Whether exemplars are recorded. -/
  exemplars : Bool
  /-- Whether stale markers become points without a recorded value; otherwise they are dropped on arrival. -/
  keepStale : Bool
deriving DecidableEq, Repr

structure LoggingSettings where
  /-- The filter that selects events. -/
  level : String
deriving DecidableEq, Repr

structure Settings where
  assembly : AssemblySettings
  logging : LoggingSettings
deriving DecidableEq, Repr

def AssemblySettings.default : AssemblySettings := ⟨"__name__", true, true, true⟩

def LoggingSettings.default : LoggingSettings := ⟨"info"⟩

def Settings.default : Settings := ⟨.default, .default⟩

end Telemetry
