import Telemetry.Json.Reading
import Telemetry.Settings

/-!
# Settings in JSON

Settings from a JSON value; what is missing keeps its default.
-/

namespace Telemetry
open Json

def AssemblySettings.ofJson? (json : Json) : Option AssemblySettings := do
  let d := AssemblySettings.default
  match ← json.fields? ["name_label", "honor_created_timestamps", "exemplars", "keep_stale_markers"] with
  | [nameLabel, honorCreated, exemplars, keepStale] =>
    return ⟨← defaulted d.nameLabel text? nameLabel, ← defaulted d.honorCreated bool? honorCreated,
      ← defaulted d.exemplars bool? exemplars, ← defaulted d.keepStale bool? keepStale⟩
  | _ => none

def LoggingSettings.ofJson? (json : Json) : Option LoggingSettings := do
  match ← json.fields? ["level"] with
  | [level] => return ⟨← defaulted LoggingSettings.default.level text? level⟩
  | _ => none

def Settings.ofJson? (json : Json) : Option Settings := do
  match ← json.fields? ["assembler", "logging"] with
  | [assembly, logging] =>
    return ⟨← defaulted .default AssemblySettings.ofJson? assembly,
      ← defaulted .default LoggingSettings.ofJson? logging⟩
  | _ => none

end Telemetry
