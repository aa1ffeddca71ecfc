import Telemetry.Json.Parser
import Telemetry.Json.Reading
import Telemetry.MetricType
import Telemetry.Sample
import Telemetry.Target

/-!
# Captures

A recorded scrape as JSON text: its target, the declared metadata, and the samples in their order. The readers of
its parts stand here too.
-/

namespace Telemetry
open Json

def Label.ofJson? (json : Json) : Option Label := do
  match ← json.fields? ["name", "value"] with
  | [name, value] => return ⟨← required text? name, ← required text? value⟩
  | _ => none

def AttachedExemplar.ofJson? (json : Json) : Option AttachedExemplar := do
  match ← json.fields? ["value", "timestamp_ms", "labels"] with
  | [value, timestamp, labels] =>
    return ⟨← required binary64? value, ← required int64? timestamp, ← defaulted [] (list? Label.ofJson?) labels⟩
  | _ => none

def Sample.ofJson? (json : Json) : Option Sample := do
  match ← json.fields? ["name", "labels", "timestamp_ms", "value", "exemplar"] with
  | [name, labels, timestamp, value, exemplar] =>
    return ⟨← required text? name, ← required (list? Label.ofJson?) labels, ← required int64? timestamp,
      ← required binary64? value, ← defaulted none (nullable AttachedExemplar.ofJson?) exemplar⟩
  | _ => none

def MetricType.ofJson? (json : Json) : Option MetricType := json.text?.map .ofName

def Metadata.ofJson? (json : Json) : Option Metadata := do
  match ← json.fields? ["type", "help", "unit"] with
  | [type, help, unit] =>
    return ⟨← defaulted .unknown MetricType.ofJson? type, ← defaulted "" text? help, ← defaulted "" text? unit⟩
  | _ => none

def Target.ofJson? (json : Json) : Option Target := do
  match ← json.fields? ["job", "instance"] with
  | [job, instanceName] => return ⟨← required text? job, ← required text? instanceName⟩
  | _ => none

structure Capture where
  target : Target
  metadata : List (String × Metadata)
  samples : List Sample
deriving DecidableEq, Repr

namespace Capture

def ofJson? (json : Json) : Option Capture := do
  match ← json.fields? ["target", "metadata", "samples"] with
  | [target, metadata, samples] =>
    return ⟨← required Target.ofJson? target, ← required (entries? Metadata.ofJson?) metadata,
      ← required (list? Sample.ofJson?) samples⟩
  | _ => none

def ofText? (text : String) : Option Capture := (parse? text).bind ofJson?

end Capture

end Telemetry
