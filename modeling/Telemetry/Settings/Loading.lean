import Telemetry.Settings
import Telemetry.Settings.Environment
import Telemetry.Toml.Parser
import Telemetry.Toml.Tagged

/-!
# Loading settings

Settings start from their defaults; a TOML document is laid over them, and environment variables over that. No value
is converted: a setting of the wrong type is an error, of which the first in the order of the keys is reported.
-/

namespace Telemetry

inductive LoadError
  /-- The text is no TOML document, or there is a tag in it. -/
  | notToml
  /-- The setting at this path has the wrong type. -/
  | wrongType (path : List String)
deriving DecidableEq, Repr

namespace Toml

/-- A reader of a value that reports the path of a wrong type within it. -/
abbrev Reader (α : Type) := Toml → Except (List String) α

def readBool : Reader Bool
  | bool b => .ok b
  | _ => .error []

def readString : Reader String
  | string s => .ok s
  | _ => .error []

/-- Reads what stands at a step of the path, or takes the default if nothing does. -/
def readAt {α : Type} (step : String) (found : Option Toml) (default : α) (read : Reader α) : Except (List String) α :=
  match found with
  | none => .ok default
  | some value => (read value).mapError (step :: ·)

end Toml

open Toml

/-- Reads a table by its keys, in their order, or an array by the places of the settings. -/
def AssemblySettings.ofToml : Reader AssemblySettings
  | .table _ entries => do
    let exemplars ← readAt "exemplars" (entries.lookup "exemplars") default.exemplars readBool
    let honorCreated ← readAt "honor_created_timestamps" (entries.lookup "honor_created_timestamps")
      default.honorCreated readBool
    let keepStale ← readAt "keep_stale_markers" (entries.lookup "keep_stale_markers") default.keepStale readBool
    let nameLabel ← readAt "name_label" (entries.lookup "name_label") default.nameLabel readString
    return { nameLabel, honorCreated, exemplars, keepStale }
  | .array _ items => do
    let nameLabel ← readAt "0" items[0]? default.nameLabel readString
    let honorCreated ← readAt "1" items[1]? default.honorCreated readBool
    let exemplars ← readAt "2" items[2]? default.exemplars readBool
    let keepStale ← readAt "3" items[3]? default.keepStale readBool
    return { nameLabel, honorCreated, exemplars, keepStale }
  | .dateTime => .ok default
  | _ => .error []

def LoggingSettings.ofToml : Reader LoggingSettings
  | .table _ entries => do
    return ⟨← readAt "level" (entries.lookup "level") default.level readString⟩
  | .array _ items => do
    return ⟨← readAt "0" items[0]? default.level readString⟩
  | .dateTime => .ok default
  | _ => .error []

namespace Settings

def ofToml : Reader Settings
  | .table _ entries => do
    let assembly ← readAt "assembler" (entries.lookup "assembler") .default AssemblySettings.ofToml
    let logging ← readAt "logging" (entries.lookup "logging") .default LoggingSettings.ofToml
    return ⟨assembly, logging⟩
  | _ => .error []

/-- The settings that a document, if there is one, and environment variables give. -/
def load (document : Option String) (environment : List (String × String)) : Except LoadError Settings :=
  match document.elim (some (.table .header [])) fun text => (Toml.parse? text).bind Toml.untaggedRoot? with
  | none => .error .notToml
  | some toml => (ofToml (toml.merge (Environment.settings environment))).mapError .wrongType

end Settings

end Telemetry
