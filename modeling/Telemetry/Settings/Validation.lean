import Telemetry.Settings.Loading
import Telemetry.Settings.LogFilter

/-!
# Checking settings

The metric name needs a label, and the logging level has to be a filter.
-/

namespace Telemetry

inductive SettingsError
  | emptyNameLabel
  | invalidLevel (level : String)
deriving DecidableEq, Repr

/-- The message; what is wrong with a level is left open behind the last colon. -/
def SettingsError.message : SettingsError → String
  | emptyNameLabel => "assembler.name_label cannot be empty"
  | invalidLevel level => s!"invalid logging.level '{level}': "

namespace Settings

def error? (s : Settings) : Option SettingsError :=
  if s.assembly.nameLabel.toList.all Text.isBlank then some .emptyNameLabel
  else if LogFilter.isFilter s.logging.level then none
  else some (.invalidLevel s.logging.level)

/-- The settings that a document gives, if it can be loaded and they are not refused. -/
def loadValid? (document : String) : Option Settings :=
  match load (some document) [] with
  | .ok settings => if settings.error?.isNone then some settings else none
  | .error _ => none

end Settings

end Telemetry
