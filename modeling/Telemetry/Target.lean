/-!
# Targets

The scraped endpoint, named by its job and its instance.
-/

namespace Telemetry

structure Target where
  job : String
  instanceName : String
deriving DecidableEq, Repr

end Telemetry
