/-
# TestDiscovery.Filter.Engine -- which engines take part

An engine filter lets the engine of its id through and no other.
-/
import TestDiscovery.Fault
import TestDiscovery.Text.Blank
import TestDiscovery.Verdict

namespace TestDiscovery

set_option autoImplicit false

open TestDiscovery.Text

/-- Lets one engine take part. -/
structure EngineFilter where
  engineId : String
  deriving DecidableEq, Repr

namespace EngineFilter

/-- The filter of an id that is not blank. -/
def ofId (id : String) : Except RequestFault EngineFilter :=
  if isBlank id then .error .blankEngineId else .ok ⟨id⟩

/-- The verdict on an engine. -/
def apply (f : EngineFilter) (engineId : String) : Verdict :=
  if f.engineId = engineId then .includedBecause ("engine id '" ++ engineId ++ "' is included")
  else .excluded ("engine id '" ++ engineId ++ "' does not match '" ++ f.engineId ++ "'")

/-- The filter as summaries show it. -/
def display (f : EngineFilter) : String := "include engine '" ++ f.engineId ++ "'"

end EngineFilter

end TestDiscovery
