/-
# TestDiscovery.CommandLine.Arguments -- what a command line asks for

The options that take a value may be repeated, and each keeps its values in order.
`--config` takes any number of values at a time.
-/
import TestDiscovery.Fault
import TestDiscovery.Text.Cut

namespace TestDiscovery

set_option autoImplicit false

open TestDiscovery.Text

/-- The values of the options. -/
structure Arguments where
  packages : List String := []
  classes : List String := []
  methods : List String := []
  paths : List Path := []
  uniqueIds : List String := []
  engines : List String := []
  includeClassNames : List String := []
  excludeClassNames : List String := []
  includeTags : List String := []
  excludeTags : List String := []
  config : List String := []
  configFile : Option Path := none
  json : Bool := false
  deriving Repr

namespace Arguments

/-- The key and the value of a parameter; only the first equals sign separates them. -/
def parameter (raw : String) : Except LaunchFault (String × String) :=
  match cutAt '=' raw.toList with
  | some (key, value) => .ok (String.ofList key, String.ofList value)
  | none => .error (.malformedParameter raw)

/-- The parameters in order. -/
def parameters (a : Arguments) : Except LaunchFault (List (String × String)) :=
  a.config.mapM parameter

end Arguments

end TestDiscovery
