/-
# TestDiscovery.Fault -- why a request cannot be made

Each step of making a request has its causes of failure: building the request,
loading the configuration, and reading the command line around both.  `message`
gives the wording of a cause.
-/
import TestDiscovery.Files.Basic

namespace TestDiscovery

set_option autoImplicit false

/-- Why a builder refuses something. -/
inductive RequestFault where
  | blankParameterKey
  | unclassifiableFilter
  | blankEngineId
  | emptyTagList
  | malformedMethod (text : String)
  | malformedPattern (pattern : String)
  deriving DecidableEq, Repr

/-- The wording of the fault. -/
def RequestFault.message : RequestFault → String
  | .blankParameterKey => "configuration parameter key must not be null or empty"
  | .unclassifiableFilter =>
    "Filter must implement EngineIdFilter, PostDiscoveryFilter or DiscoveryFilter."
  | .blankEngineId => "engine id must not be null or empty"
  | .emptyTagList => "tag list must contain at least one non-blank tag"
  | .malformedMethod text =>
    "invalid fully qualified method name '" ++ text ++
      "': expected 'Class#method' or 'Class#method(Type, ...)'"
  | .malformedPattern pattern => "invalid class name pattern '" ++ pattern ++ "'"

/-- Why a configuration cannot be loaded or applied. -/
inductive ConfigFault where
  | unreadable (path : Path) (cause : ReadFault)
  | unparsable (path : Path)
  | request (cause : RequestFault)
  deriving Repr

/-- The wording of the fault. -/
def ConfigFault.message : ConfigFault → String
  | .unreadable path cause => "failed to read " ++ path.display ++ ": " ++ cause.message
  | .unparsable path => "failed to parse " ++ path.display
  | .request cause => cause.message

/-- Why a command line gives no request. -/
inductive LaunchFault where
  | config (cause : ConfigFault)
  | request (cause : RequestFault)
  | malformedParameter (raw : String)
  deriving Repr

/-- The wording of the fault. -/
def LaunchFault.message : LaunchFault → String
  | .config cause => cause.message
  | .request cause => cause.message
  | .malformedParameter raw =>
    "Invalid configuration parameter '" ++ raw ++ "': expected KEY=VALUE"

end TestDiscovery
