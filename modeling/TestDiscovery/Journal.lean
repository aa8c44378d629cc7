/-
# TestDiscovery.Journal -- what is recorded while a request is made

A record tells of one event.  It has a level, a source, which is the part of the
program that records it, and a text.
-/
import TestDiscovery.Files.Path
import TestDiscovery.Filter.Basic
import TestDiscovery.Text.Quoted

namespace TestDiscovery

set_option autoImplicit false

/-- How much attention a record asks for. -/
inductive LogLevel where
  | error
  | warn
  | info
  | debug
  | trace
  deriving DecidableEq, Repr

namespace LogLevel

/-- Levels from the most urgent on. -/
def rank : LogLevel → Nat
  | .error => 0
  | .warn => 1
  | .info => 2
  | .debug => 3
  | .trace => 4

/-- The level in capitals. -/
def word : LogLevel → String
  | .error => "ERROR"
  | .warn => "WARN"
  | .info => "INFO"
  | .debug => "DEBUG"
  | .trace => "TRACE"

end LogLevel

/-- The sizes of the five collections of a request. -/
structure Counts where
  selectors : Nat
  engineFilters : Nat
  discoveryFilters : Nat
  postDiscoveryFilters : Nat
  parameters : Nat
  deriving DecidableEq, Repr

/-- The lists that an option of the command line replaces. -/
inductive DefaultList where
  | engines
  | includeTags
  | excludeTags
  deriving DecidableEq, Repr

/-- The name of the list in the configuration file. -/
def DefaultList.key : DefaultList → String
  | .engines => "engines"
  | .includeTags => "include-tags"
  | .excludeTags => "exclude-tags"

/-- An event. -/
inductive LogRecord where
  | parameterWritten (key value : String)
  | parameterReplaced (key previous : String)
  | selected (count : Nat)
  | routed (kind : FilterKind) (display : String)
  | built (counts : Counts)
  | unknownKey (key : String) (origin : Path)
  | noConfiguration (fileName : String) (root : Path)
  | loadingConfiguration (path : Path)
  | defaultsReplaced (list : DefaultList) (values : List String)
  | assembled

/-- The bucket of a kind of filter, as records name it. -/
def FilterKind.bucket : FilterKind → String
  | .engine => "engine id"
  | .discovery => "discovery"
  | .postDiscovery => "post-discovery"

namespace LogRecord

/-- The level of the record. -/
def level : LogRecord → LogLevel
  | .parameterWritten _ _ => .trace
  | .selected _ => .trace
  | .unknownKey _ _ => .warn
  | _ => .debug

/-- The source of the record. -/
def source : LogRecord → String
  | .parameterWritten _ _ => "rlaunch_core::parameters"
  | .parameterReplaced _ _ | .selected _ | .built _ => "rlaunch::request::builder"
  | .routed _ _ => "rlaunch_core::filter"
  | .unknownKey _ _ | .noConfiguration _ _ | .loadingConfiguration _ => "rlaunch::config"
  | .defaultsReplaced _ _ | .assembled => "rlaunch::request_integration"

/-- The text of the record. -/
def text : LogRecord → String
  | .parameterWritten key value => "Configuration parameter " ++ key ++ " = " ++ value
  | .parameterReplaced key previous =>
    "Configuration parameter " ++ key ++ " overrides previous value " ++ previous
  | .selected count => "Selected " ++ toString count ++ " selectors"
  | .routed kind display => "Routing filter to " ++ kind.bucket ++ " bucket: " ++ display
  | .built c =>
    "Building discovery request: " ++ toString c.selectors ++ " selectors, " ++
      toString c.engineFilters ++ " engine id filters, " ++
      toString c.discoveryFilters ++ " discovery filters, " ++
      toString c.postDiscoveryFilters ++ " post-discovery filters, " ++
      toString c.parameters ++ " configuration parameters"
  | .unknownKey key origin => "Ignoring unknown key '" ++ key ++ "' in " ++ origin.display
  | .noConfiguration fileName root => "No " ++ fileName ++ " in " ++ root.display
  | .loadingConfiguration path => "Loading launcher configuration from " ++ path.display
  | .defaultsReplaced list values =>
    "Command line " ++ list.key ++ " replace " ++ Text.Quoted.quoteList values ++
      " from the configuration file"
  | .assembled => "Assembled discovery request from command line"

/-- The record with its level. -/
def line (r : LogRecord) : String := r.level.word ++ " " ++ r.text

/-- The record with its level and its source. -/
def sourcedLine (r : LogRecord) : String :=
  r.level.word ++ " " ++ r.source ++ ": " ++ r.text

/-- The record is at least as urgent as the level. -/
def isShownAt (r : LogRecord) (level : LogLevel) : Bool := r.level.rank ≤ level.rank

end LogRecord

end TestDiscovery
