/-
# TestDiscovery.Request.Summary -- a request as data

A summary describes a request by its selectors, the ids of its engine filters, the
displays of its other filters and its parameters.  Its JSON form exists when all
selected paths are text.
-/
import TestDiscovery.Json.Basic
import TestDiscovery.Request.Basic

namespace TestDiscovery

set_option autoImplicit false

/-- A description of a request.  Summaries are equal (`==`) when their parts are; paths are
compared by components. -/
structure Summary where
  selectors : List Selector
  engineIds : List String
  discoveryFilters : List String
  postDiscoveryFilters : List String
  parameters : Parameters
  deriving Repr, BEq

/-- The description of a request. -/
def Request.summary (r : Request) : Summary :=
  { selectors := r.selectors
    engineIds := r.engineFilters.map EngineFilter.engineId
    discoveryFilters := r.discoveryFilters.map DiscoveryFilter.display
    postDiscoveryFilters := r.postDiscoveryFilters.map PostDiscoveryFilter.display
    parameters := r.parameters }

/-- What is said when a path is not text. -/
def pathNotText : String := "path contains invalid UTF-8 characters"

/-- The fields of a selector besides its kind. -/
def Selector.jsonFields? : Selector → Option (List (String × Json))
  | .package name => some [("package_name", .text name)]
  | .namedClass c => some [("class_name", .text c.className), ("origin", .text c.origin.word)]
  | .method m =>
    some ([("class_name", .text m.className), ("method_name", .text m.methodName)] ++
      (m.parameterTypes.map fun types => ("parameter_types", Json.texts types)).toList)
  | .path p => p.text?.map fun s => [("path", .text s)]
  | .uniqueId id => some [("unique_id", .text id)]

/-- The JSON form of a selector; its kind comes first. -/
def Selector.json? (s : Selector) : Option Json :=
  s.jsonFields?.map fun fields => .object (("kind", .text s.kind.word) :: fields)

/-- The JSON form of parameters. -/
def Parameters.json (ps : Parameters) : Json :=
  .object (ps.toList.map fun (key, value) => (key, .text value))

/-- The JSON form of a summary. -/
def Summary.json? (s : Summary) : Option Json := do
  let selectors ← s.selectors.mapM Selector.json?
  return .object
    [("selectors", .array selectors),
     ("engine_ids", Json.texts s.engineIds),
     ("discovery_filters", Json.texts s.discoveryFilters),
     ("post_discovery_filters", Json.texts s.postDiscoveryFilters),
     ("configuration_parameters", s.parameters.json)]

end TestDiscovery
