/-
# TestDiscovery.Request.Basic -- what engines are asked for

A request holds selectors, filters of the three kinds and parameters.  Queries by
kind give the selectors or filters of one kind, in order.
-/
import TestDiscovery.Journal
import TestDiscovery.Parameters
import TestDiscovery.Selector.Basic

namespace TestDiscovery

set_option autoImplicit false

/-- What to discover, how to filter it, and parameters for the engines. -/
structure Request where
  selectors : List Selector
  engineFilters : List EngineFilter
  discoveryFilters : List DiscoveryFilter
  postDiscoveryFilters : List PostDiscoveryFilter
  parameters : Parameters

namespace Request

/-- The request for nothing. -/
def empty : Request := ⟨[], [], [], [], .empty⟩

/-- The sizes of the five collections. -/
def counts (r : Request) : Counts :=
  ⟨r.selectors.length, r.engineFilters.length, r.discoveryFilters.length,
    r.postDiscoveryFilters.length, r.parameters.size⟩

/-! ## Queries by kind -/

/-- The names of the selected packages. -/
def packages (r : Request) : List String := r.selectors.filterMap Selector.asPackage?

/-- The selected classes. -/
def classes (r : Request) : List ClassSelector := r.selectors.filterMap Selector.asClass?

/-- The selected methods. -/
def methods (r : Request) : List MethodSelector := r.selectors.filterMap Selector.asMethod?

/-- The selected paths. -/
def paths (r : Request) : List Path := r.selectors.filterMap Selector.asPath?

/-- The selected unique ids. -/
def uniqueIds (r : Request) : List String := r.selectors.filterMap Selector.asUniqueId?

/-- The class name filters. -/
def classNameFilters (r : Request) : List ClassNameFilter :=
  r.discoveryFilters.filterMap DiscoveryFilter.asClassName?

/-- The names of the custom discovery filters. -/
def customFilters (r : Request) : List String :=
  r.discoveryFilters.filterMap DiscoveryFilter.asCustom?

/-! ## Additions -/

/-- The request with further selectors. -/
def withSelectors (r : Request) (selectors : List Selector) : Request :=
  { r with selectors := r.selectors ++ selectors }

/-- The request with one more filter, in the bucket of its kind. -/
def withFilter (r : Request) : Filter → Request
  | .engine f => { r with engineFilters := r.engineFilters ++ [f] }
  | .discovery f => { r with discoveryFilters := r.discoveryFilters ++ [f] }
  | .postDiscovery f => { r with postDiscoveryFilters := r.postDiscoveryFilters ++ [f] }

/-- The request with other parameters. -/
def withParameters (r : Request) (parameters : Parameters) : Request :=
  { r with parameters := parameters }

end Request

end TestDiscovery
