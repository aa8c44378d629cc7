/-
# TestDiscovery.Launch -- from a command line to a request

The configuration is loaded first.  Its lists of engines and tags are only
defaults: an option that is given replaces the list.  Its parameters are written
before those of the command line, which therefore win.
-/
import TestDiscovery.CommandLine.Arguments
import TestDiscovery.Config

namespace TestDiscovery

set_option autoImplicit false

namespace Launch

/-- The path of the configuration that a command line asks for. -/
def configPath (a : Arguments) (root : Path) : Path := a.configFile.getD (root.join Config.fileName)

/-- Load the configuration: the given file, or that of the project. -/
def load (files : FileSystem) (a : Arguments) (root : Path) : Building ConfigFault Config :=
  match a.configFile with
  | some path => Config.ofFile files path
  | none => Config.ofProject files root

/-- The list in force: the given one, unless it is empty. -/
def effective (defaults given : List String) : List String :=
  if given.isEmpty then defaults else given

/-- The list in force; a list that is replaced is recorded. -/
def override {ε : Type} (list : DefaultList) (defaults given : List String) :
    Building ε (List String) := do
  if !given.isEmpty && !defaults.isEmpty then Building.note (.defaultsReplaced list defaults)
  return effective defaults given

/-- The configuration with the lists in force. -/
def overridden {ε : Type} (c : Config) (a : Arguments) : Building ε Config := do
  let engines ← override .engines c.engines a.engines
  let includeTags ← override .includeTags c.includeTags a.includeTags
  let excludeTags ← override .excludeTags c.excludeTags a.excludeTags
  return { c with engines, includeTags, excludeTags }

/-- Add the selectors of the command line, kind by kind. -/
def selectAll (a : Arguments) : Building RequestFault Unit := do
  let methods ← Building.ofExcept (a.methods.mapM MethodSelector.parse)
  Building.select (a.packages.map .package)
  Building.select (a.classes.map .className)
  Building.select (methods.map .method)
  Building.select (a.paths.map .path)
  Building.select (a.uniqueIds.map .uniqueId)

/-- Add a class name filter. -/
def filterClassName (mode : FilterMode) (pattern : String) : Building RequestFault Unit := do
  let f ← Building.ofExcept (ClassNameFilter.ofPattern mode pattern)
  Building.store (.discovery (.className f))

/-- Add the class name filters of the command line. -/
def filterClassNames (a : Arguments) : Building RequestFault Unit := do
  a.includeClassNames.forM (filterClassName .include)
  a.excludeClassNames.forM (filterClassName .exclude)

/-- The request that a command line asks for. -/
def request (files : FileSystem) (a : Arguments) (root : Path) : Building LaunchFault Request := do
  let c ← Building.widen .config (load files a root)
  let c ← overridden c a
  Building.widen .config c.apply
  Building.widen .request (selectAll a)
  Building.widen .request (filterClassNames a)
  let parameters ← Building.ofExcept a.parameters
  Building.widen .request (Building.setParameters parameters)
  Building.note .assembled
  Building.build

end Launch

/-! ## The listing of a request -/

namespace Request

/-- The lines that list the selectors. -/
def selectorLines (r : Request) : List String :=
  if r.selectors.isEmpty then ["No selectors given."]
  else ("Selected " ++ toString r.selectors.length ++ " items:") ::
    r.selectors.map fun s => "  " ++ s.display

/-- The lines that list the filters. -/
def filterLines (r : Request) : List String :=
  (r.engineFilters.map fun f => "Engine filter: " ++ f.display) ++
    (r.discoveryFilters.map fun f => "Discovery filter: " ++ f.display) ++
    (r.postDiscoveryFilters.map fun f => "Post-discovery filter: " ++ f.display)

/-- The lines that list the parameters. -/
def parameterLines (r : Request) : List String :=
  if r.parameters.isEmpty then []
  else "Configuration parameters:" ::
    r.parameters.toList.map fun (key, value) => "  " ++ key ++ " = " ++ value

/-- The listing, every line with its end. -/
def listing (r : Request) : String :=
  String.join ((r.selectorLines ++ r.filterLines ++ r.parameterLines).map fun l => l ++ "\n")

end Request

end TestDiscovery
