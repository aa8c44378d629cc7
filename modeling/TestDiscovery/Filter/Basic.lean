/-
# TestDiscovery.Filter.Basic -- the three kinds of filter, and telling them apart

Engine filters decide which engines take part, discovery filters are applied by
engines to their candidates, and post-discovery filters by the launcher to what
was found.  Besides the filters of this library there are custom ones, which are
known by how they are shown and what they answer.

A filter object shows what it can act as.  `FilterObject.classify` takes the first
of its capabilities in the order engine, post-discovery, discovery.
-/
import TestDiscovery.Filter.Engine
import TestDiscovery.Filter.Tag

namespace TestDiscovery

set_option autoImplicit false

/-! ## Filters -/

/-- A filter that an engine applies to the names of its candidates. -/
inductive DiscoveryFilter where
  | className (f : ClassNameFilter)
  | custom (display : String) (apply : String → Verdict)

namespace DiscoveryFilter

/-- The verdict on a candidate. -/
def apply : DiscoveryFilter → String → Verdict
  | .className f, name => f.apply name
  | .custom _ apply, name => apply name

/-- The filter as summaries show it. -/
def display : DiscoveryFilter → String
  | .className f => f.display
  | .custom display _ => display

/-- The class name filter that this is. -/
def asClassName? : DiscoveryFilter → Option ClassNameFilter
  | .className f => some f
  | .custom _ _ => none

/-- The name of the custom filter that this is. -/
def asCustom? : DiscoveryFilter → Option String
  | .className _ => none
  | .custom display _ => some display

end DiscoveryFilter

/-- A filter that the launcher applies to discovered tests. -/
inductive PostDiscoveryFilter where
  | tags (f : TagFilter)
  | custom (display : String) (apply : TestIdentifier → Verdict)

namespace PostDiscoveryFilter

/-- The verdict on a test. -/
def apply : PostDiscoveryFilter → TestIdentifier → Verdict
  | .tags f, t => f.apply t
  | .custom _ apply, t => apply t

/-- The filter as summaries show it. -/
def display : PostDiscoveryFilter → String
  | .tags f => f.display
  | .custom display _ => display

end PostDiscoveryFilter

/-- The kinds of filter. -/
inductive FilterKind where
  | engine
  | discovery
  | postDiscovery
  deriving DecidableEq, Repr

/-- The name of the kind. -/
def FilterKind.name : FilterKind → String
  | .engine => "EngineIdFilter"
  | .discovery => "DiscoveryFilter"
  | .postDiscovery => "PostDiscoveryFilter"

/-- A filter of any kind. -/
inductive Filter where
  | engine (f : EngineFilter)
  | discovery (f : DiscoveryFilter)
  | postDiscovery (f : PostDiscoveryFilter)

namespace Filter

/-- The kind of the filter. -/
def kind : Filter → FilterKind
  | .engine _ => .engine
  | .discovery _ => .discovery
  | .postDiscovery _ => .postDiscovery

/-- The filter as summaries show it. -/
def display : Filter → String
  | .engine f => f.display
  | .discovery f => f.display
  | .postDiscovery f => f.display

end Filter

/-! ## Filter objects -/

/-- An object of unknown kind: what it can act as. -/
structure FilterObject where
  engine : Option EngineFilter
  postDiscovery : Option PostDiscoveryFilter
  discovery : Option DiscoveryFilter

namespace FilterObject

/-- An object that can act as nothing. -/
def plain : FilterObject := ⟨none, none, none⟩

/-- A filter as an object: it acts as what it is and as nothing else. -/
def ofFilter : Filter → FilterObject
  | .engine f => ⟨some f, none, none⟩
  | .discovery f => ⟨none, none, some f⟩
  | .postDiscovery f => ⟨none, some f, none⟩

/-- The filter of the object's first capability. -/
def filter? (o : FilterObject) : Option Filter :=
  o.engine.map .engine <|> o.postDiscovery.map .postDiscovery <|> o.discovery.map .discovery

/-- The filter that the object is taken for. -/
def classify (o : FilterObject) : Except RequestFault Filter :=
  match o.filter? with
  | some f => .ok f
  | none => .error .unclassifiableFilter

end FilterObject

end TestDiscovery
