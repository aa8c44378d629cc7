/-
# TestDiscovery.Filter.Tag -- discovered tests by tag

A tag filter keeps or drops tests that carry one of its tags.  Its own tags are
trimmed and blank ones are dropped; the tags of a test are taken as they are.
-/
import TestDiscovery.Filter.ClassName
import TestDiscovery.Text.Blank

namespace TestDiscovery

set_option autoImplicit false

open TestDiscovery.Text

/-- A discovered test, as far as filters look at it. -/
structure TestIdentifier where
  uniqueId : String
  displayName : String
  tags : List String
  deriving DecidableEq, Repr

/-- The test with further tags. -/
def TestIdentifier.withTags (t : TestIdentifier) (tags : List String) : TestIdentifier :=
  { t with tags := t.tags ++ tags }

/-- Keeps or drops tests by tag. -/
structure TagFilter where
  tags : List String
  mode : FilterMode
  deriving DecidableEq, Repr

namespace TagFilter

/-- The trimmed tags, without blank ones. -/
def cleaned (tags : List String) : List String := (tags.map trim).filter fun t => t != ""

/-- The filter of some tags, of which one must not be blank. -/
def ofTags (mode : FilterMode) (tags : List String) : Except RequestFault TagFilter :=
  let tags := cleaned tags
  if tags.isEmpty then .error .emptyTagList else .ok ⟨tags, mode⟩

/-- The first tag of the test that is one of the filter's. -/
def firstMatch? (f : TagFilter) (t : TestIdentifier) : Option String :=
  t.tags.find? fun tag => f.tags.contains tag

/-- The tags as they are shown. -/
def tagList (f : TagFilter) : String := ", ".intercalate f.tags

/-- The verdict on a test. -/
def apply (f : TagFilter) (t : TestIdentifier) : Verdict :=
  match f.mode, f.firstMatch? t with
  | .include, some tag => .includedBecause ("carries required tag '" ++ tag ++ "'")
  | .include, none =>
    .excluded ("'" ++ t.displayName ++ "' carries none of the tags [" ++ f.tagList ++ "]")
  | .exclude, some tag => .excluded ("carries excluded tag '" ++ tag ++ "'")
  | .exclude, none => .included

/-- The filter as summaries show it. -/
def display (f : TagFilter) : String :=
  match f.mode with
  | .include => "include tags [" ++ f.tagList ++ "]"
  | .exclude => "exclude tags [" ++ f.tagList ++ "]"

end TagFilter

end TestDiscovery
