/-
# TestDiscovery.Filter.ClassName -- class names by pattern

A class name filter includes or excludes the names that a pattern matches as a
whole.
-/
import TestDiscovery.Fault
import TestDiscovery.Pattern.Compiled
import TestDiscovery.Verdict

namespace TestDiscovery

set_option autoImplicit false

/-- What a filter does with what it finds. -/
inductive FilterMode where
  | include
  | exclude
  deriving DecidableEq, Repr

/-- Includes or excludes class names. -/
structure ClassNameFilter where
  pattern : String
  mode : FilterMode
  /-- The meaning of the pattern, bound to whole names. -/
  whole : Pattern.Expr

namespace ClassNameFilter

/-- The filter of a pattern. -/
def ofPattern (mode : FilterMode) (pattern : String) : Except RequestFault ClassNameFilter :=
  match Pattern.compileWhole pattern.toList with
  | .ok e => .ok ⟨pattern, mode, e⟩
  | .error _ => .error (.malformedPattern pattern)

/-- The filter excludes what it finds. -/
def isExclusion (f : ClassNameFilter) : Bool := f.mode == .exclude

/-- The pattern matches the whole name. -/
def matchesName (f : ClassNameFilter) (name : String) : Bool := f.whole.matchesIn name

/-- The verdict on a class name. -/
def apply (f : ClassNameFilter) (name : String) : Verdict :=
  match f.mode, f.matchesName name with
  | .include, true =>
    .includedBecause ("class name '" ++ name ++ "' matches pattern '" ++ f.pattern ++ "'")
  | .include, false =>
    .excluded ("class name '" ++ name ++ "' does not match pattern '" ++ f.pattern ++ "'")
  | .exclude, true =>
    .excluded ("class name '" ++ name ++ "' matches excluded pattern '" ++ f.pattern ++ "'")
  | .exclude, false => .included

/-- The filter as summaries show it. -/
def display (f : ClassNameFilter) : String :=
  match f.mode with
  | .include => "include class names matching '" ++ f.pattern ++ "'"
  | .exclude => "exclude class names matching '" ++ f.pattern ++ "'"

end ClassNameFilter

end TestDiscovery
