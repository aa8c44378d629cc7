/-
# TestDiscovery.Verdict -- what a filter says about a candidate

A filter includes or excludes.  An exclusion always has a reason; an inclusion may
have one.
-/

namespace TestDiscovery

set_option autoImplicit false

/-- The outcome of applying a filter. -/
inductive Verdict where
  | included
  | includedBecause (reason : String)
  | excluded (reason : String)
  deriving DecidableEq, Repr

namespace Verdict

/-- The candidate is included. -/
def isIncluded : Verdict → Bool
  | .included => true
  | .includedBecause _ => true
  | .excluded _ => false

/-- The reason, if there is one. -/
def reason : Verdict → Option String
  | .included => none
  | .includedBecause reason => some reason
  | .excluded reason => some reason

end Verdict

end TestDiscovery
