/-
# TestDiscovery.Text.Reading -- what a reader finds at the front of a text

A reader looks at the front of a text and answers with a value and with the number
of characters that the value took.  The caller passes over those characters.
-/

namespace TestDiscovery.Text

set_option autoImplicit false

/-- A value, with the number of characters it took. -/
structure Reading (α : Type) where
  value : α
  length : Nat
  deriving DecidableEq, Repr

/-- The reading after further characters. -/
def Reading.after {α : Type} (r : Reading α) (n : Nat) : Reading α := ⟨r.value, n + r.length⟩

end TestDiscovery.Text
