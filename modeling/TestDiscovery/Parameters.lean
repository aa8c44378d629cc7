/-
# TestDiscovery.Parameters -- configuration parameters

Parameters are texts under keys that are never blank, which is part of the type.
A second write to a key replaces its value; a write to a blank key is refused and
changes nothing.
-/
import TestDiscovery.Dictionary
import TestDiscovery.Fault
import TestDiscovery.Text.Blank

namespace TestDiscovery

set_option autoImplicit false

open TestDiscovery.Text

/-- Values under keys that are not blank. -/
structure Parameters where
  entries : Dictionary
  filled : ∀ key ∈ entries.keys, isBlank key = false
  deriving DecidableEq, Repr

namespace Parameters

/-- No parameters. -/
def empty : Parameters := ⟨.empty, fun _ h => nomatch h⟩

/-- The store with a value put under a key. -/
def put (ps : Parameters) (key value : String) (h : isBlank key = false) : Parameters :=
  ⟨ps.entries.put key value, fun k hk => by
    rcases Dictionary.mem_keys_put hk with rfl | hk
    · exact h
    · exact ps.filled k hk⟩

/-- A key must not be blank. -/
def checkKey (key : String) : Except RequestFault Unit :=
  if isBlank key then .error .blankParameterKey else .ok ()

/-- The value of a key. -/
def get? (ps : Parameters) (key : String) : Option String := ps.entries.get? key

/-- The store after a write, with the value that the write replaced. -/
def insert (ps : Parameters) (key value : String) :
    Except RequestFault (Option String × Parameters) :=
  if h : isBlank key = false then .ok (ps.get? key, ps.put key value h)
  else .error .blankParameterKey

/-- Equality of texts without regard to the case of ASCII letters. -/
def sameAsciiCase (s t : String) : Bool :=
  s.toList.map Char.toLower == t.toList.map Char.toLower

/-- The truth value that a text writes, white space and letter case aside. -/
def truth? (value : String) : Option Bool :=
  let word := trim value
  if sameAsciiCase word "true" then some true
  else if sameAsciiCase word "false" then some false
  else none

/-- The truth value of a key; any other value counts as absent. -/
def getBool? (ps : Parameters) (key : String) : Option Bool := ps.get? key >>= truth?

/-- The key has a value. -/
def contains (ps : Parameters) (key : String) : Bool := (ps.get? key).isSome

/-- The number of entries. -/
def size (ps : Parameters) : Nat := ps.entries.size

/-- There are no entries. -/
def isEmpty (ps : Parameters) : Bool := ps.entries.isEmpty

/-- The keys in ascending order. -/
def keys (ps : Parameters) : List String := ps.entries.keys

/-- The entries in ascending order of their keys. -/
def toList (ps : Parameters) : List (String × String) := ps.entries.toList

theorem get?_put (ps : Parameters) (key value k : String) (h : isBlank key = false) :
    (ps.put key value h).get? k = if k = key then some value else ps.get? k :=
  Dictionary.get?_put ps.entries key value k

/-- Stores in which every key has the same value are equal. -/
theorem ext_get? {ps qs : Parameters} (h : ∀ k, ps.get? k = qs.get? k) : ps = qs := by
  cases ps with
  | mk ds hd =>
    cases qs with
    | mk es he =>
      have : ds = es := Dictionary.ext_get? h
      subst this
      rfl

end Parameters

end TestDiscovery
