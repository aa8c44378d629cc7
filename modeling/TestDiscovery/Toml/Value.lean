/-
# TestDiscovery.Toml.Value -- the values of a document

A document is a table: values under keys, in the order in which the keys were
first given.  The value of a float is not kept, since nothing asks for it.
-/
import TestDiscovery.Toml.DateTime

namespace TestDiscovery.Toml

set_option autoImplicit false

/-- A value. -/
inductive Value where
  | string (s : String)
  | integer (n : Int)
  | float
  | boolean (b : Bool)
  | dateTime (d : DateTime)
  | array (items : List Value)
  | table (entries : List (String × Value))
  deriving Repr

/-- A table by itself. -/
abbrev Table := List (String × Value)

/-! ## Equality -/

mutual

/-- The values are equal. -/
def Value.same : Value → Value → Bool
  | .string s, .string t => s == t
  | .integer m, .integer n => m == n
  | .float, .float => true
  | .boolean b, .boolean c => b == c
  | .dateTime d, .dateTime e => d == e
  | .array a, .array b => sameItems a b
  | .table a, .table b => sameEntries a b
  | _, _ => false

/-- The items are equal one by one. -/
def sameItems : List Value → List Value → Bool
  | [], [] => true
  | v :: a, w :: b => v.same w && sameItems a b
  | _, _ => false

/-- The entries are equal one by one. -/
def sameEntries : List (String × Value) → List (String × Value) → Bool
  | [], [] => true
  | (key, v) :: a, (key', w) :: b => key == key' && v.same w && sameEntries a b
  | _, _ => false

end

mutual

theorem Value.same_iff : (v w : Value) → (v.same w = true ↔ v = w)
  | .string _, w => by cases w <;> simp [Value.same]
  | .integer _, w => by cases w <;> simp [Value.same]
  | .float, w => by cases w <;> simp [Value.same]
  | .boolean _, w => by cases w <;> simp [Value.same]
  | .dateTime _, w => by cases w <;> simp [Value.same]
  | .array items, w => by cases w <;> simp [Value.same, sameItems_iff items]
  | .table entries, w => by cases w <;> simp [Value.same, sameEntries_iff entries]

theorem sameItems_iff : (a b : List Value) → (sameItems a b = true ↔ a = b)
  | [], b => by cases b <;> simp [sameItems]
  | v :: a, b => by cases b <;> simp [sameItems, Value.same_iff v, sameItems_iff a]

theorem sameEntries_iff : (a b : List (String × Value)) → (sameEntries a b = true ↔ a = b)
  | [], b => by cases b <;> simp [sameEntries]
  | (key, v) :: a, b => by
    cases b <;> simp [sameEntries, Value.same_iff v, sameEntries_iff a, Prod.ext_iff]

end

instance Value.instDecidableEq : DecidableEq Value := fun v w =>
  decidable_of_iff (v.same w = true) (v.same_iff w)

end TestDiscovery.Toml
