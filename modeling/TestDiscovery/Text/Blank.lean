/-
# TestDiscovery.Text.Blank -- white space and trimming

Names, tags, keys and ids are compared after trimming, and "blank" decides which
of them are refused.  Both use the Unicode `White_Space` property, so a no-break
space is white space and a zero-width space is not.  `trim_eq_empty_iff` ties the
two together: a text is blank exactly when trimming leaves nothing of it.
-/

namespace TestDiscovery.Text

set_option autoImplicit false

/-- The Unicode `White_Space` property. -/
def isSpace (c : Char) : Bool :=
  let n := c.toNat
  (9 ≤ n && n ≤ 13) || n == 0x20 || n == 0x85 || n == 0xA0 || n == 0x1680 ||
    (0x2000 ≤ n && n ≤ 0x200A) || n == 0x2028 || n == 0x2029 || n == 0x202F ||
    n == 0x205F || n == 0x3000

/-- A text of white space only, the empty text included, is blank. -/
def isBlank (s : String) : Bool := s.toList.all isSpace

/-- Drop leading white space. -/
def trimStart (cs : List Char) : List Char := cs.dropWhile isSpace

/-- Drop trailing white space. -/
def trimEnd (cs : List Char) : List Char := (cs.reverse.dropWhile isSpace).reverse

/-- Drop white space at both ends. -/
def trimChars (cs : List Char) : List Char := trimEnd (trimStart cs)

/-- Drop white space at both ends. -/
def trim (s : String) : String := String.ofList (trimChars s.toList)

/-! ## Blank texts are those that trim to nothing -/

theorem dropWhile_eq_nil_iff_all {α : Type} (p : α → Bool) (xs : List α) :
    xs.dropWhile p = [] ↔ xs.all p = true := by
  induction xs with
  | nil => simp
  | cons x xs ih =>
    cases hx : p x with
    | true => simp [hx, ih]
    | false => simp [hx]

theorem trimEnd_eq_nil_iff (cs : List Char) : trimEnd cs = [] ↔ cs.all isSpace = true := by
  rw [trimEnd, List.reverse_eq_nil_iff, dropWhile_eq_nil_iff_all, List.all_reverse]

theorem all_dropWhile_iff {α : Type} (p : α → Bool) (xs : List α) :
    (xs.dropWhile p).all p = true ↔ xs.all p = true := by
  induction xs with
  | nil => simp
  | cons x xs ih =>
    cases hx : p x with
    | true => simp [hx, ih]
    | false => simp [hx]

theorem trimChars_eq_nil_iff (cs : List Char) :
    trimChars cs = [] ↔ cs.all isSpace = true := by
  rw [trimChars, trimEnd_eq_nil_iff, trimStart, all_dropWhile_iff]

theorem trim_eq_empty_iff (s : String) : trim s = "" ↔ isBlank s = true := by
  rw [trim, isBlank, ← trimChars_eq_nil_iff]
  constructor
  · intro h
    have := congrArg String.toList h
    simpa using this
  · intro h
    simp [h]

end TestDiscovery.Text
