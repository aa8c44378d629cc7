/-
# TestDiscovery.Unicode.CharSet -- sets of characters as ranges of code points

A set is an ascending list of closed ranges that neither overlap nor touch.  The
tables of the Unicode standard are kept in a packed text of hexadecimal numbers
(`CharSet.packed`); everything else is built by the set operations below.
-/

namespace TestDiscovery.Unicode

set_option autoImplicit false

/-- The last code point. -/
def maxCodePoint : Nat := 0x10FFFF

/-- Ascending, separated, closed ranges of code points. -/
structure CharSet where
  ranges : List (Nat × Nat)
  deriving Inhabited, BEq

namespace CharSet

/-- The set without characters. -/
def empty : CharSet := ⟨[]⟩

/-- The characters from `lo` to `hi`. -/
def range (lo hi : Nat) : CharSet := ⟨[(lo, hi)]⟩

/-- One code point. -/
def single (n : Nat) : CharSet := range n n

/-- All code points. -/
def full : CharSet := range 0 maxCodePoint

/-- Membership of a code point. -/
def contains (s : CharSet) (n : Nat) : Bool := s.ranges.any fun (lo, hi) => lo ≤ n && n ≤ hi

/-- Membership of a character. -/
def has (s : CharSet) (c : Char) : Bool := s.contains c.toNat

/-- Join neighbours that overlap or touch; `lo` to `hi` is the range still open. -/
def coalesceFrom (lo hi : Nat) : List (Nat × Nat) → List (Nat × Nat)
  | [] => [(lo, hi)]
  | (a, b) :: rest =>
    if a ≤ hi + 1 then coalesceFrom lo (max hi b) rest else (lo, hi) :: coalesceFrom a b rest

/-- Join neighbours that overlap or touch, in ranges that ascend by their start. -/
def coalesce : List (Nat × Nat) → List (Nat × Nat)
  | [] => []
  | (lo, hi) :: rest => coalesceFrom lo hi rest

/-- The characters of either set. -/
def union (s t : CharSet) : CharSet :=
  ⟨coalesce (s.ranges.merge t.ranges fun a b => a.1 ≤ b.1)⟩

/-- The gaps between ascending ranges, from `start` to the last code point. -/
def gapsFrom (start : Nat) : List (Nat × Nat) → List (Nat × Nat)
  | [] => if start ≤ maxCodePoint then [(start, maxCodePoint)] else []
  | (lo, hi) :: rest =>
    if start < lo then (start, lo - 1) :: gapsFrom (hi + 1) rest
    else gapsFrom (max start (hi + 1)) rest

/-- The characters outside the set. -/
def compl (s : CharSet) : CharSet := ⟨gapsFrom 0 s.ranges⟩

/-- The characters of both sets. -/
def inter (s t : CharSet) : CharSet := (s.compl.union t.compl).compl

/-- The characters of the first set outside the second. -/
def diff (s t : CharSet) : CharSet := s.inter t.compl

/-- The characters of exactly one of the sets. -/
def symmDiff (s t : CharSet) : CharSet := (s.diff t).union (t.diff s)

/-- The characters of any of the sets. -/
def unions (sets : List CharSet) : CharSet := sets.foldl union empty

/-- The set of the listed ranges, in any order. -/
def ofRanges (ranges : List (Nat × Nat)) : CharSet :=
  unions (ranges.map fun (lo, hi) => range lo hi)

/-- The set holds only ASCII characters. -/
def isAscii (s : CharSet) : Bool := s.ranges.all fun (_, hi) => hi < 0x80

/-- The single member of a set with one member. -/
def theOnly? (s : CharSet) : Option Nat :=
  match s.ranges with
  | [(lo, hi)] => if lo = hi then some lo else none
  | _ => none

/-! ## The packed form of the tables -/

/-- The value of a lower-case hexadecimal digit. -/
def hexValue (c : Char) : Nat := if c.isDigit then c.toNat - 48 else c.toNat - 87

/-- The numbers of a text of hexadecimal numbers separated by blanks; `acc` is the number being
read. -/
def numbersFrom (acc : Nat) : List Char → List Nat
  | [] => [acc]
  | c :: cs => if c = ' ' then acc :: numbersFrom 0 cs else numbersFrom (acc * 16 + hexValue c) cs

/-- Ranges given by the gap before each of them and its length less one. -/
def rangesFrom (start : Nat) : List Nat → List (Nat × Nat)
  | gap :: extra :: rest =>
    (start + gap, start + gap + extra) :: rangesFrom (start + gap + extra + 1) rest
  | _ => []

/-- The numbers of the lines of a table. -/
def numbers (lines : List String) : List Nat := lines.flatMap fun l => numbersFrom 0 l.toList

/-- The set that a packed table holds. -/
def packed (lines : List String) : CharSet := ⟨rangesFrom 0 (numbers lines)⟩

end CharSet

end TestDiscovery.Unicode
