/-
# TestDiscovery.Pattern.Shape -- an expression as the machine for it is built

Before a machine is built the expression is simplified: rows and choices are
flattened, characters that follow one another become words, a choice between
characters becomes a set, and a choice takes out the parts that all its branches
start with.

An expression does not tell a choice from the same choice with its last branches
in a group, nor a repetition that takes as much as it can from one that takes as
little; a shape takes the first of each.
-/
import TestDiscovery.Pattern.Expr

namespace TestDiscovery.Pattern

set_option autoImplicit false

open TestDiscovery.Unicode

/-- A simplified expression. -/
inductive Shape where
  /-- Code points one after the other. -/
  | word (chars : List Nat)
  /-- One character of the set. -/
  | set (members : CharSet)
  | look (l : Look)
  | repeated (min : Nat) (max : Option Nat) (body : Shape)
  | capture (body : Shape)
  /-- Parts one after the other; without parts it matches the empty text. -/
  | row (parts : List Shape)
  | choice (branches : List Shape)

namespace Shape

/-- The empty text. -/
def empty : Shape := .row []

mutual

/-- Equality of shapes; captures are numbered, so no two of them are equal. -/
def same : Shape → Shape → Bool
  | .word a, .word b => a == b
  | .set s, .set t => s == t
  | .look l, .look k => l == k
  | .repeated min max body, .repeated min' max' body' =>
    min == min' && max == max' && body.same body'
  | .row a, .row b => sameEach a b
  | .choice a, .choice b => sameEach a b
  | _, _ => false

/-- Equality of lists of shapes. -/
def sameEach : List Shape → List Shape → Bool
  | [], [] => true
  | s :: a, t :: b => s.same t && sameEach a b
  | _, _ => false

end

end Shape

/-! ## What the matches of a shape have in common -/

/-- What is known of every match. -/
structure Traits where
  /-- A number of characters that no match is shorter than. -/
  least : Option Nat
  /-- A number of characters that no match is longer than. -/
  most : Option Nat
  /-- Every match starts at the start of the text. -/
  startsText : Bool
  /-- Every match ends at the end of the text. -/
  endsText : Bool

namespace Traits

/-- Matches are never empty. -/
def neverEmpty (t : Traits) : Bool := t.least.any (0 < ·)

/-- Matches are always empty. -/
def onlyEmpty (t : Traits) : Bool := t.most == some 0

/-- A match followed by a match. -/
def before (t u : Traits) : Traits :=
  { least := do return (← t.least) + (← u.least)
    most := do return (← t.most) + (← u.most)
    startsText := t.startsText || (t.onlyEmpty && u.startsText)
    endsText := u.endsText || (u.onlyEmpty && t.endsText) }

/-- A match of either kind. -/
def either (t u : Traits) : Traits :=
  { least := do return min (← t.least) (← u.least)
    most := do return max (← t.most) (← u.most)
    startsText := t.startsText && u.startsText
    endsText := t.endsText && u.endsText }

/-- Several matches one after the other. -/
def times (min : Nat) (max : Option Nat) (t : Traits) : Traits :=
  { least := t.least.map (· * min)
    most := do return (← t.most) * (← max)
    startsText := 0 < min && t.startsText
    endsText := 0 < min && t.endsText }

/-- The empty match. -/
def empty : Traits := ⟨some 0, some 0, false, false⟩

/-- Matches one after the other. -/
def row : List Traits → Traits
  | [] => empty
  | t :: rest => t.before (row rest)

/-- A match of any of the kinds. -/
def choice : List Traits → Traits
  | [] => empty
  | [t] => t
  | t :: rest => t.either (choice rest)

end Traits

namespace Shape

mutual

/-- What the matches of a shape have in common. -/
def traits : Shape → Traits
  | .word chars => ⟨some chars.length, some chars.length, false, false⟩
  | .set members =>
    let length := if members.ranges.isEmpty then none else some 1
    ⟨length, length, false, false⟩
  | .look l => ⟨some 0, some 0, l == .startText, l == .endText⟩
  | .repeated min max body => body.traits.times min max
  | .capture body => body.traits
  | .row parts => .row (traitsEach parts)
  | .choice branches => .choice (traitsEach branches)

/-- The traits of each shape of a list. -/
def traitsEach : List Shape → List Traits
  | [] => []
  | s :: rest => s.traits :: traitsEach rest

end

/-! ## Simplification -/

/-- One character of a set; a set of one character is a word. -/
def ofSet (members : CharSet) : Shape :=
  match members.theOnly? with
  | some n => .word [n]
  | none => .set members

/-- The parts of a row. -/
def parts : Shape → List Shape
  | .row parts => parts
  | s => [s]

/-- Parts one after the other. -/
def ofParts : List Shape → Shape
  | [s] => s
  | parts => .row parts

/-- Parts and the parts after them; words that meet become one. -/
def joinParts : List Shape → List Shape → List Shape
  | [], rest => rest
  | [.word a], .word b :: rest => .word (a ++ b) :: rest
  | s :: front, rest => s :: joinParts front rest

/-- A shape and the one after it. -/
def join (a b : Shape) : Shape := ofParts (joinParts a.parts b.parts)

/-- A repetition.  What matches only the empty text is taken once at most; taking it exactly once
is no repetition. -/
def times (min : Nat) (max : Option Nat) (body : Shape) : Shape :=
  let (min, max) :=
    if body.traits.onlyEmpty then (Min.min min 1, some (max.elim 1 (Min.min · 1))) else (min, max)
  if min = 0 ∧ max = some 0 then empty
  else if min = 1 ∧ max = some 1 then body
  else .repeated min max body

/-- The branches of a choice. -/
def branches : Shape → List Shape
  | .choice branches => branches
  | s => [s]

/-- The code point of a word of one character. -/
def char? : Shape → Option Nat
  | .word [n] => some n
  | _ => none

/-- The members of a set. -/
def members? : Shape → Option CharSet
  | .set members => some members
  | _ => none

/-- The parts of a shape that is a row. -/
def parts? : Shape → Option (List Shape)
  | .row parts => some parts
  | _ => none

/-- One set for branches that are all characters or all sets.  Characters beside sets stay
apart. -/
def oneSet? (branches : List Shape) : Option CharSet :=
  match branches.mapM char? with
  | some chars => some (CharSet.unions (chars.map CharSet.single))
  | none => (branches.mapM members?).map CharSet.unions

/-- A choice between branches, without taking out what they start with. -/
def choose (branches : List Shape) : Shape :=
  match branches with
  | [s] => s
  | _ =>
    match oneSet? branches with
    | some members => ofSet members
    | none => .choice branches

/-- The parts that two rows start with. -/
def commonParts : List Shape → List Shape → List Shape
  | s :: a, t :: b => if s.same t then s :: commonParts a b else []
  | _, _ => []

/-- A choice between shapes.  The parts that all branches start with are taken out if every branch
is a row. -/
def among (shapes : List Shape) : Shape :=
  let all := shapes.flatMap branches
  match all.mapM parts? with
  | some (first :: second :: others) =>
    match (second :: others).foldl commonParts first with
    | [] => choose all
    | front =>
      -- the tails have no first part in common, so they need no second look
      let tails := (first :: second :: others).map fun row => ofParts (row.drop front.length)
      ofParts (joinParts front (choose (tails.flatMap branches)).parts)
  | _ => choose all

end Shape

/-- The branches of an expression as shapes; what is no choice is its only branch. -/
def Expr.branches : Expr → List Shape
  | .empty => [.empty]
  | .chars set => [.ofSet set]
  | .look l => [.look l]
  | .cat a b => [(Shape.among a.branches).join (Shape.among b.branches)]
  | .alt a b => Shape.among a.branches :: b.branches
  | .repeated min max body => [(Shape.among body.branches).times min max]
  | .capture body => [.capture (Shape.among body.branches)]

/-- The shape of an expression. -/
def Expr.shape (e : Expr) : Shape := Shape.among e.branches

end TestDiscovery.Pattern
