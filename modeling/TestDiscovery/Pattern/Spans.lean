/-
# TestDiscovery.Pattern.Spans -- which spans of a text match

A text of `n` characters has `n + 1` positions.  `Walk.reach` takes a set of
positions and computes where the matching spans that start in it may end.  Sets of
positions are numbers whose bit `k` stands for position `k`, so all spans are
followed at once and no pattern makes the work explode.
-/
import TestDiscovery.Pattern.Expr

namespace TestDiscovery.Pattern

set_option autoImplicit false

open TestDiscovery.Unicode

/-! ## Positions -/

/-- A position of a text: the characters on its two sides. -/
structure Point where
  before : Option Char
  after : Option Char
  deriving DecidableEq, Repr

/-- The positions of a text that comes after the character `before`. -/
def pointsAfter (before : Option Char) : List Char → List Point
  | [] => [⟨before, none⟩]
  | c :: cs => ⟨before, some c⟩ :: pointsAfter (some c) cs

/-- The positions of a text. -/
def points (text : List Char) : List Point := pointsAfter none text

theorem length_pointsAfter (before : Option Char) (cs : List Char) :
    (pointsAfter before cs).length = cs.length + 1 := by
  induction cs generalizing before with
  | nil => rfl
  | cons c cs ih => simp [pointsAfter, ih]

/-- A word character stands there. -/
def isWordAt (unicode : Bool) (c : Option Char) : Bool :=
  c.any (if unicode then ShortClass.word.set else ShortClass.word.ascii).has

/-- Whether a boundary of a kind lies between word characters (`true`) and others. -/
def boundaryHolds : Assertion → Bool → Bool → Bool
  | .wordBoundary, before, after => before != after
  | .notWordBoundary, before, after => before == after
  | .wordStart, before, after => !before && after
  | .wordEnd, before, after => before && !after
  | .wordStartHalf, before, _ => !before
  | .wordEndHalf, _, after => !after
  | _, _, _ => false

/-- Whether a condition holds at a position.  A carriage return and the line feed after it end a
line together, so that no line starts or ends between them. -/
def Look.holds : Look → Point → Bool
  | .startText, p => p.before.isNone
  | .endText, p => p.after.isNone
  | .startLine, p => p.before.isNone || p.before == some '\n'
  | .endLine, p => p.after.isNone || p.after == some '\n'
  | .startLineCrlf, p =>
    p.before.isNone || p.before == some '\n' || (p.before == some '\r' && p.after != some '\n')
  | .endLineCrlf, p =>
    p.after.isNone || p.after == some '\r' || (p.after == some '\n' && p.before != some '\r')
  | .word kind unicode, p =>
    boundaryHolds kind (isWordAt unicode p.before) (isWordAt unicode p.after)

/-! ## Sets of positions -/

/-- The positions where a condition holds, as a set: bit `k` stands for position `k`. -/
def placesWhere (holds : Point → Bool) : List Point → Nat
  | [] => 0
  | p :: ps => 2 * placesWhere holds ps + (holds p).toNat

theorem testBit_placesWhere (holds : Point → Bool) (ps : List Point) (k : Nat) :
    (placesWhere holds ps).testBit k = ps[k]?.any holds := by
  induction ps generalizing k with
  | nil => simp [placesWhere]
  | cons p ps ih =>
    cases k with
    | zero => cases h : holds p <;> simp [placesWhere, h, Nat.testBit_zero]
    | succ k =>
      have half : (2 * placesWhere holds ps + (holds p).toNat) / 2 = placesWhere holds ps := by
        have := Bool.toNat_le (holds p)
        omega
      rw [placesWhere, Nat.testBit_succ, half, ih]
      rfl

/-- `f` applied `count` times, or until it changes nothing any more. -/
def iterate {α : Type} [DecidableEq α] (f : α → α) : Nat → α → α
  | 0, x => x
  | count + 1, x =>
    let y := f x
    if y = x then x else iterate f count y

/-! ## Walks -/

/-- An expression laid over a text: its sets and conditions have become sets of positions. -/
inductive Walk where
  /-- Stay at a position of the set. -/
  | stay (places : Nat)
  /-- Go over the character after a position of the set. -/
  | step (places : Nat)
  | cat (first rest : Walk)
  | alt (first rest : Walk)
  | repeated (min : Nat) (max : Option Nat) (body : Walk)

/-- The expression laid over a text. -/
def Expr.walk (ps : List Point) : Expr → Walk
  | .empty => .stay (placesWhere (fun _ => true) ps)
  | .chars set => .step (placesWhere (fun p => p.after.any set.has) ps)
  | .look l => .stay (placesWhere l.holds ps)
  | .cat first rest => .cat (first.walk ps) (rest.walk ps)
  | .alt first rest => .alt (first.walk ps) (rest.walk ps)
  | .repeated min max body => .repeated min max (body.walk ps)
  | .capture body => body.walk ps

/-- Where a walk from one of the given positions may end, in a text with `size` positions.  More
than `size` rounds can be had only with idle ones among them, and then any larger number can be
had too; so no more rounds than that are made. -/
def Walk.reach (size : Nat) : Walk → Nat → Nat
  | .stay places, s => s &&& places
  | .step places, s => 2 * (s &&& places)
  | .cat first rest, s => rest.reach size (first.reach size s)
  | .alt first rest, s => first.reach size s ||| rest.reach size s
  | .repeated min max body, s =>
    let least := iterate (body.reach size) (Nat.min min size) s
    let more := match max with
      | none => size
      | some max => Nat.min (max - min) size
    iterate (fun s => s ||| body.reach size s) more least

/-- Some span of the text matches. -/
def Expr.matchesIn (e : Expr) (text : String) : Bool :=
  let ps := points text.toList
  (e.walk ps).reach ps.length (placesWhere (fun _ => true) ps) != 0

end TestDiscovery.Pattern
