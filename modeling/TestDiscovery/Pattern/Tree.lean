/-
# TestDiscovery.Pattern.Tree -- the structure of a pattern

`Tree.ofLexemes` folds the lexemes of a pattern over a stack of open groups and
open sets.  A sequence of parts, a choice between branches and a set of items are
spines that lean to the right; `Tree.depth` counts a whole spine as one level, and
a pattern may be at most `nestLimit` levels deep.
-/
import TestDiscovery.Pattern.Lexeme

namespace TestDiscovery.Pattern

set_option autoImplicit false

/-! ## Trees -/

/-- The inside of a bracketed set. -/
inductive SetTree where
  | empty
  | item (i : SetItem)
  | bracketed (negated : Bool) (inside : SetTree)
  | union (first rest : SetTree)
  | operation (op : SetOperator) (left right : SetTree)
  deriving DecidableEq, Repr

/-- The structure of a pattern. -/
inductive Tree where
  | empty
  | atom (a : Atom)
  | flags (items : List FlagItem)
  | set (negated : Bool) (inside : SetTree)
  | repetition (min : Nat) (max : Option Nat) (body : Tree)
  | group (kind : GroupKind) (body : Tree)
  | cat (first rest : Tree)
  | alt (first rest : Tree)
  deriving DecidableEq, Repr

/-- The spine of some parts: nothing for none, a single part by itself. -/
def spine {α : Type} (empty : α) (join : α → α → α) : List α → α
  | [] => empty
  | [x] => x
  | x :: y :: rest => join x (spine empty join (y :: rest))

/-! ## Depth -/

/-- The levels of a set; in a spine that is already counted, `counted` is set. -/
def SetTree.depth (counted : Bool) : SetTree → Nat
  | .empty => 0
  | .item _ => 0
  | .bracketed _ inside => inside.depth false + 1
  | .union first rest =>
    let d := max (first.depth false) (rest.depth true)
    if counted then d else d + 1
  | .operation _ left right => max (left.depth false) (right.depth false) + 1

/-- The spine that a tree goes on with. -/
inductive Spine where
  | none
  | sequence
  | choice
  deriving DecidableEq, Repr

/-- The levels of a tree that stands in a spine. -/
def Tree.depthIn (within : Spine) : Tree → Nat
  | .empty => 0
  | .atom _ => 0
  | .flags _ => 0
  | .set _ inside => inside.depth false + 1
  | .repetition _ _ body => body.depthIn .none + 1
  | .group _ body => body.depthIn .none + 1
  | .cat first rest =>
    let d := max (first.depthIn .none) (rest.depthIn .sequence)
    if within = .sequence then d else d + 1
  | .alt first rest =>
    let d := max (first.depthIn .none) (rest.depthIn .choice)
    if within = .choice then d else d + 1

/-- The levels of a tree. -/
def Tree.depth (t : Tree) : Nat := t.depthIn .none

/-- The deepest nesting that a pattern may have. -/
def nestLimit : Nat := 250

/-! ## The stack of open brackets -/

/-- An open group: the parts of the branch being read and the branches before it, latest first. -/
structure Branches where
  parts : List Tree
  finished : List Tree
  deriving DecidableEq, Repr

/-- The tree of a group whose end has been reached. -/
def Branches.tree (b : Branches) : Tree :=
  spine .empty .alt (spine .empty .cat b.parts.reverse :: b.finished).reverse

/-- An open set: the operator that waits for its right side, with its left side, and the items
after it, latest first. -/
structure OpenSet where
  negated : Bool
  left : Option (SetTree × SetOperator)
  items : List SetTree
  deriving DecidableEq, Repr

/-- What has been read of the set so far, as one tree. -/
def OpenSet.tree (s : OpenSet) : SetTree :=
  let right := spine .empty .union s.items.reverse
  match s.left with
  | some (left, op) => .operation op left right
  | none => right

/-- The open sets, innermost first, the innermost group, and the groups around it, innermost
first, each with the way its content was opened. -/
structure Stack where
  sets : List OpenSet
  inner : Branches
  outer : List (GroupKind × Branches)
  deriving DecidableEq, Repr

/-- Nothing has been read. -/
def Stack.start : Stack := ⟨[], ⟨[], []⟩, []⟩

/-- Add a part to the current branch. -/
def Stack.push (st : Stack) (t : Tree) : Stack :=
  { st with inner := { st.inner with parts := t :: st.inner.parts } }

/-- Add items to the innermost set. -/
def Stack.pushItem (st : Stack) (t : SetTree) : Stack :=
  match st.sets with
  | s :: rest => { st with sets := { s with items := t :: s.items } :: rest }
  | [] => st

/-- Close the innermost set. -/
def Stack.closeSet (st : Stack) : Stack :=
  match st.sets with
  | [] => st
  | [s] => { st with sets := [] }.push (.set s.negated s.tree)
  | s :: rest => { st with sets := rest }.pushItem (.bracketed s.negated s.tree)

/-- Apply an operator to the items read so far. -/
def Stack.operate (st : Stack) (op : SetOperator) : Stack :=
  match st.sets with
  | s :: rest => { st with sets := { s with left := some (s.tree, op), items := [] } :: rest }
  | [] => st

/-- Repeat the last part; there must be one, and a flag list is none. -/
def Stack.repeatLast (st : Stack) (min : Nat) (max : Option Nat) : Except Fault Stack :=
  match st.inner.parts with
  | [] => .error .missingOperand
  | .flags _ :: _ => .error .missingOperand
  | t :: rest =>
    .ok { st with inner := { st.inner with parts := .repetition min max t :: rest } }

/-- Close the innermost group. -/
def Stack.closeGroup (st : Stack) : Except Fault Stack :=
  match st.outer with
  | [] => .error .unopenedGroup
  | (kind, around) :: rest =>
    .ok ({ st with inner := around, outer := rest }.push (.group kind st.inner.tree))

/-- Take one lexeme. -/
def Stack.take (st : Stack) : Lexeme → Except Fault Stack
  | .atom a => .ok (st.push (.atom a))
  | .flags items => .ok (st.push (.flags items))
  | .groupOpen kind => .ok { st with inner := ⟨[], []⟩, outer := (kind, st.inner) :: st.outer }
  | .groupClose => st.closeGroup
  | .bar =>
    .ok { st with
      inner := ⟨[], spine .empty .cat st.inner.parts.reverse :: st.inner.finished⟩ }
  | .repetition min max => st.repeatLast min max
  | .setOpen negated leading =>
    .ok { st with
      sets := ⟨negated, none, leading.map fun c => .item (.literal ⟨c, false⟩)⟩ :: st.sets }
  | .setItem item => .ok (st.pushItem (.item item))
  | .setOperator op => .ok (st.operate op)
  | .setClose => .ok st.closeSet

/-- The tree, when no group is open any more. -/
def Stack.finish (st : Stack) : Except Fault Tree :=
  match st.outer with
  | [] => .ok st.inner.tree
  | _ :: _ => .error .unclosedGroup

/-- The tree of the lexemes of a pattern. -/
def Tree.ofLexemes (lexemes : List Lexeme) : Except Fault Tree := do
  (← lexemes.foldlM Stack.take .start).finish

end TestDiscovery.Pattern
