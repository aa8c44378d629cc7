/-
# TestDiscovery.Pattern.Expr -- what a pattern means

An expression says which spans of a text a pattern matches, with flags, classes
and letter case already resolved.  `Tree.expr` walks over a tree from left to
right and carries the flags that are in force; a group restores those from before
it at its end.
-/
import TestDiscovery.Pattern.Tree

namespace TestDiscovery.Pattern

set_option autoImplicit false

open TestDiscovery.Unicode

/-! ## Expressions -/

/-- Conditions on a position, between the character before it and the one after it. -/
inductive Look where
  | startText
  | endText
  | startLine
  | endLine
  /-- Line starts and ends where carriage return, line feed and the two together end a line. -/
  | startLineCrlf
  | endLineCrlf
  /-- Conditions on word characters before and after. -/
  | word (kind : Assertion) (unicode : Bool)
  deriving DecidableEq, Repr

/-- The meaning of a pattern. -/
inductive Expr where
  /-- Matches at every position, without characters. -/
  | empty
  /-- Matches one character of the set. -/
  | chars (set : CharSet)
  | look (l : Look)
  | cat (first rest : Expr)
  | alt (first rest : Expr)
  | repeated (min : Nat) (max : Option Nat) (body : Expr)
  /-- A group that is numbered or named; it matches what its body matches. -/
  | capture (body : Expr)

/-! ## Flags -/

/-- The flags that bear on matching. -/
structure Modes where
  ignoreCase : Bool
  multiLine : Bool
  dotMatchesNewline : Bool
  unicode : Bool
  crlf : Bool
  deriving DecidableEq, Repr

/-- The flags at the start of a pattern. -/
def Modes.initial : Modes := ⟨false, false, false, true, false⟩

/-- The flags after a flag list. -/
def Modes.set (m : Modes) (items : List FlagItem) : Modes :=
  { ignoreCase := (setting? items .ignoreCase).getD m.ignoreCase
    multiLine := (setting? items .multiLine).getD m.multiLine
    dotMatchesNewline := (setting? items .dotMatchesNewline).getD m.dotMatchesNewline
    unicode := (setting? items .unicode).getD m.unicode
    crlf := (setting? items .crlf).getD m.crlf }

/-- Close a set under letter case, as far as the mode asks for it. -/
def Modes.fold (m : Modes) (s : CharSet) : CharSet :=
  if !m.ignoreCase then s else if m.unicode then s.foldCase else s.foldAsciiCase

/-! ## Classes -/

/-- Digits, white space and word characters of ASCII. -/
def ShortClass.ascii : ShortClass → CharSet
  | .digit => .range 0x30 0x39
  | .space => .ofRanges [(0x09, 0x0D), (0x20, 0x20)]
  | .word => .ofRanges [(0x30, 0x39), (0x41, 0x5A), (0x5F, 0x5F), (0x61, 0x7A)]

/-- Digits, white space and word characters. -/
def ShortClass.set : ShortClass → CharSet
  | .digit => decimalNumber
  | .space => whiteSpace
  | .word => wordCharacter

/-- The named classes, all of them within ASCII. -/
def NamedClass.set : NamedClass → CharSet
  | .alnum => .ofRanges [(0x30, 0x39), (0x41, 0x5A), (0x61, 0x7A)]
  | .alpha => .ofRanges [(0x41, 0x5A), (0x61, 0x7A)]
  | .ascii => .range 0x00 0x7F
  | .blank => .ofRanges [(0x09, 0x09), (0x20, 0x20)]
  | .cntrl => .ofRanges [(0x00, 0x1F), (0x7F, 0x7F)]
  | .digit => .range 0x30 0x39
  | .graph => .range 0x21 0x7E
  | .lower => .range 0x61 0x7A
  | .print => .range 0x20 0x7E
  | .punct => .ofRanges [(0x21, 0x2F), (0x3A, 0x40), (0x5B, 0x60), (0x7B, 0x7E)]
  | .space => .ofRanges [(0x09, 0x0D), (0x20, 0x20)]
  | .upper => .range 0x41 0x5A
  | .word => .ofRanges [(0x30, 0x39), (0x41, 0x5A), (0x5F, 0x5F), (0x61, 0x7A)]
  | .xdigit => .ofRanges [(0x30, 0x39), (0x41, 0x46), (0x61, 0x66)]

/-- A set as it is used: outside Unicode mode it must stay within ASCII, since it would match
parts of characters otherwise. -/
def Modes.admit (m : Modes) (s : CharSet) : Except Fault CharSet :=
  if m.unicode || s.isAscii then .ok s else .error .matchesBrokenText

/-- The set, negated if asked for. -/
def negatedIf (negated : Bool) (s : CharSet) : CharSet := if negated then s.compl else s

/-- Close a set under letter case and then negate it. -/
def Modes.foldNegate (m : Modes) (negated : Bool) (s : CharSet) : Except Fault CharSet :=
  m.admit (negatedIf negated (m.fold s))

/-- The set of a class of one letter. -/
def Modes.shortSet (m : Modes) (cls : ShortClass) (negated : Bool) : Except Fault CharSet :=
  m.admit (negatedIf negated (if m.unicode then cls.set else cls.ascii))

/-- The set of a property. -/
def Modes.propertySet (m : Modes) (query : PropertyQuery) (negated : Bool) :
    Except Fault CharSet :=
  if !m.unicode then .error .needsUnicode
  else match query.set? with
    | some s => m.foldNegate negated s
    | none => .error .unknownProperty

/-- The character of a literal; outside Unicode mode two hexadecimal digits name a byte, which is
no character past ASCII. -/
def Modes.literal (m : Modes) (l : Literal) : Except Fault Char :=
  if !m.unicode && l.isByte && 0x80 ≤ l.char.toNat then .error .matchesBrokenText
  else .ok l.char

/-- The character of a literal in a set; outside Unicode mode it must be an ASCII character. -/
def Modes.setLiteral (m : Modes) (l : Literal) : Except Fault Nat :=
  if !m.unicode && 0x80 ≤ l.char.toNat then .error .needsUnicode else .ok l.char.toNat

/-- The set of a set item. -/
def Modes.itemSet (m : Modes) : SetItem → Except Fault CharSet
  | .literal l => do return .single (← m.setLiteral l)
  | .range lo hi => do return .range (← m.setLiteral lo) (← m.setLiteral hi)
  | .named cls negated => m.foldNegate negated cls.set
  | .short cls negated => m.shortSet cls negated
  | .property query negated => m.propertySet query negated

/-- The set that an operator makes of two. -/
def SetOperator.apply : SetOperator → CharSet → CharSet → CharSet
  | .intersection, s, t => s.inter t
  | .difference, s, t => s.diff t
  | .symmetricDifference, s, t => s.symmDiff t

/-- The set of the inside of a bracketed set; the operands of an operator are closed under letter
case first. -/
def SetTree.set (m : Modes) : SetTree → Except Fault CharSet
  | .empty => .ok .empty
  | .item i => m.itemSet i
  | .bracketed negated inside => do m.foldNegate negated (← inside.set m)
  | .union first rest => do return (← first.set m).union (← rest.set m)
  | .operation op left right => do
    return op.apply (m.fold (← left.set m)) (m.fold (← right.set m))

/-! ## From a tree to its meaning -/

/-- The condition of an assertion. -/
def Modes.look (m : Modes) : Assertion → Look
  | .startLine =>
    if !m.multiLine then .startText else if m.crlf then .startLineCrlf else .startLine
  | .endLine => if !m.multiLine then .endText else if m.crlf then .endLineCrlf else .endLine
  | .startText => .startText
  | .endText => .endText
  | kind => .word kind m.unicode

/-- What a dot matches. -/
def Modes.dotSet (m : Modes) : CharSet :=
  if m.dotMatchesNewline then .full
  else if m.crlf then (CharSet.ofRanges [(0x0A, 0x0A), (0x0D, 0x0D)]).compl
  else (CharSet.single 0x0A).compl

/-- The meaning of an atom. -/
def Modes.atom (m : Modes) : Atom → Except Fault Expr
  | .literal l => do return .chars (m.fold (.single (← m.literal l).toNat))
  | .dot => if m.unicode then .ok (.chars m.dotSet) else .error .matchesBrokenText
  | .assertion a => .ok (.look (m.look a))
  | .short cls negated => do return .chars (← m.shortSet cls negated)
  | .property query negated => do return .chars (← m.propertySet query negated)

/-- The meaning of a tree under the flags before it, with the flags after it. -/
def Tree.exprWith (m : Modes) : Tree → Except Fault (Expr × Modes)
  | .empty => .ok (.empty, m)
  | .atom a => do return (← m.atom a, m)
  | .flags items => .ok (.empty, m.set items)
  | .set negated inside => do return (.chars (← m.foldNegate negated (← inside.set m)), m)
  | .repetition min max body => do
    let (e, m) ← body.exprWith m
    return (.repeated min max e, m)
  | .group kind body =>
    match kind with
    | .flagged items => do
      let (e, _) ← body.exprWith (m.set items)
      return (e, m)
    | _ => do
      let (e, _) ← body.exprWith m
      return (.capture e, m)
  | .cat first rest => do
    let (e, m) ← first.exprWith m
    let (f, m) ← rest.exprWith m
    return (.cat e f, m)
  | .alt first rest => do
    let (e, m) ← first.exprWith m
    let (f, m) ← rest.exprWith m
    return (.alt e f, m)

/-- The meaning of a tree. -/
def Tree.expr (t : Tree) : Except Fault Expr := (t.exprWith .initial).map Prod.fst

end TestDiscovery.Pattern
