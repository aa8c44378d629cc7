/-
# TestDiscovery.Pattern.Lexeme -- the units of a pattern

A pattern is a sequence of lexemes: atoms that match by themselves, operators
that apply to what precedes them, and brackets of groups and character sets.
-/
import TestDiscovery.Unicode.Property

namespace TestDiscovery.Pattern

set_option autoImplicit false

open TestDiscovery.Unicode

/-- Why a text is not a pattern. -/
inductive Fault where
  | unclosedGroup
  | unopenedGroup
  | unclosedSet
  | danglingBackslash
  | unknownEscape
  | badCodePoint
  | badCount
  | missingOperand
  | badFlags
  | badGroupName
  | repeatedGroupName
  | badWordBoundary
  | badSetItem
  | badSetRange
  | unknownProperty
  | needsUnicode
  | matchesBrokenText
  | tooDeep
  | tooLarge
  deriving DecidableEq, Repr

/-- What an inline flag switches. -/
inductive Flag where
  | ignoreCase
  | multiLine
  | dotMatchesNewline
  | swapGreed
  | unicode
  | crlf
  | verbose
  deriving DecidableEq, Repr

/-- One character of a flag list: a flag, or the hyphen after which flags are switched off. -/
inductive FlagItem where
  | negation
  | flag (f : Flag)
  deriving DecidableEq, Repr

/-- What a flag list says about one flag, `negated` telling whether a hyphen has been passed. -/
def settingFrom (f : Flag) (negated : Bool) : List FlagItem → Option Bool
  | [] => none
  | .negation :: rest => settingFrom f true rest
  | .flag g :: rest => if g = f then some (!negated) else settingFrom f negated rest

/-- What a flag list says about one flag. -/
def setting? (items : List FlagItem) (f : Flag) : Option Bool := settingFrom f false items

/-- Conditions on a position that take up no characters. -/
inductive Assertion where
  | startLine
  | endLine
  | startText
  | endText
  | wordBoundary
  | notWordBoundary
  | wordStart
  | wordEnd
  | wordStartHalf
  | wordEndHalf
  deriving DecidableEq, Repr

/-- The classes with a one-letter escape. -/
inductive ShortClass where
  | digit
  | space
  | word
  deriving DecidableEq, Repr

/-- The classes with a name in brackets and colons. -/
inductive NamedClass where
  | alnum
  | alpha
  | ascii
  | blank
  | cntrl
  | digit
  | graph
  | lower
  | print
  | punct
  | space
  | upper
  | word
  | xdigit
  deriving DecidableEq, Repr

/-- A character that stands for itself; `isByte` marks one written by two hexadecimal digits. -/
structure Literal where
  char : Char
  isByte : Bool
  deriving DecidableEq, Repr

/-- The smallest parts of a pattern. -/
inductive Atom where
  | literal (l : Literal)
  | dot
  | assertion (a : Assertion)
  | short (cls : ShortClass) (negated : Bool)
  | property (query : PropertyQuery) (negated : Bool)
  deriving DecidableEq, Repr

/-- The smallest parts of a bracketed set. -/
inductive SetItem where
  | literal (l : Literal)
  | range (lo hi : Literal)
  | named (cls : NamedClass) (negated : Bool)
  | short (cls : ShortClass) (negated : Bool)
  | property (query : PropertyQuery) (negated : Bool)
  deriving DecidableEq, Repr

/-- Operators between the parts of a bracketed set. -/
inductive SetOperator where
  | intersection
  | difference
  | symmetricDifference
  deriving DecidableEq, Repr

/-- How a group was opened. -/
inductive GroupKind where
  | capture
  | named (name : List Char)
  | flagged (items : List FlagItem)
  deriving DecidableEq, Repr

/-- The units of a pattern. -/
inductive Lexeme where
  | atom (a : Atom)
  | flags (items : List FlagItem)
  | groupOpen (kind : GroupKind)
  | groupClose
  | bar
  /-- A repetition of what precedes, at least `min` and, if given, at most `max` times. -/
  | repetition (min : Nat) (max : Option Nat)
  /-- The start of a set, with the hyphens or the bracket that stand for themselves there. -/
  | setOpen (negated : Bool) (leading : List Char)
  | setItem (item : SetItem)
  | setOperator (op : SetOperator)
  | setClose
  deriving DecidableEq, Repr

end TestDiscovery.Pattern
