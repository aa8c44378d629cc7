/-
# TestDiscovery.Pattern.Compiled -- from a text to the expression it writes

A text is a pattern when it can be cut into lexemes that form a tree, when the
tree is not too deep, when it has a meaning and when the machine for it is not too
large.  `anchored` writes the text that matches only a whole name.
-/
import TestDiscovery.Pattern.Footprint
import TestDiscovery.Pattern.Lexer
import TestDiscovery.Pattern.Spans

namespace TestDiscovery.Pattern

set_option autoImplicit false

/-- The tree that a text writes, within the nesting limit. -/
def parse (text : List Char) : Except Fault Tree := do
  let tree ← Tree.ofLexemes (← lex text)
  if tree.depth ≤ nestLimit then return tree else throw .tooDeep

/-- The meaning of a text as a pattern. -/
def compile (text : List Char) : Except Fault Expr := do
  let e ← (← parse text).expr
  if e.fits then return e else throw .tooLarge

/-- The pattern that matches where the given one matches the whole of a text. -/
def anchored (text : List Char) : List Char := "^(?:".toList ++ text ++ ")$".toList

/-- The meaning of a pattern that has to match whole names.  The pattern must be one by itself:
otherwise a parenthesis in it could close the group around it. -/
def compileWhole (text : List Char) : Except Fault Expr := do
  let _ ← compile text
  compile (anchored text)

end TestDiscovery.Pattern
