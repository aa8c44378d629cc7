/-
# TestDiscovery.Text.Quoted -- a list of texts as a log record quotes it

A log record shows a list of texts in brackets, each in double quotes.  Quotes,
backslashes and the common control characters are written with a backslash;
characters that have no visible form of their own, and marks that would join the
quote before them, are written by their code point.
-/
import TestDiscovery.Unicode.Binary

namespace TestDiscovery.Text.Quoted

set_option autoImplicit false

open TestDiscovery.Unicode

/-- Lower-case hexadecimal digits, without leading zeros. -/
def hexDigits (n : Nat) : List Char := Nat.toDigits 16 n

/-- The code point form of a character. -/
def codePoint (c : Char) : List Char := "\\u\x7b".toList ++ hexDigits c.toNat ++ ['\x7d']

/-- Characters shown by their code point: joining marks, controls, format characters, unassigned
and private-use code points, and every space but the plain one. -/
def isHidden (c : Char) : Bool :=
  c != ' ' && (graphemeExtend.has c || otherCategory.has c || separator.has c)

/-- One character inside quotes. -/
def escaped (c : Char) : List Char :=
  match c with
  | '\x00' => ['\\', '0']
  | '\t' => ['\\', 't']
  | '\r' => ['\\', 'r']
  | '\n' => ['\\', 'n']
  | '\\' => ['\\', '\\']
  | '"' => ['\\', '"']
  | c => if c.toNat < 0x7F && 0x20 ≤ c.toNat then [c]
    else if isHidden c then codePoint c else [c]

/-- A text in double quotes. -/
def quote (s : String) : String :=
  String.ofList ('"' :: s.toList.flatMap escaped ++ ['"'])

/-- A list of quoted texts in brackets. -/
def quoteList (xs : List String) : String :=
  "[" ++ ", ".intercalate (xs.map quote) ++ "]"

end TestDiscovery.Text.Quoted
