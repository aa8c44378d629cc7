/-
# TestDiscovery.Json.Token -- JSON texts

A JSON text is a row of tokens: marks, and texts in quotes.  White space may stand
between them and at both ends.  `Json.tokens` is the row of a value, and `Spells` says
which texts spell a row: inside quotes a character stands for itself or is written by
an escape, a character past the first plane by the escapes of its two surrogates.

A text that spells the tokens of one value is a document of that value
(`Json.IsWrittenBy`).
-/
import TestDiscovery.Json.Basic

namespace TestDiscovery.Json

set_option autoImplicit false

/-! ## Tokens of a value -/

/-- The marks of a text. -/
inductive Mark where
  | openArray
  | closeArray
  | openObject
  | closeObject
  | colon
  | comma
  deriving DecidableEq, Repr

/-- The character of a mark. -/
def Mark.char : Mark → Char
  | .openArray => '['
  | .closeArray => ']'
  | .openObject => '\x7b'
  | .closeObject => '\x7d'
  | .colon => ':'
  | .comma => ','

/-- A mark, or a text in quotes. -/
inductive Token where
  | mark (m : Mark)
  | text (s : String)
  deriving DecidableEq, Repr

mutual

/-- The tokens of a value. -/
def tokens : Json → List Token
  | .text s => [.text s]
  | .array [] => [.mark .openArray, .mark .closeArray]
  | .array (item :: rest) =>
    .mark .openArray :: (tokens item ++ (itemTokens rest ++ [.mark .closeArray]))
  | .object [] => [.mark .openObject, .mark .closeObject]
  | .object ((key, value) :: rest) =>
    .mark .openObject :: .text key :: .mark .colon ::
      (tokens value ++ (fieldTokens rest ++ [.mark .closeObject]))

/-- The tokens of the items after the first. -/
def itemTokens : List Json → List Token
  | [] => []
  | item :: rest => .mark .comma :: (tokens item ++ itemTokens rest)

/-- The tokens of the fields after the first. -/
def fieldTokens : List (String × Json) → List Token
  | [] => []
  | (key, value) :: rest =>
    .mark .comma :: .text key :: .mark .colon :: (tokens value ++ fieldTokens rest)

end

/-! ## Escapes -/

/-- The character of an escape of one letter. -/
def letterEscape? (c : Char) : Option Char :=
  match c with
  | '"' => some '"'
  | '\\' => some '\\'
  | '/' => some '/'
  | 'b' => some '\x08'
  | 'f' => some '\x0c'
  | 'n' => some '\n'
  | 'r' => some '\r'
  | 't' => some '\t'
  | _ => none

/-- The value of a hexadecimal digit in either case. -/
def hexValue? (c : Char) : Option Nat :=
  if '0' ≤ c ∧ c ≤ '9' then some (c.toNat - 48)
  else if 'a' ≤ c ∧ c ≤ 'f' then some (c.toNat - 87)
  else if 'A' ≤ c ∧ c ≤ 'F' then some (c.toNat - 55)
  else none

/-- The code unit that the first four characters write. -/
def unit? : List Char → Option Nat
  | a :: b :: c :: d :: _ => do
    return (← hexValue? a) * 4096 + (← hexValue? b) * 256 + (← hexValue? c) * 16 + (← hexValue? d)
  | _ => none

/-- The first surrogates of a pair. -/
def IsHigh (n : Nat) : Prop := 0xD800 ≤ n ∧ n < 0xDC00

/-- The second surrogates of a pair. -/
def IsLow (n : Nat) : Prop := 0xDC00 ≤ n ∧ n < 0xE000

instance (n : Nat) : Decidable (IsHigh n) := inferInstanceAs (Decidable (_ ∧ _))

instance (n : Nat) : Decidable (IsLow n) := inferInstanceAs (Decidable (_ ∧ _))

/-- The code point of a pair of surrogates. -/
def pairCode (high low : Nat) : Nat := 0x10000 + (high - 0xD800) * 0x400 + (low - 0xDC00)

/-! ## Spellings -/

/-- White space between tokens. -/
def isSpace (c : Char) : Bool := c == ' ' || c == '\t' || c == '\n' || c == '\r'

/-- The characters spell a character inside quotes. -/
inductive SpellsChar : Char → List Char → Prop
  /-- No control character, quote or backslash stands for itself. -/
  | plain {c : Char} (h : 0x20 ≤ c.toNat) (quote : c ≠ '"') (backslash : c ≠ '\\') :
      SpellsChar c [c]
  | letter {c e : Char} (h : letterEscape? e = some c) : SpellsChar c ['\\', e]
  | unit {c : Char} {ds : List Char} (h : unit? ds = some c.toNat) (four : ds.length = 4) :
      SpellsChar c ('\\' :: 'u' :: ds)
  | pair {c : Char} {ds es : List Char} {high low : Nat} (first : unit? ds = some high)
      (second : unit? es = some low) (isHigh : IsHigh high) (isLow : IsLow low)
      (code : c.toNat = pairCode high low) (four : ds.length = 4) (fourMore : es.length = 4) :
      SpellsChar c ('\\' :: 'u' :: (ds ++ '\\' :: 'u' :: es))

/-- The characters spell a text inside quotes. -/
inductive SpellsText : List Char → List Char → Prop
  | nil : SpellsText [] []
  | cons {c : Char} {cs spelled rest : List Char} (head : SpellsChar c spelled)
      (tail : SpellsText cs rest) : SpellsText (c :: cs) (spelled ++ rest)

/-- The characters spell a row of tokens. -/
inductive Spells : List Token → List Char → Prop
  | nil : Spells [] []
  | space {c : Char} {ts : List Token} {cs : List Char} (h : isSpace c = true)
      (rest : Spells ts cs) : Spells ts (c :: cs)
  | mark {ts : List Token} {cs : List Char} (m : Mark) (rest : Spells ts cs) :
      Spells (.mark m :: ts) (m.char :: cs)
  | text {s : String} {spelled : List Char} {ts : List Token} {cs : List Char}
      (inside : SpellsText s.toList spelled) (rest : Spells ts cs) :
      Spells (.text s :: ts) ('"' :: (spelled ++ '"' :: cs))

/-- The whole text is a document of the value. -/
def IsWrittenBy (j : Json) (s : String) : Prop := Spells j.tokens s.toList

end TestDiscovery.Json
