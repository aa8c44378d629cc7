/-
# TestDiscovery.Json.Basic -- JSON values and their printed form

The values that summaries need: texts, arrays and objects, whose fields keep their
order.  `Json.pretty` prints a value with one item on a line and two more spaces
for each level.
-/

namespace TestDiscovery

set_option autoImplicit false

/-- A JSON value without numbers, truth values and null. -/
inductive Json where
  | text (s : String)
  | array (items : List Json)
  | object (fields : List (String × Json))
  deriving Repr

namespace Json

/-- A hexadecimal digit in lower case. -/
def hexDigit (n : Nat) : Char := Nat.digitChar n

/-- A character inside quotes: quotes, backslashes and control characters are escaped, and control
characters have a short form if JSON knows one. -/
def escaped (c : Char) : List Char :=
  match c with
  | '"' => ['\\', '"']
  | '\\' => ['\\', '\\']
  | '\x08' => ['\\', 'b']
  | '\x0c' => ['\\', 'f']
  | '\n' => ['\\', 'n']
  | '\r' => ['\\', 'r']
  | '\t' => ['\\', 't']
  | c =>
    if c.toNat < 0x20 then
      ['\\', 'u', '0', '0', hexDigit (c.toNat / 16), hexDigit (c.toNat % 16)]
    else [c]

/-- A text in quotes. -/
def quoted (s : String) : List Char := '"' :: s.toList.flatMap escaped ++ ['"']

/-- The start of a line at a level. -/
def newline (level : Nat) : List Char := '\n' :: List.replicate (2 * level) ' '

mutual

/-- A value that starts in a line at a level. -/
def print (level : Nat) : Json → List Char
  | .text s => quoted s
  | .array [] => ['[', ']']
  | .array (item :: rest) =>
    '[' :: newline (level + 1) ++ print (level + 1) item ++ printItems (level + 1) rest ++
      newline level ++ [']']
  | .object [] => ['\x7b', '\x7d']
  | .object ((key, value) :: rest) =>
    '\x7b' :: newline (level + 1) ++ quoted key ++ [':', ' '] ++ print (level + 1) value ++
      printFields (level + 1) rest ++ newline level ++ ['\x7d']

/-- The items after the first. -/
def printItems (level : Nat) : List Json → List Char
  | [] => []
  | item :: rest => ',' :: newline level ++ print level item ++ printItems level rest

/-- The fields after the first. -/
def printFields (level : Nat) : List (String × Json) → List Char
  | [] => []
  | (key, value) :: rest =>
    ',' :: newline level ++ quoted key ++ [':', ' '] ++ print level value ++
      printFields level rest

end

/-- The printed form of a value. -/
def pretty (j : Json) : String := String.ofList (j.print 0)

/-- An array of texts. -/
def texts (items : List String) : Json := .array (items.map .text)

end Json

end TestDiscovery
