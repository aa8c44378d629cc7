/-
# TestDiscovery.Toml.Quoted -- texts in quotes

Basic strings, in double quotes, know escapes; literal strings, in single quotes,
do not.  Three quotes start a string that may go over several lines.  Every line
end counts as a line feed.
-/
import TestDiscovery.Text.Reading

namespace TestDiscovery.Toml

set_option autoImplicit false

open TestDiscovery.Text (Reading)

/-- Blanks inside a line. -/
def isBlank (c : Char) : Bool := c == ' ' || c == '\t'

/-- The length of the line end at the front of a text. -/
def newline? : List Char → Option Nat
  | '\n' :: _ => some 1
  | '\r' :: '\n' :: _ => some 2
  | _ => none

/-- Characters that comments and strings may hold: no controls but the tab. -/
def isTextChar (c : Char) : Bool := c == '\t' || (0x20 ≤ c.toNat && c.toNat != 0x7F)

/-! ## Escapes -/

/-- The character of a code point written by exactly `digits` hexadecimal digits. -/
def codePoint? (digits : Nat) (cs : List Char) : Option (Reading Char) :=
  let body := cs.take digits
  let isHex (c : Char) : Bool := c.isDigit || ('a' ≤ c && c ≤ 'f') || ('A' ≤ c && c ≤ 'F')
  let value (c : Char) : Nat :=
    if c.isDigit then c.toNat - 48 else if c.toNat < 97 then c.toNat - 55 else c.toNat - 87
  let n := body.foldl (fun n c => n * 16 + value c) 0
  if body.length = digits ∧ body.all isHex then
    if h : n.isValidChar then some ⟨Char.ofNatAux n h, digits⟩ else none
  else none

/-- The escapes of one letter. -/
def letterEscape? (c : Char) : Option Char :=
  match c with
  | 'b' => some '\x08'
  | 't' => some '\t'
  | 'n' => some '\n'
  | 'f' => some '\x0c'
  | 'r' => some '\r'
  | '"' => some '"'
  | '\\' => some '\\'
  | _ => none

/-- The escape whose backslash has been read. -/
def escape? : List Char → Option (Reading Char)
  | [] => none
  | c :: cs =>
    if c = 'u' then (codePoint? 4 cs).map (·.after 1)
    else if c = 'U' then (codePoint? 8 cs).map (·.after 1)
    else (letterEscape? c).map fun d => ⟨d, 1⟩

/-! ## Strings on one line -/

/-- The rest of a basic string; `skip` characters belong to the escape before. -/
def basicBody (skip : Nat) : List Char → Option (Reading (List Char))
  | [] => none
  | c :: cs =>
    match skip with
    | skip + 1 => basicBody skip cs
    | 0 =>
      if c = '"' then some ⟨[], 1⟩
      else if c = '\\' then do
        let d ← escape? cs
        let r ← basicBody d.length cs
        return ⟨d.value :: r.value, 1 + d.length + r.length⟩
      else if isTextChar c then do
        let r ← basicBody 0 cs
        return ⟨c :: r.value, 1 + r.length⟩
      else none

/-- The rest of a literal string. -/
def literalBody : List Char → Option (Reading (List Char))
  | [] => none
  | c :: cs =>
    if c = '\'' then some ⟨[], 1⟩
    else if isTextChar c then do
      let r ← literalBody cs
      return ⟨c :: r.value, 1 + r.length⟩
    else none

/-! ## Strings over several lines -/

/-- The end of a string after one quote: two more quotes close it, and up to two quotes before
those belong to it. -/
def closing? (quote : Char) : List Char → Option (Reading (List Char))
  | a :: b :: cs =>
    if a = quote ∧ b = quote then
      let extra := (cs.take 2).takeWhile (· == quote)
      some ⟨extra, 2 + extra.length⟩
    else none
  | _ => none

/-- The length of line ends and blanks at the front of a text. -/
def whiteLength : List Char → Nat
  | [] => 0
  | '\r' :: '\n' :: cs => whiteLength cs + 2
  | c :: cs => if c = '\n' ∨ isBlank c then whiteLength cs + 1 else 0

/-- A backslash at the end of a line hides the line end and all white space after it; this is the
length of what it hides. -/
def hiddenLength? (cs : List Char) : Option Nat :=
  let blanks := (cs.takeWhile isBlank).length
  match newline? (cs.drop blanks) with
  | some _ => some (blanks + whiteLength (cs.drop blanks))
  | none => none

/-- The rest of a basic string over several lines. -/
def basicLines (skip : Nat) : List Char → Option (Reading (List Char))
  | [] => none
  | c :: cs =>
    match skip with
    | skip + 1 => basicLines skip cs
    | 0 =>
      if c = '"' then
        match closing? '"' cs with
        | some r => some (r.after 1)
        | none => do
          let r ← basicLines 0 cs
          return ⟨'"' :: r.value, 1 + r.length⟩
      else if c = '\\' then
        match hiddenLength? cs with
        | some n => do
          let r ← basicLines n cs
          return r.after (1 + n)
        | none => do
          let d ← escape? cs
          let r ← basicLines d.length cs
          return ⟨d.value :: r.value, 1 + d.length + r.length⟩
      else match newline? (c :: cs) with
        | some n => do
          let r ← basicLines (n - 1) cs
          return ⟨'\n' :: r.value, n + r.length⟩
        | none =>
          if isTextChar c then do
            let r ← basicLines 0 cs
            return ⟨c :: r.value, 1 + r.length⟩
          else none

/-- The rest of a literal string over several lines. -/
def literalLines (skip : Nat) : List Char → Option (Reading (List Char))
  | [] => none
  | c :: cs =>
    match skip with
    | skip + 1 => literalLines skip cs
    | 0 =>
      if c = '\'' then
        match closing? '\'' cs with
        | some r => some (r.after 1)
        | none => do
          let r ← literalLines 0 cs
          return ⟨'\'' :: r.value, 1 + r.length⟩
      else match newline? (c :: cs) with
        | some n => do
          let r ← literalLines (n - 1) cs
          return ⟨'\n' :: r.value, n + r.length⟩
        | none =>
          if isTextChar c then do
            let r ← literalLines 0 cs
            return ⟨c :: r.value, 1 + r.length⟩
          else none

/-- A string over several lines whose quotes have been read; a line end right after them does not
belong to it. -/
def linesAfterQuotes (body : Nat → List Char → Option (Reading (List Char))) (cs : List Char) :
    Option (Reading (List Char)) :=
  let n := (newline? cs).getD 0
  (body n cs).map (·.after n)

/-! ## Any string -/

/-- The string on one line at the front of a text. -/
def lineString? : List Char → Option (Reading String)
  | '"' :: cs => (basicBody 0 cs).map fun r => ⟨String.ofList r.value, r.length + 1⟩
  | '\'' :: cs => (literalBody cs).map fun r => ⟨String.ofList r.value, r.length + 1⟩
  | _ => none

/-- The string at the front of a text. -/
def string? : List Char → Option (Reading String)
  | '"' :: '"' :: '"' :: cs =>
    (linesAfterQuotes basicLines cs).map fun r => ⟨String.ofList r.value, r.length + 3⟩
  | '\'' :: '\'' :: '\'' :: cs =>
    (linesAfterQuotes literalLines cs).map fun r => ⟨String.ofList r.value, r.length + 3⟩
  | cs => lineString? cs

end TestDiscovery.Toml
