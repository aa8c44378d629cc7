/-
# TestDiscovery.Toml.Document -- reading a document

`parse?` reads a whole TOML 1.0 document.  Every reader answers with the number of
characters it took, and the walk over the lines passes over them.  Values may be
nested `nestLimit` deep, and a key may have `keyLimit` parts.
-/
import TestDiscovery.Toml.Draft
import TestDiscovery.Toml.Quoted
import TestDiscovery.Toml.Scalar

namespace TestDiscovery.Toml

set_option autoImplicit false

open TestDiscovery.Text (Reading)

/-- The deepest nesting of arrays and tables in braces. -/
def nestLimit : Nat := 79

/-- The largest number of parts of a key. -/
def keyLimit : Nat := 79

/-! ## Between values -/

/-- The number of blanks at the front. -/
def blankLength (cs : List Char) : Nat := (cs.takeWhile isBlank).length

/-- The length of the comment at the front, its number sign included. -/
def commentLength : List Char → Nat
  | '#' :: cs => (cs.takeWhile isTextChar).length + 1
  | _ => 0

/-- The length of the rest of a line that may hold only blanks and a comment, with its end. -/
def lineEnd? (cs : List Char) : Option Nat :=
  let n := blankLength cs
  let n := n + commentLength (cs.drop n)
  match cs.drop n with
  | [] => some n
  | rest => (newline? rest).map (n + ·)

/-- The length of the blanks, line ends and comments at the front; `comment` tells whether the
text starts inside a comment. -/
def gapLength (comment : Bool) : List Char → Nat
  | [] => 0
  | '\r' :: '\n' :: cs => gapLength false cs + 2
  | c :: cs =>
    if c = '\n' then gapLength false cs + 1
    else if comment then if isTextChar c then gapLength true cs + 1 else 0
    else if isBlank c then gapLength false cs + 1
    else if c = '#' then gapLength true cs + 1
    else 0

/-! ## Keys -/

/-- Characters of keys without quotes. -/
def isKeyChar (c : Char) : Bool := c.isAlphanum || c == '_' || c == '-'

/-- One part of a key. -/
def simpleKey? (cs : List Char) : Option (Reading String) :=
  match lineString? cs with
  | some r => some r
  | none =>
    let name := cs.takeWhile isKeyChar
    if name.isEmpty then none else some ⟨String.ofList name, name.length⟩

/-- A key of at most `parts` parts, with the blanks around each of them. -/
def keyOf? : Nat → List Char → Option (Reading (List String))
  | 0, _ => none
  | parts + 1, cs => do
    let before := blankLength cs
    let first ← simpleKey? (cs.drop before)
    let n := before + first.length
    let n := n + blankLength (cs.drop n)
    match cs.drop n with
    | '.' :: rest =>
      let more ← keyOf? parts rest
      return ⟨first.value :: more.value, n + 1 + more.length⟩
    | _ => return ⟨[first.value], n⟩

/-- A key. -/
def key? (cs : List Char) : Option (Reading (List String)) := keyOf? keyLimit cs

/-- A key, the equals sign, and the value that `value` reads. -/
def pair? (value : List Char → Option (Reading Value)) (cs : List Char) :
    Option (Reading (List String × Value)) := do
  let k ← key? cs
  match cs.drop k.length with
  | '=' :: rest =>
    let n := blankLength rest
    let v ← value (rest.drop n)
    return ⟨(k.value, v.value), k.length + 1 + n + v.length⟩
  | _ => none

/-! ## Values -/

/-- The rest of an array whose bracket, and comma if any, has been read; `skip` characters belong
to the item before. -/
def items? (value : List Char → Option (Reading Value)) (skip : Nat) :
    List Char → Option (Reading (List Value))
  | [] => none
  | c :: cs =>
    match skip with
    | skip + 1 => items? value skip cs
    | 0 =>
      let gap := gapLength false (c :: cs)
      match (c :: cs).drop gap with
      | ']' :: _ => some ⟨[], gap + 1⟩
      | rest => do
        let v ← value rest
        let n := gap + v.length + gapLength false (rest.drop v.length)
        match (c :: cs).drop n with
        | ']' :: _ => return ⟨[v.value], n + 1⟩
        | ',' :: _ =>
          let more ← items? value n cs
          return ⟨v.value :: more.value, n + 1 + more.length⟩
        | _ => none

/-- The rest of a table in braces, at the start of a pair. -/
def pairs? (value : List Char → Option (Reading Value)) (skip : Nat) :
    List Char → Option (Reading (List (List String × Value)))
  | [] => none
  | c :: cs =>
    match skip with
    | skip + 1 => pairs? value skip cs
    | 0 => do
      let p ← pair? value (c :: cs)
      let n := p.length + blankLength ((c :: cs).drop p.length)
      match (c :: cs).drop n with
      | '\x7d' :: _ => return ⟨[p.value], n + 1⟩
      | ',' :: _ =>
        let more ← pairs? value n cs
        return ⟨p.value :: more.value, n + 1 + more.length⟩
      | _ => none

/-- The pairs of a table in braces whose opening brace has been read. -/
def inlinePairs? (value : List Char → Option (Reading Value)) (cs : List Char) :
    Option (Reading (List (List String × Value))) :=
  let n := blankLength cs
  match cs.drop n with
  | '\x7d' :: _ => some ⟨[], n + 1⟩
  | _ => pairs? value 0 cs

/-- A value with at most `levels` levels of brackets and braces. -/
def value? : Nat → List Char → Option (Reading Value)
  | 0, cs => simple? cs
  | levels + 1, cs =>
    match cs with
    | '[' :: rest => (items? (value? levels) 0 rest).map fun r => ⟨.array r.value, r.length + 1⟩
    | '\x7b' :: rest => do
      let r ← inlinePairs? (value? levels) rest
      return ⟨← inlineTable r.value, r.length + 1⟩
    | _ => simple? cs
where
  /-- A value without brackets and braces. -/
  simple? (cs : List Char) : Option (Reading Value) :=
    match cs with
    | '"' :: _ | '\'' :: _ => (string? cs).map fun r => ⟨.string r.value, r.length⟩
    | _ => scalar cs

/-! ## Lines -/

/-- The key of a header whose bracket has been read, with the closing brackets; `brackets` of them
are needed. -/
def header? (brackets : List Char) (cs : List Char) : Option (Reading (List String)) := do
  let k ← key? cs
  if brackets.isPrefixOf (cs.drop k.length) then return ⟨k.value, k.length + brackets.length⟩
  else none

/-- The document after the line at the front of a text, with the length of the line. -/
def line? (d : Draft) (cs : List Char) : Option (Reading Draft) :=
  match cs with
  | '[' :: '[' :: rest => do
    let k ← header? [']', ']'] rest
    let stop ← lineEnd? (rest.drop k.length)
    return ⟨← d.header true k.value, 2 + k.length + stop⟩
  | '[' :: rest => do
    let k ← header? [']'] rest
    let stop ← lineEnd? (rest.drop k.length)
    return ⟨← d.header false k.value, 1 + k.length + stop⟩
  | cs => do
    let p ← pair? (value? nestLimit) cs
    let stop ← lineEnd? (cs.drop p.length)
    return ⟨← d.put p.value.1 p.value.2, p.length + stop⟩

/-- The document after all lines; `skip` characters belong to the line before. -/
def linesFrom (d : Draft) (skip : Nat) : List Char → Option Draft
  | [] => some d
  | c :: cs =>
    match skip with
    | skip + 1 => linesFrom d skip cs
    | 0 =>
      match lineEnd? (c :: cs) with
      | some n => linesFrom d (n - 1) cs
      | none =>
        if isBlank c then linesFrom d 0 cs
        else do
          let r ← line? d (c :: cs)
          linesFrom r.value (r.length - 1) cs

/-- A byte order mark at the front does not count. -/
def withoutMark : List Char → List Char
  | '\uFEFF' :: cs => cs
  | cs => cs

/-- The table of a document, or `none` when the text is not one. -/
def parse? (text : String) : Option Table := do
  (← linesFrom .start 0 (withoutMark text.toList)).finish

end TestDiscovery.Toml
