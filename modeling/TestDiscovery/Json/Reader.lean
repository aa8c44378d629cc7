/-
# TestDiscovery.Json.Reader -- reading JSON texts

`Json.read?` reads a document whose values are texts, arrays and objects.  The text is
cut into tokens, and the tokens are taken one at a time: a `Place` is what may come next
together with all arrays and objects that are still open (`Frame`).  Fields keep their
order, and a key that comes twice is kept twice.
-/
import TestDiscovery.Json.Token
import TestDiscovery.Text.Reading

namespace TestDiscovery.Json

set_option autoImplicit false

open TestDiscovery.Text (Reading)

/-! ## Texts in quotes -/

/-- The character of a code point. -/
def char? (n : Nat) : Option Char :=
  if h : n.isValidChar then some (Char.ofNatAux n h) else none

/-- The escape after `\u`.  The first surrogate of a pair needs the second one after it. -/
def unitEscape? (cs : List Char) : Option (Reading Char) := do
  let high ← unit? cs
  if IsHigh high then
    match cs.drop 4 with
    | '\\' :: 'u' :: more => do
      let low ← unit? more
      if IsLow low then return ⟨← char? (pairCode high low), 10⟩ else none
    | _ => none
  else return ⟨← char? high, 4⟩

/-- The escape whose backslash has been read. -/
def escape? : List Char → Option (Reading Char)
  | [] => none
  | c :: cs =>
    if c = 'u' then (unitEscape? cs).map (·.after 1)
    else (letterEscape? c).map fun d => ⟨d, 1⟩

/-- The rest of a text in quotes; `skip` characters belong to the escape before. -/
def textBody? (skip : Nat) : List Char → Option (Reading (List Char))
  | [] => none
  | c :: cs =>
    match skip with
    | skip + 1 => textBody? skip cs
    | 0 =>
      if c = '"' then some ⟨[], 1⟩
      else if c = '\\' then do
        let d ← escape? cs
        let r ← textBody? d.length cs
        return ⟨d.value :: r.value, 1 + d.length + r.length⟩
      else if 0x20 ≤ c.toNat then do
        let r ← textBody? 0 cs
        return ⟨c :: r.value, 1 + r.length⟩
      else none

/-! ## Tokens -/

/-- The mark of a character. -/
def Mark.ofChar? (c : Char) : Option Mark :=
  match c with
  | '[' => some .openArray
  | ']' => some .closeArray
  | '\x7b' => some .openObject
  | '\x7d' => some .closeObject
  | ':' => some .colon
  | ',' => some .comma
  | _ => none

/-- The tokens of a text; `skip` characters belong to the token before. -/
def tokensFrom? (skip : Nat) : List Char → Option (List Token)
  | [] => some []
  | c :: cs =>
    match skip with
    | skip + 1 => tokensFrom? skip cs
    | 0 =>
      if isSpace c then tokensFrom? 0 cs
      else if c = '"' then do
        let r ← textBody? 0 cs
        return .text (String.ofList r.value) :: (← tokensFrom? r.length cs)
      else do
        let m ← Mark.ofChar? c
        return .mark m :: (← tokensFrom? 0 cs)

/-! ## Values -/

/-- An array or object that is open, with what it holds so far. -/
inductive Frame where
  | array (items : List Json)
  /-- The value under `key` is being read. -/
  | object (fields : List (String × Json)) (key : String)

/-- What may come next, inside the open frames, the innermost first. -/
inductive Place where
  | value (outer : List Frame)
  /-- The first item of an array, or its end. -/
  | firstItem (outer : List Frame)
  /-- The first key of an object, or its end. -/
  | firstKey (outer : List Frame)
  | laterKey (fields : List (String × Json)) (outer : List Frame)
  | colon (fields : List (String × Json)) (key : String) (outer : List Frame)
  /-- The value is complete. -/
  | complete (j : Json) (outer : List Frame)

namespace Place

/-- The place after the first token of a value. -/
def enter (outer : List Frame) : Token → Option Place
  | .text s => some (.complete (.text s) outer)
  | .mark .openArray => some (.firstItem outer)
  | .mark .openObject => some (.firstKey outer)
  | _ => none

/-- The place after the token that follows a complete value. -/
def leave (j : Json) : List Frame → Token → Option Place
  | .array items :: outer, .mark .comma => some (.value (.array (items ++ [j]) :: outer))
  | .array items :: outer, .mark .closeArray => some (.complete (.array (items ++ [j])) outer)
  | .object fields key :: outer, .mark .comma => some (.laterKey (fields ++ [(key, j)]) outer)
  | .object fields key :: outer, .mark .closeObject =>
    some (.complete (.object (fields ++ [(key, j)])) outer)
  | _, _ => none

/-- The place after one more token. -/
def next? : Place → Token → Option Place
  | .value outer, t => enter outer t
  | .firstItem outer, t =>
    if t = .mark .closeArray then some (.complete (.array []) outer)
    else enter (.array [] :: outer) t
  | .firstKey outer, .mark .closeObject => some (.complete (.object []) outer)
  | .firstKey outer, .text key => some (.colon [] key outer)
  | .laterKey fields outer, .text key => some (.colon fields key outer)
  | .colon fields key outer, .mark .colon => some (.value (.object fields key :: outer))
  | .complete j outer, t => leave j outer t
  | _, _ => none

/-- The value, if nothing is open any more. -/
def done? : Place → Option Json
  | .complete j [] => some j
  | _ => none

end Place

/-- The value whose tokens are given. -/
def ofTokens? (ts : List Token) : Option Json := do
  (← ts.foldlM Place.next? (.value [])).done?

/-- The value of a document. -/
def read? (s : String) : Option Json := do ofTokens? (← tokensFrom? 0 s.toList)

end TestDiscovery.Json
