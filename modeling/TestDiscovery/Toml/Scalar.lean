/-
# TestDiscovery.Toml.Scalar -- numbers, truth values and date-times

A scalar that is not in quotes is a run of characters without blanks, brackets and
commas, except that a blank may stand between a date and a time.
-/
import TestDiscovery.Text.Reading
import TestDiscovery.Toml.Value

namespace TestDiscovery.Toml

set_option autoImplicit false

open TestDiscovery.Text (Reading)

/-! ## Digits -/

/-- Digits of a base up to sixteen, in either case. -/
def isDigitOf (base : Nat) (c : Char) : Bool :=
  if base ≤ 10 then 48 ≤ c.toNat && c.toNat < 48 + base
  else c.isDigit || ('a' ≤ c && c ≤ 'f') || ('A' ≤ c && c ≤ 'F')

/-- The value of a digit. -/
def digitValue (c : Char) : Nat :=
  if c.isDigit then c.toNat - 48 else if c.toNat < 97 then c.toNat - 55 else c.toNat - 87

/-- The digits of a numeral in which single underscores stand between digits only. -/
def digits? (base : Nat) (cs : List Char) : Option (List Char) :=
  let groups := cs.splitOn '_'
  if groups.all (fun g => !g.isEmpty && g.all (isDigitOf base)) then some groups.flatten else none

/-- The number that digits write. -/
def number (base : Nat) (digits : List Char) : Nat :=
  digits.foldl (fun n c => n * base + digitValue c) 0

/-- The digits of a decimal integer, which has no leading zeros. -/
def decimalDigits? (cs : List Char) : Option (List Char) :=
  match digits? 10 cs with
  | some ['0'] => some ['0']
  | some ('0' :: _) => none
  | found => found

/-- A sign, if there is one: whether it is a minus, and the rest. -/
def signed : List Char → Bool × List Char
  | '-' :: cs => (true, cs)
  | '+' :: cs => (false, cs)
  | cs => (false, cs)

/-! ## Integers -/

/-- Integers have 64 bits. -/
def inRange (n : Int) : Option Int :=
  if -9223372036854775808 ≤ n ∧ n ≤ 9223372036854775807 then some n else none

/-- The integer that the whole of a text writes. -/
def integer? : List Char → Option Int
  | '0' :: 'x' :: cs => do inRange (number 16 (← digits? 16 cs))
  | '0' :: 'o' :: cs => do inRange (number 8 (← digits? 8 cs))
  | '0' :: 'b' :: cs => do inRange (number 2 (← digits? 2 cs))
  | cs => do
    let (negative, cs) := signed cs
    let n : Int := number 10 (← decimalDigits? cs)
    inRange (if negative then -n else n)

/-! ## Floats -/

/-- A decimal numeral: its digits without the point, and the power of ten that they are multiplied
by. -/
structure Decimal where
  digits : List Char
  exponent : Int

/-- The exponent after the letter. -/
def exponent? (cs : List Char) : Option Int := do
  let (negative, cs) := signed cs
  let n : Int := number 10 (← digits? 10 cs)
  return if negative then -n else n

/-- The fraction and the exponent after the integer part. -/
def fractional? (whole : List Char) : List Char → Option Decimal
  | [] => none
  | c :: cs =>
    if c = '.' then
      let fraction := cs.takeWhile fun c => c != 'e' && c != 'E'
      match digits? 10 fraction, cs.drop fraction.length with
      | some ds, [] => some ⟨whole ++ ds, -ds.length⟩
      | some ds, _ :: power => do return ⟨whole ++ ds, (← exponent? power) - ds.length⟩
      | none, _ => none
    else if c = 'e' ∨ c = 'E' then do return ⟨whole, ← exponent? cs⟩
    else none

/-- The decimal numeral that the whole of a text without a sign writes. -/
def decimal? (cs : List Char) : Option Decimal := do
  let whole := cs.takeWhile fun c => c != '.' && c != 'e' && c != 'E'
  fractional? (← decimalDigits? whole) (cs.drop whole.length)

/-- The numeral is so large that no float is near it: it reaches the middle between the largest
float and the next power of two. -/
def Decimal.overflows (d : Decimal) : Bool :=
  let significant := d.digits.dropWhile (· == '0')
  let magnitude : Int := significant.length + d.exponent
  if significant.isEmpty || magnitude < 309 then false
  else if 309 < magnitude then true
  else
    let limit := ((1 <<< 54) - 1) <<< 970
    if 0 ≤ d.exponent then limit ≤ number 10 significant * Nat.pow 10 d.exponent.toNat
    else limit * Nat.pow 10 (-d.exponent).toNat ≤ number 10 significant

/-- The whole of the text writes a float.  A numeral that is too large is refused, but not below
zero. -/
def isFloat (cs : List Char) : Bool :=
  let (negative, cs) := signed cs
  if cs = ['i', 'n', 'f'] ∨ cs = ['n', 'a', 'n'] then true
  else match decimal? cs with
    | some d => negative || !d.overflows
    | none => false

/-! ## Scalars -/

/-- The scalar that the whole of a text writes. -/
def scalar? (cs : List Char) : Option Value :=
  if cs = "true".toList then some (.boolean true)
  else if cs = "false".toList then some (.boolean false)
  else match DateTime.read? .document cs with
    | some d => some (.dateTime d)
    | none => if isFloat cs then some .float else (integer? cs).map .integer

/-- Characters of a scalar. -/
def isScalarChar (c : Char) : Bool :=
  c.isAlphanum || c == '+' || c == '-' || c == '_' || c == '.' || c == ':'

/-- The scalar at the front of a text.  After a date, a blank and a time belong to it. -/
def scalar (cs : List Char) : Option (Reading Value) :=
  let word := cs.takeWhile isScalarChar
  let longer := match cs.drop word.length with
    | ' ' :: rest => word ++ ' ' :: rest.takeWhile isScalarChar
    | _ => word
  match DateTime.read? .document longer with
  | some d => some ⟨.dateTime d, longer.length⟩
  | none => (scalar? word).map fun v => ⟨v, word.length⟩

end TestDiscovery.Toml
