/-
# TestDiscovery.Pattern.Lexer -- cutting a pattern into lexemes

`lex` walks over the characters once.  At each lexeme a reader for its kind looks
at the rest of the text and answers with the lexeme and the number of further
characters that belong to it; the walk then passes over those.  In verbose mode
white space and comments stand between lexemes and also inside most of them, so
readers that allow them look at `significant` characters with their positions.
-/
import TestDiscovery.Pattern.Lexeme
import TestDiscovery.Text.Blank
import TestDiscovery.Text.Cut
import TestDiscovery.Text.Reading

namespace TestDiscovery.Pattern

set_option autoImplicit false

open TestDiscovery.Text (isSpace cutAt Reading)
open TestDiscovery.Unicode

/-! ## White space and comments -/

/-- A character with the number of characters up to it, itself included. -/
abbrev Placed := Char × Nat

/-- All characters with their places, after `n` others. -/
def placed (n : Nat) : List Char → List Placed
  | [] => []
  | c :: cs => (c, n + 1) :: placed (n + 1) cs

/-- The characters outside white space and comments, after `n` others; `comment` tells whether
the text starts inside a comment. -/
def placedCode (comment : Bool) (n : Nat) : List Char → List Placed
  | [] => []
  | c :: cs =>
    if comment then placedCode (c != '\n') (n + 1) cs
    else if isSpace c then placedCode false (n + 1) cs
    else if c = '#' then placedCode true (n + 1) cs
    else (c, n + 1) :: placedCode false (n + 1) cs

/-- The characters that count: all of them, or in verbose mode those that are code. -/
def significant (verbose : Bool) (cs : List Char) : List Placed :=
  if verbose then placedCode false 0 cs else placed 0 cs

/-- The length of the comment whose number sign has been read. -/
def commentLength : List Char → Nat
  | [] => 0
  | c :: cs => if c = '\n' then 1 else commentLength cs + 1

/-! ## Numbers -/

/-- Hexadecimal digits of either case. -/
def isHexDigit (c : Char) : Bool :=
  c.isDigit || ('a' ≤ c && c ≤ 'f') || ('A' ≤ c && c ≤ 'F')

/-- The value of a hexadecimal digit. -/
def hexDigitValue (c : Char) : Nat :=
  if c.isDigit then c.toNat - 48 else if c.toNat < 97 then c.toNat - 55 else c.toNat - 87

/-- The number that digits write. -/
def numeral (base : Nat) (digits : List Char) : Nat :=
  digits.foldl (fun n c => n * base + hexDigitValue c) 0

/-- The character of a code point, if it is one that a text can hold. -/
def scalar? (n : Nat) : Option Char :=
  if h : n.isValidChar then some (Char.ofNatAux n h) else none

/-- The character that hexadecimal digits name. -/
def codePoint (digits : List Char) : Except Fault Char :=
  if digits.isEmpty then .error .badCodePoint
  else match scalar? (numeral 16 digits) with
    | some c => .ok c
    | none => .error .badCodePoint

/-! ## Escapes -/

/-- Characters that have a meaning somewhere in a pattern; a backslash takes it away. -/
def isMeta (c : Char) : Bool := "\\.+*?()|[]\x7b\x7d^$#&-~".toList.contains c

/-- A backslash may stand before every ASCII character that is neither a letter nor a digit nor
an angle bracket. -/
def isEscapable (c : Char) : Bool :=
  isMeta c || (c.toNat < 0x80 && !c.isAlphanum && c != '<' && c != '>')

/-- The digits of `\x`, `\u` and `\U`: a fixed number of them, or any number in braces. -/
def hexEscape (digits : Nat) (verbose : Bool) (cs : List Char) : Except Fault (Reading Literal) :=
  match significant verbose cs with
  | ('\x7b', _) :: rest =>
    let body := rest.takeWhile fun (c, _) => c != '\x7d'
    match rest.drop body.length with
    | (_, n) :: _ =>
      if body.all fun (c, _) => isHexDigit c then do
        return ⟨⟨← codePoint (body.map Prod.fst), false⟩, n⟩
      else .error .badCodePoint
    | [] => .error .badCodePoint
  | code =>
    let body := code.take digits
    match body.getLast? with
    | some (_, n) =>
      if body.length = digits ∧ body.all (fun (c, _) => isHexDigit c) then do
        return ⟨⟨← codePoint (body.map Prod.fst), digits = 2⟩, n⟩
      else .error .badCodePoint
    | none => .error .badCodePoint

/-- The name in the braces of `\p`: a name alone, or a name and a value on the two sides of `!=`,
of a colon or of an equals sign, whichever of these is found first in this order. -/
def propertyName (cs : List Char) : PropertyQuery :=
  match unequal cs with
  | some (name, value) => .valued name value
  | none => match cutAt ':' cs with
    | some (name, value) => .valued name value
    | none => match cutAt '=' cs with
      | some (name, value) => .valued name value
      | none => .named cs
where
  /-- The parts around the first `!=`. -/
  unequal : List Char → Option (List Char × List Char)
    | '!' :: '=' :: rest => some ([], rest)
    | c :: rest => (unequal rest).map fun (before, after) => (c :: before, after)
    | [] => none

/-- The property after `\p` or `\P`: one letter, or a name in braces. -/
def propertyEscape (negated verbose : Bool) (cs : List Char) : Except Fault (Reading Atom) :=
  match significant verbose cs with
  | [] => .error .danglingBackslash
  | ('\x7b', _) :: rest =>
    let body := rest.takeWhile fun (c, _) => c != '\x7d'
    match rest.drop body.length with
    | (_, n) :: _ => .ok ⟨.property (propertyName (body.map Prod.fst)) negated, n⟩
    | [] => .error .danglingBackslash
  | ('\\', _) :: _ => .error .unknownProperty
  | (c, n) :: _ => .ok ⟨.property (.named [c]) negated, n⟩

/-- The kinds of word boundary that have a name. -/
def namedBoundary? (name : String) : Option Assertion :=
  match name with
  | "start" => some .wordStart
  | "end" => some .wordEnd
  | "start-half" => some .wordStartHalf
  | "end-half" => some .wordEndHalf
  | _ => none

/-- Characters of the names of word boundaries. -/
def isBoundaryChar (c : Char) : Bool := c.isAlpha || c == '-'

/-- What follows `\b`: a name in braces, unless the braces hold a count. -/
def boundaryEscape (verbose : Bool) : List Char → Except Fault (Reading Atom)
  | '\x7b' :: cs =>
    let code := significant verbose cs
    let body := code.takeWhile fun (c, _) => isBoundaryChar c
    if code.isEmpty then .error .badWordBoundary
    else if body.isEmpty then .ok ⟨.assertion .wordBoundary, 0⟩
    else match code.drop body.length with
      | ('\x7d', n) :: _ =>
        match namedBoundary? (String.ofList (body.map Prod.fst)) with
        | some a => .ok ⟨.assertion a, n + 1⟩
        | none => .error .badWordBoundary
      | _ => .error .badWordBoundary
  | _ => .ok ⟨.assertion .wordBoundary, 0⟩

/-- The control characters that have a letter. -/
def controlEscape? (c : Char) : Option Char :=
  match c with
  | 'a' => some '\x07'
  | 'f' => some '\x0c'
  | 't' => some '\t'
  | 'n' => some '\n'
  | 'r' => some '\r'
  | 'v' => some '\x0b'
  | _ => none

/-- Assertions of one letter other than `\b`. -/
def assertionEscape? (c : Char) : Option Assertion :=
  match c with
  | 'A' => some .startText
  | 'z' => some .endText
  | 'B' => some .notWordBoundary
  | '<' => some .wordStart
  | '>' => some .wordEnd
  | _ => none

/-- Classes of one letter; the capital letter negates. -/
def shortClass? (c : Char) : Option (ShortClass × Bool) :=
  match c with
  | 'd' => some (.digit, false)
  | 'D' => some (.digit, true)
  | 's' => some (.space, false)
  | 'S' => some (.space, true)
  | 'w' => some (.word, false)
  | 'W' => some (.word, true)
  | _ => none

/-- The escape whose backslash has been read and whose letter is `c`; the length counts the
characters after the letter. -/
def letterEscape (verbose : Bool) (c : Char) (cs : List Char) : Except Fault (Reading Atom) :=
  if c = 'x' ∨ c = 'u' ∨ c = 'U' then do
    let l ← hexEscape (if c = 'x' then 2 else if c = 'u' then 4 else 8) verbose cs
    return ⟨.literal l.value, l.length⟩
  else if c = 'p' ∨ c = 'P' then propertyEscape (c = 'P') verbose cs
  else if c = 'b' then boundaryEscape verbose cs
  else match shortClass? c with
    | some (cls, negated) => .ok ⟨.short cls negated, 0⟩
    | none => match assertionEscape? c with
      | some a => .ok ⟨.assertion a, 0⟩
      | none => match controlEscape? c with
        | some d => .ok ⟨.literal ⟨d, false⟩, 0⟩
        | none => if isEscapable c then .ok ⟨.literal ⟨c, false⟩, 0⟩ else .error .unknownEscape

/-- The escape whose backslash has been read. -/
def escape (verbose : Bool) : List Char → Except Fault (Reading Atom)
  | [] => .error .danglingBackslash
  | c :: cs => do
    let a ← letterEscape verbose c cs
    return ⟨a.value, a.length + 1⟩

/-! ## Repetitions -/

/-- The largest count. -/
def maxCount : Nat := 0xFFFFFFFF

/-- A count with the white space around it, and what follows. -/
def count (code : List Placed) : Option Nat × List Placed :=
  let code := code.dropWhile fun (c, _) => isSpace c
  let digits := code.takeWhile fun (c, _) => c.isDigit
  let rest := (code.drop digits.length).dropWhile fun (c, _) => isSpace c
  (if digits.isEmpty then none else some (numeral 10 (digits.map Prod.fst)), rest)

/-- The bounds of a repetition, if they make sense. -/
def bounds (min : Nat) (max : Option Nat) (length : Nat) : Except Fault (Reading Lexeme) :=
  if min ≤ maxCount ∧ (max.all fun m => m ≤ maxCount && min ≤ m) then
    .ok ⟨.repetition min max, length⟩
  else .error .badCount

/-- A question mark after a repetition makes it lazy, which does not change what matches. -/
def lazyMark (code : List Placed) (length : Nat) : Nat :=
  match code with
  | ('?', n) :: _ => n
  | _ => length

/-- The count in braces whose opening brace has been read. -/
def counted (verbose : Bool) (cs : List Char) : Except Fault (Reading Lexeme) :=
  match count (significant verbose cs) with
  | (some min, ('\x7d', n) :: rest) => bounds min (some min) (lazyMark rest n)
  | (some min, (',', _) :: ('\x7d', n) :: rest) => bounds min none (lazyMark rest n)
  | (some min, (',', _) :: rest) =>
    match count rest with
    | (some max, ('\x7d', n) :: rest) => bounds min (some max) (lazyMark rest n)
    | _ => .error .badCount
  | _ => .error .badCount

/-! ## Groups -/

/-- The flag of a letter. -/
def flag? (c : Char) : Option Flag :=
  match c with
  | 'i' => some .ignoreCase
  | 'm' => some .multiLine
  | 's' => some .dotMatchesNewline
  | 'U' => some .swapGreed
  | 'u' => some .unicode
  | 'R' => some .crlf
  | 'x' => some .verbose
  | _ => none

/-- The flag item of a character. -/
def flagItem? (c : Char) : Option FlagItem :=
  if c = '-' then some .negation else (flag? c).map .flag

/-- A flag list: no item twice, and no hyphen at the end. -/
def flagItems (cs : List Char) : Except Fault (List FlagItem) :=
  match cs.mapM flagItem? with
  | some items =>
    if items.eraseDups.length = items.length ∧ items.getLast? ≠ some .negation then .ok items
    else .error .badFlags
  | none => .error .badFlags

/-- What may start the name of a group. -/
def isNameStart (c : Char) : Bool := c == '_' || alphabetic.has c

/-- What may stand in the name of a group. -/
def isNameChar (c : Char) : Bool :=
  c == '_' || c == '.' || c == '[' || c == ']' || alphabetic.has c || number.has c

/-- The name of a group is not empty and starts with a letter or an underscore. -/
def isGroupName : List Char → Bool
  | [] => false
  | c :: cs => isNameStart c && cs.all isNameChar

/-- What a parenthesis starts. -/
inductive Opening where
  | group (kind : GroupKind)
  | flags (items : List FlagItem)

/-- The name of a group, up to its angle bracket. -/
def groupName (taken : List (List Char)) (cs : List Char) : Except Fault (Reading Opening) :=
  match cutAt '>' cs with
  | some (name, _) =>
    if !isGroupName name then .error .badGroupName
    else if taken.contains name then .error .repeatedGroupName
    else .ok ⟨.group (.named name), name.length + 1⟩
  | none => .error .badGroupName

/-- The flags after the question mark, up to a colon or a parenthesis. -/
def groupFlags (cs : List Char) : Except Fault (Reading Opening) := do
  let letters := cs.takeWhile fun c => c != ':' && c != ')'
  let items ← flagItems letters
  match cs.drop letters.length with
  | ':' :: _ => return ⟨.group (.flagged items), letters.length + 1⟩
  | _ :: _ => if items.isEmpty then throw .missingOperand
              else return ⟨.flags items, letters.length + 1⟩
  | [] => throw .badFlags

/-- What stands after the question mark of a group. -/
def groupOption (taken : List (List Char)) : List Char → Except Fault (Reading Opening)
  | 'P' :: '<' :: cs => do let r ← groupName taken cs; return ⟨r.value, r.length + 2⟩
  | '<' :: cs => do let r ← groupName taken cs; return ⟨r.value, r.length + 1⟩
  | cs => groupFlags cs

/-- The group whose parenthesis has been read. -/
def opening (verbose : Bool) (taken : List (List Char)) (cs : List Char) :
    Except Fault (Reading Opening) :=
  match significant verbose cs with
  | ('?', n) :: _ => do
    let r ← groupOption taken (cs.drop n)
    return ⟨r.value, r.length + n⟩
  | _ => .ok ⟨.group .capture, 0⟩

/-! ## Bracketed sets -/

/-- The class of a name. -/
def namedClass? (name : String) : Option NamedClass :=
  match name with
  | "alnum" => some .alnum
  | "alpha" => some .alpha
  | "ascii" => some .ascii
  | "blank" => some .blank
  | "cntrl" => some .cntrl
  | "digit" => some .digit
  | "graph" => some .graph
  | "lower" => some .lower
  | "print" => some .print
  | "punct" => some .punct
  | "space" => some .space
  | "upper" => some .upper
  | "word" => some .word
  | "xdigit" => some .xdigit
  | _ => none

/-- A class name between colons, whose bracket and first colon have been read; anything else there
is the start of a set. -/
def classInColons? (negated : Bool) (cs : List Char) : Option (Reading SetItem) :=
  match cutAt ':' cs with
  | some (name, ']' :: _) =>
    (namedClass? (String.ofList name)).map fun cls => ⟨.named cls negated, name.length + 2⟩
  | _ => none

/-- The named class whose bracket has been read. -/
def namedClassItem? : List Char → Option (Reading SetItem)
  | ':' :: '^' :: cs => (classInColons? true cs).map fun r => ⟨r.value, r.length + 2⟩
  | ':' :: cs => (classInColons? false cs).map fun r => ⟨r.value, r.length + 1⟩
  | _ => none

/-- The start of a set whose bracket has been read: a caret negates it, hyphens stand for
themselves, and so does a closing bracket that comes first. -/
def setStart (verbose : Bool) (cs : List Char) : Reading Lexeme :=
  let code := significant verbose cs
  let (negated, code, length) :=
    match code with
    | ('^', n) :: rest => (true, rest, n)
    | _ => (false, code, 0)
  let hyphens := code.takeWhile fun (c, _) => c == '-'
  match hyphens.getLast?, code with
  | some (_, n), _ => ⟨.setOpen negated (hyphens.map Prod.fst), n⟩
  | none, (']', n) :: _ => ⟨.setOpen negated [']'], n⟩
  | none, _ => ⟨.setOpen negated [], length⟩

/-- The character after white space and after one number sign. -/
def peekVerbose (sign : Bool) : List Char → Option Char
  | [] => none
  | c :: cs =>
    if isSpace c then peekVerbose sign cs
    else if c = '#' ∧ !sign then peekVerbose true cs
    else some c

/-- The character that tells whether the hyphen before it makes a range. -/
def peekAfterHyphen (verbose : Bool) (cs : List Char) : Option Char :=
  if verbose then peekVerbose false cs else cs.head?

/-- One end of a range, or a set item by itself, that starts with `c`. -/
def setPart (verbose : Bool) (c : Char) (cs : List Char) : Except Fault (Reading Atom) :=
  if c = '\\' then escape verbose cs else .ok ⟨.literal ⟨c, false⟩, 0⟩

/-- Assertions have no place in a set. -/
def setItemOf : Atom → Except Fault SetItem
  | .literal l => .ok (.literal l)
  | .short cls negated => .ok (.short cls negated)
  | .property query negated => .ok (.property query negated)
  | _ => .error .badSetItem

/-- The ends of a range are characters in order. -/
def rangeOf : Atom → Atom → Except Fault SetItem
  | .literal lo, .literal hi =>
    if lo.char ≤ hi.char then .ok (.range lo hi) else .error .badSetRange
  | _, _ => .error .badSetRange

/-- The part before a hyphen that makes no range, and `length` characters after its first. -/
def loneItem (part : Reading Atom) : Except Fault (Reading SetItem) := do
  return ⟨← setItemOf part.value, part.length⟩

/-- The set item that starts with `c`. -/
def setItem (verbose : Bool) (c : Char) (cs : List Char) : Except Fault (Reading SetItem) := do
  let first ← setPart verbose c cs
  let rest := cs.drop first.length
  match significant verbose rest with
  | ('-', n) :: after =>
    let next := peekAfterHyphen verbose (rest.drop n)
    if next = some ']' ∨ next = some '-' then loneItem first
    else match after with
      | (d, m) :: _ => do
        let second ← setPart verbose d (rest.drop m)
        return ⟨← rangeOf first.value second.value, first.length + m + second.length⟩
      | [] => throw .unclosedSet
  | _ => loneItem first

/-- The operator that a doubled character writes between the parts of a set. -/
def setOperator? (c : Char) (cs : List Char) : Option SetOperator :=
  if cs.head? ≠ some c then none
  else if c = '&' then some .intersection
  else if c = '-' then some .difference
  else if c = '~' then some .symmetricDifference
  else none

/-! ## The walk -/

/-- What the walk has to remember. -/
structure LexState where
  /-- White space and comments are passed over. -/
  verbose : Bool
  /-- The mode outside each open group, innermost first. -/
  outer : List Bool
  /-- The number of open sets. -/
  sets : Nat
  /-- The names of groups so far. -/
  names : List (List Char)
  deriving DecidableEq, Repr

/-- The state at the start of a pattern. -/
def LexState.start : LexState := ⟨false, [], 0, []⟩

/-- One step of the walk: at most one lexeme, the state after it, and the number of characters it
took after its first. -/
structure LexStep where
  lexeme : Option Lexeme
  state : LexState
  length : Nat

/-- A step that reads a lexeme and changes nothing else. -/
def LexStep.plain (st : LexState) (r : Reading Lexeme) : LexStep := ⟨some r.value, st, r.length⟩

/-- The step at a character inside a set. -/
def setStep (st : LexState) (c : Char) (cs : List Char) : Except Fault LexStep :=
  if c = '[' then
    match namedClassItem? cs with
    | some r => .ok ⟨some (.setItem r.value), st, r.length⟩
    | none => .ok (.plain { st with sets := st.sets + 1 } (setStart st.verbose cs))
  else if c = ']' then .ok ⟨some .setClose, { st with sets := st.sets - 1 }, 0⟩
  else match setOperator? c cs with
    | some op => .ok ⟨some (.setOperator op), st, 1⟩
    | none => do
      let r ← setItem st.verbose c cs
      return ⟨some (.setItem r.value), st, r.length⟩

/-- The state inside a group that has just been opened. -/
def LexState.entered (st : LexState) : GroupKind → LexState
  | .capture => { st with outer := st.verbose :: st.outer }
  | .named name => { st with outer := st.verbose :: st.outer, names := name :: st.names }
  | .flagged items =>
    { st with outer := st.verbose :: st.outer, verbose := (setting? items .verbose).getD st.verbose }

/-- The step at a parenthesis. -/
def groupStep (st : LexState) (cs : List Char) : Except Fault LexStep := do
  let r ← opening st.verbose st.names cs
  match r.value with
  | .group kind => return ⟨some (.groupOpen kind), st.entered kind, r.length⟩
  | .flags items =>
    return ⟨some (.flags items),
      { st with verbose := (setting? items .verbose).getD st.verbose }, r.length⟩

/-- The repetitions of one character. -/
def repetition? (c : Char) : Option (Nat × Option Nat) :=
  match c with
  | '?' => some (0, some 1)
  | '*' => some (0, none)
  | '+' => some (1, none)
  | _ => none

/-- The atoms of one character. -/
def plainAtom (c : Char) : Atom :=
  match c with
  | '.' => .dot
  | '^' => .assertion .startLine
  | '$' => .assertion .endLine
  | _ => .literal ⟨c, false⟩

/-- The step at a character outside sets. -/
def textStep (st : LexState) (c : Char) (cs : List Char) : Except Fault LexStep :=
  if c = '(' then groupStep st cs
  else if c = ')' then
    .ok ⟨some .groupClose,
      { st with verbose := st.outer.headD st.verbose, outer := st.outer.tail }, 0⟩
  else if c = '|' then .ok ⟨some .bar, st, 0⟩
  else if c = '[' then .ok (.plain { st with sets := 1 } (setStart st.verbose cs))
  else if c = '\x7b' then (counted st.verbose cs).map (.plain st)
  else if c = '\\' then
    (escape st.verbose cs).map fun r => ⟨some (.atom r.value), st, r.length⟩
  else match repetition? c with
    | some (min, max) =>
      .ok ⟨some (.repetition min max), st, if cs.head? = some '?' then 1 else 0⟩
    | none => .ok ⟨some (.atom (plainAtom c)), st, 0⟩

/-- The step at a character. -/
def lexStep (st : LexState) (c : Char) (cs : List Char) : Except Fault LexStep :=
  if st.verbose && isSpace c then .ok ⟨none, st, 0⟩
  else if st.verbose && c = '#' then .ok ⟨none, st, commentLength cs⟩
  else if st.sets = 0 then textStep st c cs
  else setStep st c cs

/-- The lexemes of the text from a state on, after the `skip` characters that belong to the lexeme
before. -/
def lexFrom (st : LexState) (skip : Nat) : List Char → Except Fault (List Lexeme)
  | [] => if st.sets = 0 then .ok [] else .error .unclosedSet
  | c :: cs =>
    match skip with
    | skip + 1 => lexFrom st skip cs
    | 0 => do
      let step ← lexStep st c cs
      let rest ← lexFrom step.state step.length cs
      return step.lexeme.toList ++ rest

/-- The lexemes of a pattern. -/
def lex (cs : List Char) : Except Fault (List Lexeme) := lexFrom .start 0 cs

end TestDiscovery.Pattern
