/-
# TestDiscovery.Pattern.Footprint -- how large a compiled pattern is

A pattern is refused when its matching machine would be too large.  The machine
reads UTF-8 bytes; this module counts the bytes of its states without building
it.  There is one machine for each direction of reading, and neither may be
larger than `sizeLimit`.

States that read the same rest of a character are shared.  They are found in a
table of limited size, which forgets some of them while a large set is built;
here they are always found.
-/
import TestDiscovery.Pattern.Shape

namespace TestDiscovery.Pattern

set_option autoImplicit false

open TestDiscovery.Unicode

/-- The largest machine, in bytes. -/
def sizeLimit : Nat := 10485760

/-- The size of a state. -/
def stateSize : Nat := 32

/-- The size of a transition out of a state with several. -/
def transitionSize : Nat := 8

/-- The size of a branch of a state that chooses. -/
def branchSize : Nat := 4

/-- The direction in which a machine reads. -/
inductive Direction where
  | forward
  | backward
  deriving DecidableEq, Repr

/-! ## Ranges of characters as ranges of bytes -/

/-- A closed range of bytes. -/
abbrev ByteRange := Nat × Nat

/-- The bytes of a code point in UTF-8. -/
def utf8Bytes (n : Nat) : List Nat :=
  if n < 0x80 then [n]
  else if n < 0x800 then [0xC0 + n / 64, 0x80 + n % 64]
  else if n < 0x10000 then [0xE0 + n / 4096, 0x80 + n / 64 % 64, 0x80 + n % 64]
  else [0xF0 + n / 262144, 0x80 + n / 4096 % 64, 0x80 + n / 64 % 64, 0x80 + n % 64]

/-- Split a range at the places where the number of bytes changes, and leave out surrogates. -/
def lengthRanges (lo hi : Nat) : List (Nat × Nat) :=
  [(0, 0x7F), (0x80, 0x7FF), (0x800, 0xD7FF), (0xE000, 0xFFFF), (0x10000, 0x10FFFF)].filterMap
    fun (a, b) => if max lo a ≤ min hi b then some (max lo a, min hi b) else none

/-- Split a range so that the code points of each part have all combinations of the bytes of its
ends; `bits` counts the bits of the bytes that are still to be looked at, from the last on. -/
def evenRanges (lo hi : Nat) : List Nat → List (Nat × Nat)
  | [] => [(lo, hi)]
  | block :: larger =>
    if lo / block = hi / block then evenRanges lo hi larger
    else
      let first := if lo % block = 0 then [] else [(lo, lo / block * block + (block - 1))]
      let last := if hi % block = block - 1 then [] else [(hi / block * block, hi)]
      let start := if lo % block = 0 then lo else (lo / block + 1) * block
      let stop := if hi % block = block - 1 then hi else hi / block * block - 1
      first ++ (if start ≤ stop then evenRanges start stop larger else []) ++ last

/-- The blocks of code points that agree in all but the last one, two and three bytes. -/
def blocks : List Nat := [64, 4096, 262144]

/-- The byte sequences of a range of code points. -/
def byteSequences (lo hi : Nat) : List (List ByteRange) :=
  (lengthRanges lo hi).flatMap fun (a, b) =>
    if b < 0x80 then [[(a, b)]]
    else (evenRanges a b blocks).map fun (x, y) => (utf8Bytes x).zip (utf8Bytes y)

/-- The byte sequences of a set. -/
def setSequences (s : CharSet) : List (List ByteRange) :=
  s.ranges.flatMap fun (lo, hi) => byteSequences lo hi

/-! ## Sets -/

/-- A state of a machine that reads one character: its transitions, each with the number of the
state it leads to. -/
abbrev ByteState := List (ByteRange × Nat)

/-- The number of a state, with the states known after it; the final state has number 0. -/
def stateNumber (known : List ByteState) (s : ByteState) : Nat × List ByteState :=
  match known.idxOf? s with
  | some i => (known.length - i, known)
  | none => (known.length + 1, s :: known)

/-- The continuations of the sequences that start with a range, for sequences in order. -/
def groupByHead : List (List ByteRange) → List (ByteRange × List (List ByteRange))
  | [] => []
  | [] :: rest => groupByHead rest
  | (r :: tail) :: rest =>
    match groupByHead rest with
    | (r', tails) :: groups =>
      if r = r' then (r, tail :: tails) :: groups else (r, [tail]) :: (r', tails) :: groups
    | [] => [(r, [tail])]

/-- Add the states for sequences of at most `height` ranges; equal states are shared. -/
def addStates : Nat → List (List ByteRange) → List ByteState → Nat × List ByteState
  | 0, _, known => (0, known)
  | height + 1, seqs, known =>
    if seqs.all List.isEmpty then (0, known)
    else
      let (transitions, known) := (groupByHead seqs).foldl
        (fun (acc : ByteState × List ByteState) (group : ByteRange × List (List ByteRange)) =>
          let (target, known) := addStates height group.2 acc.2
          (acc.1 ++ [(group.1, target)], known)) ([], known)
      stateNumber known transitions

/-- The size of a machine that reads a character forward, with shared ends. -/
def forwardSetSize (s : CharSet) : Nat :=
  let states := (addStates 4 (setSequences s) []).2
  states.foldl (fun size t => size + stateSize + transitionSize * t.length) stateSize

/-- The nonempty beginnings of a sequence. -/
def beginnings (seq : List ByteRange) : List (List ByteRange) :=
  (List.range seq.length).map fun n => seq.take (n + 1)

/-- The beginnings of `seq` that it does not share with the sequence before it. -/
def newBeginnings (previous seq : List ByteRange) : Nat :=
  ((beginnings seq).filter fun b => b != previous.take b.length).length

/-- The number of different beginnings of sequences in order, after the sequence `previous`. -/
def countBeginnings (previous : List ByteRange) : List (List ByteRange) → Nat
  | [] => 0
  | seq :: rest => newBeginnings previous seq + countBeginnings seq rest

/-- The size of a machine that reads a character backward, one branch for each sequence. -/
def backwardSetSize (s : CharSet) : Nat :=
  let seqs := setSequences s
  2 * stateSize + branchSize * seqs.length + stateSize * countBeginnings [] seqs

/-- The size of a machine for one character of a set. -/
def setSize (d : Direction) (s : CharSet) : Nat :=
  if s.isAscii then 2 * stateSize + transitionSize * s.ranges.length
  else match d with
    | .forward => forwardSetSize s
    | .backward => backwardSetSize s

/-! ## Words -/

/-- The bytes of a word in the order in which they are read. -/
def wordBytes (d : Direction) (chars : List Nat) : List Nat :=
  match d with
  | .forward => chars.flatMap utf8Bytes
  | .backward => (chars.flatMap utf8Bytes).reverse

/-- The ways on from a place between bytes: each next byte with what may follow it, in order. -/
abbrev Chunk := List (Nat × List (List Nat))

/-- A way on that comes before those of a chunk. -/
def Chunk.add (byte : Nat) (tail : List Nat) : Chunk → Chunk
  | [] => [(byte, [tail])]
  | (b, tails) :: rest =>
    if byte = b then (b, tail :: tails) :: rest else (b, tails) :: add byte tail rest

/-- The chunks of words, where a word that ends parts those before it from those after it. -/
def chunksBetween : List (List Nat) → List Chunk
  | [] => [[]]
  | [] :: rest => [] :: chunksBetween rest
  | (byte :: tail) :: rest =>
    match chunksBetween rest with
    | chunk :: chunks => chunk.add byte tail :: chunks
    | [] => [Chunk.add byte tail []]

/-- The chunks of words; of the words that end before any other goes on only one counts. -/
def chunksOf (words : List (List Nat)) : List Chunk :=
  match words with
  | [] :: rest => [] :: chunksBetween (rest.dropWhile List.isEmpty)
  | _ => chunksBetween words

/-- The size of the state that reads one of the bytes of a chunk. -/
def Chunk.size (chunk : Chunk) : Nat :=
  match chunk with
  | [] => 0
  | [_] => stateSize
  | _ => stateSize + transitionSize * chunk.length

/-- The size of the states that read words of at most `height` bytes, without the final one. -/
def wordsSize : Nat → List (List Nat) → Nat
  | 0, _ => 0
  | height + 1, words =>
    if words.all List.isEmpty then 0
    else
      let chunks := chunksOf words
      let used := chunks.filter fun chunk => !chunk.isEmpty
      let rests := (used.flatMap fun chunk => chunk.map fun (_, tails) => wordsSize height tails).sum
      -- a branch into every chunk that is not empty, and one to the end after all but the last
      stateSize + branchSize * (used.length + (chunks.length - 1)) +
        (used.map Chunk.size).sum + rests

/-- The size of a machine for one of several words; words share what they start with. -/
def dictionarySize (words : List (List Nat)) : Nat :=
  stateSize + wordsSize ((words.map List.length).foldl max 0) words

/-! ## Shapes -/

/-- The size of a state that chooses whether to go on. -/
def choiceSize : Nat := stateSize + 2 * branchSize

/-- The size of a repetition of a body of size `size`. -/
def repeatedSize (min : Nat) (max : Option Nat) (size : Nat) (neverEmpty : Bool) : Nat :=
  match max with
  | none =>
    if 0 < min then min * size + choiceSize
    else if neverEmpty then size + choiceSize
    else size + 2 * choiceSize + stateSize
  | some max =>
    if min = 0 ∧ max = 1 then choiceSize + size + stateSize
    else if min = max then min * size
    else (if min = 0 then stateSize else min * size) + stateSize + (max - min) * (choiceSize + size)

/-- The code points of a word. -/
def Shape.word? : Shape → Option (List Nat)
  | .word chars => some chars
  | _ => none

mutual

/-- The size of the machine of a shape. -/
def Shape.size (d : Direction) : Shape → Nat
  | .word chars => stateSize * (wordBytes d chars).length
  | .set members => setSize d members
  | .look _ => stateSize
  | .repeated min max body => repeatedSize min max (body.size d) body.traits.neverEmpty
  | .capture body => body.size d + (if d = .forward then 2 * stateSize else 0)
  | .row [] => stateSize
  | .row parts => (sizes d parts).sum
  | .choice branches =>
    match branches.mapM Shape.word? with
    | some words => dictionarySize (words.map (wordBytes d))
    | none => 2 * stateSize + branchSize * branches.length + (sizes d branches).sum

/-- The sizes of the machines of shapes. -/
def sizes (d : Direction) : List Shape → List Nat
  | [] => []
  | s :: rest => s.size d :: sizes d rest

end

/-- Every match starts at the end of the text that is read first. -/
def Traits.isAnchored (t : Traits) : Direction → Bool
  | .forward => t.startsText
  | .backward => t.endsText

/-- The size of the part that passes over characters before a match. -/
def searchSize (anchored : Bool) : Nat := if anchored then stateSize else 3 * stateSize + 16

/-- The size of the machine of an expression. -/
def Expr.size (d : Direction) (e : Expr) : Nat :=
  searchSize (e.shape.traits.isAnchored d) + (if d = .forward then 2 * stateSize else 0) +
    e.shape.size d + stateSize

/-- The machines of both directions are small enough. -/
def Expr.fits (e : Expr) : Bool :=
  e.size .forward ≤ sizeLimit && e.size .backward ≤ sizeLimit

end TestDiscovery.Pattern
