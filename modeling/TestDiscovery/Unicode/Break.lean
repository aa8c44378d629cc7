/-
# TestDiscovery.Unicode.Break -- where clusters, words and sentences may be divided

The values of the three break properties, by the rules of the standard where it
gives one, and by tables of Unicode 15.0 where it lists characters.
-/
import TestDiscovery.Unicode.Binary

namespace TestDiscovery.Unicode

set_option autoImplicit false

/-- The zero-width joiner. -/
def joiner : CharSet :=
  .single 0x200D

/-! ## Grapheme clusters -/

/-- Joining characters and skin tones. -/
def clusterExtend : CharSet :=
  graphemeExtend.union emojiModifier

/-- Characters that end a cluster. -/
def clusterControl : CharSet :=
  (CharSet.unions [lineSeparator, paragraphSeparator, control, format,
    unassigned.inter defaultIgnorable]).diff
    (.unions [.single 0x0D, .single 0x0A, joiner, prependedConcatenationMark, graphemeExtend])

/-- Characters that join the one after. -/
def clusterPrepend : CharSet := CharSet.packed
  ["600 5 d7 0 31 0 180 1 50 0 46b 0 1036e 0 f 0 f4 1 77b 0 1 0 f8 0 49 5 2bc 0 1bb 0"]

/-- Spacing marks that stay with the character before. -/
def clusterSpacingMark : CharSet := CharSet.packed
  ["903 0 37 0 2 2 8 3 1 1 32 1 3b 1 6 1 2 1 36 0 3a 2 42 0 3a 2 8 0 1 1 35 1 3c 0 6 1 2 1 72 0",
   "1 1 3 2 1 2 34 2 3d 3 3d 1 3a 0 1 1 1 1 2 1 1 1 27 0 e 1 3b 1 5 2 1 2 35 1 4c 1 6 6 13 1 3f",
   "0 7f 0 8a 1 3f 0 b1 0 9 1 19 1 2c 0 690 0 1e 0 81 0 7 7 1 1 15a 3 2 2 4 1 1 5 e0 1 3a 0 1 0",
   "15 5 91 0 36 0 1 4 1 1 3d 0 1e 0 4 1 2 0 3c 0 2 2 1 0 3 1 30 7 8 1 ab 0 15 0 8b2b 1 2 0 58 1",
   "32 f 8e 1 2f 0 30 1 4 1 2 2 6e 1 2 1 18 0 9d 0 2 1 5 0 ed 1 1 1 1 1 1 0 6413 0 1 0 7f 0 2d 2",
   "4 1 73 0 18 1 3b 0 30 2 9 1 d 0 5d 2 3 1 1 0 aa 2 1f 1 3b 0 1 3 2 1 2 2 14 1 d1 2 8 1 3 0 6b",
   "1 6 0 1 1 1 0 2 0 ee 1 6 3 2 0 71 2 8 1 1 0 6d 0 1 1 6 0 6f 0 105 2 9 0 f8 4 1 1 4 0 2 0 1 0",
   "8e 2 8 3 4 0 54 0 1d 1 3e 0 197 0 e 0 6a 0 7 0 2 0 d5 4 4 1 1 0 15e 1 c 0 30 1 8 1 1 0 500f",
   "36 68 1 6174 0 6 0"]

/-- Leading consonants of Hangul. -/
def hangulLeading : CharSet := CharSet.packed
  ["1100 5f 9800 1c"]

/-- Vowels of Hangul. -/
def hangulVowel : CharSet := CharSet.packed
  ["1160 47 c608 16"]

/-- Trailing consonants of Hangul. -/
def hangulTrailing : CharSet := CharSet.packed
  ["11a8 57 c5cb 30"]

/-- Hangul syllables without a trailing consonant. -/
def hangulOpen : CharSet :=
  ⟨(List.range 399).map fun k => (0xAC00 + 28 * k, 0xAC00 + 28 * k)⟩

/-- Hangul syllables with a trailing consonant. -/
def hangulClosed : CharSet :=
  (CharSet.range 0xAC00 0xD7A3).diff hangulOpen

/-- Values of the cluster break by name. -/
def graphemeClusterBreaks : List (List String × CharSet) :=
  [ (["cn", "control"], clusterControl), (["cr"], .single 0x0D), (["lf"], .single 0x0A),
    (["ex", "extend"], clusterExtend), (["l"], hangulLeading), (["lv"], hangulOpen),
    (["lvt"], hangulClosed), (["pp", "prepend"], clusterPrepend),
    (["ri", "regionalindicator"], regionalIndicator), (["sm", "spacingmark"], clusterSpacingMark),
    (["t"], hangulTrailing), (["v"], hangulVowel), (["zwj"], joiner) ]

/-! ## Words -/

/-- Letters of words. -/
def wordALetter : CharSet := CharSet.packed
  ["41 19 6 19 2f 0 a 0 4 0 5 16 1 1e 1 1df 6 21 70 4 1 1 2 3 1 0 6 0 1 2 1 0 1 13 1 52 1 8a 8",
   "a5 1 25 2 3 1 0 1 28 1 0 68 0 2c 2a 23 1 1 62 1 0 f 1 7 1 a 2 2 0 10 0 1 1d 1d 58 b 0 18 20",
   "9 1 4 0 5 15 4 0 9 0 3 0 17 18 7 a 5 17 1 5 11 29 3a 35 3 0 12 0 7 9 f f 4 7 2 1 2 15 1 6 1",
   "0 3 3 3 0 10 0 d 1 1 2 e 1 a 0 8 5 4 1 2 15 1 6 1 1 1 1 1 1 1f 3 1 0 13 2 10 8 1 2 1 15 1 6",
   "1 1 1 4 3 0 12 0 f 1 17 0 b 7 2 1 2 15 1 6 1 1 1 4 3 0 1e 1 1 2 f 0 11 0 1 5 3 2 1 3 3 1 1 0",
   "1 1 3 1 3 2 3 b 16 0 34 7 1 2 1 16 1 f 3 0 1a 2 2 0 2 1 1e 0 4 7 1 2 1 16 1 9 1 4 3 0 1f 1 1",
   "1 f 1 11 8 1 2 1 28 2 0 10 0 5 2 8 2 18 5 5 11 3 17 1 8 1 0 2 6 139 0 3f 7 1 23 1b 4 113 25",
   "1 0 5 0 2 2a 1 14c 1 3 2 6 1 0 1 3 2 28 1 3 2 20 1 3 2 6 1 0 1 3 2 e 1 38 1 3 2 42 25 f 10",
   "55 2 5 3 26b 2 10 1 19 5 4a 3 a 7 11 d 12 e 11 e c 1 2 af 58 7 4 2 21 1 0 5 45 a 1e e1 16 ee",
   "2e 11 7 36 1d d 1 a 2b 1a 23 29 2 a 23 2 8 7 2a 2 2 29 3 1 5 1 1 3 0 5 bf 40 115 2 5 2 25 2",
   "5 2 7 1 0 1 0 1 0 1 1e 2 34 1 6 1 0 3 2 1 6 3 3 2 5 4 c 5 2 1 6 74 0 d 0 10 c 65 0 4 0 2 9 1",
   "0 3 4 6 0 1 0 1 0 1 3 1 a 2 3 5 4 4 0 11 28 32d 33 716 e4 6 3 3 1 c 25 1 0 5 0 2 37 7 0 10",
   "16 9 6 1 6 1 6 1 6 1 6 1 6 1 6 1 6 50 0 1d5 0 35 1 c8 2a 1 5d 11 1f 6e40 48c 43 2d 2 10c 3 f",
   "a 1 14 2e 10 1e 2 4f 18 c2 5 1 1 0 1 4 18 f 1 2 1 3 1 16 1d 33 e 31 3e 5 3 0 1 1 b 1b a 16",
   "19 1c 7 2e 1c 0 30 28 17 2 1 7 94 a 7 2 c 5 2 5 2 5 9 6 1 6 1 39 6 72 1d 2ba3 c 16 4 30 2304",
   "6 c 4 38 61 21 16a 12 3f 2 35 28 b 74 4 1 86 24 19 6 19 45 1e 3 5 2 5 2 5 2 2 23 b 1 19 1 12",
   "1 1 1 e 2 d 22 7a 45 34 10b 1c 3 30 2f 1f d 1d 5 25 a 1d 2 23 4 7 1 4 2a 9d 12 23 4 23 4 27",
   "8 33 c a 1 e 1 6 1 1 1 a 1 e 1 6 1 1 43 136 9 15 a 7 18 5 1 29 1 8 45 5 2 0 1 2b 1 1 3 0 2",
   "16 a 16 9 1e 41 12 1 1 a 15 a 19 46 37 6 1 40 0 f 3 1 2 1 1c 2a 1c 3 1c 23 7 1 1b 1b 35 a 15",
   "a 12 d 11 6e 48 37 32 d 32 d 23 15c 29 6 1 4e 1c a 0 8 15 2a 11 2e 14 1b 16 c 34 39 1 2 0 d",
   "2c 20 18 1a 23 1d 0 2 0 8 22 3 0 c 2f e 3 15 0 1 0 23 11 1 18 13 1 3f 6 1 0 1 3 1 e 1 9 7 2e",
   "26 7 2 1 2 15 1 6 1 1 1 4 3 0 12 0 c 4 9e 34 12 3 14 2 1e 2f 14 1 1 0 b8 2e 29 3 24 2f 14 0",
   "3b 2a d 0 147 2b 74 3f 1f 7 2 0 2 7 1 1 1 17 f 0 1 0 5e 7 2 26 10 0 1 0 1c 0 a 27 7 0 15 0 b",
   "2d 13 0 12 48 107 8 1 24 11 0 31 1d 70 6 1 1 1 25 15 0 19 5 1 1 1 1f e 0 147 12 f 0 1 c 1 21",
   "7c 0 4f 399 66 6e 11 c3 a4c 60 f 42f 11 5 fb9 246 21b9 238 7 1e 11 4e 11 1d 12 2f 10 3 1f 14",
   "5 12 2b0 3f 80 4a 5 0 42 c 40 1 1 0 4c1c 6a 5 c 3 8 7 9 1766 54 1 46 1 1 2 0 2 1 2 3 1 b 1 0",
   "1 6 1 40 1 3 2 7 1 6 1 1b 1 3 1 4 1 0 3 6 1 153 2 18 1 18 1 1e 1 18 1 1e 1 18 1 1e 1 18 1 1e",
   "1 18 1 7 734 1e 6 5 105 3d 92 2c a 6 10 0 141 1d 12 2b 1e4 1b 2f4 6 1 3 1 1 1 e 1 c4 3b 43 7",
   "0 4b4 3 1 1a 1 1 1 0 2 0 1 9 1 3 1 0 1 0 6 0 4 0 1 0 1 0 1 2 1 1 1 0 2 0 1 0 1 0 1 0 1 0 1 1",
   "1 0 2 3 1 6 1 3 1 3 1 0 1 9 1 10 5 2 1 4 1 10 274 19 6 19 6 19"]

/-- Characters that continue a word without a break. -/
def wordExtend : CharSet :=
  (CharSet.unions [graphemeExtend, spacingMark, emojiModifier]).diff joiner

/-- Format characters inside words. -/
def wordFormat : CharSet :=
  format.diff (.unions [.range 0x200B 0x200D, graphemeExtend])

/-- Connectors of words. -/
def wordExtendNumLet : CharSet := CharSet.packed
  ["5f 0 1fcf 0 f 1 13 0 ddde 1 18 2 ef 0"]

/-- Hebrew letters. -/
def wordHebrewLetter : CharSet := CharSet.packed
  ["5d0 1a 4 3 f52a 0 1 9 1 c 1 4 1 0 1 1 1 1 1 9"]

/-- Katakana. -/
def wordKatakana : CharSet := CharSet.packed
  ["3031 4 65 1 3 5a 1 3 f0 f d0 2e 1 57 cc0e 37 b052 3 1 6 1 1 1 0 11f 2 32 0 e 3"]

/-- Punctuation between the digits of a number. -/
def wordMidNum : CharSet := CharSet.packed
  ["2c 0 e 0 342 0 20a 0 82 1 5e 0 18b 0 184b 0 ddcb 0 3 0 3b 0 3 0 b7 0 e 0"]

/-- Digits of words. -/
def wordNumeric : CharSet :=
  decimalNumber.union (.single 0x66B)

/-- Line ends other than the ASCII ones. -/
def wordNewline : CharSet :=
  .unions [.range 0x0B 0x0C, .single 0x85, .range 0x2028 0x2029]

/-- Spaces between words. -/
def wordSpace : CharSet :=
  spaceSeparator.diff (.unions [.single 0xA0, .single 0x2007, .single 0x202F])

/-- Values of the word break by name. -/
def wordBreaks : List (List String × CharSet) :=
  [ (["cr"], .single 0x0D), (["lf"], .single 0x0A), (["dq", "doublequote"], .single 0x22),
    (["ex", "extendnumlet"], wordExtendNumLet), (["extend"], wordExtend),
    (["fo", "format"], wordFormat), (["hl", "hebrewletter"], wordHebrewLetter),
    (["ka", "katakana"], wordKatakana), (["le", "aletter"], wordALetter),
    (["mb", "midnumlet"], midNumLet), (["ml", "midletter"], midLetter),
    (["mn", "midnum"], wordMidNum), (["nl", "newline"], wordNewline),
    (["nu", "numeric"], wordNumeric), (["ri", "regionalindicator"], regionalIndicator),
    (["sq", "singlequote"], singleQuote), (["wsegspace"], wordSpace), (["zwj"], joiner) ]

/-! ## Sentences -/

/-- Full stops that need not end a sentence. -/
def sentenceATerm : CharSet := CharSet.packed
  ["2e 0 1ff5 0 de2d 0 bb 0"]

/-- Punctuation that keeps a sentence open. -/
def sentenceContinue : CharSet := CharSet.packed
  ["2c 1 c 0 522 0 ae 1 1ea 0 1009 0 5 0 80a 1 fec 0 ce0e 1 1 0 1d 1 1d 1 3 0 2 0 a 0 a8 1 c 0",
   "49 0"]

/-- Characters that continue a sentence. -/
def sentenceExtend : CharSet :=
  .unions [graphemeExtend, spacingMark, joiner]

/-- Format characters inside sentences. -/
def sentenceFormat : CharSet :=
  format.diff (.unions [.range 0x200C 0x200D, graphemeExtend])

/-- Georgian letters, which sentences treat as letters without case. -/
def georgianLower : CharSet :=
  .ofRanges [(0x10D0, 0x10FA), (0x10FD, 0x10FF)]

/-- Georgian capital letters, which sentences treat as letters without case. -/
def georgianUpper : CharSet :=
  .ofRanges [(0x1C90, 0x1CBA), (0x1CBD, 0x1CBF)]

/-- Lower-case letters of sentences. -/
def sentenceLower : CharSet :=
  lowercase.diff (graphemeExtend.union georgianLower)

/-- Upper-case letters of sentences. -/
def sentenceUpper : CharSet :=
  (titlecaseLetter.union uppercase).diff georgianUpper

/-- Other letters of sentences. -/
def sentenceLetter : CharSet :=
  (alphabetic.union (.single 0x5F3)).diff
    (.unions [sentenceLower, sentenceUpper, sentenceExtend])

/-- Digits of sentences. -/
def sentenceNumeric : CharSet :=
  decimalNumber.union (.range 0x66B 0x66C)

/-- Line ends other than carriage return and line feed. -/
def sentenceSeparator : CharSet :=
  .unions [.single 0x85, .range 0x2028 0x2029]

/-- Spaces of sentences. -/
def sentenceSpace : CharSet :=
  whiteSpace.diff (.unions [sentenceSeparator, .single 0x0D, .single 0x0A])

/-- Closing marks after the end of a sentence. -/
def sentenceClose : CharSet := CharSet.packed
  ["22 0 4 2 31 0 1 0 1d 0 1 0 2d 0 f 0 e7e 3 75d 1 97b 7 19 1 a 1 36 1 e 1 279 3 1d 1 430 5 7 d",
   "4f 1 1f 9 193 15 3f 3 20 1 402 d e 1 2 9 18 0 12 7 1ab 9 2 7 1 2 cd1e 1 d7 1 1c f 2 1 10 5",
   "a9 1 31 0 1 0 1d 0 1 0 1 1 1 1 f712 2"]

/-- Certain ends of sentences. -/
def sentenceSTerm : CharSet :=
  sentenceTerminal.diff sentenceATerm

/-- Values of the sentence break by name. -/
def sentenceBreaks : List (List String × CharSet) :=
  [ (["at", "aterm"], sentenceATerm), (["cl", "close"], sentenceClose), (["cr"], .single 0x0D),
    (["ex", "extend"], sentenceExtend), (["fo", "format"], sentenceFormat),
    (["le", "oletter"], sentenceLetter), (["lf"], .single 0x0A),
    (["lo", "lower"], sentenceLower), (["nu", "numeric"], sentenceNumeric),
    (["sc", "scontinue"], sentenceContinue), (["se", "sep"], sentenceSeparator),
    (["sp"], sentenceSpace), (["st", "sterm"], sentenceSTerm), (["up", "upper"], sentenceUpper) ]

end TestDiscovery.Unicode
