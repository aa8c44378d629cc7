/-
# TestDiscovery.Unicode.Binary -- properties that a character has or lacks

The properties that the standard lists are tables of Unicode 15.0; those that it
derives are derived here by its own rules.
-/
import TestDiscovery.Unicode.CaseFold
import TestDiscovery.Unicode.Category

namespace TestDiscovery.Unicode

set_option autoImplicit false

/-! ## Listed properties -/

/-- Hexadecimal digits of ASCII. -/
def asciiHexDigit : CharSet := CharSet.packed
  ["30 9 7 5 1a 5"]

/-- Controls of the direction of text. -/
def bidiControl : CharSet := CharSet.packed
  ["61c 0 19f1 1 1a 4 37 3"]

/-- Dashes of all kinds. -/
def dash : CharSet := CharSet.packed
  ["2d 0 55c 0 33 0 e41 0 405 0 809 5 3d 0 27 0 f 0 186 0 c04 0 2 0 1f 1 4 0 1c 0 1be 0 13 0 6f",
   "0 cd90 1 25 0 a 0 a9 0 f9f 0"]

/-- Characters whose use is discouraged. -/
def deprecated : CharSet := CharSet.packed
  ["149 0 529 0 903 0 1 0 829 1 8c5 5 2b9 1 ddcd6 0"]

/-- Marks that change the meaning of another character. -/
def diacritic : CharSet := CharSet.packed
  ["5e 0 1 0 47 0 6 0 4 0 2 1 1f7 9e 1 7 5 5 11 1 4 0 9 1 fd 4 d1 0 37 10 1 1a 1 0 1 1 1 0 86 7",
   "4 1 86 1 4 1 3 2 43 1a 5b a 3a a 22 1 7e 7 29 9 10 1b 3d 0 10 0 3 3 1c 0 4a 0 10 0 6e 0 10 0",
   "6e 0 10 0 2f 2 3c 0 10 0 7 0 77 0 6e 0 10 0 6e 0 10 0 6d 1 10 0 7c 0 7c 5 1 0 6b 0 d 4 4b 1",
   "1b 0 1 0 1 0 4 1 42 2 1 1 3e 0 70 0 1 1 28 1 4 4 19 6 1 0 a 1 2c1 2 3b4 1 b3 a 9 0 15b 2 139",
   "7 2 0 30 e 2 a 68 0 f 0 26 8 36 1 8a 1 40 5 52 18 4 0 6 0 2 2 32 3e 59 b 25 a 1bd 0 1 2 b 2",
   "d 2 d 2 d 1 cf0 2 13d 0 1fa 5 69 3 5f 0 7572 0 c 1 1 0 1c 1 52 1 e 21 66 2 6d 1 ca 0 1b 11",
   "39 3 24 0 5f 0 c 0 24 0 95 2 41 3 33 0 64 4 9 2 80 1 4f30 0 301 f 10e 0 1 0 2f 0 2d 1 43 0",
   "2fc 0 49f 5 1 29 1 8 32a 1 23b 5 1d5 2 46 a 31 3 c0 0 29 0 48 1 78 1 3e 0 4c 0 9 2 68 1 b2 1",
   "51 0 10 0 18 6 3 4 cd 0 3 0 7b 1 fb 1 7e 0 76 1 73 0 10d 1 102 1 4 0 9c 0 53 0 12 0 51 0 1a5",
   "0 102 0 1 1 51 0 16af e 369a 4 3b 6 458 10 50 1 3ffe 3 1 6 1 1 1f01 2d 2 16 220 2 3 5 8 7 2",
   "6 1e 3 e82 3d c2 6 177 0 3d 3 5e0 6 6d 2 1 2"]

/-- Emoji characters. -/
def emoji : CharSet := CharSet.packed
  ["23 0 6 0 5 9 6f 0 4 0 1f8d 0 c 0 d8 0 16 0 5a 5 f 1 16f 1 c 0 a6 0 19 a 4 2 c7 0 e7 1 a 0 9",
   "0 3a 3 1 4 9 0 2 0 2 1 2 0 4 0 2 0 1 1 2 0 3 0 3 1 8 2 5 0 1 0 5 b b 1 2 0 1 1 1 0 12 0 2 1",
   "12 5 1 0 1 1 3 1 5 0 2 1 4 1 b 1 5 1 2 0 5 1 1 0 1 1 14 1 5 5 1 3 2 0 4 0 2 0 2 5 1 0 2 0 1",
   "0 1 0 6 0 3 0 6 0 a 1 f 0 2 0 4 0 1 0 4 2 1 0 b 1 30 2 9 0 e 0 e 0 174 1 1cf 2 13 1 33 0 4 0",
   "4da 0 c 0 259 0 1 0 1bd6a 0 ca 0 a0 1 c 1 e 0 2 9 4b 19 1 1 17 0 14 0 2 8 15 1 ae 21 2 6f 2",
   "1 1 2 2 52 2 2 1 106 1 3e b 5 1 17 7 1 2 7 c 0 2 3 2 0 4 1 d 1 2 0 8 1 9 0 5 2 c 2 8 2 2 0 1",
   "0 4 0 6 0 3 0 6 55 30 45 5 7 2 2 4 9 3 0 1 1 3 0 2 9 e3 b 4 0 11b 2e 1 9 1 b8 70 c 3 8 7 2d",
   "1 6 8 d 4 8 7 8"]

/-- Parts of emoji sequences. -/
def emojiComponent : CharSet := CharSet.packed
  ["23 0 6 0 5 9 1fd3 0 d5 0 dd2b 0 f3d6 19 1fb 4 5b0 3 c066c 5f"]

/-- Skin tones. -/
def emojiModifier : CharSet := CharSet.packed
  ["1f3fb 4"]

/-- Emoji that take a skin tone. -/
def emojiModifierBase : CharSet := CharSet.packed
  ["261d 0 db 0 10 3 1cc77 0 3c 2 2 0 2 2 75 1 2 a 15 12 3 0 4 2 1 2 7 0 1 0 18 0 c9 1 4 0 15 0",
   "4 1 ae 2 3 4 53 0 10 2 9 0 b 0 23f 0 2 0 8 7 6 0 9 9 2 2 38 0 3d 1 1 1 1 0 11 2 1 c e5 2 2a",
   "8"]

/-- Emoji shown in colour by default. -/
def emojiPresentation : CharSet := CharSet.packed
  ["231a 1 cd 3 3 0 2 0 209 1 15 1 32 b 2b 0 13 0 d 0 8 1 11 1 5 1 8 0 5 0 15 0 7 1 1 0 4 0 2 0",
   "7 0 4 1 1c 0 23 0 1 0 4 2 1 0 3d 2 18 0 e 0 35b 1 33 0 4 0 1c4ae 0 ca 0 be 0 2 9 4b 19 1 0",
   "18 0 14 0 2 4 1 2 15 1 ae 20 c 8 1 45 1 15 c 2a 4 4 c 10 3 0 3 46 1 0 1 ba 2 3e d 3 1 17 12",
   "0 1a 1 d 0 56 54 30 45 6 0 3 2 2 2 4 3 b 1 7 8 e3 b 4 0 11b 2e 1 9 1 b8 70 c 3 8 7 2d 1 6 8",
   "d 4 8 7 8"]

/-- Pictographs, those reserved for the future included. -/
def extendedPictographic : CharSet := CharSet.packed
  ["a9 0 4 0 1f8d 0 c 0 d8 0 16 0 5a 5 f 1 16f 1 c 0 5f 0 46 0 19 a 4 2 c7 0 e7 1 a 0 9 0 3a 3 1",
   "5 1 b 1 71 a 75 2 a 1 0 1 0 6 0 3 0 6 0 a 1 f 0 2 0 4 0 1 0 4 2 1 0 b 4 2d 2 9 0 e 0 e 0 174",
   "1 1cf 2 13 1 33 0 4 0 4da 0 c 0 259 0 1 0 1bd66 ff d 2 1f 0 3c 5 c 1 e 0 2 9 12 38 1b e a 0",
   "14 0 2 8 1 3 9 1b1 5 13d 8 109 30 7f 74 b 55 2a c 3 38 7 a 5 28 7 1e 51 c 2e 1 9 1 1b8 100",
   "3fd"]

/-- Characters that lengthen the one before. -/
def extender : CharSet := CharSet.packed
  ["b7 0 218 1 36e 0 1b9 0 35a 0 2f0 0 7f 0 943 0 38 0 263 0 18e 0 44 0 1389 0 2b 4 67 1 5d 2",
   "6f16 0 5f6 0 3c2 0 16 0 89 0 6c 0 15 1 547b 0 810 1 bda 0 268 2 4cf 0 50a9 1 49c 1 1 0 7158",
   "1 806 2"]

/-- Viramas: characters of combining class 9. -/
def graphemeLink : CharSet := CharSet.packed
  ["94d 0 7f 0 7f 0 7f 0 7f 0 7f 0 7f 0 7f 0 6d 1 10 0 7c 0 6f 0 7f 0 c9 0 b4 1 6d9 1 1e 0 9d 0",
   "28d 0 e3 0 65 1 46 1 118b 0 7a86 0 25 0 97 0 8e 0 6c 0 135 0 f6 0 5e51 0 606 0 29 0 e 0 39 0",
   "79 1 8b 0 74 0 b4 0 62 0 f4 0 7f 0 fc 0 7f 0 76 0 74 0 10d 0 103 1 a1 0 53 0 12 0 51 0 1a5 0",
   "104 1 51 0 1a9 1"]

/-- Hexadecimal digits, full-width ones included. -/
def hexDigit : CharSet := CharSet.packed
  ["30 9 7 5 1a 5 fea9 9 7 5 1a 5"]

/-- Hyphens. -/
def hyphen : CharSet := CharSet.packed
  ["2d 0 7f 0 4dc 0 127b 0 809 1 e05 0 2e3 0 cd67 0 a9 0 57 0"]

/-- Description operators of two ideographs. -/
def idsBinaryOperator : CharSet := CharSet.packed
  ["2ff0 1 2 7"]

/-- Description operators of three ideographs. -/
def idsTrinaryOperator : CharSet := CharSet.packed
  ["2ff2 1"]

/-- Ideographs. -/
def ideographic : CharSet := CharSet.packed
  ["3006 1 19 8 e 2 3c5 19bf 40 51ff 5900 16d 2 69 750a 0 1b 17f7 8 4d5 2a 8 2467 18b 4d04 a6df",
   "20 1039 6 dd 2 1681 e 1d30 c1f 21d 5e2 134a 5 105f"]

/-- The joiner and the non-joiner. -/
def joinControl : CharSet := CharSet.packed
  ["200c 1"]

/-- Vowels written before the consonant they follow in speech. -/
def logicalOrderException : CharSet := CharSet.packed
  ["e40 4 7b 4 af0 2 2 0 90fa 1 2 0 1 1"]

/-- Code points that are never characters. -/
def noncharacter : CharSet := CharSet.packed
  ["fdd0 1f 20e 1 fffe 1 fffe 1 fffe 1 fffe 1 fffe 1 fffe 1 fffe 1 fffe 1 fffe 1 fffe 1 fffe 1",
   "fffe 1 fffe 1 fffe 1 fffe 1 fffe 1"]

/-- Alphabetic characters that no category shows to be so. -/
def otherAlphabetic : CharSet := CharSet.packed
  ["5b0 d 1 0 1 1 1 1 1 0 48 a 30 c 1 6 10 0 65 6 4 3 2 1 4 0 23 0 1e f 66 a 65 1 3 8 1 2 1 3 a7",
   "b 3 6 6 13 36 1 2 e 1 1 5 2 a 1 1d 2 3a 6 2 1 2 1 a 0 a 1 1d 2 3a 4 4 1 2 1 4 0 1e 1 3 0 b 2",
   "3a 7 1 2 1 1 15 1 16 2 4 2 3a 6 2 1 2 1 9 1 a 1 1e 0 3b 4 3 2 1 2 a 0 28 4 39 6 1 2 1 2 8 1",
   "b 1 1d 2 3a 6 1 2 1 2 8 1 b 1 f 0 c 3 3a 6 1 2 1 2 a 0 a 1 1d 2 4b 5 1 0 1 7 12 1 3d 0 2 6",
   "12 0 63 0 2 5 1 1 10 0 a3 12 9 a 1 23 6e b 1 0 2 3 17 3 4 2 1 2 2 6 3 3 d b 1 0 a 3 674 1 1e",
   "1 1e 1 1e 1 42 12 bc 1 22 0 76 b 4 8 de 4 39 9 2 13 4a 1 b 2 31 4 30 e 3c 2 1e 8 2 1 39 a 32",
   "12 1b0 d 6c1 33 8f6 1f 7874 7 22 1 162 0 8 0 17 4 58 1 32 f 1 0 39 0 26 4 1c b 2d 3 30 b 25",
   "0 43 d c 0 8 1 2d 2 32 0 1 2 2 1 5 0 2c 4 5 0 ed 7 4f33 0 857 4 686 2 1 1 5 3 314 3 183 1",
   "153 2 35 d 2d 1 b 2 2d 8 9 0 3d 2 24 b 12 1 39 2 30 c e 1 5c 8 2 0 6 0 2 0 9d 9 17 3 3a 6 2",
   "1 2 1 a 0 a 1 d1 c 1 2 6a 11 ed 6 2 6 1d 1 52 e 1 0 6a a 67 d 101 c f7 5 1 1 2 1 3 0 1 0 8e",
   "6 2 5 4 0 1c 9 2a 4 1 3 12 a 2e d 197 7 1 6 53 15 1 d 7a 5 3 0 1 1 1 2 1 0 3 0 42 4 1 1 1 3",
   "15c 3 9 1 1 0 30 6 3 2 500e 0 1 36 7 3 5d 1 4cac 0 2361 6 1 10 2 6 1 1 1 4 64 0 8b7 0 7e8 19",
   "6 19 6 19"]

/-- Code points without a visible form that no category shows to be so. -/
def otherDefaultIgnorable : CharSet := CharSet.packed
  ["34f 0 e0f 1 653 1 8af 0 10fe 0 ce3b 0 4f 8 d0007 0 1 1d 60 7f f0 e0f"]

/-- Joining characters that no category shows to be so. -/
def otherGraphemeExtend : CharSet := CharSet.packed
  ["9be 0 18 0 166 0 18 0 66 0 18 0 ea 0 12 1 67 0 18 0 77 0 f 0 d55 0 4d6 0 1021 1 cf6e 1 139e",
   "0 18 0 158 0 c 0 f1 0 380 0 b834 0 8 4 c2ead 5f"]

/-- Identifier characters that no category shows to be so. -/
def otherIdContinue : CharSet := CharSet.packed
  ["b7 0 2cf 0 fe1 8 668 0"]

/-- Characters that start identifiers for stability. -/
def otherIdStart : CharSet := CharSet.packed
  ["1885 1 891 0 15 0 f6c 1"]

/-- Lower-case characters that are not of the category. -/
def otherLowercase : CharSet := CharSet.packed
  ["aa 0 f 0 1f5 8 7 1 1e 4 60 0 34 0 d81 0 c2f 3e d 0 22 24 2b1 0 d 0 10 c d3 f 350 19 792 1",
   "7a1e 1 d2 0 81 2 3 1 362 3 9 0 5c16 0 2 2 1 29 1 8 d875 3d"]

/-- Mathematical characters that are not of the category. -/
def otherMath : CharSet := CharSet.packed
  ["5e 0 371 2 2 0 1a 1 2 1 1c20 0 1b 2 b 0 20 3 18 1 e 1 41 c 4 0 3 1 4 4 12 0 4 0 2 9 1 0 3 4",
   "6 0 3 1 2 1 1 2 1 5 3 3 5 4 4b 4 2 3 1 1 1 1 1 0 1 4 2 1 4 1 4 11 2 1 1 0 1 6 1 0 6 1 122 3",
   "a8 1 1 0 18 0 11 0 1bd 1 c 8 5 4 5 1 2 1 3 4 e 0 1 0 2 5 18 1 39 0 1 0 1d 3 9 1 156 1 1f 9",
   "193 15 3f 3 20 1 d463 0 1 0 4 0 d3 0 1 0 d4c1 54 1 46 1 1 2 0 2 1 2 3 1 b 1 0 1 6 1 40 1 3 2",
   "7 1 6 1 1b 1 3 1 4 1 0 3 6 1 153 2 18 1 18 1 1e 1 18 1 1e 1 18 1 1e 1 18 1 1e 1 18 1 7 2 31",
   "1600 3 1 1a 1 1 1 0 2 0 1 9 1 3 1 0 1 0 6 0 4 0 1 0 1 0 1 2 1 1 1 0 2 0 1 0 1 0 1 0 1 0 1 1",
   "1 0 2 3 1 6 1 3 1 3 1 0 1 9 1 10 5 2 1 4 1 10"]

/-- Upper-case characters that are not of the category. -/
def otherUppercase : CharSet := CharSet.packed
  ["2160 f 346 19 1cc60 19 6 19 6 19"]

/-- Characters that stand for themselves in no pattern language. -/
def patternSyntax : CharSet := CharSet.packed
  ["21 e a 6 1a 3 1 0 1a 3 22 6 1 0 1 1 1 0 1 1 4 0 4 0 3 0 17 0 1f 0 1f18 17 8 e 2 12 1 9 131",
   "2cf a0 275 1e 46b 200 7f 181 2 4 18 f 0 cd0d 1 105 1"]

/-- White space of pattern languages. -/
def patternWhiteSpace : CharSet := CharSet.packed
  ["9 4 12 0 64 0 1f88 1 18 1"]

/-- Marks that span the digits after them. -/
def prependedConcatenationMark : CharSet := CharSet.packed
  ["600 5 d7 0 31 0 180 1 50 0 107da 0 f 0"]

/-- Quotation marks. -/
def quotationMark : CharSet := CharSet.packed
  ["22 0 4 0 83 0 f 0 1f5c 7 19 1 e07 0 1c9 3 d 2 ce21 3 bd 0 4 0 5a 1"]

/-- Radicals of ideographs. -/
def radical : CharSet := CharSet.packed
  ["2e80 19 1 58 c d5"]

/-- Letters of flags. -/
def regionalIndicator : CharSet := CharSet.packed
  ["1f1e6 19"]

/-- Ends of sentences. -/
def sentenceTerminal : CharSet := CharSet.packed
  ["21 0 c 0 10 0 549 0 93 2 b4 0 2b 2 f6 0 3d 0 1 0 3 1 125 1 6e4 1 316 0 4 1 305 0 c6 1 cc 0 5",
   "0 13a 1 162 3 ae 1 2 1 1d 1 bc 1 41 1 3bc 1 9 2 de4 0 d 0 16 1 1ad 0 74fc 0 10e 1 e3 0 3 0",
   "17e 1 56 1 5f 0 98 1 93 2 90 1 f9 0 5266 0 3 1 a9 0 c 0 10 0 41 0 af4 1 4fd 4 2c 3 bd 1 75 3",
   "7f 2 81 1 6 0 10 1 58 1 1 1 6c 0 1a1 1 175 1 5 e 69 1 f9 2 205 0 1 0 fb 1 57 1 1a4 1 2b4 1",
   "4a 1 4b29 1 85 0 41 1 b 0 353 0 4e06 0 1de8 0"]

/-- Letters that lose their dot under an accent. -/
def softDotted : CharSet := CharSet.packed
  ["69 1 c4 0 119 0 1e 0 34 0 14 0 140 0 62 0 1 0 1909 0 33 0 d 0 3 0 84 0 9d 0 1a5 0 d6 1 b32 0",
   "1a7a5 1 32 1 32 1 32 1 32 1 32 1 32 1 32 1 32 1 32 1 32 1 32 1 32 1 886 0 131 1 1a 0"]

/-- Ends of textual units. -/
def terminalPunctuation : CharSet := CharSet.packed
  ["21 0 a 0 1 0 b 1 3 0 33e 0 8 0 201 0 39 0 48 0 e 0 1 2 b4 0 2b a 1 0 eb 1 36 e 1f 0 105 1",
   "4f4 1 ac 0 4 5 137 1 315 7 305 0 7c 2 47 1 9d 2 3 0 27 3 2 1 13a 1 162 3 ae 1 1 2 1d 1 bc 4",
   "3e 1 3bc 1 9 2 de4 0 d 0 4 0 a 0 1 1 3 1 1ac 1 74fb 1 10d 2 e3 4 17e 1 56 1 5f 0 97 2 93 2",
   "7f 0 10 1 f9 0 5264 2 1 3 a9 0 a 0 1 0 b 1 3 0 41 0 2 0 43a 0 30 0 486 0 c7 0 136 1 98 5 44",
   "5 59 3 3b8 4 2c 3 bd 6 70 3 7f 2 81 1 6 0 10 1 58 4 6c 0 1a1 2 c 1 166 3 3 e 69 1 f9 2 205 0",
   "1 0 fb 1 57 1 4 1 19e 2 2d 0 285 1 4a 1 52b 4 45f9 1 85 0 41 2 a 0 352 1 4e06 0 1de7 3"]

/-- Unified ideographs. -/
def unifiedIdeograph : CharSet := CharSet.packed
  ["3400 19bf 40 51ff 5a0e 1 1 0 1 1 a 0 1 0 1 1 2 2 105d6 a6df 20 1039 6 dd 2 1681 e 1d30 141f",
   "134a 5 105f"]

/-- Variation selectors. -/
def variationSelector : CharSet := CharSet.packed
  ["180b 2 1 0 e5f0 f d02f0 ef"]

/-- White space. -/
def whiteSpace : CharSet := CharSet.packed
  ["9 4 12 0 64 0 1a 0 15df 0 97f a 1d 1 5 0 2f 0 fa0 0"]

/-- Characters that change in upper case. -/
def changesWhenUppercased : CharSet := CharSet.packed
  ["61 19 3a 0 29 17 1 7 1 0 1 0 1 0 1 0 1 0 1 0 1 0 1 0 1 0 1 0 1 0 1 0 1 0 1 0 1 0 1 0 1 0 1 0",
   "1 0 1 0 1 0 1 0 1 0 1 0 1 0 1 0 1 0 1 0 2 0 1 0 1 0 1 0 1 0 1 0 1 0 1 1 1 0 1 0 1 0 1 0 1 0",
   "1 0 1 0 1 0 1 0 1 0 1 0 1 0 1 0 1 0 1 0 1 0 1 0 1 0 1 0 1 0 1 0 1 0 1 0 2 0 1 0 1 2 2 0 1 0",
   "2 0 3 0 5 0 2 0 3 1 3 0 2 0 1 0 1 0 2 0 4 0 2 0 3 0 1 0 2 0 3 0 1 0 5 1 1 1 1 1 1 0 1 0 1 0",
   "1 0 1 0 1 0 1 0 1 1 1 0 1 0 1 0 1 0 1 0 1 0 1 0 1 0 1 1 1 1 1 0 3 0 1 0 1 0 1 0 1 0 1 0 1 0",
   "1 0 1 0 1 0 1 0 1 0 1 0 1 0 1 0 1 0 1 0 1 0 1 0 1 0 3 0 1 0 1 0 1 0 1 0 1 0 1 0 1 0 1 0 8 0",
   "2 1 1 0 4 0 1 0 1 0 1 0 1 5 1 1 1 0 1 1 3 1 1 0 1 1 1 4 2 0 1 1 2 0 7 0 2 0 1 1 3 5 5 0 a 1",
   "a6 0 2b 0 1 0 3 0 3 2 12 0 1b 22 1 1 3 2 1 0 1 0 1 0 1 0 1 0 1 0 1 0 1 0 1 0 1 0 1 0 1 4 1 0",
   "2 0 2 0 34 2f 1 0 1 0 1 0 1 0 1 0 1 0 1 0 1 0 1 0 1 0 1 0 1 0 1 0 1 0 1 0 1 0 1 0 9 0 1 0 1",
   "0 1 0 1 0 1 0 1 0 1 0 1 0 1 0 1 0 1 0 1 0 1 0 1 0 1 0 1 0 1 0 1 0 1 0 1 0 1 0 1 0 1 0 1 0 1",
   "0 1 0 2 0 1 0 1 0 1 0 1 0 1 0 1 1 1 0 1 0 1 0 1 0 1 0 1 0 1 0 1 0 1 0 1 0 1 0 1 0 1 0 1 0 1",
   "0 1 0 1 0 1 0 1 0 1 0 1 0 1 0 1 0 1 0 1 0 1 0 1 0 1 0 1 0 1 0 1 0 1 0 1 0 1 0 1 0 1 0 1 0 1",
   "0 1 0 1 0 1 0 1 0 1 0 1 0 1 0 1 0 1 0 1 0 31 26 b48 2a 2 2 2f8 5 882 8 f0 0 3 0 10 0 72 0 1",
   "0 1 0 1 0 1 0 1 0 1 0 1 0 1 0 1 0 1 0 1 0 1 0 1 0 1 0 1 0 1 0 1 0 1 0 1 0 1 0 1 0 1 0 1 0 1",
   "0 1 0 1 0 1 0 1 0 1 0 1 0 1 0 1 0 1 0 1 0 1 0 1 0 1 0 1 0 1 0 1 0 1 0 1 0 1 0 1 0 1 0 1 0 1",
   "0 1 0 1 0 1 0 1 0 1 0 1 0 1 0 1 0 1 0 1 0 1 0 1 0 1 0 1 0 1 0 1 0 1 0 1 0 1 0 1 0 1 0 1 0 1",
   "0 1 0 1 0 1 0 1 6 5 0 1 0 1 0 1 0 1 0 1 0 1 0 1 0 1 0 1 0 1 0 1 0 1 0 1 0 1 0 1 0 1 0 1 0 1",
   "0 1 0 1 0 1 0 1 0 1 0 1 0 1 0 1 0 1 0 1 0 1 0 1 0 1 0 1 0 1 0 1 0 1 0 1 0 1 0 1 0 1 0 1 0 1",
   "0 1 0 1 0 1 0 1 0 1 0 1 8 8 5 a 7 8 7 8 5 a 7 8 7 8 d 2 34 1 1 4 0 1 0 3 2 1 1 4 0 3 3 2 1 8",
   "7 a 2 1 1 4 0 151 0 21 f 4 0 34b 19 746 2f 1 0 3 1 1 0 1 0 1 0 6 0 2 0 a 0 1 0 1 0 1 0 1 0 1",
   "0 1 0 1 0 1 0 1 0 1 0 1 0 1 0 1 0 1 0 1 0 1 0 1 0 1 0 1 0 1 0 1 0 1 0 1 0 1 0 1 0 1 0 1 0 1",
   "0 1 0 1 0 1 0 1 0 1 0 1 0 1 0 1 0 1 0 1 0 1 0 1 0 1 0 1 0 1 0 1 0 1 0 1 0 1 0 1 0 1 0 8 0 1",
   "0 4 0 c 25 1 0 5 0 7913 0 1 0 1 0 1 0 1 0 1 0 1 0 1 0 1 0 1 0 1 0 1 0 1 0 1 0 1 0 1 0 1 0 1",
   "0 1 0 1 0 1 0 1 0 1 0 13 0 1 0 1 0 1 0 1 0 1 0 1 0 1 0 1 0 1 0 1 0 1 0 1 0 1 0 87 0 1 0 1 0",
   "1 0 1 0 1 0 1 0 3 0 1 0 1 0 1 0 1 0 1 0 1 0 1 0 1 0 1 0 1 0 1 0 1 0 1 0 1 0 1 0 1 0 1 0 1 0",
   "1 0 1 0 1 0 1 0 1 0 1 0 1 0 1 0 1 0 1 0 1 0 1 0 a 0 1 0 2 0 1 0 1 0 1 0 1 0 4 0 4 0 1 1 2 0",
   "1 0 1 0 1 0 1 0 1 0 1 0 1 0 1 0 1 0 b 0 1 0 1 0 1 0 1 0 1 0 1 0 1 0 4 0 1 0 6 0 5 0 1 0 1c 0",
   "35c 0 1c 4f 4f40 6 c 4 429 19 4cd 27 88 23 9b a 1 e 1 6 1 1 703 32 bcd 1f 5580 1f 7aa2 21"]

/-! ## Derived properties -/

/-- Lower-case characters. -/
def lowercase : CharSet :=
  lowercaseLetter.union otherLowercase

/-- Upper-case characters. -/
def uppercase : CharSet :=
  uppercaseLetter.union otherUppercase

/-- Characters of some case. -/
def cased : CharSet :=
  .unions [lowercase, uppercase, titlecaseLetter]

/-- Alphabetic characters. -/
def alphabetic : CharSet :=
  .unions [lowercase, uppercase, titlecaseLetter, modifierLetter, otherLetter, letterNumber,
    otherAlphabetic]

/-- Mathematical characters. -/
def math : CharSet :=
  mathSymbol.union otherMath

/-- Characters that join the one before. -/
def graphemeExtend : CharSet :=
  .unions [enclosingMark, nonspacingMark, otherGraphemeExtend]

/-- Characters that take joining ones. -/
def graphemeBase : CharSet :=
  CharSet.compl (.unions [otherCategory, lineSeparator, paragraphSeparator, graphemeExtend])

/-- Starts of identifiers. -/
def idStart : CharSet :=
  (CharSet.unions [letter, letterNumber, otherIdStart]).diff
    (patternSyntax.union patternWhiteSpace)

/-- Characters of identifiers. -/
def idContinue : CharSet :=
  .unions [idStart, nonspacingMark, spacingMark, decimalNumber, connectorPunctuation,
    otherIdContinue]

/-- Identifier characters that normalization breaks. -/
def unstableIdContinue : CharSet := CharSet.packed
  ["37a 0 2d20 1 cbc1 5 196 1 74 0 1 0 1 0 1 0 1 0 1 0 1 0 1 0"]

/-- Starts of identifiers that normalization makes other characters of identifiers. -/
def unstableIdStart : CharSet := CharSet.packed
  ["e33 0 7f 0 f0ea 1"]

/-- Starts of identifiers, kept by normalization. -/
def xidStart : CharSet :=
  idStart.diff (unstableIdStart.union unstableIdContinue)

/-- Characters of identifiers, kept by normalization. -/
def xidContinue : CharSet :=
  idContinue.diff unstableIdContinue

/-- Code points without a visible form. -/
def defaultIgnorable : CharSet :=
  ((format.union variationSelector).diff
    (.unions [whiteSpace, .range 0xFFF9 0xFFFB, .range 0x13430 0x13440,
      prependedConcatenationMark])).union otherDefaultIgnorable

/-- Punctuation between the letters of a word. -/
def midLetter : CharSet := CharSet.packed
  ["3a 0 7c 0 2cf 0 1d7 0 94 0 1a32 0 ddeb 0 41 0 c4 0"]

/-- Punctuation between the letters or the digits of a word. -/
def midNumLet : CharSet := CharSet.packed
  ["2e 0 1fe9 1 a 0 de2d 0 b4 0 6 0"]

/-- The apostrophe. -/
def singleQuote : CharSet :=
  .single 0x27

/-- Characters passed over when the case of a neighbour is sought. -/
def caseIgnorable : CharSet :=
  .unions [nonspacingMark, enclosingMark, format, modifierLetter, modifierSymbol, midLetter,
    midNumLet, singleQuote]

/-- Characters whose full case folding has several characters. -/
def fullFold : CharSet := CharSet.packed
  ["df 0 50 0 18 0 43d 0 1912 0 e5 7 8 7 8 7 a 2 2 0 a 2 2 0 2a 2 2 0 db08 6 c 4"]

/-- Characters that change in full case folding. -/
def changesWhenCasefolded : CharSet :=
  ((CharSet.ofRanges (simpleFolds.map fun (c, _) => (c, c))).union fullFold).diff
    (.single 0x1FBE)

/-- Characters whose folding differs from their lower case, or the other way round. -/
def foldNotLowered : CharSet := CharSet.packed
  ["b5 0 7a 0 4e 0 1c5 0 7c 0 d 1 3 1 19 1 3 0 faa 55 2 5 882 8 212 0 122 0 8bb1 4f"]

/-- Characters that change in lower case. -/
def changesWhenLowercased : CharSet :=
  (CharSet.ofRanges (simpleFolds.map fun (c, _) => (c, c))).symmDiff foldNotLowered

/-- Characters that change in one of title case and upper case. -/
def titleNotUpper : CharSet := CharSet.packed
  ["1c4 1 1 1 1 1 25 1 edd 2a 2 2 e88 7 8 7 8 7 c 0 f 0 2f 0"]

/-- Characters that change in title case. -/
def changesWhenTitlecased : CharSet :=
  changesWhenUppercased.symmDiff titleNotUpper

/-- Characters that change in some case. -/
def changesWhenCasemapped : CharSet :=
  .unions [changesWhenLowercased, changesWhenUppercased, changesWhenTitlecased]

/-! ## Names -/

/-- The properties by their names, in lower case and without blanks, hyphens and underscores. -/
def binaryProperties : List (List String × CharSet) :=
  [ (["alphabetic", "alpha"], alphabetic),
    (["asciihexdigit", "ahex"], asciiHexDigit),
    (["bidicontrol", "bidic"], bidiControl),
    (["caseignorable", "ci"], caseIgnorable),
    (["cased"], cased),
    (["changeswhencasefolded", "cwcf"], changesWhenCasefolded),
    (["changeswhencasemapped", "cwcm"], changesWhenCasemapped),
    (["changeswhenlowercased", "cwl"], changesWhenLowercased),
    (["changeswhentitlecased", "cwt"], changesWhenTitlecased),
    (["changeswhenuppercased", "cwu"], changesWhenUppercased),
    (["dash"], dash),
    (["defaultignorablecodepoint", "di"], defaultIgnorable),
    (["deprecated", "dep"], deprecated),
    (["diacritic", "dia"], diacritic),
    (["emoji"], emoji),
    (["emojicomponent", "ecomp"], emojiComponent),
    (["emojimodifier", "emod"], emojiModifier),
    (["emojimodifierbase", "ebase"], emojiModifierBase),
    (["emojipresentation", "epres"], emojiPresentation),
    (["extendedpictographic", "extpict"], extendedPictographic),
    (["extender", "ext"], extender),
    (["graphemebase", "grbase"], graphemeBase),
    (["graphemeextend", "grext"], graphemeExtend),
    (["graphemelink", "grlink"], graphemeLink),
    (["hexdigit", "hex"], hexDigit),
    (["hyphen"], hyphen),
    (["idsbinaryoperator", "idsb"], idsBinaryOperator),
    (["idstrinaryoperator", "idst"], idsTrinaryOperator),
    (["idcontinue", "idc"], idContinue),
    (["idstart", "ids"], idStart),
    (["ideographic", "ideo"], ideographic),
    (["joincontrol", "joinc"], joinControl),
    (["logicalorderexception", "loe"], logicalOrderException),
    (["lowercase", "lower"], lowercase),
    (["math"], math),
    (["noncharactercodepoint", "nchar"], noncharacter),
    (["otheralphabetic", "oalpha"], otherAlphabetic),
    (["otherdefaultignorablecodepoint", "odi"], otherDefaultIgnorable),
    (["othergraphemeextend", "ogrext"], otherGraphemeExtend),
    (["otheridcontinue", "oidc"], otherIdContinue),
    (["otheridstart", "oids"], otherIdStart),
    (["otherlowercase", "olower"], otherLowercase),
    (["othermath", "omath"], otherMath),
    (["otheruppercase", "oupper"], otherUppercase),
    (["patternsyntax", "patsyn"], patternSyntax),
    (["patternwhitespace", "patws"], patternWhiteSpace),
    (["prependedconcatenationmark", "pcm"], prependedConcatenationMark),
    (["quotationmark", "qmark"], quotationMark),
    (["radical"], radical),
    (["regionalindicator", "ri"], regionalIndicator),
    (["sentenceterminal", "sterm"], sentenceTerminal),
    (["softdotted", "sd"], softDotted),
    (["terminalpunctuation", "term"], terminalPunctuation),
    (["unifiedideograph", "uideo"], unifiedIdeograph),
    (["uppercase", "upper"], uppercase),
    (["variationselector", "vs"], variationSelector),
    (["whitespace", "wspace", "space"], whiteSpace),
    (["xidcontinue", "xidc"], xidContinue),
    (["xidstart", "xids"], xidStart) ]

end TestDiscovery.Unicode
