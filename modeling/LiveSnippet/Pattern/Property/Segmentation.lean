import LiveSnippet.Pattern.Property.Binary
import LiveSnippet.Pattern.Property.Script
import LiveSnippet.Unicode.WhiteSpace

/-!
# Where texts may be divided

Three properties say how characters behave at the boundaries of graphemes, words and sentences. Their
values follow from the category, the script and other properties, with lists of exceptions. Patterns
use the values of version 16 of the standard.

## Main definitions

* `graphemeBreakRanges?`, `wordBreakRanges?`, `sentenceBreakRanges?`: the characters with a value
-/

namespace LiveSnippet.Pattern

open Unicode (RangeTable)

namespace Segmentation

/-- The set of a list of characters. -/
def ofCodes (codes : List Nat) : RangeTable := RangeTable.ofRanges (codes.map fun n => (n, n))

/-- The modifiers of pictures. -/
def pictureModifier : RangeTable := [(0x1F3FB, 0x1F3FF)]

/-- The letters of flags. -/
def regionalIndicator : RangeTable := [(0x1F1E6, 0x1F1FF)]

/-- The joiner of pictures and letters. -/
def joiner : RangeTable := [(0x200D, 0x200D)]

/-- The characters between lines. -/
def lineFeed : RangeTable := [(0xA, 0xA)]

/-- The characters in front of line feeds. -/
def carriageReturn : RangeTable := [(0xD, 0xD)]

/-- Signs that stand in front of the number that they belong to. -/
def numberSign : RangeTable :=
  [(0x600, 0x605), (0x6DD, 0x6DD), (0x890, 0x891), (0x8E2, 0x8E2), (0x110BD, 0x110BD),
    (0x110CD, 0x110CD)]

/-- The Syriac sign in front of an abbreviation. -/
def abbreviationSign : RangeTable := [(0x70F, 0x70F)]

/-- The stops that may also stand within numbers and abbreviations. -/
def fullStop : RangeTable := ofCodes [0x2E, 0x2024, 0xFE52, 0xFF0E]

/-! ### Graphemes -/

/-- The characters that belong to the grapheme in front. -/
def graphemeExtender : RangeTable := Binary.graphemeExtend.union pictureModifier

/-- The characters that belong to the grapheme that follows. -/
def graphemeStart : RangeTable :=
  RangeTable.ofRanges (numberSign ++ abbreviationSign ++
    [(0xD4E, 0xD4E), (0x111C2, 0x111C3), (0x113D1, 0x113D1), (0x1193F, 0x1193F),
      (0x11941, 0x11941), (0x11A3A, 0x11A3A), (0x11A84, 0x11A89), (0x11D46, 0x11D46),
      (0x11F02, 0x11F02)])

/-- The vowel signs that may end a grapheme or not. -/
def looseMark : RangeTable :=
  [(0x102B, 0x102C), (0x1038, 0x1038), (0x1062, 0x1064), (0x1067, 0x106D), (0x1083, 0x1083),
    (0x1087, 0x108C), (0x108F, 0x108F), (0x109A, 0x109C), (0x1A61, 0x1A61), (0x1A63, 0x1A64),
    (0xAA7B, 0xAA7B), (0xAA7D, 0xAA7D), (0x11720, 0x11721)]

/-- The signs that belong to the grapheme in front and take up room. -/
def graphemeMark : RangeTable :=
  ((categoryRanges ["Mc"]).union (ofCodes [0xE33, 0xEB3])).diff (graphemeExtender.union looseMark)

/-- The characters that are no part of a grapheme. -/
def control : RangeTable :=
  ((categoryRanges ["Zl", "Zp", "Cc", "Cf"]).union
    ((categoryRanges ["Cn"]).inter Binary.defaultIgnorable)).diff
    (RangeTable.ofRanges (graphemeExtender ++ graphemeStart ++ joiner ++ carriageReturn ++ lineFeed))

/-- The number of the blocks of Korean syllables, each of which begins with one that is open. -/
def syllableBlocks : Nat := 399

/-- The Korean syllables that end in a vowel. -/
def openSyllable : RangeTable :=
  (List.range syllableBlocks).map fun i => (0xAC00 + 28 * i, 0xAC00 + 28 * i)

/-- The Korean syllables that end in a consonant. -/
def closedSyllable : RangeTable :=
  (List.range syllableBlocks).map fun i => (0xAC00 + 28 * i + 1, 0xAC00 + 28 * i + 27)

/-! ### Words -/

/-- The characters that belong to what is in front, in words. -/
def wordExtender : RangeTable := graphemeExtender.union (categoryRanges ["Mc"])

/-- The characters that are written with Katakana. -/
def katakana : RangeTable :=
  RangeTable.ofRanges (scriptRanges "Kana" ++
    [(0x3031, 0x3035), (0x309B, 0x309C), (0x30A0, 0x30A0), (0x30FC, 0x30FC), (0xFF70, 0xFF70)])

/-- The Hebrew letters. -/
def hebrewLetter : RangeTable := (scriptRanges "Hebr").inter (categoryRanges ["Lo"])

/-- The scripts that do not part words by blanks. -/
def unspacedScript : RangeTable :=
  RangeTable.ofRanges
    (["Thai", "Laoo", "Mymr", "Khmr", "Tale", "Talu", "Lana", "Tavt", "Ahom", "Hira"].flatMap
      scriptRanges)

/-- Characters that stand for letters in words. -/
def letterLike : RangeTable :=
  [(0x2C2, 0x2C5), (0x2D2, 0x2D7), (0x2DE, 0x2DF), (0x2E5, 0x2EB), (0x2ED, 0x2ED), (0x2EF, 0x2FF),
    (0x55A, 0x55C), (0x55E, 0x55E), (0x58A, 0x58A), (0x5F3, 0x5F3), (0x70F, 0x70F),
    (0xA708, 0xA716), (0xA720, 0xA721), (0xA789, 0xA78A), (0xAB5B, 0xAB5B)]

/-- The letters of words. -/
def wordLetter : RangeTable :=
  (Binary.alphabetic.diff (Binary.ideographic.union unspacedScript)).union letterLike |>.diff
    (RangeTable.ofRanges (wordExtender ++ katakana ++ hebrewLetter))

/-! ### Sentences -/

/-- The characters that belong to what is in front, in sentences. -/
def sentenceExtender : RangeTable :=
  RangeTable.ofRanges (Binary.graphemeExtend ++ categoryRanges ["Mc"] ++ joiner)

/-- The small letters, but not the Georgian ones. -/
def sentenceLower : RangeTable :=
  Binary.lowercase.diff (sentenceExtender.union [(0x10D0, 0x10FA), (0x10FD, 0x10FF)])

/-- The capital letters, but not the Georgian ones. -/
def sentenceUpper : RangeTable :=
  (Binary.uppercase.union (categoryRanges ["Lt"])).diff
    (sentenceExtender.union [(0x1C90, 0x1CBA), (0x1CBD, 0x1CBF)])

/-- The letters without case. -/
def sentenceLetter : RangeTable :=
  (Binary.alphabetic.union (ofCodes [0x5F3, 0x70F])).diff
    (RangeTable.ofRanges (sentenceExtender ++ sentenceLower ++ sentenceUpper))

/-- What may close a sentence behind its end. -/
def closing : RangeTable :=
  RangeTable.ofRanges (categoryRanges ["Ps", "Pe", "Pi", "Pf"] ++
    [(0x22, 0x22), (0x27, 0x27), (0x275B, 0x2760), (0x2E00, 0x2E01), (0x2E06, 0x2E08),
      (0x2E0B, 0x2E0B), (0x1F676, 0x1F678)])

end Segmentation

open Segmentation

/-- The characters that behave in the way called `value` at the boundaries of graphemes. -/
def graphemeBreakRanges? (value : String) : Option RangeTable :=
  match value with
  | "control" | "cn" => some control
  | "cr" => some carriageReturn
  | "extend" | "ex" => some graphemeExtender
  | "l" => some [(0x1100, 0x115F), (0xA960, 0xA97C)]
  | "lf" => some lineFeed
  | "lv" => some openSyllable
  | "lvt" => some closedSyllable
  | "prepend" | "pp" => some graphemeStart
  | "regionalindicator" | "ri" => some regionalIndicator
  | "spacingmark" | "sm" => some graphemeMark
  | "t" => some [(0x11A8, 0x11FF), (0xD7CB, 0xD7FB)]
  | "v" => some [(0x1160, 0x11A7), (0xD7B0, 0xD7C6), (0x16D63, 0x16D63), (0x16D67, 0x16D6A)]
  | "zwj" => some joiner
  | _ => none

/-- The characters that behave in the way called `value` at the boundaries of words. -/
def wordBreakRanges? (value : String) : Option RangeTable :=
  match value with
  | "aletter" | "le" => some wordLetter
  | "cr" => some carriageReturn
  | "doublequote" | "dq" => some [(0x22, 0x22)]
  | "extend" => some wordExtender
  | "extendnumlet" | "ex" => some ((categoryRanges ["Pc"]).union [(0x202F, 0x202F)])
  | "format" | "fo" =>
    some ((categoryRanges ["Cf"]).diff
      (RangeTable.ofRanges (numberSign ++ abbreviationSign ++ wordExtender ++ joiner ++
        [(0x200B, 0x200B)])))
  | "hebrewletter" | "hl" => some hebrewLetter
  | "katakana" | "ka" => some katakana
  | "lf" => some lineFeed
  | "midletter" | "ml" =>
    some (ofCodes [0x3A, 0xB7, 0x387, 0x55F, 0x5F4, 0x2027, 0xFE13, 0xFE55, 0xFF1A])
  | "midnum" | "mn" =>
    some (ofCodes [0x2C, 0x3B, 0x37E, 0x589, 0x60C, 0x60D, 0x66C, 0x7F8, 0x2044, 0xFE10, 0xFE14,
      0xFE50, 0xFE54, 0xFF0C, 0xFF1B])
  | "midnumlet" | "mb" => some (fullStop.union (ofCodes [0x2018, 0x2019, 0xFF07]))
  | "newline" | "nl" => some [(0xB, 0xC), (0x85, 0x85), (0x2028, 0x2029)]
  | "numeric" | "nu" =>
    some (RangeTable.ofRanges (categoryRanges ["Nd"] ++ numberSign ++ [(0x66B, 0x66B)]))
  | "regionalindicator" | "ri" => some regionalIndicator
  | "singlequote" | "sq" => some [(0x27, 0x27)]
  | "wsegspace" => some ((categoryRanges ["Zs"]).diff (ofCodes [0xA0, 0x2007, 0x202F]))
  | "zwj" => some joiner
  | _ => none

/-- The characters that behave in the way called `value` at the boundaries of sentences. -/
def sentenceBreakRanges? (value : String) : Option RangeTable :=
  match value with
  | "aterm" | "at" => some fullStop
  | "close" | "cl" => some closing
  | "cr" => some carriageReturn
  | "extend" | "ex" => some sentenceExtender
  | "format" | "fo" =>
    some ((categoryRanges ["Cf"]).diff
      (RangeTable.ofRanges (numberSign ++ abbreviationSign ++ sentenceExtender)))
  | "lf" => some lineFeed
  | "lower" | "lo" => some sentenceLower
  | "numeric" | "nu" =>
    some (RangeTable.ofRanges (categoryRanges ["Nd"] ++ numberSign ++ [(0x66B, 0x66C)]))
  | "oletter" | "le" => some sentenceLetter
  | "scontinue" | "sc" =>
    some (RangeTable.ofRanges [(0x2C, 0x2D), (0x3A, 0x3B), (0x37E, 0x37E), (0x55D, 0x55D),
      (0x60C, 0x60D), (0x7F8, 0x7F8), (0x1802, 0x1802), (0x1808, 0x1808), (0x2013, 0x2014),
      (0x3001, 0x3001), (0xFE10, 0xFE11), (0xFE13, 0xFE14), (0xFE31, 0xFE32), (0xFE50, 0xFE51),
      (0xFE54, 0xFE55), (0xFE58, 0xFE58), (0xFE63, 0xFE63), (0xFF0C, 0xFF0D), (0xFF1A, 0xFF1B),
      (0xFF64, 0xFF64)])
  | "sep" | "se" => some [(0x85, 0x85), (0x2028, 0x2029)]
  | "sp" =>
    some (Unicode.whiteSpaceRanges.diff
      (RangeTable.ofRanges [(0xA, 0xA), (0xD, 0xD), (0x85, 0x85), (0x2028, 0x2029)]))
  | "sterm" | "st" => some (Binary.sentenceTerminal.diff fullStop)
  | "upper" | "up" => some sentenceUpper
  | _ => none

end LiveSnippet.Pattern
