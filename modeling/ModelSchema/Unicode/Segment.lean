import ModelSchema.Unicode.Category
import ModelSchema.Unicode.Script
import ModelSchema.Unicode.Emoji

/-!
# Where text may be divided

Rules for dividing text into graphemes, words and sentences put every character into a class.  The
classes follow from other properties; a character without a class is divided from its neighbours.
-/

namespace ModelSchema

namespace Unicode

/-- The script with a name. -/
def script? (name : String) : Option Script := scripts.find? (·.names.contains name)

/-- The characters of some scripts. -/
def inScripts (names : List String) : CharSet :=
  .unionOf (names.map fun name => .runs (((script? name).map Script.runs).getD []))

/-! ## Graphemes -/

/-- The joiner. -/
def joiner : CharSet := .range 0x200D 0x200D

/-- Code points that are to be ignored where they cannot be shown. -/
def defaultIgnorable : CharSet :=
  (otherDefaultIgnorable ∪ format ∪ variationSelector) \
    (whiteSpace ∪ prependedConcatenationMark ∪ .range 0xFFF9 0xFFFB ∪ .range 0x13430 0x13440)

/-- Marks and modifiers that stay with the character before them. -/
def graphemeMark : CharSet := graphemeExtend ∪ emojiModifier

/-- Controls, which stand alone. -/
def graphemeControl : CharSet :=
  (lineSeparator ∪ paragraphSeparator ∪ control ∪ format ∪ (unassigned ∩ defaultIgnorable)) \
    (.ofList [10, 13] ∪ joinControl ∪ prependedConcatenationMark ∪ graphemeMark)

/-- Characters that stay with the one after them. -/
def graphemePrepend : CharSet := prependedConcatenationMark ∪ prefixedConsonant

/-- Marks that take space although they do not extend the grapheme. -/
def freeSpacingMark : CharSet := .runs
  [⟨0x102B, 0x102C, 1⟩, ⟨0x1038, 0x1038, 1⟩, ⟨0x1062, 0x1064, 1⟩, ⟨0x1067, 0x106D, 1⟩,
   ⟨0x1083, 0x1083, 1⟩, ⟨0x1087, 0x108C, 1⟩, ⟨0x108F, 0x108F, 1⟩, ⟨0x109A, 0x109C, 1⟩,
   ⟨0x1A61, 0x1A61, 1⟩, ⟨0x1A63, 0x1A64, 1⟩, ⟨0xAA7B, 0xAA7D, 2⟩, ⟨0x11720, 0x11721, 1⟩]

/-- Marks that stay with the character before them and take space. -/
def graphemeSpacingMark : CharSet :=
  (spacingMark ∪ .ofList [0xE33, 0xEB3]) \ (graphemeMark ∪ freeSpacingMark)

/-- Leading consonants of a syllable block. -/
def leadingConsonant : CharSet := .runs [⟨0x1100, 0x115F, 1⟩, ⟨0xA960, 0xA97C, 1⟩]

/-- Vowels of a syllable block. -/
def syllableVowel : CharSet := .runs
  [⟨0x1160, 0x11A7, 1⟩, ⟨0xD7B0, 0xD7C6, 1⟩, ⟨0x16D63, 0x16D63, 1⟩, ⟨0x16D67, 0x16D6A, 1⟩]

/-- Trailing consonants of a syllable block. -/
def trailingConsonant : CharSet := .runs [⟨0x11A8, 0x11FF, 1⟩, ⟨0xD7CB, 0xD7FB, 1⟩]

/-- Syllable blocks without a trailing consonant. -/
def openSyllable : CharSet := .runs [⟨0xAC00, 0xD788, 28⟩]

/-- Syllable blocks with a trailing consonant. -/
def closedSyllable : CharSet := .range 0xAC00 0xD7A3 \ openSyllable

/-- The classes of characters in graphemes. -/
def graphemeClasses : List (List String × CharSet) :=
  [(["control", "cn"], graphemeControl), (["cr"], .ofList [13]), (["extend", "ex"], graphemeMark),
   (["l"], leadingConsonant), (["lf"], .ofList [10]), (["lv"], openSyllable),
   (["lvt"], closedSyllable), (["prepend", "pp"], graphemePrepend),
   (["regionalindicator", "ri"], regionalIndicator),
   (["spacingmark", "sm"], graphemeSpacingMark), (["t"], trailingConsonant),
   (["v"], syllableVowel), (["zwj"], joiner)]

/-! ## Words -/

/-- Marks and modifiers that stay with the character before them. -/
def wordMark : CharSet := (graphemeExtend ∪ spacingMark ∪ emojiModifier) \ joiner

/-- Format characters that begin no number. -/
def wordFormat : CharSet :=
  format \ (.ofList [0x200B] ∪ joinControl ∪ prependedConcatenationMark ∪ wordMark)

/-- The characters of Katakana, with marks that lengthen or repeat them. -/
def wordKatakana : CharSet :=
  inScripts ["katakana"] ∪ .range 0x3031 0x3035 ∪
    .ofList [0x309B, 0x309C, 0x30A0, 0x30FC, 0xFF70]

/-- The letters of Hebrew. -/
def hebrewLetter : CharSet := inScripts ["hebrew"] ∩ otherLetter

/-- Scripts whose words are found by a dictionary, and one whose characters stand alone. -/
def unspacedScripts : CharSet :=
  inScripts
    ["thai", "lao", "khmer", "myanmar", "taile", "newtailue", "taitham", "taiviet", "ahom",
     "hiragana"]

/-- Signs that are used like letters. -/
def letterLike : CharSet := .runs
  [⟨0x2C2, 0x2C5, 1⟩, ⟨0x2D2, 0x2D7, 1⟩, ⟨0x2DE, 0x2DF, 1⟩, ⟨0x2E5, 0x2EB, 1⟩,
   ⟨0x2ED, 0x2ED, 1⟩, ⟨0x2EF, 0x2FF, 1⟩, ⟨0x55A, 0x55C, 1⟩, ⟨0x55E, 0x55E, 1⟩,
   ⟨0x58A, 0x58A, 1⟩, ⟨0x5F3, 0x5F3, 1⟩, ⟨0x70F, 0x70F, 1⟩, ⟨0xA708, 0xA716, 1⟩,
   ⟨0xA720, 0xA721, 1⟩, ⟨0xA789, 0xA78A, 1⟩, ⟨0xAB5B, 0xAB5B, 1⟩]

/-- The letters of words. -/
def wordLetter : CharSet :=
  (alphabetic ∪ letterLike) \
    (ideographic ∪ wordKatakana ∪ unspacedScripts ∪ wordMark ∪ hebrewLetter)

/-- Digits, the sign between their groups, and marks around numbers. -/
def numeric : CharSet :=
  decimalNumber ∪ .ofList [0x66B] ∪ (prependedConcatenationMark \ .ofList [0x70F])

/-- The classes of characters in words. -/
def wordClasses : List (List String × CharSet) :=
  [(["aletter", "le"], wordLetter), (["cr"], .ofList [13]), (["doublequote", "dq"], .ofList [0x22]),
   (["extend"], wordMark),
   (["extendnumlet", "ex"], connectorPunctuation ∪ .ofList [0x202F]),
   (["format", "fo"], wordFormat), (["hebrewletter", "hl"], hebrewLetter),
   (["katakana", "ka"], wordKatakana), (["lf"], .ofList [10]),
   (["midletter", "ml"],
     .ofList [0x3A, 0xB7, 0x387, 0x55F, 0x5F4, 0x2027, 0xFE13, 0xFE55, 0xFF1A]),
   (["midnum", "mn"],
     .ofList [0x2C, 0x3B, 0x37E, 0x589, 0x60C, 0x60D, 0x66C, 0x7F8, 0x2044, 0xFE10, 0xFE14, 0xFE50,
       0xFE54, 0xFF0C, 0xFF1B]),
   (["midnumlet", "mb"], .ofList [0x2E, 0x2018, 0x2019, 0x2024, 0xFE52, 0xFF07, 0xFF0E]),
   (["newline", "nl"], .ofList [0xB, 0xC, 0x85, 0x2028, 0x2029]),
   (["numeric", "nu"], numeric), (["regionalindicator", "ri"], regionalIndicator),
   (["singlequote", "sq"], .ofList [0x27]),
   (["wsegspace"], spaceSeparator \ .ofList [0xA0, 0x2007, 0x202F]), (["zwj"], joiner)]

/-! ## Sentences -/

/-- Characters that stay with the one before them. -/
def sentenceMark : CharSet := graphemeExtend ∪ spacingMark ∪ joiner

/-- Characters that end a paragraph. -/
def sentenceSeparator : CharSet := .ofList [0x85, 0x2028, 0x2029]

/-- Spaces inside a paragraph. -/
def sentenceSpace : CharSet := whiteSpace \ (sentenceSeparator ∪ .ofList [10, 13])

/-- Lower-case characters.  The letters of Georgian count as letters without case. -/
def sentenceLower : CharSet :=
  lowercase \ (graphemeExtend ∪ .runs [⟨0x10D0, 0x10FA, 1⟩, ⟨0x10FD, 0x10FF, 1⟩])

/-- Upper-case and title-case characters. -/
def sentenceUpper : CharSet := (uppercase ∪ titlecaseLetter) \ .range 0x1C90 0x1CBF

/-- Letters without case. -/
def sentenceLetter : CharSet :=
  (alphabetic ∪ .ofList [0xA0, 0x5F3]) \
    (sentenceLower ∪ sentenceUpper ∪ sentenceMark ∪ sentenceSpace)

/-- Full stops, after which a sentence may go on. -/
def sentenceStop : CharSet := .ofList [0x2E, 0x2024, 0xFE52, 0xFF0E]

/-- Characters after which a sentence goes on. -/
def sentenceContinue : CharSet :=
  .ofList [0x2C, 0x2D, 0x3A, 0x3B, 0x37E, 0x55D, 0x60C, 0x60D, 0x7F8, 0x1802, 0x1808, 0x2013,
    0x2014, 0x3001, 0xFE10, 0xFE11, 0xFE13, 0xFE14, 0xFE31, 0xFE32, 0xFE50, 0xFE51, 0xFE54, 0xFE55,
    0xFE58, 0xFE63, 0xFF0C, 0xFF0D, 0xFF1A, 0xFF1B, 0xFF64]

/-- Signs that enclose though they are no brackets. -/
def enclosingSign : CharSet := .runs
  [⟨0x22, 0x27, 5⟩, ⟨0x275B, 0x2760, 1⟩, ⟨0x2E00, 0x2E01, 1⟩, ⟨0x2E06, 0x2E08, 1⟩,
   ⟨0x2E0B, 0x2E0B, 1⟩, ⟨0x1F676, 0x1F678, 1⟩]

/-- Brackets and quotation marks. -/
def sentenceClose : CharSet :=
  (openPunctuation ∪ closePunctuation ∪ initialPunctuation ∪ finalPunctuation ∪ enclosingSign) \
    (sentenceTerminal ∪ sentenceStop)

/-- The classes of characters in sentences. -/
def sentenceClasses : List (List String × CharSet) :=
  [(["aterm", "at"], sentenceStop), (["cr"], .ofList [13]), (["close", "cl"], sentenceClose),
   (["extend", "ex"], sentenceMark),
   (["format", "fo"], format \ (joinControl ∪ sentenceMark ∪ numeric)), (["lf"], .ofList [10]),
   (["lower", "lo"], sentenceLower), (["numeric", "nu"], numeric),
   (["oletter", "le"], sentenceLetter), (["scontinue", "sc"], sentenceContinue),
   (["sterm", "st"], sentenceTerminal \ sentenceStop), (["sep", "se"], sentenceSeparator),
   (["sp"], sentenceSpace), (["upper", "up"], sentenceUpper)]

end Unicode

end ModelSchema
