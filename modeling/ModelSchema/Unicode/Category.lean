import ModelSchema.Unicode.Letter
import ModelSchema.Unicode.Mark
import ModelSchema.Unicode.Numeral
import ModelSchema.Unicode.Punctuation
import ModelSchema.Unicode.Symbol
import ModelSchema.Unicode.Separator
import ModelSchema.Unicode.Residue
import ModelSchema.Unicode.Usage

/-!
# Categories of characters

Every code point has one general category.  Groups of categories, and the properties that come
close to them, are unions of categories.
-/

namespace ModelSchema

namespace Unicode

/-- The general categories but for surrogates and unassigned code points, with their short and
long names. -/
def categories : List (List String × CharSet) :=
  [(["lu", "uppercaseletter"], uppercaseLetter), (["ll", "lowercaseletter"], lowercaseLetter),
   (["lt", "titlecaseletter"], titlecaseLetter), (["lm", "modifierletter"], modifierLetter),
   (["lo", "otherletter"], otherLetter), (["mn", "nonspacingmark"], nonspacingMark),
   (["mc", "spacingmark"], spacingMark), (["me", "enclosingmark"], enclosingMark),
   (["nd", "decimalnumber", "digit"], decimalNumber), (["nl", "letternumber"], letterNumber),
   (["no", "othernumber"], otherNumber), (["pc", "connectorpunctuation"], connectorPunctuation),
   (["pd", "dashpunctuation"], dashPunctuation), (["ps", "openpunctuation"], openPunctuation),
   (["pe", "closepunctuation"], closePunctuation),
   (["pi", "initialpunctuation"], initialPunctuation),
   (["pf", "finalpunctuation"], finalPunctuation),
   (["po", "otherpunctuation"], otherPunctuation), (["sm", "mathsymbol"], mathSymbol),
   (["sc", "currencysymbol"], currencySymbol), (["sk", "modifiersymbol"], modifierSymbol),
   (["so", "othersymbol"], otherSymbol), (["zs", "spaceseparator"], spaceSeparator),
   (["zl", "lineseparator"], lineSeparator), (["zp", "paragraphseparator"], paragraphSeparator),
   (["cc", "control", "cntrl"], control), (["cf", "format"], format),
   (["co", "privateuse"], privateUse)]

/-- Letters. -/
def letter : CharSet :=
  uppercaseLetter ∪ lowercaseLetter ∪ titlecaseLetter ∪ modifierLetter ∪ otherLetter

/-- Letters with case. -/
def casedLetter : CharSet := uppercaseLetter ∪ lowercaseLetter ∪ titlecaseLetter

/-- Marks. -/
def mark : CharSet := nonspacingMark ∪ spacingMark ∪ enclosingMark

/-- Numerals. -/
def numeral : CharSet := decimalNumber ∪ letterNumber ∪ otherNumber

/-- Punctuation. -/
def punctuation : CharSet :=
  connectorPunctuation ∪ dashPunctuation ∪ openPunctuation ∪ closePunctuation ∪
    initialPunctuation ∪ finalPunctuation ∪ otherPunctuation

/-- Symbols. -/
def symbol : CharSet := mathSymbol ∪ currencySymbol ∪ modifierSymbol ∪ otherSymbol

/-- Separators. -/
def separator : CharSet := spaceSeparator ∪ lineSeparator ∪ paragraphSeparator

/-- Surrogates, which no text holds. -/
def surrogate : CharSet := .range 0xD800 0xDFFF

/-- Code points in some category. -/
def assigned : CharSet := surrogate ∪ .unionOf (categories.map (·.2))

/-- Code points that are not in use. -/
def unassigned : CharSet := .complement assigned

/-- Controls, format characters, surrogates, private use and unassigned code points. -/
def other : CharSet := control ∪ format ∪ privateUse ∪ surrogate ∪ unassigned

/-- Upper-case characters. -/
def uppercase : CharSet := uppercaseLetter ∪ otherUppercase

/-- Lower-case characters. -/
def lowercase : CharSet := lowercaseLetter ∪ otherLowercase

/-- Letters and characters that are used like them. -/
def alphabetic : CharSet := letter ∪ letterNumber ∪ otherLowercase ∪ otherAlphabetic

/-- The characters of words: alphabetic ones, marks, decimal digits, connectors and joiners. -/
def word : CharSet := alphabetic ∪ mark ∪ decimalNumber ∪ connectorPunctuation ∪ joinControl

/-- Characters that extend the grapheme before them. -/
def graphemeExtend : CharSet := nonspacingMark ∪ enclosingMark ∪ otherGraphemeExtend

/-- Whether a character has an image of its own: anything but separators other than the space,
controls, format characters, private use and unassigned code points. -/
def isPrintable (n : Nat) : Bool :=
  (32 ≤ n && n < 127) || (127 ≤ n && !separator.contains n && !other.contains n)

/-! ## Categories by name -/

/-- Groups of categories, and sets that are named like one. -/
def categoryGroups : List (List String × CharSet) :=
  [(["any"], .range 0 CharSet.lastCode), (["assigned"], assigned), (["ascii"], .range 0 0x7F),
   (["l", "letter"], letter), (["lc", "casedletter"], casedLetter),
   (["m", "mark", "combiningmark"], mark), (["n", "number"], numeral),
   (["p", "punctuation", "punct"], punctuation), (["s", "symbol"], symbol),
   (["z", "separator"], separator), (["c", "other"], other), (["cn", "unassigned"], unassigned)]

/-- The category or group of categories with a name. -/
def category? (name : String) : Option CharSet :=
  ((categories ++ categoryGroups).find? (·.1.contains name)).map (·.2)

end Unicode

end ModelSchema
