import ModelSchema.Unicode.Segment
import ModelSchema.Unicode.CaseChange
import ModelSchema.Unicode.Sharing
import ModelSchema.Unicode.Age

/-!
# Properties by name

A set of characters can be asked for by the name of a property, a category or a script
(`Unicode.property?`), or by a property with a value (`Unicode.propertyValue?`).  Names are
compared loosely: without regard to case, blanks, hyphens and underscores.
-/

namespace ModelSchema

namespace Unicode

/-- A name as it is compared: in lower case, without blanks, hyphens, underscores and what is not
ASCII, and without a leading `is`.  The short name of a category is kept from `isc`. -/
def looseName (name : String) : String :=
  let letters (cs : List Char) : List Char :=
    (cs.filter fun c => c ≠ ' ' && c ≠ '_' && c ≠ '-' && c.toNat < 128).map Char.toLower
  match name.toList with
  | i :: s :: rest =>
    if i.toLower = 'i' ∧ s.toLower = 's' then
      if letters rest = ['c'] then "isc" else String.ofList (letters rest)
    else String.ofList (letters (i :: s :: rest))
  | cs => String.ofList (letters cs)

/-! ## Derived properties -/

/-- Characters with case. -/
def cased : CharSet := lowercase ∪ uppercase ∪ titlecaseLetter

/-- Characters that have no bearing on the case of the word around them. -/
def caseIgnorable : CharSet :=
  nonspacingMark ∪ enclosingMark ∪ format ∪ modifierLetter ∪ modifierSymbol ∪
    .ofList [0x27, 0x2E, 0x3A, 0xB7, 0x387, 0x55F, 0x5F4, 0x2018, 0x2019, 0x2024, 0x2027, 0xFE13,
      0xFE52, 0xFE55, 0xFF07, 0xFF0E, 0xFF1A]

/-- Characters that change with case. -/
def changesWhenCasemapped : CharSet :=
  changesWhenLowercased ∪ changesWhenUppercased ∪ changesWhenTitlecased

/-- Mathematical characters. -/
def math : CharSet := mathSymbol ∪ otherMath

/-- Characters that a grapheme may begin with. -/
def graphemeBase : CharSet :=
  .complement (other ∪ lineSeparator ∪ paragraphSeparator ∪ graphemeExtend)

/-- Characters that the notation of patterns reserves. -/
def patternReserved : CharSet := patternSyntax ∪ patternWhiteSpace

/-- Characters that may begin an identifier. -/
def idStart : CharSet := (letter ∪ letterNumber ∪ otherIdStart) \ patternReserved

/-- Characters that may continue an identifier. -/
def idContinue : CharSet :=
  (idStart ∪ nonspacingMark ∪ spacingMark ∪ decimalNumber ∪ connectorPunctuation ∪
    otherIdContinue) \ patternReserved

/-- Characters of identifiers whose normal forms are no identifiers. -/
def unstableIdentifier : CharSet := .runs
  [⟨0x37A, 0x37A, 1⟩, ⟨0x309B, 0x309C, 1⟩, ⟨0xFC5E, 0xFC63, 1⟩, ⟨0xFDFA, 0xFDFB, 1⟩,
   ⟨0xFE70, 0xFE7E, 2⟩]

/-- Characters whose normal forms do not begin identifiers. -/
def unstableIdStart : CharSet := .runs
  [⟨0xE33, 0xE33, 1⟩, ⟨0xEB3, 0xEB3, 1⟩, ⟨0xFF9E, 0xFF9F, 1⟩]

/-- Characters that may begin an identifier, also in its normal form. -/
def stableIdStart : CharSet := idStart \ (unstableIdentifier ∪ unstableIdStart)

/-- Characters that may continue an identifier, also in its normal form. -/
def stableIdContinue : CharSet := idContinue \ unstableIdentifier

/-- Properties that a character has or has not, with their names. -/
def properties : List (List String × CharSet) :=
  [(["asciihexdigit", "ahex"], asciiHexDigit), (["alphabetic", "alpha"], alphabetic),
   (["bidicontrol", "bidic"], bidiControl), (["caseignorable", "ci"], caseIgnorable),
   (["cased"], cased), (["changeswhencasefolded", "cwcf"], changesWhenCasefolded),
   (["changeswhencasemapped", "cwcm"], changesWhenCasemapped),
   (["changeswhenlowercased", "cwl"], changesWhenLowercased),
   (["changeswhentitlecased", "cwt"], changesWhenTitlecased),
   (["changeswhenuppercased", "cwu"], changesWhenUppercased), (["dash"], dash),
   (["defaultignorablecodepoint", "di"], defaultIgnorable),
   (["deprecated", "dep"], deprecatedCharacter), (["diacritic", "dia"], diacritic),
   (["emoji"], emoji), (["emojicomponent", "ecomp"], emojiComponent),
   (["emojimodifier", "emod"], emojiModifier), (["emojimodifierbase", "ebase"], emojiModifierBase),
   (["emojipresentation", "epres"], emojiPresentation),
   (["extendedpictographic", "extpict"], extendedPictographic), (["extender", "ext"], extender),
   (["graphemebase", "grbase"], graphemeBase), (["graphemeextend", "grext"], graphemeExtend),
   (["graphemelink", "grlink"], graphemeLink), (["hexdigit", "hex"], hexDigit),
   (["hyphen"], hyphen), (["idsbinaryoperator", "idsb"], binaryDescriptionOperator),
   (["idstrinaryoperator", "idst"], trinaryDescriptionOperator),
   (["idsunaryoperator", "idsu"], unaryDescriptionOperator),
   (["idcompatmathcontinue"], compatMathContinue), (["idcompatmathstart"], compatMathStart),
   (["idcontinue", "idc"], idContinue), (["idstart", "ids"], idStart),
   (["ideographic", "ideo"], ideographic), (["joincontrol", "joinc"], joinControl),
   (["logicalorderexception", "loe"], logicalOrderException), (["lowercase", "lower"], lowercase),
   (["math"], math), (["modifiercombiningmark", "mcm"], modifierCombiningMark),
   (["noncharactercodepoint", "nchar"], noncharacter),
   (["otheralphabetic", "oalpha"], otherAlphabetic),
   (["otherdefaultignorablecodepoint", "odi"], otherDefaultIgnorable),
   (["othergraphemeextend", "ogrext"], otherGraphemeExtend),
   (["otheridcontinue", "oidc"], otherIdContinue), (["otheridstart", "oids"], otherIdStart),
   (["otherlowercase", "olower"], otherLowercase), (["othermath", "omath"], otherMath),
   (["otheruppercase", "oupper"], otherUppercase), (["patternsyntax", "patsyn"], patternSyntax),
   (["patternwhitespace", "patws"], patternWhiteSpace),
   (["prependedconcatenationmark", "pcm"], prependedConcatenationMark),
   (["quotationmark", "qmark"], quotationMark), (["radical"], radical),
   (["regionalindicator", "ri"], regionalIndicator),
   (["sentenceterminal", "sterm"], sentenceTerminal), (["softdotted", "sd"], softDotted),
   (["terminalpunctuation", "term"], terminalPunctuation),
   (["unifiedideograph", "uideo"], unifiedIdeograph), (["uppercase", "upper"], uppercase),
   (["variationselector", "vs"], variationSelector),
   (["whitespace", "wspace", "space"], whiteSpace), (["xidcontinue", "xidc"], stableIdContinue),
   (["xidstart", "xids"], stableIdStart)]

/-! ## Properties with values -/

/-- The characters that are used in a script, alone or among others. -/
def usedInScript (script : Script) : CharSet :=
  let shares (sharing : Sharing) : Bool := sharing.scripts.any script.names.contains
  (.runs script.runs \ .runs (sharings.flatMap Sharing.runs)) ∪
    .runs ((sharings.filter shares).flatMap Sharing.runs)

/-- The names of a version. -/
def Version.names (v : Version) : List String :=
  [s!"{v.major}.{v.minor}", s!"v{v.major}{v.minor}"]

/-- The code points that were in use in the version with a name. -/
def age? (name : String) : Option CharSet :=
  let earlier := versions.takeWhile fun v => !v.names.contains name
  (versions.drop earlier.length).head?.map fun v =>
    .runs ((earlier ++ [v]).flatMap Version.runs)

/-- The class with a name. -/
def class? (classes : List (List String × CharSet)) (name : String) : Option CharSet :=
  (classes.find? (·.1.contains name)).map (·.2)

/-- The characters for which a property has a value. -/
def propertyValue? (property value : String) : Option CharSet :=
  let value := looseName value
  match looseName property with
  | "gc" | "generalcategory" => category? value
  | "sc" | "script" => (script? value).map fun script => .runs script.runs
  | "scx" | "scriptextensions" => (script? value).map usedInScript
  | "age" => age? value
  | "gcb" | "graphemeclusterbreak" => class? graphemeClasses value
  | "wb" | "wordbreak" => class? wordClasses value
  | "sb" | "sentencebreak" => class? sentenceClasses value
  | _ => none

/-- The property, category or script with a name. -/
def property? (name : String) : Option CharSet :=
  let name := looseName name
  match class? properties name, category? name with
  | some set, _ => some set
  | none, some set => some set
  | none, none => (script? name).map fun script => .runs script.runs

end Unicode

end ModelSchema
