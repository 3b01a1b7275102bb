import ModelCatalog.Text.Blank
import ModelCatalog.Text.Category
import ModelCatalog.Text.PropertyTable

/-!
# Properties of characters

The sets of characters with a property. Many follow from general categories and a table of further characters.
-/

namespace ModelCatalog.Text.Property

/-! ### Letters and case -/

def otherUppercase : CharSet := .ofRuns otherUppercaseRuns

def otherLowercase : CharSet := .ofRuns otherLowercaseRuns

def otherAlphabetic : CharSet := .ofRuns otherAlphabeticRuns

def uppercase : CharSet := Category.upper.union otherUppercase

def lowercase : CharSet := Category.lower.union otherLowercase

def cased : CharSet := .unionAll [uppercase, lowercase, Category.title]

/-- Letters, letter numbers, and signs that are used as letters. -/
def alphabetic : CharSet := .unionAll [cased, Category.modifierLetter, Category.otherLetter, Category.letterNumber, otherAlphabetic]

/-- Punctuation that may stand between the letters of a word. -/
def midLetter : CharSet :=
  .ofRanges [(0x3A, 0x3A), (0xB7, 0xB7), (0x387, 0x387), (0x55F, 0x55F), (0x5F4, 0x5F4), (0x2027, 0x2027), (0xFE13, 0xFE13),
    (0xFE55, 0xFE55), (0xFF1A, 0xFF1A)]

/-- Punctuation that may stand between the letters or the digits of a word. -/
def midNumberLetter : CharSet :=
  .ofRanges [(0x2E, 0x2E), (0x2018, 0x2019), (0x2024, 0x2024), (0xFE52, 0xFE52), (0xFF07, 0xFF07), (0xFF0E, 0xFF0E)]

/-- The characters that a search for the letters around a place goes past. -/
def caseIgnorable : CharSet :=
  .unionAll [Category.nonspacing, Category.enclosing, Category.format, Category.modifierLetter, Category.modifierSymbol, midLetter,
    midNumberLetter, .single '\'']

def changesWhenLowercased : CharSet := (uppercase.union Category.title).diff (.ofRuns caselessUpperRuns)

def changesWhenUppercased : CharSet := (lowercase.union Category.title).diff (.ofRuns caselessLowerRuns)

def changesWhenTitlecased : CharSet :=
  ((changesWhenUppercased.diff Category.title).union (.ofRuns retitledRuns)).diff (.ofRuns untitledRuns)

def changesWhenCasemapped : CharSet := .unionAll [changesWhenLowercased, changesWhenUppercased, changesWhenTitlecased]

def changesWhenCasefolded : CharSet := (changesWhenLowercased.union (.ofRuns foldedOnlyRuns)).diff (.ofRuns unfoldedUpperRuns)

/-! ### Words and identifiers -/

def joinControl : CharSet := .range 0x200C 0x200D

/-- The characters that words are made of. -/
def word : CharSet := .unionAll [alphabetic, Category.mark, Category.decimal, Category.connector, joinControl]

def patternSyntax : CharSet := .ofRuns patternSyntaxRuns

def patternBlank : CharSet := .ofRuns patternBlankRuns

def otherIdStart : CharSet := .ofRuns otherIdStartRuns

def otherIdContinue : CharSet := .ofRuns otherIdContinueRuns

def idStart : CharSet :=
  ((CharSet.unionAll [Category.letter, Category.letterNumber, otherIdStart]).diff patternSyntax).diff patternBlank

def idContinue : CharSet :=
  ((CharSet.unionAll [idStart, Category.nonspacing, Category.spacing, Category.decimal, Category.connector, otherIdContinue]).diff
    patternSyntax).diff patternBlank

/-- Letters whose normal form does not begin as an identifier goes on. -/
def unstableContinue : CharSet :=
  .ofRanges [(0x37A, 0x37A), (0x309B, 0x309C), (0xFC5E, 0xFC63), (0xFDFA, 0xFDFB), (0xFE70, 0xFE70), (0xFE72, 0xFE72),
    (0xFE74, 0xFE74), (0xFE76, 0xFE76), (0xFE78, 0xFE78), (0xFE7A, 0xFE7A), (0xFE7C, 0xFE7C), (0xFE7E, 0xFE7E)]

/-- Letters whose normal form does not begin as an identifier begins. -/
def unstableStart : CharSet :=
  unstableContinue.union (.ofRanges [(0xE33, 0xE33), (0xEB3, 0xEB3), (0xFF9E, 0xFF9F)])

def xidStart : CharSet := idStart.diff unstableStart

def xidContinue : CharSet := idContinue.diff unstableContinue

def idCompatMathStart : CharSet := .ofRuns idCompatMathStartRuns

def idCompatMathContinue : CharSet := .ofRuns idCompatMathContinueRuns

/-! ### Blanks, marks and invisible characters -/

def whiteSpace : CharSet := .ofRanges blankRanges

def variationSelector : CharSet := .ofRuns variationSelectorRuns

/-- Signs that stand before the digits they go with. -/
def prependedMark : CharSet := .ofRuns prependedMarkRuns

def otherDefaultIgnorable : CharSet := .ofRuns otherDefaultIgnorableRuns

def defaultIgnorable : CharSet :=
  (((CharSet.unionAll [otherDefaultIgnorable, Category.format, variationSelector]).diff whiteSpace).diff prependedMark).diff
    (.ofRanges [(0xFFF9, 0xFFFB), (0x13430, 0x13440)])

def otherGraphemeExtend : CharSet := .ofRuns otherGraphemeExtendRuns

def graphemeExtend : CharSet := .unionAll [Category.nonspacing, Category.enclosing, otherGraphemeExtend]

def graphemeBase : CharSet := (CharSet.unionAll [Category.other, Category.line, Category.paragraph, graphemeExtend]).compl

/-- The code points that are no characters for ever: 32 in one block and the last two of each plane. -/
def noncharacter : CharSet :=
  .ofRanges ((0xFDD0, 0xFDEF) :: (List.range 17).map fun plane => (0x10000 * plane + 0xFFFE, 0x10000 * plane + 0xFFFF))

/-! ### Other properties -/

def asciiHexDigit : CharSet := .ofRanges [(0x30, 0x39), (0x41, 0x46), (0x61, 0x66)]

def hexDigit : CharSet := asciiHexDigit.union (.ofRanges [(0xFF10, 0xFF19), (0xFF21, 0xFF26), (0xFF41, 0xFF46)])

def otherMath : CharSet := .ofRuns otherMathRuns

def math : CharSet := Category.math.union otherMath

def unifiedIdeograph : CharSet := .ofRuns unifiedIdeographRuns

def ideographic : CharSet := unifiedIdeograph.union (.ofRuns otherIdeographRuns)

def quotationMark : CharSet := .ofRuns quotationMarkRuns

def sentenceTerminal : CharSet := .ofRuns sentenceTerminalRuns

def emojiModifier : CharSet := .range 0x1F3FB 0x1F3FF

def regionalIndicator : CharSet := .range 0x1F1E6 0x1F1FF

/-- Properties by name, in the loose form. -/
def named : List (List String × CharSet) :=
  [(["ahex", "asciihexdigit"], asciiHexDigit), (["alpha", "alphabetic"], alphabetic),
    (["bidic", "bidicontrol"], .ofRuns bidiControlRuns), (["bidim", "bidimirrored"], .ofRuns bidiMirroredRuns),
    (["ci", "caseignorable"], caseIgnorable), (["cased"], cased), (["cwcf", "changeswhencasefolded"], changesWhenCasefolded),
    (["cwcm", "changeswhencasemapped"], changesWhenCasemapped), (["cwl", "changeswhenlowercased"], changesWhenLowercased),
    (["cwt", "changeswhentitlecased"], changesWhenTitlecased), (["cwu", "changeswhenuppercased"], changesWhenUppercased),
    (["dash"], .ofRuns dashRuns), (["di", "defaultignorablecodepoint"], defaultIgnorable), (["dep", "deprecated"], .ofRuns deprecatedRuns),
    (["dia", "diacritic"], .ofRuns diacriticRuns), (["emoji"], .ofRuns emojiRuns), (["ecomp", "emojicomponent"], .ofRuns emojiComponentRuns),
    (["emod", "emojimodifier"], emojiModifier), (["ebase", "emojimodifierbase"], .ofRuns emojiModifierBaseRuns),
    (["epres", "emojipresentation"], .ofRuns emojiPresentationRuns), (["extpict", "extendedpictographic"], .ofRuns extendedPictographicRuns),
    (["ext", "extender"], .ofRuns extenderRuns), (["grbase", "graphemebase"], graphemeBase), (["grext", "graphemeextend"], graphemeExtend),
    (["grlink", "graphemelink"], .ofRuns graphemeLinkRuns), (["hex", "hexdigit"], hexDigit), (["hyphen"], .ofRuns hyphenRuns),
    (["idsb", "idsbinaryoperator"], .ofRuns idsBinaryRuns), (["idst", "idstrinaryoperator"], .ofRuns idsTrinaryRuns),
    (["idsu", "idsunaryoperator"], .ofRuns idsUnaryRuns), (["idcompatmathcontinue"], idCompatMathContinue),
    (["idcompatmathstart"], idCompatMathStart), (["idc", "idcontinue"], idContinue), (["ids", "idstart"], idStart),
    (["ideo", "ideographic"], ideographic), (["joinc", "joincontrol"], joinControl),
    (["loe", "logicalorderexception"], .ofRuns logicalOrderExceptionRuns), (["lower", "lowercase"], lowercase), (["math"], math),
    (["mcm", "modifiercombiningmark"], .ofRuns modifierCombiningMarkRuns), (["nchar", "noncharactercodepoint"], noncharacter),
    (["oalpha", "otheralphabetic"], otherAlphabetic), (["odi", "otherdefaultignorablecodepoint"], otherDefaultIgnorable),
    (["ogrext", "othergraphemeextend"], otherGraphemeExtend), (["oidc", "otheridcontinue"], otherIdContinue),
    (["oids", "otheridstart"], otherIdStart), (["olower", "otherlowercase"], otherLowercase), (["omath", "othermath"], otherMath),
    (["oupper", "otheruppercase"], otherUppercase), (["patsyn", "patternsyntax"], patternSyntax),
    (["patws", "patternwhitespace"], patternBlank), (["pcm", "prependedconcatenationmark"], prependedMark),
    (["qmark", "quotationmark"], quotationMark), (["radical"], .ofRuns radicalRuns), (["ri", "regionalindicator"], regionalIndicator),
    (["sterm", "sentenceterminal"], sentenceTerminal), (["sd", "softdotted"], .ofRuns softDottedRuns),
    (["term", "terminalpunctuation"], .ofRuns terminalPunctuationRuns), (["uideo", "unifiedideograph"], unifiedIdeograph),
    (["upper", "uppercase"], uppercase), (["vs", "variationselector"], variationSelector),
    (["space", "whitespace", "wspace"], whiteSpace), (["xidc", "xidcontinue"], xidContinue), (["xids", "xidstart"], xidStart)]

end ModelCatalog.Text.Property
