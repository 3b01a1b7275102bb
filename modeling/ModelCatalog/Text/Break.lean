import ModelCatalog.Text.Property
import ModelCatalog.Text.Script

/-!
# Kinds of characters for breaking text

How a character counts when text is broken into what a reader takes for one character, into words and into sentences.
-/

namespace ModelCatalog.Text

def carriageReturn : CharSet := .single '\r'

def lineFeed : CharSet := .single '\n'

def joiner : CharSet := .single '\u200d'

/-- The tag characters. -/
def tags : CharSet := .range 0xE0020 0xE007F

namespace GraphemeBreak

def extend : CharSet := Property.graphemeExtend.union Property.emojiModifier

def control : CharSet :=
  ((CharSet.unionAll [Category.line, Category.paragraph, Category.control, Category.format,
    Category.unassigned.inter Property.defaultIgnorable]).diff Property.prependedMark).diff
    (.unionAll [carriageReturn, lineFeed, Property.joinControl, tags])

/-- Vowel signs that take space of their own and do not stand with the letter before them as one. -/
def apart : CharSet :=
  .ofRanges [(0x102B, 0x102C), (0x1038, 0x1038), (0x1062, 0x1064), (0x1067, 0x106D), (0x1083, 0x1083), (0x1087, 0x108C),
    (0x108F, 0x108F), (0x109A, 0x109C), (0x1A61, 0x1A61), (0x1A63, 0x1A64), (0xAA7B, 0xAA7B), (0xAA7D, 0xAA7D), (0x11720, 0x11721)]

def spacingMark : CharSet := ((Category.spacing.diff extend).diff apart).union (.ofRanges [(0xE33, 0xE33), (0xEB3, 0xEB3)])

def prepend : CharSet :=
  Property.prependedMark.union (.ofRanges [(0xD4E, 0xD4E), (0x111C2, 0x111C3), (0x113D1, 0x113D1), (0x1193F, 0x1193F),
    (0x11941, 0x11941), (0x11A3A, 0x11A3A), (0x11A84, 0x11A89), (0x11D46, 0x11D46), (0x11F02, 0x11F02)])

def leading : CharSet := .ofRanges [(0x1100, 0x115F), (0xA960, 0xA97C)]

def vowel : CharSet := .ofRanges [(0x1160, 0x11A7), (0xD7B0, 0xD7C6), (0x16D63, 0x16D63), (0x16D67, 0x16D6A)]

def trailing : CharSet := .ofRanges [(0x11A8, 0x11FF), (0xD7CB, 0xD7FB)]

/-- Syllables without a trailing consonant: the first of every 28. -/
def openSyllable : CharSet := .ofRuns [⟨0xAC00, 0xD788, 28⟩]

def closedSyllable : CharSet := (CharSet.range 0xAC00 0xD7A3).diff openSyllable

/-- The kinds by name, in the loose form. -/
def named : List (List String × CharSet) :=
  [(["cn", "control"], control), (["cr"], carriageReturn), (["ex", "extend"], extend), (["l"], leading), (["lf"], lineFeed),
    (["lv"], openSyllable), (["lvt"], closedSyllable), (["pp", "prepend"], prepend),
    (["ri", "regionalindicator"], Property.regionalIndicator), (["sm", "spacingmark"], spacingMark), (["t"], trailing), (["v"], vowel),
    (["zwj"], joiner)]

end GraphemeBreak

namespace WordBreak

def extend : CharSet := .unionAll [Property.graphemeExtend, Category.spacing, Property.emojiModifier]

def format : CharSet := ((Category.format.diff Property.prependedMark).diff (.range 0x200B 0x200D)).diff tags

/-- Signs and marks that go with numbers as digits do. -/
def numberSigns : CharSet :=
  .ofRanges [(0x600, 0x605), (0x66B, 0x66B), (0x6DD, 0x6DD), (0x890, 0x891), (0x8E2, 0x8E2), (0x19DA, 0x19DA), (0x110BD, 0x110BD),
    (0x110CD, 0x110CD)]

def numeric : CharSet := Category.decimal.union numberSigns

def extendNumLet : CharSet := Category.connector.union (.range 0x202F 0x202F)

def hebrewLetter : CharSet := Script.hebrew.chars.inter Category.otherLetter

def katakana : CharSet :=
  Script.katakana.chars.union (.ofRanges [(0x3031, 0x3035), (0x309B, 0x309C), (0x30A0, 0x30A0), (0x30FC, 0x30FC), (0xFF70, 0xFF70)])

/-- Letters of scripts that are written without blanks between words. -/
def unspacedLetter : CharSet :=
  .ofRanges [(0xE01, 0xE30), (0xE32, 0xE33), (0xE40, 0xE46), (0xE81, 0xE82), (0xE84, 0xE84), (0xE86, 0xE8A), (0xE8C, 0xEA3),
    (0xEA5, 0xEA5), (0xEA7, 0xEB0), (0xEB2, 0xEB3), (0xEBD, 0xEBD), (0xEC0, 0xEC4), (0xEC6, 0xEC6), (0xEDC, 0xEDF), (0x1000, 0x102A),
    (0x103F, 0x103F), (0x1050, 0x1055), (0x105A, 0x105D), (0x1061, 0x1061), (0x1065, 0x1066), (0x106E, 0x1070), (0x1075, 0x1081),
    (0x108E, 0x108E), (0x1780, 0x17B3), (0x17D7, 0x17D7), (0x17DC, 0x17DC), (0x1950, 0x196D), (0x1970, 0x1974), (0x1980, 0x19AB),
    (0x19B0, 0x19C9), (0x1A20, 0x1A54), (0x1AA7, 0x1AA7), (0xA9E0, 0xA9E4), (0xA9E6, 0xA9EF), (0xA9FA, 0xA9FE), (0xAA60, 0xAA76),
    (0xAA7A, 0xAA7A), (0xAA7E, 0xAAAF), (0xAAB1, 0xAAB1), (0xAAB5, 0xAAB6), (0xAAB9, 0xAABD), (0xAAC0, 0xAAC0), (0xAAC2, 0xAAC2),
    (0xAADB, 0xAADD), (0x11700, 0x1171A), (0x11740, 0x11746)]

/-- Signs that stand in words as letters do. -/
def letterSigns : CharSet :=
  .ofRanges [(0x2C2, 0x2C5), (0x2D2, 0x2D7), (0x2DE, 0x2DF), (0x2E5, 0x2EB), (0x2ED, 0x2ED), (0x2EF, 0x2FF), (0x55A, 0x55C),
    (0x55E, 0x55E), (0x58A, 0x58A), (0x5F3, 0x5F3), (0x70F, 0x70F), (0xA708, 0xA716), (0xA720, 0xA721), (0xA789, 0xA78A),
    (0xAB5B, 0xAB5B)]

def letter : CharSet :=
  (Property.alphabetic.diff (.unionAll [Property.ideographic, katakana, hebrewLetter, Script.hiragana.chars, extend,
    unspacedLetter])).union letterSigns

def midNum : CharSet :=
  .ofRanges [(0x2C, 0x2C), (0x3B, 0x3B), (0x37E, 0x37E), (0x589, 0x589), (0x60C, 0x60D), (0x66C, 0x66C), (0x7F8, 0x7F8),
    (0x2044, 0x2044), (0xFE50, 0xFE50), (0xFE54, 0xFE54), (0xFF0C, 0xFF0C), (0xFF1B, 0xFF1B)]

def newline : CharSet := .ofRanges [(0xB, 0xC), (0x85, 0x85), (0x2028, 0x2029)]

def space : CharSet :=
  .ofRanges [(0x20, 0x20), (0x1680, 0x1680), (0x2000, 0x2006), (0x2008, 0x200A), (0x205F, 0x205F), (0x3000, 0x3000)]

/-- The kinds by name, in the loose form. -/
def named : List (List String × CharSet) :=
  [(["le", "aletter"], letter), (["cr"], carriageReturn), (["dq", "doublequote"], .single '"'), (["ex", "extendnumlet"], extendNumLet),
    (["extend"], extend), (["fo", "format"], format), (["hl", "hebrewletter"], hebrewLetter), (["ka", "katakana"], katakana),
    (["lf"], lineFeed), (["mb", "midnumlet"], Property.midNumberLetter), (["ml", "midletter"], Property.midLetter),
    (["mn", "midnum"], midNum), (["nl", "newline"], newline), (["nu", "numeric"], numeric),
    (["ri", "regionalindicator"], Property.regionalIndicator), (["sq", "singlequote"], .single '\''), (["wsegspace"], space),
    (["zwj"], joiner)]

end WordBreak

namespace SentenceBreak

def extend : CharSet := .unionAll [Property.graphemeExtend, Category.spacing, joiner]

def separator : CharSet := .ofRanges [(0x85, 0x85), (0x2028, 0x2029)]

def space : CharSet := Property.whiteSpace.diff (.unionAll [separator, carriageReturn, lineFeed])

def lower : CharSet := (Property.lowercase.diff extend).diff (.ofRanges [(0x10D0, 0x10FA), (0x10FD, 0x10FF)])

def upper : CharSet := (Property.uppercase.union Category.title).diff (.ofRanges [(0x1C90, 0x1CBA), (0x1CBD, 0x1CBF)])

def otherLetter : CharSet := (Property.alphabetic.diff (.unionAll [lower, upper, extend])).union (.range 0x5F3 0x5F3)

def numeric : CharSet := WordBreak.numeric.union (.range 0x66C 0x66C)

def format : CharSet := (Category.format.diff (.unionAll [Property.joinControl, tags])).diff WordBreak.numberSigns

/-- Full stops, which do not always end a sentence. -/
def fullStop : CharSet := .ofRanges [(0x2E, 0x2E), (0x2024, 0x2024), (0xFE52, 0xFE52), (0xFF0E, 0xFF0E)]

def terminal : CharSet := Property.sentenceTerminal.diff fullStop

def closing : CharSet :=
  ((CharSet.unionAll [Category.opening, Category.closing, Category.initialQuote, Category.finalQuote, Property.quotationMark]).diff
    (.ofRanges [(0xFF02, 0xFF02), (0xFF07, 0xFF07)])).union
    (.ofRanges [(0x275B, 0x2760), (0x2E00, 0x2E01), (0x2E06, 0x2E08), (0x2E0B, 0x2E0B), (0x1F676, 0x1F678)])

/-- Marks behind which a sentence goes on. -/
def goesOn : CharSet :=
  .ofRanges [(0x2C, 0x2D), (0x3A, 0x3B), (0x37E, 0x37E), (0x55D, 0x55D), (0x60C, 0x60D), (0x7F8, 0x7F8), (0x1802, 0x1802),
    (0x1808, 0x1808), (0x2013, 0x2014), (0x3001, 0x3001), (0xFE10, 0xFE11), (0xFE13, 0xFE14), (0xFE31, 0xFE32), (0xFE50, 0xFE51),
    (0xFE54, 0xFE55), (0xFE58, 0xFE58), (0xFE63, 0xFE63), (0xFF0C, 0xFF0D), (0xFF1A, 0xFF1B), (0xFF64, 0xFF64)]

/-- The kinds by name, in the loose form. -/
def named : List (List String × CharSet) :=
  [(["at", "aterm"], fullStop), (["cl", "close"], closing), (["cr"], carriageReturn), (["ex", "extend"], extend),
    (["fo", "format"], format), (["le", "oletter"], otherLetter), (["lf"], lineFeed), (["lo", "lower"], lower), (["nu", "numeric"], numeric),
    (["sc", "scontinue"], goesOn), (["se", "sep"], separator), (["sp"], space), (["st", "sterm"], terminal), (["up", "upper"], upper)]

end SentenceBreak

end ModelCatalog.Text
